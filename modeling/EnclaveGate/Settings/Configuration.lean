import EnclaveGate.Error
import EnclaveGate.FileTree
import EnclaveGate.Json.Record
import EnclaveGate.Settings.Basic

/-!
# The configuration file

The operator writes a JSON record with nineteen fields, of which four must be there. The record says
where the key and the measurements are found; nothing else is read at this point, and numbers are
kept as they were written.
-/

namespace EnclaveGate

/-- The configuration as the operator wrote it. -/
structure Configuration where
  /-- Whether the production service of the authority is used. -/
  release : Bool
  /-- The key of the subscription to the authority. -/
  subscription : String
  /-- The directory of enclave measurements. -/
  mrEnclaves : String
  /-- The directory of signer measurements. -/
  mrSigners : Option String
  /-- The id of the service provider, as hexadecimal text. -/
  spid : String
  /-- The file with the long-term key. -/
  longTermKey : String
  /-- Whether that file is encrypted. -/
  longTermKeyEncrypted : Bool
  /-- The password of that file. -/
  longTermKeyPassword : String
  /-- The advisories that are allowed under each status. -/
  allowedAdvisories : List (String × List String)
  /-- The product number that is wanted. -/
  prodId : Int
  /-- The least security version. -/
  prodSvn : Int
  /-- The greatest number of sessions, or -1. -/
  maxSessions : Int
  /-- For how many minutes a session may be idle, or -1. -/
  timeout : Int
  /-- How the two lists of measurements combine. -/
  identityPolicy : IdentityPolicy
  /-- What a trusted enclave receives, as hexadecimal text. -/
  secret : String
  /-- The number of the quote type. -/
  quoteType : UInt16
  /-- Whether revocation lists are fetched. -/
  fetchSigRl : Bool
  /-- How many seconds the attestation authority may take. -/
  authorityTimeoutSecs : UInt64
  /-- Whether enclaves launched for debugging are accepted. -/
  allowDebug : Bool
deriving DecidableEq

namespace Configuration

/-- How many seconds the authority may take where the configuration does not say it. -/
def defaultSeconds : Nat := Settings.defaultAuthoritySeconds

/-- An integer of 64 bits with a sign. -/
def signedShape : Json.Shape := .integer (-9223372036854775808) 9223372036854775807 "i64"

/-- An integer of `n` bytes without a sign. -/
def unsignedShape (n : Nat) (title : String) : Json.Shape := .integer 0 (Bytes.bound n - 1) title

/-- The name of an identity policy. -/
def identityShape : Json.Shape := .oneOf (IdentityPolicy.named.map (·.2))

/-- The fields of a configuration. -/
def fields : List Json.Field :=
  [⟨"release", .flag, .optional⟩,
    ⟨"subscription", .text, .optional⟩,
    ⟨"mrenclaves", .text, .required⟩,
    ⟨"mrsigners", .nullable .text, .optional⟩,
    ⟨"spid", .text, .required⟩,
    ⟨"longTermKey", .text, .required⟩,
    ⟨"longTermKeyEncrypted", .flag, .optional⟩,
    ⟨"longTermKeyPassword", .text, .optional⟩,
    ⟨"allowedAdvisories", .textLists, .optional⟩,
    ⟨"prodId", signedShape, .optional⟩,
    ⟨"prodSvn", signedShape, .optional⟩,
    ⟨"maxSessions", signedShape, .optional⟩,
    ⟨"timeout", signedShape, .optional⟩,
    ⟨"identityPolicy", identityShape, .optional⟩,
    ⟨"secret", .text, .optional⟩,
    ⟨"quoteType", unsignedShape 2 "u16", .optional⟩,
    ⟨"fetchSigRl", .flag, .optional⟩,
    ⟨"authorityTimeoutSecs", unsignedShape 8 "u64", .optional⟩,
    ⟨"allowDebug", .flag, .optional⟩]

/-- The configuration with the fields that were read and defaults for the others. -/
def ofRecord (record : Json.Record) : Configuration where
  release := (record.flag? "release").getD false
  subscription := (record.text? "subscription").getD ""
  mrEnclaves := (record.text? "mrenclaves").getD ""
  mrSigners := record.text? "mrsigners"
  spid := (record.text? "spid").getD ""
  longTermKey := (record.text? "longTermKey").getD ""
  longTermKeyEncrypted := (record.flag? "longTermKeyEncrypted").getD false
  longTermKeyPassword := (record.text? "longTermKeyPassword").getD ""
  allowedAdvisories := (record.textLists? "allowedAdvisories").getD []
  prodId := (record.integer? "prodId").getD 0
  prodSvn := (record.integer? "prodSvn").getD 0
  maxSessions := (record.integer? "maxSessions").getD (-1)
  timeout := (record.integer? "timeout").getD (-1)
  identityPolicy :=
    ((record.text? "identityPolicy").bind IdentityPolicy.ofName?).getD .enclaveOrSigner
  secret := (record.text? "secret").getD ""
  quoteType := UInt16.ofNat ((record.integer? "quoteType").getD 0).toNat
  fetchSigRl := (record.flag? "fetchSigRl").getD false
  authorityTimeoutSecs :=
    UInt64.ofNat ((record.integer? "authorityTimeoutSecs").getD defaultSeconds).toNat
  allowDebug := (record.flag? "allowDebug").getD false

/-- The configuration in a text. -/
def ofText (text : String) : Except ConfigError Configuration :=
  match Json.readRecord "struct Configuration" fields (Text.utf8 text.toList) with
  | .ok record => .ok (ofRecord record)
  | .error fault => .error (.json fault)

/-- The configuration in the file at a path. -/
def ofFile (files : FileTree) (path : String) : Except ConfigError Configuration :=
  match files.readText path with
  | .ok text => ofText text
  | .error cause => .error (.read path cause)

end Configuration

end EnclaveGate
