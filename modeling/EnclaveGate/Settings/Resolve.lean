import EnclaveGate.KeyFile.PrivateKey
import EnclaveGate.Settings.Basic
import EnclaveGate.Settings.Configuration
import EnclaveGate.Settings.Measurements

/-!
# Settings of a configuration

A configuration becomes settings by reading the files that it names and by checking its numbers. The
checks have a fixed order, and the first one that fails is the error: encryption of the key file, id
of the provider, key, secret, enclaves, signers, quote type, product number, security version, cap,
idle time.
-/

namespace EnclaveGate

/-- The long-term key in the file at a path. -/
def longTermKeyOfFile (files : FileTree) (path : String) : Except ConfigError P256.SecretKey :=
  match files.readText path with
  | .error cause => .error (.read path cause)
  | .ok text =>
    match KeyFile.parse? (Text.utf8 text.toList) with
    | some key => .ok key
    | none => .error .invalidKey

namespace Configuration

/-- Refuses an encrypted key file. -/
def requirePlainKey (encrypted : Bool) : Except ConfigError Unit :=
  if encrypted then
    .error (.invalid "longTermKeyEncrypted" "encrypted long-term keys are not supported")
  else .ok ()

/-- The bytes in a hexadecimal text of any length. -/
def bytesOfText (field text : String) : Except ConfigError Bytes :=
  (Hex.decode (Text.utf8 (Text.trim text.toList))).mapError (.hex field)

/-- The measurements of the signers; without a directory there are none. -/
def signers (files : FileTree) : Option String → Except ConfigError (List Measurement)
  | none => .ok []
  | some path => Measurement.ofDirectory files path

/-- The quote type with a number. -/
def quoteTypeOf (number : UInt16) : Except ConfigError QuoteType :=
  match QuoteType.ofUInt16? number with
  | some quoteType => .ok quoteType
  | none => .error (.invalid "quoteType" s!"{number.toNat} is neither 0 nor 1")

/-- A number that must fit in 16 bits. -/
def shortNumber (field : String) (v : Int) : Except ConfigError UInt16 :=
  if 0 ≤ v ∧ v < Bytes.bound 2 then .ok (UInt16.ofNat v.toNat)
  else .error (.invalid field s!"{v} does not fit in 16 bits")

/-- A limit: -1 stands for none, and every other limit must be positive. -/
def optionalLimit (field : String) (v : Int) : Except ConfigError (Option Nat) :=
  if v = -1 then .ok none
  else if 0 < v then .ok (some v.toNat)
  else .error (.invalid field s!"{v} is neither -1 nor positive")

/-- The idle time in milliseconds for a limit in minutes, whose seconds must fit in 64 bits. -/
def idleTime : Option Nat → Except ConfigError (Option Nat)
  | none => .ok none
  | some minutes =>
    if minutes * 60 < Bytes.bound 8 then .ok (some (minutes * 60 * 1000))
    else .error (.invalid "timeout" s!"{minutes} minutes is too large")

/-- The settings of a configuration. -/
def settings (c : Configuration) (files : FileTree) : Except ConfigError Settings := do
  requirePlainKey c.longTermKeyEncrypted
  let spid ← blockOfText 16 "spid" c.spid
  let longTermKey ← longTermKeyOfFile files c.longTermKey
  let secret ← bytesOfText "secret" c.secret
  let mrEnclaves ← Measurement.ofDirectory files c.mrEnclaves
  let mrSigners ← signers files c.mrSigners
  let quoteType ← quoteTypeOf c.quoteType
  let prodId ← shortNumber "prodId" c.prodId
  let minIsvSvn ← shortNumber "prodSvn" c.prodSvn
  let maxSessions ← optionalLimit "maxSessions" c.maxSessions
  let sessionTimeout ← optionalLimit "timeout" c.timeout >>= idleTime
  return {
    spid, longTermKey, quoteType, secret, maxSessions, sessionTimeout
    policy := {
      mrEnclaves, mrSigners, prodId, minIsvSvn
      identityPolicy := c.identityPolicy
      allowedAdvisories :=
        c.allowedAdvisories.map fun (status, ids) => (status, ids.foldr List.insert [])
      allowDebug := c.allowDebug }
    authorityTimeout := 1000 * c.authorityTimeoutSecs.toNat
    fetchSigRl := c.fetchSigRl }

end Configuration

end EnclaveGate
