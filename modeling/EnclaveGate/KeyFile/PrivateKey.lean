import EnclaveGate.Crypto.P256
import EnclaveGate.KeyFile.Der
import EnclaveGate.KeyFile.Pem

/-!
# Private keys in files

A private key of the curve is an octet string with the scalar, perhaps with the name of a curve and
with the public key, which must then be its own. It stands in a PEM document either alone or inside
an envelope that names the algorithm and the curve.
-/

namespace EnclaveGate.KeyFile

open P256

/-- The uncompressed form of a public key. -/
def uncompressed (key : PublicKey) : Bytes := 4 :: Bytes.beBytes 32 key.x ++ Bytes.beBytes 32 key.y

/-- The compressed form of a public key: the first coordinate and the parity of the second. -/
def compressed (key : PublicKey) : Bytes :=
  (if key.y.val % 2 = 0 then 2 else 3) :: Bytes.beBytes 32 key.x

/-- The key with a scalar of 24 to 32 bytes, most significant byte first. -/
def scalarKey? (scalar : Bytes) : Option SecretKey :=
  if 24 ≤ scalar.length ∧ scalar.length ≤ 32 then SecretKey.ofNat? (Bytes.natBE scalar) else none

/-- Whether a byte string is one of the two forms of a key's own public key. -/
def isOwnPublicKey (key : SecretKey) (bs : Bytes) : Bool :=
  match key.publicKey? with
  | some pub => bs == uncompressed pub || bs == compressed pub
  | none => false

/-- The optional name of a curve: an object identifier, which is compared with nothing. -/
def curveNameOk : Option Der.Element → Bool
  | none => true
  | some element =>
    Der.isConstructed element.tag &&
      (match Der.only Der.tagObjectId element.content with
        | some name => Der.isObjectId name
        | none => false)

/-- The optional public key, which must be the key's own. -/
def publicKeyOk (key : SecretKey) : Option Der.Element → Bool
  | none => true
  | some element =>
    Der.isConstructed element.tag &&
      (match (Der.only Der.tagBitString element.content).bind Der.bitStringBytes? with
        | some bs => isOwnPublicKey key bs
        | none => false)

/-- The key of a bare private key: version 1, the scalar, the name of a curve, the public key. -/
def bareKey? (der : Bytes) : Option SecretKey := do
  let fields ← Der.only Der.tagSequence der
  let (version, fields) ← Der.expect Der.tagInteger fields
  if version ≠ [1] then none
  else
    let (scalar, fields) ← Der.expect Der.tagOctetString fields
    let (curveName, fields) ← Der.contextElement 0 fields.length fields
    let (publicKey, fields) ← Der.contextElement 1 fields.length fields
    let key ← scalarKey? scalar
    if fields.isEmpty && curveNameOk curveName && publicKeyOk key publicKey then some key else none

/-- The object identifier of keys on elliptic curves. -/
def curveKeys : Bytes := [0x2a, 0x86, 0x48, 0xce, 0x3d, 0x02, 0x01]

/-- The object identifier of the curve. -/
def curveName : Bytes := [0x2a, 0x86, 0x48, 0xce, 0x3d, 0x03, 0x01, 0x07]

/-- Whether an algorithm is that of keys on the curve. -/
def isCurveAlgorithm (algorithm : Bytes) : Bool :=
  match Der.expect Der.tagObjectId algorithm with
  | some (name, parameters) =>
    name == curveKeys && Der.only Der.tagObjectId parameters == some curveName
  | none => false

/-- Whether the public key of an envelope has the right form: a bit string that ends at a byte, with
its tag replaced by that of the field. -/
def envelopePublicKeyOk : Option Der.Element → Bool
  | none => true
  | some element => !Der.isConstructed element.tag && (Der.bitStringBytes? element.content).isSome

/-- The key in an envelope: version 0 without or version 1 with a public key, the algorithm, the
bare key, and further fields that are skipped. -/
def envelopedKey? (der : Bytes) : Option SecretKey := do
  let fields ← Der.only Der.tagSequence der
  let (version, fields) ← Der.expect Der.tagInteger fields
  let (algorithm, fields) ← Der.expect Der.tagSequence fields
  let (bare, fields) ← Der.expect Der.tagOctetString fields
  let (publicKey, fields) ← Der.contextElement 1 fields.length fields
  if version == (if publicKey.isSome then [1] else [0]) && isCurveAlgorithm algorithm &&
      envelopePublicKeyOk publicKey && Der.areContextElements fields.length fields then
    bareKey? bare
  else none

/-- The key in the text of a key file: in an envelope, else bare. -/
def parse? (text : Bytes) : Option SecretKey :=
  ((Pem.decode? "PRIVATE KEY" text).bind envelopedKey?).or
    ((Pem.decode? "EC PRIVATE KEY" text).bind bareKey?)

end EnclaveGate.KeyFile
