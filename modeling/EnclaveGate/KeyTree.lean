import EnclaveGate.Crypto.Cmac

/-!
# The key tree

The root of the tree is an authentication code of the shared coordinate under a zero key. Below it
hang the keys of the handshake, each an authentication code of its label between fixed bytes: a
count of one, a zero byte as separator, and the length of 128 bits in two bytes.
-/

namespace EnclaveGate

/-- A symmetric key of the tree. -/
structure DerivedKey where
  /-- The 16 bytes of the key. -/
  bytes : Block 16
deriving DecidableEq

namespace DerivedKey

/-- The authentication code of a message. -/
def mac (key : DerivedKey) (message : Bytes) : Block 16 := Cmac.mac key.bytes message

/-- Whether `tag` is the authentication code of a message. -/
def verify (key : DerivedKey) (message tag : Bytes) : Bool := Cmac.verify key.bytes message tag

end DerivedKey

/-- The keys below the root. -/
inductive KeyLabel
  /-- Authenticates messages 2 and 3. -/
  | smk
  /-- Encrypts the secret. -/
  | sk
  /-- Authenticates message 4. -/
  | mk
  /-- Is bound into the report data of the quote. -/
  | vk
deriving DecidableEq, Repr

namespace KeyLabel

/-- The label as text. -/
def name : KeyLabel → String
  | smk => "SMK"
  | sk => "SK"
  | mk => "MK"
  | vk => "VK"

/-- The label as bytes. -/
def bytes : KeyLabel → Bytes
  | smk => [0x53, 0x4d, 0x4b]
  | sk => [0x53, 0x4b]
  | mk => [0x4d, 0x4b]
  | vk => [0x56, 0x4b]

/-- Every label. -/
def all : List KeyLabel := [smk, sk, mk, vk]

end KeyLabel

namespace KeyTree

/-- The string from which the key with a label is derived. -/
def derivationString (label : Bytes) : Bytes := 0x01 :: label ++ [0x00, 0x80, 0x00]

/-- The root of the tree for a shared coordinate in wire form. -/
def root (shared : Block 32) : DerivedKey := ⟨Cmac.mac (Block.zero 16) shared.toList⟩

/-- The key with any label below a key. -/
def deriveLabel (base : DerivedKey) (label : Bytes) : DerivedKey :=
  ⟨base.mac (derivationString label)⟩

/-- The key with one of the four labels below the root. -/
def derive (root : DerivedKey) (label : KeyLabel) : DerivedKey := deriveLabel root label.bytes

end KeyTree

end EnclaveGate
