import EnclaveGate.Message.Basic

/-!
# Messages as bytes

Every message is the concatenation of its fields; numbers have their least significant byte first.
Messages 1 and 3 are read back by cutting the same fields out of a string of the right size.
-/

namespace EnclaveGate

/-- The size of message 1. -/
def Msg1.size : Nat := 68

namespace Msg1

/-- The bytes of message 1: key, then group. -/
def toBytes (m : Msg1) : Bytes := m.ga.toBytes ++ m.groupId.toList

/-- Message 1 with the given bytes. -/
def parse (sessionId : SessionId) (bs : Bytes) : Except Error Msg1 :=
  if h : bs.length = size then
    .ok
      { sessionId
        ga := WireKey.ofBytes (bs.take 64) (by simp [h, size])
        groupId := bs.slice 64 4 (by simp [h, size]) }
  else .error (.invalidFormat (.msg1Size bs.length))

end Msg1

namespace Msg2

/-- The size of the authenticated part of message 2. -/
def payloadSize : Nat := 148

/-- The part of message 2 that its authentication code covers. -/
def payload (m : Msg2) : Bytes :=
  m.gb.toBytes ++ m.spid.toList ++ Bytes.leBytes 2 m.quoteType.toUInt16.toNat ++
    Bytes.leBytes 2 m.kdfId.toNat ++ m.signature.toBytes

/-- The bytes of message 2: payload, code, the size of the list in four bytes, and the list. -/
def toBytes (m : Msg2) : Bytes :=
  m.payload ++ m.cmac.toList ++ Bytes.leBytes 4 m.sigRl.length ++ m.sigRl

end Msg2

namespace Msg3

/-- Where the quote starts in message 3. -/
def quoteOffset : Nat := 336

/-- The least size of message 3, with the smallest quote. -/
def minSize : Nat := 772

/-- The part of message 3 that its authentication code covers. -/
def macRegion (m : Msg3) : Bytes := m.ga.toBytes ++ m.psSecurityProperties.toList ++ m.quote

/-- The bytes of message 3: code, then what it covers. -/
def toBytes (m : Msg3) : Bytes := m.cmac.toList ++ m.macRegion

/-- Message 3 with the given bytes. -/
def parse (sessionId : SessionId) (bs : Bytes) : Except Error Msg3 :=
  if h : minSize ≤ bs.length then
    .ok
      { sessionId
        cmac := bs.slice 0 16 (by simp only [minSize] at h; omega)
        ga := WireKey.ofBytes ((bs.drop 16).take 64) (by simp only [minSize] at h; simp; omega)
        psSecurityProperties := bs.slice 80 256 (by simp only [minSize] at h; omega)
        quote := bs.drop quoteOffset }
  else .error (.invalidFormat (.msg3Size bs.length))

end Msg3

/-- A truth value as a byte. -/
def boolByte (b : Bool) : UInt8 := if b then 1 else 0

/-- What the authentication code of message 4 covers: both keys, the code of message 3, the two
flags and the encrypted secret. -/
def Msg4.transcript (ga gb : WireKey) (msg3Cmac : Block 16) (enclaveTrusted pseTrusted : Bool)
    (secret : EncryptedSecret) : Bytes :=
  ga.toBytes ++ gb.toBytes ++ msg3Cmac.toList ++ [boolByte enclaveTrusted, boolByte pseTrusted] ++
    secret.iv.toList ++ secret.ciphertext ++ secret.tag.toList

end EnclaveGate
