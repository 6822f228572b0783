import EnclaveGate.Proofs.Message.Authenticated
import EnclaveGate.Proofs.Quote.Layout

/-!
# The revocation list in message 2

Message 2 ends in a list of any length, and the four bytes before it announce how long it is. They
have no room for 2 ^ 32 and more, and only the rest modulo that number is announced. So an enclave
that takes as many bytes as it is told reads shorter lists whole, and of longer ones a front piece,
with the bytes that are cut off left behind the message.
-/

namespace EnclaveGate

/-- The number of a quote type is that of no other. -/
theorem QuoteType.ofUInt16?_toUInt16 (quoteType : QuoteType) :
    ofUInt16? quoteType.toUInt16 = some quoteType := by
  cases quoteType <;> rfl

theorem Bytes.slice?_of_piece {bs : Bytes} {offset n : Nat} {b : Block n}
    (h : offset + n ≤ bs.length) (hb : (bs.drop offset).take n = b.toList) :
    bs.slice? offset n = some b := by
  rw [slice?_eq h, slice_eq hb]

namespace Msg2

/-- The number of bytes that are announced for the list. -/
def announced (bs : Bytes) : Nat := Bytes.natLE ((bs.drop 164).take 4)

/-- Message 2 at the front of a string and what is left behind it, as an enclave reads it: the fixed
fields at their offsets, and then the bytes that are announced. -/
def readFront? (bs : Bytes) : Option (Msg2 × Bytes) := do
  let x ← bs.slice? 0 32
  let y ← bs.slice? 32 32
  let spid ← bs.slice? 64 16
  let quoteType ← bs.slice? 80 2
  let quoteType ← QuoteType.ofUInt16? (UInt16.ofNat quoteType.natLE)
  let kdfId ← bs.slice? 82 2
  let r ← bs.slice? 84 32
  let s ← bs.slice? 116 32
  let cmac ← bs.slice? 148 16
  let list := bs.drop 168
  if announced bs ≤ list.length then
    some
      ({ gb := ⟨x, y⟩, spid, quoteType, kdfId := UInt16.ofNat kdfId.natLE, signature := ⟨r, s⟩, cmac
         sigRl := list.take (announced bs) }, list.drop (announced bs))
  else none

variable (m : Msg2)

theorem length_toBytes : m.toBytes.length = 168 + m.sigRl.length := by
  simp only [toBytes, payload, List.length_append, Vector.length_toList, Bytes.length_leBytes,
    WireKey.length_toBytes, WireSignature.length_toBytes]

/-- The fields of message 2 are read at their offsets. -/
theorem fields_toBytes :
    (m.toBytes.drop 0).take 32 = m.gb.x.toList ∧
    (m.toBytes.drop 32).take 32 = m.gb.y.toList ∧
    (m.toBytes.drop 64).take 16 = m.spid.toList ∧
    (m.toBytes.drop 80).take 2 = Bytes.leBytes 2 m.quoteType.toUInt16.toNat ∧
    (m.toBytes.drop 82).take 2 = Bytes.leBytes 2 m.kdfId.toNat ∧
    (m.toBytes.drop 84).take 32 = m.signature.r.toList ∧
    (m.toBytes.drop 116).take 32 = m.signature.s.toList ∧
    (m.toBytes.drop 148).take 16 = m.cmac.toList ∧
    (m.toBytes.drop 164).take 4 = Bytes.leBytes 4 m.sigRl.length := by
  refine ⟨?_, ?_, ?_, ?_, ?_, ?_, ?_, ?_, ?_⟩
  all_goals
    simp (disch := simp) only [toBytes, payload, WireKey.toBytes, WireSignature.toBytes,
      List.append_assoc, Bytes.piece_behind, Bytes.piece_before, Bytes.piece_all,
      Vector.length_toList, Bytes.length_leBytes, Nat.reduceSub]

theorem drop_toBytes : m.toBytes.drop 168 = m.sigRl := by
  have hfront : (m.payload ++ m.cmac.toList ++ Bytes.leBytes 4 m.sigRl.length).length = 168 := by
    rw [List.length_append, List.length_append, length_payload, Vector.length_toList,
      Bytes.length_leBytes]
    rfl
  exact List.drop_left' hfront

/-- What is announced is the length modulo 2 ^ 32. -/
theorem announced_toBytes : announced m.toBytes = m.sigRl.length % 4294967296 := by
  obtain ⟨-, -, -, -, -, -, -, -, hsize⟩ := fields_toBytes m
  rw [announced, hsize, Bytes.natLE_leBytes]
  rfl

/-- All fields but the list are read back, and of the list as much as is announced. -/
theorem readFront?_toBytes : readFront? m.toBytes =
    some ({ m with sigRl := m.sigRl.take (announced m.toBytes) },
      m.sigRl.drop (announced m.toBytes)) := by
  obtain ⟨hx, hy, hspid, htype, hkdf, hr, hs, hcmac, -⟩ := fields_toBytes m
  have hroom : 168 ≤ m.toBytes.length := by
    rw [length_toBytes]
    exact Nat.le_add_right ..
  have htype' : Bytes.slice? m.toBytes 80 2 = some (Block.ofNatLE 2 m.quoteType.toUInt16.toNat) :=
    Bytes.slice?_of_piece (by omega) (by rw [htype, Block.ofNatLE, Block.toList_ofList])
  have hkdf' : Bytes.slice? m.toBytes 82 2 = some (Block.ofNatLE 2 m.kdfId.toNat) :=
    Bytes.slice?_of_piece (by omega) (by rw [hkdf, Block.ofNatLE, Block.toList_ofList])
  have hback : ∀ v : UInt16, UInt16.ofNat (Block.ofNatLE 2 v.toNat).natLE = v := by
    intro v
    have hfits : v.toNat < Bytes.bound 2 := v.toNat_lt
    rw [Block.natLE_ofNatLE, Nat.mod_eq_of_lt hfits, UInt16.ofNat_toNat]
  have hle : announced m.toBytes ≤ m.sigRl.length := by
    rw [announced_toBytes]
    exact Nat.mod_le ..
  rw [readFront?, Bytes.slice?_of_piece (by omega) hx, Bytes.slice?_of_piece (by omega) hy,
    Bytes.slice?_of_piece (by omega) hspid, htype', hkdf', Bytes.slice?_of_piece (by omega) hr,
    Bytes.slice?_of_piece (by omega) hs, Bytes.slice?_of_piece (by omega) hcmac, drop_toBytes]
  simp only [Option.bind_eq_bind, Option.bind_some, hback, QuoteType.ofUInt16?_toUInt16]
  rw [if_pos hle]

/-! ## Lists of every length -/

/-- What an enclave learns from the bytes of message 2. -/
structure Framed : Prop where
  /-- The bytes are the payload, the code, the number that is announced, and the list. -/
  layout : m.payload.length = 148 ∧
    m.toBytes = m.payload ++ m.cmac.toList ++ Bytes.leBytes 4 (announced m.toBytes) ++ m.sigRl
  /-- The number that is announced is the length of the list modulo 2 ^ 32. -/
  announced : announced m.toBytes = m.sigRl.length % 4294967296
  /-- Every field is read back, but of the list only as much as is announced, and the rest of it is
  left over. -/
  read : readFront? m.toBytes =
    some ({ m with sigRl := m.sigRl.take (m.sigRl.length % 4294967296) },
      m.sigRl.drop (m.sigRl.length % 4294967296))
  /-- The message is read whole, with nothing left over, if the list is shorter than 2 ^ 32. -/
  whole : readFront? m.toBytes = some (m, []) ↔ m.sigRl.length < 4294967296

/-- The list of message 2 is announced modulo 2 ^ 32, and read back in that much. -/
theorem list_announced_modulo (m : Msg2) : m.Framed := by
  have hread := readFront?_toBytes m
  rw [announced_toBytes] at hread
  constructor
  case layout =>
    obtain ⟨-, -, -, -, -, -, -, -, hsize⟩ := fields_toBytes m
    have hnumber : Bytes.leBytes 4 (Msg2.announced m.toBytes) = Bytes.leBytes 4 m.sigRl.length := by
      have hback := Bytes.leBytes_natLE (Bytes.leBytes 4 m.sigRl.length)
      rw [Bytes.length_leBytes] at hback
      rw [Msg2.announced, hsize, hback]
    refine ⟨length_payload m, ?_⟩
    rw [hnumber]
    rfl
  case announced => exact announced_toBytes m
  case read => exact hread
  case whole =>
    rw [hread]
    constructor
    · intro h
      obtain ⟨-, hrest⟩ := Prod.mk.inj (Option.some.inj h)
      have hle := List.drop_eq_nil_iff.mp hrest
      have hlt : m.sigRl.length % 4294967296 < 4294967296 := Nat.mod_lt _ (by decide)
      omega
    · intro h
      rw [Nat.mod_eq_of_lt h, List.take_length, List.drop_length]

/-- A message 2 with a list of zeros. -/
def zeroListed (n : Nat) : Msg2 where
  gb := ⟨Block.zero 32, Block.zero 32⟩
  spid := Block.zero 16
  quoteType := .unlinkable
  kdfId := 1
  signature := ⟨Block.zero 32, Block.zero 32⟩
  cmac := Block.zero 16
  sigRl := List.replicate n 0

/-- A list of 2 ^ 32 bytes is announced as empty, and all of it is left over. -/
theorem long_list_announced_empty :
    (zeroListed 4294967296).sigRl.length = 4294967296 ∧
    announced (zeroListed 4294967296).toBytes = 0 ∧
    readFront? (zeroListed 4294967296).toBytes =
      some (zeroListed 0, (zeroListed 4294967296).sigRl) := by
  have hlength : (zeroListed 4294967296).sigRl.length = 4294967296 := List.length_replicate
  have hzero : announced (zeroListed 4294967296).toBytes = 0 := by
    rw [announced_toBytes, hlength, Nat.mod_self]
  refine ⟨hlength, hzero, ?_⟩
  rw [readFront?_toBytes, hzero, List.drop_zero, List.take_zero]
  rfl

end Msg2

end EnclaveGate
