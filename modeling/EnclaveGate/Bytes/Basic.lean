/-!
# Byte strings

A byte string is a list of bytes, and a block of size `n` is a vector of `n` bytes. Numbers are
written in a fixed count of bytes, least significant byte first (`leBytes`) or last (`beBytes`), and
read back by `natLE` and `natBE`. The small lemmas beside each definition give its length and say
that reading undoes writing for every number that fits.
-/

namespace EnclaveGate

/-- A byte string of any length. -/
abbrev Bytes := List UInt8

/-- A byte string of exactly `n` bytes. -/
abbrev Block (n : Nat) := Vector UInt8 n

namespace Block

variable {n : Nat}

/-- The block with the bytes of a list of the right length. -/
def ofList (bs : Bytes) (h : bs.length = n) : Block n := ⟨bs.toArray, by simpa using h⟩

@[simp] theorem toList_ofList (bs : Bytes) (h : bs.length = n) : (ofList bs h).toList = bs := by
  simp [ofList, Vector.toList]

@[simp] theorem ofList_toList (b : Block n) (h : b.toList.length = n) : ofList b.toList h = b := by
  simp [ofList, Vector.toList]

/-- Two blocks with the same bytes are equal. -/
theorem eq_of_toList_eq {a b : Block n} (h : a.toList = b.toList) : a = b := by
  rw [← ofList_toList a (by simp), ← ofList_toList b (by simp)]
  congr

/-- The block with the bytes of a list, if their number is right. -/
def ofList? (n : Nat) (bs : Bytes) : Option (Block n) :=
  if h : bs.length = n then some (ofList bs h) else none

/-- `n` zero bytes. -/
def zero (n : Nat) : Block n := Vector.replicate n 0

/-- Bytewise exclusive or. -/
def xor (a b : Block n) : Block n := Vector.zipWith (· ^^^ ·) a b

end Block

namespace Bytes

/-- The `n` bytes that start at `offset`. -/
def slice (bs : Bytes) (offset n : Nat) (h : offset + n ≤ bs.length) : Block n :=
  Block.ofList ((bs.drop offset).take n) (by simp; omega)

@[simp] theorem toList_slice (bs : Bytes) (offset n : Nat) (h : offset + n ≤ bs.length) :
    (slice bs offset n h).toList = (bs.drop offset).take n := by
  simp [slice]

/-- Bytewise exclusive or of two strings, as long as the shorter one. -/
def xor (a b : Bytes) : Bytes := List.zipWith (· ^^^ ·) a b

/-! ## Cutting into pieces -/

/-- Cuts at most `fuel` pieces of `n` bytes; the last one may be shorter. -/
def chunksUpTo (n : Nat) : Nat → Bytes → List Bytes
  | 0, _ => []
  | fuel + 1, bs => if bs.isEmpty then [] else bs.take n :: chunksUpTo n fuel (bs.drop n)

/-- The string cut into pieces of `n` bytes, of which the last one may be shorter. -/
def chunks (n : Nat) (bs : Bytes) : List Bytes := chunksUpTo n bs.length bs

/-! ## Numbers -/

/-- How many numbers can be written in `n` bytes. -/
def bound : Nat → Nat
  | 0 => 1
  | n + 1 => 256 * bound n

/-- The number with the given bytes, least significant byte first. -/
def natLE : Bytes → Nat
  | [] => 0
  | b :: bs => b.toNat + 256 * natLE bs

/-- The number with the given bytes, most significant byte first. -/
def natBE (bs : Bytes) : Nat := natLE bs.reverse

/-- The lowest `n` bytes of a number, least significant byte first. -/
def leBytes : Nat → Nat → Bytes
  | 0, _ => []
  | n + 1, v => UInt8.ofNat v :: leBytes n (v / 256)

/-- The lowest `n` bytes of a number, most significant byte first. -/
def beBytes (n v : Nat) : Bytes := (leBytes n v).reverse

@[simp] theorem length_leBytes (n v : Nat) : (leBytes n v).length = n := by
  induction n generalizing v with
  | zero => rfl
  | succ n ih => simp [leBytes, ih]

@[simp] theorem length_beBytes (n v : Nat) : (beBytes n v).length = n := by simp [beBytes]

/-- Reading the lowest `n` bytes gives the number modulo the count of such numbers. -/
theorem natLE_leBytes (n v : Nat) : natLE (leBytes n v) = v % bound n := by
  induction n generalizing v with
  | zero => simp [leBytes, natLE, bound, Nat.mod_one]
  | succ n ih =>
    have byte : (UInt8.ofNat v).toNat = v % 256 := by simp
    rw [leBytes, natLE, ih, byte, bound, Nat.mod_mul]

/-- Numbers that fit are told apart by their lowest `n` bytes. -/
theorem leBytes_inj {n v w : Nat} (hv : v < bound n) (hw : w < bound n)
    (h : leBytes n v = leBytes n w) : v = w := by
  have hnumber := congrArg natLE h
  rwa [natLE_leBytes, natLE_leBytes, Nat.mod_eq_of_lt hv, Nat.mod_eq_of_lt hw] at hnumber

theorem natBE_beBytes (n v : Nat) : natBE (beBytes n v) = v % bound n := by
  simp [natBE, beBytes, natLE_leBytes]

theorem natLE_lt (bs : Bytes) : natLE bs < bound bs.length := by
  induction bs with
  | nil => simp [natLE, bound]
  | cons b bs ih =>
    have hb := b.toNat_lt
    simp only [natLE, List.length_cons, bound]
    omega

/-- Writing the number of a string in as many bytes gives the string back. -/
theorem leBytes_natLE (bs : Bytes) : leBytes bs.length (natLE bs) = bs := by
  induction bs with
  | nil => rfl
  | cons b bs ih =>
    have hb : b.toNat < 256 := b.toNat_lt
    have hdiv : (b.toNat + 256 * natLE bs) / 256 = natLE bs := by omega
    simp only [natLE, List.length_cons, leBytes, hdiv, ih]
    congr 1
    apply UInt8.toNat.inj
    simp

end Bytes

namespace Block

variable {n : Nat}

/-- The lowest `n` bytes of a number, least significant byte first. -/
def ofNatLE (n v : Nat) : Block n := ofList (Bytes.leBytes n v) (by simp)

/-- The lowest `n` bytes of a number, most significant byte first. -/
def ofNatBE (n v : Nat) : Block n := ofList (Bytes.beBytes n v) (by simp)

/-- The number with the bytes of the block, least significant byte first. -/
def natLE (b : Block n) : Nat := Bytes.natLE b.toList

/-- The number with the bytes of the block, most significant byte first. -/
def natBE (b : Block n) : Nat := Bytes.natBE b.toList

@[simp] theorem natLE_ofNatLE (n v : Nat) : (ofNatLE n v).natLE = v % Bytes.bound n := by
  simp [natLE, ofNatLE, Bytes.natLE_leBytes]

@[simp] theorem natBE_ofNatBE (n v : Nat) : (ofNatBE n v).natBE = v % Bytes.bound n := by
  simp [natBE, ofNatBE, Bytes.natBE_beBytes]

end Block

end EnclaveGate
