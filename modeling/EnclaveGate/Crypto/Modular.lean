/-!
# Powers modulo a number

Powers of residues by repeated squaring, so that inverses and square roots modulo a large prime are
powers with a fixed exponent.
-/

namespace EnclaveGate.Modular

variable {m : Nat}

/-- The residue of one, for a modulus that has residues. -/
def one (a : Fin m) : Fin m := ⟨1 % m, Nat.mod_lt 1 a.pos⟩

/-- The power whose exponent is made of the lowest `bits` bits of `e`. -/
def powerBits (a : Fin m) : Nat → Nat → Fin m
  | 0, _ => one a
  | bits + 1, e =>
    let half := powerBits a bits (e / 2)
    if e % 2 = 1 then half * half * a else half * half

/-- The power `a ^ e`. -/
def power (a : Fin m) (e : Nat) : Fin m := powerBits a (e.log2 + 1) e

/-- The inverse modulo a prime, with zero for zero. -/
def inverse (a : Fin m) : Fin m := power a (m - 2)

end EnclaveGate.Modular
