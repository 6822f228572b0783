import EnclaveGate.Crypto.P256
import EnclaveGate.Proofs.Crypto.Residue
import Mathlib.NumberTheory.LucasPrimality

/-!
# The field and the group have prime order

A number is prime if some residue modulo it has the order of its predecessor. A chain of such
residues, in which each predecessor is factored into numbers that come earlier, leads from two to
the number of elements of the field of the curve and to the order of its generator.
-/

namespace EnclaveGate

namespace Modular

/-- A number with a residue of large order, and the factors of its predecessor. -/
structure Certificate where
  /-- The number. -/
  modulus : Nat
  /-- The residue. -/
  base : Nat
  /-- The factors of the predecessor. -/
  factors : List Nat

/-- Whether the residue has the order of the predecessor, whose factors are known. -/
def Certificate.passes (known : List Nat) (c : Certificate) : Bool :=
  if h : 1 < c.modulus then
    let a : Fin c.modulus := ⟨c.base % c.modulus, Nat.mod_lt _ (Nat.zero_lt_of_lt h)⟩
    c.factors.all (fun q => known.contains q && power a ((c.modulus - 1) / q) != one a) &&
      (c.factors.prod == c.modulus - 1 && power a (c.modulus - 1) == one a)
  else false

/-- Whether every number in a chain passes behind those that come earlier. -/
def chainPasses : List Nat → List Certificate → Bool
  | _, [] => true
  | known, c :: rest => c.passes known && chainPasses (c.modulus :: known) rest

/-- A number that passes behind primes is prime. -/
theorem Certificate.prime_of_passes {known : List Nat} {c : Certificate}
    (hknown : ∀ q ∈ known, q.Prime) (h : c.passes known = true) : c.modulus.Prime := by
  unfold passes at h
  split at h
  · rename_i hm
    simp only [Bool.and_eq_true, List.all_eq_true, List.contains_iff_mem, bne_iff_ne, beq_iff_eq]
      at h
    obtain ⟨hfactors, hprod, hone⟩ := h
    let a : Fin c.modulus := ⟨c.base % c.modulus, Nat.mod_lt _ (Nat.zero_lt_of_lt hm)⟩
    have hpower : ∀ e, residue a ^ e = 1 ↔ power a e = one a := by
      intro e
      rw [← residue_power, ← residue_one a, residue_inj]
    refine lucas_primality c.modulus (residue a) ((hpower _).mpr hone) fun q hq hdvd => ?_
    -- a prime that divides the product of known primes is one of them
    rw [← hprod] at hdvd
    have hmem := (hq.prime.dvd_prod_iff).mp hdvd
    obtain ⟨r, hr, hqr⟩ := hmem
    obtain ⟨hrk, hne⟩ := hfactors r hr
    rw [(Nat.prime_dvd_prime_iff_eq hq (hknown r hrk)).mp hqr]
    exact fun hp => hne ((hpower _).mp hp)
  · cases h

/-- Every number in a chain that starts behind primes is prime. -/
theorem prime_of_chainPasses {known : List Nat} {chain : List Certificate}
    (hknown : ∀ q ∈ known, q.Prime) (h : chainPasses known chain = true) :
    ∀ c ∈ chain, c.modulus.Prime := by
  induction chain generalizing known with
  | nil => simp
  | cons c rest ih =>
    simp only [chainPasses, Bool.and_eq_true] at h
    have hc := c.prime_of_passes hknown h.1
    intro d hd
    rcases List.mem_cons.mp hd with rfl | hd
    · exact hc
    · refine ih ?_ h.2 d hd
      intro q hq
      rcases List.mem_cons.mp hq with rfl | hq
      · exact hc
      · exact hknown q hq

end Modular

namespace P256

/-- A chain from two to the order of the generator and the number of elements of the field. -/
def chain : List Modular.Certificate :=
  [ ⟨3, 2, [2]⟩, ⟨5, 2, [2, 2]⟩, ⟨7, 3, [2, 3]⟩, ⟨11, 2, [2, 5]⟩, ⟨13, 2, [2, 2, 3]⟩,
    ⟨17, 3, [2, 2, 2, 2]⟩, ⟨19, 2, [2, 3, 3]⟩, ⟨23, 5, [2, 11]⟩, ⟨29, 2, [2, 2, 7]⟩,
    ⟨31, 3, [2, 3, 5]⟩, ⟨37, 2, [2, 2, 3, 3]⟩, ⟨41, 6, [2, 2, 2, 5]⟩, ⟨43, 3, [2, 3, 7]⟩,
    ⟨53, 2, [2, 2, 13]⟩, ⟨71, 7, [2, 5, 7]⟩, ⟨97, 5, [2, 2, 2, 2, 2, 3]⟩, ⟨107, 2, [2, 53]⟩,
    ⟨127, 3, [2, 3, 3, 7]⟩, ⟨131, 2, [2, 5, 13]⟩, ⟨151, 6, [2, 3, 5, 5]⟩, ⟨157, 5, [2, 2, 3, 13]⟩,
    ⟨173, 2, [2, 2, 43]⟩, ⟨181, 2, [2, 2, 3, 3, 5]⟩, ⟨197, 2, [2, 2, 7, 7]⟩,
    ⟨229, 6, [2, 2, 3, 19]⟩, ⟨241, 7, [2, 2, 2, 2, 3, 5]⟩, ⟨257, 3, [2, 2, 2, 2, 2, 2, 2, 2]⟩,
    ⟨263, 5, [2, 131]⟩, ⟨311, 17, [2, 5, 31]⟩, ⟨313, 10, [2, 2, 2, 3, 13]⟩,
    ⟨337, 10, [2, 2, 2, 2, 3, 7]⟩, ⟨373, 2, [2, 2, 3, 31]⟩, ⟨641, 3, [2, 2, 2, 2, 2, 2, 2, 5]⟩,
    ⟨661, 2, [2, 2, 3, 5, 11]⟩, ⟨727, 5, [2, 3, 11, 11]⟩, ⟨757, 2, [2, 2, 3, 3, 3, 7]⟩,
    ⟨919, 7, [2, 3, 3, 3, 17]⟩, ⟨1087, 3, [2, 3, 181]⟩, ⟨1201, 11, [2, 2, 2, 2, 3, 5, 5]⟩,
    ⟨1297, 10, [2, 2, 2, 2, 3, 3, 3, 3]⟩, ⟨1511, 11, [2, 5, 151]⟩, ⟨1531, 2, [2, 3, 3, 5, 17]⟩,
    ⟨2411, 6, [2, 5, 241]⟩, ⟨3023, 5, [2, 1511]⟩, ⟨3407, 5, [2, 13, 131]⟩, ⟨3677, 2, [2, 2, 919]⟩,
    ⟨3769, 7, [2, 2, 2, 3, 157]⟩, ⟨4349, 2, [2, 2, 1087]⟩, ⟨9547, 2, [2, 3, 37, 43]⟩,
    ⟨16879, 3, [2, 3, 29, 97]⟩, ⟨17449, 14, [2, 2, 2, 3, 727]⟩, ⟨18169, 11, [2, 2, 2, 3, 757]⟩,
    ⟨38189, 2, [2, 2, 9547]⟩, ⟨65537, 3, [2, 2, 2, 2, 2, 2, 2, 2, 2, 2, 2, 2, 2, 2, 2, 2]⟩,
    ⟨78283, 3, [2, 3, 3, 4349]⟩, ⟨104471, 11, [2, 5, 31, 337]⟩,
    ⟨126241, 7, [2, 2, 2, 2, 2, 3, 5, 263]⟩, ⟨155317, 5, [2, 2, 3, 7, 43, 43]⟩,
    ⟨490463, 14, [2, 7, 53, 661]⟩, ⟨704251, 2, [2, 3, 3, 5, 5, 5, 313]⟩,
    ⟨3969899, 2, [2, 19, 104471]⟩, ⟨6700417, 5, [2, 2, 2, 2, 2, 2, 2, 3, 17449]⟩,
    ⟨9350987, 2, [2, 17, 229, 1201]⟩, ⟨187019741, 2, [2, 2, 5, 9350987]⟩,
    ⟨191039911, 3, [2, 3, 5, 41, 155317]⟩, ⟨204061199, 11, [2, 11, 23, 107, 3769]⟩,
    ⟨311245691, 2, [2, 5, 7, 17, 29, 29, 311]⟩, ⟨622491383, 5, [2, 311245691]⟩,
    ⟨34282281433, 17, [2, 2, 2, 3, 7, 204061199]⟩, ⟨66417393611, 6, [2, 5, 53, 173, 197, 3677]⟩,
    ⟨1002328039319, 19, [2, 126241, 3969899]⟩, ⟨11290956913871, 13, [2, 5, 17, 66417393611]⟩,
    ⟨46076956964474543, 5, [2, 23, 18169, 78283, 704251]⟩,
    ⟨208150935158385979, 2, [2, 3, 11, 43, 127, 3023, 191039911]⟩,
    ⟨2624747550333869278416773953, 7,
      [2, 2, 2, 2, 2, 2, 3, 3, 1297, 16879, 208150935158385979]⟩,
    ⟨774023187263532362759620327192479577272145303, 3,
      [2, 3, 3, 2411, 34282281433, 11290956913871, 46076956964474543]⟩,
    ⟨835945042244614951780389953367877943453916927241, 11,
      [2, 2, 2, 3, 3, 3, 5, 774023187263532362759620327192479577272145303]⟩,
    ⟨P256.order, 7,
      [2, 2, 2, 2, 3, 71, 131, 373, 3407, 17449, 38189, 187019741, 622491383, 1002328039319,
        2624747550333869278416773953]⟩,
    ⟨P256.prime, 6,
      [2, 3, 5, 5, 17, 257, 641, 1531, 65537, 490463, 6700417,
        835945042244614951780389953367877943453916927241]⟩]

theorem chain_passes : Modular.chainPasses [2] chain = true := by
  set_option maxRecDepth 100000 in
  decide +kernel

theorem prime_of_mem_chain {q : Nat} (h : q ∈ chain.map (·.modulus)) : q.Prime := by
  obtain ⟨c, hc, rfl⟩ := List.mem_map.mp h
  refine Modular.prime_of_chainPasses ?_ chain_passes c hc
  intro q hq
  rw [List.mem_singleton.mp hq]
  exact Nat.prime_two

/-- The number of elements of the field is prime. -/
instance fact_prime : Fact prime.Prime := ⟨prime_of_mem_chain (by decide +kernel)⟩

/-- The order of the generator is prime. -/
instance fact_order : Fact order.Prime := ⟨prime_of_mem_chain (by decide +kernel)⟩

end P256

end EnclaveGate
