import EnclaveGate.Proofs.Session.Rejection
import EnclaveGate.Proofs.Traffic.Release
import EnclaveGate.Proofs.Wire.Canonical

/-!
# The key in message 3 is compared as a point

The wire form of a public key is read exactly if its numbers are reduced and satisfy the equation of
the curve, and no point has two wire forms. A session waits for message 3 with a key from message 1
that was read. So when it compares the bytes of the key in message 3 with those of this key, it
compares the points.
-/

namespace EnclaveGate

namespace Handshake

variable {handshake : Handshake} {msg3 : Msg3}

/-- Behind the check of the authentication code, the key is found wrong if its bytes differ. -/
theorem check_eq_key_iff (authentic : msg3.cmac = handshake.smk.mac msg3.macRegion) :
    handshake.check msg3 = .error .key ↔ msg3.ga ≠ handshake.ga := by
  have hv := (DerivedKey.verify_iff handshake.smk msg3.macRegion msg3.cmac).mpr authentic
  unfold check
  rw [hv, Bool.not_true, if_neg Bool.false_ne_true]
  split
  · rename_i hne
    simp [hne]
  · rename_i hsame
    refine iff_of_false ?_ hsame
    cases QuoteBody.parse msg3.quote with
    | error e => simp
    | ok quote =>
      unfold checkQuote
      dsimp only
      split
      · simp
      · split <;> simp

/-- The key in message 3 is compared as a point. -/
def ComparesPoints (handshake : Handshake) : Prop :=
  ∃ point, handshake.ga.decode = .ok point ∧
    ∀ msg3 : Msg3, (msg3.ga = handshake.ga ↔ msg3.ga.decode = .ok point) ∧
      (msg3.cmac = handshake.smk.mac msg3.macRegion →
        (handshake.check msg3 = .error .key ↔ msg3.ga.decode ≠ .ok point))

theorem comparesPoints_of_decode {point : P256.PublicKey} (h : handshake.ga.decode = .ok point) :
    handshake.ComparesPoints := by
  refine ⟨point, h, fun msg3 => ?_⟩
  have hsame : msg3.ga = handshake.ga ↔ msg3.ga.decode = .ok point := by
    constructor
    · intro he
      rw [he, h]
    · intro hd
      exact WireKey.canonical.unique msg3.ga handshake.ga point hd h
  exact ⟨hsame, fun authentic => (check_eq_key_iff authentic).trans hsame.not⟩

end Handshake

namespace Traffic

/-- A session that waits for message 3 keeps a key that was read in message 1. -/
theorem Coherent.exists_point {settings : Settings} {t : Traffic} (h : Coherent settings t)
    (ha : Addressed t) {k : Ticket} {s : Session} {handshake : Handshake}
    (hk : t.sessions[k]? = some s) (hp : s.phase = .awaitingMsg3 handshake) :
    ∃ point, handshake.ga.decode = .ok point := by
  obtain ⟨_, msg1, _, _, _, peer, _, _, _, _, _, _, hsettles⟩ := h.settled ha hk hp
  refine ⟨peer, ?_⟩
  rw [hsettles.ga]
  exact hsettles.point

/-- The wire forms of public keys are read exactly if they denote points of the curve, every public
key is written and read back, and in every run a session that waits for message 3 compares the key
in it as a point. -/
theorem wire_keys_canonical :
    Wire.Canonical WireKey.encode WireKey.decode
      (fun wire => wire.x.natLE < P256.prime ∧ wire.y.natLE < P256.prime ∧
        (wire.y.natLE : ℤ) ^ 2 ≡ (wire.x.natLE : ℤ) ^ 3 - 3 * wire.x.natLE +
          P256.coefficientB.val [ZMOD P256.prime]) .invalidPublicKey ∧
    (∀ (wire : WireKey) (key : P256.PublicKey), wire.decode = .ok key →
      wire.x.natLE = key.x ∧ wire.y.natLE = key.y) ∧
    WireKey.decode ⟨Block.zero 32, Block.zero 32⟩ = .error .invalidPublicKey ∧
    ∀ (settings : Settings) (tape : Tape) (actions : List Action) (k : Ticket) (s : Session)
      (handshake : Handshake), ((start tape).run settings actions).sessions[k]? = some s →
      s.phase = .awaitingMsg3 handshake → handshake.ComparesPoints := by
  refine ⟨WireKey.canonical, ?_, WireKey.decode_zero, ?_⟩
  · intro wire key h
    have hdenotes := WireKey.decode_eq_ok_iff.mp h
    exact ⟨hdenotes.first, hdenotes.second⟩
  · intro settings tape actions k s handshake hk hp
    obtain ⟨point, h⟩ := (coherent_run settings tape actions).exists_point
      (addressed_run settings tape actions) hk hp
    exact Handshake.comparesPoints_of_decode h

end Traffic

end EnclaveGate
