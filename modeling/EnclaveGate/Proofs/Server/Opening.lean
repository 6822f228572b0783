import EnclaveGate.Proofs.Registry.Eviction
import EnclaveGate.Proofs.Session.Draws

/-!
# Opening a session

The random bytes behind a challenge are cut into numbers of 8 bytes, and the first one that is
neither zero nor in use becomes the id. The drawing fails only if there is no such number, and
nothing but the random bytes is touched until it has succeeded; so an opening that fails leaves the
sessions and the journal as they were, however many numbers were tried.
-/

namespace EnclaveGate

/-- The number at an index if a tape is cut into numbers of 8 bytes, least significant byte first.
Bytes that are left over make up no number. -/
def Tape.number? (tape : Tape) (i : Nat) : Option SessionId :=
  if 8 * i + 8 ≤ tape.size then
    some (UInt64.ofNat (Bytes.natLE ((tape.bytes.drop (8 * i)).take 8)))
  else none

/-- The tape behind some bytes. -/
def Tape.behind (tape : Tape) (n : Nat) : Tape := ⟨tape.bytes.drop n⟩

/-- An id may be given to a new session. Sessions that were idle for too long keep theirs. -/
def Registry.IsFresh (registry : Registry) (id : SessionId) : Prop :=
  id ≠ 0 ∧ ∀ e ∈ registry.table, e.session.id ≠ id

/-- The first number on a tape that is fresh. -/
structure Tape.FirstFresh (tape : Tape) (registry : Registry) (k : Nat) (id : SessionId) : Prop where
  /-- The number is on the tape. -/
  here : tape.number? k = some id
  /-- It is fresh. -/
  fresh : registry.IsFresh id
  /-- No number before it is. -/
  first : ∀ j < k, ∀ other, tape.number? j = some other → ¬ registry.IsFresh other

variable {settings : Settings} {registry : Registry} {tape rest : Tape} {id : SessionId} {k : Nat}

/-! ## Fresh ids -/

theorem Registry.hasId_eq_true_iff :
    registry.hasId id = true ↔ ∃ e ∈ registry.table, e.session.id = id := by
  rw [hasId, find?, List.findIdx?_isSome, List.any_eq_true]
  simp only [table, List.mem_filter, Bool.and_eq_true, beq_iff_eq, and_assoc]

theorem Registry.isFresh_iff :
    registry.IsFresh id ↔ (id = 0 || registry.hasId id) = false := by
  have hused : registry.hasId id = false ↔ ∀ e ∈ registry.table, e.session.id ≠ id := by
    rw [← Bool.not_eq_true, hasId_eq_true_iff]
    simp
  rw [Bool.or_eq_false_iff, hused, decide_eq_false_iff_not]
  rfl

/-! ## Numbers on a tape -/

namespace Tape

@[simp] theorem behind_behind (tape : Tape) (m n : Nat) :
    (tape.behind m).behind n = tape.behind (m + n) := by
  simp [behind, List.drop_drop]

@[simp] theorem size_behind (tape : Tape) (n : Nat) : (tape.behind n).size = tape.size - n := by
  simp [behind, size]

theorem draw?_eq_some {n : Nat} (h : n ≤ tape.size) :
    ∃ b, tape.draw? n = some (b, tape.behind n) ∧ b.toList = tape.bytes.take n := by
  have hl : 0 + n ≤ tape.bytes.length := by
    rw [Nat.zero_add]
    exact h
  exact ⟨tape.bytes.slice 0 n hl, by rw [draw?, dif_pos hl, behind], by simp⟩

theorem number?_eq_none (h : tape.size < 8) (i : Nat) : tape.number? i = none := by
  rw [number?, if_neg]
  omega

theorem number?_zero (h : 8 ≤ tape.size) :
    tape.number? 0 = some (UInt64.ofNat (Bytes.natLE (tape.bytes.take 8))) := by
  rw [number?, if_pos h]
  rfl

/-- Behind the first number the others follow. -/
theorem number?_succ (h : 8 ≤ tape.size) (i : Nat) :
    tape.number? (i + 1) = (tape.behind 8).number? i := by
  have hsize := tape.size_behind 8
  have hdrop : (tape.behind 8).bytes.drop (8 * i) = tape.bytes.drop (8 * (i + 1)) := by
    rw [behind, List.drop_drop]
    congr 1
    omega
  have hroom : 8 * (i + 1) + 8 ≤ tape.size ↔ 8 * i + 8 ≤ (tape.behind 8).size := by omega
  rw [number?, number?, hdrop]
  simp only [hroom]

theorem FirstFresh.zero (hnumber : tape.number? 0 = some id) (hfresh : registry.IsFresh id) :
    tape.FirstFresh registry 0 id :=
  ⟨hnumber, hfresh, fun _ hj => absurd hj (Nat.not_lt_zero _)⟩

theorem FirstFresh.succ {used : SessionId} (h : (tape.behind 8).FirstFresh registry k id)
    (hsize : 8 ≤ tape.size) (hnumber : tape.number? 0 = some used)
    (hused : ¬ registry.IsFresh used) : tape.FirstFresh registry (k + 1) id where
  here := by rw [number?_succ hsize, h.here]
  fresh := h.fresh
  first := by
    intro j hj other hother
    cases j with
    | zero =>
      rw [hnumber] at hother
      cases hother
      exact hused
    | succ j =>
      rw [number?_succ hsize] at hother
      exact h.first j (Nat.lt_of_succ_lt_succ hj) other hother

end Tape

/-! ## Drawing an id -/

namespace Server

/-- The first fresh number is drawn, or there is none. -/
theorem drawIdUpTo_exact (registry : Registry) (tries : Nat) (tape : Tape)
    (h : tape.size / 8 ≤ tries) :
    (∃ k id, tape.FirstFresh registry k id ∧
      drawIdUpTo registry tries tape = (.ok id, tape.behind (8 * (k + 1)))) ∨
    ((∀ k id, tape.number? k = some id → ¬ registry.IsFresh id) ∧
      ∃ n, drawIdUpTo registry tries tape = (.error .randomness, tape.behind n)) := by
  induction tries generalizing tape with
  | zero =>
    refine Or.inr ⟨fun k id hk => ?_, 0, rfl⟩
    rw [Tape.number?_eq_none (by omega)] at hk
    cases hk
  | succ tries ih =>
    by_cases hsize : tape.size < 8
    · refine Or.inr ⟨fun k id hk => ?_, 0, ?_⟩
      · rw [Tape.number?_eq_none hsize] at hk
        cases hk
      · rw [drawIdUpTo, Tape.draw?_eq_none_iff.mpr hsize]
        rfl
    · have hsize : 8 ≤ tape.size := Nat.le_of_not_lt hsize
      obtain ⟨b, hdraw, hb⟩ := Tape.draw?_eq_some hsize
      have hnumber : tape.number? 0 = some (UInt64.ofNat b.natLE) := by
        rw [Tape.number?_zero hsize, Block.natLE, hb]
      rw [drawIdUpTo, hdraw]
      by_cases hfresh : registry.IsFresh (UInt64.ofNat b.natLE)
      · -- the number in front is fresh
        refine Or.inl ⟨0, _, .zero hnumber hfresh, ?_⟩
        simp only [Registry.isFresh_iff.mp hfresh]
        rfl
      · -- it is passed over, and the drawing goes on behind it
        have hused : (UInt64.ofNat b.natLE = 0 || registry.hasId (UInt64.ofNat b.natLE)) = true := by
          rw [← Bool.not_eq_false]
          exact fun hf => hfresh (Registry.isFresh_iff.mpr hf)
        have hbehind : (tape.behind 8).size / 8 ≤ tries := by
          rw [Tape.size_behind]
          omega
        simp only [hused, if_true]
        rcases ih (tape.behind 8) hbehind with ⟨k, id, hfirst, hd⟩ | ⟨hnone, n, hd⟩
        · refine Or.inl ⟨k + 1, id, hfirst.succ hsize hnumber hfresh, ?_⟩
          have hmore : 8 + 8 * (k + 1) = 8 * (k + 1 + 1) := by omega
          rw [hd, Tape.behind_behind, hmore]
        · refine Or.inr ⟨fun k id hk => ?_, 8 + n, by rw [hd, Tape.behind_behind]⟩
          cases k with
          | zero =>
            rw [hnumber] at hk
            cases hk
            exact hfresh
          | succ k =>
            rw [Tape.number?_succ hsize] at hk
            exact hnone k id hk

/-! ## Opening -/

/-- The random bytes suffice for a challenge, and a number behind it is fresh. -/
def CanOpen (server : Server) : Prop :=
  32 ≤ server.tape.size ∧
  ∃ k id, (server.tape.behind 32).number? k = some id ∧ server.registry.IsFresh id

/-- What comes of an opening depends on the random bytes in exactly the right way. -/
structure OpensExactly (settings : Settings) (server : Server) : Prop where
  /-- The first 32 bytes are the challenge and the first fresh number behind them is the id of the
  new session; what was tried is used up, and nothing else. -/
  opened : server.CanOpen → ∃ (k : Nat) (id : SessionId) (challenge : Block 32),
    (server.tape.behind 32).FirstFresh server.registry k id ∧
    challenge.toList = server.tape.bytes.take 32 ∧
    server.openSession settings = (.ok ⟨id, challenge⟩,
      { server with tape := server.tape.behind (32 + 8 * (k + 1)) }.register settings id)
  /-- Else the opening fails, and the sessions, the clock and the journal are as before; some random
  bytes are used up. -/
  failed : ¬ server.CanOpen → ∃ n,
    server.openSession settings = (.error .randomness, { server with tape := server.tape.behind n })

theorem openSession_exact (settings : Settings) (server : Server) :
    server.OpensExactly settings := by
  by_cases hsize : server.tape.size < 32
  · have hdraw := Tape.draw?_eq_none_iff.mpr hsize
    constructor
    · intro hcan
      exact absurd hsize (Nat.not_lt.mpr hcan.1)
    · intro _
      refine ⟨0, ?_⟩
      simp only [openSession, hdraw]
      rfl
  · have hsize : 32 ≤ server.tape.size := Nat.le_of_not_lt hsize
    obtain ⟨challenge, hdraw, hchallenge⟩ := Tape.draw?_eq_some hsize
    rcases drawIdUpTo_exact server.registry _ (server.tape.behind 32) (Nat.le_refl _) with
      ⟨k, id, hfirst, hd⟩ | ⟨hnone, n, hd⟩
    · constructor
      · intro _
        refine ⟨k, id, challenge, hfirst, hchallenge, ?_⟩
        simp only [openSession, hdraw, drawId, hd, Tape.behind_behind]
      · intro hcannot
        exact absurd ⟨hsize, k, id, hfirst.here, hfirst.fresh⟩ hcannot
    · constructor
      · rintro ⟨-, k, id, hk, hfresh⟩
        exact absurd hfresh (hnone k id hk)
      · intro _
        exact ⟨32 + n, by simp only [openSession, hdraw, drawId, hd, Tape.behind_behind]⟩

/-- An opening that succeeds makes room, and adds a session under an id that nobody has. -/
theorem openSession_ok {before after : Server} {challenge : Challenge}
    (h : before.openSession settings = (.ok challenge, after)) :
    before.registry.IsFresh challenge.sessionId ∧
    after.registry = (before.registry.makeRoom settings before.now).1.add
      (.start challenge.sessionId) before.now ∧
    after.journal = before.journal ++ (before.registry.makeRoom settings before.now).2 ++
      [.created challenge.sessionId] := by
  have hexact := before.openSession_exact settings
  by_cases hcan : before.CanOpen
  · obtain ⟨k, id, bytes, hfirst, -, hopen⟩ := hexact.opened hcan
    rw [h] at hopen
    cases hopen
    exact ⟨hfirst.fresh, rfl, rfl⟩
  · obtain ⟨n, hfail⟩ := hexact.failed hcan
    rw [h] at hfail
    cases hfail

/-- An entry in the table after an opening was there before, or has an id that nobody had. -/
theorem mem_table_openSession {server : Server} {e : Entry}
    (h : e ∈ (server.openSession settings).2.registry.table) :
    e ∈ server.registry.table ∨ server.registry.IsFresh e.session.id := by
  have hexact := server.openSession_exact settings
  by_cases hcan : server.CanOpen
  · obtain ⟨k, id, bytes, hfirst, -, hopen⟩ := hexact.opened hcan
    obtain ⟨hfresh, hregistry, -⟩ := openSession_ok hopen
    rw [hopen, hregistry, Registry.table_add] at h
    rcases List.mem_append.mp h with hkept | hnew
    · exact Or.inl ((Registry.table_makeRoom_sublist settings _ _).subset hkept)
    · rw [List.mem_singleton.mp hnew]
      exact Or.inr hfresh
  · obtain ⟨n, hfail⟩ := hexact.failed hcan
    rw [hfail] at h
    exact Or.inl h

end Server

end EnclaveGate
