import EnclaveGate.Proofs.Registry.Listing
import EnclaveGate.Proofs.Traffic.History

/-!
# Removal of sessions from traffic

Where the number of sessions is not capped and no two of them are listed under one id, a listed
session is removed in two ways only: a purge or a request for its id finds that it was idle for too
long, or a call that ended it leaves.
-/

namespace EnclaveGate

/-! ## Ids of sessions -/

namespace Session

variable {settings : Settings} {session : Session} {tape : Tape} {request : Request}

/-- A processing that is over at once keeps the id. -/
theorem id_of_begin {outcome : Outcome request.Answer}
    (h : (session.begin settings tape request).1 = .finished outcome) :
    outcome.session.id = session.id := by
  have hp := session.id_process settings default tape request
  rcases hb : session.begin settings tape request with ⟨stage, rest⟩
  rw [hb] at h
  subst h
  simpa only [Session.process, hb] using hp

/-- The answer of the authority keeps the id. -/
theorem id_finish (authority : Authority) (pending : request.Pending) :
    (session.finish settings authority tape request pending).1.session.id = session.id := by
  cases request with
  | msg1 m =>
    rcases session.finishMsg1_cases pending ((authority.revocationList
        pending.handshake.groupId).within settings.authorityTimeout) with
      ⟨sigRl, -, h⟩ | ⟨e, -, h, -⟩
    · rw [Session.finish, h]
      rfl
    · rw [Session.finish, h]
      rfl
  | msg3 m =>
    rcases session.finishMsg3_cases settings tape pending ((authority.verdict
        pending.msg3.quote).within settings.authorityTimeout) with ⟨h, -⟩ | ⟨h, -⟩
    · rw [Session.finish, h]
      rfl
    · rw [Session.finish, h]
      rfl

end Session

/-! ## What the server removes -/

namespace Server

variable {settings : Settings} {server : Server} {k : Ticket} {id : SessionId}

/-- Opening fails and changes no entry, or makes room and adds an entry under a fresh id. -/
theorem openSession_registry (settings : Settings) (server : Server) :
    (server.openSession settings).2.registry = server.registry ∨
    ∃ id, server.registry.hasId id = false ∧ (server.openSession settings).2.registry =
      (server.registry.makeRoom settings server.now).1.add (.start id) server.now := by
  rcases server.openSession_spec settings with ⟨tape, h⟩ | ⟨challenge, tape, -, hfresh, h⟩
  · exact Or.inl (by rw [h])
  · exact Or.inr ⟨challenge.sessionId, hfresh, by rw [h]; rfl⟩

/-- Admission touches a session or removes one that was idle for too long. -/
theorem lists_route_iff (settings : Settings) (k : Ticket) (id : SessionId)
    (h : server.registry.Unambiguous) (other : SessionId) :
    (server.route settings other).2.registry.Lists k id ↔
      server.registry.Lists k id ∧
        ¬ (other = id ∧ server.registry.Expired settings server.now k) := by
  simp only [route]
  cases hf : server.registry.find? other with
  | none =>
    simp only [iff_self_and]
    rintro hk ⟨rfl, -⟩
    exact Registry.not_lists_of_find? hf k hk
  | some j =>
    have hj := Registry.lists_of_find? hf
    dsimp only
    cases hc : server.contains settings other with
    | true =>
      simp only [if_true, Registry.lists_touch, iff_self_and]
      rintro hk ⟨rfl, he⟩
      obtain ⟨i, hi, hne⟩ := (Registry.contains_iff h server.now).mp hc
      rw [h k i other hk hi] at he
      exact hne he
    | false =>
      -- the id is in use but the server does not contain it, so the session must be expired
      simp only [Bool.false_eq_true, if_false, report, Registry.lists_unlist]
      have hexp : server.registry.Expired settings server.now j := by
        refine Classical.byContradiction fun hne => ?_
        have := (Registry.contains_iff h server.now).mpr ⟨j, hj, hne⟩
        rw [contains] at hc
        rw [hc] at this
        cases this
      constructor
      · rintro ⟨hne, hk⟩
        refine ⟨hk, ?_⟩
        rintro ⟨rfl, -⟩
        exact hne (h k j other hk hj)
      · rintro ⟨hk, hn⟩
        refine ⟨?_, hk⟩
        rintro rfl
        obtain ⟨e, hg, -, hid⟩ := hk
        obtain ⟨e', hg', -, hid'⟩ := hj
        rw [hg] at hg'
        cases hg'
        exact hn ⟨hid'.symm.trans hid, hexp⟩

end Server

namespace Traffic

/-- A step looks whether a session with an id was idle for too long. -/
def Action.Inspects (id : SessionId) : Action → Prop
  | .purge => True
  | .arrive request => request.sessionId = id
  | _ => False

/-- A step removes a session that a call ended. -/
def Removes (t : Traffic) (k : Ticket) : Action → Prop
  | .leave i => ∃ (request : Request) (v : Visit) (r : Except Error request.Answer),
    t.calls[i]? = some ⟨request, .leaving v r⟩ ∧ v.ticket = k
  | _ => False

/-- A session is listed under an id. -/
def Lists (t : Traffic) (k : Ticket) (id : SessionId) : Prop := t.server.registry.Lists k id

/-- A session was idle for too long. -/
def Expired (settings : Settings) (t : Traffic) (k : Ticket) : Prop :=
  t.server.registry.Expired settings t.server.now k

/-- No two sessions are listed under one id. -/
def Unambiguous (t : Traffic) : Prop := t.server.registry.Unambiguous

variable {settings : Settings} {t : Traffic} {k : Ticket} {id : SessionId}

/-- What becomes of a session keeps its id. -/
theorem lists_conclude {i : Nat} {request : Request} {v : Visit} {outcome : Outcome request.Answer}
    {tape : Tape} (h : ∀ e, t.server.registry.get? v.ticket = some e →
      outcome.session.id = e.session.id) :
    (t.conclude i request v outcome tape).Lists k id ↔ t.Lists k id :=
  Registry.lists_store h

theorem lists_enter (i : Nat) : (t.enter settings i).Lists k id ↔ t.Lists k id := by
  rcases t.enter_cases settings i with hs | ⟨_, _, _, _, _, _, _, _, _, hs⟩ |
    ⟨request, k', entry, outcome, tape, -, -, he, hb, hs⟩ <;> rw [hs]
  · rfl
  · refine lists_conclude fun e hg => ?_
    cases he.symm.trans hg
    exact Session.id_of_begin (congrArg Prod.fst hb)

theorem lists_hear (i : Nat) (authority : Authority) :
    (t.hear settings i authority).Lists k id ↔ t.Lists k id := by
  rcases t.hear_cases settings i authority with hs | ⟨request, visit, pending, entry, -, he, hs⟩ <;>
    rw [hs]
  refine lists_conclude fun e hg => ?_
  rw [ticket_heard, he] at hg
  cases hg
  exact Session.id_finish authority pending

theorem lists_leave_iff (i : Nat) :
    (t.leave i).Lists k id ↔ t.Lists k id ∧ ¬ t.Removes k (.leave i) := by
  unfold leave
  split
  · rename_i request v r hi
    have hrem : t.Removes k (.leave i) ↔ v.ticket = k := by
      constructor
      · rintro ⟨request', v', r', hi', rfl⟩
        rw [hi] at hi'
        cases hi'
        rfl
      · rintro rfl
        exact ⟨request, v, r, hi, rfl⟩
    simp only [Lists, Server.report, Registry.lists_unlist, hrem]
    rw [and_comm, ne_comm]
  · rename_i hn
    simp only [iff_self_and]
    rintro - ⟨request, v, r, hi, -⟩
    exact hn request v r hi

/-- A session that was opened stays listed exactly if it is neither found idle for too long nor
removed by a call that ended it. -/
theorem lists_step_iff (h : Unambiguous t) (hmax : settings.maxSessions = none)
    (hk : (k : Nat) < t.server.registry.entries.length) (action : Action) :
    (t.step settings action).Lists k id ↔
      t.Lists k id ∧ ¬ (action.Inspects id ∧ t.Expired settings k) ∧ ¬ t.Removes k action := by
  cases action with
  | pass ms => simp [step, Lists, Server.advance, Action.Inspects, Removes]
  | openSession =>
    simp only [Action.Inspects, Removes, false_and, not_false_eq_true, and_true]
    rcases t.server.openSession_registry settings with hr | ⟨id', -, hr⟩
    · simp [step, Lists, hr]
    · have hroom : (t.server.registry.makeRoom settings t.server.now).1 = t.server.registry := by
        simp [Registry.makeRoom, hmax]
      simp only [step, Lists, hr, hroom, Registry.lists_add, or_iff_left_iff_imp]
      rintro ⟨rfl, -⟩
      exact absurd hk (Nat.lt_irrefl _)
  | purge => simp [step, Lists, Server.purge, Server.report, Action.Inspects, Removes, Expired]
  | arrive request =>
    have hroute : (t.arrive settings request).server =
        (t.server.route settings request.sessionId).2 := by
      unfold arrive
      split <;> rename_i hr <;> rw [hr]
    have hiff := Server.lists_route_iff settings k id h request.sessionId
    simpa [step, Lists, hroute, Action.Inspects, Removes, Expired] using hiff
  | enter i => simpa [step, Action.Inspects, Removes] using lists_enter i
  | hear i authority => simpa [step, Action.Inspects, Removes] using lists_hear i authority
  | leave i => simpa [step, Action.Inspects] using lists_leave_iff i

/-! ## Time -/

/-- The time that passes in some steps. -/
def elapsed : List Action → Nat
  | [] => 0
  | .pass ms :: actions => ms + elapsed actions
  | _ :: actions => elapsed actions

theorem elapsed_append (a b : List Action) : elapsed (a ++ b) = elapsed a + elapsed b := by
  induction a with
  | nil => simp [elapsed]
  | cons x a ih =>
    cases x with
    | pass ms =>
      simp only [List.cons_append, elapsed, ih]
      omega
    | _ => exact ih

/-- Only the passing of time moves the clock. -/
theorem now_step (action : Action) :
    (t.step settings action).server.now = t.server.now + elapsed [action] := by
  cases action with
  | pass ms => rfl
  | openSession =>
    simp only [step, Server.openSession]
    split
    · rfl
    · split <;> rfl
  | purge => rfl
  | arrive request =>
    have hnow : (t.server.route settings request.sessionId).2.now = t.server.now := by
      simp only [Server.route]
      split
      · rfl
      · split <;> rfl
    simp only [step, arrive]
    split <;> rename_i hr <;> rw [hr] at hnow <;> exact hnow
  | enter i =>
    rw [step]
    rcases t.enter_cases settings i with hs | ⟨_, _, _, _, _, _, _, _, _, hs⟩ |
      ⟨_, _, _, _, _, _, _, _, _, hs⟩ <;> rw [hs] <;> rfl
  | hear i authority =>
    rw [step]
    rcases t.hear_cases settings i authority with hs | ⟨_, _, _, _, _, _, hs⟩ <;> rw [hs] <;> rfl
  | leave i =>
    simp only [step, leave]
    split <;> rfl

end Traffic

end EnclaveGate
