import EnclaveGate.Proofs.Server.Turns
import EnclaveGate.Proofs.Traffic.Alone
import EnclaveGate.Proofs.Traffic.Orderly

/-!
# What a turn does

A turn may remove sessions that were idle for too long, or open a session and make room for it, or let
a message reach a session. Nothing else happens to a session, and whatever does is in the history.
-/

namespace EnclaveGate

/-- What a turn of a server does, with what happens to sessions in it. -/
inductive Server.Effect (settings : Settings) (s s' : Server) : List Happening → Prop
  /-- Sessions that were idle for too long may be removed. -/
  | quiet (hn : s.now ≤ s'.now) (hp : s.registry.Prunes settings s.now [] s'.registry) :
    Effect settings s s' []
  /-- Room is made, and a session is opened under an id that is not in use. -/
  | opened (id : SessionId) (evicted : List SessionId) (room : Registry)
    (fresh : s.registry.hasId id = false) (hn : s'.now = s.now)
    (hp : s.registry.Prunes settings s.now evicted room)
    (hr : s'.registry = room.add (.start id) s'.now) :
    Effect settings s s' [.opened s'.now id evicted]
  /-- A message reaches a session that was not idle for too long. -/
  | served (k : Ticket) (id : SessionId) (session : Session) (hk : s.registry.Lists k id)
    (hx : ¬ s.registry.Expired settings s.now k) (hid : session.id = id) (hn : s.now ≤ s'.now)
    (hr : s'.registry = s.registry.visit k session s'.now) :
    Effect settings s s' [.served s'.now id session.phase]

namespace Server

variable {settings : Settings} {authority : Authority} {s : Server} {k : Ticket} {e : Entry}
  {request : Request}

/-! ## Opening -/

/-- A server in order that opens a session makes room for it. -/
theorem openSession_effect (h : s.Orderly settings) :
    s.Effect settings (s.turn settings .openSession) (s.happenings settings .openSession) := by
  simp only [turn, happenings]
  rcases s.openSession_spec settings with ⟨tape, he⟩ | ⟨challenge, tape, -, fresh, he⟩
  · rw [he]
    exact .quiet (Nat.le_refl _) (.refl settings s.now s.registry)
  · have hev : s.evictions settings =
        (s.registry.makeRoom settings s.now).2.filterMap Event.evicted? := by
      simp [evictions, he, register, List.append_assoc, Event.evicted?]
    rw [hev, he]
    exact .opened challenge.sessionId _ _ fresh rfl (.makeRoom h.unambiguous settings s.now) rfl

/-! ## Requests -/

theorem registry_settle (s : Server) (k : Ticket) (request : Request)
    (outcome : Outcome request.Answer) (tape : Tape) :
    (s.settle k request outcome tape).registry = s.registry.visit k outcome.session s.now := by
  unfold settle Registry.visit
  dsimp only
  split <;> rfl

theorem now_settle (s : Server) (k : Ticket) (request : Request)
    (outcome : Outcome request.Answer) (tape : Tape) :
    (s.settle k request outcome tape).now = s.now := by
  unfold settle
  dsimp only
  split <;> rfl

/-- An admitted request visits its session. -/
theorem serve_visit (settings : Settings) (authority : Authority) (request : Request)
    (hk : s.registry.get? k = some e) :
    ∃ session : Session, session.id = e.session.id ∧
      s.now ≤ (s.serve settings authority k request).2.now ∧
      (s.serve settings authority k request).2.registry =
        s.registry.visit k session (s.serve settings authority k request).2.now := by
  unfold serve begin
  simp only [hk]
  rcases hb : e.session.begin settings s.tape request with ⟨outcome | pending, tape⟩
  · dsimp only
    refine ⟨outcome.session, Session.id_of_begin (congrArg Prod.fst hb), ?_, ?_⟩
    · exact Nat.le_of_eq (now_settle ..).symm
    · rw [now_settle, registry_settle]
  · -- the answer of the authority is waited for
    let later := ({ s with tape } : Server).advance (request.wait settings authority pending)
    rcases hf : e.session.finish settings authority later.tape request pending with ⟨outcome, tape'⟩
    have hid : (e.session.finish settings authority later.tape request pending).1.session.id =
        e.session.id := Session.id_finish authority pending
    rw [hf] at hid
    have hlater : (later.finish settings authority k request pending).2 =
        later.settle k request outcome tape' := by
      have hk' : later.registry.get? k = some e := hk
      simp only [finish, hk', hf]
    dsimp only
    rw [hlater, now_settle, registry_settle]
    exact ⟨outcome.session, hid, Nat.le_add_right .., rfl⟩

/-- Admission finds the session that is listed under the id, unless it was idle for too long; then the
session is removed. -/
theorem route_spec (h : s.registry.Unambiguous) (settings : Settings) (id : SessionId) :
    (∃ server, s.route settings id = (.error (.sessionNotFound id), server) ∧
      s.contains settings id = false ∧ server.now = s.now ∧
      s.registry.Prunes settings s.now [] server.registry) ∨
    ∃ k, s.route settings id = (.ok k, { s with registry := s.registry.touch k s.now }) ∧
      s.contains settings id = true ∧ s.registry.Lists k id ∧
      ¬ s.registry.Expired settings s.now k := by
  unfold route
  cases hf : s.registry.find? id with
  | none =>
    refine Or.inl ⟨s, rfl, ?_, rfl, .refl settings s.now s.registry⟩
    simp [contains, Registry.contains, hf]
  | some k =>
    have hk := Registry.lists_of_find? hf
    cases hc : s.contains settings id with
    | true =>
      obtain ⟨j, hj, hx⟩ := (Registry.contains_iff h s.now).mp hc
      have hjk := h j k id hj hk
      exact Or.inr ⟨k, rfl, rfl, hk, hjk ▸ hx⟩
    | false =>
      refine Or.inl ⟨_, rfl, rfl, rfl, .unlist ?_⟩
      refine Classical.byContradiction fun hx => ?_
      rw [contains, (Registry.contains_iff h s.now).mpr ⟨k, hk, hx⟩] at hc
      cases hc

/-- A request that is refused may have removed a session; any other one visits its session. -/
theorem handle_effect (h : s.Orderly settings) (request : Request) (authority : Authority) :
    s.Effect settings (s.turn settings (.handle request authority))
      (s.happenings settings (.handle request authority)) := by
  rcases s.route_spec h.unambiguous settings request.sessionId with
    ⟨server, hr, -, hn, hp⟩ | ⟨k, hr, -, hk, hx⟩
  · simp only [turn, happenings, handle, hr]
    exact .quiet (Nat.le_of_eq hn.symm) hp
  · obtain ⟨e, he, hl, hid⟩ := hk
    let touched : Server := { s with registry := s.registry.touch k s.now }
    have he' : touched.registry.get? k = some { e with lastActive := s.now } :=
      Registry.get?_touch he s.now
    obtain ⟨session, hsid, hn, hreg⟩ := serve_visit settings authority request he'
    have hentry := Registry.get?_visit he' session (touched.serve settings authority k request).2.now
    rw [← hreg] at hentry
    have hturn : s.turn settings (.handle request authority) =
        (touched.serve settings authority k request).2 := by
      simp only [turn, handle, hr, touched]
    have hhappen : s.happenings settings (.handle request authority) =
        [.served (s.turn settings (.handle request authority)).now request.sessionId
          session.phase] := by
      rw [← hturn] at hentry
      simp only [turn] at hentry
      simp only [turn, happenings, hr, Except.toOption, Option.bind_some, hentry]
    rw [hhappen, hturn]
    refine .served k request.sessionId session ⟨e, he, hl, hid⟩ hx (hsid.trans hid) hn ?_
    rw [hreg]
    exact Registry.visit_touch ..

theorem turn_effect (h : s.Orderly settings) (turn : Turn) :
    s.Effect settings (s.turn settings turn) (s.happenings settings turn) := by
  cases turn with
  | pass ms => exact .quiet (Nat.le_add_right ..) (.refl settings s.now s.registry)
  | openSession => exact openSession_effect h
  | purge => exact .quiet (Nat.le_refl _) (.dropExpired settings s.now s.registry)
  | handle request authority => exact handle_effect h request authority

theorem Orderly.turn (h : s.Orderly settings) (turn : Turn) :
    (s.turn settings turn).Orderly settings := by
  obtain ⟨actions, calls, hr, -⟩ := Traffic.turn_run (t := ⟨s, []⟩) settings
    (fun i c hi => by cases hi) turn
  have ho := Traffic.orderly_run (t := ⟨s, []⟩) actions h
  rw [hr] at ho
  exact ho

theorem Orderly.turns (h : s.Orderly settings) (turns : List Turn) :
    (s.turns settings turns).Orderly settings := by
  induction turns generalizing s with
  | nil => exact h
  | cons turn turns ih => exact ih (h.turn turn)

end Server

end EnclaveGate
