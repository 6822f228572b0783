import EnclaveGate.Proofs.Registry.Others
import EnclaveGate.Proofs.Server.Effects
import EnclaveGate.Proofs.Session.Draws

/-!
# What a request brings about

While nothing else happens, a request changes the entry that its id addresses and no other one. What
becomes of the entry, what is answered and reported, which random bytes are drawn and how much time
passes: all of it depends on the entry, on the request and on the time, but not on the rest of the
registry.
-/

namespace EnclaveGate

/-- What a request brings about. -/
structure Reaction (request : Request) where
  /-- The answer. -/
  result : Except Error request.Answer
  /-- What is reported, in order. -/
  events : List Event
  /-- What becomes of the entry that the id addressed, if it addressed one. -/
  entry : Option Entry
  /-- The time afterwards. -/
  now : Nat

namespace Request

variable (settings : Settings) (authority : Authority) (now : Nat) (request : Request)

/-- The id addresses nothing. -/
def miss : Reaction request := ⟨.error (.sessionNotFound request.sessionId), [], none, now⟩

/-- The entry that the id addresses was idle for too long. -/
def expire (entry : Entry) : Reaction request :=
  { result := .error (.sessionNotFound request.sessionId)
    events := [.expired request.sessionId]
    entry := some { entry with isListed := false }
    now }

/-- The session of the entry that the id addresses has processed the request in some time. -/
def complete (entry : Entry) (outcome : Outcome request.Answer) (wait : Nat) : Reaction request :=
  { result := outcome.result
    events := outcome.events ++
      if outcome.session.isTerminal then request.closing outcome.result else []
    entry := some ⟨outcome.session, now + wait, entry.isListed && !outcome.session.isTerminal⟩
    now := now + wait }

/-- What a request brings about at the entry that its id addresses, and which random bytes it
leaves. -/
def react : Option Entry → Tape → Reaction request × Tape
  | none, tape => (request.miss now, tape)
  | some entry, tape =>
    if entry.isExpired settings.sessionTimeout now then (request.expire now entry, tape)
    else
      let (outcome, rest) := entry.session.process settings authority tape request
      (request.complete now entry outcome (entry.session.wait settings authority tape request), rest)

/-- What the authority is asked about a request at the entry that its id addresses. -/
def asks : Option Entry → Tape → Option Question
  | none, _ => none
  | some entry, tape =>
    if entry.isExpired settings.sessionTimeout now then none
    else entry.session.asks settings tape request

variable {settings authority now request}

theorem react_of_isExpired {entry : Entry}
    (h : entry.isExpired settings.sessionTimeout now = true) (tape : Tape) :
    request.react settings authority now (some entry) tape = (request.expire now entry, tape) := by
  rw [react, if_pos h]

theorem react_of_not_isExpired {entry : Entry}
    (h : entry.isExpired settings.sessionTimeout now = false) (tape : Tape) :
    request.react settings authority now (some entry) tape =
      (request.complete now entry (entry.session.process settings authority tape request).1
        (entry.session.wait settings authority tape request),
        (entry.session.process settings authority tape request).2) := by
  rw [react, h, if_neg Bool.false_ne_true]

theorem asks_of_not_isExpired {entry : Entry}
    (h : entry.isExpired settings.sessionTimeout now = false) (tape : Tape) :
    request.asks settings now (some entry) tape = entry.session.asks settings tape request := by
  rw [asks, h, if_neg Bool.false_ne_true]

/-- What a request brings about, and what is asked, depends on the random bytes that it draws, and on
none behind them. -/
theorem draws_react (settings : Settings) (authority : Authority) (now : Nat) (request : Request)
    (entry : Option Entry) (tape : Tape) :
    Tape.Draws (fun tape => (((request.react settings authority now entry tape).1,
      request.asks settings now entry tape), (request.react settings authority now entry tape).2))
      request.Short tape := by
  cases entry with
  | none => exact .nothing (request.miss now, none) _ tape
  | some entry =>
    cases hx : entry.isExpired settings.sessionTimeout now with
    | true =>
      refine (Tape.Draws.nothing (request.expire now entry, none) _ tape).congr fun tape => ?_
      rw [react_of_isExpired hx, asks, if_pos hx]
    | false =>
      have processed := Session.draws_process settings authority entry.session request tape
      refine (processed.map fun done =>
        (request.complete now entry done.1 done.2.1, done.2.2)).congr fun tape => ?_
      rw [react_of_not_isExpired hx, asks_of_not_isExpired hx]

/-- An entry keeps its id. -/
theorem id_react {entry : Option Entry} {tape : Tape}
    (h : ∀ e, entry = some e → e.session.id = request.sessionId) (e : Entry)
    (he : (request.react settings authority now entry tape).1.entry = some e) :
    e.session.id = request.sessionId := by
  cases entry with
  | none => cases he
  | some old =>
    have hold := h old rfl
    cases hx : old.isExpired settings.sessionTimeout now with
    | true =>
      rw [react_of_isExpired hx] at he
      cases he
      exact hold
    | false =>
      rw [react_of_not_isExpired hx] at he
      cases he
      exact (Session.id_process settings authority tape old.session request).trans hold

theorem isSome_react (entry : Option Entry) (tape : Tape) :
    (request.react settings authority now entry tape).1.entry.isSome = entry.isSome := by
  cases entry with
  | none => rfl
  | some old =>
    cases hx : old.isExpired settings.sessionTimeout now with
    | true => rw [react_of_isExpired hx]; rfl
    | false => rw [react_of_not_isExpired hx]; rfl

end Request

namespace Registry

variable {registry : Registry} {k : Ticket} {e : Entry}

/-- A visit replaces one entry. -/
theorem visit_eq_update (hk : registry.get? k = some e) (session : Session) (now : Nat) :
    registry.visit k session now =
      registry.update k fun _ => ⟨session, now, e.isListed && !session.isTerminal⟩ := by
  apply ext_get?
  intro j
  by_cases hj : k = j
  · subst hj
    rw [get?_visit hk, get?_update, if_pos rfl, hk]
    rfl
  · rw [get?_visit_ne hj, get?_update, if_neg hj]

theorem unlist_eq_update (hk : registry.get? k = some e) :
    registry.unlist k = registry.update k fun _ => { e with isListed := false } := by
  apply ext_get?
  intro j
  by_cases hj : k = j
  · subst hj
    rw [unlist, get?_update, get?_update, if_pos rfl, if_pos rfl, hk]
    rfl
  · rw [unlist, get?_update, get?_update, if_neg hj, if_neg hj]

end Registry

namespace Server

variable {settings : Settings} {s : Server} {k : Ticket} {e : Entry} {request : Request}

/-! ## Serving -/

/-- The server after a processing, in closed form. -/
theorem settle_eq (s : Server) (k : Ticket) (request : Request) (outcome : Outcome request.Answer)
    (tape : Tape) :
    s.settle k request outcome tape =
      { registry := s.registry.visit k outcome.session s.now
        tape
        now := s.now
        journal := s.journal ++ (outcome.events ++
          if outcome.session.isTerminal then request.closing outcome.result else []) } := by
  unfold settle Registry.visit
  cases outcome.session.isTerminal <;> simp [report]

/-- An admitted request is processed by its session, when the authority has been waited for. -/
theorem serve_eq (settings : Settings) (authority : Authority) (request : Request)
    (hk : s.registry.get? k = some e) :
    s.serve settings authority k request =
      ((e.session.process settings authority s.tape request).1.result,
        (s.advance (e.session.wait settings authority s.tape request)).settle k request
          (e.session.process settings authority s.tape request).1
          (e.session.process settings authority s.tape request).2) := by
  unfold serve Server.begin Session.process Session.wait
  simp only [hk]
  rcases hb : e.session.begin settings s.tape request with ⟨outcome | pending, tape⟩
  · rfl
  · dsimp only
    have hk' : (({ s with tape } : Server).advance
        (request.wait settings authority pending)).registry.get? k = some e := hk
    simp only [Server.finish, hk']
    rfl

/-! ## Handling -/

/-- A request changes the entry that its id addresses, and no other one. -/
theorem handle_eq (settings : Settings) (authority : Authority) (s : Server) (request : Request) :
    s.handle settings authority request =
      let (reaction, tape) := request.react settings authority s.now
        (s.registry.lookup? request.sessionId) s.tape
      (reaction.result,
        { registry := s.registry.put request.sessionId reaction.entry
          tape
          now := reaction.now
          journal := s.journal ++ reaction.events }) := by
  cases he : s.registry.lookup? request.sessionId with
  | none =>
    have hf := Registry.find?_eq_none_of_lookup? he
    simp [handle, route, hf, Request.react, Request.miss]
  | some e =>
    obtain ⟨k, hf, hk, -, -⟩ := Registry.find?_of_lookup? he
    have hcontains : s.contains settings request.sessionId =
        !e.isExpired settings.sessionTimeout s.now := by
      simp [contains, Registry.contains, hf, hk]
    cases hx : e.isExpired settings.sessionTimeout s.now with
    | true =>
      rw [hx] at hcontains
      rw [Request.react_of_isExpired hx]
      simp only [handle, route, hf, hcontains, Request.expire, Bool.not_true, Bool.false_eq_true,
        if_false, report, Registry.unlist_eq_update hk, Registry.put_of_find? hf]
    | false =>
      rw [hx] at hcontains
      let touched : Server := { s with registry := s.registry.touch k s.now }
      have hroute : s.route settings request.sessionId = (.ok k, touched) := by
        simp only [route, hf, hcontains, Bool.not_false, if_true, touched]
      have hk' : touched.registry.get? k = some { e with lastActive := s.now } :=
        Registry.get?_touch hk s.now
      have hserve := serve_eq settings authority request hk'
      -- the touch at the admission is overwritten by the one at the end
      have hvisit : ∀ (session : Session) (later : Nat), touched.registry.visit k session later =
          s.registry.update k fun _ => ⟨session, later, e.isListed && !session.isTerminal⟩ := by
        intro session later
        rw [← Registry.visit_eq_update hk]
        exact Registry.visit_touch ..
      rw [Request.react_of_not_isExpired hx]
      simp only [handle, hroute, hserve, settle_eq, Request.complete, advance, hvisit,
        Registry.put_of_find? hf]
      rfl

end Server

end EnclaveGate
