import EnclaveGate.Proofs.Crowd.Identity
import EnclaveGate.Proofs.Server.Reaction

/-!
# Sessions do not disturb each other

A request leaves every entry with another id as it was, and so does every step of a call. What it
brings about at its own entry does not depend on the others, nor on random bytes that it does not
draw, nor on what the authority would have said to other questions. So requests to different sessions
can change places if none of them waits and each keeps its random bytes.
-/

namespace EnclaveGate

/-! ## The authority -/

/-- Two authorities give the same answer to a question. -/
def Authority.AgreeOn (authority other : Authority) : Question → Prop
  | .verdict quote => authority.verdict quote = other.verdict quote
  | .revocationList groupId => authority.revocationList groupId = other.revocationList groupId

section

variable {settings : Settings} {authority other : Authority} {request : Request} {tape : Tape}

/-- A session processes a request in the same way under authorities that give the same answer to the
question that it asks. -/
theorem Session.process_congr {session : Session}
    (h : ∀ question, session.asks settings tape request = some question →
      authority.AgreeOn other question) :
    session.process settings authority tape request = session.process settings other tape request ∧
    session.wait settings authority tape request = session.wait settings other tape request := by
  unfold asks at h
  unfold process wait
  rcases hb : session.begin settings tape request with ⟨outcome | pending, rest⟩
  · exact ⟨rfl, rfl⟩
  · simp only [hb] at h
    have hagree := h _ rfl
    cases request with
    | msg1 m =>
      have hreply : authority.revocationList pending.handshake.groupId =
          other.revocationList pending.handshake.groupId := hagree
      simp only [Session.finish, Request.wait, hreply, and_self]
    | msg3 m =>
      have hreply : authority.verdict pending.msg3.quote = other.verdict pending.msg3.quote := hagree
      simp only [Session.finish, Request.wait, hreply, and_self]

theorem Request.react_congr {now : Nat} {entry : Option Entry}
    (h : ∀ question, request.asks settings now entry tape = some question →
      authority.AgreeOn other question) :
    request.react settings authority now entry tape =
      request.react settings other now entry tape := by
  cases entry with
  | none => rfl
  | some e =>
    cases hx : e.isExpired settings.sessionTimeout now with
    | true => rw [react_of_isExpired hx, react_of_isExpired hx]
    | false =>
      rw [asks_of_not_isExpired hx] at h
      obtain ⟨hprocess, hwait⟩ := Session.process_congr h
      rw [react_of_not_isExpired hx, react_of_not_isExpired hx, hprocess, hwait]

end

namespace Server

variable {settings : Settings} {s s' : Server} {authority other : Authority} {request : Request}

/-- The entry after a request has the id of the request. -/
theorem id_entry (authority : Authority) (s : Server) (request : Request) (tape : Tape) (e : Entry)
    (h : (request.react settings authority s.now (s.registry.lookup? request.sessionId)
      tape).1.entry = some e) : e.session.id = request.sessionId := by
  refine Request.id_react (fun old hold => ?_) e h
  obtain ⟨-, -, -, -, hid⟩ := Registry.find?_of_lookup? hold
  exact hid

theorem agreeBut_handle (authority : Authority) (s : Server) (request : Request) :
    Registry.AgreeBut request.sessionId s.registry
      (s.handle settings authority request).2.registry := by
  rw [handle_eq]
  exact Registry.agreeBut_put (id_entry authority s request s.tape)

theorem unambiguous_handle (h : s.registry.Unambiguous) (authority : Authority)
    (request : Request) : (s.handle settings authority request).2.registry.Unambiguous := by
  rw [handle_eq]
  exact h.put (id_entry authority s request s.tape)

/-- The entry that the id of a request addresses after it. -/
theorem lookup?_handle (h : s.registry.Unambiguous) (authority : Authority) (request : Request) :
    (s.handle settings authority request).2.registry.lookup? request.sessionId =
      (request.react settings authority s.now (s.registry.lookup? request.sessionId)
        s.tape).1.entry.filter (·.isListed) := by
  rw [handle_eq]
  exact Registry.lookup?_put h (id_entry authority s request s.tape) (Request.isSome_react ..)

/-! ## What a request depends on -/

/-- A request does the same to two servers, as far as it concerns the request. -/
structure ActsAlike (request : Request) (s s' : Server)
    (done done' : Except Error request.Answer × Server) : Prop where
  /-- The answers are the same. -/
  result : done'.1 = done.1
  /-- The same is reported. -/
  events : ∃ events, done.2.journal = s.journal ++ events ∧ done'.2.journal = s'.journal ++ events
  /-- The id addresses the same entry afterwards. -/
  entry : done'.2.registry.lookup? request.sessionId = done.2.registry.lookup? request.sessionId
  /-- The same time has passed. -/
  now : done'.2.now = done.2.now

/-- A request finds the same on two servers: the same entry, the same time, and the same answer to the
question that is asked, if one is. -/
structure FindsSame (settings : Settings) (request : Request) (s s' : Server)
    (authority other : Authority) : Prop where
  /-- The id addresses the same entry. -/
  entry : s'.registry.lookup? request.sessionId = s.registry.lookup? request.sessionId
  /-- It is the same time. -/
  now : s'.now = s.now
  /-- The authorities give the same answer. -/
  answer : ∀ question, request.asks settings s.now (s.registry.lookup? request.sessionId) s.tape =
    some question → authority.AgreeOn other question

/-- What a request brings about depends on what it finds and on the random bytes that it draws. -/
inductive Depends (settings : Settings) (authority : Authority) (request : Request) (s : Server)
    (reachable : Server → Prop) : Prop
  /-- Random bytes are drawn; whatever comes behind them is left. -/
  | drawn (bytes : Bytes)
    (split : s.tape.bytes = bytes ++ (s.handle settings authority request).2.tape.bytes)
    (same : ∀ (s' : Server) (other : Authority) (more : Bytes), reachable s' →
      FindsSame settings request s s' authority other → s'.tape = ⟨bytes ++ more⟩ →
      ActsAlike request s s' (s.handle settings authority request)
        (s'.handle settings other request) ∧
      (s'.handle settings other request).2.tape = ⟨more⟩)
  /-- The tape is too short for what has to be drawn, and is left as it is. -/
  | short (h : request.Short s.tape)
    (left : (s.handle settings authority request).2.tape = s.tape)
    (same : ∀ (s' : Server) (other : Authority), reachable s' →
      FindsSame settings request s s' authority other → request.Short s'.tape →
      ActsAlike request s s' (s.handle settings authority request)
        (s'.handle settings other request) ∧
      (s'.handle settings other request).2.tape = s'.tape)

/-- Requests that react in the same way do the same. -/
theorem actsAlike_of_react (hu : s.registry.Unambiguous) (hu' : s'.registry.Unambiguous)
    (h : (request.react settings other s'.now (s'.registry.lookup? request.sessionId) s'.tape).1 =
      (request.react settings authority s.now (s.registry.lookup? request.sessionId) s.tape).1) :
    ActsAlike request s s' (s.handle settings authority request)
      (s'.handle settings other request) where
  result := by rw [handle_eq, handle_eq]; exact congrArg Reaction.result h
  events := by
    rw [handle_eq, handle_eq]
    exact ⟨_, rfl, congrArg (fun reaction => s'.journal ++ reaction.events) h⟩
  entry := by rw [lookup?_handle hu, lookup?_handle hu', h]
  now := by rw [handle_eq, handle_eq]; exact congrArg Reaction.now h

/-- What a request brings about on a server that finds the same is what it brings about here, if the
same is drawn there. -/
theorem FindsSame.react_eq (h : FindsSame settings request s s' authority other)
    {reaction : Reaction request} {left : Tape}
    (hd : (((request.react settings authority s.now (s.registry.lookup? request.sessionId)
        s'.tape).1,
      request.asks settings s.now (s.registry.lookup? request.sessionId) s'.tape),
      (request.react settings authority s.now (s.registry.lookup? request.sessionId) s'.tape).2) =
      ((reaction, request.asks settings s.now (s.registry.lookup? request.sessionId) s.tape),
        left)) :
    request.react settings other s'.now (s'.registry.lookup? request.sessionId) s'.tape =
      (reaction, left) := by
  simp only [Prod.mk.injEq] at hd
  obtain ⟨⟨hreaction, hasks⟩, hleft⟩ := hd
  have hagree : ∀ question, request.asks settings s.now (s.registry.lookup? request.sessionId)
      s'.tape = some question → authority.AgreeOn other question := by
    rw [hasks]
    exact h.answer
  rw [h.entry, h.now, ← Request.react_congr hagree]
  exact Prod.ext hreaction hleft

theorem tape_handle (s : Server) (authority : Authority) :
    (s.handle settings authority request).2.tape = (request.react settings authority s.now
      (s.registry.lookup? request.sessionId) s.tape).2 := by
  rw [handle_eq]

theorem handle_depends (hu : s.registry.Unambiguous) (authority : Authority) (request : Request)
    {reachable : Server → Prop} (hr : ∀ s', reachable s' → s'.registry.Unambiguous) :
    Depends settings authority request s reachable := by
  have reacts := Request.draws_react settings authority s.now request
    (s.registry.lookup? request.sessionId) s.tape
  cases reacts with
  | taken bytes split same =>
    refine .drawn bytes (by rw [tape_handle]; exact split) fun s' other more hs' found htape => ?_
    have hsame := found.react_eq (by rw [htape]; exact same more)
    refine ⟨actsAlike_of_react hu (hr s' hs') (by rw [hsame]), ?_⟩
    rw [tape_handle, hsame]
  | failed h left same =>
    refine .short h (by rw [tape_handle]; exact left) fun s' other hs' found hshort => ?_
    have hsame := found.react_eq (same s'.tape hshort)
    refine ⟨actsAlike_of_react hu (hr s' hs') (by rw [hsame]), ?_⟩
    rw [tape_handle, hsame]

/-! ## Two requests -/

/-- The server with other random bytes. -/
def withTape (server : Server) (tape : Tape) : Server := { server with tape }

/-- What two requests do one after the other, in both orders. -/
structure Exchanges (s : Server) {a b : Request} (x : Except Error a.Answer × Server)
    (xy : Except Error b.Answer × Server) (y : Except Error b.Answer × Server)
    (yx : Except Error a.Answer × Server) : Prop where
  /-- The answers do not depend on the order. -/
  answers : yx.1 = x.1 ∧ xy.1 = y.1
  /-- The registry is the same in the end. -/
  registry : xy.2.registry = yx.2.registry
  /-- Each request leaves the same of its random bytes. -/
  tapes : yx.2.tape = x.2.tape ∧ xy.2.tape = y.2.tape
  /-- No time has passed. -/
  now : xy.2.now = s.now ∧ yx.2.now = s.now
  /-- Each request reports the same. -/
  journal : ∃ events events', x.2.journal = s.journal ++ events ∧
    y.2.journal = s.journal ++ events' ∧ xy.2.journal = s.journal ++ events ++ events' ∧
    yx.2.journal = s.journal ++ events' ++ events

/-- A request that came after another one, for which no time has passed, finds what it would have found
before it. -/
theorem handle_handle (hu : s.registry.Unambiguous) {a b : Request}
    (hne : a.sessionId ≠ b.sessionId) (authority : Authority) (tape : Tape)
    (hn : (s.handle settings other a).2.now = s.now) :
    ((s.handle settings other a).2.withTape tape).handle settings authority b =
      let (reaction, left) := b.react settings authority s.now (s.registry.lookup? b.sessionId) tape
      (reaction.result,
        { registry := (s.handle settings other a).2.registry.put b.sessionId reaction.entry
          tape := left
          now := reaction.now
          journal := (s.handle settings other a).2.journal ++ reaction.events }) := by
  have hentry : (s.handle settings other a).2.registry.lookup? b.sessionId =
      s.registry.lookup? b.sessionId :=
    (agreeBut_handle other s a).lookup?_eq hu (unambiguous_handle hu other a) (Ne.symm hne)
  have hfound : ((s.handle settings other a).2.withTape tape).registry.lookup? b.sessionId =
      s.registry.lookup? b.sessionId := hentry
  have hnow : ((s.handle settings other a).2.withTape tape).now = s.now := hn
  rw [handle_eq, hfound, hnow]
  rfl

/-- Requests with different ids, for which no time passes, can change places. -/
theorem handle_exchanges (hu : s.registry.Unambiguous) {a b : Request}
    (hne : a.sessionId ≠ b.sessionId) (authority other : Authority) (ta tb : Tape)
    (ha : ((s.withTape ta).handle settings authority a).2.now = s.now)
    (hb : ((s.withTape tb).handle settings other b).2.now = s.now) :
    Exchanges s ((s.withTape ta).handle settings authority a)
      ((((s.withTape ta).handle settings authority a).2.withTape tb).handle settings other b)
      ((s.withTape tb).handle settings other b)
      ((((s.withTape tb).handle settings other b).2.withTape ta).handle settings authority a) := by
  have hua : (s.withTape ta).registry.Unambiguous := hu
  have hub : (s.withTape tb).registry.Unambiguous := hu
  have hxy := handle_handle hua hne other tb ha
  have hyx := handle_handle hub (Ne.symm hne) authority ta hb
  have hx := handle_eq settings authority (s.withTape ta) a
  have hy := handle_eq settings other (s.withTape tb) b
  constructor
  case answers =>
    rw [hxy, hyx, hx, hy]
    exact ⟨rfl, rfl⟩
  case registry =>
    rw [hxy, hyx, hx, hy]
    exact Registry.put_comm hu hne (id_entry authority (s.withTape ta) a ta)
      (id_entry other (s.withTape tb) b tb)
  case tapes =>
    rw [hxy, hyx, hx, hy]
    exact ⟨rfl, rfl⟩
  case now =>
    rw [hx] at ha
    rw [hy] at hb
    rw [hxy, hyx]
    exact ⟨hb, ha⟩
  case journal =>
    rw [hxy, hyx, hx, hy]
    exact ⟨_, _, rfl, rfl, rfl, rfl⟩

end Server

/-! ## Steps of calls -/

namespace Traffic

variable {settings : Settings} {t : Traffic}

/-- A step is one of a call for an id. -/
def Action.IsFor (t : Traffic) (id : SessionId) : Action → Prop
  | arrive request => request.sessionId = id
  | enter i | hear i _ | leave i => ∃ c, t.calls[i]? = some c ∧ c.request.sessionId = id
  | pass _ | openSession | purge => False

/-- A step that changes one entry, whose session has an id, changes no entry with another id. -/
theorem agreeBut_of_change {t' : Traffic} (hc : t.server.Change settings t'.server) {k : Ticket}
    {id : SessionId} (hk : ∃ s, t.sessions[k]? = some s ∧ s.id = id)
    (hne : ∀ j, j ≠ k → t'.server.registry.get? j = t.server.registry.get? j) :
    Registry.AgreeBut id t.server.registry t'.server.registry := by
  obtain ⟨session, hs, hid⟩ := hk
  obtain ⟨e, he, rfl⟩ := exists_entry _ hs
  obtain ⟨e', he', hage⟩ := hc.get?_left he
  refine .of_get? hne (fun found hf => ?_) fun found hf => ?_
  · rw [he] at hf
    cases hf
    exact hid
  · rw [he'] at hf
    cases hf
    exact hage.id_eq.trans hid

theorem get?_leave_ne {i : Nat} {c : Call} {j k : Ticket} (hi : t.calls[i]? = some c)
    (hk : c.stand.ticket? = some k) (h : j ≠ k) :
    (t.leave i).server.registry.get? j = t.server.registry.get? j := by
  unfold leave
  split
  · rename_i hi'
    rw [hi] at hi'
    cases hi'
    cases hk
    simp only [Server.report, Registry.unlist, Registry.get?_update, if_neg (Ne.symm h)]
  · rfl

/-- A request that arrives changes no entry with another id. -/
theorem agreeBut_arrive (request : Request) :
    Registry.AgreeBut request.sessionId t.server.registry
      (t.arrive settings request).server.registry := by
  have hserver : (t.arrive settings request).server =
      (t.server.route settings request.sessionId).2 := by
    unfold arrive
    rcases t.server.route settings request.sessionId with ⟨cause | k, server⟩ <;> rfl
  rw [hserver, Server.route]
  cases hf : t.server.registry.find? request.sessionId with
  | none => exact .refl _ _
  | some k =>
    have hid : ∀ e, t.server.registry.get? k = some e → e.session.id = request.sessionId := by
      intro e he
      obtain ⟨found, hfound, -, hids⟩ := Registry.lists_of_find? hf
      rw [he] at hfound
      cases hfound
      exact hids
    dsimp only
    split
    · exact .update fun e he => ⟨hid e he, hid e he⟩
    · exact .update fun e he => ⟨hid e he, hid e he⟩

/-- A step of a call changes no entry with another id. -/
theorem agreeBut_step (ha : t.Addressed) {action : Action} {id : SessionId}
    (h : action.IsFor t id) :
    Registry.AgreeBut id t.server.registry (t.step settings action).server.registry := by
  have hc := t.step_change settings action
  -- a call at a session changes the entry of this session only, and one that was refused none
  have ofCall : ∀ {i : Nat} {c : Call}, t.calls[i]? = some c → c.request.sessionId = id →
      (∀ j k, c.stand.ticket? = some k → j ≠ k →
        (t.step settings action).server.registry.get? j = t.server.registry.get? j) →
      (c.stand.ticket? = none → t.step settings action = t) →
      Registry.AgreeBut id t.server.registry (t.step settings action).server.registry := by
    intro i c hi hid hne hnone
    cases hk : c.stand.ticket? with
    | none =>
      rw [hnone hk]
      exact .refl id _
    | some k =>
      obtain ⟨s, hs, hsid⟩ := ha i c k hi hk
      exact agreeBut_of_change hc ⟨s, hs, hsid.trans hid⟩ fun j hj => hne j k hk hj
  cases action with
  | pass ms => cases h
  | openSession => cases h
  | purge => cases h
  | arrive request =>
    have hid : request.sessionId = id := h
    subst hid
    exact agreeBut_arrive request
  | enter i =>
    obtain ⟨c, hi, hid⟩ := h
    refine ofCall hi hid (fun j k hk hj => get?_enter_ne hi hk hj) fun hk => ?_
    rcases c with ⟨request, stand⟩
    cases stand <;> cases hk
    simp [step, enter, hi]
  | hear i authority =>
    obtain ⟨c, hi, hid⟩ := h
    refine ofCall hi hid (fun j k hk hj => get?_hear_ne hi hk hj) fun hk => ?_
    rcases c with ⟨request, stand⟩
    cases stand <;> cases hk
    simp [step, hear, hi]
  | leave i =>
    obtain ⟨c, hi, hid⟩ := h
    refine ofCall hi hid (fun j k hk hj => get?_leave_ne hi hk hj) fun hk => ?_
    rcases c with ⟨request, stand⟩
    cases stand <;> cases hk
    simp [step, leave, hi]

/-! ## Every run -/

/-- Requests and calls for one id do not disturb sessions with other ids, nor depend on them. -/
structure Isolates (settings : Settings) (t : Traffic) (reachable : Server → Prop) : Prop where
  /-- Whatever comes of a request, every other id addresses the same entry as before. -/
  handled : ∀ (authority : Authority) (request : Request) (other : SessionId),
    other ≠ request.sessionId →
    (t.server.handle settings authority request).2.registry.lookup? other =
      t.server.registry.lookup? other
  /-- So it does after every step of a call. -/
  stepped : ∀ (action : Action) (id other : SessionId), action.IsFor t id → other ≠ id →
    (t.step settings action).server.registry.lookup? other = t.server.registry.lookup? other
  /-- What a request brings about depends on its entry, the time, the answer of the authority and the
  random bytes that it draws. -/
  depends : ∀ (authority : Authority) (request : Request),
    t.server.Depends settings authority request reachable
  /-- Requests for different ids that do not wait can change places, each with its random bytes. -/
  exchanges : ∀ (authority other : Authority) (a b : Request) (ta tb : Tape),
    a.sessionId ≠ b.sessionId →
    let x := (t.server.withTape ta).handle settings authority a
    let y := (t.server.withTape tb).handle settings other b
    x.2.now = t.server.now → y.2.now = t.server.now →
    t.server.Exchanges x ((x.2.withTape tb).handle settings other b) y
      ((y.2.withTape ta).handle settings authority a)

/-- In every run, sessions do not disturb each other. -/
theorem sessions_isolated (settings : Settings) (tape : Tape) (actions : List Action) :
    Isolates settings ((start tape).run settings actions) fun s' =>
      ∃ tape' actions', s' = ((start tape').run settings actions').server := by
  have hu := unambiguous_run settings tape actions
  constructor
  case handled =>
    intro authority request other hne
    exact (Server.agreeBut_handle authority _ request).lookup?_eq hu
      (Server.unambiguous_handle hu authority request) hne
  case stepped =>
    intro action id other h hne
    exact (agreeBut_step (addressed_run settings tape actions) h).lookup?_eq hu (hu.step action) hne
  case depends =>
    intro authority request
    refine Server.handle_depends hu authority request fun s' hs' => ?_
    obtain ⟨tape', actions', rfl⟩ := hs'
    exact unambiguous_run settings tape' actions'
  case exchanges =>
    intro authority other a b ta tb hne x y hx hy
    exact Server.handle_exchanges hu hne authority other ta tb hx hy

end Traffic

end EnclaveGate
