import EnclaveGate.Proofs.Traffic.Steps

/-!
# Comparing two runs under a mask

A mask hides parts of messages 2 and 4. Two runs that take the same steps under two settings look the
same under a mask if the settings agree on everything that the table of sessions reads, and if every
offer and every answer to evidence looks the same. A step is compared with the same step of the masked
traffic under the other settings, so that only one of the two runs has to be taken apart.
-/

namespace EnclaveGate

/-- The same outcome with another answer. -/
def Outcome.map {α β : Type} (f : α → β) (outcome : Outcome α) : Outcome β :=
  ⟨outcome.session, outcome.result.map f, outcome.events⟩

/-- The same stage with another answer and another pending state. -/
def Stage.map {α β π ρ : Type} (f : α → β) (g : π → ρ) : Stage α π → Stage β ρ
  | .finished outcome => .finished (outcome.map f)
  | .asking pending => .asking (g pending)

/-- What is left of messages 2 and 4 when something of them is hidden. -/
structure Mask where
  /-- What is left of message 2. -/
  msg2 : Msg2 → Msg2
  /-- What is left of message 4. -/
  msg4 : Msg4 → Msg4
  /-- Hiding it twice hides no more of message 2. -/
  msg2_msg2 : ∀ m, msg2 (msg2 m) = msg2 m
  /-- Hiding it twice hides no more of message 4. -/
  msg4_msg4 : ∀ m, msg4 (msg4 m) = msg4 m
  /-- The revocation list is not hidden. -/
  msg2_sigRl : ∀ m sigRl, msg2 { m with sigRl } = { msg2 m with sigRl }
  /-- The verdict is not hidden. -/
  result_msg4 : ∀ m, (msg4 m).result = m.result

namespace Mask

variable (mask : Mask)

/-- An offer under a mask. -/
def offer (offer : Offer) : Offer := { offer with msg2 := mask.msg2 offer.msg2 }

/-- An answer under a mask. -/
def answer : (request : Request) → request.Answer → request.Answer
  | .msg1 _ => mask.msg2
  | .msg3 _ => mask.msg4

/-- What is kept of a request, under a mask. -/
def pending : (request : Request) → request.Pending → request.Pending
  | .msg1 _ => mask.offer
  | .msg3 _ => id

/-- Where a call stands, under a mask. -/
def stand {request : Request} : Stand request → Stand request
  | .refused cause => .refused cause
  | .admitted ticket => .admitted ticket
  | .asking visit pending => .asking visit (mask.pending request pending)
  | .leaving visit result => .leaving visit (result.map (mask.answer request))
  | .answered visit result => .answered visit (result.map (mask.answer request))

/-- A call under a mask. -/
def call (call : Call) : Call := ⟨call.request, mask.stand call.stand⟩

/-- Traffic under a mask. The server is not hidden. -/
def traffic (t : Traffic) : Traffic := ⟨t.server, t.calls.map mask.call⟩

/-! ## Hiding twice -/

variable {mask} {request : Request}

theorem offer_offer (o : Offer) : mask.offer (mask.offer o) = mask.offer o := by
  rw [offer, offer, mask.msg2_msg2]

theorem answer_answer (a : request.Answer) :
    mask.answer request (mask.answer request a) = mask.answer request a := by
  cases request with
  | msg1 m => exact mask.msg2_msg2 a
  | msg3 m => exact mask.msg4_msg4 a

theorem pending_pending (p : request.Pending) :
    mask.pending request (mask.pending request p) = mask.pending request p := by
  cases request with
  | msg1 m => exact offer_offer p
  | msg3 m => rfl

theorem result_result (r : Except Error request.Answer) :
    (r.map (mask.answer request)).map (mask.answer request) = r.map (mask.answer request) := by
  cases r with
  | error e => rfl
  | ok a => exact congrArg Except.ok (answer_answer a)

theorem stand_stand (s : Stand request) : mask.stand (mask.stand s) = mask.stand s := by
  cases s with
  | refused cause => rfl
  | admitted ticket => rfl
  | asking visit p => exact congrArg (Stand.asking visit) (pending_pending p)
  | leaving visit r => exact congrArg (Stand.leaving visit) (result_result r)
  | answered visit r => exact congrArg (Stand.answered visit) (result_result r)

theorem call_call (c : Call) : mask.call (mask.call c) = mask.call c := by
  rw [call, call, stand_stand]

theorem call_comp_call : mask.call ∘ mask.call = mask.call := funext call_call

theorem traffic_traffic (mask : Mask) (t : Traffic) :
    mask.traffic (mask.traffic t) = mask.traffic t := by
  rw [traffic, traffic, List.map_map, call_comp_call]

/-- A step that is possible on neither side leaves both sides alike. -/
theorem traffic_of_idle (mask : Mask) (t : Traffic) {x y : Traffic} (hx : x = t)
    (hy : y = mask.traffic t) : mask.traffic x = mask.traffic y := by
  rw [hx, hy, traffic_traffic]

/-! ## What is not hidden -/

variable {t : Traffic}

@[simp] theorem server_traffic : (mask.traffic t).server = t.server := rfl

theorem calls_traffic (mask : Mask) {i : Nat} {s : Stand request}
    (h : t.calls[i]? = some ⟨request, s⟩) :
    (mask.traffic t).calls[i]? = some ⟨request, mask.stand s⟩ := by
  rw [traffic, List.getElem?_map, h]
  rfl

theorem calls_traffic_none (mask : Mask) {i : Nat} (h : t.calls[i]? = none) :
    (mask.traffic t).calls[i]? = none := by
  rw [traffic, List.getElem?_map, h]
  rfl

@[simp] theorem holds?_stand (s : Stand request) : (mask.stand s).holds? = s.holds? := by
  cases s <;> rfl

@[simp] theorem isHeld_traffic (mask : Mask) (t : Traffic) (k : Ticket) :
    (mask.traffic t).isHeld k = t.isHeld k := by
  rw [Traffic.isHeld, traffic, List.any_map]
  exact congrArg t.calls.any (funext fun c => by simp [call])

theorem stand_concluded (visit : Visit) (outcome : Outcome request.Answer) :
    mask.stand (Traffic.concluded visit outcome) =
      Traffic.concluded visit (outcome.map (mask.answer request)) := by
  have hsession : (outcome.map (mask.answer request)).session = outcome.session := rfl
  rw [Traffic.concluded, Traffic.concluded, hsession]
  split <;> rfl

/-- A processing ends under the mask as it does without. -/
theorem traffic_conclude (i : Nat) (visit : Visit) (outcome : Outcome request.Answer)
    (tape : Tape) :
    mask.traffic (t.conclude i request visit outcome tape) =
      (mask.traffic t).conclude i request visit (outcome.map (mask.answer request)) tape := by
  have hcalls : (t.conclude i request visit outcome tape).calls.map mask.call =
      (t.calls.map mask.call).set i
        ⟨request, Traffic.concluded visit (outcome.map (mask.answer request))⟩ := by
    rw [Traffic.conclude_calls, List.map_set, call, stand_concluded]
  rw [traffic, hcalls]
  rfl

/-- What becomes of an offer does not depend on what is hidden of it. -/
theorem map_finishMsg1 (mask : Mask) (session : Session) (o : Offer) (reply : Except Error Bytes) :
    (session.finishMsg1 o reply).map mask.msg2 = session.finishMsg1 (mask.offer o) reply := by
  cases reply with
  | error e => rfl
  | ok sigRl =>
    have hanswer := mask.msg2_sigRl o.msg2 sigRl
    simp only [Session.finishMsg1, Session.accept, Outcome.map, Except.map, offer, hanswer]

/-- A completion is reported alike. -/
theorem closing_map (r : Except Error request.Answer) :
    request.closing (r.map (mask.answer request)) = request.closing r := by
  cases request with
  | msg1 m => rfl
  | msg3 m =>
    cases r with
    | error e => rfl
    | ok msg4 =>
      have hresult : (mask.answer (.msg3 m) msg4).result = msg4.result := mask.result_msg4 msg4
      simp only [Except.map, Request.closing, hresult]

end Mask

/-! ## What the table reads of the settings -/

section Table

variable {settings settings' : Settings}

theorem Registry.dropExpired_congr (limit : settings.sessionTimeout = settings'.sessionTimeout)
    (now : Nat) (registry : Registry) :
    registry.dropExpired settings now = registry.dropExpired settings' now := by
  simp only [dropExpired, limit]

theorem Registry.countExpired_congr (limit : settings.sessionTimeout = settings'.sessionTimeout)
    (now : Nat) (registry : Registry) :
    registry.countExpired settings now = registry.countExpired settings' now := by
  simp only [countExpired, limit]

theorem Registry.makeRoom_congr (cap : settings.maxSessions = settings'.maxSessions)
    (limit : settings.sessionTimeout = settings'.sessionTimeout) (now : Nat)
    (registry : Registry) : registry.makeRoom settings now = registry.makeRoom settings' now := by
  simp only [makeRoom, dropExpired_congr limit, cap]

theorem Server.openSession_congr (cap : settings.maxSessions = settings'.maxSessions)
    (limit : settings.sessionTimeout = settings'.sessionTimeout) (server : Server) :
    server.openSession settings = server.openSession settings' := by
  simp only [openSession, register, Registry.makeRoom_congr cap limit]

theorem Server.purge_congr (limit : settings.sessionTimeout = settings'.sessionTimeout)
    (server : Server) : server.purge settings = server.purge settings' := by
  simp only [purge, Registry.countExpired_congr limit, Registry.dropExpired_congr limit]

theorem Server.contains_congr (limit : settings.sessionTimeout = settings'.sessionTimeout)
    (server : Server) (id : SessionId) :
    server.contains settings id = server.contains settings' id := by
  simp only [contains, Registry.contains, limit]

theorem Server.route_congr (limit : settings.sessionTimeout = settings'.sessionTimeout)
    (server : Server) (id : SessionId) : server.route settings id = server.route settings' id := by
  simp only [route, contains_congr limit]

end Table

/-! ## Steps -/

/-- Two settings under which everything looks the same under a mask, as far as offers are made only
where a property holds. -/
structure Mask.Covers (mask : Mask) (p : Msg1 → Tape → Prop) (settings settings' : Settings) :
    Prop where
  /-- The number of sessions is capped alike. -/
  cap : settings.maxSessions = settings'.maxSessions
  /-- Sessions may be idle for the same time. -/
  limit : settings.sessionTimeout = settings'.sessionTimeout
  /-- The authority may take the same time. -/
  patience : settings.authorityTimeout = settings'.authorityTimeout
  /-- Revocation lists are fetched alike. -/
  fetch : settings.fetchSigRl = settings'.fetchSigRl
  /-- The same random bytes are drawn for an offer. -/
  draws : ∀ m tape, p m tape →
    (Offer.make settings m tape).2 = (Offer.make settings' m tape).2
  /-- Offers look the same. -/
  offers : ∀ m tape, p m tape →
    (Offer.make settings m tape).1.map mask.offer = (Offer.make settings' m tape).1.map mask.offer
  /-- Answers to evidence look the same, and the same random bytes are drawn for them. -/
  answers : ∀ (session : Session) (evidence : Evidence) (tape : Tape)
    (reply : Except Error QuoteVerdict),
    (session.finishMsg3 settings evidence tape reply).1.map mask.msg4 =
      (session.finishMsg3 settings' evidence tape reply).1.map mask.msg4 ∧
    (session.finishMsg3 settings evidence tape reply).2 =
      (session.finishMsg3 settings' evidence tape reply).2

namespace Traffic

/-- If a step makes an offer, message 1 and the random bytes have a property. -/
def OffersOnly (p : Msg1 → Tape → Prop) (t : Traffic) : Action → Prop
  | .enter i => ∀ (m : Msg1) (k : Ticket) (s : Session),
    t.calls[i]? = some ⟨.msg1 m, .admitted k⟩ → t.isHeld k = false → t.sessions[k]? = some s →
    s.phase = .awaitingMsg1 → p m t.server.tape
  | _ => True

/-- Whenever a run makes an offer, message 1 and the random bytes have a property. -/
def RunOffersOnly (settings : Settings) (p : Msg1 → Tape → Prop) (t : Traffic)
    (actions : List Action) : Prop :=
  ∀ before action after, actions = before ++ action :: after →
    (t.run settings before).OffersOnly p action

theorem RunOffersOnly.of_cons {settings : Settings} {p : Msg1 → Tape → Prop} {t : Traffic}
    {action : Action} {actions : List Action} (h : t.RunOffersOnly settings p (action :: actions)) :
    t.OffersOnly p action ∧ (t.step settings action).RunOffersOnly settings p actions := by
  constructor
  · exact h [] action actions rfl
  · rintro before next after rfl
    exact h (action :: before) next after rfl

theorem OffersOnly.and {p p' : Msg1 → Tape → Prop} {t : Traffic} {action : Action}
    (h : t.OffersOnly p action) (h' : t.OffersOnly p' action) :
    t.OffersOnly (fun m tape => p m tape ∧ p' m tape) action := by
  cases action with
  | enter i =>
    intro m k s hc hheld hs hp
    exact ⟨h m k s hc hheld hs hp, h' m k s hc hheld hs hp⟩
  | pass | openSession | purge | arrive | hear | leave => trivial

/-- Which offers a step makes does not depend on what is hidden. -/
theorem OffersOnly.of_masked {mask : Mask} {p : Msg1 → Tape → Prop} {t t' : Traffic}
    {action : Action} (heq : mask.traffic t = mask.traffic t') (h : t'.OffersOnly p action) :
    t.OffersOnly p action := by
  cases action with
  | enter i =>
    intro m k s hc hheld hs hp
    have hserver : (mask.traffic t).server = (mask.traffic t').server := by rw [heq]
    rw [Mask.server_traffic, Mask.server_traffic] at hserver
    have hheld' : t'.isHeld k = false := by
      rw [← Mask.isHeld_traffic mask, ← heq, Mask.isHeld_traffic, hheld]
    have hc' := Mask.calls_traffic mask hc
    rw [heq, Mask.traffic, List.getElem?_map, Option.map_eq_some_iff] at hc'
    obtain ⟨⟨request, stand⟩, hc', hcall⟩ := hc'
    obtain rfl : request = .msg1 m := congrArg Call.request hcall
    cases stand with
    | admitted k' =>
      cases hcall
      rw [hserver]
      rw [sessions, hserver] at hs
      exact h m k s hc' hheld' hs hp
    | refused | asking | leaving | answered => cases hcall
  | pass | openSession | purge | arrive | hear | leave => trivial

end Traffic

namespace Mask.Covers

variable {mask : Mask} {p : Msg1 → Tape → Prop} {settings settings' : Settings} {t : Traffic}

/-- A request is processed alike up to the question to the authority. -/
theorem begin (h : mask.Covers p settings settings') (session : Session) (tape : Tape)
    (request : Request)
    (hoffers : ∀ m, request = .msg1 m → session.phase = .awaitingMsg1 → p m tape) :
    (session.begin settings tape request).1.map (mask.answer request) (mask.pending request) =
      (session.begin settings' tape request).1.map (mask.answer request) (mask.pending request) ∧
    (session.begin settings tape request).2 = (session.begin settings' tape request).2 := by
  cases request with
  | msg3 m => exact ⟨rfl, rfl⟩
  | msg1 m =>
    by_cases hp : session.phase = .awaitingMsg1
    · have hd := h.draws m tape (hoffers m rfl hp)
      have ho := h.offers m tape (hoffers m rfl hp)
      simp only [Session.begin, Session.beginMsg1_of_awaiting _ tape hp, h.fetch]
      rcases hm : Offer.make settings m tape with ⟨r, rest⟩
      rcases hm' : Offer.make settings' m tape with ⟨r', rest'⟩
      rw [hm, hm'] at hd ho
      obtain rfl : rest = rest' := hd
      cases r with
      | error e =>
        cases r' with
        | error e' =>
          cases ho
          exact ⟨rfl, rfl⟩
        | ok o' => cases ho
      | ok o =>
        cases r' with
        | error e' => cases ho
        | ok o' =>
          have hoffer : mask.offer o = mask.offer o' := Except.ok.inj ho
          cases settings'.fetchSigRl with
          | true => exact ⟨congrArg Stage.asking hoffer, rfl⟩
          | false =>
            have hout := map_finishMsg1 mask session o (.ok [])
            have hout' := map_finishMsg1 mask session o' (.ok [])
            rw [← hoffer] at hout'
            exact ⟨congrArg Stage.finished (hout.trans hout'.symm), rfl⟩
    · have ha : session.phase.accepts (.msg1 m) = false :=
        Bool.eq_false_iff.mpr fun ha => hp (Phase.accepts_msg1.mp ha)
      rw [Session.begin_of_not_accepts settings tape ha,
        Session.begin_of_not_accepts settings' tape ha]
      exact ⟨rfl, rfl⟩

/-- A request is processed alike from the answer of the authority on. -/
theorem finish (h : mask.Covers p settings settings') (authority : Authority)
    (session : Session) (tape : Tape) (request : Request) (q : request.Pending) :
    (session.finish settings authority tape request q).1.map (mask.answer request) =
      (session.finish settings' authority tape request (mask.pending request q)).1.map
        (mask.answer request) ∧
    (session.finish settings authority tape request q).2 =
      (session.finish settings' authority tape request (mask.pending request q)).2 := by
  cases request with
  | msg1 m =>
    refine ⟨?_, rfl⟩
    have hgroup : (mask.offer q).handshake.groupId = q.handshake.groupId := rfl
    simp only [Session.finish, answer, pending, map_finishMsg1, offer_offer, hgroup, h.patience]
  | msg3 m =>
    simp only [Session.finish, pending, id, h.patience]
    exact h.answers session q tape _

theorem traffic_enter (h : mask.Covers p settings settings') (i : Nat)
    (hoffers : t.OffersOnly p (.enter i)) :
    mask.traffic (t.enter settings i) = mask.traffic ((mask.traffic t).enter settings' i) := by
  cases hc : t.calls[i]? with
  | none =>
    exact traffic_of_idle mask t (by simp [Traffic.enter, hc])
      (by simp [Traffic.enter, calls_traffic_none mask hc])
  | some c =>
    obtain ⟨request, s⟩ := c
    have hc' := calls_traffic mask hc
    cases s with
    | refused | asking | leaving | answered =>
      exact traffic_of_idle mask t (by simp [Traffic.enter, hc])
        (by simp [Traffic.enter, hc', stand])
    | admitted k =>
      cases hheld : t.isHeld k with
      | true =>
        exact traffic_of_idle mask t (by simp [Traffic.enter, hc, hheld])
          (by simp [Traffic.enter, hc', stand, hheld])
      | false =>
        cases he : t.server.registry.get? k with
        | none =>
          exact traffic_of_idle mask t (by simp [Traffic.enter, hc, hheld, he])
            (by simp [Traffic.enter, hc', stand, hheld, he])
        | some entry =>
          have hheld' : (mask.traffic t).isHeld k = false := by rw [isHeld_traffic, hheld]
          have hsession := t.sessions_getElem?_eq he
          obtain ⟨hstage, htape⟩ := h.begin entry.session t.server.tape request fun m hm hp => by
            subst hm
            exact hoffers m k entry.session hc hheld hsession hp
          rcases hb : entry.session.begin settings t.server.tape request with ⟨stage, rest⟩
          rcases hb' : entry.session.begin settings' t.server.tape request with ⟨stage', rest'⟩
          rw [hb, hb'] at hstage htape
          obtain rfl : rest = rest' := htape
          -- the stages are the same but for what is masked, so both are over or both ask
          cases stage with
          | finished outcome =>
            cases stage' with
            | asking q' => cases hstage
            | finished outcome' =>
              have hout := Stage.finished.inj hstage
              rw [Traffic.enter_of_finished hc hheld he hb,
                Traffic.enter_of_finished hc' hheld' he hb', traffic_conclude, traffic_conclude,
                traffic_traffic, hout]
              rfl
          | asking q =>
            cases stage' with
            | finished outcome' => cases hstage
            | asking q' =>
              have hq := Stage.asking.inj hstage
              rw [Traffic.enter_of_asking hc hheld he hb, Traffic.enter_of_asking hc' hheld' he hb']
              simp only [traffic, List.map_set, List.map_map, call_comp_call, call, stand, hq]

theorem traffic_hear (h : mask.Covers p settings settings') (i : Nat) (authority : Authority) :
    mask.traffic (t.hear settings i authority) =
      mask.traffic ((mask.traffic t).hear settings' i authority) := by
  cases hc : t.calls[i]? with
  | none =>
    exact traffic_of_idle mask t (by simp [Traffic.hear, hc])
      (by simp [Traffic.hear, calls_traffic_none mask hc])
  | some c =>
    obtain ⟨request, s⟩ := c
    have hc' := calls_traffic mask hc
    cases s with
    | refused | admitted | leaving | answered =>
      exact traffic_of_idle mask t (by simp [Traffic.hear, hc])
        (by simp [Traffic.hear, hc', stand])
    | asking visit q =>
      cases he : t.server.registry.get? visit.ticket with
      | none =>
        exact traffic_of_idle mask t (by simp [Traffic.hear, hc, he])
          (by simp [Traffic.hear, hc', stand, he])
      | some entry =>
        obtain ⟨hout, htape⟩ := h.finish authority entry.session t.server.tape request q
        rw [Traffic.hear_eq hc he, Traffic.hear_eq hc' he, traffic_conclude, traffic_conclude,
          traffic_traffic, hout, htape]
        rfl

theorem traffic_leave (i : Nat) :
    mask.traffic (t.leave i) = mask.traffic ((mask.traffic t).leave i) := by
  cases hc : t.calls[i]? with
  | none =>
    exact traffic_of_idle mask t (by simp [Traffic.leave, hc])
      (by simp [Traffic.leave, calls_traffic_none mask hc])
  | some c =>
    obtain ⟨request, s⟩ := c
    have hc' := calls_traffic mask hc
    cases s with
    | refused | admitted | asking | answered =>
      exact traffic_of_idle mask t (by simp [Traffic.leave, hc])
        (by simp [Traffic.leave, hc', stand])
    | leaving visit r =>
      have hcalls : (t.calls.set i ⟨request, .answered visit r⟩).map mask.call =
          (((mask.traffic t).calls.set i
            ⟨request, .answered visit (r.map (mask.answer request))⟩).map mask.call) := by
        rw [List.map_set, List.map_set, traffic, List.map_map, call_comp_call, call, call, stand,
          stand, result_result]
      simp only [Traffic.leave, hc, hc', stand, server_traffic, closing_map]
      rw [traffic, hcalls]
      rfl

theorem traffic_arrive (h : mask.Covers p settings settings') (request : Request) :
    mask.traffic (t.arrive settings request) =
      mask.traffic ((mask.traffic t).arrive settings' request) := by
  simp only [Traffic.arrive, server_traffic, Server.route_congr h.limit]
  rcases t.server.route settings' request.sessionId with ⟨cause | ticket, server⟩ <;>
    simp [traffic, call_comp_call, call, stand]

/-- A step looks the same under both settings, whether or not something was hidden before. -/
theorem traffic_step (h : mask.Covers p settings settings') (action : Traffic.Action)
    (hoffers : t.OffersOnly p action) :
    mask.traffic (t.step settings action) =
      mask.traffic ((mask.traffic t).step settings' action) := by
  -- a step of the server leaves the calls as they are
  have served : ∀ server : Server, mask.traffic { t with server } =
      mask.traffic { mask.traffic t with server } := by
    intro server
    have hcalls := congrArg Traffic.calls (traffic_traffic mask t)
    rw [traffic, traffic]
    exact congrArg (Traffic.mk server) hcalls.symm
  cases action with
  | pass ms => exact served _
  | openSession =>
    rw [Traffic.step, Traffic.step, server_traffic, Server.openSession_congr h.cap h.limit]
    exact served _
  | purge =>
    rw [Traffic.step, Traffic.step, server_traffic, Server.purge_congr h.limit]
    exact served _
  | arrive request => exact h.traffic_arrive request
  | enter i => exact h.traffic_enter i hoffers
  | hear i authority => exact h.traffic_hear i authority
  | leave i => exact traffic_leave i

/-- Runs that look the same go on looking the same. -/
theorem traffic_run {p' : Msg1 → Tape → Prop}
    (h : mask.Covers (fun m tape => p m tape ∧ p' m tape) settings settings')
    (h' : mask.Covers (fun m tape => p m tape ∧ p' m tape) settings' settings')
    {t' : Traffic} (heq : mask.traffic t = mask.traffic t') (actions : List Traffic.Action)
    (hoffers : t.RunOffersOnly settings p actions)
    (hoffers' : t'.RunOffersOnly settings' p' actions) :
    mask.traffic (t.run settings actions) = mask.traffic (t'.run settings' actions) := by
  induction actions generalizing t t' with
  | nil => exact heq
  | cons action actions ih =>
    obtain ⟨hnow, hlater⟩ := hoffers.of_cons
    obtain ⟨hnow', hlater'⟩ := hoffers'.of_cons
    have hboth := hnow.and (hnow'.of_masked heq)
    have hboth' := (hnow.of_masked heq.symm).and hnow'
    have hstep : mask.traffic (t.step settings action) = mask.traffic (t'.step settings' action) := by
      rw [h.traffic_step action hboth, h'.traffic_step action hboth', heq]
    exact ih hstep hlater hlater'

end Mask.Covers

end EnclaveGate
