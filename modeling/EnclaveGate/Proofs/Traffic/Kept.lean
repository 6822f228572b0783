import EnclaveGate.Proofs.Session.Offer
import EnclaveGate.Proofs.Traffic.Orderly

/-!
# Sessions that are answered but gone

A message counts as activity when it arrives and when its processing is over, but not in between. A
session whose message 1 waits for the authority can therefore be found idle and removed, and the
message is answered all the same. Where the number of sessions is not capped, and requests look
sessions up and judge them in one step, this is the only way in which an answered session can be
gone.
-/

namespace EnclaveGate

namespace Traffic

/-- Some step finds a session with an id idle for too long. -/
def FoundIdle (settings : Settings) (t : Traffic) (k : Ticket) (id : SessionId)
    (actions : List Action) : Prop :=
  ∃ before action after, actions = before ++ action :: after ∧ action.Inspects id ∧
    (t.run settings before).Expired settings k

/-- A session is over. -/
def Over (t : Traffic) (k : Ticket) : Prop :=
  ∃ s, t.sessions[k]? = some s ∧ s.isTerminal = true

/-- Another session is listed under an id and was not idle for too long. -/
def Reissued (settings : Settings) (t : Traffic) (k : Ticket) (id : SessionId) : Prop :=
  ∃ (j : Ticket), j ≠ k ∧ t.Lists j id ∧ ¬ t.Expired settings j

variable {settings : Settings} {t : Traffic} {k : Ticket} {id : SessionId}

theorem not_foundIdle_nil : ¬ t.FoundIdle settings k id [] := by
  rintro ⟨before, action, after, he, -⟩
  exact absurd he (by simp)

theorem foundIdle_cons {action : Action} {actions : List Action} :
    t.FoundIdle settings k id (action :: actions) ↔
      action.Inspects id ∧ t.Expired settings k ∨
        (t.step settings action).FoundIdle settings k id actions := by
  constructor
  · rintro ⟨before, a, after, he, hi, hx⟩
    cases before with
    | nil =>
      obtain ⟨rfl, rfl⟩ := List.cons.inj he
      exact Or.inl ⟨hi, hx⟩
    | cons b before =>
      obtain ⟨rfl, rfl⟩ := List.cons.inj he
      exact Or.inr ⟨before, a, after, rfl, hi, hx⟩
  · rintro (⟨hi, hx⟩ | ⟨before, a, after, rfl, hi, hx⟩)
    · exact ⟨[], action, actions, rfl, hi, hx⟩
    · exact ⟨action :: before, a, after, rfl, hi, hx⟩

/-- No step finds a session idle while it is within the limit. -/
theorem not_foundIdle_of_elapsed {id : SessionId} {actions : List Action}
    (h : t.server.registry.ActiveSince k t.server.now)
    (hlimit : ∀ limit, settings.sessionTimeout = some limit → elapsed actions ≤ limit) :
    ¬ t.FoundIdle settings k id actions := by
  rintro ⟨before, action, after, rfl, -, hx⟩
  obtain ⟨hr, hn⟩ := activeSince_run settings before h (Nat.le_refl _)
  refine hr.not_expired ?_ hx
  intro limit hl
  have he := hlimit limit hl
  rw [elapsed_append] at he
  omega

/-- What is over stays over. -/
theorem Over.step (ho : Over t k) (h : Coherent settings t) (action : Action) :
    Over (t.step settings action) k := by
  obtain ⟨s, hs, ht⟩ := ho
  rcases (t.step_effect settings action).session_cases h hs with
    hs' | ⟨-, -, -, s', -, -, -, -, -, -, -, hm⟩
  · exact ⟨s, hs', ht⟩
  · exact absurd (hm.not_isTerminal.symm.trans ht) (by simp)

theorem Over.run (ho : Over t k) (h : Coherent settings t) (actions : List Action) :
    Over (t.run settings actions) k := by
  induction actions generalizing t with
  | nil => exact ho
  | cons action actions ih =>
    exact ih (ho.step h action) (h.effect (t.step_effect settings action))

/-- A session that is not over in the end is listed as long as no step finds it idle for too long. -/
theorem lists_run_iff (id : SessionId) (h : Coherent settings t) (hu : Unambiguous t)
    (hmax : settings.maxSessions = none) {s : Session} (hk : t.sessions[k]? = some s)
    {actions : List Action} (hlive : ¬ Over (t.run settings actions) k) :
    (t.run settings actions).Lists k id ↔
      t.Lists k id ∧ ¬ t.FoundIdle settings k id actions := by
  induction actions generalizing t s with
  | nil => simp [Traffic.run, not_foundIdle_nil]
  | cons action actions ih =>
    have he := t.step_effect settings action
    have hknown : (k : Nat) < t.server.registry.entries.length := by
      obtain ⟨hl, -⟩ := List.getElem?_eq_some_iff.mp hk
      simpa [sessions, Server.sessions] using hl
    have hrem : ¬ t.Removes k action := by
      intro hr
      cases action with
      | leave i =>
        obtain ⟨request, v, r, hi, rfl⟩ := hr
        exact hlive (Over.run (h.leaving i request v r hi) h (.leave i :: actions))
      | pass | openSession | purge | arrive | enter | hear => exact hr
    obtain ⟨s', hk'⟩ : ∃ s', (t.step settings action).sessions[k]? = some s' := by
      rcases he.session_cases h hk with hs | ⟨-, -, -, s', -, -, -, -, -, hs, -⟩
      · exact ⟨s, hs⟩
      · exact ⟨s', hs⟩
    rw [run_cons, ih (h.effect he) (hu.step action) hk' hlive, lists_step_iff hu hmax hknown action,
      foundIdle_cons]
    simp only [hrem, not_false_eq_true, and_true, not_or, and_assoc]

/-! ## The step that answers a call -/

/-- A step ends the processing of a call, which is answered with a result. -/
def Concludes (settings : Settings) (t t' : Traffic) (i : Nat) {request : Request}
    (stand : Stand request) (r : Except Error request.Answer) : Prop :=
  ∃ v outcome tape, t' = t.conclude i request v outcome tape ∧ stand.ticket? = some v.ticket ∧
    t.sessions[v.ticket]? = some v.found ∧ v.Yields settings request outcome ∧ outcome.result = r

section Concludes

variable {i : Nat} {request : Request} {stand stand' : Stand request}
  {r : Except Error request.Answer}

/-- A call that is answered does not stand where it stood. -/
theorem calls_ne_of_answered {t' : Traffic} (hi : t.calls[i]? = some ⟨request, stand⟩)
    (hr : stand.result? = none) (hi' : t'.calls[i]? = some ⟨request, stand'⟩)
    (hr' : stand'.result? = some r) : t'.calls[i]? ≠ t.calls[i]? := by
  rw [hi, hi']
  intro hs
  cases hs
  rw [hr] at hr'
  cases hr'

/-- A call that is over when it has its session was processed at once. -/
theorem enter_concludes (hi : t.calls[i]? = some ⟨request, stand⟩) (hr : stand.result? = none)
    (hi' : (t.enter settings i).calls[i]? = some ⟨request, stand'⟩)
    (hr' : stand'.result? = some r) : Concludes settings t (t.enter settings i) i stand r := by
  rcases t.enter_cases settings i with hs |
    ⟨request', k, entry, pending, tape, hadm, -, -, -, hs⟩ |
    ⟨request', k, entry, outcome, tape, hadm, -, he, hb, hs⟩
  · exact absurd (by rw [hs]) (calls_ne_of_answered hi hr hi' hr')
  · -- the authority is asked, so the call is not over
    rw [hs, set_self hadm] at hi'
    cases hi'
    cases hr'
  · cases hi.symm.trans hadm
    rw [hs, conclude_calls, set_self hi] at hi'
    cases hi'
    rw [result?_concluded] at hr'
    exact ⟨_, outcome, tape, hs, rfl, t.sessions_getElem?_eq he, Or.inl ⟨rfl, by rw [hb]⟩,
      Option.some.inj hr'⟩

/-- A call that is over when it hears from the authority was processed with what it heard. -/
theorem hear_concludes (h : Coherent settings t) {authority : Authority}
    (hi : t.calls[i]? = some ⟨request, stand⟩) (hr : stand.result? = none)
    (hi' : (t.hear settings i authority).calls[i]? = some ⟨request, stand'⟩)
    (hr' : stand'.result? = some r) :
    Concludes settings t (t.hear settings i authority) i stand r := by
  rcases t.hear_cases settings i authority with hs |
    ⟨request', v, pending, entry, hask, he, hs⟩
  · exact absurd (by rw [hs]) (calls_ne_of_answered hi hr hi' hr')
  · cases hi.symm.trans hask
    obtain ⟨hf, hb⟩ := h.asking i request v pending hi
    have hfe : entry.session = v.found := Option.some.inj ((t.sessions_getElem?_eq he).symm.trans hf)
    rw [hfe] at hs
    rw [hs, conclude_calls, set_self hi] at hi'
    cases hi'
    rw [result?_concluded] at hr'
    refine ⟨_, _, _, hs, ?_, ?_, heard_yields hb authority t.server.tape, Option.some.inj hr'⟩
    · rw [ticket_heard]
      rfl
    · rw [ticket_heard, found_heard, hf]

/-- The step that answers a call ends its processing. -/
theorem step_concludes (h : Coherent settings t) {action : Action}
    (hi : t.calls[i]? = some ⟨request, stand⟩) (hr : stand.result? = none)
    (hi' : (t.step settings action).calls[i]? = some ⟨request, stand'⟩)
    (hr' : stand'.result? = some r) :
    Concludes settings t (t.step settings action) i stand r := by
  -- a step that leaves the call where it stood does not answer it
  have changed : (t.step settings action).calls[i]? ≠ t.calls[i]? :=
    calls_ne_of_answered hi hr hi' hr'
  by_cases hcall : action.call? = some i
  · cases action with
    | pass | openSession | purge | arrive => cases hcall
    | enter j =>
      cases hcall
      exact enter_concludes hi hr hi' hr'
    | hear j authority =>
      cases hcall
      exact hear_concludes h hi hr hi' hr'
    | leave j =>
      cases hcall
      refine absurd ?_ changed
      rw [step, leave_eq_self]
      rintro ⟨other, v, r', hl⟩
      rw [hi] at hl
      cases hl
      cases hr
  · exact absurd ((calls_step_ne hcall hi).trans hi.symm) changed

end Concludes

/-- A session whose message was just processed was not idle. -/
theorem not_expired_conclude {i : Nat} {request : Request} {v : Visit}
    {outcome : Outcome request.Answer} {tape : Tape} :
    ¬ (t.conclude i request v outcome tape).Expired settings v.ticket := by
  rintro ⟨e, he, hx⟩
  simp only [conclude, Server.report, Registry.store, Registry.get?_update, if_true,
    Option.map_eq_some_iff] at he
  obtain ⟨e₀, -, rfl⟩ := he
  simp only [Entry.isExpired, conclude, Server.report, Nat.sub_self] at hx
  split at hx <;> simp at hx

/-- An admitted call addresses the session that is listed under its id, which is a sign of
activity. -/
theorem lists_of_admitted {request : Request}
    (h : (t.arrive settings request).calls[t.calls.length]? = some ⟨request, .admitted k⟩) :
    (t.arrive settings request).Lists k request.sessionId ∧
      (t.arrive settings request).server.registry.ActiveSince k
        (t.arrive settings request).server.now := by
  cases hf : t.server.registry.find? request.sessionId with
  | none => simp [arrive, Server.route, hf] at h
  | some j =>
    cases hc : t.server.contains settings request.sessionId with
    | false => simp [arrive, Server.route, hf, hc] at h
    | true =>
      have hj : j = k := by simpa [arrive, Server.route, hf, hc] using h
      subst hj
      obtain ⟨e, hg, hl, hid⟩ := Registry.lists_of_find? hf
      simp only [arrive, Server.route, hf, hc, if_true, Lists, Registry.lists_touch]
      refine ⟨⟨e, hg, hl, hid⟩, { e with lastActive := t.server.now }, ?_, Nat.le_refl _⟩
      rw [Registry.touch, Registry.get?_update, if_pos rfl, hg]
      rfl

/-- A message 1 is admitted to a session, other things happen, and one more step answers it with
message 2. -/
structure Answers (settings : Settings) (t : Traffic) (msg1 : Msg1) (k : Ticket)
    (during : List Action) (last : Action) (msg2 : Msg2) : Prop where
  /-- The message is admitted. -/
  admitted : (t.arrive settings (.msg1 msg1)).calls[t.calls.length]? =
    some ⟨.msg1 msg1, .admitted k⟩
  /-- It is not answered by what happens then. -/
  unanswered : ∀ stand : Stand (.msg1 msg1),
    ((t.arrive settings (.msg1 msg1)).run settings during).calls[t.calls.length]? =
      some ⟨.msg1 msg1, stand⟩ → stand.result? = none
  /-- It is answered by the last step. -/
  answered : ∃ stand : Stand (.msg1 msg1),
    (((t.arrive settings (.msg1 msg1)).run settings during).step settings last).calls[
      t.calls.length]? = some ⟨.msg1 msg1, stand⟩ ∧ stand.result? = some (.ok msg2)

/-- In coherent traffic, an answered session is still there exactly if it was not found idle. -/
theorem Coherent.contains_iff (hc : Coherent settings t) (hu : Unambiguous t)
    (hmax : settings.maxSessions = none) {msg1 : Msg1} {during : List Action} {last : Action}
    {msg2 : Msg2} (h : Answers settings t msg1 k during last msg2) :
    let arrived := t.arrive settings (.msg1 msg1)
    let final := (arrived.run settings during).step settings last
    final.server.contains settings msg1.sessionId = true ↔
      ¬ arrived.FoundIdle settings k msg1.sessionId during ∨
        final.Reissued settings k msg1.sessionId := by
  obtain ⟨hadm, hopen, stand', hans, hres⟩ := h
  intro arrived final
  have hc1 : Coherent settings arrived := hc.effect (t.arrive_effect settings _)
  have hu1 : Unambiguous arrived := hu.step (.arrive (.msg1 msg1))
  have hc2 := hc1.run during
  have hu2 : Unambiguous (arrived.run settings during) := hu1.run during
  have hu3 : Unambiguous final := hu2.step last
  -- the call is still at its session when the last step ends its processing
  obtain ⟨stand, hi, hk⟩ := ticket_kept_run during hadm rfl
  obtain ⟨v, outcome, tape', hstep, hkv, hfound, hy, hr⟩ :=
    step_concludes hc2 hi (hopen stand hi) hans hres
  rw [hk] at hkv
  obtain rfl : k = v.ticket := Option.some.inj hkv
  obtain ⟨authority, hp⟩ := hy.process
  have hid : outcome.session.id = v.found.id := by
    rw [← hp]
    exact Session.id_process settings authority v.tape v.found (.msg1 msg1)
  have hfinal : final.sessions[v.ticket]? = some outcome.session := by
    obtain ⟨hl, -⟩ := List.getElem?_eq_some_iff.mp hfound
    simp only [final, hstep, conclude_sessions]
    exact List.getElem?_set_self hl
  -- the session waits for message 3 now, so it was never over
  have hlive : ¬ Over (arrived.run settings during) v.ticket := by
    intro hover
    obtain ⟨s, hs, ht⟩ := hover.step hc2 last
    obtain ⟨handshake, hph⟩ := Session.awaitingMsg3_of_process settings authority v.tape
      ((congrArg Outcome.result hp).trans hr)
    rw [hp] at hph
    rw [hfinal] at hs
    cases hs
    simp [Session.isTerminal, hph, Phase.isTerminal] at ht
  obtain ⟨hlist, -⟩ : arrived.Lists v.ticket msg1.sessionId ∧ _ := lists_of_admitted hadm
  obtain ⟨e₁, he₁, -⟩ := id hlist
  have hs₁ := sessions_getElem?_eq _ he₁
  have hduring := lists_run_iff msg1.sessionId hc1 hu1 hmax hs₁ hlive
  have hlast : final.Lists v.ticket msg1.sessionId ↔
      (arrived.run settings during).Lists v.ticket msg1.sessionId := by
    simp only [final, hstep]
    refine lists_conclude fun e he => ?_
    have hfe := sessions_getElem?_eq _ he
    rw [hfound] at hfe
    rw [hid, Option.some.inj hfe]
  have hfresh : ¬ final.Expired settings v.ticket := by
    simp only [final, hstep]
    exact not_expired_conclude
  rw [Server.contains, Registry.contains_iff hu3]
  constructor
  · rintro ⟨j, hj, hx⟩
    by_cases hjk : j = v.ticket
    · subst hjk
      exact Or.inl (hduring.mp (hlast.mp hj)).2
    · exact Or.inr ⟨j, hjk, hj, hx⟩
  · rintro (hn | ⟨j, -, hj, hx⟩)
    · exact ⟨v.ticket, hlast.mpr (hduring.mpr ⟨hlist, hn⟩), hfresh⟩
    · exact ⟨j, hj, hx⟩

/-- Where the number of sessions is not capped, a session whose message 1 has just been answered is
still there exactly if no purge and no request for its id found it idle for too long while the
message was on its way, or if its id has since been given to another session. This holds where a
request looks a session up, judges it, and touches or removes it in one step. Where these are steps
of their own, as in `Crowd`, a request that judged the session idle before message 1 arrived may
still remove it afterwards. -/
theorem answered_contains_iff (settings : Settings) (hmax : settings.maxSessions = none)
    (tape : Tape) (before during : List Action) (last : Action) (msg1 : Msg1) (k : Ticket)
    (msg2 : Msg2)
    (h : Answers settings ((start tape).run settings before) msg1 k during last msg2) :
    let arrived := ((start tape).run settings before).arrive settings (.msg1 msg1)
    let final := (arrived.run settings during).step settings last
    final.server.contains settings msg1.sessionId = true ↔
      ¬ arrived.FoundIdle settings k msg1.sessionId during ∨
        final.Reissued settings k msg1.sessionId :=
  (coherent_run settings tape before).contains_iff (unambiguous_run settings tape before) hmax h

/-! ## A session that is purged while its message 1 waits -/

/-- Settings with a limit of 10 ms, under which the revocation list is fetched. -/
def hasty : Settings :=
  ((Settings.make (Block.zero 16) .one []).withSessionTimeout (some 10)).withFetchSigRl true

/-- An authority that takes 20 ms to name an empty revocation list. -/
def slow : Authority := ⟨fun _ => ⟨20, .error .randomness⟩, fun _ => ⟨20, .ok []⟩⟩

/-- The offer to the smallest message 1. -/
def smallestOffer : Offer :=
  Offer.between hasty .one (P256.SecretKey.one.sharedCoordinate .base) P256.PublicKey.base.wire
    Ecdsa.Signature.one.wire

theorem make_smallestOffer : Offer.make hasty .one .opened = (.ok smallestOffer, .drawn) := by
  have hga : Msg1.one.ga = P256.PublicKey.base.wire := rfl
  have hkey : hasty.longTermKey = .one := rfl
  have hp : Msg1.one.ga.decode = .ok .base := by
    rw [hga]
    exact WireKey.decode_wire .base
  have hs : Ecdsa.sign? hasty.longTermKey
      (KeyExchange.transcript P256.PublicKey.base.wire Msg1.one.ga) = some .one := by
    rw [hkey, hga]
    exact sign_one
  rw [Offer.make_eq hp Tape.draw?_opened,
    Offer.withEphemeral_eq P256.SecretKey.publicKey?_one hs, smallestOffer]

/-- The smallest message 1 at its session. -/
def smallestVisit : Visit := ⟨0, .start 1, .opened, none⟩

/-- What happens while message 1 waits: a purge after 15 ms. -/
def meanwhile : List Action := [.enter 0, .pass 15, .purge, .pass 5]

theorem smallest_arrived : arrive hasty ((start .one).run hasty [.openSession]) (.msg1 .one) =
    ⟨⟨⟨[⟨.start 1, 0, true⟩]⟩, .opened, 0, [.created 1]⟩, [⟨.msg1 .one, .admitted 0⟩]⟩ := by
  have hopen : ((Server.start .one).openSession hasty).2 =
      ⟨⟨[⟨.start 1, 0, true⟩]⟩, .opened, 0, [.created 1]⟩ := by decide +kernel
  have hstart : (start .one).run hasty [.openSession] =
      ⟨⟨⟨[⟨.start 1, 0, true⟩]⟩, .opened, 0, [.created 1]⟩, []⟩ :=
    congrArg (fun server => (⟨server, []⟩ : Traffic)) hopen
  rw [hstart]
  rfl

theorem smallest_entered (server : Server) (hreg : server.registry = ⟨[⟨.start 1, 0, true⟩]⟩)
    (ht : server.tape = .opened) :
    step hasty ⟨server, [⟨.msg1 .one, .admitted 0⟩]⟩ (.enter 0) =
      ⟨{ server with tape := .drawn }, [⟨.msg1 .one, .asking smallestVisit smallestOffer⟩]⟩ := by
  have hb : (Session.start 1).begin hasty .opened (.msg1 .one) = (.asking smallestOffer, .drawn) := by
    show (Session.start 1).beginMsg1 hasty .one .opened = _
    rw [Session.beginMsg1_of_awaiting hasty _ rfl, make_smallestOffer]
    rfl
  have he : server.registry.get? 0 = some ⟨.start 1, 0, true⟩ := by
    rw [hreg]
    rfl
  rw [← ht] at hb
  rw [step, enter_of_asking rfl rfl he hb]
  simp [smallestVisit, ht]

theorem smallest_meanwhile :
    (arrive hasty ((start .one).run hasty [.openSession]) (.msg1 .one)).run hasty meanwhile =
      ⟨⟨⟨[⟨.start 1, 0, false⟩]⟩, .drawn, 20, [.created 1, .purged 1]⟩,
        [⟨.msg1 .one, .asking smallestVisit smallestOffer⟩]⟩ := by
  rw [smallest_arrived, meanwhile, run_cons, smallest_entered _ rfl rfl]
  rfl

/-- Message 2 of the smallest exchange. -/
def smallestMsg2 : Msg2 := { smallestOffer.msg2 with sigRl := [] }

theorem smallest_heard (server : Server)
    (hreg : server.registry = ⟨[⟨.start 1, 0, false⟩]⟩) :
    step hasty ⟨server, [⟨.msg1 .one, .asking smallestVisit smallestOffer⟩]⟩ (.hear 0 slow) =
      ⟨{ server with
          registry := ⟨[⟨⟨1, .awaitingMsg3 smallestOffer.handshake⟩, server.now, false⟩]⟩ }.report
          [.keyAccepted 1],
        [⟨.msg1 .one, .answered { smallestVisit with authority := some slow }
          (.ok smallestMsg2)⟩]⟩ := by
  have he : server.registry.get? smallestVisit.ticket = some ⟨.start 1, 0, false⟩ := by
    rw [hreg]
    rfl
  have hf : (Session.start 1).finish hasty slow server.tape (.msg1 .one) smallestOffer =
      ((Session.start 1).accept smallestOffer [], server.tape) := rfl
  rw [step, hear_eq rfl he, hf, conclude, hreg]
  rfl

/-- Message 1 is answered, but a purge removed its session while it waited for the revocation
list. -/
theorem answered_but_gone :
    hasty.maxSessions = none ∧
    Answers hasty ((start .one).run hasty [.openSession]) .one 0 meanwhile (.hear 0 slow)
      smallestMsg2 ∧
    (((arrive hasty ((start .one).run hasty [.openSession]) (.msg1 .one)).run hasty
      meanwhile).step hasty (.hear 0 slow)).server.contains hasty Msg1.one.sessionId = false := by
  have hans : Answers hasty ((start .one).run hasty [.openSession]) .one 0 meanwhile
      (.hear 0 slow) smallestMsg2 := by
    constructor
    · rw [smallest_arrived]
      rfl
    · intro stand h
      rw [smallest_meanwhile] at h
      cases h
      rfl
    · rw [smallest_meanwhile, smallest_heard _ rfl]
      exact ⟨_, rfl, rfl⟩
  have hiff := answered_contains_iff hasty rfl .one [.openSession] meanwhile (.hear 0 slow) .one 0
    smallestMsg2 hans
  refine ⟨rfl, hans, ?_⟩
  rw [← Bool.not_eq_true]
  intro hcontains
  rcases hiff.mp hcontains with hidle | ⟨j, hj, ⟨e, he, -⟩, -⟩
  · refine hidle ⟨[.enter 0, .pass 15], .purge, [.pass 5], rfl, trivial, ?_⟩
    rw [smallest_arrived, run_cons, smallest_entered _ rfl rfl]
    exact ⟨⟨.start 1, 0, true⟩, rfl, rfl⟩
  · rw [smallest_meanwhile, smallest_heard _ rfl] at he
    obtain ⟨hl, -⟩ := List.getElem?_eq_some_iff.mp he
    exact hj (Nat.lt_one_iff.mp hl)

/-! ## Prompt answers -/

/-- Where the number of sessions is not capped, a session whose message 1 has just been answered is
still there if no more time passed since the message arrived than a session may be idle. -/
theorem answered_contains_of_elapsed (hmax : settings.maxSessions = none) (tape : Tape)
    (before : List Action) {during : List Action} {last : Action} {msg1 : Msg1} {msg2 : Msg2}
    (h : Answers settings ((start tape).run settings before) msg1 k during last msg2)
    (hlimit : ∀ limit, settings.sessionTimeout = some limit → elapsed during ≤ limit) :
    let arrived := ((start tape).run settings before).arrive settings (.msg1 msg1)
    ((arrived.run settings during).step settings last).server.contains settings
      msg1.sessionId = true := by
  intro arrived
  obtain ⟨-, hactive⟩ := lists_of_admitted h.admitted
  exact ((coherent_run settings tape before).contains_iff (unambiguous_run settings tape before)
    hmax h).mpr (Or.inl (not_foundIdle_of_elapsed hactive hlimit))

end Traffic

end EnclaveGate
