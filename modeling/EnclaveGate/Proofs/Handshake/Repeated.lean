import EnclaveGate.Proofs.Handshake.Honest
import EnclaveGate.Proofs.Traffic.Completion
import EnclaveGate.Proofs.Traffic.Kept
import EnclaveGate.Proofs.Traffic.Release

/-!
# Message 3 sent again

An enclave sends its message 3 a second time while the authority is asked about the first one. The
first one brings the secret. The second one was admitted in time, so it waits for the session, finds
it established, and is refused; when it leaves, the session is reported as completed once more, and as
one that is not trusted.
-/

namespace EnclaveGate

namespace Traffic

variable {settings : Settings} {t : Traffic} {k : Ticket}

/-- A session stays free while nobody asks an authority about it. -/
theorem isHeld_append {t' : Traffic} {calls : List Call} (hc : t'.calls = t.calls ++ calls)
    (free : t.isHeld k = false) (h : ∀ c ∈ calls, c.stand.holds? ≠ some k) :
    t'.isHeld k = false := by
  simp only [isHeld, hc, List.any_append, Bool.or_eq_false_iff]
  refine ⟨free, ?_⟩
  rw [List.any_eq_false]
  intro c hcall
  simpa using h c hcall

/-- A request to a listed session that was not idle for too long is admitted, and the session stays
listed and was not idle now. -/
theorem fresh_of_listed {request : Request} (hu : Unambiguous t)
    (hl : t.Lists k request.sessionId) (hx : ¬ t.Expired settings k) :
    (t.arrive settings request).Lists k request.sessionId ∧
      ¬ (t.arrive settings request).Expired settings k := by
  have hadm : (t.arrive settings request).calls[t.calls.length]? = some ⟨request, .admitted k⟩ := by
    rw [arrive_of_listed hu hl hx]
    exact List.getElem?_concat_length
  obtain ⟨hlist, hactive⟩ := lists_of_admitted hadm
  exact ⟨hlist, hactive.not_expired fun limit _ => Nat.le_add_right _ limit⟩

/-! ## Leaving a session that is over -/

section Leaving

variable {i : Nat} {m : Msg3} {call : Call}

/-- A message 3 that leaves is answered, changes no session, and reports a completion. -/
theorem leave_of_leaving {v : Visit} {r : Except Error Msg4}
    (hi : t.calls[i]? = some ⟨.msg3 m, .leaving v r⟩) :
    (t.leave i).calls = t.calls.set i ⟨.msg3 m, .answered v r⟩ ∧
      (t.leave i).sessions = t.sessions ∧
      (t.leave i).server.journal.filterMap Event.completed? =
        t.server.journal.filterMap Event.completed? ++ [(m.sessionId, Msg4.isTrusted r)] := by
  have hleave : t.leave i =
      ⟨{ t.server with registry := t.server.registry.unlist v.ticket }.report
        ((Request.msg3 m).closing r), t.calls.set i ⟨.msg3 m, .answered v r⟩⟩ := by
    simp only [leave, hi]
  have hclosing : ((Request.msg3 m).closing r).filterMap Event.completed? =
      [(m.sessionId, Msg4.isTrusted r)] := by
    cases r <;> rfl
  rw [hleave]
  refine ⟨rfl, Registry.sessions_unlist _ _, ?_⟩
  rw [← hclosing]
  exact List.filterMap_append

/-- A message 3 that ends its processing at a session that is over is answered when it leaves, and
reports a completion. -/
theorem leaves_over (settings : Settings) {action : Action} {v : Visit} {outcome : Outcome Msg4}
    {tape : Tape} (hi : t.calls[i]? = some call) (hquiet : t.notice action = [])
    (hstep : t.step settings action = t.conclude i (.msg3 m) v outcome tape)
    (hover : outcome.session.isTerminal = true) :
    (t.run settings [action, .leave i]).calls =
        t.calls.set i ⟨.msg3 m, .answered v outcome.result⟩ ∧
      (t.run settings [action, .leave i]).sessions =
        t.sessions.set v.ticket outcome.session ∧
      (t.run settings [action, .leave i]).server.journal.filterMap Event.completed? =
        t.server.journal.filterMap Event.completed? ++
          [(m.sessionId, Msg4.isTrusted outcome.result)] := by
  have hrun : t.run settings [action, .leave i] = (t.step settings action).leave i := rfl
  have hcalls : (t.step settings action).calls =
      t.calls.set i ⟨.msg3 m, .leaving v outcome.result⟩ := by
    simp only [hstep, conclude_calls, concluded, hover, if_true]
  have hsessions : (t.step settings action).sessions = t.sessions.set v.ticket outcome.session := by
    rw [hstep, conclude_sessions]
  have hjournal : (t.step settings action).server.journal.filterMap Event.completed? =
      t.server.journal.filterMap Event.completed? := by
    rw [completed_step, hquiet, List.filterMap_nil, List.append_nil]
  obtain ⟨calls, sessions, journal⟩ := leave_of_leaving (t := t.step settings action)
    (by rw [hcalls]; exact set_self hi)
  rw [hrun, calls, sessions, journal, hcalls, hsessions, hjournal, List.set_set]
  exact ⟨rfl, rfl, rfl⟩

/-- A message 3 that gets a session that is over is refused, and reports a completion without
trust. -/
theorem refused_reported (settings : Settings) {s : Session}
    (hi : t.calls[i]? = some ⟨.msg3 m, .admitted k⟩) (free : t.isHeld k = false)
    (hk : t.sessions[k]? = some s) (hover : s.isTerminal = true) :
    ∃ v : Visit,
      (t.run settings [.enter i, .leave i]).calls = t.calls.set i
        ⟨.msg3 m, .answered v (.error (.invalidState "AwaitingMsg3" s.phase.name))⟩ ∧
      (t.run settings [.enter i, .leave i]).server.journal.filterMap Event.completed? =
        t.server.journal.filterMap Event.completed? ++ [(m.sessionId, false)] := by
  obtain ⟨entry, he, rfl⟩ := exists_entry _ hk
  have hacc : entry.session.phase.accepts (.msg3 m) = false :=
    Phase.not_accepts_of_isTerminal hover (.msg3 m)
  have hb := Session.begin_of_not_accepts settings t.server.tape hacc
  have hstep : t.step settings (.enter i) = _ := enter_of_finished hi free he hb
  obtain ⟨hcalls, -, hjournal⟩ := leaves_over settings hi rfl hstep hover
  exact ⟨_, hcalls, hjournal⟩

/-- A message 3 that is heard to be trusted brings the secret, and reports a completion with
trust. -/
theorem released_reported {v : Visit} {handshake : Handshake} {body : QuoteBody} {id : SessionId}
    {authority : Authority} (hi : t.calls[i]? = some ⟨.msg3 m, .asking v ⟨handshake, m, body⟩⟩)
    (hk : t.sessions[v.ticket]? = some ⟨id, .awaitingMsg3 handshake⟩)
    (hga : m.ga = handshake.ga)
    (hr : Releasable settings t.server.tape authority body m.quote) :
    ∃ (first : Visit) (msg4 : Msg4),
      (t.run settings [.hear i authority, .leave i]).calls =
        t.calls.set i ⟨.msg3 m, .answered first (.ok msg4)⟩ ∧
      (t.run settings [.hear i authority, .leave i]).sessions =
        t.sessions.set v.ticket ⟨id, .established⟩ ∧
      msg4.Brings settings.secret m handshake.gb handshake.kdk ∧
      (t.run settings [.hear i authority, .leave i]).server.journal.filterMap Event.completed? =
        t.server.journal.filterMap Event.completed? ++ [(m.sessionId, true)] := by
  obtain ⟨⟨verdict, hverdict, htrusted⟩, hrandom, hfits⟩ := hr
  obtain ⟨entry, he, hs⟩ := exists_entry _ hk
  obtain ⟨hest, msg4, hres, hbrings⟩ := Session.finishMsg3_brings
    ⟨id, .awaitingMsg3 handshake⟩ ⟨handshake, m, body⟩ htrusted hrandom hfits hga
  have hstep : t.step settings (.hear i authority) = _ := hear_eq hi he authority
  have hfinish : entry.session.finish settings authority t.server.tape (.msg3 m)
      ⟨handshake, m, body⟩ = (Session.mk id (.awaitingMsg3 handshake)).finishMsg3 settings
        ⟨handshake, m, body⟩ t.server.tape (.ok verdict) := by
    simp only [Session.finish, hs, hverdict]
  rw [hfinish] at hstep
  obtain ⟨hcalls, hsessions, hjournal⟩ := leaves_over settings hi rfl hstep
    (by rw [hest]; rfl)
  rw [hres] at hcalls hjournal
  rw [hest, ticket_heard] at hsessions
  refine ⟨_, msg4, hcalls, hsessions, hbrings, hjournal.trans ?_⟩
  rw [show Msg4.isTrusted (.ok msg4) = true from hbrings.trusted]

end Leaving

/-! ## The message and its repetition -/

section Again

variable {handshake : Handshake} {m : Msg3} {body : QuoteBody} {authority : Authority}

/-- A message 3 arrives at a session that waits for it, gets the session and asks the authority. -/
theorem asks_on_arrival (hu : Unambiguous t) (hl : t.Lists k m.sessionId)
    (hx : ¬ t.Expired settings k)
    (hk : t.sessions[k]? = some ⟨m.sessionId, .awaitingMsg3 handshake⟩)
    (free : t.isHeld k = false) (hm : handshake.Matches m body) :
    let asked := (t.arrive settings (.msg3 m)).enter settings t.calls.length
    ∃ v : Visit, v.ticket = k ∧
      asked.calls = t.calls ++ [⟨.msg3 m, .asking v ⟨handshake, m, body⟩⟩] ∧
      asked.sessions = t.sessions ∧ asked.server.tape = t.server.tape ∧
      asked.Lists k m.sessionId ∧ ¬ asked.Expired settings k := by
  generalize harrived : t.arrive settings (.msg3 m) = arrived
  have hcalls : arrived.calls = t.calls ++ [⟨.msg3 m, .admitted k⟩] :=
    harrived ▸ arrive_of_listed hu hl hx
  have hsessions : arrived.sessions = t.sessions := harrived ▸ sessions_arrive (.msg3 m)
  have htape : arrived.server.tape = t.server.tape := harrived ▸ tape_arrive (.msg3 m)
  obtain ⟨hlist, hfresh⟩ : arrived.Lists k m.sessionId ∧ ¬ arrived.Expired settings k :=
    harrived ▸ fresh_of_listed hu hl hx
  have hi : arrived.calls[t.calls.length]? = some ⟨.msg3 m, .admitted k⟩ := by
    rw [hcalls]
    exact List.getElem?_concat_length
  have hfree : arrived.isHeld k = false := isHeld_append hcalls free (by simp [Stand.holds?])
  obtain ⟨entry, he, hs⟩ := exists_entry _ (hsessions ▸ hk)
  have hb : entry.session.begin settings arrived.server.tape (.msg3 m) =
      (.asking ⟨handshake, m, body⟩, arrived.server.tape) := by
    have hasks : entry.session.beginMsg3 m = .asking ⟨handshake, m, body⟩ :=
      Session.beginMsg3_asking_iff.mpr ⟨by rw [hs], rfl, hm⟩
    rw [Session.begin, hasks]
  intro asked
  have henter : asked = _ := enter_of_asking hi hfree he hb
  refine ⟨⟨k, entry.session, arrived.server.tape, none⟩, rfl, ?_, ?_, ?_, ?_, ?_⟩ <;> rw [henter]
  · simp [hcalls]
  · exact hsessions
  · exact htape
  · exact hlist
  · exact hfresh

/-- The steps of a message 3 that is sent again while the authority is asked about it: both arrive,
the first one is answered and leaves, and then the second one. -/
def sentAgain (i : Nat) (m : Msg3) (ms : Nat) (authority : Authority) : List Action :=
  [.arrive (.msg3 m), .enter i, .arrive (.msg3 m), .pass ms] ++
    ([.hear i authority, .leave i] ++ [.enter (i + 1), .leave (i + 1)])

/-- While the first message waits for the authority, the second one waits for the session. -/
theorem waits_behind (ms : Nat) (hu : Unambiguous t) (hl : t.Lists k m.sessionId)
    (hx : ¬ t.Expired settings k)
    (hk : t.sessions[k]? = some ⟨m.sessionId, .awaitingMsg3 handshake⟩)
    (free : t.isHeld k = false) (hm : handshake.Matches m body) :
    let waiting := t.run settings
      [.arrive (.msg3 m), .enter t.calls.length, .arrive (.msg3 m), .pass ms]
    ∃ v : Visit, v.ticket = k ∧
      waiting.calls = t.calls ++
        [⟨.msg3 m, .asking v ⟨handshake, m, body⟩⟩, ⟨.msg3 m, .admitted k⟩] ∧
      waiting.sessions = t.sessions ∧ waiting.server.tape = t.server.tape := by
  obtain ⟨v, hv, calls, sessions, tape, listed, fresh⟩ := asks_on_arrival hu hl hx hk free hm
  generalize hasked : (t.arrive settings (.msg3 m)).enter settings t.calls.length = asked at *
  have hu' : Unambiguous asked := by
    rw [← hasked]
    exact hu.run [.arrive (.msg3 m), .enter t.calls.length]
  have hcalls : (asked.arrive settings (.msg3 m)).calls = asked.calls ++ [⟨.msg3 m, .admitted k⟩] :=
    arrive_of_listed hu' listed fresh
  have hrun : t.run settings
      [.arrive (.msg3 m), .enter t.calls.length, .arrive (.msg3 m), .pass ms] =
      (asked.arrive settings (.msg3 m)).step settings (.pass ms) := by
    rw [← hasked]
    rfl
  intro waiting
  refine ⟨v, hv, ?_, ?_, ?_⟩ <;> simp only [waiting, hrun]
  · show (asked.arrive settings (.msg3 m)).calls = _
    rw [hcalls, calls, List.append_assoc]
    rfl
  · exact (sessions_arrive (.msg3 m)).trans sessions
  · exact (tape_arrive (.msg3 m)).trans tape

/-- A message 3 that brings the secret and is sent again while the authority is asked about it is
refused the second time, and its session is reported as completed twice, first with trust and then
without. -/
theorem sentAgain_reported (ms : Nat) (hu : Unambiguous t) (hl : t.Lists k m.sessionId)
    (hx : ¬ t.Expired settings k)
    (hk : t.sessions[k]? = some ⟨m.sessionId, .awaitingMsg3 handshake⟩)
    (free : t.isHeld k = false) (hm : handshake.Matches m body)
    (hr : Releasable settings t.server.tape authority body m.quote) :
    let final := t.run settings (sentAgain t.calls.length m ms authority)
    ∃ (first second : Visit) (msg4 : Msg4),
      final.calls = t.calls ++ [⟨.msg3 m, .answered first (.ok msg4)⟩,
        ⟨.msg3 m, .answered second (.error (.invalidState "AwaitingMsg3" "Established"))⟩] ∧
      msg4.Brings settings.secret m handshake.gb handshake.kdk ∧
      final.server.journal.filterMap Event.completed? =
        t.server.journal.filterMap Event.completed? ++
          [(m.sessionId, true), (m.sessionId, false)] := by
  obtain ⟨v, rfl, calls₁, sessions₁, tape₁⟩ := waits_behind ms hu hl hx hk free hm
  have journal₁ : (t.run settings [.arrive (.msg3 m), .enter t.calls.length, .arrive (.msg3 m),
      .pass ms]).server.journal.filterMap Event.completed? =
        t.server.journal.filterMap Event.completed? := by
    simp only [run_cons, run_nil, completed_step, notice, List.filterMap_nil, List.append_nil]
  intro final
  simp only [final, sentAgain, run_append]
  generalize t.run settings [.arrive (.msg3 m), .enter t.calls.length, .arrive (.msg3 m),
    .pass ms] = waiting at *
  -- the first message is answered
  have hfirst : waiting.calls[t.calls.length]? =
      some ⟨.msg3 m, .asking v ⟨handshake, m, body⟩⟩ := by simp [calls₁]
  obtain ⟨first, msg4, calls₂, sessions₂, hbrings, journal₂⟩ :=
    released_reported hfirst (sessions₁ ▸ hk) hm.sameKey (tape₁ ▸ hr)
  generalize waiting.run settings [.hear t.calls.length authority, .leave t.calls.length] =
    released at *
  have hcalls : released.calls = t.calls ++ [⟨.msg3 m, .answered first (.ok msg4)⟩,
      ⟨.msg3 m, .admitted v.ticket⟩] := by simp [calls₂, calls₁]
  -- the second one finds the session over
  have hsecond : released.calls[t.calls.length + 1]? = some ⟨.msg3 m, .admitted v.ticket⟩ := by
    simp [hcalls]
  have hover : released.sessions[v.ticket]? = some ⟨m.sessionId, .established⟩ := by
    rw [sessions₂, sessions₁]
    exact List.getElem?_set_self (List.getElem?_eq_some_iff.mp hk).1
  have hfree : released.isHeld v.ticket = false :=
    isHeld_append hcalls free (by simp [Stand.holds?])
  obtain ⟨second, calls₃, journal₃⟩ := refused_reported settings hsecond hfree hover rfl
  refine ⟨first, second, msg4, ?_, hbrings, ?_⟩
  · rw [calls₃, hcalls]
    simp [Phase.name]
  · rw [journal₃, journal₂, journal₁]
    simp

end Again

/-! ## Sessions that are reported twice -/

/-- An authority that finds nothing wrong and takes five seconds. -/
def deliberate : Authority := ⟨fun _ => ⟨5000, .ok .trusted⟩, fun _ => ⟨0, .ok []⟩⟩

/-- A session is opened and its message 1 is answered. -/
def agreeing : List Action := [.openSession, .arrive (.msg1 .one), .enter 0, .hear 0 prompt]

theorem run_agreeing : (start .one).run trusting agreeing = smallestAgreed := by
  rw [agreeing, run_cons, ← smallestOpened, smallestAgreed, serve_alone,
    length_calls_smallestOpened]

/-- The session of the smallest handshake waits for message 3, and its message 1 is answered. -/
theorem settled_smallestAgreed :
    ∃ (stand : Stand (.msg1 .one)) (msg2 : Msg2) (handshake : Handshake),
      smallestAgreed.calls = [⟨.msg1 .one, stand⟩] ∧ stand.result? = some (.ok msg2) ∧
      smallestAgreed.sessions[0]? = some ⟨1, .awaitingMsg3 handshake⟩ ∧
      handshake.groupId = Enclave.smallest.groupId ∧
      handshake.smk = KeyTree.derive handshake.kdk .smk := by
  obtain ⟨ephemeral, key, signature, sigRl, -, -, ⟨stand, hcall, hres⟩, hsession⟩ :=
    answers_msg1 coherent_smallestOpened unambiguous_smallestOpened sessions_smallestOpened
      undisturbed_smallest (WireKey.decode_wire .base) answerable_smallest
  refine ⟨stand, _, _, ?_, hres, hsession, rfl, rfl⟩
  obtain ⟨call, hone⟩ := List.length_eq_one_iff.mp length_calls_smallestAgreed
  have hsame : smallestAgreed.calls[0]? = some ⟨.msg1 .one, stand⟩ := by
    rw [callOf_alone, length_calls_smallestOpened] at hcall
    exact hcall
  rw [hone] at hsame ⊢
  cases hsame
  rfl

/-- A request that is served alone reports no completion before it leaves. -/
theorem completed_serve_alone (settings : Settings) (t : Traffic) (request : Request)
    (authority : Authority) :
    (t.serve settings request (.alone authority)).server.journal.filterMap Event.completed? =
      t.server.journal.filterMap Event.completed? := by
  simp only [serve_alone, run_cons, run_nil, completed_step, notice, List.filterMap_nil,
    List.append_nil]

theorem isHeld_smallestAgreed : smallestAgreed.isHeld 0 = false := by
  obtain ⟨stand, _, _, hcalls, hres, -⟩ := settled_smallestAgreed
  simp only [isHeld, hcalls]
  cases stand with
  | refused | admitted | asking => cases hres
  | leaving | answered => rfl

theorem completed_smallestAgreed :
    smallestAgreed.server.journal.filterMap Event.completed? = [] := by
  rw [smallestAgreed, completed_serve_alone, smallestOpened_eq]
  rfl

/-- Settings without limits. -/
def plain : Settings := Settings.make (Block.zero 16) .one []

/-- A message 3 with nothing in it. -/
def blank : Msg3 := ⟨1, Block.zero 16, ⟨Block.zero 32, Block.zero 32⟩, Block.zero 256, []⟩

/-- Two messages 3 wait behind a message 1 that ends the session. -/
def crowded : List Action :=
  [.openSession, .arrive (.msg1 .offCurve), .arrive (.msg3 blank), .arrive (.msg3 blank), .enter 0,
    .enter 1, .leave 1, .enter 2, .leave 2, .leave 0]

/-- The secret is released, and the same message 3, sent again while the authority is asked, reports
that there is no trust. And where every message to a session fails, two completions are reported if
two messages 3 waited. -/
theorem completed_twice :
    (∃ m : Msg3,
      let final := (start .one).run trusting (agreeing ++ sentAgain 1 m 5000 deliberate)
      final.Released 1 m ∧
      final.calls.map Call.failure? =
        [none, none, some (.invalidState "AwaitingMsg3" "Established")] ∧
      final.server.journal.filterMap Event.completed? = [(1, true), (1, false)]) ∧
    ((start .oneSession).run plain crowded).calls.map Call.failure? =
      [some .invalidPublicKey, some (.invalidState "AwaitingMsg3" "Failed"),
        some (.invalidState "AwaitingMsg3" "Failed")] ∧
    ((start .oneSession).run plain crowded).server.journal =
      [.created 1, .keyRefused 1 .invalidPublicKey, .completed 1 false, .completed 1 false] := by
  refine ⟨?_, by decide +kernel⟩
  obtain ⟨stand, msg2, handshake, hcalls, hres, hsession, hgroup, hsmk⟩ := settled_smallestAgreed
  let m := Enclave.smallest.msg3 1 handshake.ga handshake.gb handshake.kdk
  have hmatches := Enclave.matches_msg3 Enclave.smallest 1 hgroup hsmk
  have hreleasable : Releasable trusting smallestAgreed.server.tape deliberate
      (Enclave.smallest.quoteBody handshake.ga handshake.gb handshake.kdk) m.quote := by
    rw [tape_smallestAgreed]
    exact ⟨⟨.trusted, rfl, evaluate_smallest _ _ _⟩, by decide, by decide⟩
  obtain ⟨first, second, msg4, hfinal, hbrings, hjournal⟩ := sentAgain_reported (m := m) 5000
    unambiguous_smallestAgreed lists_smallestAgreed (not_expired_trusting _ 0) hsession
    isHeld_smallestAgreed hmatches hreleasable
  rw [length_calls_smallestAgreed] at hfinal hjournal
  refine ⟨m, ?_⟩
  rw [run_append, run_agreeing]
  generalize smallestAgreed.run trusting (sentAgain 1 m 5000 deliberate) = final at *
  rw [hcalls] at hfinal
  rw [completed_smallestAgreed] at hjournal
  obtain ⟨encrypted, hencrypted, -⟩ := hbrings.received
  have hanswered : Call.failure? ⟨.msg1 .one, stand⟩ = none := by
    simp only [Call.failure?, hres]
  refine ⟨⟨.answered first (.ok msg4), first, msg4, encrypted, ?_, rfl, rfl, hencrypted⟩, ?_,
    hjournal⟩
  · rw [hfinal]
    rfl
  · rw [hfinal]
    simp only [List.map_append, List.map_cons, List.map_nil, hanswered]
    rfl

end Traffic

end EnclaveGate
