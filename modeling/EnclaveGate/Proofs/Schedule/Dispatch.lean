import EnclaveGate.Proofs.Schedule.Alone
import EnclaveGate.Proofs.Server.Dispatch
import EnclaveGate.Proofs.Session.Offer

/-!
# Dispatch by history

A script that does one thing after the other opens sessions, sends requests, purges and sleeps. When
it sends a request, the history of what it did decides whether the request reaches a session: not if
none was opened under the id, and not if the latest one that was is over, had to make room, or was
idle for too long. The activity of a session ends with the latest request that reached it, whatever
the answer was and however long the authority took. What the registry still keeps of old sessions
plays no part, and asking whether it contains an id changes nothing.
-/

namespace EnclaveGate.Schedule

/-- A request of a script that does one thing after the other is answered as if there were no session
exactly if the history says that the session is gone. The id is contained exactly if the request would
be admitted, which is the case exactly if the session is not gone. And an id that is not contained
stays so, whatever the script does, until a session is opened under it. -/
theorem dispatch_by_history (settings : Settings) (tape : Tape) (turns more : List Server.Turn)
    (request : Request) {authority : Authority} (h : authority.IsUnaware) :
    let s := (start tape).performAll settings (turns.map (·.step))
    let sent := s.send settings authority request
    let later := s.performAll settings (more.map (·.step))
    let id := request.sessionId
    let gone := Happening.Gone id settings s.server.now ((Server.start tape).history settings turns)
    (∃ result, sent.2.answered? sent.1 = some ⟨request, result⟩ ∧
      (result = .error (.sessionNotFound id) ↔ gone)) ∧
    (s.server.contains settings id = true ↔ ∃ k, (s.server.route settings id).1 = .ok k) ∧
    (s.server.contains settings id = true ↔ ¬ gone) ∧
    (s.server.contains settings id = false →
      (∀ happening ∈ s.server.history settings more, happening.opening? id = none) →
      later.server.contains settings id = false) := by
  intro s sent later id gone
  obtain ⟨still, hserver⟩ := (Still.start tape).performAll settings turns
  have horder : s.server.Orderly settings := by
    simp only [s, hserver]
    exact (Server.Orderly.start settings tape).turns turns
  have hcontains : s.server.contains settings id = true ↔ ¬ gone := by
    simp only [s, gone, hserver]
    exact Server.contains_turns_iff settings tape turns id
  refine ⟨?_, (Server.admits_iff horder).symm, hcontains, fun hnot hopen => ?_⟩
  · obtain ⟨hplace, hsent⟩ := still.send settings authority request
    refine ⟨(s.server.handle settings authority request).1, ?_, ?_⟩
    · show (s.send settings authority request).2.answered? (s.send settings authority request).1 = _
      rw [hplace, answered?, hsent.flights]
      simp [Progress.result?]
      rfl
    · rw [Server.answer_iff horder h, ← Bool.not_eq_true, hcontains, Classical.not_not]
  · obtain ⟨-, hlater⟩ := still.performAll settings more
    show ((s.performAll settings (more.map (·.step))).server).contains settings id = false
    rw [hlater]
    exact Server.contains_turns_eq_false horder more hopen hnot

/-! ## A session that is idle for too long -/

/-- Settings under which a session may be idle for a second. -/
def brief : Settings :=
  (Settings.make (Block.zero 16) .one []).withSessionTimeout (some 1000)

/-- An authority that cannot be reached. -/
def unreachable : Authority :=
  ⟨fun _ => ⟨0, .error (.authority "unreachable")⟩, fun _ => ⟨0, .error (.authority "unreachable")⟩⟩

/-- A message that comes a millisecond too late is answered as if there were no session. -/
theorem brief_dispatch_by_history :
    let s := (start .oneSession).performAll brief
      ([.openSession, .pass 1001].map Server.Turn.step)
    unreachable.IsUnaware ∧
    (Server.start .oneSession).history brief [.openSession, .pass 1001] = [.opened 0 1 []] ∧
    (s.send brief unreachable (.msg1 .offCurve)).2.answered? 0 =
      some ⟨.msg1 .offCurve, .error (.sessionNotFound 1)⟩ ∧
    s.server.contains brief 1 = false := by
  intro s
  have unaware : unreachable.IsUnaware :=
    ⟨fun _ => .of_isCollaboratorFailure rfl, fun _ => .of_isCollaboratorFailure rfl⟩
  have history :
      (Server.start .oneSession).history brief [.openSession, .pass 1001] = [.opened 0 1 []] := by
    decide +kernel
  have now : s.server.now = 1001 := by decide +kernel
  have gone : Happening.Gone 1 brief s.server.now
      ((Server.start .oneSession).history brief [.openSession, .pass 1001]) := by
    rw [history, now]
    rintro opening later h
    cases h
    exact Or.inr (Or.inr ⟨1000, rfl, by decide⟩)
  obtain ⟨⟨result, hanswer, hresult⟩, -, hcontains, -⟩ :=
    dispatch_by_history brief .oneSession [.openSession, .pass 1001] [] (.msg1 .offCurve) unaware
  refine ⟨unaware, history, ?_, ?_⟩
  · rw [hresult.mpr gone] at hanswer
    exact hanswer
  · rw [← Bool.not_eq_true]
    exact fun hc => hcontains.mp hc gone

end EnclaveGate.Schedule
