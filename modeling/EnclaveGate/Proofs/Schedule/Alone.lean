import EnclaveGate.Proofs.Schedule.Simulation
import EnclaveGate.Proofs.Server.Effects

/-!
# Scripts that do one thing after the other

A script that launches nothing and starts no reaper does one thing after the other: whenever a step is
over, every request is answered and nothing is arranged. A request that it sends is answered as one
that is handled while nothing else happens, at once or when the authority has been waited for. So such
a script takes the turns of a server. Reapers do not disturb a request if none of them purges before
it is answered.
-/

namespace EnclaveGate

/-- The step of a script that takes a turn, with the authority that answers during it. -/
def Server.Turn.step : Server.Turn → Authority × Schedule.Step
  | .pass ms => (default, .sleep ms)
  | .openSession => (default, .openSession)
  | .purge => (default, .purge)
  | .handle request authority => (authority, .send request)

/-- No authority is waited for longer than the limit. -/
theorem Request.wait_le (settings : Settings) (authority : Authority) (request : Request)
    (pending : request.Pending) :
    request.wait settings authority pending ≤ settings.authorityTimeout := by
  cases request <;> exact Nat.min_le_right ..

/-- Waiting for the authority is all the time that the end of a request takes. -/
theorem Server.now_finish (settings : Settings) (authority : Authority) (server : Server) (k : Ticket)
    {request : Request} (pending : request.Pending) :
    (server.finish settings authority k request pending).2.now = server.now := by
  unfold finish
  split
  · rfl
  · exact now_settle ..

namespace Schedule

/-- No request is in flight: every request is answered. There may be reapers. -/
structure Calm (s : Schedule) : Prop where
  /-- Every request is answered. -/
  answered : ∀ flight ∈ s.flights, ∃ result, flight.progress = .done result
  /-- What the script waits for comes before the purges that are arranged for the same time. -/
  ranked : ∀ reaper ∈ s.reapers, reaper.next.rank = 1

/-- Nothing is in flight: every request is answered, and there are no reapers. -/
structure Still (s : Schedule) : Prop where
  /-- Every request is answered. -/
  answered : ∀ flight ∈ s.flights, ∃ result, flight.progress = .done result
  /-- There are no reapers. -/
  reapers : s.reapers = []

variable {settings : Settings} {authority : Authority} {s s' : Schedule} {request : Request}

namespace Calm

theorem congr (h : s.Calm) (hf : s'.flights = s.flights) (hr : s'.reapers = s.reapers) :
    s'.Calm where
  answered := hf ▸ h.answered
  ranked := hr ▸ h.ranked

theorem append (h : s.Calm) {isOwn : Bool} {result : Except Error request.Answer}
    (hf : s'.flights = s.flights ++ [⟨request, isOwn, .done result⟩])
    (hr : s'.reapers = s.reapers) : s'.Calm where
  answered := by
    intro flight hm
    rw [hf] at hm
    rcases List.mem_append.mp hm with hm | hm
    · exact h.answered flight hm
    · rw [List.mem_singleton] at hm
      subst hm
      exact ⟨result, rfl⟩
  ranked := hr ▸ h.ranked

/-- Besides what is answered, only reapers and requests that were added can be due. -/
theorem dues_append (h : s.Calm) (last : List Flight) (hf : s'.flights = s.flights ++ last) :
    s'.dues = ((last.zipIdx s.flights.length).filterMap fun (flight, i) =>
      flight.progress.appointment?.map fun a => (a, .flight i flight)) ++
      s'.reapers.zipIdx.map fun (reaper, i) => (reaper.next, .reaper i reaper) := by
  have quiet : s.flights.zipIdx.filterMap (fun (flight, i) =>
      flight.progress.appointment?.map fun a => (a, Due.flight i flight)) = [] := by
    refine List.filterMap_eq_nil_iff.mpr fun p hp => ?_
    obtain ⟨result, hd⟩ := h.answered p.1 (List.fst_mem_of_mem_zipIdx hp)
    simp [hd, Progress.appointment?]
  rw [dues, hf, List.zipIdx_append, List.filterMap_append, quiet]
  simp

/-- Nothing but reapers is due. -/
theorem dues_eq (h : s.Calm) :
    s.dues = s.reapers.zipIdx.map fun (reaper, i) => (reaper.next, .reaper i reaper) :=
  h.dues_append [] (List.append_nil s.flights).symm

theorem isBusy (h : s.Calm) (k : Ticket) : s.isBusy k = false := by
  simp only [Schedule.isBusy, List.any_eq_false]
  intro flight hf
  obtain ⟨result, hd⟩ := h.answered flight hf
  simp [hd, Progress.ticket?]

/-- No request waits for a session. -/
theorem release (h : s.Calm) (k : Ticket) : s.release k = s := by
  have hnone : s.flights.findIdx? (·.progress.isQueuedFor k) = none := by
    refine List.findIdx?_eq_none_iff.mpr fun flight hf => ?_
    obtain ⟨result, hd⟩ := h.answered flight hf
    simp [hd, Progress.isQueuedFor]
  simp [Schedule.release, hnone]

theorem unanswered (h : s.Calm) : s.unanswered = 0 := by
  refine List.countP_eq_zero.mpr fun flight hf => ?_
  obtain ⟨result, hd⟩ := h.answered flight hf
  simp [hd, Progress.ticket?]

end Calm

namespace Still

theorem calm (h : s.Still) : s.Calm where
  answered := h.answered
  ranked := by
    rw [h.reapers]
    exact nofun

theorem start (tape : Tape) : (start tape).Still where
  answered := fun _ h => by cases h
  reapers := rfl

theorem congr (h : s.Still) (hf : s'.flights = s.flights) (hr : s'.reapers = s.reapers) :
    s'.Still where
  answered := hf ▸ h.answered
  reapers := hr ▸ h.reapers

theorem step?_eq_none (h : s.Still) (limit : Nat) : s.step? settings authority limit = none := by
  simp [step?, h.calm.dues_eq, h.reapers, first?]

/-- Nothing happens by itself. -/
theorem runBefore (h : s.Still) (limit : Nat) : s.runBefore settings authority limit = s := by
  unfold Schedule.runBefore
  cases s.stepsBefore limit with
  | zero => rfl
  | succ steps => simp [runUpTo, h.step?_eq_none]

end Still

/-! ## Requests -/

/-- A request that was sent by a script is answered, and nothing else has changed. -/
structure Answers (s s' : Schedule) (request : Request)
    (answer : Except Error request.Answer × Server) : Prop where
  /-- The request is the latest one, and it is answered. -/
  flights : s'.flights = s.flights ++ [⟨request, true, .done answer.1⟩]
  /-- The reapers are the same. -/
  reapers : s'.reapers = s.reapers
  /-- The server is the one that has answered. -/
  server : s'.server = answer.2

/-- The latest request is answered. -/
theorem Calm.answer (h : s.Calm) {progress old : Progress request} {k : Ticket} {server : Server}
    {result : Except Error request.Answer}
    (hf : s'.flights = s.flights ++ [⟨request, true, old⟩]) (hr : s'.reapers = s.reapers) :
    s.Answers (s'.answer s.flights.length ⟨request, true, progress⟩ k server result) request
      (result, server) := by
  let done : Schedule := { s' with
    server, flights := s.flights ++ [⟨request, true, .done result⟩] }
  have hdone : ({ s' with server } : Schedule).setProgress s.flights.length
      ⟨request, true, progress⟩ (.done result) = done := by
    simp [setProgress, hf, done]
  have calm : done.Calm := h.append rfl hr
  rw [Schedule.answer, hdone, calm.release]
  exact ⟨rfl, hr, rfl⟩

theorem runForUpTo_of_isAnswered {i : Nat} (h : s.isAnswered i = true) (steps limit : Nat) :
    runForUpTo settings authority i steps limit s = s := by
  cases steps <;> simp [runForUpTo, h]

theorem Answers.isAnswered {answer : Except Error request.Answer × Server}
    (h : s.Answers s' request answer) : s'.isAnswered s.flights.length = true := by
  simp [Schedule.isAnswered, h.flights, Progress.result?]

/-- Something is the first that is due if nothing else comes before it. -/
theorem first?_cons {due : Appointment × Due} {rest : List (Appointment × Due)}
    (h : ∀ other ∈ rest, other.1.isBefore due.1 = false) : first? (due :: rest) = some due := by
  rw [first?]
  cases hbest : first? rest with
  | none => rfl
  | some best => simp [h best (first?_mem hbest)]

/-- What the script waits for comes first, if no reaper purges before. -/
theorem Calm.first?_dues (h : s.Calm) {flight : Flight} {slot : Appointment}
    (ha : flight.progress.appointment? = some slot) (hslot : slot.rank = 0)
    (hf : s'.flights = s.flights ++ [flight]) (hr : s'.reapers = s.reapers)
    (hlate : ∀ reaper ∈ s.reapers, slot.time ≤ reaper.next.time) :
    first? s'.dues = some (slot, .flight s.flights.length flight) := by
  have hdues : s'.dues = (slot, .flight s.flights.length flight) ::
      s'.reapers.zipIdx.map fun (reaper, i) => (reaper.next, .reaper i reaper) := by
    rw [h.dues_append _ hf]
    simp [ha]
  rw [hdues]
  refine first?_cons fun other ho => ?_
  obtain ⟨⟨reaper, i⟩, hm, rfl⟩ := List.mem_map.mp ho
  have hmem : reaper ∈ s.reapers := hr ▸ List.fst_mem_of_mem_zipIdx hm
  have hrank : reaper.next.rank = 1 := h.ranked reaper hmem
  have hnot : ¬ reaper.next.time < slot.time := Nat.not_lt.mpr (hlate reaper hmem)
  simp [Appointment.isBefore, hslot, hrank, hnot]

/-- A request that waits for the authority is answered when it has been waited for, if no reaper purges
before. -/
theorem Calm.runFor_waiting (h : s.Calm) {k : Ticket} {pending : request.Pending} (order : Nat)
    (hf : s'.flights = s.flights ++ [⟨request, true, .waiting k
      ⟨s'.server.now + request.wait settings authority pending, 0, order⟩ pending⟩])
    (hr : s'.reapers = s.reapers)
    (hlate : ∀ reaper ∈ s.reapers,
      s'.server.now + request.wait settings authority pending ≤ reaper.next.time) :
    s.Answers (s'.runFor settings authority s.flights.length) request
      ((s'.server.advance (request.wait settings authority pending)).finish settings authority k
        request pending) := by
  let slot : Appointment := ⟨s'.server.now + request.wait settings authority pending, 0, order⟩
  let flight : Flight := ⟨request, true, .waiting k slot pending⟩
  let later : Schedule := { s' with
    server := s'.server.advance (request.wait settings authority pending) }
  have hcount : s'.unanswered = 1 := by
    have hnone := h.unanswered
    rw [Schedule.unanswered] at hnone ⊢
    rw [hf, List.countP_append, hnone]
    rfl
  -- the appointment is the first one, and it is in time
  have hfirst : first? s'.dues = some (slot, .flight s.flights.length flight) :=
    h.first?_dues rfl rfl hf hr hlate
  have hlt : slot.time < s'.horizon settings := by
    have hwait := request.wait_le settings authority pending
    simp only [slot, horizon, hcount]
    omega
  have hstep : s'.step? settings authority (s'.horizon settings) = some (later.finish settings
      authority s.flights.length flight k pending) := by
    simp only [step?, hfirst]
    simp [occur, resume, later, slot, flight, hlt]
  have hopen : s'.isAnswered s.flights.length = false := by
    simp [Schedule.isAnswered, hf, Progress.result?]
  obtain ⟨steps, hsteps⟩ : ∃ steps, s'.stepsBefore (s'.horizon settings) = steps + 1 := by
    rw [stepsBefore, hcount]
    exact ⟨_, Nat.add_right_comm ..⟩
  have hlater : later.flights = s.flights ++ [flight] := hf
  have hend : s.Answers (later.finish settings authority s.flights.length flight k pending) request
      (later.server.finish settings authority k request pending) :=
    h.answer hlater hr
  rw [runFor, hsteps, runForUpTo, hopen, hstep]
  rw [if_neg Bool.false_ne_true]
  dsimp only
  rw [runForUpTo_of_isAnswered hend.isAnswered]
  exact hend

/-- A request that is sent while no other one is in flight is handled while nothing else happens, if no
reaper purges before it is answered. -/
theorem Calm.send (h : s.Calm) (settings : Settings) (authority : Authority) (request : Request)
    (hlate : ∀ reaper ∈ s.reapers,
      (s.server.handle settings authority request).2.now ≤ reaper.next.time) :
    (s.send settings authority request).1 = s.flights.length ∧
    s.Answers (s.send settings authority request).2 request
      (s.server.handle settings authority request) := by
  have waited : ∀ {arrived : Schedule} {answer : Except Error request.Answer × Server},
      s.Answers arrived request answer →
      s.Answers (arrived.runFor settings authority s.flights.length) request answer := by
    intro arrived answer ha
    rw [runFor, runForUpTo_of_isAnswered ha.isAnswered]
    exact ha
  unfold Server.handle at hlate
  unfold Schedule.send arrive Server.handle
  rcases hr : s.server.route settings request.sessionId with ⟨e | k, server⟩
  · exact ⟨rfl, waited ⟨rfl, rfl, rfl⟩⟩
  rw [hr] at hlate
  dsimp only [addFlight] at hlate ⊢
  rw [h.isBusy, if_neg Bool.false_ne_true]
  refine ⟨rfl, ?_⟩
  let arrived : Schedule :=
    { s with server, flights := s.flights ++ [⟨request, true, .queued k⟩] }
  show s.Answers ((arrived.begin settings authority s.flights.length ⟨request, true, .queued k⟩
    k).runFor settings authority s.flights.length) request
    (server.serve settings authority k request)
  unfold Server.serve at hlate
  unfold Schedule.begin Server.serve
  have harrived : arrived.flights = s.flights ++ [⟨request, true, .queued k⟩] := rfl
  have hserver : arrived.server = server := rfl
  rw [hserver]
  rcases hb : server.begin settings k request with ⟨result | pending, server'⟩
  · exact waited (h.answer harrived rfl)
  rw [hb] at hlate
  dsimp only at hlate ⊢
  rw [Server.now_finish] at hlate
  unfold ask
  dsimp only
  split
  · -- the authority answers at once
    rename_i hzero
    rw [hzero]
    let asked : Schedule :=
      { arrived with server := server', asked := s.asked ++ [request.question pending] }
    have hasked : asked.flights = s.flights ++ [⟨request, true, .queued k⟩] := rfl
    exact waited (h.answer hasked rfl)
  · refine h.runFor_waiting s.arranged ?_ rfl hlate
    simp [arrange, setProgress, arrived]

/-- A request that is sent while nothing is in flight is handled while nothing else happens. -/
theorem Still.send (h : s.Still) (settings : Settings) (authority : Authority) (request : Request) :
    (s.send settings authority request).1 = s.flights.length ∧
    s.Answers (s.send settings authority request).2 request
      (s.server.handle settings authority request) := by
  refine h.calm.send settings authority request fun reaper hr => ?_
  rw [h.reapers] at hr
  cases hr

/-! ## Turns -/

/-- A script that does one thing after the other takes the turns of a server. -/
theorem Still.performAll (h : s.Still) (settings : Settings) (turns : List Server.Turn) :
    (s.performAll settings (turns.map (·.step))).Still ∧
    (s.performAll settings (turns.map (·.step))).server = s.server.turns settings turns := by
  induction turns generalizing s with
  | nil => exact ⟨h, rfl⟩
  | cons turn turns ih =>
    have hturn : (s.perform settings turn.step.1 turn.step.2).Still ∧
        (s.perform settings turn.step.1 turn.step.2).server = s.server.turn settings turn := by
      cases turn with
      | pass ms =>
        simp only [Server.Turn.step, perform, sleep, h.runBefore, Server.turn]
        exact ⟨h.congr rfl rfl, by rw [Nat.add_sub_cancel_left]⟩
      | openSession => exact ⟨h.congr rfl rfl, rfl⟩
      | purge => exact ⟨h.congr rfl rfl, rfl⟩
      | handle request authority =>
        obtain ⟨-, ha⟩ := h.send settings authority request
        have calm := h.calm.append ha.flights ha.reapers
        exact ⟨⟨calm.answered, ha.reapers.trans h.reapers⟩, ha.server⟩
    obtain ⟨hstill, hserver⟩ := ih hturn.1
    exact ⟨hstill, by rw [hturn.2] at hserver; exact hserver⟩

end Schedule

end EnclaveGate
