import EnclaveGate.Proofs.Server.Turns
import EnclaveGate.Proofs.Traffic.History

/-!
# Requests that nothing interrupts

A request that is handled while nothing else happens takes the steps of a call in traffic, one after
the other. So what holds in every run of traffic holds of requests that come one by one.
-/

namespace EnclaveGate

namespace Traffic

/-- No call holds a session. -/
def Quiet (t : Traffic) : Prop :=
  ∀ (i : Nat) (c : Call), t.calls[i]? = some c → c.stand.holds? = none

variable {settings : Settings} {t : Traffic}

theorem Quiet.isHeld (h : Quiet t) (k : Ticket) : t.isHeld k = false := by
  simp only [Traffic.isHeld, List.any_eq_false]
  intro c hc
  obtain ⟨i, hi⟩ := List.mem_iff_getElem?.mp hc
  simp [h i c hi]

/-- A call that holds nothing disturbs nobody. -/
theorem Quiet.concat (h : Quiet t) {c : Call} (hc : c.stand.holds? = none) (server : Server) :
    Quiet ⟨server, t.calls ++ [c]⟩ := by
  intro i d hi
  rcases append_cases hi with hi | rfl
  · exact h i d hi
  · exact hc

/-- The end of a processing in traffic, with the removal of a session that is over, is the end of a
processing that nothing interrupts. -/
theorem conclude_settle (settings : Settings) (t : Traffic) {i : Nat} {c : Call}
    (hi : t.calls[i]? = some c) (request : Request) (visit : Visit)
    (outcome : Outcome request.Answer) (tape : Tape) :
    ∃ actions, (t.conclude i request visit outcome tape).run settings actions =
      ⟨t.server.settle visit.ticket request outcome tape,
        t.calls.set i ⟨request, .answered visit outcome.result⟩⟩ := by
  obtain ⟨hl, -⟩ := List.getElem?_eq_some_iff.mp hi
  cases ht : outcome.session.isTerminal with
  | false => exact ⟨[], by simp [conclude, Server.settle, ht, run]⟩
  | true =>
    refine ⟨[.leave i], ?_⟩
    simp [conclude, Server.settle, ht, run, step, leave, Server.report, hl]

/-- A ticket that admission gives names a session. -/
theorem get?_of_route {server server' : Server} {id : SessionId} {k : Ticket}
    (h : server.route settings id = (.ok k, server')) :
    ∃ entry, server'.registry.get? k = some entry := by
  have hr := server.route_cases settings id
  rw [h] at hr
  obtain ⟨hs, hk⟩ := hr
  obtain ⟨hf, -⟩ := hk k rfl
  obtain ⟨hl, -⟩ := List.findIdx?_eq_some_iff_getElem.mp hf
  have hl' : k < server'.registry.entries.length := by
    have hlen := congrArg List.length hs
    simp only [Server.sessions, Registry.length_sessions] at hlen
    rw [hlen]
    exact hl
  exact ⟨_, List.getElem?_eq_getElem hl'⟩

section Handle

variable {authority : Authority} {request : Request} {server : Server} {k : Ticket} {entry : Entry}
  {tape : Tape}

/-- Some run takes a request from its arrival to its answer, and comes to what handling the request
alone comes to. -/
def HandlesByRun (settings : Settings) (t : Traffic) (authority : Authority) (request : Request) :
    Prop :=
  ∃ actions stand, t.run settings actions =
      ⟨(t.server.handle settings authority request).2, t.calls ++ [⟨request, stand⟩]⟩ ∧
    stand.holds? = none ∧
    stand.result? = some (t.server.handle settings authority request).1

theorem step_arrive_admitted (hr : t.server.route settings request.sessionId = (.ok k, server)) :
    t.step settings (.arrive request) = ⟨server, t.calls ++ [⟨request, .admitted k⟩]⟩ := by
  simp [step, arrive, hr]

/-- A request that is not admitted has only to arrive. -/
theorem handle_run_refused {e : Error}
    (hr : t.server.route settings request.sessionId = (.error e, server)) :
    t.HandlesByRun settings authority request := by
  refine ⟨[.arrive request], .refused e, ?_, rfl, ?_⟩
  · simp [run, step, arrive, hr, Server.handle]
  · simp [Stand.result?, Server.handle, hr]

/-- A request whose processing is over at once arrives and enters. -/
theorem handle_run_finished (h : Quiet t) {outcome : Outcome request.Answer}
    (hr : t.server.route settings request.sessionId = (.ok k, server))
    (hg : server.registry.get? k = some entry)
    (hb : entry.session.begin settings server.tape request = (.finished outcome, tape)) :
    t.HandlesByRun settings authority request := by
  let arrived : Traffic := ⟨server, t.calls ++ [⟨request, .admitted k⟩]⟩
  let visit : Visit := ⟨k, entry.session, server.tape, none⟩
  have hhandle : t.server.handle settings authority request =
      (outcome.result, server.settle k request outcome tape) := by
    simp [Server.handle, hr, Server.serve, Server.begin, hg, hb]
  have free : arrived.isHeld k = false := (h.concat (c := ⟨request, .admitted k⟩) rfl server).isHeld k
  have henter : arrived.step settings (.enter t.calls.length) =
      arrived.conclude t.calls.length request visit outcome tape :=
    enter_of_finished List.getElem?_concat_length free hg hb
  obtain ⟨actions, hc⟩ := conclude_settle settings arrived (i := t.calls.length)
    List.getElem?_concat_length request visit outcome tape
  refine ⟨.arrive request :: .enter t.calls.length :: actions, .answered visit outcome.result,
    ?_, rfl, ?_⟩
  · rw [run_cons, run_cons, step_arrive_admitted hr, henter, hc, hhandle]
    simp [arrived, visit]
  · rw [hhandle]
    rfl

/-- A request that asks the authority waits for it, with its session held, and hears from it. -/
theorem handle_run_asking (h : Quiet t) {pending : request.Pending}
    (hr : t.server.route settings request.sessionId = (.ok k, server))
    (hg : server.registry.get? k = some entry)
    (hb : entry.session.begin settings server.tape request = (.asking pending, tape)) :
    t.HandlesByRun settings authority request := by
  let arrived : Traffic := ⟨server, t.calls ++ [⟨request, .admitted k⟩]⟩
  let visit : Visit := ⟨k, entry.session, server.tape, none⟩
  let wait := request.wait settings authority pending
  let later := ({ server with tape } : Server).advance wait
  let waiting : Traffic := ⟨later, t.calls ++ [⟨request, .asking visit pending⟩]⟩
  have hg' : later.registry.get? k = some entry := hg
  rcases hf : entry.session.finish settings authority later.tape request pending with
    ⟨outcome, tape'⟩
  have hhandle : t.server.handle settings authority request =
      (outcome.result, later.settle k request outcome tape') := by
    simp only [Server.handle, hr, Server.serve, Server.begin, hg, hb]
    show later.finish settings authority k request pending = _
    simp only [Server.finish, hg', hf]
  have free : arrived.isHeld k = false := (h.concat (c := ⟨request, .admitted k⟩) rfl server).isHeld k
  have henter : arrived.step settings (.enter t.calls.length) =
      ⟨{ server with tape }, t.calls ++ [⟨request, .asking visit pending⟩]⟩ := by
    have hcall : arrived.calls[t.calls.length]? = some ⟨request, .admitted k⟩ :=
      List.getElem?_concat_length
    rw [step, enter_of_asking hcall free hg hb]
    simp [arrived, visit]
  have hpass : step settings ⟨{ server with tape }, t.calls ++ [⟨request, .asking visit pending⟩]⟩
      (.pass wait) = waiting := rfl
  have hhear : waiting.step settings (.hear t.calls.length authority) =
      waiting.conclude t.calls.length request (heard authority later.tape request visit) outcome
        tape' := by
    have hcall : waiting.calls[t.calls.length]? = some ⟨request, .asking visit pending⟩ :=
      List.getElem?_concat_length
    rw [step, hear_eq hcall hg', hf]
  obtain ⟨actions, hc⟩ := conclude_settle settings waiting (i := t.calls.length)
    List.getElem?_concat_length request (heard authority later.tape request visit) outcome tape'
  refine ⟨.arrive request :: .enter t.calls.length :: .pass wait ::
    .hear t.calls.length authority :: actions,
    .answered (heard authority later.tape request visit) outcome.result, ?_, rfl, ?_⟩
  · rw [run_cons, run_cons, run_cons, run_cons, step_arrive_admitted hr, henter, hpass, hhear, hc,
      ticket_heard, hhandle]
    simp [waiting, visit]
  · rw [hhandle]
    rfl

/-- Where no session is held, a request that is handled alone is a call that takes all its steps. -/
theorem handle_run (settings : Settings) (h : Quiet t) (authority : Authority) (request : Request) :
    t.HandlesByRun settings authority request := by
  rcases hr : t.server.route settings request.sessionId with ⟨e | k, server⟩
  · exact handle_run_refused hr
  obtain ⟨entry, hg⟩ := get?_of_route hr
  rcases hb : entry.session.begin settings server.tape request with ⟨outcome | pending, tape⟩
  · exact handle_run_finished h hr hg hb
  · exact handle_run_asking h hr hg hb

end Handle

/-- A turn of a server is a run of traffic that leaves no session held. -/
theorem turn_run (settings : Settings) (h : Quiet t) (turn : Server.Turn) :
    ∃ actions calls, t.run settings actions = ⟨t.server.turn settings turn, calls⟩ ∧
      Quiet ⟨t.server.turn settings turn, calls⟩ := by
  cases turn with
  | pass ms => exact ⟨[.pass ms], t.calls, rfl, h⟩
  | openSession => exact ⟨[.openSession], t.calls, rfl, h⟩
  | purge => exact ⟨[.purge], t.calls, rfl, h⟩
  | handle request authority =>
    obtain ⟨actions, stand, hr, hh, -⟩ := handle_run settings h authority request
    exact ⟨actions, _, hr, h.concat hh _⟩

/-- What a server comes to in turns, it comes to in a run of traffic as well. -/
theorem turns_run (tape : Tape) (turns : List Server.Turn) :
    ∃ actions calls, (Traffic.start tape).run settings actions =
      ⟨(Server.start tape).turns settings turns, calls⟩ ∧
      Quiet ⟨(Server.start tape).turns settings turns, calls⟩ := by
  have go : ∀ (turns : List Server.Turn) (t : Traffic), Quiet t → ∃ actions calls,
      t.run settings actions = ⟨t.server.turns settings turns, calls⟩ ∧
        Quiet ⟨t.server.turns settings turns, calls⟩ := by
    intro turns
    induction turns with
    | nil => exact fun t h => ⟨[], t.calls, rfl, h⟩
    | cons turn turns ih =>
      intro t h
      obtain ⟨first, calls, hr, hq⟩ := turn_run settings h turn
      obtain ⟨rest, calls', hr', hq'⟩ := ih _ hq
      exact ⟨first ++ rest, calls', by rw [run_append, hr, hr']; rfl, hq'⟩
  exact go turns (start tape) fun i c hi => by simp [start] at hi

end Traffic

end EnclaveGate
