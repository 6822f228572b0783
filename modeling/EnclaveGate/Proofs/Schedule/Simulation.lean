import EnclaveGate.Proofs.Traffic.Alone
import EnclaveGate.Schedule

/-!
# Schedules are traffic

A script opens sessions, sends and launches requests, purges, sleeps and starts reapers. Whatever it
does, the server of its schedule goes through a run of traffic: a request that begins enters, a
request that hears from the authority hears, a request whose session is over leaves at once, and a
reaper purges. A session that is released is granted to one request at a time, so a request that goes
on always finds its session free. What holds of every run of traffic therefore holds of every script.
-/

namespace EnclaveGate

/-- The session that is used, by a request that holds it or is about to. -/
def Progress.uses? {request : Request} : Progress request → Option Ticket
  | granted ticket _ | waiting ticket _ _ => some ticket
  | queued _ | done _ => none

/-- A request in flight and a call in traffic have come equally far. -/
inductive Progress.Agrees {request : Request} : Progress request → Stand request → Prop
  /-- Both wait for the session. -/
  | queued (k : Ticket) : Agrees (.queued k) (.admitted k)
  /-- The session is free for both. -/
  | granted (k : Ticket) (slot : Appointment) : Agrees (.granted k slot) (.admitted k)
  /-- Both wait for the authority. -/
  | waiting (v : Visit) (slot : Appointment) (pending : request.Pending) :
    Agrees (.waiting v.ticket slot pending) (.asking v pending)
  /-- Both were refused. -/
  | refused (cause : Error) : Agrees (.done (.error cause)) (.refused cause)
  /-- Both are answered. -/
  | answered (v : Visit) (r : Except Error request.Answer) : Agrees (.done r) (.answered v r)

/-- Where a call holds a session, its request uses it. -/
theorem Progress.Agrees.uses? {request : Request} {progress : Progress request}
    {stand : Stand request} (h : progress.Agrees stand) {k : Ticket} (hk : stand.holds? = some k) :
    progress.uses? = some k := by
  cases h <;> cases hk
  rfl

/-- Where a request waits for its session, its call does. -/
theorem Progress.Agrees.admitted_of_queued {request : Request} {progress : Progress request}
    {stand : Stand request} (h : progress.Agrees stand) {k : Ticket}
    (hk : progress.isQueuedFor k = true) : stand = .admitted k := by
  cases h <;> simp only [isQueuedFor, beq_iff_eq, Bool.false_eq_true] at hk
  rw [hk]

/-- A request in flight removes its session as soon as it is over. -/
theorem Progress.Agrees.not_leaving {request : Request} {progress : Progress request} {v : Visit}
    {r : Except Error request.Answer} : ¬ progress.Agrees (.leaving v r) := nofun

namespace Schedule

/-! ## Scripts -/

/-- A step of a script. -/
inductive Step
  /-- A session is opened. -/
  | openSession
  /-- Sessions that were idle for too long are removed. -/
  | purge
  /-- A request is sent, and the script waits for its answer. -/
  | send (request : Request)
  /-- A request is launched. -/
  | launch (request : Request)
  /-- The script waits for the answer to a request that was launched. -/
  | await (i : Nat)
  /-- Time passes. -/
  | sleep (ms : Nat)
  /-- A reaper is started. -/
  | spawnReaper (period : Nat)

/-- The schedule after a step of a script, during which an authority answers. -/
def perform (settings : Settings) (authority : Authority) (schedule : Schedule) : Step → Schedule
  | .openSession => (schedule.openSession settings).2
  | .purge => (schedule.purge settings).2
  | .send request => (schedule.send settings authority request).2
  | .launch request => (schedule.launch settings authority request).2
  | .await i => schedule.await settings authority i
  | .sleep ms => schedule.sleep settings authority ms
  | .spawnReaper period => schedule.spawnReaper settings authority period

/-- The schedule after a script. Every step comes with the authority that answers during it. -/
def performAll (settings : Settings) (schedule : Schedule) (script : List (Authority × Step)) :
    Schedule :=
  script.foldl (fun schedule (authority, step) => schedule.perform settings authority step) schedule

/-! ## Keeping pace -/

/-- Traffic has come as far as a schedule. -/
structure Tracks (settings : Settings) (schedule : Schedule) (t : Traffic) : Prop where
  /-- Both have the same server. -/
  server : t.server = schedule.server
  /-- Every request in flight is a call. -/
  length : t.calls.length = schedule.flights.length
  /-- Every request in flight has come as far as its call. -/
  stands : ∀ (i : Nat) (flight : Flight), schedule.flights[i]? = some flight →
    ∃ stand : Stand flight.request, t.calls[i]? = some ⟨flight.request, stand⟩ ∧
      flight.progress.Agrees stand
  /-- A session is used by one request. -/
  alone : ∀ (i j : Nat) (f g : Flight) (k : Ticket), schedule.flights[i]? = some f →
    schedule.flights[j]? = some g → f.progress.uses? = some k → g.progress.uses? = some k → i = j
  /-- The traffic is coherent. -/
  coherent : t.Coherent settings
  /-- Every call was admitted to a session with the id that it addressed. -/
  addressed : t.Addressed

/-- Whatever traffic has come as far as one schedule can come as far as another one. -/
def LeadsTo (settings : Settings) (schedule next : Schedule) : Prop :=
  ∀ t, Tracks settings schedule t → ∃ actions, Tracks settings next (t.run settings actions)

/-- No request but perhaps one uses a session. -/
def FreeFor (schedule : Schedule) (i : Nat) (k : Ticket) : Prop :=
  ∀ (j : Nat) (f : Flight), schedule.flights[j]? = some f → j ≠ i → f.progress.uses? ≠ some k

/-- No request uses a session. -/
def Unused (schedule : Schedule) (k : Ticket) : Prop :=
  ∀ (i : Nat) (f : Flight), schedule.flights[i]? = some f → f.progress.uses? ≠ some k

variable {settings : Settings} {authority : Authority} {s s' : Schedule} {t t' : Traffic}

theorem LeadsTo.refl (s : Schedule) : LeadsTo settings s s := fun _ h => ⟨[], h⟩

theorem LeadsTo.trans {a b c : Schedule} (hab : LeadsTo settings a b) (hbc : LeadsTo settings b c) :
    LeadsTo settings a c := by
  intro t ht
  obtain ⟨first, h₁⟩ := hab t ht
  obtain ⟨second, h₂⟩ := hbc _ h₁
  exact ⟨first ++ second, by rwa [Traffic.run_append]⟩

theorem Tracks.start (settings : Settings) (tape : Tape) :
    Tracks settings (start tape) (Traffic.start tape) where
  server := rfl
  length := rfl
  stands := by simp [Schedule.start]
  alone := by simp [Schedule.start]
  coherent := .start settings tape
  addressed := .start tape

namespace Tracks

/-- Traffic does not see what is arranged. -/
theorem congr (h : Tracks settings s t) (hs : s'.server = s.server) (hf : s'.flights = s.flights) :
    Tracks settings s' t where
  server := h.server.trans hs.symm
  length := hf ▸ h.length
  stands := hf ▸ h.stands
  alone := hf ▸ h.alone
  coherent := h.coherent
  addressed := h.addressed

theorem aside (h : Tracks settings s t) (action : Traffic.Action)
    (hs : (t.step settings action).server = s'.server) (hf : s'.flights = s.flights)
    (hc : (t.step settings action).calls = t.calls) :
    Tracks settings s' (t.run settings [action]) where
  server := hs
  length := by rw [hf, ← h.length]; exact congrArg List.length hc
  stands := by
    have hc' : (t.run settings [action]).calls = t.calls := hc
    rw [hf, hc']
    exact h.stands
  alone := hf ▸ h.alone
  coherent := h.coherent.run [action]
  addressed := h.addressed.run h.coherent [action]

theorem arrived (h : Tracks settings s t) {request : Request} {isOwn : Bool}
    {progress : Progress request} {stand : Stand request} (agrees : progress.Agrees stand)
    (uses : progress.uses? = none) (hs : t'.server = s'.server)
    (hf : s'.flights = s.flights ++ [⟨request, isOwn, progress⟩])
    (hc : t'.calls = t.calls ++ [⟨request, stand⟩]) (coherent : t'.Coherent settings)
    (addressed : t'.Addressed) : Tracks settings s' t' where
  server := hs
  length := by simp [hf, hc, h.length]
  stands := by
    intro i flight hi
    rw [hf, List.getElem?_append] at hi
    rw [hc, List.getElem?_append, h.length]
    split at hi
    · rename_i hl
      rw [if_pos hl]
      exact h.stands i flight hi
    · rename_i hl
      rw [if_neg hl]
      rcases hn : i - s.flights.length with - | n
      · rw [hn] at hi
        cases hi
        exact ⟨stand, rfl, agrees⟩
      · rw [hn] at hi
        cases hi
  alone := by
    intro i j f g k hi hj hfk hgk
    rw [hf] at hi hj
    -- the new request uses nothing
    rcases Traffic.append_cases hi with hi | rfl
    · rcases Traffic.append_cases hj with hj | rfl
      · exact h.alone i j f g k hi hj hfk hgk
      · rw [uses] at hgk
        cases hgk
    · rw [uses] at hfk
      cases hfk
  coherent := coherent
  addressed := addressed

theorem went (h : Tracks settings s t) {i : Nat} {flight : Flight}
    {progress : Progress flight.request} {stand : Stand flight.request}
    (hi : s.flights[i]? = some flight) (agrees : progress.Agrees stand)
    (free : ∀ k, progress.uses? = some k → s.FreeFor i k) (hs : t'.server = s'.server)
    (hf : s'.flights = s.flights.set i { flight with progress })
    (hc : t'.calls = t.calls.set i ⟨flight.request, stand⟩) (coherent : t'.Coherent settings)
    (addressed : t'.Addressed) : Tracks settings s' t' where
  server := hs
  length := by simp [hf, hc, h.length]
  stands := by
    intro j g hj
    rw [hf] at hj
    rcases Traffic.set_cases hj with ⟨rfl, rfl⟩ | ⟨hne, hj⟩
    · obtain ⟨stand₀, hstand₀, -⟩ := h.stands _ _ hi
      exact ⟨stand, by rw [hc]; exact Traffic.set_self hstand₀, agrees⟩
    · rw [hc, List.getElem?_set_ne (Ne.symm hne)]
      exact h.stands j g hj
  alone := by
    intro j l f g k hj hl hfk hgk
    rw [hf] at hj hl
    rcases Traffic.set_cases hj with ⟨rfl, rfl⟩ | ⟨hji, hj'⟩
    · rcases Traffic.set_cases hl with ⟨rfl, rfl⟩ | ⟨hli, hl'⟩
      · rfl
      · exact absurd hgk (free k hfk l g hl' hli)
    · rcases Traffic.set_cases hl with ⟨rfl, rfl⟩ | ⟨hli, hl'⟩
      · exact absurd hfk (free k hgk j f hj' hji)
      · exact h.alone j l f g k hj' hl' hfk hgk
  coherent := coherent
  addressed := addressed

/-- A request that uses a session uses it alone. -/
theorem freeFor (h : Tracks settings s t) {i : Nat} {flight : Flight} {k : Ticket}
    (hi : s.flights[i]? = some flight) (uses : flight.progress.uses? = some k) : s.FreeFor i k :=
  fun j f hj hne hk => hne (h.alone j i f flight k hj hi hk uses)

/-- A session that no other request uses is held by no other call. -/
theorem isHeld (h : Tracks settings s t) {i : Nat} {request : Request} {k : Ticket}
    (hi : t.calls[i]? = some ⟨request, .admitted k⟩) (free : s.FreeFor i k) :
    t.isHeld k = false := by
  simp only [Traffic.isHeld, List.any_eq_false, beq_iff_eq]
  intro c hc hk
  obtain ⟨j, hj⟩ := List.mem_iff_getElem?.mp hc
  obtain ⟨hl, -⟩ := List.getElem?_eq_some_iff.mp hj
  rw [h.length] at hl
  obtain ⟨stand, hstand, agrees⟩ := h.stands j _ (List.getElem?_eq_getElem hl)
  rw [hj] at hstand
  cases hstand
  have hne : j ≠ i := by
    rintro rfl
    rw [hj] at hi
    cases hi
    cases hk
  exact free j _ (List.getElem?_eq_getElem hl) hne (agrees.uses? hk)

end Tracks

/-! ## The end of a processing -/

/-- A session that no request uses is granted to the first request that waits for it. -/
theorem Tracks.release (h : Tracks settings s t) {k : Ticket} (unused : s.Unused k) :
    Tracks settings (s.release k) t := by
  unfold Schedule.release
  split
  · exact h
  · rename_i i hf
    split
    · exact h
    · rename_i flight hi
      dsimp only [arrange, setProgress]
      obtain ⟨stand, hstand, agrees⟩ := h.stands i flight hi
      have queued : stand = .admitted k := by
        obtain ⟨hl, hq, -⟩ := List.findIdx?_eq_some_iff_getElem.mp hf
        obtain ⟨_, he⟩ := List.getElem?_eq_some_iff.mp hi
        rw [he] at hq
        exact agrees.admitted_of_queued hq
      subst queued
      refine h.went hi (.granted k _) (fun k' hk' => ?_) h.server rfl ?_ h.coherent h.addressed
      · cases hk'
        exact fun j f hj _ => unused j f hj
      · obtain ⟨hl, he⟩ := List.getElem?_eq_some_iff.mp hstand
        rw [← he, List.set_getElem_self]

/-- A request is answered as its call is, and releases its session. -/
theorem Tracks.answer (h : Tracks settings s t) {i : Nat} {flight : Flight} (visit : Visit)
    {server : Server} {result : Except Error flight.request.Answer}
    (hi : s.flights[i]? = some flight) (free : s.FreeFor i visit.ticket) (hs : t'.server = server)
    (hc : t'.calls = t.calls.set i ⟨flight.request, .answered visit result⟩)
    (coherent : t'.Coherent settings) (addressed : t'.Addressed) :
    Tracks settings (s.answer i flight visit.ticket server result) t' := by
  refine Tracks.release (h.went hi (.answered visit result) (fun k hk => by cases hk) hs rfl hc
    coherent addressed) ?_
  intro j f hj hk
  rcases Traffic.set_cases hj with ⟨rfl, rfl⟩ | ⟨hne, hj⟩
  · cases hk
  · exact free j f hj hne hk

/-- The call of a request that waits for the authority asks it. -/
theorem Tracks.asking (h : Tracks settings s t) {i : Nat} {flight : Flight} {k : Ticket}
    {slot : Appointment} {pending : flight.request.Pending} (hi : s.flights[i]? = some flight)
    (hp : flight.progress = .waiting k slot pending) :
    ∃ visit, k = visit.ticket ∧ t.calls[i]? = some ⟨flight.request, .asking visit pending⟩ := by
  obtain ⟨stand, hstand, agrees⟩ := h.stands i flight hi
  rw [hp] at agrees
  cases agrees
  exact ⟨_, rfl, hstand⟩

/-- A request that waits for the authority hears from it and is answered. -/
theorem leadsTo_finish {i : Nat} {flight : Flight} {k : Ticket} (slot : Appointment)
    {pending : flight.request.Pending} (hi : s.flights[i]? = some flight) :
    LeadsTo settings (s.setProgress i flight (.waiting k slot pending))
      (s.finish settings authority i flight k pending) := by
  intro t h
  let waiting : Flight := { flight with progress := .waiting k slot pending }
  have hw : (s.setProgress i flight (.waiting k slot pending)).flights[i]? = some waiting :=
    Traffic.set_self hi
  obtain ⟨visit, rfl, hstand⟩ := h.asking hw rfl
  obtain ⟨session, hsession⟩ := h.coherent.known i _ visit hstand rfl
  obtain ⟨entry, he, -⟩ := Traffic.exists_entry _ hsession
  rcases hf : entry.session.finish settings authority t.server.tape flight.request pending with
    ⟨outcome, tape⟩
  -- the call hears, and leaves where its session is over
  obtain ⟨actions, hr⟩ := Traffic.conclude_settle settings t hstand flight.request
    (Traffic.heard authority t.server.tape flight.request visit) outcome tape
  have hrun : t.run settings (.hear i authority :: actions) =
      ⟨t.server.settle visit.ticket flight.request outcome tape, t.calls.set i ⟨flight.request,
        .answered (Traffic.heard authority t.server.tape flight.request visit) outcome.result⟩⟩ := by
    rw [Traffic.run_cons, Traffic.step, Traffic.hear_eq hstand he, hf, hr, Traffic.ticket_heard]
  have hfinish : s.finish settings authority i flight visit.ticket pending =
      s.answer i flight visit.ticket (t.server.settle visit.ticket flight.request outcome tape)
        outcome.result := by
    have hserver : s.server = t.server := h.server.symm
    simp only [Schedule.finish, Server.finish, hserver, he, hf]
  refine ⟨.hear i authority :: actions, ?_⟩
  have free : (s.setProgress i flight (.waiting visit.ticket slot pending)).FreeFor i
      (Traffic.heard authority t.server.tape flight.request visit).ticket := by
    rw [Traffic.ticket_heard]
    exact h.freeFor hw rfl
  have hend : Tracks settings ((s.setProgress i flight (.waiting visit.ticket slot pending)).answer i
      waiting (Traffic.heard authority t.server.tape flight.request visit).ticket
      (t.server.settle visit.ticket flight.request outcome tape) outcome.result)
      (t.run settings (.hear i authority :: actions)) :=
    h.answer _ hw free (by rw [hrun]) (by rw [hrun]) (h.coherent.run _)
      (h.addressed.run h.coherent _)
  rw [hfinish]
  rw [Traffic.ticket_heard] at hend
  -- that the request waited is forgotten
  simpa [Schedule.answer, Schedule.setProgress, waiting] using hend

/-! ## The beginning of a processing -/

/-- A request that asks the authority waits, or hears from it at once. -/
theorem leadsTo_ask {i : Nat} {flight : Flight} {k : Ticket} {pending : flight.request.Pending}
    (hi : s.flights[i]? = some flight) (slot : Appointment) :
    LeadsTo settings (s.setProgress i flight (.waiting k slot pending))
      (s.ask settings authority i flight k pending) := by
  intro t h
  unfold Schedule.ask
  dsimp only [arrange]
  split
  · refine leadsTo_finish slot ?_ t (h.congr rfl rfl)
    exact hi
  · refine ⟨[], ?_⟩
    let waiting : Flight := { flight with progress := .waiting k slot pending }
    have hw : (s.setProgress i flight (.waiting k slot pending)).flights[i]? = some waiting :=
      Traffic.set_self hi
    obtain ⟨visit, rfl, hstand⟩ := h.asking hw rfl
    let slot' : Appointment := ⟨s.server.now + flight.request.wait settings authority pending,
      if flight.isOwn then 0 else 1, s.arranged⟩
    refine h.went hw (.waiting visit slot' pending) (fun k' hk' => ?_) h.server
      ?_ ?_ h.coherent h.addressed
    · cases hk'
      exact h.freeFor hw rfl
    · simp [setProgress, waiting, slot']
    · obtain ⟨hl, he⟩ := List.getElem?_eq_some_iff.mp hstand
      rw [← he, List.set_getElem_self]
      rfl

/-- A request whose session is free begins there. -/
theorem leadsTo_begin {i : Nat} {flight : Flight} {k : Ticket} (hi : s.flights[i]? = some flight)
    (admitted : ∀ stand, flight.progress.Agrees stand → stand = .admitted k)
    (free : s.FreeFor i k) : LeadsTo settings s (s.begin settings authority i flight k) := by
  intro t h
  obtain ⟨stand, hstand, agrees⟩ := h.stands i flight hi
  rw [admitted stand agrees] at hstand
  have notHeld := h.isHeld hstand free
  obtain ⟨session, hsession, -⟩ := h.addressed i _ k hstand rfl
  obtain ⟨entry, he, -⟩ := Traffic.exists_entry _ hsession
  have hserver : s.server = t.server := h.server.symm
  rcases hb : entry.session.begin settings t.server.tape flight.request with
    ⟨outcome | pending, tape⟩
  · -- the processing is over at once
    let visit : Visit := ⟨k, entry.session, t.server.tape, none⟩
    obtain ⟨actions, hr⟩ :=
      Traffic.conclude_settle settings t hstand flight.request visit outcome tape
    have hrun : t.run settings (.enter i :: actions) =
        ⟨t.server.settle k flight.request outcome tape,
          t.calls.set i ⟨flight.request, .answered visit outcome.result⟩⟩ := by
      rw [Traffic.run_cons, Traffic.step, Traffic.enter_of_finished hstand notHeld he hb, hr]
    refine ⟨.enter i :: actions, ?_⟩
    have hbegin : s.begin settings authority i flight k =
        s.answer i flight k (t.server.settle k flight.request outcome tape) outcome.result := by
      simp only [Schedule.begin, Server.begin, hserver, he, hb]
    rw [hbegin]
    exact h.answer visit hi free (by rw [hrun]) (by rw [hrun]) (h.coherent.run _)
      (h.addressed.run h.coherent _)
  · -- the authority is asked
    let visit : Visit := ⟨k, entry.session, t.server.tape, none⟩
    have hrun : t.run settings [.enter i] =
        ⟨{ t.server with tape }, t.calls.set i ⟨flight.request, .asking visit pending⟩⟩ :=
      Traffic.enter_of_asking hstand notHeld he hb
    let entered : Schedule := { s with server := { t.server with tape } }
    have hentered : entered.flights[i]? = some flight := hi
    have hbegin : s.begin settings authority i flight k =
        entered.ask settings authority i flight k pending := by
      simp only [Schedule.begin, Server.begin, hserver, he, hb, entered]
    -- traffic does not know when the answer is due, so any appointment will do
    let slot : Appointment := ⟨0, 0, 0⟩
    have hwait : Tracks settings (entered.setProgress i flight (.waiting k slot pending))
        (t.run settings [.enter i]) := by
      refine h.went hi (.waiting visit slot pending) (fun k' hk' => ?_) (by rw [hrun]; rfl) rfl
        (by rw [hrun]) (h.coherent.run _) (h.addressed.run h.coherent _)
      cases hk'
      exact free
    obtain ⟨actions, hend⟩ := leadsTo_ask hentered slot _ hwait
    refine ⟨.enter i :: actions, ?_⟩
    rw [hbegin]
    exact hend

/-! ## What is arranged -/

theorem first?_mem {dues : List (Appointment × Due)} {due : Appointment × Due}
    (h : first? dues = some due) : due ∈ dues := by
  induction dues generalizing due with
  | nil => cases h
  | cons head rest ih =>
    simp only [first?] at h
    split at h
    · cases h
      exact List.mem_cons_self
    · rename_i best hbest
      split at h <;> cases h
      · exact List.mem_cons_of_mem _ (ih hbest)
      · exact List.mem_cons_self

/-- A request that is arranged to go on is in flight and uses its session. -/
theorem flight_of_due {a : Appointment} {i : Nat} {flight : Flight}
    (h : (a, Due.flight i flight) ∈ s.dues) : s.flights[i]? = some flight := by
  simp only [dues, List.mem_append, List.mem_filterMap, List.mem_map, Option.map_eq_some_iff,
    Prod.exists, Prod.mk.injEq, reduceCtorEq, and_false, exists_false, or_false] at h
  obtain ⟨f, j, hj, -, -, -, hd⟩ := h
  cases hd
  simpa [List.mem_zipIdx_iff_getElem?] using hj

theorem leadsTo_resume {i : Nat} {flight : Flight} (hi : s.flights[i]? = some flight) :
    LeadsTo settings s (s.resume settings authority i flight) := by
  intro t h
  rcases flight with ⟨request, isOwn, progress⟩
  cases progress with
  | granted k slot =>
    refine leadsTo_begin hi (fun stand agrees => ?_) (h.freeFor hi rfl) t h
    cases agrees
    rfl
  | waiting k slot pending =>
    refine leadsTo_finish slot hi t ?_
    have same : s.setProgress i ⟨request, isOwn, .waiting k slot pending⟩
        (.waiting k slot pending) = s := by
      obtain ⟨hl, he⟩ := List.getElem?_eq_some_iff.mp hi
      simp only [setProgress, ← he, List.set_getElem_self]
    rwa [same]
  | queued k => exact ⟨[], h⟩
  | done result => exact ⟨[], h⟩

theorem leadsTo_reap (i : Nat) (reaper : Reaper) : LeadsTo settings s (s.reap settings i reaper) :=
  fun _ h => ⟨[.purge], h.aside .purge (by rw [Traffic.step, h.server]; rfl) rfl rfl⟩

theorem leadsTo_advance (ms : Nat) :
    LeadsTo settings s { s with server := s.server.advance ms } :=
  fun _ h => ⟨[.pass ms], h.aside (.pass ms) (by rw [Traffic.step, h.server]) rfl rfl⟩

theorem leadsTo_occur {time : Nat} {a : Appointment} {due : Due} (h : (a, due) ∈ s.dues) :
    LeadsTo settings s (s.occur settings authority time due) := by
  refine (leadsTo_advance (time - s.server.now)).trans ?_
  cases due with
  | flight i flight => exact leadsTo_resume (flight_of_due h)
  | reaper i reaper => exact leadsTo_reap i reaper

theorem leadsTo_step {limit : Nat} (h : s.step? settings authority limit = some s') :
    LeadsTo settings s s' := by
  unfold step? at h
  split at h
  · cases h
  · rename_i a due hd
    split at h <;> cases h
    exact leadsTo_occur (first?_mem hd)

theorem leadsTo_runUpTo (steps limit : Nat) (s : Schedule) :
    LeadsTo settings s (runUpTo settings authority steps limit s) := by
  induction steps generalizing s with
  | zero => exact .refl s
  | succ steps ih =>
    unfold runUpTo
    split
    · exact .refl s
    · rename_i next hnext
      exact (leadsTo_step hnext).trans (ih next)

theorem leadsTo_runForUpTo (i steps limit : Nat) (s : Schedule) :
    LeadsTo settings s (runForUpTo settings authority i steps limit s) := by
  induction steps generalizing s with
  | zero => exact .refl s
  | succ steps ih =>
    unfold runForUpTo
    split
    · exact .refl s
    · split
      · exact .refl s
      · rename_i next hnext
        exact (leadsTo_step hnext).trans (ih next)

theorem leadsTo_settle (s : Schedule) : LeadsTo settings s (s.settle settings authority) :=
  leadsTo_runUpTo _ _ s

theorem leadsTo_runFor (i : Nat) (s : Schedule) :
    LeadsTo settings s (s.runFor settings authority i) :=
  leadsTo_runForUpTo i _ _ s

/-! ## Steps of a script -/

/-- A request arrives, and begins where its session is free. -/
theorem leadsTo_arrive (request : Request) (isOwn : Bool) :
    LeadsTo settings s (s.arrive settings authority request isOwn).2 := by
  intro t h
  have hserver : t.server = s.server := h.server
  unfold arrive
  rcases hr : s.server.route settings request.sessionId with ⟨cause | k, server⟩
  · have hstep : t.run settings [.arrive request] =
        ⟨server, t.calls ++ [⟨request, .refused cause⟩]⟩ := by
      simp [Traffic.run, Traffic.step, Traffic.arrive, hserver, hr]
    refine ⟨[.arrive request], ?_⟩
    exact h.arrived (.refused cause) rfl (by rw [hstep]; rfl) rfl (by rw [hstep])
      (h.coherent.run _) (h.addressed.run h.coherent _)
  · have hstep : t.run settings [.arrive request] =
        ⟨server, t.calls ++ [⟨request, .admitted k⟩]⟩ := by
      simp [Traffic.run, Traffic.step, Traffic.arrive, hserver, hr]
    let arrived : Schedule :=
      { s with server, flights := s.flights ++ [⟨request, isOwn, .queued k⟩] }
    have hqueued : Tracks settings arrived (t.run settings [.arrive request]) :=
      h.arrived (.queued k) rfl (by rw [hstep]) rfl (by rw [hstep]) (h.coherent.run _)
        (h.addressed.run h.coherent _)
    dsimp only [addFlight]
    split
    · exact ⟨_, hqueued⟩
    · rename_i notBusy
      have free : arrived.FreeFor s.flights.length k := by
        intro j f hj hne hk
        have hj' : s.flights[j]? = some f := by
          rcases Traffic.append_cases hj with hj | rfl
          · exact hj
          · cases hk
        refine notBusy (List.any_eq_true.mpr ⟨f, List.mem_of_getElem? hj', ?_⟩)
        rcases f with ⟨other, own, progress⟩
        cases progress <;> cases hk <;> simp [Progress.ticket?]
      have hbegin : LeadsTo settings arrived (arrived.begin settings authority s.flights.length
          ⟨request, isOwn, .queued k⟩ k) :=
        leadsTo_begin List.getElem?_concat_length (fun stand agrees => by cases agrees; rfl) free
      obtain ⟨actions, hend⟩ := hbegin _ hqueued
      exact ⟨.arrive request :: actions, hend⟩

/-- Every step of a script is a run of traffic. -/
theorem leadsTo_perform (authority : Authority) (step : Step) :
    LeadsTo settings s (s.perform settings authority step) := by
  cases step with
  | openSession =>
    exact fun t h => ⟨[.openSession],
      h.aside .openSession (by rw [Traffic.step, h.server]; rfl) rfl rfl⟩
  | purge =>
    exact fun t h => ⟨[.purge], h.aside .purge (by rw [Traffic.step, h.server]; rfl) rfl rfl⟩
  | send request => exact (leadsTo_arrive request true).trans (leadsTo_runFor _ _)
  | launch request => exact (leadsTo_settle s).trans (leadsTo_arrive request false)
  | await i =>
    simp only [perform, await]
    split
    · exact .refl s
    · exact (leadsTo_runFor i s).trans (leadsTo_settle _)
  | sleep ms => exact (leadsTo_runUpTo _ _ s).trans (leadsTo_advance _)
  | spawnReaper period =>
    let reaper : Reaper := ⟨period, (s.arrange 0 1).1⟩
    let spawned : Schedule := { (s.arrange 0 1).2 with reapers := s.reapers ++ [reaper] }
    have arranged : LeadsTo settings s spawned := fun t h => ⟨[], h.congr rfl rfl⟩
    exact arranged.trans (leadsTo_settle spawned)

theorem leadsTo_performAll (script : List (Authority × Step)) (s : Schedule) :
    LeadsTo settings s (s.performAll settings script) := by
  induction script generalizing s with
  | nil => exact .refl s
  | cons move script ih =>
    exact (leadsTo_perform move.1 move.2).trans (ih _)

/-- Every script keeps the pace of a run of traffic. -/
theorem performAll_tracks (settings : Settings) (tape : Tape) (script : List (Authority × Step)) :
    ∃ actions, Tracks settings ((start tape).performAll settings script)
      ((Traffic.start tape).run settings actions) :=
  leadsTo_performAll script (start tape) _ (.start settings tape)

end Schedule

end EnclaveGate
