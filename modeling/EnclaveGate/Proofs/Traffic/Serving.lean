import EnclaveGate.Proofs.Traffic.Orderly

/-!
# Requests that others do not disturb

A request is served among the steps of others: it arrives, gets its session, and hears from the
authority, while sessions are opened, other requests are served and time passes. If its session is
listed and was not idle for too long when it arrives, and all other calls to the session were over
before, the request meets the session as it was and is processed as if it were alone.
-/

namespace EnclaveGate

namespace Traffic

/-- What others do while a request is served, and the authority that it hears from. -/
structure Course where
  /-- The steps before it arrives. -/
  before : List Action
  /-- The steps before it gets its session. -/
  waiting : List Action
  /-- The steps before it hears from the authority. -/
  asking : List Action
  /-- The authority. -/
  authority : Authority

section Serve

variable (settings : Settings) (t : Traffic) (request : Request) (course : Course)

/-- The traffic at which the request arrives. -/
def arrival : Traffic := t.run settings course.before

/-- The number of the call. -/
def callOf : Nat := (t.arrival settings course).calls.length

/-- The traffic in which the request gets its session. -/
def entry : Traffic :=
  ((t.arrival settings course).arrive settings request).run settings course.waiting

/-- The traffic in which the request hears from the authority. -/
def reply : Traffic :=
  ((t.entry settings request course).enter settings (t.callOf settings course)).run settings
    course.asking

/-- The traffic after the request was served. -/
def serve : Traffic :=
  (t.reply settings request course).hear settings (t.callOf settings course) course.authority

/-- Nobody disturbs a request to a session. -/
structure Undisturbed (k : Ticket) : Prop where
  /-- The session is listed when the request arrives. -/
  listed : (t.arrival settings course).Lists k request.sessionId
  /-- It was not idle for too long. -/
  fresh : ¬ (t.arrival settings course).Expired settings k
  /-- Nobody else takes the steps of the call. -/
  spared : ∀ action ∈ course.waiting ++ course.asking,
    action.call? ≠ some (t.callOf settings course)
  /-- All other calls to the session were over before. -/
  alone : ∀ (n : Nat) (c : Call), (t.serve settings request course).calls[n]? = some c →
    c.stand.ticket? = some k → n = t.callOf settings course ∨
      ∃ c₀, t.calls[n]? = some c₀ ∧ c₀.stand.result? ≠ none

end Serve

variable {settings : Settings} {t t' : Traffic} {i : Nat} {k : Ticket} {s : Session}

/-! ## What others leave alone -/

/-- A call that is over stays over. -/
theorem Effect.over_kept (he : Effect settings t t') {n : Nat} {c : Call}
    (hn : t.calls[n]? = some c) (hr : c.stand.result? ≠ none) :
    ∃ c', t'.calls[n]? = some c' ∧ c'.stand.result? ≠ none := by
  -- a call that is not over is another one
  have other : ∀ {j : Nat} {d d' : Call}, t.calls[j]? = some d → d.stand.result? = none →
      t'.calls = t.calls.set j d' → ∃ c', t'.calls[n]? = some c' ∧ c'.stand.result? ≠ none := by
    intro j d d' hj hd hc
    have hne : j ≠ n := by
      rintro rfl
      rw [hn] at hj
      cases hj
      exact hr hd
    exact ⟨c, by rw [hc, List.getElem?_set_ne hne, hn], hr⟩
  cases he with
  | still hs hc => exact ⟨c, hc ▸ hn, hr⟩
  | opened id hs hc => exact ⟨c, hc ▸ hn, hr⟩
  | refused request cause hs hc => exact ⟨c, by rw [hc]; exact append_left hn _, hr⟩
  | admitted request ticket _ hs hc => exact ⟨c, by rw [hc]; exact append_left hn _, hr⟩
  | asked j request v pending hj _ _ _ _ hs hc => exact other hj rfl hc
  | finished j request v outcome hj _ _ _ _ hs hc => exact other hj rfl hc
  | heard j request v pending authority session tape hj _ hs hc => exact other hj rfl hc
  | left j request v result hj hs hc =>
    by_cases hjn : j = n
    · subst hjn
      exact ⟨⟨request, .answered v result⟩, by rw [hc]; exact set_self hj, by simp [Stand.result?]⟩
    · exact ⟨c, by rw [hc, List.getElem?_set_ne hjn, hn], hr⟩

theorem over_kept_run (actions : List Action) {n : Nat} {c : Call} (hn : t.calls[n]? = some c)
    (hr : c.stand.result? ≠ none) :
    ∃ c', (t.run settings actions).calls[n]? = some c' ∧ c'.stand.result? ≠ none := by
  induction actions generalizing t c with
  | nil => exact ⟨c, hn, hr⟩
  | cons action actions ih =>
    obtain ⟨c', hc', hr'⟩ := (t.step_effect settings action).over_kept hn hr
    exact ih hc' hr'

/-- A session stays as it is while the calls to it stand still or were over before. -/
theorem session_kept (h : Coherent settings t) (hk : t.sessions[k]? = some s) (action : Action)
    (still : ∀ (n : Nat) (c : Call), (t.step settings action).calls[n]? = some c →
      c.stand.ticket? = some k → ∃ c₀, t.calls[n]? = some c₀ ∧
        (c₀ = c ∨ c₀.stand.result? ≠ none)) :
    (t.step settings action).sessions[k]? = some s := by
  rcases (t.step_effect settings action).session_cases h hk with
    hs | ⟨j, c, c', -, hj, hr, hj', hr', ⟨v, hv, rfl, -⟩, -, -, -⟩
  · exact hs
  · obtain ⟨c₀, h₀, hc⟩ := still j c' hj' (Stand.ticket?_of_visit? hv)
    rw [hj] at h₀
    cases h₀
    rcases hc with rfl | hc
    · exact absurd hr hr'
    · exact absurd hr hc

theorem session_kept_run (own : Nat → Prop) {actions : List Action} (h : Coherent settings t)
    (hk : t.sessions[k]? = some s) (hown : ∀ n, own n → ∃ c, t.calls[n]? = some c)
    (spared : ∀ a ∈ actions, ∀ n, own n → a.call? ≠ some n)
    (others : ∀ (n : Nat) (c : Call), (t.run settings actions).calls[n]? = some c →
      c.stand.ticket? = some k → own n ∨ ∃ c₀, t.calls[n]? = some c₀ ∧ c₀.stand.result? ≠ none) :
    (t.run settings actions).sessions[k]? = some s := by
  induction actions generalizing t with
  | nil => exact hk
  | cons action actions ih =>
    have he := t.step_effect settings action
    have hfree := spared action (by simp)
    have hstep : (t.step settings action).sessions[k]? = some s := by
      refine session_kept h hk action fun n c hn hc => ?_
      obtain ⟨stand, hn', hc'⟩ := ticket_kept_run actions hn hc
      rcases others n _ hn' hc' with ho | ⟨c₀, h₀, hr⟩
      · obtain ⟨c₀, h₀⟩ := hown n ho
        rw [calls_step_ne (hfree n ho) h₀] at hn
        exact ⟨c₀, h₀, Or.inl (Option.some.inj hn)⟩
      · exact ⟨c₀, h₀, Or.inr hr⟩
    refine ih (h.effect he) hstep ?_ (fun a ha => spared a (by simp [ha])) ?_
    · intro n ho
      obtain ⟨c, hc⟩ := hown n ho
      exact ⟨c, calls_step_ne (hfree n ho) hc⟩
    · intro n c hn hc
      rcases others n c hn hc with ho | ⟨c₀, h₀, hr⟩
      · exact Or.inl ho
      · exact Or.inr (he.over_kept h₀ hr)

/-- Others leave a call and its session alone. -/
theorem kept_run {actions : List Action} {c : Call} (h : Coherent settings t)
    (hk : t.sessions[k]? = some s) (hi : t.calls[i]? = some c)
    (spared : ∀ a ∈ actions, a.call? ≠ some i)
    (alone : ∀ (n : Nat) (c : Call), (t.run settings actions).calls[n]? = some c →
      c.stand.ticket? = some k → n = i ∨ ∃ c₀, t.calls[n]? = some c₀ ∧ c₀.stand.result? ≠ none) :
    (t.run settings actions).calls[i]? = some c ∧ (t.run settings actions).sessions[k]? = some s := by
  refine ⟨calls_run_ne spared hi, session_kept_run (· = i) h hk ?_ ?_ alone⟩
  · rintro n rfl
    exact ⟨c, hi⟩
  · rintro a ha n rfl
    exact spared a ha

/-- A session to which all other calls are over is free. -/
theorem not_isHeld {c : Call} (hi : t.calls[i]? = some c) (hc : c.stand.holds? = none)
    (alone : ∀ (n : Nat) (c : Call), t.calls[n]? = some c → c.stand.ticket? = some k → n = i ∨
      c.stand.result? ≠ none) : t.isHeld k = false := by
  simp only [isHeld, List.any_eq_false, beq_iff_eq]
  intro d hd hk
  obtain ⟨n, hn⟩ := List.mem_iff_getElem?.mp hd
  obtain ⟨v, pending, hs, rfl⟩ := visit?_of_holds? hk
  rcases alone n d hn (by rw [hs]; rfl) with rfl | hr
  · rw [hi] at hn
    cases hn
    rw [hc] at hk
    cases hk
  · rw [hs] at hr
    exact hr rfl

/-! ## Serving -/

/-- A call that is over hears nothing. -/
theorem hear_of_concluded {request : Request} {v : Visit} {outcome : Outcome request.Answer}
    (hi : t.calls[i]? = some ⟨request, concluded v outcome⟩) (authority : Authority) :
    t.hear settings i authority = t := by
  simp only [hear, hi]
  unfold concluded
  cases outcome.session.isTerminal <;> rfl

/-- A request to a listed session that was not idle for too long is admitted to it. -/
theorem arrive_of_listed {request : Request} (hu : Unambiguous t)
    (hl : t.Lists k request.sessionId) (hx : ¬ t.Expired settings k) :
    (t.arrive settings request).calls = t.calls ++ [⟨request, .admitted k⟩] := by
  have hf : t.server.registry.find? request.sessionId = some k :=
    (Registry.find?_eq_some_iff hu).mpr hl
  have hc : t.server.contains settings request.sessionId = true :=
    (Registry.contains_iff hu t.server.now).mpr ⟨k, hl, hx⟩
  simp only [arrive, Server.route, hf, hc, if_true]

theorem sessions_arrive (request : Request) : (t.arrive settings request).sessions = t.sessions := by
  obtain ⟨hs, -⟩ := t.server.route_cases settings request.sessionId
  rw [arrive]
  split
  · rename_i hr
    rw [hr] at hs
    exact hs
  · rename_i hr
    rw [hr] at hs
    exact hs

section Served

variable {request : Request} {course : Course}

theorem coherent_arrival (h : Coherent settings t) : Coherent settings (t.arrival settings course) :=
  h.run course.before

theorem coherent_entry (h : Coherent settings t) :
    Coherent settings (t.entry settings request course) :=
  ((coherent_arrival h).effect ((t.arrival settings course).arrive_effect settings request)).run
    course.waiting

/-- All calls to the session that came before the request was served are its own or were over. -/
theorem Undisturbed.alone_before (hd : Undisturbed settings t request course k) {x : Traffic}
    {later : List Action} (hx : t.serve settings request course = x.run settings later) {n : Nat}
    {c : Call} (hn : x.calls[n]? = some c) (hc : c.stand.ticket? = some k) :
    n = t.callOf settings course ∨ ∃ c₀, t.calls[n]? = some c₀ ∧ c₀.stand.result? ≠ none := by
  obtain ⟨stand, hn', hc'⟩ := ticket_kept_run later hn hc
  exact hd.alone n _ (hx ▸ hn') hc'

theorem serve_eq_run_entry : t.serve settings request course =
    (t.entry settings request course).run settings (.enter (t.callOf settings course) ::
      (course.asking ++ [.hear (t.callOf settings course) course.authority])) := by
  rw [run_cons, run_append]
  rfl

theorem serve_eq_run_arrival : t.serve settings request course =
    (t.arrival settings course).run settings (.arrive request :: (course.waiting ++
      .enter (t.callOf settings course) ::
        (course.asking ++ [.hear (t.callOf settings course) course.authority]))) := by
  rw [run_cons, run_append, run_cons, run_append]
  rfl

theorem Coherent.serve (h : Coherent settings t) (request : Request) (course : Course) :
    Coherent settings (t.serve settings request course) := by
  rw [serve_eq_run_arrival]
  exact (coherent_arrival h).run _

theorem Unambiguous.serve (h : Unambiguous t) (request : Request) (course : Course) :
    Unambiguous (t.serve settings request course) := by
  rw [serve_eq_run_arrival]
  have ha : Unambiguous (t.arrival settings course) := h.run course.before
  exact ha.run _

/-- When the request arrives, its session is as it was. -/
theorem Undisturbed.sessions_arrival (hd : Undisturbed settings t request course k)
    (h : Coherent settings t) (hk : t.sessions[k]? = some s) :
    (t.arrival settings course).sessions[k]? = some s := by
  refine session_kept_run (fun _ => False) h hk (by simp) (by simp) ?_
  intro n c hn hc
  rcases hd.alone_before serve_eq_run_arrival hn hc with rfl | ho
  · exact absurd (List.getElem?_eq_some_iff.mp hn).1 (Nat.lt_irrefl _)
  · exact Or.inr ho

/-- When the request gets its session, the session is as it was and free. -/
theorem Undisturbed.entry_kept (hd : Undisturbed settings t request course k)
    (h : Coherent settings t) (hu : Unambiguous t) (hk : t.sessions[k]? = some s) :
    (t.entry settings request course).calls[t.callOf settings course]? =
        some ⟨request, .admitted k⟩ ∧
      (t.entry settings request course).sessions[k]? = some s ∧
      (t.entry settings request course).isHeld k = false := by
  let arrived := (t.arrival settings course).arrive settings request
  have hcalls : arrived.calls[t.callOf settings course]? = some ⟨request, .admitted k⟩ := by
    have hu' : Unambiguous (t.arrival settings course) := hu.run course.before
    simp only [arrived, arrive_of_listed hu' hd.listed hd.fresh, callOf]
    exact List.getElem?_concat_length
  have hsession : arrived.sessions[k]? = some s := by
    rw [sessions_arrive]
    exact hd.sessions_arrival h hk
  have hcoherent : Coherent settings arrived :=
    (coherent_arrival h).effect ((t.arrival settings course).arrive_effect settings request)
  have alone : ∀ (n : Nat) (c : Call), (t.entry settings request course).calls[n]? = some c →
      c.stand.ticket? = some k → n = t.callOf settings course ∨
        ∃ c₀, arrived.calls[n]? = some c₀ ∧ c₀.stand.result? ≠ none := by
    intro n c hn hc
    rcases hd.alone_before serve_eq_run_entry hn hc with hn | ⟨c₀, h₀, hr⟩
    · exact Or.inl hn
    · have harrived : t.run settings (course.before ++ [.arrive request]) = arrived := by
        rw [run_append]
        rfl
      exact Or.inr (harrived ▸ over_kept_run _ h₀ hr)
  obtain ⟨hi, hs⟩ := kept_run hcoherent hsession hcalls
    (fun a ha => hd.spared a (List.mem_append_left _ ha)) alone
  refine ⟨hi, hs, not_isHeld hi rfl fun n c hn hc => ?_⟩
  rcases alone n c hn hc with hn | ⟨c₀, h₀, hr⟩
  · exact Or.inl hn
  · obtain ⟨c₁, h₁, hr₁⟩ := over_kept_run course.waiting h₀ hr
    have hsame : some c₁ = some c := h₁.symm.trans hn
    cases hsame
    exact Or.inr hr₁

/-- When the request hears from the authority, it stands where it stood when it got its session, and
so does its session. -/
theorem Undisturbed.reply_kept (hd : Undisturbed settings t request course k)
    (h : Coherent settings t) {c : Call}
    (hi : ((t.entry settings request course).enter settings (t.callOf settings course)).calls[
      t.callOf settings course]? = some c)
    (hk : ((t.entry settings request course).enter settings (t.callOf settings course)).sessions[
      k]? = some s) :
    (t.reply settings request course).calls[t.callOf settings course]? = some c ∧
      (t.reply settings request course).sessions[k]? = some s := by
  have hcoherent : Coherent settings
      ((t.entry settings request course).enter settings (t.callOf settings course)) :=
    (coherent_entry h).effect ((t.entry settings request course).enter_effect settings _)
  refine kept_run hcoherent hk hi (fun a ha => hd.spared a (List.mem_append_right _ ha))
    fun n d hn hc => ?_
  have hserve : t.serve settings request course = (t.reply settings request course).run settings
      [.hear (t.callOf settings course) course.authority] := rfl
  rcases hd.alone_before hserve hn hc with rfl | ⟨c₀, h₀, hr⟩
  · exact Or.inl rfl
  · have hentered : t.run settings (course.before ++ .arrive request :: (course.waiting ++
        [.enter (t.callOf settings course)])) =
        (t.entry settings request course).enter settings (t.callOf settings course) := by
      rw [run_append, run_cons, run_append]
      rfl
    exact Or.inr (hentered ▸ over_kept_run _ h₀ hr)

/-- A request that nobody disturbs is processed on its session as it was: at once, or with the
answer of the authority. -/
theorem Undisturbed.served (hd : Undisturbed settings t request course k)
    (h : Coherent settings t) (hu : Unambiguous t) (hk : t.sessions[k]? = some s) :
    ∃ (v : Visit) (outcome : Outcome request.Answer),
      (t.serve settings request course).calls[t.callOf settings course]? =
        some ⟨request, concluded v outcome⟩ ∧
      (t.serve settings request course).sessions[k]? = some outcome.session ∧
      ((s.begin settings (t.entry settings request course).server.tape request).1 =
          .finished outcome ∨
        ∃ pending, (s.begin settings (t.entry settings request course).server.tape request).1 =
            .asking pending ∧
          (s.finish settings course.authority (t.reply settings request course).server.tape request
            pending).1 = outcome) := by
  obtain ⟨hi, hs, free⟩ := hd.entry_kept h hu hk
  obtain ⟨entry, he, rfl⟩ := exists_entry _ hs
  rcases hb : entry.session.begin settings (t.entry settings request course).server.tape request
    with ⟨outcome | pending, tape⟩
  · -- the processing is over at once, and the authority is not asked
    have henter := enter_of_finished hi free he hb
    obtain ⟨hc, hs'⟩ := hd.reply_kept h (c := ⟨request, concluded _ outcome⟩)
      (s := outcome.session)
      (by rw [henter, conclude_calls]; exact set_self hi)
      (by rw [henter, conclude_sessions]
          exact List.getElem?_set_self (List.getElem?_eq_some_iff.mp hs).1)
    have hserve : t.serve settings request course = t.reply settings request course := by
      rw [serve, hear_of_concluded hc]
    exact ⟨_, outcome, hserve ▸ hc, hserve ▸ hs', Or.inl rfl⟩
  · -- the authority is asked, and its answer finds the call and the session as they were
    let visit : Visit :=
      ⟨k, entry.session, (t.entry settings request course).server.tape, none⟩
    have henter := enter_of_asking hi free he hb
    obtain ⟨hc, hs'⟩ := hd.reply_kept h (c := ⟨request, .asking visit pending⟩)
      (s := entry.session)
      (by rw [henter]; exact set_self hi)
      (by rw [henter]; exact hs)
    obtain ⟨entry', he', hes⟩ := exists_entry _ hs'
    have hserve : t.serve settings request course = _ := hear_eq hc he' course.authority
    rw [hes] at hserve
    refine ⟨heard course.authority (t.reply settings request course).server.tape request visit, _,
      ?_, ?_, Or.inr ⟨pending, rfl, rfl⟩⟩
    · rw [hserve, conclude_calls]
      exact set_self hc
    · rw [hserve, conclude_sessions, ticket_heard]
      exact List.getElem?_set_self (List.getElem?_eq_some_iff.mp hs').1

/-! ## Serving alone -/

/-- A course in which nobody else does anything. -/
def Course.alone (authority : Authority) : Course := ⟨[], [], [], authority⟩

theorem callOf_alone (authority : Authority) :
    t.callOf settings (.alone authority) = t.calls.length := rfl

theorem serve_alone (request : Request) (authority : Authority) :
    t.serve settings request (.alone authority) = t.run settings
      [.arrive request, .enter t.calls.length, .hear t.calls.length authority] := rfl

theorem length_calls_enter (i : Nat) : (t.enter settings i).calls.length = t.calls.length := by
  rcases t.enter_cases settings i with hs | ⟨_, _, _, _, _, _, _, _, _, hs⟩ |
    ⟨_, _, _, _, _, _, _, _, _, hs⟩ <;> rw [hs]
  · exact List.length_set
  · exact List.length_set

theorem length_calls_hear (i : Nat) (authority : Authority) :
    (t.hear settings i authority).calls.length = t.calls.length := by
  rcases t.hear_cases settings i authority with hs | ⟨_, _, _, _, _, _, hs⟩ <;> rw [hs]
  exact List.length_set

/-- A request that is served alone is one more call. -/
theorem length_calls_serve_alone (request : Request) (authority : Authority) :
    (t.serve settings request (.alone authority)).calls.length = t.calls.length + 1 := by
  have ha : (t.arrive settings request).calls.length = t.calls.length + 1 := by
    rw [arrive]
    split <;> simp
  rw [← ha]
  exact (length_calls_hear _ authority).trans (length_calls_enter _)

/-- Where all earlier calls are over, nobody disturbs a request that is served alone. -/
theorem Undisturbed.of_alone {authority : Authority} (hl : t.Lists k request.sessionId)
    (hx : ¬ t.Expired settings k)
    (before : ∀ (n : Nat) (c : Call), t.calls[n]? = some c → c.stand.result? ≠ none) :
    Undisturbed settings t request (.alone authority) k := by
  constructor
  · exact hl
  · exact hx
  · simp [Course.alone]
  · intro n c hn _
    have hlt := (List.getElem?_eq_some_iff.mp hn).1
    rw [length_calls_serve_alone] at hlt
    by_cases hnew : n = t.calls.length
    · exact Or.inl hnew
    · have hold : n < t.calls.length := by omega
      have h₀ : t.calls[n]? = some t.calls[n] := List.getElem?_eq_getElem hold
      exact Or.inr ⟨_, h₀, before n _ h₀⟩

/-- A request that is served alone leaves the sessions listed that were not idle for too long. -/
theorem lists_serve_alone {id : SessionId} (hu : Unambiguous t) (hl : t.Lists k id)
    (hx : ¬ t.Expired settings k) (request : Request) (authority : Authority) :
    (t.serve settings request (.alone authority)).Lists k id := by
  have ha : (t.arrive settings request).Lists k id := by
    have hr := (t.server.lists_route_iff settings k id hu request.sessionId).mpr
      ⟨hl, fun h => hx h.2⟩
    rw [arrive]
    split <;> rename_i hroute <;> rw [hroute] at hr <;> exact hr
  exact (lists_hear _ authority).mpr ((lists_enter _).mpr ha)

/-- The arrival of a request draws no random bytes. -/
theorem tape_arrive (request : Request) :
    (t.arrive settings request).server.tape = t.server.tape := by
  have hr : (t.server.route settings request.sessionId).2.tape = t.server.tape := by
    rw [Server.route]
    split
    · rfl
    · split <;> rfl
  rw [arrive]
  split <;> rename_i hroute <;> rw [hroute] at hr <;> exact hr

theorem tape_entry_alone (request : Request) (authority : Authority) :
    (t.entry settings request (.alone authority)).server.tape = t.server.tape :=
  tape_arrive request

/-- Before the authority is asked, a request that is served alone draws what its processing
draws. -/
theorem Undisturbed.tape_reply {authority : Authority}
    (hd : Undisturbed settings t request (.alone authority) k) (h : Coherent settings t)
    (hu : Unambiguous t) (hk : t.sessions[k]? = some s) :
    (t.reply settings request (.alone authority)).server.tape =
      (s.begin settings t.server.tape request).2 := by
  obtain ⟨hi, hs, free⟩ := hd.entry_kept h hu hk
  obtain ⟨entry, he, rfl⟩ := exists_entry _ hs
  have hreply : t.reply settings request (.alone authority) =
      (t.entry settings request (.alone authority)).enter settings
        (t.callOf settings (.alone authority)) := rfl
  have htape : (t.entry settings request (.alone authority)).server.tape = t.server.tape :=
    tape_entry_alone request authority
  rw [hreply, ← htape]
  rcases hb : entry.session.begin settings (t.entry settings request (.alone authority)).server.tape
    request with ⟨outcome | pending, tape⟩
  · rw [enter_of_finished hi free he hb]
    rfl
  · rw [enter_of_asking hi free he hb]

/-- A message 1 that hears from the authority draws no random bytes. -/
theorem tape_hear_msg1 (settings : Settings) {m : Msg1} {stand : Stand (.msg1 m)}
    (hi : t.calls[i]? = some ⟨.msg1 m, stand⟩) (authority : Authority) :
    (t.hear settings i authority).server.tape = t.server.tape := by
  rcases t.hear_cases settings i authority with hs | ⟨_, _, _, _, hask, -, hs⟩ <;> rw [hs]
  cases hi.symm.trans hask
  rfl

/-- A message 1 that is served alone draws what its processing draws. -/
theorem Undisturbed.tape_serve_msg1 {m : Msg1} {authority : Authority}
    (hd : Undisturbed settings t (.msg1 m) (.alone authority) k) (h : Coherent settings t)
    (hu : Unambiguous t) (hk : t.sessions[k]? = some s) :
    (t.serve settings (.msg1 m) (.alone authority)).server.tape =
      (s.beginMsg1 settings m t.server.tape).2 := by
  obtain ⟨hi, -⟩ := hd.entry_kept h hu hk
  obtain ⟨stand, hr, -⟩ := ticket_kept_run [.enter (t.callOf settings (.alone authority))] hi rfl
  have hserve := tape_hear_msg1 settings (t := t.reply settings (.msg1 m) (.alone authority)) hr
    authority
  exact hserve.trans (hd.tape_reply h hu hk)

end Served

end Traffic

end EnclaveGate
