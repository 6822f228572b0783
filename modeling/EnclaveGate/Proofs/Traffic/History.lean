import EnclaveGate.Proofs.Traffic.Coherence

/-!
# Looking back

A call that has its session got it in one step of the run, as the session was then, and keeps what
it found. The session has the id that the call addressed.
-/

namespace EnclaveGate

namespace Traffic

variable {settings : Settings} {t t' : Traffic}

theorem run_append (before after : List Action) :
    t.run settings (before ++ after) = (t.run settings before).run settings after :=
  List.foldl_append

@[simp] theorem run_nil : t.run settings [] = t := rfl

theorem run_cons (action : Action) (after : List Action) :
    t.run settings (action :: after) = (t.step settings action).run settings after := rfl

/-- A call that gets its session was admitted to it, and finds it as it is. -/
theorem Effect.enters (he : Effect settings t t') {i : Nat} {c' : Call} {v : Visit}
    (hn : ∀ c, t.calls[i]? = some c → c.stand.visit? = none) (hi : t'.calls[i]? = some c')
    (hv : c'.stand.visit? = some v) :
    t.calls[i]? = some ⟨c'.request, .admitted v.ticket⟩ ∧ t.sessions[v.ticket]? = some v.found := by
  -- a call that was there before has no session
  have old : t.calls[i]? ≠ some c' := by
    intro h
    rw [hn c' h] at hv
    cases hv
  -- a call that goes on with its session had it before
  have went : ∀ {j : Nat} {c d : Call}, t.calls[j]? = some c → c.stand.visit? ≠ none →
      t'.calls ≠ t.calls.set j d := by
    intro j c d hj hw hc
    rw [hc] at hi
    rcases set_cases hi with ⟨rfl, rfl⟩ | ⟨-, hi'⟩
    · exact hw (hn c hj)
    · exact old hi'
  cases he with
  | still hs hc => exact absurd (hc ▸ hi) old
  | opened id hs hc => exact absurd (hc ▸ hi) old
  | refused request cause hs hc =>
    rw [hc] at hi
    rcases append_cases hi with hi | rfl
    · exact absurd hi old
    · cases hv
  | admitted request ticket _ hs hc =>
    rw [hc] at hi
    rcases append_cases hi with hi | rfl
    · exact absurd hi old
    · cases hv
  | asked j request w pending hj _ found _ _ hs hc =>
    rw [hc] at hi
    rcases set_cases hi with ⟨rfl, rfl⟩ | ⟨-, hi'⟩
    · cases hv
      exact ⟨hj, found⟩
    · exact absurd hi' old
  | finished j request w outcome hj _ found _ _ hs hc =>
    rw [hc] at hi
    rcases set_cases hi with ⟨rfl, rfl⟩ | ⟨-, hi'⟩
    · rw [visit?_concluded] at hv
      cases hv
      exact ⟨hj, found⟩
    · exact absurd hi' old
  | heard j request w pending authority session tape hj _ hs hc =>
    exact absurd hc (went hj (by simp [Stand.visit?]))
  | left j request w result hj hs hc => exact absurd hc (went hj (by simp [Stand.visit?]))

/-- A call that has its session keeps what it found, and message 1 keeps the random bytes from which
it draws. -/
theorem Effect.visit_kept (he : Effect settings t t') {i : Nat} {c : Call} {v : Visit}
    (hi : t.calls[i]? = some c) (hv : c.stand.visit? = some v) :
    ∃ (c' : Call) (v' : Visit), t'.calls[i]? = some c' ∧ c'.request = c.request ∧
      c'.stand.visit? = some v' ∧ v'.ticket = v.ticket ∧ v'.found = v.found ∧
      ((∃ m, c.request = .msg1 m) → v'.tape = v.tape) := by
  have same : t'.calls[i]? = some c → ∃ (c' : Call) (v' : Visit), t'.calls[i]? = some c' ∧
      c'.request = c.request ∧ c'.stand.visit? = some v' ∧ v'.ticket = v.ticket ∧
      v'.found = v.found ∧ ((∃ m, c.request = .msg1 m) → v'.tape = v.tape) :=
    fun h => ⟨c, v, h, rfl, hv, rfl, rfl, fun _ => rfl⟩
  -- a call that has no session yet is another one
  have other : ∀ {j : Nat} {d d' : Call}, t.calls[j]? = some d → d.stand.visit? = none →
      t'.calls = t.calls.set j d' → t'.calls[i]? = some c := by
    intro j d d' hj hd hc
    have hne : j ≠ i := by
      rintro rfl
      rw [hi] at hj
      cases hj
      rw [hd] at hv
      cases hv
    rw [hc, List.getElem?_set_ne hne, hi]
  cases he with
  | still hs hc => exact same (hc ▸ hi)
  | opened id hs hc => exact same (hc ▸ hi)
  | refused request cause hs hc => exact same (by rw [hc]; exact append_left hi _)
  | admitted request ticket _ hs hc => exact same (by rw [hc]; exact append_left hi _)
  | asked j request w pending hj _ _ _ _ hs hc => exact same (other hj rfl hc)
  | finished j request w outcome hj _ _ _ _ hs hc => exact same (other hj rfl hc)
  | heard j request w pending authority session tape hj _ hs hc =>
    by_cases hji : j = i
    · subst hji
      rw [hj] at hi
      cases hi
      cases hv
      have here := set_self (c := ⟨request, concluded (Traffic.heard authority tape request v)
        (session.finish settings authority tape request pending).1⟩) hj
      rw [← hc] at here
      exact ⟨_, Traffic.heard authority tape request v, here, rfl, visit?_concluded ..,
        ticket_heard .., found_heard .., by rintro ⟨m, rfl⟩; rfl⟩
    · exact same (by rw [hc, List.getElem?_set_ne hji, hi])
  | left j request w result hj hs hc =>
    by_cases hji : j = i
    · subst hji
      rw [hj] at hi
      cases hi
      have here := set_self (c := ⟨request, .answered w result⟩) hj
      rw [← hc] at here
      exact ⟨_, v, here, rfl, hv, rfl, rfl, fun _ => rfl⟩
    · exact same (by rw [hc, List.getElem?_set_ne hji, hi])

/-- Whoever has its session after a run had it before, or got it in one step of the run. -/
theorem visited_before_or_entered (actions : List Action) {i : Nat} {c : Call} {v : Visit}
    (hi : (t.run settings actions).calls[i]? = some c) (hv : c.stand.visit? = some v) :
    (∃ (c₀ : Call) (v₀ : Visit), t.calls[i]? = some c₀ ∧ c₀.request = c.request ∧
      c₀.stand.visit? = some v₀ ∧ v₀.ticket = v.ticket ∧ v₀.found = v.found) ∨
    ∃ before after, actions = before ++ after ∧
      (t.run settings before).calls[i]? = some ⟨c.request, .admitted v.ticket⟩ ∧
      (t.run settings before).sessions[v.ticket]? = some v.found := by
  induction actions generalizing t with
  | nil => exact Or.inl ⟨c, v, hi, rfl, hv, rfl, rfl⟩
  | cons action actions ih =>
    rcases ih (t := t.step settings action) hi with
      ⟨c₁, v₁, h₁, hr₁, hv₁, hk₁, hf₁⟩ | ⟨before, after, rfl, hc, hs⟩
    · have he := t.step_effect settings action
      by_cases hn : ∀ c₀, t.calls[i]? = some c₀ → c₀.stand.visit? = none
      · obtain ⟨hc, hs⟩ := he.enters hn h₁ hv₁
        exact Or.inr ⟨[], action :: actions, rfl, by rw [← hr₁, ← hk₁]; exact hc,
          by rw [← hk₁, ← hf₁]; exact hs⟩
      · simp only [Classical.not_forall] at hn
        obtain ⟨c₀, h₀, hv₀⟩ := hn
        obtain ⟨v₀, hv₀⟩ := Option.ne_none_iff_exists'.mp hv₀
        obtain ⟨c₂, v₂, h₂, hr₂, hv₂, hk₂, hf₂, -⟩ := he.visit_kept h₀ hv₀
        rw [h₁] at h₂
        cases h₂
        rw [hv₁] at hv₂
        cases hv₂
        exact Or.inl ⟨c₀, v₀, h₀, hr₂.symm.trans hr₁, hv₀, hk₂.symm.trans hk₁, hf₂.symm.trans hf₁⟩
    · exact Or.inr ⟨action :: before, after, rfl, hc, hs⟩

/-- Whoever has its session got it in one step of the run from the start. -/
theorem entered (tape : Tape) (actions : List Action) {i : Nat} {c : Call} {v : Visit}
    (hi : ((start tape).run settings actions).calls[i]? = some c) (hv : c.stand.visit? = some v) :
    ∃ before after, actions = before ++ after ∧
      ((start tape).run settings before).calls[i]? = some ⟨c.request, .admitted v.ticket⟩ ∧
      ((start tape).run settings before).sessions[v.ticket]? = some v.found := by
  rcases visited_before_or_entered actions hi hv with ⟨c₀, v₀, h₀, -⟩ | h
  · simp [start] at h₀
  · exact h

/-! ## Sessions and their ids -/

/-- A step leaves a session as it is, or ends the processing of a call that passed and moves the
session forward. -/
theorem Effect.session_cases (h : Coherent settings t) (he : Effect settings t t') {k : Ticket}
    {s : Session} (hk : t.sessions[k]? = some s) :
    t'.sessions[k]? = some s ∨
    ∃ (i : Nat) (c c' : Call) (s' : Session), t.calls[i]? = some c ∧ c.stand.result? = none ∧
      t'.calls[i]? = some c' ∧ c'.stand.result? ≠ none ∧ c'.Passed k ∧
      t'.sessions[k]? = some s' ∧ s'.id = s.id ∧ s.phase.Moves s'.phase := by
  -- the end of a processing, at once or after the answer of the authority
  have ends : ∀ {i : Nat} {request : Request} {stand : Stand request} {v : Visit}
      {outcome : Outcome request.Answer}, t.calls[i]? = some ⟨request, stand⟩ →
      stand.result? = none → t.sessions[v.ticket]? = some v.found →
      v.Yields settings request outcome →
      t'.sessions = t.sessions.set v.ticket outcome.session →
      t'.calls = t.calls.set i ⟨request, concluded v outcome⟩ →
      t'.sessions[k]? = some s ∨
      ∃ (i : Nat) (c c' : Call) (s' : Session), t.calls[i]? = some c ∧ c.stand.result? = none ∧
        t'.calls[i]? = some c' ∧ c'.stand.result? ≠ none ∧ c'.Passed k ∧
        t'.sessions[k]? = some s' ∧ s'.id = s.id ∧ s.phase.Moves s'.phase := by
    intro i request stand v outcome hi hr found hy hs hc
    by_cases hkv : k = v.ticket
    · subst hkv
      rw [found] at hk
      cases hk
      obtain ⟨hl, -⟩ := List.getElem?_eq_some_iff.mp found
      have here : t'.sessions[v.ticket]? = some outcome.session := by
        rw [hs, List.getElem?_set_self hl]
      obtain ⟨authority, hp⟩ := hy.process
      cases ha : v.found.phase.accepts request with
      | false =>
        rw [Session.process_of_not_accepts settings authority v.tape ha] at hp
        left
        rw [here, ← hp]
        rfl
      | true =>
        have hid := Session.id_process settings authority v.tape v.found request
        have hm := Session.process_moves settings authority v.tape ha
        rw [hp] at hid hm
        refine Or.inr ⟨i, _, ⟨request, concluded v outcome⟩, _, hi, hr, ?_, by simp, ?_, here, hid,
          hm⟩
        · rw [hc]; exact set_self hi
        · exact ⟨v, visit?_concluded v outcome, rfl, ha⟩
    · left
      rw [hs, List.getElem?_set_ne (Ne.symm hkv), hk]
  cases he with
  | still hs hc => exact Or.inl (hs ▸ hk)
  | opened id hs hc =>
    left
    obtain ⟨hl, -⟩ := List.getElem?_eq_some_iff.mp hk
    rw [hs, List.getElem?_append_left hl, hk]
  | refused request cause hs hc => exact Or.inl (hs ▸ hk)
  | admitted request ticket _ hs hc => exact Or.inl (hs ▸ hk)
  | asked i request v pending _ _ _ _ _ hs hc => exact Or.inl (hs ▸ hk)
  | finished i request v outcome hi _ found ha hb hs hc =>
    exact ends hi rfl found (Or.inl ⟨ha, hb⟩) hs hc
  | heard i request v pending authority session tape hi found hs hc =>
    obtain ⟨hf, hb⟩ := h.asking i request v pending hi
    rw [hf] at found
    cases found
    refine ends hi rfl ?_ (heard_yields hb authority tape) ?_ hc
    · rw [ticket_heard, found_heard, hf]
    · rw [hs, ticket_heard]
  | left i request v result _ hs hc => exact Or.inl (hs ▸ hk)

end Traffic

/-- The session that a call was admitted to. -/
def Stand.ticket? {request : Request} : Stand request → Option Ticket
  | refused _ => none
  | admitted ticket => some ticket
  | asking visit _ | leaving visit _ | answered visit _ => some visit.ticket

theorem Stand.ticket?_of_visit? {request : Request} {stand : Stand request} {v : Visit}
    (h : stand.visit? = some v) : stand.ticket? = some v.ticket := by
  cases stand <;> cases h <;> rfl

namespace Traffic

variable {settings : Settings} {t t' : Traffic}

/-- A call stays at the session that it was admitted to. -/
theorem Effect.ticket_kept (he : Effect settings t t') {i : Nat} {request : Request}
    {stand : Stand request} {k : Ticket} (hi : t.calls[i]? = some ⟨request, stand⟩)
    (hk : stand.ticket? = some k) :
    ∃ stand' : Stand request, t'.calls[i]? = some ⟨request, stand'⟩ ∧ stand'.ticket? = some k := by
  have same : t'.calls[i]? = t.calls[i]? →
      ∃ stand' : Stand request, t'.calls[i]? = some ⟨request, stand'⟩ ∧ stand'.ticket? = some k :=
    fun h => ⟨stand, h.trans hi, hk⟩
  have went : ∀ {j : Nat} {other : Request} {st st' : Stand other},
      t.calls[j]? = some ⟨other, st⟩ → t'.calls = t.calls.set j ⟨other, st'⟩ →
      st'.ticket? = st.ticket? →
      ∃ stand' : Stand request, t'.calls[i]? = some ⟨request, stand'⟩ ∧ stand'.ticket? = some k := by
    intro j other st st' hj hc hst
    by_cases hji : j = i
    · subst hji
      rw [hi] at hj
      cases hj
      exact ⟨st', by rw [hc]; exact set_self hi, hst.trans hk⟩
    · exact same (by rw [hc, List.getElem?_set_ne hji])
  cases he with
  | still hs hc => exact same (by rw [hc])
  | opened id hs hc => exact same (by rw [hc])
  | refused other cause hs hc => exact same (by rw [hc, append_left hi, hi])
  | admitted other ticket _ hs hc => exact same (by rw [hc, append_left hi, hi])
  | asked j other v pending hj _ _ _ _ hs hc => exact went hj hc rfl
  | finished j other v outcome hj _ _ _ _ hs hc =>
    exact went hj hc (Stand.ticket?_of_visit? (visit?_concluded v outcome))
  | heard j other v pending authority session tape hj _ hs hc =>
    refine went hj hc ?_
    rw [Stand.ticket?_of_visit? (visit?_concluded ..), ticket_heard]
    rfl
  | left j other v result hj hs hc => exact went hj hc rfl

theorem ticket_kept_run (actions : List Action) {i : Nat} {request : Request}
    {stand : Stand request} {k : Ticket} (hi : t.calls[i]? = some ⟨request, stand⟩)
    (hk : stand.ticket? = some k) :
    ∃ stand' : Stand request, (t.run settings actions).calls[i]? = some ⟨request, stand'⟩ ∧
      stand'.ticket? = some k := by
  induction actions generalizing t stand with
  | nil => exact ⟨stand, hi, hk⟩
  | cons action actions ih =>
    obtain ⟨stand', hi', hk'⟩ := (t.step_effect settings action).ticket_kept hi hk
    exact ih hi' hk'

/-- Every call was admitted to a session with the id that it addressed. -/
def Addressed (t : Traffic) : Prop :=
  ∀ (i : Nat) (c : Call) (k : Ticket), t.calls[i]? = some c → c.stand.ticket? = some k →
    ∃ s, t.sessions[k]? = some s ∧ s.id = c.request.sessionId

/-- A step admits calls only to sessions with the ids that they address. -/
theorem Addressed.effect (ha : Addressed t) (h : Coherent settings t) (he : Effect settings t t') :
    Addressed t' := by
  -- a session keeps its id
  have keep : ∀ {k : Ticket} {id : SessionId}, (∃ s, t.sessions[k]? = some s ∧ s.id = id) →
      ∃ s, t'.sessions[k]? = some s ∧ s.id = id := by
    rintro k id ⟨s, hs, rfl⟩
    rcases he.session_cases h hs with hs' | ⟨-, -, -, s', -, -, -, -, -, hs', hid, -⟩
    · exact ⟨s, hs', rfl⟩
    · exact ⟨s', hs', hid⟩
  have went : ∀ {j : Nat} {request : Request} {stand stand' : Stand request},
      t.calls[j]? = some ⟨request, stand⟩ → t'.calls = t.calls.set j ⟨request, stand'⟩ →
      stand'.ticket? = stand.ticket? → Addressed t' := by
    intro j request stand stand' hj hc hk i c k hi hck
    rw [hc] at hi
    rcases set_cases hi with ⟨rfl, rfl⟩ | ⟨-, hi'⟩
    · exact keep (ha i ⟨request, stand⟩ k hj (hk ▸ hck))
    · exact keep (ha i c k hi' hck)
  cases he with
  | still hs hc => exact fun i c k hi hk => keep (ha i c k (hc ▸ hi) hk)
  | opened id hs hc => exact fun i c k hi hk => keep (ha i c k (hc ▸ hi) hk)
  | refused request cause hs hc =>
    intro i c k hi hk
    rw [hc] at hi
    rcases append_cases hi with hi | rfl
    · exact keep (ha i c k hi hk)
    · cases hk
  | admitted request ticket hid hs hc =>
    intro i c k hi hk
    rw [hc] at hi
    rcases append_cases hi with hi | rfl
    · exact keep (ha i c k hi hk)
    · cases hk
      exact keep hid
  | asked i request v pending hi _ _ _ _ hs hc => exact went hi hc rfl
  | finished i request v outcome hi _ _ _ _ hs hc =>
    exact went hi hc (Stand.ticket?_of_visit? (visit?_concluded v outcome))
  | heard i request v pending authority session tape hi _ hs hc =>
    refine went hi hc ?_
    rw [Stand.ticket?_of_visit? (visit?_concluded ..), ticket_heard]
    rfl
  | left i request v result hi hs hc => exact went hi hc rfl

/-- A run admits calls only to sessions with the ids that they address. -/
theorem Addressed.run (ha : Addressed t) (h : Coherent settings t) (actions : List Action) :
    Addressed (t.run settings actions) := by
  induction actions generalizing t with
  | nil => exact ha
  | cons action actions ih =>
    have he := t.step_effect settings action
    exact ih (ha.effect h he) (h.effect he)

theorem Addressed.start (tape : Tape) : Addressed (start tape) :=
  fun i c k hi _ => by simp [Traffic.start] at hi

/-- After every run from the start, calls are at sessions with the ids that they addressed. -/
theorem addressed_run (settings : Settings) (tape : Tape) (actions : List Action) :
    Addressed ((start tape).run settings actions) :=
  (Addressed.start tape).run (Coherent.start settings tape) actions

end Traffic

end EnclaveGate
