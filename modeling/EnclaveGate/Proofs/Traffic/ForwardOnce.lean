import EnclaveGate.Proofs.Traffic.History

/-!
# Each message once, and only forward

Whatever calls run at the same time and in whatever order they take their steps, a session goes from
message 1 to message 3 to its end. One message 1 and one message 3 pass the check of the phase, in
this order; every other call is told which phase it expected and which it found, and changes
nothing.
-/

namespace EnclaveGate

namespace Call

/-- The call is a message 1 that passed the check of the phase. -/
def PassedMsg1 (call : Call) (ticket : Ticket) : Prop :=
  call.Passed ticket ∧ ∃ m, call.request = .msg1 m

/-- The call is a message 3 that passed the check of the phase. -/
def PassedMsg3 (call : Call) (ticket : Ticket) : Prop :=
  call.Passed ticket ∧ ∃ m, call.request = .msg3 m

/-- The call was answered with message 2. -/
def GotMsg2 (call : Call) (ticket : Ticket) : Prop :=
  ∃ m stand visit msg2, call = ⟨.msg1 m, stand⟩ ∧ stand.visit? = some visit ∧
    visit.ticket = ticket ∧ stand.result? = some (.ok msg2)

/-- The call was answered with message 4. -/
def GotMsg4 (call : Call) (ticket : Ticket) : Prop :=
  ∃ m stand visit msg4, call = ⟨.msg3 m, stand⟩ ∧ stand.visit? = some visit ∧
    visit.ticket = ticket ∧ stand.result? = some (.ok msg4)

/-- The call was answered with message 4 and the secret. -/
def GotSecret (call : Call) (ticket : Ticket) : Prop :=
  ∃ m stand visit msg4 secret, call = ⟨.msg3 m, stand⟩ ∧ stand.visit? = some visit ∧
    visit.ticket = ticket ∧ stand.result? = some (.ok msg4) ∧ msg4.encryptedSecret = some secret

end Call

namespace Traffic

/-- At most one of the calls has a property. -/
def AtMostOne (t : Traffic) (p : Call → Prop) : Prop :=
  ∀ (i j : Nat) (c d : Call), t.calls[i]? = some c → t.calls[j]? = some d → p c → p d → i = j

/-- What holds of a session at every point of every run. -/
structure ForwardOnce (settings : Settings) (t : Traffic) (k : Ticket) : Prop where
  /-- No step leads back. -/
  forward : ∀ (action : Action) (s : Session), t.sessions[k]? = some s →
    ∃ s', (t.step settings action).sessions[k]? = some s' ∧
      (s' = s ∨ s'.id = s.id ∧ s.phase.Moves s'.phase)
  /-- A step that changes the session ends the processing of a call that passed. -/
  mover : ∀ (action : Action) (s : Session), t.sessions[k]? = some s →
    (t.step settings action).sessions[k]? ≠ some s → ∃ (i : Nat) (c c' : Call),
      t.calls[i]? = some c ∧ c.stand.result? = none ∧
      (t.step settings action).calls[i]? = some c' ∧ c'.stand.result? ≠ none ∧ c'.Passed k
  /-- A call that gets the session finds it as it is, and a message 3 that passes then finds a
  message 1 that was answered before. -/
  finds : ∀ (action : Action) (i : Nat) (c c' : Call) (v : Visit), t.calls[i]? = some c →
    c.stand.visit? = none → (t.step settings action).calls[i]? = some c' →
    c'.stand.visit? = some v → v.ticket = k → t.sessions[k]? = some v.found ∧
      (c'.PassedMsg3 k → ∃ (j : Nat) (d : Call), t.calls[j]? = some d ∧ d.GotMsg2 k)
  /-- A call that does not pass is over at once and told both phases. -/
  others : ∀ (i : Nat) (request : Request) (stand : Stand request) (v : Visit),
    t.calls[i]? = some ⟨request, stand⟩ → stand.visit? = some v →
    v.found.phase.accepts request = false →
    stand.result? = some (.error (.invalidState request.expected v.found.phase.name))
  /-- One message 1 passes. -/
  passes_msg1 : t.AtMostOne (·.PassedMsg1 k)
  /-- One message 3 passes. -/
  passes_msg3 : t.AtMostOne (·.PassedMsg3 k)
  /-- There is one message 2. -/
  answers_msg2 : t.AtMostOne (·.GotMsg2 k)
  /-- There is one message 4. -/
  answers_msg4 : t.AtMostOne (·.GotMsg4 k)
  /-- The secret is released once. -/
  releases : t.AtMostOne (·.GotSecret k)

variable {settings : Settings} {t t' : Traffic}

/-- A call that does not pass is told the phase that it expected and the phase that it found. -/
theorem Coherent.refuses (h : Coherent settings t) {i : Nat} {request : Request}
    {stand : Stand request} {v : Visit} (hi : t.calls[i]? = some ⟨request, stand⟩)
    (hv : stand.visit? = some v) (ha : v.found.phase.accepts request = false) :
    stand.result? = some (.error (.invalidState request.expected v.found.phase.name)) := by
  have answered : ∀ {r : Except Error request.Answer}, stand.result? = some r →
      stand.result? = some (.error (.invalidState request.expected v.found.phase.name)) := by
    intro r hr
    obtain ⟨outcome, hy, rfl⟩ := h.concluded i request stand v r hi hv hr
    obtain ⟨authority, hp⟩ := hy.process
    rw [Session.process_of_not_accepts settings authority v.tape ha] at hp
    rw [hr, ← hp]
    rfl
  cases stand with
  | refused cause => simp [Stand.visit?] at hv
  | admitted ticket => simp [Stand.visit?] at hv
  | asking w pending =>
    cases hv
    obtain ⟨-, hb⟩ := h.asking i request v pending hi
    rw [Session.begin_of_not_accepts settings v.tape ha] at hb
    cases hb
  | leaving w r => exact answered rfl
  | answered w r => exact answered rfl

/-- A call that was answered with a message passed. -/
theorem Coherent.passed_of_ok (h : Coherent settings t) {i : Nat} {request : Request}
    {stand : Stand request} {v : Visit} {answer : request.Answer}
    (hi : t.calls[i]? = some ⟨request, stand⟩) (hv : stand.visit? = some v)
    (hr : stand.result? = some (.ok answer)) : Call.Passed ⟨request, stand⟩ v.ticket := by
  refine ⟨v, hv, rfl, ?_⟩
  cases ha : v.found.phase.accepts request with
  | true => rfl
  | false =>
    rw [h.refuses hi hv ha] at hr
    cases hr

end Traffic

theorem Call.Agreed.gotMsg2 {settings : Settings} {call : Call} {ticket : Ticket} {h : Handshake}
    (ha : call.Agreed settings ticket h) : call.GotMsg2 ticket := by
  obtain ⟨m, stand, visit, outcome, rfl, hv, hk, h1, hy, hr, ho⟩ := ha
  obtain ⟨authority, hp⟩ := hy.process
  rcases Session.process_msg1_cases settings authority visit.tape h1 m with
    ⟨e, hs, -⟩ | ⟨offer, sigRl, -, hs⟩
  · rw [hp] at hs
    rw [hs] at ho
    cases ho
  · rw [hp] at hs
    rw [hs] at hr
    exact ⟨m, stand, visit, _, rfl, hv, hk, hr⟩

namespace Traffic

/-- At most one call got a session to process message 3. -/
theorem Coherent.atMostOne_passedMsg3 {settings : Settings} {t : Traffic} (h : t.Coherent settings)
    (k : Ticket) : t.AtMostOne (·.PassedMsg3 k) := by
  rintro i j c d hi hj ⟨hc, m, hm⟩ ⟨hd, n, hn⟩
  exact h.once i j c d k hi hj hc hd (by rw [hm, hn]; rfl)

/-- At every point of every run, every session has moved forward only and answered each message at
most once. -/
theorem sessions_forward_once (settings : Settings) (tape : Tape) (actions : List Action)
    (k : Ticket) : ForwardOnce settings ((Traffic.start tape).run settings actions) k := by
  have h := coherent_run settings tape actions
  generalize (Traffic.start tape).run settings actions = t at h ⊢
  have msg2 : ∀ {i : Nat} {c : Call}, t.calls[i]? = some c → c.GotMsg2 k → c.PassedMsg1 k := by
    rintro i c hi ⟨m, stand, v, msg2, rfl, hv, rfl, hr⟩
    exact ⟨h.passed_of_ok hi hv hr, m, rfl⟩
  have msg4 : ∀ {i : Nat} {c : Call}, t.calls[i]? = some c → c.GotMsg4 k → c.PassedMsg3 k := by
    rintro i c hi ⟨m, stand, v, msg4, rfl, hv, rfl, hr⟩
    exact ⟨h.passed_of_ok hi hv hr, m, rfl⟩
  have passes_msg1 : t.AtMostOne (·.PassedMsg1 k) := by
    rintro i j c d hi hj ⟨hc, m, hm⟩ ⟨hd, n, hn⟩
    exact h.once i j c d k hi hj hc hd (by rw [hm, hn]; rfl)
  have passes_msg3 := h.atMostOne_passedMsg3 k
  have answers_msg4 : t.AtMostOne (·.GotMsg4 k) := fun i j c d hi hj hc hd =>
    passes_msg3 i j c d hi hj (msg4 hi hc) (msg4 hj hd)
  refine ⟨?_, ?_, ?_, ?_, passes_msg1, passes_msg3, ?_, answers_msg4, ?_⟩
  -- forward
  · intro action s hk
    rcases (t.step_effect settings action).session_cases h hk with
      hs | ⟨-, -, -, s', -, -, -, -, -, hs, hid, hm⟩
    · exact ⟨s, hs, Or.inl rfl⟩
    · exact ⟨s', hs, Or.inr ⟨hid, hm⟩⟩
  -- mover
  · intro action s hk hne
    rcases (t.step_effect settings action).session_cases h hk with
      hs | ⟨i, c, c', -, hi, hr, hi', hr', hp, -⟩
    · exact absurd hs hne
    · exact ⟨i, c, c', hi, hr, hi', hr', hp⟩
  -- finds
  · intro action i c c' v hi hn hi' hv hvk
    subst hvk
    obtain ⟨-, found⟩ := (t.step_effect settings action).enters
      (fun c₀ h₀ => Option.some.inj (hi.symm.trans h₀) ▸ hn) hi' hv
    refine ⟨found, fun hp => ?_⟩
    obtain ⟨⟨w, hw, -, hwa⟩, m, hm⟩ := hp
    rw [hv] at hw
    cases hw
    rw [hm] at hwa
    obtain ⟨hh, hwf⟩ := Phase.accepts_msg3.mp hwa
    obtain ⟨j, d, hj, hd⟩ := h.agreed v.ticket v.found hh found hwf
    exact ⟨j, d, hj, hd.gotMsg2⟩
  -- others
  · intro i request stand v hi hv ha
    exact h.refuses hi hv ha
  -- answers_msg2
  · intro i j c d hi hj hc hd
    exact passes_msg1 i j c d hi hj (msg2 hi hc) (msg2 hj hd)
  -- releases
  · intro i j c d hi hj hc hd
    obtain ⟨m, stand, v, m4, -, rfl, hv, hk, hr, -⟩ := hc
    obtain ⟨n, stand', w, n4, -, rfl, hw, hk', hr', -⟩ := hd
    exact answers_msg4 i j _ _ hi hj ⟨m, stand, v, m4, rfl, hv, hk, hr⟩
      ⟨n, stand', w, n4, rfl, hw, hk', hr'⟩

end Traffic

end EnclaveGate
