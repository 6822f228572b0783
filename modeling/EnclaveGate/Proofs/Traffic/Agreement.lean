import EnclaveGate.Proofs.Session.Consistency
import EnclaveGate.Proofs.Traffic.Completion
import EnclaveGate.Proofs.Traffic.Drawing
import EnclaveGate.Proofs.Traffic.ForwardOnce
import EnclaveGate.Proofs.Traffic.Kept

/-!
# What a waiting session rests on

A session that waits for message 3 keeps a handshake. Behind it stands one message 1 of this session
and its answer, and the handshake, both messages and the scalar that was drawn for them belong
together. None of it changes until the session is over, whatever else arrives.
-/

namespace EnclaveGate

namespace Traffic

variable {settings : Settings} {t : Traffic} {k : Ticket} {s : Session} {handshake : Handshake}

/-- A call that is over is answered for good unless its session is over, too. -/
theorem Coherent.answered_of_not_isTerminal (h : Coherent settings t) {i : Nat} {request : Request}
    {stand : Stand request} {v : Visit} {r : Except Error request.Answer}
    (hi : t.calls[i]? = some ⟨request, stand⟩) (hv : stand.visit? = some v)
    (hr : stand.result? = some r) (hk : t.sessions[v.ticket]? = some s)
    (hs : s.isTerminal = false) : stand = .answered v r := by
  cases stand with
  | refused cause => cases hv
  | admitted ticket => cases hv
  | asking w pending => cases hr
  | leaving w r' =>
    cases hv
    obtain ⟨s', hk', ht⟩ := h.leaving i request v r' hi
    rw [hk] at hk'
    cases hk'
    rw [hs] at ht
    cases ht
  | answered w r' =>
    cases hv
    cases hr
    rfl

/-! ## What does not change -/

theorem answered_run {i : Nat} {request : Request} {v : Visit} {r : Except Error request.Answer}
    (hi : t.calls[i]? = some ⟨request, .answered v r⟩) (actions : List Action) :
    (t.run settings actions).calls[i]? = some ⟨request, .answered v r⟩ := by
  induction actions generalizing t with
  | nil => exact hi
  | cons action actions ih => exact ih (answered_step hi action)

/-- A session that waits for message 3 stays as it is until it is over. -/
theorem waiting_step (h : Coherent settings t) (hk : t.sessions[k]? = some s)
    (hp : s.phase = .awaitingMsg3 handshake) (action : Action) :
    (t.step settings action).sessions[k]? = some s ∨ (t.step settings action).Over k := by
  rcases (t.step_effect settings action).session_cases h hk with
    hs | ⟨-, -, -, s', -, -, -, -, -, hs, -, hm⟩
  · exact Or.inl hs
  · refine Or.inr ⟨s', hs, ?_⟩
    rw [hp] at hm
    rw [Session.isTerminal]
    generalize s'.phase = q at hm
    cases hm <;> rfl

theorem waiting_run (h : Coherent settings t) (hk : t.sessions[k]? = some s)
    (hp : s.phase = .awaitingMsg3 handshake) (actions : List Action) :
    (t.run settings actions).sessions[k]? = some s ∨ (t.run settings actions).Over k := by
  induction actions generalizing t with
  | nil => exact Or.inl hk
  | cons action actions ih =>
    have hc := h.effect (t.step_effect settings action)
    rcases waiting_step h hk hp action with hs | ho
    · exact ih hc hs
    · exact Or.inr (ho.run hc actions)

/-! ## Agreement -/

/-- What a session that waits for message 3 after a run rests on: a message 1, its answer, and the
scalar that was drawn for it. -/
structure RestsOn (settings : Settings) (tape : Tape) (actions : List Action) (k : Ticket)
    (s : Session) (handshake : Handshake) (i : Nat) (msg1 : Msg1) (visit : Visit) (msg2 : Msg2)
    (ephemeral : P256.SecretKey) : Prop where
  /-- Message 1 addressed the session and was answered with message 2. -/
  answered : msg1.sessionId = s.id ∧ visit.ticket = k ∧
    ((start tape).run settings actions).calls[i]? = some ⟨.msg1 msg1, .answered visit (.ok msg2)⟩
  /-- No other call at the session was answered with a message 2. -/
  only : ∀ (j : Nat) (c : Call), ((start tape).run settings actions).calls[j]? = some c →
    c.GotMsg2 k → j = i
  /-- The scalar was drawn from the random bytes of the server in the step in which message 1 got the
  session, and nothing else was drawn in it. -/
  drawn : ∃ before after, actions = before ++ .enter i :: after ∧
    P256.SecretKey.draw? ((start tape).run settings before).server.tape =
      some (ephemeral, (((start tape).run settings before).step settings (.enter i)).server.tape)
  /-- The handshake, both messages and the scalar belong together. -/
  consistent : ∃ peer, handshake.Consistent settings msg1 msg2 peer ephemeral
  /-- However the run goes on, the answer stands, and the session stays as it is until it is
  over. -/
  kept : ∀ later : List Action,
    ((start tape).run settings (actions ++ later)).calls[i]? =
      some ⟨.msg1 msg1, .answered visit (.ok msg2)⟩ ∧
    (((start tape).run settings (actions ++ later)).sessions[k]? = some s ∨
      ((start tape).run settings (actions ++ later)).Over k)

/-- In every run, a session that waits for message 3 rests on one answered message 1 whose answer
and scalar belong together with the handshake that the session keeps. -/
theorem waiting_session_consistent (settings : Settings) (tape : Tape) (actions : List Action)
    (k : Ticket) (s : Session) (handshake : Handshake)
    (hk : ((start tape).run settings actions).sessions[k]? = some s)
    (hp : s.phase = .awaitingMsg3 handshake) :
    ∃ i msg1 visit msg2 ephemeral,
      RestsOn settings tape actions k s handshake i msg1 visit msg2 ephemeral := by
  have h := coherent_run settings tape actions
  obtain ⟨i, d, hi, hd⟩ := h.agreed k s handshake hk hp
  obtain ⟨msg1, stand, visit, outcome, rfl, hv, rfl, h1, hy, hr, ho⟩ := id hd
  obtain ⟨authority, hpr⟩ := hy.process
  rw [← hpr] at ho hr
  obtain ⟨msg2, peer, ephemeral, hres, hcons, hdraw⟩ :=
    Session.consistent_of_process h1 authority visit.tape ho
  rw [hres] at hr
  have hlive : s.isTerminal = false := by rw [Session.isTerminal, hp]; rfl
  obtain rfl := h.answered_of_not_isTerminal hi hv hr hk hlive
  refine ⟨i, msg1, visit, msg2, ephemeral, ?_⟩
  constructor
  case answered =>
    obtain ⟨s', hs', hid⟩ := addressed_run settings tape actions i _ visit.ticket hi rfl
    rw [hk] at hs'
    cases hs'
    exact ⟨hid.symm, rfl, hi⟩
  case only =>
    -- both calls passed the check of the phase, and one message 1 does
    rintro j c hj ⟨m, stand, v, answer, rfl, hv', hvk, hr'⟩
    exact h.once j i _ _ visit.ticket hj hi (hvk ▸ h.passed_of_ok hj hv' hr') hd.passed rfl
  case drawn =>
    obtain ⟨before, after, rfl, htape, hrest⟩ := entered_msg1 tape actions hi hv
    exact ⟨before, after, rfl, by rw [hrest, ← htape]; exact hdraw⟩
  case consistent => exact ⟨peer, hcons⟩
  case kept =>
    intro later
    rw [run_append]
    exact ⟨answered_run hi later, waiting_run h hk hp later⟩

/-- The smallest message 1 is answered after a purge has removed its session. -/
def answeredLate : List Action :=
  .openSession :: .arrive (.msg1 .one) :: (meanwhile ++ [.hear 0 slow])

/-- A session that was removed while its message 1 was processed waits for message 3, too. -/
theorem smallest_waiting_consistent :
    ((start .one).run hasty answeredLate).sessions[0]? =
      some ⟨1, .awaitingMsg3 smallestOffer.handshake⟩ ∧
    ∃ i msg1 visit msg2 ephemeral, RestsOn hasty .one answeredLate 0
      ⟨1, .awaitingMsg3 smallestOffer.handshake⟩ smallestOffer.handshake i msg1 visit msg2
      ephemeral := by
  have harrive : ((start .one).step hasty .openSession).step hasty (.arrive (.msg1 .one)) =
      arrive hasty ((start .one).run hasty [.openSession]) (.msg1 .one) := rfl
  have hk : ((start .one).run hasty answeredLate).sessions[0]? =
      some ⟨1, .awaitingMsg3 smallestOffer.handshake⟩ := by
    rw [answeredLate, run_cons, run_cons, run_append, harrive, smallest_meanwhile, run_cons,
      run_nil, smallest_heard _ rfl]
    rfl
  exact ⟨hk, waiting_session_consistent hasty .one answeredLate 0 _ _ hk rfl⟩

end Traffic

end EnclaveGate
