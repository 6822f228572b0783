import EnclaveGate.Proofs.Traffic.History
import Mathlib.Data.List.Induction

/-!
# When random bytes are drawn

A call draws what its message needs from the server's random bytes in the step in which it gets its
session. Message 1 keeps the bytes from which it drew, so what its answer is made of can be looked up
after every later step.
-/

namespace EnclaveGate

theorem Call.stand_inj {request : Request} {stand stand' : Stand request}
    (h : some (Call.mk request stand) = some ⟨request, stand'⟩) : stand = stand' := by
  cases h
  rfl

namespace Traffic

variable {settings : Settings} {t : Traffic}

/-- A call that gets its session enters it, with the random bytes that the server has then, and the
server goes on behind what the call draws. -/
theorem enters_in_step {action : Action} {i : Nat} {v : Visit} {request : Request}
    {stand : Stand request} (hn : ∀ c₀, t.calls[i]? = some c₀ → c₀.stand.visit? = none)
    (hi : (t.step settings action).calls[i]? = some ⟨request, stand⟩)
    (hv : stand.visit? = some v) :
    action = .enter i ∧ v.tape = t.server.tape ∧
      (t.step settings action).server.tape =
        (v.found.begin settings t.server.tape request).2 := by
  obtain ⟨hadm, -⟩ := (t.step_effect settings action).enters hn hi hv
  -- a step that leaves the call alone would leave it admitted
  have still : (t.step settings action).calls[i]? ≠ t.calls[i]? := by
    intro hsame
    rw [hsame, hadm] at hi
    rw [← Call.stand_inj hi] at hv
    cases hv
  have hcall : action.call? = some i :=
    Classical.byContradiction fun hne => still ((calls_step_ne hne hadm).trans hadm.symm)
  cases action with
  | enter j =>
    cases hcall
    refine ⟨rfl, ?_⟩
    rw [step] at hi still ⊢
    rcases t.enter_cases settings i with hs |
      ⟨request, k, entry, pending, rest, hadm', -, -, hb, hs⟩ |
      ⟨request, k, entry, outcome, rest, hadm', -, -, hb, hs⟩ <;> rw [hs] at hi still ⊢
    · exact absurd rfl still
    · cases hadm.symm.trans hadm'
      rw [set_self hadm] at hi
      rw [← Call.stand_inj hi] at hv
      rw [← Option.some.inj hv]
      exact ⟨rfl, (congrArg Prod.snd hb).symm⟩
    · cases hadm.symm.trans hadm'
      rw [conclude_calls, set_self hadm] at hi
      rw [← Call.stand_inj hi, visit?_concluded] at hv
      rw [← Option.some.inj hv]
      exact ⟨rfl, (congrArg Prod.snd hb).symm⟩
  | hear j authority =>
    cases hcall
    exact absurd (by simp [step, hear, hadm]) still
  | leave j =>
    cases hcall
    exact absurd (by simp [step, leave, hadm]) still
  | pass | openSession | purge | arrive => cases hcall

/-- A message 1 that has its session after a run drew from the random bytes that the server had in
one step of the run. -/
theorem entered_msg1 (tape : Tape) (actions : List Action) {i : Nat} {m : Msg1}
    {stand : Stand (.msg1 m)} {v : Visit}
    (hi : ((start tape).run settings actions).calls[i]? = some ⟨.msg1 m, stand⟩)
    (hv : stand.visit? = some v) :
    ∃ before after, actions = before ++ .enter i :: after ∧
      v.tape = ((start tape).run settings before).server.tape ∧
      (((start tape).run settings before).step settings (.enter i)).server.tape =
        (v.found.begin settings v.tape (.msg1 m)).2 := by
  induction actions using List.reverseRecOn generalizing stand v with
  | nil => simp [Traffic.run, start] at hi
  | append_singleton actions action ih =>
    rw [run_append] at hi
    by_cases hn : ∀ c₀, ((start tape).run settings actions).calls[i]? = some c₀ →
        c₀.stand.visit? = none
    · obtain ⟨rfl, ht, hrest⟩ := enters_in_step hn hi hv
      exact ⟨actions, [], rfl, ht, ht ▸ hrest⟩
    · -- the call had its session before, and keeps its random bytes
      simp only [Classical.not_forall] at hn
      obtain ⟨⟨request, stand₀⟩, h₀, hv₀⟩ := hn
      obtain ⟨v₀, hv₀⟩ := Option.ne_none_iff_exists'.mp hv₀
      obtain ⟨c', v', h', hr, hv', hk, hf, ht⟩ :=
        (((start tape).run settings actions).step_effect settings action).visit_kept h₀ hv₀
      have hsame : some c' = some ⟨.msg1 m, stand⟩ := h'.symm.trans hi
      cases hsame
      cases hr
      rw [hv] at hv'
      cases hv'
      rw [hf, ht ⟨m, rfl⟩]
      obtain ⟨before, after, rfl, htape, hrest⟩ := ih h₀ hv₀
      exact ⟨before, after ++ [action], by simp, htape, hrest⟩

end Traffic

end EnclaveGate
