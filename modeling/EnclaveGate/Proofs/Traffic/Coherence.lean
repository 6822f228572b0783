import EnclaveGate.Proofs.Traffic.Steps

/-!
# Coherence of traffic

The invariant of all runs. A session that is held is as its holder found it, and it has one holder.
As long as a session accepts a request, every call of that kind that passed the check of the phase
still holds it; this is what lets no second one pass. A session waits for message 3 only behind a
message 1 that was answered with the handshake that the session keeps.
-/

namespace EnclaveGate

namespace Call

/-- The call found a session in a phase that accepts its request. -/
def Passed (call : Call) (ticket : Ticket) : Prop :=
  ∃ visit, call.stand.visit? = some visit ∧ visit.ticket = ticket ∧
    visit.found.phase.accepts call.request = true

/-- The call is a message 1 after which its session kept a handshake. -/
def Agreed (settings : Settings) (call : Call) (ticket : Ticket) (handshake : Handshake) : Prop :=
  ∃ m stand visit outcome, call = ⟨.msg1 m, stand⟩ ∧ stand.visit? = some visit ∧
    visit.ticket = ticket ∧ visit.found.phase = .awaitingMsg1 ∧
    visit.Yields settings (.msg1 m) outcome ∧ stand.result? = some outcome.result ∧
    outcome.session.phase = .awaitingMsg3 handshake

theorem Agreed.passed {settings : Settings} {call : Call} {ticket : Ticket} {h : Handshake}
    (ha : call.Agreed settings ticket h) : call.Passed ticket := by
  obtain ⟨m, stand, visit, outcome, rfl, hv, hk, hp, -⟩ := ha
  exact ⟨visit, hv, hk, Phase.accepts_msg1.mpr hp⟩

/-- A call after which its session kept a handshake is over, so it holds nothing. -/
theorem Agreed.holds? {settings : Settings} {call : Call} {ticket : Ticket} {h : Handshake}
    (ha : call.Agreed settings ticket h) : call.stand.holds? = none := by
  obtain ⟨m, stand, visit, outcome, rfl, -, -, -, -, hr, -⟩ := ha
  cases stand <;> simp_all [Stand.holds?, Stand.result?]

end Call

namespace Traffic

/-- The invariant of traffic. -/
structure Coherent (settings : Settings) (t : Traffic) : Prop where
  /-- A session that was visited is known. -/
  known : ∀ (i : Nat) (c : Call) (v : Visit), t.calls[i]? = some c → c.stand.visit? = some v →
    ∃ s, t.sessions[v.ticket]? = some s
  /-- A session that is held is as it was found, and the authority is asked about it. -/
  asking : ∀ (i : Nat) (request : Request) (v : Visit) (pending : request.Pending),
    t.calls[i]? = some ⟨request, .asking v pending⟩ →
    t.sessions[v.ticket]? = some v.found ∧
      (v.found.begin settings v.tape request).1 = .asking pending
  /-- A session is held once. -/
  alone : ∀ (i j : Nat) (c d : Call) (k : Ticket), t.calls[i]? = some c → t.calls[j]? = some d →
    c.stand.holds? = some k → d.stand.holds? = some k → i = j
  /-- A call is answered as its visit says. -/
  concluded : ∀ (i : Nat) (request : Request) (stand : Stand request) (v : Visit)
    (r : Except Error request.Answer), t.calls[i]? = some ⟨request, stand⟩ →
    stand.visit? = some v → stand.result? = some r →
    ∃ outcome, v.Yields settings request outcome ∧ outcome.result = r
  /-- A session that is removed is over. -/
  leaving : ∀ (i : Nat) (request : Request) (v : Visit) (r : Except Error request.Answer),
    t.calls[i]? = some ⟨request, .leaving v r⟩ →
    ∃ s, t.sessions[v.ticket]? = some s ∧ s.isTerminal = true
  /-- A call that passed holds its session as long as the session accepts such a request. -/
  held : ∀ (i : Nat) (c : Call) (k : Ticket) (s : Session), t.calls[i]? = some c → c.Passed k →
    t.sessions[k]? = some s → s.phase.accepts c.request = true → c.stand.holds? = some k
  /-- A session waits for message 3 behind a message 1. -/
  agreed : ∀ (k : Ticket) (s : Session) (h : Handshake), t.sessions[k]? = some s →
    s.phase = .awaitingMsg3 h → ∃ (i : Nat) (c : Call), t.calls[i]? = some c ∧ c.Agreed settings k h
  /-- A call that found its session waiting for message 3 came behind a message 1. -/
  follows : ∀ (i : Nat) (c : Call) (v : Visit) (h : Handshake), t.calls[i]? = some c →
    c.stand.visit? = some v → v.found.phase = .awaitingMsg3 h →
    ∃ (j : Nat) (d : Call), t.calls[j]? = some d ∧ d.Agreed settings v.ticket h
  /-- One call of a kind passes. -/
  once : ∀ (i j : Nat) (c d : Call) (k : Ticket), t.calls[i]? = some c → t.calls[j]? = some d →
    c.Passed k → d.Passed k → c.request.expected = d.request.expected → i = j

/-! ## Small facts -/

theorem visit?_of_holds? {request : Request} {stand : Stand request} {k : Ticket}
    (h : stand.holds? = some k) : ∃ v pending, stand = .asking v pending ∧ v.ticket = k := by
  cases stand <;> simp_all [Stand.holds?]

theorem accepts_congr {phase : Phase} {r s : Request} (h : r.expected = s.expected) :
    phase.accepts r = phase.accepts s := by
  cases r <;> cases s <;> simp [Request.expected] at h <;> cases phase <;> rfl

theorem Coherent.start (settings : Settings) (tape : Tape) : Coherent settings (start tape) := by
  constructor <;> simp [Traffic.start, sessions, Server.sessions, Server.start, Registry.sessions,
    Registry.empty]

variable {settings : Settings} {t t' : Traffic}

/-! ## Calls that arrive -/

/-- A new session changes nothing for those that were visited. -/
theorem Coherent.opened (h : Coherent settings t) {id : SessionId}
    (hs : t'.sessions = t.sessions ++ [Session.start id]) (hc : t'.calls = t.calls) :
    Coherent settings t' := by
  have keep : ∀ (k : Ticket) (s : Session), t.sessions[k]? = some s → t'.sessions[k]? = some s := by
    intro k s hk
    obtain ⟨hl, -⟩ := List.getElem?_eq_some_iff.mp hk
    rw [hs, List.getElem?_append_left hl, hk]
  have back : ∀ (k : Nat) (s : Session), t'.sessions[k]? = some s →
      t.sessions[k]? = some s ∨ k = t.sessions.length ∧ s = Session.start id := by
    intro k s hk
    rw [hs, List.getElem?_append] at hk
    split at hk
    · exact Or.inl hk
    · rename_i hl
      rcases hn : k - t.sessions.length with - | n
      · rw [hn] at hk
        exact Or.inr ⟨by omega, by simpa using hk.symm⟩
      · rw [hn] at hk
        simp at hk
  constructor
  -- known
  · intro i c v hi hv
    rw [hc] at hi
    obtain ⟨s, hk⟩ := h.known i c v hi hv
    exact ⟨s, keep _ _ hk⟩
  -- asking
  · intro i request v pending hi
    rw [hc] at hi
    obtain ⟨hf, hr⟩ := h.asking i request v pending hi
    exact ⟨keep _ _ hf, hr⟩
  -- alone
  · rw [hc]; exact h.alone
  -- concluded
  · rw [hc]; exact h.concluded
  -- leaving
  · intro i request v r hi
    rw [hc] at hi
    obtain ⟨s, hk, ht⟩ := h.leaving i request v r hi
    exact ⟨s, keep _ _ hk, ht⟩
  -- held
  · intro i c k s hi hp hk ha
    rw [hc] at hi
    rcases back k s hk with hk | ⟨rfl, -⟩
    · exact h.held i c k s hi hp hk ha
    · obtain ⟨v, hv, hvk, -⟩ := hp
      obtain ⟨s', hk'⟩ := h.known i c v hi hv
      rw [hvk, List.getElem?_eq_none (Nat.le_refl _)] at hk'
      exact absurd hk' (by simp)
  -- agreed
  · intro k s hh hk hp
    rw [hc]
    rcases back k s hk with hk | ⟨-, rfl⟩
    · exact h.agreed k s hh hk hp
    · simp [Session.start] at hp
  -- follows
  · rw [hc]; exact h.follows
  -- once
  · rw [hc]; exact h.once

/-- A call that has no session yet changes nothing for the others. -/
theorem Coherent.arrived (h : Coherent settings t) {c₀ : Call} (hv₀ : c₀.stand.visit? = none)
    (hs : t'.sessions = t.sessions) (hc : t'.calls = t.calls ++ [c₀]) : Coherent settings t' := by
  have old : ∀ {i : Nat} {c : Call} {v : Visit}, t'.calls[i]? = some c → c.stand.visit? = some v →
      t.calls[i]? = some c := by
    intro i c v hi hv
    rw [hc] at hi
    rcases append_cases hi with hi | rfl
    · exact hi
    · rw [hv₀] at hv
      exact absurd hv (by simp)
  have oldHolds : ∀ {i : Nat} {c : Call} {k : Ticket}, t'.calls[i]? = some c →
      c.stand.holds? = some k → t.calls[i]? = some c := by
    intro i c k hi hk
    obtain ⟨v, pending, he, -⟩ := visit?_of_holds? hk
    exact old hi (by rw [he]; rfl)
  have keep : ∀ {i : Nat} {c : Call}, t.calls[i]? = some c → t'.calls[i]? = some c := by
    intro i c hi
    rw [hc]
    exact append_left hi c₀
  constructor
  -- known
  · intro i c v hi hv
    rw [hs]
    exact h.known i c v (old hi hv) hv
  -- asking
  · intro i request v pending hi
    rw [hs]
    exact h.asking i request v pending (old hi rfl)
  -- alone
  · intro i j c d k hi hj hck hdk
    exact h.alone i j c d k (oldHolds hi hck) (oldHolds hj hdk) hck hdk
  -- concluded
  · intro i request stand v r hi hv hr
    exact h.concluded i request stand v r (old hi hv) hv hr
  -- leaving
  · intro i request v r hi
    rw [hs]
    exact h.leaving i request v r (old hi rfl)
  -- held
  · intro i c k s hi hp hk ha
    rw [hs] at hk
    obtain ⟨v, hv, -⟩ := id hp
    exact h.held i c k s (old hi hv) hp hk ha
  -- agreed
  · intro k s hh hk hp
    rw [hs] at hk
    obtain ⟨i, c, hi, hc'⟩ := h.agreed k s hh hk hp
    exact ⟨i, c, keep hi, hc'⟩
  -- follows
  · intro i c v hh hi hv hf
    obtain ⟨j, d, hj, hd⟩ := h.follows i c v hh (old hi hv) hv hf
    exact ⟨j, d, keep hj, hd⟩
  -- once
  · intro i j c d k hi hj hcp hdp he
    obtain ⟨v, hv, -⟩ := id hcp
    obtain ⟨w, hw, -⟩ := id hdp
    exact h.once i j c d k (old hi hv) (old hj hw) hcp hdp he

/-! ## Calls at their sessions -/

/-- What a call does when it has its session: it asks the authority, or it is over. -/
inductive Progresses (settings : Settings) (v : Visit) (request : Request) (stand : Stand request)
    (s : Session) : Prop
  /-- The authority is asked, and the session stays as it is. -/
  | asks (pending : request.Pending)
      (hb : (v.found.begin settings v.tape request).1 = .asking pending)
      (hst : stand = .asking v pending) (hs : s = v.found)
  /-- The processing is over. -/
  | ends (outcome : Outcome request.Answer) (hy : v.Yields settings request outcome)
      (hst : stand = concluded v outcome) (hs : s = outcome.session)

namespace Progresses

variable {v : Visit} {request : Request} {stand : Stand request} {s : Session}

theorem visit? (h : Progresses settings v request stand s) : stand.visit? = some v := by
  rcases h with ⟨pending, -, rfl, -⟩ | ⟨outcome, -, rfl, -⟩
  · rfl
  · exact visit?_concluded v outcome

theorem holds? (h : Progresses settings v request stand s) {k : Ticket}
    (hk : stand.holds? = some k) : k = v.ticket := by
  rcases h with ⟨pending, -, rfl, -⟩ | ⟨outcome, -, rfl, -⟩
  · simpa [Stand.holds?] using hk.symm
  · simp at hk

/-- A request that is not accepted leaves its session as it is. -/
theorem session_of_not_accepts (h : Progresses settings v request stand s)
    (ha : v.found.phase.accepts request = false) : s = v.found := by
  rcases h with ⟨pending, -, -, rfl⟩ | ⟨outcome, hy, -, rfl⟩
  · rfl
  · obtain ⟨authority, hp⟩ := hy.process
    rw [← hp, Session.process_of_not_accepts settings authority v.tape ha]
    rfl

/-- An accepted request holds its session or moves it forward. -/
theorem moves (h : Progresses settings v request stand s)
    (ha : v.found.phase.accepts request = true) :
    (stand.holds? = some v.ticket ∧ s = v.found) ∨ v.found.phase.Moves s.phase := by
  rcases h with ⟨pending, -, rfl, rfl⟩ | ⟨outcome, hy, -, rfl⟩
  · exact Or.inl ⟨rfl, rfl⟩
  · obtain ⟨authority, hp⟩ := hy.process
    rw [← hp]
    exact Or.inr (Session.process_moves settings authority v.tape ha)

end Progresses

theorem leaving_of_concluded {request : Request} {v w : Visit} {outcome : Outcome request.Answer}
    {r : Except Error request.Answer} (h : concluded v outcome = .leaving w r) :
    v = w ∧ outcome.session.isTerminal = true := by
  unfold concluded at h
  split at h
  · rename_i ht
    simp only [Stand.leaving.injEq] at h
    exact ⟨h.1, ht⟩
  · simp at h

/-- A call has its session, which no other call holds, and goes on there. -/
structure Goes (settings : Settings) (t t' : Traffic) (i : Nat) (v : Visit) {request : Request}
    (stand stand' : Stand request) (s' : Session) : Prop where
  /-- The call stood there. -/
  call : t.calls[i]? = some ⟨request, stand⟩
  /-- It was not over. -/
  isOpen : stand.result? = none
  /-- Whoever holds the session is the call. -/
  mine : ∀ (j : Nat) (c : Call), t.calls[j]? = some c → c.stand.holds? = some v.ticket → j = i
  /-- The session is as the call found it. -/
  found : t.sessions[v.ticket]? = some v.found
  /-- The call asks the authority, or it is over. -/
  progress : Progresses settings v request stand' s'
  /-- No other session changes. -/
  sessions : t'.sessions = t.sessions.set v.ticket s'
  /-- No other call changes. -/
  calls : t'.calls = t.calls.set i ⟨request, stand'⟩

namespace Goes

variable {i : Nat} {request : Request} {stand stand' : Stand request} {v : Visit} {s' : Session}

theorem here (g : Goes settings t t' i v stand stand' s') : t'.sessions[v.ticket]? = some s' := by
  obtain ⟨hl, -⟩ := List.getElem?_eq_some_iff.mp g.found
  rw [g.sessions, List.getElem?_set_self hl]

theorem away (g : Goes settings t t' i v stand stand' s') {k : Ticket} (hk : k ≠ v.ticket) :
    t'.sessions[k]? = t.sessions[k]? := by
  rw [g.sessions, List.getElem?_set_ne (Ne.symm hk)]

/-- A session is the one where the call goes on, or it was there before. -/
theorem session_cases (g : Goes settings t t' i v stand stand' s') {k : Ticket} {s : Session}
    (hk : t'.sessions[k]? = some s) :
    k = v.ticket ∧ s = s' ∨ k ≠ v.ticket ∧ t.sessions[k]? = some s := by
  by_cases h : k = v.ticket
  · rw [h, g.here] at hk
    exact Or.inl ⟨h, (Option.some.inj hk).symm⟩
  · rw [g.away h] at hk
    exact Or.inr ⟨h, hk⟩

/-- A call is the one that goes on, or it was there before. -/
theorem call_cases (g : Goes settings t t' i v stand stand' s') {j : Nat} {c : Call}
    (hj : t'.calls[j]? = some c) :
    j = i ∧ c = ⟨request, stand'⟩ ∨ j ≠ i ∧ t.calls[j]? = some c := by
  rw [g.calls] at hj
  exact set_cases hj

theorem self (g : Goes settings t t' i v stand stand' s') :
    t'.calls[i]? = some ⟨request, stand'⟩ := by
  rw [g.calls]
  exact set_self g.call

/-- A call that is over stays as it is. -/
theorem keep (g : Goes settings t t' i v stand stand' s') {j : Nat} {d : Call}
    (hj : t.calls[j]? = some d) (hd : d.stand.result? ≠ none) : t'.calls[j]? = some d := by
  have hne : i ≠ j := by
    rintro rfl
    rw [g.call] at hj
    cases hj
    exact hd g.isOpen
  rw [g.calls, List.getElem?_set_ne hne, hj]

theorem keepAgreed (g : Goes settings t t' i v stand stand' s') {k : Ticket} {hh : Handshake}
    (h : ∃ (j : Nat) (d : Call), t.calls[j]? = some d ∧ d.Agreed settings k hh) :
    ∃ (j : Nat) (d : Call), t'.calls[j]? = some d ∧ d.Agreed settings k hh := by
  obtain ⟨j, d, hj, hd⟩ := h
  refine ⟨j, d, g.keep hj ?_, hd⟩
  obtain ⟨m, stand, visit, outcome, rfl, -, -, -, -, hr, -⟩ := hd
  simp [hr]

end Goes

/-- While a session awaits message 1, no message 3 has passed there: it would have found the session
awaiting message 3, behind a message 1 that still holds it. -/
theorem Coherent.not_passed (h : Coherent settings t) {k : Ticket} {s : Session}
    (hk : t.sessions[k]? = some s) (h1 : s.phase = .awaitingMsg1) {j : Nat} {c : Call}
    (hj : t.calls[j]? = some c) {m : Msg3} (hm : c.request = .msg3 m) : ¬ c.Passed k := by
  rintro ⟨w, hw, hwk, hwa⟩
  rw [hm] at hwa
  obtain ⟨hh, hwf⟩ := Phase.accepts_msg3.mp hwa
  obtain ⟨a, d, had, hda⟩ := h.follows j c w hh hj hw hwf
  rw [hwk] at hda
  have hd1 : s.phase.accepts d.request = true := by
    rw [h1]
    obtain ⟨m1, -, -, -, rfl, -⟩ := hda
    rfl
  have hdh := h.held a d k s had hda.passed hk hd1
  rw [hda.holds?] at hdh
  cases hdh

section Goes

variable {i : Nat} {request : Request} {stand stand' : Stand request} {v : Visit} {s' : Session}

/-- A call that passed still holds its session, if the session accepts such a request after another
call went on there. -/
theorem Coherent.held_after (h : Coherent settings t)
    (g : Goes settings t t' i v stand stand' s') {j : Nat} {c : Call} {k : Ticket} {s : Session}
    (hj : t'.calls[j]? = some c) (hcp : c.Passed k) (hks : t'.sessions[k]? = some s)
    (ha : s.phase.accepts c.request = true) : c.stand.holds? = some k := by
  rcases g.call_cases hj with ⟨-, rfl⟩ | ⟨-, hj⟩
  · -- the call itself holds the session, or has moved it on
    obtain ⟨w, hw, rfl, hwa⟩ := hcp
    rw [g.progress.visit?] at hw
    cases hw
    obtain rfl : s' = s := Option.some.inj (g.here.symm.trans hks)
    rcases g.progress.moves hwa with ⟨hh, -⟩ | hm
    · exact hh
    · exact absurd ha (by rw [hm.not_accepts hwa]; simp)
  · rcases g.session_cases hks with ⟨rfl, rfl⟩ | ⟨-, hks⟩
    · cases hva : v.found.phase.accepts request with
      | false =>
        rw [g.progress.session_of_not_accepts hva] at ha
        exact h.held j c v.ticket v.found hj hcp g.found ha
      | true =>
        rcases g.progress.moves hva with ⟨-, hsv⟩ | hm
        · rw [hsv] at ha
          exact h.held j c v.ticket v.found hj hcp g.found ha
        · obtain ⟨h1, m, hm3⟩ := hm.of_accepts ha
          exact absurd hcp (h.not_passed g.found h1 hj hm3)
    · exact h.held j c k s hj hcp hks ha

/-- A session that awaits message 3 does so behind a message 1: the one that went on there, or an
earlier one. -/
theorem Coherent.agreed_after (h : Coherent settings t)
    (g : Goes settings t t' i v stand stand' s') {k : Ticket} {s : Session} {hh : Handshake}
    (hks : t'.sessions[k]? = some s) (hph : s.phase = .awaitingMsg3 hh) :
    ∃ (j : Nat) (c : Call), t'.calls[j]? = some c ∧ c.Agreed settings k hh := by
  rcases g.session_cases hks with ⟨rfl, rfl⟩ | ⟨-, hks⟩
  · rcases id g.progress with ⟨pending, -, -, rfl⟩ | ⟨outcome, hy, rfl, rfl⟩
    · exact g.keepAgreed (h.agreed v.ticket v.found hh g.found hph)
    · obtain ⟨authority, hpr⟩ := hy.process
      cases hva : v.found.phase.accepts request with
      | false =>
        rw [Session.process_of_not_accepts settings authority v.tape hva] at hpr
        refine g.keepAgreed (h.agreed v.ticket v.found hh g.found ?_)
        rw [← hph, ← hpr]
        rfl
      | true =>
        have hm := Session.process_moves settings authority v.tape hva
        rw [hpr, hph] at hm
        have h1 := hm.eq_awaitingMsg1
        cases request with
        | msg3 m => simp [h1, Phase.accepts] at hva
        | msg1 m =>
          exact ⟨i, _, g.self, m, _, v, outcome, rfl, visit?_concluded v outcome, rfl, h1, hy,
            result?_concluded v outcome, hph⟩
  · exact g.keepAgreed (h.agreed k s hh hks hph)

/-- A call of the kind of the one that goes on, and that passed before, is the same: it still holds
the session. -/
theorem Coherent.passed_before (h : Coherent settings t)
    (g : Goes settings t t' i v stand stand' s') {j : Nat} {d : Call} {k : Ticket}
    (hj : t.calls[j]? = some d) (hdp : d.Passed k) (hcp : Call.Passed ⟨request, stand'⟩ k)
    (he : request.expected = d.request.expected) : j = i := by
  obtain ⟨w, hw, rfl, hwa⟩ := hcp
  rw [g.progress.visit?] at hw
  cases hw
  rw [accepts_congr he] at hwa
  exact g.mine j d hj (h.held j d v.ticket v.found hj hdp g.found hwa)

/-- Traffic stays coherent when a call goes on at its session. -/
theorem Coherent.visited (h : Coherent settings t)
    (g : Goes settings t t' i v stand stand' s') : Coherent settings t' := by
  constructor
  case known =>
    intro j c w hj hw
    by_cases hk : w.ticket = v.ticket
    · exact ⟨s', hk ▸ g.here⟩
    · rw [g.away hk]
      rcases g.call_cases hj with ⟨-, rfl⟩ | ⟨-, hj⟩
      · rw [g.progress.visit?] at hw
        exact absurd (congrArg Visit.ticket (Option.some.inj hw)).symm hk
      · exact h.known j c w hj hw
  case asking =>
    intro j req w pending hj
    rcases g.call_cases hj with ⟨-, he⟩ | ⟨hne, hj⟩
    · cases he
      rcases id g.progress with ⟨pending', hb, he, rfl⟩ | ⟨outcome, -, he, -⟩
      · cases he
        exact ⟨g.here, hb⟩
      · have hh := congrArg Stand.holds? he
        rw [holds?_concluded] at hh
        cases hh
    · have hk : w.ticket ≠ v.ticket := fun hk => hne (g.mine j _ hj (congrArg some hk))
      rw [g.away hk]
      exact h.asking j req w pending hj
  case alone =>
    intro a b c d k ha hb hck hdk
    rcases g.call_cases ha with ⟨rfl, rfl⟩ | ⟨-, ha⟩
    · rcases g.call_cases hb with ⟨rfl, -⟩ | ⟨-, hb⟩
      · rfl
      · rw [g.progress.holds? hck] at hdk
        exact (g.mine b d hb hdk).symm
    · rcases g.call_cases hb with ⟨rfl, rfl⟩ | ⟨-, hb⟩
      · rw [g.progress.holds? hdk] at hck
        exact g.mine a c ha hck
      · exact h.alone a b c d k ha hb hck hdk
  case concluded =>
    intro j req st w r hj hw hr
    rcases g.call_cases hj with ⟨-, he⟩ | ⟨-, hj⟩
    · cases he
      rw [g.progress.visit?] at hw
      cases hw
      rcases id g.progress with ⟨pending, -, rfl, -⟩ | ⟨outcome, hy, rfl, -⟩
      · simp [Stand.result?] at hr
      · rw [result?_concluded] at hr
        exact ⟨outcome, hy, Option.some.inj hr⟩
    · exact h.concluded j req st w r hj hw hr
  case leaving =>
    intro j req w r hj
    rcases g.call_cases hj with ⟨-, he⟩ | ⟨-, hj⟩
    · cases he
      rcases id g.progress with ⟨pending, -, he, -⟩ | ⟨outcome, -, he, rfl⟩
      · cases he
      · obtain ⟨rfl, ht⟩ := leaving_of_concluded he.symm
        exact ⟨_, g.here, ht⟩
    · obtain ⟨s, hks, ht⟩ := h.leaving j req w r hj
      by_cases hk : w.ticket = v.ticket
      · rw [hk, g.found] at hks
        cases hks
        -- nothing is accepted at the end, so the session is still over
        have hsv := g.progress.session_of_not_accepts (Phase.not_accepts_of_isTerminal ht request)
        exact ⟨s', hk ▸ g.here, hsv ▸ ht⟩
      · exact ⟨s, by rw [g.away hk, hks], ht⟩
  case held => exact fun _ _ _ _ hj hcp hks ha => h.held_after g hj hcp hks ha
  case agreed => exact fun _ _ _ hks hph => h.agreed_after g hks hph
  case follows =>
    intro j c w hh hj hw hwf
    rcases g.call_cases hj with ⟨-, rfl⟩ | ⟨-, hj⟩
    · rw [g.progress.visit?] at hw
      cases hw
      exact g.keepAgreed (h.agreed v.ticket v.found hh g.found hwf)
    · exact g.keepAgreed (h.follows j c w hh hj hw hwf)
  case once =>
    intro a b c d k ha hb hcp hdp he
    rcases g.call_cases ha with ⟨rfl, rfl⟩ | ⟨-, ha⟩
    · rcases g.call_cases hb with ⟨rfl, -⟩ | ⟨-, hb⟩
      · rfl
      · exact (h.passed_before g hb hdp hcp he).symm
    · rcases g.call_cases hb with ⟨rfl, rfl⟩ | ⟨-, hb⟩
      · exact h.passed_before g ha hcp hdp he.symm
      · exact h.once a b c d k ha hb hcp hdp he

end Goes

/-- A call that removes its session stays as it is but for that. -/
theorem Coherent.left (h : Coherent settings t) {i : Nat} {request : Request} {v : Visit}
    {r : Except Error request.Answer} (hi : t.calls[i]? = some ⟨request, .leaving v r⟩)
    (hs : t'.sessions = t.sessions)
    (hc : t'.calls = t.calls.set i ⟨request, .answered v r⟩) : Coherent settings t' := by
  -- every call was there before with the same visit, answer and session held
  have back : ∀ {j : Nat} {c : Call}, t'.calls[j]? = some c → ∃ stand : Stand c.request,
      t.calls[j]? = some ⟨c.request, stand⟩ ∧ c.stand.visit? = stand.visit? ∧
        c.stand.result? = stand.result? ∧ c.stand.holds? = stand.holds? := by
    intro j c hj
    rw [hc] at hj
    rcases set_cases hj with ⟨rfl, rfl⟩ | ⟨-, hj'⟩
    · exact ⟨.leaving v r, hi, rfl, rfl, rfl⟩
    · exact ⟨c.stand, hj', rfl, rfl, rfl⟩
  have passed : ∀ {c : Call} {stand : Stand c.request} {k : Ticket}, c.Passed k →
      c.stand.visit? = stand.visit? → Call.Passed ⟨c.request, stand⟩ k := by
    rintro c stand k ⟨w, hw, hk⟩ hv
    exact ⟨w, hv ▸ hw, hk⟩
  have keepAgreed : ∀ {k : Ticket} {hh : Handshake},
      (∃ (j : Nat) (d : Call), t.calls[j]? = some d ∧ d.Agreed settings k hh) →
      ∃ (j : Nat) (d : Call), t'.calls[j]? = some d ∧ d.Agreed settings k hh := by
    rintro k hh ⟨j, d, hj, hd⟩
    by_cases hij : i = j
    · subst hij
      rw [hi] at hj
      cases hj
      obtain ⟨m, stand, visit, outcome, he, hrest⟩ := hd
      cases he
      exact ⟨i, _, by rw [hc]; exact set_self hi, m, .answered v r, visit, outcome, rfl, hrest⟩
    · exact ⟨j, d, by rw [hc, List.getElem?_set_ne hij, hj], hd⟩
  constructor
  case known =>
    intro j c w hj hw
    obtain ⟨stand, hj', hv, -⟩ := back hj
    rw [hs]
    exact h.known j _ w hj' (hv ▸ hw)
  case asking =>
    intro j req w pending hj
    rw [hc] at hj
    rw [hs]
    rcases set_cases hj with ⟨-, he⟩ | ⟨-, hj'⟩
    · cases he
    · exact h.asking j req w pending hj'
  case alone =>
    intro a b c d k ha hb hck hdk
    obtain ⟨st, ha', -, -, hh⟩ := back ha
    obtain ⟨st', hb', -, -, hh'⟩ := back hb
    exact h.alone a b _ _ k ha' hb' (hh ▸ hck) (hh' ▸ hdk)
  case concluded =>
    intro j req st w r' hj hw hr
    obtain ⟨st', hj', hv, hr', -⟩ := back hj
    exact h.concluded j req st' w r' hj' (hv ▸ hw) (hr' ▸ hr)
  case leaving =>
    intro j req w r' hj
    rw [hc] at hj
    rw [hs]
    rcases set_cases hj with ⟨-, he⟩ | ⟨-, hj'⟩
    · cases he
    · exact h.leaving j req w r' hj'
  case held =>
    intro j c k s hj hcp hks ha
    obtain ⟨st, hj', hv, -, hh⟩ := back hj
    rw [hs] at hks
    rw [hh]
    exact h.held j _ k s hj' (passed hcp hv) hks ha
  case agreed =>
    intro k s hh hks hp
    rw [hs] at hks
    exact keepAgreed (h.agreed k s hh hks hp)
  case follows =>
    intro j c w hh hj hw hwf
    obtain ⟨st, hj', hv, -⟩ := back hj
    exact keepAgreed (h.follows j _ w hh hj' (hv ▸ hw) hwf)
  case once =>
    intro a b c d k ha hb hcp hdp he
    obtain ⟨st, ha', hv, -⟩ := back ha
    obtain ⟨st', hb', hv', -⟩ := back hb
    exact h.once a b _ _ k ha' hb' (passed hcp hv) (passed hdp hv') he

/-! ## Runs -/

/-- Whoever gets a session that is not held has it alone. -/
theorem alone_of_not_isHeld {k : Ticket} (free : t.isHeld k = false) (i j : Nat) (c : Call)
    (hj : t.calls[j]? = some c) (hh : c.stand.holds? = some k) : j = i := by
  simp only [isHeld, List.any_eq_false] at free
  exact absurd (by simp [hh]) (free c (List.mem_of_getElem? hj))

/-- A step keeps traffic coherent. -/
theorem Coherent.effect (h : Coherent settings t) (he : Effect settings t t') :
    Coherent settings t' := by
  cases he with
  | still hs hc =>
    exact ⟨by rw [hs, hc]; exact h.known, by rw [hs, hc]; exact h.asking, by rw [hc]; exact h.alone,
      by rw [hc]; exact h.concluded, by rw [hs, hc]; exact h.leaving, by rw [hs, hc]; exact h.held,
      by rw [hs, hc]; exact h.agreed, by rw [hc]; exact h.follows, by rw [hc]; exact h.once⟩
  | opened id hs hc => exact h.opened hs hc
  | refused request cause hs hc => exact h.arrived rfl hs hc
  | admitted request ticket _ hs hc => exact h.arrived rfl hs hc
  | asked i request v pending hi free found _ hb hs hc =>
    obtain ⟨hl, hf⟩ := List.getElem?_eq_some_iff.mp found
    have hset : t'.sessions = t.sessions.set v.ticket v.found := by
      rw [hs, ← hf, List.set_getElem_self]
    exact h.visited ⟨hi, rfl, alone_of_not_isHeld free i, found, .asks pending hb rfl rfl, hset, hc⟩
  | finished i request v outcome hi free found ha hb hs hc =>
    have progress := Progresses.ends outcome (Or.inl ⟨ha, hb⟩) rfl rfl
    exact h.visited ⟨hi, rfl, alone_of_not_isHeld free i, found, progress, hs, hc⟩
  | heard i request v pending authority session tape hi found hs hc =>
    obtain ⟨hf, hb⟩ := h.asking i request v pending hi
    rw [hf] at found
    cases found
    have progress := Progresses.ends _ (heard_yields hb authority tape) rfl rfl
    refine h.visited ⟨hi, rfl, ?_, ?_, progress, ?_, hc⟩
    · intro j c hj hh
      rw [ticket_heard] at hh
      exact h.alone j i c _ v.ticket hj hi hh rfl
    · rw [ticket_heard, found_heard, hf]
    · rw [hs, ticket_heard]
  | left i request v result hi hs hc => exact h.left hi hs hc

/-- Traffic is coherent after every run. -/
theorem Coherent.run (h : Coherent settings t) (actions : List Action) :
    Coherent settings (t.run settings actions) := by
  induction actions generalizing t with
  | nil => exact h
  | cons action actions ih => exact ih (h.effect (t.step_effect settings action))

/-- Traffic is coherent after every run from the start. -/
theorem coherent_run (settings : Settings) (tape : Tape) (actions : List Action) :
    Coherent settings ((Traffic.start tape).run settings actions) :=
  (Coherent.start settings tape).run actions

end Traffic

end EnclaveGate
