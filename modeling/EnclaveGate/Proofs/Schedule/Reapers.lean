import EnclaveGate.Proofs.Schedule.Dispatch
import EnclaveGate.Proofs.Schedule.Table
import EnclaveGate.Proofs.Server.Upkeep

/-!
# Reapers

While no request is in flight, nothing happens but that reapers purge. A script that does one thing
after the other therefore takes the same turns of a server whether it starts reapers or not, with
purges inserted between them and while time passes. So nothing but numbers of sessions tells whether,
when, and how often sessions that were idle for too long were removed.
-/

namespace EnclaveGate

/-- Whether only time passes or sessions are removed. -/
def Server.Turn.isIdle : Server.Turn → Bool
  | pass _ | purge => true
  | openSession | handle .. => false

/-- Where purges are inserted, only time passes and sessions are removed. -/
theorem Server.Purges.isIdle {turns turns' : List Server.Turn} (h : Server.Purges turns turns')
    (hi : ∀ turn ∈ turns, turn.isIdle = true) : ∀ turn ∈ turns', turn.isIdle = true := by
  induction h with
  | nil => exact hi
  | keep turn h ih =>
    obtain ⟨hfirst, hrest⟩ := List.forall_mem_cons.mp hi
    exact List.forall_mem_cons.mpr ⟨hfirst, ih hrest⟩
  | purge h ih => exact List.forall_mem_cons.mpr ⟨rfl, ih hi⟩
  | split first rest h ih =>
    obtain ⟨-, hrest⟩ := List.forall_mem_cons.mp hi
    exact List.forall_mem_cons.mpr ⟨rfl, ih (List.forall_mem_cons.mpr ⟨rfl, hrest⟩)⟩

/-- The request that was answered, as it stands among those that a script has sent. -/
def Server.Reply.flight? : Server.Reply Answered → Option Flight
  | answered answer => some ⟨answer.request, true, .done answer.result⟩
  | passed | opened _ | purged _ => none

/-- No request is answered while time passes and sessions are removed. -/
theorem Server.flights_of_isIdle {settings : Settings} {turns : List Server.Turn}
    (h : ∀ turn ∈ turns, turn.isIdle = true) (server : Server) :
    (server.replies settings turns).filterMap Reply.flight? = [] := by
  induction turns generalizing server with
  | nil => rfl
  | cons turn turns ih =>
    obtain ⟨hfirst, hrest⟩ := List.forall_mem_cons.mp h
    rw [replies, List.filterMap_cons, ih hrest]
    cases turn <;> first | rfl | cases hfirst

namespace Schedule

/-- A schedule goes on as a server that takes turns. -/
structure Follows (settings : Settings) (s s' : Schedule) (turns : List Server.Turn) : Prop where
  /-- The server has taken the turns. -/
  server : s'.server = s.server.turns settings turns
  /-- Requests were answered as in the turns. -/
  flights : s'.flights =
    s.flights ++ (s.server.replies settings turns).filterMap Server.Reply.flight?

variable {settings : Settings} {authority : Authority} {s s' s'' : Schedule}

theorem Follows.refl (settings : Settings) (s : Schedule) : s.Follows settings s [] where
  server := rfl
  flights := (List.append_nil s.flights).symm

theorem Follows.trans {before after : List Server.Turn} (h : s.Follows settings s' before)
    (h' : s'.Follows settings s'' after) : s.Follows settings s'' (before ++ after) where
  server := by rw [h'.server, h.server, Server.turns_append]
  flights := by
    rw [h'.flights, h.flights, h.server, Server.replies_append, List.filterMap_append,
      List.append_assoc]

theorem Follows.of_isIdle {turns : List Server.Turn} (hi : ∀ turn ∈ turns, turn.isIdle = true)
    (hs : s'.server = s.server.turns settings turns) (hf : s'.flights = s.flights) :
    s.Follows settings s' turns where
  server := hs
  flights := by rw [Server.flights_of_isIdle hi, List.append_nil, hf]

/-! ## What reapers do -/

/-- A reaper purges and is calm again. -/
theorem Calm.reap (h : s.Calm) (settings : Settings) (i : Nat) (reaper : Reaper) :
    (s.reap settings i reaper).Calm where
  answered := h.answered
  ranked := by
    intro other ho
    rcases List.mem_or_eq_of_mem_set ho with ho | rfl
    · exact h.ranked other ho
    · rfl

/-- All that can happen by itself is that a reaper purges. -/
theorem Calm.step (h : s.Calm) {limit : Nat} (hs : s.step? settings authority limit = some s') :
    s'.Calm ∧ s'.flights = s.flights ∧ ∃ ms, (ms = 0 ∨ s.server.now + ms < limit) ∧
      s'.server = ((s.server.advance ms).purge settings).2 := by
  simp only [step?] at hs
  split at hs
  · cases hs
  rename_i slot due hfirst
  split at hs
  · rename_i hlt
    cases hs
    have hmem := first?_mem hfirst
    rw [h.dues_eq] at hmem
    obtain ⟨⟨reaper, i⟩, -, hdue⟩ := List.mem_map.mp hmem
    cases hdue
    refine ⟨?_, rfl, reaper.next.time - s.server.now, ?_, rfl⟩
    · have hlater : { s with
          server := s.server.advance (reaper.next.time - s.server.now) : Schedule }.Calm :=
        h.congr rfl rfl
      exact hlater.reap settings i reaper
    · omega
  · cases hs

/-- While things happen by themselves, time passes and there are purges. -/
theorem Calm.runUpTo (h : s.Calm) (settings : Settings) (authority : Authority)
    (steps limit : Nat) :
    let s' := Schedule.runUpTo settings authority steps limit s
    s'.Calm ∧ s'.flights = s.flights ∧ ∃ ms, (ms = 0 ∨ s.server.now + ms < limit) ∧
      s'.server.now = s.server.now + ms ∧
      ∀ rest, ∃ turns, Server.Purges [.pass (ms + rest)] turns ∧
        s'.server.advance rest = s.server.turns settings turns := by
  have still : ∀ (s : Schedule) (rest : Nat), ∃ turns,
      Server.Purges [.pass (0 + rest)] turns ∧
        s.server.advance rest = s.server.turns settings turns := by
    intro s rest
    rw [Nat.zero_add]
    exact ⟨[.pass rest], .keep _ .nil, rfl⟩
  induction steps generalizing s with
  | zero => exact ⟨h, rfl, 0, Or.inl rfl, rfl, still s⟩
  | succ steps ih =>
    rw [Schedule.runUpTo]
    cases hs : s.step? settings authority limit with
    | none => exact ⟨h, rfl, 0, Or.inl rfl, rfl, still s⟩
    | some next =>
      obtain ⟨hnext, hflights, first, hfirst, hserver⟩ := h.step hs
      obtain ⟨hcalm, hflights', later, hlater, hnow, hrun⟩ := ih hnext
      have hstart : next.server.now = s.server.now + first := congrArg Server.now hserver
      refine ⟨hcalm, hflights'.trans hflights, first + later, by omega, ?_, fun rest => ?_⟩
      · dsimp only
        omega
      -- the purge of the reaper falls into the pause and splits it
      obtain ⟨turns, hp, hend⟩ := hrun rest
      refine ⟨.pass first :: .purge :: turns, ?_, ?_⟩
      · rw [Nat.add_assoc]
        exact .split first (later + rest) (.purge hp)
      · rw [hserver] at hend
        exact hend

/-- While a script sleeps, reapers purge. -/
theorem Calm.sleep (h : s.Calm) (settings : Settings) (authority : Authority) (ms : Nat) :
    (s.sleep settings authority ms).Calm ∧ ∃ turns, Server.Purges [.pass ms] turns ∧
      s.Follows settings (s.sleep settings authority ms) turns := by
  obtain ⟨hcalm, hflights, passed, hpassed, hnow, hrun⟩ := h.runUpTo settings authority
    (s.stepsBefore (s.server.now + ms)) (s.server.now + ms)
  obtain ⟨turns, hp, hend⟩ := hrun (ms - passed)
  have hms : passed + (ms - passed) = ms := by omega
  rw [hms] at hp
  have hrest : s.server.now + ms -
      (s.runBefore settings authority (s.server.now + ms)).server.now = ms - passed := by
    rw [runBefore, hnow]
    omega
  have hserver : (s.sleep settings authority ms).server = s.server.turns settings turns := by
    simp only [Schedule.sleep, hrest]
    exact hend
  refine ⟨hcalm.congr rfl rfl, turns, hp, .of_isIdle (hp.isIdle ?_) hserver hflights⟩
  simp [Server.Turn.isIdle]

/-- A reaper that starts purges at once. -/
theorem Calm.spawnReaper (h : s.Calm) (settings : Settings) (authority : Authority)
    (period : Nat) :
    (s.spawnReaper settings authority period).Calm ∧ ∃ turns, Server.Purges [.pass 0] turns ∧
      s.Follows settings (s.spawnReaper settings authority period) turns := by
  let spawned : Schedule := { (s.arrange 0 1).2 with
    reapers := s.reapers ++ [Reaper.mk period (s.arrange 0 1).1] }
  have hspawned : spawned.Calm := by
    refine ⟨h.answered, fun reaper hm => ?_⟩
    rcases List.mem_append.mp hm with hm | hm
    · exact h.ranked reaper hm
    · rw [List.mem_singleton] at hm
      subst hm
      rfl
  obtain ⟨hcalm, hflights, passed, hpassed, -, hrun⟩ := hspawned.runUpTo settings authority
    (spawned.stepsBefore (s.server.now + 1)) (s.server.now + 1)
  have hnow : spawned.server.now = s.server.now := rfl
  have hzero : passed = 0 := by omega
  subst hzero
  obtain ⟨turns, hp, hend⟩ := hrun 0
  refine ⟨hcalm, turns, hp, .of_isIdle (hp.isIdle ?_) hend hflights⟩
  simp [Server.Turn.isIdle]

/-! ## Scripts -/

/-- No reaper purges while a request is handled in a turn. -/
def Undisturbed (settings : Settings) (s : Schedule) : Server.Turn → Prop
  | .handle request authority => ∀ reaper ∈ s.reapers,
    (s.server.handle settings authority request).2.now ≤ reaper.next.time
  | .pass _ | .openSession | .purge => True

/-- A script takes turns one after the other and starts reapers in between, none of which purges while
a request is handled. Starting a reaper takes no time. -/
inductive Takes (settings : Settings) :
    Schedule → List (Authority × Step) → List Server.Turn → Prop
  /-- The script is over. -/
  | nil (s : Schedule) : Takes settings s [] []
  /-- The script takes a turn. -/
  | turn {s : Schedule} {turn : Server.Turn} {script : List (Authority × Step)}
    {turns : List Server.Turn} (undisturbed : s.Undisturbed settings turn)
    (rest : Takes settings (s.perform settings turn.step.1 turn.step.2) script turns) :
    Takes settings s (turn.step :: script) (turn :: turns)
  /-- The script starts a reaper. -/
  | reaper {s : Schedule} (authority : Authority) (period : Nat) {script : List (Authority × Step)}
    {turns : List Server.Turn}
    (rest : Takes settings (s.perform settings authority (.spawnReaper period)) script turns) :
    Takes settings s ((authority, .spawnReaper period) :: script) (.pass 0 :: turns)

/-- A turn of a script is the same turn of the server, with purges inserted by reapers. -/
theorem Calm.turn (h : s.Calm) {turn : Server.Turn} (hu : s.Undisturbed settings turn) :
    (s.perform settings turn.step.1 turn.step.2).Calm ∧ ∃ turns, Server.Purges [turn] turns ∧
      s.Follows settings (s.perform settings turn.step.1 turn.step.2) turns := by
  cases turn with
  | pass ms => exact h.sleep settings default ms
  | openSession =>
    refine ⟨h.congr rfl rfl, [.openSession], .keep _ .nil, rfl, ?_⟩
    exact (List.append_nil s.flights).symm
  | purge =>
    refine ⟨h.congr rfl rfl, [.purge], .keep _ .nil, rfl, ?_⟩
    exact (List.append_nil s.flights).symm
  | handle request authority =>
    obtain ⟨-, ha⟩ := h.send settings authority request hu
    exact ⟨h.append ha.flights ha.reapers, [.handle request authority], .keep _ .nil, ha.server,
      ha.flights⟩

/-- A script takes its turns, with purges inserted by reapers. -/
theorem Calm.performAll (h : s.Calm) {script : List (Authority × Step)} {turns : List Server.Turn}
    (ht : Takes settings s script turns) :
    ∃ turns', Server.Purges turns turns' ∧
      s.Follows settings (s.performAll settings script) turns' := by
  induction ht with
  | nil s => exact ⟨[], .nil, .refl settings s⟩
  | turn undisturbed rest ih =>
    obtain ⟨hcalm, first, hp, hfirst⟩ := h.turn undisturbed
    obtain ⟨later, hp', hlater⟩ := ih hcalm
    exact ⟨first ++ later, hp.append hp', hfirst.trans hlater⟩
  | reaper authority period rest ih =>
    obtain ⟨hcalm, first, hp, hfirst⟩ := h.spawnReaper settings authority period
    obtain ⟨later, hp', hlater⟩ := ih hcalm
    exact ⟨first ++ later, hp.append hp', hfirst.trans hlater⟩

end Schedule

/-! ## Purges that nobody notices -/

namespace Server

/-- Purges between requests cannot be observed, unless an id is drawn that addresses a session that
was idle for too long: nothing but numbers of sessions and the reports of removals depends on them.
Reapers do no more than purge. And a purge removes the sessions that were idle for longer than the
limit, and no others. -/
theorem purges_unnoticed (settings : Settings) (tape : Tape) {turns turns' : List Turn}
    (h : Purges turns turns') (hc : (start tape).neverCollides settings turns = true)
    (hc' : (start tape).neverCollides settings turns' = true) :
    (start tape).Unnoticed settings turns turns' ∧
    (∀ script, Schedule.Takes settings (.start tape) script turns → ∃ reaped,
      Purges turns reaped ∧
      (Schedule.start tape).Follows settings ((Schedule.start tape).performAll settings script)
        reaped ∧
      ((start tape).neverCollides settings reaped = true →
        (start tape).Unnoticed settings turns reaped)) ∧
    ∀ s : Server, s.PurgesExactly settings := by
  have ho := Orderly.start settings tape
  refine ⟨h.unnoticed ho hc hc', fun script ht => ?_, purges_exactly settings⟩
  obtain ⟨reaped, hp, hf⟩ := (Schedule.Still.start tape).calm.performAll ht
  exact ⟨reaped, hp, hf, fun hc'' => hp.unnoticed ho hc hc''⟩

/-- A session that was idle for too long is removed before another one is opened, or is not. -/
theorem brief_purges_unnoticed :
    Purges [.openSession, .pass 1001, .openSession]
      [.openSession, .pass 1001, .purge, .openSession] ∧
    (start Schedule.twice).neverCollides Schedule.brief
      [.openSession, .pass 1001, .openSession] = true ∧
    (start Schedule.twice).neverCollides Schedule.brief
      [.openSession, .pass 1001, .purge, .openSession] = true ∧
    (start Schedule.twice).Unnoticed Schedule.brief [.openSession, .pass 1001, .openSession]
      [.openSession, .pass 1001, .purge, .openSession] := by
  have h : Purges [.openSession, .pass 1001, .openSession]
      [.openSession, .pass 1001, .purge, .openSession] :=
    .keep _ (.keep _ (.purge (.keep _ .nil)))
  have hc : (start Schedule.twice).neverCollides Schedule.brief
      [.openSession, .pass 1001, .openSession] = true := by
    decide +kernel
  have hc' : (start Schedule.twice).neverCollides Schedule.brief
      [.openSession, .pass 1001, .purge, .openSession] = true := by
    decide +kernel
  exact ⟨h, hc, hc', (purges_unnoticed Schedule.brief Schedule.twice h hc hc').1⟩

/-- The id of a session that was idle for too long is given again only after a purge. -/
example :
    let again : Tape := ⟨List.replicate 32 0 ++ 1 :: List.replicate 39 0 ++ 1 ::
      List.replicate 7 0 ++ 2 :: List.replicate 7 0⟩
    ((start again).turns Schedule.brief [.openSession, .pass 1001, .openSession]).contains
      Schedule.brief 2 = true ∧
    ((start again).turns Schedule.brief [.openSession, .pass 1001, .purge, .openSession]).contains
      Schedule.brief 1 = true := by
  decide +kernel

end Server

end EnclaveGate
