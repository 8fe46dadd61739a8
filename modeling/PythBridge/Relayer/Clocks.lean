import PythBridge.Relayer.ServiceRuns

/-!
# The relayer — clocks

A block that is taken up starts a clock and tells the one before it to terminate. A clock looks for
`Terminate` only when it wakes up, so it may have a tick left to send (`Service.remaining`); it
never has more (`old_clocks_stop`).

The crux is that only the last clock can be running freely. The run loop keeps the channel of one
clock, the last one it started, and sends `Terminate` over it before it starts another one. So all
clocks but the last have been told (`Service.OneClock`), and of a clock that has been told only its
phase matters: when it is sending it ticks once more, sleeps, and ends when it wakes up.

* `step_oneClock`: the invariant, and one clock for each block that is taken up.
* `step_remaining`: the ticks of an old clock are used up.
* `step_silent`, `step_of_ended`: the two cases in which nothing is posted.
* `old_clocks_stop`: whole runs.
-/

namespace PythBridge.Relayer

open Clarity

variable {sdk : StacksSdk} {config : Config}

/-! ## One clock

Each lemma about a step goes by the kinds of steps. Most of them do not touch the clocks at all. -/

def isStarted : Output sdk → Bool
  | .started _ => true
  | _ => false

def isTickOf (i : Nat) : Output sdk → Bool
  | .ticked j => j == i
  | _ => false

/-- Every clock but the last one has been told to terminate. -/
def Told (clocks : List Clock) : Prop :=
  ∀ i clock, i + 1 < clocks.length → clocks[i]? = some clock → clock.terminate = true

/-- The run loop knows the last clock. -/
structure Service.OneClock (s : Service) : Prop where
  told : Told s.clocks
  clockStop : ∀ runloop, s.runloop = some runloop →
    (runloop.clockStop = none ∧ s.clocks = []) ∨
      ∃ last, runloop.clockStop = some last ∧ s.clocks.length = last + 1

/-- At the start there is no clock, and the run loop knows none. -/
theorem Service.started_oneClock : Service.started.OneClock where
  told := fun _ _ h => absurd h (Nat.not_lt_zero _)
  clockStop := fun _ h => by cases h; exact .inl ⟨rfl, rfl⟩

theorem Clock.wake_terminate (updatesPerMin : Nat) (clock : Clock) :
    (clock.wake updatesPerMin).terminate = clock.terminate := by
  unfold Clock.wake
  repeat' split
  all_goals rfl

theorem Told.modify {clocks : List Clock} (h : Told clocks) {f : Clock → Clock}
    (hf : ∀ clock, clock.terminate = true → (f clock).terminate = true) (j : Nat) :
    Told (clocks.modify j f) := by
  intro i clock hi hget
  rw [List.length_modify] at hi
  rw [List.getElem?_modify] at hget
  split at hget
  · obtain ⟨before, hbefore, rfl⟩ := Option.map_eq_some_iff.mp hget
    exact hf before (h i before hi hbefore)
  · exact h i clock hi (by simpa using hget)

/-- A clock is told to terminate, and another one is started. -/
theorem Told.concat {clocks : List Clock} (h : Told clocks) {last : Nat}
    (hlast : clocks.length = last + 1) (clock : Clock) :
    Told (clocks.modify last (fun clock => { clock with terminate := true }) ++ [clock]) := by
  intro i before hi hget
  rw [List.length_append, List.length_modify, hlast, List.length_singleton] at hi
  -- the new clock is the last one, and nothing is asked of it
  rw [List.getElem?_append_left (by rw [List.length_modify]; omega), List.getElem?_modify] at hget
  split at hget
  · obtain ⟨_, _, rfl⟩ := Option.map_eq_some_iff.mp hget
    rfl
  · exact h i before (by omega) (by simpa using hget)

/-- A step starts a clock for every block that is taken up. -/
theorem step_oneClock (sdk : StacksSdk) (config : Config) {s : Service} (hs : s.Sound)
    (h : s.OneClock) (action : Action) :
    (s.step sdk config action).OneClock ∧
      (s.step sdk config action).clocks.length =
        s.clocks.length + (s.out sdk config action).countP isStarted := by
  have hstepped : Stepped sdk config s action _ _ := react_stepped hs.untracked action
  generalize s.step sdk config action = t, s.out sdk config action = out at hstepped
  cases hstepped with
  | idle => exact ⟨h, rfl⟩
  | exits => exact ⟨⟨h.told, h.clockStop⟩, rfl⟩
  | @observed event command hcommand =>
    refine ⟨⟨?_, ?_⟩, by rw [Service.send_clocks]; rfl⟩
    · rw [Service.send_clocks]
      exact h.told
    · rw [Service.send_clocks, Service.send_runloop]
      exact h.clockStop
  | woken i =>
    refine ⟨⟨h.told.modify (fun clock hclock => ?_) i, fun runloop hrunloop => ?_⟩,
      List.length_modify ..⟩
    · rw [Clock.wake_terminate, hclock]
    · rw [List.modify_eq_nil_iff, List.length_modify]
      exact h.clockStop runloop hrunloop
  -- a tick puts the clock to sleep and keeps what it was told
  | @ticked i terminate hget =>
    refine ⟨⟨?_, ?_⟩, by rw [Service.send_clocks, List.length_set]; rfl⟩
    · rw [Service.send_clocks]
      intro j clock hj hclock
      rw [List.length_set] at hj
      rw [List.getElem?_set] at hclock
      split at hclock
      · next heq =>
        subst heq
        rw [if_pos (by omega)] at hclock
        cases hclock
        exact (h.told i ⟨.sending, terminate⟩ hj hget :)
      · exact h.told j clock hj hclock
    · rw [Service.send_clocks, Service.send_runloop]
      intro runloop hrunloop
      rw [List.set_eq_nil_iff, List.length_set]
      exact h.clockStop runloop hrunloop
  | @started answers runloop block queue hrunloop hqueue =>
    obtain ⟨rbfTracking, priceUpdated, clockStop⟩ := runloop
    -- the first block has no clock to stop; any other one stops the last
    rcases h.clockStop _ hrunloop with ⟨hnone, hnil⟩ | ⟨last, hsome, hlast⟩
    · obtain rfl : clockStop = none := hnone
      simp only [Service.startBlock, hnil]
      refine ⟨⟨fun i _ hi _ => ?_, fun _ heq => ?_⟩, rfl⟩
      · exact absurd hi (Nat.not_lt.mpr (Nat.le_add_left _ _))
      · cases heq
        exact .inr ⟨0, rfl, rfl⟩
    · obtain rfl : clockStop = some last := hsome
      have hlength : (s.clocks.modify last (fun clock => { clock with terminate := true }) ++
          [(⟨.sleeping, false⟩ : Clock)]).length = s.clocks.length + 1 := by
        rw [List.length_append, List.length_modify, List.length_singleton]
      refine ⟨⟨h.told.concat hlast _, fun _ heq => ?_⟩, hlength⟩
      cases heq
      exact .inr ⟨s.clocks.length, rfl, hlength⟩
  | @passed answers runloop command queue hrunloop hqueue hcommand =>
    exact ⟨⟨h.told, h.clockStop⟩, rfl⟩
  | ended hrunloop hqueue => exact ⟨⟨h.told, nofun⟩, rfl⟩
  | @posted answers runloop queue transaction hrunloop hqueue =>
    refine ⟨⟨h.told, fun _ heq => ?_⟩, rfl⟩
    cases heq
    exact h.clockStop runloop hrunloop

/-- The ticks a clock sends once it has been told to terminate: one, if it has looked for
`Terminate` before. -/
def Clock.remaining (clock : Clock) : Nat := if clock.phase = .sending then 1 else 0

def Service.remaining (s : Service) (i : Nat) : Nat := (s.clocks[i]?.map Clock.remaining).getD 0

theorem Service.remaining_le (s : Service) (i : Nat) : s.remaining i ≤ 1 := by
  unfold Service.remaining
  cases s.clocks[i]? with
  | none => exact Nat.zero_le _
  | some clock =>
    show clock.remaining ≤ 1
    unfold Clock.remaining
    split <;> omega

/-- A clock that has been told to terminate does not start sending. -/
theorem Clock.remaining_wake {clock : Clock} (h : clock.terminate = true) (updatesPerMin : Nat) :
    (clock.wake updatesPerMin).remaining = clock.remaining := by
  obtain ⟨phase, terminate⟩ := clock
  obtain rfl : terminate = true := h
  cases phase with
  | sending => rfl
  | ended => rfl
  | sleeping =>
    simp only [Clock.wake]
    split <;> rfl

/-- One step of an old clock's ticks. -/
theorem step_remaining (sdk : StacksSdk) (config : Config) {s : Service} (hs : s.Sound)
    (h : s.OneClock) (action : Action) {i : Nat} (hi : i + 1 < s.clocks.length) :
    (s.out sdk config action).countP (isTickOf i) + (s.step sdk config action).remaining i ≤
      s.remaining i := by
  have hstepped : Stepped sdk config s action _ _ := react_stepped hs.untracked action
  generalize s.step sdk config action = t, s.out sdk config action = out at hstepped
  -- the steps that neither touch the clock nor tick
  have hkept : ∀ {t : Service} {out : List (Output sdk)},
      (t.clocks[i]?).map Clock.remaining = (s.clocks[i]?).map Clock.remaining →
      out.countP (isTickOf i) = 0 →
      out.countP (isTickOf i) + t.remaining i ≤ s.remaining i := by
    intro t out hclock hout
    refine Nat.le_of_eq ?_
    rw [hout, Nat.zero_add, Service.remaining, Service.remaining, hclock]
  cases hstepped with
  | idle => exact hkept rfl rfl
  | exits => exact hkept rfl rfl
  | observed => exact hkept (by rw [Service.send_clocks]) rfl
  -- a clock that was told does not start sending
  | woken j =>
    refine hkept ?_ rfl
    rw [List.getElem?_modify]
    cases hget : s.clocks[i]? with
    | none => rfl
    | some clock =>
      have hterminate : clock.terminate = true := h.told i clock hi hget
      by_cases hij : j = i
      · simp [hij, Clock.remaining_wake hterminate]
      · simp [hij]
  | @ticked j terminate hget =>
    -- what this clock sends was what it had left
    by_cases hij : j = i
    · subst hij
      have hlt : j < s.clocks.length := by omega
      have hbefore : s.remaining j = 1 := by
        rw [Service.remaining, hget]
        rfl
      rw [hbefore, Service.remaining, Service.send_clocks, List.getElem?_set_self hlt]
      simp [isTickOf, Clock.remaining]
    · refine hkept ?_ ?_
      · rw [Service.send_clocks, List.getElem?_set_ne hij]
      · simp [isTickOf, hij]
  | @started answers runloop block queue hrunloop hqueue =>
    refine hkept ?_ rfl
    rcases h.clockStop _ hrunloop with ⟨hnone, hnil⟩ | ⟨last, hsome, hlast⟩
    · rw [hnil] at hi
      exact absurd hi (Nat.not_lt_zero _)
    · have hne : last ≠ i := by omega
      simp only [Service.startBlock, hsome]
      rw [List.getElem?_append_left (by rw [List.length_modify]; omega), List.getElem?_modify]
      simp [hne]
  | passed => exact hkept rfl rfl
  | ended => exact hkept rfl rfl
  | posted => exact hkept rfl rfl

theorem forall_mem_modify {P : Clock → Prop} {clocks : List Clock} (h : ∀ clock ∈ clocks, P clock)
    {f : Clock → Clock} (hf : ∀ clock, P clock → P (f clock)) (j : Nat) :
    ∀ clock ∈ clocks.modify j f, P clock := by
  intro clock hclock
  obtain ⟨i, hget⟩ := List.mem_iff_getElem?.mp hclock
  rw [List.getElem?_modify] at hget
  split at hget
  · obtain ⟨before, hbefore, rfl⟩ := Option.map_eq_some_iff.mp hget
    exact hf before (h before (List.mem_of_getElem? hbefore))
  · exact h clock (List.mem_of_getElem? (by simpa using hget))

/-- Without a clock that sends there is no tick, so nothing is posted. -/
structure Service.Silent (s : Service) : Prop where
  clocks : ∀ clock ∈ s.clocks, clock.phase ≠ .sending
  queue : .priceFeedBlockUpdatesTick ∉ s.queue

theorem Clock.wake_of_zero {clock : Clock} (h : clock.phase ≠ .sending) :
    (clock.wake 0).phase ≠ .sending := by
  obtain ⟨phase, terminate⟩ := clock
  cases phase with
  | sending => exact absurd rfl h
  | ended => exact nofun
  | sleeping => exact nofun

/-- At a rate of zero a clock ends as soon as it wakes up, so it never sends. -/
theorem step_silent {s : Service} (hs : s.Sound) (h : s.Silent)
    (hrate : config.priceUpdatesPerMinute = 0) (action : Action) :
    (s.step sdk config action).Silent ∧
      ∀ o ∈ s.out sdk config action, ∃ block, o = .started block := by
  have hstepped : Stepped sdk config s action _ _ := react_stepped hs.untracked action
  generalize s.step sdk config action = t, s.out sdk config action = out at hstepped
  cases hstepped with
  | idle => exact ⟨h, nofun⟩
  | exits => exact ⟨⟨h.clocks, h.queue⟩, nofun⟩
  | @observed event command hcommand =>
    refine ⟨⟨?_, fun hmem => ?_⟩, nofun⟩
    · rw [Service.send_clocks]
      exact h.clocks
    · rcases Service.mem_send hmem with hmem | heq
      · exact h.queue hmem
      · exact (observe_cases config.startBlock event).2 (heq ▸ hcommand)
  | woken i =>
    refine ⟨⟨?_, h.queue⟩, nofun⟩
    rw [hrate]
    exact forall_mem_modify h.clocks (fun _ => Clock.wake_of_zero) i
  -- no clock is sending, so this kind of step is out
  | ticked hget => exact absurd rfl (h.clocks _ (List.mem_of_getElem? hget))
  | @started answers runloop block queue hrunloop hqueue =>
    refine ⟨⟨fun clock hclock => ?_, fun hmem => h.queue ?_⟩, fun o ho => ?_⟩
    · rcases List.mem_append.mp hclock with hclock | hclock
      · cases hstop : runloop.clockStop with
        | none =>
          rw [hstop] at hclock
          exact h.clocks clock hclock
        | some last =>
          rw [hstop] at hclock
          refine forall_mem_modify (P := fun clock => clock.phase ≠ .sending) h.clocks ?_ last
            clock hclock
          exact fun _ hphase => hphase
      · rw [List.mem_singleton.mp hclock]
        exact nofun
    · rw [hqueue]
      exact .tail _ hmem
    · exact ⟨block, List.mem_singleton.mp ho⟩
  | passed hrunloop hqueue =>
    refine ⟨⟨h.clocks, fun hmem => h.queue ?_⟩, nofun⟩
    rw [hqueue]
    exact .tail _ hmem
  | ended hrunloop hqueue =>
    refine ⟨⟨h.clocks, fun hmem => h.queue ?_⟩, nofun⟩
    rw [hqueue]
    exact .tail _ hmem
  | posted hrunloop hqueue =>
    exact absurd (by rw [hqueue]; exact List.mem_cons_self) h.queue

/-- Once the run loop has ended, it stays so. -/
theorem step_of_ended {s : Service} (hs : s.Sound) (h : s.runloop = none) (action : Action) :
    (s.step sdk config action).runloop = none ∧
      ∀ o ∈ s.out sdk config action, ∃ i, o = .ticked i := by
  have hstepped : Stepped sdk config s action _ _ := react_stepped hs.untracked action
  generalize s.step sdk config action = t, s.out sdk config action = out at hstepped
  have hended : ∀ {runloop : Runloop}, s.runloop ≠ some runloop := by
    rw [h]
    exact nofun
  cases hstepped with
  | idle => exact ⟨h, nofun⟩
  | exits => exact ⟨h, nofun⟩
  | observed => exact ⟨by rwa [Service.send_runloop], nofun⟩
  | woken i => exact ⟨h, nofun⟩
  | @ticked i terminate hget =>
    exact ⟨by rwa [Service.send_runloop], fun o ho => ⟨i, List.mem_singleton.mp ho⟩⟩
  | started hrunloop => exact absurd hrunloop hended
  | passed hrunloop => exact absurd hrunloop hended
  | ended hrunloop => exact absurd hrunloop hended
  | posted hrunloop => exact absurd hrunloop hended

/-- What the service puts out from a state on. -/
def traceFrom (sdk : StacksSdk) (config : Config) (s : Service) (actions : List Action) :
    List (Output sdk) :=
  outputs (Service.step sdk config) (Service.out sdk config) s actions

/-- There are as many clocks as blocks that were taken up. -/
theorem serviceAfter_oneClock (sdk : StacksSdk) (config : Config) (actions : List Action) :
    (serviceAfter sdk config actions).OneClock ∧
      (serviceAfter sdk config actions).clocks.length =
        (trace sdk config actions).countP isStarted := by
  have hrun : ∀ {s : Service}, s.Sound → s.OneClock →
      (afterRun (Service.step sdk config) s actions).OneClock ∧
        (afterRun (Service.step sdk config) s actions).clocks.length =
          s.clocks.length + (traceFrom sdk config s actions).countP isStarted := by
    induction actions with
    | nil => exact fun _ h => ⟨h, rfl⟩
    | cons action actions ih =>
      intro s hs h
      obtain ⟨hone, hlength⟩ := step_oneClock sdk config hs h action
      obtain ⟨hlast, hcount⟩ := ih (step_sound hs action) hone
      refine ⟨hlast, hcount.trans ?_⟩
      rw [hlength, traceFrom, traceFrom, outputs, List.countP_append, Nat.add_assoc]
  obtain ⟨hone, hcount⟩ := hrun Service.started_sound Service.started_oneClock
  exact ⟨hone, hcount.trans (Nat.zero_add _)⟩

/-- **Old clocks stop.** In every order of the threads' steps, once the block after the one that
clock `i` was started for has been taken up, the clock ticks once more at most. When the configured
rate is zero, no clock ticks and nothing is posted. Once the run loop has ended, on a command or in
a panic, no block is taken up and nothing is posted any more. -/
theorem old_clocks_stop (sdk : StacksSdk) (config : Config) (before after : List Action) :
    (∀ i, i + 1 < (trace sdk config before).countP isStarted →
      (traceFrom sdk config (serviceAfter sdk config before) after).countP (isTickOf i) ≤ 1) ∧
    (config.priceUpdatesPerMinute = 0 →
      ∀ o ∈ trace sdk config before, ∃ block, o = .started block) ∧
    ((serviceAfter sdk config before).runloop = none →
      ∀ o ∈ traceFrom sdk config (serviceAfter sdk config before) after, ∃ i, o = .ticked i) := by
  refine ⟨fun i hi => ?_, fun hrate o ho => ?_, fun hended o ho => ?_⟩
  · -- the ticks of the clock are bounded by what remains, over the rest of the run
    have hrun : ∀ {s : Service}, s.Sound → s.OneClock → i + 1 < s.clocks.length →
        (traceFrom sdk config s after).countP (isTickOf i) ≤ s.remaining i := by
      induction after with
      | nil => exact fun _ _ _ => Nat.zero_le _
      | cons action after ih =>
        intro s hs h hi
        obtain ⟨hone, hlength⟩ := step_oneClock sdk config hs h action
        have hstep := step_remaining sdk config hs h action hi
        have hrest := ih (step_sound hs action) hone (by omega)
        have hsplit : traceFrom sdk config s (action :: after) = s.out sdk config action ++
          traceFrom sdk config (s.step sdk config action) after := rfl
        rw [hsplit, List.countP_append]
        omega
    obtain ⟨hone, hcount⟩ := serviceAfter_oneClock sdk config before
    have hlast := hrun (serviceAfter_sound sdk config before) hone (by omega)
    exact Nat.le_trans hlast (Service.remaining_le _ _)
  · -- each output comes from one step, and the state before it is reached
    obtain ⟨first, action, rest, rfl, hout⟩ := exists_step_of_mem_outputs ho
    have hsilent : (afterRun (Service.step sdk config) .started first).Sound ∧
        (afterRun (Service.step sdk config) .started first).Silent := by
      refine afterRun_invariant (P := fun s : Service => s.Sound ∧ s.Silent)
        (fun s action _ h => ?_) ⟨Service.started_sound, nofun, nofun⟩
      exact ⟨step_sound h.1 action, (step_silent h.1 h.2 hrate action).1⟩
    exact (step_silent hsilent.1 hsilent.2 hrate action).2 o hout
  · obtain ⟨first, action, rest, rfl, hout⟩ := exists_step_of_mem_outputs ho
    have hlast : (afterRun (Service.step sdk config) (serviceAfter sdk config before) first).Sound ∧
        (afterRun (Service.step sdk config) (serviceAfter sdk config before) first).runloop =
          none := by
      refine afterRun_invariant (P := fun s : Service => s.Sound ∧ s.runloop = none)
        (fun s action _ h => ?_) ⟨serviceAfter_sound sdk config before, hended⟩
      exact ⟨step_sound h.1 action, (step_of_ended h.1 h.2 action).1⟩
    exact (step_of_ended hlast.1 hlast.2 action).2 o hout

end PythBridge.Relayer
