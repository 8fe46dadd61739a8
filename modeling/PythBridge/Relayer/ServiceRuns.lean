import PythBridge.Relayer.Service

/-!
# The relayer — runs of the bridge service

The threads take their steps in any order. In every order, the transactions are posted for reports
of blocks, one for a report at most and in the order in which the chain made the reports, each for
what was fetched for it and with the estimated fee or the default one (`posts_follow_blocks`).

The crux is an invariant of two parts. First, nothing is ever put into `rbf_tracking`, so the fee is
never a raised one (`Service.Untracked`). Second, a post uses something up: a block that is taken up
gives one credit, a post takes it, and the blocks on the queue have theirs still to come
(`Service.credit`). A step then moves credit along and makes none but for a block that is reported
(`step_credit`), and a run is the same by induction. That a tick is never handled before the first
block is the part of `Service.Sound` that makes the credit of a post exist.

* `react_stepped`: what a step does, with all its guards.
* `step_sound`, `step_credit`: what a step preserves.
* `posts_follow_blocks`: whole runs.
-/

namespace PythBridge.Relayer

open Clarity

open scoped List

variable {sdk : StacksSdk} {config : Config}

/-! ## What a step does

The inversion of the step function. All results about runs go by its cases and never unfold a step.
-/

/-- A transaction as `submit_stacks_transaction` signs it while `answers` come in: for the VAAs of
the price service, and for the estimated fee or, when there is no estimate, 10 000. -/
def SignedFor (sdk : StacksSdk) (config : Config) (answers : Answers)
    (transaction : sdk.Transaction) : Prop :=
  ∃ vaas values argument nonce txFee,
    fetchPythPriceFeeds sdk.base64Decode config.priceFeedsIds answers.response = .ok vaas ∧
    vaas.mapM (fun vaa => sdk.buffFrom vaa.2) = .ok values ∧
    sdk.listFrom values = .ok argument ∧ answers.nonce = .ok nonce ∧
    (answers.estimateTransactionFee = .ok txFee ∨
      (∃ message, answers.estimateTransactionFee = .error message) ∧ txFee = 10000) ∧
    sdk.signTransactionPayload config.wallet
      ⟨config.pythOracleContractAddress, "update-prices-feeds", [argument]⟩ nonce txFee
      .onChainOnly = .ok transaction

/-- The steps, by what they change. `rbf_tracking` is empty in all of them. -/
inductive Stepped (sdk : StacksSdk) (config : Config) (s : Service) :
    Action → Service → List (Output sdk) → Prop where
  | idle {action : Action} : Stepped sdk config s action s []
  | exits : Stepped sdk config s .observerClosed { s with exited := true } []
  | observed {event : ObserverEvent} {command : BridgeTenureCommand}
      (hcommand : observe config.startBlock event = some command) :
      Stepped sdk config s (.observe event) (s.send command) []
  | woken (i : Nat) : Stepped sdk config s (.wake i)
      { s with clocks := s.clocks.modify i (Clock.wake config.priceUpdatesPerMinute) } []
  | ticked {i : Nat} {terminate : Bool} (hget : s.clocks[i]? = some ⟨.sending, terminate⟩) :
      Stepped sdk config s (.tick i)
        ({ s with clocks := s.clocks.set i ⟨.sleeping, terminate⟩ }.send .priceFeedBlockUpdatesTick)
        [.ticked i]
  | started {answers : Answers} {runloop : Runloop} {block : BlockIdentifier}
      {queue : List BridgeTenureCommand} (hrunloop : s.runloop = some runloop)
      (hqueue : s.queue = .startPriceFeedBlockUpdates block :: queue) :
      Stepped sdk config s (.handle answers) (Service.startBlock { s with queue } runloop)
        [.started block]
  | passed {answers : Answers} {runloop : Runloop} {command : BridgeTenureCommand}
      {queue : List BridgeTenureCommand} (hrunloop : s.runloop = some runloop)
      (hqueue : s.queue = command :: queue)
      (hcommand : ∀ block, command ≠ .startPriceFeedBlockUpdates block) :
      Stepped sdk config s (.handle answers) { s with queue } []
  | ended {answers : Answers} {runloop : Runloop} {command : BridgeTenureCommand}
      {queue : List BridgeTenureCommand} (hrunloop : s.runloop = some runloop)
      (hqueue : s.queue = command :: queue) :
      Stepped sdk config s (.handle answers) { s with queue, runloop := none } []
  | posted {answers : Answers} {runloop : Runloop} {queue : List BridgeTenureCommand}
      {transaction : sdk.Transaction} (hrunloop : s.runloop = some runloop)
      (hqueue : s.queue = .priceFeedBlockUpdatesTick :: queue)
      (hupdated : runloop.priceUpdated = false)
      (hsigned : SignedFor sdk config answers transaction) :
      Stepped sdk config s (.handle answers)
        { s with queue, runloop := some { runloop with priceUpdated := true } }
        [.posted transaction answers.postTransaction]

/-- Nothing is ever put into `rbf_tracking`. -/
def Service.Untracked (s : Service) : Prop := ∀ runloop, s.runloop = some runloop →
  runloop.rbfTracking = []

theorem computeTxFee_of_untracked (nonce : Nat) (estimate : Except String Nat) :
    ∃ txFee, computeTxFee [] nonce estimate = (txFee, []) ∧
      (estimate = .ok txFee ∨ (∃ message, estimate = .error message) ∧ txFee = 10000) := by
  cases estimate with
  | ok fee => exact ⟨fee, rfl, .inl rfl⟩
  | error message => exact ⟨10000, rfl, .inr ⟨⟨message, rfl⟩, rfl⟩⟩

/-- A submission with nothing tracked leaves nothing tracked. -/
theorem submitStacksTransaction_of_untracked {answers : Answers} {vaas : List (String × Buff)}
    (hfetch : fetchPythPriceFeeds sdk.base64Decode config.priceFeedsIds answers.response =
      .ok vaas) :
    (submitStacksTransaction sdk config answers vaas []).2 = [] ∧
      ∀ transaction answer, (submitStacksTransaction sdk config answers vaas []).1 =
        .posted transaction answer →
        answer = answers.postTransaction ∧ SignedFor sdk config answers transaction := by
  -- along the steps of the submission; each failure leaves `rbf_tracking` as it was
  unfold submitStacksTransaction
  cases hvalues : vaas.mapM fun vaa => sdk.buffFrom vaa.2 with
  | error message => exact ⟨rfl, nofun⟩
  | ok values =>
    dsimp only
    cases hargument : sdk.listFrom values with
    | error message => exact ⟨rfl, nofun⟩
    | ok argument =>
      dsimp only
      cases hnonce : answers.nonce with
      | error message => exact ⟨rfl, nofun⟩
      | ok nonce =>
        obtain ⟨txFee, hfee, hestimate⟩ :=
          computeTxFee_of_untracked nonce answers.estimateTransactionFee
        dsimp only
        rw [hfee]
        dsimp only
        split
        · exact ⟨rfl, nofun⟩
        · next transaction hsign =>
          refine ⟨rfl, fun _ _ heq => ?_⟩
          cases heq
          exact ⟨rfl, vaas, values, argument, nonce, txFee, hfetch, hvalues, hargument, hnonce,
            hestimate, hsign⟩

theorem handleTick_stepped {s : Service} (h : s.Untracked) {runloop : Runloop}
    (hrunloop : s.runloop = some runloop) {queue : List BridgeTenureCommand}
    (hqueue : s.queue = .priceFeedBlockUpdatesTick :: queue) (answers : Answers) :
    Stepped sdk config s (.handle answers)
      (Service.handleTick sdk config { s with queue } runloop answers).1
      (Service.handleTick sdk config { s with queue } runloop answers).2 := by
  have hpassed : Stepped sdk config s (.handle answers) { s with queue } [] :=
    .passed hrunloop hqueue nofun
  obtain ⟨rbfTracking, priceUpdated, clockStop⟩ := runloop
  obtain rfl : rbfTracking = [] := h _ hrunloop
  unfold Service.handleTick
  -- the second tick of a block is passed over
  cases priceUpdated with
  | true => exact hpassed
  | false =>
    rw [if_neg (show ¬ (false && !rbfEnabled) = true by decide)]
    cases hfetch : fetchPythPriceFeeds sdk.base64Decode config.priceFeedsIds answers.response with
    | error message => exact hpassed
    | ok vaas =>
      obtain ⟨huntracked, hposted⟩ := submitStacksTransaction_of_untracked hfetch
      dsimp only
      generalize submitStacksTransaction sdk config answers vaas [] = submission at *
      obtain ⟨submission, rbfTracking⟩ := submission
      obtain rfl : rbfTracking = [] := huntracked
      -- the three ends of a submission are three kinds of steps
      cases submission with
      | panicked => exact .ended hrunloop hqueue
      | failed message =>
        dsimp only
        rwa [← hrunloop]
      | posted transaction answer =>
        obtain ⟨rfl, hsigned⟩ := hposted transaction answer rfl
        exact .posted hrunloop hqueue rfl hsigned

/-- **What a step does.** -/
theorem react_stepped {s : Service} (h : s.Untracked) (action : Action) :
    Stepped sdk config s action (s.step sdk config action) (s.out sdk config action) := by
  unfold Service.step Service.out Service.react
  by_cases hexited : s.exited
  · rw [if_pos hexited]
    exact .idle
  · rw [if_neg hexited]
    cases action with
    | observe event =>
      dsimp only
      cases hcommand : observe config.startBlock event with
      | none => exact .idle
      | some command => exact .observed hcommand
    | observerClosed => exact .exits
    | wake i => exact .woken i
    | tick i =>
      dsimp only
      split
      · next hget => exact .ticked hget
      · exact .idle
    | handle answers =>
      show Stepped sdk config s (.handle answers) (s.handle sdk config answers).1
        (s.handle sdk config answers).2
      unfold Service.handle
      split
      · next runloop command queue hrunloop hqueue =>
        cases command with
        | startPriceFeedBlockUpdates block => exact .started hrunloop hqueue
        | priceFeedBlockUpdatesTick => exact handleTick_stepped h hrunloop hqueue answers
        | performPriceFeedMicroblockUpdate microblock => exact .passed hrunloop hqueue nofun
        | stopPriceFeedBlockUpdates => exact .ended hrunloop hqueue
      · exact .idle

/-! ## Blocks and transactions

Which block a transaction is for is read off the outputs: the one that was taken up last. -/

/-- The block a step reports to the observer: the latest one of new blocks or of a
reorganization, from the first block of the configuration on. -/
def reportedBlock (startBlock : Nat) : Action → Option BlockIdentifier
  | .observe (.stacksChainEvent (.chainUpdatedWithBlocks (some block))) =>
    if startBlock ≤ block.index then some block else none
  | .observe (.stacksChainEvent (.chainUpdatedWithReorg (some block))) =>
    if startBlock ≤ block.index then some block else none
  | _ => none

def BridgeTenureCommand.block? : BridgeTenureCommand → Option BlockIdentifier
  | .startPriceFeedBlockUpdates block => some block
  | _ => none

theorem observe_cases (startBlock : Nat) (event : ObserverEvent) :
    (observe startBlock event).bind BridgeTenureCommand.block? =
        reportedBlock startBlock (.observe event) ∧
      observe startBlock event ≠ some .priceFeedBlockUpdatesTick := by
  cases event with
  | terminate => exact ⟨rfl, nofun⟩
  | other => exact ⟨rfl, nofun⟩
  | stacksChainEvent chainEvent =>
    rcases chainEvent with (_ | block) | (_ | block) | (_ | block) | (_ | block)
    -- the two kinds of events that start a block, from the first one of the configuration on
    case chainUpdatedWithBlocks.some | chainUpdatedWithReorg.some =>
      simp only [observe, StacksChainEvent.getLatestBlockIdentifier, reportedBlock]
      by_cases hlt : block.index < startBlock
      · rw [if_pos hlt, if_neg (Nat.not_le.mpr hlt)]
        exact ⟨rfl, nofun⟩
      · rw [if_neg hlt, if_pos (Nat.le_of_not_lt hlt)]
        exact ⟨rfl, nofun⟩
    case chainUpdatedWithMicroblocks.some | chainUpdatedWithMicroblocksReorg.some =>
      simp only [observe, StacksChainEvent.getLatestBlockIdentifier, reportedBlock]
      split <;> exact ⟨rfl, nofun⟩
    all_goals exact ⟨rfl, nofun⟩

/-- The block each posted transaction is for: the one taken up last, if any was. -/
def postedFor (current : Option BlockIdentifier) : List (Output sdk) → List (Option BlockIdentifier)
  | [] => []
  | .started block :: outputs => postedFor (some block) outputs
  | .ticked _ :: outputs => postedFor current outputs
  | .posted _ _ :: outputs => current :: postedFor current outputs

/-- Before the first clock there are no ticks. -/
structure Service.Sound (s : Service) : Prop where
  untracked : s.Untracked
  noTicks : s.clocks = [] → .priceFeedBlockUpdatesTick ∉ s.queue

theorem Service.started_sound : Service.started.Sound where
  untracked := fun _ h => by cases h; rfl
  noTicks := fun _ h => nomatch h

theorem Service.send_of_running {s : Service} {runloop : Runloop} (h : s.runloop = some runloop)
    (command : BridgeTenureCommand) :
    s.send command = { s with queue := s.queue ++ [command] } := by
  rw [Service.send, h]

theorem Service.send_of_ended {s : Service} (h : s.runloop = none) (command : BridgeTenureCommand) :
    s.send command = s := by
  rw [Service.send, h]

@[simp] theorem Service.send_clocks (s : Service) (command : BridgeTenureCommand) :
    (s.send command).clocks = s.clocks := by
  unfold Service.send
  split <;> rfl

@[simp] theorem Service.send_runloop (s : Service) (command : BridgeTenureCommand) :
    (s.send command).runloop = s.runloop := by
  unfold Service.send
  split <;> rfl

theorem Service.mem_send {s : Service} {command c : BridgeTenureCommand}
    (h : c ∈ (s.send command).queue) : c ∈ s.queue ∨ c = command := by
  unfold Service.send at h
  split at h
  · exact .inl h
  · rcases List.mem_append.mp h with hmem | hmem
    · exact .inl hmem
    · exact .inr (List.mem_singleton.mp hmem)

theorem startBlock_clocks_ne_nil (s : Service) (runloop : Runloop) :
    (s.startBlock runloop).clocks ≠ [] :=
  List.append_ne_nil_of_right_ne_nil _ (List.cons_ne_nil _ _)

/-- A step keeps both: nothing is tracked, and there are no ticks without a clock. -/
theorem step_sound {s : Service} (h : s.Sound) (action : Action) :
    (s.step sdk config action).Sound := by
  have hstepped : Stepped sdk config s action _ _ := react_stepped h.untracked action
  generalize s.step sdk config action = t, s.out sdk config action = out at hstepped
  -- only a tick and a command could put a tick on the queue; a tick needs a clock
  cases hstepped with
  | idle => exact h
  | exits => exact ⟨h.untracked, h.noTicks⟩
  | @observed event command hcommand =>
    refine ⟨fun runloop hrunloop => h.untracked runloop ?_, fun hclocks hmem => ?_⟩
    · rwa [Service.send_runloop] at hrunloop
    · rw [Service.send_clocks] at hclocks
      rcases Service.mem_send hmem with hmem | heq
      · exact h.noTicks hclocks hmem
      · exact (observe_cases config.startBlock event).2 (heq ▸ hcommand)
  | woken i =>
    refine ⟨h.untracked, fun hclocks => h.noTicks ?_⟩
    exact List.modify_eq_nil_iff.mp hclocks
  | ticked hget =>
    refine ⟨fun runloop hrunloop => h.untracked runloop ?_, fun hclocks => ?_⟩
    · rwa [Service.send_runloop] at hrunloop
    · rw [Service.send_clocks] at hclocks
      rw [(List.set_eq_nil_iff _ _).mp hclocks] at hget
      exact nomatch hget
  | @started answers runloop block queue hrunloop hqueue =>
    refine ⟨fun _ heq => ?_, fun hclocks => absurd hclocks (startBlock_clocks_ne_nil _ _)⟩
    cases heq
    exact h.untracked runloop hrunloop
  | passed hrunloop hqueue =>
    refine ⟨h.untracked, fun hclocks hmem => h.noTicks hclocks ?_⟩
    rw [hqueue]
    exact .tail _ hmem
  | ended hrunloop hqueue =>
    refine ⟨nofun, fun hclocks hmem => h.noTicks hclocks ?_⟩
    rw [hqueue]
    exact .tail _ hmem
  | @posted answers runloop queue transaction hrunloop hqueue =>
    refine ⟨fun _ heq => ?_, fun hclocks hmem => h.noTicks hclocks ?_⟩
    · cases heq
      exact h.untracked runloop hrunloop
    · rw [hqueue]
      exact .tail _ hmem

/-- The blocks that a transaction may still be posted for: the current one, unless it has been,
and those on the queue. -/
def Service.credit (s : Service) (current : Option BlockIdentifier) :
    List (Option BlockIdentifier) :=
  match s.runloop with
  | none => []
  | some runloop =>
    (if runloop.priceUpdated = false ∧ s.clocks ≠ [] then [current] else []) ++
      (s.queue.filterMap BridgeTenureCommand.block?).map some

theorem Service.credit_of_running {s : Service} {runloop : Runloop}
    (h : s.runloop = some runloop) (current : Option BlockIdentifier) :
    s.credit current =
      (if runloop.priceUpdated = false ∧ s.clocks ≠ [] then [current] else []) ++
        (s.queue.filterMap BridgeTenureCommand.block?).map some := by
  rw [Service.credit, h]

/-- Of the clocks the credit only depends on whether there is one. -/
theorem Service.credit_withClocks {s : Service} {clocks : List Clock}
    (h : clocks = [] ↔ s.clocks = []) (current : Option BlockIdentifier) :
    Service.credit { s with clocks } current = s.credit current := by
  simp only [Service.credit, ne_eq, h]

/-- A command brings the credit of its block, if it has one. -/
theorem Service.credit_send (s : Service) (command : BridgeTenureCommand)
    (current : Option BlockIdentifier) :
    (s.send command).credit current <+ s.credit current ++ command.block?.toList.map some := by
  cases hrunloop : s.runloop with
  | none =>
    rw [Service.send_of_ended hrunloop]
    exact List.sublist_append_left _ _
  | some runloop =>
    have hsent : (s.send command).runloop = some runloop := by rwa [Service.send_runloop]
    rw [Service.credit_of_running hsent, Service.credit_of_running hrunloop,
      Service.send_of_running hrunloop, List.append_assoc, ← List.map_append,
      List.filterMap_append]
    cases command <;> exact List.Sublist.refl _

/-- One step: the transaction it posts uses up the credit of its block, and new credit comes from
reported blocks only. -/
theorem step_credit (sdk : StacksSdk) (config : Config) {s : Service} (h : s.Sound)
    (action : Action) (current : Option BlockIdentifier) :
    ∃ posted next, (∀ rest, postedFor current (s.out sdk config action ++ rest) =
        posted ++ postedFor next rest) ∧
      posted ++ (s.step sdk config action).credit next <+
        s.credit current ++ (reportedBlock config.startBlock action).toList.map some := by
  have hstepped : Stepped sdk config s action _ _ := react_stepped h.untracked action
  generalize s.step sdk config action = t, s.out sdk config action = out at hstepped
  -- no kind of step but `observed` has a block to report
  cases hstepped with
  | idle => exact ⟨[], current, fun _ => rfl, List.sublist_append_left _ _⟩
  | exits => exact ⟨[], current, fun _ => rfl, List.sublist_append_left _ _⟩
  | @observed event command hcommand =>
    refine ⟨[], current, fun _ => rfl, ?_⟩
    rw [← (observe_cases config.startBlock event).1, hcommand]
    exact s.credit_send command current
  | woken i =>
    refine ⟨[], current, fun _ => rfl, .trans ?_ (List.sublist_append_left _ _)⟩
    simpa only [List.nil_append, Service.credit_withClocks List.modify_eq_nil_iff] using
      List.Sublist.refl (s.credit current)
  | ticked hget =>
    refine ⟨[], current, fun _ => rfl, .trans (Service.credit_send _ _ _) ?_⟩
    rw [Service.credit_withClocks (List.set_eq_nil_iff _ _)]
    exact List.Sublist.refl _
  -- the credit of the old block is dropped, and that of the new one moves off the queue
  | @started answers runloop block queue hrunloop hqueue =>
    refine ⟨[], some block, fun _ => rfl, .trans ?_ (List.sublist_append_left _ _)⟩
    have hstarted : (Service.startBlock { s with queue } runloop).runloop = some _ := rfl
    rw [Service.credit_of_running hstarted, Service.credit_of_running hrunloop, hqueue,
      if_pos ⟨rfl, startBlock_clocks_ne_nil _ _⟩]
    exact List.sublist_append_right _ _
  | @passed answers runloop command queue hrunloop hqueue hcommand =>
    refine ⟨[], current, fun _ => rfl, .trans ?_ (List.sublist_append_left _ _)⟩
    have hpassed : Service.runloop { s with queue } = some runloop := hrunloop
    rw [Service.credit_of_running hpassed, Service.credit_of_running hrunloop, hqueue]
    exact List.Sublist.append_left
      (List.Sublist.map _ (List.Sublist.filterMap _ (List.sublist_cons_self _ _))) _
  | ended hrunloop hqueue => exact ⟨[], current, fun _ => rfl, List.nil_sublist _⟩
  | @posted answers runloop queue transaction hrunloop hqueue hupdated =>
    -- a tick is on the queue, so there is a clock and the current block has its credit
    have hclocks : s.clocks ≠ [] := fun hnil =>
      h.noTicks hnil (by rw [hqueue]; exact List.mem_cons_self)
    refine ⟨[current], current, fun _ => rfl, .trans ?_ (List.sublist_append_left _ _)⟩
    rw [Service.credit_of_running rfl, Service.credit_of_running hrunloop, hqueue,
      if_neg (fun hopen => nomatch hopen.1), if_pos ⟨hupdated, hclocks⟩]
    exact List.Sublist.refl _

/-- The run of the service, and what it puts out. -/
def serviceAfter (sdk : StacksSdk) (config : Config) (actions : List Action) : Service :=
  afterRun (Service.step sdk config) .started actions

def trace (sdk : StacksSdk) (config : Config) (actions : List Action) : List (Output sdk) :=
  outputs (Service.step sdk config) (Service.out sdk config) .started actions

theorem serviceAfter_sound (sdk : StacksSdk) (config : Config) (actions : List Action) :
    (serviceAfter sdk config actions).Sound := by
  refine afterRun_invariant (P := Service.Sound) ?_ Service.started_sound
  intro s action _ h
  exact step_sound h action

/-- What a step posts it has signed while it handled a tick. -/
theorem signedFor_of_step {s : Service} (h : s.Sound) {action : Action}
    {transaction : sdk.Transaction} {answer : Except String String}
    (hposted : .posted transaction answer ∈ s.out sdk config action) :
    ∃ answers, action = .handle answers ∧ answer = answers.postTransaction ∧
      SignedFor sdk config answers transaction := by
  have hstepped : Stepped sdk config s action _ _ := react_stepped h.untracked action
  generalize s.step sdk config action = t, s.out sdk config action = out at hstepped hposted
  cases hstepped with
  | @posted answers _ _ _ _ _ _ hsigned =>
    cases List.mem_singleton.mp hposted
    exact ⟨answers, rfl, rfl, hsigned⟩
  | ticked => exact nomatch List.mem_singleton.mp hposted
  | started => exact nomatch List.mem_singleton.mp hposted
  | _ => exact nomatch hposted

/-- **Transactions follow blocks.** In every order of the threads' steps, every transaction is
posted for a block that the chain reported, in the order of the reports, and no report gets two; a
block that is reported twice can get two. Nothing is posted before the first block, or for a
microblock or a block below the first one of the configuration. The fee is the estimated one or the
default, never a raised one. -/
theorem posts_follow_blocks (sdk : StacksSdk) (config : Config) (actions : List Action) :
    postedFor none (trace sdk config actions) <+
        (actions.filterMap (reportedBlock config.startBlock)).map some ∧
      ∀ transaction answer, .posted transaction answer ∈ trace sdk config actions →
        ∃ answers, .handle answers ∈ actions ∧ answer = answers.postTransaction ∧
          SignedFor sdk config answers transaction := by
  -- induction on the actions, from any sound state with its credit
  have hrun : ∀ {s : Service}, s.Sound → ∀ current,
      postedFor current (outputs (Service.step sdk config) (Service.out sdk config) s actions) <+
        s.credit current ++ (actions.filterMap (reportedBlock config.startBlock)).map some := by
    induction actions with
    | nil => exact fun _ _ => List.nil_sublist _
    | cons action actions ih =>
      intro s h current
      obtain ⟨posted, next, houtputs, hcredit⟩ := step_credit sdk config h action current
      have hsound : (s.step sdk config action).Sound := step_sound h action
      have hrest := ih hsound next
      show postedFor current (s.out sdk config action ++ _) <+ _
      rw [houtputs]
      refine .trans (List.Sublist.append_left hrest posted) ?_
      -- what the step posts, what it leaves, and what is reported later
      rw [← List.append_assoc]
      refine .trans (List.Sublist.append_right hcredit _) ?_
      rw [List.append_assoc, ← List.map_append, List.filterMap_cons]
      cases reportedBlock config.startBlock action <;> exact List.Sublist.refl _
  refine ⟨hrun Service.started_sound none, fun transaction answer hposted => ?_⟩
  obtain ⟨before, action, after, rfl, hout⟩ := exists_step_of_mem_outputs hposted
  obtain ⟨answers, rfl, hanswer, hsigned⟩ :=
    signedFor_of_step (serviceAfter_sound sdk config before) hout
  exact ⟨answers, List.mem_append_right _ List.mem_cons_self, hanswer, hsigned⟩

/-! ## A run

Two blocks, the second of which is posted for on a tick of the first one's clock. -/

/-- A library that encodes and signs everything. -/
def StacksSdk.reference : StacksSdk where
  Value := List Buff
  Transaction := Nat × Nat
  base64Decode feed := .ok (asciiBytes feed)
  buffFrom buff := .ok [buff]
  listFrom values := .ok values.flatten
  signTransactionPayload _ _ nonce txFee _ := .ok (nonce, txFee)

def sampleConfig : Config where
  priceFeedsIds := ["btc"]
  pythOracleContractAddress := .contract ⟨26, []⟩ (asciiBytes "pyth-p2wh-decoder-v1")
  wallet := ⟨"", "", false⟩
  startBlock := 10
  priceUpdatesPerMinute := 30

def sampleAnswers : Answers where
  response := .ok ["vaa"]
  nonce := .ok 7
  estimateTransactionFee := .error "no estimate"
  postTransaction := .error "refused"

def sampleBlock (index : Nat) : Action :=
  .observe (.stacksChainEvent (.chainUpdatedWithBlocks (some ⟨index, ""⟩)))

/-- Block 9 is below the first one. Block 10 gets one transaction for two ticks, although the node
refuses it, and block 11 the next, on a tick of the clock of block 10. -/
example :
    trace .reference sampleConfig [sampleBlock 9, sampleBlock 10, .handle sampleAnswers,
        .wake 0, .tick 0, .wake 0, .tick 0, .handle sampleAnswers, .handle sampleAnswers,
        .wake 0, sampleBlock 11, .handle sampleAnswers, .tick 0, .handle sampleAnswers] =
      [.started ⟨10, ""⟩, .ticked 0, .ticked 0, .posted (7, 10000) (.error "refused"),
        .started ⟨11, ""⟩, .ticked 0, .posted (7, 10000) (.error "refused")] := by
  rfl

end PythBridge.Relayer
