import PythBridge.Clarity.Principal
import PythBridge.Clarity.Runs

/-!
# The relayer — the bridge service

`start_bridge_service` runs three kinds of threads. The observer turns what the chain reports into
commands on one queue. The run loop takes the commands off it: a new block stops the clock of the
block before and starts a clock of its own, and a tick of a clock fetches the prices and posts
them, unless this has been done for the block already. A clock puts ticks on the queue until it is
told to terminate.

The threads take their steps in any order; how long a clock sleeps is left out, so it may wake up
at any time. `react` is one step and what it puts out.

Everything that the threads share is in `Service`: the queue, the clocks with their channels, and
the variables of the run loop. A step belongs to one thread and is as coarse as the thread's own
code between two places where it waits, so a tick that is handled with its fetch, its signature and
its post is one step. What the price service, the node and the signing library answer is an argument
of the step, and may differ from step to step.

A thread that panics is gone, with its end of the channels. Nothing in the service notices, except
that what is sent to it is lost.
-/

namespace PythBridge.Relayer

open Clarity

/-! ## The chain's events

The observer, as a function from events to commands. Reorganizations and new blocks are treated
alike, and a microblock is passed on to be ignored. -/

structure BlockIdentifier where
  index : Nat
  hash : String
deriving DecidableEq, Repr

/-- The events of the chain, each with its latest block, if it has one. -/
inductive StacksChainEvent where
  | chainUpdatedWithBlocks (latest : Option BlockIdentifier)
  | chainUpdatedWithReorg (latest : Option BlockIdentifier)
  | chainUpdatedWithMicroblocks (latest : Option BlockIdentifier)
  | chainUpdatedWithMicroblocksReorg (latest : Option BlockIdentifier)
deriving DecidableEq, Repr

def StacksChainEvent.getLatestBlockIdentifier : StacksChainEvent → Option BlockIdentifier
  | .chainUpdatedWithBlocks latest => latest
  | .chainUpdatedWithReorg latest => latest
  | .chainUpdatedWithMicroblocks latest => latest
  | .chainUpdatedWithMicroblocksReorg latest => latest

inductive ObserverEvent where
  | stacksChainEvent (chainEvent : StacksChainEvent)
  | terminate
  | other
deriving DecidableEq, Repr

inductive BridgeTenureCommand where
  | startPriceFeedBlockUpdates (block : BlockIdentifier)
  | priceFeedBlockUpdatesTick
  | performPriceFeedMicroblockUpdate (microblock : BlockIdentifier)
  | stopPriceFeedBlockUpdates
deriving DecidableEq, Repr

/-- The observer's loop: the command it sends for an event, if it sends one. -/
def observe (startBlock : Nat) : ObserverEvent → Option BridgeTenureCommand
  | .stacksChainEvent chainEvent =>
    match chainEvent.getLatestBlockIdentifier with
    | none => none
    | some newBlockIdentifier =>
      if newBlockIdentifier.index < startBlock then none
      else
        let (_reorg, microblocksInProgress) := match chainEvent with
          | .chainUpdatedWithBlocks _ => (false, false)
          | .chainUpdatedWithReorg _ => (true, false)
          | .chainUpdatedWithMicroblocks _ => (false, true)
          | .chainUpdatedWithMicroblocksReorg _ => (true, true)
        if microblocksInProgress then
          some (.performPriceFeedMicroblockUpdate newBlockIdentifier)
        else some (.startPriceFeedBlockUpdates newBlockIdentifier)
  | .terminate => some .stopPriceFeedBlockUpdates
  | .other => none

/-! ## Price feeds

The answers of the price service and the ids of the configuration are two lists, and the code zips
them. -/

/-- `fetch_pyth_price_feeds`, for what the price service answers. Answers and ids are zipped: what
one of the lists has too many is left out. -/
def fetchPythPriceFeeds (decode : String → Except String Buff) (priceFeedsIds : List String)
    (response : Except String (List String)) : Except String (List (String × Buff)) := do
  let response ← response
  (response.zip priceFeedsIds).mapM fun (priceFeed, priceFeedId) => do
    let vaa ← (decode priceFeed).mapError ("unable to decode price feed: " ++ ·)
    pure (priceFeedId, vaa)

/-! ## Transactions

What is posted, and the fee it is posted with. The replacement of a transaction by one with a higher
fee is written down in `computeTxFee`, with `rbf_tracking` as the fees per nonce. -/

structure Wallet where
  mnemonic : String
  derivation : String
  mainnet : Bool
deriving DecidableEq, Repr

inductive TransactionAnchorMode where
  | onChainOnly | offChainOnly | any
deriving DecidableEq, Repr

structure TransactionContractCall (α : Type) where
  contract : Principal
  functionName : String
  functionArgs : List α
deriving DecidableEq, Repr

/-- The functions of the Stacks libraries the relayer calls, and base64. -/
structure StacksSdk where
  Value : Type
  Transaction : Type
  base64Decode : String → Except String Buff
  buffFrom : Buff → Except String Value
  listFrom : List Value → Except String Value
  signTransactionPayload : Wallet → TransactionContractCall Value → (nonce txFee : Nat) →
    TransactionAnchorMode → Except String Transaction

/-- The part of the configuration the service reads. -/
structure Config where
  priceFeedsIds : List String
  pythOracleContractAddress : Principal
  wallet : Wallet
  startBlock : Nat
  priceUpdatesPerMinute : Nat

/-- What the price service and the Stacks node answer while one tick is handled. -/
structure Answers where
  response : Except String (List String)
  nonce : Except String Nat
  estimateTransactionFee : Except String Nat
  postTransaction : Except String String

variable (sdk : StacksSdk) (config : Config)

/-- What comes of a submission: a panic, an error before anything is posted, or a transaction and
what the node answered. -/
inductive Submission where
  | panicked
  | failed (message : String)
  | posted (transaction : sdk.Transaction) (answer : Except String String)

/-- `tx_fee`, and `rbf_tracking` after it is computed. -/
def computeTxFee (rbfTracking : List (Nat × Nat)) (nonce : Nat)
    (estimateTransactionFee : Except String Nat) : Nat × List (Nat × Nat) :=
  match rbfTracking.lookup nonce with
  -- a transaction of this nonce was tracked, so its fee is raised
  | some submittedTxFee => (submittedTxFee + 10, rbfTracking)
  | none =>
    match estimateTransactionFee with
    | .ok fee => (fee, [])
    | .error _ => (10000, [])

/-- `submit_stacks_transaction`, and `rbf_tracking` after it. The answer of the node to a posted
transaction is logged only: a refused transaction is a submitted one. -/
def submitStacksTransaction (answers : Answers) (vaas : List (String × Buff))
    (rbfTracking : List (Nat × Nat)) : Submission sdk × List (Nat × Nat) :=
  match vaas.mapM fun vaa => sdk.buffFrom vaa.2 with
  | .error message => (.failed message, rbfTracking)
  | .ok encodedVaas =>
    match sdk.listFrom encodedVaas with
    | .error message => (.failed message, rbfTracking)
    | .ok encodedVaasList =>
      match answers.nonce with
      | .error _ => (.panicked, rbfTracking)
      | .ok nonce =>
        let transactionPayload : TransactionContractCall sdk.Value := {
          contract := config.pythOracleContractAddress
          functionName := "update-prices-feeds"
          functionArgs := [encodedVaasList] }
        let (txFee, rbfTracking) := computeTxFee rbfTracking nonce answers.estimateTransactionFee
        match sdk.signTransactionPayload config.wallet transactionPayload nonce txFee
            .onChainOnly with
        | .error message => (.failed message, rbfTracking)
        | .ok transaction => (.posted transaction answers.postTransaction, rbfTracking)

/-! ## The threads

The state of the service, and one step of each of the threads. -/

inductive ClockPhase where
  | sleeping | sending | ended
deriving DecidableEq, Repr

/-- A clock thread, and whether its channel holds `Terminate`. -/
structure Clock where
  phase : ClockPhase
  terminate : Bool
deriving DecidableEq, Repr

/-- The variables of the run loop; `clockStop` is the place of the clock in `Service.clocks`. -/
structure Runloop where
  rbfTracking : List (Nat × Nat)
  priceUpdated : Bool
  clockStop : Option Nat
deriving DecidableEq, Repr

def rbfEnabled : Bool := false

/-- The service: the queue, the clocks in the order they were started, and the run loop, `none`
once it has ended. -/
structure Service where
  exited : Bool
  queue : List BridgeTenureCommand
  clocks : List Clock
  runloop : Option Runloop
deriving DecidableEq, Repr

def Service.started : Service where
  exited := false
  queue := []
  clocks := []
  runloop := some ⟨[], false, none⟩

/-- Puts a command on the queue. Nothing is kept once its receiver is gone. -/
def Service.send (s : Service) (command : BridgeTenureCommand) : Service :=
  match s.runloop with
  | none => s
  | some _ => { s with queue := s.queue ++ [command] }

/-- One step of one of the threads. -/
inductive Action where
  | observe (event : ObserverEvent)
  | observerClosed
  | wake (clock : Nat)
  | tick (clock : Nat)
  | handle (answers : Answers)

/-- What a step puts out: a block is taken up, a clock ticks, or a transaction is posted. -/
inductive Output where
  | started (block : BlockIdentifier)
  | ticked (clock : Nat)
  | posted (transaction : sdk.Transaction) (answer : Except String String)

/-- A clock wakes up. The duration of its sleep is `60 / updates_per_min` seconds, a panic
when that is zero. -/
def Clock.wake (updatesPerMin : Nat) (clock : Clock) : Clock :=
  match clock.phase with
  -- the division comes first, then the look for `Terminate`
  | .sleeping =>
    if updatesPerMin = 0 then { clock with phase := .ended }
    else if clock.terminate then { clock with phase := .ended }
    else { clock with phase := .sending }
  | _ => clock

/-- The run loop takes up a block. -/
def Service.startBlock (s : Service) (runloop : Runloop) : Service :=
  -- `Terminate` goes to the clock of the block before, if there was one
  let clocks := match runloop.clockStop with
    | none => s.clocks
    | some previousClock =>
      s.clocks.modify previousClock fun clock => { clock with terminate := true }
  { s with
    clocks := clocks ++ [⟨.sleeping, false⟩]
    runloop := some { runloop with priceUpdated := false, clockStop := some s.clocks.length } }

/-- The run loop handles a tick. -/
def Service.handleTick (s : Service) (runloop : Runloop) (answers : Answers) :
    Service × List (Output sdk) :=
  -- the second tick of a block, as `rbf_enabled` is false
  if runloop.priceUpdated && !rbfEnabled then (s, [])
  else
    match fetchPythPriceFeeds sdk.base64Decode config.priceFeedsIds answers.response with
    | .error _ => (s, [])
    | .ok vaas =>
      match submitStacksTransaction sdk config answers vaas runloop.rbfTracking with
      | (.panicked, _) => ({ s with runloop := none }, [])
      | (.failed _, rbfTracking) => ({ s with runloop := some { runloop with rbfTracking } }, [])
      | (.posted transaction answer, rbfTracking) =>
        ({ s with runloop := some { runloop with rbfTracking, priceUpdated := true } },
          [.posted transaction answer])

/-- The run loop handles the next command. -/
def Service.handle (s : Service) (answers : Answers) : Service × List (Output sdk) :=
  match s.runloop, s.queue with
  | some runloop, command :: queue =>
    let s := { s with queue }
    match command with
    | .startPriceFeedBlockUpdates block => (s.startBlock runloop, [.started block])
    | .priceFeedBlockUpdatesTick => s.handleTick sdk config runloop answers
    | .performPriceFeedMicroblockUpdate _ => (s, [])
    | .stopPriceFeedBlockUpdates => ({ s with runloop := none }, [])
  | _, _ => (s, [])

/-- One step. When the observer's channel is closed the service returns, which ends the process. -/
def Service.react (s : Service) (action : Action) : Service × List (Output sdk) :=
  if s.exited then (s, [])
  else
    match action with
    | .observe event =>
      match Relayer.observe config.startBlock event with
      | none => (s, [])
      | some command => (s.send command, [])
    | .observerClosed => ({ s with exited := true }, [])
    | .wake clock =>
      ({ s with clocks := s.clocks.modify clock (Clock.wake config.priceUpdatesPerMinute) }, [])
    -- the tick of a clock that is not sending is no step
    | .tick i =>
      match s.clocks[i]? with
      | some ⟨.sending, terminate⟩ =>
        ({ s with clocks := s.clocks.set i ⟨.sleeping, terminate⟩ }.send
          .priceFeedBlockUpdatesTick, [.ticked i])
      | _ => (s, [])
    | .handle answers => s.handle sdk config answers

def Service.step (s : Service) (action : Action) : Service := (s.react sdk config action).1

def Service.out (s : Service) (action : Action) : List (Output sdk) :=
  (s.react sdk config action).2

end PythBridge.Relayer
