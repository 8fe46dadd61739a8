import PythBridge.Clarity.Runs
import PythBridge.Wormhole.Core
import PythBridge.Pyth.Store
import PythBridge.Pyth.Decoder
import PythBridge.Pyth.Oracle

/-!
# The composed system

The five contracts in one world with arbitrary other contracts. Every public and read-only
function is a `Call`. A contract outside the repository is a `Script` for each trait method:
it may look at everything, keep storage of its own, move STX it is entitled to move, make
any calls in any order, and return anything. `vm` decides which code a trait argument runs.

Two rules of the VM bound what a callee can do to its caller: calls nest to a limited depth,
and a function that is still running cannot be entered again (`stack` holds the functions
that are running).

The point of modelling foreign code at all is that trait arguments let anybody choose it. A wormhole
contract of the caller's making runs in the middle of an update, and may call the oracle, the store
or the same update again before it returns. Theorems about the system are therefore about every
`ForeignCode`, every depth and every stack; what the five contracts guarantee among themselves holds
against all of it.

* **`Call`, `Call.body`** — the functions of the repository, and what each of them runs.
* **`Script`, `Script.run`** — foreign code, which cannot pass for one of the five contracts.
* **`vm`, `exec`** — dispatch on trait arguments, and one call.
* **`World.step`, `Reachable`** — transactions in any order, with anything else on the chain between
  them.
-/

namespace PythBridge

open Clarity

/-! ## Calls

Names, arguments and results of the public and read-only functions, contract by contract. -/

/-- A call of a function of the repository with its arguments. -/
inductive Call where
  -- `wormhole-core-v2`
  | parseVaa (vaaBytes : Buff)
  | parseAndVerifyVaa (vaaBytes : Buff)
  | updateGuardiansSet (guardianSetVaa : Buff) (uncompressedPublicKeys : List Buff)
  | getActiveGuardianSet
  -- `pyth-governance-v1`
  | checkExecutionFlow (formerContractCaller : Principal)
      (executionPlanOpt : Option ExecutionPlanArg)
  | checkStorageContract (storageContract : Principal)
  | getCurrentExecutionPlan
  | getFeeInfo
  | getStalePriceThreshold
  | getAuthorizedPricesDataSources
  | updateFeeValue (vaaBytes : Buff) (wormholeCoreContract : Principal)
  | updateStalePriceThreshold (vaaBytes : Buff) (wormholeCoreContract : Principal)
  | updateFeeRecipientAddress (vaaBytes : Buff) (wormholeCoreContract : Principal)
  | updateWormholeCoreContract (vaaBytes : Buff) (wormholeCoreContract : Principal)
  | updatePythOracleContract (vaaBytes : Buff) (wormholeCoreContract : Principal)
  | updatePythDecoderContract (vaaBytes : Buff) (wormholeCoreContract : Principal)
  | updatePythStoreContract (vaaBytes : Buff) (wormholeCoreContract : Principal)
  | updatePricesDataSources (vaaBytes : Buff) (wormholeCoreContract : Principal)
  | updateGovernanceDataSource (vaaBytes : Buff) (wormholeCoreContract : Principal)
  -- `pyth-pnau-decoder-v1`
  | decodeAndVerifyPriceFeeds (pnauBytes : Buff) (wormholeCoreAddress : Principal)
  -- `pyth-store-v1`
  | read (priceIdentifier : Buff)
  | write (batchUpdates : List PriceUpdate)
  -- `pyth-oracle-v2`
  | readPriceFeed (priceFeedId : Buff) (pythStorageAddress : Principal)
  | verifyAndUpdatePriceFeeds (priceFeedBytes : Buff) (executionPlan : ExecutionPlanArg)
  | decodePriceFeeds (priceFeedBytes : Buff) (executionPlan : ExecutionPlanArg)
deriving DecidableEq, Repr

/-- What these functions return. -/
inductive Reply where
  | parsedVaa (value : WormholeCore.ParsedVaa)
  | vaa (value : Vaa)
  | guardiansSetUpdated (value : WormholeCore.GuardiansSetUpdated)
  | activeGuardianSet (value : WormholeCore.ActiveGuardianSet)
  | bool (value : Bool)
  | executionPlan (value : ExecutionPlan)
  | feeInfo (value : Governance.FeeInfo)
  | uint (value : Nat)
  | dataSources (value : List DataSource)
  | feeValue (value : Governance.FeeValue)
  | principal (value : Principal)
  | dataSource (value : DataSource)
  | priceRecord (value : PriceRecord)
  | priceUpdates (value : List PriceUpdate)
deriving DecidableEq, Repr

/-- The functions without their arguments. -/
inductive FunctionName where
  | parseVaa | parseAndVerifyVaa | updateGuardiansSet | getActiveGuardianSet
  | checkExecutionFlow | checkStorageContract | getCurrentExecutionPlan | getFeeInfo
  | getStalePriceThreshold | getAuthorizedPricesDataSources
  | updateFeeValue | updateStalePriceThreshold | updateFeeRecipientAddress
  | updateWormholeCoreContract | updatePythOracleContract | updatePythDecoderContract
  | updatePythStoreContract | updatePricesDataSources | updateGovernanceDataSource
  | decodeAndVerifyPriceFeeds | read | write
  | readPriceFeed | verifyAndUpdatePriceFeeds | decodePriceFeeds
deriving DecidableEq, Repr

/-- A function of a contract: what cannot be entered twice at a time. -/
abbrev FunctionId := Principal × FunctionName

/-- The function that a call enters. -/
def Call.functionId (pf : Platform) : Call → FunctionId
  | .parseVaa _ => (pf.wormholeCoreV2, .parseVaa)
  | .parseAndVerifyVaa _ => (pf.wormholeCoreV2, .parseAndVerifyVaa)
  | .updateGuardiansSet _ _ => (pf.wormholeCoreV2, .updateGuardiansSet)
  | .getActiveGuardianSet => (pf.wormholeCoreV2, .getActiveGuardianSet)
  | .checkExecutionFlow _ _ => (pf.pythGovernanceV1, .checkExecutionFlow)
  | .checkStorageContract _ => (pf.pythGovernanceV1, .checkStorageContract)
  | .getCurrentExecutionPlan => (pf.pythGovernanceV1, .getCurrentExecutionPlan)
  | .getFeeInfo => (pf.pythGovernanceV1, .getFeeInfo)
  | .getStalePriceThreshold => (pf.pythGovernanceV1, .getStalePriceThreshold)
  | .getAuthorizedPricesDataSources => (pf.pythGovernanceV1, .getAuthorizedPricesDataSources)
  | .updateFeeValue _ _ => (pf.pythGovernanceV1, .updateFeeValue)
  | .updateStalePriceThreshold _ _ => (pf.pythGovernanceV1, .updateStalePriceThreshold)
  | .updateFeeRecipientAddress _ _ => (pf.pythGovernanceV1, .updateFeeRecipientAddress)
  | .updateWormholeCoreContract _ _ => (pf.pythGovernanceV1, .updateWormholeCoreContract)
  | .updatePythOracleContract _ _ => (pf.pythGovernanceV1, .updatePythOracleContract)
  | .updatePythDecoderContract _ _ => (pf.pythGovernanceV1, .updatePythDecoderContract)
  | .updatePythStoreContract _ _ => (pf.pythGovernanceV1, .updatePythStoreContract)
  | .updatePricesDataSources _ _ => (pf.pythGovernanceV1, .updatePricesDataSources)
  | .updateGovernanceDataSource _ _ => (pf.pythGovernanceV1, .updateGovernanceDataSource)
  | .decodeAndVerifyPriceFeeds _ _ => (pf.pythPnauDecoderV1, .decodeAndVerifyPriceFeeds)
  | .read _ => (pf.pythStoreV1, .read)
  | .write _ => (pf.pythStoreV1, .write)
  | .readPriceFeed _ _ => (pf.pythOracleV2, .readPriceFeed)
  | .verifyAndUpdatePriceFeeds _ _ => (pf.pythOracleV2, .verifyAndUpdatePriceFeeds)
  | .decodePriceFeeds _ _ => (pf.pythOracleV2, .decodePriceFeeds)

section Functions

variable (pf : Platform) {φ : Type}

/-- The body a call runs. `contractCaller` is the immediate caller. -/
def Call.body (vm : Dispatch (World φ)) (env : TxEnv) (contractCaller : Principal) :
    Call → Contract (World φ) Reply
  | .parseVaa vaaBytes => do
    let value ← .lift (WormholeCore.parseVaa pf vaaBytes)
    pure (.parsedVaa value)
  | .parseAndVerifyVaa vaaBytes => do
    let value ← .readOnly fun w => WormholeCore.parseAndVerifyVaa pf w.wormhole vaaBytes
    pure (.vaa value)
  | .updateGuardiansSet guardianSetVaa uncompressedPublicKeys => do
    let value ← World.onWormhole
      (WormholeCore.updateGuardiansSet pf guardianSetVaa uncompressedPublicKeys)
    pure (.guardiansSetUpdated value)
  | .getActiveGuardianSet => do
    let value ← .readOnly fun w => WormholeCore.getActiveGuardianSet w.wormhole
    pure (.activeGuardianSet value)
  | .checkExecutionFlow formerContractCaller executionPlanOpt => do
    let value ← .readOnly fun w => Governance.checkExecutionFlow w.governance contractCaller
      formerContractCaller executionPlanOpt
    pure (.bool value)
  | .checkStorageContract storageContract => do
    let value ← .readOnly fun w => Governance.checkStorageContract w.governance storageContract
    pure (.bool value)
  | .getCurrentExecutionPlan => do
    let value ← .gets fun w => Governance.getCurrentExecutionPlan w.governance
    pure (.executionPlan value)
  | .getFeeInfo => do
    let value ← .gets fun w => Governance.getFeeInfo w.governance
    pure (.feeInfo value)
  | .getStalePriceThreshold => do
    let value ← .gets fun w => Governance.getStalePriceThreshold w.governance
    pure (.uint value)
  | .getAuthorizedPricesDataSources => do
    let value ← .gets fun w => Governance.getAuthorizedPricesDataSources w.governance
    pure (.dataSources value)
  | .updateFeeValue vaaBytes wormholeCoreContract => do
    let value ← Governance.updateFeeValue pf vm vaaBytes wormholeCoreContract
    pure (.feeValue value)
  | .updateStalePriceThreshold vaaBytes wormholeCoreContract => do
    let value ← Governance.updateStalePriceThreshold pf vm vaaBytes wormholeCoreContract
    pure (.uint value)
  | .updateFeeRecipientAddress vaaBytes wormholeCoreContract => do
    let value ← Governance.updateFeeRecipientAddress pf vm vaaBytes wormholeCoreContract
    pure (.principal value)
  | .updateWormholeCoreContract vaaBytes wormholeCoreContract => do
    let value ← Governance.updateWormholeCoreContract pf vm vaaBytes wormholeCoreContract
    pure (.executionPlan value)
  | .updatePythOracleContract vaaBytes wormholeCoreContract => do
    let value ← Governance.updatePythOracleContract pf vm vaaBytes wormholeCoreContract
    pure (.executionPlan value)
  | .updatePythDecoderContract vaaBytes wormholeCoreContract => do
    let value ← Governance.updatePythDecoderContract pf vm vaaBytes wormholeCoreContract
    pure (.executionPlan value)
  | .updatePythStoreContract vaaBytes wormholeCoreContract => do
    let value ← Governance.updatePythStoreContract pf vm vaaBytes wormholeCoreContract
    pure (.executionPlan value)
  | .updatePricesDataSources vaaBytes wormholeCoreContract => do
    let value ← Governance.updatePricesDataSources pf vm vaaBytes wormholeCoreContract
    pure (.dataSources value)
  | .updateGovernanceDataSource vaaBytes wormholeCoreContract => do
    let value ← Governance.updateGovernanceDataSource pf vm vaaBytes wormholeCoreContract
    pure (.dataSource value)
  | .decodeAndVerifyPriceFeeds pnauBytes wormholeCoreAddress => do
    let value ← PnauDecoder.decodeAndVerifyPriceFeeds pf vm contractCaller pnauBytes
      wormholeCoreAddress
    pure (.priceUpdates value)
  | .read priceIdentifier => do
    let value ← .readOnly fun w => Store.read w.store priceIdentifier
    pure (.priceRecord value)
  | .write batchUpdates => do
    let value ← fun w =>
      World.onStore (Store.write pf w.governance env contractCaller batchUpdates) w
    pure (.priceUpdates value)
  | .readPriceFeed priceFeedId pythStorageAddress => do
    let value ← Oracle.readPriceFeed pf vm priceFeedId pythStorageAddress
    pure (.priceRecord value)
  | .verifyAndUpdatePriceFeeds priceFeedBytes executionPlan => do
    let value ← Oracle.verifyAndUpdatePriceFeeds pf vm env contractCaller priceFeedBytes
      executionPlan
    pure (.priceUpdates value)
  | .decodePriceFeeds priceFeedBytes executionPlan => do
    let value ← Oracle.decodePriceFeeds pf vm env contractCaller priceFeedBytes executionPlan
    pure (.priceUpdates value)

/-! ## Other contracts

A script is a tree: every answer that it gets decides what it does next, so it ranges over all
strategies, adaptive ones included. -/

/-- What a contract outside the repository does when it is called. `self` is the contract
that acts: the called one or one it calls in turn; with `asContract` it acts as its own
`tx-sender`. -/
inductive Script (φ ρ : Type) where
  | done (result : Exec ρ)
  | observe (next : World φ → Script φ ρ)
  | store (foreign : φ) (next : Script φ ρ)
  | stxTransfer (self : Principal) (asContract : Bool) (amount : Nat)
      (sender recipient : Principal) (next : Response Bool → Script φ ρ)
  | call (self : Principal) (asContract : Bool) (c : Call) (next : Response Reply → Script φ ρ)

/-- The code of the contracts outside the repository: what each runs for each trait method,
given its `contract-caller` and the arguments. -/
structure ForeignCode (φ : Type) where
  parseAndVerifyVaa : (target caller : Principal) → (vaaBytes : Buff) → Script φ Vaa
  decodeAndVerifyPriceFeeds : (target caller : Principal) → (pnauBytes : Buff) →
    (wormholeCore : Principal) → Script φ (List PriceUpdate)
  read : (target caller : Principal) → (priceIdentifier : Buff) → Script φ PriceRecord
  write : (target caller : Principal) → (batchUpdates : List PriceUpdate) →
    Script φ (List PriceUpdate)

/-- `as-contract`: the contract is the `tx-sender` of what it does. -/
def TxEnv.actingAs (env : TxEnv) (self : Principal) (asContract : Bool) : TxEnv :=
  if asContract then { env with txSender := self } else env

/-- Run a script, with `exec` for the calls it makes. No contract outside the repository can
act as one of the repository's. -/
def Script.run {ρ : Type} (exec : TxEnv → Principal → Call → Contract (World φ) Reply)
    (env : TxEnv) : Script φ ρ → Contract (World φ) ρ
  | .done result => .lift result
  | .observe next => fun w => (next w).run exec env w
  | .store foreign next => do
    .modify fun w => { w with foreign }
    next.run exec env
  | .stxTransfer self asContract amount sender recipient next =>
    if self ∈ pf.contracts then .lift (.error .abort)
    else do
      let response ← World.stxTransfer (env.actingAs self asContract) amount sender recipient
      (next response).run exec env
  | .call self asContract c next =>
    if self ∈ pf.contracts then .lift (.error .abort)
    else do
      let response ← (exec (env.actingAs self asContract) self c).respond
      (next response).run exec env

/-! ## Dispatch

The virtual machine between two contracts. `vm` goes down one level of calls and `invoke` one
function, so the recursion is on the depth. -/

/-- Run `m` as the function `id`, unless it is running already. -/
def enter {α : Type} (stack : List FunctionId) (id : FunctionId) (m : Contract (World φ) α) :
    Contract (World φ) α :=
  if id ∈ stack then .lift (.error .abort) else m.transaction

/-- A call by `contractCaller`: the function is entered, and its body calls on from one level below.
-/
def invoke (below : List FunctionId → TxEnv → Dispatch (World φ)) (stack : List FunctionId)
    (env : TxEnv) (contractCaller : Principal) (c : Call) : Contract (World φ) Reply :=
  let id := c.functionId pf
  enter stack id (c.body pf (below (id :: stack) env) env contractCaller)

variable (code : ForeignCode φ)

/-- The code that runs for a trait argument at call depth at most `depth`. The traits are
implemented by the repository's contracts of that role and by contracts outside it. -/
def vm : (depth : Nat) → (stack : List FunctionId) → (env : TxEnv) → Dispatch (World φ)
  | 0, _, _ => {
    parseAndVerifyVaa := fun _ _ _ => .lift (.error .abort)
    decodeAndVerifyPriceFeeds := fun _ _ _ _ => .lift (.error .abort)
    read := fun _ _ _ => .lift (.error .abort)
    write := fun _ _ _ => .lift (.error .abort) }
  | depth + 1, stack, env => {
    parseAndVerifyVaa := fun caller target vaaBytes =>
      let id := (target, FunctionName.parseAndVerifyVaa)
      if target = pf.wormholeCoreV2 then
        enter stack id (.readOnly fun w =>
          WormholeCore.parseAndVerifyVaa pf w.wormhole vaaBytes)
      else if target ∈ pf.contracts then .lift (.error .abort)
      else enter stack id ((code.parseAndVerifyVaa target caller vaaBytes).run pf
        (invoke pf (vm depth) (id :: stack)) env)
    decodeAndVerifyPriceFeeds := fun caller target pnauBytes wormholeCore =>
      let id := (target, FunctionName.decodeAndVerifyPriceFeeds)
      if target = pf.pythPnauDecoderV1 then
        enter stack id (PnauDecoder.decodeAndVerifyPriceFeeds pf (vm depth (id :: stack) env)
          caller pnauBytes wormholeCore)
      else if target ∈ pf.contracts then .lift (.error .abort)
      else enter stack id ((code.decodeAndVerifyPriceFeeds target caller pnauBytes
        wormholeCore).run pf (invoke pf (vm depth) (id :: stack)) env)
    read := fun caller target priceIdentifier =>
      let id := (target, FunctionName.read)
      if target = pf.pythStoreV1 then
        enter stack id (.readOnly fun w => Store.read w.store priceIdentifier)
      else if target ∈ pf.contracts then .lift (.error .abort)
      else enter stack id ((code.read target caller priceIdentifier).run pf
        (invoke pf (vm depth) (id :: stack)) env)
    write := fun caller target batchUpdates =>
      let id := (target, FunctionName.write)
      if target = pf.pythStoreV1 then
        enter stack id fun w =>
          World.onStore (Store.write pf w.governance env caller batchUpdates) w
      else if target ∈ pf.contracts then .lift (.error .abort)
      else enter stack id ((code.write target caller batchUpdates).run pf
        (invoke pf (vm depth) (id :: stack)) env) }

/-- A call of a function of the repository while the functions in `stack` are running. -/
def exec (depth : Nat) (stack : List FunctionId) (env : TxEnv) (contractCaller : Principal)
    (c : Call) : Contract (World φ) Reply :=
  invoke pf (vm pf code depth) stack env contractCaller c

end Functions

/-! ## Runs

A world is deployed, and then events happen to it. -/

/-- The five contracts as they are deployed; balances and other contracts are arbitrary. -/
def World.Deployed {φ : Type} (pf : Platform) (w : World φ) : Prop :=
  w.wormhole = .deployed ∧ w.governance = .deployed pf ∧ w.store = .deployed

/-- One call by an account or a contract outside the repository. -/
structure Tx where
  depth : Nat
  env : TxEnv
  contractCaller : Principal
  call : Call

/-- Nobody but the contract itself calls as one of the five contracts. -/
def Tx.External (pf : Platform) (tx : Tx) : Prop := tx.contractCaller ∉ pf.contracts

/-- A transaction starts with nothing running. -/
def Tx.run {φ : Type} (pf : Platform) (code : ForeignCode φ) (tx : Tx) (w : World φ) :
    Exec Reply × World φ :=
  exec pf code tx.depth [] tx.env tx.contractCaller tx.call w

/-- One event of the composed system: a transaction, or anything the rest of the chain does
to balances and to other contracts. -/
inductive Event (φ : Type) where
  | tx (t : Tx)
  | outside (balances : Principal → Nat) (foreign : φ)

/-- An event that an account or another contract can bring about. -/
def Event.External {φ : Type} (pf : Platform) : Event φ → Prop
  | .tx t => t.External pf
  | .outside _ _ => True

/-- The world after an event. -/
def World.step {φ : Type} (pf : Platform) (code : ForeignCode φ) (w : World φ) :
    Event φ → World φ
  | .tx t => (t.run pf code w).2
  | .outside balances foreign => { w with balances, foreign }

/-- The worlds that external events lead to from the deployment. -/
def Reachable {φ : Type} (pf : Platform) (code : ForeignCode φ) (w : World φ) : Prop :=
  ∃ w₀ events, World.Deployed pf w₀ ∧ (∀ e ∈ events, Event.External pf e) ∧
    w = afterRun (World.step pf code) w₀ events

end PythBridge
