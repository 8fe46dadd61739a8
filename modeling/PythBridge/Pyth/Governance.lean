import PythBridge.Storage
import PythBridge.Clarity.Walk

/-!
# `pyth-governance-v1`

The execution plan and who may act under it, and the nine `update-*` functions that execute Pyth
governance messages (PTGM).

The contract holds every parameter of the bridge: the four contracts of the *execution plan*, the
sources that messages are accepted from, the fee and its recipient, and the age up to which a price
is fresh. The other contracts ask it whether a call may proceed (`check-execution-flow`,
`check-storage-contract`), and messages of the governance of Pyth change the parameters.

The nine update functions are one text in the source up to the action, the parser of the body and
the field that is set, so they are one function with parameters, `update`; the four that change the
plan also return it. The order of its steps is that of the source: the sequence is moved on *before*
the action, the emitter and the wormhole contract are checked, and a failure of any of these undoes
it, because the function is public.
-/

namespace PythBridge.Governance

open Clarity

/-! ## Constants

The one-byte codes of the actions, and the identifiers under which Pyth addresses this deployment.
-/

/-- `PTGM` in ASCII: the first four bytes of every governance message. -/
def ptgmMagic : Buff := hex "5054474d"

def ptgmUpdatePythOracleAddress : Buff := [0x00]
def ptgmUpdateGovernanceDataSource : Buff := [0x01]
def ptgmUpdatePricesDataSources : Buff := [0x02]
def ptgmUpdateFee : Buff := [0x03]
def ptgmStalePriceThreshold : Buff := [0x04]
def ptgmUpdateWormholeCoreAddress : Buff := [0x06]
def ptgmUpdateRecipientAddress : Buff := [0xa0]
def ptgmUpdatePythStoreAddress : Buff := [0xa1]
def ptgmUpdatePythDecoderAddress : Buff := [0xa2]

/-- Stacks chain id attributed by Pyth. -/
def expectedChainId (pf : Platform) : Buff := if pf.isInMainnet then hex "ea86" else hex "c377"

/-- Stacks module id attributed by Pyth. -/
def expectedModule : Buff := [0x03]

/-- The error responses of the source. -/
def errUnauthorizedAccess : Nat := 4004
def errUnexpectedAction : Nat := 4001
def errUnexpectedActionPayload : Nat := 4002
def errInvalidActionPayload : Nat := 4003
def errOutdated : Nat := 4005
def errUnauthorizedUpdate : Nat := 4006
def errInvalidPtgm : Nat := 4007

/-- The values of the data vars at the deployment. -/
def Storage.deployed (pf : Platform) : Storage where
  governanceDataSource :=
    ⟨1, hex "5635979a221c34931e32620b9293a463065555ea71fe97cd6237ade875b12e9e"⟩
  pricesDataSources :=
    [⟨1, hex "6bb14509a612f01fbbc4cffeebd4bbfb492a86df717ebe92eb6df432a3f00a25"⟩,
      ⟨26, hex "f8cd23c2ab91237730770bbea08d61005cdda0984348f3f6eecb559638c0bba0"⟩,
      ⟨26, hex "e101faedac5851e32b9b23b5f9411a8c2bac4aae3ed4dd7b811dd1a72ea4aa71"⟩]
  feeValue := ⟨1, 1⟩
  -- 2 hours on mainnet, 5 years on testnet
  stalePriceThreshold := if pf.isInMainnet then 2 * 60 * 60 else 5 * 365 * 24 * 60 * 60
  -- SP3CRXBDXQ2N5P7E25Q39MEX1HSMRDSEAP3CFK2Z3 and ST3CRXBDXQ2N5P7E25Q39MEX1HSMRDSEAP1JST19D
  feeRecipientAddress := .standard
    ⟨if pf.isInMainnet then 22 else 26, hex "d98eadbdb8aa5b1dc22dc69a3ba18e6986e5cab0"⟩
  lastSequenceProcessed := 0
  currentExecutionPlan := pf.deployedPlan

/-! ## The execution plan

A call of the oracle goes on to the decoder and the store, which both ask governance whether they
were called by the oracle of the plan. -/

/-- The caller has to be the oracle of the plan. -/
def expectContractCallPerformedByExpectedOracleContract (formerContractCaller : Principal)
    (expectedPlan : ExecutionPlan) : Exec Bool := do
  asserts (formerContractCaller = expectedPlan.pythOracleContract) errUnauthorizedAccess
  pure true

/-- A contract that a caller names has to be the one of the plan; one function for each role. -/
def expectActiveStorageContract (storageContract : Principal) (expectedPlan : ExecutionPlan) :
    Exec Bool := do
  asserts (storageContract = expectedPlan.pythStorageContract) errUnauthorizedAccess
  pure true

def expectActiveDecoderContract (decoderContract : Principal) (expectedPlan : ExecutionPlan) :
    Exec Bool := do
  asserts (decoderContract = expectedPlan.pythDecoderContract) errUnauthorizedAccess
  pure true

def expectActiveWormholeContract (wormholeContract : Principal)
    (expectedPlan : ExecutionPlan) : Exec Bool := do
  asserts (wormholeContract = expectedPlan.wormholeCoreContract) errUnauthorizedAccess
  pure true

/-- Called by the storage contract, the decoder and the oracle; which of the three is asking
is told from `contractCaller` alone. -/
def checkExecutionFlow (st : Storage) (contractCaller formerContractCaller : Principal)
    (executionPlanOpt : Option ExecutionPlanArg) : Exec Bool := do
  let expectedExecutionPlan := st.currentExecutionPlan
  let success ←
    if contractCaller = expectedExecutionPlan.pythStorageContract then
      -- The storage contract is checking its execution flow
      expectContractCallPerformedByExpectedOracleContract formerContractCaller
        expectedExecutionPlan
    else if contractCaller = expectedExecutionPlan.pythDecoderContract then
      -- The decoding contract is checking its execution flow
      expectContractCallPerformedByExpectedOracleContract formerContractCaller
        expectedExecutionPlan
    else if contractCaller = expectedExecutionPlan.pythOracleContract then do
      -- The proxy contract is checking its execution flow
      let executionPlan ← unwrapOpt executionPlanOpt errUnauthorizedAccess
      let _ ← expectActiveStorageContract executionPlan.pythStorageContract
        expectedExecutionPlan
      let _ ← expectActiveDecoderContract executionPlan.pythDecoderContract
        expectedExecutionPlan
      expectActiveWormholeContract executionPlan.wormholeCoreContract expectedExecutionPlan
    -- a caller without a role in the plan
    else pure false
  asserts (success = true) errUnauthorizedAccess
  pure true

/-- Reading goes through the storage contract of the plan. -/
def checkStorageContract (st : Storage) (storageContract : Principal) : Exec Bool :=
  expectActiveStorageContract storageContract st.currentExecutionPlan

def getCurrentExecutionPlan (st : Storage) : ExecutionPlan := st.currentExecutionPlan

/-- The fee and its recipient, which the oracle asks for together. -/
structure FeeInfo extends FeeValue where
  address : Principal
deriving DecidableEq, Repr

def getFeeInfo (st : Storage) : FeeInfo := { st.feeValue with address := st.feeRecipientAddress }

def getStalePriceThreshold (st : Storage) : Nat := st.stalePriceThreshold

def getAuthorizedPricesDataSources (st : Storage) : List DataSource := st.pricesDataSources

/-! ## Governance messages

A message is the payload of a VAA: magic bytes, module, action, chain, and a body that depends on
the action. -/

section Functions

variable (pf : Platform)

/-- A parsed governance message. -/
structure Ptgm where
  action : Buff
  targetChainId : Buff
  module : Buff
  cursor : Read Buff
  body : Buff
deriving DecidableEq, Repr

/-- Parses a message and moves `last-sequence-processed` on; the caller has yet to check the
action, the emitter and the wormhole contract. -/
def parseAndVerifyPtgm (ptgmBytes : Buff) (sequence : Nat) : Contract Storage Ptgm := do
  let cursorMagic ← .lift (unwrap (pf.hkCursor.readBuff4 ⟨ptgmBytes, 0⟩) errInvalidPtgm)
  let cursorModule ← .lift (unwrap (pf.hkCursor.readBuff1 cursorMagic.next) errInvalidPtgm)
  let cursorAction ← .lift (unwrap (pf.hkCursor.readBuff1 cursorModule.next) errInvalidPtgm)
  let cursorTargetChainId ←
    .lift (unwrap (pf.hkCursor.readBuff2 cursorAction.next) errInvalidPtgm)
  let cursorBody ←
    .lift (unwrap (pf.hkCursor.readBuff8192Max cursorTargetChainId.next none) errInvalidPtgm)
  -- Check magic bytes, target-chain-id and module
  .lift (asserts (cursorMagic.value = ptgmMagic) errInvalidPtgm)
  .lift (asserts (cursorTargetChainId.value = expectedChainId pf) errInvalidPtgm)
  .lift (asserts (cursorModule.value = expectedModule) errInvalidPtgm)
  -- Check Sequence
  let lastSequenceProcessed ← .gets Storage.lastSequenceProcessed
  .lift (asserts (lastSequenceProcessed < sequence) errOutdated)
  -- Update Sequence
  .modify fun st => { st with lastSequenceProcessed := sequence }
  pure {
    action := cursorAction.value
    targetChainId := cursorTargetChainId.value
    module := cursorModule.value
    cursor := cursorTargetChainId
    body := cursorBody.value }

/-- A message has to come from the governance data source. -/
def checkUpdateSource (st : Storage) (emitterChain : Nat) (emitterAddress : Buff) :
    Exec Bool := do
  asserts (st.governanceDataSource = ⟨emitterChain, emitterAddress⟩) errUnauthorizedUpdate
  pure true

/-! ### Bodies of the actions -/

/-- Two numbers of 8 bytes: the mantissa and the exponent. -/
def parseAndVerifyFeeValue (ptgmBody : Buff) : Exec FeeValue := do
  let cursorPtgmBody := pf.hkCursor.new ptgmBody none
  let cursorMantissa ← unwrap (pf.hkCursor.readUint64 cursorPtgmBody.next)
    errInvalidActionPayload
  let cursorExponent ← unwrap (pf.hkCursor.readUint64 cursorMantissa.next)
    errInvalidActionPayload
  pure { mantissa := cursorMantissa.value, exponent := cursorExponent.value }

/-- A number of 8 bytes; what follows it is ignored, here as in every body. -/
def parseAndVerifyStalePriceThreshold (ptgmBody : Buff) : Exec Nat := do
  let cursorPtgmBody := pf.hkCursor.new ptgmBody none
  let cursorStalePriceThreshold ← unwrap (pf.hkCursor.readUint64 cursorPtgmBody.next)
    errInvalidActionPayload
  pure cursorStalePriceThreshold.value

/-- A chain of 2 bytes and an address of 32. -/
def parseAndVerifyGovernanceDataSource (ptgmBody : Buff) : Exec DataSource := do
  let cursorPtgmBody := pf.hkCursor.new ptgmBody none
  let cursorEmitterChain ← unwrap (pf.hkCursor.readUint16 cursorPtgmBody.next)
    errInvalidActionPayload
  let cursorEmitterAddress ← unwrap (pf.hkCursor.readBuff32 cursorEmitterChain.next)
    errInvalidActionPayload
  pure { emitterChain := cursorEmitterChain.value, emitterAddress := cursorEmitterAddress.value }

/-- A principal in consensus serialization, behind its length in one byte. -/
def parsePrincipal (ptgmBody : Buff) : Exec Principal := do
  let cursorPtgmBody := pf.hkCursor.new ptgmBody none
  let cursorPrincipalLen ← tryResponse (pf.hkCursor.readUint8 cursorPtgmBody.next)
  let principalBytes := pf.hkCursor.slice cursorPrincipalLen.next (some cursorPrincipalLen.value)
  unwrapOpt (fromConsensusBuff? principalBytes) errUnexpectedActionPayload

/-- One step of the fold over the bytes of the sources, which are 34 bytes each. -/
def parseDataSource (bytes : Buff) (limit : Nat) (acc : WalkAcc DataSource) (_entry : UInt8) :
    Exec (WalkAcc DataSource) :=
  if acc.result.length = limit then pure acc
  else if acc.index = acc.nextUpdateIndex then do
    -- Parse update
    -- a source starts at this byte; a read past the end aborts
    let buffer := pf.hkCursor.new bytes (some acc.index)
    let cursorEmitterChain ← unwrapPanic (pf.hkCursor.readUint16 buffer.next)
    let cursorEmitterAddress ← unwrapPanic (pf.hkCursor.readBuff32 cursorEmitterChain.next)
    let result ← unwrapPanicOpt (asMaxLen?
      (acc.result ++ [⟨cursorEmitterChain.value, cursorEmitterAddress.value⟩]) 255)
    pure { index := acc.index + 1, nextUpdateIndex := acc.index + 34, result }
  else
    -- Increment position
    pure { index := acc.index + 1, nextUpdateIndex := acc.nextUpdateIndex, result := acc.result }

/-- The number of the sources in one byte, and then the sources. -/
def parseAndVerifyPricesDataSources (ptgmBody : Buff) : Exec (List DataSource) := do
  let cursorPtgmBody := pf.hkCursor.new ptgmBody none
  let cursorNumDataSources ← tryResponse (pf.hkCursor.readUint8 cursorPtgmBody.next)
  let cursorDataSourcesBytes := pf.hkCursor.slice cursorNumDataSources.next none
  let dataSources ← cursorDataSourcesBytes.foldlM
    (parseDataSource pf cursorDataSourcesBytes cursorNumDataSources.value) .start
  pure dataSources.result

/-! ### The update functions -/

variable {φ α : Type} (vm : Dispatch (World φ))

/-- What the nine functions share: the VAA comes from the contract the caller passed, the
message is parsed and its sequence recorded, then the action, the emitter and the wormhole
contract are checked, and the decoded body is installed. `install` receives the plan read
before the external call, which the functions that change the plan write back. -/
def update (action : Buff) (decodeBody : Buff → Exec α)
    (install : ExecutionPlan → α → Storage → Storage) (vaaBytes : Buff)
    (wormholeCoreContract : Principal) : Contract (World φ) α := do
  let expectedExecutionPlan ← .gets fun w => w.governance.currentExecutionPlan
  let vaa ← vm.parseAndVerifyVaa pf.pythGovernanceV1 wormholeCoreContract vaaBytes
  let ptgm ← World.onGovernance (parseAndVerifyPtgm pf vaa.payload vaa.sequence)
  -- Ensure action's expectation
  .lift (asserts (ptgm.action = action) errUnexpectedAction)
  -- Ensure that the action is authorized
  let _ ← .readOnly fun w => checkUpdateSource w.governance vaa.emitterChain vaa.emitterAddress
  -- Ensure that the lastest wormhole contract is used
  let _ ← .lift (expectActiveWormholeContract wormholeCoreContract expectedExecutionPlan)
  let updatedData ← .lift (decodeBody ptgm.body)
  World.onGovernance (.modify (install expectedExecutionPlan updatedData))
  pure updatedData

def updateFeeValue (vaaBytes : Buff) (wormholeCoreContract : Principal) :
    Contract (World φ) FeeValue :=
  update pf vm ptgmUpdateFee (parseAndVerifyFeeValue pf)
    (fun _ updatedData st => { st with feeValue := updatedData })
    vaaBytes wormholeCoreContract

def updateStalePriceThreshold (vaaBytes : Buff) (wormholeCoreContract : Principal) :
    Contract (World φ) Nat :=
  update pf vm ptgmStalePriceThreshold (parseAndVerifyStalePriceThreshold pf)
    (fun _ updatedData st => { st with stalePriceThreshold := updatedData })
    vaaBytes wormholeCoreContract

def updateFeeRecipientAddress (vaaBytes : Buff) (wormholeCoreContract : Principal) :
    Contract (World φ) Principal :=
  update pf vm ptgmUpdateRecipientAddress (parsePrincipal pf)
    (fun _ updatedData st => { st with feeRecipientAddress := updatedData })
    vaaBytes wormholeCoreContract

/-- The four functions that change one field of the plan return the new plan. -/
def updateExecutionPlan (action : Buff) (merge : ExecutionPlan → Principal → ExecutionPlan)
    (vaaBytes : Buff) (wormholeCoreContract : Principal) : Contract (World φ) ExecutionPlan := do
  let _ ← update pf vm action (parsePrincipal pf)
    (fun expectedExecutionPlan updatedData st =>
      { st with currentExecutionPlan := merge expectedExecutionPlan updatedData })
    vaaBytes wormholeCoreContract
  .gets fun w => w.governance.currentExecutionPlan

def updateWormholeCoreContract (vaaBytes : Buff) (wormholeCoreContract : Principal) :
    Contract (World φ) ExecutionPlan :=
  updateExecutionPlan pf vm ptgmUpdateWormholeCoreAddress
    (fun plan updatedData => { plan with wormholeCoreContract := updatedData })
    vaaBytes wormholeCoreContract

def updatePythOracleContract (vaaBytes : Buff) (wormholeCoreContract : Principal) :
    Contract (World φ) ExecutionPlan :=
  updateExecutionPlan pf vm ptgmUpdatePythOracleAddress
    (fun plan updatedData => { plan with pythOracleContract := updatedData })
    vaaBytes wormholeCoreContract

def updatePythDecoderContract (vaaBytes : Buff) (wormholeCoreContract : Principal) :
    Contract (World φ) ExecutionPlan :=
  updateExecutionPlan pf vm ptgmUpdatePythDecoderAddress
    (fun plan updatedData => { plan with pythDecoderContract := updatedData })
    vaaBytes wormholeCoreContract

def updatePythStoreContract (vaaBytes : Buff) (wormholeCoreContract : Principal) :
    Contract (World φ) ExecutionPlan :=
  updateExecutionPlan pf vm ptgmUpdatePythStoreAddress
    (fun plan updatedData => { plan with pythStorageContract := updatedData })
    vaaBytes wormholeCoreContract

def updatePricesDataSources (vaaBytes : Buff) (wormholeCoreContract : Principal) :
    Contract (World φ) (List DataSource) :=
  update pf vm ptgmUpdatePricesDataSources (parseAndVerifyPricesDataSources pf)
    (fun _ updatedData st => { st with pricesDataSources := updatedData })
    vaaBytes wormholeCoreContract

def updateGovernanceDataSource (vaaBytes : Buff) (wormholeCoreContract : Principal) :
    Contract (World φ) DataSource :=
  update pf vm ptgmUpdateGovernanceDataSource (parseAndVerifyGovernanceDataSource pf)
    (fun _ updatedData st => { st with governanceDataSource := updatedData })
    vaaBytes wormholeCoreContract

end Functions

end PythBridge.Governance
