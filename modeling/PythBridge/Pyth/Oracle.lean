import PythBridge.Pyth.Governance

/-!
# `pyth-oracle-v2`

The entry point for users: reads prices, and drives an update through the decoder and the
store that the execution plan names, against a fee.

Both paid functions take the contracts to call as an argument, and `check-execution-flow` compares
them with the plan before any of them is called. The fee is charged last, for as many prices as were
written or decoded; a fee that cannot be paid fails the call, and with it everything that the call
has written.
-/

namespace PythBridge.Oracle

open Clarity

/-- The response to every transfer that fails, for whatever reason. -/
def errBalanceInsufficient : Nat := 402

section Functions

variable (pf : Platform) {φ : Type} (vm : Dispatch (World φ))

/-- `read-price-feed`: anybody may read, for free, through the storage contract of the plan. -/
def readPriceFeed (priceFeedId : Buff) (pythStorageAddress : Principal) :
    Contract (World φ) PriceRecord := do
  -- Check execution flow
  let _ ← .readOnly fun w => Governance.checkStorageContract w.governance pythStorageAddress
  -- Perform contract-call
  vm.read pf.pythOracleV2 pythStorageAddress priceFeedId

/-- The fee for `count` prices: `(* count (* mantissa (pow u10 exponent)))`. -/
def feeAmount (feeInfo : Governance.FeeInfo) (count : Nat) : Exec Nat := do
  let power ← pow10 feeInfo.exponent
  let unitFee ← checkedMul feeInfo.mantissa power
  checkedMul count unitFee

/-- A fee is computed when no step of the computation overflows. -/
theorem feeAmount_eq_ok {feeInfo : Governance.FeeInfo} {count amount : Nat} :
    feeAmount feeInfo count = .ok amount ↔
      feeInfo.exponent ≤ 38 ∧ feeInfo.mantissa * 10 ^ feeInfo.exponent < 2 ^ 128 ∧
        count * (feeInfo.mantissa * 10 ^ feeInfo.exponent) < 2 ^ 128 ∧
        count * (feeInfo.mantissa * 10 ^ feeInfo.exponent) = amount := by
  simp only [feeAmount, exec_bind_eq_ok, pow10_eq_ok, checkedMul_eq_ok]
  constructor
  · rintro ⟨_, ⟨hexponent, rfl⟩, _, ⟨hunit, rfl⟩, hamount⟩
    exact ⟨hexponent, hunit, hamount⟩
  · rintro ⟨hexponent, hunit, hamount⟩
    exact ⟨_, ⟨hexponent, rfl⟩, _, ⟨hunit, rfl⟩, hamount⟩

/-- Computes the fee in force for `count` prices and charges it to the `tx-sender`. -/
def chargeFee (env : TxEnv) (count : Nat) : Contract (World φ) Unit := do
  let feeInfo ← .gets fun w => Governance.getFeeInfo w.governance
  let amount ← .lift (feeAmount feeInfo count)
  -- Charge fee
  let transferred ← World.stxTransfer env amount env.txSender feeInfo.address
  let _ ← .lift (unwrap transferred errBalanceInsufficient)
  pure ()

/-- `verify-and-update-price-feeds`: decodes a message, writes its prices, and charges for those
that were written. -/
def verifyAndUpdatePriceFeeds (env : TxEnv) (contractCaller : Principal)
    (priceFeedBytes : Buff) (executionPlan : ExecutionPlanArg) :
    Contract (World φ) (List PriceUpdate) := do
  -- Check execution flow
  let _ ← .readOnly fun w =>
    Governance.checkExecutionFlow w.governance pf.pythOracleV2 contractCaller (some executionPlan)
  -- Perform contract-call
  let decodedPrices ← vm.decodeAndVerifyPriceFeeds pf.pythOracleV2
    executionPlan.pythDecoderContract priceFeedBytes executionPlan.wormholeCoreContract
  let updatedPrices ← vm.write pf.pythOracleV2 executionPlan.pythStorageContract decodedPrices
  chargeFee env updatedPrices.length
  pure updatedPrices

/-- `decode-price-feeds`: decodes a message and charges for all of its prices. -/
def decodePriceFeeds (env : TxEnv) (contractCaller : Principal) (priceFeedBytes : Buff)
    (executionPlan : ExecutionPlanArg) : Contract (World φ) (List PriceUpdate) := do
  -- Check execution flow
  let _ ← .readOnly fun w =>
    Governance.checkExecutionFlow w.governance pf.pythOracleV2 contractCaller (some executionPlan)
  -- Perform contract-call
  let decodedPrices ← vm.decodeAndVerifyPriceFeeds pf.pythOracleV2
    executionPlan.pythDecoderContract priceFeedBytes executionPlan.wormholeCoreContract
  chargeFee env decodedPrices.length
  pure decodedPrices

end Functions

end PythBridge.Oracle
