import PythBridge.System.Prices

/-!
# Payable fees

The charge of the oracle is a `stx-transfer?`, and every failure of the transfer is reported as
an insufficient balance. A fee that the sender can pay is charged exactly when the transfer has
something to move and somebody else to move it to (`payable_fee_charged_iff`).

The transfer of the platform refuses an amount of zero and a transfer to oneself before it looks at
the balance, and the oracle maps each of its errors to `ERR_BALANCE_INSUFFICIENT`. So a sender with
enough STX is told that the balance is insufficient whenever the fee is zero or the sender is the
recipient. The crux is to cut the two paid functions right before the charge: what decoder and store
answer is given, whatever they are, and only the transfer is left to decide.

* `fee_pos_iff`, `feeAmount_eq_fee`: when there is something to charge, and that it is computed.
* `chargeFee_ok_iff`: the charge of a payable fee.
* `payable_fee_charged_iff`: the two functions that charge.
-/

namespace PythBridge

open Clarity

variable {φ : Type} {pf : Platform} {env : TxEnv} {w w' : World φ}

/-! ## The charge

A fee is a product, so it is positive when both factors are, and a positive product that fits a
`uint` has factors and partial products that fit as well: no step of the arithmetic aborts. -/

/-- A fee is positive when there is something to pay for and the mantissa is not zero; the exponent
does not matter. -/
theorem fee_pos_iff {count : Nat} :
    0 < w.fee count ↔ 0 < count ∧ 0 < w.governance.feeValue.mantissa := by
  have hpower : 0 < 10 ^ w.governance.feeValue.exponent := Nat.pow_pos (by decide)
  constructor
  · intro hpos
    have hunit := Nat.pos_of_mul_pos_left hpos
    exact ⟨Nat.pos_of_mul_pos_right hpos, Nat.pos_of_mul_pos_right hunit⟩
  · rintro ⟨hcount, hmantissa⟩
    exact Nat.mul_pos hcount (Nat.mul_pos hmantissa hpower)

/-- The fee is computed without overflow when it is positive and fits. -/
theorem feeAmount_eq_fee {count : Nat} (hpos : 0 < w.fee count) (hfits : w.fee count < 2 ^ 128) :
    Oracle.feeAmount (Governance.getFeeInfo w.governance) count = .ok (w.fee count) := by
  obtain ⟨hcount, hmantissa⟩ := fee_pos_iff.mp hpos
  have hunit : w.governance.feeValue.mantissa * 10 ^ w.governance.feeValue.exponent ≤
      w.fee count := Nat.le_mul_of_pos_left _ hcount
  have hpower : 10 ^ w.governance.feeValue.exponent ≤
      w.governance.feeValue.mantissa * 10 ^ w.governance.feeValue.exponent :=
    Nat.le_mul_of_pos_left _ hmantissa
  have hexponent : w.governance.feeValue.exponent ≤ 38 := by
    -- ten to the 39 is above the largest `uint`, so a fee that fits has a smaller exponent
    by_contra hnot
    have hlarge : 10 ^ 39 ≤ 10 ^ w.governance.feeValue.exponent :=
      Nat.pow_le_pow_right (by decide) (by omega)
    omega
  exact Oracle.feeAmount_eq_ok.mpr ⟨hexponent, hunit.trans_lt hfits, hfits, rfl⟩

/-- A payable fee is charged exactly when there is an entry to charge for, the mantissa is not
zero and the recipient is somebody else. -/
theorem chargeFee_ok_iff {count : Nat} (hfits : w.fee count < 2 ^ 128)
    (henough : w.fee count ≤ w.balances env.txSender) :
    (∃ w', Oracle.chargeFee env count w = (.ok (), w')) ↔
      0 < count ∧ 0 < w.governance.feeValue.mantissa ∧
        env.txSender ≠ w.governance.feeRecipientAddress := by
  rw [← and_assoc, ← fee_pos_iff]
  constructor
  · rintro ⟨w', h⟩
    obtain ⟨hpos, hdifferent, -, -⟩ := chargeFee_eq_ok h
    exact ⟨hpos, hdifferent⟩
  · -- the four conditions of the transfer hold, so the map of its errors is not reached
    rintro ⟨hpos, hdifferent⟩
    have hamount := feeAmount_eq_fee hpos hfits
    have htransfer := World.stxTransfer_eq_ok.mpr ⟨⟨hpos, hdifferent, rfl, henough⟩, rfl, rfl⟩
    simp only [Oracle.chargeFee, Contract.bind_eq_ok, Contract.gets_apply, Contract.lift_apply,
      Prod.mk.injEq, unwrap_eq_ok]
    exact ⟨_, _, w, ⟨rfl, rfl⟩, _, w, ⟨hamount, rfl⟩, _, _, htransfer, true, _, ⟨rfl, rfl⟩, rfl⟩

/-! ## The two functions that charge

The dispatch is arbitrary here. The results are about the oracle by itself, with any decoder and any
store that the plan names. -/

section Results

variable {vm : Dispatch (World φ)} {caller : Principal} {priceFeedBytes : Buff}
  {executionPlan : ExecutionPlanArg} {w₁ : World φ} {decodedPrices : List PriceUpdate}

/-- Once decoder and store have answered, only the charge is left. -/
theorem verifyAndUpdatePriceFeeds_ok_iff {updatedPrices : List PriceUpdate} {w₂ : World φ}
    (hflow : w.governance.currentExecutionPlan.Allows pf.pythOracleV2 caller
      (some executionPlan))
    (hdecode : vm.decodeAndVerifyPriceFeeds pf.pythOracleV2 executionPlan.pythDecoderContract
      priceFeedBytes executionPlan.wormholeCoreContract w = (.ok decodedPrices, w₁))
    (hwrite : vm.write pf.pythOracleV2 executionPlan.pythStorageContract decodedPrices w₁ =
      (.ok updatedPrices, w₂)) :
    (∃ w', Oracle.verifyAndUpdatePriceFeeds pf vm env caller priceFeedBytes executionPlan w =
        (.ok updatedPrices, w')) ↔
      ∃ w', Oracle.chargeFee env updatedPrices.length w₂ = (.ok (), w') := by
  have hchecked := Governance.checkExecutionFlow_of_allows hflow
  simp only [Oracle.verifyAndUpdatePriceFeeds, Contract.bind_eq_ok, Contract.readOnly_apply,
    Contract.pure_apply, Prod.mk.injEq]
  constructor
  · -- both answers are functions of the world they got, so the ones inside are the given ones
    rintro ⟨w', _, _, ⟨-, rfl⟩, _, _, hdecode', _, _, hwrite', ⟨⟩, _, hfee, -, -⟩
    rw [hdecode] at hdecode'
    cases hdecode'
    rw [hwrite] at hwrite'
    cases hwrite'
    exact ⟨_, hfee⟩
  · rintro ⟨w', hfee⟩
    exact ⟨w', _, w, ⟨hchecked, rfl⟩, _, _, hdecode, _, _, hwrite, (), w', hfee, rfl, rfl⟩

/-- Once the decoder has answered, only the charge is left. -/
theorem decodePriceFeeds_ok_iff
    (hflow : w.governance.currentExecutionPlan.Allows pf.pythOracleV2 caller
      (some executionPlan))
    (hdecode : vm.decodeAndVerifyPriceFeeds pf.pythOracleV2 executionPlan.pythDecoderContract
      priceFeedBytes executionPlan.wormholeCoreContract w = (.ok decodedPrices, w₁)) :
    (∃ w', Oracle.decodePriceFeeds pf vm env caller priceFeedBytes executionPlan w =
        (.ok decodedPrices, w')) ↔
      ∃ w', Oracle.chargeFee env decodedPrices.length w₁ = (.ok (), w') := by
  have hchecked := Governance.checkExecutionFlow_of_allows hflow
  simp only [Oracle.decodePriceFeeds, Contract.bind_eq_ok, Contract.readOnly_apply,
    Contract.pure_apply, Prod.mk.injEq]
  constructor
  · rintro ⟨w', _, _, ⟨-, rfl⟩, _, _, hdecode', ⟨⟩, _, hfee, -, -⟩
    rw [hdecode] at hdecode'
    cases hdecode'
    exact ⟨_, hfee⟩
  · rintro ⟨w', hfee⟩
    exact ⟨w', _, w, ⟨hchecked, rfl⟩, _, _, hdecode, (), w', hfee, rfl, rfl⟩

/-- **When a payable fee is charged.** An oracle call that the plan allows, whose decoder
answered (leaving `w₁`) and, for an update, whose store answered (leaving `w₂`), and whose fee
is representable and not above the sender's balance: it returns ok exactly when there is an
entry to charge for, the mantissa in force is not zero and the sender is not the recipient. -/
theorem payable_fee_charged_iff
    (hflow : w.governance.currentExecutionPlan.Allows pf.pythOracleV2 caller
      (some executionPlan))
    (hdecode : vm.decodeAndVerifyPriceFeeds pf.pythOracleV2 executionPlan.pythDecoderContract
      priceFeedBytes executionPlan.wormholeCoreContract w = (.ok decodedPrices, w₁)) :
    (∀ updatedPrices w₂,
      vm.write pf.pythOracleV2 executionPlan.pythStorageContract decodedPrices w₁ =
        (.ok updatedPrices, w₂) →
      w₂.fee updatedPrices.length < 2 ^ 128 →
      w₂.fee updatedPrices.length ≤ w₂.balances env.txSender →
      ((∃ w', Oracle.verifyAndUpdatePriceFeeds pf vm env caller priceFeedBytes executionPlan w =
          (.ok updatedPrices, w')) ↔
        0 < updatedPrices.length ∧ 0 < w₂.governance.feeValue.mantissa ∧
          env.txSender ≠ w₂.governance.feeRecipientAddress)) ∧
    (w₁.fee decodedPrices.length < 2 ^ 128 →
      w₁.fee decodedPrices.length ≤ w₁.balances env.txSender →
      ((∃ w', Oracle.decodePriceFeeds pf vm env caller priceFeedBytes executionPlan w =
          (.ok decodedPrices, w')) ↔
        0 < decodedPrices.length ∧ 0 < w₁.governance.feeValue.mantissa ∧
          env.txSender ≠ w₁.governance.feeRecipientAddress)) := by
  refine ⟨fun updatedPrices w₂ hwrite hfits henough => ?_, fun hfits henough => ?_⟩
  · rw [verifyAndUpdatePriceFeeds_ok_iff hflow hdecode hwrite, chargeFee_ok_iff hfits henough]
  · rw [decodePriceFeeds_ok_iff hflow hdecode, chargeFee_ok_iff hfits henough]

end Results

section ClosedRun

open ClosedRun

/-- What the oracle calls while the sample update runs. -/
def sampleDispatch : Dispatch (World Unit) :=
  vm .reference silent 4 [(Platform.reference.pythOracleV2, .verifyAndUpdatePriceFeeds)] sampleEnv

def samplePlan : ExecutionPlanArg :=
  ⟨Platform.reference.pythStoreV1, Platform.reference.pythPnauDecoderV1,
    Platform.reference.wormholeCoreV2⟩

/-- The price that the sample message carries. -/
def decodedSample : PriceUpdate := { samplePrice with emaPrice := 0, prevPublishTime := 0 }

/-- The sample update after `events`, up to the charge. -/
def sampleDecoded (w : World Unit) : Exec (List PriceUpdate) × World Unit :=
  sampleDispatch.decodeAndVerifyPriceFeeds Platform.reference.pythOracleV2
    samplePlan.pythDecoderContract samplePnau samplePlan.wormholeCoreContract w

def sampleWritten (w : World Unit) : Exec (List PriceUpdate) × World Unit :=
  sampleDispatch.write Platform.reference.pythOracleV2 samplePlan.pythStorageContract
    [decodedSample] (sampleDecoded w).2

theorem payable_fee_charged_iff_sampleUpdate :
    ∃ w', Oracle.verifyAndUpdatePriceFeeds .reference sampleDispatch sampleEnv account samplePnau
      samplePlan (afterRun (World.step .reference silent) fresh [bootstrap]) =
        (.ok [decodedSample], w') := by
  let w := afterRun (World.step .reference silent) fresh [bootstrap]
  -- one evaluation of the run for all that is asked of it
  have hrun : (sampleDecoded w).1 = .ok [decodedSample] ∧
      (sampleWritten w).1 = .ok [decodedSample] ∧
      (sampleWritten w).2.fee [decodedSample].length < 2 ^ 128 ∧
      (sampleWritten w).2.fee [decodedSample].length ≤
        (sampleWritten w).2.balances sampleEnv.txSender ∧
      0 < (sampleWritten w).2.governance.feeValue.mantissa ∧
      sampleEnv.txSender ≠ (sampleWritten w).2.governance.feeRecipientAddress ∧
      Governance.checkExecutionFlow w.governance Platform.reference.pythOracleV2 account
        (some samplePlan) = .ok true := by
    decide +kernel
  obtain ⟨hdecode, hwrite, hfits, henough, hmantissa, hdifferent, hchecked⟩ := hrun
  have hflow := (Governance.checkExecutionFlow_eq_ok.mp hchecked).2
  have hcharged := (payable_fee_charged_iff hflow (Contract.run_eq hdecode)).1 [decodedSample]
    (sampleWritten w).2 (Contract.run_eq hwrite) hfits henough
  exact hcharged.mpr ⟨Nat.zero_lt_one, hmantissa, hdifferent⟩

/-- After governance has installed the fee zero, the sample update is refused for a balance
that is insufficient for nothing, although decoder and store accept it. -/
theorem zero_fee_blocks_updates :
    ∃ w : World Unit, Reachable .reference silent w ∧ ∃ decodedPrices w₁ updatedPrices w₂,
      sampleDispatch.decodeAndVerifyPriceFeeds Platform.reference.pythOracleV2
        samplePlan.pythDecoderContract samplePnau samplePlan.wormholeCoreContract w =
          (.ok decodedPrices, w₁) ∧
      sampleDispatch.write Platform.reference.pythOracleV2 samplePlan.pythStorageContract
        decodedPrices w₁ = (.ok updatedPrices, w₂) ∧
      updatedPrices.length = 1 ∧ w₂.fee updatedPrices.length = 0 ∧
      w₂.fee updatedPrices.length ≤ w₂.balances sampleEnv.txSender ∧
      (Oracle.verifyAndUpdatePriceFeeds .reference sampleDispatch sampleEnv account samplePnau
        samplePlan w).1 = .error (.err Oracle.errBalanceInsufficient) := by
  let w := afterRun (World.step .reference silent) fresh [bootstrap, .tx feeUpdate]
  -- the fee is installed by a governance message that the contracts accept
  have hreachable : Reachable .reference silent w :=
    ⟨fresh, _, ⟨rfl, rfl, rfl⟩, by
      have hexternal : account ∉ Platform.reference.contracts := by decide
      simp only [List.forall_mem_cons]
      exact ⟨hexternal, hexternal, fun _ h => by cases h⟩, rfl⟩
  have hrun : (sampleDecoded w).1 = .ok [decodedSample] ∧
      (sampleWritten w).1 = .ok [decodedSample] ∧
      (sampleWritten w).2.fee [decodedSample].length = 0 ∧
      (Oracle.verifyAndUpdatePriceFeeds .reference sampleDispatch sampleEnv account samplePnau
        samplePlan w).1 = .error (.err Oracle.errBalanceInsufficient) := by
    decide +kernel
  obtain ⟨hdecode, hwrite, hfee, hrefused⟩ := hrun
  have henough : (sampleWritten w).2.fee [decodedSample].length ≤
      (sampleWritten w).2.balances sampleEnv.txSender := by
    rw [hfee]
    exact Nat.zero_le _
  exact ⟨w, hreachable, [decodedSample], (sampleDecoded w).2, [decodedSample],
    (sampleWritten w).2, Contract.run_eq hdecode, Contract.run_eq hwrite, rfl, hfee, henough,
    hrefused⟩

end ClosedRun

end PythBridge
