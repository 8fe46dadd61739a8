import PythBridge.Pyth.Histories
import PythBridge.Pyth.Publishing
import PythBridge.System.Fees
import PythBridge.Wormhole.Signers

/-!
# Delivery of prices

What the two paid functions of the oracle do under the deployed plan, in closed form: they
succeed exactly when the message is decoded, for an update something of it is new, and the fee is
paid; and then the world they leave is given (`paid_calls_in_closed_form`). So a price that is
published, signed by a quorum of the guardians and submitted by anybody who pays arrives
(`published_prices_delivered`).

The direction from the answer to its conditions was done for the fee accounting of `System.Fees`.
The direction back is the crux here: every contract-call on the way has to be carried out, with the
dispatch through the call stack, the checks of the execution flow and the charge, and none of them
may fail. The deployed plan makes each of these checks true, and the decoder behind the call is
compared with its direct composition (`World.decoded`).

* `verifyAndUpdatePriceFeeds_iff`, `decodePriceFeeds_iff`: the bodies of the two functions.
* `paid_calls_in_closed_form`: the two calls as transactions, with everything else left as it was
  when they fail.
* `Submission.Genuine.decoded_eq`: what the publishers build is what the contracts decode.
* `published_prices_delivered`: from the batch of the publishers to a read of the store.
-/

namespace PythBridge

open Clarity PnauDecoder

variable {φ : Type} {pf : Platform} {code : ForeignCode φ} {env : TxEnv} {caller : Principal}
  {w w' : World φ}

/-! ## The charge

`stx-transfer?` refuses an amount of zero, a transfer to oneself and an amount above the balance,
and the fee itself is checked arithmetic. Together these are the four conditions of `World.Pays`,
and under them the charge is one transfer of tokens. -/

/-- The fee for `count` prices can be charged to the sender: it is positive, representable and
not above the balance, and the recipient is somebody else. -/
structure World.Pays (w : World φ) (env : TxEnv) (count : Nat) : Prop where
  pos : 0 < w.fee count
  fits : w.fee count < 2 ^ 128
  different : env.txSender ≠ w.governance.feeRecipientAddress
  enough : w.fee count ≤ w.balances env.txSender

/-- The world after the charge: the fee has gone from the sender to the fee recipient. -/
def World.charged (w : World φ) (env : TxEnv) (count : Nat) : World φ :=
  { w with balances :=
      World.moveStx w.balances (w.fee count) env.txSender w.governance.feeRecipientAddress }

/-- Who can pay for many prices can pay for fewer. -/
theorem World.Pays.mono {count more : Nat} (h : w.Pays env more) (hpos : 0 < count)
    (hle : count ≤ more) : w.Pays env count := by
  have hfee : w.fee count ≤ w.fee more := Nat.mul_le_mul_right _ hle
  exact ⟨fee_pos_iff.mpr ⟨hpos, (fee_pos_iff.mp h.pos).2⟩, hfee.trans_lt h.fits, h.different,
    hfee.trans h.enough⟩

/-- The charge succeeds exactly when the sender can pay, and moves the fee. -/
theorem chargeFee_iff {count : Nat} {u : Unit} :
    Oracle.chargeFee env count w = (.ok u, w') ↔ w.Pays env count ∧ w' = w.charged env count := by
  constructor
  · -- the checked arithmetic of the fee is only visible in the body, so it is opened here
    intro h
    obtain ⟨hpos, hdifferent, henough, hw'⟩ := chargeFee_eq_ok h
    simp only [Oracle.chargeFee, Contract.bind_eq_ok, Contract.gets_apply, Contract.lift_apply,
      Prod.mk.injEq, Oracle.feeAmount_eq_ok] at h
    obtain ⟨info, _, ⟨hinfo, -⟩, _, _, ⟨⟨-, -, hfits, -⟩, -⟩, -⟩ := h
    cases hinfo
    exact ⟨⟨hpos, hfits, hdifferent, henough⟩, hw'⟩
  · rintro ⟨⟨hpos, hfits, hdifferent, henough⟩, rfl⟩
    obtain ⟨hcount, hmantissa⟩ := fee_pos_iff.mp hpos
    obtain ⟨w'', hcharged⟩ :=
      (chargeFee_ok_iff hfits henough).mpr ⟨hcount, hmantissa, hdifferent⟩
    obtain ⟨-, -, -, rfl⟩ := chargeFee_eq_ok hcharged
    exact hcharged

/-! ## Calls of the repository's contracts

The other direction of the lemmas of `System.Roles`: what a contract answers by itself it answers
through the dispatch, as long as the function is not on the call stack already. -/

section Calls

variable {depth : Nat} {stack : List FunctionId}

theorem vm_parseAndVerifyVaa_of_ok {vaaBytes : Buff} {vaa : Vaa}
    (hstack : (pf.wormholeCoreV2, .parseAndVerifyVaa) ∉ stack)
    (h : WormholeCore.parseAndVerifyVaa pf w.wormhole vaaBytes = .ok vaa) :
    (vm pf code (depth + 1) stack env).parseAndVerifyVaa caller pf.wormholeCoreV2 vaaBytes w =
      (.ok vaa, w) := by
  simp only [vm, if_true]
  exact enter_eq_ok.mpr ⟨hstack, by rw [Contract.readOnly_apply, h]⟩

theorem vm_write_of_ok {batchUpdates written : List PriceUpdate} {st' : Store.Storage}
    (hstack : (pf.pythStoreV1, .write) ∉ stack)
    (h : Store.write pf w.governance env caller batchUpdates w.store = (.ok written, st')) :
    (vm pf code (depth + 1) stack env).write caller pf.pythStoreV1 batchUpdates w =
      (.ok written, { w with store := st' }) := by
  simp only [vm, if_true]
  exact enter_eq_ok.mpr ⟨hstack, Contract.zoom_of_run h⟩

/-- What the decoder answers to the oracle is what the message says. -/
theorem vm_decode_of_decoded (hk : pf.hkCursor.Lawful)
    (hplan : w.governance.currentExecutionPlan = pf.deployedPlan)
    (hdecoder : (pf.pythPnauDecoderV1, .decodeAndVerifyPriceFeeds) ∉ stack)
    (hwormhole : (pf.wormholeCoreV2, .parseAndVerifyVaa) ∉ stack) {priceFeedBytes : Buff}
    {prices : List PriceUpdate} (h : w.decoded pf priceFeedBytes = .ok prices) :
    (vm pf code (depth + 2) stack env).decodeAndVerifyPriceFeeds pf.pythOracleV2
      pf.pythPnauDecoderV1 priceFeedBytes pf.wormholeCoreV2 w = (.ok prices, w) := by
  have hstack : (pf.wormholeCoreV2, FunctionName.parseAndVerifyVaa) ∉
      (pf.pythPnauDecoderV1, FunctionName.decodeAndVerifyPriceFeeds) :: stack := by
    rw [List.mem_cons, not_or]
    exact ⟨by simp, hwormhole⟩
  obtain ⟨w₁, hdirect⟩ : ∃ w₁, decodePnauPriceUpdate pf (Dispatch.direct pf) priceFeedBytes
      pf.wormholeCoreV2 w = (.ok prices, w₁) := ⟨_, Contract.run_eq h⟩
  -- the decoder calls the wormhole contract through the dispatch one level deeper; `hstack` is what
  -- lets it in, and the answer is the direct one
  have hdecode := decodePnauPriceUpdate_congr
    (vm pf code (depth + 1) ((pf.pythPnauDecoderV1, .decodeAndVerifyPriceFeeds) :: stack) env)
    hdirect fun vaaBytes vaa w₂ hvaa => by
      obtain ⟨hverified, rfl⟩ : WormholeCore.parseAndVerifyVaa pf w.wormhole vaaBytes = .ok vaa ∧
          w = w₂ := Prod.mk.inj hvaa
      exact vm_parseAndVerifyVaa_of_ok hstack hverified
  -- the decoder is called by the oracle of the plan
  have hflow : w.governance.currentExecutionPlan.Allows pf.pythPnauDecoderV1 pf.pythOracleV2
      none := by
    rw [hplan]
    exact .inl ⟨.inr rfl, rfl⟩
  have hanswer : (vm pf code (depth + 2) stack env).decodeAndVerifyPriceFeeds pf.pythOracleV2
      pf.pythPnauDecoderV1 priceFeedBytes pf.wormholeCoreV2 w = (.ok prices, w₁) := by
    simp only [vm, if_true]
    refine enter_eq_ok.mpr ⟨hdecoder, ?_⟩
    simp only [decodeAndVerifyPriceFeeds, Contract.bind_eq_ok, Contract.readOnly_apply,
      Prod.mk.injEq]
    exact ⟨true, w, ⟨Governance.checkExecutionFlow_of_allows hflow, rfl⟩, hdecode⟩
  obtain ⟨rfl, -⟩ := vm_decode_ours hk hanswer
  exact hanswer

/-- A read of the oracle answers what the store has, for anybody. -/
theorem exec_readPriceFeed_of_read (hplan : w.governance.currentExecutionPlan = pf.deployedPlan)
    {priceFeedId : Buff} {record : PriceRecord}
    (h : Store.read w.store priceFeedId = .ok record) :
    exec pf code (depth + 1) [] env caller (.readPriceFeed priceFeedId pf.pythStoreV1) w =
      (.ok (.priceRecord record), w) := by
  have hstorage : pf.pythStoreV1 = w.governance.currentExecutionPlan.pythStorageContract := by
    rw [hplan]
    rfl
  have hchecked := Governance.checkStorageContract_eq_ok.mpr ⟨rfl, hstorage⟩
  have hread : (vm pf code (depth + 1) [(pf.pythOracleV2, .readPriceFeed)] env).read
      pf.pythOracleV2 pf.pythStoreV1 priceFeedId w = (.ok record, w) := by
    simp only [vm, if_true]
    exact enter_eq_ok.mpr ⟨by simp, by rw [Contract.readOnly_apply, h]⟩
  rw [exec_eq_ok]
  refine ⟨List.not_mem_nil, Contract.bind_eq_ok.mpr ⟨record, w, ?_, rfl⟩⟩
  exact Contract.bind_eq_ok.mpr ⟨true, w, Prod.ext hchecked rfl, hread⟩

/-- With the repository's storage and decoder the oracle has no other role. -/
theorem oracle_not_below {plan : ExecutionPlan}
    (hstorage : plan.pythStorageContract = pf.pythStoreV1)
    (hdecoder : plan.pythDecoderContract = pf.pythPnauDecoderV1) :
    ¬ plan.Below pf.pythOracleV2 := by
  have hnodup := pf.contracts_nodup
  simp only [Platform.contracts, List.nodup_cons, List.mem_cons, List.not_mem_nil, or_false,
    not_or] at hnodup
  rw [ExecutionPlan.Below, hstorage, hdecoder]
  rintro (hstore | hdecoder)
  · exact hnodup.2.2.2.1 hstore.symm
  · exact hnodup.2.2.1.2 hdecoder.symm

/-- The flow that the deployed plan allows the oracle is the one through its own contracts, whoever
calls. -/
theorem allows_oracle_iff (hplan : w.governance.currentExecutionPlan = pf.deployedPlan)
    {executionPlan : ExecutionPlanArg} :
    w.governance.currentExecutionPlan.Allows pf.pythOracleV2 caller (some executionPlan) ↔
      executionPlan = ⟨pf.pythStoreV1, pf.pythPnauDecoderV1, pf.wormholeCoreV2⟩ := by
  have hours : w.governance.currentExecutionPlan.Ours pf := hplan ▸ pf.deployedPlan_ours
  constructor
  · exact hours.matches
  · rintro rfl
    exact .inr ⟨oracle_not_below hours.storage hours.decoder, by rw [hplan]; rfl, _, rfl,
      hours.storage.symm, hours.decoder.symm, hours.wormhole.symm⟩

end Calls

/-! ## The two paid functions

Both check the flow, decode and charge. The update writes in between, and so charges for what is
written instead of what is decoded. -/

section Paid

variable {depth : Nat} {priceFeedBytes : Buff} {executionPlan : ExecutionPlanArg}

/-- **An update in closed form.** The body of the function succeeds exactly when the call names the
contracts of the plan, the message is decoded, there is a block time that the threshold is not
above, something of the message qualifies, and the fee for what qualifies can be paid. `written` is
then what qualifies. -/
theorem verifyAndUpdatePriceFeeds_iff (hk : pf.hkCursor.Lawful)
    (hplan : w.governance.currentExecutionPlan = pf.deployedPlan)
    {written : List PriceUpdate} :
    Oracle.verifyAndUpdatePriceFeeds pf
        (vm pf code (depth + 2) [(pf.pythOracleV2, .verifyAndUpdatePriceFeeds)] env) env caller
        priceFeedBytes executionPlan w = (.ok written, w') ↔
      executionPlan = ⟨pf.pythStoreV1, pf.pythPnauDecoderV1, pf.wormholeCoreV2⟩ ∧
      ∃ prices latest, w.decoded pf priceFeedBytes = .ok prices ∧
        Store.latestBitcoinTimestamp env = .ok latest ∧
        w.governance.stalePriceThreshold ≤ latest ∧
        Store.qualifying w.governance latest w.store prices = written ∧ written ≠ [] ∧
        w.Pays env written.length ∧
        w' = World.charged { w with store := written.foldl Store.Storage.put w.store } env
          written.length := by
  simp only [Oracle.verifyAndUpdatePriceFeeds, Contract.bind_eq_ok, Contract.readOnly_apply,
    Contract.pure_apply, Prod.mk.injEq]
  constructor
  · -- from the answer: each inner call is replaced by what it computes
    rintro ⟨_, _, ⟨hflow, rfl⟩, prices, w₁, hdecode, written', w₂, hwrite, u, _, hfee, hwritten,
      rfl⟩
    cases hwritten
    obtain rfl := (allows_oracle_iff hplan).mp (Governance.checkExecutionFlow_eq_ok.mp hflow).2
    obtain ⟨hsame, hdecoded, -⟩ := vm_decode_ours hk hdecode
    subst w₁
    obtain ⟨st', hbatch, rfl⟩ := vm_write_pythStoreV1 hwrite
    obtain ⟨-, hne, hentries, hallows⟩ := Store.write_eq_ok hbatch
    obtain ⟨latest, hlatest, hthreshold⟩ := hentries.exists_latest hne
    let c : Store.WriteCall := ⟨w.governance, env, pf.pythOracleV2, prices⟩
    have hrun : c.run pf w.store = (.ok written, st') := Contract.transaction_eq_ok.mpr hbatch
    obtain ⟨hresult, hafter⟩ := c.run_eq w.store hallows hlatest hthreshold
    rw [Store.Storage.after, hrun] at hafter
    rw [hrun] at hresult
    split at hresult
    · -- the batch call returned ok, so the error branch of its closed form is out
      cases hresult
    · cases hresult
      obtain ⟨hpays, hw'⟩ := chargeFee_iff.mp hfee
      exact ⟨rfl, prices, latest, hdecoded, hlatest, hthreshold, rfl, hne,
        ⟨hpays.pos, hpays.fits, hpays.different, hpays.enough⟩, hafter ▸ hw'⟩
  · -- to the answer: each inner call is carried out
    rintro ⟨rfl, prices, latest, hdecoded, hlatest, hthreshold, rfl, hne, hpays, rfl⟩
    have hdecode : (vm pf code (depth + 2) [(pf.pythOracleV2, .verifyAndUpdatePriceFeeds)]
        env).decodeAndVerifyPriceFeeds pf.pythOracleV2 pf.pythPnauDecoderV1 priceFeedBytes
          pf.wormholeCoreV2 w = (.ok prices, w) :=
      vm_decode_of_decoded hk hplan (by simp) (by simp) hdecoded
    let c : Store.WriteCall := ⟨w.governance, env, pf.pythOracleV2, prices⟩
    have hallows : w.governance.currentExecutionPlan.Allows pf.pythStoreV1 pf.pythOracleV2
        none := by
      rw [hplan]
      exact .inl ⟨.inl rfl, rfl⟩
    obtain ⟨hresult, hafter⟩ := c.run_eq w.store hallows hlatest hthreshold
    rw [if_neg hne] at hresult
    let written := Store.qualifying w.governance latest w.store prices
    have hwrite : (vm pf code (depth + 2) [(pf.pythOracleV2, .verifyAndUpdatePriceFeeds)]
        env).write pf.pythOracleV2 pf.pythStoreV1 prices w =
          (.ok written, { w with store := written.foldl Store.Storage.put w.store }) :=
      vm_write_of_ok (by simp) (Contract.transaction_eq_ok.mp (Prod.ext hresult hafter))
    exact ⟨true, w, ⟨Governance.checkExecutionFlow_of_allows ((allows_oracle_iff hplan).mpr rfl),
      rfl⟩, prices, w, hdecode, _, _, hwrite, (), _,
      chargeFee_iff.mpr ⟨⟨hpays.pos, hpays.fits, hpays.different, hpays.enough⟩, rfl⟩, rfl, rfl⟩

/-- **A decoding in closed form.** No clock is asked and nothing is stored: the call names the
contracts of the plan, the message is decoded, and the fee is for all of it. -/
theorem decodePriceFeeds_iff (hk : pf.hkCursor.Lawful)
    (hplan : w.governance.currentExecutionPlan = pf.deployedPlan) {prices : List PriceUpdate} :
    Oracle.decodePriceFeeds pf (vm pf code (depth + 2) [(pf.pythOracleV2, .decodePriceFeeds)] env)
        env caller priceFeedBytes executionPlan w = (.ok prices, w') ↔
      executionPlan = ⟨pf.pythStoreV1, pf.pythPnauDecoderV1, pf.wormholeCoreV2⟩ ∧
      w.decoded pf priceFeedBytes = .ok prices ∧ w.Pays env prices.length ∧
        w' = w.charged env prices.length := by
  constructor
  · intro h
    have hours : w.governance.currentExecutionPlan.Ours pf := hplan ▸ pf.deployedPlan_ours
    obtain ⟨hdecoded, hfee⟩ := decodePriceFeeds_eq_ok hk hours h
    simp only [Oracle.decodePriceFeeds, Contract.bind_eq_ok, Contract.readOnly_apply,
      Prod.mk.injEq] at h
    obtain ⟨_, _, ⟨hflow, -⟩, -⟩ := h
    exact ⟨(allows_oracle_iff hplan).mp (Governance.checkExecutionFlow_eq_ok.mp hflow).2, hdecoded,
      chargeFee_iff.mp hfee⟩
  · rintro ⟨rfl, hdecoded, hfee⟩
    have hdecode : (vm pf code (depth + 2) [(pf.pythOracleV2, .decodePriceFeeds)]
        env).decodeAndVerifyPriceFeeds pf.pythOracleV2 pf.pythPnauDecoderV1 priceFeedBytes
          pf.wormholeCoreV2 w = (.ok prices, w) :=
      vm_decode_of_decoded hk hplan (by simp) (by simp) hdecoded
    simp only [Oracle.decodePriceFeeds, Contract.bind_eq_ok, Contract.readOnly_apply,
      Contract.pure_apply, Prod.mk.injEq]
    exact ⟨true, w, ⟨Governance.checkExecutionFlow_of_allows ((allows_oracle_iff hplan).mpr rfl),
      rfl⟩, prices, w, hdecode, (), w', chargeFee_iff.mpr hfee, rfl, rfl⟩

/-- **The paid functions in closed form.** Under the deployed plan, for a transaction of anybody,
with whatever other contracts there are: `verify-and-update-price-feeds` returns ok exactly when it
names the contracts of the plan, the message is decoded, the block before has a time that the
threshold is not above, something of the message is newer than what is recorded and not stale, and
the fee for that can be paid; then it returns and stores just this and moves the fee.
`decode-price-feeds` returns ok exactly when it, too, names the contracts of the plan, the message
is decoded and the fee for all of it can be paid; then it returns the whole message, stale or not,
moves the fee and stores nothing. A call of either kind that fails leaves the world as it was. -/
theorem paid_calls_in_closed_form (hk : pf.hkCursor.Lawful)
    (hplan : w.governance.currentExecutionPlan = pf.deployedPlan) {t : Tx} (hdepth : 2 ≤ t.depth) :
    (t.call = .verifyAndUpdatePriceFeeds priceFeedBytes executionPlan →
      ∀ reply w', t.run pf code w = (.ok reply, w') ↔
        executionPlan = ⟨pf.pythStoreV1, pf.pythPnauDecoderV1, pf.wormholeCoreV2⟩ ∧
        ∃ prices latest, w.decoded pf priceFeedBytes = .ok prices ∧
          Store.latestBitcoinTimestamp t.env = .ok latest ∧
          w.governance.stalePriceThreshold ≤ latest ∧
          let written := Store.qualifying w.governance latest w.store prices
          written ≠ [] ∧ w.Pays t.env written.length ∧ reply = .priceUpdates written ∧
          w' = World.charged { w with store := written.foldl Store.Storage.put w.store } t.env
            written.length) ∧
    (t.call = .decodePriceFeeds priceFeedBytes executionPlan →
      ∀ reply w', t.run pf code w = (.ok reply, w') ↔
        executionPlan = ⟨pf.pythStoreV1, pf.pythPnauDecoderV1, pf.wormholeCoreV2⟩ ∧
        ∃ prices, w.decoded pf priceFeedBytes = .ok prices ∧ w.Pays t.env prices.length ∧
          reply = .priceUpdates prices ∧ w' = w.charged t.env prices.length) ∧
    ∀ e w', t.run pf code w = (.error e, w') → w' = w := by
  obtain ⟨depth, env, caller, call⟩ := t
  obtain ⟨depth, rfl⟩ : ∃ d, depth = d + 2 := ⟨depth - 2, (Nat.sub_add_cancel hdepth).symm⟩
  -- two levels of the call stack are what a paid call needs: the decoder and the wormhole contract
  refine ⟨?_, ?_, fun e w' => exec_error⟩
  · rintro rfl reply w'
    show exec pf code (depth + 2) [] env caller _ w = _ ↔ _
    simp only [exec_eq_ok, List.not_mem_nil, not_false_eq_true, true_and, Call.functionId,
      Call.body, Contract.bind_eq_ok, Contract.pure_apply, Prod.mk.injEq,
      verifyAndUpdatePriceFeeds_iff hk hplan]
    constructor
    · rintro ⟨written, _, ⟨hours, prices, latest, hdecoded, hlatest, hthreshold, rfl, hne, hpays,
        rfl⟩, hreply, rfl⟩
      cases hreply
      exact ⟨hours, prices, latest, hdecoded, hlatest, hthreshold, hne, hpays, rfl, rfl⟩
    · rintro ⟨hours, prices, latest, hdecoded, hlatest, hthreshold, hne, hpays, rfl, rfl⟩
      exact ⟨_, _, ⟨hours, prices, latest, hdecoded, hlatest, hthreshold, rfl, hne, hpays, rfl⟩,
        rfl, rfl⟩
  · rintro rfl reply w'
    show exec pf code (depth + 2) [] env caller _ w = _ ↔ _
    simp only [exec_eq_ok, List.not_mem_nil, not_false_eq_true, true_and, Call.functionId,
      Call.body, Contract.bind_eq_ok, Contract.pure_apply, Prod.mk.injEq,
      decodePriceFeeds_iff hk hplan]
    constructor
    · rintro ⟨prices, _, ⟨hours, hdecoded, hpays, rfl⟩, hreply, rfl⟩
      cases hreply
      exact ⟨hours, prices, hdecoded, hpays, rfl, rfl⟩
    · rintro ⟨hours, prices, hdecoded, hpays, rfl, rfl⟩
      exact ⟨_, _, ⟨hours, hdecoded, hpays, rfl⟩, rfl, rfl⟩

end Paid

section ClosedRun

open ClosedRun

theorem paid_calls_in_closed_form_sampleUpdate :
    ∃ prices, (afterRun (World.step .reference silent) fresh [bootstrap]).decoded .reference
      samplePnau = .ok prices := by
  obtain ⟨hplan, hok, -⟩ := sampleUpdate_run
  have hdepth : 2 ≤ sampleUpdate.depth := by decide
  obtain ⟨-, prices, -, hdecoded, -⟩ := ((paid_calls_in_closed_form Platform.reference_lawful hplan
    hdepth).1 rfl _ _).mp (Contract.run_eq hok)
  exact ⟨prices, hdecoded⟩

end ClosedRun

/-! ## From the publisher to the store

A batch is built off the chain: the messages are hashed, the root goes into a payload that the
guardians sign, and anybody picks the prices they need and submits them with their proofs. Here the
whole way is put together from the round trips of the parsers, the completeness of the Merkle proofs
and the quorum of the signatures. -/

/-- Updates of a published batch with their proofs, under a VAA with the root of the batch. -/
structure Submission where
  decoded : List PriceUpdate
  selected : List (Fin decoded.length)
  vaa : Vaa
  merkleRootSlot : Nat
  merkleRootRingSize : Nat
  payloadTrailing : Buff
  headerTrailing : Buff
  updatesTrailing : Buff

namespace Submission

/-- The prices that were picked, in the order in which they are submitted. -/
def prices (s : Submission) : List PriceUpdate := s.selected.map fun i => s.decoded[i]

/-- The message: the VAA, and each picked price with its proof. -/
def pnauBytes (pf : Platform) (s : Submission) : Buff :=
  pnauMessage s.headerTrailing (WormholeCore.serialize s.vaa)
    (updatesBytes (s.selected.map (submittedOf pf s.decoded)) s.updatesTrailing)

/-- The batch can be published, its root is in the payload of the VAA, a quorum of the active
guardians has signed, and the data source is authorized. -/
structure Genuine (pf : Platform) (w : World φ) (s : Submission) : Prop where
  publishable : ∀ priceUpdate ∈ s.decoded, Publishable priceUpdate
  batch : s.decoded ≠ []
  count : s.decoded.length ≤ 2 ^ 128
  selected : s.selected.length ≤ 64
  payload : ∃ root, merkleRootHash pf (buildPriceUpdateBatch pf s.decoded).hashed = some root ∧
    s.vaa.payload = auwvPayload s.merkleRootSlot s.merkleRootRingSize root s.payloadTrailing
  slot : s.merkleRootSlot < 2 ^ 64
  ringSize : s.merkleRootRingSize < 2 ^ 32
  headerTrailing : s.headerTrailing.length < 2 ^ 8
  vaaLength : (WormholeCore.serialize s.vaa).length < 2 ^ 16
  signed : ∃ guardians, WormholeCore.Addressed pf w.wormhole guardians s.vaa ∧
    WormholeCore.getQuorum guardians.length ≤ (WormholeCore.signerKeys pf guardians s.vaa).card
  source : s.vaa.emitter ∈ w.governance.pricesDataSources

/-- A genuine submission is decoded as the prices that were selected. -/
theorem Genuine.decoded_eq (hk : pf.hkCursor.Lawful) (h : ChecksProofs pf ascending)
    {s : Submission} (hs : s.Genuine pf w) : w.decoded pf (s.pnauBytes pf) = .ok s.prices := by
  obtain ⟨guardians, haddressed, hquorum⟩ := hs.signed
  obtain ⟨root, hroot, hpayload⟩ := hs.payload
  have hpayloadNe : s.vaa.payload ≠ [] := by
    rw [hpayload, auwvPayload]
    exact List.cons_ne_nil _ _
  have hverified : WormholeCore.parseAndVerifyVaa pf w.wormhole (WormholeCore.serialize s.vaa) =
      .ok s.vaa := by
    rw [WormholeCore.parseAndVerifyVaa_serialize hk haddressed hpayloadNe, if_pos hquorum]
  obtain ⟨root', hroot', hlength, hproof⟩ := h.exists_root hs.batch
  obtain rfl : root' = root := Option.some.inj (hroot'.symm.trans hroot)
  have hfits : ∀ update ∈ s.selected.map (submittedOf pf s.decoded), update.Fits := by
    rw [List.forall_mem_map]
    exact fun i _ => h.submittedOf_fits (hs.publishable _ (List.getElem_mem _)) hs.count
  have hproofs : ∀ update ∈ s.selected.map (submittedOf pf s.decoded),
      pf.checkProof root' (messageBytes update) update.proof = true := by
    rw [List.forall_mem_map]
    exact fun i _ => hproof i
  have hcount : (s.selected.map (submittedOf pf s.decoded)).length ≤ 64 := by
    rw [List.length_map]
    exact hs.selected
  have hne : WormholeCore.serialize s.vaa ≠ [] := by
    rw [WormholeCore.serialize, WormholeCore.headerBytes]
    exact List.cons_ne_nil _ _
  -- the parts above are what the round trip of the message asks for
  have hopen : openMessage pf (WormholeCore.parseAndVerifyVaa pf w.wormhole) (s.pnauBytes pf) =
      .ok (s.vaa, root', (s.selected.map (submittedOf pf s.decoded)).map decodedUpdate) :=
    openMessage_pnauMessage hk hs.headerTrailing hs.vaaLength hne
      hverified hpayload hs.slot hs.ringSize hlength hcount hfits hproofs
  have hdecoded : decodePnauPriceUpdate pf (Dispatch.direct pf) (s.pnauBytes pf) pf.wormholeCoreV2
      w = (.ok (((s.selected.map (submittedOf pf s.decoded)).map decodedUpdate).map
        castDecodedPrice), w) :=
    decodePnauPriceUpdate_of_openMessage hopen (fun vaaBytes hok => Prod.ext hok rfl) hs.source
  rw [World.decoded, hdecoded, List.map_map, List.map_map]
  rfl

end Submission

/-- **What is published arrives.** Updates of a published batch under a VAA that a quorum of the
active guardians has signed, for an authorized source: under the deployed plan, and as long as the
block before has a time that the stale price threshold is not above, whoever submits them and can
pay for all of them, with at least one that is new and not stale, succeeds. Then every selected
price that is not stale is on record or overtaken, and a feed for which something new was selected
reads, for anybody, as the newest price that was selected for it. -/
theorem published_prices_delivered (hk : pf.hkCursor.Lawful) (h : ChecksProofs pf ascending)
    (hplan : w.governance.currentExecutionPlan = pf.deployedPlan) {s : Submission}
    (hs : s.Genuine pf w) {t : Tx} (hdepth : 2 ≤ t.depth)
    (hcall : t.call = .verifyAndUpdatePriceFeeds (s.pnauBytes pf)
      ⟨pf.pythStoreV1, pf.pythPnauDecoderV1, pf.wormholeCoreV2⟩)
    {latest : Nat} (hlatest : Store.latestBitcoinTimestamp t.env = .ok latest)
    (hthreshold : w.governance.stalePriceThreshold ≤ latest)
    (hnew : ∃ price ∈ s.prices, w.store.timestamp price.priceIdentifier < price.publishTime ∧
      latest ≤ price.publishTime + w.governance.stalePriceThreshold)
    (hpays : w.Pays t.env s.prices.length) :
    ∃ written w', t.run pf code w = (.ok (.priceUpdates written), w') ∧
      written.Sublist s.prices ∧
      ∀ price ∈ s.prices, latest ≤ price.publishTime + w.governance.stalePriceThreshold →
        price.publishTime ≤ w'.store.timestamp price.priceIdentifier ∧
        (w.store.timestamp price.priceIdentifier < price.publishTime →
          ∃ newest ∈ s.prices, newest.priceIdentifier = price.priceIdentifier ∧
            price.publishTime ≤ newest.publishTime ∧
            ∀ depth env caller, exec pf code (depth + 1) [] env caller
              (.readPriceFeed price.priceIdentifier pf.pythStoreV1) w' =
                (.ok (.priceRecord newest.toPriceRecord), w')) := by
  let written := Store.qualifying w.governance latest w.store s.prices
  have hsub : written.Sublist s.prices := (accepted_sublist _ _).trans List.filter_sublist
  -- the new price qualifies, so the batch is not refused as a whole
  have hne : written ≠ [] := by
    obtain ⟨price, hprice, hnewer, hfresh⟩ := hnew
    intro hnil
    have hle := Store.qualifying_eq_nil_iff.mp hnil price hprice (decide_eq_true hfresh)
    omega
  have hdecoded := hs.decoded_eq hk h
  have hpaysWritten := hpays.mono (List.length_pos_iff.mpr hne) hsub.length_le
  obtain ⟨depth, env, caller, call⟩ := t
  obtain ⟨depth, rfl⟩ : ∃ d, depth = d + 2 := ⟨depth - 2, (Nat.sub_add_cancel hdepth).symm⟩
  obtain rfl : call = _ := hcall
  let w' : World φ := World.charged
    { w with store := written.foldl Store.Storage.put w.store } env written.length
  have hupdate : Oracle.verifyAndUpdatePriceFeeds pf
      (vm pf code (depth + 2) [(pf.pythOracleV2, .verifyAndUpdatePriceFeeds)] env) env caller
      (s.pnauBytes pf) ⟨pf.pythStoreV1, pf.pythPnauDecoderV1, pf.wormholeCoreV2⟩ w =
        (.ok written, w') :=
    (verifyAndUpdatePriceFeeds_iff hk hplan).mpr
      ⟨rfl, s.prices, latest, hdecoded, hlatest, hthreshold, rfl, hne, hpaysWritten, rfl⟩
  refine ⟨written, w', exec_eq_ok.mpr ⟨List.not_mem_nil, Contract.bind_eq_ok.mpr
    ⟨written, w', hupdate, rfl⟩⟩, hsub, fun price hprice hfresh => ?_⟩
  have hnotStale : Store.notStale w.governance latest price = true := decide_eq_true hfresh
  refine ⟨Store.publishTime_le_qualifying hprice hnotStale, fun hnewer => ?_⟩
  obtain ⟨newest, hmem, hid, hle, hread⟩ := Store.read_qualifying hprice hnotStale hnewer
  have hplan' : w'.governance.currentExecutionPlan = pf.deployedPlan := hplan
  exact ⟨newest, hmem, hid, hle, fun _ _ _ => exec_readPriceFeed_of_read hplan' hread⟩

section ClosedRun

open ClosedRun

/-- The first and the last update of the sample batch, the root signed by the guardian. -/
def sampleSubmission : Submission where
  decoded := sampleFeeds
  selected := ([2, 0] : List (Fin 3))
  vaa := WormholeCore.signed (WormholeCore.unsigned 1
    ⟨1, hex "6bb14509a612f01fbbc4cffeebd4bbfb492a86df717ebe92eb6df432a3f00a25"⟩ 1
    (auwvPayload 0 0 ((merkleRootHash merklePlatform
      (buildPriceUpdateBatch merklePlatform sampleFeeds).hashed).getD []) []))
  merkleRootSlot := 0
  merkleRootRingSize := 0
  payloadTrailing := []
  headerTrailing := []
  updatesTrailing := [1]

theorem sampleSubmission_genuine :
    sampleSubmission.Genuine merklePlatform
      (afterRun (World.step merklePlatform silent) fresh [bootstrap]) where
  publishable := sampleFeeds_publishable
  batch := by decide
  count := by decide
  selected := by decide
  payload := by
    obtain ⟨root, hroot⟩ : ∃ root, merkleRootHash merklePlatform
        (buildPriceUpdateBatch merklePlatform sampleFeeds).hashed = some root :=
      Option.isSome_iff_exists.mp (by decide +kernel)
    refine ⟨root, hroot, ?_⟩
    show auwvPayload 0 0 ((merkleRootHash merklePlatform
      (buildPriceUpdateBatch merklePlatform sampleFeeds).hashed).getD []) [] = _
    rw [hroot]
    rfl
  slot := by decide
  ringSize := by decide
  headerTrailing := by decide
  vaaLength := by decide +kernel
  signed := by
    refine ⟨[⟨WormholeCore.compressedKey WormholeCore.guardianKey, WormholeCore.guardianKey⟩], ?_,
      by decide +kernel⟩
    refine ⟨by decide +kernel, ?_, rfl, by decide +kernel, rfl, by decide, by decide⟩
    constructor <;> decide +kernel
  source := by decide +kernel

def submit : Tx :=
  txOf (.verifyAndUpdatePriceFeeds (sampleSubmission.pnauBytes merklePlatform)
    ⟨merklePlatform.pythStoreV1, merklePlatform.pythPnauDecoderV1, merklePlatform.wormholeCoreV2⟩)

theorem published_prices_delivered_sampleSubmission :
    ∃ written w', submit.run merklePlatform silent
        (afterRun (World.step merklePlatform silent) fresh [bootstrap]) =
      (.ok (.priceUpdates written), w') := by
  have hpays : (afterRun (World.step merklePlatform silent) fresh [bootstrap]).Pays submit.env
      sampleSubmission.prices.length := by
    constructor <;> decide +kernel
  have hlatest : Store.latestBitcoinTimestamp submit.env = .ok 157680010 := rfl
  have hnew : ∃ price ∈ sampleSubmission.prices,
      (afterRun (World.step merklePlatform silent) fresh [bootstrap]).store.timestamp
        price.priceIdentifier < price.publishTime ∧
      157680010 ≤ price.publishTime +
        (afterRun (World.step merklePlatform silent) fresh
          [bootstrap]).governance.stalePriceThreshold :=
    ⟨_, List.mem_cons_self, by decide +kernel⟩
  have hplan : (afterRun (World.step merklePlatform silent) fresh
      [bootstrap]).governance.currentExecutionPlan = merklePlatform.deployedPlan := by
    decide +kernel
  have hthreshold : (afterRun (World.step merklePlatform silent) fresh
      [bootstrap]).governance.stalePriceThreshold ≤ 157680010 := by
    decide +kernel
  have hdepth : 2 ≤ submit.depth := by decide
  obtain ⟨written, w', hrun, -⟩ := published_prices_delivered merklePlatform_lawful
    merklePlatform_checksProofs hplan sampleSubmission_genuine hdepth rfl hlatest hthreshold hnew
    hpays
  exact ⟨written, w', hrun⟩

end ClosedRun

end PythBridge
