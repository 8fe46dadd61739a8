import PythBridge.Pyth.Pnau
import PythBridge.Pyth.StoreRuns
import PythBridge.System.Frames

/-!
# The repository's contracts in their roles

What a trait call does when the trait argument is the repository's own contract of that
role, and what the bodies of the oracle do when all three arguments are: then no code
outside the repository runs.

Under the plan of the deployment this is the normal case, and it is the one in which something can
be said about the result: `World.decoded` is the price list of a message as a function of the world,
`chargeFee_eq_ok` is the exact fee, and a successful call of the oracle is taken apart into the
attestation behind the prices, the chain of entries that were written, and the fee
(`verifyAndUpdatePriceFeeds_eq_ok`, `decodePriceFeeds_eq_ok`).
-/

namespace PythBridge

open Clarity

variable {φ : Type} {pf : Platform} {code : ForeignCode φ} {depth : Nat}
  {stack : List FunctionId} {env : TxEnv} {caller : Principal} {w w' : World φ}

/-! ## Trait calls

The principal of the repository's own contract selects the repository's code; the case `depth = 0`
aborts. Reading functions leave the world as it is. -/

/-- Verifying with `wormhole-core-v2` reads only. -/
theorem vm_parseAndVerifyVaa_wormholeCoreV2 {vaaBytes : Buff} {vaa : Vaa}
    (h : (vm pf code depth stack env).parseAndVerifyVaa caller pf.wormholeCoreV2 vaaBytes w =
      (.ok vaa, w')) :
    w' = w ∧ WormholeCore.parseAndVerifyVaa pf w.wormhole vaaBytes = .ok vaa := by
  cases depth with
  | zero => cases h
  | succ depth =>
    simp only [vm, if_pos] at h
    obtain ⟨-, hbody⟩ := enter_eq_ok.mp h
    rw [Contract.readOnly_apply, Prod.mk.injEq] at hbody
    exact ⟨hbody.2.symm, hbody.1⟩

/-- Decoding with `pyth-pnau-decoder-v1` runs its body one level below. -/
theorem vm_decodeAndVerifyPriceFeeds_pythPnauDecoderV1 {pnauBytes : Buff}
    {wormholeCore : Principal} {prices : List PriceUpdate}
    (h : (vm pf code depth stack env).decodeAndVerifyPriceFeeds caller pf.pythPnauDecoderV1
      pnauBytes wormholeCore w = (.ok prices, w')) :
    ∃ depth' stack', PnauDecoder.decodeAndVerifyPriceFeeds pf (vm pf code depth' stack' env)
      caller pnauBytes wormholeCore w = (.ok prices, w') := by
  cases depth with
  | zero => cases h
  | succ depth =>
    simp only [vm, if_pos] at h
    obtain ⟨-, h⟩ := enter_eq_ok.mp h
    exact ⟨_, _, h⟩

theorem vm_read_pythStoreV1 {priceIdentifier : Buff} {record : PriceRecord}
    (h : (vm pf code depth stack env).read caller pf.pythStoreV1 priceIdentifier w =
      (.ok record, w')) :
    w' = w ∧ Store.read w.store priceIdentifier = .ok record := by
  cases depth with
  | zero => cases h
  | succ depth =>
    simp only [vm, if_pos] at h
    obtain ⟨-, hbody⟩ := enter_eq_ok.mp h
    rw [Contract.readOnly_apply, Prod.mk.injEq] at hbody
    exact ⟨hbody.2.symm, hbody.1⟩

/-- Writing with `pyth-store-v1` changes its storage and nothing else. -/
theorem vm_write_pythStoreV1 {batchUpdates written : List PriceUpdate}
    (h : (vm pf code depth stack env).write caller pf.pythStoreV1 batchUpdates w =
      (.ok written, w')) :
    ∃ st', Store.write pf w.governance env caller batchUpdates w.store = (.ok written, st') ∧
      w' = { w with store := st' } := by
  cases depth with
  | zero => cases h
  | succ depth =>
    simp only [vm, if_pos] at h
    obtain ⟨-, hbody⟩ := enter_eq_ok.mp h
    obtain ⟨st', hwrite, hst'⟩ := Contract.zoom_eq_ok.mp hbody
    exact ⟨st', hwrite, hst'.symm⟩

/-- A write that fails has no effect, whichever contract was asked. -/
theorem vm_write_error {target : Principal} {batchUpdates : List PriceUpdate} {e : Exit}
    (h : (vm pf code depth stack env).write caller target batchUpdates w = (.error e, w')) :
    w' = w := by
  -- without depth left the call aborts, and nothing has been done
  cases depth with
  | zero =>
    cases h
    rfl
  | succ depth =>
    simp only [vm] at h
    split at h
    · exact enter_error h
    · split at h
      · cases h
        rfl
      · exact enter_error h

/-! ## The fee

A transfer has four ways to be refused, and the source answers each with `u402`. -/

/-- A transfer that succeeds passed all four checks and moved the amount. -/
theorem World.stxTransfer_eq_ok {amount : Nat} {sender recipient : Principal} {done : Bool} :
    World.stxTransfer (φ := φ) env amount sender recipient w = (.ok (.ok done), w') ↔
      (0 < amount ∧ sender ≠ recipient ∧ sender = env.txSender ∧ amount ≤ w.balances sender) ∧
        true = done ∧
        { w with balances := World.moveStx w.balances amount sender recipient } = w' := by
  unfold World.stxTransfer
  constructor
  · -- the checks in the order of the machine
    intro h
    split at h
    · cases h
    · next hzero =>
      split at h
      · cases h
      · next hdifferent =>
        split at h
        · cases h
        · next hsender =>
          split at h
          · cases h
          · next henough =>
            cases h
            exact ⟨⟨Nat.pos_of_ne_zero hzero, hdifferent, not_not.mp hsender,
              Nat.le_of_not_lt henough⟩, rfl, rfl⟩
  · rintro ⟨⟨hpos, hdifferent, hsender, henough⟩, rfl, rfl⟩
    rw [if_neg (Nat.ne_of_gt hpos), if_neg hdifferent, if_neg (not_not_intro hsender),
      if_neg (Nat.not_lt.mpr henough)]

/-- **The fee.** A charge that succeeds moves the exact fee, which is positive, from the sender
to the recipient, who are different, and nothing else. -/
theorem chargeFee_eq_ok {count : Nat} {u : Unit}
    (h : Oracle.chargeFee (φ := φ) env count w = (.ok u, w')) :
    let fee := count * (w.governance.feeValue.mantissa * 10 ^ w.governance.feeValue.exponent)
    0 < fee ∧ env.txSender ≠ w.governance.feeRecipientAddress ∧ fee ≤ w.balances env.txSender ∧
      w' = { w with balances :=
        World.moveStx w.balances fee env.txSender w.governance.feeRecipientAddress } := by
  simp only [Oracle.chargeFee, Contract.bind_eq_ok, Contract.gets_apply, Contract.lift_apply,
    Contract.pure_apply, Prod.mk.injEq, Oracle.feeAmount_eq_ok, unwrap_eq_ok] at h
  obtain ⟨info, _, ⟨hinfo, rfl⟩, amount, _, ⟨⟨-, -, -, rfl⟩, rfl⟩, transferred, w₁, htransfer,
    _, _, ⟨rfl, rfl⟩, -, rfl⟩ := h
  cases hinfo
  obtain ⟨⟨hpos, hdifferent, -, henough⟩, -, rfl⟩ := World.stxTransfer_eq_ok.mp htransfer
  exact ⟨hpos, hdifferent, henough, rfl⟩

/-! ## The oracle under the repository's contracts

A caller names three contracts, and the plan makes them the repository's. -/

/-- The plan names the repository's storage, decoder and wormhole contract. -/
structure ExecutionPlan.Ours (pf : Platform) (plan : ExecutionPlan) : Prop where
  storage : plan.pythStorageContract = pf.pythStoreV1
  decoder : plan.pythDecoderContract = pf.pythPnauDecoderV1
  wormhole : plan.wormholeCoreContract = pf.wormholeCoreV2

theorem Platform.deployedPlan_ours (pf : Platform) : pf.deployedPlan.Ours pf := ⟨rfl, rfl, rfl⟩

/-- An attestation under the guardians and the data sources of a world. -/
abbrev World.Attestation (pf : Platform) (w : World φ) (pnauBytes : Buff) :=
  PnauDecoder.Attestation pf
    (fun vaaBytes vaa => WormholeCore.parseAndVerifyVaa pf w.wormhole vaaBytes = .ok vaa)
    w.governance.pricesDataSources pnauBytes

/-- What the oracle is let through with: the three contracts of the repository. -/
theorem ExecutionPlan.Ours.matches {plan : ExecutionPlan} (h : plan.Ours pf)
    {executionPlan : ExecutionPlanArg}
    (hallows : plan.Allows pf.pythOracleV2 caller (some executionPlan)) :
    executionPlan = ⟨pf.pythStoreV1, pf.pythPnauDecoderV1, pf.wormholeCoreV2⟩ := by
  have hnodup := pf.contracts_nodup
  simp only [Platform.contracts, List.nodup_cons, List.mem_cons, List.not_mem_nil, or_false,
    not_or] at hnodup
  -- the oracle is neither the store nor the decoder, so it is not below itself
  rcases hallows with ⟨hbelow, -⟩ | ⟨-, -, other, hother, hstorage, hdecoder, hwormhole⟩
  · rw [ExecutionPlan.Below, h.storage, h.decoder] at hbelow
    rcases hbelow with hstore | hdecoder
    · exact absurd hstore.symm hnodup.2.2.2.1
    · exact absurd hdecoder.symm hnodup.2.2.1.2
  · cases hother
    cases executionPlan
    simp only [h.storage, h.decoder, h.wormhole] at hstorage hdecoder hwormhole
    rw [hstorage, hdecoder, hwormhole]

/-- Trait calls that go straight to the verification of `wormhole-core-v2`; a decoder makes no
others. -/
def Dispatch.direct (pf : Platform) : Dispatch (World φ) where
  parseAndVerifyVaa _ _ vaaBytes :=
    .readOnly fun w => WormholeCore.parseAndVerifyVaa pf w.wormhole vaaBytes
  decodeAndVerifyPriceFeeds _ _ _ _ := .lift (.error .abort)
  read _ _ _ := .lift (.error .abort)
  write _ _ _ := .lift (.error .abort)

/-- The prices of a message under the repository's contracts. -/
def World.decoded (pf : Platform) (w : World φ) (priceFeedBytes : Buff) :
    Exec (List PriceUpdate) :=
  (PnauDecoder.decodePnauPriceUpdate pf (Dispatch.direct pf) priceFeedBytes pf.wormholeCoreV2
    w).1

/-- Decoding with the repository's contracts reads only; the prices are those of the message,
whatever is running, and they are attested. -/
theorem vm_decode_ours (hk : pf.hkCursor.Lawful) {priceFeedBytes : Buff}
    {prices : List PriceUpdate}
    (h : (vm pf code depth stack env).decodeAndVerifyPriceFeeds caller pf.pythPnauDecoderV1
      priceFeedBytes pf.wormholeCoreV2 w = (.ok prices, w')) :
    w' = w ∧ w.decoded pf priceFeedBytes = .ok prices ∧
      ∃ a : w.Attestation pf priceFeedBytes,
        prices = a.updates.map PnauDecoder.castDecodedPrice := by
  obtain ⟨depth', stack', h⟩ := vm_decodeAndVerifyPriceFeeds_pythPnauDecoderV1 h
  obtain ⟨-, h⟩ := PnauDecoder.decodeAndVerifyPriceFeeds_eq_ok h
  have hdirect := PnauDecoder.decodePnauPriceUpdate_congr (Dispatch.direct pf) h
    fun vaaBytes vaa w₁ hvaa => by
      obtain ⟨rfl, hok⟩ := vm_parseAndVerifyVaa_wormholeCoreV2 hvaa
      exact congrArg (·, w₁) hok
  obtain ⟨a, rfl⟩ := PnauDecoder.decodePnauPriceUpdate_eq_ok hk h
  obtain ⟨rfl, hverified⟩ := vm_parseAndVerifyVaa_wormholeCoreV2 a.verified
  exact ⟨rfl, by rw [World.decoded, hdirect], { a with verified := hverified }, rfl⟩

/-- **A successful update.** Attested prices are decoded, a sublist of them is written, and
the fee for those is charged; nothing else happens. -/
theorem verifyAndUpdatePriceFeeds_eq_ok (hk : pf.hkCursor.Lawful) {priceFeedBytes : Buff}
    {executionPlan : ExecutionPlanArg} {written : List PriceUpdate}
    (hours : w.governance.currentExecutionPlan.Ours pf)
    (h : Oracle.verifyAndUpdatePriceFeeds pf (vm pf code depth stack env) env caller
      priceFeedBytes executionPlan w = (.ok written, w')) :
    ∃ (a : w.Attestation pf priceFeedBytes) (st' : Store.Storage),
      w.decoded pf priceFeedBytes = .ok (a.updates.map PnauDecoder.castDecodedPrice) ∧
      written.Sublist (a.updates.map PnauDecoder.castDecodedPrice) ∧ written ≠ [] ∧
      Store.Written w.governance env w.store written st' ∧
      Oracle.chargeFee env written.length { w with store := st' } = (.ok (), w') := by
  simp only [Oracle.verifyAndUpdatePriceFeeds, Contract.bind_eq_ok, Contract.readOnly_apply,
    Contract.pure_apply, Prod.mk.injEq] at h
  obtain ⟨_, _, ⟨hflow, rfl⟩, prices, w₁, hdecode, written', w₂, hwrite, u, _, hfee, hwritten,
    rfl⟩ := h
  cases hwritten
  obtain rfl := hours.matches (Governance.checkExecutionFlow_eq_ok.mp hflow).2
  obtain ⟨rfl, hdecoded, a, rfl⟩ := vm_decode_ours hk hdecode
  obtain ⟨st', hbatch, rfl⟩ := vm_write_pythStoreV1 hwrite
  obtain ⟨hsub, hne, hentries, -⟩ := Store.write_eq_ok hbatch
  exact ⟨a, st', hdecoded, hsub, hne, hentries, hfee⟩

/-- **A successful decoding.** The prices of the message are returned and the fee for them is
charged. -/
theorem decodePriceFeeds_eq_ok (hk : pf.hkCursor.Lawful) {priceFeedBytes : Buff}
    {executionPlan : ExecutionPlanArg} {prices : List PriceUpdate}
    (hours : w.governance.currentExecutionPlan.Ours pf)
    (h : Oracle.decodePriceFeeds pf (vm pf code depth stack env) env caller priceFeedBytes
      executionPlan w = (.ok prices, w')) :
    w.decoded pf priceFeedBytes = .ok prices ∧
      Oracle.chargeFee env prices.length w = (.ok (), w') := by
  simp only [Oracle.decodePriceFeeds, Contract.bind_eq_ok, Contract.readOnly_apply,
    Contract.pure_apply, Prod.mk.injEq] at h
  obtain ⟨_, _, ⟨hflow, rfl⟩, prices', w₁, hdecode, u, _, hfee, hprices, rfl⟩ := h
  cases hprices
  obtain rfl := hours.matches (Governance.checkExecutionFlow_eq_ok.mp hflow).2
  obtain ⟨rfl, hdecoded, -⟩ := vm_decode_ours hk hdecode
  exact ⟨hdecoded, hfee⟩

end PythBridge
