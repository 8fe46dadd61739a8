import PythBridge.Pyth.Batches
import PythBridge.System.Fees
import PythBridge.System.GovernanceRoundTrip

/-!
# Values that governance accepts

The body of a governance message is decoded without a look at what its value is used for. Three
kinds of value can stop the price flow: a fee that overflows, a threshold above the block time,
and an account where the execution plan needs a contract. For each of them, which messages keep
the flow open is a condition on the bytes of the message; the runs are those of
`pyth-governance-v1` by itself, where `Reachable.runs` leads.

The crux in all three is the same. A message is *executed* on the state of governance or it leaves
the state alone, so a property of governance that holds at deployment and that one executed message
keeps exactly when its bytes meet a condition holds throughout a run exactly when all messages of
the run meet it (`Executions.forall_states_iff`). What is left for each value is one lemma about one
message, with a case for the function that writes the value and none for the other functions.

* `fees_computed_iff`: the fee for 1 to 64 prices is computed in every state, exactly when every
  message for a new fee is bounded.
* `stalenessExact_iff`: the staleness check refuses old prices and nothing else, exactly when the
  threshold is not above the block time.
* `plan_names_contracts_iff`: the four roles are given to contracts in every state, exactly when
  every message for a role carries a contract principal.

Each result comes with a message that breaks its condition and is accepted all the same, and with
what the system does after it.
-/

namespace PythBridge

open Clarity

variable {φ : Type} {pf : Platform} {code : ForeignCode φ}

/-! ## Fees

The fee of a call is `count * (mantissa * 10 ^ exponent)`, all of it in unsigned 128-bit arithmetic
that aborts on an overflow. The largest batch has 64 prices, so the fee is computable for every
batch as soon as it is for 64. Governance stores mantissa and exponent as two 64-bit numbers and
multiplies nothing. -/

namespace Governance

/-- The fee for the longest list of prices fits a `uint`, and so does the power of ten. -/
def FeeValue.Bounded (value : FeeValue) : Prop :=
  value.exponent ≤ 38 ∧ 64 * (value.mantissa * 10 ^ value.exponent) < 2 ^ 128

/-- Mantissa and exponent, where a message for a new fee has them. -/
def feeValueOf (payload : Buff) : FeeValue :=
  ⟨buffToUintBe ((payload.drop 8).take 8), buffToUintBe ((payload.drop 16).take 8)⟩

/-- For every list of 1 to 64 prices the fee is a `uint` and is computed. -/
def FeeComputed (st : Storage) : Prop :=
  ∀ count, 1 ≤ count → count ≤ 64 →
    count * (st.feeValue.mantissa * 10 ^ st.feeValue.exponent) < 2 ^ 128 ∧
      Oracle.feeAmount (getFeeInfo st) count =
        .ok (count * (st.feeValue.mantissa * 10 ^ st.feeValue.exponent))

theorem feeComputed_iff {st : Storage} : FeeComputed st ↔ st.feeValue.Bounded := by
  constructor
  · -- the longest list has the largest fee, so one instance decides
    intro h
    obtain ⟨hfits, hamount⟩ := h 64 (by decide) le_rfl
    exact ⟨(Oracle.feeAmount_eq_ok.mp hamount).1, hfits⟩
  · rintro ⟨hexponent, hfits⟩ count hone hcount
    have hunit : st.feeValue.mantissa * 10 ^ st.feeValue.exponent ≤
        count * (st.feeValue.mantissa * 10 ^ st.feeValue.exponent) :=
      Nat.le_mul_of_pos_left _ hone
    have hmax : count * (st.feeValue.mantissa * 10 ^ st.feeValue.exponent) < 2 ^ 128 :=
      (Nat.mul_le_mul_right _ hcount).trans_lt hfits
    exact ⟨hmax, Oracle.feeAmount_eq_ok.mpr ⟨hexponent, hunit.trans_lt hmax, hmax, rfl⟩⟩

theorem UpdateFunction.replace_feeValue {u : UpdateFunction} (hu : u ≠ .feeValue)
    (value : u.Value) (st : Storage) : (u.replace value st).feeValue = st.feeValue := by
  cases u with
  | feeValue => exact absurd rfl hu
  | _ => rfl

theorem deployed_feeComputed (pf : Platform) : FeeComputed (.deployed pf) :=
  feeComputed_iff.mpr (show FeeValue.Bounded ⟨1, 1⟩ from ⟨by decide, by decide⟩)

/-- One message: only a new fee matters. -/
theorem Executes.feeComputed_iff (hk : pf.hkCursor.Lawful) {u : UpdateFunction} {vaa : Vaa}
    {st st' : Storage} (h : Executes pf u vaa st st') (hst : FeeComputed st) :
    FeeComputed st' ↔ (u = .feeValue → (feeValueOf vaa.payload).Bounded) := by
  obtain ⟨value, hvalue, rfl⟩ := h.exists_value
  rw [Governance.feeComputed_iff] at hst ⊢
  -- only the function for the fee writes the fee; the others keep what there was
  by_cases hu : u = .feeValue
  · subst hu
    have hfee : value = feeValueOf vaa.payload := by
      rw [parseAndVerifyFeeValue_eq_ok hk hvalue, feeValueOf, List.drop_drop]
    rw [← hfee]
    exact ⟨fun hbounded _ => hbounded, fun hbounded => hbounded rfl⟩
  · rw [UpdateFunction.replace_feeValue hu]
    exact ⟨fun _ hfee => absurd hfee hu, fun _ => hst⟩

end Governance

/-- **When fees do not overflow.** The governance of every reachable world is the end of a run
of executed messages; and in every state of such a run the fee for 1 to 64 prices is computed
and below `2 ^ 128`, exactly when every message for a new fee has an exponent of at most 38 and
a fee for 64 prices below `2 ^ 128`. -/
theorem fees_computed_iff (hk : pf.hkCursor.Lawful) (code : ForeignCode φ) :
    (∀ w : World φ, Reachable pf code w →
      ∃ messages, Executions pf (.deployed pf) messages w.governance) ∧
    ∀ messages st, Executions pf (.deployed pf) messages st →
      ((∀ before m, before <+: messages → Executions pf (.deployed pf) before m →
          Governance.FeeComputed m) ↔
        ∀ message ∈ messages, message.1 = .feeValue →
          (Governance.feeValueOf message.2.payload).Bounded) := by
  -- the first part is where runs of messages come from, the second is induction over one
  refine ⟨fun w hw => hw.executions hk, fun messages st h => ?_⟩
  exact h.forall_states_iff (fun _ _ _ hexecutes hst => hexecutes.feeComputed_iff hk hst)
    (Governance.deployed_feeComputed pf)

section ClosedRun

open ClosedRun

/-- The world after one governance message. -/
def governedBy (u : Governance.UpdateFunction) (body : Buff) : World Unit :=
  afterRun (World.step .reference silent) fresh [bootstrap, .tx (govern u 5 body)]

theorem governedBy_reachable (u : Governance.UpdateFunction) (body : Buff) :
    Reachable .reference silent (governedBy u body) :=
  have hexternal : account ∉ Platform.reference.contracts := by decide
  ⟨fresh, _, ⟨rfl, rfl, rfl⟩, by
    simp only [List.forall_mem_cons]
    exact ⟨hexternal, hexternal, fun _ h => by cases h⟩, rfl⟩

/-- A fee of 700. -/
def feeBody : Buff := uintToBuffBe 8 7 ++ uintToBuffBe 8 2

def afterFee : Governance.Storage :=
  { Governance.Storage.deployed .reference with feeValue := ⟨7, 2⟩, lastSequenceProcessed := 5 }

theorem fees_computed_iff_oneMessage : Governance.FeeComputed afterFee := by
  have hexecutes : Governance.Executes .reference .feeValue (message .feeValue 5 feeBody)
      (.deployed .reference) afterFee :=
    ⟨rfl, by decide, feeBody, rfl, by decide +kernel⟩
  have hrun : Executions .reference (.deployed .reference)
      [(.feeValue, message .feeValue 5 feeBody)] afterFee :=
    .single hexecutes
  refine (((fees_computed_iff Platform.reference_lawful silent).2 _ _ hrun).mpr ?_) _ _
    List.prefix_rfl hrun
  intro m hm _
  obtain rfl := List.mem_singleton.mp hm
  exact ⟨by decide +kernel, by decide +kernel⟩

/-- Mantissa 1 and exponent 39. -/
def overflowingFee : Buff := uintToBuffBe 8 1 ++ uintToBuffBe 8 39

/-- After an accepted message for a fee of `10 ^ 39` the sample update aborts. -/
theorem overflowing_fee_aborts_updates :
    ∃ w : World Unit, Reachable .reference silent w ∧ ¬ Governance.FeeComputed w.governance ∧
      (sampleUpdate.run .reference silent w).1 = .error .abort := by
  have hrun : (governedBy .feeValue overflowingFee).governance.feeValue = ⟨1, 39⟩ ∧
      (sampleUpdate.run .reference silent (governedBy .feeValue overflowingFee)).1 =
        .error .abort := by
    decide +kernel
  obtain ⟨hfee, habort⟩ := hrun
  refine ⟨_, governedBy_reachable .feeValue overflowingFee, fun hcomputed => ?_, habort⟩
  obtain ⟨hexponent, -⟩ := Governance.feeComputed_iff.mp hcomputed
  rw [hfee] at hexponent
  exact absurd hexponent (by decide)

end ClosedRun

/-! ## Staleness

The store compares the publish time with `latest - threshold`, and on unsigned numbers that
subtraction aborts when the threshold is above the block time. Below, the three outcomes of the
check on a newer entry are named and the condition for them to be exact is found. -/

namespace Store

/-- The staleness check on an entry that is newer than its record, at the block time
`latest`: it does not abort, it refuses what is older than the threshold allows and nothing
else. -/
structure StalenessExact (gov : Governance.Storage) (env : TxEnv) (latest : Nat) (st : Storage)
    (entry : PriceUpdate) : Prop where
  total : (writeBatchEntry gov env entry st).1 ≠ .error .abort
  rejects : (writeBatchEntry gov env entry st).1 = .error (.err errStalePrice) ↔
    entry.publishTime + gov.stalePriceThreshold < latest
  accepts : latest ≤ entry.publishTime + gov.stalePriceThreshold →
    writeBatchEntry gov env entry st = (.ok entry, st.put entry)

/-- **When the staleness check is total and exact.** For every threshold, block time and newer
entry: exactly when the threshold is not above the time of the previous block. -/
theorem stalenessExact_iff {gov : Governance.Storage} {env : TxEnv} {latest : Nat} {st : Storage}
    {entry : PriceUpdate} (hblock : 0 < env.blockHeight)
    (htime : env.blockTime (env.blockHeight - 1) = some latest)
    (hnewer : st.timestamp entry.priceIdentifier < entry.publishTime) :
    StalenessExact gov env latest st entry ↔ gov.stalePriceThreshold ≤ latest := by
  have hlatest : latestBitcoinTimestamp env = .ok latest := by
    rw [latestBitcoinTimestamp_eq hblock, htime]
    rfl
  constructor
  · -- an underflow aborts on this very entry, against totality
    intro hexact
    by_contra hunder
    exact hexact.total
      (congrArg Prod.fst (writeBatchEntry_of_underflow hlatest hnewer (Nat.not_le.mp hunder)))
  · intro hthreshold
    -- without underflow the check is decided by the comparison it was meant to make
    by_cases hfresh : latest ≤ entry.publishTime + gov.stalePriceThreshold
    · have hwritten := writeBatchEntry_of_newer hlatest hthreshold hnewer (decide_eq_true hfresh)
      refine ⟨?_, ?_, fun _ => hwritten⟩
      · rw [hwritten]
        exact nofun
      · rw [hwritten]
        exact ⟨nofun, fun hstale => absurd hfresh (Nat.not_le.mpr hstale)⟩
    · have hstale := writeBatchEntry_of_stale hlatest hnewer (Nat.not_le.mp hfresh)
      refine ⟨?_, ?_, fun hle => absurd hle hfresh⟩
      · rw [hstale]
        exact nofun
      · rw [hstale]
        exact ⟨fun _ => Nat.not_le.mp hfresh, fun _ => rfl⟩

/-- A threshold ten seconds below the block time. -/
theorem stalenessExact_iff_samplePrice :
    StalenessExact (.deployed .reference) ClosedRun.sampleEnv (5 * 365 * 24 * 60 * 60 + 10)
      .deployed samplePrice :=
  (stalenessExact_iff (by decide) rfl (by decide)).mpr (by decide)

end Store

section ClosedRun

open ClosedRun

/-- After an accepted message for the greatest threshold, with which no price is stale, a newer
entry ends the whole update. -/
theorem never_stale_aborts_updates :
    ∃ w : World Unit, Reachable .reference silent w ∧
      w.governance.stalePriceThreshold = 2 ^ 64 - 1 ∧
      w.store.timestamp samplePrice.priceIdentifier < samplePrice.publishTime ∧
      (Store.writeBatchEntry w.governance sampleEnv samplePrice w.store).1 = .error .abort ∧
      ¬ Store.StalenessExact w.governance sampleEnv (5 * 365 * 24 * 60 * 60 + 10) w.store
        samplePrice ∧
      (sampleUpdate.run .reference silent w).1 = .error .abort := by
  have hrun : let w := governedBy .stalePriceThreshold (uintToBuffBe 8 (2 ^ 64 - 1))
      w.governance.stalePriceThreshold = 2 ^ 64 - 1 ∧
      w.store.timestamp samplePrice.priceIdentifier < samplePrice.publishTime ∧
      (Store.writeBatchEntry w.governance sampleEnv samplePrice w.store).1 = .error .abort ∧
      (sampleUpdate.run .reference silent w).1 = .error .abort := by
    decide +kernel
  obtain ⟨hthreshold, hnewer, habort, hupdate⟩ := hrun
  exact ⟨_, governedBy_reachable _ _, hthreshold, hnewer, habort,
    fun hexact => hexact.total habort, hupdate⟩

end ClosedRun

/-! ## Contracts in the execution plan

Governance decodes a principal with `from-consensus-buff?` and installs it in the plan, be it a
contract or an account. The type prefix is the byte behind the length of the principal, so the
condition is one byte of the message. An account in the plan can never be passed as a trait again,
hence the plan has to name contracts for the system to go on. -/

/-- Every role of the plan is given to a contract. -/
structure ExecutionPlan.NamesContracts (plan : ExecutionPlan) : Prop where
  oracle : plan.pythOracleContract.IsContract
  decoder : plan.pythDecoderContract.IsContract
  storage : plan.pythStorageContract.IsContract
  wormhole : plan.wormholeCoreContract.IsContract

theorem Platform.deployedPlan_namesContracts (pf : Platform) : pf.deployedPlan.NamesContracts :=
  ⟨⟨_, _, rfl⟩, ⟨_, _, rfl⟩, ⟨_, _, rfl⟩, ⟨_, _, rfl⟩⟩

namespace Governance

/-- The functions that change the plan. -/
def UpdateFunction.InPlan : UpdateFunction → Prop
  | wormholeCoreContract | pythOracleContract | pythDecoderContract | pythStoreContract => True
  | _ => False

/-- One message: only the four functions of the plan matter, and for them the byte behind the
length of the principal. -/
theorem Executes.namesContracts_iff (hk : pf.hkCursor.Lawful) {u : UpdateFunction} {vaa : Vaa}
    {st st' : Storage} (h : Executes pf u vaa st st')
    (hst : st.currentExecutionPlan.NamesContracts) :
    st'.currentExecutionPlan.NamesContracts ↔ (u.InPlan → vaa.payload[9]? = some 0x06) := by
  obtain ⟨value, hvalue, rfl⟩ := h.exists_value
  have hprincipal : ∀ p, parsePrincipal pf (vaa.payload.drop 8) = .ok p →
      (p.IsContract ↔ vaa.payload[9]? = some 0x06) := fun p hp => by
    rw [parsePrincipal_isContract_iff hk hp, List.getElem?_drop]
  -- each function of the plan replaces one role; the other three are kept from `hst`
  cases u with
  | wormholeCoreContract =>
    rw [← hprincipal value hvalue]
    exact ⟨fun hplan _ => hplan.wormhole,
      fun hcontract => { hst with wormhole := hcontract trivial }⟩
  | pythOracleContract =>
    rw [← hprincipal value hvalue]
    exact ⟨fun hplan _ => hplan.oracle,
      fun hcontract => { hst with oracle := hcontract trivial }⟩
  | pythDecoderContract =>
    rw [← hprincipal value hvalue]
    exact ⟨fun hplan _ => hplan.decoder,
      fun hcontract => { hst with decoder := hcontract trivial }⟩
  | pythStoreContract =>
    rw [← hprincipal value hvalue]
    exact ⟨fun hplan _ => hplan.storage,
      fun hcontract => { hst with storage := hcontract trivial }⟩
  | feeValue | stalePriceThreshold | feeRecipientAddress | pricesDataSources |
    governanceDataSource => exact ⟨fun _ hno => absurd hno id, fun _ => hst⟩

end Governance

/-- **When the plan names contracts.** The governance of every reachable world is the end of a
run of executed messages; and in every state of such a run all four roles are given to
contracts, exactly when every message of the four functions of the plan has a principal with
the type prefix of contracts. -/
theorem plan_names_contracts_iff (hk : pf.hkCursor.Lawful) (code : ForeignCode φ) :
    (∀ w : World φ, Reachable pf code w →
      ∃ messages, Executions pf (.deployed pf) messages w.governance) ∧
    ∀ messages st, Executions pf (.deployed pf) messages st →
      ((∀ before m, before <+: messages → Executions pf (.deployed pf) before m →
          m.currentExecutionPlan.NamesContracts) ↔
        ∀ message ∈ messages, message.1.InPlan → message.2.payload[9]? = some 0x06) := by
  refine ⟨fun w hw => hw.executions hk, fun messages st h => ?_⟩
  exact h.forall_states_iff (fun _ _ _ hexecutes hst => hexecutes.namesContracts_iff hk hst)
    pf.deployedPlan_namesContracts

/-- What is passed as a trait is a contract, so with an account as the plan's wormhole contract
no governance message is executed any more. -/
theorem exec_update_of_account (hk : pf.hkCursor.Lawful) {depth : Nat} {stack : List FunctionId}
    {env : TxEnv} {caller : Principal} {u : Governance.UpdateFunction} {vaaBytes : Buff}
    {wormholeCoreContract : Principal} {w : World φ}
    (haccount : ¬ w.governance.currentExecutionPlan.wormholeCoreContract.IsContract)
    (hcontract : wormholeCoreContract.IsContract) (reply : Reply) :
    (exec pf code depth stack env caller (u.call vaaBytes wormholeCoreContract) w).1 ≠
      .ok reply := by
  intro hok
  obtain ⟨hplan, -⟩ := exec_update_eq_ok hk (Contract.run_eq hok)
  exact haccount (hplan ▸ hcontract)

section ClosedRun

open ClosedRun

/-- A contract that takes the role of the oracle. -/
def oracleV3 : Principal := .contract ⟨26, List.replicate 20 3⟩ (asciiBytes "pyth-oracle-v3")

def afterOracle : Governance.Storage :=
  { Governance.Storage.deployed .reference with
    currentExecutionPlan :=
      { Platform.reference.deployedPlan with pythOracleContract := oracleV3 }
    lastSequenceProcessed := 5 }

theorem plan_names_contracts_iff_oneMessage :
    afterOracle.currentExecutionPlan.NamesContracts := by
  have hexecutes : Governance.Executes .reference .pythOracleContract
      (message .pythOracleContract 5 (principalBody oracleV3)) (.deployed .reference)
      afterOracle :=
    ⟨rfl, by decide, principalBody oracleV3, rfl, by decide +kernel⟩
  have hrun : Executions .reference (.deployed .reference)
      [(.pythOracleContract, message .pythOracleContract 5 (principalBody oracleV3))]
      afterOracle :=
    .single hexecutes
  refine (((plan_names_contracts_iff Platform.reference_lawful silent).2 _ _ hrun).mpr ?_) _ _
    List.prefix_rfl hrun
  intro m hm _
  obtain rfl := List.mem_singleton.mp hm
  decide +kernel

/-- A message with an account as wormhole contract is accepted, and is the last one. -/
theorem account_as_wormhole_contract :
    ∃ w : World Unit, Reachable .reference silent w ∧
      w.governance.currentExecutionPlan.wormholeCoreContract = account ∧
      ¬ w.governance.currentExecutionPlan.NamesContracts ∧
      ∀ depth stack env caller (u : Governance.UpdateFunction) vaaBytes wormholeCoreContract
        reply, wormholeCoreContract.IsContract →
        (exec .reference silent depth stack env caller (u.call vaaBytes wormholeCoreContract)
          w).1 ≠ .ok reply := by
  have hplan : (governedBy .wormholeCoreContract
      (principalBody account)).governance.currentExecutionPlan.wormholeCoreContract =
        account := by
    decide +kernel
  -- the sender of the sample transactions is an account, and takes the role here
  have haccount : ¬ account.IsContract := by decide
  rw [← hplan] at haccount
  exact ⟨_, governedBy_reachable _ _, hplan, fun hnames => haccount hnames.wormhole,
    fun _ _ _ _ _ _ _ reply hcontract =>
      exec_update_of_account Platform.reference_lawful haccount hcontract reply⟩

end ClosedRun

end PythBridge
