import PythBridge.System.Governance
import PythBridge.System.Roles

/-!
# The execution plan cuts contracts off

What the repository's contracts do under an arbitrary plan, for any caller and any chain of
calls. `check-execution-flow` tells storage and decoder from the oracle by where the plan
installs the caller, not by which contract it is; under a plan that installs a contract in
another's place, `ExecutionPlan.Below` is what counts.

The claim one would like to make is that a contract which the plan does not install in its own role
has no effect. It holds of the decoder and the oracle only in the sense of `Below`: the source asks
whether the caller is *the storage contract or the decoder* of the plan before it asks anything
else, so a plan that installs `pyth-store-v1` as decoder lets it write. `write_of_storeAsDecoder` is
a reachable world in which that happens.

* **`execution_plan_cuts_off`** — what holds under every plan: for writing, decoding, the two paid
  functions and reading, and over runs.
-/

namespace PythBridge

open Clarity

variable {φ : Type} {pf : Platform} {code : ForeignCode φ} {depth : Nat}
  {stack : List FunctionId} {env : TxEnv} {caller : Principal} {w w' : World φ}

/-- Storage and decoder pass no plan on, so they are let through only below the oracle. -/
theorem ExecutionPlan.Allows.below {plan : ExecutionPlan} {contractCaller : Principal}
    (h : plan.Allows contractCaller caller none) :
    plan.Below contractCaller ∧ caller = plan.pythOracleContract := by
  -- the flow of the oracle names a plan, and here there is none
  rcases h with h | ⟨-, -, _, hnone, -⟩
  · exact h
  · cases hnone

/-! ## One call

Each function, called from outside and called through a trait, comes down to the same check. -/

/-- Only the oracle of the plan writes, and only to a store that the plan installs below it. -/
theorem write_changes {gov : Governance.Storage} {batchUpdates : List PriceUpdate}
    {st : Store.Storage}
    (h : ((Store.write pf gov env caller batchUpdates).transaction st).2 ≠ st) :
    gov.currentExecutionPlan.Below pf.pythStoreV1 ∧
      caller = gov.currentExecutionPlan.pythOracleContract := by
  -- an error is rolled back, so there is a change only after a success
  rcases Contract.transaction_cases (Store.write pf gov env caller batchUpdates) st with
    ⟨written, st', -, hbody⟩ | ⟨e, herror⟩
  · exact (Store.write_eq_ok hbody).2.2.2.below
  · rw [herror] at h
    exact absurd rfl h

/-- A call of `write` changes the store under the same condition. -/
theorem exec_write_changes {batchUpdates : List PriceUpdate}
    (h : (exec pf code depth stack env caller (.write batchUpdates) w).2.store ≠ w.store) :
    w.governance.currentExecutionPlan.Below pf.pythStoreV1 ∧
      caller = w.governance.currentExecutionPlan.pythOracleContract := by
  obtain ⟨reply, hrun⟩ := exec_eq_ok_of_changed fun hsame => h (congrArg World.store hsame)
  obtain ⟨-, hbody⟩ := exec_eq_ok.mp hrun
  obtain ⟨written, _, hstore, -⟩ := Contract.bind_eq_ok.mp hbody
  obtain ⟨st', hwrite, -⟩ := Contract.zoom_eq_ok.mp hstore
  exact (Store.write_eq_ok hwrite).2.2.2.below

/-- A call of it through the trait changes the store under the same condition. -/
theorem vm_write_changes {batchUpdates : List PriceUpdate}
    (h : ((vm pf code depth stack env).write caller pf.pythStoreV1 batchUpdates w).2.store ≠
      w.store) :
    w.governance.currentExecutionPlan.Below pf.pythStoreV1 ∧
      caller = w.governance.currentExecutionPlan.pythOracleContract := by
  -- a call that fails leaves the store alone
  rcases hrun : (vm pf code depth stack env).write caller pf.pythStoreV1 batchUpdates w with
    ⟨e | written, w'⟩
  · rw [hrun, vm_write_error hrun] at h
    exact absurd rfl h
  · obtain ⟨st', hwrite, -⟩ := vm_write_pythStoreV1 hrun
    exact (Store.write_eq_ok hwrite).2.2.2.below

/-- Only the oracle of the plan has anything decoded. -/
theorem exec_decode_ok {pnauBytes : Buff} {wormholeCoreAddress : Principal} {reply : Reply}
    (h : (exec pf code depth stack env caller
      (.decodeAndVerifyPriceFeeds pnauBytes wormholeCoreAddress) w).1 = .ok reply) :
    w.governance.currentExecutionPlan.Below pf.pythPnauDecoderV1 ∧
      caller = w.governance.currentExecutionPlan.pythOracleContract := by
  obtain ⟨-, hbody⟩ := exec_eq_ok.mp (Contract.run_eq h)
  simp only [Call.body, Contract.bind_eq_ok] at hbody
  obtain ⟨prices, _, hdecode, -⟩ := hbody
  exact (PnauDecoder.decodeAndVerifyPriceFeeds_eq_ok hdecode).1.below

theorem vm_decode_ok {pnauBytes : Buff} {wormholeCoreAddress : Principal}
    {prices : List PriceUpdate}
    (h : ((vm pf code depth stack env).decodeAndVerifyPriceFeeds caller pf.pythPnauDecoderV1
      pnauBytes wormholeCoreAddress w).1 = .ok prices) :
    w.governance.currentExecutionPlan.Below pf.pythPnauDecoderV1 ∧
      caller = w.governance.currentExecutionPlan.pythOracleContract := by
  obtain ⟨depth', stack', hdecode⟩ :=
    vm_decodeAndVerifyPriceFeeds_pythPnauDecoderV1 (Contract.run_eq h)
  exact (PnauDecoder.decodeAndVerifyPriceFeeds_eq_ok hdecode).1.below

/-- One of the two paid functions, with the contracts that the caller names. -/
def Call.IsOracleCall (c : Call) (executionPlan : ExecutionPlanArg) : Prop :=
  ∃ priceFeedBytes, c = .verifyAndUpdatePriceFeeds priceFeedBytes executionPlan ∨
    c = .decodePriceFeeds priceFeedBytes executionPlan

/-- Both functions ask governance first; what does not return ok has no effect. -/
theorem exec_oracle_acts {c : Call} {executionPlan : ExecutionPlanArg}
    (hc : c.IsOracleCall executionPlan)
    (h : (∃ reply, (exec pf code depth stack env caller c w).1 = .ok reply) ∨
      (exec pf code depth stack env caller c w).2 ≠ w) :
    w.governance.currentExecutionPlan.Allows pf.pythOracleV2 caller (some executionPlan) := by
  have hok : ∃ reply, (exec pf code depth stack env caller c w).1 = .ok reply := by
    -- a call with an effect has returned ok
    rcases h with hok | hchanged
    · exact hok
    · obtain ⟨reply, hrun⟩ := exec_eq_ok_of_changed hchanged
      exact ⟨reply, by rw [hrun]⟩
  obtain ⟨reply, hreply⟩ := hok
  obtain ⟨-, hbody⟩ := exec_eq_ok.mp (Contract.run_eq hreply)
  obtain ⟨priceFeedBytes, rfl | rfl⟩ := hc
  · simp only [Call.body, Contract.bind_eq_ok, Oracle.verifyAndUpdatePriceFeeds,
      Contract.readOnly_apply, Prod.mk.injEq] at hbody
    obtain ⟨_, _, ⟨_, _, ⟨hflow, -⟩, -⟩, -⟩ := hbody
    exact (Governance.checkExecutionFlow_eq_ok.mp hflow).2
  · simp only [Call.body, Contract.bind_eq_ok, Oracle.decodePriceFeeds,
      Contract.readOnly_apply, Prod.mk.injEq] at hbody
    obtain ⟨_, _, ⟨_, _, ⟨hflow, -⟩, -⟩, -⟩ := hbody
    exact (Governance.checkExecutionFlow_eq_ok.mp hflow).2

/-- Prices are read through the storage contract of the plan. -/
theorem exec_read_ok {priceFeedId : Buff} {pythStorageAddress : Principal} {reply : Reply}
    (h : (exec pf code depth stack env caller (.readPriceFeed priceFeedId pythStorageAddress)
      w).1 = .ok reply) :
    pythStorageAddress = w.governance.currentExecutionPlan.pythStorageContract := by
  obtain ⟨-, hbody⟩ := exec_eq_ok.mp (Contract.run_eq h)
  simp only [Call.body, Contract.bind_eq_ok, Oracle.readPriceFeed, Contract.readOnly_apply,
    Prod.mk.injEq] at hbody
  obtain ⟨_, _, ⟨_, _, ⟨hflow, -⟩, -⟩, -⟩ := hbody
  exact (Governance.checkStorageContract_eq_ok.mp hflow).2

/-! ## Runs

The store changes at a write, and at that point the plan lets the store be written. -/

/-- A path that changes the store passes through a world whose plan lets the store write. -/
theorem Effects.exists_write {running : List FunctionId} {effects : List Effect}
    (h : Effects pf code running w effects w') (hchanged : w'.store ≠ w.store) :
    ∃ xs ys v, Effects pf code running w xs v ∧ Effects pf code running v ys w' ∧
      v.governance.currentExecutionPlan.Below pf.pythStoreV1 := by
  induction h with
  | nil => exact absurd rfl hchanged
  | @cons w w₁ w' effect effects hstep rest ih =>
    -- the first effect changes the store, or a later one does
    by_cases hhere : w₁.store = w.store
    · obtain ⟨xs, ys, v, hxs, hys, hv⟩ := ih (hhere ▸ hchanged)
      exact ⟨effect :: xs, ys, v, .cons hstep hxs, hys, hv⟩
    · refine ⟨[], effect :: effects, w, .nil w, .cons hstep rest, ?_⟩
      cases hstep with
      | write c hgov _ =>
        rw [← hgov]
        exact (write_changes hhere).1
      | rotate | govern | move => exact absurd rfl hhere

/-- **Contracts the plan does not install are cut off.** Under any plan and for any call chain:
`pyth-store-v1` changes only when the plan installs it below the oracle and the plan's oracle
called it; `pyth-pnau-decoder-v1` answers only in the same case; the oracle's functions return
ok or have any effect only when the plan lets `pyth-oracle-v2` through with these contracts;
and prices are read only from the plan's storage contract. A run that changes the store passes
through a moment at which the plan installs the store below the oracle. -/
theorem execution_plan_cuts_off (hk : pf.hkCursor.Lawful) (code : ForeignCode φ) :
    (∀ depth stack env caller batchUpdates (w : World φ),
      ((exec pf code depth stack env caller (.write batchUpdates) w).2.store ≠ w.store ∨
        ((vm pf code depth stack env).write caller pf.pythStoreV1 batchUpdates w).2.store ≠
          w.store) →
      w.governance.currentExecutionPlan.Below pf.pythStoreV1 ∧
        caller = w.governance.currentExecutionPlan.pythOracleContract) ∧
    (∀ depth stack env caller pnauBytes wormholeCoreAddress (w : World φ),
      ((∃ reply, (exec pf code depth stack env caller
          (.decodeAndVerifyPriceFeeds pnauBytes wormholeCoreAddress) w).1 = .ok reply) ∨
        ∃ prices, ((vm pf code depth stack env).decodeAndVerifyPriceFeeds caller
          pf.pythPnauDecoderV1 pnauBytes wormholeCoreAddress w).1 = .ok prices) →
      w.governance.currentExecutionPlan.Below pf.pythPnauDecoderV1 ∧
        caller = w.governance.currentExecutionPlan.pythOracleContract) ∧
    (∀ depth stack env caller c executionPlan (w : World φ), c.IsOracleCall executionPlan →
      ((∃ reply, (exec pf code depth stack env caller c w).1 = .ok reply) ∨
        (exec pf code depth stack env caller c w).2 ≠ w) →
      (w.governance.currentExecutionPlan.Below pf.pythOracleV2 ∧
        caller = w.governance.currentExecutionPlan.pythOracleContract) ∨
      (pf.pythOracleV2 = w.governance.currentExecutionPlan.pythOracleContract ∧
        w.governance.currentExecutionPlan.Matches executionPlan)) ∧
    (∀ depth stack env caller priceFeedId pythStorageAddress (w : World φ) reply,
      (exec pf code depth stack env caller (.readPriceFeed priceFeedId pythStorageAddress)
        w).1 = .ok reply →
      pythStorageAddress = w.governance.currentExecutionPlan.pythStorageContract) ∧
    ∀ (w : World φ) events, (afterRun (World.step pf code) w events).store ≠ w.store →
      ∃ xs ys v, Effects pf code [] w xs v ∧
        Effects pf code [] v ys (afterRun (World.step pf code) w events) ∧
        v.governance.currentExecutionPlan.Below pf.pythStoreV1 := by
  refine ⟨?_, ?_, ?_, fun _ _ _ _ _ _ _ _ => exec_read_ok, fun w events hchanged => ?_⟩
  · rintro depth stack env caller batchUpdates w (h | h)
    · exact exec_write_changes h
    · exact vm_write_changes h
  · rintro depth stack env caller pnauBytes wormholeCoreAddress w (⟨reply, h⟩ | ⟨prices, h⟩)
    · exact exec_decode_ok h
    · exact vm_decode_ok h
  · intro depth stack env caller c executionPlan w hc h
    rcases exec_oracle_acts hc h with hbelow | ⟨-, horacle, _, hsome, hmatches⟩
    · exact .inl hbelow
    · cases hsome
      exact .inr ⟨horacle, hmatches⟩
  · obtain ⟨effects, hpath⟩ := afterRun_effects hk code w events
    exact hpath.exists_write hchanged

/-! ### A plan with the store in the decoder's place -/

section ClosedRun

open ClosedRun

/-- Governance installs `pyth-store-v1` as decoder, and an account as storage and as oracle. -/
def storeAsDecoder : World Unit :=
  afterRun (World.step .reference silent) fresh
    [bootstrap,
      .tx (govern .pythDecoderContract 1 (principalBody Platform.reference.pythStoreV1)),
      .tx (govern .pythStoreContract 2 (principalBody account)),
      .tx (govern .pythOracleContract 3 (principalBody account))]

def samplePrice : PriceUpdate where
  price := 7
  conf := 0
  expo := 0
  emaPrice := 7
  emaConf := 0
  publishTime := 100
  prevPublishTime := 99
  priceIdentifier := List.replicate 32 0

theorem storeAsDecoder_reachable : Reachable .reference silent storeAsDecoder :=
  have hexternal : account ∉ Platform.reference.contracts := by decide
  ⟨fresh, _, ⟨rfl, rfl, rfl⟩, by
    simp only [List.forall_mem_cons]
    exact ⟨hexternal, hexternal, hexternal, hexternal, fun _ h => by cases h⟩, rfl⟩

theorem storeAsDecoder_write_changes :
    (exec .reference silent 4 [] sampleEnv account (.write [samplePrice]) storeAsDecoder).2.store ≠
      storeAsDecoder.store := by
  have hprice : (exec .reference silent 4 [] sampleEnv account (.write [samplePrice])
      storeAsDecoder).2.store.prices samplePrice.priceIdentifier ≠
        storeAsDecoder.store.prices samplePrice.priceIdentifier := by
    decide +kernel
  exact fun h => hprice (congrFun (congrArg Store.Storage.prices h) _)

theorem execution_plan_cuts_off_storeAsDecoder :
    storeAsDecoder.governance.currentExecutionPlan.Below Platform.reference.pythStoreV1 :=
  ((execution_plan_cuts_off Platform.reference_lawful silent).1 4 []
    sampleEnv account [samplePrice] storeAsDecoder (.inl storeAsDecoder_write_changes)).1

/-- The store is written although the plan's storage contract is another one. -/
theorem write_of_storeAsDecoder :
    ¬ ∀ w : World Unit, Reachable .reference silent w → ∀ depth env caller batchUpdates,
      (exec .reference silent depth [] env caller (.write batchUpdates) w).2.store ≠ w.store →
        w.governance.currentExecutionPlan.pythStorageContract =
          Platform.reference.pythStoreV1 := by
  intro hclaim
  have hstorage := hclaim storeAsDecoder storeAsDecoder_reachable 4 sampleEnv account [samplePrice]
    storeAsDecoder_write_changes
  revert hstorage
  decide +kernel

end ClosedRun

end PythBridge
