import PythBridge.System.AcceptedValues
import PythBridge.System.Delivery

/-!
# A bridge that is frozen

Governance accepts an account as the plan's wormhole contract. An account has no code, so there is
nothing left that verifies a VAA: no governance message is executed any more, the one that would
correct the plan included, and no price message is decoded, in any run from there on
(`frozen_by_account`).

The crux is that one fact about the plan keeps itself. With an account as its wormhole contract the
plan can only be changed by a governance message, a governance message has to be verified by the
wormhole contract of the plan, and a call to an account aborts. So the plan stays as it is for every
run, and what is proved of a single call under such a plan holds in all the states that are reached.

* `vm_parseAndVerifyVaa_account`: an account answers no call.
* `exec_update_frozen`, `exec_oracle_frozen`, `exec_store_frozen`: one call, by the kind of call.
* `governance_frozen`, `frozen_by_account`: whole runs.
-/

namespace PythBridge

open Clarity

variable {φ : Type} {pf : Platform} {code : ForeignCode φ}

/-! ## Accounts

The language has no contract-call to an account: a principal without code cannot be bound to a
trait, and the transaction aborts. The model keeps all foreign code in one function, so this is a
condition on that function. -/

/-- Only contracts have code. -/
def ForeignCode.OfContracts (code : ForeignCode φ) : Prop :=
  ∀ target, ¬ target.IsContract → ∀ caller vaaBytes,
    code.parseAndVerifyVaa target caller vaaBytes = .done (.error .abort)

section Account

variable {depth : Nat} {stack : List FunctionId} {env : TxEnv} {caller p : Principal}
  (hcode : code.OfContracts) (haccount : ¬ p.IsContract)

include hcode haccount

/-- An account answers no call, at any depth and for any caller. -/
theorem vm_parseAndVerifyVaa_account (vaaBytes : Buff) (w : World φ) :
    (vm pf code depth stack env).parseAndVerifyVaa caller p vaaBytes w = (.error .abort, w) := by
  cases depth with
  | zero => rfl
  | succ depth =>
    -- an account is none of the five contracts, so the call goes to foreign code
    have hours : p ∉ pf.contracts := by
      intro hmem
      simp only [Platform.contracts, List.mem_cons, List.not_mem_nil, or_false] at hmem
      rcases hmem with rfl | rfl | rfl | rfl | rfl <;> exact haccount ⟨_, _, rfl⟩
    have hcore : p ≠ pf.wormholeCoreV2 := by
      rintro rfl
      exact haccount ⟨_, _, rfl⟩
    simp only [vm, if_neg hcore, if_neg hours, hcode p haccount]
    unfold enter
    split <;> rfl

/-- No price message is decoded by the repository's decoder. -/
theorem vm_decode_account {pnauBytes : Buff} {prices : List PriceUpdate} {w w' : World φ} :
    (vm pf code depth stack env).decodeAndVerifyPriceFeeds caller pf.pythPnauDecoderV1 pnauBytes
      p w ≠ (.ok prices, w') := by
  intro hok
  obtain ⟨depth', stack', hdecode⟩ := vm_decodeAndVerifyPriceFeeds_pythPnauDecoderV1 hok
  obtain ⟨-, hdecode⟩ := PnauDecoder.decodeAndVerifyPriceFeeds_eq_ok hdecode
  simp only [PnauDecoder.decodePnauPriceUpdate, Contract.bind_eq_ok, Contract.lift_apply,
    Prod.mk.injEq] at hdecode
  obtain ⟨_, _, ⟨-, rfl⟩, _, _, ⟨-, rfl⟩, _, _, ⟨-, rfl⟩, vaa, _, hvaa, -⟩ := hdecode
  rw [vm_parseAndVerifyVaa_account hcode haccount] at hvaa
  cases hvaa

end Account

/-! ## Under a frozen plan

The plan in question differs from the deployed one in the wormhole contract only. Oracle, decoder
and storage are the repository's, so what a call from outside does is known up to the point where
the VAA is verified, and there it ends. -/

/-- The plan of the deployment, with `p` in the place of the wormhole contract. -/
def Platform.planUnder (pf : Platform) (p : Principal) : ExecutionPlan :=
  { pf.deployedPlan with wormholeCoreContract := p }

section Frozen

variable {depth : Nat} {stack : List FunctionId} {env : TxEnv} {caller p : Principal}
  {w w' : World φ} (hcode : code.OfContracts) (haccount : ¬ p.IsContract)
  (hplan : w.governance.currentExecutionPlan = pf.planUnder p)

include hcode haccount hplan

/-- No governance message is executed, whatever contract is passed. -/
theorem exec_update_frozen (hk : pf.hkCursor.Lawful) {u : Governance.UpdateFunction}
    {vaaBytes : Buff} {wormholeCoreContract : Principal} {reply : Reply} :
    exec pf code depth stack env caller (u.call vaaBytes wormholeCoreContract) w ≠
      (.ok reply, w') := by
  intro hok
  obtain ⟨hwormhole, vaa, w₁, hvaa, -⟩ := exec_update_eq_ok hk hok
  have hp : w.governance.currentExecutionPlan.wormholeCoreContract = p := by
    rw [hplan]
    rfl
  rw [hwormhole, hp, vm_parseAndVerifyVaa_account hcode haccount] at hvaa
  cases hvaa

/-- Neither paid function of the oracle returns ok. -/
theorem exec_oracle_frozen {c : Call} {executionPlan : ExecutionPlanArg} {reply : Reply}
    (hc : c.IsOracleCall executionPlan) :
    exec pf code depth stack env caller c w ≠ (.ok reply, w') := by
  intro hok
  have hallows := exec_oracle_acts hc (.inl ⟨reply, by rw [hok]⟩)
  rw [hplan] at hallows
  -- the oracle has the flow of the oracle and no other role, so the plan given is the one in force
  rcases hallows with ⟨hbelow, -⟩ | ⟨-, -, _, hsome, -, hdecoder, hwormhole⟩
  · exact oracle_not_below rfl rfl hbelow
  · cases hsome
    obtain ⟨-, hbody⟩ := exec_eq_ok.mp hok
    obtain ⟨priceFeedBytes, rfl | rfl⟩ := hc
    · simp only [Call.body, Contract.bind_eq_ok, Oracle.verifyAndUpdatePriceFeeds,
        Contract.readOnly_apply, Prod.mk.injEq] at hbody
      obtain ⟨_, _, ⟨_, _, ⟨-, rfl⟩, prices, _, hdecode, -⟩, -⟩ := hbody
      rw [hdecoder, hwormhole] at hdecode
      exact vm_decode_account hcode haccount hdecode
    · simp only [Call.body, Contract.bind_eq_ok, Oracle.decodePriceFeeds,
        Contract.readOnly_apply, Prod.mk.injEq] at hbody
      obtain ⟨_, _, ⟨_, _, ⟨-, rfl⟩, prices, _, hdecode, -⟩, -⟩ := hbody
      rw [hdecoder, hwormhole] at hdecode
      exact vm_decode_account hcode haccount hdecode

/-- A successful call from outside leaves the store alone. -/
theorem exec_store_frozen (hk : pf.hkCursor.Lawful) (hext : caller ∉ pf.contracts) {c : Call}
    {reply : Reply} (h : exec pf code depth stack env caller c w = (.ok reply, w')) :
    w'.store = w.store := by
  -- decoder and storage want the oracle of the plan as their caller, and this one is from outside
  have hnot : ∀ contractCaller,
      ¬ w.governance.currentExecutionPlan.Allows contractCaller caller none := by
    intro contractCaller hallows
    have horacle := hallows.below.2
    rw [hplan] at horacle
    exact hext (by simp [horacle, Platform.planUnder, Platform.deployedPlan, Platform.contracts])
  -- the update functions are one family, and none of them is executed
  cases hupdate : c.update? with
  | some update =>
    obtain ⟨u, vaaBytes, wormholeCoreContract⟩ := update
    rw [Call.update?_eq_some.mp hupdate] at h
    exact absurd h (exec_update_frozen hcode haccount hplan hk)
  | none =>
    obtain ⟨-, hbody⟩ := exec_eq_ok.mp h
    -- what is left call by call: two that never return ok, two that the flow refuses, and the reads
    cases c with
    | verifyAndUpdatePriceFeeds priceFeedBytes executionPlan =>
      exact absurd h (exec_oracle_frozen hcode haccount hplan ⟨_, .inl rfl⟩)
    | decodePriceFeeds priceFeedBytes executionPlan =>
      exact absurd h (exec_oracle_frozen hcode haccount hplan ⟨_, .inr rfl⟩)
    | readPriceFeed priceFeedId pythStorageAddress =>
      have hstorage := exec_read_ok (by rw [h] : _ = Except.ok reply)
      rw [hplan] at hstorage
      obtain ⟨record, w₁, hread, hreply⟩ := Contract.bind_eq_ok.mp hbody
      cases hreply
      obtain ⟨_, w₂, hcheck, hvm⟩ := Contract.bind_eq_ok.mp hread
      have hw₂ : w = w₂ := congrArg Prod.snd hcheck
      rw [hstorage] at hvm
      obtain ⟨rfl, -⟩ := vm_read_pythStoreV1 hvm
      rw [hw₂]
    | decodeAndVerifyPriceFeeds pnauBytes wormholeCoreAddress =>
      obtain ⟨prices, w₁, hdecode, -⟩ := Contract.bind_eq_ok.mp hbody
      exact absurd (PnauDecoder.decodeAndVerifyPriceFeeds_eq_ok hdecode).1 (hnot _)
    | write batchUpdates =>
      obtain ⟨written, w₁, hstore, -⟩ := Contract.bind_eq_ok.mp hbody
      obtain ⟨st', hwrite, -⟩ := Contract.zoom_eq_ok.mp hstore
      exact absurd (Store.write_eq_ok hwrite).2.2.2 (hnot _)
    | updateGuardiansSet guardianSetVaa uncompressedPublicKeys =>
      obtain ⟨updated, w₁, hrotate, hreply⟩ := Contract.bind_eq_ok.mp hbody
      cases hreply
      obtain ⟨st', -, rfl⟩ := Contract.zoom_eq_ok.mp hrotate
      rfl
    | parseVaa | parseAndVerifyVaa | getActiveGuardianSet | checkExecutionFlow |
      checkStorageContract | getCurrentExecutionPlan | getFeeInfo | getStalePriceThreshold |
      getAuthorizedPricesDataSources | read =>
      -- a read leaves the world it found
      obtain ⟨_, w₁, hread, hreply⟩ := Contract.bind_eq_ok.mp hbody
      have hw₁ : w = w₁ := congrArg Prod.snd hread
      have hw' : w₁ = w' := congrArg Prod.snd hreply
      rw [hw₁, hw']
    | _ => cases hupdate

/-- Whatever happens, governance does not change. -/
theorem governance_frozen (hk : pf.hkCursor.Lawful) (events : List (Event φ)) :
    (afterRun (World.step pf code) w events).governance = w.governance := by
  obtain ⟨effects, hpath⟩ := afterRun_effects hk code w events
  refine hpath.invariant (P := fun w' => w'.governance = w.governance) ?_ rfl
  intro s t e _ hstep hs
  -- of the effects only the one of governance could change it, and it needs a verified VAA
  cases hstep with
  | govern _ _ hvaa _ =>
    have hp : s.governance.currentExecutionPlan.wormholeCoreContract = p := by
      rw [hs, hplan]
      rfl
    rw [hp, vm_parseAndVerifyVaa_account hcode haccount] at hvaa
    cases hvaa
  | rotate | write | move => exact hs

/-- **An account as wormhole contract freezes the bridge.** When the plan is the deployed one but
for an account in the place of the wormhole contract, then over any run of transactions of others:
governance and the store are what they were, no update function ever returns ok, whatever contract
it is given, and neither does a paid function of the oracle. -/
theorem frozen_by_account (hk : pf.hkCursor.Lawful) {events : List (Event φ)}
    (hexternal : ∀ e ∈ events, e.External pf) :
    let w' := afterRun (World.step pf code) w events
    w'.governance = w.governance ∧ w'.store = w.store ∧
      (∀ depth stack env caller (u : Governance.UpdateFunction) vaaBytes wormholeCoreContract reply,
        (exec pf code depth stack env caller (u.call vaaBytes wormholeCoreContract) w').1 ≠
          .ok reply) ∧
      ∀ depth stack env caller c executionPlan reply, c.IsOracleCall executionPlan →
        (exec pf code depth stack env caller c w').1 ≠ .ok reply := by
  intro w'
  have hgovernance : w'.governance = w.governance :=
    governance_frozen hcode haccount hplan hk events
  have hplan' : w'.governance.currentExecutionPlan = pf.planUnder p := hgovernance ▸ hplan
  refine ⟨hgovernance, ?_, fun _ _ _ _ _ _ _ _ hok => ?_, fun _ _ _ _ _ _ _ hc hok => ?_⟩
  · -- the store needs the plan along the way, so both are carried through the run
    have hrun : w'.governance.currentExecutionPlan = pf.planUnder p ∧ w'.store = w.store := by
      refine afterRun_invariant (P := fun s : World φ =>
        s.governance.currentExecutionPlan = pf.planUnder p ∧ s.store = w.store) ?_ ⟨hplan, rfl⟩
      rintro s e he ⟨hs, hstore⟩
      have hkept := governance_frozen hcode haccount hs hk [e]
      refine ⟨hkept ▸ hs, ?_⟩
      cases e with
      | outside balances foreign => exact hstore
      | tx t =>
        unfold World.step Tx.run
        dsimp only
        rcases hexec : exec pf code t.depth [] t.env t.contractCaller t.call s with
          ⟨exit | reply, s'⟩
        · rw [exec_error hexec]
          exact hstore
        · exact (exec_store_frozen hcode haccount hs hk (hexternal _ he) hexec).trans hstore
    exact hrun.2
  · exact exec_update_frozen hcode haccount hplan' hk (Contract.run_eq hok)
  · exact exec_oracle_frozen hcode haccount hplan' hc (Contract.run_eq hok)

end Frozen

section ClosedRun

open ClosedRun

/-- After a message that put an account into the plan, a fee update and a price update change
nothing. -/
theorem frozen_by_account_feeUpdate :
    let w := governedBy .wormholeCoreContract (principalBody account)
    Reachable .reference silent w ∧
      (afterRun (World.step .reference silent) w [.tx feeUpdate, .tx sampleUpdate]).store =
        w.store := by
  intro w
  have haccount : ¬ account.IsContract := by decide
  have hplan : w.governance.currentExecutionPlan = Platform.reference.planUnder account := by
    decide +kernel
  have hexternal : ∀ e ∈ [Event.tx feeUpdate, Event.tx sampleUpdate],
      e.External (φ := Unit) .reference := by
    have hsender : account ∉ Platform.reference.contracts := by decide
    rw [List.forall_mem_cons, List.forall_mem_singleton]
    exact ⟨hsender, hsender⟩
  have hcode : silent.OfContracts := fun _ _ _ _ => rfl
  exact ⟨governedBy_reachable _ _,
    (frozen_by_account hcode haccount hplan Platform.reference_lawful hexternal).2.1⟩

end ClosedRun

end PythBridge
