import PythBridge.Pyth.Bodies
import PythBridge.System.Governance

/-!
# Governance messages that are executed

A message that a function may execute is executed: with the plan's wormhole contract, a VAA
from the governance data source with a new sequence and a body that decodes, the call returns
ok (`exec_update_of_executes`). For a body as it is written, the governed value is then the one
that was written.

Here the two directions of the governance contract meet. `Updates` shows that a successful update
call has executed one message; this module shows that nothing else is needed for success. One thing
has to be excluded to get there: that the wormhole contract which verifies the VAA changes
governance meanwhile. It cannot, because every update would need that same contract again while it
is running (`vm_parseAndVerifyVaa_governance`).
-/

namespace PythBridge

open Clarity

variable {φ : Type} {pf : Platform} {code : ForeignCode φ}

/-- The other direction of `body_update_eq_ok`. -/
theorem body_update_of_executes (hk : pf.hkCursor.Lawful) {vm : Dispatch (World φ)} {env : TxEnv}
    {caller : Principal} {u : Governance.UpdateFunction} {vaaBytes : Buff}
    {wormholeCoreContract : Principal} {w w₁ : World φ} {vaa : Vaa} {st' : Governance.Storage}
    (hverified : vm.parseAndVerifyVaa pf.pythGovernanceV1 wormholeCoreContract vaaBytes w =
      (.ok vaa, w₁))
    (hplan : wormholeCoreContract = w.governance.currentExecutionPlan.wormholeCoreContract)
    (hsame : w₁.governance = w.governance)
    (h : Governance.Executes pf u vaa w.governance st') :
    ∃ reply, (u.call vaaBytes wormholeCoreContract).body pf vm env caller w =
      (.ok reply, { w₁ with governance := st' }) := by
  obtain ⟨body, hpayload, hinstall⟩ := h.payload
  rw [Governance.UpdateFunction.install_eq, exec_bind_eq_ok] at hinstall
  obtain ⟨value, hvalue, hst'⟩ := hinstall
  -- an empty body decodes for none of the nine functions
  have hbody : body ≠ [] := by
    rintro rfl
    exact u.decodeBody_nil hk value hvalue
  have haction : u.action.length = 1 := by cases u <;> rfl
  have hemitter := h.emitter
  have hnewer := h.newer
  rw [← hsame] at hemitter hnewer
  obtain ⟨wormhole, governance, store, balances, foreign⟩ := w₁
  cases hsame
  cases hst'
  cases u
  case feeValue | stalePriceThreshold | feeRecipientAddress | pricesDataSources |
      governanceDataSource =>
    exact ⟨_, Contract.bind_eq_ok.mpr ⟨value, _, Governance.update_of_payload hk hverified hplan
      hemitter hnewer haction hbody hpayload hvalue, rfl⟩⟩
  -- the four functions that change the plan read it again after the update
  all_goals
    exact ⟨_, Contract.bind_eq_ok.mpr ⟨_, _, Contract.bind_eq_ok.mpr ⟨value, _,
      Governance.update_of_payload hk hverified hplan hemitter hnewer haction hbody hpayload
        hvalue, rfl⟩, rfl⟩⟩

/-- **A message that may be executed is executed.** -/
theorem exec_update_of_executes (hk : pf.hkCursor.Lawful) {depth : Nat} {stack : List FunctionId}
    {env : TxEnv} {caller : Principal} {u : Governance.UpdateFunction} {vaaBytes : Buff}
    {wormholeCoreContract : Principal} {w w₁ : World φ} {vaa : Vaa} {st' : Governance.Storage}
    (hrunning : (u.call vaaBytes wormholeCoreContract).functionId pf ∉ stack)
    (hverified : (vm pf code depth ((u.call vaaBytes wormholeCoreContract).functionId pf :: stack)
      env).parseAndVerifyVaa pf.pythGovernanceV1 wormholeCoreContract vaaBytes w = (.ok vaa, w₁))
    (hplan : wormholeCoreContract = w.governance.currentExecutionPlan.wormholeCoreContract)
    (h : Governance.Executes pf u vaa w.governance st') :
    ∃ reply, exec pf code depth stack env caller (u.call vaaBytes wormholeCoreContract) w =
      (.ok reply, { w₁ with governance := st' }) := by
  have hsame : w₁.governance = w.governance := by
    have hleft := vm_parseAndVerifyVaa_governance hk code depth
      ((u.call vaaBytes wormholeCoreContract).functionId pf :: stack) env pf.pythGovernanceV1
      vaaBytes w
    rwa [← hplan, hverified] at hleft
  obtain ⟨reply, hbody⟩ := body_update_of_executes hk hverified hplan hsame h
  exact ⟨reply, exec_eq_ok.mpr ⟨hrunning, hbody⟩⟩

/-- **Decoding a governance message undoes its encoding.** For every action, every argument of
its kind and any trailing bytes: a message with this body, in a VAA that the plan's wormhole
contract returns, from the governance data source and with a new sequence, makes the matching
function return ok, and what the function governs is then the argument. -/
theorem update_of_encodeBody (hk : pf.hkCursor.Lawful) (code : ForeignCode φ) {depth : Nat}
    {stack : List FunctionId} {env : TxEnv} {caller : Principal}
    (u : Governance.UpdateFunction) (value : u.Value) (hfits : u.Fits value) {vaaBytes : Buff}
    {wormholeCoreContract : Principal} {w w₁ : World φ} {vaa : Vaa} {trailing : Buff}
    (hrunning : (u.call vaaBytes wormholeCoreContract).functionId pf ∉ stack)
    (hplan : wormholeCoreContract = w.governance.currentExecutionPlan.wormholeCoreContract)
    (hverified : (vm pf code depth ((u.call vaaBytes wormholeCoreContract).functionId pf :: stack)
      env).parseAndVerifyVaa pf.pythGovernanceV1 wormholeCoreContract vaaBytes w = (.ok vaa, w₁))
    (hemitter : vaa.emitter = w.governance.governanceDataSource)
    (hnewer : w.governance.lastSequenceProcessed < vaa.sequence)
    (hpayload : vaa.payload = Governance.ptgmMagic ++ Governance.expectedModule ++ u.action ++
      Governance.expectedChainId pf ++ (u.encodeBody value ++ trailing)) :
    ∃ reply w',
      exec pf code depth stack env caller (u.call vaaBytes wormholeCoreContract) w =
        (.ok reply, w') ∧
      u.governed w'.governance = value := by
  have hinstall : u.install pf (u.encodeBody value ++ trailing)
      { w.governance with lastSequenceProcessed := vaa.sequence } =
        .ok (u.replace value { w.governance with lastSequenceProcessed := vaa.sequence }) := by
    rw [u.install_eq, Governance.UpdateFunction.decodeBody_encodeBody hk hfits trailing]
    rfl
  obtain ⟨reply, hexec⟩ := exec_update_of_executes hk hrunning hverified hplan
    ⟨hemitter, hnewer, _, hpayload, hinstall⟩
  exact ⟨reply, _, hexec, u.governed_replace value _⟩

section ClosedRun

open ClosedRun

/-- Two data sources in a message, with a byte behind them. -/
def twoSources : List DataSource := [⟨26, List.replicate 32 7⟩, ⟨1, List.replicate 32 8⟩]

/-- The message that installs them. -/
def twoSourcesVaa : Vaa :=
  message .pricesDataSources 5 (Governance.sourcesBytes twoSources ++ [9])

theorem update_of_encodeBody_twoSources :
    let w := afterRun (World.step .reference silent) fresh [bootstrap]
    ∃ reply w', exec .reference silent 4 [] sampleEnv account
        (.updatePricesDataSources (WormholeCore.serialize twoSourcesVaa)
          Platform.reference.wormholeCoreV2) w = (.ok reply, w') ∧
      w'.governance.pricesDataSources = twoSources := by
  intro w
  have hverified : ((vm .reference silent 4 [(Platform.reference.pythGovernanceV1,
      .updatePricesDataSources)] sampleEnv).parseAndVerifyVaa Platform.reference.pythGovernanceV1
        Platform.reference.wormholeCoreV2 (WormholeCore.serialize twoSourcesVaa) w).1 =
      .ok twoSourcesVaa := by
    decide +kernel
  have hfits : Governance.UpdateFunction.pricesDataSources.Fits twoSources := by
    refine ⟨by decide, by decide, fun source hsource => ?_⟩
    rcases List.mem_cons.mp hsource with rfl | hsource
    · exact ⟨by decide, by decide⟩
    · obtain rfl := List.mem_singleton.mp hsource
      exact ⟨by decide, by decide⟩
  have hgovernance : w.governance = .deployed .reference := by decide +kernel
  exact update_of_encodeBody Platform.reference_lawful silent .pricesDataSources twoSources hfits
    (by decide) (hgovernance ▸ rfl) (Contract.run_eq hverified) (hgovernance ▸ rfl)
    (hgovernance ▸ by decide) rfl

end ClosedRun

end PythBridge
