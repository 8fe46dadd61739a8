import PythBridge.System.Frames

/-!
# Update calls in the composed system

An update function calls the contract it was passed before it has checked who that is, and
that contract may call anything, the update functions included. Such calls cannot succeed:
while the plan's wormhole contract verifies a VAA, every update would have to ask the same
function of the same contract again, which is still running
(`kept_while_running`). So a successful update starts and ends with the governance storage
it read, and is one execution of one message (`exec_update_eq_ok`).

This is where the reentrancy rule of the machine is used. Without it a wormhole contract could
answer a request for verification only after having executed further messages, and the update would
then overwrite what these installed, with the plan it had read before. The rule is turned into a
frame: with `(p, parse-and-verify-vaa)` on the stack, no execution changes governance as long as `p`
is the wormhole contract of the plan.
-/

namespace PythBridge

open Clarity

variable {φ : Type} {pf : Platform} {code : ForeignCode φ}

/-! ## One body for nine functions

Nine bodies, of which four read the plan again at the end. -/

/-- What the body of an update call has gone through when it returns ok; `w₁` is the world
that the contract passed as `wormholeCoreContract` left. -/
theorem body_update_eq_ok (hk : pf.hkCursor.Lawful) {vm : Dispatch (World φ)} {env : TxEnv}
    {caller : Principal} {u : Governance.UpdateFunction} {vaaBytes : Buff}
    {wormholeCoreContract : Principal} {w w' : World φ} {reply : Reply}
    (h : (u.call vaaBytes wormholeCoreContract).body pf vm env caller w = (.ok reply, w')) :
    ∃ vaa w₁,
      vm.parseAndVerifyVaa pf.pythGovernanceV1 wormholeCoreContract vaaBytes w = (.ok vaa, w₁) ∧
      wormholeCoreContract = w.governance.currentExecutionPlan.wormholeCoreContract ∧
      (w₁.governance = w.governance → ∃ st',
        Governance.Executes pf u vaa w₁.governance st' ∧
          w' = { w₁ with governance := st' }) := by
  simp only [Governance.UpdateFunction.call] at h
  -- nine bodies of one shape
  cases u <;> simp only [Call.body, Contract.bind_eq_ok, Contract.pure_apply, Prod.mk.injEq] at h
  case feeValue | stalePriceThreshold | feeRecipientAddress | pricesDataSources |
      governanceDataSource =>
    obtain ⟨value, _, hupdate, -, rfl⟩ := h
    exact Governance.executes_of_update_eq_ok hk (fun _ _ => rfl) hupdate
  -- the four functions that change the plan read it again after the update
  all_goals
    obtain ⟨plan, _, hplan, -, rfl⟩ := h
    obtain ⟨value, _, hupdate, hread⟩ := Contract.bind_eq_ok.mp hplan
    cases hread
    exact Governance.executes_of_update_eq_ok hk (fun _ _ => rfl) hupdate

/-! ## Reentrancy

The frame `kept_while_running` restricts the stacks to those on which the function is running. -/

/-- A function that is running cannot be entered through a trait. -/
theorem vm_parseAndVerifyVaa_running {depth : Nat} {stack : List FunctionId} {env : TxEnv}
    {caller target : Principal} {vaaBytes : Buff} {w : World φ}
    (h : (target, .parseAndVerifyVaa) ∈ stack) :
    (vm pf code depth stack env).parseAndVerifyVaa caller target vaaBytes w =
      (.error .abort, w) := by
  cases depth with
  | zero => rfl
  | succ depth =>
    simp only [vm]
    split
    · rw [enter, if_pos h]
      rfl
    · split
      · rfl
      · rw [enter, if_pos h]
        rfl

/-- **No update succeeds while the plan's wormhole contract verifies.** With
`parse-and-verify-vaa` of `p` running, nothing that is executed changes governance as long as
the plan names `p`. -/
theorem kept_while_running (hk : pf.hkCursor.Lawful) (code : ForeignCode φ) (p : Principal) :
    Kept pf code (fun stack => (p, .parseAndVerifyVaa) ∈ stack) fun w w' =>
      w.governance.currentExecutionPlan.wormholeCoreContract = p →
        w'.governance = w.governance where
  refl _ _ := rfl
  trans a b c hab hbc ha := by rw [hbc (by rw [hab ha, ha]), hab ha]
  outside _ _ _ _ := rfl
  push _ _ h := .tail _ h
  updateGuardiansSet guardianSetVaa uncompressedPublicKeys :=
    .transaction (fun _ _ => rfl) fun _ _ => rfl
  write _ _ _ := .transaction (fun _ _ => rfl) fun _ _ => rfl
  update depth stack env caller u vaaBytes wormholeCoreContract hrunning _ := by
    intro w hplan
    -- a nested update that fails has no effect; one that succeeds would have asked `p`, which is
    -- running
    rcases h : exec pf code depth stack env caller (u.call vaaBytes wormholeCoreContract) w with
      ⟨e | reply, w'⟩
    · rw [exec_error h]
    · obtain ⟨-, hbody⟩ := exec_eq_ok.mp h
      obtain ⟨vaa, w₁, hvaa, hwormhole, -⟩ := body_update_eq_ok hk hbody
      rw [vm_parseAndVerifyVaa_running (.tail _ (by rwa [hwormhole, hplan]))] at hvaa
      cases hvaa

/-- The wormhole contract of the plan leaves governance alone while it verifies. -/
theorem vm_parseAndVerifyVaa_governance (hk : pf.hkCursor.Lawful) (code : ForeignCode φ)
    (depth : Nat) (stack : List FunctionId) (env : TxEnv) (caller : Principal)
    (vaaBytes : Buff) (w : World φ) :
    ((vm pf code depth stack env).parseAndVerifyVaa caller
      w.governance.currentExecutionPlan.wormholeCoreContract vaaBytes w).2.governance =
      w.governance := by
  have hkept := kept_while_running hk code w.governance.currentExecutionPlan.wormholeCoreContract
  have hR := hkept.toWorldRel
  cases depth with
  | zero => rfl
  | succ depth =>
    simp only [vm]
    split
    · exact hR.keeps_enter (.transaction hR.refl (.readOnly hR.refl _)) w rfl
    · split
      · rfl
      · refine hR.keeps_enter (.transaction hR.refl (hR.keeps_script ?_ env _)) w rfl
        exact fun env caller c _ => hkept.exec depth (List.mem_cons_self ..) env caller c

/-- **A successful update call executes one message.** The contract that was passed is the
plan's wormhole contract; the message is the VAA it returned; governance changes by executing
that message and the rest of the world is what that contract left. -/
theorem exec_update_eq_ok (hk : pf.hkCursor.Lawful) {depth : Nat} {stack : List FunctionId}
    {env : TxEnv} {caller : Principal} {u : Governance.UpdateFunction} {vaaBytes : Buff}
    {wormholeCoreContract : Principal} {w w' : World φ} {reply : Reply}
    (h : exec pf code depth stack env caller (u.call vaaBytes wormholeCoreContract) w =
      (.ok reply, w')) :
    wormholeCoreContract = w.governance.currentExecutionPlan.wormholeCoreContract ∧
      ∃ vaa w₁,
        (vm pf code depth ((u.call vaaBytes wormholeCoreContract).functionId pf :: stack)
          env).parseAndVerifyVaa pf.pythGovernanceV1 wormholeCoreContract vaaBytes w =
            (.ok vaa, w₁) ∧
        w₁.governance = w.governance ∧
        Governance.Executes pf u vaa w.governance w'.governance ∧
        w' = { w₁ with governance := w'.governance } := by
  obtain ⟨-, hbody⟩ := exec_eq_ok.mp h
  obtain ⟨vaa, w₁, hvaa, hplan, hexecutes⟩ := body_update_eq_ok hk hbody
  have hsame : w₁.governance = w.governance := by
    have hleft := vm_parseAndVerifyVaa_governance hk code depth
      ((u.call vaaBytes wormholeCoreContract).functionId pf :: stack) env pf.pythGovernanceV1
      vaaBytes w
    rwa [← hplan, hvaa] at hleft
  obtain ⟨st', hst', rfl⟩ := hexecutes hsame
  exact ⟨hplan, vaa, w₁, hvaa, hsame, hsame ▸ hst', rfl⟩

end PythBridge
