import PythBridge.Pyth.Governance

/-!
# Who may act under an execution plan

`check-execution-flow` is one function for three kinds of callers. `ExecutionPlan.Allows`
says, without the order of its tests, what it lets through.

The three tests of the source come one after another, so a contract that is installed in two roles
is asked the question of the first. `Below` puts the two roles that are asked the same question
together, and the oracle's question is only asked of a contract that is not below.
-/

namespace PythBridge

open Clarity

/-- The three contracts an oracle call names are the plan's. -/
def ExecutionPlan.Matches (plan : ExecutionPlan) (executionPlan : ExecutionPlanArg) : Prop :=
  executionPlan.pythStorageContract = plan.pythStorageContract ∧
    executionPlan.pythDecoderContract = plan.pythDecoderContract ∧
    executionPlan.wormholeCoreContract = plan.wormholeCoreContract

/-- `contractCaller` is installed below the oracle, as storage or as decoder. -/
def ExecutionPlan.Below (plan : ExecutionPlan) (contractCaller : Principal) : Prop :=
  contractCaller = plan.pythStorageContract ∨ contractCaller = plan.pythDecoderContract

/-- What a plan allows. A contract below the oracle must have been called by the oracle; the
oracle must pass on the plan's contracts. A contract with two roles is asked the question of
the first. -/
def ExecutionPlan.Allows (plan : ExecutionPlan) (contractCaller formerContractCaller : Principal)
    (executionPlanOpt : Option ExecutionPlanArg) : Prop :=
  (plan.Below contractCaller ∧ formerContractCaller = plan.pythOracleContract) ∨
    (¬ plan.Below contractCaller ∧ contractCaller = plan.pythOracleContract ∧
      ∃ executionPlan, executionPlanOpt = some executionPlan ∧ plan.Matches executionPlan)

namespace Governance

/-- **What `check-execution-flow` lets through.** It never returns `false`. -/
theorem checkExecutionFlow_eq_ok {st : Storage}
    {contractCaller formerContractCaller : Principal}
    {executionPlanOpt : Option ExecutionPlanArg} {b : Bool} :
    checkExecutionFlow st contractCaller formerContractCaller executionPlanOpt = .ok b ↔
      b = true ∧ st.currentExecutionPlan.Allows contractCaller formerContractCaller
        executionPlanOpt := by
  by_cases hbelow : st.currentExecutionPlan.Below contractCaller
  · -- storage and decoder are asked the same question
    have hflow : checkExecutionFlow st contractCaller formerContractCaller executionPlanOpt =
        (do
          let success ← expectContractCallPerformedByExpectedOracleContract formerContractCaller
            st.currentExecutionPlan
          asserts (success = true) errUnauthorizedAccess
          pure true) := by
      unfold checkExecutionFlow
      -- storage and decoder have one check, with the oracle as their caller
      by_cases hstorage : contractCaller = st.currentExecutionPlan.pythStorageContract
      · rw [if_pos hstorage]
      · rw [if_neg hstorage, if_pos (hbelow.resolve_left hstorage)]
    rw [hflow]
    simp only [expectContractCallPerformedByExpectedOracleContract, exec_bind_eq_ok,
      asserts_eq_ok, exec_pure_eq_ok]
    constructor
    · rintro ⟨_, ⟨_, horacle, rfl⟩, _, -, rfl⟩
      exact ⟨rfl, .inl ⟨hbelow, horacle⟩⟩
    · rintro ⟨rfl, ⟨-, horacle⟩ | ⟨hnot, -⟩⟩
      · exact ⟨true, ⟨(), horacle, rfl⟩, (), rfl, rfl⟩
      · exact absurd hbelow hnot
  · -- a contract that is not below the oracle: it is the oracle of the plan, or it has no role at
    -- all
    have hstorage : contractCaller ≠ st.currentExecutionPlan.pythStorageContract :=
      fun h => hbelow (.inl h)
    have hdecoder : contractCaller ≠ st.currentExecutionPlan.pythDecoderContract :=
      fun h => hbelow (.inr h)
    unfold checkExecutionFlow
    simp only [if_neg hstorage, if_neg hdecoder]
    by_cases horacle : contractCaller = st.currentExecutionPlan.pythOracleContract
    · rw [if_pos horacle]
      simp only [expectActiveStorageContract, expectActiveDecoderContract,
        expectActiveWormholeContract, exec_bind_eq_ok, asserts_eq_ok, exec_pure_eq_ok,
        unwrapOpt_eq_ok]
      constructor
      · rintro ⟨plan, hplan, _, ⟨_, h₁, -⟩, _, ⟨_, h₂, -⟩, _, ⟨_, h₃, -⟩, _, -, rfl⟩
        exact ⟨rfl, .inr ⟨hbelow, horacle, plan, hplan, h₁, h₂, h₃⟩⟩
      · rintro ⟨rfl, ⟨h, -⟩ | ⟨-, -, plan, hplan, h₁, h₂, h₃⟩⟩
        · exact absurd h hbelow
        · exact ⟨plan, hplan, true, ⟨(), h₁, rfl⟩, true, ⟨(), h₂, rfl⟩, true, ⟨(), h₃, rfl⟩, (),
            rfl, rfl⟩
    · rw [if_neg horacle]
      simp only [exec_bind_eq_ok, asserts_eq_ok, exec_pure_eq_ok]
      constructor
      · rintro ⟨_, rfl, _, h, -⟩
        cases h
      · rintro ⟨rfl, ⟨h, -⟩ | ⟨-, h, -⟩⟩
        · exact absurd h hbelow
        · exact absurd h horacle

/-- The direction that puts a run together. -/
theorem checkExecutionFlow_of_allows {st : Storage}
    {contractCaller formerContractCaller : Principal}
    {executionPlanOpt : Option ExecutionPlanArg}
    (h : st.currentExecutionPlan.Allows contractCaller formerContractCaller executionPlanOpt) :
    checkExecutionFlow st contractCaller formerContractCaller executionPlanOpt = .ok true :=
  checkExecutionFlow_eq_ok.mpr ⟨rfl, h⟩

/-- Reading is allowed through the storage contract of the plan. -/
theorem checkStorageContract_eq_ok {st : Storage} {storageContract : Principal}
    {b : Bool} : checkStorageContract st storageContract = .ok b ↔
      b = true ∧ storageContract = st.currentExecutionPlan.pythStorageContract := by
  simp only [checkStorageContract, expectActiveStorageContract, exec_bind_eq_ok, asserts_eq_ok,
    exec_pure_eq_ok]
  constructor
  · rintro ⟨_, h, rfl⟩
    exact ⟨rfl, h⟩
  · rintro ⟨rfl, h⟩
    exact ⟨(), h, rfl⟩

end Governance

end PythBridge
