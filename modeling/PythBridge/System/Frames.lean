import PythBridge.Pyth.Updates
import PythBridge.System

/-!
# Frames of nested calls

A relation on worlds that every call keeps, given that the trait calls it makes keep it, is
kept by every nested execution (`Kept.exec`). The induction on the call depth and on the
scripts of foreign contracts is done here once; what is proved about the system elsewhere
only looks at one call at a time.

Two inductions are hidden here. A foreign script keeps a relation when each of its calls does
(induction on the script), and a call keeps it when the trait calls inside do (induction on the
depth). What is left to prove about a particular relation are the three ways in which the contracts
write: a rotation, a write to the store, and an update of governance. The structure `Kept` asks for
exactly these.

Its parameter `S` restricts the stacks under which the relation is kept. With `S` true of every
stack this is an ordinary frame rule; with "this function is running" it is how a call in progress
protects itself against its callees.
-/

namespace PythBridge

open Clarity

/-- The call of an update function: nine constructors as one family. -/
def Governance.UpdateFunction.call (u : Governance.UpdateFunction) (vaaBytes : Buff)
    (wormholeCoreContract : Principal) : Call :=
  match u with
  | .feeValue => .updateFeeValue vaaBytes wormholeCoreContract
  | .stalePriceThreshold => .updateStalePriceThreshold vaaBytes wormholeCoreContract
  | .feeRecipientAddress => .updateFeeRecipientAddress vaaBytes wormholeCoreContract
  | .wormholeCoreContract => .updateWormholeCoreContract vaaBytes wormholeCoreContract
  | .pythOracleContract => .updatePythOracleContract vaaBytes wormholeCoreContract
  | .pythDecoderContract => .updatePythDecoderContract vaaBytes wormholeCoreContract
  | .pythStoreContract => .updatePythStoreContract vaaBytes wormholeCoreContract
  | .pricesDataSources => .updatePricesDataSources vaaBytes wormholeCoreContract
  | .governanceDataSource => .updateGovernanceDataSource vaaBytes wormholeCoreContract

/-- The update function that a call is of, with its arguments. -/
def Call.update? : Call → Option (Governance.UpdateFunction × Buff × Principal)
  | .updateFeeValue b p => some (.feeValue, b, p)
  | .updateStalePriceThreshold b p => some (.stalePriceThreshold, b, p)
  | .updateFeeRecipientAddress b p => some (.feeRecipientAddress, b, p)
  | .updateWormholeCoreContract b p => some (.wormholeCoreContract, b, p)
  | .updatePythOracleContract b p => some (.pythOracleContract, b, p)
  | .updatePythDecoderContract b p => some (.pythDecoderContract, b, p)
  | .updatePythStoreContract b p => some (.pythStoreContract, b, p)
  | .updatePricesDataSources b p => some (.pricesDataSources, b, p)
  | .updateGovernanceDataSource b p => some (.governanceDataSource, b, p)
  | _ => none

/-- A call is an update call exactly when it is in the family. -/
theorem Call.update?_eq_some {c : Call} {u : Governance.UpdateFunction} {vaaBytes : Buff}
    {wormholeCoreContract : Principal} :
    c.update? = some (u, vaaBytes, wormholeCoreContract) ↔
      c = u.call vaaBytes wormholeCoreContract := by
  constructor
  · intro h
    cases c <;> cases h <;> rfl
  · rintro rfl
    cases u <;> rfl

variable {φ : Type} {pf : Platform} {code : ForeignCode φ} {R : World φ → World φ → Prop}

/-- A relation on worlds that composes, and that lets the rest of the chain move. -/
structure WorldRel (R : World φ → World φ → Prop) : Prop where
  refl : ∀ w, R w w
  trans : ∀ a b c, R a b → R b c → R a c
  outside : ∀ (w : World φ) balances foreign, R w { w with balances, foreign }

/-- Every trait call keeps `R`, whoever is called. -/
structure Dispatch.Keeps (R : World φ → World φ → Prop) (d : Dispatch (World φ)) : Prop where
  parseAndVerifyVaa : ∀ caller target vaaBytes,
    Contract.Keeps R (d.parseAndVerifyVaa caller target vaaBytes)
  decodeAndVerifyPriceFeeds : ∀ caller target pnauBytes wormholeCore,
    Contract.Keeps R (d.decodeAndVerifyPriceFeeds caller target pnauBytes wormholeCore)
  read : ∀ caller target priceIdentifier,
    Contract.Keeps R (d.read caller target priceIdentifier)
  write : ∀ caller target batchUpdates,
    Contract.Keeps R (d.write caller target batchUpdates)

/-! ## Pieces

What the virtual machine adds around a body, and the steps of a script. -/

/-- A function returns ok when it is not running already and its body returns ok. -/
theorem enter_eq_ok {α : Type} {stack : List FunctionId} {id : FunctionId}
    {m : Contract (World φ) α} {w w' : World φ} {a : α} :
    enter stack id m w = (.ok a, w') ↔ id ∉ stack ∧ m w = (.ok a, w') := by
  unfold enter
  split
  · next hrunning => simp [hrunning]
  · next hnot => simp [hnot, Contract.transaction_eq_ok]

/-- A function that does not return ok has no effect. -/
theorem enter_error {α : Type} {stack : List FunctionId} {id : FunctionId}
    {m : Contract (World φ) α} {w w' : World φ} {e : Exit}
    (h : enter stack id m w = (.error e, w')) : w' = w := by
  unfold enter at h
  -- a function that is on the stack already is not entered
  split at h
  · cases h
    rfl
  · exact Contract.transaction_error h

/-- A call returns ok when its function is not running and its body returns ok. -/
theorem exec_eq_ok {depth : Nat} {stack : List FunctionId} {env : TxEnv} {caller : Principal}
    {c : Call} {w w' : World φ} {reply : Reply} :
    exec pf code depth stack env caller c w = (.ok reply, w') ↔
      c.functionId pf ∉ stack ∧
        c.body pf (vm pf code depth (c.functionId pf :: stack) env) env caller w =
          (.ok reply, w') :=
  enter_eq_ok

/-- **A call that does not return ok has no effect**, whatever it has called. -/
theorem exec_error {depth : Nat} {stack : List FunctionId} {env : TxEnv} {caller : Principal}
    {c : Call} {w w' : World φ} {e : Exit}
    (h : exec pf code depth stack env caller c w = (.error e, w')) : w' = w :=
  enter_error h

/-- Only a call that returns ok has an effect. -/
theorem exec_eq_ok_of_changed {depth : Nat} {stack : List FunctionId} {env : TxEnv}
    {caller : Principal} {c : Call} {w : World φ}
    (h : (exec pf code depth stack env caller c w).2 ≠ w) :
    ∃ reply, exec pf code depth stack env caller c w =
      (.ok reply, (exec pf code depth stack env caller c w).2) := by
  -- a failed call is rolled back
  rcases hrun : exec pf code depth stack env caller c w with ⟨e | reply, w'⟩
  · rw [hrun] at h
    exact absurd (exec_error hrun) h
  · exact ⟨reply, rfl⟩

/-- An abort changes nothing. -/
theorem WorldRel.keeps_abort (hR : WorldRel R) {α : Type} :
    Contract.Keeps R (.lift (.error .abort) : Contract (World φ) α) :=
  fun w => hR.refl w

/-- Entering a function keeps what its transaction keeps. -/
theorem WorldRel.keeps_enter (hR : WorldRel R) {α : Type} {stack : List FunctionId}
    {id : FunctionId} {m : Contract (World φ) α} (hm : Contract.Keeps R m.transaction) :
    Contract.Keeps R (enter stack id m) := by
  unfold enter
  split
  · exact hR.keeps_abort
  · exact hm

/-- Moving STX is one of the things that `R` lets the rest of the chain do. -/
theorem WorldRel.keeps_stxTransfer (hR : WorldRel R) (env : TxEnv) (amount : Nat)
    (sender recipient : Principal) :
    Contract.Keeps R (World.stxTransfer env amount sender recipient) := by
  intro w
  unfold World.stxTransfer
  -- four refusals change nothing; a transfer changes balances, which `R` lets move
  split
  · exact hR.refl w
  split
  · exact hR.refl w
  split
  · exact hR.refl w
  split
  · exact hR.refl w
  · exact hR.outside w _ w.foreign

/-- A foreign contract keeps what the calls it makes keep. Induction on the script. -/
theorem WorldRel.keeps_script (hR : WorldRel R) {ρ : Type}
    {run : TxEnv → Principal → Call → Contract (World φ) Reply}
    (hrun : ∀ env caller c, caller ∉ pf.contracts → Contract.Keeps R (run env caller c))
    (env : TxEnv) (script : Script φ ρ) : Contract.Keeps R (script.run pf run env) := by
  induction script with
  | done result => exact fun w => hR.refl w
  | observe next ih => exact fun w => ih w w
  | store foreign next ih =>
    refine Contract.Keeps.bind hR.trans (fun w => ?_) fun _ => ih
    exact hR.outside w w.balances foreign
  | stxTransfer self asContract amount sender recipient next ih =>
    unfold Script.run
    -- a script that passes for one of the five contracts is aborted
    split
    · exact hR.keeps_abort
    · exact Contract.Keeps.bind hR.trans (hR.keeps_stxTransfer _ _ _ _) fun response =>
        ih response
  | call self asContract c next ih =>
    unfold Script.run
    split
    · exact hR.keeps_abort
    · next hself =>
      refine Contract.Keeps.bind hR.trans ?_ fun response => ih response
      exact (hrun _ _ _ hself).respond

/-! ## Bodies that call through traits

The four bodies that do not write storage of their own contract: they keep what their calls keep. -/

section Bodies

variable {vm : Dispatch (World φ)} {env : TxEnv} {caller : Principal}

theorem WorldRel.keeps_decodeAndVerifyPriceFeeds (hR : WorldRel R) (hvm : vm.Keeps R)
    (pnauBytes : Buff) (wormholeCore : Principal) :
    Contract.Keeps R
      (PnauDecoder.decodeAndVerifyPriceFeeds pf vm caller pnauBytes wormholeCore) := by
  refine .bind hR.trans (.readOnly hR.refl _) fun _ => ?_
  refine .bind hR.trans (.lift hR.refl _) fun _ => ?_
  refine .bind hR.trans (.lift hR.refl _) fun _ => ?_
  refine .bind hR.trans (.lift hR.refl _) fun _ => ?_
  refine .bind hR.trans (hvm.parseAndVerifyVaa _ _ _) fun _ => ?_
  refine .bind hR.trans (.lift hR.refl _) fun _ => ?_
  refine .bind hR.trans (.lift hR.refl _) fun _ => ?_
  refine .bind hR.trans (.gets hR.refl _) fun _ => ?_
  exact .bind hR.trans (.lift hR.refl _) fun _ => .pure hR.refl _

theorem WorldRel.keeps_chargeFee (hR : WorldRel R) (count : Nat) :
    Contract.Keeps R (Oracle.chargeFee (φ := φ) env count) := by
  refine .bind hR.trans (.gets hR.refl _) fun _ => ?_
  refine .bind hR.trans (.lift hR.refl _) fun _ => ?_
  refine .bind hR.trans (hR.keeps_stxTransfer _ _ _ _) fun _ => ?_
  exact .bind hR.trans (.lift hR.refl _) fun _ => .pure hR.refl _

theorem WorldRel.keeps_readPriceFeed (hR : WorldRel R) (hvm : vm.Keeps R) (priceFeedId : Buff)
    (pythStorageAddress : Principal) :
    Contract.Keeps R (Oracle.readPriceFeed pf vm priceFeedId pythStorageAddress) :=
  .bind hR.trans (.readOnly hR.refl _) fun _ => hvm.read _ _ _

theorem WorldRel.keeps_verifyAndUpdatePriceFeeds (hR : WorldRel R) (hvm : vm.Keeps R)
    (priceFeedBytes : Buff) (executionPlan : ExecutionPlanArg) :
    Contract.Keeps R
      (Oracle.verifyAndUpdatePriceFeeds pf vm env caller priceFeedBytes executionPlan) := by
  refine .bind hR.trans (.readOnly hR.refl _) fun _ => ?_
  refine .bind hR.trans (hvm.decodeAndVerifyPriceFeeds _ _ _ _) fun _ => ?_
  refine .bind hR.trans (hvm.write _ _ _) fun _ => ?_
  exact .bind hR.trans (hR.keeps_chargeFee _) fun _ => .pure hR.refl _

theorem WorldRel.keeps_decodePriceFeeds (hR : WorldRel R) (hvm : vm.Keeps R)
    (priceFeedBytes : Buff) (executionPlan : ExecutionPlanArg) :
    Contract.Keeps R
      (Oracle.decodePriceFeeds pf vm env caller priceFeedBytes executionPlan) := by
  refine .bind hR.trans (.readOnly hR.refl _) fun _ => ?_
  refine .bind hR.trans (hvm.decodeAndVerifyPriceFeeds _ _ _ _) fun _ => ?_
  exact .bind hR.trans (hR.keeps_chargeFee _) fun _ => .pure hR.refl _

end Bodies

/-! ## Every nested execution

The induction on the depth. One level down every trait call keeps `R`, so every call does, so every
script does, so every trait call at this level does. -/

/-- `R` is kept by the functions that write storage of their own contract, whenever the
functions that are running satisfy `S`. -/
structure Kept (pf : Platform) (code : ForeignCode φ) (S : List FunctionId → Prop)
    (R : World φ → World φ → Prop) : Prop extends WorldRel R where
  push : ∀ id stack, S stack → S (id :: stack)
  updateGuardiansSet : ∀ guardianSetVaa uncompressedPublicKeys, Contract.Keeps R
    (World.onWormhole (WormholeCore.updateGuardiansSet pf guardianSetVaa
      uncompressedPublicKeys)).transaction
  write : ∀ env caller batchUpdates, Contract.Keeps R
    (Contract.transaction fun w =>
      World.onStore (Store.write pf w.governance env caller batchUpdates) w)
  update : ∀ depth stack env caller (u : Governance.UpdateFunction) vaaBytes
    wormholeCoreContract, S stack →
    (∀ stack' env', S stack' → (vm pf code depth stack' env').Keeps R) →
    Contract.Keeps R (exec pf code depth stack env caller (u.call vaaBytes wormholeCoreContract))

namespace Kept

variable {S : List FunctionId → Prop}

/-- The bodies of the calls that are not updates. -/
theorem body_of_vm (h : Kept pf code S R) {vm : Dispatch (World φ)} (hvm : vm.Keeps R)
    (env : TxEnv) (caller : Principal) {c : Call} (hc : c.update? = none) :
    Contract.Keeps R (c.body pf vm env caller).transaction := by
  have hpure : ∀ r : Reply, Contract.Keeps R (pure r : Contract (World φ) Reply) :=
    .pure h.refl
  -- a case for each function that writes or calls; the others only read
  cases c with
  | updateGuardiansSet v keys =>
    exact .transaction_bind_pure h.refl (h.updateGuardiansSet v keys) _
  | write batch => exact .transaction_bind_pure h.refl (h.write env caller batch) _
  | decodeAndVerifyPriceFeeds bytes p =>
    exact .transaction h.refl (.bind h.trans (h.keeps_decodeAndVerifyPriceFeeds hvm _ _)
      fun _ => hpure _)
  | readPriceFeed id p =>
    exact .transaction h.refl (.bind h.trans (h.keeps_readPriceFeed hvm _ _) fun _ => hpure _)
  | verifyAndUpdatePriceFeeds bytes plan =>
    exact .transaction h.refl (.bind h.trans (h.keeps_verifyAndUpdatePriceFeeds hvm _ _)
      fun _ => hpure _)
  | decodePriceFeeds bytes plan =>
    exact .transaction h.refl (.bind h.trans (h.keeps_decodePriceFeeds hvm _ _)
      fun _ => hpure _)
  | parseVaa | parseAndVerifyVaa | getActiveGuardianSet | checkExecutionFlow |
    checkStorageContract | getCurrentExecutionPlan | getFeeInfo | getStalePriceThreshold |
    getAuthorizedPricesDataSources | read =>
    exact .transaction h.refl (.bind h.trans (fun w => h.refl w) fun _ => hpure _)
  | _ => cases hc

/-- A call keeps `R` when the trait calls from one level below do. -/
theorem exec_of_vm (h : Kept pf code S R) {depth : Nat}
    (hvm : ∀ stack env, S stack → (vm pf code depth stack env).Keeps R)
    {stack : List FunctionId} (hS : S stack) (env : TxEnv) (caller : Principal) (c : Call) :
    Contract.Keeps R (exec pf code depth stack env caller c) := by
  cases hc : c.update? with
  | none => exact h.keeps_enter (h.body_of_vm (hvm _ env (h.push _ _ hS)) env caller hc)
  | some update =>
    obtain ⟨u, vaaBytes, wormholeCoreContract⟩ := update
    rw [Call.update?_eq_some.mp hc]
    exact h.update _ _ _ _ u _ _ hS hvm

/-- Every trait call keeps `R`. Induction on the call depth. -/
theorem vm (h : Kept pf code S R) (depth : Nat) : ∀ stack env, S stack →
    (PythBridge.vm pf code depth stack env).Keeps R := by
  induction depth with
  | zero =>
    exact fun stack env _ =>
      ⟨fun _ _ _ => h.keeps_abort, fun _ _ _ _ => h.keeps_abort, fun _ _ _ => h.keeps_abort,
        fun _ _ _ => h.keeps_abort⟩
  | succ depth ih =>
    intro stack env hS
    -- a foreign contract runs a script, whose calls keep `R` by the hypothesis of the induction
    have hforeign : ∀ target id {ρ : Type} (script : Script φ ρ), Contract.Keeps R
        (if target ∈ pf.contracts then .lift (.error .abort)
        else enter stack id (script.run pf (invoke pf (PythBridge.vm pf code depth) (id :: stack))
          env)) := by
      intro target id ρ script
      split
      · exact h.keeps_abort
      · exact h.keeps_enter (.transaction h.refl (h.keeps_script
          (fun env caller c _ => h.exec_of_vm ih (h.push _ _ hS) env caller c) env script))
    constructor
    · intro caller target vaaBytes
      simp only [PythBridge.vm]
      split
      · exact h.keeps_enter (.transaction h.refl (.readOnly h.refl _))
      · exact hforeign _ _ _
    · intro caller target pnauBytes wormholeCore
      simp only [PythBridge.vm]
      split
      · exact h.keeps_enter (.transaction h.refl
          (h.keeps_decodeAndVerifyPriceFeeds (ih _ env (h.push _ _ hS)) _ _))
      · exact hforeign _ _ _
    · intro caller target priceIdentifier
      simp only [PythBridge.vm]
      split
      · exact h.keeps_enter (.transaction h.refl (.readOnly h.refl _))
      · exact hforeign _ _ _
    · intro caller target batchUpdates
      simp only [PythBridge.vm]
      split
      · exact h.keeps_enter (h.write env caller batchUpdates)
      · exact hforeign _ _ _

/-- **Every nested execution keeps what every writing function keeps.** -/
theorem exec (h : Kept pf code S R) (depth : Nat) {stack : List FunctionId} (hS : S stack)
    (env : TxEnv) (caller : Principal) (c : Call) :
    Contract.Keeps R (PythBridge.exec pf code depth stack env caller c) :=
  h.exec_of_vm (h.vm depth) hS env caller c

end Kept

end PythBridge
