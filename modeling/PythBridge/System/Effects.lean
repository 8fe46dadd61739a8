import PythBridge.Pyth.StoreRuns
import PythBridge.System.Updates
import PythBridge.Wormhole.GuardianSets

/-!
# The effects of a call

A call can nest other calls to any depth, and what fails is undone. What is left is a path of
single effects: rotations of the guardian set, writes to the store, governance messages, and
moves of balances and of the storage of other contracts (`exec_effects`). This is the flat
model of the system; the runs of each contract by itself are projections of the path.

This is a refinement: the composed system, with its nesting, rollbacks and foreign code, against
three contracts that are each called one call after another. A path records what remained of an
execution. Failed calls leave nothing in it, and a call that succeeded inside a call that failed
leaves nothing either.

* **`effects_kept`** — every nested execution is a path. By the frame rule of `Frames` only the
  three writing functions have to be looked at.
* **`Effects.wormhole_run`, `Effects.store_run`, `Effects.governance_run`** — the projections.
* **`Reachable.runs`** — invariants that were proved of runs of one contract hold of the system.
-/

namespace PythBridge

open Clarity

/-- What an execution can leave behind. -/
inductive Effect where
  | rotate (c : WormholeCore.UpdateCall)
  | write (c : Store.WriteCall)
  | govern (u : Governance.UpdateFunction) (vaa : Vaa)
  /-- Balances and the storage of other contracts. -/
  | move

variable {φ : Type} {pf : Platform} {code : ForeignCode φ} {running : List FunctionId}

/-- One effect on the world. A governance message is executed by an update call that runs
inside all of `running`; `w` is the world after the plan's wormhole contract returned the
message. -/
inductive Effect.Step (pf : Platform) (code : ForeignCode φ) (running : List FunctionId) :
    World φ → Effect → World φ → Prop where
  | rotate {w : World φ} (c : WormholeCore.UpdateCall)
      {updated : WormholeCore.GuardiansSetUpdated}
      (h : (c.run pf w.wormhole).1 = .ok updated) :
      Step pf code running w (.rotate c) { w with wormhole := w.wormhole.after pf c }
  | write {w : World φ} (c : Store.WriteCall) (hgov : c.governance = w.governance)
      {written : List PriceUpdate} (h : (c.run pf w.store).1 = .ok written) :
      Step pf code running w (.write c) { w with store := w.store.after pf c }
  | govern {w w₀ : World φ} {u : Governance.UpdateFunction} {vaa : Vaa}
      {st' : Governance.Storage} {depth : Nat} {stack : List FunctionId} {env : TxEnv}
      {caller : Principal} {vaaBytes : Buff} {wormholeCoreContract : Principal} {reply : Reply}
      (hrunning : running <:+ stack)
      (hexec : exec pf code depth stack env caller (u.call vaaBytes wormholeCoreContract) w₀ =
        (.ok reply, { w with governance := st' }))
      (hvaa : (vm pf code depth ((u.call vaaBytes wormholeCoreContract).functionId pf :: stack)
        env).parseAndVerifyVaa pf.pythGovernanceV1
          w.governance.currentExecutionPlan.wormholeCoreContract vaaBytes w₀ = (.ok vaa, w))
      (hexecutes : Governance.Executes pf u vaa w.governance st') :
      Step pf code running w (.govern u vaa) { w with governance := st' }
  | move {w : World φ} (balances : Principal → Nat) (foreign : φ) :
      Step pf code running w .move { w with balances, foreign }

/-- The effects of an execution one after another. -/
abbrev Effects (pf : Platform) (code : ForeignCode φ) (running : List FunctionId) :
    World φ → List Effect → World φ → Prop :=
  Path (Effect.Step pf code running)

/-! ## Every execution is a path of effects

An update call is the one case in which a callee comes first: the contract that is asked for the VAA
leaves a path, and the message is executed behind it. -/

/-- What an update call adds to the path of the contract it calls is one message. -/
theorem effects_update (hk : pf.hkCursor.Lawful) {depth : Nat} {stack : List FunctionId}
    {env : TxEnv} {caller : Principal} {u : Governance.UpdateFunction} {vaaBytes : Buff}
    {wormholeCoreContract : Principal} {w w' : World φ} {reply : Reply}
    (hrunning : running <:+ stack)
    (hvm : ∀ stack env, running <:+ stack → (vm pf code depth stack env).Keeps fun w w' =>
      ∃ effects, Effects pf code running w effects w')
    (h : exec pf code depth stack env caller (u.call vaaBytes wormholeCoreContract) w =
      (.ok reply, w')) :
    ∃ vaa w₁ effects,
      (vm pf code depth ((u.call vaaBytes wormholeCoreContract).functionId pf :: stack)
        env).parseAndVerifyVaa pf.pythGovernanceV1 wormholeCoreContract vaaBytes w =
          (.ok vaa, w₁) ∧
      Effects pf code running w (effects ++ [.govern u vaa]) w' := by
  obtain ⟨hplan, vaa, w₁, hvaa, hsame, hexecutes, hw'⟩ := exec_update_eq_ok hk h
  have hpath := (hvm ((u.call vaaBytes wormholeCoreContract).functionId pf :: stack) env
    (hrunning.trans (List.suffix_cons _ _))).parseAndVerifyVaa pf.pythGovernanceV1
      wormholeCoreContract vaaBytes w
  rw [hvaa] at hpath
  obtain ⟨effects, hpath⟩ := hpath
  refine ⟨vaa, w₁, effects, hvaa, hpath.append ?_⟩
  rw [hw'] at h ⊢
  refine .single (.govern hrunning h ?_ (hsame ▸ hexecutes))
  rwa [hsame, ← hplan]

/-- **Every execution leaves a path of effects.** -/
theorem effects_kept (hk : pf.hkCursor.Lawful) (code : ForeignCode φ)
    (running : List FunctionId) :
    Kept pf code (running <:+ ·) fun w w' => ∃ effects, Effects pf code running w effects w' where
  refl w := ⟨[], .nil w⟩
  trans a b c := by
    rintro ⟨xs, hab⟩ ⟨ys, hbc⟩
    exact ⟨xs ++ ys, hab.append hbc⟩
  outside w balances foreign := ⟨[.move], .single (.move balances foreign)⟩
  push id stack h := h.trans (List.suffix_cons id stack)
  updateGuardiansSet guardianSetVaa uncompressedPublicKeys := by
    refine .transaction_of_ok (fun w => ⟨[], .nil w⟩) fun w updated w' h => ?_
    obtain ⟨st', hbody, rfl⟩ := Contract.zoom_eq_ok.mp h
    let c : WormholeCore.UpdateCall := ⟨guardianSetVaa, uncompressedPublicKeys⟩
    have hrun : c.run pf w.wormhole = (.ok updated, st') :=
      Contract.transaction_eq_ok.mpr hbody
    have hafter : w.wormhole.after pf c = st' := by rw [WormholeCore.Storage.after, hrun]
    exact ⟨[.rotate c], .single (hafter ▸ .rotate c (by rw [hrun]))⟩
  write env caller batchUpdates := by
    refine .transaction_of_ok (fun w => ⟨[], .nil w⟩) fun w written w' h => ?_
    obtain ⟨st', hbody, rfl⟩ := Contract.zoom_eq_ok.mp h
    let c : Store.WriteCall := ⟨w.governance, env, caller, batchUpdates⟩
    have hrun : c.run pf w.store = (.ok written, st') := Contract.transaction_eq_ok.mpr hbody
    have hafter : w.store.after pf c = st' := by rw [Store.Storage.after, hrun]
    exact ⟨[.write c], .single (hafter ▸ .write c rfl (by rw [hrun]))⟩
  update depth stack env caller u vaaBytes wormholeCoreContract hrunning hvm := by
    intro w
    -- an update that fails leaves nothing, one that succeeds its callee's path and its message
    rcases h : exec pf code depth stack env caller (u.call vaaBytes wormholeCoreContract) w with
      ⟨e | reply, w'⟩
    · rw [exec_error h]
      exact ⟨[], .nil w⟩
    · obtain ⟨vaa, w₁, effects, -, hpath⟩ := effects_update hk hrunning hvm h
      exact ⟨_, hpath⟩

/-- Every execution leaves a path, with the functions of the stack running all along. -/
theorem exec_effects (hk : pf.hkCursor.Lawful) (code : ForeignCode φ) (depth : Nat)
    (stack : List FunctionId) (env : TxEnv) (caller : Principal) (c : Call) (w : World φ) :
    ∃ effects, Effects pf code stack w effects (exec pf code depth stack env caller c w).2 :=
  (effects_kept hk code stack).exec depth List.suffix_rfl env caller c w

/-- Every event leaves a path. -/
theorem step_effects (hk : pf.hkCursor.Lawful) (code : ForeignCode φ) (w : World φ)
    (e : Event φ) :
    ∃ effects, Effects pf code [] w effects (w.step pf code e) := by
  -- whatever happens outside is one effect; a transaction has those of its calls
  cases e with
  | tx t => exact exec_effects hk code t.depth [] t.env t.contractCaller t.call w
  | outside balances foreign => exact ⟨[.move], .single (.move balances foreign)⟩

/-- Every run leaves a path. -/
theorem afterRun_effects (hk : pf.hkCursor.Lawful) (code : ForeignCode φ) (w : World φ)
    (events : List (Event φ)) :
    ∃ effects, Effects pf code [] w effects (afterRun (World.step pf code) w events) := by
  refine afterRun_rel (R := fun w w' => ∃ effects, Effects pf code [] w effects w')
    (fun w => ⟨[], .nil w⟩) ?_ (fun w e _ => step_effects hk code w e) w
  rintro s t u ⟨xs, hst⟩ ⟨ys, htu⟩
  exact ⟨xs ++ ys, hst.append htu⟩

/-! ## Projections

Each contract only sees the effects on its own storage. -/

/-- The effect on `wormhole-core-v2`. -/
def Effect.rotations : Effect → List WormholeCore.UpdateCall
  | .rotate c => [c]
  | _ => []

/-- The effect on `pyth-store-v1`. -/
def Effect.writes : Effect → List Store.WriteCall
  | .write c => [c]
  | _ => []

/-- The effect on `pyth-governance-v1`. -/
def Effect.messages : Effect → List (Governance.UpdateFunction × Vaa)
  | .govern u vaa => [(u, vaa)]
  | _ => []

/-- **`wormhole-core-v2` by itself.** -/
theorem Effects.wormhole_run {w w' : World φ} {effects : List Effect}
    (h : Effects pf code running w effects w') :
    w'.wormhole = afterRun (WormholeCore.Storage.after pf) w.wormhole
      (effects.flatMap Effect.rotations) := by
  refine Path.rel Effect.rotations
    (R := fun w calls w' => w'.wormhole = afterRun (WormholeCore.Storage.after pf) w.wormhole
      calls) (fun _ => rfl) ?_ ?_ h
  · intro s xs t ys u hst htu
    rw [htu, hst, afterRun_append]
  · intro s e t hstep
    cases hstep <;> rfl

/-- **`pyth-store-v1` by itself.** -/
theorem Effects.store_run {w w' : World φ} {effects : List Effect}
    (h : Effects pf code running w effects w') :
    w'.store = afterRun (Store.Storage.after pf) w.store (effects.flatMap Effect.writes) := by
  refine Path.rel Effect.writes
    (R := fun w calls w' => w'.store = afterRun (Store.Storage.after pf) w.store calls)
    (fun _ => rfl) ?_ ?_ h
  · intro s xs t ys u hst htu
    rw [htu, hst, afterRun_append]
  · intro s e t hstep
    cases hstep <;> rfl

/-- `messages` are executed one after another from `st` to `st'`. -/
abbrev Executions (pf : Platform) :
    Governance.Storage → List (Governance.UpdateFunction × Vaa) → Governance.Storage → Prop :=
  Path fun st message st' => Governance.Executes pf message.1 message.2 st st'

/-- **`pyth-governance-v1` by itself.** -/
theorem Effects.governance_run {w w' : World φ} {effects : List Effect}
    (h : Effects pf code running w effects w') :
    Executions pf w.governance (effects.flatMap Effect.messages) w'.governance := by
  refine Path.rel Effect.messages
    (R := fun w messages w' => Executions pf w.governance messages w'.governance)
    (fun _ => .nil _) ?_ ?_ h
  · intro s xs t ys u hst htu
    exact hst.append htu
  · intro s e t hstep
    -- of the four effects one executes a message
    cases hstep with
    | govern _ _ _ hexecutes => exact .single hexecutes
    | _ => exact .nil _

/-! ## Reachable worlds

Invariants of the contracts by themselves, carried over. -/

/-- **The contracts by themselves.** In a reachable world each contract is where a run of its
own leaves it. What is proved about those runs holds in the composed system. -/
theorem Reachable.runs (hk : pf.hkCursor.Lawful) {w : World φ} (h : Reachable pf code w) :
    ∃ rotations writes messages,
      w.wormhole = afterRun (WormholeCore.Storage.after pf) .deployed rotations ∧
      w.store = afterRun (Store.Storage.after pf) .deployed writes ∧
      Executions pf (.deployed pf) messages w.governance := by
  obtain ⟨w₀, events, ⟨hwormhole, hgovernance, hstore⟩, -, rfl⟩ := h
  obtain ⟨effects, hpath⟩ := afterRun_effects hk code w₀ events
  refine ⟨effects.flatMap Effect.rotations, effects.flatMap Effect.writes,
    effects.flatMap Effect.messages, ?_, ?_, ?_⟩
  · rw [← hwormhole]
    exact hpath.wormhole_run
  · rw [← hstore]
    exact hpath.store_run
  · rw [← hgovernance]
    exact hpath.governance_run

/-- The governance of a reachable world is what executed messages made of the deployed one. -/
theorem Reachable.executions (hk : pf.hkCursor.Lawful) {w : World φ} (h : Reachable pf code w) :
    ∃ messages, Executions pf (.deployed pf) messages w.governance := by
  obtain ⟨-, -, messages, -, -, hrun⟩ := h.runs hk
  exact ⟨messages, hrun⟩

/-- The guardian sets of a reachable world are chained. -/
theorem Reachable.chained (hk : pf.hkCursor.Lawful) {w : World φ} (h : Reachable pf code w) :
    w.wormhole.Chained := by
  obtain ⟨rotations, -, -, hrun, -, -⟩ := h.runs hk
  rw [hrun]
  exact WormholeCore.Storage.deployed_chained.afterRun hk rotations

theorem Reachable.consistent (hk : pf.hkCursor.Lawful) {w : World φ}
    (h : Reachable pf code w) : w.store.Consistent := by
  obtain ⟨-, writes, -, -, hrun, -⟩ := h.runs hk
  rw [hrun]
  exact Store.Storage.deployed_consistent.afterRun writes

end PythBridge
