import PythBridge.System.Effects

/-!
# Governance over whole runs

Every change of the governance storage is the execution of a message
(`Effects.governance_run`), and each message raises the recorded sequence. So the messages
that are executed, at the top of a transaction or nested in one, have strictly increasing
sequences.

The closed runs at the start of the module are the fixtures of the whole development: a deployed
world, an account, a bootstrap of the guardian set, and governance messages signed by the guardian.

* **`governance_authorization_and_frame`** — one call: what a success has checked, that a failure
  has no effect, and that nothing but an update call changes governance.
* **`governance_messages_execute_once`** — a run: strictly increasing sequences, in particular no
  message twice, nested executions included.
-/

namespace PythBridge

open Clarity

variable {φ : Type} {pf : Platform}

/-! ## Closed runs

Transactions of an account on the reference platform, with the guardian of
`WormholeCore.firstSet` signing governance messages. -/

namespace ClosedRun

/-- The world after deployment; every principal has some STX. -/
def fresh : World Unit where
  wormhole := .deployed
  governance := .deployed .reference
  store := .deployed
  balances := fun _ => 1000
  foreign := ()

/-- Contracts outside the repository that abort whatever they are asked. -/
def silent : ForeignCode Unit where
  parseAndVerifyVaa _ _ _ := .done (.error .abort)
  decodeAndVerifyPriceFeeds _ _ _ _ := .done (.error .abort)
  read _ _ _ := .done (.error .abort)
  write _ _ _ := .done (.error .abort)

/-- An account outside the repository. -/
def account : Principal := .standard ⟨26, List.replicate 20 2⟩

/-- The chain at a block time ten seconds after the oldest price that is not stale. -/
def sampleEnv : TxEnv where
  txSender := account
  blockHeight := 1
  blockTime _ := some (5 * 365 * 24 * 60 * 60 + 10)

/-- A transaction of this account. -/
def txOf (call : Call) : Tx where
  depth := 4
  env := sampleEnv
  contractCaller := account
  call := call

/-- The first guardian set is stored. -/
def bootstrap : Event Unit :=
  .tx <| txOf (.updateGuardiansSet WormholeCore.firstSet.guardianSetVaa
    WormholeCore.firstSet.uncompressedPublicKeys)

/-- A governance message for an action, signed by the guardian. -/
def message (u : Governance.UpdateFunction) (sequence : Nat) (body : Buff) : Vaa :=
  WormholeCore.signed (WormholeCore.unsigned 1
    (Governance.Storage.deployed .reference).governanceDataSource sequence
    (Governance.ptgmMagic ++ Governance.expectedModule ++ u.action ++
      Governance.expectedChainId .reference ++ body))

/-- The transaction that has a message executed. -/
def govern (u : Governance.UpdateFunction) (sequence : Nat) (body : Buff) : Tx :=
  txOf (u.call (WormholeCore.serialize (message u sequence body))
    Platform.reference.wormholeCoreV2)

/-- A message that sets the fee to zero. -/
def feeUpdate : Tx := govern .feeValue 5 (List.replicate 16 0)

def principalBody (p : Principal) : Buff :=
  let bytes := match p with
    | .standard account => [0x05, account.version] ++ account.hashBytes
    | .contract issuer name =>
      [0x06, issuer.version] ++ issuer.hashBytes ++ uintToBuffBe 1 name.length ++ name
  uintToBuffBe 1 bytes.length ++ bytes

end ClosedRun

/-! ## Authorization and frame

A function that calls nothing through a trait runs no foreign code, so the frame is unconditional.
-/

/-- The call runs no code outside the repository: its function calls nothing through a
trait. -/
def Call.CallsNoTrait : Call → Prop
  | .decodeAndVerifyPriceFeeds _ _ | .readPriceFeed _ _ | .verifyAndUpdatePriceFeeds _ _
  | .decodePriceFeeds _ _ => False
  | c => c.update? = none

/-- A call that runs no foreign code leaves governance alone, unless it is an update call. -/
theorem exec_governance_of_callsNoTrait {code : ForeignCode φ} {depth : Nat}
    {stack : List FunctionId} {env : TxEnv} {caller : Principal} {c : Call}
    (hc : c.CallsNoTrait) (w : World φ) :
    (exec pf code depth stack env caller c w).2.governance = w.governance := by
  have hR : WorldRel fun w w' : World φ => w'.governance = w.governance :=
    ⟨fun _ => rfl, fun _ _ _ hab hbc => hbc.trans hab, fun _ _ _ => rfl⟩
  refine hR.keeps_enter (.transaction hR.refl ?_) w
  -- the functions that call through traits are excluded, and the others write elsewhere or nothing
  cases c with
  | decodeAndVerifyPriceFeeds | readPriceFeed | verifyAndUpdatePriceFeeds | decodePriceFeeds =>
    exact absurd hc id
  | parseVaa | parseAndVerifyVaa | updateGuardiansSet | getActiveGuardianSet |
    checkExecutionFlow | checkStorageContract | getCurrentExecutionPlan | getFeeInfo |
    getStalePriceThreshold | getAuthorizedPricesDataSources | read | write =>
    exact .bind hR.trans (fun _ => rfl) fun _ => .pure hR.refl _
  | _ => cases hc

/-- **Governance authorization and frame.** For every update function, argument and
wormhole contract, at any depth of calls: a call that returns ok was given the plan's wormhole
contract, and the VAA this contract returned comes from the governance data source, names the
function's action in its payload and has a new sequence; exactly the recorded sequence and the
function's value change. A call that does not return ok changes nothing. Any other call
changes governance only through update calls that run inside it, and not at all when its
function calls no trait; and nothing outside the system changes governance. -/
theorem governance_authorization_and_frame (hk : pf.hkCursor.Lawful) (code : ForeignCode φ) :
    (∀ depth stack env caller (u : Governance.UpdateFunction) vaaBytes wormholeCoreContract
        (w w' : World φ) reply,
      exec pf code depth stack env caller (u.call vaaBytes wormholeCoreContract) w =
        (.ok reply, w') →
      wormholeCoreContract = w.governance.currentExecutionPlan.wormholeCoreContract ∧
      ∃ vaa w₁,
        (vm pf code depth ((u.call vaaBytes wormholeCoreContract).functionId pf :: stack)
          env).parseAndVerifyVaa pf.pythGovernanceV1 wormholeCoreContract vaaBytes w =
            (.ok vaa, w₁) ∧
        vaa.emitter = w.governance.governanceDataSource ∧
        w.governance.lastSequenceProcessed < vaa.sequence ∧
        ∃ body, vaa.payload = Governance.ptgmMagic ++ Governance.expectedModule ++ u.action ++
            Governance.expectedChainId pf ++ body ∧
          u.install pf body { w.governance with lastSequenceProcessed := vaa.sequence } =
            .ok w'.governance) ∧
    (∀ depth stack env caller (u : Governance.UpdateFunction) vaaBytes wormholeCoreContract
        (w w' : World φ) e,
      exec pf code depth stack env caller (u.call vaaBytes wormholeCoreContract) w =
        (.error e, w') → w' = w) ∧
    (∀ depth stack env caller (c : Call) (w : World φ), c.update? = none →
      (∃ effects, Effects pf code (c.functionId pf :: stack) w effects
        (exec pf code depth stack env caller c w).2) ∧
      (c.CallsNoTrait →
        (exec pf code depth stack env caller c w).2.governance = w.governance)) ∧
    ∀ (w : World φ) balances foreign,
      (w.step pf code (.outside balances foreign)).governance = w.governance := by
  refine ⟨?_, fun _ _ _ _ _ _ _ _ _ _ => exec_error, ?_, fun _ _ _ => rfl⟩
  · intro depth stack env caller u vaaBytes wormholeCoreContract w w' reply h
    obtain ⟨hplan, vaa, w₁, hvaa, -, hexecutes, -⟩ := exec_update_eq_ok hk h
    obtain ⟨body, hpayload, hinstall⟩ := hexecutes.payload
    exact ⟨hplan, vaa, w₁, hvaa, hexecutes.emitter, hexecutes.newer, body, hpayload, hinstall⟩
  · intro depth stack env caller c w hc
    refine ⟨?_, fun hno => exec_governance_of_callsNoTrait hno w⟩
    have hkept := effects_kept hk code (c.functionId pf :: stack)
    exact hkept.keeps_enter (hkept.body_of_vm (hkept.vm depth _ env List.suffix_rfl) env caller
      hc) w

open ClosedRun in
theorem governance_authorization_and_frame_feeValue :
    let w := afterRun (World.step .reference silent) fresh [bootstrap]
    ∃ vaa : Vaa, vaa.emitter = w.governance.governanceDataSource ∧
      w.governance.lastSequenceProcessed < vaa.sequence := by
  intro w
  have hok : (feeUpdate.run .reference silent w).1 = .ok (.feeValue ⟨0, 0⟩) := by
    decide +kernel
  obtain ⟨-, vaa, -, -, hemitter, hnewer, -⟩ :=
    (governance_authorization_and_frame Platform.reference_lawful silent).1
      _ _ _ _ .feeValue _ _ w _ _ (Contract.run_eq hok)
  exact ⟨vaa, hemitter, hnewer⟩

/-! ## Sequences

Executed messages are read off the path of effects; the messages of top-level calls are among them.
-/

/-- A message counter of governance: each executed message raises it to its own sequence. -/
theorem climbs_of_executions {messages : List (Governance.UpdateFunction × Vaa)}
    {st st' : Governance.Storage}
    (h : Executions pf st messages st') :
    Climbs st.lastSequenceProcessed (messages.map fun message => message.2.sequence)
      st'.lastSequenceProcessed := by
  -- each message is ahead of the state that it is executed on
  induction h with
  | nil => exact .nil _
  | cons hstep _ ih =>
    rw [hstep.lastSequenceProcessed] at ih
    exact .cons hstep.newer ih

/-- What the guardians sign of a VAA: everything but the header. -/
def Vaa.signedFields (vaa : Vaa) : Vaa :=
  { vaa with version := 0, guardianSetId := 0, signaturesLen := 0, signatures := [] }

/-- The message a transaction has executed: the VAA that a successful update call got. -/
def Event.executed (pf : Platform) (code : ForeignCode φ) (w : World φ) :
    Event φ → List (Governance.UpdateFunction × Vaa)
  | .tx t =>
    match t.call.update?, (t.run pf code w).1 with
    | some (u, vaaBytes, wormholeCoreContract), .ok _ =>
      match ((vm pf code t.depth [t.call.functionId pf] t.env).parseAndVerifyVaa
        pf.pythGovernanceV1 wormholeCoreContract vaaBytes w).1 with
      | .ok vaa => [(u, vaa)]
      | .error _ => []
    | _, _ => []
  | .outside _ _ => []

/-- The messages executed by a run, one transaction after another. -/
def executedMessages (pf : Platform) (code : ForeignCode φ) :
    World φ → List (Event φ) → List (Governance.UpdateFunction × Vaa) :=
  outputs (World.step pf code) fun w e => e.executed pf code w

/-- One event executes the messages of its path, its own message among them. -/
theorem Event.executed_sublist (hk : pf.hkCursor.Lawful) (code : ForeignCode φ) (w : World φ)
    (e : Event φ) : ∃ effects, Effects pf code [] w effects (w.step pf code e) ∧
      (e.executed pf code w).Sublist (effects.flatMap Effect.messages) := by
  cases e with
  | outside balances foreign =>
    exact ⟨[.move], .single (.move balances foreign), List.nil_sublist _⟩
  | tx t =>
    -- a call that is no update executes no message of its own
    cases hupdate : t.call.update? with
    | none =>
      obtain ⟨effects, hpath⟩ := step_effects hk code w (.tx t)
      exact ⟨effects, hpath, by simp [Event.executed, hupdate]⟩
    | some update =>
      obtain ⟨u, vaaBytes, wormholeCoreContract⟩ := update
      have hcall := Call.update?_eq_some.mp hupdate
      -- a transaction that fails has executed no message of its own, whatever its path
      rcases hrun : t.run pf code w with ⟨e | reply, w'⟩
      · obtain ⟨effects, hpath⟩ := step_effects hk code w (.tx t)
        exact ⟨effects, hpath, by simp [Event.executed, hupdate, hrun]⟩
      · have hexec := hrun
        rw [Tx.run, hcall] at hexec
        obtain ⟨vaa, w₁, effects, hvaa, hpath⟩ := effects_update hk List.nil_suffix
          (fun stack env h => (effects_kept hk code []).vm t.depth stack env h) hexec
        rw [← hcall] at hvaa
        refine ⟨effects ++ [.govern u vaa], by rwa [World.step, hrun], ?_⟩
        simp [Event.executed, hupdate, hrun, hvaa, Effect.messages]

/-- The messages of a run, in order, among those that brought governance where it is. -/
theorem afterRun_executes (hk : pf.hkCursor.Lawful) (code : ForeignCode φ) (w : World φ)
    (events : List (Event φ)) : ∃ messages, (executedMessages pf code w events).Sublist messages ∧
      Executions pf w.governance messages
        (afterRun (World.step pf code) w events).governance := by
  refine outputs_rel _ (R := fun w xs w' => ∃ messages, xs.Sublist messages ∧
    Executions pf w.governance messages w'.governance) (fun w => ⟨[], .slnil, .nil _⟩) ?_ ?_ w
  · rintro s xs t ys u ⟨ms, hms, hst⟩ ⟨ns, hns, htu⟩
    exact ⟨ms ++ ns, hms.append hns, hst.append htu⟩
  · intro w e _
    obtain ⟨effects, heffects, hsub⟩ := e.executed_sublist hk code w
    exact ⟨_, hsub, heffects.governance_run⟩

/-- **Governance messages execute at most once, in order.** In every run the messages of the
successful update calls, together with those executed by calls nested in other transactions,
have strictly increasing sequences, so no VAA is executed twice, by the same function or by
another one; every change of governance is the execution of one of them; and a call that does
not return ok leaves everything as it was, the recorded sequence included. -/
theorem governance_messages_execute_once (hk : pf.hkCursor.Lawful) (code : ForeignCode φ)
    (w : World φ) (events : List (Event φ)) :
    (∃ messages, (executedMessages pf code w events).Sublist messages ∧
      Executions pf w.governance messages
        (afterRun (World.step pf code) w events).governance ∧
      (messages.map fun message => message.2.sequence).Pairwise (· < ·) ∧
      (messages.map fun message => message.2.signedFields).Nodup) ∧
    ((executedMessages pf code w events).map fun message => message.2.sequence).Pairwise
      (· < ·) ∧
    ((executedMessages pf code w events).map fun message => message.2.signedFields).Nodup ∧
    ∀ depth stack env caller (c : Call) (w w' : World φ) e,
      exec pf code depth stack env caller c w = (.error e, w') → w' = w := by
  obtain ⟨messages, hsub, hpath⟩ := afterRun_executes hk code w events
  have hpairwise := (climbs_of_executions hpath).pairwise
  have hnodup : (messages.map fun message => message.2.signedFields).Nodup := by
    -- equal signed fields have equal sequences
    refine List.pairwise_map.mpr ((List.pairwise_map.mp hpairwise).imp fun hlt heq => ?_)
    have := congrArg Vaa.sequence heq
    simp only [Vaa.signedFields] at this
    omega
  exact ⟨⟨messages, hsub, hpath, hpairwise, hnodup⟩, hpairwise.sublist (hsub.map _),
    hnodup.sublist (hsub.map _), fun _ _ _ _ _ _ _ _ => exec_error⟩

open ClosedRun in
/-- A message for a new fee, and the same VAA again: it is executed once. -/
theorem governance_messages_execute_once_feeValue :
    let events := [bootstrap, .tx feeUpdate, .tx feeUpdate]
    executedMessages .reference silent fresh events =
        [(.feeValue, message .feeValue 5 (List.replicate 16 0))] ∧
      ((executedMessages .reference silent fresh events).map fun m => m.2.signedFields).Nodup :=
  ⟨by decide +kernel, (governance_messages_execute_once
    Platform.reference_lawful silent fresh _).2.2.1⟩

end PythBridge
