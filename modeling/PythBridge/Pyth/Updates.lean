import PythBridge.Pyth.Governance

/-!
# Governance messages

What a governance message is for: it names one of nine actions, comes from the governance
data source with a new sequence, and replaces one value. `Executes` states this without the
order in which `update` reads, writes and checks; `update_eq_ok` takes a successful body
apart once, for all nine functions.

The abstract layer of the governance contract is `Executes` with `install`: a message is a value for
one of nine variables. `UpdateFunction` enumerates the variables, so results about governance are
proved once for an arbitrary `u`, and the nine functions of the source are its instances.

`update` calls a contract that the caller names before it compares that contract with the plan. What
this contract does in the meantime is not known, so `update_eq_ok` speaks of the world `w₁` that it
leaves; only when it leaves governance alone (`executes_of_update_eq_ok`) has the message been
executed in the state in which the call was made.
-/

namespace PythBridge.Governance

open Clarity

/-- The nine `update-*` functions, by the variable that each of them sets. -/
inductive UpdateFunction where
  | feeValue | stalePriceThreshold | feeRecipientAddress
  | wormholeCoreContract | pythOracleContract | pythDecoderContract | pythStoreContract
  | pricesDataSources | governanceDataSource
deriving DecidableEq, Repr

namespace UpdateFunction

/-- The action byte that a message for this function carries. -/
def action : UpdateFunction → Buff
  | feeValue => ptgmUpdateFee
  | stalePriceThreshold => ptgmStalePriceThreshold
  | feeRecipientAddress => ptgmUpdateRecipientAddress
  | wormholeCoreContract => ptgmUpdateWormholeCoreAddress
  | pythOracleContract => ptgmUpdatePythOracleAddress
  | pythDecoderContract => ptgmUpdatePythDecoderAddress
  | pythStoreContract => ptgmUpdatePythStoreAddress
  | pricesDataSources => ptgmUpdatePricesDataSources
  | governanceDataSource => ptgmUpdateGovernanceDataSource

/-- Decode the body of a message and replace the one value the function governs. -/
def install (pf : Platform) (u : UpdateFunction) (body : Buff) (st : Storage) : Exec Storage :=
  match u with
  | feeValue => do
    let value ← parseAndVerifyFeeValue pf body
    pure { st with feeValue := value }
  | stalePriceThreshold => do
    let value ← parseAndVerifyStalePriceThreshold pf body
    pure { st with stalePriceThreshold := value }
  | feeRecipientAddress => do
    let value ← parsePrincipal pf body
    pure { st with feeRecipientAddress := value }
  | wormholeCoreContract => do
    let value ← parsePrincipal pf body
    pure { st with currentExecutionPlan :=
      { st.currentExecutionPlan with wormholeCoreContract := value } }
  | pythOracleContract => do
    let value ← parsePrincipal pf body
    pure { st with currentExecutionPlan :=
      { st.currentExecutionPlan with pythOracleContract := value } }
  | pythDecoderContract => do
    let value ← parsePrincipal pf body
    pure { st with currentExecutionPlan :=
      { st.currentExecutionPlan with pythDecoderContract := value } }
  | pythStoreContract => do
    let value ← parsePrincipal pf body
    pure { st with currentExecutionPlan :=
      { st.currentExecutionPlan with pythStorageContract := value } }
  | pricesDataSources => do
    let value ← parseAndVerifyPricesDataSources pf body
    pure { st with pricesDataSources := value }
  | governanceDataSource => do
    let value ← parseAndVerifyGovernanceDataSource pf body
    pure { st with governanceDataSource := value }

/-- No message sets the sequence: it is moved on by being executed. -/
theorem install_lastSequenceProcessed {pf : Platform} {u : UpdateFunction} {body : Buff}
    {st st' : Storage} (h : u.install pf body st = .ok st') :
    st'.lastSequenceProcessed = st.lastSequenceProcessed := by
  cases u <;>
    · simp only [install, exec_bind_eq_ok, exec_pure_eq_ok] at h
      obtain ⟨value, -, rfl⟩ := h
      rfl

end UpdateFunction

/-- `u` executes the governance message `vaa`: the emitter is the governance data source, the
sequence is new, the payload names the action, and exactly the sequence and the one value
change. -/
structure Executes (pf : Platform) (u : UpdateFunction) (vaa : Vaa) (st st' : Storage) :
    Prop where
  emitter : vaa.emitter = st.governanceDataSource
  newer : st.lastSequenceProcessed < vaa.sequence
  payload : ∃ body,
    vaa.payload = ptgmMagic ++ expectedModule ++ u.action ++ expectedChainId pf ++ body ∧
      u.install pf body { st with lastSequenceProcessed := vaa.sequence } = .ok st'

theorem Executes.lastSequenceProcessed {pf : Platform} {u : UpdateFunction} {vaa : Vaa}
    {st st' : Storage} (h : Executes pf u vaa st st') :
    st'.lastSequenceProcessed = vaa.sequence := by
  obtain ⟨body, -, hinstall⟩ := h.payload
  exact UpdateFunction.install_lastSequenceProcessed hinstall

/-! ## Inversion

The checks of `update`, read back from a success. -/

variable {pf : Platform}

/-- A message that was parsed: its bytes, and the sequence that it brought. -/
theorem parseAndVerifyPtgm_eq_ok (hk : pf.hkCursor.Lawful) {ptgmBytes : Buff} {sequence : Nat}
    {st st' : Storage} {ptgm : Ptgm}
    (h : parseAndVerifyPtgm pf ptgmBytes sequence st = (.ok ptgm, st')) :
    ptgmBytes = ptgmMagic ++ expectedModule ++ ptgm.action ++ expectedChainId pf ++ ptgm.body ∧
      st.lastSequenceProcessed < sequence ∧
      st' = { st with lastSequenceProcessed := sequence } := by
  simp only [parseAndVerifyPtgm, Contract.bind_eq_ok, Contract.lift_apply, Contract.gets_apply,
    Contract.modify_apply, Contract.pure_apply, Prod.mk.injEq, unwrap_eq_ok, asserts_eq_ok] at h
  obtain ⟨magic, _, ⟨hmagic, rfl⟩, mod, _, ⟨hmod, rfl⟩, action, _, ⟨haction, rfl⟩, chainId, _,
    ⟨hchainId, rfl⟩, body, _, ⟨hbody, rfl⟩, _, _, ⟨hmagic', rfl⟩, _, _, ⟨hchainId', rfl⟩, _, _,
    ⟨hmod', rfl⟩, _, _, ⟨hlast, rfl⟩, _, _, ⟨hnewer, rfl⟩, _, _, ⟨-, rfl⟩, hptgm, rfl⟩ := h
  cases hlast
  cases hptgm
  obtain ⟨-, -, -, hbytes⟩ := hk.readBuff4.buff hmagic
  obtain ⟨-, -, -, hbytes1⟩ := hk.readBuff1.buff hmod
  obtain ⟨-, -, -, hbytes2⟩ := hk.readBuff1.buff haction
  obtain ⟨-, -, -, hbytes3⟩ := hk.readBuff2.buff hchainId
  obtain ⟨-, hbytes4⟩ := hk.readBuff8192Max_none _ _ hbody
  -- the five reads put together again are the whole payload
  refine ⟨?_, hnewer, rfl⟩
  have hall : ptgmBytes = (⟨ptgmBytes, 0⟩ : Cursor).rest := rfl
  rw [hall, hbytes, hbytes1, hbytes2, hbytes3, ← hbytes4, hmagic', hmod', hchainId']
  simp only [List.append_assoc]

section Update

variable {φ α : Type} {vm : Dispatch (World φ)}

/-- **What a successful update has gone through.** `w₁` is the world the contract that was
passed as `wormholeCoreContract` left; the plan is the one read before that call. -/
theorem update_eq_ok (hk : pf.hkCursor.Lawful) {action : Buff} {decodeBody : Buff → Exec α}
    {install : ExecutionPlan → α → Storage → Storage} {vaaBytes : Buff}
    {wormholeCoreContract : Principal} {w w' : World φ} {a : α}
    (h : update pf vm action decodeBody install vaaBytes wormholeCoreContract w = (.ok a, w')) :
    ∃ vaa w₁ body,
      vm.parseAndVerifyVaa pf.pythGovernanceV1 wormholeCoreContract vaaBytes w = (.ok vaa, w₁) ∧
      wormholeCoreContract = w.governance.currentExecutionPlan.wormholeCoreContract ∧
      vaa.emitter = w₁.governance.governanceDataSource ∧
      w₁.governance.lastSequenceProcessed < vaa.sequence ∧
      vaa.payload = ptgmMagic ++ expectedModule ++ action ++ expectedChainId pf ++ body ∧
      decodeBody body = .ok a ∧
      w' = { w₁ with
        governance := install w.governance.currentExecutionPlan a
          { w₁.governance with lastSequenceProcessed := vaa.sequence } } := by
  simp only [update, Contract.bind_eq_ok, Contract.lift_apply, Contract.gets_apply,
    Contract.readOnly_apply, Contract.pure_apply, Prod.mk.injEq, asserts_eq_ok,
    World.onGovernance, Contract.zoom_eq_ok, Contract.modify_apply] at h
  obtain ⟨plan, _, ⟨hplan, rfl⟩, vaa, w₁, hvaa, ptgm, _, ⟨st, hptgm, rfl⟩, _, _, ⟨haction, rfl⟩,
    _, _, ⟨hsource, rfl⟩, _, _, ⟨hwormhole, rfl⟩, value, _, ⟨hvalue, rfl⟩, _, _,
    ⟨_, ⟨-, rfl⟩, rfl⟩, ha, rfl⟩ := h
  cases hplan
  cases ha
  obtain ⟨hpayload, hnewer, rfl⟩ := parseAndVerifyPtgm_eq_ok hk hptgm
  simp only [checkUpdateSource, exec_bind_eq_ok, asserts_eq_ok] at hsource
  obtain ⟨_, hsource, -⟩ := hsource
  simp only [expectActiveWormholeContract, exec_bind_eq_ok, asserts_eq_ok] at hwormhole
  obtain ⟨_, hwormhole, -⟩ := hwormhole
  exact ⟨vaa, w₁, ptgm.body, hvaa, hwormhole, hsource.symm, hnewer, haction ▸ hpayload,
    hvalue, rfl⟩

/-- `h` is the body of `u`, which decodes and installs as `hinstall` says. When the contract
that was passed left governance alone, the body has executed the message it returned. -/
theorem executes_of_update_eq_ok (hk : pf.hkCursor.Lawful) {u : UpdateFunction}
    {decodeBody : Buff → Exec α} {install : ExecutionPlan → α → Storage → Storage}
    (hinstall : ∀ body st, u.install pf body st =
      decodeBody body >>= fun a => pure (install st.currentExecutionPlan a st))
    {vaaBytes : Buff} {wormholeCoreContract : Principal} {w w' : World φ} {a : α}
    (h : update pf vm u.action decodeBody install vaaBytes wormholeCoreContract w = (.ok a, w')) :
    ∃ vaa w₁,
      vm.parseAndVerifyVaa pf.pythGovernanceV1 wormholeCoreContract vaaBytes w = (.ok vaa, w₁) ∧
      wormholeCoreContract = w.governance.currentExecutionPlan.wormholeCoreContract ∧
      (w₁.governance = w.governance → ∃ st', Executes pf u vaa w₁.governance st' ∧
        w' = { w₁ with governance := st' }) := by
  obtain ⟨vaa, w₁, body, hvaa, hplan, hemitter, hnewer, hpayload, hvalue, rfl⟩ :=
    update_eq_ok hk h
  refine ⟨vaa, w₁, hvaa, hplan, fun hsame => ⟨_, ⟨hemitter, hnewer, body, hpayload, ?_⟩, rfl⟩⟩
  rw [hinstall, hvalue, ← hsame]
  rfl

end Update

end PythBridge.Governance
