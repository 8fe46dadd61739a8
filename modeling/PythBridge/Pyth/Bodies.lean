import PythBridge.Pyth.DataSources
import PythBridge.Pyth.Updates

/-!
# Writing and executing a governance message

The bodies of the nine actions as a publisher writes them, and what the matching function
decodes them to (`decodeBody_encodeBody`). A message that was executed has installed the value
of its body (`Executes.exists_value`). `update_of_payload` is the other direction of
`update_eq_ok`: a message with a body that decodes is executed.

Nine actions have five layouts, since five of them take a principal. `Value`, `Fits`, `encodeBody`
and `decodeBody` are families over `UpdateFunction`, so that the round trip is one theorem about an
arbitrary action:

* **`decodeBody_encodeBody`** — every argument that fits its place is decoded from what is written
  for it, whatever follows.
* **`install_eq`, `governed_replace`** — executing a message replaces what the action governs, and
  then that reads as the value of the message.
* **`update_of_payload`** — the run of `update` on such a message, step by step.
-/

namespace PythBridge.Governance

open Clarity

variable {pf : Platform}

/-! ## Data sources

A source takes 34 bytes, so a list of them is cut at the multiples of 34. -/

/-- The fields of a data source fit their places. -/
structure SourceFits (source : DataSource) : Prop where
  emitterChain : source.emitterChain < 2 ^ 16
  emitterAddress : source.emitterAddress.length = 32

/-- A source as it is written. -/
def sourceBytes (source : DataSource) : Buff :=
  uintToBuffBe 2 source.emitterChain ++ source.emitterAddress

/-- Every source takes the same room. -/
theorem SourceFits.sourceBytes_length {source : DataSource} (h : SourceFits source) :
    (sourceBytes source).length = 34 := by
  rw [sourceBytes, List.length_append, uintToBuffBe_length, h.emitterAddress]

/-- A written source is read back where it stands. -/
theorem sourceAt_sourceBytes {source : DataSource} (h : SourceFits source) {bytes rest : Buff}
    {pos : Nat} (hbytes : bytes.drop pos = sourceBytes source ++ rest) :
    sourceAt bytes pos = source := by
  have hchain : (bytes.drop pos).take 2 = uintToBuffBe 2 source.emitterChain := by
    rw [hbytes, sourceBytes, List.append_assoc, List.take_left' (uintToBuffBe_length 2 _)]
  have haddress : (bytes.drop (pos + 2)).take 32 = source.emitterAddress := by
    rw [← List.drop_drop, hbytes, sourceBytes, List.append_assoc,
      List.drop_left' (uintToBuffBe_length 2 _), List.take_left' h.emitterAddress]
  rw [sourceAt, hchain, haddress, buffToUintBe_uintToBuffBe h.emitterChain]

/-- A list of data sources: the count, then one source after another. -/
def sourcesBytes (sources : List DataSource) : Buff :=
  uintToBuffBe 1 sources.length ++ (sources.map sourceBytes).flatten

/-- A written list of at most 255 sources is read back. -/
theorem parseAndVerifyPricesDataSources_sourcesBytes (hk : pf.hkCursor.Lawful)
    {sources : List DataSource} (hcount : sources.length ≤ 255)
    (hfits : ∀ source ∈ sources, SourceFits source) (trailing : Buff) :
    parseAndVerifyPricesDataSources pf (sourcesBytes sources ++ trailing) = .ok sources := by
  have hwidth : ∀ piece ∈ sources.map sourceBytes, piece.length = 34 := by
    rw [List.forall_mem_map]
    exact fun source hsource => (hfits source hsource).sourceBytes_length
  have hflatten := flatten_length_of_width hwidth
  rw [List.length_map] at hflatten
  have hnum : numDataSources (sourcesBytes sources ++ trailing) = sources.length := by
    rw [numDataSources, sourcesBytes, List.append_assoc, List.take_left' (uintToBuffBe_length 1 _),
      buffToUintBe_uintToBuffBe (by omega)]
  have hwhole : WholeBody (sourcesBytes sources ++ trailing) := by
    rw [WholeBody, hnum]
    simp only [sourcesBytes, List.length_append, uintToBuffBe_length, hflatten]
    omega
  have hne : sourcesBytes sources ++ trailing ≠ [] := by
    intro hnil
    rw [hnil] at hwhole
    exact absurd hwhole (by decide)
  -- the `i`-th source stands behind the count and `i` others
  have hsource : ∀ i (hi : i < sources.length),
      sourceAt (sourcesBytes sources ++ trailing) (1 + 34 * i) = sources[i] := by
    intro i hi
    have hle : i * 34 ≤ (sources.map sourceBytes).flatten.length := by omega
    have hdrop : (sourcesBytes sources ++ trailing).drop (1 + 34 * i) = sourceBytes sources[i] ++
        (((sources.drop (i + 1)).map sourceBytes).flatten ++ trailing) := by
      rw [← List.drop_drop, sourcesBytes, List.append_assoc,
        List.drop_left' (uintToBuffBe_length 1 _), Nat.mul_comm,
        List.drop_append_of_le_length hle, drop_flatten_of_width hwidth, ← List.map_drop,
        List.drop_eq_getElem_cons hi, List.map_cons, List.flatten_cons, List.append_assoc]
    exact sourceAt_sourceBytes (hfits _ (List.getElem_mem hi)) hdrop
  rw [(parseAndVerifyPricesDataSources_of_count hk hne).1 hwhole, declaredSources, hnum]
  refine congrArg Except.ok (List.ext_getElem (by simp) fun i _ hi => ?_)
  rw [List.getElem_map, List.getElem_range, hsource i hi]

/-! ## Principals

The length in front of the serialization is what the slice is taken of. -/

/-- A principal behind the length of its serialization. -/
def principalBytes (p : Principal) : Buff :=
  uintToBuffBe 1 (toConsensusBuff p).length ++ toConsensusBuff p

/-- A written principal is read back. -/
theorem parsePrincipal_principalBytes (hk : pf.hkCursor.Lawful) {p : Principal}
    (h : p.WellFormed) (trailing : Buff) :
    parsePrincipal pf (principalBytes p ++ trailing) = .ok p := by
  have r₀ : (⟨principalBytes p ++ trailing, 0⟩ : Cursor).rest =
      uintToBuffBe 1 (toConsensusBuff p).length ++ (toConsensusBuff p ++ trailing) := by
    show principalBytes p ++ trailing = _
    rw [principalBytes, List.append_assoc]
  obtain ⟨h₁, r₁⟩ := hk.readUint8.uint_of_rest r₀ h.length_lt (by decide)
  have hslice := hk.slice_of_rest r₁
  simp only [parsePrincipal, exec_bind_eq_ok, tryResponse_eq_ok, unwrapOpt_eq_ok, hk.new,
    Option.getD_none]
  refine ⟨_, h₁, ?_⟩
  rw [hslice]
  exact fromConsensusBuff?_toConsensusBuff h

/-! ## The nine bodies

The functions of the source by action, as dependent functions of the action. -/

namespace UpdateFunction

/-- What an action is for. -/
abbrev Value : UpdateFunction → Type
  | feeValue => FeeValue
  | stalePriceThreshold => Nat
  | feeRecipientAddress | wormholeCoreContract | pythOracleContract | pythDecoderContract |
    pythStoreContract => Principal
  | pricesDataSources => List DataSource
  | governanceDataSource => DataSource

/-- The variable, or the field of the plan, that a function governs. -/
def governed : (u : UpdateFunction) → Storage → u.Value
  | feeValue, st => st.feeValue
  | stalePriceThreshold, st => st.stalePriceThreshold
  | feeRecipientAddress, st => st.feeRecipientAddress
  | wormholeCoreContract, st => st.currentExecutionPlan.wormholeCoreContract
  | pythOracleContract, st => st.currentExecutionPlan.pythOracleContract
  | pythDecoderContract, st => st.currentExecutionPlan.pythDecoderContract
  | pythStoreContract, st => st.currentExecutionPlan.pythStorageContract
  | pricesDataSources, st => st.pricesDataSources
  | governanceDataSource, st => st.governanceDataSource

/-- Replace what a function governs. -/
def replace : (u : UpdateFunction) → u.Value → Storage → Storage
  | feeValue, value, st => { st with feeValue := value }
  | stalePriceThreshold, value, st => { st with stalePriceThreshold := value }
  | feeRecipientAddress, value, st => { st with feeRecipientAddress := value }
  | wormholeCoreContract, value, st =>
    { st with currentExecutionPlan :=
      { st.currentExecutionPlan with wormholeCoreContract := value } }
  | pythOracleContract, value, st =>
    { st with currentExecutionPlan :=
      { st.currentExecutionPlan with pythOracleContract := value } }
  | pythDecoderContract, value, st =>
    { st with currentExecutionPlan :=
      { st.currentExecutionPlan with pythDecoderContract := value } }
  | pythStoreContract, value, st =>
    { st with currentExecutionPlan :=
      { st.currentExecutionPlan with pythStorageContract := value } }
  | pricesDataSources, value, st => { st with pricesDataSources := value }
  | governanceDataSource, value, st => { st with governanceDataSource := value }

/-- The parser of the body. -/
def decodeBody (pf : Platform) : (u : UpdateFunction) → Buff → Exec u.Value
  | feeValue => parseAndVerifyFeeValue pf
  | stalePriceThreshold => parseAndVerifyStalePriceThreshold pf
  | feeRecipientAddress | wormholeCoreContract | pythOracleContract | pythDecoderContract |
    pythStoreContract => parsePrincipal pf
  | pricesDataSources => parseAndVerifyPricesDataSources pf
  | governanceDataSource => parseAndVerifyGovernanceDataSource pf

/-- The arguments of an action: numbers that fit their places, a principal for the recipient
and a contract for a field of the plan, and 1 to 255 sources. -/
def Fits : (u : UpdateFunction) → u.Value → Prop
  | feeValue, value => value.mantissa < 2 ^ 64 ∧ value.exponent < 2 ^ 64
  | stalePriceThreshold, threshold => threshold < 2 ^ 64
  | feeRecipientAddress, recipient => recipient.WellFormed
  | wormholeCoreContract, p | pythOracleContract, p | pythDecoderContract, p |
    pythStoreContract, p => p.WellFormed ∧ p.IsContract
  | pricesDataSources, sources =>
    1 ≤ sources.length ∧ sources.length ≤ 255 ∧ ∀ source ∈ sources, SourceFits source
  | governanceDataSource, source => SourceFits source

/-- What a publisher writes. -/
def encodeBody : (u : UpdateFunction) → u.Value → Buff
  | feeValue, value => uintToBuffBe 8 value.mantissa ++ uintToBuffBe 8 value.exponent
  | stalePriceThreshold, threshold => uintToBuffBe 8 threshold
  | feeRecipientAddress, p | wormholeCoreContract, p | pythOracleContract, p |
    pythDecoderContract, p | pythStoreContract, p => principalBytes p
  | pricesDataSources, sources => sourcesBytes sources
  | governanceDataSource, source => sourceBytes source

end UpdateFunction

theorem parseAndVerifyFeeValue_written (hk : pf.hkCursor.Lawful) {value : FeeValue}
    (hmantissa : value.mantissa < 2 ^ 64) (hexponent : value.exponent < 2 ^ 64)
    (trailing : Buff) :
    parseAndVerifyFeeValue pf
      (uintToBuffBe 8 value.mantissa ++ uintToBuffBe 8 value.exponent ++ trailing) =
        .ok value := by
  have r₀ : (⟨uintToBuffBe 8 value.mantissa ++ uintToBuffBe 8 value.exponent ++ trailing,
      0⟩ : Cursor).rest = uintToBuffBe 8 value.mantissa ++
        (uintToBuffBe 8 value.exponent ++ trailing) := by
    show uintToBuffBe 8 value.mantissa ++ uintToBuffBe 8 value.exponent ++ trailing = _
    rw [List.append_assoc]
  obtain ⟨h₁, r₁⟩ := hk.readUint64.uint_of_rest r₀ (by simpa using hmantissa) (by decide)
  obtain ⟨h₂, -⟩ := hk.readUint64.uint_of_rest r₁ (by simpa using hexponent) (by decide)
  simp only [parseAndVerifyFeeValue, exec_bind_eq_ok, unwrap_eq_ok, exec_pure_eq_ok, hk.new,
    Option.getD_none]
  exact ⟨_, h₁, _, h₂, rfl⟩

theorem parseAndVerifyStalePriceThreshold_written (hk : pf.hkCursor.Lawful) {threshold : Nat}
    (hthreshold : threshold < 2 ^ 64) (trailing : Buff) :
    parseAndVerifyStalePriceThreshold pf (uintToBuffBe 8 threshold ++ trailing) =
      .ok threshold := by
  have r₀ : (⟨uintToBuffBe 8 threshold ++ trailing, 0⟩ : Cursor).rest =
      uintToBuffBe 8 threshold ++ trailing := rfl
  obtain ⟨h₁, -⟩ := hk.readUint64.uint_of_rest r₀ (by simpa using hthreshold) (by decide)
  simp only [parseAndVerifyStalePriceThreshold, exec_bind_eq_ok, unwrap_eq_ok, exec_pure_eq_ok,
    hk.new, Option.getD_none]
  exact ⟨_, h₁, rfl⟩

theorem parseAndVerifyGovernanceDataSource_written (hk : pf.hkCursor.Lawful)
    {source : DataSource} (hfits : SourceFits source) (trailing : Buff) :
    parseAndVerifyGovernanceDataSource pf (sourceBytes source ++ trailing) = .ok source := by
  have r₀ : (⟨sourceBytes source ++ trailing, 0⟩ : Cursor).rest =
      uintToBuffBe 2 source.emitterChain ++ (source.emitterAddress ++ trailing) := by
    show sourceBytes source ++ trailing = _
    rw [sourceBytes, List.append_assoc]
  obtain ⟨h₁, r₁⟩ := hk.readUint16.uint_of_rest r₀ (by simpa using hfits.emitterChain) (by decide)
  obtain ⟨h₂, -⟩ := hk.readBuff32.of_rest r₁ hfits.emitterAddress (by decide)
  simp only [parseAndVerifyGovernanceDataSource, exec_bind_eq_ok, unwrap_eq_ok, exec_pure_eq_ok,
    hk.new, Option.getD_none]
  exact ⟨_, h₁, _, h₂, rfl⟩

namespace UpdateFunction

/-- **Decoding undoes writing, for every action.** One layout after another; the five
principals share theirs. -/
theorem decodeBody_encodeBody (hk : pf.hkCursor.Lawful) {u : UpdateFunction} {value : u.Value}
    (hfits : u.Fits value) (trailing : Buff) :
    u.decodeBody pf (u.encodeBody value ++ trailing) = .ok value := by
  -- a principal, a number, a fee or a list of sources, by the function
  cases u with
  | feeValue => exact parseAndVerifyFeeValue_written hk hfits.1 hfits.2 trailing
  | stalePriceThreshold => exact parseAndVerifyStalePriceThreshold_written hk hfits trailing
  | feeRecipientAddress => exact parsePrincipal_principalBytes hk hfits trailing
  | wormholeCoreContract | pythOracleContract | pythDecoderContract | pythStoreContract =>
    exact parsePrincipal_principalBytes hk hfits.1 trailing
  | pricesDataSources =>
    exact parseAndVerifyPricesDataSources_sourcesBytes hk hfits.2.1 hfits.2.2 trailing
  | governanceDataSource => exact parseAndVerifyGovernanceDataSource_written hk hfits trailing

/-- A function replaces what it governs with the value of the body. -/
theorem install_eq (u : UpdateFunction) (body : Buff) (st : Storage) :
    u.install pf body st = u.decodeBody pf body >>= fun value => pure (u.replace value st) := by
  cases u <;> rfl

/-- There is no argument in an empty body. -/
theorem decodeBody_nil (hk : pf.hkCursor.Lawful) (u : UpdateFunction) (value : u.Value) :
    u.decodeBody pf [] ≠ .ok value := by
  have hfails : ∀ {α : Type} {width : Nat} {decode : Buff → α}
      {read : Cursor → Response (Read α)}, ReadsField width decode read → 0 < width →
        ∀ r, read ⟨[], 0⟩ ≠ .ok r := by
    intro α width decode read hread hpos r hr
    have hholds : 0 + width ≤ 0 := ((hread _ _).mp hr).1
    omega
  intro h
  -- each of the parsers starts with a read of at least one byte
  cases u <;> simp only [decodeBody, parseAndVerifyFeeValue, parseAndVerifyStalePriceThreshold,
    parsePrincipal, parseAndVerifyPricesDataSources, parseAndVerifyGovernanceDataSource,
    exec_bind_eq_ok, unwrap_eq_ok, tryResponse_eq_ok, hk.new, Option.getD_none] at h <;>
    obtain ⟨r, hr, -⟩ := h
  case feeValue | stalePriceThreshold => exact hfails hk.readUint64 (by decide) r hr
  case governanceDataSource => exact hfails hk.readUint16 (by decide) r hr
  all_goals exact hfails hk.readUint8 (by decide) r hr

/-- Replacing a value makes it the value. -/
theorem governed_replace (u : UpdateFunction) (value : u.Value) (st : Storage) :
    u.governed (u.replace value st) = value := by
  cases u <;> rfl

end UpdateFunction

/-! ## What a message installs

Read from the payload of a message that was executed: the header takes 8 bytes, and the body is
behind it. -/

/-- The chain id takes two bytes, on either network. -/
theorem expectedChainId_length (pf : Platform) : (expectedChainId pf).length = 2 := by
  unfold expectedChainId
  split <;> decide

/-- The body of a message stands behind a header of 8 bytes. -/
theorem Executes.exists_value {u : UpdateFunction} {vaa : Vaa} {st st' : Storage}
    (h : Executes pf u vaa st st') :
    ∃ value, u.decodeBody pf (vaa.payload.drop 8) = .ok value ∧
      st' = u.replace value { st with lastSequenceProcessed := vaa.sequence } := by
  obtain ⟨body, hpayload, hinstall⟩ := h.payload
  have haction : u.action.length = 1 := by cases u <;> rfl
  have hheader : (ptgmMagic ++ expectedModule ++ u.action ++ expectedChainId pf).length = 8 := by
    simp only [List.length_append, haction, expectedChainId_length]
    rfl
  rw [u.install_eq, exec_bind_eq_ok] at hinstall
  obtain ⟨value, hvalue, hst'⟩ := hinstall
  rw [hpayload, List.drop_left' hheader]
  exact ⟨value, hvalue, (exec_pure_eq_ok.mp hst').symm⟩

/-- The fee in a body: two numbers of 8 bytes. -/
theorem parseAndVerifyFeeValue_eq_ok (hk : pf.hkCursor.Lawful) {body : Buff} {value : FeeValue}
    (h : parseAndVerifyFeeValue pf body = .ok value) :
    value = ⟨buffToUintBe (body.take 8), buffToUintBe ((body.drop 8).take 8)⟩ := by
  simp only [parseAndVerifyFeeValue, exec_bind_eq_ok, exec_pure_eq_ok, unwrap_eq_ok, hk.new,
    Option.getD_none] at h
  obtain ⟨mantissa, hmantissa, exponent, hexponent, rfl⟩ := h
  obtain ⟨-, rfl⟩ := (hk.readUint64 _ _).mp hmantissa
  obtain ⟨-, rfl⟩ := (hk.readUint64 _ _).mp hexponent
  rfl

/-- The byte behind the length tells whether a body names a contract. -/
theorem parsePrincipal_isContract_iff (hk : pf.hkCursor.Lawful) {body : Buff} {p : Principal}
    (h : parsePrincipal pf body = .ok p) : p.IsContract ↔ body[1]? = some 0x06 := by
  simp only [parsePrincipal, exec_bind_eq_ok, tryResponse_eq_ok, unwrapOpt_eq_ok, hk.new,
    Option.getD_none] at h
  obtain ⟨length, hlength, hprincipal⟩ := h
  obtain ⟨-, rfl⟩ := (hk.readUint8 _ _).mp hlength
  rw [isContract_iff_of_fromConsensusBuff? hprincipal]
  rw [hk.slice_some] at hprincipal ⊢
  split at hprincipal
  · next hholds =>
    rw [if_pos hholds]
    -- an empty slice is no principal, and otherwise the first byte of the slice is the type prefix
    cases hcount : buffToUintBe ((⟨body, 0⟩ : Cursor).take 1) with
    | zero =>
      rw [hcount] at hprincipal
      cases hprincipal
    | succ count =>
      rw [Cursor.take, List.head?_take, if_neg (Nat.succ_ne_zero _), Cursor.rest,
        List.head?_drop]
      rfl
  · cases hprincipal

/-! ## Executing a message

The other direction. A body that is not empty is asked for, since an empty rest may not be readable.
-/

/-- A message with the right header and a newer sequence is parsed. -/
theorem parseAndVerifyPtgm_of_payload (hk : pf.hkCursor.Lawful) {action body payload : Buff}
    {sequence : Nat} {st : Storage} (haction : action.length = 1) (hbody : body ≠ [])
    (hpayload : payload = ptgmMagic ++ expectedModule ++ action ++ expectedChainId pf ++ body)
    (hnewer : st.lastSequenceProcessed < sequence) :
    ∃ ptgm, parseAndVerifyPtgm pf payload sequence st =
        (.ok ptgm, { st with lastSequenceProcessed := sequence }) ∧
      ptgm.action = action ∧ ptgm.body = body := by
  have hchain := expectedChainId_length pf
  have r₀ : (⟨payload, 0⟩ : Cursor).rest =
      ptgmMagic ++ (expectedModule ++ (action ++ (expectedChainId pf ++ body))) := by
    show payload = _
    simp only [hpayload, List.append_assoc]
  obtain ⟨h₁, r₁⟩ := hk.readBuff4.of_rest r₀ rfl (by decide)
  obtain ⟨h₂, r₂⟩ := hk.readBuff1.of_rest r₁ rfl (by decide)
  obtain ⟨h₃, r₃⟩ := hk.readBuff1.of_rest r₂ haction (by decide)
  obtain ⟨h₄, r₄⟩ := hk.readBuff2.of_rest r₃ hchain (by decide)
  obtain ⟨read, h₅, hvalue⟩ := hk.readAll_of_rest r₄ hbody
  simp only [parseAndVerifyPtgm, Contract.bind_eq_ok, Contract.lift_apply, Contract.gets_apply,
    Contract.modify_apply, Contract.pure_apply, Prod.mk.injEq, unwrap_eq_ok, asserts_eq_ok]
  exact ⟨_, ⟨_, _, ⟨h₁, rfl⟩, _, _, ⟨h₂, rfl⟩, _, _, ⟨h₃, rfl⟩, _, _, ⟨h₄, rfl⟩, _, _,
    ⟨h₅, rfl⟩, (), _, ⟨rfl, rfl⟩, (), _, ⟨rfl, rfl⟩, (), _, ⟨rfl, rfl⟩, _, _, ⟨rfl, rfl⟩, (), _,
    ⟨hnewer, rfl⟩, (), _, ⟨trivial, rfl⟩, rfl, rfl⟩, rfl, hvalue⟩

section Update

variable {φ α : Type} {vm : Dispatch (World φ)}

/-- A message whose body decodes is executed. -/
theorem update_of_payload (hk : pf.hkCursor.Lawful) {action body : Buff}
    {decodeBody : Buff → Exec α} {install : ExecutionPlan → α → Storage → Storage}
    {vaaBytes : Buff} {wormholeCoreContract : Principal} {w w₁ : World φ} {vaa : Vaa} {a : α}
    (hverified : vm.parseAndVerifyVaa pf.pythGovernanceV1 wormholeCoreContract vaaBytes w =
      (.ok vaa, w₁))
    (hplan : wormholeCoreContract = w.governance.currentExecutionPlan.wormholeCoreContract)
    (hemitter : vaa.emitter = w₁.governance.governanceDataSource)
    (hnewer : w₁.governance.lastSequenceProcessed < vaa.sequence)
    (haction : action.length = 1) (hbody : body ≠ [])
    (hpayload : vaa.payload =
      ptgmMagic ++ expectedModule ++ action ++ expectedChainId pf ++ body)
    (hvalue : decodeBody body = .ok a) :
    update pf vm action decodeBody install vaaBytes wormholeCoreContract w =
      (.ok a, { w₁ with
        governance := install w.governance.currentExecutionPlan a
          { w₁.governance with lastSequenceProcessed := vaa.sequence } }) := by
  obtain ⟨ptgm, hptgm, hptgmAction, hptgmBody⟩ :=
    parseAndVerifyPtgm_of_payload hk haction hbody hpayload hnewer
  have hsource : checkUpdateSource { w₁.governance with lastSequenceProcessed := vaa.sequence }
      vaa.emitterChain vaa.emitterAddress = .ok true := by
    simp only [checkUpdateSource, exec_bind_eq_ok, asserts_eq_ok, exec_pure_eq_ok]
    exact ⟨(), hemitter.symm, trivial⟩
  have hwormhole : expectActiveWormholeContract wormholeCoreContract
      w.governance.currentExecutionPlan = .ok true := by
    simp only [expectActiveWormholeContract, exec_bind_eq_ok, asserts_eq_ok, exec_pure_eq_ok]
    exact ⟨(), hplan, trivial⟩
  simp only [update, Contract.bind_eq_ok, Contract.lift_apply, Contract.gets_apply,
    Contract.readOnly_apply, Contract.pure_apply, Prod.mk.injEq, asserts_eq_ok,
    World.onGovernance, Contract.zoom_eq_ok, Contract.modify_apply]
  exact ⟨_, _, ⟨rfl, rfl⟩, vaa, w₁, hverified, ptgm, _, ⟨_, hptgm, rfl⟩, (), _,
    ⟨hptgmAction, rfl⟩, true, _, ⟨hsource, rfl⟩, true, _, ⟨hwormhole, rfl⟩, a, _,
    ⟨hptgmBody ▸ hvalue, rfl⟩, (), _, ⟨_, ⟨trivial, rfl⟩, rfl⟩, rfl, rfl⟩

end Update

end PythBridge.Governance
