import PythBridge.Pyth.DecoderRecords
import PythBridge.Pyth.ExecutionFlow

/-!
# What the decoder accepts

The layout of a PNAU message and of the payload of its VAA, and `Attestation`: everything
that stands behind the prices a successful decoding returns.

`Attestation` carries its own evidence: besides the pieces of the message it has a field for each
fact that the decoder has established about them, so whoever holds an attestation need not look at
the decoder again. It is parametric in the verification of VAAs (`verify`) and in the sources, and
the results about the whole system instantiate both.
-/

namespace PythBridge.PnauDecoder

open Clarity

variable {pf : Platform}

/-! ## Layout

What the two parsers have read, written back in front of what follows. -/

/-- A PNAU message with the VAA `vaaBytes` and the update section `updates`. -/
def pnauMessage (trailing vaaBytes updates : Buff) : Buff :=
  pnauMagic ++ [1] ++ [0] ++ uintToBuffBe 1 trailing.length ++ trailing ++ [0] ++
    uintToBuffBe 2 vaaBytes.length ++ vaaBytes ++ updates

/-- An AUWV payload of update type `0` with the Merkle root `root`. -/
def auwvPayload (slot ringSize : Nat) (root trailing : Buff) : Buff :=
  auwvMagic ++ [0] ++ uintToBuffBe 8 slot ++ uintToBuffBe 4 ringSize ++ root ++ trailing

/-- The bytes of a header that was accepted, with some trailing bytes that were skipped. -/
theorem parsePnauHeader_eq_ok (hk : pf.hkCursor.Lawful) {pfBytes : Buff}
    {header : Read PnauHeader} (h : parsePnauHeader pf pfBytes = .ok header) :
    ∃ trailing, pfBytes = pnauMagic ++ [1] ++ [0] ++ uintToBuffBe 1 trailing.length ++ trailing ++
      [0] ++ header.next.rest := by
  simp only [parsePnauHeader, exec_bind_eq_ok, unwrap_eq_ok, asserts_eq_ok, exec_pure_eq_ok] at h
  obtain ⟨magic, hmagic, versionMaj, hversionMaj, versionMin, hversionMin, size, hsize, proofType,
    hproofType, _, hmagic₁, _, hmaj₁, _, hmin₀, _, hproof₀, rfl⟩ := h
  obtain ⟨-, hn₁, -, h₁⟩ := hk.readBuff4.buff hmagic
  obtain ⟨-, hn₂, -, h₂⟩ := hk.readUint8.uint hversionMaj
  obtain ⟨-, hn₃, -, h₃⟩ := hk.readUint8.uint hversionMin
  obtain ⟨-, hn₄, -, h₄⟩ := hk.readUint8.uint hsize
  obtain ⟨hinside, -, -, h₅⟩ := hk.readUint8.uint hproofType
  -- the proof type lies behind the trailing header, inside the buffer
  have hbytes : size.next.bytes = pfBytes := by
    rw [hn₄, hn₃, hn₂, hn₁]
    rfl
  have hskip : (⟨pfBytes, size.next.pos + size.value⟩ : Cursor) = size.next.skip size.value := by
    rw [Cursor.skip, hbytes]
  have hlength : (size.next.take size.value).length = size.value := by
    refine Cursor.take_length ?_
    simp only [Cursor.Holds, hbytes] at *
    omega
  refine ⟨size.next.take size.value, ?_⟩
  have hall : pfBytes = (⟨pfBytes, 0⟩ : Cursor).rest := rfl
  rw [hlength, hall, h₁, h₂, h₃, h₄, size.next.rest_eq_take_append size.value, ← hskip, h₅,
    hmagic₁, hmaj₁, hmin₀, hproof₀]
  simp only [List.append_assoc]
  rfl

/-- The bytes of a payload that was accepted. -/
theorem parseMerkleRootDataFromVaaPayload_eq_ok (hk : pf.hkCursor.Lawful) {payload : Buff}
    {data : Read MerkleRootData}
    (h : parseMerkleRootDataFromVaaPayload pf payload = .ok data) :
    data.value.merkleRootHash.length = 20 ∧
      payload = auwvPayload data.value.merkleRootSlot data.value.merkleRootRingSize
        data.value.merkleRootHash data.next.rest := by
  simp only [parseMerkleRootDataFromVaaPayload, exec_bind_eq_ok, unwrap_eq_ok, asserts_eq_ok,
    exec_pure_eq_ok] at h
  obtain ⟨payloadType, hpayloadType, updateType, hupdateType, slot, hslot, ringSize, hringSize,
    root, hroot, _, hmagic, _, hzero, rfl⟩ := h
  obtain ⟨-, -, -, h₁⟩ := hk.readBuff4.buff hpayloadType
  obtain ⟨-, -, -, h₂⟩ := hk.readUint8.uint hupdateType
  obtain ⟨-, -, -, h₃⟩ := hk.readUint64.uint hslot
  obtain ⟨-, -, -, h₄⟩ := hk.readUint32.uint hringSize
  obtain ⟨-, -, hlength, h₅⟩ := hk.readBuff20.buff hroot
  refine ⟨hlength, ?_⟩
  have hall : payload = (⟨payload, 0⟩ : Cursor).rest := rfl
  simp only [auwvPayload]
  rw [hall, h₁, h₂, h₃, h₄, h₅, hmagic, hzero]
  simp only [List.append_assoc]
  rfl

/-! ## Attestations

From the run of the decoder to its evidence. -/

/-- What stands behind the prices of a PNAU message: the VAA it embeds was returned by
`verify`, comes from an authorized data source and carries a root of 20 bytes, and the updates
are records of the message with proofs against exactly this root. -/
structure Attestation (pf : Platform) (verify : Buff → Vaa → Prop) (sources : List DataSource)
    (pnauBytes : Buff) where
  trailing : Buff
  vaaBytes : Buff
  updatesBytes : Buff
  vaa : Vaa
  slot : Nat
  ringSize : Nat
  root : Buff
  payloadTrailing : Buff
  updates : List DecodedPriceUpdate
  layout : pnauBytes = pnauMessage trailing vaaBytes updatesBytes
  verified : verify vaaBytes vaa
  source : vaa.emitter ∈ sources
  payload : vaa.payload = auwvPayload slot ringSize root payloadTrailing
  root_length : root.length = 20
  parsed : parseAndVerifyPricesUpdates pf updatesBytes root = .ok updates
  record : ∀ update ∈ updates, ∃ pos, RecordAt (updatesBytes.drop 1) pos update
  proof : ∀ update ∈ updates, pf.checkProof root update.leafBytes update.proof = true

variable {φ : Type} {vm : Dispatch (World φ)}

/-- **What a successful decoding has gone through.** `w₁` is the world that the wormhole
contract left; the data sources are read after it. -/
theorem decodePnauPriceUpdate_eq_ok (hk : pf.hkCursor.Lawful) {pnauBytes : Buff}
    {wormholeCoreAddress : Principal} {w w₁ : World φ} {prices : List PriceUpdate}
    (h : decodePnauPriceUpdate pf vm pnauBytes wormholeCoreAddress w = (.ok prices, w₁)) :
    ∃ a : Attestation pf (fun vaaBytes vaa =>
        vm.parseAndVerifyVaa pf.pythPnauDecoderV1 wormholeCoreAddress vaaBytes w = (.ok vaa, w₁))
        w₁.governance.pricesDataSources pnauBytes,
      prices = a.updates.map castDecodedPrice := by
  simp only [decodePnauPriceUpdate, Contract.bind_eq_ok, Contract.lift_apply,
    Contract.gets_apply, Contract.pure_apply, Prod.mk.injEq, tryResponse_eq_ok,
    unwrapOpt_eq_ok] at h
  obtain ⟨header, _, ⟨hheader, rfl⟩, size, _, ⟨hsize, rfl⟩, vaaRead, _, ⟨hvaaRead, rfl⟩, vaa, _,
    hvaa, data, _, ⟨hdata, rfl⟩, updates, _, ⟨hupdates, rfl⟩, sources, _, ⟨hsources, rfl⟩, _, _,
    ⟨hsource, rfl⟩, hprices, rfl⟩ := h
  cases hsources
  cases hprices
  obtain ⟨trailing, hlayout⟩ := parsePnauHeader_eq_ok hk hheader
  obtain ⟨-, -, -, h₁⟩ := hk.readUint16.uint hsize
  obtain ⟨hinside, rfl⟩ := hk.readBuff8192Max_some _ _ _ hvaaRead
  have hvaaLength := Cursor.take_length hinside
  rw [hk.slice_none] at hupdates
  obtain ⟨hroot, hpayload⟩ := parseMerkleRootDataFromVaaPayload_eq_ok hk hdata
  obtain ⟨⟨finish, hrecords, -⟩, hproofs⟩ := parseAndVerifyPricesUpdates_eq_ok hk hupdates
  refine ⟨{
    trailing
    vaaBytes := size.next.take size.value
    updatesBytes := (size.next.skip size.value).rest
    vaa
    slot := data.value.merkleRootSlot
    ringSize := data.value.merkleRootRingSize
    root := data.value.merkleRootHash
    payloadTrailing := data.next.rest
    updates
    layout := ?_
    verified := hvaa
    source := ?_
    payload := hpayload
    root_length := hroot
    parsed := hupdates
    record := fun update hupdate => ?_
    proof := hproofs }, rfl⟩
  · rw [pnauMessage, hvaaLength, hlayout, h₁, size.next.rest_eq_take_append size.value]
    simp only [List.append_assoc]
  · rw [Vaa.emitter]
    -- a source that is not in the list has no index in it
    by_contra hnot
    rw [Governance.getAuthorizedPricesDataSources,
      List.idxOf?_eq_none_iff.mpr hnot] at hsource
    cases hsource
  · obtain ⟨pos, stride, hdecode⟩ := hrecords.exists_decode update hupdate
    exact ⟨pos, (decodeRecord_eq_ok hk hdecode).1⟩

/-- The prices of a message depend on the wormhole contract only through the VAA it returns. -/
theorem decodePnauPriceUpdate_congr (vm' : Dispatch (World φ)) {pnauBytes : Buff}
    {wormholeCoreAddress : Principal} {w w₁ : World φ} {prices : List PriceUpdate}
    (h : decodePnauPriceUpdate pf vm pnauBytes wormholeCoreAddress w = (.ok prices, w₁))
    (hvm : ∀ vaaBytes vaa w₁,
      vm.parseAndVerifyVaa pf.pythPnauDecoderV1 wormholeCoreAddress vaaBytes w = (.ok vaa, w₁) →
      vm'.parseAndVerifyVaa pf.pythPnauDecoderV1 wormholeCoreAddress vaaBytes w =
        (.ok vaa, w₁)) :
    decodePnauPriceUpdate pf vm' pnauBytes wormholeCoreAddress w = (.ok prices, w₁) := by
  simp only [decodePnauPriceUpdate, Contract.bind_eq_ok, Contract.lift_apply,
    Prod.mk.injEq] at h ⊢
  obtain ⟨header, _, ⟨hheader, rfl⟩, size, _, ⟨hsize, rfl⟩, vaaRead, _, ⟨hvaaRead, rfl⟩, vaa, w₂,
    hvaa, rest⟩ := h
  exact ⟨header, _, ⟨hheader, rfl⟩, size, _, ⟨hsize, rfl⟩, vaaRead, _, ⟨hvaaRead, rfl⟩, vaa, w₂,
    hvm _ _ _ hvaa, rest⟩

/-- The decoder runs for a caller that the plan allows. -/
theorem decodeAndVerifyPriceFeeds_eq_ok {caller : Principal} {pnauBytes : Buff}
    {wormholeCoreAddress : Principal} {w w₁ : World φ} {prices : List PriceUpdate}
    (h : decodeAndVerifyPriceFeeds pf vm caller pnauBytes wormholeCoreAddress w =
      (.ok prices, w₁)) :
    w.governance.currentExecutionPlan.Allows pf.pythPnauDecoderV1 caller none ∧
      decodePnauPriceUpdate pf vm pnauBytes wormholeCoreAddress w = (.ok prices, w₁) := by
  simp only [decodeAndVerifyPriceFeeds, Contract.bind_eq_ok, Contract.readOnly_apply,
    Prod.mk.injEq] at h
  obtain ⟨_, _, ⟨hflow, rfl⟩, h⟩ := h
  exact ⟨(Governance.checkExecutionFlow_eq_ok.mp hflow).2, h⟩

end PythBridge.PnauDecoder
