import PythBridge.Pyth.PlainReader

/-!
# Where the decoder aborts

Header, VAA and Merkle root are read with errors of their own, and the update records with
`unwrap-panic`: `ERR_UPDATE_TYPE` is raised inside one. `UpdatesReadable` says when no record
aborts, and then the decoder returns a value or an error
(`decodeAndVerifyPriceFeeds_reports_iff`).

The message is read from the outside in, and the module follows it: header and VAA (`Framed`), the
Merkle root in the payload (`CarriesRoot`), the records (`UpdatesReadable`). Each layer matters only
when the ones around it were accepted, since otherwise the decoder has returned an error by then.
This is why the condition is a chain of implications.

* **`parsePnauHeader_reports`, `parseMerkleRootDataFromVaaPayload_reports`** — the outer layers
  never abort, whatever the bytes are.
* **`parseAndVerifyPricesUpdates_reports_iff`** — the records abort exactly when one of them cannot
  be read or the list has no room.
* **`decodeAndVerifyPriceFeeds_reports_iff`** — the decoder as the oracle calls it.
-/

namespace PythBridge.PnauDecoder

open Clarity

variable {pf : Platform}

/-! ## The update section

Which records are visited is told by `recordStarts`, from the declared sizes alone. -/

/-- The starts of the records behind the count of an update section. -/
def updateStarts (updates : Buff) : List Nat :=
  recordStarts (recordLength (updates.drop 1)) (updates.drop 1).length (numUpdates updates) 0

/-- Every record that starts inside the section, up to the count, can be read, and they are at
most 64. -/
def UpdatesReadable (updates : Buff) : Prop :=
  (∀ start ∈ updateStarts updates, RecordReadable (updates.drop 1) start) ∧
    (updateStarts updates).length ≤ 64

instance (updates : Buff) : Decidable (UpdatesReadable updates) :=
  inferInstanceAs (Decidable (_ ∧ _))

/-- The updates are read without an abort exactly when they are readable, or there is no count at
all. -/
theorem parseAndVerifyPricesUpdates_reports_iff (hk : pf.hkCursor.Lawful) (updates root : Buff) :
    Reports (fun _ => True) (parseAndVerifyPricesUpdates pf updates root) ↔
      (updates ≠ [] → UpdatesReadable updates) := by
  have hwalk : ((updates.drop 1).foldlM
      (parsePriceInfoAndProof pf (updates.drop 1) (numUpdates updates)) .start).map
        WalkAcc.result =
      if UpdatesReadable updates then .ok ((updateStarts updates).map (recordOf (updates.drop 1)))
      else .error .abort := by
    rw [parsePriceInfoAndProof_eq_walkStep]
    exact (decodeRecord_decodesBy hk (updates.drop 1)).foldlM_walkStep_eq 64 (numUpdates updates)
      (updates.drop 1)
  have hcount : (⟨updates, 0⟩ : Cursor).Holds 1 ↔ updates ≠ [] := by
    rw [← List.length_pos_iff]
    show 0 + 1 ≤ updates.length ↔ _
    omega
  rw [parseAndVerifyPricesUpdates, reports_tryResponse_bind fun _ _ => trivial,
    hk.readUint8.forall_ok, hcount]
  refine imp_congr_right fun _ => ?_
  rw [hk.slice_none]
  constructor
  · intro h
    have hfold : Reports (fun _ => True) ((updates.drop 1).foldlM
        (parsePriceInfoAndProof pf (updates.drop 1) (numUpdates updates)) .start) :=
      (reports_bind.mp h).1
    -- a record that cannot be read aborts the walk, so the fold would not have reported
    by_contra hbad
    rw [← reports_map (f := WalkAcc.result), hwalk, if_neg hbad] at hfold
    exact not_reports_abort hfold
  · intro hreadable
    rw [if_pos hreadable] at hwalk
    obtain ⟨acc, hfold, -⟩ := exec_map_eq_ok.mp hwalk
    have hreports : Reports (fun _ => True) ((updates.drop 1).foldlM
        (parsePriceInfoAndProof pf (updates.drop 1) (numUpdates updates)) .start) :=
      hfold ▸ .ok acc
    -- behind the walk there is one check with an error of its own
    exact reports_bind.mpr ⟨hreports, fun _ _ =>
      (reports_asserts_bind trivial).mpr fun _ => .ok _⟩

/-! ## The Merkle root

Fixed fields, each with an error of its own. -/

/-- The payload carries a Merkle root: 37 bytes that start with the magic and update type
`0`. -/
structure CarriesRoot (payload : Buff) : Prop where
  length : 37 ≤ payload.length
  payloadType : payload.take 4 = auwvMagic
  updateType : buffToUintBe ((payload.drop 4).take 1) = 0

/-- Reading the root never aborts. -/
theorem parseMerkleRootDataFromVaaPayload_reports (payload : Buff) :
    Reports (fun _ => True) (parseMerkleRootDataFromVaaPayload pf payload) := by
  simp (disch := trivial) only [parseMerkleRootDataFromVaaPayload, reports_unwrap_bind,
    reports_asserts_bind]
  intros
  exact .ok _

/-- The root is read exactly from a payload that carries one. -/
theorem parseMerkleRootDataFromVaaPayload_returns_iff (hk : pf.hkCursor.Lawful)
    (payload : Buff) :
    (∃ data, parseMerkleRootDataFromVaaPayload pf payload = .ok data) ↔ CarriesRoot payload := by
  rw [← returns_iff]
  simp only [parseMerkleRootDataFromVaaPayload, returns_unwrap_bind, returns_asserts_bind,
    hk.readBuff4.exists_ok, hk.readUint8.exists_ok, hk.readUint64.exists_ok,
    hk.readUint32.exists_ok, hk.readBuff20.exists_ok, reports_pure, and_true]
  constructor
  · rintro ⟨-, -, -, -, hlength, hmagic, htype⟩
    exact ⟨hlength, hmagic, htype⟩
  · intro h
    have hholds := Cursor.holds_of_le h.length
    exact ⟨hholds 0 4 (by decide), hholds 4 1 (by decide), hholds 5 8 (by decide),
      hholds 13 4 (by decide), hholds 17 20 (by decide), h.payloadType, h.updateType⟩

/-! ## The message

Sizes decide where things are, so the positions are functions of the bytes. -/

/-- The number of bytes that a header declares behind its fields. -/
def headerTrailingSize (pnauBytes : Buff) : Nat := buffToUintBe (field pnauBytes 6 1)

/-- The declared size of the VAA. -/
def vaaSize (pnauBytes : Buff) : Nat :=
  buffToUintBe (field pnauBytes (7 + headerTrailingSize pnauBytes + 1) 2)

/-- The VAA of a message, where the sizes in front of it say. -/
def embeddedVaa (pnauBytes : Buff) : Buff :=
  field pnauBytes (7 + headerTrailingSize pnauBytes + 3) (vaaSize pnauBytes)

/-- What follows the VAA. -/
def updateSection (pnauBytes : Buff) : Buff :=
  pnauBytes.drop (7 + headerTrailingSize pnauBytes + 3 + vaaSize pnauBytes)

/-- A header that passes every check. -/
structure HeaderAccepted (pnauBytes : Buff) : Prop where
  inside : 7 + headerTrailingSize pnauBytes + 1 ≤ pnauBytes.length
  magic : field pnauBytes 0 4 = pnauMagic
  versionMaj : buffToUintBe (field pnauBytes 4 1) = pythnetMajorVersion
  versionMin : buffToUintBe (field pnauBytes 5 1) = pythnetMinorVersion
  proofType : buffToUintBe (field pnauBytes (7 + headerTrailingSize pnauBytes) 1) = 0

/-- Where the VAA of a message starts. -/
def vaaCursor (pnauBytes : Buff) : Cursor := ⟨pnauBytes, 7 + headerTrailingSize pnauBytes + 3⟩

/-- A message with a header that is accepted and a VAA that ends inside it. Whether a VAA of size
zero is read is up to the cursor. -/
structure Framed (pf : Platform) (pnauBytes : Buff) : Prop where
  header : HeaderAccepted pnauBytes
  vaa : (vaaCursor pnauBytes).Holds (vaaSize pnauBytes)
  empty : vaaSize pnauBytes = 0 → pf.hkCursor.ReadsMax (vaaCursor pnauBytes) (some 0)

/-- Reading a header never aborts. -/
theorem parsePnauHeader_reports (pnauBytes : Buff) :
    Reports (fun _ => True) (parsePnauHeader pf pnauBytes) := by
  simp (disch := trivial) only [parsePnauHeader, reports_unwrap_bind, reports_asserts_bind]
  intros
  exact .ok _

/-- A header is read exactly when it is accepted. -/
theorem parsePnauHeader_returns_iff (hk : pf.hkCursor.Lawful) (pnauBytes : Buff) :
    (∃ header, parsePnauHeader pf pnauBytes = .ok header) ↔ HeaderAccepted pnauBytes := by
  rw [← returns_iff]
  simp only [parsePnauHeader, returns_unwrap_bind, returns_asserts_bind, hk.readBuff4.exists_ok,
    hk.readUint8.exists_ok, reports_pure, and_true]
  constructor
  · rintro ⟨-, -, -, -, hinside, hmagic, hversionMaj, hversionMin, hproofType⟩
    exact ⟨hinside, hmagic, hversionMaj, hversionMin, hproofType⟩
  · intro h
    have hholds := Cursor.holds_of_le h.inside
    exact ⟨hholds 0 4 (by omega), hholds 4 1 (by omega), hholds 5 1 (by omega),
      hholds 6 1 (by omega), h.inside, h.magic, h.versionMaj, h.versionMin, h.proofType⟩

/-- Behind the header stands the size of the VAA. -/
theorem parsePnauHeader_next (hk : pf.hkCursor.Lawful) {pnauBytes : Buff}
    {header : Read PnauHeader} (h : parsePnauHeader pf pnauBytes = .ok header) :
    header.next = ⟨pnauBytes, 7 + headerTrailingSize pnauBytes + 1⟩ := by
  simp only [parsePnauHeader, exec_bind_eq_ok, unwrap_eq_ok, asserts_eq_ok, exec_pure_eq_ok,
    hk.readBuff4.exists_ok, hk.readUint8.exists_ok] at h
  obtain ⟨-, -, -, -, -, -, -, -, -, -, -, -, -, rfl⟩ := h
  rfl

/-! ## The decoder

The foreign part is the verification of the VAA; its outcome is a hypothesis here. -/

section Message

variable {φ : Type} {vm : Dispatch (World φ)} {pnauBytes : Buff} {wormholeCoreAddress : Principal}
  {w w₁ : World φ} {vaa : Vaa}

/-- The three reads in front of the VAA's verification, when they return. -/
theorem framed_of_reads (hk : pf.hkCursor.Lawful) {header : Read PnauHeader} {size : Read Nat}
    {vaaRead : Read Buff} (hheader : parsePnauHeader pf pnauBytes = .ok header)
    (hsize : pf.hkCursor.readUint16 header.next = .ok size)
    (hvaaRead : pf.hkCursor.readBuff8192Max size.next (some size.value) = .ok vaaRead) :
    Framed pf pnauBytes ∧ vaaRead.value = embeddedVaa pnauBytes ∧
      vaaRead.next.rest = updateSection pnauBytes := by
  rw [parsePnauHeader_next hk hheader] at hsize
  obtain ⟨-, rfl⟩ := (hk.readUint16 _ _).mp hsize
  obtain ⟨⟨hinside, hempty⟩, rfl⟩ := hk.readSome_iff.mp hvaaRead
  exact ⟨⟨(parsePnauHeader_returns_iff hk _).mp ⟨header, hheader⟩, hinside, hempty⟩, rfl, rfl⟩

/-- In a framed message the three reads in front of the verification return. -/
theorem Framed.reads (hk : pf.hkCursor.Lawful) (h : Framed pf pnauBytes) :
    ∃ header size vaaRead, parsePnauHeader pf pnauBytes = .ok header ∧
      pf.hkCursor.readUint16 header.next = .ok size ∧
      pf.hkCursor.readBuff8192Max size.next (some size.value) = .ok vaaRead := by
  obtain ⟨header, hheader⟩ := (parsePnauHeader_returns_iff hk _).mpr h.header
  have hvaa : 7 + headerTrailingSize pnauBytes + 3 + vaaSize pnauBytes ≤ pnauBytes.length := h.vaa
  have hsize : (⟨pnauBytes, 7 + headerTrailingSize pnauBytes + 1⟩ : Cursor).Holds 2 := by
    show 7 + headerTrailingSize pnauBytes + 1 + 2 ≤ pnauBytes.length
    omega
  refine ⟨header, ⟨vaaSize pnauBytes, vaaCursor pnauBytes⟩, _, hheader, ?_,
    hk.readSome_iff.mpr ⟨⟨h.vaa, h.empty⟩, rfl⟩⟩
  rw [parsePnauHeader_next hk hheader]
  exact (hk.readUint16 _ _).mpr ⟨hsize, rfl⟩

/-- Around the update section every failure has an error of its own. -/
theorem decodePnauPriceUpdate_reports_iff_section (hk : pf.hkCursor.Lawful)
    (hverified : vm.parseAndVerifyVaa pf.pythPnauDecoderV1 wormholeCoreAddress
      (embeddedVaa pnauBytes) w = (.ok vaa, w₁)) :
    Reports (fun _ => True) (decodePnauPriceUpdate pf vm pnauBytes wormholeCoreAddress w).1 ↔
      (Framed pf pnauBytes → ∀ data, parseMerkleRootDataFromVaaPayload pf vaa.payload = .ok data →
        Reports (fun _ => True) (parseAndVerifyPricesUpdates pf (updateSection pnauBytes)
          data.value.merkleRootHash)) := by
  simp only [decodePnauPriceUpdate, Contract.reports_bind, Contract.lift_apply,
    Contract.gets_apply, Contract.pure_apply, Prod.mk.injEq, and_imp, forall_apply_eq_imp_iff,
    tryResponse_eq_ok, reports_ok, true_and, hk.slice_none]
  constructor
  · -- the reads in front of the section return, so the body reports only if the section does
    intro h hframed data hdata
    obtain ⟨header, size, vaaRead, hheader, hsize, hvaaRead⟩ := hframed.reads hk
    obtain ⟨-, hvalue, hnext⟩ := framed_of_reads hk hheader hsize hvaaRead
    have hrest := (((h.2 header hheader).2 size hsize).2 vaaRead hvaaRead).2 vaa w₁
      (hvalue ▸ hverified)
    exact hnext ▸ (hrest.2 data hdata).1
  · intro h
    refine ⟨parsePnauHeader_reports _, fun header hheader => ⟨reports_tryResponse fun _ _ =>
      trivial, fun size hsize => ⟨reports_tryResponse fun _ _ => trivial,
        fun vaaRead hvaaRead => ?_⟩⟩⟩
    obtain ⟨hframed, hvalue, hnext⟩ := framed_of_reads hk hheader hsize hvaaRead
    rw [hvalue, hnext, hverified]
    refine ⟨.ok vaa, fun vaa' _ hvaa' => ?_⟩
    -- both decodings verify the same VAA
    cases hvaa'
    exact ⟨parseMerkleRootDataFromVaaPayload_reports _, fun data hdata =>
      ⟨h hframed data hdata, fun _ _ _ _ => ⟨reports_unwrapOpt trivial, fun _ _ => trivial⟩⟩⟩

/-- **When a price update is reported.** In any state whose plan lets the caller through, for
every message whose embedded VAA the wormhole contract accepts: the decoder returns ok or an
error exactly when, for a message that is framed, a payload with a Merkle root and an update
section that is not empty, the records that start inside the section, up to the count, can be
read and are at most 64. A message whose VAA has size zero is framed where the cursor reads it;
where it does not, the failed read has an error of its own. -/
theorem decodeAndVerifyPriceFeeds_reports_iff (hk : pf.hkCursor.Lawful) {caller : Principal}
    (hflow : w.governance.currentExecutionPlan.Allows pf.pythPnauDecoderV1 caller none)
    (hverified : vm.parseAndVerifyVaa pf.pythPnauDecoderV1 wormholeCoreAddress
      (embeddedVaa pnauBytes) w = (.ok vaa, w₁)) :
    Reports (fun _ => True)
        (decodeAndVerifyPriceFeeds pf vm caller pnauBytes wormholeCoreAddress w).1 ↔
      (Framed pf pnauBytes → CarriesRoot vaa.payload → updateSection pnauBytes ≠ [] →
        UpdatesReadable (updateSection pnauBytes)) := by
  have hchecked := Governance.checkExecutionFlow_of_allows hflow
  have hbody : Reports (fun _ => True)
      (decodeAndVerifyPriceFeeds pf vm caller pnauBytes wormholeCoreAddress w).1 ↔
        Reports (fun _ => True)
          (decodePnauPriceUpdate pf vm pnauBytes wormholeCoreAddress w).1 := by
    simp only [decodeAndVerifyPriceFeeds, Contract.reports_bind, Contract.readOnly_apply,
      hchecked, Prod.mk.injEq, and_imp, reports_ok, true_and]
    exact ⟨fun h => h true w rfl rfl, fun h _ _ _ hw => hw ▸ h⟩
  rw [hbody, decodePnauPriceUpdate_reports_iff_section hk hverified]
  simp only [parseAndVerifyPricesUpdates_reports_iff hk]
  refine imp_congr_right fun _ => ⟨fun h hroot => ?_, fun h data hdata => ?_⟩
  · obtain ⟨data, hdata⟩ := (parseMerkleRootDataFromVaaPayload_returns_iff hk _).mpr hroot
    exact h data hdata
  · exact h ((parseMerkleRootDataFromVaaPayload_returns_iff hk _).mp ⟨data, hdata⟩)

end Message

/-! ### Closed messages -/

section ClosedMessage

/-- The update section of one record with the given message size and type, and `tail` behind
the fields. -/
def oneUpdate (size : Nat) (messageType : UInt8) (tail : Buff) : Buff :=
  [1] ++ uintToBuffBe 2 size ++ [messageType] ++ List.replicate 84 0 ++ tail

def twoRecords : Buff :=
  pnauMessage [9, 9] (WormholeCore.serialize submittedVaa)
    (updatesBytes [submittedUpdate 3, submittedUpdate 0] [1])

theorem decodeAndVerifyPriceFeeds_reports_iff_twoRecords :
    Reports (fun _ => True) (decodeAndVerifyPriceFeeds .reference coreOnly
      Platform.reference.pythOracleV2 twoRecords Platform.reference.wormholeCoreV2 guarded).1 := by
  have hembedded : embeddedVaa twoRecords = WormholeCore.serialize submittedVaa ∧
      UpdatesReadable (updateSection twoRecords) := by
    decide +kernel
  have haccepted : WormholeCore.parseAndVerifyVaa .reference guarded.wormhole
      (embeddedVaa twoRecords) = .ok submittedVaa := by
    rw [hembedded.1]
    decide +kernel
  have hverified : coreOnly.parseAndVerifyVaa Platform.reference.pythPnauDecoderV1
      Platform.reference.wormholeCoreV2 (embeddedVaa twoRecords) guarded =
        (.ok submittedVaa, guarded) := Prod.ext haccepted rfl
  exact (decodeAndVerifyPriceFeeds_reports_iff Platform.reference_lawful (.inl ⟨.inr rfl, rfl⟩)
    hverified).mpr fun _ _ _ => hembedded.2

/-- Behind an accepted VAA, a record that ends in front of its proof size, one of type 1 and
one with a message of 256 bytes abort the decoder. -/
theorem decoder_aborts :
    let decode := fun updates => (decodeAndVerifyPriceFeeds .reference coreOnly
      Platform.reference.pythOracleV2 (pnauMessage [] (WormholeCore.serialize submittedVaa) updates)
      Platform.reference.wormholeCoreV2 guarded).1
    (coreOnly.parseAndVerifyVaa Platform.reference.pythPnauDecoderV1
        Platform.reference.wormholeCoreV2 (WormholeCore.serialize submittedVaa) guarded).1 =
      .ok submittedVaa ∧
    decode (oneUpdate 85 0 []) = .error .abort ∧
      decode (oneUpdate 85 1 [0]) = .error .abort ∧
      decode (oneUpdate 256 0 (List.replicate 172 0)) = .error .abort ∧
      ¬ ∀ updates, Reports (fun _ => True) (decode updates) := by
  intro decode
  have hrun : (coreOnly.parseAndVerifyVaa Platform.reference.pythPnauDecoderV1
        Platform.reference.wormholeCoreV2 (WormholeCore.serialize submittedVaa) guarded).1 =
      .ok submittedVaa ∧
    decode (oneUpdate 85 0 []) = .error .abort ∧
      decode (oneUpdate 85 1 [0]) = .error .abort ∧
      decode (oneUpdate 256 0 (List.replicate 172 0)) = .error .abort := by
    decide +kernel
  obtain ⟨haccepted, hcut, htype, hlong⟩ := hrun
  refine ⟨haccepted, hcut, htype, hlong, fun hclaim => ?_⟩
  have hreports := hclaim (oneUpdate 85 0 [])
  rw [hcut] at hreports
  exact not_reports_abort hreports

end ClosedMessage

end PythBridge.PnauDecoder
