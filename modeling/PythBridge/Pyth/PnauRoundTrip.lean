import Mathlib.Algebra.Group.Int.Defs
import PythBridge.Pyth.Complete
import PythBridge.Pyth.Pnau
import PythBridge.Pyth.Store
import PythBridge.Wormhole.GuardianSets

/-!
# Writing and decoding a PNAU message

`decode-pnau-price-update` undoes the serialization of a message: the header with its trailing
bytes, the VAA, and update records of any length one after another
(`decodePnauPriceUpdate_pnauMessage`). The records are found where they were written because a
written record is as long as the stride its decoder returns (`decodeRecord_recordBytes`).

A publisher writes the fields of a price in 85 bytes, and may append more (`extra`): later formats
do, and the decoder has to skip what it does not know. The round trip therefore has four places for
bytes that are ignored: behind the header, behind the fields of a message, behind the records, and
behind the root in the payload of the VAA.

* **`decodeRecord_recordBytes`** — one record.
* **`parseAndVerifyPricesUpdates_updatesBytes`** — the update section.
* **`decodePnauPriceUpdate_pnauMessage`** — the whole message, in any world in which the VAA is
  accepted and comes from an authorized source.
-/

namespace PythBridge.PnauDecoder

open Clarity

variable {pf : Platform}

/-! ## Writing -/

/-- A price update as it is submitted: the fields, what follows them in the message, and the
proof of the message. -/
structure SubmittedUpdate where
  update : PriceUpdate
  extra : Buff
  proof : List Buff

/-- The fields fit their places, the message a leaf, and the proof its list. -/
structure SubmittedUpdate.Fits (s : SubmittedUpdate) : Prop where
  priceIdentifier : s.update.priceIdentifier.length = 32
  price : -2 ^ 63 ≤ s.update.price ∧ s.update.price < 2 ^ 63
  conf : s.update.conf < 2 ^ 64
  expo : -2 ^ 31 ≤ s.update.expo ∧ s.update.expo < 2 ^ 31
  publishTime : s.update.publishTime < 2 ^ 64
  prevPublishTime : s.update.prevPublishTime < 2 ^ 64
  emaPrice : -2 ^ 63 ≤ s.update.emaPrice ∧ s.update.emaPrice < 2 ^ 63
  emaConf : s.update.emaConf < 2 ^ 64
  extra : 85 + s.extra.length ≤ 255
  proof : s.proof.length ≤ 128
  hashes : ∀ hash ∈ s.proof, hash.length = 20

/-- The message of an update, of type `0`. -/
def messageBytes (s : SubmittedUpdate) : Buff :=
  uintToBuffBe 1 0 ++ s.update.priceIdentifier ++ intToBuffBe 8 s.update.price ++
    uintToBuffBe 8 s.update.conf ++ intToBuffBe 4 s.update.expo ++
    uintToBuffBe 8 s.update.publishTime ++ uintToBuffBe 8 s.update.prevPublishTime ++
    intToBuffBe 8 s.update.emaPrice ++ uintToBuffBe 8 s.update.emaConf ++ s.extra

/-- A record: the message behind its size, and the proof behind its size. -/
def recordBytes (s : SubmittedUpdate) : Buff :=
  uintToBuffBe 2 (messageBytes s).length ++ messageBytes s ++ uintToBuffBe 1 s.proof.length ++
    s.proof.flatten

/-- The update section: the count, the records, and whatever follows. -/
def updatesBytes (submitted : List SubmittedUpdate) (trailing : Buff) : Buff :=
  uintToBuffBe 1 submitted.length ++ submitted.flatMap recordBytes ++ trailing

/-- What a submitted update is decoded to. -/
def decodedUpdate (s : SubmittedUpdate) : DecodedPriceUpdate where
  priceIdentifier := s.update.priceIdentifier
  price := s.update.price
  conf := s.update.conf
  expo := s.update.expo
  publishTime := s.update.publishTime
  prevPublishTime := s.update.prevPublishTime
  emaPrice := s.update.emaPrice
  emaConf := s.update.emaConf
  proof := s.proof
  leafBytes := messageBytes s

theorem castDecodedPrice_decodedUpdate (s : SubmittedUpdate) :
    castDecodedPrice (decodedUpdate s) = s.update := rfl

/-- The fields of a message take 85 bytes. -/
theorem SubmittedUpdate.Fits.messageBytes_length {s : SubmittedUpdate} (h : s.Fits) :
    (messageBytes s).length = 85 + s.extra.length := by
  simp only [messageBytes, List.length_append, uintToBuffBe_length, intToBuffBe_length,
    h.priceIdentifier]

/-! ## Records

A record is read twice, for its fields and for its leaf, and both readings start at the message. -/

/-- A written proof is read back. -/
theorem foldlM_parseProof_flatten (hk : pf.hkCursor.Lawful) {hashes : List Buff}
    (hhashes : ∀ hash ∈ hashes, hash.length = 20) (hcount : hashes.length ≤ 128) :
    ∃ acc, hashes.flatten.foldlM (parseProof pf hashes.flatten hashes.length) .start = .ok acc ∧
      acc.result = hashes := by
  have hread : ∀ hash ∈ hashes, ∀ pos rest, hashes.flatten.drop pos = id hash ++ rest →
      decodeHash pf hashes.flatten pos = .ok (id hash, (id hash).length) := by
    intro hash hhash pos rest hbytes
    have hlength := hhashes hash hhash
    obtain ⟨h, -⟩ := hk.readBuff20.of_rest (c := ⟨hashes.flatten, pos⟩) hbytes hlength (by decide)
    simp only [decodeHash, hk.new, Option.getD_some, exec_bind_eq_ok, unwrapPanic_eq_ok,
      exec_pure_eq_ok]
    refine ⟨_, h, ?_⟩
    show (hash, 20) = (hash, hash.length)
    rw [hlength]
  have hall : hashes.flatten.drop 0 = hashes.flatMap id ++ [] := by
    rw [List.flatMap_id, List.append_nil, List.drop_zero]
  have hrecords := RecordsFrom.of_written hread 0 [] hall
  rw [List.map_id, List.flatMap_id, Nat.zero_add] at hrecords
  rw [parseProof_eq_walkStep]
  exact foldlM_walkStep_of_records (decodeHash_stride_pos hk) hrecords (Nat.le_refl _) hcount

/-- A written record decodes to its update, and the stride is its length. -/
theorem decodeRecord_recordBytes (hk : pf.hkCursor.Lawful) {s : SubmittedUpdate} (hs : s.Fits)
    {bytes rest : Buff} {pos : Nat} (hbytes : bytes.drop pos = recordBytes s ++ rest) :
    decodeRecord pf bytes pos = .ok (decodedUpdate s, (recordBytes s).length) := by
  have hsize := hs.messageBytes_length
  have hextra := hs.extra
  have hproof := hs.proof
  -- the record as a whole
  have r₀ : (⟨bytes, pos⟩ : Cursor).rest = uintToBuffBe 2 (messageBytes s).length ++
      (messageBytes s ++ (uintToBuffBe 1 s.proof.length ++ (s.proof.flatten ++ rest))) := by
    show bytes.drop pos = _
    rw [hbytes, recordBytes]
    simp only [List.append_assoc]
  obtain ⟨h₁, r₁⟩ := hk.readUint16.uint_of_rest r₀ (by omega) (by decide)
  have hleaf := hk.slice_of_rest r₁
  have rProof := Cursor.skip_of_rest r₁
  obtain ⟨hsizeRead, rHashes⟩ := hk.readUint8.uint_of_rest rProof (by omega) (by decide)
  have hslice := hk.slice_of_rest rHashes
  rw [flatten_length_of_width hs.hashes, Nat.mul_comm] at hslice
  obtain ⟨proof, hfold, hproofResult⟩ := foldlM_parseProof_flatten hk hs.hashes hs.proof
  -- the fields of the message one after another
  simp only [messageBytes, List.append_assoc] at r₁
  obtain ⟨h₂, r₂⟩ := hk.readUint8.uint_of_rest r₁ (by decide) (by decide)
  obtain ⟨h₃, r₃⟩ := hk.readBuff32.of_rest r₂ hs.priceIdentifier (by decide)
  obtain ⟨h₄, r₄⟩ := hk.readInt64.int_of_rest r₃ (by simpa using hs.price.1)
    (by simpa using hs.price.2) (by decide)
  obtain ⟨h₅, r₅⟩ := hk.readUint64.uint_of_rest r₄ (by simpa using hs.conf) (by decide)
  obtain ⟨h₆, r₆⟩ := hk.readInt32.int_of_rest r₅ (by simpa using hs.expo.1)
    (by simpa using hs.expo.2) (by decide)
  obtain ⟨h₇, r₇⟩ := hk.readUint64.uint_of_rest r₆ (by simpa using hs.publishTime) (by decide)
  obtain ⟨h₈, r₈⟩ := hk.readUint64.uint_of_rest r₇ (by simpa using hs.prevPublishTime) (by decide)
  obtain ⟨h₉, r₉⟩ := hk.readInt64.int_of_rest r₈ (by simpa using hs.emaPrice.1)
    (by simpa using hs.emaPrice.2) (by decide)
  obtain ⟨h₁₀, -⟩ := hk.readUint64.uint_of_rest r₉ (by simpa using hs.emaConf) (by decide)
  have hleafBound : (messageBytes s).length ≤ 255 := by omega
  have hstride : 2 + (messageBytes s).length + 1 + s.proof.length * 20 =
      (recordBytes s).length := by
    rw [recordBytes]
    simp only [List.length_append, uintToBuffBe_length, flatten_length_of_width hs.hashes]
  simp only [decodeRecord, exec_bind_eq_ok, unwrapPanic_eq_ok, unwrapPanicOpt_eq_ok,
    asMaxLen?_eq_some, exec_pure_eq_ok, hk.new, hk.advance, Option.getD_some]
  refine ⟨_, h₁, _, h₂, _, h₃, _, h₄, _, h₅, _, h₆, _, h₇, _, h₈, _, h₉, _, h₁₀, _, hsizeRead,
    proof, ?_, true, rfl, messageBytes s, ⟨?_, hleaf⟩, ?_⟩
  · simp only [hslice]
    exact hfold
  · rw [hleaf]
    exact hleafBound
  · simp only [hstride, hproofResult]
    rfl

/-! ## The update section

Records of different lengths one after another. -/

/-- Good proofs are all accepted. -/
theorem foldl_checkMerkleProof_of_all {root : Buff} {updates : List DecodedPriceUpdate}
    (h : ∀ update ∈ updates, pf.checkProof root update.leafBytes update.proof = true) :
    updates.foldl (checkMerkleProof pf root) true = true := by
  -- all proofs hold, so the result is what it was at the start
  induction updates with
  | nil => rfl
  | cons update updates ih =>
    have hstep : checkMerkleProof pf root true update = true := by
      rw [checkMerkleProof, h update (.head _)]
      rfl
    rw [List.foldl_cons, hstep]
    exact ih fun other hother => h other (.tail _ hother)

/-- Records are not empty. -/
theorem decodeRecord_stride_pos (hk : pf.hkCursor.Lawful) {bytes : Buff} :
    ∀ pos update stride, decodeRecord pf bytes pos = .ok (update, stride) → 0 < stride := by
  intro pos update stride h
  rw [(decodeRecord_eq_ok hk h).2, recordLength]
  omega

/-- A written section is read back, whatever follows it. -/
theorem parseAndVerifyPricesUpdates_updatesBytes (hk : pf.hkCursor.Lawful)
    {submitted : List SubmittedUpdate} {root : Buff} (trailing : Buff)
    (hcount : submitted.length ≤ 64) (hfits : ∀ s ∈ submitted, s.Fits)
    (hproofs : ∀ s ∈ submitted, pf.checkProof root (messageBytes s) s.proof = true) :
    parseAndVerifyPricesUpdates pf (updatesBytes submitted trailing) root =
      .ok (submitted.map decodedUpdate) := by
  have r₀ : (⟨updatesBytes submitted trailing, 0⟩ : Cursor).rest =
      uintToBuffBe 1 submitted.length ++ (submitted.flatMap recordBytes ++ trailing) := by
    show updatesBytes submitted trailing = _
    rw [updatesBytes, List.append_assoc]
  obtain ⟨hread, hsection⟩ := hk.readUint8.uint_of_rest r₀ (by omega) (by decide)
  have hrecord : ∀ s ∈ submitted, ∀ pos rest,
      (submitted.flatMap recordBytes ++ trailing).drop pos = recordBytes s ++ rest →
        decodeRecord pf (submitted.flatMap recordBytes ++ trailing) pos =
          .ok (decodedUpdate s, (recordBytes s).length) :=
    fun s hs pos rest hbytes => decodeRecord_recordBytes hk (hfits s hs) hbytes
  have hrecords := RecordsFrom.of_written hrecord 0 trailing rfl
  have hinside : 0 + (submitted.flatMap recordBytes).length ≤
      (submitted.flatMap recordBytes ++ trailing).length := by
    rw [List.length_append]
    omega
  have hlength : (submitted.map decodedUpdate).length = submitted.length := List.length_map _
  have hcapacity : (submitted.map decodedUpdate).length ≤ 64 := hlength ▸ hcount
  obtain ⟨acc, hfold, hresult⟩ :=
    foldlM_walkStep_of_records (decodeRecord_stride_pos hk) hrecords hinside hcapacity
  -- the leaf of a decoded update is the message that was written, for which the proof is given
  have hchecked : acc.result.foldl (checkMerkleProof pf root) true = true := by
    rw [hresult]
    refine foldl_checkMerkleProof_of_all fun update hupdate => ?_
    obtain ⟨s, hs, rfl⟩ := List.mem_map.mp hupdate
    exact hproofs s hs
  simp only [parseAndVerifyPricesUpdates, exec_bind_eq_ok, tryResponse_eq_ok, asserts_eq_ok,
    exec_pure_eq_ok, hk.slice_none, parsePriceInfoAndProof_eq_walkStep]
  refine ⟨_, hread, acc, ?_, (), hchecked, hresult⟩
  simp only [hsection]
  rw [← hlength]
  exact hfold

/-! ## The header and the payload

Both have fixed fields, and the header skips its trailing bytes. -/

/-- A written header is read up to the size of the VAA. -/
theorem parsePnauHeader_pnauMessage (hk : pf.hkCursor.Lawful) {trailing : Buff}
    (vaaBytes updates : Buff) (htrailing : trailing.length < 2 ^ 8) :
    ∃ header, parsePnauHeader pf (pnauMessage trailing vaaBytes updates) = .ok header ∧
      header.next = ⟨pnauMessage trailing vaaBytes updates, 8 + trailing.length⟩ ∧
      header.next.rest = uintToBuffBe 2 vaaBytes.length ++ (vaaBytes ++ updates) := by
  have r₀ : (⟨pnauMessage trailing vaaBytes updates, 0⟩ : Cursor).rest =
      pnauMagic ++ (uintToBuffBe 1 1 ++ (uintToBuffBe 1 0 ++ (uintToBuffBe 1 trailing.length ++
        (trailing ++ (uintToBuffBe 1 0 ++
          (uintToBuffBe 2 vaaBytes.length ++ (vaaBytes ++ updates))))))) := by
    show pnauMessage trailing vaaBytes updates = _
    simp only [pnauMessage, List.append_assoc]
    rfl
  obtain ⟨h₁, r₁⟩ := hk.readBuff4.of_rest r₀ rfl (by decide)
  obtain ⟨h₂, r₂⟩ := hk.readUint8.uint_of_rest r₁ (by decide) (by decide)
  obtain ⟨h₃, r₃⟩ := hk.readUint8.uint_of_rest r₂ (by decide) (by decide)
  obtain ⟨h₄, r₄⟩ := hk.readUint8.uint_of_rest r₃ (by simpa using htrailing) (by decide)
  obtain ⟨h₅, r₅⟩ := hk.readUint8.uint_of_rest (Cursor.skip_of_rest r₄) (by decide) (by decide)
  simp only [parsePnauHeader, exec_bind_eq_ok, unwrap_eq_ok, asserts_eq_ok, exec_pure_eq_ok]
  refine ⟨_, ⟨_, h₁, _, h₂, _, h₃, _, h₄, _, h₅, (), rfl, (), rfl, (), rfl, (), rfl, rfl⟩, ?_, r₅⟩
  refine congrArg (Cursor.mk _) ?_
  show 0 + 4 + 1 + 1 + 1 + trailing.length + 1 = 8 + trailing.length
  omega

/-- A written payload gives its root. -/
theorem parseMerkleRootDataFromVaaPayload_auwvPayload (hk : pf.hkCursor.Lawful)
    {slot ringSize : Nat} {root : Buff} (trailing : Buff) (hslot : slot < 2 ^ 64)
    (hringSize : ringSize < 2 ^ 32) (hroot : root.length = 20) :
    ∃ data, parseMerkleRootDataFromVaaPayload pf (auwvPayload slot ringSize root trailing) =
      .ok data ∧ data.value.merkleRootHash = root := by
  have r₀ : (⟨auwvPayload slot ringSize root trailing, 0⟩ : Cursor).rest =
      auwvMagic ++ (uintToBuffBe 1 0 ++ (uintToBuffBe 8 slot ++ (uintToBuffBe 4 ringSize ++
        (root ++ trailing)))) := by
    show auwvPayload slot ringSize root trailing = _
    simp only [auwvPayload, List.append_assoc]
    rfl
  obtain ⟨h₁, r₁⟩ := hk.readBuff4.of_rest r₀ rfl (by decide)
  obtain ⟨h₂, r₂⟩ := hk.readUint8.uint_of_rest r₁ (by decide) (by decide)
  obtain ⟨h₃, r₃⟩ := hk.readUint64.uint_of_rest r₂ (by simpa using hslot) (by decide)
  obtain ⟨h₄, r₄⟩ := hk.readUint32.uint_of_rest r₃ (by simpa using hringSize) (by decide)
  obtain ⟨h₅, -⟩ := hk.readBuff20.of_rest r₄ hroot (by decide)
  simp only [parseMerkleRootDataFromVaaPayload, exec_bind_eq_ok, unwrap_eq_ok, asserts_eq_ok,
    exec_pure_eq_ok]
  exact ⟨_, ⟨_, h₁, _, h₂, _, h₃, _, h₄, _, h₅, (), rfl, (), rfl, rfl⟩, rfl⟩

/-! ## The message

Header, VAA and updates one after another. The VAA is looked up in the world, so it may change it.
-/

section Message

variable {φ : Type} {vm : Dispatch (World φ)}

/-- **Decoding undoes writing.** For a header with at most 255 trailing bytes, a VAA that the
wormhole contract accepts, from an authorized data source and with an AUWV payload, and 1 to 64
updates that fit the wire with proofs against the payload's root, in a message of at most 8192
bytes: `decode-pnau-price-update` on the serialization, with whatever follows the last update,
returns exactly the fields of the updates, in order. -/
theorem decodePnauPriceUpdate_pnauMessage (hk : pf.hkCursor.Lawful)
    {headerTrailing vaaBytes updatesTrailing payloadTrailing root : Buff} {slot ringSize : Nat}
    {submitted : List SubmittedUpdate} {wormholeCoreAddress : Principal} {w w₁ : World φ}
    {vaa : Vaa} (htrailing : headerTrailing.length ≤ 255)
    (hverified : vm.parseAndVerifyVaa pf.pythPnauDecoderV1 wormholeCoreAddress vaaBytes w =
      (.ok vaa, w₁))
    (hsource : vaa.emitter ∈ w₁.governance.pricesDataSources)
    (hpayload : vaa.payload = auwvPayload slot ringSize root payloadTrailing)
    (hslot : slot < 2 ^ 64) (hringSize : ringSize < 2 ^ 32) (hroot : root.length = 20)
    (hcount : submitted.length ≤ 64) (hfits : ∀ s ∈ submitted, s.Fits)
    (hproofs : ∀ s ∈ submitted, pf.checkProof root (messageBytes s) s.proof = true)
    (hsize : (pnauMessage headerTrailing vaaBytes
      (updatesBytes submitted updatesTrailing)).length ≤ 8192)
    (hempty : vaaBytes = [] → pf.hkCursor.ReadsMax ⟨pnauMessage headerTrailing vaaBytes
      (updatesBytes submitted updatesTrailing), 10 + headerTrailing.length⟩ (some 0)) :
    decodePnauPriceUpdate pf vm
        (pnauMessage headerTrailing vaaBytes (updatesBytes submitted updatesTrailing))
        wormholeCoreAddress w =
      (.ok (submitted.map SubmittedUpdate.update), w₁) := by
  obtain ⟨header, hheader, hnext, r₁⟩ := parsePnauHeader_pnauMessage hk vaaBytes
    (updatesBytes submitted updatesTrailing) (Nat.lt_succ_of_le htrailing)
  have hvaaLength : vaaBytes.length < 2 ^ 16 := by
    simp only [pnauMessage, List.length_append] at hsize
    omega
  obtain ⟨h₂, r₂⟩ := hk.readUint16.uint_of_rest r₁ (by simpa using hvaaLength) (by decide)
  have hvaaCursor : header.next.skip 2 = ⟨pnauMessage headerTrailing vaaBytes
      (updatesBytes submitted updatesTrailing), 10 + headerTrailing.length⟩ := by
    rw [hnext, Cursor.skip, Nat.add_right_comm]
  obtain ⟨h₃, r₃⟩ := hk.readSome_of_rest r₂ fun hnil => hvaaCursor ▸ hempty hnil
  obtain ⟨data, hdata, hmerkleRoot⟩ := parseMerkleRootDataFromVaaPayload_auwvPayload hk
    payloadTrailing hslot hringSize hroot
  have hupdates := parseAndVerifyPricesUpdates_updatesBytes hk updatesTrailing hcount hfits hproofs
  have hauthorized : ∃ i, w₁.governance.pricesDataSources.idxOf?
      ⟨vaa.emitterChain, vaa.emitterAddress⟩ = some i := by
    -- an authorized source has an index in the list
    cases hindex : w₁.governance.pricesDataSources.idxOf?
        ⟨vaa.emitterChain, vaa.emitterAddress⟩ with
    | some i => exact ⟨i, rfl⟩
    | none => exact absurd hsource (List.idxOf?_eq_none_iff.mp hindex)
  obtain ⟨i, hauthorized⟩ := hauthorized
  simp only [decodePnauPriceUpdate, Contract.bind_eq_ok, Contract.lift_apply,
    Contract.gets_apply, Contract.pure_apply, Prod.mk.injEq, tryResponse_eq_ok,
    unwrapOpt_eq_ok]
  refine ⟨header, w, ⟨hheader, rfl⟩, _, w, ⟨h₂, rfl⟩, _, w, ⟨h₃, rfl⟩, vaa, w₁, hverified, data,
    w₁, ⟨?_, rfl⟩, submitted.map decodedUpdate, w₁, ⟨?_, rfl⟩, _, w₁, ⟨rfl, rfl⟩, i, w₁,
    ⟨hauthorized, rfl⟩, ?_, rfl⟩
  · rw [hpayload]
    exact hdata
  · rw [hk.slice_none, hmerkleRoot, r₃]
    exact hupdates
  · rw [List.map_map]
    exact congrArg Except.ok (List.map_congr_left fun s _ => castDecodedPrice_decodedUpdate s)

end Message

/-! ### A closed message -/

section ClosedMessage

open WormholeCore

/-- A submitted update of one feed with a negative price, with as many extra bytes as given. -/
def submittedUpdate (extra : Nat) : SubmittedUpdate where
  update := {
    priceIdentifier := List.replicate 32 6, price := -7, conf := 1, expo := -8, emaPrice := -6,
    emaConf := 2, publishTime := 100, prevPublishTime := 99 }
  extra := List.replicate extra 1
  proof := []

/-- A root for which both messages have the empty proof on the reference platform. -/
def submittedRoot : Buff := (messageBytes (submittedUpdate 0)).take 20

def submittedVaa : Vaa :=
  signed (unsigned 1 ⟨1, hex "6bb14509a612f01fbbc4cffeebd4bbfb492a86df717ebe92eb6df432a3f00a25"⟩ 1
    (auwvPayload 5 10 submittedRoot [3]))

/-- A world in which the first guardian set is stored. -/
def guarded : World Unit where
  wormhole := Clarity.afterRun (Storage.after .reference) .deployed [firstSet]
  governance := .deployed .reference
  store := .deployed
  balances := fun _ => 0
  foreign := ()

/-- Trait calls that reach `wormhole-core-v2` only. -/
def coreOnly : Dispatch (World Unit) where
  parseAndVerifyVaa _ _ vaaBytes :=
    .readOnly fun w => parseAndVerifyVaa .reference w.wormhole vaaBytes
  decodeAndVerifyPriceFeeds _ _ _ _ := .lift (.error .abort)
  read _ _ _ := .lift (.error .abort)
  write _ _ _ := .lift (.error .abort)

theorem decodePnauPriceUpdate_pnauMessage_twoRecords :
    decodePnauPriceUpdate .reference coreOnly
        (pnauMessage [9, 9] (serialize submittedVaa)
          (updatesBytes [submittedUpdate 3, submittedUpdate 0] [1]))
        Platform.reference.wormholeCoreV2 guarded =
      (.ok [(submittedUpdate 3).update, (submittedUpdate 0).update], guarded) := by
  have haccepted : parseAndVerifyVaa .reference guarded.wormhole (serialize submittedVaa) =
      .ok submittedVaa := by
    decide +kernel
  have hverified : coreOnly.parseAndVerifyVaa Platform.reference.pythPnauDecoderV1
      Platform.reference.wormholeCoreV2 (serialize submittedVaa) guarded =
        (.ok submittedVaa, guarded) := Prod.ext haccepted rfl
  refine decodePnauPriceUpdate_pnauMessage Platform.reference_lawful (by decide) hverified
    (by decide +kernel) rfl (by decide) (by decide) (by decide +kernel) (by decide) ?_
    (by decide +kernel) (by decide +kernel) (fun hnil => absurd hnil (by decide +kernel))
  rw [List.forall_mem_cons, List.forall_mem_singleton]
  constructor <;> constructor <;> decide

end ClosedMessage

end PythBridge.PnauDecoder
