import PythBridge.Clarity.Walk
import PythBridge.Pyth.Decoder

/-!
# Update records

`parse-price-info-and-proof` is a walk over records (`parsePriceInfoAndProof_eq_walkStep`).
Its record decoder reads the price fields and slices the leaf from the same start, but the
declared message size only bounds the leaf. `RecordAt` says what a record holds; the fields
are those of the leaf exactly when the size covers them (`FieldsOf.take_iff`).

An accepted buffer is therefore two things at once: records one after another, with the fields at
fixed offsets from the start of each, and leaves whose proofs were checked. The two meet in the
message, of which the leaf is the first `messageSize` bytes; the fields take 85.

* **`parseAndVerifyPricesUpdates_eq_ok`** — what was accepted: the records, and their proofs.
* **`messageSizes_eq`** — the declared sizes, read off the bytes, are the lengths of the leaves.
* **`fields_covered_iff`** — the fields are authenticated exactly when every declared size is at
  least 85, and then one leaf determines one price.
* **`oneRecord_not_covered`** — one leaf under two prices.
-/

namespace PythBridge.PnauDecoder

open Clarity

variable {pf : Platform}

/-! ## The record decoder -/

/-- The record at a position, with its length: the part of the fold that does the reading. -/
def decodeRecord (pf : Platform) (bytes : Buff) (pos : Nat) :
    Exec (DecodedPriceUpdate × Nat) := do
  let cursorUpdate := pf.hkCursor.new bytes (some pos)
  let cursorMessageSize ← unwrapPanic (pf.hkCursor.readUint16 cursorUpdate.next)
  let cursorMessageType ← unwrapPanic (pf.hkCursor.readUint8 cursorMessageSize.next)
  let cursorPriceIdentifier ← unwrapPanic (pf.hkCursor.readBuff32 cursorMessageType.next)
  let cursorPrice ← unwrapPanic (pf.hkCursor.readInt64 cursorPriceIdentifier.next)
  let cursorConf ← unwrapPanic (pf.hkCursor.readUint64 cursorPrice.next)
  let cursorExpo ← unwrapPanic (pf.hkCursor.readInt32 cursorConf.next)
  let cursorPublishTime ← unwrapPanic (pf.hkCursor.readUint64 cursorExpo.next)
  let cursorPrevPublishTime ← unwrapPanic (pf.hkCursor.readUint64 cursorPublishTime.next)
  let cursorEmaPrice ← unwrapPanic (pf.hkCursor.readInt64 cursorPrevPublishTime.next)
  let cursorEmaConf ← unwrapPanic (pf.hkCursor.readUint64 cursorEmaPrice.next)
  let cursorProof := pf.hkCursor.advance cursorMessageSize.next cursorMessageSize.value
  let cursorProofSize ← unwrapPanic (pf.hkCursor.readUint8 cursorProof)
  let proofBytes := pf.hkCursor.slice cursorProofSize.next (some (20 * cursorProofSize.value))
  let leafBytes := pf.hkCursor.slice cursorMessageSize.next (some cursorMessageSize.value)
  let proof ← proofBytes.foldlM (parseProof pf proofBytes cursorProofSize.value) .start
  let _ ← unwrapPanic
    (if cursorMessageType.value = 0 then .ok true else .error errUpdateType)
  let leafBytes ← unwrapPanicOpt (asMaxLen? leafBytes 255)
  pure ({
    priceIdentifier := cursorPriceIdentifier.value
    price := cursorPrice.value
    conf := cursorConf.value
    expo := cursorExpo.value
    publishTime := cursorPublishTime.value
    prevPublishTime := cursorPrevPublishTime.value
    emaPrice := cursorEmaPrice.value
    emaConf := cursorEmaConf.value
    proof := proof.result
    leafBytes }, 2 + cursorMessageSize.value + 1 + cursorProofSize.value * 20)

/-- The fold over the updates is a walk. -/
theorem parsePriceInfoAndProof_eq_walkStep (bytes : Buff) (limit : Nat) :
    parsePriceInfoAndProof pf bytes limit = walkStep (decodeRecord pf bytes) 64 limit := by
  funext acc entry
  unfold parsePriceInfoAndProof walkStep
  split
  · rfl
  split
  · simp only [decodeRecord, bind_assoc, pure_bind, Nat.add_assoc]
  · rfl

/-! ## Fields of a message

A message of type `0` is one price: 85 bytes, and whatever a later format appends. -/

/-- `n` bytes at an offset. -/
def field (message : Buff) (offset n : Nat) : Buff := (message.drop offset).take n

/-- The price fields of `update` are the decoding of `message`: the message type `0`, then the
fields one after another, all inside the message. -/
structure FieldsOf (message : Buff) (update : DecodedPriceUpdate) : Prop where
  length : 85 ≤ message.length
  messageType : field message 0 1 = [0]
  priceIdentifier : update.priceIdentifier = field message 1 32
  price : update.price = buffToSignedBe (field message 33 8)
  conf : update.conf = buffToUintBe (field message 41 8)
  expo : update.expo = buffToSignedBe (field message 49 4)
  publishTime : update.publishTime = buffToUintBe (field message 53 8)
  prevPublishTime : update.prevPublishTime = buffToUintBe (field message 61 8)
  emaPrice : update.emaPrice = buffToSignedBe (field message 69 8)
  emaConf : update.emaConf = buffToUintBe (field message 77 8)

/-- Cutting a message behind a field keeps the field. -/
theorem field_take {message : Buff} {size offset n : Nat} (h : offset + n ≤ size) :
    field (message.take size) offset n = field message offset n := by
  unfold field
  rw [List.drop_take, List.take_take]
  congr 1
  omega

/-- Two updates with the fields of one message have the same price data. -/
theorem FieldsOf.castDecodedPrice_eq {message : Buff} {a b : DecodedPriceUpdate}
    (ha : FieldsOf message a) (hb : FieldsOf message b) :
    castDecodedPrice a = castDecodedPrice b := by
  unfold castDecodedPrice
  rw [ha.priceIdentifier, ha.price, ha.conf, ha.expo, ha.publishTime, ha.prevPublishTime,
    ha.emaPrice, ha.emaConf, hb.priceIdentifier, hb.price, hb.conf, hb.expo, hb.publishTime,
    hb.prevPublishTime, hb.emaPrice, hb.emaConf]

/-- The first `size` bytes of a message have its fields exactly when they reach their end. -/
theorem FieldsOf.take_iff {message : Buff} {update : DecodedPriceUpdate} {size : Nat}
    (h : FieldsOf message update) : FieldsOf (message.take size) update ↔ 85 ≤ size := by
  constructor
  · intro htake
    have := htake.length
    rw [List.length_take] at this
    omega
  · -- every field ends at byte 85 or before it
    intro hsize
    have hlength := h.length
    refine ⟨by rw [List.length_take]; omega, ?_, ?_, ?_, ?_, ?_, ?_, ?_, ?_, ?_⟩ <;>
      rw [field_take (by omega)]
    exacts [h.messageType, h.priceIdentifier, h.price, h.conf, h.expo, h.publishTime,
      h.prevPublishTime, h.emaPrice, h.emaConf]

/-! ## What a record holds

Message, proof size and hashes lie one after another, so each position depends on the size in front
of it. -/

/-- The declared size of the message at `pos`. -/
def messageSize (bytes : Buff) (pos : Nat) : Nat := buffToUintBe (field bytes pos 2)

/-- The declared number of hashes behind it. -/
def proofSize (bytes : Buff) (pos : Nat) : Nat :=
  buffToUintBe (field bytes (pos + 2 + messageSize bytes pos) 1)

/-- The length that a record declares, which is how far the walk moves on. -/
def recordLength (bytes : Buff) (pos : Nat) : Nat :=
  2 + messageSize bytes pos + 1 + proofSize bytes pos * 20

/-- The record at `pos`: the fields are read from the start of the message on, and the leaf is
as much of the message as the declared size says. -/
structure RecordAt (bytes : Buff) (pos : Nat) (update : DecodedPriceUpdate) : Prop where
  inside : pos + 2 + messageSize bytes pos < bytes.length
  fields : FieldsOf (bytes.drop (pos + 2)) update
  leafBytes : update.leafBytes = (bytes.drop (pos + 2)).take (messageSize bytes pos)

/-- A leaf has the declared size: it ends inside the buffer, in front of the proof size. -/
theorem RecordAt.leafBytes_length {bytes : Buff} {pos : Nat} {update : DecodedPriceUpdate}
    (h : RecordAt bytes pos update) : update.leafBytes.length = messageSize bytes pos := by
  have := h.inside
  rw [h.leafBytes, List.length_take, List.length_drop]
  omega

/-- What a decoded record holds. All of its reads returned. -/
theorem decodeRecord_eq_ok (hk : pf.hkCursor.Lawful) {bytes : Buff} {pos stride : Nat}
    {update : DecodedPriceUpdate} (h : decodeRecord pf bytes pos = .ok (update, stride)) :
    RecordAt bytes pos update ∧ stride = recordLength bytes pos := by
  simp only [decodeRecord, exec_bind_eq_ok, unwrapPanic_eq_ok, unwrapPanicOpt_eq_ok,
    asMaxLen?_eq_some, exec_pure_eq_ok, Prod.mk.injEq, hk.new, hk.advance, hk.slice_some,
    Option.getD_some] at h
  obtain ⟨size, hsize, type, htype, id, hid, price, hprice, conf, hconf, expo, hexpo, publish,
    hpublish, prev, hprev, emaPrice, hemaPrice, emaConf, hemaConf, proofLen, hproofLen, proof,
    hproof, _, htypeOk, _, ⟨-, rfl⟩, rfl, rfl⟩ := h
  obtain ⟨-, rfl⟩ := (hk.readUint16 _ _).mp hsize
  obtain ⟨-, rfl⟩ := (hk.readUint8 _ _).mp htype
  obtain ⟨-, rfl⟩ := (hk.readBuff32 _ _).mp hid
  obtain ⟨-, rfl⟩ := (hk.readInt64 _ _).mp hprice
  obtain ⟨-, rfl⟩ := (hk.readUint64 _ _).mp hconf
  obtain ⟨-, rfl⟩ := (hk.readInt32 _ _).mp hexpo
  obtain ⟨-, rfl⟩ := (hk.readUint64 _ _).mp hpublish
  obtain ⟨-, rfl⟩ := (hk.readUint64 _ _).mp hprev
  obtain ⟨-, rfl⟩ := (hk.readInt64 _ _).mp hemaPrice
  obtain ⟨hend, rfl⟩ := (hk.readUint64 _ _).mp hemaConf
  obtain ⟨hproofHolds, rfl⟩ := (hk.readUint8 _ _).mp hproofLen
  have hinside : pos + 2 + messageSize bytes pos < bytes.length := hproofHolds
  have hmessage : ∀ offset n,
      field (bytes.drop (pos + 2)) offset n = (bytes.drop (pos + 2 + offset)).take n := by
    intro offset n
    rw [field, List.drop_drop]
  have hlength : 85 ≤ (bytes.drop (pos + 2)).length := by
    simp only [Cursor.Holds, Cursor.skip] at hend
    rw [List.length_drop]
    omega
  -- the type was compared as a number, and one byte of value zero is the byte zero
  have htypeZero : field (bytes.drop (pos + 2)) 0 1 = [0] := by
    have hvalue : buffToUintBe (field (bytes.drop (pos + 2)) 0 1) = 0 := by
      -- any other type is an error, and here the type was read
      split at htypeOk
      · next hzero => exact hzero
      · cases htypeOk
    have hone : (field (bytes.drop (pos + 2)) 0 1).length = 1 := by
      rw [field, List.drop_zero, List.length_take]
      omega
    have := uintToBuffBe_buffToUintBe (field (bytes.drop (pos + 2)) 0 1)
    rw [hvalue, hone] at this
    exact this.symm
  refine ⟨⟨hinside, ⟨hlength, htypeZero, ?_, ?_, ?_, ?_, ?_, ?_, ?_, ?_⟩, ?_⟩, rfl⟩
  case refine_9 =>
    exact if_pos (Nat.le_of_lt hinside)
  all_goals rw [hmessage]; rfl

/-! ## A buffer of records

The walk returns what it has read so far when it has enough or reaches the end of the bytes. -/

/-- When the fold over the proofs ends in `true`, every proof was good. -/
theorem foldl_checkMerkleProof {merkleRootHash : Buff} {updates : List DecodedPriceUpdate}
    {result : Bool} (h : updates.foldl (checkMerkleProof pf merkleRootHash) result = true) :
    result = true ∧ ∀ update ∈ updates,
      pf.checkProof merkleRootHash update.leafBytes update.proof = true := by
  -- the result stays false once a proof has failed
  induction updates generalizing result with
  | nil => exact ⟨h, by simp⟩
  | cons update updates ih =>
    obtain ⟨hstep, hrest⟩ := ih h
    obtain ⟨hresult, hupdate⟩ := Bool.and_eq_true_iff.mp hstep
    exact ⟨hresult, List.forall_mem_cons.mpr ⟨hupdate, hrest⟩⟩

/-- The number of updates that a buffer declares. -/
def numUpdates (bytes : Buff) : Nat := buffToUintBe (bytes.take 1)

/-- **What was accepted.** The updates are records one after another behind the count, as
many as declared unless the buffer ends first, each with a proof against the root. -/
theorem parseAndVerifyPricesUpdates_eq_ok (hk : pf.hkCursor.Lawful) {bytes root : Buff}
    {updates : List DecodedPriceUpdate}
    (h : parseAndVerifyPricesUpdates pf bytes root = .ok updates) :
    (∃ finish, RecordsFrom (decodeRecord pf (bytes.drop 1)) 0 updates finish ∧
      updates.length ≤ numUpdates bytes ∧
      (updates.length = numUpdates bytes ∨ (bytes.drop 1).length ≤ finish)) ∧
    ∀ update ∈ updates, pf.checkProof root update.leafBytes update.proof = true := by
  simp only [parseAndVerifyPricesUpdates, exec_bind_eq_ok, tryResponse_eq_ok, asserts_eq_ok,
    exec_pure_eq_ok, hk.slice_none, parsePriceInfoAndProof_eq_walkStep] at h
  obtain ⟨count, hcount, acc, hacc, _, hproofs, rfl⟩ := h
  obtain ⟨-, rfl⟩ := (hk.readUint8 _ _).mp hcount
  refine ⟨?_, (foldl_checkMerkleProof hproofs).2⟩
  refine foldlM_walkStep_ok (fun pos update stride hdecode => ?_) hacc
  rw [(decodeRecord_eq_ok hk hdecode).2, recordLength]
  omega

/-- The message sizes of at most `count` records from `pos` on, as the buffer declares
them. -/
def messageSizes (bytes : Buff) : (count pos : Nat) → List Nat
  | 0, _ => []
  | count + 1, pos =>
    if bytes.length ≤ pos then []
    else messageSize bytes pos :: messageSizes bytes count (pos + recordLength bytes pos)

/-- The sizes a buffer declares are the lengths of the leaves. Induction on the records. -/
theorem messageSizes_eq (hk : pf.hkCursor.Lawful) {bytes : Buff} {pos finish : Nat}
    {updates : List DecodedPriceUpdate}
    (h : RecordsFrom (decodeRecord pf bytes) pos updates finish) :
    ∀ count, updates.length ≤ count → (updates.length = count ∨ bytes.length ≤ finish) →
      messageSizes bytes count pos = updates.map fun update => update.leafBytes.length := by
  -- record by record, with the size of the message at its start
  induction h with
  | nil pos =>
    intro count _ hstop
    -- the records are at their end: none is left to declare, or the bytes are used up
    cases count with
    | zero => rfl
    | succ count =>
      have hend : bytes.length ≤ pos := hstop.resolve_left (by simp)
      rw [messageSizes, if_pos hend]
      rfl
  | cons hdecode _ ih =>
    intro count hle hstop
    obtain ⟨hrecord, rfl⟩ := decodeRecord_eq_ok hk hdecode
    obtain ⟨count, rfl⟩ : ∃ k, count = k + 1 :=
      ⟨count - 1, by rw [List.length_cons] at hle; omega⟩
    have hinside := hrecord.inside
    rw [messageSizes, if_neg (by omega), List.map_cons, hrecord.leafBytes_length,
      ih count (by rw [List.length_cons] at hle; omega)
        (hstop.imp_left fun h => by rw [List.length_cons] at h; omega)]

/-- Every declared message size reaches the end of the price fields. -/
def SizesCoverFields (bytes : Buff) : Prop :=
  ∀ size ∈ messageSizes (bytes.drop 1) (numUpdates bytes) 0, 85 ≤ size

/-- **When the proofs cover the fields.** For an accepted buffer, the price fields of all
entries are the decoding of their own leaves exactly when every declared message size is at
least 85; and entries of two such buffers with the same leaf have the same price data. -/
theorem fields_covered_iff (hk : pf.hkCursor.Lawful) {bytes root : Buff}
    {updates : List DecodedPriceUpdate}
    (h : parseAndVerifyPricesUpdates pf bytes root = .ok updates) :
    ((∀ update ∈ updates, FieldsOf update.leafBytes update) ↔ SizesCoverFields bytes) ∧
    (SizesCoverFields bytes → ∀ bytes' root' updates',
      parseAndVerifyPricesUpdates pf bytes' root' = .ok updates' → SizesCoverFields bytes' →
      ∀ update ∈ updates, ∀ update' ∈ updates', update.leafBytes = update'.leafBytes →
        castDecodedPrice update = castDecodedPrice update') := by
  have hiff : ∀ {bytes root updates}, parseAndVerifyPricesUpdates pf bytes root = .ok updates →
      ((∀ update ∈ updates, FieldsOf update.leafBytes update) ↔ SizesCoverFields bytes) := by
    intro bytes root updates h
    obtain ⟨⟨finish, hrecords, hle, hstop⟩, -⟩ := parseAndVerifyPricesUpdates_eq_ok hk h
    rw [SizesCoverFields, messageSizes_eq hk hrecords _ hle hstop, List.forall_mem_map]
    refine forall₂_congr fun update hupdate => ?_
    obtain ⟨pos, stride, hdecode⟩ := hrecords.exists_decode update hupdate
    obtain ⟨hrecord, -⟩ := decodeRecord_eq_ok hk hdecode
    have htake : FieldsOf ((bytes.drop 1).drop (pos + 2) |>.take
        (messageSize (bytes.drop 1) pos)) update ↔ 85 ≤ messageSize (bytes.drop 1) pos :=
      hrecord.fields.take_iff
    rwa [← hrecord.leafBytes, ← hrecord.leafBytes_length] at htake
  refine ⟨hiff h, fun hcover bytes' root' updates' h' hcover' update hupdate update' hupdate'
    hleaf => ?_⟩
  -- both leaves cover their fields, and they are one message
  have hfields := (hiff h).mpr hcover update hupdate
  have hfields' := (hiff h').mpr hcover' update' hupdate'
  rw [← hleaf] at hfields'
  exact hfields.castDecodedPrice_eq hfields'

/-! ### A closed input -/

/-- A buffer with one record: the declared message size, then a message of type `0` with price
`price` and zeros elsewhere, then the proof size `0`. -/
def oneRecord (size : Nat) (price : UInt8) : Buff :=
  [1] ++ uintToBuffBe 2 size ++ List.replicate 40 0 ++ [price] ++ List.replicate 44 0 ++ [0]

theorem fields_covered_iff_standard :
    ∃ updates, parseAndVerifyPricesUpdates .reference (oneRecord 85 7) (List.replicate 20 0) =
      .ok updates ∧ ∀ update ∈ updates, FieldsOf update.leafBytes update := by
  have hok : ∃ updates, parseAndVerifyPricesUpdates .reference (oneRecord 85 7)
      (List.replicate 20 0) = .ok updates := ⟨_, by rfl⟩
  obtain ⟨updates, h⟩ := hok
  refine ⟨updates, h, (fields_covered_iff Platform.reference_lawful h).1.mpr
    fun size hsize => ?_⟩
  have hsizes : messageSizes ((oneRecord 85 7).drop 1) (numUpdates (oneRecord 85 7)) 0 = [85] := by
    decide +kernel
  rw [hsizes] at hsize
  exact Nat.le_of_eq (List.mem_singleton.mp hsize).symm

/-- With a declared size of 1 the leaf is the message type alone: two buffers with the same
leaf and the same proof are accepted with different prices, which no leaf covers. -/
theorem oneRecord_not_covered :
    ∃ a b, parseAndVerifyPricesUpdates .reference (oneRecord 1 7) (List.replicate 20 0) =
        .ok [a] ∧
      parseAndVerifyPricesUpdates .reference (oneRecord 1 8) (List.replicate 20 0) = .ok [b] ∧
      a.leafBytes = [0] ∧ b.leafBytes = [0] ∧ a.proof = b.proof ∧ a.price = 7 ∧ b.price = 8 ∧
      ¬ FieldsOf a.leafBytes a ∧ ¬ FieldsOf b.leafBytes b := by
  refine ⟨_, _, by rfl, by rfl, by rfl, by rfl, by rfl, by rfl, by rfl, fun h => ?_, fun h => ?_⟩
  · exact absurd h.length (by decide)
  · exact absurd h.length (by decide)

end PythBridge.PnauDecoder
