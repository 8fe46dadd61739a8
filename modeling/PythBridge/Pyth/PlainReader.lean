import PythBridge.Clarity.Reports
import PythBridge.Pyth.PnauRoundTrip

/-!
# The plain record reader

`parse-price-info-and-proof` is run on every byte of the update section and acts only where the
count of the bytes meets the start of the next record. `readUpdates` says what this comes to:
it reads one record after another (`foldlM_parsePriceInfoAndProof_eq`). Which records are read
(`RecordReadable`) and what is read (`recordOf`) is told from the bytes alone.

The reader has no cursor and no accumulator of positions: it is a recursion on the position, and it
is what one would write for this format. That the fold of the source computes the same is the point
of the module, because everything that is said about buffers (which records are read, which aborts
happen) is then read off a function of the bytes.

The bridge between the two is `DecodesBy` of `Clarity.Walk`: one record is either read, with a
length told by the bytes, or it aborts (`decodeRecord_decodesBy`).
-/

namespace PythBridge.PnauDecoder

open Clarity

variable {pf : Platform}

/-! ## One record

All positions are offsets from the start of the record. -/

/-- The hashes behind the proof size, cut in pieces of 20 bytes. An area past the end of the
buffer is empty. -/
def proofOf (bytes : Buff) (pos : Nat) : List Buff :=
  if pos + recordLength bytes pos ≤ bytes.length then
    (List.range (proofSize bytes pos)).map fun i =>
      field bytes (pos + 2 + messageSize bytes pos + 1 + 20 * i) 20
  else []

/-- What is read at `pos`, field by field. -/
def recordOf (bytes : Buff) (pos : Nat) : DecodedPriceUpdate where
  priceIdentifier := field bytes (pos + 3) 32
  price := buffToSignedBe (field bytes (pos + 35) 8)
  conf := buffToUintBe (field bytes (pos + 43) 8)
  expo := buffToSignedBe (field bytes (pos + 51) 4)
  publishTime := buffToUintBe (field bytes (pos + 55) 8)
  prevPublishTime := buffToUintBe (field bytes (pos + 63) 8)
  emaPrice := buffToSignedBe (field bytes (pos + 71) 8)
  emaConf := buffToUintBe (field bytes (pos + 79) 8)
  proof := proofOf bytes pos
  leafBytes := field bytes (pos + 2) (messageSize bytes pos)

/-- A record is read at `pos`: the fields and the proof size lie inside the buffer, the type is
`0`, and the message and the hashes that are there fit their lists. -/
structure RecordReadable (bytes : Buff) (pos : Nat) : Prop where
  fields : pos + 87 ≤ bytes.length
  proofSize : pos + 2 + messageSize bytes pos + 1 ≤ bytes.length
  messageType : buffToUintBe (field bytes (pos + 2) 1) = 0
  message : messageSize bytes pos ≤ 255
  hashes : pos + recordLength bytes pos ≤ bytes.length → PnauDecoder.proofSize bytes pos ≤ 128

instance (bytes : Buff) : DecidablePred (RecordReadable bytes) := fun pos =>
  decidable_of_iff
    (pos + 87 ≤ bytes.length ∧ pos + 2 + messageSize bytes pos + 1 ≤ bytes.length ∧
      buffToUintBe (field bytes (pos + 2) 1) = 0 ∧ messageSize bytes pos ≤ 255 ∧
      (pos + recordLength bytes pos ≤ bytes.length → proofSize bytes pos ≤ 128))
    ⟨fun ⟨fields, proofSize, messageType, message, hashes⟩ =>
      ⟨fields, proofSize, messageType, message, hashes⟩,
    fun h => ⟨h.fields, h.proofSize, h.messageType, h.message, h.hashes⟩⟩

/-- Records are not empty, so the reader moves on. -/
theorem recordLength_pos (bytes : Buff) (pos : Nat) : 0 < recordLength bytes pos := by
  rw [recordLength]
  omega

/-! ### Its hashes -/

/-- A hash is read exactly when all of its 20 bytes are there. -/
theorem decodeHash_decodesBy (hk : pf.hkCursor.Lawful) (area : Buff) :
    DecodesBy (decodeHash pf area) (fun pos => pos + 20 ≤ area.length)
      (fun pos => field area pos 20) (fun _ => 20) where
  taken pos hinside := by
    simp only [decodeHash, exec_bind_eq_ok, unwrapPanic_eq_ok, hk.readBuff20.exists_ok, hk.new,
      exec_pure_eq_ok, Option.getD_some]
    exact ⟨hinside, rfl⟩
  aborts pos houtside := by
    refine eq_abort_of_not_reports fun hreports => houtside ?_
    simp only [decodeHash, reports_unwrapPanic_bind, hk.readBuff20.exists_ok, hk.new,
      Option.getD_some] at hreports
    exact hreports.1
  stride_pos _ := by decide

/-- The proof walk over an area that holds as many hashes as declared. -/
theorem foldlM_parseProof_eq (hk : pf.hkCursor.Lawful) {area : Buff} {count : Nat}
    (hlength : area.length = 20 * count) :
    (area.foldlM (parseProof pf area count) .start).map WalkAcc.result =
      if count ≤ 128 then .ok ((List.range count).map fun i => field area (20 * i) 20)
      else .error .abort := by
  have hstarts : recordStarts (fun _ => 20) area.length count 0 =
      (List.range count).map fun i => 0 + 20 * i :=
    recordStarts_const (by decide) count 0 (by omega)
  have hinside : ∀ start ∈ recordStarts (fun _ => 20) area.length count 0,
      start + 20 ≤ area.length := by
    rw [hstarts, List.forall_mem_map]
    intro i hi
    have := List.mem_range.mp hi
    omega
  rw [parseProof_eq_walkStep, (decodeHash_decodesBy hk area).foldlM_walkStep_eq 128 count area]
  -- the list has room for all hashes, or the walk aborts at the hundred and twenty-ninth
  by_cases hcount : count ≤ 128
  · rw [if_pos ⟨hinside, by rwa [hstarts, List.length_map, List.length_range]⟩, if_pos hcount,
      hstarts, List.map_map]
    refine congrArg Except.ok (List.map_congr_left fun i _ => ?_)
    show field area (0 + 20 * i) 20 = field area (20 * i) 20
    rw [Nat.zero_add]
  · rw [if_neg fun hgood => hcount ?_, if_neg hcount]
    have := hgood.2
    rwa [hstarts, List.length_map, List.length_range] at this

/-- Fields of a rest are fields of the whole. -/
theorem field_drop (bytes : Buff) (start offset n : Nat) :
    field (bytes.drop start) offset n = field bytes (start + offset) n := by
  rw [field, field, List.drop_drop]

/-- The proof walk over the slice behind the proof size. -/
theorem foldlM_parseProof_slice (hk : pf.hkCursor.Lawful) (bytes : Buff) (pos : Nat)
    {area : Buff} (harea : area = pf.hkCursor.slice ⟨bytes, pos + 2 + messageSize bytes pos + 1⟩
      (some (20 * proofSize bytes pos))) :
    (area.foldlM (parseProof pf area (proofSize bytes pos)) .start).map WalkAcc.result =
      if pos + recordLength bytes pos ≤ bytes.length → proofSize bytes pos ≤ 128 then
        .ok (proofOf bytes pos)
      else .error .abort := by
  have hholds : (⟨bytes, pos + 2 + messageSize bytes pos + 1⟩ : Cursor).Holds
      (20 * proofSize bytes pos) ↔ pos + recordLength bytes pos ≤ bytes.length := by
    rw [recordLength]
    show pos + 2 + messageSize bytes pos + 1 + 20 * proofSize bytes pos ≤ bytes.length ↔ _
    omega
  rw [hk.slice_some] at harea
  -- the slice is the hashes, or it runs past the end and is empty: then no hash is read at all
  by_cases hinside : pos + recordLength bytes pos ≤ bytes.length
  · rw [if_pos (hholds.mpr hinside)] at harea
    have hlength : area.length = 20 * proofSize bytes pos :=
      harea ▸ Cursor.take_length (hholds.mpr hinside)
    rw [foldlM_parseProof_eq hk hlength, proofOf, if_pos hinside]
    simp only [hinside, true_implies]
    refine if_congr Iff.rfl (congrArg Except.ok (List.map_congr_left fun i hi => ?_)) rfl
    have hlt := List.mem_range.mp hi
    rw [harea, Cursor.take, Cursor.rest, field_take (by omega), field_drop]
  · rw [if_neg fun h => hinside (hholds.mp h)] at harea
    rw [if_pos fun h => absurd h hinside, proofOf, if_neg hinside, harea]
    rfl

/-! ### Its decoder

The reads of the source one after another. Each asks for its field to lie inside the buffer, and the
furthest of them decides. -/

theorem Cursor.skip_mk (bytes : Buff) (pos n : Nat) :
    (⟨bytes, pos⟩ : Cursor).skip n = ⟨bytes, pos + n⟩ := rfl

theorem Cursor.take_mk (bytes : Buff) (pos n : Nat) :
    (⟨bytes, pos⟩ : Cursor).take n = field bytes pos n := rfl

theorem Cursor.holds_mk (bytes : Buff) (pos n : Nat) :
    (⟨bytes, pos⟩ : Cursor).Holds n ↔ pos + n ≤ bytes.length := Iff.rfl

theorem messageSize_eq (bytes : Buff) (pos : Nat) :
    buffToUintBe (field bytes pos 2) = messageSize bytes pos := rfl

theorem proofSize_eq (bytes : Buff) (pos : Nat) :
    buffToUintBe (field bytes (pos + 2 + messageSize bytes pos) 1) = proofSize bytes pos := rfl

/-- The check of the message type, which is written as a response in the source. -/
theorem updateType_eq_ok {messageType : Nat} [Decidable (messageType = 0)] {b : Bool} :
    (if messageType = 0 then .ok true else .error errUpdateType : Response Bool) = .ok b ↔
      messageType = 0 ∧ true = b := by
  split <;> simp_all

/-- **A record is read or aborts**, and the bytes tell which. -/
theorem decodeRecord_decodesBy (hk : pf.hkCursor.Lawful) (bytes : Buff) :
    DecodesBy (decodeRecord pf bytes) (RecordReadable bytes) (recordOf bytes)
      (recordLength bytes) where
  taken pos h := by
    have hfields := h.fields
    have hleaf : pf.hkCursor.slice ⟨bytes, pos + 2⟩ (some (messageSize bytes pos)) =
        field bytes (pos + 2) (messageSize bytes pos) := by
      rw [hk.slice_some]
      exact if_pos (Nat.le_of_succ_le h.proofSize)
    have hproof := foldlM_parseProof_slice hk bytes pos rfl
    rw [if_pos h.hashes] at hproof
    obtain ⟨proof, hfold, hresult⟩ := exec_map_eq_ok.mp hproof
    simp only [decodeRecord, exec_bind_eq_ok, unwrapPanic_eq_ok, hk.readUint16.exists_ok,
      hk.readUint8.exists_ok, hk.readBuff32.exists_ok, hk.readInt64.exists_ok,
      hk.readUint64.exists_ok, hk.readInt32.exists_ok, hk.new, hk.advance, Option.getD_some,
      unwrapPanicOpt_eq_ok, asMaxLen?_eq_some, exec_pure_eq_ok, Cursor.skip_mk, Cursor.take_mk,
      Cursor.holds_mk, messageSize_eq, proofSize_eq, hleaf]
    refine ⟨by omega, by omega, by omega, by omega, by omega, by omega, by omega, by omega,
      by omega, hfields, h.proofSize, proof, hfold, true, if_pos h.messageType, _,
      ⟨?_, rfl⟩, ?_⟩
    · rw [field, List.length_take]
      have := h.message
      omega
    · rw [hresult]
      rfl
  aborts pos hbad := by
    refine eq_abort_of_not_reports fun hreports => hbad ?_
    simp only [decodeRecord, reports_unwrapPanic_bind, hk.readUint16.exists_ok,
      hk.readUint8.exists_ok, hk.readBuff32.exists_ok, hk.readInt64.exists_ok,
      hk.readUint64.exists_ok, hk.readInt32.exists_ok, hk.new, hk.advance, Option.getD_some,
      Cursor.skip_mk, Cursor.take_mk, Cursor.holds_mk, messageSize_eq, proofSize_eq] at hreports
    obtain ⟨-, -, -, -, -, -, -, -, -, hfields, hproofSize, hreports⟩ := hreports
    obtain ⟨hfold, hreports⟩ := reports_bind.mp hreports
    have hwalk := foldlM_parseProof_slice hk bytes pos rfl
    have hhashes : pos + recordLength bytes pos ≤ bytes.length → proofSize bytes pos ≤ 128 := by
      -- a proof of more hashes than its list holds does not get past the cap
      by_contra hmany
      rw [← reports_map (f := WalkAcc.result), hwalk, if_neg hmany] at hfold
      exact not_reports_abort hfold
    rw [if_pos hhashes] at hwalk
    obtain ⟨proof, hproof, -⟩ := exec_map_eq_ok.mp hwalk
    have hrest := hreports proof hproof
    simp only [reports_unwrapPanic_bind, reports_unwrapPanicOpt_bind, asMaxLen?_eq_some] at hrest
    obtain ⟨_, htype, _, ⟨hmessage, -⟩, -⟩ := hrest
    have hleaf : (⟨bytes, pos + 2⟩ : Cursor).Holds (messageSize bytes pos) :=
      Nat.le_of_succ_le hproofSize
    rw [hk.slice_some, if_pos hleaf, Cursor.take_length hleaf] at hmessage
    exact ⟨hfields, hproofSize, (updateType_eq_ok.mp htype).1, hmessage, hhashes⟩
  stride_pos := recordLength_pos bytes

/-! ## The reader

Recursion on the bytes that are left. Two conditions stop it, and two abort it. -/

/-- Reads the record at `pos` and goes on behind it, until `limit` are read or the position is
at or past the end. Aborts at a record that cannot be read and at the 65th. -/
def readUpdates (bytes : Buff) (limit pos : Nat) (updates : List DecodedPriceUpdate) :
    Exec (List DecodedPriceUpdate) :=
  if updates.length = limit ∨ bytes.length ≤ pos then .ok updates
  else if RecordReadable bytes pos ∧ updates.length < 64 then
    readUpdates bytes limit (pos + recordLength bytes pos) (updates ++ [recordOf bytes pos])
  else .error .abort
termination_by bytes.length - pos
decreasing_by
  have := recordLength_pos bytes pos
  omega

/-- The reader with fuel that the walk is proved to be. Induction on the fuel. -/
theorem readRecords_eq_readUpdates (hk : pf.hkCursor.Lawful) {bytes : Buff} {limit : Nat} :
    ∀ (fuel pos : Nat) (updates : List DecodedPriceUpdate), bytes.length ≤ fuel + pos →
      readRecords (decodeRecord pf bytes) 64 limit bytes.length fuel pos updates =
        readUpdates bytes limit pos updates := by
  intro fuel
  -- both readers make one step for a record, so they use up the fuel together
  induction fuel with
  | zero =>
    intro pos updates hfuel
    rw [readUpdates, if_pos (.inr (by omega))]
    rfl
  | succ fuel ih =>
    intro pos updates hfuel
    have hdecodes := decodeRecord_decodesBy hk bytes
    have hpos := recordLength_pos bytes pos
    rw [readRecords, readUpdates]
    split
    · rfl
    · -- the record is read and there is room for it, or one of the two fails and the walk aborts
      by_cases hreadable : RecordReadable bytes pos
      · rw [hdecodes.taken pos hreadable]
        by_cases hroom : updates.length < 64
        · have hcap : asMaxLen? (updates ++ [recordOf bytes pos]) 64 =
              some (updates ++ [recordOf bytes pos]) := by
            rw [asMaxLen?_eq_some, List.length_append, List.length_singleton]
            exact ⟨hroom, rfl⟩
          rw [if_pos ⟨hreadable, hroom⟩, ← ih _ _ (by omega)]
          show (unwrapPanicOpt (asMaxLen? (updates ++ [recordOf bytes pos]) 64) >>= _) = _
          rw [hcap]
          rfl
        · have hfull : asMaxLen? (updates ++ [recordOf bytes pos]) 64 = none := by
            refine if_neg ?_
            rw [List.length_append, List.length_singleton]
            omega
          rw [if_neg fun h => hroom h.2]
          show (unwrapPanicOpt (asMaxLen? (updates ++ [recordOf bytes pos]) 64) >>= _) = _
          rw [hfull]
          rfl
      · rw [hdecodes.aborts pos hreadable, if_neg fun h => hreadable h.1]
        rfl

/-- **The byte-driven walk is the plain reader.** For every buffer and limit the fold over the
bytes gives what the reader gives, a list of updates or an abort; and a list holds the record
at each start in front of the end, up to the limit, once and in order. -/
theorem foldlM_parsePriceInfoAndProof_eq (hk : pf.hkCursor.Lawful) (bytes : Buff) (limit : Nat) :
    (bytes.foldlM (parsePriceInfoAndProof pf bytes limit) .start).map WalkAcc.result =
        readUpdates bytes limit 0 [] ∧
      ∀ updates, readUpdates bytes limit 0 [] = .ok updates →
        updates = (recordStarts (recordLength bytes) bytes.length limit 0).map
          (recordOf bytes) := by
  have hdecodes := decodeRecord_decodesBy hk bytes
  have hwalk : (bytes.foldlM (walkStep (decodeRecord pf bytes) 64 limit) .start).map
      WalkAcc.result =
        readRecords (decodeRecord pf bytes) 64 limit (0 + bytes.length) bytes.length 0 [] :=
    foldlM_walkStep (decodeRecord_stride_pos hk) bytes .start bytes.length (Nat.le_refl _)
      (Nat.le_add_right _ _)
  rw [Nat.zero_add, readRecords_eq_readUpdates hk _ _ _ (Nat.le_add_right _ _)] at hwalk
  refine ⟨parsePriceInfoAndProof_eq_walkStep bytes limit ▸ hwalk, fun updates hok => ?_⟩
  rw [← hwalk, hdecodes.foldlM_walkStep_eq] at hok
  split at hok
  · cases hok
    rfl
  · cases hok

theorem foldlM_parsePriceInfoAndProof_eq_oneRecord :
    (∃ update, readUpdates ((oneRecord 85 7).drop 1) 255 0 [] = .ok [update] ∧
      update.price = 7) ∧
    readUpdates ((oneRecord 85 7).drop 1).dropLast 255 0 [] = .error .abort :=
  ⟨⟨_, (foldlM_parsePriceInfoAndProof_eq Platform.reference_lawful _ 255).1.symm.trans (by rfl),
      by rfl⟩,
    (foldlM_parsePriceInfoAndProof_eq Platform.reference_lawful _ 255).1.symm.trans (by rfl)⟩

end PythBridge.PnauDecoder
