import PythBridge.Clarity.Cues
import PythBridge.Clarity.Reports
import PythBridge.P2wh.Decoder

/-!
# What a batch of attestations is read as

`parse-and-verify-price-attestations` walks a header of a declared length and then finds the
attestations by cues, which are the multiples of the declared attestation size. `plainRead` says
the same without folds: the length of the buffer and four of its numbers decide between nine
outcomes, and the attestations are cut at fixed places
(`parseAndVerifyPriceAttestations_eq_plainRead`).

The crux is the cut of the attestations (`cutAttestations_eq`). The bytes that are sliced off are as
long as count and size declare, so the cues are the multiples of the size below that length, and the
last attestation ends within them exactly when one of them fits the size. The list that collects
them starts with an empty entry and has room for 64, which is why 63 attestations are the limit.

* `foldlM_isPriceAttestationCue`: the first fold.
* `foldlM_parsePriceAttestation`: the second fold.
* `cutAttestations_eq`: both, with the cut behind them.
* `parseAndVerifyPriceAttestations_eq_plainRead`: the whole reader.
* `batch_outcomes`: its outcomes as three classes that exclude each other.
-/

namespace PythBridge.P2whDecoder

open Clarity

/-! ## Fields at their places

`fieldAt` is how a field is cut, with no condition on the buffer; what lies beyond its end is simply
missing. -/

/-- The field of `width` bytes at `pos`. -/
def fieldAt (bytes : Buff) (pos width : Nat) : Buff := (bytes.drop pos).take width

/-- An attestation takes 149 bytes; the places at 0, 101 and 105 are obsolete. -/
def encodedAt (bytes : Buff) (pos : Nat) : EncodedAttestation where
  priceFeedId := fieldAt bytes (pos + 32) 32
  price := fieldAt bytes (pos + 64) 8
  conf := fieldAt bytes (pos + 72) 8
  expo := fieldAt bytes (pos + 80) 4
  emaPrice := fieldAt bytes (pos + 84) 8
  emaConf := fieldAt bytes (pos + 92) 8
  status := fieldAt bytes (pos + 100) 1
  attestationTime := fieldAt bytes (pos + 109) 8
  publishTime := fieldAt bytes (pos + 117) 8
  prevPublishTime := fieldAt bytes (pos + 125) 8
  prevPrice := fieldAt bytes (pos + 133) 8
  prevConf := fieldAt bytes (pos + 141) 8

/-- The attestation at `pos`, decoded. -/
def attestationAt (bytes : Buff) (pos : Nat) : PriceAttestation :=
  decodePriceAttestation (encodedAt bytes pos)

/-- A field of a field is a field. -/
theorem fieldAt_fieldAt {bytes : Buff} {start length pos width : Nat}
    (h : pos + width ≤ length) :
    fieldAt (fieldAt bytes start length) pos width = fieldAt bytes (start + pos) width := by
  have hwidth : min width (length - pos) = width := by omega
  simp only [fieldAt, List.drop_take, List.drop_drop, List.take_take, hwidth]

theorem encodedAt_fieldAt {bytes : Buff} {start length pos : Nat} (h : pos + 149 ≤ length) :
    encodedAt (fieldAt bytes start length) pos = encodedAt bytes (start + pos) := by
  have hfield : ∀ offset width, offset + width ≤ 149 →
      fieldAt (fieldAt bytes start length) (pos + offset) width =
        fieldAt bytes (start + pos + offset) width := by
    intro offset width hinside
    rw [fieldAt_fieldAt (by omega), Nat.add_assoc]
  simp only [encodedAt, hfield, Nat.reduceAdd, Nat.reduceLeDiff]

/-! ## The plain reader

The tests come in the order of the contract, since a buffer that is too short in several places is
reported for the first of them. -/

def uintAt (bytes : Buff) (pos width : Nat) : Nat := buffToUintBe (fieldAt bytes pos width)

/-- Where the count of a batch stands: behind the trailing header, whose size the two bytes at 8
declare. -/
def countPos (bytes : Buff) : Nat := 10 + uintAt bytes 8 2

def attestationsCount (bytes : Buff) : Nat := uintAt bytes (countPos bytes) 2

def attestationSize (bytes : Buff) : Nat := uintAt bytes (countPos bytes + 2) 2

def readBatch (bytes : Buff) : PriceAttestations where
  attestationsCount := attestationsCount bytes
  attestationSize := attestationSize bytes
  priceAttestations := (List.range (attestationsCount bytes)).map fun i =>
    attestationAt bytes (countPos bytes + 4 + i * attestationSize bytes)

/-- The attestations can be sliced off: the numbers are not the end of the buffer, and the
declared attestations do not go past it. A slice has to start in front of a byte, so that even a
batch of no attestations needs one behind its numbers. -/
def AttestationsInside (bytes : Buff) : Prop :=
  countPos bytes + 4 < bytes.length ∧
    countPos bytes + 4 + attestationsCount bytes * attestationSize bytes ≤ bytes.length

instance (bytes : Buff) : Decidable (AttestationsInside bytes) :=
  inferInstanceAs (Decidable (_ ∧ _))

/-- The attestations can be read: there is one, the list has room for all, and one fits its
size. -/
def Readable (bytes : Buff) : Prop :=
  1 ≤ attestationsCount bytes ∧ attestationsCount bytes ≤ 63 ∧ 149 ≤ attestationSize bytes

instance (bytes : Buff) : Decidable (Readable bytes) :=
  inferInstanceAs (Decidable (_ ∧ _ ∧ _))

/-- The outcome of a batch, from its length and its numbers. -/
def plainRead (bytes : Buff) : Exec PriceAttestations :=
  if bytes.length < 4 then .error (.err errPfParsingMagicBytes)
  else if bytes.length < 6 then .error (.err errPfParsingVersionMaj)
  else if bytes.length < 8 then .error (.err errPfParsingVersionMin)
  else if bytes.length < 10 then .error (.err errPfParsingTrailingHeaderSize)
  else if bytes.length < 11 then .error (.err errPfParsingPayloadId)
  else if uintAt bytes 8 2 = 0 then .error .abort
  else if bytes.length < countPos bytes + 2 then .error (.err errP2whParsingAttestationCount)
  else if bytes.length < countPos bytes + 4 then .error (.err errP2whParsingAttestationSize)
  else if ¬ AttestationsInside bytes then .error (.err errP2whSlicingAttestationBytes)
  else if Readable bytes then .ok (readBatch bytes)
  else .error .abort

/-! ## Reads

The rule of the cursor in both directions: a read inside the buffer gives its field, and a read
across its end gives some error. -/

section Reads

variable {α : Type} {width : Nat} {decode : Buff → α} {read : Cursor → Response (Read α)}
  {bytes : Buff} {pos : Nat}

theorem read_inside (h : ReadsField width decode read) (bytes : Buff) (pos : Nat)
    (hinside : pos + width ≤ bytes.length) :
    read ⟨bytes, pos⟩ = .ok ⟨decode (fieldAt bytes pos width), ⟨bytes, pos + width⟩⟩ :=
  (h _ _).mpr ⟨hinside, rfl⟩

theorem read_outside (h : ReadsField width decode read) (houtside : bytes.length < pos + width) :
    ∃ code, read ⟨bytes, pos⟩ = .error code := by
  cases hread : read ⟨bytes, pos⟩ with
  | error code => exact ⟨code, rfl⟩
  | ok r =>
    have hholds : pos + width ≤ bytes.length := ((h _ _).mp hread).1
    omega

/-- A read whose failure is reported. -/
theorem unwrap_read (h : ReadsField width decode read) (code : Nat) :
    unwrap (read ⟨bytes, pos⟩) code =
      if bytes.length < pos + width then .error (.err code)
      else .ok ⟨decode (fieldAt bytes pos width), ⟨bytes, pos + width⟩⟩ := by
  by_cases houtside : bytes.length < pos + width
  · obtain ⟨_, hread⟩ := read_outside h houtside
    rw [if_pos houtside, hread]
    rfl
  · rw [if_neg houtside, read_inside h bytes pos (Nat.not_lt.mp houtside)]
    rfl

end Reads

variable {hk : HkCursorV1}

/-! ## Attestations

One step of the second fold. The 15 reads are at fixed distances, so the last of them decides. -/

/-- An attestation inside the buffer is cut, if the list has room for it. -/
theorem parsePriceAttestation_inside (h : hk.Lawful) {bytes : Buff}
    (acc : List EncodedAttestation) (pos : Nat) (hinside : pos + 149 ≤ bytes.length) :
    parsePriceAttestation hk bytes acc pos =
      unwrapPanicOpt (asMaxLen? (acc ++ [encodedAt bytes pos]) 64) := by
  have r₁ := read_inside h.readBuff32 bytes pos (by omega)
  have r₂ := read_inside h.readBuff32 bytes (pos + 32) (by omega)
  have r₃ := read_inside h.readBuff8 bytes (pos + 64) (by omega)
  have r₄ := read_inside h.readBuff8 bytes (pos + 72) (by omega)
  have r₅ := read_inside h.readBuff4 bytes (pos + 80) (by omega)
  have r₆ := read_inside h.readBuff8 bytes (pos + 84) (by omega)
  have r₇ := read_inside h.readBuff8 bytes (pos + 92) (by omega)
  have r₈ := read_inside h.readBuff1 bytes (pos + 100) (by omega)
  have r₉ := read_inside h.readBuff4 bytes (pos + 101) (by omega)
  have r₁₀ := read_inside h.readBuff4 bytes (pos + 105) (by omega)
  have r₁₁ := read_inside h.readBuff8 bytes (pos + 109) (by omega)
  have r₁₂ := read_inside h.readBuff8 bytes (pos + 117) (by omega)
  have r₁₃ := read_inside h.readBuff8 bytes (pos + 125) (by omega)
  have r₁₄ := read_inside h.readBuff8 bytes (pos + 133) (by omega)
  have r₁₅ := read_inside h.readBuff8 bytes (pos + 141) (by omega)
  simp only [parsePriceAttestation, r₁, r₂, r₃, r₄, r₅, r₆, r₇, r₈, r₉, r₁₀, r₁₁, r₁₂, r₁₃, r₁₄,
    r₁₅, unwrapPanic, bind, Except.bind]
  rfl

/-- An attestation across the end of the buffer aborts. -/
theorem parsePriceAttestation_outside (h : hk.Lawful) {bytes : Buff}
    (acc : List EncodedAttestation) (pos : Nat) (houtside : ¬ pos + 149 ≤ bytes.length) :
    parsePriceAttestation hk bytes acc pos = .error .abort := by
  -- an attestation that does not abort has read its last field
  refine eq_abort_of_not_reports fun hreports => houtside ?_
  simp only [parsePriceAttestation, reports_unwrapPanic_bind, h.readBuff1.exists_ok,
    h.readBuff4.exists_ok, h.readBuff8.exists_ok, h.readBuff32.exists_ok] at hreports
  obtain ⟨-, -, -, -, -, -, -, -, -, -, -, -, -, -, hlast, -⟩ := hreports
  exact hlast

/-! ## Cues

The fold over the bytes, as an instance of the cue folds of the library. The contract puts the cue
`u0` in the list by hand and skips it in the fold, and together they are the multiples of the size.
-/

/-- For a positive size the cue fold is the one of the library. -/
theorem isPriceAttestationCue_eq {size : Nat} (hsize : size ≠ 0) (acc : CueAcc) (entry : UInt8) :
    isPriceAttestationCue ⟨size, acc.cursor, acc.result⟩ entry =
      (cueStep (fun position => position % size = 0 ∧ 0 < position) 64 acc entry).map
        fun acc => ⟨size, acc.cursor, acc.result⟩ := by
  -- the size is not zero, so the remainder does not abort
  have hmod : checkedMod acc.cursor size = .ok (acc.cursor % size) := if_neg hsize
  simp only [isPriceAttestationCue, hmod, bind, Except.bind, cueStep, eq_comm (a := 0)]
  split
  · cases unwrapPanicOpt (asMaxLen? (acc.result ++ [acc.cursor]) 64) <;> rfl
  · rfl

/-- The first cue and the positive multiples are all multiples. -/
theorem cons_filter_positive_multiples {size count : Nat} (hsize : 0 < size) (hcount : 0 < count) :
    [0] ++ (List.range' 0 (count * size)).filter
        (fun position => position % size = 0 ∧ 0 < position) =
      (List.range count).map (· * size) := by
  obtain ⟨length, hlength⟩ : ∃ length, count * size = length + 1 :=
    ⟨count * size - 1, by have := Nat.mul_pos hcount hsize; omega⟩
  -- from 1 on a position is positive anyway
  have hpositive : (List.range' 1 length).filter
      (fun position => position % size = 0 ∧ 0 < position) =
        (List.range' 1 length).filter fun position => position % size = 0 := by
    refine List.filter_congr fun position hp => ?_
    have hp := (List.mem_range'_1.mp hp).1
    simp only [show 0 < position from hp, and_true]
  rw [← range'_filter_multiples hsize, hlength, List.range'_succ,
    List.filter_cons_of_neg (by simp), List.filter_cons_of_pos (by simp), Nat.zero_add,
    hpositive, List.singleton_append]

/-- **The cues of a batch.** With a positive size and an attestation at all, they are the
multiples of the size, when there is room for them. -/
theorem foldlM_isPriceAttestationCue {bytes : Buff} {size count : Nat} (hsize : 0 < size)
    (hcount : 0 < count) (hlength : bytes.length = count * size) :
    (bytes.foldlM isPriceAttestationCue ⟨size, 0, [0]⟩).map AttestationCueAcc.result =
      if count ≤ 64 then .ok ((List.range count).map (· * size)) else .error .abort := by
  have hcues := foldlM_cueStep (fun position => position % size = 0 ∧ 0 < position) 64 bytes
    ⟨0, [0]⟩ (by decide)
  simp only [hlength, cons_filter_positive_multiples hsize hcount, List.length_map,
    List.length_range] at hcues
  have hfold := foldlM_map (isPriceAttestationCue_eq (Nat.ne_of_gt hsize)) bytes ⟨0, [0]⟩
  rw [hfold, hcues]
  split <;> rfl

/-- What follows the cue fold looks at the cues only. -/
theorem bind_of_map_result {x : Exec AttestationCueAcc} {α : Type} (f : List Nat → Exec α) :
    (x >>= fun acc => f acc.result) = (x.map AttestationCueAcc.result >>= f) := by
  cases x <;> rfl

/-! ## Cutting the attestations

With both folds known in closed form, what is left is arithmetic on count, size and length. -/

/-- The two folds and the cut behind them. -/
def cutAttestations (hk : HkCursorV1) (bytes : Buff) (count size : Nat) :
    Exec (List EncodedAttestation) := do
  let attestationsCues ← bytes.foldlM isPriceAttestationCue ⟨size, 0, [0]⟩
  let encoded ← attestationsCues.result.foldlM (parsePriceAttestation hk bytes)
    [emptyAttestation]
  unwrapPanicOpt (slice? encoded 1 (1 + count))

theorem foldlM_parsePriceAttestation (h : hk.Lawful) (bytes : Buff) (cues : List Nat) :
    cues.foldlM (parsePriceAttestation hk bytes) [emptyAttestation] =
      if (∀ cue ∈ cues, cue + 149 ≤ bytes.length) ∧ 1 + cues.length ≤ 64 then
        .ok (emptyAttestation :: cues.map (encodedAt bytes))
      else .error .abort :=
  foldlM_collect (parsePriceAttestation_inside h) (parsePriceAttestation_outside h) cues
    [emptyAttestation] (by decide)

/-- **When the attestations are cut.** The last one decides: the buffer ends one size behind its
cue, so that a size of less than 149 bytes leaves it incomplete. -/
theorem cutAttestations_eq (h : hk.Lawful) {bytes : Buff} {count size : Nat}
    (hlength : bytes.length = count * size) :
    cutAttestations hk bytes count size =
      if 1 ≤ count ∧ count ≤ 63 ∧ 149 ≤ size then
        .ok ((List.range count).map fun i => encodedAt bytes (i * size))
      else .error .abort := by
  by_cases hempty : 0 < count ∧ 0 < size
  · obtain ⟨hcount, hsize⟩ := hempty
    rw [cutAttestations, bind_of_map_result fun cues =>
        cues.foldlM (parsePriceAttestation hk bytes) [emptyAttestation] >>= fun encoded =>
          unwrapPanicOpt (slice? encoded 1 (1 + count)),
      foldlM_isPriceAttestationCue hsize hcount hlength]
    -- the cue fold has room for one more than the second fold
    by_cases hroom : count ≤ 64
    · rw [if_pos hroom]
      refine Eq.trans (congrArg (· >>= fun encoded =>
        unwrapPanicOpt (slice? encoded 1 (1 + count))) (foldlM_parsePriceAttestation h bytes
          ((List.range count).map (· * size)))) ?_
      rw [List.length_map, List.length_range]
      -- all fit when the last one fits, and it has one size to fit into
      have hinside : (∀ cue ∈ (List.range count).map (· * size), cue + 149 ≤ bytes.length) ↔
          149 ≤ size := by
        constructor
        · intro hall
          have hlast := hall ((count - 1) * size) (List.mem_map.mpr ⟨count - 1,
            List.mem_range.mpr (by omega), rfl⟩)
          have hsplit : count * size = (count - 1) * size + size := by
            rw [← Nat.succ_mul, show (count - 1).succ = count from by omega]
          omega
        · intro hfits cue hcue
          obtain ⟨i, hi, rfl⟩ := List.mem_map.mp hcue
          have hle := Nat.mul_le_mul_right size (List.mem_range.mp hi : i + 1 ≤ count)
          rw [Nat.succ_mul] at hle
          show i * size + 149 ≤ _
          omega
      simp only [hinside]
      by_cases hread : 149 ≤ size ∧ 1 + count ≤ 64
      · rw [if_pos hread, if_pos ⟨hcount, by omega, hread.1⟩]
        have hslice : slice? (emptyAttestation ::
            ((List.range count).map (· * size)).map (encodedAt bytes)) 1 (1 + count) =
              some ((List.range count).map fun i => encodedAt bytes (i * size)) := by
          have hlengthCons : (emptyAttestation :: ((List.range count).map (· * size)).map
              (encodedAt bytes)).length = count + 1 := by
            simp only [List.length_cons, List.length_map, List.length_range]
          rw [slice?_eq_some, hlengthCons]
          refine ⟨by omega, ?_⟩
          rw [List.drop_succ_cons, List.drop_zero, List.map_map, List.take_of_length_le]
          · rfl
          · simp only [List.length_map, List.length_range]
            omega
        show unwrapPanicOpt _ = _
        rw [hslice]
        rfl
      · rw [if_neg hread, if_neg (by omega)]
        rfl
    · rw [if_neg hroom, if_neg (by omega)]
      rfl
  · -- no byte at all, and the cue the list starts with cannot be read
    have hnil : bytes = [] := by
      refine List.eq_nil_of_length_eq_zero ?_
      rw [hlength, Nat.mul_eq_zero]
      omega
    subst hnil
    have hcues : cutAttestations hk [] count size =
        ([0].foldlM (parsePriceAttestation hk []) [emptyAttestation] >>= fun encoded =>
          unwrapPanicOpt (slice? encoded 1 (1 + count))) := rfl
    rw [hcues, foldlM_parsePriceAttestation h, if_neg, if_neg (by omega)]
    · rfl
    · intro hall
      have := hall.1 0 (.head _)
      simp at this

/-! ## The batch

The header is one long chain of reads and the numbers another one, each behind the other. -/

theorem ite_error_bind {α β : Type} {c : Prop} [Decidable c] {e : Exit} {x : α}
    {f : α → Exec β} :
    ((if c then .error e else .ok x) >>= f) = if c then .error e else f x := by
  split <;> rfl

/-- A slice whose failure is reported; it needs a byte to start in front of. -/
theorem unwrapOpt_slice (bytes : Buff) (pos length code : Nat) :
    unwrapOpt (slice? bytes pos (pos + length)) code =
      if ¬ (pos < bytes.length ∧ pos + length ≤ bytes.length) then .error (.err code)
      else .ok (fieldAt bytes pos length) := by
  by_cases hinside : pos < bytes.length ∧ pos + length ≤ bytes.length
  · rw [if_neg (not_not_intro hinside), slice?, if_pos ⟨hinside.1, by omega, hinside.2⟩,
      Nat.add_sub_cancel_left]
    rfl
  · rw [if_pos hinside, slice?, if_neg fun h => hinside ⟨h.1, h.2.2⟩]
    rfl

/-- The header ends where its declared size says; a declared size of zero aborts. -/
theorem parsePriceAttestationsHeader_bind (h : hk.Lawful) {α : Type} (bytes : Buff)
    (f : Cursor → Exec α) :
    (parsePriceAttestationsHeader hk bytes >>= fun header => f header.next) =
      if bytes.length < 4 then .error (.err errPfParsingMagicBytes)
      else if bytes.length < 6 then .error (.err errPfParsingVersionMaj)
      else if bytes.length < 8 then .error (.err errPfParsingVersionMin)
      else if bytes.length < 10 then .error (.err errPfParsingTrailingHeaderSize)
      else if bytes.length < 11 then .error (.err errPfParsingPayloadId)
      else if uintAt bytes 8 2 = 0 then .error .abort
      else f ⟨bytes, countPos bytes⟩ := by
  have hsub : checkedSub (uintAt bytes 8 2) 1 =
      if uintAt bytes 8 2 = 0 then .error .abort else .ok (uintAt bytes 8 2 - 1) := by
    unfold checkedSub
    split <;> split <;> first | rfl | omega
  simp only [parsePriceAttestationsHeader, unwrap_read h.readBuff4, unwrap_read h.readU16,
    unwrap_read h.readU8, ite_error_bind, Nat.zero_add, Nat.reduceAdd]
  have hsize : buffToUintBe (fieldAt bytes 8 2) = uintAt bytes 8 2 := rfl
  -- one alternative for each read, and one for the underflow
  simp only [hsize, hsub, ite_error_bind]
  split
  · rfl
  split
  · rfl
  split
  · rfl
  split
  · rfl
  split
  · rfl
  split
  · rfl
  next hpos =>
    have hnext : 11 + (uintAt bytes 8 2 - 1) = countPos bytes := by
      rw [countPos]
      omega
    show f ⟨bytes, 11 + (uintAt bytes 8 2 - 1)⟩ = _
    rw [hnext]

/-- What is done behind the header. -/
def attestationsFrom (hk : HkCursorV1) (pfBytes : Buff) (next : Cursor) :
    Exec PriceAttestations := do
  let count ← unwrap (hk.readU16 next) errP2whParsingAttestationCount
  let size ← unwrap (hk.readU16 count.next) errP2whParsingAttestationSize
  let attestationsBytes ← unwrapOpt
    (slice? pfBytes size.next.pos (size.next.pos + count.value * size.value))
    errP2whSlicingAttestationBytes
  let encoded ← cutAttestations hk attestationsBytes count.value size.value
  pure ⟨count.value, size.value, encoded.map decodePriceAttestation⟩

theorem parseAndVerifyPriceAttestations_eq (bytes : Buff) :
    parseAndVerifyPriceAttestations hk bytes =
      (parsePriceAttestationsHeader hk bytes >>= fun header =>
        attestationsFrom hk bytes header.next) := by
  simp only [parseAndVerifyPriceAttestations, attestationsFrom, cutAttestations, bind_assoc]

theorem attestationsFrom_countPos (h : hk.Lawful) (bytes : Buff) :
    attestationsFrom hk bytes ⟨bytes, countPos bytes⟩ =
      if bytes.length < countPos bytes + 2 then .error (.err errP2whParsingAttestationCount)
      else if bytes.length < countPos bytes + 4 then .error (.err errP2whParsingAttestationSize)
      else if ¬ AttestationsInside bytes then .error (.err errP2whSlicingAttestationBytes)
      else if Readable bytes then .ok (readBatch bytes)
      else .error .abort := by
  have hcount : buffToUintBe (fieldAt bytes (countPos bytes) 2) = attestationsCount bytes := rfl
  have hsize : buffToUintBe (fieldAt bytes (countPos bytes + 2) 2) = attestationSize bytes := rfl
  have hbehind : countPos bytes + 2 + 2 = countPos bytes + 4 := rfl
  have hinside : (countPos bytes + 4 < bytes.length ∧ countPos bytes + 4 +
      attestationsCount bytes * attestationSize bytes ≤ bytes.length) ↔
        AttestationsInside bytes := Iff.rfl
  simp only [attestationsFrom, unwrap_read h.readU16, ite_error_bind, unwrapOpt_slice, hbehind,
    hcount, hsize, hinside]
  split
  · rfl
  split
  · rfl
  split
  · rfl
  -- the slice has the declared length, which is what the cut asks for
  next hinside =>
    have hend := (Classical.not_not.mp hinside).2
    have hlength : (fieldAt bytes (countPos bytes + 4)
        (attestationsCount bytes * attestationSize bytes)).length =
          attestationsCount bytes * attestationSize bytes := by
      rw [fieldAt, List.length_take, List.length_drop]
      omega
    have hcut := cutAttestations_eq h hlength
    by_cases hread : Readable bytes
    · rw [hcut.trans (if_pos hread), if_pos hread]
      refine congrArg Except.ok (congrArg (PriceAttestations.mk _ _) ?_)
      rw [List.map_map]
      refine List.map_congr_left fun i hi => ?_
      have hle := Nat.mul_le_mul_right (attestationSize bytes) (List.mem_range.mp hi : i + 1 ≤ _)
      rw [Nat.succ_mul] at hle
      have hfits := hread.2.2
      exact congrArg decodePriceAttestation (encodedAt_fieldAt (by omega))
    · rw [hcut.trans (if_neg hread), if_neg hread]
      rfl

/-- **A batch is read as the plain reader reads it.** -/
theorem parseAndVerifyPriceAttestations_eq_plainRead (h : hk.Lawful) (bytes : Buff) :
    parseAndVerifyPriceAttestations hk bytes = plainRead bytes := by
  rw [parseAndVerifyPriceAttestations_eq, parsePriceAttestationsHeader_bind h,
    attestationsFrom_countPos h, plainRead]

/-- The buffer is as long as its header and its numbers declare, and does not end with them. -/
def Complete (bytes : Buff) : Prop := 11 ≤ bytes.length ∧ AttestationsInside bytes

/-- The responses of a batch that is cut short. -/
def truncationErrors : List Nat :=
  [errPfParsingMagicBytes, errPfParsingVersionMaj, errPfParsingVersionMin,
    errPfParsingTrailingHeaderSize, errPfParsingPayloadId, errP2whParsingAttestationCount,
    errP2whParsingAttestationSize, errP2whSlicingAttestationBytes]

/-- The trailing header is empty, so that even the payload id is missing. -/
abbrev HeaderEmpty (bytes : Buff) : Prop := uintAt bytes 8 2 = 0

theorem plainRead_cases (bytes : Buff) :
    ((bytes.length < 11 ∨ ¬ HeaderEmpty bytes ∧ ¬ Complete bytes) ∧
      ∃ code ∈ truncationErrors, plainRead bytes = .error (.err code)) ∨
    ((11 ≤ bytes.length ∧ (HeaderEmpty bytes ∨ Complete bytes ∧ ¬ Readable bytes)) ∧
      plainRead bytes = .error .abort) ∨
    ((¬ HeaderEmpty bytes ∧ Complete bytes ∧ Readable bytes) ∧
      plainRead bytes = .ok (readBatch bytes)) := by
  generalize hr : plainRead bytes = r
  -- the alternatives of the reader in their order; each belongs to one of the three classes
  rw [plainRead] at hr
  split at hr
  · next h₁ => exact .inl ⟨.inl (by omega), _, by decide, hr.symm⟩
  split at hr
  · next h₁ => exact .inl ⟨.inl (by omega), _, by decide, hr.symm⟩
  split at hr
  · next h₁ => exact .inl ⟨.inl (by omega), _, by decide, hr.symm⟩
  split at hr
  · next h₁ => exact .inl ⟨.inl (by omega), _, by decide, hr.symm⟩
  split at hr
  · next h₁ => exact .inl ⟨.inl (by omega), _, by decide, hr.symm⟩
  next hlength =>
  split at hr
  · next hempty => exact .inr (.inl ⟨⟨by omega, .inl hempty⟩, hr.symm⟩)
  next hheader =>
  -- the two numbers and the attestations: each cut makes the buffer incomplete
  split at hr
  · next hshort =>
    exact .inl ⟨.inr ⟨hheader, fun hcomplete => by have := hcomplete.2.1; omega⟩, _, by decide,
      hr.symm⟩
  split at hr
  · next hshort =>
    exact .inl ⟨.inr ⟨hheader, fun hcomplete => by have := hcomplete.2.1; omega⟩, _, by decide,
      hr.symm⟩
  split at hr
  · next houtside =>
    exact .inl ⟨.inr ⟨hheader, fun hcomplete => houtside hcomplete.2⟩, _, by decide, hr.symm⟩
  next hinside =>
  have hcomplete : Complete bytes := ⟨by omega, Classical.not_not.mp hinside⟩
  split at hr
  · next hreadable => exact .inr (.inr ⟨⟨hheader, hcomplete, hreadable⟩, hr.symm⟩)
  · next hreadable => exact .inr (.inl ⟨⟨by omega, .inr ⟨hcomplete, hreadable⟩⟩, hr.symm⟩)

/-- **The outcomes of a batch.** A complete buffer with 1 to 63 attestations of at least 149 bytes
is read, each attestation cut at its multiple of the size. A trailing header of size zero aborts,
and so does a complete buffer with no attestation, with too many or with too small ones. What is
left are the truncated buffers, which are reported; one that ends with its numbers is among them,
whatever they declare. -/
theorem batch_outcomes (h : hk.Lawful) (bytes : Buff) :
    (∀ batch, parseAndVerifyPriceAttestations hk bytes = .ok batch ↔
      (¬ HeaderEmpty bytes ∧ Complete bytes ∧ Readable bytes) ∧ batch = readBatch bytes) ∧
    (parseAndVerifyPriceAttestations hk bytes = .error .abort ↔
      11 ≤ bytes.length ∧ (HeaderEmpty bytes ∨ Complete bytes ∧ ¬ Readable bytes)) ∧
    ((∃ code ∈ truncationErrors,
        parseAndVerifyPriceAttestations hk bytes = .error (.err code)) ↔
      bytes.length < 11 ∨ ¬ HeaderEmpty bytes ∧ ¬ Complete bytes) := by
  have hlong : Complete bytes → 11 ≤ bytes.length := And.left
  rw [parseAndVerifyPriceAttestations_eq_plainRead h]
  rcases plainRead_cases bytes with
    ⟨hcond, code, hcode, hread⟩ | ⟨hcond, hread⟩ | ⟨hcond, hread⟩ <;> rw [hread]
  · refine ⟨fun batch => ⟨nofun, fun hok => ?_⟩, ⟨nofun, fun habort => ?_⟩,
      fun _ => hcond, fun _ => ⟨code, hcode, rfl⟩⟩
    · have := hlong hok.1.2.1
      rcases hcond with hshort | ⟨-, hincomplete⟩
      · omega
      · exact absurd hok.1.2.1 hincomplete
    · rcases hcond with hshort | ⟨hheader, hincomplete⟩
      · omega
      · exact (habort.2.elim hheader fun hlast => hincomplete hlast.1).elim
  · refine ⟨fun batch => ⟨nofun, fun hok => ?_⟩, ⟨fun _ => hcond, fun _ => rfl⟩, nofun,
      fun herr => ?_⟩
    · exact (hcond.2.elim hok.1.1 fun hlast => hlast.2 hok.1.2.2).elim
    · rcases herr with hshort | ⟨hheader, hincomplete⟩
      · omega
      · exact (hcond.2.elim hheader fun hlast => hincomplete hlast.1).elim
  · refine ⟨fun batch => ⟨fun hok => ⟨hcond, ?_⟩, fun hok => hok.2 ▸ rfl⟩,
      ⟨nofun, fun habort => ?_⟩, nofun, fun herr => ?_⟩
    · cases hok
      rfl
    · exact (habort.2.elim hcond.1 fun hlast => hlast.2 hcond.2.2).elim
    · rcases herr with hshort | ⟨-, hincomplete⟩
      · have := hlong hcond.2.1
        omega
      · exact absurd hcond.2.1 hincomplete

/-- A batch that declares no attestations, with one byte behind its numbers. -/
def emptyBatch : Buff := hex "50325748000300000001020000009500"

theorem batch_outcomes_emptyBatch :
    parseAndVerifyPriceAttestations .reference emptyBatch = .error .abort :=
  (batch_outcomes HkCursorV1.reference_lawful emptyBatch).2.1.mpr
    ⟨by decide, .inr ⟨⟨by decide, by decide, by decide⟩, by decide⟩⟩

/-- Without the byte there is no slice to take, and the batch is reported. -/
example : parseAndVerifyPriceAttestations .reference emptyBatch.dropLast =
    .error (.err errP2whSlicingAttestationBytes) := by
  decide +kernel

end PythBridge.P2whDecoder
