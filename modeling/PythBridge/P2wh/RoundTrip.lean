import Mathlib.Algebra.Group.Int.Defs
import PythBridge.P2wh.Attestations

/-!
# Writing and reading a batch of attestations

The decoder undoes the serialization of a batch, for any trailing header, any bytes behind the
fields of an attestation and any bytes behind the batch, but not for negative numbers: a signed
field is read as if it were unsigned, so that a price of `-1` is read as `2 ^ 64 - 1` and an
exponent of `-8` as `2 ^ 32 - 8` (`BatchFits.read`). And whatever is read was written like this
(`batch_read_iff_written`).

The crux of the first direction is to find the fields. A serialization is a chain of appends, and
`fieldAt_of_drop` walks along it: if the rest of the buffer from a place on begins with a field,
then the field is read at that place, and the rest behind it begins with the next one. The decoder
does not walk, it computes places, so the place of each attestation is compared with the number of
bytes before it (`BatchFits.attestationAt`).

The crux of the other direction is that bytes which the decoder skips have to be written as well.
What it does not read, the obsolete fields, the bytes behind an attestation and those behind the
batch, is free in a submission, so every buffer that is read is the serialization of something.

* `BatchFits.read`: a written batch is read back.
* `exists_batchBytes_of_read`: what is read was written.
* `batch_read_iff_written`: both.
-/

namespace PythBridge.P2whDecoder

open Clarity

/-! ## Writing

The serializer is the model's own, since the repository has none for this format; it follows the
order and the widths of the decoder's reads. -/

/-- An attestation as it is submitted: its fields, the obsolete ones, and what follows them. -/
structure SubmittedAttestation where
  attestation : PriceAttestation
  obsolete1 : Buff
  obsolete2 : Buff
  obsolete3 : Buff
  extra : Buff

/-- The fields fit their places; the signed ones may be negative. -/
structure SubmittedAttestation.Fits (s : SubmittedAttestation) : Prop where
  priceFeedId : s.attestation.priceFeedId.length = 32
  conf : s.attestation.conf < 2 ^ 64
  emaConf : s.attestation.emaConf < 2 ^ 64
  status : s.attestation.status < 2 ^ 8
  attestationTime : s.attestation.attestationTime < 2 ^ 64
  publishTime : s.attestation.publishTime < 2 ^ 64
  prevPublishTime : s.attestation.prevPublishTime < 2 ^ 64
  prevConf : s.attestation.prevConf < 2 ^ 64
  obsolete1 : s.obsolete1.length = 32
  obsolete2 : s.obsolete2.length = 4
  obsolete3 : s.obsolete3.length = 4

/-- The serialization of an attestation, with the extra bytes behind its last field. -/
def attestationBytes (s : SubmittedAttestation) : Buff :=
  s.obsolete1 ++ s.attestation.priceFeedId ++ intToBuffBe 8 s.attestation.price ++
    uintToBuffBe 8 s.attestation.conf ++ intToBuffBe 4 s.attestation.expo ++
    intToBuffBe 8 s.attestation.emaPrice ++ uintToBuffBe 8 s.attestation.emaConf ++
    uintToBuffBe 1 s.attestation.status ++ s.obsolete2 ++ s.obsolete3 ++
    uintToBuffBe 8 s.attestation.attestationTime ++ uintToBuffBe 8 s.attestation.publishTime ++
    uintToBuffBe 8 s.attestation.prevPublishTime ++ intToBuffBe 8 s.attestation.prevPrice ++
    uintToBuffBe 8 s.attestation.prevConf ++ s.extra

/-- The header of a batch, with what stands behind the payload id. -/
structure SubmittedHeader where
  magic : Buff
  versionMaj : Nat
  versionMin : Nat
  payloadId : Nat
  trailing : Buff

/-- The batch: the header, the count and the size of the attestations, the attestations, and
whatever follows. -/
def batchBytes (header : SubmittedHeader) (size : Nat) (submitted : List SubmittedAttestation)
    (rest : Buff) : Buff :=
  header.magic ++ uintToBuffBe 2 header.versionMaj ++ uintToBuffBe 2 header.versionMin ++
    uintToBuffBe 2 (1 + header.trailing.length) ++ uintToBuffBe 1 header.payloadId ++
    header.trailing ++ uintToBuffBe 2 submitted.length ++ uintToBuffBe 2 size ++
    (submitted.map attestationBytes).flatten ++ rest

/-- How an attestation is read: the signed fields modulo the range of their places. -/
def unsignedReading (a : PriceAttestation) : PriceAttestation :=
  { a with
    price := a.price % 2 ^ 64
    expo := a.expo % 2 ^ 32
    emaPrice := a.emaPrice % 2 ^ 64
    prevPrice := a.prevPrice % 2 ^ 64 }

theorem SubmittedAttestation.Fits.attestationBytes_length {s : SubmittedAttestation}
    (h : s.Fits) : (attestationBytes s).length = 149 + s.extra.length := by
  simp only [attestationBytes, List.length_append, uintToBuffBe_length, intToBuffBe_length,
    h.priceFeedId, h.obsolete1, h.obsolete2, h.obsolete3]

/-! ## Reading

One field, and one attestation. -/

section Reading

variable {bytes field rest : Buff} {pos width : Nat}

/-- A written field is found at its place, and what follows it behind it. -/
theorem fieldAt_of_drop (h : bytes.drop pos = field ++ rest) (hwidth : field.length = width) :
    fieldAt bytes pos width = field ∧ bytes.drop (pos + width) = rest := by
  subst hwidth
  rw [fieldAt, ← List.drop_drop, h]
  exact ⟨List.take_left, List.drop_left⟩

theorem uintAt_of_drop {n : Nat} (h : bytes.drop pos = uintToBuffBe width n ++ rest)
    (hn : n < 256 ^ width) : uintAt bytes pos width = n ∧ bytes.drop (pos + width) = rest := by
  obtain ⟨hfield, hrest⟩ := fieldAt_of_drop h (uintToBuffBe_length width n)
  rw [uintAt, hfield, buffToUintBe_uintToBuffBe hn]
  exact ⟨rfl, hrest⟩

/-- A short signed field is read modulo its range. -/
theorem buffToIntBe_intToBuffBe {z : Int} (hwidth : width < 16) :
    buffToIntBe (intToBuffBe width z) = z % (256 ^ width : Nat) := by
  have hpow : (0 : Int) < (256 ^ width : Nat) := Int.natCast_pos.mpr (Nat.pow_pos (by decide))
  have hnonneg := Int.emod_nonneg z (Int.ne_of_gt hpow)
  have hlt := Int.emod_lt_of_pos z hpow
  rw [buffToIntBe_of_short (by rw [intToBuffBe_length]; exact hwidth), intToBuffBe,
    buffToUintBe_uintToBuffBe (by omega), Int.toNat_of_nonneg hnonneg]

/-- A written attestation is read where it was written. -/
theorem attestationAt_of_drop {s : SubmittedAttestation} (hs : s.Fits)
    (h : bytes.drop pos = attestationBytes s ++ rest) :
    attestationAt bytes pos = unsignedReading s.attestation := by
  simp only [attestationBytes, List.append_assoc] at h
  -- along the attestation, field by field; the obsolete ones are only walked over
  obtain ⟨-, r₁⟩ := fieldAt_of_drop h hs.obsolete1
  obtain ⟨h₁, r₂⟩ := fieldAt_of_drop r₁ hs.priceFeedId
  obtain ⟨h₂, r₃⟩ := fieldAt_of_drop r₂ (intToBuffBe_length 8 _)
  obtain ⟨h₃, r₄⟩ := fieldAt_of_drop r₃ (uintToBuffBe_length 8 _)
  obtain ⟨h₄, r₅⟩ := fieldAt_of_drop r₄ (intToBuffBe_length 4 _)
  obtain ⟨h₅, r₆⟩ := fieldAt_of_drop r₅ (intToBuffBe_length 8 _)
  obtain ⟨h₆, r₇⟩ := fieldAt_of_drop r₆ (uintToBuffBe_length 8 _)
  obtain ⟨h₇, r₈⟩ := fieldAt_of_drop r₇ (uintToBuffBe_length 1 _)
  obtain ⟨-, r₉⟩ := fieldAt_of_drop r₈ hs.obsolete2
  obtain ⟨-, r₁₀⟩ := fieldAt_of_drop r₉ hs.obsolete3
  obtain ⟨h₈, r₁₁⟩ := fieldAt_of_drop r₁₀ (uintToBuffBe_length 8 _)
  obtain ⟨h₉, r₁₂⟩ := fieldAt_of_drop r₁₁ (uintToBuffBe_length 8 _)
  obtain ⟨h₁₀, r₁₃⟩ := fieldAt_of_drop r₁₂ (uintToBuffBe_length 8 _)
  obtain ⟨h₁₁, r₁₄⟩ := fieldAt_of_drop r₁₃ (intToBuffBe_length 8 _)
  obtain ⟨h₁₂, -⟩ := fieldAt_of_drop r₁₄ (uintToBuffBe_length 8 _)
  have hencoded : encodedAt bytes pos = {
      priceFeedId := s.attestation.priceFeedId
      price := intToBuffBe 8 s.attestation.price
      conf := uintToBuffBe 8 s.attestation.conf
      expo := intToBuffBe 4 s.attestation.expo
      emaPrice := intToBuffBe 8 s.attestation.emaPrice
      emaConf := uintToBuffBe 8 s.attestation.emaConf
      status := uintToBuffBe 1 s.attestation.status
      attestationTime := uintToBuffBe 8 s.attestation.attestationTime
      publishTime := uintToBuffBe 8 s.attestation.publishTime
      prevPublishTime := uintToBuffBe 8 s.attestation.prevPublishTime
      prevPrice := intToBuffBe 8 s.attestation.prevPrice
      prevConf := uintToBuffBe 8 s.attestation.prevConf } := by
    rw [← h₁, ← h₂, ← h₃, ← h₄, ← h₅, ← h₆, ← h₇, ← h₈, ← h₉, ← h₁₀, ← h₁₁, ← h₁₂]
    rfl
  rw [attestationAt, hencoded]
  -- the unsigned fields come back, the signed ones modulo their range
  simp only [decodePriceAttestation, unsignedReading,
    buffToIntBe_intToBuffBe (show 8 < 16 by decide),
    buffToIntBe_intToBuffBe (show 4 < 16 by decide),
    buffToUintBe_uintToBuffBe (show _ < 256 ^ 8 from hs.conf),
    buffToUintBe_uintToBuffBe (show _ < 256 ^ 8 from hs.emaConf),
    buffToUintBe_uintToBuffBe (show _ < 256 ^ 1 from hs.status),
    buffToUintBe_uintToBuffBe (show _ < 256 ^ 8 from hs.attestationTime),
    buffToUintBe_uintToBuffBe (show _ < 256 ^ 8 from hs.publishTime),
    buffToUintBe_uintToBuffBe (show _ < 256 ^ 8 from hs.prevPublishTime),
    buffToUintBe_uintToBuffBe (show _ < 256 ^ 8 from hs.prevConf)]
  rfl

end Reading

/-! ## The batch

The places of the numbers depend on the trailing header, and those of the attestations on the
numbers. -/

structure SubmittedHeader.Fits (header : SubmittedHeader) : Prop where
  magic : header.magic.length = 4
  versionMaj : header.versionMaj < 2 ^ 16
  versionMin : header.versionMin < 2 ^ 16
  payloadId : header.payloadId < 2 ^ 8
  trailing : 1 + header.trailing.length < 2 ^ 16

/-- A batch the decoder has room for, with attestations of one size. -/
structure BatchFits (header : SubmittedHeader) (size : Nat)
    (submitted : List SubmittedAttestation) : Prop where
  header : header.Fits
  attestations : ∀ s ∈ submitted, s.Fits
  sizes : ∀ s ∈ submitted, 149 + s.extra.length = size
  sizeFits : size < 2 ^ 16
  nonempty : 1 ≤ submitted.length
  room : submitted.length ≤ 63

/-- What a batch is read as. -/
def readingOf (size : Nat) (submitted : List SubmittedAttestation) : PriceAttestations where
  attestationsCount := submitted.length
  attestationSize := size
  priceAttestations := submitted.map fun s => unsignedReading s.attestation

section Batch

variable {header : SubmittedHeader} {size : Nat} {submitted : List SubmittedAttestation}
  {rest : Buff}

/-- The numbers of a written batch, and the attestations behind them. -/
theorem BatchFits.numbers (h : BatchFits header size submitted) (rest : Buff) :
    uintAt (batchBytes header size submitted rest) 8 2 = 1 + header.trailing.length ∧
      attestationsCount (batchBytes header size submitted rest) = submitted.length ∧
      attestationSize (batchBytes header size submitted rest) = size ∧
      (batchBytes header size submitted rest).drop
          (countPos (batchBytes header size submitted rest) + 4) =
        (submitted.map attestationBytes).flatten ++ rest := by
  have hroom := h.room
  have r₀ : (batchBytes header size submitted rest).drop 0 = header.magic ++
      (uintToBuffBe 2 header.versionMaj ++ (uintToBuffBe 2 header.versionMin ++
        (uintToBuffBe 2 (1 + header.trailing.length) ++ (uintToBuffBe 1 header.payloadId ++
          (header.trailing ++ (uintToBuffBe 2 submitted.length ++ (uintToBuffBe 2 size ++
            ((submitted.map attestationBytes).flatten ++ rest)))))))) := by
    simp only [List.drop_zero, batchBytes, List.append_assoc]
  obtain ⟨-, r₁⟩ := fieldAt_of_drop r₀ h.header.magic
  obtain ⟨-, r₂⟩ := uintAt_of_drop r₁ h.header.versionMaj
  obtain ⟨-, r₃⟩ := uintAt_of_drop r₂ h.header.versionMin
  obtain ⟨hsize, r₄⟩ := uintAt_of_drop r₃ h.header.trailing
  obtain ⟨-, r₅⟩ := uintAt_of_drop r₄ h.header.payloadId
  obtain ⟨-, r₆⟩ := fieldAt_of_drop r₅ rfl
  -- the place behind the trailing header is the one that the declared size leads to
  have hcountPos : 0 + 4 + 2 + 2 + 2 + 1 + header.trailing.length =
      countPos (batchBytes header size submitted rest) := by
    rw [countPos, show uintAt (batchBytes header size submitted rest) 8 2 =
      1 + header.trailing.length from hsize]
    omega
  rw [hcountPos] at r₆
  obtain ⟨hcount, r₇⟩ := uintAt_of_drop r₆ (by omega)
  obtain ⟨hattestationSize, r₈⟩ := uintAt_of_drop r₇ h.sizeFits
  exact ⟨hsize, hcount, hattestationSize, r₈⟩

theorem BatchFits.width (h : BatchFits header size submitted) :
    ∀ piece ∈ submitted.map attestationBytes, piece.length = size := by
  intro piece hpiece
  obtain ⟨s, hs, rfl⟩ := List.mem_map.mp hpiece
  rw [(h.attestations s hs).attestationBytes_length, h.sizes s hs]

/-- The attestation that was written as number `i` is read as number `i`. -/
theorem BatchFits.attestationAt (h : BatchFits header size submitted) {i : Nat}
    (hi : i < submitted.length) :
    attestationAt (batchBytes header size submitted rest)
        (countPos (batchBytes header size submitted rest) + 4 + i * size) =
      unsignedReading submitted[i].attestation := by
  obtain ⟨-, -, -, hbehind⟩ := h.numbers rest
  have hle : i * size ≤ (submitted.map attestationBytes).flatten.length := by
    rw [flatten_length_of_width h.width, List.length_map]
    exact Nat.mul_le_mul_right size (Nat.le_of_lt hi)
  -- the attestations before this one have a size each
  have hdrop : (batchBytes header size submitted rest).drop
      (countPos (batchBytes header size submitted rest) + 4 + i * size) =
        attestationBytes submitted[i] ++
          (((submitted.map attestationBytes).drop (i + 1)).flatten ++ rest) := by
    rw [← List.drop_drop, hbehind, List.drop_append_of_le_length hle,
      drop_flatten_of_width h.width, List.drop_eq_getElem_cons (by simpa using hi),
      List.flatten_cons, List.getElem_map, List.append_assoc]
  exact attestationAt_of_drop (h.attestations _ (List.getElem_mem hi)) hdrop

/-- **A written batch is read back**, the negative numbers as unsigned ones. -/
theorem BatchFits.read {hk : HkCursorV1} (hlawful : hk.Lawful)
    (h : BatchFits header size submitted) (rest : Buff) :
    parseAndVerifyPriceAttestations hk (batchBytes header size submitted rest) =
      .ok (readingOf size submitted) := by
  obtain ⟨hsize, hcount, hattestationSize, hbehind⟩ := h.numbers rest
  have hfirst := h.sizes _ (List.getElem_mem (show 0 < submitted.length from h.nonempty))
  have hlength := congrArg List.length hbehind
  rw [List.length_drop, List.length_append, flatten_length_of_width h.width,
    List.length_map] at hlength
  have hpos := Nat.mul_pos h.nonempty (show 0 < size by omega)
  -- the slice ends in the batch, and it is not empty
  have hinside : AttestationsInside (batchBytes header size submitted rest) := by
    rw [AttestationsInside, hcount, hattestationSize]
    omega
  have hstart : 11 ≤ countPos (batchBytes header size submitted rest) := by
    rw [countPos, hsize]
    omega
  have hreadable : Readable (batchBytes header size submitted rest) := by
    rw [Readable, hcount, hattestationSize]
    exact ⟨h.nonempty, h.room, by omega⟩
  have hbatch : readBatch (batchBytes header size submitted rest) = readingOf size submitted := by
    rw [readBatch, readingOf, hcount, hattestationSize]
    refine congrArg (PriceAttestations.mk _ _) (List.ext_getElem (by simp) fun i hi _ => ?_)
    rw [List.getElem_map, List.getElem_map, List.getElem_range]
    exact h.attestationAt (by simpa using hi)
  -- no test of the plain reader is met
  rw [parseAndVerifyPriceAttestations_eq_plainRead hlawful, plainRead, hsize,
    if_neg (by omega), if_neg (by omega), if_neg (by omega), if_neg (by omega),
    if_neg (by omega), if_neg (by omega), if_neg (by omega), if_neg (by omega),
    if_neg (not_not_intro hinside), if_pos hreadable, hbatch]

end Batch

/-! ## What is read was written

Adjacent fields are put together again, up to the whole buffer. -/

section Exactness

variable {bytes : Buff} {pos width : Nat}

theorem fieldAt_length (h : pos + width ≤ bytes.length) :
    (fieldAt bytes pos width).length = width := by
  rw [fieldAt, List.length_take, List.length_drop]
  omega

theorem fieldAt_append (bytes : Buff) (pos m n : Nat) :
    fieldAt bytes pos m ++ fieldAt bytes (pos + m) n = fieldAt bytes pos (m + n) := by
  rw [fieldAt, fieldAt, fieldAt, ← List.drop_drop, List.take_add]

theorem fieldAt_zero_append (bytes : Buff) (m n : Nat) :
    fieldAt bytes 0 m ++ fieldAt bytes m n = fieldAt bytes 0 (m + n) := by
  have happend := fieldAt_append bytes 0 m n
  rwa [Nat.zero_add] at happend

theorem fieldAt_append_drop (bytes : Buff) (n : Nat) :
    fieldAt bytes 0 n ++ bytes.drop n = bytes := by
  rw [fieldAt, List.drop_zero, List.take_append_drop]

theorem uintToBuffBe_uintAt (h : pos + width ≤ bytes.length) :
    uintToBuffBe width (uintAt bytes pos width) = fieldAt bytes pos width := by
  have hbytes := uintToBuffBe_buffToUintBe (fieldAt bytes pos width)
  rwa [fieldAt_length h] at hbytes

theorem uintAt_lt (h : pos + width ≤ bytes.length) : uintAt bytes pos width < 256 ^ width := by
  have hlt := buffToUintBe_lt (fieldAt bytes pos width)
  rwa [fieldAt_length h] at hlt

/-- A signed field is read as a number below its range, and writing it gives its bytes back. -/
theorem buffToIntBe_fieldAt (h : pos + width ≤ bytes.length) (hwidth : width < 16) :
    buffToIntBe (fieldAt bytes pos width) % (256 ^ width : Nat) =
        buffToIntBe (fieldAt bytes pos width) ∧
      intToBuffBe width (buffToIntBe (fieldAt bytes pos width)) = fieldAt bytes pos width := by
  have hlt : (uintAt bytes pos width : Int) < (256 ^ width : Nat) :=
    Int.ofNat_lt.mpr (uintAt_lt h)
  have hread : buffToIntBe (fieldAt bytes pos width) = uintAt bytes pos width :=
    buffToIntBe_of_short (by rw [fieldAt_length h]; exact hwidth)
  have hmod : (uintAt bytes pos width : Int) % (256 ^ width : Nat) = uintAt bytes pos width :=
    Int.emod_eq_of_lt (Int.natCast_nonneg _) hlt
  rw [hread, hmod, intToBuffBe, hmod, Int.toNat_natCast, uintToBuffBe_uintAt h]
  exact ⟨rfl, rfl⟩

/-- The attestation at `pos` with everything that belongs to it. -/
def submittedAt (bytes : Buff) (pos size : Nat) : SubmittedAttestation where
  attestation := attestationAt bytes pos
  obsolete1 := fieldAt bytes pos 32
  obsolete2 := fieldAt bytes (pos + 101) 4
  obsolete3 := fieldAt bytes (pos + 105) 4
  extra := fieldAt bytes (pos + 149) (size - 149)

variable {size : Nat} (hsize : 149 ≤ size) (hinside : pos + size ≤ bytes.length)

include hsize hinside

/-- What was cut from inside the buffer fits the places it was cut from. -/
theorem submittedAt_fits : (submittedAt bytes pos size).Fits where
  priceFeedId := fieldAt_length (by omega)
  conf := show uintAt bytes (pos + 72) 8 < 256 ^ 8 from uintAt_lt (by omega)
  emaConf := show uintAt bytes (pos + 92) 8 < 256 ^ 8 from uintAt_lt (by omega)
  status := show uintAt bytes (pos + 100) 1 < 256 ^ 1 from uintAt_lt (by omega)
  attestationTime := show uintAt bytes (pos + 109) 8 < 256 ^ 8 from uintAt_lt (by omega)
  publishTime := show uintAt bytes (pos + 117) 8 < 256 ^ 8 from uintAt_lt (by omega)
  prevPublishTime := show uintAt bytes (pos + 125) 8 < 256 ^ 8 from uintAt_lt (by omega)
  prevConf := show uintAt bytes (pos + 141) 8 < 256 ^ 8 from uintAt_lt (by omega)
  obsolete1 := fieldAt_length (by omega)
  obsolete2 := fieldAt_length (by omega)
  obsolete3 := fieldAt_length (by omega)

/-- Nothing read is negative. -/
theorem unsignedReading_attestationAt :
    unsignedReading (attestationAt bytes pos) = attestationAt bytes pos := by
  have hmod : ∀ offset width, offset + width ≤ 149 → width < 16 →
      buffToIntBe (fieldAt bytes (pos + offset) width) % (256 ^ width : Nat) =
        buffToIntBe (fieldAt bytes (pos + offset) width) :=
    fun offset width hplace hwidth => (buffToIntBe_fieldAt (by omega) hwidth).1
  have hreading : unsignedReading (attestationAt bytes pos) = { attestationAt bytes pos with
      price := buffToIntBe (fieldAt bytes (pos + 64) 8) % (256 ^ 8 : Nat)
      expo := buffToIntBe (fieldAt bytes (pos + 80) 4) % (256 ^ 4 : Nat)
      emaPrice := buffToIntBe (fieldAt bytes (pos + 84) 8) % (256 ^ 8 : Nat)
      prevPrice := buffToIntBe (fieldAt bytes (pos + 133) 8) % (256 ^ 8 : Nat) } := rfl
  rw [hreading, hmod 64 8 (by decide) (by decide), hmod 80 4 (by decide) (by decide),
    hmod 84 8 (by decide) (by decide), hmod 133 8 (by decide) (by decide)]
  rfl

/-- Writing the attestation at `pos` gives the bytes it was cut from. -/
theorem attestationBytes_submittedAt :
    attestationBytes (submittedAt bytes pos size) = fieldAt bytes pos size := by
  have hint : ∀ offset width, offset + width ≤ 149 → width < 16 →
      intToBuffBe width (buffToIntBe (fieldAt bytes (pos + offset) width)) =
        fieldAt bytes (pos + offset) width :=
    fun offset width hplace hwidth => (buffToIntBe_fieldAt (by omega) hwidth).2
  have huint : ∀ offset width, offset + width ≤ 149 →
      uintToBuffBe width (buffToUintBe (fieldAt bytes (pos + offset) width)) =
        fieldAt bytes (pos + offset) width :=
    fun offset width hplace => uintToBuffBe_uintAt (by omega)
  have hwhole : 149 + (size - 149) = size := by omega
  simp (disch := decide) only [attestationBytes, submittedAt, attestationAt,
    decodePriceAttestation, encodedAt, hint, huint]
  simp only [fieldAt_append, Nat.reduceAdd, hwhole]

end Exactness

/-- Pieces of one size, cut one after another. -/
theorem flatten_fieldAt (bytes : Buff) (start size count : Nat) :
    ((List.range count).map fun i => fieldAt bytes (start + i * size) size).flatten =
      fieldAt bytes start (count * size) := by
  induction count with
  | zero => simp [fieldAt]
  | succ count ih =>
    rw [List.range_succ, List.map_append, List.flatten_append, ih, List.map_singleton,
      List.flatten_singleton, fieldAt_append, Nat.succ_mul]

/-- **What is read was written.** -/
theorem exists_batchBytes_of_read {hk : HkCursorV1} (hlawful : hk.Lawful) {bytes : Buff}
    {batch : PriceAttestations} (h : parseAndVerifyPriceAttestations hk bytes = .ok batch) :
    ∃ header size submitted rest, BatchFits header size submitted ∧
      bytes = batchBytes header size submitted rest ∧ batch = readingOf size submitted := by
  rw [parseAndVerifyPriceAttestations_eq_plainRead hlawful, plainRead] at h
  -- of the alternatives of the plain reader only the last but one returns
  split_ifs at h with h₁ h₂ h₃ h₄ h₅ hheader hcountEnd hsizeEnd hinside hreadable
  cases h
  obtain ⟨hnonempty, hroom, hsize⟩ := hreadable
  obtain ⟨-, hend⟩ := hinside
  have hcountPos : countPos bytes = 10 + uintAt bytes 8 2 := rfl
  have hpiece : ∀ i < attestationsCount bytes,
      countPos bytes + 4 + i * attestationSize bytes + attestationSize bytes ≤ bytes.length := by
    intro i hi
    have hle := Nat.mul_le_mul_right (attestationSize bytes) (show i + 1 ≤ _ from hi)
    rw [Nat.succ_mul] at hle
    omega
  have hheaderSize : uintAt bytes 8 2 < 256 ^ 2 := uintAt_lt (by omega)
  refine ⟨⟨fieldAt bytes 0 4, uintAt bytes 4 2, uintAt bytes 6 2, uintAt bytes 10 1,
      fieldAt bytes 11 (uintAt bytes 8 2 - 1)⟩, attestationSize bytes,
    (List.range (attestationsCount bytes)).map fun i => submittedAt bytes
      (countPos bytes + 4 + i * attestationSize bytes) (attestationSize bytes),
    bytes.drop (countPos bytes + 4 + attestationsCount bytes * attestationSize bytes), ?_, ?_, ?_⟩
  · -- what was cut fits
    refine ⟨⟨fieldAt_length (by omega), uintAt_lt (by omega), uintAt_lt (by omega),
      uintAt_lt (by omega), ?_⟩, ?_, ?_, uintAt_lt (by omega), ?_, ?_⟩
    · rw [fieldAt_length (by omega)]
      omega
    · intro s hs
      obtain ⟨i, hi, rfl⟩ := List.mem_map.mp hs
      exact submittedAt_fits hsize (hpiece i (List.mem_range.mp hi))
    · intro s hs
      obtain ⟨i, hi, rfl⟩ := List.mem_map.mp hs
      have hplace := hpiece i (List.mem_range.mp hi)
      rw [submittedAt, fieldAt_length (by omega)]
      omega
    · rwa [List.length_map, List.length_range]
    · rwa [List.length_map, List.length_range]
  · -- the pieces are the buffer
    have htrailing : 1 + (fieldAt bytes 11 (uintAt bytes 8 2 - 1)).length = uintAt bytes 8 2 := by
      rw [fieldAt_length (by omega)]
      omega
    have hbehind : 11 + (uintAt bytes 8 2 - 1) = countPos bytes := by omega
    have hpieces : ((List.range (attestationsCount bytes)).map fun i =>
        attestationBytes (submittedAt bytes
          (countPos bytes + 4 + i * attestationSize bytes) (attestationSize bytes))) =
          (List.range (attestationsCount bytes)).map fun i => fieldAt bytes
            (countPos bytes + 4 + i * attestationSize bytes) (attestationSize bytes) :=
      List.map_congr_left fun i hi =>
        attestationBytes_submittedAt hsize (hpiece i (List.mem_range.mp hi))
    have hcount : uintToBuffBe 2 (attestationsCount bytes) = fieldAt bytes (countPos bytes) 2 :=
      uintToBuffBe_uintAt (by omega)
    have hattestationSize : uintToBuffBe 2 (attestationSize bytes) =
        fieldAt bytes (countPos bytes + 2) 2 := uintToBuffBe_uintAt (by omega)
    simp only [batchBytes, List.length_map, List.length_range, List.map_map, Function.comp_def,
      hpieces, flatten_fieldAt, htrailing, hcount, hattestationSize]
    rw [uintToBuffBe_uintAt (by omega), uintToBuffBe_uintAt (by omega),
      uintToBuffBe_uintAt (by omega), uintToBuffBe_uintAt (by omega)]
    simp only [fieldAt_zero_append, Nat.reduceAdd, hbehind, Nat.add_assoc, fieldAt_append_drop]
  · -- and they read as the batch
    rw [readBatch, readingOf, List.map_map, List.length_map, List.length_range]
    refine congrArg (PriceAttestations.mk _ _) (List.map_congr_left fun i hi => ?_)
    exact (unsignedReading_attestationAt hsize (hpiece i (List.mem_range.mp hi))).symm

/-- **The batches that are read are the written ones.** A buffer is read exactly when it is the
serialization of a header, of 1 to 63 attestations of one size and of whatever follows, and it is
read as these attestations, with every negative number taken modulo the range of its field. -/
theorem batch_read_iff_written {hk : HkCursorV1} (hlawful : hk.Lawful) (bytes : Buff)
    (batch : PriceAttestations) :
    parseAndVerifyPriceAttestations hk bytes = .ok batch ↔
      ∃ header size submitted rest, BatchFits header size submitted ∧
        bytes = batchBytes header size submitted rest ∧ batch = readingOf size submitted := by
  constructor
  · exact exists_batchBytes_of_read hlawful
  · rintro ⟨header, size, submitted, rest, hfits, rfl, rfl⟩
    exact hfits.read hlawful rest

/-- An attestation of a price of 5 with the exponent `-8`, and one byte behind it. -/
def sampleAttestation : SubmittedAttestation where
  attestation := {
    priceFeedId := stxUsd
    price := 5
    conf := 1
    expo := -8
    emaPrice := -1
    emaConf := 1
    status := 1
    attestationTime := 20
    publishTime := 20
    prevPublishTime := 19
    prevPrice := 5
    prevConf := 1 }
  obsolete1 := List.replicate 32 0
  obsolete2 := List.replicate 4 0
  obsolete3 := List.replicate 4 0
  extra := [7]

def sampleHeader : SubmittedHeader := ⟨[0x50, 0x32, 0x57, 0x48], 3, 0, 2, []⟩

theorem sampleBatch_fits : BatchFits sampleHeader 150 [sampleAttestation] := by
  refine ⟨⟨?_, ?_, ?_, ?_, ?_⟩, List.forall_mem_singleton.mpr
    ⟨?_, ?_, ?_, ?_, ?_, ?_, ?_, ?_, ?_, ?_, ?_⟩, List.forall_mem_singleton.mpr ?_, ?_, ?_, ?_⟩ <;>
    decide

theorem batch_read_iff_written_sample :
    parseAndVerifyPriceAttestations .reference
        (batchBytes sampleHeader 150 [sampleAttestation] [9]) =
      .ok ⟨1, 150, [{ sampleAttestation.attestation with
        expo := 4294967288, emaPrice := 18446744073709551615 }]⟩ :=
  (batch_read_iff_written HkCursorV1.reference_lawful _ _).mpr
    ⟨sampleHeader, 150, [sampleAttestation], [9], sampleBatch_fits, rfl, by decide⟩

end PythBridge.P2whDecoder
