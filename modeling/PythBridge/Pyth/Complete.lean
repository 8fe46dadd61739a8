import PythBridge.Pyth.DecoderRecords

/-!
# Complete update sections

Both walks of the decoder run over the bytes that are there and stop where these end, whatever
was declared. An accepted buffer holds all it declares exactly when it reaches the end of the
last declared record (`complete_iff_declaredFit`).

The two walks are nested: one over the records of a buffer, and in each record one over the hashes
of its proof. Both have the same blind spot, so a buffer can be short of records, and its last
record can be short of hashes. Neither is refused by the walk; what is left to catch the second is
the proof check, which a shorter proof may well pass when the tree is small.

* **`foldlM_parseProof`** — the hashes of a proof, as many as declared when the bytes suffice.
* **`recordsInside_of_declaredFit`** — the records, likewise.
* **`cut_buffers_accepted`** — both blind spots, on buffers that are accepted.
-/

namespace PythBridge.PnauDecoder

open Clarity

variable {pf : Platform}

/-! ## The hashes of a proof

The inner walk: hashes of 20 bytes, one after another. -/

/-- The hash at a position. -/
def decodeHash (pf : Platform) (bytes : Buff) (pos : Nat) : Exec (Buff × Nat) := do
  let cursorHash := pf.hkCursor.new bytes (some pos)
  let hash ← unwrapPanic (pf.hkCursor.readBuff20 cursorHash.next)
  pure (hash.value, 20)

/-- The fold over a proof is a walk. -/
theorem parseProof_eq_walkStep (bytes : Buff) (limit : Nat) :
    parseProof pf bytes limit = walkStep (decodeHash pf bytes) 128 limit := by
  funext acc entry
  unfold parseProof walkStep
  split
  · rfl
  split
  · simp only [decodeHash, bind_assoc, pure_bind]
  · rfl

/-- A hash that was read has 20 bytes, which is also its stride. -/
theorem decodeHash_eq_ok (hk : pf.hkCursor.Lawful) {bytes hash : Buff} {pos stride : Nat}
    (h : decodeHash pf bytes pos = .ok (hash, stride)) : hash.length = 20 ∧ stride = 20 := by
  simp only [decodeHash, exec_bind_eq_ok, unwrapPanic_eq_ok, exec_pure_eq_ok,
    Prod.mk.injEq] at h
  obtain ⟨read, hread, rfl, rfl⟩ := h
  obtain ⟨-, -, hlength, -⟩ := hk.readBuff20.buff hread
  exact ⟨hlength, rfl⟩

theorem decodeHash_stride_pos (hk : pf.hkCursor.Lawful) {bytes : Buff} :
    ∀ pos hash stride, decodeHash pf bytes pos = .ok (hash, stride) → 0 < stride := by
  intro pos hash stride h
  rw [(decodeHash_eq_ok hk h).2]
  decide

/-- Hashes lie 20 bytes apart. -/
theorem hashes_finish (hk : pf.hkCursor.Lawful) {bytes : Buff} {pos finish : Nat}
    {hashes : List Buff} (h : RecordsFrom (decodeHash pf bytes) pos hashes finish) :
    finish = pos + 20 * hashes.length := by
  induction h with
  | nil => rfl
  | cons hdecode _ ih =>
    rw [ih, (decodeHash_eq_ok hk hdecode).2, List.length_cons]
    omega

/-- What the proof walk returns: 20-byte hashes, as many as asked for when the bytes suffice. -/
theorem foldlM_parseProof (hk : pf.hkCursor.Lawful) {bytes : Buff} {limit : Nat}
    {acc : WalkAcc Buff} (h : bytes.foldlM (parseProof pf bytes limit) .start = .ok acc) :
    (∀ hash ∈ acc.result, hash.length = 20) ∧
      (20 * limit ≤ bytes.length → acc.result.length = limit) := by
  rw [parseProof_eq_walkStep] at h
  obtain ⟨finish, hrecords, hle, hstop⟩ := foldlM_walkStep_ok (decodeHash_stride_pos hk) h
  constructor
  · intro hash hhash
    obtain ⟨pos, stride, hdecode⟩ := hrecords.exists_decode hash hhash
    exact (decodeHash_eq_ok hk hdecode).1
  · -- the walk stopped because it had all hashes, or at the end of the bytes, and so far there are
    -- enough
    intro hbytes
    have hfinish := hashes_finish hk hrecords
    omega

/-- The proof of a record has the declared size when the record lies inside the buffer. -/
theorem decodeRecord_proof (hk : pf.hkCursor.Lawful) {bytes : Buff} {pos stride : Nat}
    {update : DecodedPriceUpdate} (h : decodeRecord pf bytes pos = .ok (update, stride)) :
    (∀ hash ∈ update.proof, hash.length = 20) ∧
      (pos + recordLength bytes pos ≤ bytes.length →
        update.proof.length = proofSize bytes pos) := by
  simp only [decodeRecord, exec_bind_eq_ok, unwrapPanic_eq_ok, exec_pure_eq_ok, Prod.mk.injEq,
    hk.new, hk.advance, hk.slice_some, Option.getD_some] at h
  obtain ⟨size, hsize, _, -, _, -, _, -, _, -, _, -, _, -, _, -, _, -, _, -, proofLen, hproofLen,
    proof, hproof, _, -, _, -, rfl, -⟩ := h
  obtain ⟨-, rfl⟩ := (hk.readUint16 _ _).mp hsize
  obtain ⟨-, rfl⟩ := (hk.readUint8 _ _).mp hproofLen
  obtain ⟨hhashes, hcount⟩ := foldlM_parseProof hk hproof
  refine ⟨hhashes, fun hinside => hcount ?_⟩
  -- the slice behind the size is as long as the size says
  let behind : Cursor := ⟨bytes, pos + 2 + messageSize bytes pos + 1⟩
  have hholds : behind.Holds (20 * proofSize bytes pos) := by
    rw [recordLength] at hinside
    show pos + 2 + messageSize bytes pos + 1 + 20 * proofSize bytes pos ≤ bytes.length
    omega
  have hlength : (if behind.Holds (20 * proofSize bytes pos) then
      behind.take (20 * proofSize bytes pos) else []).length = 20 * proofSize bytes pos := by
    rw [if_pos hholds, Cursor.take_length hholds]
  exact Nat.le_of_eq hlength.symm

/-! ## Records inside the buffer

The outer walk. Its last record may reach past the end, and only then is its proof too short. -/

/-- The records of `updates` lie one after another from `pos` on, inside the buffer, each with
as many 20-byte hashes as it declares. -/
def RecordsInside (bytes : Buff) : (pos : Nat) → List DecodedPriceUpdate → Prop
  | _, [] => True
  | pos, update :: updates =>
    RecordAt bytes pos update ∧ pos + recordLength bytes pos ≤ bytes.length ∧
      update.proof.length = proofSize bytes pos ∧ (∀ hash ∈ update.proof, hash.length = 20) ∧
      RecordsInside bytes (pos + recordLength bytes pos) updates

/-- All that is declared is there. -/
structure Complete (bytes : Buff) (updates : List DecodedPriceUpdate) : Prop where
  count : updates.length = numUpdates bytes
  records : RecordsInside (bytes.drop 1) 0 updates

/-- `count` records from `pos` on, of the lengths they declare, end inside the buffer. -/
def DeclaredFit (bytes : Buff) : (count pos : Nat) → Prop
  | 0, _ => True
  | count + 1, pos => pos + recordLength bytes pos ≤ bytes.length ∧
      DeclaredFit bytes count (pos + recordLength bytes pos)

instance decidableDeclaredFit (bytes : Buff) :
    (count pos : Nat) → Decidable (DeclaredFit bytes count pos)
  | 0, _ => .isTrue trivial
  | count + 1, pos =>
    have := decidableDeclaredFit bytes count (pos + recordLength bytes pos)
    inferInstanceAs (Decidable (_ ∧ _))

/-- Records that are inside fit. -/
theorem RecordsInside.declaredFit {bytes : Buff} {pos : Nat} {updates : List DecodedPriceUpdate}
    (h : RecordsInside bytes pos updates) : DeclaredFit bytes updates.length pos := by
  -- the record in front fits, and the others lie behind it
  induction updates generalizing pos with
  | nil => trivial
  | cons update updates ih =>
    obtain ⟨-, hinside, -, -, hrest⟩ := h
    exact ⟨hinside, ih hrest⟩

/-- Records that were read are inside, as many as declared, when the declared ones fit.
Induction on the records; behind the last one no other record fits. -/
theorem recordsInside_of_declaredFit (hk : pf.hkCursor.Lawful) {bytes : Buff} {pos finish : Nat}
    {updates : List DecodedPriceUpdate}
    (h : RecordsFrom (decodeRecord pf bytes) pos updates finish) :
    ∀ count, updates.length ≤ count → (updates.length = count ∨ bytes.length ≤ finish) →
      DeclaredFit bytes count pos →
      updates.length = count ∧ RecordsInside bytes pos updates := by
  induction h with
  | nil pos =>
    intro count _ hstop hfit
    -- no record is left: either none was declared, or the walk stopped at the end of the bytes
    cases count with
    | zero => exact ⟨rfl, trivial⟩
    | succ count =>
      have hend : bytes.length ≤ pos := hstop.resolve_left (by simp)
      obtain ⟨hinside, -⟩ := hfit
      rw [recordLength] at hinside
      omega
  | cons hdecode _ ih =>
    intro count hle hstop hfit
    obtain ⟨hrecord, rfl⟩ := decodeRecord_eq_ok hk hdecode
    obtain ⟨hhashes, hproof⟩ := decodeRecord_proof hk hdecode
    rw [List.length_cons] at hle hstop
    obtain ⟨count, rfl⟩ : ∃ k, count = k + 1 := ⟨count - 1, by omega⟩
    obtain ⟨hinside, hfit⟩ := hfit
    obtain ⟨hlength, hrest⟩ := ih count (by omega) (by omega) hfit
    exact ⟨by rw [List.length_cons, hlength], hrecord, hinside, hproof hinside, hhashes, hrest⟩

/-- **When an accepted buffer is complete.** As many updates as declared were returned, their
records lie inside the buffer and have all their hashes, exactly when the declared records fit
the buffer. -/
theorem complete_iff_declaredFit (hk : pf.hkCursor.Lawful) {bytes root : Buff}
    {updates : List DecodedPriceUpdate}
    (h : parseAndVerifyPricesUpdates pf bytes root = .ok updates) :
    Complete bytes updates ↔ DeclaredFit (bytes.drop 1) (numUpdates bytes) 0 := by
  obtain ⟨⟨finish, hrecords, hle, hstop⟩, -⟩ := parseAndVerifyPricesUpdates_eq_ok hk h
  constructor
  · intro hcomplete
    rw [← hcomplete.count]
    exact hcomplete.records.declaredFit
  · -- what the walk has read is there, and the declared records end inside the buffer
    intro hfit
    obtain ⟨hcount, hinside⟩ := recordsInside_of_declaredFit hk hrecords _ hle hstop hfit
    exact ⟨hcount, hinside⟩

theorem complete_iff_declaredFit_oneRecord :
    ∃ updates, parseAndVerifyPricesUpdates .reference (oneRecord 85 7) (List.replicate 20 0) =
      .ok updates ∧ Complete (oneRecord 85 7) updates := by
  have hok : ∃ updates, parseAndVerifyPricesUpdates .reference (oneRecord 85 7)
      (List.replicate 20 0) = .ok updates := ⟨_, by rfl⟩
  obtain ⟨updates, h⟩ := hok
  refine ⟨updates, h, (complete_iff_declaredFit Platform.reference_lawful h).mpr ?_⟩
  decide +kernel

/-- A buffer that declares two updates and ends behind the first, and one that declares a hash
and ends in front of it, are accepted. -/
theorem cut_buffers_accepted :
    (∃ update, parseAndVerifyPricesUpdates .reference ([2] ++ (oneRecord 85 7).drop 1)
        (List.replicate 20 0) = .ok [update] ∧
      ¬ Complete ([2] ++ (oneRecord 85 7).drop 1) [update]) ∧
    (∃ update, parseAndVerifyPricesUpdates .reference ((oneRecord 85 7).dropLast ++ [1])
        (List.replicate 20 0) = .ok [update] ∧ update.proof = [] ∧
      ¬ Complete ((oneRecord 85 7).dropLast ++ [1]) [update]) := by
  refine ⟨⟨_, by rfl, fun h => ?_⟩, _, by rfl, by rfl, fun h => ?_⟩
  · exact absurd h.count (by decide)
  · obtain ⟨-, -, hproof, -⟩ := h.records
    exact absurd hproof (by decide)

end PythBridge.PnauDecoder
