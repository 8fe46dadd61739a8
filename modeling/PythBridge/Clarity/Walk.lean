import PythBridge.Clarity.Exec
import PythBridge.Clarity.Buff

/-!
# Clarity — walking a buffer by a fold

Clarity has no loop over positions, so a variable-length list is read by a fold over every
byte of the buffer: the accumulator counts the bytes (`index`) and acts only where the
count meets the start of the next record (`nextUpdateIndex`), which each record moves on by
its own stride. `foldlM_walkStep` says that this fold is the plain reader `readRecords`,
which jumps from record to record.

The crux of `foldlM_walkStep` is the pair of positions in the accumulator: between two records the
fold only counts, so `k` bytes with nothing to do are `k` steps of the fold and none of the plain
reader. The lemma therefore speaks of *any* accumulator whose next record is not behind it, and of
any fuel that reaches the end.

* **`foldlM_walkStep`** — the fold is the plain reader.
* **`readRecords_ok`, `foldlM_walkStep_ok`** — what was read lies in the buffer, record after
  record.
* **`foldlM_walkStep_of_records`** — records that lie in the buffer are read.
* **`DecodesBy.foldlM_walkStep_eq`** — for a decoder that returns or aborts: what a walk returns, as
  one condition on the positions at which records start.

A stride of zero would stop the reader and not the fold, so strides are positive throughout.
-/

namespace PythBridge.Clarity

variable {α : Type}

/-- The accumulator of a walk, under the names of the source. -/
structure WalkAcc (α : Type) where
  index : Nat
  nextUpdateIndex : Nat
  result : List α
deriving DecidableEq, Repr

/-- A walk starts at the first byte, which is where the first record is. -/
def WalkAcc.start : WalkAcc α := ⟨0, 0, []⟩

/-- One step of a walk. `decode p` reads the record at `p` and returns it with its stride;
`capacity` is the bound of the result's list type and `limit` the number of records asked
for. -/
def walkStep (decode : Nat → Exec (α × Nat)) (capacity limit : Nat) (acc : WalkAcc α)
    (_entry : UInt8) : Exec (WalkAcc α) :=
  if acc.result.length = limit then pure acc
  else if acc.index = acc.nextUpdateIndex then do
    let record ← decode acc.index
    let result ← unwrapPanicOpt (asMaxLen? (acc.result ++ [record.1]) capacity)
    pure ⟨acc.index + 1, acc.index + record.2, result⟩
  else pure ⟨acc.index + 1, acc.nextUpdateIndex, acc.result⟩

/-- The plain reader: records one after another from `pos`, until `limit` are read or the
position is at or past `size`. -/
def readRecords (decode : Nat → Exec (α × Nat)) (capacity limit size : Nat) :
    (fuel : Nat) → (pos : Nat) → (result : List α) → Exec (List α)
  | 0, _, result => pure result
  | fuel + 1, pos, result =>
    if result.length = limit ∨ size ≤ pos then pure result
    else do
      let record ← decode pos
      let result ← unwrapPanicOpt (asMaxLen? (result ++ [record.1]) capacity)
      readRecords decode capacity limit size fuel (pos + record.2) result

/-- The records `xs` lie one after another from `start` to `finish`. -/
inductive RecordsFrom (decode : Nat → Exec (α × Nat)) : Nat → List α → Nat → Prop where
  | nil (pos : Nat) : RecordsFrom decode pos [] pos
  | cons {pos finish stride : Nat} {x : α} {xs : List α}
      (hdecode : decode pos = .ok (x, stride))
      (rest : RecordsFrom decode (pos + stride) xs finish) :
      RecordsFrom decode pos (x :: xs) finish

/-- A walk that has all its records stays where it is. -/
theorem foldlM_walkStep_of_full {decode : Nat → Exec (α × Nat)} {capacity limit : Nat}
    {acc : WalkAcc α} (h : acc.result.length = limit) (bytes : Buff) :
    bytes.foldlM (walkStep decode capacity limit) acc = .ok acc := by
  induction bytes with
  | nil => rfl
  | cons b bytes ih =>
    rw [List.foldlM_cons]
    simp only [walkStep, if_pos h]
    exact ih

/-- **The walk is the plain reader.** From any accumulator whose next record is not behind
the index, the fold over the remaining bytes ends with the records the plain reader reads
from the next record on. Induction on the remaining bytes; the index grows by one a step and
never passes the next record, because strides are positive. -/
theorem foldlM_walkStep {decode : Nat → Exec (α × Nat)} {capacity limit : Nat}
    (hstride : ∀ pos x stride, decode pos = .ok (x, stride) → 0 < stride) (bytes : Buff) :
    ∀ (acc : WalkAcc α) (fuel : Nat), acc.index ≤ acc.nextUpdateIndex →
      bytes.length ≤ fuel + (acc.nextUpdateIndex - acc.index) →
      (bytes.foldlM (walkStep decode capacity limit) acc).map WalkAcc.result =
        readRecords decode capacity limit (acc.index + bytes.length) fuel
          acc.nextUpdateIndex acc.result := by
  induction bytes with
  | nil =>
    intro acc fuel hle _
    cases fuel with
    | zero => rfl
    | succ fuel =>
      -- at the end of the bytes the reader stops too: it has all its records, or is past the end
      have hstop : acc.result.length = limit ∨
          acc.index + ([] : Buff).length ≤ acc.nextUpdateIndex := .inr (by simpa using hle)
      rw [readRecords, if_pos hstop]
      rfl
  | cons b bytes ih =>
    intro acc fuel hle hfuel
    rw [List.length_cons] at hfuel
    -- nothing is left to read, a record starts here, or the fold only counts this byte
    by_cases hfull : acc.result.length = limit
    · rw [foldlM_walkStep_of_full hfull]
      cases fuel with
      | zero => rfl
      | succ fuel =>
        rw [readRecords, if_pos (.inl hfull)]
        rfl
    · rw [List.foldlM_cons]
      by_cases hat : acc.index = acc.nextUpdateIndex
      · -- a record starts here: one step of the reader
        obtain ⟨fuel, rfl⟩ : ∃ k, fuel = k + 1 := ⟨fuel - 1, by omega⟩
        have hgo : ¬ (acc.result.length = limit ∨
            acc.index + (b :: bytes).length ≤ acc.nextUpdateIndex) := by
          rintro (h | h)
          · exact hfull h
          · rw [List.length_cons] at h
            omega
        rw [readRecords, if_neg hgo, walkStep, if_neg hfull, if_pos hat, ← hat]
        cases hdecode : decode acc.index with
        | error e => rfl
        | ok record =>
          have hpos := hstride acc.index record.1 record.2 hdecode
          cases hcap : asMaxLen? (acc.result ++ [record.1]) capacity with
          | none =>
            simp only [bind, Except.bind, unwrapPanicOpt, hcap, Except.map]
          | some result =>
            have hrest := ih ⟨acc.index + 1, acc.index + record.2, result⟩ fuel
              (by simp only; omega) (by simp only; omega)
            rw [show acc.index + (b :: bytes).length = acc.index + 1 + bytes.length from by
              rw [List.length_cons]; omega]
            simpa only [bind, Except.bind, unwrapPanicOpt, hcap, pure, Except.pure] using hrest
      · -- inside a record: only the index moves
        have hrest := ih ⟨acc.index + 1, acc.nextUpdateIndex, acc.result⟩ fuel
          (by simp only; omega) (by simp only; omega)
        rw [walkStep, if_neg hfull, if_neg hat]
        rw [show acc.index + (b :: bytes).length = acc.index + 1 + bytes.length from by
          rw [List.length_cons]; omega]
        simpa only [bind, Except.bind, pure, Except.pure] using hrest

/-- What a reader that returns has read: records one after another, at most `limit` of them,
and it stopped because it had `limit` of them or was past the end. -/
theorem readRecords_ok {decode : Nat → Exec (α × Nat)} {capacity limit size : Nat}
    (hstride : ∀ pos x stride, decode pos = .ok (x, stride) → 0 < stride) :
    ∀ (fuel pos : Nat) (result final : List α), size ≤ fuel + pos → result.length ≤ limit →
      readRecords decode capacity limit size fuel pos result = .ok final →
      ∃ xs finish, final = result ++ xs ∧ RecordsFrom decode pos xs finish ∧
        final.length ≤ limit ∧ (final.length = limit ∨ size ≤ finish) := by
  intro fuel
  induction fuel with
  | zero =>
    intro pos result final hfuel hlimit h
    cases h
    exact ⟨[], pos, by simp, .nil pos, hlimit, .inr (by omega)⟩
  | succ fuel ih =>
    intro pos result final hfuel hlimit h
    rw [readRecords] at h
    -- the reader stopped, or it read one more record and went on behind it
    split at h
    · next hstop =>
      cases h
      exact ⟨[], pos, by simp, .nil pos, hlimit, hstop⟩
    · next hgo =>
      simp only [exec_bind_eq_ok, unwrapPanicOpt_eq_ok, asMaxLen?_eq_some] at h
      obtain ⟨⟨x, stride⟩, hdecode, _, ⟨_, rfl⟩, h⟩ := h
      have hpos := hstride pos x stride hdecode
      have hroom : (result ++ [x]).length ≤ limit := by
        rw [List.length_append, List.length_singleton]
        have : result.length ≠ limit := fun h => hgo (.inl h)
        omega
      obtain ⟨xs, finish, hfinal, hrest, hle, hstop⟩ := ih _ _ _ (by simp only; omega) hroom h
      exact ⟨x :: xs, finish, by simp [hfinal], .cons hdecode hrest, hle, hstop⟩

/-- **What a walk over a whole buffer has read.** -/
theorem foldlM_walkStep_ok {decode : Nat → Exec (α × Nat)} {capacity limit : Nat}
    (hstride : ∀ pos x stride, decode pos = .ok (x, stride) → 0 < stride) {bytes : Buff}
    {acc : WalkAcc α}
    (h : bytes.foldlM (walkStep decode capacity limit) .start = .ok acc) :
    ∃ finish, RecordsFrom decode 0 acc.result finish ∧ acc.result.length ≤ limit ∧
      (acc.result.length = limit ∨ bytes.length ≤ finish) := by
  have hwalk : (bytes.foldlM (walkStep decode capacity limit) .start).map WalkAcc.result =
      readRecords decode capacity limit (0 + bytes.length) bytes.length 0 [] :=
    foldlM_walkStep hstride bytes .start bytes.length (Nat.le_refl _) (Nat.le_add_right _ _)
  rw [h] at hwalk
  obtain ⟨xs, finish, hfinal, hrecords, hle, hstop⟩ := readRecords_ok hstride bytes.length 0 []
    acc.result (by omega) (Nat.zero_le _) hwalk.symm
  rw [List.nil_append] at hfinal
  rw [← hfinal] at hrecords
  exact ⟨finish, hrecords, hle, by simpa using hstop⟩

/-- Every record was read somewhere. -/
theorem RecordsFrom.exists_decode {decode : Nat → Exec (α × Nat)} {pos finish : Nat}
    {xs : List α} (h : RecordsFrom decode pos xs finish) :
    ∀ x ∈ xs, ∃ p stride, decode p = .ok (x, stride) := by
  -- the record in front was decoded at the start, the others further on
  induction h with
  | nil => simp
  | cons hdecode _ ih =>
    intro x hx
    rcases List.mem_cons.mp hx with rfl | hx
    · exact ⟨_, _, hdecode⟩
    · exact ih x hx

/-! ## Walks over written records

From the writer's side: what was written one value after another is read back, if as many records
are asked for. `RecordsFrom.of_written` needs no more than that a single record is read back in
front of whatever follows it. -/

/-- Every record moves on by at least one byte. -/
theorem RecordsFrom.add_length_le {decode : Nat → Exec (α × Nat)}
    (hstride : ∀ pos x stride, decode pos = .ok (x, stride) → 0 < stride) {pos finish : Nat}
    {xs : List α} (h : RecordsFrom decode pos xs finish) : pos + xs.length ≤ finish := by
  induction h with
  | nil => exact Nat.le_refl _
  | cons hdecode _ ih =>
    have hpos := hstride _ _ _ hdecode
    rw [List.length_cons]
    omega

/-- The plain reader reads records that are there, up to the limit. Induction on the records. -/
theorem readRecords_of_records {decode : Nat → Exec (α × Nat)} {capacity limit size : Nat}
    (hstride : ∀ pos x stride, decode pos = .ok (x, stride) → 0 < stride) {pos finish : Nat}
    {xs : List α} (h : RecordsFrom decode pos xs finish) (hfinish : finish ≤ size) :
    ∀ (fuel : Nat) (result : List α), xs.length ≤ fuel → result.length + xs.length = limit →
      limit ≤ capacity →
      readRecords decode capacity limit size fuel pos result = .ok (result ++ xs) := by
  induction h with
  | nil pos =>
    intro fuel result _ hlimit _
    rw [List.append_nil]
    cases fuel with
    | zero => rfl
    | succ fuel =>
      rw [readRecords, if_pos (.inl (by simpa using hlimit))]
      rfl
  | @cons pos finish stride x xs hdecode rest ih =>
    intro fuel result hfuel hlimit hcapacity
    rw [List.length_cons] at hfuel hlimit
    obtain ⟨fuel, rfl⟩ : ∃ k, fuel = k + 1 := ⟨fuel - 1, by omega⟩
    have hpos := hstride pos x stride hdecode
    have hinside := rest.add_length_le hstride
    have hlength : (result ++ [x]).length = result.length + 1 := by
      rw [List.length_append, List.length_singleton]
    have hcap : asMaxLen? (result ++ [x]) capacity = some (result ++ [x]) :=
      asMaxLen?_eq_some.mpr ⟨by omega, rfl⟩
    have hrest := ih hfinish fuel (result ++ [x]) (by omega) (by omega) hcapacity
    rw [readRecords, if_neg (by omega), hdecode]
    -- the record fits, so the reader goes on behind it
    show (unwrapPanicOpt (asMaxLen? (result ++ [x]) capacity) >>= _) = _
    rw [hcap]
    rw [List.append_assoc, List.singleton_append] at hrest
    exact hrest

/-- **A walk reads the records of its buffer**, when it is asked for as many as there are. -/
theorem foldlM_walkStep_of_records {decode : Nat → Exec (α × Nat)} {capacity : Nat}
    (hstride : ∀ pos x stride, decode pos = .ok (x, stride) → 0 < stride) {bytes : Buff}
    {finish : Nat} {xs : List α} (h : RecordsFrom decode 0 xs finish)
    (hfinish : finish ≤ bytes.length) (hcapacity : xs.length ≤ capacity) :
    ∃ acc, bytes.foldlM (walkStep decode capacity xs.length) .start = .ok acc ∧
      acc.result = xs := by
  have hlength := h.add_length_le hstride
  have hwalk : (bytes.foldlM (walkStep decode capacity xs.length) .start).map WalkAcc.result =
      readRecords decode capacity xs.length (0 + bytes.length) bytes.length 0 [] :=
    foldlM_walkStep hstride bytes .start bytes.length (Nat.le_refl _) (Nat.le_add_right _ _)
  rw [readRecords_of_records hstride h (by omega) _ _ (by omega) (by simp) hcapacity] at hwalk
  -- the plain reader returns, so the fold has not exited
  cases hfold : bytes.foldlM (walkStep decode capacity xs.length) .start with
  | error e =>
    rw [hfold] at hwalk
    cases hwalk
  | ok acc =>
    rw [hfold] at hwalk
    exact ⟨acc, rfl, Except.ok.inj hwalk⟩

/-- Values written one after another are records one after another, when each is read back from
where it stands. -/
theorem RecordsFrom.of_written {β : Type} {decode : Nat → Exec (α × Nat)} {bytes : Buff}
    {write : β → Buff} {value : β → α} {ys : List β}
    (hread : ∀ y ∈ ys, ∀ pos rest, bytes.drop pos = write y ++ rest →
      decode pos = .ok (value y, (write y).length)) :
    ∀ pos rest, bytes.drop pos = ys.flatMap write ++ rest →
      RecordsFrom decode pos (ys.map value) (pos + (ys.flatMap write).length) := by
  induction ys with
  | nil =>
    intro pos _ _
    exact .nil pos
  | cons y ys ih =>
    intro pos rest hbytes
    rw [List.flatMap_cons, List.append_assoc] at hbytes
    have hdrop : bytes.drop (pos + (write y).length) = ys.flatMap write ++ rest := by
      rw [← List.drop_drop, hbytes, List.drop_left]
    have htail := ih (fun z hz => hread z (.tail _ hz)) _ rest hdrop
    rw [List.flatMap_cons, List.length_append, ← Nat.add_assoc]
    exact .cons (hread y (.head _) pos _ hbytes) htail

/-! ## Walks whose decoder returns or aborts

When the bytes alone tell at which positions a record is read and how far it moves on, so do
they tell what a walk returns: it visits the starts one after another and returns the records
there, unless one of them is not read or they are more than the result holds. -/

section Total

variable {decode : Nat → Exec (α × Nat)} {readable : Nat → Prop} {record : Nat → α}
  {stride : Nat → Nat}

/-- `decode` returns `record pos` with its stride at a readable position and aborts at any
other. -/
structure DecodesBy (decode : Nat → Exec (α × Nat)) (readable : Nat → Prop) (record : Nat → α)
    (stride : Nat → Nat) : Prop where
  taken : ∀ pos, readable pos → decode pos = .ok (record pos, stride pos)
  aborts : ∀ pos, ¬ readable pos → decode pos = .error .abort
  stride_pos : ∀ pos, 0 < stride pos

/-- The starts of at most `count` records from `pos` on, in front of `size`. -/
def recordStarts (stride : Nat → Nat) (size : Nat) : (count pos : Nat) → List Nat
  | 0, _ => []
  | count + 1, pos =>
    if size ≤ pos then [] else pos :: recordStarts stride size count (pos + stride pos)

/-- Records of one length that fit the buffer start at the multiples of it. -/
theorem recordStarts_const {width size : Nat} (hwidth : 0 < width) (count : Nat) :
    ∀ pos, pos + width * count ≤ size →
      recordStarts (fun _ => width) size count pos =
        (List.range count).map fun i => pos + width * i := by
  induction count with
  | zero => exact fun _ _ => rfl
  | succ count ih =>
    intro pos hfit
    rw [Nat.mul_succ] at hfit
    have hrest := ih (pos + width) (by omega)
    rw [recordStarts, if_neg (by omega), hrest, List.range_succ_eq_map, List.map_cons,
      List.map_map, Nat.mul_zero, Nat.add_zero]
    refine congrArg _ (List.map_congr_left fun i _ => ?_)
    show pos + width + width * i = pos + width * (i + 1)
    rw [Nat.mul_succ]
    omega

/-- The plain reader of at most `count` more records, in closed form. Induction on the records that
are still asked for. -/
theorem DecodesBy.readRecords_eq [DecidablePred readable]
    (h : DecodesBy decode readable record stride) {capacity limit size : Nat} (count : Nat) :
    ∀ (fuel pos : Nat) (result : List α), size ≤ fuel + pos → result.length + count = limit →
      result.length ≤ capacity →
      readRecords decode capacity limit size fuel pos result =
        if (∀ start ∈ recordStarts stride size count pos, readable start) ∧
            result.length + (recordStarts stride size count pos).length ≤ capacity then
          .ok (result ++ (recordStarts stride size count pos).map record)
        else .error .abort := by
  induction count with
  | zero =>
    intro fuel pos result _ hlimit hcapacity
    have hnone : recordStarts stride size 0 pos = [] := rfl
    rw [hnone, if_pos ⟨nofun, hcapacity⟩, List.map_nil, List.append_nil]
    cases fuel with
    | zero => rfl
    | succ fuel => exact if_pos (.inl hlimit)
  | succ count ih =>
    intro fuel pos result hfuel hlimit hcapacity
    -- the bytes are at their end, or a record starts here
    by_cases hend : size ≤ pos
    · have hnone : recordStarts stride size (count + 1) pos = [] := if_pos hend
      rw [hnone, if_pos ⟨nofun, hcapacity⟩, List.map_nil, List.append_nil]
      cases fuel with
      | zero => rfl
      | succ fuel => exact if_pos (.inr hend)
    · obtain ⟨fuel, rfl⟩ : ∃ k, fuel = k + 1 := ⟨fuel - 1, by omega⟩
      have hstarts : recordStarts stride size (count + 1) pos =
          pos :: recordStarts stride size count (pos + stride pos) := if_neg hend
      have hpos := h.stride_pos pos
      rw [readRecords, if_neg (by omega), hstarts]
      -- a record that cannot be read aborts, and is among the starts
      by_cases hreadable : readable pos
      · rw [h.taken pos hreadable]
        have hlength : (result ++ [record pos]).length = result.length + 1 := by
          rw [List.length_append, List.length_singleton]
        -- the list is full, or there is room and the rest is read behind it
        by_cases hroom : (result ++ [record pos]).length ≤ capacity
        · have hrest := ih fuel (pos + stride pos) (result ++ [record pos]) (by omega)
            (by omega) hroom
          have hcap : unwrapPanicOpt (asMaxLen? (result ++ [record pos]) capacity) =
              .ok (result ++ [record pos]) := by
            rw [unwrapPanicOpt_eq_ok, asMaxLen?_eq_some]
            exact ⟨hroom, rfl⟩
          show (unwrapPanicOpt (asMaxLen? (result ++ [record pos]) capacity) >>= _) = _
          rw [hcap]
          refine hrest.trans ?_
          simp only [hlength, List.length_cons, List.forall_mem_cons, hreadable, true_and,
            List.append_assoc, List.singleton_append, List.map_cons, Nat.add_assoc, Nat.add_comm 1]
        · have hfull : asMaxLen? (result ++ [record pos]) capacity = none := if_neg hroom
          rw [if_neg fun hgood => hroom ?_]
          · show (unwrapPanicOpt (asMaxLen? (result ++ [record pos]) capacity) >>= _) = _
            rw [hfull]
            rfl
          · have := hgood.2
            rw [List.length_cons] at this
            omega
      · rw [h.aborts pos hreadable, if_neg fun hgood => hreadable (hgood.1 pos (.head _))]
        rfl

/-- **What a walk over a whole buffer returns.** -/
theorem DecodesBy.foldlM_walkStep_eq [DecidablePred readable]
    (h : DecodesBy decode readable record stride) (capacity limit : Nat) (bytes : Buff) :
    (bytes.foldlM (walkStep decode capacity limit) .start).map WalkAcc.result =
      if (∀ start ∈ recordStarts stride bytes.length limit 0, readable start) ∧
          (recordStarts stride bytes.length limit 0).length ≤ capacity then
        .ok ((recordStarts stride bytes.length limit 0).map record)
      else .error .abort := by
  have hstride : ∀ pos x n, decode pos = .ok (x, n) → 0 < n := by
    intro pos x n hok
    by_cases hreadable : readable pos
    · rw [h.taken pos hreadable] at hok
      cases hok
      exact h.stride_pos pos
    · rw [h.aborts pos hreadable] at hok
      cases hok
  have hwalk : (bytes.foldlM (walkStep decode capacity limit) .start).map WalkAcc.result =
      readRecords decode capacity limit (0 + bytes.length) bytes.length 0 [] :=
    foldlM_walkStep hstride bytes .start bytes.length (Nat.le_refl _) (Nat.le_add_right _ _)
  rw [hwalk, Nat.zero_add]
  exact (h.readRecords_eq limit bytes.length 0 [] (Nat.le_add_right _ _) (Nat.zero_add _)
    (Nat.zero_le _)).trans (by simp only [List.length_nil, Nat.zero_add, List.nil_append])

end Total

end PythBridge.Clarity
