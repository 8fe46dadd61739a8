import PythBridge.Clarity.Exec
import PythBridge.Clarity.Buff

/-!
# The `hk-cursor-v2` contract

`hk-cursor-v2` is a deployed third-party contract (a `requirement` of `Clarinet.toml`): its
code is not part of the repository. It enters the model as a record of functions,
`HkCursorV2`, and what the contracts rely on is `HkCursorV2.Lawful`. A cursor is a buffer
and a position in it; a reader returns what it read and the cursor after it.

Reading nothing with `read-buff-8192-max` is left open by `Lawful`: it may return the empty
buffer or fail. It makes a difference at three places only, a VAA without a payload, a guardian
set of no addresses and an embedded VAA of size zero, and what holds there is stated with
`HkCursorV2.ReadsMax`, what the cursor answers at the place in question.

* **`ReadsField`** is the rule of a reader of a fixed width, and its `forall_ok` and `exists_ok`
  rewrite a parser read by read into conditions on the buffer.
* **`ReadsField.of_rest`** and its companions go the other way: in front of a written field the
  read succeeds and the rest is left.
* **`HkCursorV2.reference`** is an instance by `slice?`, for closed runs.
-/

namespace PythBridge

open Clarity

/-- A buffer and a position in it, the `next` tuple of the source. -/
structure Cursor where
  bytes : Buff
  pos : Nat
deriving DecidableEq, Repr

namespace Cursor

/-- What is left to read. -/
def rest (c : Cursor) : Buff := c.bytes.drop c.pos

/-- The next `n` bytes, or what is left of them. -/
def take (c : Cursor) (n : Nat) : Buff := c.rest.take n

/-- The cursor `n` bytes further on; nothing says that it is still inside the buffer. -/
def skip (c : Cursor) (n : Nat) : Cursor := ⟨c.bytes, c.pos + n⟩

/-- The next `n` bytes lie inside the buffer. -/
def Holds (c : Cursor) (n : Nat) : Prop := c.pos + n ≤ c.bytes.length

instance (c : Cursor) (n : Nat) : Decidable (c.Holds n) :=
  inferInstanceAs (Decidable (c.pos + n ≤ c.bytes.length))

/-- A buffer of at least `bound` bytes holds every field in front of the bound. -/
theorem holds_of_le {bytes : Buff} {bound : Nat} (hbound : bound ≤ bytes.length)
    (pos width : Nat) (hle : pos + width ≤ bound) : (⟨bytes, pos⟩ : Cursor).Holds width :=
  Nat.le_trans hle hbound

/-- A field that lies inside the buffer has all its bytes. -/
theorem take_length {c : Cursor} {n : Nat} (h : c.Holds n) : (c.take n).length = n := by
  simp only [take, rest, Holds, List.length_take, List.length_drop] at *
  omega

/-- What is left at a cursor is what the next field holds, then what is left after it. -/
theorem rest_eq_take_append (c : Cursor) (n : Nat) : c.rest = c.take n ++ (c.skip n).rest := by
  simp only [take, rest, skip, ← List.drop_drop]
  exact (List.take_append_drop n _).symm

end Cursor

/-- What a reader returns: the value, and the cursor behind it. -/
structure Read (α : Type) where
  value : α
  next : Cursor
deriving DecidableEq, Repr

/-- The public read-only functions of `hk-cursor-v2` that the contracts call. -/
structure HkCursorV2 where
  new : Buff → Option Nat → Read Unit
  advance : Cursor → Nat → Cursor
  slice : Cursor → Option Nat → Buff
  readBuff1 : Cursor → Response (Read Buff)
  readBuff2 : Cursor → Response (Read Buff)
  readBuff4 : Cursor → Response (Read Buff)
  readBuff20 : Cursor → Response (Read Buff)
  readBuff32 : Cursor → Response (Read Buff)
  readBuff65 : Cursor → Response (Read Buff)
  readBuff8192Max : Cursor → Option Nat → Response (Read Buff)
  readUint8 : Cursor → Response (Read Nat)
  readUint16 : Cursor → Response (Read Nat)
  readUint32 : Cursor → Response (Read Nat)
  readUint64 : Cursor → Response (Read Nat)
  readInt32 : Cursor → Response (Read Int)
  readInt64 : Cursor → Response (Read Int)

/-- A reader of a field of `width` bytes: it succeeds exactly when the field lies inside the
buffer, and then returns the decoded field and the cursor behind it. -/
def ReadsField {α : Type} (width : Nat) (decode : Buff → α)
    (read : Cursor → Response (Read α)) : Prop :=
  ∀ c r, read c = .ok r ↔ c.Holds width ∧ r = ⟨decode (c.take width), c.skip width⟩

/-- What the contracts rely on. Readers of a fixed width follow one rule. `advance` and `new`
compute positions. `slice` answers with nothing when the slice would run past the end. Of
`read-buff-8192-max` four things are asked: what it returns, with a size and without one, and that
it does return when there is at least one byte to read and all of them are there. -/
structure HkCursorV2.Lawful (hk : HkCursorV2) : Prop where
  new : ∀ bytes offset, (hk.new bytes offset).next = ⟨bytes, offset.getD 0⟩
  advance : ∀ c n, hk.advance c n = c.skip n
  slice_some : ∀ c n, hk.slice c (some n) = if c.Holds n then c.take n else []
  slice_none : ∀ c, hk.slice c none = c.rest
  readBuff1 : ReadsField 1 id hk.readBuff1
  readBuff2 : ReadsField 2 id hk.readBuff2
  readBuff4 : ReadsField 4 id hk.readBuff4
  readBuff20 : ReadsField 20 id hk.readBuff20
  readBuff32 : ReadsField 32 id hk.readBuff32
  readBuff65 : ReadsField 65 id hk.readBuff65
  readUint8 : ReadsField 1 buffToUintBe hk.readUint8
  readUint16 : ReadsField 2 buffToUintBe hk.readUint16
  readUint32 : ReadsField 4 buffToUintBe hk.readUint32
  readUint64 : ReadsField 8 buffToUintBe hk.readUint64
  readInt32 : ReadsField 4 buffToSignedBe hk.readInt32
  readInt64 : ReadsField 8 buffToSignedBe hk.readInt64
  readBuff8192Max_some : ∀ c n r, hk.readBuff8192Max c (some n) = .ok r →
    c.Holds n ∧ r = ⟨c.take n, c.skip n⟩
  readBuff8192Max_none : ∀ c r, hk.readBuff8192Max c none = .ok r →
    c.Holds 0 ∧ r.value = c.rest
  readBuff8192Max_some_ok : ∀ c n, 0 < n → c.Holds n →
    ∃ r, hk.readBuff8192Max c (some n) = .ok r
  readBuff8192Max_none_ok : ∀ c, c.Holds 1 → ∃ r, hk.readBuff8192Max c none = .ok r

/-! ## What a successful read says

`unsigned` and `raw` readers in the form the parsers' proofs use: the field is written back
in front of what is left after it. -/

/-- A number was read: it fits its field, and it is written in front of what is left. -/
theorem ReadsField.uint {width : Nat} {read : Cursor → Response (Read Nat)}
    (h : ReadsField width buffToUintBe read) {c : Cursor} {r : Read Nat} (hr : read c = .ok r) :
    c.Holds width ∧ r.next = c.skip width ∧ r.value < 256 ^ width ∧
      c.rest = uintToBuffBe width r.value ++ r.next.rest := by
  obtain ⟨hholds, rfl⟩ := (h c r).mp hr
  have hlen := Cursor.take_length hholds
  -- writing the number again gives the bytes that were read
  have hbytes : uintToBuffBe width (buffToUintBe (c.take width)) = c.take width := by
    have := uintToBuffBe_buffToUintBe (c.take width)
    rwa [hlen] at this
  refine ⟨hholds, rfl, ?_, ?_⟩
  · have := buffToUintBe_lt (c.take width)
    rwa [hlen] at this
  · show c.rest = uintToBuffBe width (buffToUintBe (c.take width)) ++ (c.skip width).rest
    rw [hbytes]
    exact c.rest_eq_take_append width

/-- Bytes were read: as many as the field has, and they stand in front of what is left. -/
theorem ReadsField.buff {width : Nat} {read : Cursor → Response (Read Buff)}
    (h : ReadsField width id read) {c : Cursor} {r : Read Buff} (hr : read c = .ok r) :
    c.Holds width ∧ r.next = c.skip width ∧ r.value.length = width ∧
      c.rest = r.value ++ r.next.rest := by
  obtain ⟨hholds, rfl⟩ := (h c r).mp hr
  exact ⟨hholds, rfl, Cursor.take_length hholds, c.rest_eq_take_append width⟩

/-- A read that may fail, followed by what has to hold of its result. -/
theorem ReadsField.forall_ok {α : Type} {width : Nat} {decode : Buff → α}
    {read : Cursor → Response (Read α)} (h : ReadsField width decode read) {c : Cursor}
    {P : Read α → Prop} :
    (∀ r, read c = .ok r → P r) ↔ (c.Holds width → P ⟨decode (c.take width), c.skip width⟩) := by
  constructor
  · -- the read gives one result, the one that the rule names
    exact fun hall hholds => hall _ ((h c _).mpr ⟨hholds, rfl⟩)
  · intro himp r hr
    obtain ⟨hholds, rfl⟩ := (h c r).mp hr
    exact himp hholds

/-- A read that has to succeed, with what has to hold of its result. -/
theorem ReadsField.exists_ok {α : Type} {width : Nat} {decode : Buff → α}
    {read : Cursor → Response (Read α)} (h : ReadsField width decode read) {c : Cursor}
    {P : Read α → Prop} :
    (∃ r, read c = .ok r ∧ P r) ↔ c.Holds width ∧ P ⟨decode (c.take width), c.skip width⟩ := by
  constructor
  · rintro ⟨r, hr, hP⟩
    obtain ⟨hholds, rfl⟩ := (h c r).mp hr
    exact ⟨hholds, hP⟩
  · rintro ⟨hholds, hP⟩
    exact ⟨_, (h c _).mpr ⟨hholds, rfl⟩, hP⟩

/-! ## What a read returns

The other direction: a cursor in front of a written field reads it and stops behind it. Each lemma
also says what is left then, so that the fields of a message are read one after another by applying
the lemmas one after another. -/

section Forward

variable {c : Cursor} {fieldBytes rest : Buff}

/-- A written field of at least one byte lies inside the buffer. For an empty one this fails: the
cursor may be past the end. -/
theorem Cursor.holds_of_rest (h : c.rest = fieldBytes ++ rest) (hpos : 0 < fieldBytes.length) :
    c.Holds fieldBytes.length := by
  have hlength := congrArg List.length h
  rw [Cursor.rest, List.length_drop, List.length_append] at hlength
  show c.pos + fieldBytes.length ≤ c.bytes.length
  omega

/-- The next bytes are those of the field. -/
theorem Cursor.take_of_rest (h : c.rest = fieldBytes ++ rest) :
    c.take fieldBytes.length = fieldBytes := by
  rw [Cursor.take, h, List.take_left]

/-- What is left behind the field. -/
theorem Cursor.skip_of_rest (h : c.rest = fieldBytes ++ rest) :
    (c.skip fieldBytes.length).rest = rest := by
  have hdrop : (c.skip fieldBytes.length).rest = c.rest.drop fieldBytes.length := by
    rw [Cursor.rest, Cursor.rest, Cursor.skip, List.drop_drop]
  rw [hdrop, h, List.drop_left]

/-- A field of any kind is read back by what decodes it. -/
theorem ReadsField.of_rest {α : Type} {width : Nat} {decode : Buff → α}
    {read : Cursor → Response (Read α)} (h : ReadsField width decode read)
    (hrest : c.rest = fieldBytes ++ rest) (hlength : fieldBytes.length = width)
    (hpos : 0 < width) :
    read c = .ok ⟨decode fieldBytes, c.skip width⟩ ∧ (c.skip width).rest = rest := by
  subst hlength
  refine ⟨(h c _).mpr ⟨Cursor.holds_of_rest hrest hpos, ?_⟩, Cursor.skip_of_rest hrest⟩
  rw [Cursor.take_of_rest hrest]

/-- A number that fits its field is read back. -/
theorem ReadsField.uint_of_rest {width n : Nat} {read : Cursor → Response (Read Nat)}
    (h : ReadsField width buffToUintBe read) (hrest : c.rest = uintToBuffBe width n ++ rest)
    (hn : n < 256 ^ width) (hpos : 0 < width) :
    read c = .ok ⟨n, c.skip width⟩ ∧ (c.skip width).rest = rest := by
  have hread := h.of_rest hrest (uintToBuffBe_length width n) hpos
  rwa [buffToUintBe_uintToBuffBe hn] at hread

/-- A signed number that fits its field is read back. -/
theorem ReadsField.int_of_rest {width : Nat} {z : Int} {read : Cursor → Response (Read Int)}
    (h : ReadsField width buffToSignedBe read) (hrest : c.rest = intToBuffBe width z ++ rest)
    (hlow : -((256 ^ width : Nat) / 2 : Int) ≤ z) (hhigh : z < ((256 ^ width : Nat) + 1 : Int) / 2)
    (hpos : 0 < width) :
    read c = .ok ⟨z, c.skip width⟩ ∧ (c.skip width).rest = rest := by
  have hread := h.of_rest hrest (intToBuffBe_length width z) hpos
  rwa [buffToSignedBe_intToBuffBe hlow hhigh] at hread

/-- A slice of a written field. -/
theorem HkCursorV2.Lawful.slice_of_rest {hk : HkCursorV2} (h : hk.Lawful)
    (hrest : c.rest = fieldBytes ++ rest) :
    hk.slice c (some fieldBytes.length) = fieldBytes := by
  rw [h.slice_some, Cursor.take_of_rest hrest]
  -- the slice lies inside the buffer, or the field is empty and so is the answer
  split
  · rfl
  · next hnot =>
    -- a field that is not empty lies inside the buffer
    by_contra hne
    exact hnot (Cursor.holds_of_rest hrest (List.length_pos_iff.mpr (Ne.symm hne)))

/-- `read-buff-8192-max` returns at this cursor. `Lawful` says when it does, but for the cases in
which there is nothing to read. -/
def HkCursorV2.ReadsMax (hk : HkCursorV2) (c : Cursor) (size : Option Nat) : Prop :=
  ∃ r, hk.readBuff8192Max c size = .ok r

/-- A read of everything up to the end, where something is left. -/
theorem HkCursorV2.Lawful.readAll_of_rest {hk : HkCursorV2} (h : hk.Lawful)
    (hrest : c.rest = fieldBytes) (hne : fieldBytes ≠ []) :
    ∃ r, hk.readBuff8192Max c none = .ok r ∧ r.value = fieldBytes := by
  have hinside : c.Holds 1 := by
    have hlength := congrArg List.length hrest
    have hpos := List.length_pos_iff.mpr hne
    rw [Cursor.rest, List.length_drop] at hlength
    show c.pos + 1 ≤ c.bytes.length
    omega
  obtain ⟨r, hr⟩ := h.readBuff8192Max_none_ok c hinside
  exact ⟨r, hr, (h.readBuff8192Max_none c r hr).2.trans hrest⟩

/-- A read of a given size. -/
theorem HkCursorV2.Lawful.readSome_of_rest {hk : HkCursorV2} (h : hk.Lawful)
    (hrest : c.rest = fieldBytes ++ rest)
    (hempty : fieldBytes = [] → hk.ReadsMax c (some 0)) :
    hk.readBuff8192Max c (some fieldBytes.length) =
        .ok ⟨fieldBytes, c.skip fieldBytes.length⟩ ∧
      (c.skip fieldBytes.length).rest = rest := by
  have hok : hk.ReadsMax c (some fieldBytes.length) := by
    -- `Lawful` answers for a size above zero, the hypothesis for the size zero
    by_cases hnil : fieldBytes = []
    · rw [hnil]
      exact hempty hnil
    · have hpos := List.length_pos_iff.mpr hnil
      exact h.readBuff8192Max_some_ok c _ hpos (Cursor.holds_of_rest hrest hpos)
  obtain ⟨r, hr⟩ := hok
  obtain ⟨-, hvalue⟩ := h.readBuff8192Max_some c _ r hr
  rw [Cursor.take_of_rest hrest] at hvalue
  exact ⟨hvalue ▸ hr, Cursor.skip_of_rest hrest⟩

/-- A read of a given size returns what the buffer holds there. For the size zero it depends on
the cursor whether it returns at all. -/
theorem HkCursorV2.Lawful.readSome_iff {hk : HkCursorV2} (h : hk.Lawful) {n : Nat}
    {r : Read Buff} :
    hk.readBuff8192Max c (some n) = .ok r ↔
      (c.Holds n ∧ (n = 0 → hk.ReadsMax c (some 0))) ∧ r = ⟨c.take n, c.skip n⟩ := by
  constructor
  · intro hr
    obtain ⟨hholds, hvalue⟩ := h.readBuff8192Max_some c n r hr
    exact ⟨⟨hholds, fun hzero => ⟨r, hzero ▸ hr⟩⟩, hvalue⟩
  · rintro ⟨⟨hholds, hempty⟩, rfl⟩
    have hok : hk.ReadsMax c (some n) := by
      -- the same two cases: zero is left open by `Lawful`
      cases n with
      | zero => exact hempty rfl
      | succ n => exact h.readBuff8192Max_some_ok c (n + 1) (Nat.succ_pos n) hholds
    obtain ⟨r, hr⟩ := hok
    obtain ⟨-, rfl⟩ := h.readBuff8192Max_some c n r hr
    exact hr

/-- A read of a given size that may fail, followed by what has to hold of its result. -/
theorem HkCursorV2.Lawful.readSome_forall_ok {hk : HkCursorV2} (h : hk.Lawful) {n : Nat}
    {P : Read Buff → Prop} :
    (∀ r, hk.readBuff8192Max c (some n) = .ok r → P r) ↔
      (c.Holds n → (n = 0 → hk.ReadsMax c (some 0)) → P ⟨c.take n, c.skip n⟩) := by
  constructor
  · exact fun hall hholds hempty => hall _ (h.readSome_iff.mpr ⟨⟨hholds, hempty⟩, rfl⟩)
  · intro himp r hr
    obtain ⟨⟨hholds, hempty⟩, rfl⟩ := h.readSome_iff.mp hr
    exact himp hholds hempty

/-- A read of a given size that has to succeed, with what has to hold of its result. -/
theorem HkCursorV2.Lawful.readSome_exists_ok {hk : HkCursorV2} (h : hk.Lawful) {n : Nat}
    {P : Read Buff → Prop} :
    (∃ r, hk.readBuff8192Max c (some n) = .ok r ∧ P r) ↔
      c.Holds n ∧ (n = 0 → hk.ReadsMax c (some 0)) ∧ P ⟨c.take n, c.skip n⟩ := by
  constructor
  · rintro ⟨r, hr, hP⟩
    obtain ⟨⟨hholds, hempty⟩, rfl⟩ := h.readSome_iff.mp hr
    exact ⟨hholds, hempty, hP⟩
  · rintro ⟨hholds, hempty, hP⟩
    exact ⟨_, h.readSome_iff.mpr ⟨⟨hholds, hempty⟩, rfl⟩, hP⟩

end Forward

/-! ## A reference instance

The readers by `slice?`: a field is read by the slice it takes, and the empty rest at the end of
a buffer cannot be read, since there is no slice there. The instance shows that `Lawful` can be
met, and closed runs of the contracts use it. -/

namespace HkCursorV2

/-- The bytes from the cursor up to the position `right`, decoded. -/
def readUpTo {α : Type} (decode : Buff → α) (c : Cursor) (right : Nat) : Response (Read α) :=
  match slice? c.bytes c.pos right with
  | some field => .ok ⟨decode field, ⟨c.bytes, right⟩⟩
  | none => .error 1

/-- A reader of a fixed width: the slice of that width at the cursor. -/
def readField {α : Type} (width : Nat) (decode : Buff → α) (c : Cursor) : Response (Read α) :=
  readUpTo decode c (c.pos + width)

/-- Where a read of the given size ends; without one it goes up to the end. -/
def readEnd (c : Cursor) : Option Nat → Nat
  | some n => c.pos + n
  | none => c.bytes.length

/-- `hk-cursor-v2` by the rules `Lawful` asks for. -/
def reference : HkCursorV2 where
  new bytes offset := ⟨(), ⟨bytes, offset.getD 0⟩⟩
  advance := Cursor.skip
  slice c size := (slice? c.bytes c.pos (readEnd c size)).getD []
  readBuff1 := readField 1 id
  readBuff2 := readField 2 id
  readBuff4 := readField 4 id
  readBuff20 := readField 20 id
  readBuff32 := readField 32 id
  readBuff65 := readField 65 id
  readBuff8192Max c size := readUpTo id c (readEnd c size)
  readUint8 := readField 1 buffToUintBe
  readUint16 := readField 2 buffToUintBe
  readUint32 := readField 4 buffToUintBe
  readUint64 := readField 8 buffToUintBe
  readInt32 := readField 4 buffToSignedBe
  readInt64 := readField 8 buffToSignedBe

/-- The readers by `slice?` return exactly where there is a slice. -/
theorem readUpTo_eq_ok {α : Type} {decode : Buff → α} {c : Cursor} {right : Nat} {r : Read α} :
    readUpTo decode c right = .ok r ↔
      (c.pos < c.bytes.length ∧ c.pos ≤ right ∧ right ≤ c.bytes.length) ∧
        r = ⟨decode (c.take (right - c.pos)), ⟨c.bytes, right⟩⟩ := by
  unfold readUpTo
  -- there is a slice, and its conditions hold, or there is none, and one of them fails
  split
  · next field hfield =>
    obtain ⟨hinside, rfl⟩ := slice?_eq_some.mp hfield
    exact ⟨fun hr => ⟨hinside, (Except.ok.inj hr).symm⟩, fun hr => congrArg Except.ok hr.2.symm⟩
  · next hnone =>
    refine ⟨nofun, fun hr => ?_⟩
    rw [slice?, if_pos hr.1] at hnone
    cases hnone

/-- A field of a positive width that ends inside the buffer starts at one of its bytes. -/
theorem readField_readsField {α : Type} {width : Nat} (hwidth : 0 < width) (decode : Buff → α) :
    ReadsField width decode (readField width decode) := by
  intro c r
  have hinside : (c.pos < c.bytes.length ∧ c.pos ≤ c.pos + width ∧
      c.pos + width ≤ c.bytes.length) ↔ c.Holds width := by
    unfold Cursor.Holds
    omega
  rw [readField, readUpTo_eq_ok, hinside, Nat.add_sub_cancel_left]
  rfl

/-- For `slice` the two ways to be empty, past the end and at it, look the same. -/
theorem reference_slice (c : Cursor) (size : Option Nat) :
    reference.slice c size =
      if c.pos ≤ readEnd c size ∧ readEnd c size ≤ c.bytes.length then
        c.take (readEnd c size - c.pos)
      else [] := by
  show (slice? c.bytes c.pos (readEnd c size)).getD [] = _
  unfold slice?
  -- a slice has to start in front of a byte
  by_cases hstart : c.pos < c.bytes.length
  · simp only [hstart, true_and]
    split <;> rfl
  · -- at the end there is no slice, and nothing to take either
    have hrest : c.rest = [] := List.drop_of_length_le (Nat.not_lt.mp hstart)
    rw [if_neg fun h => hstart h.1, Cursor.take, hrest, List.take_nil, ite_self]
    rfl

/-- The rules can be met, and by what the virtual machine's `slice?` does. -/
theorem reference_lawful : reference.Lawful where
  new _ _ := rfl
  advance _ _ := rfl
  slice_some c n := by
    have hinside : (c.pos ≤ c.pos + n ∧ c.pos + n ≤ c.bytes.length) ↔ c.Holds n :=
      and_iff_right (Nat.le_add_right _ _)
    rw [reference_slice, readEnd, Nat.add_sub_cancel_left]
    simp only [hinside]
  slice_none c := by
    rw [reference_slice, readEnd]
    split
    · exact List.take_of_length_le (Nat.le_of_eq List.length_drop)
    · next hend => exact (List.drop_of_length_le (by omega)).symm
  readBuff1 := readField_readsField (by decide) id
  readBuff2 := readField_readsField (by decide) id
  readBuff4 := readField_readsField (by decide) id
  readBuff20 := readField_readsField (by decide) id
  readBuff32 := readField_readsField (by decide) id
  readBuff65 := readField_readsField (by decide) id
  readUint8 := readField_readsField (by decide) _
  readUint16 := readField_readsField (by decide) _
  readUint32 := readField_readsField (by decide) _
  readUint64 := readField_readsField (by decide) _
  readInt32 := readField_readsField (by decide) _
  readInt64 := readField_readsField (by decide) _
  readBuff8192Max_some c n r h := by
    obtain ⟨⟨-, -, hinside⟩, rfl⟩ := readUpTo_eq_ok.mp h
    rw [readEnd, Nat.add_sub_cancel_left]
    exact ⟨hinside, rfl⟩
  readBuff8192Max_none c r h := by
    obtain ⟨⟨-, hinside, -⟩, rfl⟩ := readUpTo_eq_ok.mp h
    exact ⟨hinside, List.take_of_length_le (Nat.le_of_eq List.length_drop)⟩
  readBuff8192Max_some_ok c n hpos h := ⟨_, readUpTo_eq_ok.mpr ⟨by
    unfold Cursor.Holds at h
    rw [readEnd]
    omega, rfl⟩⟩
  readBuff8192Max_none_ok c h := ⟨_, readUpTo_eq_ok.mpr ⟨by
    unfold Cursor.Holds at h
    rw [readEnd]
    omega, rfl⟩⟩

end HkCursorV2

end PythBridge
