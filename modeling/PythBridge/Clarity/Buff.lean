import Mathlib.Algebra.Group.Nat.Defs
import Mathlib.Data.List.Induction

/-!
# Clarity — buffers, bounded lists and maps

Buffers are byte lists, and the built-in functions on them are defined here as the virtual
machine computes them:

* `slice?` is `none` unless its left position is one of the sequence, and unless the right one
  is neither in front of it nor past the end. Where both coincide the slice is empty, but only
  in front of an element: at the end of a sequence there is no slice, not even an empty one.
* `as-max-len?` bounds a length; what it returns is unchanged.
* `buff-to-uint-be` and `buff-to-int-be` read big-endian numbers, the latter as signed only when
  the buffer has all 16 bytes.

Maps are functions to options. The second half of the module is about numbers in fields of a
fixed width: what was written is read again (`buffToUintBe_uintToBuffBe`,
`buffToSignedBe_intToBuffBe`) and what was read is written again (`uintToBuffBe_buffToUintBe`),
which is what every round trip of a message format rests on.
-/

namespace PythBridge.Clarity

/-- `(buff n)`; the bounds `n` are checked where the source checks them. -/
abbrev Buff := List UInt8

/-- The value of a lower-case hexadecimal digit. -/
def hexDigit (c : Char) : Nat :=
  if c.isDigit then c.toNat - 0x30 else c.toNat - 0x57

/-- Two digits make a byte; a digit without a partner is dropped, so literals have an even length.
-/
def hexPairs : List Char → Buff
  | high :: low :: digits => UInt8.ofNat (hexDigit high * 16 + hexDigit low) :: hexPairs digits
  | _ => []

/-- A buffer literal: `hex "0a1b"` is `0x0a1b`. -/
def hex (digits : String) : Buff := hexPairs digits.toList

/-- `define-map`: a key has a value or has none (`map-get?` gives `none`). -/
abbrev DataMap (κ ν : Type) := κ → Option ν

/-- `map-set`: the one key gets the value, whether it had one before or not. -/
def DataMap.set {κ ν : Type} [DecidableEq κ] (m : DataMap κ ν) (key : κ) (value : ν) :
    DataMap κ ν :=
  fun k => if k = key then some value else m k

@[simp] theorem DataMap.set_self {κ ν : Type} [DecidableEq κ] (m : DataMap κ ν) (key : κ)
    (value : ν) : m.set key value key = some value := by
  simp [DataMap.set]

/-- The frame of `map-set`: every other key keeps what it had. -/
theorem DataMap.set_of_ne {κ ν : Type} [DecidableEq κ] (m : DataMap κ ν) {k key : κ}
    (value : ν) (h : k ≠ key) : m.set key value k = m k := by
  simp [DataMap.set, h]

/-- `slice?`: the left position has to be one of the sequence, so that a slice at the very end is
`none` even when it would be empty. -/
def slice? {α : Type} (sequence : List α) (left right : Nat) : Option (List α) :=
  if left < sequence.length ∧ left ≤ right ∧ right ≤ sequence.length then
    some ((sequence.drop left).take (right - left))
  else none

/-- `as-max-len?`: the sequence itself when it is short enough for the bound, else `none`. It never
cuts a sequence down. -/
def asMaxLen? {α : Type} (sequence : List α) (length : Nat) : Option (List α) :=
  if sequence.length ≤ length then some sequence else none

@[simp] theorem asMaxLen?_eq_some {α : Type} {xs ys : List α} {n : Nat} :
    asMaxLen? xs n = some ys ↔ xs.length ≤ n ∧ xs = ys := by
  unfold asMaxLen?
  by_cases h : xs.length ≤ n <;> simp [h]

/-- The three conditions under which there is a slice, and the slice that there is then. Proofs
about a reader rewrite with this and never unfold `slice?`. -/
@[simp] theorem slice?_eq_some {α : Type} {xs ys : List α} {l r : Nat} :
    slice? xs l r = some ys ↔
      (l < xs.length ∧ l ≤ r ∧ r ≤ xs.length) ∧ (xs.drop l).take (r - l) = ys := by
  unfold slice?
  by_cases h : l < xs.length ∧ l ≤ r ∧ r ≤ xs.length
  · rw [if_pos h, Option.some_inj]
    exact ⟨fun hys => ⟨h, hys⟩, And.right⟩
  · rw [if_neg h]
    exact ⟨nofun, fun hys => absurd hys.1 h⟩

/-! ## Pieces of one length

Signatures, guardian addresses and proof nodes are all of one width each, and the contracts find the
`i`-th of them by slicing at `i * width`. Two lemmas say that this is where a writer put it. -/

/-- The length of what is written is the number of the pieces times their width. -/
theorem flatten_length_of_width {width : Nat} {pieces : List Buff}
    (h : ∀ piece ∈ pieces, piece.length = width) :
    pieces.flatten.length = pieces.length * width := by
  rw [List.length_flatten, List.map_congr_left h, List.map_const', List.sum_replicate_nat]

/-- Pieces written one after another are found at the multiples of their length. -/
theorem drop_flatten_of_width {width : Nat} {pieces : List Buff}
    (h : ∀ piece ∈ pieces, piece.length = width) (i : Nat) :
    pieces.flatten.drop (i * width) = (pieces.drop i).flatten := by
  induction i generalizing pieces with
  | zero => rw [Nat.zero_mul, List.drop_zero, List.drop_zero]
  | succ i ih =>
    -- the list runs out together with what is written of it, so both sides are empty
    cases pieces with
    | nil => rw [List.drop_nil, List.flatten_nil, List.drop_nil]
    | cons piece pieces =>
      have hlength := h piece (.head _)
      rw [List.flatten_cons, List.drop_succ_cons, Nat.succ_mul, Nat.add_comm, ← List.drop_drop,
        List.drop_left' hlength]
      exact ih fun other hother => h other (.tail _ hother)

/-- Slicing `width` bytes at `i * width` finds the `i`-th piece. -/
theorem take_drop_flatten_of_width {width : Nat} {pieces : List Buff}
    (h : ∀ piece ∈ pieces, piece.length = width) {i : Nat} (hi : i < pieces.length) :
    (pieces.flatten.drop (i * width)).take width = pieces[i] := by
  have hlength := h _ (List.getElem_mem hi)
  rw [drop_flatten_of_width h, List.drop_eq_getElem_cons hi, List.flatten_cons,
    List.take_left' hlength]

/-! ## Big-endian numbers

Reading folds the bytes from the left, so the lemmas about it go by induction from the right end of
the buffer, where a byte is the last digit in base 256 (`buffToUintBe_concat`). -/

/-- `buff-to-uint-be`: the bytes are the digits in base 256, the first one the most significant. The
empty buffer is zero. -/
def buffToUintBe (buff : Buff) : Nat :=
  buff.foldl (fun acc byte => acc * 256 + byte.toNat) 0

/-- The two's complement reading of a big-endian buffer of any width. -/
def buffToSignedBe (buff : Buff) : Int :=
  (buffToUintBe buff : Int).bmod (256 ^ buff.length)

/-- `buff-to-int-be`: a buffer of fewer than 16 bytes is padded with zeros on the left, so that
only a buffer of all 16 bytes is read as a negative number. -/
def buffToIntBe (buff : Buff) : Int := buffToSignedBe (List.replicate (16 - buff.length) 0 ++ buff)

/-- The big-endian bytes of `n` in a field of `width` bytes. -/
def uintToBuffBe : (width : Nat) → (n : Nat) → Buff
  | 0, _ => []
  | width + 1, n => uintToBuffBe width (n / 256) ++ [UInt8.ofNat n]

@[simp] theorem uintToBuffBe_length (width n : Nat) : (uintToBuffBe width n).length = width := by
  induction width generalizing n with
  | zero => rfl
  | succ width ih => rw [uintToBuffBe, List.length_append, ih, List.length_singleton]

/-- The two's complement bytes of `z` in a field of `width` bytes. -/
def intToBuffBe (width : Nat) (z : Int) : Buff := uintToBuffBe width (z % (256 ^ width : Nat)).toNat

@[simp] theorem intToBuffBe_length (width : Nat) (z : Int) :
    (intToBuffBe width z).length = width :=
  uintToBuffBe_length width _

/-- The last byte is the last digit. -/
theorem buffToUintBe_concat (buff : Buff) (byte : UInt8) :
    buffToUintBe (buff ++ [byte]) = buffToUintBe buff * 256 + byte.toNat := by
  simp [buffToUintBe]

/-- What is read from a field fits the field. -/
theorem buffToUintBe_lt (buff : Buff) : buffToUintBe buff < 256 ^ buff.length := by
  induction buff using List.reverseRecOn with
  | nil => simp [buffToUintBe]
  | append_singleton buff byte ih =>
    have hbyte := byte.toNat_lt
    rw [buffToUintBe_concat, List.length_append, List.length_singleton, Nat.pow_succ]
    omega

/-- Writing back a number that was read from a field gives the bytes of the field. -/
@[simp] theorem uintToBuffBe_buffToUintBe (buff : Buff) :
    uintToBuffBe buff.length (buffToUintBe buff) = buff := by
  induction buff using List.reverseRecOn with
  | nil => rfl
  | append_singleton buff byte ih =>
    have hbyte := byte.toNat_lt
    rw [buffToUintBe_concat, List.length_append, List.length_singleton, uintToBuffBe]
    -- dividing by 256 takes the last byte off, and the remainder is that byte
    have hdiv : (buffToUintBe buff * 256 + byte.toNat) / 256 = buffToUintBe buff := by omega
    have hlow : UInt8.ofNat (buffToUintBe buff * 256 + byte.toNat) = byte := by
      apply UInt8.toNat_inj.mp
      rw [UInt8.toNat_ofNat']
      omega
    rw [hdiv, hlow, ih]

/-- Reading a written number gives it back when it fits the field. -/
theorem buffToUintBe_uintToBuffBe {width n : Nat} (h : n < 256 ^ width) :
    buffToUintBe (uintToBuffBe width n) = n := by
  induction width generalizing n with
  | zero =>
    have hzero : n = 0 := by simpa using h
    rw [hzero]
    rfl
  | succ width ih =>
    have hdiv : n / 256 < 256 ^ width := by
      rw [Nat.pow_succ] at h
      omega
    rw [uintToBuffBe, buffToUintBe_concat, ih hdiv, UInt8.toNat_ofNat']
    omega

/-- Reading a written integer gives it back when it fits the field, negative ones included. -/
theorem buffToSignedBe_intToBuffBe {width : Nat} {z : Int}
    (hlow : -((256 ^ width : Nat) / 2 : Int) ≤ z)
    (hhigh : z < ((256 ^ width : Nat) + 1 : Int) / 2) :
    buffToSignedBe (intToBuffBe width z) = z := by
  have hpow : (0 : Int) < (256 ^ width : Nat) := Int.natCast_pos.mpr (Nat.pow_pos (by decide))
  -- the bytes hold the residue of `z`, and the balanced remainder of that residue is `z` again
  have hmod : ((z % (256 ^ width : Nat)).toNat : Int) = z % (256 ^ width : Nat) :=
    Int.toNat_of_nonneg (Int.emod_nonneg _ (Int.ne_of_gt hpow))
  have hfits : (z % (256 ^ width : Nat)).toNat < 256 ^ width := by
    have hlt := Int.emod_lt_of_pos z hpow
    omega
  rw [buffToSignedBe, intToBuffBe_length, intToBuffBe, buffToUintBe_uintToBuffBe hfits, hmod,
    Int.emod_bmod]
  exact Int.bmod_eq_of_le hlow hhigh

/-- Zeros on the left do not change a number: this is how a short buffer is padded. -/
theorem buffToUintBe_zeros_append (count : Nat) (buff : Buff) :
    buffToUintBe (List.replicate count 0 ++ buff) = buffToUintBe buff := by
  induction count with
  | zero => rfl
  | succ count ih =>
    rw [← ih, List.replicate_succ]
    rfl

/-- A short buffer is read as if it were unsigned. -/
theorem buffToIntBe_of_short {buff : Buff} (h : buff.length < 16) :
    buffToIntBe buff = buffToUintBe buff := by
  have hlt := buffToUintBe_lt buff
  -- a buffer of at most 15 bytes cannot reach the sign bit of the sixteenth
  have hpow : 256 ^ buff.length ≤ 256 ^ 15 := Nat.pow_le_pow_right (by decide) (by omega)
  have hlength : (List.replicate (16 - buff.length) (0 : UInt8) ++ buff).length = 16 := by
    rw [List.length_append, List.length_replicate]
    omega
  rw [buffToIntBe, buffToSignedBe, hlength, buffToUintBe_zeros_append]
  exact Int.bmod_eq_of_le (by omega) (by omega)

end PythBridge.Clarity
