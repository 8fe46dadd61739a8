import Mathlib.Data.List.Perm.Basic
import Mathlib.Logic.Function.Basic
import PythBridge.Clarity.Buff

/-!
# Clarity — the latest entry of every key

Entries with a key and a time are processed one after another; an entry is accepted when it is
newer than the last accepted one of its key. What is accepted depends on the order, but the last
accepted entry of a key does not: it is the newest of the whole list
(`lastOf_accepted_eq_some`).

This is the store of the oracle without the oracle: prices are entries, feed identifiers are keys
and publish times are times. A batch may contain a feed more than once and in any order, and each
entry is compared with what the entries in front of it left on record. The crux is
`time_le_foldl_record`: at the end the record is at least as new as *every* entry, accepted or not.

* **`lastOf_accepted_eq_some`, `lastOf_accepted_eq_none`** — which entry of a key is left on record.
* **`accepted_append`** — two batches one after the other are one batch.
* **`lastOf_accepted_congr`, `lastOf_accepted_perm`** — order and repetition do not matter, unless
  two different entries of one key have one time.
-/

namespace PythBridge.Clarity

variable {κ α β : Type} [DecidableEq κ]

/-! ## The last entry of a key

What a map holds after entries were written into it one after another. -/

/-- The last entry of the key in the list, if it has one there. -/
def lastOf (key : α → κ) (k : κ) (l : List α) : Option α := (l.filter (key · = k)).getLast?

section LastOf

variable {key : α → κ} {k : κ} {a : α} {l : List α}

/-- An entry in front counts only when none of its key follows. -/
theorem lastOf_cons :
    lastOf key k (a :: l) = (lastOf key k l).or (if key a = k then some a else none) := by
  unfold lastOf
  -- an entry of another key is filtered out
  by_cases hkey : key a = k
  · rw [List.filter_cons_of_pos (by simpa using hkey), List.getLast?_cons, if_pos hkey]
    cases (l.filter (key · = k)).getLast? <;> rfl
  · rw [List.filter_cons_of_neg (by simpa using hkey), if_neg hkey, Option.or_none]

/-- The last entry of a key is an entry, and of that key. -/
theorem mem_of_lastOf (h : lastOf key k l = some a) : a ∈ l ∧ key a = k := by
  have hmem := List.mem_filter.mp (List.mem_of_getLast? h)
  exact ⟨hmem.1, by simpa using hmem.2⟩

/-- A key has no last entry exactly when no entry is of that key. -/
theorem lastOf_eq_none : lastOf key k l = none ↔ ∀ a ∈ l, key a ≠ k := by
  rw [lastOf, List.getLast?_eq_none_iff, List.filter_eq_nil_iff]
  simp only [decide_eq_true_eq, ne_eq]

/-- Writing entries one after another leaves the last one of every key. -/
theorem foldl_update_apply (value : α → β) (m : κ → β) (k : κ) (l : List α) :
    l.foldl (fun m a => Function.update m (key a) (value a)) m k =
      ((lastOf key k l).map value).getD (m k) := by
  induction l generalizing m with
  | nil => rfl
  | cons a l ih =>
    rw [List.foldl_cons, ih, lastOf_cons]
    -- a later entry of the key overwrites this one, so it matters only when there is none
    cases hlast : lastOf key k l with
    | some b => rfl
    | none =>
      by_cases hkey : key a = k
      · subst hkey
        rw [if_pos rfl]
        exact Function.update_self ..
      · rw [if_neg hkey]
        exact Function.update_of_ne (Ne.symm hkey) ..

end LastOf

/-- `map-set` is an update of the function. -/
theorem DataMap.set_eq_update {ν : Type} (m : DataMap κ ν) (key : κ) (value : ν) :
    m.set key value = Function.update m key (some value) := by
  funext k
  by_cases hkey : k = key
  · subst hkey
    rw [DataMap.set_self, Function.update_self]
  · rw [DataMap.set_of_ne m value hkey, Function.update_of_ne hkey]

/-! ## Acceptance

An entry is compared with the record at its turn, which the entries in front of it may have moved.
-/

section Accepted

variable (key : α → κ) (time : α → Nat)

/-- The times on record after an entry is accepted. -/
def record (recorded : κ → Nat) (a : α) : κ → Nat := Function.update recorded (key a) (time a)

/-- The entries that are newer than the time on record for their key when their turn comes. -/
def accepted (recorded : κ → Nat) : List α → List α
  | [] => []
  | a :: l =>
    if recorded (key a) < time a then a :: accepted (record key time recorded a) l
    else accepted recorded l

variable {key time} {recorded : κ → Nat} {l l' : List α} {k : κ} {a : α}

/-- The accepted entry is on record. -/
theorem record_self : record key time recorded a (key a) = time a := Function.update_self ..

/-- Accepting a newer entry raises no record but its own, and that one only upwards. -/
theorem le_record (h : recorded (key a) < time a) (k : κ) :
    recorded k ≤ record key time recorded a k := by
  -- its own key was older by acceptance, and any other keeps its record
  by_cases hkey : k = key a
  · subst hkey
    rw [record_self]
    exact Nat.le_of_lt h
  · have hsame : record key time recorded a k = recorded k := Function.update_of_ne hkey ..
    exact Nat.le_of_eq hsame.symm

/-- The record of a key after some entries is the time of its last one, or the one from before. -/
theorem foldl_record_apply (recorded : κ → Nat) (k : κ) (l : List α) :
    l.foldl (record key time) recorded k = ((lastOf key k l).map time).getD (recorded k) :=
  foldl_update_apply time recorded k l

/-- What is accepted was there, in that order. -/
theorem accepted_sublist (recorded : κ → Nat) (l : List α) :
    (accepted key time recorded l).Sublist l := by
  induction l generalizing recorded with
  | nil => exact .slnil
  | cons a l ih =>
    rw [accepted]
    split
    · exact (ih _).cons_cons a
    · exact (ih _).cons a

/-- An accepted entry is newer than what was on record before *all* of them: the record of its key
only rose until its turn. -/
theorem lt_of_mem_accepted (h : a ∈ accepted key time recorded l) : recorded (key a) < time a := by
  induction l generalizing recorded with
  | nil => cases h
  | cons b l ih =>
    rw [accepted] at h
    -- the entry in front raised records and lowered none, or it was passed over
    split at h
    · next hb =>
      rcases List.mem_cons.mp h with rfl | h
      · exact hb
      · exact Nat.lt_of_le_of_lt (le_record hb (key a)) (ih h)
    · exact ih h

/-- The accepted entries of one key are in the order of their times. -/
theorem accepted_pairwise (recorded : κ → Nat) (l : List α) :
    (accepted key time recorded l).Pairwise fun a b => key a = key b → time a < time b := by
  induction l generalizing recorded with
  | nil => exact .nil
  | cons a l ih =>
    rw [accepted]
    split
    · -- whatever is accepted behind this entry was compared with a record that contains it
      refine .cons (fun b hb hkey => ?_) (ih _)
      have hnewer := lt_of_mem_accepted hb
      rwa [← hkey, record_self] at hnewer
    · exact ih _

/-- Two lists one after the other: the second is accepted against the record that the first one
left. -/
theorem accepted_append (recorded : κ → Nat) (l l' : List α) :
    accepted key time recorded (l ++ l') = accepted key time recorded l ++
      accepted key time ((accepted key time recorded l).foldl (record key time) recorded) l' := by
  induction l generalizing recorded with
  | nil => rfl
  | cons a l ih =>
    rw [List.cons_append, accepted, accepted]
    -- an accepted entry is on record for both parts
    split
    · rw [ih, List.foldl_cons, List.cons_append]
    · exact ih _

/-- Nothing is accepted exactly when nothing is newer than the record. -/
theorem accepted_eq_nil_iff :
    accepted key time recorded l = [] ↔ ∀ a ∈ l, time a ≤ recorded (key a) := by
  induction l with
  | nil => simp [accepted]
  | cons a l ih =>
    rw [accepted, List.forall_mem_cons]
    -- accepting the first entry is accepting something; otherwise the record is still the same
    split
    · next ha => exact ⟨fun hnil => absurd hnil (by simp), fun h => by omega⟩
    · next ha => rw [ih, and_iff_right (Nat.not_lt.mp ha)]

/-- The record only rises. -/
theorem le_foldl_record (key : α → κ) (time : α → Nat) (recorded : κ → Nat) (l : List α)
    (k : κ) :
    recorded k ≤ (accepted key time recorded l).foldl (record key time) recorded k := by
  induction l generalizing recorded with
  | nil => exact Nat.le_refl _
  | cons a l ih =>
    rw [accepted]
    split
    · next ha => exact Nat.le_trans (le_record ha k) (ih _)
    · exact ih _

/-- The final record is at least as new as every entry. Induction on the entries; an entry that
is not accepted is not newer than the record of its turn, which only rises. -/
theorem time_le_foldl_record (key : α → κ) (time : α → Nat) (recorded : κ → Nat)
    (l : List α) :
    ∀ b ∈ l, time b ≤ (accepted key time recorded l).foldl (record key time) recorded (key b) := by
  induction l generalizing recorded with
  | nil =>
    intro b hb
    cases hb
  | cons a l ih =>
    intro b hb
    rw [accepted]
    -- the entry in front is accepted and put on record, or it was not newer than the record
    split
    · next ha =>
      rw [List.foldl_cons]
      rcases List.mem_cons.mp hb with rfl | hb
      · have hle := le_foldl_record key time (record key time recorded b) l (key b)
        rwa [record_self] at hle
      · exact ih _ b hb
    · next ha =>
      rcases List.mem_cons.mp hb with rfl | hb
      · exact Nat.le_trans (Nat.not_lt.mp ha) (le_foldl_record key time recorded l (key b))
      · exact ih _ b hb

/-- **The last accepted entry of a key is its newest entry.** -/
theorem lastOf_accepted_eq_some (h : lastOf key k (accepted key time recorded l) = some a) :
    a ∈ l ∧ key a = k ∧ recorded k < time a ∧ ∀ b ∈ l, key b = k → time b ≤ time a := by
  obtain ⟨hmem, hkey⟩ := mem_of_lastOf h
  have hnewer := lt_of_mem_accepted hmem
  rw [hkey] at hnewer
  refine ⟨(accepted_sublist recorded l).subset hmem, hkey, hnewer, fun b hb hbk => ?_⟩
  -- the last accepted entry of the key holds the record, and no entry is newer than that
  have hle := time_le_foldl_record key time recorded l b hb
  rwa [hbk, foldl_record_apply, h] at hle

/-- Nothing of a key is accepted exactly when nothing of it is newer than the record. -/
theorem lastOf_accepted_eq_none :
    lastOf key k (accepted key time recorded l) = none ↔
      ∀ b ∈ l, key b = k → time b ≤ recorded k := by
  constructor
  · intro h b hb hbk
    have hle := time_le_foldl_record key time recorded l b hb
    rwa [hbk, foldl_record_apply, h] at hle
  · intro h
    refine lastOf_eq_none.mpr fun a ha hak => ?_
    have hnewer := lt_of_mem_accepted ha
    have hle := h a ((accepted_sublist recorded l).subset ha) hak
    rw [hak] at hnewer
    omega

/-- A newest entry that is newer than the record is the last accepted one, when entries of one
key and one time are the same. -/
theorem lastOf_accepted_of_newest
    (hties : ∀ a ∈ l, ∀ b ∈ l, key a = key b → time a = time b → a = b) (hmem : a ∈ l)
    (hkey : key a = k) (hnewer : recorded k < time a)
    (hnewest : ∀ b ∈ l, key b = k → time b ≤ time a) :
    lastOf key k (accepted key time recorded l) = some a := by
  -- something of the key is accepted, and it is the newest, so it has the time of this entry
  cases hlast : lastOf key k (accepted key time recorded l) with
  | none =>
    have hle := lastOf_accepted_eq_none.mp hlast a hmem hkey
    omega
  | some b =>
    obtain ⟨hb, hbk, -, hmax⟩ := lastOf_accepted_eq_some hlast
    have htime : time b = time a := Nat.le_antisymm (hnewest b hb hbk) (hmax a hmem hkey)
    rw [hties b hb a hmem (hbk.trans hkey.symm) htime]

/-- Neither the order of the entries nor how often one comes matters for what is accepted last. -/
theorem lastOf_accepted_congr (hmem : ∀ a, a ∈ l ↔ a ∈ l')
    (hties : ∀ a ∈ l, ∀ b ∈ l, key a = key b → time a = time b → a = b) (k : κ) :
    lastOf key k (accepted key time recorded l') = lastOf key k (accepted key time recorded l) := by
  -- no new entry in one order is no new entry in the other
  cases hlast : lastOf key k (accepted key time recorded l') with
  | none =>
    have hle := lastOf_accepted_eq_none.mp hlast
    exact (lastOf_accepted_eq_none.mpr fun b hb => hle b ((hmem b).mp hb)).symm
  | some a =>
    obtain ⟨ha, hkey, hnewer, hmax⟩ := lastOf_accepted_eq_some hlast
    exact (lastOf_accepted_of_newest hties ((hmem a).mpr ha) hkey hnewer
      fun b hb => hmax b ((hmem b).mp hb)).symm

/-- In particular a permutation of the entries leaves the same on record. -/
theorem lastOf_accepted_perm (hperm : l.Perm l')
    (hties : ∀ a ∈ l, ∀ b ∈ l, key a = key b → time a = time b → a = b) (k : κ) :
    lastOf key k (accepted key time recorded l') = lastOf key k (accepted key time recorded l) :=
  lastOf_accepted_congr (fun _ => hperm.mem_iff) hties k

end Accepted

end PythBridge.Clarity
