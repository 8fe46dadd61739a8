import Mathlib.Data.Finset.Card
import Mathlib.Data.List.Forall2

/-!
# Clarity — counting distinct voters

Votes are counted by collecting each voter's mark once. `exists_nodup_forall₂` turns marks that were
collected without repetition back into as many different voters; what is collected is the set of the
marks (`foldl_collect_length`), whatever their order, and two large sets of marks meet
(`lt_three_mul_card_inter`).

A quorum rests on the first of these: the contract counts different *keys*, while the guarantee is
about different *voters*. The two numbers agree because no voter makes two marks, so two marks that
differ come from two voters.
-/

namespace PythBridge.Clarity

variable {ι α : Type}

/-- A voter who is listed has a mark across from it. -/
theorem forall₂_exists_of_mem {R : ι → α → Prop} {voters : List ι} {marks : List α}
    (h : List.Forall₂ R voters marks) {i : ι} (hi : i ∈ voters) : ∃ a ∈ marks, R i a := by
  induction h with
  | nil => cases hi
  | cons hR _ ih =>
    rcases List.mem_cons.mp hi with rfl | hi
    · exact ⟨_, .head _, hR⟩
    · obtain ⟨a, ha, hia⟩ := ih hi
      exact ⟨a, .tail _ ha, hia⟩

/-- When no voter makes two marks, different marks come from different voters. -/
theorem exists_nodup_forall₂ {R : ι → α → Prop} (hfun : ∀ i a b, R i a → R i b → a = b)
    {marks : List α} (hnodup : marks.Nodup) (h : ∀ a ∈ marks, ∃ i, R i a) :
    ∃ voters : List ι, voters.Nodup ∧ List.Forall₂ R voters marks := by
  induction marks with
  | nil => exact ⟨[], .nil, .nil⟩
  | cons a marks ih =>
    obtain ⟨hnotin, hnodup⟩ := List.nodup_cons.mp hnodup
    obtain ⟨voters, hvoters, hmarks⟩ := ih hnodup fun b hb => h b (.tail _ hb)
    obtain ⟨i, hi⟩ := h a (.head _)
    -- `i` is the voter of the mark in front
    refine ⟨i :: voters, List.nodup_cons.mpr ⟨fun hmem => hnotin ?_, hvoters⟩, .cons hi hmarks⟩
    -- a voter listed already made another mark
    obtain ⟨b, hb, hib⟩ := forall₂_exists_of_mem hmarks hmem
    rwa [hfun i a b hi hib]

/-! ## Collecting

The fold that skips what it has seen. Its length is the size of a set, so the order in which the
marks come and how often one is repeated do not matter. -/

section Collect

variable [DecidableEq α]

/-- A mark that is not collected yet goes to the end. -/
def collect (marks : List α) (a : α) : List α := if a ∈ marks then marks else marks ++ [a]

/-- Collected are the marks from before and the new one. -/
theorem mem_collect {marks : List α} {a b : α} : b ∈ collect marks a ↔ b ∈ marks ∨ b = a := by
  unfold collect
  split
  · next ha => exact ⟨.inl, fun h => h.elim id fun hb => hb ▸ ha⟩
  · rw [List.mem_append, List.mem_singleton]

/-- Nothing is collected twice. -/
theorem collect_nodup {marks : List α} (h : marks.Nodup) (a : α) : (collect marks a).Nodup := by
  unfold collect
  -- the mark is there already, or it is new and goes behind the others
  split
  · exact h
  · next ha =>
    rw [← List.concat_eq_append]
    exact h.concat ha

/-- One mark adds at most one. -/
theorem collect_length_le (marks : List α) (a : α) :
    (collect marks a).length ≤ marks.length + 1 := by
  unfold collect
  split
  · omega
  · rw [List.length_append, List.length_singleton]

/-- The fold collects every mark. -/
theorem mem_foldl_collect {xs marks : List α} {b : α} :
    b ∈ xs.foldl collect marks ↔ b ∈ marks ∨ b ∈ xs := by
  induction xs generalizing marks with
  | nil => simp
  | cons x xs ih => rw [List.foldl_cons, ih, mem_collect, List.mem_cons, or_assoc]

/-- The fold collects no mark twice. -/
theorem foldl_collect_nodup {marks : List α} (h : marks.Nodup) (xs : List α) :
    (xs.foldl collect marks).Nodup := by
  induction xs generalizing marks with
  | nil => exact h
  | cons x xs ih => exact ih (collect_nodup h x)

/-- Collecting counts the set of the marks. -/
theorem foldl_collect_length (xs : List α) : (xs.foldl collect []).length = xs.toFinset.card := by
  -- a list without repetitions is as long as its set
  have hnodup : (xs.foldl collect []).Nodup := foldl_collect_nodup .nil xs
  have hset : (xs.foldl collect []).toFinset = xs.toFinset := by
    ext b
    rw [List.mem_toFinset, List.mem_toFinset, mem_foldl_collect]
    simp
  rw [← List.toFinset_card_of_nodup hnodup, hset]

end Collect

/-! ## Two quorums

Why two quorums of one guardian set always share members. -/

/-- Two sets of more than two thirds each have more than a third in common. -/
theorem lt_three_mul_card_inter [DecidableEq α] {n : Nat} {all a b : Finset α}
    (hall : all.card ≤ n) (ha : a ⊆ all) (hb : b ⊆ all) (hcardA : n * 2 / 3 + 1 ≤ a.card)
    (hcardB : n * 2 / 3 + 1 ≤ b.card) : n < 3 * (a ∩ b).card := by
  -- inclusion and exclusion: the two sets together have at most `n` members
  have hunion : (a ∪ b).card ≤ n :=
    (Finset.card_le_card (Finset.union_subset ha hb)).trans hall
  have hsum := Finset.card_union_add_card_inter a b
  omega

end PythBridge.Clarity
