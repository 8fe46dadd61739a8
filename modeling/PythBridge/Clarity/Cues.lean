import PythBridge.Clarity.Exec
import PythBridge.Clarity.Buff

/-!
# Clarity — records of one length, by cues

A list of records of one length is read by two folds. The first runs over the bytes, counts
them, and collects the positions at which a record starts (the cues); the second runs over the
cues and reads a record at each. Both lists are bounded, so each fold either collects everything
or aborts: `foldlM_cueStep` and `foldlM_collect` say which, and with what.

The contracts use this for the guardian addresses of an upgrade, twenty bytes each, and the decoder
of the older message format for its attestations. What makes it work is arithmetic: a position is a
cue when it is a multiple of the width, and the multiples below `count * width` are `count` many
(`range'_filter_multiples`). So the number of records that are read is the number of bytes divided
by the width, whatever the bytes are.
-/

namespace PythBridge.Clarity

variable {α β γ : Type}

/-! ## Cues

The first fold. Its accumulator is the position and the cues so far, and an entry is looked at for
nothing but being there. -/

/-- The accumulator of the first fold: the position, and the cues that were met. -/
structure CueAcc where
  cursor : Nat
  result : List Nat
deriving DecidableEq, Repr

section Cues

variable (cue : Nat → Prop) [DecidablePred cue] (capacity : Nat)

/-- Counts one byte, and keeps its position if it is a cue. -/
def cueStep (acc : CueAcc) (_entry : UInt8) : Exec CueAcc :=
  if cue acc.cursor then do
    let result ← unwrapPanicOpt (asMaxLen? (acc.result ++ [acc.cursor]) capacity)
    pure { cursor := acc.cursor + 1, result }
  else pure { cursor := acc.cursor + 1, result := acc.result }

/-- **The cues of a buffer.** Induction on the bytes; a full list aborts at the next cue. -/
theorem foldlM_cueStep (bytes : Buff) (acc : CueAcc) (hroom : acc.result.length ≤ capacity) :
    bytes.foldlM (cueStep cue capacity) acc =
      if (acc.result ++ (List.range' acc.cursor bytes.length).filter cue).length ≤ capacity then
        .ok ⟨acc.cursor + bytes.length,
          acc.result ++ (List.range' acc.cursor bytes.length).filter cue⟩
      else .error .abort := by
  induction bytes generalizing acc with
  | nil =>
    simp only [List.length_nil, List.range'_zero, List.filter_nil, List.append_nil, if_pos hroom,
      Nat.add_zero]
    rfl
  | cons byte bytes ih =>
    rw [List.foldlM_cons, List.length_cons, List.range'_succ]
    have hcount : acc.cursor + (bytes.length + 1) = acc.cursor + 1 + bytes.length := by omega
    -- the position is a cue and is kept while there is room, or it is passed over
    by_cases hcue : cue acc.cursor
    · rw [List.filter_cons_of_pos (by simpa using hcue), hcount]
      -- a full list aborts here, and the cues behind this one cannot make it shorter again
      by_cases hfull : (acc.result ++ [acc.cursor]).length ≤ capacity
      · have hstep : cueStep cue capacity acc byte =
            .ok ⟨acc.cursor + 1, acc.result ++ [acc.cursor]⟩ := by
          rw [cueStep, if_pos hcue, asMaxLen?, if_pos hfull]
          rfl
        rw [hstep]
        refine (ih ⟨acc.cursor + 1, acc.result ++ [acc.cursor]⟩ hfull).trans ?_
        simp only [List.append_assoc, List.singleton_append]
      · have hstep : cueStep cue capacity acc byte = .error .abort := by
          rw [cueStep, if_pos hcue, asMaxLen?, if_neg hfull]
          rfl
        rw [hstep, if_neg]
        · rfl
        · simp only [List.length_append, List.length_cons, List.length_nil] at hfull ⊢
          omega
    · have hstep : cueStep cue capacity acc byte = .ok ⟨acc.cursor + 1, acc.result⟩ := by
        rw [cueStep, if_neg hcue]
        rfl
      rw [hstep, List.filter_cons_of_neg (by simpa using hcue), hcount]
      exact ih ⟨acc.cursor + 1, acc.result⟩ hroom

end Cues

/-- The multiples of a width below a multiple of it. -/
theorem range'_filter_multiples {width : Nat} (hwidth : 0 < width) (count : Nat) :
    ((List.range' 0 (count * width)).filter fun position => position % width = 0) =
      (List.range count).map (· * width) := by
  induction count with
  | zero =>
    rw [Nat.zero_mul]
    rfl
  | succ count ih =>
    have hblock : (List.range' (count * width) width).filter
        (fun position => position % width = 0) = [count * width] := by
      obtain ⟨k, rfl⟩ : ∃ k, width = k + 1 := ⟨width - 1, by omega⟩
      rw [List.range'_succ, List.filter_cons_of_pos (by simp)]
      refine congrArg _ (List.filter_eq_nil_iff.mpr fun position hp => ?_)
      have hp := List.mem_range'_1.mp hp
      -- one less than a width lies between the cue and the position
      obtain ⟨j, rfl⟩ : ∃ j, position = count * (k + 1) + j :=
        ⟨position - count * (k + 1), by omega⟩
      rw [decide_eq_true_eq, Nat.mul_add_mod_self_right, Nat.mod_eq_of_lt (by omega)]
      omega
    rw [Nat.succ_mul, ← List.range'_append_1, List.filter_append, ih, List.range_succ,
      List.map_append, Nat.zero_add, hblock]
    rfl

/-! ## Reading at every cue

The second fold runs over the cues. It carries more than the list of what is read, and `foldlM_map`
takes that away. -/

/-- A fold that runs on accumulators `g` makes of others runs on those. -/
theorem foldlM_map {step : β → α → Exec β} {step' : γ → α → Exec γ} {g : γ → β}
    (hstep : ∀ acc x, step (g acc) x = (step' acc x).map g) (xs : List α) (acc : γ) :
    xs.foldlM step (g acc) = (xs.foldlM step' acc).map g := by
  induction xs generalizing acc with
  | nil => rfl
  | cons x xs ih =>
    rw [List.foldlM_cons, List.foldlM_cons, hstep]
    cases step' acc x with
    | error e => rfl
    | ok acc' => exact ih acc'

/-- **A bounded list of what is read.** A step reads its entry when the entry is good, and aborts
when it is not or when the list is full. -/
theorem foldlM_collect {good : α → Prop} [DecidablePred good] {read : α → β} {capacity : Nat}
    {step : List β → α → Exec (List β)}
    (hgood : ∀ acc x, good x →
      step acc x = unwrapPanicOpt (asMaxLen? (acc ++ [read x]) capacity))
    (hbad : ∀ acc x, ¬ good x → step acc x = .error .abort)
    (xs : List α) (acc : List β) (hroom : acc.length ≤ capacity) :
    xs.foldlM step acc =
      if (∀ x ∈ xs, good x) ∧ acc.length + xs.length ≤ capacity then .ok (acc ++ xs.map read)
      else .error .abort := by
  induction xs generalizing acc with
  | nil =>
    rw [if_pos ⟨nofun, hroom⟩, List.map_nil, List.append_nil]
    rfl
  | cons x xs ih =>
    rw [List.foldlM_cons]
    -- a bad entry aborts, a good one is read and kept while there is room
    by_cases hx : good x
    · rw [hgood acc x hx, asMaxLen?]
      -- a full list aborts, whatever follows
      by_cases hfull : (acc ++ [read x]).length ≤ capacity
      · rw [if_pos hfull]
        refine (ih (acc ++ [read x]) hfull).trans ?_
        simp only [List.forall_mem_cons, hx, true_and, List.length_append, List.length_cons,
          List.length_nil, List.map_cons, List.append_assoc, List.singleton_append,
          Nat.add_assoc, Nat.zero_add, Nat.add_comm 1]
      · rw [if_neg hfull, if_neg]
        · rfl
        · rw [List.length_append, List.length_singleton] at hfull
          rw [List.length_cons]
          omega
    · rw [hbad acc x hx, if_neg fun h => hx (h.1 x (.head _))]
      rfl

end PythBridge.Clarity
