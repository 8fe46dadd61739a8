import Mathlib.Data.List.Forall2
import PythBridge.Clarity.Exec

/-!
# Clarity — mapping a function that may fail

`map` over a list whose entries are taken one after another: the whole map yields values exactly
when every entry does, and the values stand in the order of the entries. Mathlib has the definition
of `mapM` and its equations for `nil` and `cons`; what is added here is the relation between the two
lists, as a `Forall₂`, once for `Except` and once for `Option`.
-/

namespace PythBridge.Clarity

/-- The map yields `ys` exactly when `ys` has one entry for each of `xs`, in order, and each is what
`f` yields. -/
theorem mapM_eq_ok {α β : Type} {f : α → Exec β} {xs : List α} {ys : List β} :
    xs.mapM f = .ok ys ↔ List.Forall₂ (fun x y => f x = .ok y) xs ys := by
  induction xs generalizing ys with
  | nil =>
    rw [List.mapM_nil, exec_pure_eq_ok, List.forall₂_nil_left_iff, eq_comm]
  | cons x xs ih =>
    simp only [List.mapM_cons, exec_bind_eq_ok, exec_pure_eq_ok, ih, List.forall₂_cons_left_iff]
    constructor
    · -- the entry in front and the rest are mapped apart, in both directions
      rintro ⟨y, hy, ys, hys, rfl⟩
      exact ⟨y, ys, hy, hys, rfl⟩
    · rintro ⟨y, ys, hy, hys, rfl⟩
      exact ⟨y, hy, ys, hys, rfl⟩

/-- The same for a function that has no error to report. -/
theorem mapM_eq_some {α β : Type} {f : α → Option β} {xs : List α} {ys : List β} :
    xs.mapM f = some ys ↔ List.Forall₂ (fun x y => f x = some y) xs ys := by
  induction xs generalizing ys with
  | nil =>
    rw [List.mapM_nil, List.forall₂_nil_left_iff, eq_comm]
    exact Option.some_inj
  | cons x xs ih =>
    simp only [List.mapM_cons, Option.bind_eq_bind, Option.bind_eq_some_iff, Option.pure_def,
      Option.some_inj, ih, List.forall₂_cons_left_iff]
    constructor
    · rintro ⟨y, hy, ys, hys, rfl⟩
      exact ⟨y, ys, hy, hys, rfl⟩
    · rintro ⟨y, ys, hy, hys, rfl⟩
      exact ⟨y, hy, ys, hys, rfl⟩

/-- The whole map yields a value exactly when every entry does. -/
theorem exists_mapM_eq_some {α β : Type} {f : α → Option β} {xs : List α} :
    (∃ ys, xs.mapM f = some ys) ↔ ∀ x ∈ xs, ∃ y, f x = some y := by
  simp only [mapM_eq_some]
  induction xs with
  | nil => exact ⟨fun _ => nofun, fun _ => ⟨[], .nil⟩⟩
  | cons x xs ih =>
    simp only [List.forall_mem_cons, ← ih, List.forall₂_cons_left_iff]
    constructor
    · rintro ⟨_, y, ys, hy, hys, rfl⟩
      exact ⟨⟨y, hy⟩, ys, hys⟩
    · rintro ⟨⟨y, hy⟩, ys, hys⟩
      exact ⟨_, y, ys, hy, hys, rfl⟩

/-- An entry of the second list stands across from one of the first. -/
theorem exists_mem_of_forall₂ {α β : Type} {R : α → β → Prop} {xs : List α} {ys : List β}
    (h : List.Forall₂ R xs ys) : ∀ y ∈ ys, ∃ x ∈ xs, R x y := by
  induction h with
  | nil => exact nofun
  | cons hxy _ ih =>
    intro y hy
    -- the entry in front has its partner in front
    rcases List.mem_cons.mp hy with rfl | hy
    · exact ⟨_, .head _, hxy⟩
    · obtain ⟨x, hx, hR⟩ := ih y hy
      exact ⟨x, .tail _ hx, hR⟩

end PythBridge.Clarity
