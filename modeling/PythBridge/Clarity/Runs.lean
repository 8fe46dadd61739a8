/-!
# Clarity — runs of transactions

A contract is used by one transaction after another. A run is the list of what is called;
`afterRun` is the storage it leaves, `outputs` collects something from every step, and
`Climbs` is what a counter that each success must raise leaves behind.

Everything that is said about the contracts "in every reachable state" or "over every run" goes
through this module, so the induction on the list of calls is made here and nowhere else:

* **`afterRun_invariant`** — what every step keeps, a run keeps.
* **`afterRun_rel`, `outputs_rel`** — what relates the ends of every step, with what the step puts
  out, relates the ends of a run with all that it put out. The relation has to compose.
* **`exists_step_of_afterRun`, `exists_step_of_mem_outputs`** — from what a run did back to the step
  that did it, with the run in front of that step.
* **`forall_states_iff_outputs`, `Path.forall_states_iff`** — an *exact* condition for runs: `P`
  holds in every state on the way exactly when every output, or label, is good. A bug that some
  calls have is stated with these.

`Path` is for nested calls: a transaction that runs foreign code is a sequence of smaller steps, of
which only the effects are known.
-/

namespace PythBridge.Clarity

variable {σ ε β : Type}

/-! ## Runs -/

/-- The state after `events`, one step each. -/
def afterRun (step : σ → ε → σ) (s : σ) (events : List ε) : σ := events.foldl step s

/-- What the steps of a run put out, in order. -/
def outputs (step : σ → ε → σ) (out : σ → ε → List β) : σ → List ε → List β
  | _, [] => []
  | s, e :: events => out s e ++ outputs step out (step s e) events

variable {step : σ → ε → σ}

/-- Two runs one after the other. -/
theorem afterRun_append (s : σ) (events more : List ε) :
    afterRun step s (events ++ more) = afterRun step (afterRun step s events) more :=
  List.foldl_append

/-- **The rule of invariants.** Only the events of this run have to keep `P`. -/
theorem afterRun_invariant {P : σ → Prop} {events : List ε}
    (hstep : ∀ s, ∀ e ∈ events, P s → P (step s e)) {s : σ} (hs : P s) :
    P (afterRun step s events) := by
  induction events generalizing s with
  | nil => exact hs
  | cons e events ih =>
    exact ih (fun s e he => hstep s e (.tail _ he)) (hstep s e (.head _) hs)

/-- What holds after a run and did not hold before it was brought about by one of its steps. -/
theorem exists_step_of_afterRun {P : σ → Prop} {events : List ε} {s : σ} (hs : ¬ P s)
    (h : P (afterRun step s events)) :
    ∃ before e after, events = before ++ e :: after ∧ ¬ P (afterRun step s before) ∧
      P (step (afterRun step s before) e) := by
  induction events generalizing s with
  | nil => exact absurd h hs
  | cons e events ih =>
    -- either the first step brings `P` about, or `P` still does not hold behind it
    by_cases he : P (step s e)
    · exact ⟨[], e, events, rfl, hs, he⟩
    · obtain ⟨before, e', after, rfl, hbefore, hafter⟩ := ih he h
      exact ⟨e :: before, e', after, rfl, hbefore, hafter⟩

/-- A relation that composes and relates the ends of every step relates the ends of a run.
The relation also sees what the steps put out. -/
theorem outputs_rel (out : σ → ε → List β) {R : σ → List β → σ → Prop}
    (hrefl : ∀ s, R s [] s)
    (htrans : ∀ s xs t ys u, R s xs t → R t ys u → R s (xs ++ ys) u)
    {events : List ε} (hstep : ∀ s, ∀ e ∈ events, R s (out s e) (step s e)) (s : σ) :
    R s (outputs step out s events) (afterRun step s events) := by
  induction events generalizing s with
  | nil => exact hrefl s
  | cons e events ih =>
    exact htrans _ _ _ _ _ (hstep s e (.head _)) (ih (fun s e he => hstep s e (.tail _ he)) _)

/-- The same for a relation that does not look at outputs. -/
theorem afterRun_rel {R : σ → σ → Prop} (hrefl : ∀ s, R s s)
    (htrans : ∀ s t u, R s t → R t u → R s u)
    {events : List ε} (hstep : ∀ s, ∀ e ∈ events, R s (step s e)) (s : σ) :
    R s (afterRun step s events) :=
  outputs_rel (fun _ _ => ([] : List Unit)) (R := fun s _ t => R s t) hrefl
    (fun s _ t _ u => htrans s t u) hstep s

/-- Where a step keeps `P` exactly when everything it puts out is good, `P` holds in every state of
a run exactly when everything the run puts out is good. -/
theorem forall_states_iff_outputs {P : σ → Prop} {good : β → Prop} {out : σ → ε → List β}
    (hstep : ∀ s e, P s → (P (step s e) ↔ ∀ x ∈ out s e, good x)) (events : List ε) {s : σ}
    (hs : P s) :
    (∀ before, before <+: events → P (afterRun step s before)) ↔
      ∀ x ∈ outputs step out s events, good x := by
  induction events generalizing s with
  | nil =>
    refine ⟨fun _ => List.forall_mem_nil _, fun _ before hbefore => ?_⟩
    rw [List.prefix_nil.mp hbefore]
    exact hs
  | cons e events ih =>
    show _ ↔ ∀ x ∈ out s e ++ outputs step out (step s e) events, good x
    rw [List.forall_mem_append]
    constructor
    · intro hstates
      have hnext : P (step s e) := hstates [e] ⟨events, rfl⟩
      refine ⟨(hstep s e hs).mp hnext, (ih hnext).mp fun before hbefore => ?_⟩
      exact hstates (e :: before) ((List.prefix_cons_inj e).mpr hbefore)
    · rintro ⟨hfirst, hrest⟩ before hbefore
      have hnext := (hstep s e hs).mpr hfirst
      -- a prefix is empty, or it starts with the first step
      cases before with
      | nil => exact hs
      | cons e' before =>
        obtain ⟨rfl, hinitial⟩ := List.cons_prefix_cons.mp hbefore
        exact (ih hnext).mpr hrest before hinitial

/-- What a run puts out was put out by one of its steps. -/
theorem exists_step_of_mem_outputs {out : σ → ε → List β} {events : List ε} {s : σ} {x : β}
    (h : x ∈ outputs step out s events) :
    ∃ before e after, events = before ++ e :: after ∧ x ∈ out (afterRun step s before) e := by
  induction events generalizing s with
  | nil => exact nomatch h
  | cons e events ih =>
    -- the output is one of the first step, or of the run behind it
    rcases List.mem_append.mp h with he | hrest
    · exact ⟨[], e, events, rfl, he⟩
    · obtain ⟨before, e', after, rfl, hx⟩ := ih hrest
      exact ⟨e :: before, e', after, rfl, hx⟩

/-! ## Paths

A path is a run whose steps are a relation: what a step does is not determined by its label, or only
partly known. -/

/-- From a state to another, by steps with these labels. -/
inductive Path (Step : σ → ε → σ → Prop) : σ → List ε → σ → Prop where
  | nil (s : σ) : Path Step s [] s
  | cons {s t u : σ} {e : ε} {effects : List ε} (hstep : Step s e t)
      (rest : Path Step t effects u) : Path Step s (e :: effects) u

namespace Path

variable {Step : σ → ε → σ → Prop} {s t u : σ} {e : ε} {xs ys : List ε}

theorem single (h : Step s e t) : Path Step s [e] t := .cons h (.nil t)

theorem append (h : Path Step s xs t) (h' : Path Step t ys u) : Path Step s (xs ++ ys) u := by
  induction h with
  | nil => exact h'
  | cons hstep _ ih => exact .cons hstep (ih h')

/-- A relation that composes and relates the ends of every step relates the ends of a path.
The relation also sees what is collected from the labels. -/
theorem rel (out : ε → List β) {R : σ → List β → σ → Prop} (hrefl : ∀ s, R s [] s)
    (htrans : ∀ s xs t ys u, R s xs t → R t ys u → R s (xs ++ ys) u)
    (hstep : ∀ s e t, Step s e t → R s (out e) t) (h : Path Step s xs t) :
    R s (xs.flatMap out) t := by
  induction h with
  | nil => exact hrefl _
  | cons hs _ ih => exact htrans _ _ _ _ _ (hstep _ _ _ hs) ih

/-- A path with its labels in two parts passes through a state between them. -/
theorem split (h : Path Step s (xs ++ ys) u) : ∃ t, Path Step s xs t ∧ Path Step t ys u := by
  induction xs generalizing s with
  | nil => exact ⟨s, .nil s, h⟩
  | cons e xs ih =>
    cases h with
    | cons hstep rest =>
      obtain ⟨t, hbefore, hafter⟩ := ih rest
      exact ⟨t, .cons hstep hbefore, hafter⟩

/-- The rule of invariants for paths. -/
theorem invariant {P : σ → Prop} (h : Path Step s xs t)
    (hstep : ∀ s t, ∀ e ∈ xs, Step s e t → P s → P t) (hs : P s) : P t := by
  induction h with
  | nil => exact hs
  | cons hfirst _ ih =>
    exact ih (fun s t e he => hstep s t e (.tail _ he)) (hstep _ _ _ (.head _) hfirst hs)

/-- Where a step keeps `P` exactly when its label is good, `P` holds in every state of a path
exactly when all its labels are good. -/
theorem forall_states_iff {P : σ → Prop} {good : ε → Prop} (h : Path Step s xs t)
    (hstep : ∀ s e t, Step s e t → P s → (P t ↔ good e)) (hs : P s) :
    (∀ before m, before <+: xs → Path Step s before m → P m) ↔ ∀ e ∈ xs, good e := by
  constructor
  · -- the state in front of the step and the one behind it are both on the way
    intro hstates e he
    obtain ⟨before, after, rfl⟩ := List.append_of_mem he
    obtain ⟨m, hbefore, hrest⟩ := h.split
    cases hrest with
    | cons hfirst _ =>
      have hm := hstates before m (List.prefix_append _ _) hbefore
      have hnext := hstates (before ++ [e]) _ ⟨after, (List.append_cons before e after).symm⟩
        (hbefore.append (.single hfirst))
      exact (hstep m e _ hfirst hm).mp hnext
  · intro hgood before m hinitial hbefore
    exact hbefore.invariant (fun s t e he hfirst hP =>
      (hstep s e t hfirst hP).mpr (hgood e (hinitial.subset he))) hs

end Path

/-! ## Counters

Sequence numbers and guardian set ids: each success has to bring a greater one. `Climbs` composes
like a run does, and `Climbs.pairwise` reads the strict order off the end. -/

/-- A counter goes from `a` to `b` through the values `xs`, each greater than the one
before. -/
inductive Climbs : Nat → List Nat → Nat → Prop where
  | nil (a : Nat) : Climbs a [] a
  | cons {a x b : Nat} {xs : List Nat} (hlt : a < x) (rest : Climbs x xs b) :
      Climbs a (x :: xs) b

namespace Climbs

variable {a b c x : Nat} {xs ys : List Nat}

theorem single (h : a < b) : Climbs a [b] b := .cons h (.nil b)

theorem append (h : Climbs a xs b) (h' : Climbs b ys c) : Climbs a (xs ++ ys) c := by
  induction h with
  | nil => exact h'
  | cons hlt _ ih => exact .cons hlt (ih h')

/-- A counter never falls. -/
theorem le (h : Climbs a xs b) : a ≤ b := by
  induction h with
  | nil => exact Nat.le_refl _
  | cons hlt _ ih => omega

/-- Every value is above the one that the counter started from. -/
theorem lt_of_mem (h : Climbs a xs b) (hx : x ∈ xs) : a < x := by
  induction h with
  | nil => cases hx
  | cons hlt _ ih =>
    -- the first value, or a later one, which is above the first
    rcases List.mem_cons.mp hx with rfl | hx
    · exact hlt
    · have := ih hx
      omega

/-- The values are strictly increasing. -/
theorem pairwise (h : Climbs a xs b) : xs.Pairwise (· < ·) := by
  induction h with
  | nil => exact .nil
  | cons _ rest ih => exact .cons (fun y hy => rest.lt_of_mem hy) ih

end Climbs

end PythBridge.Clarity
