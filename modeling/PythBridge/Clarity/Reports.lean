import PythBridge.Clarity.Exec

/-!
# Clarity — bodies that report

A caller can handle an error response and cannot handle an abort. `Reports errors x` says that `x`
yields a value or exits early with an error of `errors`. The rules are equivalences, one for each
control function: rewriting a body with them computes the exact condition under which it reports.
With no errors at all (`Returns`) the same rules compute when it yields a value.

This is a weakest precondition calculus with one postcondition, "does not abort": every rule moves
the question from a body to the parts behind its first step.

* **`reports_bind`** — the rule of sequence. The condition on the rest is only asked for the value
  that the first step yields.
* **`reports_asserts_bind`, `reports_unwrap_bind`, …** — the control functions that exit with an
  error that is allowed: what follows is asked only when they pass.
* **`reports_unwrapPanic_bind`, `reports_unwrapPanicOpt_bind`** — those that abort: here the
  condition is an *exists*, since a failing step is no longer fine.
* **`returns_asserts_bind`, `returns_unwrap_bind`** — the same when no error is allowed.
* **`StepsOn.foldlM`** — the rule of folds, with an invariant of the accumulator.
* **`Contract.reports_bind`, `Contract.reports_transaction`** — the rules over storage.
-/

namespace PythBridge.Clarity

variable {α β γ : Type} {errors : Nat → Prop}

/-- `x` yields a value or exits early with an error of `errors`; it does not abort. -/
inductive Reports (errors : Nat → Prop) : Exec α → Prop where
  | ok (a : α) : Reports errors (.ok a)
  | err {code : Nat} (hcode : errors code) : Reports errors (.error (.err code))

/-- `x` yields a value. -/
abbrev Returns (x : Exec α) : Prop := Reports (fun _ => False) x

@[simp] theorem reports_ok {a : α} : Reports errors (.ok a : Exec α) := .ok a

/-- An early return reports exactly when its code is one of the allowed ones. -/
@[simp] theorem reports_err {code : Nat} :
    Reports errors (.error (.err code) : Exec α) ↔ errors code :=
  ⟨fun h => by cases h; assumption, .err⟩

/-- An abort never reports. -/
@[simp] theorem not_reports_abort : ¬ Reports errors (.error .abort : Exec α) := nofun

/-- A body that may report no error at all yields a value. -/
theorem returns_iff {x : Exec α} : Returns x ↔ ∃ a, x = .ok a := by
  rcases x with (code | _) | a <;> simp

/-- There are only three ways to end: what does not report although every error is allowed has
aborted. -/
theorem eq_abort_of_not_reports {x : Exec α} (h : ¬ Reports (fun _ => True) x) :
    x = .error .abort := by
  -- an early return and a value both report; the abort is what is left
  rcases x with (code | _) | a
  · exact absurd (.err trivial) h
  · rfl
  · exact absurd (.ok a) h

/-! ## Rules

Each rule is named after the control function that the body starts with. `_bind` rules have a rest
behind it, the others end the body. -/

/-- **Sequence.** The first step reports, and the rest does from the value that it yields. -/
theorem reports_bind {x : Exec α} {f : α → Exec β} :
    Reports errors (x >>= f) ↔ Reports errors x ∧ ∀ a, x = .ok a → Reports errors (f a) := by
  rcases x with (code | _) | a <;> simp [bind, Except.bind]

/-- A function of the value does not change how a body ends. -/
theorem reports_map {x : Exec α} {f : α → β} : Reports errors (x.map f) ↔ Reports errors x := by
  rcases x with (code | _) | a <;> simp [Except.map]

@[simp] theorem reports_pure {a : α} : Reports errors (pure a) := .ok a

/-- Behind `asserts!` with an allowed code the rest has to report only when the check passes. -/
theorem reports_asserts_bind {thing : Prop} [Decidable thing] {code : Nat} {f : Unit → Exec β}
    (hcode : errors code) :
    Reports errors (asserts thing code >>= f) ↔ (thing → Reports errors (f ())) := by
  unfold asserts
  by_cases h : thing <;> simp [h, bind, Except.bind, hcode]

/-- A check that ends a body reports either way. -/
theorem reports_asserts {thing : Prop} [Decidable thing] {code : Nat} (hcode : errors code) :
    Reports errors (asserts thing code) := by
  unfold asserts
  -- the check passes, or exits with the allowed code
  split
  · exact .ok ()
  · exact .err hcode

/-- When no error is allowed, the check has to pass. -/
theorem returns_asserts_bind {thing : Prop} [Decidable thing] {code : Nat} {f : Unit → Exec β} :
    Returns (asserts thing code >>= f) ↔ thing ∧ Returns (f ()) := by
  unfold asserts
  by_cases h : thing <;> simp [h, bind, Except.bind]

/-- Behind `unwrap!` of a response with an allowed code. -/
theorem reports_unwrap_bind {input : Response α} {code : Nat} {f : α → Exec β}
    (hcode : errors code) :
    Reports errors (unwrap input code >>= f) ↔
      ∀ a, input = .ok a → Reports errors (f a) := by
  rcases input with _ | a <;> simp [unwrap, bind, Except.bind, hcode]

/-- When no error is allowed, the response has to be ok. -/
theorem returns_unwrap_bind {input : Response α} {code : Nat} {f : α → Exec β} :
    Returns (unwrap input code >>= f) ↔ ∃ a, input = .ok a ∧ Returns (f a) := by
  rcases input with _ | a <;> simp [unwrap, bind, Except.bind]

/-- `unwrap!` of an optional at the end of a body reports either way. -/
theorem reports_unwrapOpt {input : Option α} {code : Nat} (hcode : errors code) :
    Reports errors (unwrapOpt input code) := by
  rcases input with _ | a
  · exact .err hcode
  · exact .ok a

/-- Behind `unwrap!` of an optional with an allowed code. -/
theorem reports_unwrapOpt_bind {input : Option α} {code : Nat} {f : α → Exec β}
    (hcode : errors code) :
    Reports errors (unwrapOpt input code >>= f) ↔
      ∀ a, input = some a → Reports errors (f a) := by
  rcases input with _ | a <;> simp [unwrapOpt, bind, Except.bind, hcode]

/-- `try!` hands on whatever error is inside, so all of these have to be allowed. -/
theorem reports_tryResponse {input : Response α}
    (herrors : ∀ code, input = .error code → errors code) : Reports errors (tryResponse input) := by
  rcases input with code | a
  · exact .err (herrors code rfl)
  · exact .ok a

/-- Behind `try!`, when the errors inside are allowed. -/
theorem reports_tryResponse_bind {input : Response α} {f : α → Exec β}
    (herrors : ∀ code, input = .error code → errors code) :
    Reports errors (tryResponse input >>= f) ↔
      ∀ a, input = .ok a → Reports errors (f a) := by
  -- an error inside is handed on and is allowed; a value goes to the rest
  rcases input with code | a
  · simp [tryResponse, bind, Except.bind, herrors code rfl]
  · simp [tryResponse, bind, Except.bind]

/-- **`unwrap-panic`.** The response has to be ok: an error inside is lost in an abort. -/
theorem reports_unwrapPanic_bind {input : Response α} {f : α → Exec β} :
    Reports errors (unwrapPanic input >>= f) ↔
      ∃ a, input = .ok a ∧ Reports errors (f a) := by
  rcases input with _ | a <;> simp [unwrapPanic, bind, Except.bind]

/-- The same for an optional. -/
theorem reports_unwrapPanicOpt_bind {input : Option α} {f : α → Exec β} :
    Reports errors (unwrapPanicOpt input >>= f) ↔
      ∃ a, input = some a ∧ Reports errors (f a) := by
  rcases input with _ | a <;> simp [unwrapPanicOpt, bind, Except.bind]

/-- The same at the end of a body. -/
theorem reports_unwrapPanicOpt {input : Option α} :
    Reports errors (unwrapPanicOpt input) ↔ ∃ a, input = some a := by
  rcases input with _ | a <;> simp [unwrapPanicOpt]

/-! ## Folds

A fold of the contracts takes a step or aborts in it, and which of the two is told from the
entry and its position. -/

section Folds

variable {step : β → α → Exec β} {I : Nat → β → Prop} {good : Nat → α → Prop} {room : Nat}

/-- In front of every position below `room`, where `I` holds of the accumulator: the step is
taken for a good entry, and `I` holds in front of the next position; for any other entry it
aborts. -/
structure StepsOn (step : β → α → Exec β) (I : Nat → β → Prop) (good : Nat → α → Prop)
    (room : Nat) : Prop where
  taken : ∀ {i acc x}, i < room → I i acc → good i x →
    ∃ acc', step acc x = .ok acc' ∧ I (i + 1) acc'
  aborts : ∀ {i acc x}, i < room → I i acc → ¬ good i x → step acc x = .error .abort

/-- **A fold reports exactly when all its entries are good**, and then `I` holds behind the last
one. Induction on the entries. -/
theorem StepsOn.foldlM (h : StepsOn step I good room) {xs : List α} {i : Nat} {acc : β}
    (hroom : i + xs.length ≤ room) (hacc : I i acc) :
    (∀ errors, Reports errors (xs.foldlM step acc) ↔ ∀ j x, xs[j]? = some x → good (i + j) x) ∧
      ∀ acc', xs.foldlM step acc = .ok acc' → I (i + xs.length) acc' := by
  induction xs generalizing i acc with
  | nil =>
    refine ⟨by simp, fun acc' hok => ?_⟩
    cases hok
    exact hacc
  | cons x xs ih =>
    rw [List.length_cons] at hroom
    rw [List.foldlM_cons]
    -- a bad entry in front aborts the fold, whatever is behind it; a good one leaves `I` for the
    -- rest
    by_cases hx : good i x
    · obtain ⟨acc₁, hstep, hacc₁⟩ := h.taken (by omega) hacc hx
      obtain ⟨hreports, hlast⟩ := ih (by omega) hacc₁
      rw [hstep, show (Except.ok acc₁ >>= fun acc => xs.foldlM step acc) =
        xs.foldlM step acc₁ from rfl]
      refine ⟨fun errors => (hreports errors).trans ⟨fun hall j y hy => ?_,
        fun hall j y hy => ?_⟩, fun acc' hok => ?_⟩
      · -- position `0` is the entry in front, and position `j + 1` is position `j` of the rest
        cases j with
        | zero =>
          cases hy
          exact hx
        | succ j =>
          have := hall j y hy
          rwa [Nat.add_assoc, Nat.add_comm 1] at this
      · have := hall (j + 1) y hy
        rwa [Nat.add_assoc, Nat.add_comm 1]
      · have := hlast acc' hok
        rwa [List.length_cons, Nat.add_comm xs.length, ← Nat.add_assoc]
    · rw [h.aborts (by omega) hacc hx]
      refine ⟨fun errors => ⟨fun habort => absurd habort not_reports_abort, fun hall => ?_⟩,
        fun acc' hok => ?_⟩
      · exact absurd (hall 0 x rfl) hx
      · cases hok

end Folds

/-! ## Bodies over contract storage

The condition of a public function is that of its body: `transaction` undoes writes and changes no
outcome. -/

/-- Sequence over storage: the rest runs from what the first part left. -/
theorem Contract.reports_bind {σ : Type} {m : Contract σ α} {f : α → Contract σ β} {s : σ} :
    Reports errors ((m >>= f) s).1 ↔
      Reports errors (m s).1 ∧ ∀ a s₁, m s = (.ok a, s₁) → Reports errors (f a s₁).1 := by
  -- an exit of the first part is that of the whole, and otherwise the rest decides
  rcases h : m s with ⟨e | a, s₁⟩
  · have hbind : (m >>= f) s = (.error e, s₁) := by simp only [bind, h]
    rw [hbind]
    rcases e with code | _ <;> simp
  · have hbind : (m >>= f) s = f a s₁ := by simp only [bind, h]
    rw [hbind]
    simp

/-- A rollback does not change how a call ends. -/
theorem Contract.reports_transaction {σ : Type} {m : Contract σ α} {s : σ} :
    Reports errors (m.transaction s).1 ↔ Reports errors (m s).1 := by
  unfold Contract.transaction
  rcases m s with ⟨_ | _, _⟩ <;> rfl

end PythBridge.Clarity
