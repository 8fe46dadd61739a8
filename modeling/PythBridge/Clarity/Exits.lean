import PythBridge.Clarity.Exec

/-!
# Clarity — ways to exit

`Exits P m` says of a body over contract storage that each of its exits, an error response or an
abort, satisfies `P`. The rules follow the construction of the body, and each control function has
one exit.

Where `Reports` asks for an exact condition, `Exits` only bounds the codes: it needs no fact about
the storage or the input, so a body of many calls is bounded by one `bind` for each line of the
source. `Exits.respond` is why this is cheap: a call whose response is matched can only abort, so
none of the errors of the called contract shows through.
-/

namespace PythBridge.Clarity

variable {σ τ α β : Type} {P : Exit → Prop}

/-- The exits of `m` satisfy `P`. -/
def Exits (P : Exit → Prop) (m : Contract σ α) : Prop :=
  ∀ s e s', m s = (.error e, s') → P e

/-- A sequence exits in its first part or in its second. -/
theorem Exits.bind {m : Contract σ α} {f : α → Contract σ β} (hm : Exits P m)
    (hf : ∀ a, Exits P (f a)) : Exits P (m >>= f) := by
  intro s e s' h
  -- the exit is that of `m`, or `m` returned a value and the exit is that of the rest
  rcases Contract.bind_eq_error.mp h with hexit | ⟨a, s₁, -, hexit⟩
  · exact hm s e s' hexit
  · exact hf a s₁ e s' hexit

/-- A body without storage, by the exits that it has. -/
theorem Exits.lift {x : Exec α} (h : ∀ e, x = .error e → P e) :
    Exits P (.lift x : Contract σ α) := by
  intro s e s' hexit
  exact h e (Prod.mk.inj hexit).1

/-- A call that is taken for its response can only abort: its errors are values to the caller. -/
theorem Exits.respond (hP : P .abort) (m : Contract σ α) : Exits P m.respond := by
  intro s e s' h
  unfold Contract.respond at h
  -- an error response became a value, so of the three outcomes only the abort is an exit
  rcases hm : m s with ⟨(_ | _) | _, _⟩ <;> rw [hm] at h
  · cases h
  · cases h
    exact hP
  · cases h

/-- The exits of a contract are those that it has in the world of all contracts. -/
theorem Exits.zoom {get : τ → σ} {set : σ → τ → τ} {m : Contract σ α} (h : Exits P m) :
    Exits P (Contract.zoom get set m) := by
  intro t e t' hexit
  unfold Contract.zoom at hexit
  rcases hm : m (get t) with ⟨r, s⟩
  rw [hm] at hexit
  cases hexit
  exact h _ e s hm

theorem Exits.pure (a : α) : Exits P (pure a : Contract σ α) := nofun

/-! ## The control functions

`unwrap!` exits with the code that it is given, and arithmetic aborts. -/

/-- `unwrap!` of a response exits with its own code, never with the error inside. -/
theorem unwrap_exit {input : Response α} {errCode : Nat} {e : Exit}
    (h : unwrap input errCode = .error e) : e = .err errCode := by
  cases input with
  | ok a => cases h
  | error code =>
    cases h
    rfl

/-- `unwrap!` of an optional likewise. -/
theorem unwrapOpt_exit {input : Option α} {errCode : Nat} {e : Exit}
    (h : unwrapOpt input errCode = .error e) : e = .err errCode := by
  cases input with
  | some a => cases h
  | none =>
    cases h
    rfl

/-- `to-uint` only aborts: on a negative number. -/
theorem toUint_exit {i : Int} {e : Exit} (h : toUint i = .error e) : e = .abort := by
  unfold toUint at h
  split at h <;> cases h
  rfl

/-- A product only aborts: on an overflow. -/
theorem checkedMul_exit {a b : Nat} {e : Exit} (h : checkedMul a b = .error e) : e = .abort := by
  unfold checkedMul at h
  split at h <;> cases h
  rfl

/-- A quotient only aborts: on a zero divisor. -/
theorem checkedDiv_exit {a b : Nat} {e : Exit} (h : checkedDiv a b = .error e) : e = .abort := by
  unfold checkedDiv at h
  split at h <;> cases h
  rfl

end PythBridge.Clarity
