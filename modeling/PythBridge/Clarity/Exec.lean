import Mathlib.Algebra.Group.Nat.Defs

/-!
# Clarity — early exits, contract calls and rollback

The part of Clarity's evaluation that every contract relies on. A body either yields a value,
returns early with an error response (`try!`, `unwrap!`, `asserts!`), or aborts at run time
(`unwrap-panic`, arithmetic overflow). A public function is a transaction: what it wrote is undone
unless it returns an ok response.

Two kinds of body are told apart. An `Exec` reads no storage: parsers and checks are of this kind. A
`Contract σ` reads and writes a storage `σ`, and keeps what it wrote when it exits early, because
only the transaction around it undoes anything: a private function that fails inside a `match`
leaves its writes behind (`respond`), a public one does not (`transaction`). This difference is what
the claims about rollback rest on, so it is modelled and not assumed.

The lemmas of the module, in the order in which proofs use them:

* **`exec_bind_eq_ok`, `Contract.bind_eq_ok`** and the `_eq_ok` lemma of each control function — a
  body that yields a value is taken apart into its steps. Nothing above this module unfolds `>>=`,
  `asserts!` or `try!`.
* **`foldlM_invariant`, `foldlM_of_room`** — what a fold of the contracts keeps, and what it
  computes as long as its bounded result has room.
* **`Contract.transaction_cases`** — the two outcomes of a public function.
* **`Contract.Keeps`** — frames: what every write of a body respects, the body respects.
-/

namespace PythBridge.Clarity

/-- How a body ends without a value. `err` is the early return of an error response, which
the caller of the function can inspect; `abort` is a run-time failure, which no caller can
catch and which ends the whole transaction. -/
inductive Exit where
  | err (code : Nat)
  | abort
deriving DecidableEq, Repr

/-- `(response A uint)`. -/
abbrev Response (α : Type) := Except Nat α

/-- A body that reads no contract storage. -/
abbrev Exec (α : Type) := Except Exit α

/-! ## Control functions

`asserts!`, `unwrap!` and `try!` return early; `unwrap-panic` and arithmetic abort. -/

/-- `(asserts! thing (err code))`. -/
def asserts (thing : Prop) [Decidable thing] (code : Nat) : Exec Unit :=
  if thing then .ok () else .error (.err code)

/-- `(unwrap! input (err code))` on a response: the error inside is dropped for `code`. -/
def unwrap {α : Type} (input : Response α) (code : Nat) : Exec α :=
  match input with
  | .ok a => .ok a
  | .error _ => .error (.err code)

/-- `(unwrap! input (err code))` on an optional. -/
def unwrapOpt {α : Type} (input : Option α) (code : Nat) : Exec α :=
  match input with
  | some a => .ok a
  | none => .error (.err code)

/-- `(try! input)`: the error inside goes on to the caller. -/
def tryResponse {α : Type} (input : Response α) : Exec α :=
  match input with
  | .ok a => .ok a
  | .error code => .error (.err code)

/-- `(unwrap-panic input)` on a response: an error aborts, whatever its code. -/
def unwrapPanic {α : Type} (input : Response α) : Exec α :=
  match input with
  | .ok a => .ok a
  | .error _ => .error .abort

/-- `(unwrap-panic input)` on an optional. -/
def unwrapPanicOpt {α : Type} (input : Option α) : Exec α :=
  match input with
  | some a => .ok a
  | none => .error .abort

/-- `(- a b)` on `uint`s: an underflow aborts. -/
def checkedSub (a b : Nat) : Exec Nat :=
  if b ≤ a then .ok (a - b) else .error .abort

/-- `(* a b)` on `uint`s: an overflow of 128 bits aborts. -/
def checkedMul (a b : Nat) : Exec Nat :=
  if a * b < 2 ^ 128 then .ok (a * b) else .error .abort

/-- `(mod a b)` on `uint`s: a zero divisor aborts. -/
def checkedMod (a b : Nat) : Exec Nat :=
  if b = 0 then .error .abort else .ok (a % b)

/-- `(/ a b)` on `uint`s: a zero divisor aborts. -/
def checkedDiv (a b : Nat) : Exec Nat :=
  if b = 0 then .error .abort else .ok (a / b)

/-- `(to-uint i)`: a negative number aborts. -/
def toUint (i : Int) : Exec Nat :=
  if 0 ≤ i then .ok i.toNat else .error .abort

/-- `(pow u10 exponent)`: `10 ^ 38` is the greatest power of ten below `2 ^ 128`, and
every greater exponent aborts. -/
def pow10 (exponent : Nat) : Exec Nat :=
  if exponent ≤ 38 then .ok (10 ^ exponent) else .error .abort

/-! ## Inversion

What a body that yields a value went through. Later proofs take bodies apart with these
and never unfold the control functions. -/

/-- A sequence yields a value when its first step does and the rest does from there: the rule with
which every parser of the contracts is inverted. -/
@[simp] theorem exec_bind_eq_ok {α β : Type} {x : Exec α} {f : α → Exec β} {b : β} :
    (x >>= f) = .ok b ↔ ∃ a, x = .ok a ∧ f a = .ok b := by
  cases x <;> simp [bind, Except.bind]

/-- The same for a function of the value. -/
theorem exec_map_eq_ok {α β : Type} {x : Exec α} {f : α → β} {b : β} :
    x.map f = .ok b ↔ ∃ a, x = .ok a ∧ f a = b := by
  cases x <;> simp [Except.map]

@[simp] theorem exec_pure_eq_ok {α : Type} {a b : α} :
    (pure a : Exec α) = .ok b ↔ a = b := by
  simp [pure, Except.pure]

@[simp] theorem asserts_eq_ok {thing : Prop} [Decidable thing] {code : Nat} {u : Unit} :
    asserts thing code = .ok u ↔ thing := by
  unfold asserts
  split <;> simp_all

@[simp] theorem unwrap_eq_ok {α : Type} {input : Response α} {code : Nat} {a : α} :
    unwrap input code = .ok a ↔ input = .ok a := by
  cases input <;> simp [unwrap]

@[simp] theorem unwrapOpt_eq_ok {α : Type} {input : Option α} {code : Nat} {a : α} :
    unwrapOpt input code = .ok a ↔ input = some a := by
  cases input <;> simp [unwrapOpt]

@[simp] theorem tryResponse_eq_ok {α : Type} {input : Response α} {a : α} :
    tryResponse input = .ok a ↔ input = .ok a := by
  cases input <;> simp [tryResponse]

@[simp] theorem unwrapPanic_eq_ok {α : Type} {input : Response α} {a : α} :
    unwrapPanic input = .ok a ↔ input = .ok a := by
  cases input <;> simp [unwrapPanic]

@[simp] theorem unwrapPanicOpt_eq_ok {α : Type} {input : Option α} {a : α} :
    unwrapPanicOpt input = .ok a ↔ input = some a := by
  cases input <;> simp [unwrapPanicOpt]

@[simp] theorem checkedSub_eq_ok {a b c : Nat} :
    checkedSub a b = .ok c ↔ b ≤ a ∧ a - b = c := by
  unfold checkedSub
  by_cases h : b ≤ a <;> simp [h]

@[simp] theorem checkedMul_eq_ok {a b c : Nat} :
    checkedMul a b = .ok c ↔ a * b < 2 ^ 128 ∧ a * b = c := by
  unfold checkedMul
  by_cases h : a * b < 2 ^ 128 <;> simp only [h, if_true, if_false] <;> simp

@[simp] theorem pow10_eq_ok {e c : Nat} : pow10 e = .ok c ↔ e ≤ 38 ∧ 10 ^ e = c := by
  unfold pow10
  by_cases h : e ≤ 38 <;> simp [h]

/-! ## Folds

The contracts have no loops but `fold` over a list of positions or entries, with an accumulator that
may be bounded. Each lemma is an induction over the list with the accumulator general. -/

/-- What every step of a fold keeps, a fold that returns has kept. -/
theorem foldlM_invariant {α β : Type} {step : β → α → Exec β} {P : β → Prop}
    (hstep : ∀ acc a acc', step acc a = .ok acc' → P acc → P acc') {xs : List α} {acc acc' : β}
    (h : xs.foldlM step acc = .ok acc') (hacc : P acc) : P acc' := by
  induction xs generalizing acc with
  | nil =>
    cases h
    exact hacc
  | cons x xs ih =>
    rw [List.foldlM_cons, exec_bind_eq_ok] at h
    obtain ⟨acc₁, hx, h⟩ := h
    exact ih h (hstep acc x acc₁ hx hacc)

/-- A fold that returns has taken every step. -/
theorem exists_step_of_foldlM {α β : Type} {step : β → α → Exec β} {xs : List α} {acc acc' : β}
    (h : xs.foldlM step acc = .ok acc') {x : α} (hx : x ∈ xs) :
    ∃ before after, step before x = .ok after := by
  induction xs generalizing acc with
  | nil => cases hx
  | cons y ys ih =>
    rw [List.foldlM_cons, exec_bind_eq_ok] at h
    obtain ⟨acc₁, hy, h⟩ := h
    -- the entry is the one in front, or one of those behind it
    rcases List.mem_cons.mp hx with rfl | hx
    · exact ⟨acc, acc₁, hy⟩
    · exact ih h hx

/-- A fold whose steps, when they return, add what `f` makes of their entry. -/
theorem foldlM_eq_foldl_filterMap {α β γ : Type} {step : β → α → Exec β} {f : α → Option γ}
    {add : β → γ → β} {xs : List α} {acc acc' : β} (h : xs.foldlM step acc = .ok acc')
    (hstep : ∀ acc x acc', step acc x = .ok acc' → acc' = (f x).elim acc (add acc)) :
    acc' = (xs.filterMap f).foldl add acc := by
  -- an entry without a value leaves the accumulator as it is
  induction xs generalizing acc with
  | nil =>
    cases h
    rfl
  | cons x xs ih =>
    rw [List.foldlM_cons, exec_bind_eq_ok] at h
    obtain ⟨acc₁, hx, h⟩ := h
    rw [ih h, hstep acc x acc₁ hx, List.filterMap_cons]
    -- an entry that `f` drops leaves the accumulator alone
    cases f x <;> rfl

/-- Appending one entry after another appends them all. -/
theorem foldl_append_singleton {α : Type} (acc xs : List α) :
    xs.foldl (fun acc x => acc ++ [x]) acc = acc ++ xs := by
  rw [List.foldl_append_eq_append, ← List.flatMap_def, List.flatMap_singleton']

/-- A fold that adds at most one entry a step to a bounded result does what it does without
the bound, when there is room for all. -/
theorem foldlM_of_room {α β γ : Type} {step : List β → α → Exec (List β)} {f : α → Option γ}
    {add : List β → γ → List β} {room : Nat} {xs : List α} {acc : List β}
    (hstep : ∀ x ∈ xs, ∀ acc, acc.length < room → step acc x = .ok ((f x).elim acc (add acc)))
    (hadd : ∀ acc c, (add acc c).length ≤ acc.length + 1)
    (hroom : acc.length + xs.length ≤ room) :
    xs.foldlM step acc = .ok ((xs.filterMap f).foldl add acc) := by
  induction xs generalizing acc with
  | nil => rfl
  | cons x xs ih =>
    rw [List.length_cons] at hroom
    have hx := hstep x (.head _) acc (by omega)
    -- after this step there is room for the entries that are left, whether it added one or not
    have hrest : ∀ acc' : List β, acc'.length ≤ acc.length + 1 →
        xs.foldlM step acc' = .ok ((xs.filterMap f).foldl add acc') :=
      fun _ hlength => ih (fun y hy => hstep y (.tail _ hy)) (by omega)
    rw [List.foldlM_cons, hx, List.filterMap_cons]
    cases f x with
    | none => exact hrest acc (Nat.le_succ _)
    | some c => exact hrest (add acc c) (hadd acc c)

/-! ## Bodies over contract storage

`Contract σ` is a state monad with failure inside, so a failing body still has a storage that it
leaves. `zoom` runs a body of one contract in the world of all of them. -/

/-- A body over storage `σ`. The storage it leaves is there also when it exits early: only
`transaction` undoes writes. -/
def Contract (σ α : Type) := σ → Exec α × σ

namespace Contract

variable {σ τ α β : Type}

instance : Monad (Contract σ) where
  pure a := fun s => (.ok a, s)
  bind m f := fun s =>
    match m s with
    | (.ok a, s') => f a s'
    | (.error e, s') => (.error e, s')

/-- A body that touches no storage, among bodies that do. -/
def lift (x : Exec α) : Contract σ α := fun s => (x, s)

/-- `var-get`, `map-get?` and read-only calls: the storage, and nothing written. -/
def gets (f : σ → α) : Contract σ α := fun s => (.ok (f s), s)

/-- A read-only function of the storage that may exit early. -/
def readOnly (f : σ → Exec α) : Contract σ α := fun s => (f s, s)

/-- `var-set` and `map-set`. -/
def modify (f : σ → σ) : Contract σ Unit := fun s => (.ok (), f s)

/-- The end of a public function: its writes are kept when it returns ok, and undone when it
returns an error response or aborts. -/
def transaction (m : Contract σ α) : Contract σ α := fun s =>
  match m s with
  | (.ok a, s') => (.ok a, s')
  | (.error e, _) => (.error e, s)

/-- A private function called for its response: an early return is a value to the caller, and
what was written before it stays written. -/
def respond (m : Contract σ α) : Contract σ (Response α) := fun s =>
  match m s with
  | (.ok a, s') => (.ok (.ok a), s')
  | (.error (.err code), s') => (.ok (.error code), s')
  | (.error .abort, s') => (.error .abort, s')

/-- A body of one contract, run on its part of a larger state; the other parts stay as they are. -/
def zoom (get : τ → σ) (set : σ → τ → τ) (m : Contract σ α) : Contract τ α := fun t =>
  match m (get t) with
  | (r, s) => (r, set s t)

/-! ## Inversion over storage

The same inversion lemmas with the storage threaded through. They come in two forms: `_eq_ok` and
`_eq_error` take a run apart, `_of_` lemmas put one together for a witness or a closed form. -/

/-- A sequence returns when both parts do, the second from the storage that the first one left. -/
theorem bind_eq_ok {m : Contract σ α} {f : α → Contract σ β} {s s' : σ} {b : β} :
    (m >>= f) s = (.ok b, s') ↔ ∃ a s₁, m s = (.ok a, s₁) ∧ f a s₁ = (.ok b, s') := by
  show (match m s with | (.ok a, s₁) => f a s₁ | (.error e, s₁) => (.error e, s₁)) = _ ↔ _
  -- an exit of the first part is an exit of the whole
  rcases h : m s with ⟨_ | a, s₁⟩
  · simp
  · constructor
    · exact fun hf => ⟨a, s₁, rfl, hf⟩
    · rintro ⟨_, _, heq, hf⟩
      cases heq
      exact hf

/-- A sequence exits when the first part does, or when the second does after the first one returned.
-/
theorem bind_eq_error {m : Contract σ α} {f : α → Contract σ β} {s s' : σ} {e : Exit} :
    (m >>= f) s = (.error e, s') ↔
      m s = (.error e, s') ∨ ∃ a s₁, m s = (.ok a, s₁) ∧ f a s₁ = (.error e, s') := by
  show (match m s with | (.ok a, s₁) => f a s₁ | (.error e, s₁) => (.error e, s₁)) = _ ↔ _
  -- the first part fails, or it returns and the second one fails
  rcases h : m s with ⟨_ | a, s₁⟩
  · simp
  · constructor
    · exact fun hf => .inr ⟨a, s₁, rfl, hf⟩
    · rintro (hm | ⟨_, _, heq, hf⟩)
      · cases hm
      · cases heq
        exact hf

/-- Behind a part that returned, the rest runs from what that part left. -/
theorem bind_of_ok {m : Contract σ α} {s s' : σ} {a : α} (h : m s = (.ok a, s'))
    (f : α → Contract σ β) : (m >>= f) s = f a s' := by
  simp only [bind, h]

/-- Behind a part that exited, nothing runs. -/
theorem bind_of_error {m : Contract σ α} {s s' : σ} {e : Exit} (h : m s = (.error e, s'))
    (f : α → Contract σ β) : (m >>= f) s = (.error e, s') := by
  simp only [bind, h]

@[simp] theorem pure_apply {a : α} {s : σ} : (pure a : Contract σ α) s = (.ok a, s) := rfl

@[simp] theorem lift_apply {x : Exec α} {s : σ} : lift x s = (x, s) := rfl

@[simp] theorem gets_apply {f : σ → α} {s : σ} : gets f s = (.ok (f s), s) := rfl

@[simp] theorem readOnly_apply {f : σ → Exec α} {s : σ} : readOnly f s = (f s, s) := rfl

@[simp] theorem modify_apply {f : σ → σ} {s : σ} : modify f s = (.ok (), f s) := rfl

/-- A run of which the outcome is known, with its storage left as it is. -/
theorem run_eq {m : Contract σ α} {s : σ} {r : Exec α} (h : (m s).1 = r) :
    m s = (r, (m s).2) :=
  Prod.ext h rfl

/-- A public function that returns ok leaves what its body left. -/
theorem transaction_eq_ok {m : Contract σ α} {s s' : σ} {a : α} :
    transaction m s = (.ok a, s') ↔ m s = (.ok a, s') := by
  unfold transaction
  rcases m s with ⟨_ | _, _⟩ <;> simp

/-- **Rollback.** A public function that does not return ok leaves the storage as it found it. -/
theorem transaction_error {m : Contract σ α} {s s' : σ} {e : Exit}
    (h : transaction m s = (.error e, s')) : s' = s := by
  unfold transaction at h
  rcases hm : m s with ⟨_ | _, _⟩ <;> simp_all

/-- Every outcome of a public function: it returned ok and its body did, or the storage is
untouched. -/
theorem transaction_cases (m : Contract σ α) (s : σ) :
    (∃ a s', transaction m s = (.ok a, s') ∧ m s = (.ok a, s')) ∨
      ∃ e, transaction m s = (.error e, s) := by
  unfold transaction
  rcases m s with ⟨e | a, s'⟩
  · exact .inr ⟨e, rfl⟩
  · exact .inl ⟨a, s', rfl, rfl⟩

/-- A caller sees a value as a response. -/
theorem respond_of_ok {m : Contract σ α} {s s' : σ} {a : α} (h : m s = (.ok a, s')) :
    m.respond s = (.ok (.ok a), s') := by
  rw [respond, h]

/-- An error response is a value to the caller, too. -/
theorem respond_of_err {m : Contract σ α} {s s' : σ} {code : Nat}
    (h : m s = (.error (.err code), s')) : m.respond s = (.ok (.error code), s') := by
  rw [respond, h]

/-- An abort takes the caller with it. -/
theorem respond_of_abort {m : Contract σ α} {s s' : σ} (h : m s = (.error .abort, s')) :
    m.respond s = (.error .abort, s') := by
  rw [respond, h]

/-- What a zoomed body does is what the body does, put back into the larger state. -/
theorem zoom_of_run {get : τ → σ} {set : σ → τ → τ} {m : Contract σ α} {t : τ} {r : Exec α}
    {s : σ} (h : m (get t) = (r, s)) : zoom get set m t = (r, set s t) := by
  rw [zoom, h]

/-- A zoomed body that returns, taken apart. -/
theorem zoom_eq_ok {get : τ → σ} {set : σ → τ → τ} {m : Contract σ α} {t t' : τ} {a : α} :
    zoom get set m t = (.ok a, t') ↔ ∃ s, m (get t) = (.ok a, s) ∧ set s t = t' := by
  unfold zoom
  rcases m (get t) with ⟨_ | b, s⟩
  · simp
  · constructor
    · intro h
      cases h
      exact ⟨s, rfl, rfl⟩
    · rintro ⟨_, h, rfl⟩
      cases h
      rfl

/-! ## Frames

`Keeps R m`: whatever `m` returns, the storage before and after is related by `R`. With a
reflexive and transitive `R` this composes along a body, so a fact about every write of
every function a body calls becomes a fact about the body. -/

/-- `m` relates the storage it starts from and the storage it leaves, however it ends. -/
def Keeps (R : σ → σ → Prop) (m : Contract σ α) : Prop := ∀ s, R s (m s).2

variable {R : σ → σ → Prop}

theorem Keeps.lift (hrefl : ∀ s, R s s) (x : Exec α) : Keeps R (lift x) := fun s => hrefl s

theorem Keeps.gets (hrefl : ∀ s, R s s) (f : σ → α) : Keeps R (gets f) := fun s => hrefl s

theorem Keeps.readOnly (hrefl : ∀ s, R s s) (f : σ → Exec α) : Keeps R (readOnly f) :=
  fun s => hrefl s

theorem Keeps.pure (hrefl : ∀ s, R s s) (a : α) : Keeps R (pure a : Contract σ α) :=
  fun s => hrefl s

/-- Frames compose along a body: `R` is transitive. -/
theorem Keeps.bind (htrans : ∀ a b c, R a b → R b c → R a c) {m : Contract σ α}
    {f : α → Contract σ β} (hm : Keeps R m) (hf : ∀ a, Keeps R (f a)) : Keeps R (m >>= f) := by
  intro s
  have h1 := hm s
  show R s (match m s with | (.ok a, s₁) => f a s₁ | (.error e, s₁) => (.error e, s₁)).2
  -- the first part exits, and its own frame is the whole one, or it returns, and the two compose
  rcases h : m s with ⟨e | a, s₁⟩
  · simpa [h] using h1
  · rw [h] at h1
    exact htrans _ _ _ h1 (hf a s₁)

/-- A transaction keeps what its body keeps: it leaves the storage of the body or the one before. -/
theorem Keeps.transaction (hrefl : ∀ s, R s s) {m : Contract σ α} (hm : Keeps R m) :
    Keeps R (transaction m) := by
  intro s
  rcases transaction_cases m s with ⟨a, s', h, hbody⟩ | ⟨e, h⟩
  · have := hm s
    rw [hbody] at this
    rwa [h]
  · rw [h]
    exact hrefl s

/-- What a public function does with the value of its body does not matter. -/
theorem Keeps.transaction_bind_pure (hrefl : ∀ s, R s s) {m : Contract σ α}
    (hm : Keeps R (Contract.transaction m)) (f : α → β) :
    Keeps R (Contract.transaction (m >>= fun a => Pure.pure (f a))) := by
  intro s
  rcases transaction_cases (m >>= fun a => Pure.pure (f a)) s with ⟨b, s', h, hbody⟩ | ⟨e, h⟩
  · -- the function that is applied last writes nothing
    obtain ⟨a, s₁, hok, hpure⟩ := bind_eq_ok.mp hbody
    cases hpure
    have := hm s
    rw [transaction_eq_ok.mpr hok] at this
    rwa [h]
  · rw [h]
    exact hrefl s

/-- Calling for the response changes the outcome and not the storage. -/
theorem Keeps.respond {m : Contract σ α} (hm : Keeps R m) : Keeps R m.respond := by
  intro s
  have h := hm s
  unfold Contract.respond
  rcases hms : m s with ⟨(_ | _) | a, s'⟩ <;> simpa [hms] using h

/-- Only the runs that return ok have to be looked at under `transaction`. -/
theorem Keeps.transaction_of_ok (hrefl : ∀ s, R s s) {m : Contract σ α}
    (hm : ∀ s a s', m s = (.ok a, s') → R s s') : Keeps R (Contract.transaction m) := by
  intro s
  rcases transaction_cases m s with ⟨a, s', h, hbody⟩ | ⟨e, h⟩
  · rw [h]
    exact hm s a s' hbody
  · rw [h]
    exact hrefl s

end Contract

end PythBridge.Clarity
