import PythBridge.Relayer.Recovery

/-!
# The relayer — collecting the guardians' keys

`collect_guardians_public_keys` fetches VAAs over and over and keeps the first key it sees of
every guardian id. It counts the ids once after every fetch, and ends when there are exactly 19:
with more than that it never ends.

The crux is what the loop has seen. Its map is determined by the list of all keys that were
recovered so far: for each guardian the first one (`FirstKeys`). Inserting a key keeps this, so do
all the keys of a VAA and all the VAAs of a fetch, and with the length of the map never falling, a
count above 19 can never come back to 19.

* `collectVaas_cases`: one fetch.
* `rounds`: any number of fetches, with the place where the loop ended.
* `first_keys_collected`: what holds whenever the loop is looked at.
-/

namespace PythBridge.Relayer

open Clarity

variable (lib : Libsecp256k1) (keccak256 : Buff → Buff)

/-- `public_keys`, a map from guardian ids; the order is the one of the insertions. -/
abbrev PublicKeys := List (UInt8 × Buff)

/-- What a fetch answers: an error, or the VAA of every price feed with the id of the feed. -/
abbrev Fetch := Except String (List (String × Buff))

/-- What the loop has come to. -/
inductive Collecting where
  | running (publicKeys : PublicKeys)
  | finished (publicKeys : PublicKeys)
  | panicked
deriving DecidableEq, Repr

/-- Keeps the key of a guardian that has none yet. -/
def insertNew (publicKeys : PublicKeys) (entry : UInt8 × lib.PublicKey) : PublicKeys :=
  match publicKeys.lookup entry.1 with
  | none => publicKeys ++ [(entry.1, lib.serialize entry.2)]
  | some _ => publicKeys

/-- The VAAs of one fetch; `none` is a panic. -/
def collectVaas (publicKeys : PublicKeys) (vaas : List (String × Buff)) : Option PublicKeys :=
  vaas.foldlM (fun publicKeys entry => do
    let newPublicKeys ← computeSecp256k1RecoveryFromVaa lib keccak256 entry.2
    pure (newPublicKeys.foldl (insertNew lib) publicKeys)) publicKeys

/-- One round of the loop, for what the fetch answers. -/
def collectStep : Collecting → Fetch → Collecting
  | .running publicKeys, .error _ => .running publicKeys
  | .running publicKeys, .ok vaas =>
    match collectVaas lib keccak256 publicKeys vaas with
    | none => .panicked
    | some publicKeys =>
      if publicKeys.length = 19 then .finished publicKeys else .running publicKeys
  | state, _ => state

/-! ## The keys of a run

What was recovered, as one list, and the map that belongs to it. -/

/-- The keys of all VAAs, in the order they are recovered. -/
def recoveredFrom (vaas : List (String × Buff)) : Option (List (UInt8 × lib.PublicKey)) :=
  (vaas.mapM fun entry => computeSecp256k1RecoveryFromVaa lib keccak256 entry.2).map List.flatten

/-- The VAAs that were fetched; a failed fetch has none. -/
def fetchedVaas (fetches : List Fetch) : List (String × Buff) :=
  fetches.flatMap fun fetch => fetch.toOption.getD []

/-- `publicKeys` has the first key of every guardian among `seen`, and no other key. -/
structure FirstKeys (seen : List (UInt8 × lib.PublicKey)) (publicKeys : PublicKeys) : Prop where
  distinct : (publicKeys.map Prod.fst).Nodup
  first : ∀ id, publicKeys.lookup id = (seen.lookup id).map lib.serialize

variable {lib keccak256}

theorem FirstKeys.insertNew {seen : List (UInt8 × lib.PublicKey)} {publicKeys : PublicKeys}
    (h : FirstKeys lib seen publicKeys) (entry : UInt8 × lib.PublicKey) :
    FirstKeys lib (seen ++ [entry]) (insertNew lib publicKeys entry) := by
  obtain ⟨guardianId, publicKey⟩ := entry
  unfold Relayer.insertNew
  -- a new guardian is added at the end; an old one keeps its first key
  cases hlookup : publicKeys.lookup guardianId with
  | none =>
    have hnew : guardianId ∉ publicKeys.map Prod.fst := by
      intro hmem
      obtain ⟨pair, hpair, rfl⟩ := List.mem_map.mp hmem
      simpa using List.lookup_eq_none_iff.mp hlookup pair hpair
    refine ⟨?_, fun id => ?_⟩
    · have hconcat := h.distinct.concat hnew
      rwa [List.concat_eq_append, ← List.map_singleton (f := Prod.fst)
        (a := (guardianId, lib.serialize publicKey)), ← List.map_append] at hconcat
    · rw [List.lookup_append, List.lookup_append, h.first id, Option.map_or]
      simp only [List.lookup_cons, List.lookup_nil]
      split <;> rfl
  | some key =>
    refine ⟨h.distinct, fun id => ?_⟩
    show publicKeys.lookup id = _
    rw [List.lookup_append, Option.map_or, ← h.first id]
    simp only [List.lookup_cons, List.lookup_nil]
    split
    · next heq =>
      rw [eq_of_beq heq, hlookup]
      rfl
    · rw [Option.map_none, Option.or_none]

/-- The map never loses an entry. -/
theorem length_insertNew (publicKeys : PublicKeys) (entry : UInt8 × lib.PublicKey) :
    publicKeys.length ≤ (insertNew lib publicKeys entry).length := by
  unfold insertNew
  split
  · rw [List.length_append]
    exact Nat.le_add_right _ _
  · exact Nat.le_refl _

/-- Keys that are inserted one after another. -/
theorem FirstKeys.foldl_insertNew {seen : List (UInt8 × lib.PublicKey)} {publicKeys : PublicKeys}
    (h : FirstKeys lib seen publicKeys) (more : List (UInt8 × lib.PublicKey)) :
    FirstKeys lib (seen ++ more) (more.foldl (Relayer.insertNew lib) publicKeys) ∧
      publicKeys.length ≤ (more.foldl (Relayer.insertNew lib) publicKeys).length := by
  induction more generalizing seen publicKeys with
  | nil =>
    rw [List.append_nil]
    exact ⟨h, Nat.le_refl _⟩
  | cons entry more ih =>
    obtain ⟨hkeys, hlength⟩ := ih (h.insertNew entry)
    rw [List.append_cons]
    exact ⟨hkeys, Nat.le_trans (length_insertNew publicKeys entry) hlength⟩

/-- One fetch: every VAA of it is recovered, or the loop panics. Induction on the VAAs. -/
theorem collectVaas_cases {seen : List (UInt8 × lib.PublicKey)} {publicKeys : PublicKeys}
    (h : FirstKeys lib seen publicKeys) (vaas : List (String × Buff)) :
    (∃ recovered after, recoveredFrom lib keccak256 vaas = some recovered ∧
      collectVaas lib keccak256 publicKeys vaas = some after ∧
      FirstKeys lib (seen ++ recovered) after ∧ publicKeys.length ≤ after.length) ∨
    (collectVaas lib keccak256 publicKeys vaas = none ∧
      ∃ entry ∈ vaas, computeSecp256k1RecoveryFromVaa lib keccak256 entry.2 = none) := by
  induction vaas generalizing seen publicKeys with
  | nil =>
    refine .inl ⟨[], publicKeys, rfl, rfl, ?_, Nat.le_refl _⟩
    rwa [List.append_nil]
  | cons entry vaas ih =>
    -- a VAA that cannot be recovered ends the loop in a panic
    cases hone : computeSecp256k1RecoveryFromVaa lib keccak256 entry.2 with
    | none =>
      refine .inr ⟨?_, entry, .head _, hone⟩
      rw [collectVaas, List.foldlM_cons, hone]
      rfl
    | some newPublicKeys =>
      obtain ⟨hkeys, hlength⟩ := h.foldl_insertNew newPublicKeys
      have hstep : collectVaas lib keccak256 publicKeys (entry :: vaas) =
          collectVaas lib keccak256 (newPublicKeys.foldl (insertNew lib) publicKeys) vaas := by
        rw [collectVaas, List.foldlM_cons, hone]
        rfl
      rcases ih hkeys with ⟨recovered, after, hrecovered, hafter, hfirst, hle⟩ | ⟨hpanic, hbad⟩
      · refine .inl ⟨newPublicKeys ++ recovered, after, ?_, hstep.trans hafter, ?_,
          Nat.le_trans hlength hle⟩
        · rw [recoveredFrom, Option.map_eq_some_iff] at hrecovered ⊢
          obtain ⟨parts, hparts, rfl⟩ := hrecovered
          refine ⟨newPublicKeys :: parts, ?_, List.flatten_cons⟩
          rw [List.mapM_cons, hone, hparts]
          rfl
        · rwa [← List.append_assoc]
      · obtain ⟨bad, hmem, hnone⟩ := hbad
        exact .inr ⟨hstep.trans hpanic, bad, .tail _ hmem, hnone⟩

theorem recoveredFrom_append {vaas more : List (String × Buff)}
    {recovered recovered' : List (UInt8 × lib.PublicKey)}
    (h : recoveredFrom lib keccak256 vaas = some recovered)
    (h' : recoveredFrom lib keccak256 more = some recovered') :
    recoveredFrom lib keccak256 (vaas ++ more) = some (recovered ++ recovered') := by
  rw [recoveredFrom, Option.map_eq_some_iff] at h h' ⊢
  obtain ⟨parts, hparts, rfl⟩ := h
  obtain ⟨parts', hparts', rfl⟩ := h'
  refine ⟨parts ++ parts', ?_, List.flatten_append⟩
  rw [List.mapM_append, hparts, hparts']
  rfl

/-! ## The rounds of the loop

The three states of the loop, each with what is known in it. -/

/-- Where the loop is after `fetches`, when it was running with `publicKeys`. -/
inductive Rounds (lib : Libsecp256k1) (keccak256 : Buff → Buff)
    (seen : List (UInt8 × lib.PublicKey)) (publicKeys : PublicKeys)
    (fetches : List Fetch) : Collecting → Prop where
  | running {recovered : List (UInt8 × lib.PublicKey)} {after : PublicKeys}
      (hrecovered : recoveredFrom lib keccak256 (fetchedVaas fetches) = some recovered)
      (hfirst : FirstKeys lib (seen ++ recovered) after)
      (hlength : publicKeys.length ≤ after.length) :
      Rounds lib keccak256 seen publicKeys fetches (.running after)
  | finished {initial : List Fetch}
      {recovered : List (UInt8 × lib.PublicKey)} {after : PublicKeys}
      (hinitial : initial <+: fetches)
      (hrecovered : recoveredFrom lib keccak256 (fetchedVaas initial) = some recovered)
      (hfirst : FirstKeys lib (seen ++ recovered) after)
      (hlength : publicKeys.length ≤ after.length) (hcount : after.length = 19) :
      Rounds lib keccak256 seen publicKeys fetches (.finished after)
  | panicked {entry : String × Buff} (hmem : entry ∈ fetchedVaas fetches)
      (hpanic : computeSecp256k1RecoveryFromVaa lib keccak256 entry.2 = none) :
      Rounds lib keccak256 seen publicKeys fetches .panicked

/-- A loop that has ended stays as it is. -/
theorem foldl_collectStep_of_ended {state : Collecting}
    (h : ∀ publicKeys, state ≠ .running publicKeys) (fetches : List Fetch) :
    fetches.foldl (collectStep lib keccak256) state = state := by
  induction fetches with
  | nil => rfl
  | cons fetch fetches ih =>
    rw [List.foldl_cons]
    cases state with
    | running publicKeys => exact absurd rfl (h publicKeys)
    | finished publicKeys => exact ih
    | panicked => exact ih

theorem recoveredFrom_nil : recoveredFrom lib keccak256 [] = some [] := rfl

/-- The VAAs of a fetch come before those of the later ones. -/
theorem fetchedVaas_cons_ok (vaas : List (String × Buff))
    (fetches : List Fetch) :
    fetchedVaas (.ok vaas :: fetches) = vaas ++ fetchedVaas fetches := rfl

/-- **The rounds.** Induction on the fetches. -/
theorem rounds (fetches : List Fetch) :
    ∀ {seen : List (UInt8 × lib.PublicKey)} {publicKeys : PublicKeys},
      FirstKeys lib seen publicKeys → Rounds lib keccak256 seen publicKeys fetches
        (fetches.foldl (collectStep lib keccak256) (.running publicKeys)) := by
  induction fetches with
  | nil =>
    intro seen publicKeys h
    refine .running recoveredFrom_nil ?_ (Nat.le_refl _)
    rwa [List.append_nil]
  | cons fetch fetches ih =>
    intro seen publicKeys h
    rw [List.foldl_cons]
    cases fetch with
    | error message =>
      have hrest := ih h
      show Rounds lib keccak256 seen publicKeys _
        (fetches.foldl (collectStep lib keccak256) (.running publicKeys))
      generalize fetches.foldl (collectStep lib keccak256) (.running publicKeys) = last at hrest ⊢
      -- what the later fetches add comes behind what this one added
      cases hrest with
      | running hrecovered hfirst hlength => exact .running hrecovered hfirst hlength
      | finished hinitial hrecovered hfirst hlength hcount =>
        exact .finished (List.cons_prefix_cons.mpr ⟨rfl, hinitial⟩) hrecovered hfirst hlength hcount
      | panicked hmem hpanic => exact .panicked hmem hpanic
    | ok vaas =>
      rcases collectVaas_cases h vaas with
        ⟨recovered, after, hrecovered, hafter, hfirst, hle⟩ | ⟨hpanic, entry, hmem, hnone⟩
      · -- the count is looked at after the whole fetch, not after each key
        by_cases hcount : after.length = 19
        · have hstep : collectStep lib keccak256 (.running publicKeys) (.ok vaas) =
              .finished after := by
            rw [collectStep, hafter]
            exact if_pos hcount
          have hended : ∀ publicKeys, Collecting.finished after ≠ .running publicKeys := nofun
          have hinitial : [Except.ok vaas] <+: Except.ok vaas :: fetches := ⟨fetches, rfl⟩
          rw [hstep, foldl_collectStep_of_ended hended]
          refine .finished hinitial ?_ hfirst hle hcount
          rwa [fetchedVaas_cons_ok, show fetchedVaas [] = [] from rfl, List.append_nil]
        · have hstep : collectStep lib keccak256 (.running publicKeys) (.ok vaas) =
              .running after := by
            rw [collectStep, hafter]
            exact if_neg hcount
          rw [hstep]
          have hrest := ih hfirst
          generalize fetches.foldl (collectStep lib keccak256) (.running after) = last at hrest ⊢
          cases hrest with
          | running hmore hfirst' hlength =>
            refine .running (recoveredFrom_append hrecovered hmore) ?_ (Nat.le_trans hle hlength)
            rwa [← List.append_assoc]
          | finished hinitial hmore hfirst' hlength hcount' =>
            refine .finished (List.cons_prefix_cons.mpr ⟨rfl, hinitial⟩)
              (recoveredFrom_append hrecovered hmore) ?_ (Nat.le_trans hle hlength) hcount'
            rwa [← List.append_assoc]
          | panicked hmem hpanic => exact .panicked (List.mem_append_right _ hmem) hpanic
      · have hstep : collectStep lib keccak256 (.running publicKeys) (.ok vaas) = .panicked := by
          rw [collectStep, hpanic]
        have hended : ∀ publicKeys, Collecting.panicked ≠ .running publicKeys := nofun
        rw [hstep, foldl_collectStep_of_ended hended]
        exact .panicked (List.mem_append_left _ hmem) hnone

/-- The loop after `fetches`. -/
def collectGuardiansPublicKeys (lib : Libsecp256k1) (keccak256 : Buff → Buff)
    (fetches : List Fetch) : Collecting :=
  fetches.foldl (collectStep lib keccak256) (.running [])

/-- **The first key of every guardian, and exactly 19 guardians.** While the loop runs, its keys
are the first ones recovered from the fetched VAAs, one for each guardian; when it has ended, it
has them for exactly 19 guardians, after some of the fetches; and it has panicked only on a VAA
that cannot be recovered. Once it has more than 19 guardians it never ends. -/
theorem first_keys_collected (lib : Libsecp256k1) (keccak256 : Buff → Buff)
    (fetches : List Fetch) :
    (∀ publicKeys, collectGuardiansPublicKeys lib keccak256 fetches = .running publicKeys →
      (∃ seen, recoveredFrom lib keccak256 (fetchedVaas fetches) = some seen ∧
        FirstKeys lib seen publicKeys) ∧
      (19 < publicKeys.length → ∀ more ended,
        collectGuardiansPublicKeys lib keccak256 (fetches ++ more) ≠ .finished ended)) ∧
    (∀ publicKeys, collectGuardiansPublicKeys lib keccak256 fetches = .finished publicKeys →
      publicKeys.length = 19 ∧ ∃ initial seen, initial <+: fetches ∧
        recoveredFrom lib keccak256 (fetchedVaas initial) = some seen ∧
        FirstKeys lib seen publicKeys) ∧
    (collectGuardiansPublicKeys lib keccak256 fetches = .panicked →
      ∃ entry ∈ fetchedVaas fetches,
        computeSecp256k1RecoveryFromVaa lib keccak256 entry.2 = none) := by
  have hstart : FirstKeys lib [] [] := ⟨.nil, fun _ => rfl⟩
  have hrun : Rounds lib keccak256 [] [] fetches
      (collectGuardiansPublicKeys lib keccak256 fetches) := rounds fetches hstart
  have happend : ∀ more, collectGuardiansPublicKeys lib keccak256 (fetches ++ more) =
      more.foldl (collectStep lib keccak256)
        (collectGuardiansPublicKeys lib keccak256 fetches) := fun more => List.foldl_append
  cases hlast : collectGuardiansPublicKeys lib keccak256 fetches with
  | running publicKeys =>
    rw [hlast] at hrun
    refine ⟨fun _ heq => ?_, nofun, nofun⟩
    cases heq
    cases hrun with
    | running hrecovered hfirst hlength =>
      -- from more than 19 on the map would have to shrink to end the loop
      refine ⟨⟨_, hrecovered, hfirst⟩, fun hmany more ended hended => ?_⟩
      have hrest : Rounds lib keccak256 _ publicKeys more
          (more.foldl (collectStep lib keccak256) (.running publicKeys)) := rounds more hfirst
      rw [happend, hlast] at hended
      rw [hended] at hrest
      cases hrest with
      | finished _ _ _ hlength hcount => omega
  | finished publicKeys =>
    rw [hlast] at hrun
    refine ⟨nofun, fun _ heq => ?_, nofun⟩
    cases heq
    cases hrun with
    | finished hinitial hrecovered hfirst _ hcount =>
      exact ⟨hcount, _, _, hinitial, hrecovered, hfirst⟩
  | panicked =>
    rw [hlast] at hrun
    refine ⟨nofun, nofun, fun _ => ?_⟩
    cases hrun with
    | panicked hmem hpanic => exact ⟨_, hmem, hpanic⟩

end PythBridge.Relayer
