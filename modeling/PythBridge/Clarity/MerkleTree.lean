import Mathlib.Algebra.Group.Nat.Defs
import Mathlib.Data.List.Induction

/-!
# Clarity — Merkle trees

A tree over a list of hashes, level by level: neighbours are hashed together, and the last one of
an odd number with itself. The proof of a hash are the neighbours met on the way up. For a pair
hash that does not depend on the order of the two, a proof climbs to the root
(`climb_siblings`); and what climbs to the root is a leaf, unless two of the finitely many things
hashed for the tree and for the proof collide (`mem_of_climb`).

The tree is built by the publisher and the proofs are climbed by the contract, so the two halves of
the module face two parties:

* **completeness** — `climb_siblings`: the proof that the publisher computes for a leaf climbs to
  the root, if the pair hash is commutative on the hashes that occur. Since the contract does not
  know on which side a neighbour stands, this is what sorting the pair before hashing is for.
* **soundness** — `mem_of_climb`: whatever climbs to the root is a leaf, or an explicit collision is
  at hand. No assumption about the hash is made: the hypotheses speak of the finitely many pairs of
  this tree (`treePairs`) and of this proof (`climbPairs`).
-/

namespace PythBridge.Clarity.MerkleTree

variable {η : Type} (node : η → η → η)

/-! ## Levels

`nextLevel`, `neighbour` and `siblings` are the functions of the publisher, and `climb` is the loop
of the verifier. -/

/-- The level above. -/
def nextLevel : List η → List η
  | left :: right :: rest => node left right :: nextLevel rest
  | [left] => [node left left]
  | [] => []

/-- A level has half as many hashes as the one below, rounded up. -/
theorem nextLevel_length (level : List η) :
    (nextLevel node level).length = (level.length + 1) / 2 := by
  induction level using nextLevel.induct with
  | case1 left right rest ih =>
    rw [nextLevel, List.length_cons, ih, List.length_cons, List.length_cons]
    omega
  | case2 left => simp [nextLevel]
  | case3 => simp [nextLevel]

/-- So the levels get shorter until one hash is left. -/
theorem nextLevel_length_lt {level : List η} (h : 1 < level.length) :
    (nextLevel node level).length < level.length := by
  rw [nextLevel_length]
  omega

/-- The other one of its pair; for the last one of an odd number, that one itself. -/
def neighbour (level : List η) (i : Nat) : Option η :=
  if i % 2 = 0 then level[i + 1]?.or level[i]? else level[i - 1]?

/-- The hash at the top; an empty level has none. -/
def rootOf (level : List η) : Option η :=
  if 1 < level.length then rootOf (nextLevel node level) else level.head?
termination_by level.length
decreasing_by exact nextLevel_length_lt node (by assumption)

/-- The neighbours of the hash at `i`, and of the hashes above it. -/
def siblings (level : List η) (i : Nat) : List η :=
  if 1 < level.length then
    (neighbour level i).toList ++ siblings (nextLevel node level) (i / 2)
  else []
termination_by level.length
decreasing_by exact nextLevel_length_lt node (by assumption)

/-- The root that a hash and its proof stand for. -/
def climb (hash : η) (proof : List η) : η := proof.foldl node hash

/-! ## Proofs of the tree

A predicate `P` is carried through the levels, since commutativity is only given for hashes of the
right length. -/

section Complete

variable {P : η → Prop} {level : List η} {i : Nat} {hash : η}

/-- A hash and its neighbour, in one order or the other, make the hash above. -/
theorem exists_neighbour (hi : level[i]? = some hash) :
    ∃ other ∈ level, neighbour level i = some other ∧
      ((nextLevel node level)[i / 2]? = some (node hash other) ∨
        (nextLevel node level)[i / 2]? = some (node other hash)) := by
  induction level using nextLevel.induct generalizing i with
  | case1 left right rest ih =>
    -- the hash is the left one of the first pair, the right one, or it lies behind that pair
    match i with
    | 0 =>
      cases hi
      exact ⟨right, .tail _ (.head _), rfl, .inl rfl⟩
    | 1 =>
      cases hi
      exact ⟨left, .head _, rfl, .inr rfl⟩
    | i + 2 =>
      obtain ⟨other, hmem, hother, habove⟩ := ih (i := i) hi
      have hhalf : (i + 2) / 2 = i / 2 + 1 := by omega
      refine ⟨other, .tail _ (.tail _ hmem), ?_, ?_⟩
      · -- two positions further on the parity is the same, so the neighbour is found in the rest
        rw [← hother, neighbour, neighbour, Nat.add_mod_right]
        split
        · rfl
        · next hodd =>
          have hsucc : i + 2 - 1 = i - 1 + 2 := by omega
          rw [hsucc]
          rfl
      · rw [hhalf]
        exact habove
  | case2 left =>
    match i with
    | 0 =>
      cases hi
      exact ⟨hash, .head _, rfl, .inl rfl⟩
    | i + 1 => cases hi
  | case3 => cases hi

/-- What hashing keeps, the level above has. -/
theorem forall_nextLevel (hnode : ∀ a b, P a → P b → P (node a b)) (h : ∀ a ∈ level, P a) :
    ∀ a ∈ nextLevel node level, P a := by
  induction level using nextLevel.induct with
  | case1 left right rest ih =>
    rw [List.forall_mem_cons, List.forall_mem_cons] at h
    rw [nextLevel, List.forall_mem_cons]
    exact ⟨hnode left right h.1 h.2.1, ih h.2.2⟩
  | case2 left =>
    rw [List.forall_mem_singleton] at h
    exact List.forall_mem_singleton.mpr (hnode left left h h)
  | case3 => exact h

/-- What hashing keeps, the root has. -/
theorem of_rootOf {root : η} (hnode : ∀ a b, P a → P b → P (node a b)) (h : ∀ a ∈ level, P a)
    (hroot : rootOf node level = some root) : P root := by
  induction level using rootOf.induct node with
  | case1 level hlarge ih =>
    rw [rootOf, if_pos hlarge] at hroot
    exact ih (forall_nextLevel node hnode h) hroot
  | case2 level hsmall =>
    rw [rootOf, if_neg hsmall] at hroot
    exact h root (List.mem_of_head? hroot)

/-- Every hash of a proof is a hash of some level. -/
theorem forall_siblings (hnode : ∀ a b, P a → P b → P (node a b)) (h : ∀ a ∈ level, P a) :
    ∀ a ∈ siblings node level i, P a := by
  induction level, i using siblings.induct node with
  | case1 level i hlarge ih =>
    rw [siblings, if_pos hlarge]
    intro a ha
    -- a sibling of this level is one of its hashes, and the others are siblings further up
    rcases List.mem_append.mp ha with ha | ha
    · refine h a ?_
      rw [Option.mem_toList, neighbour] at ha
      split at ha
      · rcases Option.or_eq_some_iff.mp ha with ha | ⟨-, ha⟩
        · exact List.mem_of_getElem? ha
        · exact List.mem_of_getElem? ha
      · exact List.mem_of_getElem? ha
    · exact ih (forall_nextLevel node hnode h) a ha
  | case2 level i hsmall =>
    rw [siblings, if_neg hsmall]
    exact nofun

/-- **A proof climbs to the root.** Induction on the levels; one step up the hash and its
neighbour become the hash above, in whichever order. -/
theorem climb_siblings (hnode : ∀ a b, P a → P b → P (node a b))
    (hcomm : ∀ a b, P a → P b → node a b = node b a) (h : ∀ a ∈ level, P a)
    (hi : level[i]? = some hash) :
    rootOf node level = some (climb node hash (siblings node level i)) := by
  induction level, i using siblings.induct node generalizing hash with
  | case1 level i hlarge ih =>
    obtain ⟨other, hmem, hother, habove⟩ := exists_neighbour node hi
    -- on whichever side the hash stands, the hash above is `node hash other`
    have hnext : (nextLevel node level)[i / 2]? = some (node hash other) := by
      rcases habove with habove | habove
      · exact habove
      · rw [hcomm hash other (h hash (List.mem_of_getElem? hi)) (h other hmem)]
        exact habove
    rw [rootOf, if_pos hlarge, siblings, if_pos hlarge, hother]
    exact ih (forall_nextLevel node hnode h) hnext
  | case2 level i hsmall =>
    rw [rootOf, if_neg hsmall, siblings, if_neg hsmall]
    -- a level of one hash is the root, and there is nothing to climb
    match level, i, hi with
    | [_], 0, hi => exact hi
    | _ :: _ :: rest, _, _ =>
      rw [List.length_cons, List.length_cons] at hsmall
      omega

/-- A proof has one hash for each level above the leaves. -/
theorem siblings_length_le {k : Nat} (h : level.length ≤ 2 ^ k) :
    (siblings node level i).length ≤ k := by
  induction k generalizing level i with
  | zero =>
    rw [siblings, if_neg (by omega)]
    exact Nat.le_refl 0
  | succ k ih =>
    rw [siblings]
    -- one sibling on this level, and the level above is half as long
    split
    · have hhalf : (nextLevel node level).length ≤ 2 ^ k := by
        rw [nextLevel_length]
        omega
      have hrest := ih (i := i / 2) hhalf
      have hone : (neighbour level i).toList.length ≤ 1 := Option.length_toList_le
      rw [List.length_append]
      omega
    · exact Nat.zero_le _

/-- A tree over at least one hash has a root. -/
theorem rootOf_isSome (h : level ≠ []) : ∃ root, rootOf node level = some root := by
  induction level using rootOf.induct node with
  | case1 level hlarge ih =>
    rw [rootOf, if_pos hlarge]
    refine ih fun hnil => ?_
    have hlength := nextLevel_length node level
    rw [hnil, List.length_nil] at hlength
    omega
  | case2 level hsmall =>
    rw [rootOf, if_neg hsmall]
    match level, h with
    | hash :: _, _ => exact ⟨hash, rfl⟩

end Complete

/-! ## What climbs to the root

From the root down: what climbs to a level is a hash of it, so it was hashed there from a pair of
the level below, and unless two pairs collide the last step of the climb was one of that pair. A
climb that runs out too early, or too late, would be a collision of another kind; the hypotheses of
`mem_of_climb` name all three. -/

/-- The pairs of a level. -/
def levelPairs : List η → List (η × η)
  | left :: right :: rest => (left, right) :: levelPairs rest
  | [left] => [(left, left)]
  | [] => []

/-- The pairs that are hashed for the tree. -/
def treePairs (level : List η) : List (η × η) :=
  if 1 < level.length then levelPairs level ++ treePairs (nextLevel node level) else []
termination_by level.length
decreasing_by exact nextLevel_length_lt node (by assumption)

/-- The pairs that are hashed for a proof. -/
def climbPairs (hash : η) : List η → List (η × η)
  | [] => []
  | other :: rest => (hash, other) :: climbPairs (node hash other) rest

/-- The last pair of a proof is what the others climb to, with the last hash. -/
theorem climbPairs_concat (hash : η) (proof : List η) (last : η) :
    climbPairs node hash (proof ++ [last]) =
      climbPairs node hash proof ++ [(climb node hash proof, last)] := by
  induction proof generalizing hash with
  | nil => rfl
  | cons other proof ih =>
    rw [List.cons_append, climbPairs, ih]
    rfl

/-- The level above is the hashes of the pairs. -/
theorem nextLevel_eq_map (level : List η) :
    nextLevel node level = (levelPairs level).map fun pair => node pair.1 pair.2 := by
  induction level using nextLevel.induct with
  | case1 left right rest ih =>
    rw [nextLevel, levelPairs, List.map_cons, ih]
  | case2 left => rfl
  | case3 => rfl

/-- Both hashes of a pair are on the level. -/
theorem mem_of_mem_levelPairs {level : List η} {pair : η × η} (h : pair ∈ levelPairs level) :
    pair.1 ∈ level ∧ pair.2 ∈ level := by
  induction level using nextLevel.induct with
  | case1 left right rest ih =>
    rcases List.mem_cons.mp h with rfl | h
    · exact ⟨.head _, .tail _ (.head _)⟩
    · exact ⟨.tail _ (.tail _ (ih h).1), .tail _ (.tail _ (ih h).2)⟩
  | case2 left =>
    cases List.mem_singleton.mp h
    exact ⟨.head _, .head _⟩
  | case3 => cases h

/-- What hashing keeps, every pair that is hashed for the tree has. -/
theorem forall_treePairs {P : η → Prop} {level : List η} (hnode : ∀ a b, P a → P b → P (node a b))
    (h : ∀ a ∈ level, P a) : ∀ pair ∈ treePairs node level, P pair.1 ∧ P pair.2 := by
  induction level using treePairs.induct node with
  | case1 level hlarge ih =>
    rw [treePairs, if_pos hlarge]
    intro pair hpair
    -- a pair of this level, or one from further up
    rcases List.mem_append.mp hpair with hpair | hpair
    · obtain ⟨hleft, hright⟩ := mem_of_mem_levelPairs hpair
      exact ⟨h _ hleft, h _ hright⟩
    · exact ih (forall_nextLevel node hnode h) pair hpair
  | case2 level hsmall =>
    rw [treePairs, if_neg hsmall]
    exact nofun

/-- What hashing keeps, every pair that is hashed for a proof has. -/
theorem forall_climbPairs {P : η → Prop} {hash : η} {proof : List η}
    (hnode : ∀ a b, P a → P b → P (node a b)) (hhash : P hash) (hproof : ∀ a ∈ proof, P a) :
    ∀ pair ∈ climbPairs node hash proof, P pair.1 ∧ P pair.2 := by
  induction proof generalizing hash with
  | nil => exact nofun
  | cons other proof ih =>
    rw [List.forall_mem_cons] at hproof
    rw [climbPairs, List.forall_mem_cons]
    exact ⟨⟨hhash, hproof.1⟩, ih (hnode _ _ hhash hproof.1) hproof.2⟩

section Sound

variable {node} {verified : η → η → η} {start root : η}

/-- One level down: what climbs to the level above climbs to the level one hash earlier. -/
theorem exists_climb_below {level proof : List η}
    (habove : climb verified start proof ∈ nextLevel node level)
    (hpair : ∀ p ∈ climbPairs verified start proof, ∀ q ∈ levelPairs level,
      verified p.1 p.2 = node q.1 q.2 → p.1 = q.1 ∨ p.1 = q.2)
    (hstart : ∀ q ∈ levelPairs level, start ≠ node q.1 q.2) :
    ∃ initial, initial <+: proof ∧ climb verified start initial ∈ level := by
  rw [nextLevel_eq_map] at habove
  obtain ⟨q, hq, habove⟩ := List.mem_map.mp habove
  obtain ⟨hleft, hright⟩ := mem_of_mem_levelPairs hq
  -- a climb of no steps would be the start itself, which is no hash of a pair
  cases proof using List.reverseRecOn with
  | nil => exact absurd habove.symm (hstart q hq)
  | append_singleton proof last =>
    refine ⟨proof, List.prefix_append _ _, ?_⟩
    have hlast : (climb verified start proof, last) ∈
        climbPairs verified start (proof ++ [last]) := by
      rw [climbPairs_concat]
      exact List.mem_append_right _ (.head _)
    have hnode : verified (climb verified start proof) last = node q.1 q.2 := by
      rw [habove, climb, climb, List.foldl_append]
      rfl
    -- without a collision the hash that was climbed to is one of the two below
    have hside : climb verified start proof = q.1 ∨ climb verified start proof = q.2 :=
      hpair _ hlast q hq hnode
    rcases hside with h | h
    · rw [h]
      exact hleft
    · rw [h]
      exact hright

/-- An initial part of a proof hashes some of the pairs. -/
theorem climbPairs_subset {initial proof : List η} (h : initial <+: proof) :
    climbPairs verified start initial ⊆ climbPairs verified start proof := by
  obtain ⟨rest, rfl⟩ := h
  induction rest using List.reverseRecOn with
  | nil =>
    rw [List.append_nil]
    exact List.Subset.refl _
  | append_singleton rest last ih =>
    rw [← List.append_assoc, climbPairs_concat]
    exact List.Subset.trans ih (List.subset_append_left _ _)

/-- **What climbs to the root is a leaf**, unless something collides: a pair of the proof has the
hash of a pair of the tree that it is not, or of a leaf, or the start is the hash of a pair.
Induction on the levels, from the root down. -/
theorem mem_of_climb {level proof : List η} (hroot : rootOf node level = some root)
    (hclimb : climb verified start proof = root)
    (hpair : ∀ p ∈ climbPairs verified start proof, ∀ q ∈ treePairs node level,
      verified p.1 p.2 = node q.1 q.2 → p.1 = q.1 ∨ p.1 = q.2)
    (hleaf : ∀ p ∈ climbPairs verified start proof, verified p.1 p.2 ∉ level)
    (hstart : ∀ q ∈ treePairs node level, start ≠ node q.1 q.2) : start ∈ level := by
  -- some initial part of the proof climbs to the level
  have hdown : ∃ initial, initial <+: proof ∧ climb verified start initial ∈ level := by
    clear hleaf
    -- one level of the tree against the last pair of the climb
    induction level using rootOf.induct node with
    | case1 level hlarge ih =>
      rw [rootOf, if_pos hlarge] at hroot
      rw [treePairs, if_pos hlarge] at hpair hstart
      obtain ⟨initial, hinitial, habove⟩ := ih hroot
        (fun p hp q hq => hpair p hp q (List.mem_append_right _ hq))
        (fun q hq => hstart q (List.mem_append_right _ hq))
      obtain ⟨shorter, hshorter, hmem⟩ := exists_climb_below habove
        (fun p hp q hq => hpair p (climbPairs_subset hinitial hp) q (List.mem_append_left _ hq))
        (fun q hq => hstart q (List.mem_append_left _ hq))
      exact ⟨shorter, hshorter.trans hinitial, hmem⟩
    | case2 level hsmall =>
      rw [rootOf, if_neg hsmall] at hroot
      exact ⟨proof, List.prefix_rfl, hclimb ▸ List.mem_of_head? hroot⟩
  obtain ⟨initial, hinitial, hmem⟩ := hdown
  -- nothing is left to climb, so the start is on the level of the leaves
  cases initial using List.reverseRecOn with
  | nil => exact hmem
  | append_singleton initial last =>
    -- a pair of the proof would have the hash of a leaf
    have hlast : (climb verified start initial, last) ∈ climbPairs verified start proof := by
      refine climbPairs_subset hinitial ?_
      rw [climbPairs_concat]
      exact List.mem_append_right _ (.head _)
    rw [climb, List.foldl_append] at hmem
    exact absurd hmem (hleaf _ hlast)

end Sound

end PythBridge.Clarity.MerkleTree
