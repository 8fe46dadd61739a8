import PythBridge.Wormhole.GuardianSets

/-!
# Rotations that lock the bridge

The keys of a new set come from the caller, not from the guardians. `update-guardians-set`
counts them but stores the empty key for each that does not match its address, so a caller
can leave a set that cannot reach its quorum. `SuppliesQuorum` is the condition on a call
under which the set it stores can.

The guardians sign addresses, and an address does not determine its key for the contract: the caller
has to supply it. The source compares the *number* of keys with the number of addresses under a
comment that asks for enough keys, and stores `(0x, 0x)` for every key that does not match. One
caller with a genuine, signed upgrade can therefore replace the guardians by a set that no VAA can
satisfy again, and no upgrade, which would have to be such a VAA, can repair it.

* **`Rotated.quorate_iff`** — one rotation: the set can sign exactly when enough keys match.
* **`unlocked_iff_suppliesQuorum`** — the same over runs, as an exact condition on the calls that
  succeed.
* **`lockingCall_locks`** — a run that ends locked.
-/

namespace PythBridge.WormholeCore

open Clarity

/-- Enough different guardians of a set have a key for a quorum. -/
def Quorate (guardians : List GuardianKeys) : Prop :=
  getQuorum guardians.length ≤
    ((guardians.map GuardianKeys.compressedPublicKey).filter (· ≠ [])).dedup.length

instance (guardians : List GuardianKeys) : Decidable (Quorate guardians) :=
  inferInstanceAs (Decidable (_ ≤ _))

/-- The supplied keys that belong to the address at their position, compressed. -/
def matchingKeys (pf : Platform) (addresses keys : List Buff) : List Buff :=
  (List.zip addresses keys).filterMap fun pair =>
    if pair.2 ≠ [] ∧ ethAddress pf pair.2 = pair.1 then some (compressedKey pair.2) else none

/-- Enough of the keys a call supplies belong to the addresses its VAA names. -/
def SuppliesQuorum (pf : Platform) (c : UpdateCall) : Prop :=
  ∀ message, parseVaa pf c.guardianSetVaa = .ok message →
    getQuorum (guardianAddresses message.vaa.payload).length ≤
      (matchingKeys pf (guardianAddresses message.vaa.payload)
        c.uncompressedPublicKeys).dedup.length

section Lockout

variable {pf : Platform}

/-- Only the empty key is compressed to the empty one, so a stored key that is not empty matched. -/
theorem compressedKey_eq_nil {key : Buff} : compressedKey key = [] ↔ key = [] := by
  unfold compressedKey
  -- the empty key is passed through; any other one gets a prefix
  by_cases hnil : key = []
  · simp [hnil]
  · rw [if_neg hnil]
    split <;> simp [hnil]

/-- The keys of a stored set that are not empty are the matching ones. -/
theorem keys_of_zipWith (addresses keys : List Buff) :
    ((List.zipWith (guardianOf pf) addresses keys).map
      GuardianKeys.compressedPublicKey).filter (· ≠ []) = matchingKeys pf addresses keys := by
  -- the two lists are walked together, and have one length
  induction addresses generalizing keys with
  | nil => simp [matchingKeys]
  | cons address addresses ih =>
    cases keys with
    | nil => simp [matchingKeys]
    | cons key keys =>
      have hrest := ih keys
      unfold matchingKeys at *
      rw [List.zipWith_cons_cons, List.map_cons, List.zip_cons_cons, List.filterMap_cons]
      -- the key is kept on both sides, or the guardian is stored without one
      by_cases hmatch : key ≠ [] ∧ ethAddress pf key = address
      · have hkey : compressedKey key ≠ [] := fun h => hmatch.1 (compressedKey_eq_nil.mp h)
        rw [if_pos hmatch, guardianOf, if_pos hmatch.2,
          List.filter_cons_of_pos (by simpa using hkey), hrest]
      · have hempty : (guardianOf pf address key).compressedPublicKey = [] := by
          unfold guardianOf
          split
          · next haddress =>
            exact compressedKey_eq_nil.mpr (by_contra fun hne => hmatch ⟨hne, haddress⟩)
          · rfl
        rw [if_neg hmatch, List.filter_cons_of_neg (by simp [hempty]), hrest]

/-- A rotation leaves a quorate set exactly when its call supplied the keys for one. -/
theorem Rotated.quorate_iff {c : UpdateCall} {vaa : Vaa} {addresses : List Buff}
    {st st' : Storage} (h : Rotated pf c vaa addresses st st') :
    (∃ guardians, st'.guardianSets st'.activeGuardianSetId = some guardians ∧
      Quorate guardians) ↔ SuppliesQuorum pf c := by
  have hstored : st'.guardianSets st'.activeGuardianSetId =
      some (List.zipWith (guardianOf pf) addresses c.uncompressedPublicKeys) := by
    rw [h.guardianSets, DataMap.set_self]
  have hlength : (List.zipWith (guardianOf pf) addresses c.uncompressedPublicKeys).length =
      addresses.length := by
    rw [List.length_zipWith, h.keys_length, Nat.min_self]
  have hquorate : Quorate (List.zipWith (guardianOf pf) addresses c.uncompressedPublicKeys) ↔
      getQuorum addresses.length ≤
        (matchingKeys pf addresses c.uncompressedPublicKeys).dedup.length := by
    rw [Quorate, hlength, keys_of_zipWith]
  obtain ⟨message, hmessage, hvaa⟩ := h.parsed
  have haddresses : guardianAddresses message.vaa.payload = addresses := by
    rw [hvaa, ← h.addresses_eq]
  constructor
  · -- the stored set is the one of this rotation, and the parsed message is its VAA
    rintro ⟨guardians, hguardians, hq⟩ other hother
    rw [hmessage] at hother
    cases hother
    rw [hstored] at hguardians
    cases hguardians
    rw [haddresses]
    exact hquorate.mp hq
  · intro hsupplies
    have := hsupplies message hmessage
    rw [haddresses] at this
    exact ⟨_, hstored, hquorate.mpr this⟩

/-- Once there are guardians, enough of the active ones have a key for a quorum. -/
def Storage.Unlocked (st : Storage) : Prop :=
  st.guardianSetInitialized = true →
    ∃ guardians, st.guardianSets st.activeGuardianSetId = some guardians ∧ Quorate guardians

/-- After a rotation the bridge is unlocked exactly when the call supplied the keys for that. -/
theorem Rotated.unlocked_iff {c : UpdateCall} {vaa : Vaa} {addresses : List Buff}
    {st st' : Storage} (h : Rotated pf c vaa addresses st st') :
    st'.Unlocked ↔ SuppliesQuorum pf c := by
  rw [← h.quorate_iff]
  exact ⟨fun hunlocked => hunlocked h.initialized, fun hquorate _ => hquorate⟩

/-- **When rotations do not lock the bridge.** In every run the active set is quorate in every
state reached exactly when each successful call of the run supplied matching keys for a quorum of
the addresses its VAA names; what the other calls supplied does not matter. The same holds for one
successful call from any state. -/
theorem unlocked_iff_suppliesQuorum (hk : pf.hkCursor.Lawful) :
    (∀ calls : List UpdateCall,
      (∀ before, before <+: calls →
          (Clarity.afterRun (Storage.after pf) .deployed before).Unlocked) ↔
        ∀ c ∈ successfulCalls pf .deployed calls, SuppliesQuorum pf c) ∧
    ∀ (st : Storage) (c : UpdateCall) updated, (c.run pf st).1 = .ok updated →
      ((st.after pf c).Unlocked ↔ SuppliesQuorum pf c) := by
  constructor
  · -- what one call puts out decides whether the invariant goes on, so it does over a run
    intro calls
    refine forall_states_iff_outputs (fun st c hst => ?_) calls fun h => by cases h
    rcases c.cases hk st with ⟨updated, hok, hrotated⟩ | ⟨⟨e, herror⟩, hsame⟩
    · -- a success puts the call out, and its keys decide
      rw [hok, List.forall_mem_singleton]
      exact hrotated.unlocked_iff
    · -- a failure puts nothing out and leaves the state
      rw [herror, hsame]
      exact iff_of_true hst (List.forall_mem_nil _)
  · intro st c updated hok
    rcases c.cases hk st with ⟨updated', -, hrotated⟩ | ⟨⟨e, herror⟩, -⟩
    · exact hrotated.unlocked_iff
    · rw [herror] at hok
      cases hok

theorem unlocked_iff_suppliesQuorum_firstSet :
    (Clarity.afterRun (Storage.after .reference) .deployed [firstSet]).Unlocked := by
  refine ((unlocked_iff_suppliesQuorum Platform.reference_lawful).1 [firstSet]).mpr
    (fun c hc message hmessage => ?_) _ List.prefix_rfl
  have hsuccess : successfulCalls .reference .deployed [firstSet] = [firstSet] := by
    decide +kernel
  rw [hsuccess] at hc
  obtain rfl := List.mem_singleton.mp hc
  have hparsed : parseVaa .reference firstSet.guardianSetVaa =
      .ok ⟨upgradeTo 0 1 (ethAddress .reference guardianKey), []⟩ := by decide +kernel
  rw [hparsed] at hmessage
  cases hmessage
  decide +kernel

/-- A rotation to set 2, signed by the guardian of set 1, whose caller supplies a key that is
not the one of the address in the VAA. -/
def lockingCall : UpdateCall where
  guardianSetVaa := serialize (signed (upgradeTo 1 2 (ethAddress .reference guardianKey)))
  uncompressedPublicKeys := [List.replicate 64 9]

theorem lockingCall_locks :
    let st := Clarity.afterRun (Storage.after .reference) .deployed [firstSet, lockingCall]
    successfulCalls .reference .deployed [firstSet, lockingCall] = [firstSet, lockingCall] ∧
      st.guardianSetInitialized = true ∧ st.activeGuardianSetId = 2 ∧
      st.guardianSets st.activeGuardianSetId = some [⟨[], []⟩] ∧ ¬ st.Unlocked := by
  intro st
  have hset : st.guardianSets st.activeGuardianSetId = some [⟨[], []⟩] := by decide +kernel
  refine ⟨by decide +kernel, by decide +kernel, by decide +kernel, hset, fun hunlocked => ?_⟩
  obtain ⟨guardians, hguardians, hquorate⟩ := hunlocked (by decide +kernel)
  rw [hset] at hguardians
  cases hguardians
  revert hquorate
  decide

end Lockout

end PythBridge.WormholeCore
