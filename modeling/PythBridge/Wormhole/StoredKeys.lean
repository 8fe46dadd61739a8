import PythBridge.Wormhole.GuardianSets

/-!
# Stored keys and signed addresses

`check-and-consolidate-public-keys` walks the caller's keys with its own cursor into the signed
addresses. What it stores at an index is the empty pair, or a key that hashes to the address at
that index (`guardianOf_bound`); from which call a stored set comes is read off the run.

The chain of the argument: a set that is stored after a run, and was not stored before it, was
stored by one call of the run (`exists_step_of_afterRun`); that call is a rotation, so the set pairs
the addresses of its payload with its keys (`UpdateCall.stores`); and a key that passed the fold is
empty or has its 64th byte, so its two halves have 32 bytes each (`guardianOf_bound`).

That a key has *at most* 64 bytes is the type bound of the argument, and that a hash has 32 bytes is
a fact about the hash function; both are hypotheses here.
-/

namespace PythBridge.WormholeCore

open Clarity

variable {pf : Platform}

/-! ## One key

What the fold does with one key, whichever address stands across from it. -/

/-- A guardian as an address allows it: no key, or the 64-byte key `x ++ y` with this address,
compressed by the parity of `y`. -/
def BoundTo (pf : Platform) (address : Buff) (guardian : GuardianKeys) : Prop :=
  guardian = ⟨[], []⟩ ∨
    ∃ x y : Buff, x.length = 32 ∧ y.length = 32 ∧ guardian.uncompressedPublicKey = x ++ y ∧
      (pf.keccak256 (x ++ y)).drop 12 = address ∧
      guardian.compressedPublicKey = (if buffToUintBe y % 2 = 0 then [0x02] else [0x03]) ++ x

/-- A key that was compressed is empty or reaches its 64th byte. -/
theorem compressPublicKey_length {key compressed : Buff}
    (h : compressPublicKey key = .ok compressed) : key = [] ∨ 64 ≤ key.length := by
  unfold compressPublicKey at h
  split at h
  · next hnil => exact .inl hnil.symm
  · simp only [exec_bind_eq_ok, unwrapPanicOpt_eq_ok] at h
    obtain ⟨_, -, yLastByte, hlast, -⟩ := h
    obtain ⟨hlt, -⟩ := List.getElem?_eq_some_iff.mp hlast
    exact .inr hlt

/-- The parity of a number is that of its last byte: this is the prefix of a compressed key. -/
theorem buffToUintBe_mod_two {buff : Buff} {byte : UInt8} :
    buffToUintBe (buff ++ [byte]) % 2 = byte.toNat % 2 := by
  rw [buffToUintBe_concat]
  omega

/-- The compressed form of a 64-byte key. -/
theorem compressedKey_append {x y : Buff} (hx : x.length = 32) (hy : y.length = 32) :
    compressedKey (x ++ y) = (if buffToUintBe y % 2 = 0 then [0x02] else [0x03]) ++ x := by
  obtain ⟨init, last, rfl⟩ : ∃ init last, y = init ++ [last] := by
    -- the last byte decides about the prefix, so the tail is split at its end
    rcases List.eq_nil_or_concat y with rfl | ⟨init, last, rfl⟩
    · cases hy
    · exact ⟨init, last, by rw [List.concat_eq_append]⟩
  have hne : x ++ (init ++ [last]) ≠ [] := fun hnil => by
    rw [List.append_eq_nil_iff] at hnil
    rw [hnil.1] at hx
    cases hx
  have hlast : (x ++ (init ++ [last]))[63]? = some last := by
    rw [List.length_append, List.length_singleton] at hy
    rw [← List.append_assoc, List.getElem?_append_right (by rw [List.length_append]; omega),
      List.length_append]
    have hzero : 63 - (x.length + init.length) = 0 := by omega
    rw [hzero]
    rfl
  rw [compressedKey, if_neg hne, hlast, Option.getD_some, buffToUintBe_mod_two,
    List.take_left' hx]

/-- What is stored for an address is bound to it. -/
theorem guardianOf_bound (hkeccak : ∀ bytes, (pf.keccak256 bytes).length = 32)
    {address key : Buff} (hkey : key = [] ∨ 64 ≤ key.length) (hbound : key.length ≤ 64) :
    BoundTo pf address (guardianOf pf address key) := by
  unfold guardianOf
  split
  · next hmatching =>
    -- the empty key is stored as the empty pair, and a whole key is cut into its two halves
    rcases hkey with rfl | hlength
    · exact .inl rfl
    · have hx : (key.take 32).length = 32 := by
        rw [List.length_take]
        omega
      have hy : (key.drop 32).length = 32 := by
        rw [List.length_drop]
        omega
      have hparts : key.take 32 ++ key.drop 32 = key := List.take_append_drop 32 key
      have haddress : (pf.keccak256 key).drop 12 = address := by
        rw [← hmatching, ethAddress, List.take_of_length_le]
        rw [List.length_drop, hkeccak]
      have hcompressed := compressedKey_append hx hy
      rw [hparts] at hcompressed
      exact .inr ⟨_, _, hx, hy, hparts.symm, by rw [hparts]; exact haddress, hcompressed⟩
  · exact .inl rfl

/-! ## One call

What a successful call stores is new, since ids only rise. -/

/-- A step of the fold that returned had a key of the right size. -/
theorem checkAndConsolidatePublicKeys_length {addresses : List Buff} {acc acc' : ConsolidateAcc}
    {key : Buff} (h : checkAndConsolidatePublicKeys pf addresses acc key = .ok acc') :
    key = [] ∨ 64 ≤ key.length := by
  simp only [checkAndConsolidatePublicKeys, exec_bind_eq_ok] at h
  obtain ⟨_, -, compressed, hcompressed, -⟩ := h
  exact compressPublicKey_length hcompressed

/-- A call with a malformed key does not return. -/
theorem updateGuardiansSet_keys {c : UpdateCall} {st st' : Storage} {updated : GuardiansSetUpdated}
    (h : updateGuardiansSet pf c.guardianSetVaa c.uncompressedPublicKeys st =
      (.ok updated, st')) :
    ∀ key ∈ c.uncompressedPublicKeys, key = [] ∨ 64 ≤ key.length := by
  simp only [updateGuardiansSet, Contract.bind_eq_ok, Contract.lift_apply, Prod.mk.injEq] at h
  obtain ⟨_, _, -, _, _, -, _, _, ⟨hconsolidated, -⟩, -⟩ := h
  intro key hkey
  obtain ⟨_, _, hstep⟩ := exists_step_of_foldlM hconsolidated hkey
  exact checkAndConsolidatePublicKeys_length hstep

/-- A successful call stores one set, whose entries are bound to the addresses it names. -/
theorem UpdateCall.stores (hk : pf.hkCursor.Lawful)
    (hkeccak : ∀ bytes, (pf.keccak256 bytes).length = 32) {c : UpdateCall} {st : Storage}
    (hbound : ∀ key ∈ c.uncompressedPublicKeys, key.length ≤ 64) {id : Nat}
    {guardians : List GuardianKeys} (hbefore : st.guardianSets id ≠ some guardians)
    (hafter : (st.after pf c).guardianSets id = some guardians) :
    ∃ updated, (c.run pf st).1 = .ok updated ∧
      (∃ trailing, updated.vaa.payload =
        upgradePayload id updated.guardiansEthAddresses trailing) ∧
      guardians.length = updated.guardiansEthAddresses.length ∧
      ∀ (i : Nat) address guardian, updated.guardiansEthAddresses[i]? = some address →
        guardians[i]? = some guardian → BoundTo pf address guardian := by
  -- a failed call stores nothing, and a successful one stores the set it has made active
  rcases c.cases hk st with ⟨updated, hok, hrotated⟩ | ⟨-, hsame⟩
  · -- any other id keeps what it had, so the set would have been there before
    have hid : id = (st.after pf c).activeGuardianSetId := by
      by_contra hother
      rw [hrotated.guardianSets, DataMap.set_of_ne _ _ hother] at hafter
      exact hbefore hafter
    have hguardians : List.zipWith (guardianOf pf) updated.guardiansEthAddresses
        c.uncompressedPublicKeys = guardians := by
      rw [hrotated.guardianSets, hid, DataMap.set_self, Option.some.injEq] at hafter
      exact hafter
    have hkeys := updateGuardiansSet_keys (Contract.transaction_eq_ok.mp hok)
    refine ⟨updated, by rw [hok], hid ▸ hrotated.payload, ?_, ?_⟩
    · rw [← hguardians, List.length_zipWith, hrotated.keys_length, Nat.min_self]
    · intro i address guardian haddress hguardian
      rw [← hguardians, List.getElem?_zipWith_eq_some] at hguardian
      obtain ⟨address', key, haddress', hkey, rfl⟩ := hguardian
      rw [haddress, Option.some.injEq] at haddress'
      subst haddress'
      have hmem := List.mem_of_getElem? hkey
      exact guardianOf_bound hkeccak (hkeys key hmem) (hbound key hmem)
  · rw [hsame] at hafter
    exact absurd hafter hbefore

/-! ## Every stored set -/

/-- **Stored keys are bound to signed addresses.** Whatever calls came before, with whatever
keys of at most 64 bytes: every stored set was stored by a successful call among them; it has an
entry for each address that the call's VAA names, and each entry is empty or the key, in both
forms, that hashes to its address. -/
theorem stored_keys_bound (hk : pf.hkCursor.Lawful)
    (hkeccak : ∀ bytes, (pf.keccak256 bytes).length = 32) {calls : List UpdateCall}
    (htypes : ∀ c ∈ calls, ∀ key ∈ c.uncompressedPublicKeys, key.length ≤ 64) {id : Nat}
    {guardians : List GuardianKeys}
    (h : (Clarity.afterRun (Storage.after pf) .deployed calls).guardianSets id =
      some guardians) :
    ∃ before c after updated, calls = before ++ c :: after ∧
      (c.run pf (Clarity.afterRun (Storage.after pf) .deployed before)).1 = .ok updated ∧
      (∃ trailing, updated.vaa.payload =
        upgradePayload id updated.guardiansEthAddresses trailing) ∧
      guardians.length = updated.guardiansEthAddresses.length ∧
      ∀ (i : Nat) address guardian, updated.guardiansEthAddresses[i]? = some address →
        guardians[i]? = some guardian →
        guardian = ⟨[], []⟩ ∨
          ∃ x y : Buff, x.length = 32 ∧ y.length = 32 ∧ guardian.uncompressedPublicKey = x ++ y ∧
            (pf.keccak256 (x ++ y)).drop 12 = address ∧
            guardian.compressedPublicKey =
              (if buffToUintBe y % 2 = 0 then [0x02] else [0x03]) ++ x := by
  have hnone : ¬ Storage.deployed.guardianSets id = some guardians := fun hsome => by cases hsome
  obtain ⟨before, c, after, rfl, hbefore, hafter⟩ := exists_step_of_afterRun
    (P := fun (st : Storage) => st.guardianSets id = some guardians) hnone h
  have hbound := htypes c (List.mem_append_right before (.head _))
  obtain ⟨updated, hok, hpayload, hlength, hentries⟩ :=
    UpdateCall.stores hk hkeccak hbound hbefore hafter
  exact ⟨before, c, after, updated, rfl, hok, hpayload, hlength, hentries⟩

theorem stored_keys_bound_firstSet :
    ∃ before c after updated, [firstSet] = before ++ c :: after ∧
      (c.run .reference (Clarity.afterRun (Storage.after .reference) .deployed before)).1 =
        .ok updated ∧ 1 = updated.guardiansEthAddresses.length := by
  have hstored : (Clarity.afterRun (Storage.after .reference) .deployed [firstSet]).guardianSets 1 =
      some [⟨compressedKey guardianKey, guardianKey⟩] := by
    decide +kernel
  have hkeccak : ∀ bytes, (Platform.reference.keccak256 bytes).length = 32 := fun bytes => by
    show ((bytes ++ List.replicate 32 0).take 32).length = 32
    rw [List.length_take, List.length_append, List.length_replicate]
    omega
  obtain ⟨before, c, after, updated, hcalls, hok, -, hlength, -⟩ :=
    stored_keys_bound Platform.reference_lawful hkeccak (by decide) hstored
  exact ⟨before, c, after, updated, hcalls, hok, hlength⟩

end PythBridge.WormholeCore
