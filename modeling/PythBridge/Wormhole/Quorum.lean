import PythBridge.Clarity.Distinct
import PythBridge.Wormhole.Layout

/-!
# The quorum

`parse-and-verify-vaa` counts keys, each once, and not guardians. A key is counted only when
it is stored for the guardian its signature is attributed to, so different counted keys stand
for different guardians (`Accepted`).

The count goes through four representations, and each lemma takes it one further:

* the entries of the VAA, of which some recover to a key (`recover?`);
* the keys that are the stored key of the guardian they are attributed to (`matched?`);
* the different ones among these, which the contract counts (`foldlM_batchCheckActivePublicKeys`);
* as many different guardians who signed (`exists_signers`).

The last step is not obvious: two entries could name one guardian, and one key could be stored for
two guardians. The former is harmless because a guardian has one stored key, the latter because the
key is only counted once.
-/

namespace PythBridge.WormholeCore

open Clarity

variable {pf : Platform}

/-- Guardian `i` of the set has signed the body of `vaa`: an entry that names it recovers to its
key. -/
def Signed (pf : Platform) (vaa : Vaa) (guardians : List GuardianKeys) (i : Nat) : Prop :=
  ∃ guardian, guardians[i]? = some guardian ∧ ∃ entry ∈ vaa.signatures,
    entry.guardianId = i ∧
      pf.secp256k1Recover (digest pf vaa) entry.signature = .ok guardian.compressedPublicKey

/-- What an accepted VAA is: the serialization of its fields, under version 1 and the active
guardian set, signed by a quorum of different guardians of that set. -/
structure Accepted (pf : Platform) (st : Storage) (vaaBytes : Buff) (vaa : Vaa) : Prop where
  layout : vaaBytes = headerBytes vaa ++ bodyBytes vaa
  version : vaa.version = 1
  guardianSetId : vaa.guardianSetId = st.activeGuardianSetId
  quorum : ∃ guardians, st.guardianSets st.activeGuardianSetId = some guardians ∧
    ∃ signers : List Nat, signers.Nodup ∧ getQuorum guardians.length ≤ signers.length ∧
      ∀ i ∈ signers, Signed pf vaa guardians i

/-- The key of an entry, when it is the stored key of the guardian it names. -/
def matched? (guardians : List GuardianKeys) (entry : RecoveredKey) : Option Buff :=
  if guardians[entry.guardianId]?.map GuardianKeys.compressedPublicKey =
      some entry.recoveredCompressedPublicKey then some entry.recoveredCompressedPublicKey
  else none

/-- A key matches exactly when it is the stored one. -/
theorem matched?_eq_some {guardians : List GuardianKeys} {entry : RecoveredKey} {key : Buff} :
    matched? guardians entry = some key ↔
      guardians[entry.guardianId]?.map GuardianKeys.compressedPublicKey = some key ∧
        entry.recoveredCompressedPublicKey = key := by
  unfold matched?
  split
  · next h =>
    rw [Option.some.injEq]
    refine ⟨fun hkey => ?_, And.right⟩
    subst hkey
    exact ⟨h, rfl⟩
  · next h =>
    refine ⟨fun hnone => absurd hnone (by simp), ?_⟩
    rintro ⟨hstored, rfl⟩
    exact absurd hstored h

/-- A step of the matching fold that returns collects the matched key. -/
theorem batchCheckActivePublicKeys_eq_ok {guardians : List GuardianKeys} {entry : RecoveredKey}
    {result result' : List Buff}
    (h : batchCheckActivePublicKeys guardians result entry = .ok result') :
    result' = (matched? guardians entry).elim result (collect result) := by
  simp only [batchCheckActivePublicKeys, exec_bind_eq_ok, unwrapPanicOpt_eq_ok] at h
  obtain ⟨guardian, hguardian, hstep⟩ := h
  rw [matched?, hguardian, Option.map_some]
  -- the key is not the stored one, or it is counted already, or it is counted now
  by_cases hkey : entry.recoveredCompressedPublicKey = guardian.compressedPublicKey
  · rw [if_pos (congrArg some hkey.symm)]
    by_cases hmem : entry.recoveredCompressedPublicKey ∈ result
    · rw [if_neg fun hkeep => List.idxOf?_eq_none_iff.mp hkeep.2 hmem, exec_pure_eq_ok] at hstep
      rw [Option.elim_some, collect, if_pos hmem, hstep]
    · rw [if_pos ⟨hkey, List.idxOf?_eq_none_iff.mpr hmem⟩, unwrapPanicOpt_eq_ok,
        asMaxLen?_eq_some] at hstep
      rw [Option.elim_some, collect, if_neg hmem, hstep.2]
  · rw [if_neg fun hkeep => hkey hkeep.1, exec_pure_eq_ok] at hstep
    rw [if_neg fun hsome => hkey (Option.some.inj hsome).symm, Option.elim_none, hstep]

/-- A step of the matching fold returns on a guardian that exists and with room in the
result. -/
theorem batchCheckActivePublicKeys_of_room {guardians : List GuardianKeys} {entry : RecoveredKey}
    {result : List Buff} (hid : entry.guardianId < guardians.length) (hroom : result.length < 19) :
    batchCheckActivePublicKeys guardians result entry =
      .ok ((matched? guardians entry).elim result (collect result)) := by
  have hreturns : ∃ result', batchCheckActivePublicKeys guardians result entry = .ok result' := by
    simp only [batchCheckActivePublicKeys, exec_bind_eq_ok, unwrapPanicOpt_eq_ok]
    -- the key is added, and there is room for it, or the result stays as it is
    by_cases hkeep : entry.recoveredCompressedPublicKey =
          guardians[entry.guardianId].compressedPublicKey ∧
        result.idxOf? entry.recoveredCompressedPublicKey = none
    · refine ⟨result ++ [entry.recoveredCompressedPublicKey], _, List.getElem?_eq_getElem hid, ?_⟩
      rw [if_pos hkeep, unwrapPanicOpt_eq_ok, asMaxLen?_eq_some]
      refine ⟨?_, rfl⟩
      rw [List.length_append, List.length_singleton]
      omega
    · refine ⟨result, _, List.getElem?_eq_getElem hid, ?_⟩
      rw [if_neg hkeep]
      rfl
  obtain ⟨result', h⟩ := hreturns
  rw [h, batchCheckActivePublicKeys_eq_ok h]

/-- The matching fold collects the matched keys. -/
theorem foldlM_batchCheckActivePublicKeys {guardians : List GuardianKeys}
    {keys : List RecoveredKey} {result result' : List Buff}
    (h : keys.foldlM (batchCheckActivePublicKeys guardians) result = .ok result') :
    result' = (keys.filterMap (matched? guardians)).foldl collect result :=
  foldlM_eq_foldl_filterMap h fun _ _ _ => batchCheckActivePublicKeys_eq_ok

/-- Counted keys stand for different guardians who signed. -/
theorem exists_signers {vaa : Vaa} {activeGuardians : List GuardianKeys} {result : List Buff}
    (h : (vaa.signatures.filterMap (recover? pf (digest pf vaa))).foldlM
      (batchCheckActivePublicKeys activeGuardians) [] = .ok result) :
    ∃ signers : List Nat, signers.Nodup ∧ signers.length = result.length ∧
      ∀ i ∈ signers, Signed pf vaa activeGuardians i := by
  have hresult := foldlM_batchCheckActivePublicKeys h
  have hnodup : result.Nodup := hresult ▸ foldl_collect_nodup .nil _
  -- every counted key was matched for some guardian, and that guardian's entry is the signature
  have hvoter : ∀ key ∈ result, ∃ i, (activeGuardians[i]?.map GuardianKeys.compressedPublicKey =
      some key ∧ Signed pf vaa activeGuardians i) := by
    intro key hkey
    rw [hresult, mem_foldl_collect] at hkey
    obtain ⟨recovered, hrecovered, hmatched⟩ :=
      List.mem_filterMap.mp (hkey.resolve_left List.not_mem_nil)
    obtain ⟨entry, hentry, hrecover⟩ := List.mem_filterMap.mp hrecovered
    obtain ⟨hok, hid⟩ := recover?_eq_some.mp hrecover
    obtain ⟨hstored, rfl⟩ := matched?_eq_some.mp hmatched
    obtain ⟨guardian, hguardian, hkey⟩ := Option.map_eq_some_iff.mp hstored
    exact ⟨recovered.guardianId, hstored, guardian, hguardian, entry, hentry, hid, hkey ▸ hok⟩
  obtain ⟨signers, hsigners, hall⟩ := exists_nodup_forall₂
    (fun i a b ha hb => Option.some.inj (ha.1.symm.trans hb.1)) hnodup hvoter
  refine ⟨signers, hsigners, hall.length_eq, fun i hi => ?_⟩
  obtain ⟨_, -, -, hsigned⟩ := forall₂_exists_of_mem hall hi
  exact hsigned

/-- **An accepted VAA is signed by a quorum.** -/
theorem parseAndVerifyVaa_eq_ok (hk : pf.hkCursor.Lawful) {st : Storage} {vaaBytes : Buff}
    {vaa : Vaa} (h : parseAndVerifyVaa pf st vaaBytes = .ok vaa) :
    Accepted pf st vaaBytes vaa := by
  simp only [parseAndVerifyVaa, exec_bind_eq_ok, asserts_eq_ok, unwrapOpt_eq_ok,
    exec_pure_eq_ok] at h
  obtain ⟨message, hmessage, _, hid, activeGuardians, hactive, signatures, hsignatures, _,
    hversion, _, hquorum, rfl⟩ := h
  obtain ⟨hlayout, hkeys, -⟩ := parseVaa_eq_ok hk hmessage
  rw [hkeys] at hsignatures
  obtain ⟨signers, hnodup, hlength, hsigned⟩ := exists_signers hsignatures
  exact ⟨hlayout, hversion, hid, activeGuardians, hid ▸ hactive, signers, hnodup,
    hlength ▸ hquorum, hsigned⟩

end PythBridge.WormholeCore
