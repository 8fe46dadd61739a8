import PythBridge.Wormhole.GuardianSets
import PythBridge.Wormhole.RoundTrip

/-!
# The signers of a VAA

The matching fold of `parse-and-verify-vaa` collects keys in the order of the signatures and
skips what it has. Only the set of the keys (`signerKeys`) decides: it is what the quorum is
compared with (`parseAndVerifyVaa_serialize`), so order, repetitions and invalid entries do not
matter, and two accepted VAAs share signers.

`Quorum` shows that a quorum is behind every accepted VAA. Here the verdict is computed exactly, for
a VAA that can be written at all (`Addressed`): it is accepted if and only if the set of the signers
has the size of a quorum. Everything else about the list of signatures is irrelevant, and the
results are instances of this one fact:

* **`common_signers_of_accepted`** — two quorums of one set overlap in more than a third.
* **`verdict_of_signers`** — signing is enough, the order of the signatures does not matter, and
  more signatures never hurt.
* **`emptyVaa_refused`** — why a payload is asked for.
-/

namespace PythBridge.WormholeCore

open Clarity

variable {pf : Platform}

/-- Some entry of the VAA is attributed to a guardian with this stored key, and its signature
recovers to the key over the body. -/
def SignedWith (pf : Platform) (guardians : List GuardianKeys) (vaa : Vaa) (key : Buff) : Prop :=
  ∃ entry ∈ vaa.signatures,
    guardians[entry.guardianId]?.map GuardianKeys.compressedPublicKey = some key ∧
      pf.secp256k1Recover (digest pf vaa) entry.signature = .ok key

instance (guardians : List GuardianKeys) (vaa : Vaa) (key : Buff) :
    Decidable (SignedWith pf guardians vaa key) :=
  inferInstanceAs (Decidable (∃ entry ∈ vaa.signatures, _ ∧ _))

/-- The keys of a guardian set; the empty key of a guardian without one is among them. -/
def storedKeys (guardians : List GuardianKeys) : Finset Buff :=
  (guardians.map GuardianKeys.compressedPublicKey).toFinset

/-- The stored keys with a valid signature. -/
def signerKeys (pf : Platform) (guardians : List GuardianKeys) (vaa : Vaa) : Finset Buff :=
  (storedKeys guardians).filter (SignedWith pf guardians vaa)

/-- Who has signed has a stored key. -/
theorem SignedWith.mem_storedKeys {guardians : List GuardianKeys} {vaa : Vaa} {key : Buff}
    (h : SignedWith pf guardians vaa key) : key ∈ storedKeys guardians := by
  obtain ⟨entry, -, hstored, -⟩ := h
  obtain ⟨guardian, hguardian, rfl⟩ := Option.map_eq_some_iff.mp hstored
  exact List.mem_toFinset.mpr (List.mem_map_of_mem (List.mem_of_getElem? hguardian))

/-- Being a stored key adds nothing to having signed. -/
theorem mem_signerKeys {guardians : List GuardianKeys} {vaa : Vaa} {key : Buff} :
    key ∈ signerKeys pf guardians vaa ↔ SignedWith pf guardians vaa key := by
  rw [signerKeys, Finset.mem_filter]
  exact ⟨And.right, fun h => ⟨h.mem_storedKeys, h⟩⟩

/-- There are at most as many keys as guardians. -/
theorem storedKeys_card_le (guardians : List GuardianKeys) :
    (storedKeys guardians).card ≤ guardians.length := by
  have hcard := List.toFinset_card_le (guardians.map GuardianKeys.compressedPublicKey)
  rwa [List.length_map] at hcard

/-! ## The matching fold

In `Quorum` the fold is known to have returned. Here it is shown to return, when every guardian that
an entry names exists and there is room for all keys. -/

/-- The matching fold collects the matched keys, when all guardians exist and the result has
room for all entries. -/
theorem foldlM_batchCheckActivePublicKeys_of_room {guardians : List GuardianKeys}
    {keys : List RecoveredKey} (hids : ∀ entry ∈ keys, entry.guardianId < guardians.length)
    (hroom : keys.length ≤ 19) :
    keys.foldlM (batchCheckActivePublicKeys guardians) [] =
      .ok ((keys.filterMap (matched? guardians)).foldl collect []) := by
  have hroom' : ([] : List Buff).length + keys.length ≤ 19 := by
    rw [List.length_nil]
    omega
  exact foldlM_of_room
    (fun entry hentry _ => batchCheckActivePublicKeys_of_room (hids entry hentry))
    collect_length_le hroom'

/-- What the matching fold collects are the keys of the signers. -/
theorem matched_toFinset (guardians : List GuardianKeys) (vaa : Vaa) :
    ((vaa.signatures.filterMap (recover? pf (digest pf vaa))).filterMap
      (matched? guardians)).toFinset = signerKeys pf guardians vaa := by
  ext key
  rw [List.mem_toFinset, mem_signerKeys, List.mem_filterMap]
  constructor
  · -- a matched key was recovered from the signature of an entry, and vice versa
    rintro ⟨recovered, hrecovered, hmatched⟩
    obtain ⟨entry, hentry, hrecover⟩ := List.mem_filterMap.mp hrecovered
    obtain ⟨hok, hid⟩ := recover?_eq_some.mp hrecover
    obtain ⟨hstored, rfl⟩ := matched?_eq_some.mp hmatched
    exact ⟨entry, hentry, hid ▸ hstored, hok⟩
  · rintro ⟨entry, hentry, hstored, hok⟩
    exact ⟨⟨key, entry.guardianId⟩,
      List.mem_filterMap.mpr ⟨entry, hentry, recover?_eq_some.mpr ⟨hok, rfl⟩⟩,
      matched?_eq_some.mpr ⟨hstored, rfl⟩⟩

/-! ## Two accepted VAAs

Both have a quorum among the keys of one set, so the counting lemma for two quorums applies. -/

/-- An accepted VAA has a quorum of signers. -/
theorem quorum_le_signerKeys (hk : pf.hkCursor.Lawful) {st : Storage} {vaaBytes : Buff} {vaa : Vaa}
    (h : parseAndVerifyVaa pf st vaaBytes = .ok vaa) :
    vaa.guardianSetId = st.activeGuardianSetId ∧
      ∃ guardians, st.guardianSets st.activeGuardianSetId = some guardians ∧
        getQuorum guardians.length ≤ (signerKeys pf guardians vaa).card := by
  simp only [parseAndVerifyVaa, exec_bind_eq_ok, asserts_eq_ok, unwrapOpt_eq_ok,
    exec_pure_eq_ok] at h
  obtain ⟨message, hmessage, _, hid, guardians, hactive, result, hresult, _, -, _, hquorum,
    rfl⟩ := h
  obtain ⟨-, hkeys, -⟩ := parseVaa_eq_ok hk hmessage
  rw [hkeys] at hresult
  refine ⟨hid, guardians, hid ▸ hactive, ?_⟩
  rwa [foldlM_batchCheckActivePublicKeys hresult, foldl_collect_length, matched_toFinset]
    at hquorum

/-- **Two accepted VAAs share signers.** Of the keys stored for the active set, more than a
third have a valid signature in both. -/
theorem common_signers_of_accepted (hk : pf.hkCursor.Lawful) {st : Storage} {vaaBytes : Buff}
    {vaaBytes' : Buff} {vaa vaa' : Vaa} (h : parseAndVerifyVaa pf st vaaBytes = .ok vaa)
    (h' : parseAndVerifyVaa pf st vaaBytes' = .ok vaa') :
    ∃ guardians, st.guardianSets st.activeGuardianSetId = some guardians ∧
      guardians.length <
        3 * ((storedKeys guardians).filter fun key =>
          SignedWith pf guardians vaa key ∧ SignedWith pf guardians vaa' key).card := by
  obtain ⟨-, guardians, hactive, hquorum⟩ := quorum_le_signerKeys hk h
  obtain ⟨-, guardians', hactive', hquorum'⟩ := quorum_le_signerKeys hk h'
  have hsame : guardians' = guardians := Option.some.inj (hactive'.symm.trans hactive)
  subst hsame
  refine ⟨guardians', hactive, ?_⟩
  rw [Finset.filter_and]
  exact lt_three_mul_card_inter (storedKeys_card_le guardians') (Finset.filter_subset _ _)
    (Finset.filter_subset _ _) hquorum hquorum'

theorem common_signers_of_accepted_firstSet :
    ∃ guardians, guardians.length < 3 * ((storedKeys guardians).filter fun key =>
      SignedWith .reference guardians
        (signed (upgradeTo 1 2 (ethAddress .reference guardianKey))) key ∧
      SignedWith .reference guardians
        (signed (upgradeTo 1 3 (ethAddress .reference guardianKey))) key).card := by
  have haccepted : ∀ newIndex ∈ [2, 3], parseAndVerifyVaa .reference
      (Clarity.afterRun (Storage.after .reference) .deployed [firstSet])
      (serialize (signed (upgradeTo 1 newIndex (ethAddress .reference guardianKey)))) =
        .ok (signed (upgradeTo 1 newIndex (ethAddress .reference guardianKey))) := by
    decide +kernel
  obtain ⟨guardians, -, hcommon⟩ := common_signers_of_accepted Platform.reference_lawful
    (haccepted 2 (.head _)) (haccepted 3 (.tail _ (.head _)))
  exact ⟨guardians, hcommon⟩

/-! ## The verdict

The hypotheses of `Addressed` are those under which the contract gets as far as counting: the VAA
can be written, it is of the supported version, and it is under the active set. -/

/-- A VAA that can be written, of version 1 and under the active set, with at most 19 entries
which all name a guardian of the set. -/
structure Addressed (pf : Platform) (st : Storage) (guardians : List GuardianKeys) (vaa : Vaa) :
    Prop where
  active : st.guardianSets st.activeGuardianSetId = some guardians
  fits : FitsWire vaa
  version : vaa.version = 1
  guardianSetId : vaa.guardianSetId = st.activeGuardianSetId
  signaturesLen : vaa.signaturesLen = vaa.signatures.length
  count : vaa.signatures.length ≤ 19
  inRange : ∀ entry ∈ vaa.signatures, entry.guardianId < guardians.length

/-- The order of the signatures does not matter for being addressed. -/
theorem Addressed.perm {st : Storage} {guardians : List GuardianKeys} {vaa : Vaa}
    (h : Addressed pf st guardians vaa) {signatures : List GuardianSignature}
    (hperm : signatures.Perm vaa.signatures) :
    Addressed pf st guardians { vaa with signatures } where
  active := h.active
  fits := { h.fits with signatures := fun entry he => h.fits.signatures entry (hperm.subset he) }
  version := h.version
  guardianSetId := h.guardianSetId
  signaturesLen := h.signaturesLen.trans hperm.length_eq.symm
  count := hperm.length_eq ▸ h.count
  inRange entry he := h.inRange entry (hperm.subset he)

/-- More signatures have at least as many signers. -/
theorem signerKeys_subset {guardians : List GuardianKeys} {vaa : Vaa} {count : Nat}
    {signatures more : List GuardianSignature} (h : signatures ⊆ more) :
    signerKeys pf guardians { vaa with signatures } ⊆
      signerKeys pf guardians { vaa with signatures := more, signaturesLen := count } := by
  intro key hkey
  obtain ⟨entry, hentry, hsigned⟩ := mem_signerKeys.mp hkey
  exact mem_signerKeys.mpr ⟨entry, h hentry, hsigned⟩

/-- The verdict compares the quorum with the set of the signers. -/
theorem parseAndVerifyVaa_serialize (hk : pf.hkCursor.Lawful) {st : Storage}
    {guardians : List GuardianKeys} {vaa : Vaa} (h : Addressed pf st guardians vaa)
    (hpayload : vaa.payload ≠ []) :
    parseAndVerifyVaa pf st (serialize vaa) =
      if getQuorum guardians.length ≤ (signerKeys pf guardians vaa).card then .ok vaa
      else .error (.err errVaaChecksThresholdSignature) := by
  have hparse : parseVaa pf (serialize vaa) =
      .ok ⟨vaa, vaa.signatures.filterMap (recover? pf (digest pf vaa))⟩ :=
    parseVaa_of_fitsWire hk h.fits h.signaturesLen h.count hpayload
  have hids : ∀ recovered ∈ vaa.signatures.filterMap (recover? pf (digest pf vaa)),
      recovered.guardianId < guardians.length := by
    intro recovered hrecovered
    obtain ⟨entry, hentry, hrecover⟩ := List.mem_filterMap.mp hrecovered
    rw [← (recover?_eq_some.mp hrecover).2]
    exact h.inRange entry hentry
  have hroom : (vaa.signatures.filterMap (recover? pf (digest pf vaa))).length ≤ 19 :=
    (List.length_filterMap_le _ _).trans h.count
  have hfold := foldlM_batchCheckActivePublicKeys_of_room hids hroom
  have hlength := foldl_collect_length ((vaa.signatures.filterMap
    (recover? pf (digest pf vaa))).filterMap (matched? guardians))
  rw [matched_toFinset] at hlength
  rw [parseAndVerifyVaa, hparse]
  simp only [bind, Except.bind, asserts, unwrapOpt, h.guardianSetId, h.active, hfold, h.version,
    if_true, hlength]
  -- both sides compare the quorum with the number of collected keys, which is that of the set
  by_cases hquorum : getQuorum guardians.length ≤ (signerKeys pf guardians vaa).card
  · rw [if_pos hquorum, if_pos hquorum]
    rfl
  · rw [if_neg hquorum, if_neg hquorum]

/-- **The set of the signers decides.** A VAA that has a payload and a quorum of different signers
is accepted, whatever its other entries are. So the order of the entries changes neither the
verdict nor anything returned but the order itself, and more entries do not make an accepted VAA
rejected. -/
theorem verdict_of_signers (hk : pf.hkCursor.Lawful) {st : Storage}
    {guardians : List GuardianKeys} {vaa : Vaa} (h : Addressed pf st guardians vaa)
    (hpayload : vaa.payload ≠ []) :
    (∀ keys : Finset Buff, (∀ key ∈ keys, SignedWith pf guardians vaa key) →
      guardians.length * 2 / 3 + 1 ≤ keys.card →
      parseAndVerifyVaa pf st (serialize vaa) = .ok vaa) ∧
    (∀ signatures, signatures.Perm vaa.signatures →
      parseAndVerifyVaa pf st (serialize { vaa with signatures }) =
        (parseAndVerifyVaa pf st (serialize vaa)).map fun result => { result with signatures }) ∧
    (∀ signatures, vaa.signatures ⊆ signatures →
      Addressed pf st guardians { vaa with signatures, signaturesLen := signatures.length } →
      (∃ result, parseAndVerifyVaa pf st (serialize vaa) = .ok result) →
      parseAndVerifyVaa pf st
        (serialize { vaa with signatures, signaturesLen := signatures.length }) =
          .ok { vaa with signatures, signaturesLen := signatures.length }) := by
  refine ⟨fun keys hkeys hquorum => ?_, fun signatures hperm => ?_,
    fun signatures hsubset haddressed haccepted => ?_⟩
  · -- the keys that are given are signers, so there are enough of those
    have hsubset : keys ⊆ signerKeys pf guardians vaa :=
      fun key hkey => mem_signerKeys.mpr (hkeys key hkey)
    have hle : getQuorum guardians.length ≤ (signerKeys pf guardians vaa).card :=
      Nat.le_trans hquorum (Finset.card_le_card hsubset)
    rw [parseAndVerifyVaa_serialize hk h hpayload, if_pos hle]
  · -- a permutation has the same signers
    have hsigners : signerKeys pf guardians { vaa with signatures } =
        signerKeys pf guardians vaa :=
      Finset.Subset.antisymm (signerKeys_subset hperm.subset) (signerKeys_subset hperm.symm.subset)
    rw [parseAndVerifyVaa_serialize hk (h.perm hperm) hpayload,
      parseAndVerifyVaa_serialize hk h hpayload, hsigners]
    split <;> rfl
  · obtain ⟨result, hresult⟩ := haccepted
    rw [parseAndVerifyVaa_serialize hk h hpayload] at hresult
    have hquorum : getQuorum guardians.length ≤ (signerKeys pf guardians vaa).card := by
      -- without the quorum it would have been refused
      by_contra hnot
      rw [if_neg hnot] at hresult
      cases hresult
    rw [parseAndVerifyVaa_serialize hk haddressed hpayload,
      if_pos (hquorum.trans (Finset.card_le_card (signerKeys_subset hsubset)))]

theorem verdict_of_signers_firstSet :
    ∃ result, parseAndVerifyVaa .reference
      (Clarity.afterRun (Storage.after .reference) .deployed [firstSet])
      (serialize (signed (upgradeTo 1 2 (ethAddress .reference guardianKey)))) = .ok result := by
  have haddressed : Addressed .reference
      (Clarity.afterRun (Storage.after .reference) .deployed [firstSet])
      [⟨compressedKey guardianKey, guardianKey⟩]
      (signed (upgradeTo 1 2 (ethAddress .reference guardianKey))) := by
    refine ⟨by decide +kernel, ?_, rfl, by decide +kernel, rfl, by decide, by decide⟩
    constructor <;> decide +kernel
  exact ⟨_, (verdict_of_signers Platform.reference_lawful haddressed (by decide +kernel)).1
    {compressedKey guardianKey} (by decide +kernel) (by decide +kernel)⟩

/-- An upgrade without its payload, signed by the guardian. -/
def emptyVaa : Vaa := signed (unsigned 1 ⟨gsuEmittingChain, gsuEmittingAddress⟩ 2 [])

/-- With a payload to sign, its only guardian makes a VAA accepted; without one the same signature
does not, since the payload is read with an error of its own and there is nothing to read. -/
theorem emptyVaa_refused :
    let st := Clarity.afterRun (Storage.after .reference) .deployed [firstSet]
    let guardians := [⟨compressedKey guardianKey, guardianKey⟩]
    Addressed .reference st guardians emptyVaa ∧
      SignedWith .reference guardians emptyVaa (compressedKey guardianKey) ∧
      parseAndVerifyVaa .reference st (serialize emptyVaa) =
        .error (.err errVaaParsingPayload) ∧
      ¬ ∀ vaa, Addressed .reference st guardians vaa →
        ∀ keys : Finset Buff, (∀ key ∈ keys, SignedWith .reference guardians vaa key) →
          guardians.length * 2 / 3 + 1 ≤ keys.card →
          parseAndVerifyVaa .reference st (serialize vaa) = .ok vaa := by
  intro st guardians
  have haddressed : Addressed .reference st guardians emptyVaa := by
    refine ⟨by decide +kernel, ?_, rfl, by decide +kernel, rfl, by decide, by decide⟩
    constructor <;> decide +kernel
  have hsigned : SignedWith .reference guardians emptyVaa (compressedKey guardianKey) := by
    decide +kernel
  have hrefused : parseAndVerifyVaa .reference st (serialize emptyVaa) =
      .error (.err errVaaParsingPayload) := by
    decide +kernel
  refine ⟨haddressed, hsigned, hrefused, fun hclaim => ?_⟩
  -- one signer is a quorum of one guardian, so the claimed property would accept it
  have haccepted := hclaim emptyVaa haddressed {compressedKey guardianKey}
    (fun key hkey => Finset.mem_singleton.mp hkey ▸ hsigned) (by decide)
  rw [hrefused] at haccepted
  cases haccepted

end PythBridge.WormholeCore
