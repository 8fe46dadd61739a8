import PythBridge.Clarity.Reports
import PythBridge.Wormhole.GuardianSets
import PythBridge.Wormhole.RoundTrip

/-!
# Where the verification of a VAA aborts

`parse-vaa` reads the header with error responses of its own, but the signatures by a fold that
panics, and the check of the recovered keys panics on a guardian id past the end of the set.
The folds never run out of room, so these are the only two ways to an abort
(`parseAndVerifyVaa_reports_iff`).

Anybody can hand a buffer to these functions, so a buffer that aborts them is worth knowing exactly:

* **`foldlM_batchReadSignatures_slots`** — the signature fold returns exactly when all signatures
  that it wants to read are in the buffer.
* **`parseVaa_reports_iff`, `parseVaa_returns_iff`** — when parsing reports, and when it returns.
* **`foldlM_batchCheckActivePublicKeys_reports`** — the check of the keys returns exactly when every
  recovered key names a guardian of the set.
* **`vaa_reports_iff_verifiable`** — both functions together.

Everything is said about the bytes: the number of signatures is read off byte 5 and the `i`-th
signature lies at byte `6 + 66 * i`.
-/

namespace PythBridge.WormholeCore

open Clarity

variable {pf : Platform}

/-! ## What a buffer holds

The fields at their positions, for any buffer, whether it parses or not. -/

/-- The number of signatures that are read: as many as declared, at most one for each slot. -/
def signatureSlots (vaaBytes : Buff) : Nat := min 19 (declaredSignatures vaaBytes)

/-- The `i`-th signature entry of a buffer. -/
def signatureAt (vaaBytes : Buff) (i : Nat) : GuardianSignature where
  guardianId := buffToUintBe ((vaaBytes.drop (6 + 66 * i)).take 1)
  signature := (vaaBytes.drop (6 + 66 * i + 1)).take 65

/-- The signatures that are read. -/
def signaturesOf (vaaBytes : Buff) : List GuardianSignature :=
  (List.range (signatureSlots vaaBytes)).map (signatureAt vaaBytes)

/-- At most one signature is read for each slot. -/
theorem signaturesOf_length_le (vaaBytes : Buff) : (signaturesOf vaaBytes).length ≤ 19 := by
  rw [signaturesOf, List.length_map, List.length_range]
  exact Nat.min_le_left _ _

/-- What follows the signatures. -/
def signedBody (vaaBytes : Buff) : Buff := vaaBytes.drop (6 + 66 * signatureSlots vaaBytes)

/-- The guardian set that a buffer names. -/
def guardianSetIdOf (vaaBytes : Buff) : Nat := buffToUintBe ((vaaBytes.drop 1).take 4)

/-- The signatures end inside the buffer. -/
def SignaturesInside (vaaBytes : Buff) : Prop :=
  6 + 66 * signatureSlots vaaBytes ≤ vaaBytes.length

instance (vaaBytes : Buff) : Decidable (SignaturesInside vaaBytes) :=
  inferInstanceAs (Decidable (_ ≤ _))

/-- The signatures and the fields of the body are there, and a payload, unless the cursor reads
the empty rest behind the fields. -/
structure BodyReadable (pf : Platform) (vaaBytes : Buff) : Prop where
  fields : 51 ≤ (signedBody vaaBytes).length
  payload : (signedBody vaaBytes).length = 51 →
    pf.hkCursor.ReadsMax ⟨vaaBytes, vaaBytes.length⟩ none

/-- No key that a signature recovers to is attributed to a guardian past the end of the set. -/
def GuardiansKnown (pf : Platform) (guardians : List GuardianKeys) (vaaBytes : Buff) : Prop :=
  ∀ entry ∈ signaturesOf vaaBytes, ∀ publicKey,
    pf.secp256k1Recover (pf.keccak256 (pf.keccak256 (signedBody vaaBytes))) entry.signature =
      .ok publicKey → entry.guardianId < guardians.length

/-! ## The signature fold

The fold runs over 19 slots, and its accumulator counts down. `SignaturesRead` ties the accumulator
to the slot, so each slot is one of three cases: nothing is left to read, the entry is read, or it
ends behind the buffer. -/

/-- Where the signature fold stands in front of slot `i`. -/
structure SignaturesRead (vaaBytes : Buff) (declared i : Nat) (acc : ReadSignaturesAcc) :
    Prop where
  iter : acc.iter = declared - i
  next : acc.next = ⟨vaaBytes, 6 + 66 * min i declared⟩
  value : acc.value = (List.range (min i declared)).map (signatureAt vaaBytes)

/-- One slot behind the last signature. -/
theorem batchReadSignatures_done {vaaBytes : Buff} {declared i : Nat} {acc : ReadSignaturesAcc}
    (hacc : SignaturesRead vaaBytes declared i acc) (hdone : declared ≤ i) (slot : Nat) :
    ∃ acc', batchReadSignatures pf acc slot = .ok acc' ∧
      SignaturesRead vaaBytes declared (i + 1) acc' := by
  have hiter : acc.iter = 0 := by rw [hacc.iter]; omega
  have hmin : min (i + 1) declared = min i declared := by omega
  refine ⟨_, if_pos hiter, ⟨?_, ?_, ?_⟩⟩
  · show 0 = declared - (i + 1)
    omega
  · rw [hmin]
    exact hacc.next
  · rw [hmin]
    exact hacc.value

/-- One slot with a signature left to read. -/
theorem batchReadSignatures_more (hk : pf.hkCursor.Lawful) {vaaBytes : Buff} {declared i : Nat}
    {acc : ReadSignaturesAcc} (hacc : SignaturesRead vaaBytes declared i acc)
    (hmore : i < declared) (hroom : i < 19) (hinside : 6 + 66 * (i + 1) ≤ vaaBytes.length)
    (slot : Nat) :
    ∃ acc', batchReadSignatures pf acc slot = .ok acc' ∧
      SignaturesRead vaaBytes declared (i + 1) acc' := by
  have hiter : acc.iter ≠ 0 := by rw [hacc.iter]; omega
  have hmin : min (i + 1) declared = i + 1 := by omega
  have hnext := hacc.next
  have hvalue := hacc.value
  rw [show min i declared = i by omega] at hnext hvalue
  have hholds : (⟨vaaBytes, 6 + 66 * i⟩ : Cursor).Holds 1 := by
    show 6 + 66 * i + 1 ≤ vaaBytes.length
    omega
  have hholds' : (⟨vaaBytes, 6 + 66 * i + 1⟩ : Cursor).Holds 65 := by
    show 6 + 66 * i + 1 + 65 ≤ vaaBytes.length
    omega
  have hlength : acc.value.length < 19 := by
    rw [hvalue, List.length_map, List.length_range]
    exact hroom
  have hguardianId : pf.hkCursor.readUint8 acc.next =
      .ok ⟨(signatureAt vaaBytes i).guardianId, ⟨vaaBytes, 6 + 66 * i + 1⟩⟩ := by
    rw [hnext]
    exact (hk.readUint8 _ _).mpr ⟨hholds, rfl⟩
  have hsignature : pf.hkCursor.readBuff65 ⟨vaaBytes, 6 + 66 * i + 1⟩ =
      .ok ⟨(signatureAt vaaBytes i).signature, ⟨vaaBytes, 6 + 66 * (i + 1)⟩⟩ :=
    (hk.readBuff65 _ _).mpr ⟨hholds', rfl⟩
  refine ⟨_, batchReadSignatures_of_reads acc hiter hguardianId hsignature hlength slot,
    ⟨?_, ?_, ?_⟩⟩
  · show acc.iter - 1 = declared - (i + 1)
    rw [hacc.iter]
    omega
  · rw [hmin]
  · rw [hmin, List.range_succ, List.map_append, ← hvalue]
    rfl

/-- A signature that ends behind the buffer. -/
theorem batchReadSignatures_outside (hk : pf.hkCursor.Lawful) {vaaBytes : Buff}
    {declared i : Nat} {acc : ReadSignaturesAcc} (hacc : SignaturesRead vaaBytes declared i acc)
    (hmore : i < declared) (houtside : vaaBytes.length < 6 + 66 * (i + 1)) (slot : Nat) :
    batchReadSignatures pf acc slot = .error .abort := by
  have hiter : acc.iter ≠ 0 := by rw [hacc.iter]; omega
  have hnext := hacc.next
  rw [show min i declared = i by omega] at hnext
  refine eq_abort_of_not_reports fun hreports => ?_
  rw [batchReadSignatures, if_neg hiter, hnext, reports_unwrapPanic_bind,
    hk.readUint8.exists_ok, reports_unwrapPanic_bind, hk.readBuff65.exists_ok] at hreports
  have hholds : 6 + 66 * i + 1 + 65 ≤ vaaBytes.length := hreports.2.1
  omega

/-- A slot aborts exactly when an entry is left and does not lie inside the buffer. -/
theorem batchReadSignatures_stepsOn (hk : pf.hkCursor.Lawful) (vaaBytes : Buff)
    (declared : Nat) :
    StepsOn (batchReadSignatures pf) (SignaturesRead vaaBytes declared)
      (fun i _ => i < declared → 6 + 66 * (i + 1) ≤ vaaBytes.length) 19 where
  taken := by
    intro i acc slot hroom hacc hgood
    -- behind the declared signatures the fold only counts
    by_cases hmore : i < declared
    · exact batchReadSignatures_more hk hacc hmore hroom (hgood hmore) slot
    · exact batchReadSignatures_done hacc (by omega) slot
  aborts := by
    intro i acc slot hroom hacc hbad
    obtain ⟨hmore, houtside⟩ := Classical.not_imp.mp hbad
    exact batchReadSignatures_outside hk hacc hmore (by omega) slot

/-- The signature fold of `parse-vaa`. -/
theorem foldlM_batchReadSignatures_slots (hk : pf.hkCursor.Lawful) {vaaBytes : Buff}
    (hheader : 6 ≤ vaaBytes.length) {acc : ReadSignaturesAcc}
    (hacc : acc = ⟨⟨vaaBytes, 6⟩, declaredSignatures vaaBytes, []⟩) :
    (∀ errors, Reports errors ((List.replicate 19 0).foldlM (batchReadSignatures pf) acc) ↔
      SignaturesInside vaaBytes) ∧
    ∀ acc', (List.replicate 19 0).foldlM (batchReadSignatures pf) acc = .ok acc' →
      acc'.next = ⟨vaaBytes, 6 + 66 * signatureSlots vaaBytes⟩ ∧
        acc'.value = signaturesOf vaaBytes := by
  have hstart : SignaturesRead vaaBytes (declaredSignatures vaaBytes) 0 acc := by
    subst hacc
    refine ⟨rfl, ?_, ?_⟩ <;> rw [Nat.zero_min]
    rfl
  have hroom : 0 + (List.replicate 19 0).length ≤ 19 := by rw [List.length_replicate]
  obtain ⟨hreports, hlast⟩ := (batchReadSignatures_stepsOn hk vaaBytes
    (declaredSignatures vaaBytes)).foldlM hroom hstart
  refine ⟨fun errors => (hreports errors).trans ⟨fun hall => ?_, fun hinside j slot hj hmore => ?_⟩,
    fun acc' hok => ⟨(hlast acc' hok).next, (hlast acc' hok).value⟩⟩
  · unfold SignaturesInside signatureSlots
    -- with no signature there is nothing to hold, else the last one that is read is the furthest
    by_cases hnone : min 19 (declaredSignatures vaaBytes) = 0
    · rw [hnone]
      exact hheader
    · have hslot : (List.replicate 19 0)[min 19 (declaredSignatures vaaBytes) - 1]? = some 0 := by
        rw [List.getElem?_replicate, if_pos (by omega)]
      have := hall _ _ hslot (by omega)
      omega
  · have hslot : j < 19 := by
      have := (List.getElem?_eq_some_iff.mp hj).1
      rwa [List.length_replicate] at this
    unfold SignaturesInside signatureSlots at hinside
    omega

/-! ## Parsing

In front of the folds and behind them every read has an error of its own. -/

/-- **When parsing reports.** -/
theorem parseVaa_reports_iff (hk : pf.hkCursor.Lawful) (vaaBytes : Buff) :
    Reports (· ∈ vaaErrors) (parseVaa pf vaaBytes) ↔
      (6 ≤ vaaBytes.length → SignaturesInside vaaBytes) := by
  simp (disch := decide) only [parseVaa, reports_unwrap_bind, hk.readUint8.forall_ok,
    hk.readUint32.forall_ok]
  constructor
  · intro h hheader
    have hholds := Cursor.holds_of_le hheader
    have hfold := h (hholds 0 1 (by decide)) (hholds 1 4 (by decide)) hheader
    exact (foldlM_batchReadSignatures_slots hk hheader rfl).1 _ |>.mp (reports_bind.mp hfold).1
  · intro hinside _ _ hheader
    obtain ⟨hreports, hread⟩ := foldlM_batchReadSignatures_slots hk hheader rfl
    refine reports_bind.mpr ⟨(hreports _).mpr (hinside hheader), fun signatures hsignatures => ?_⟩
    -- every other read has an error of its own, and the recovery fold has room for all keys
    simp (disch := decide) only [reports_unwrap_bind]
    intros
    have hcount : signatures.value.length ≤ 19 :=
      (hread signatures hsignatures).2 ▸ signaturesOf_length_le vaaBytes
    rw [foldlM_batchRecoverPublicKeys_of_room hcount]
    exact .ok _

/-- What a buffer that parses holds behind its header. -/
theorem parseVaa_message (hk : pf.hkCursor.Lawful) {vaaBytes : Buff} {message : ParsedVaa}
    (h : parseVaa pf vaaBytes = .ok message) :
    BodyReadable pf vaaBytes ∧ message.vaa.guardianSetId = guardianSetIdOf vaaBytes ∧
      message.recoveredPublicKeys = (signaturesOf vaaBytes).filterMap
        (recover? pf (pf.keccak256 (pf.keccak256 (signedBody vaaBytes)))) := by
  simp only [parseVaa, exec_bind_eq_ok, unwrap_eq_ok, exec_pure_eq_ok, hk.readUint8.exists_ok,
    hk.readUint16.exists_ok, hk.readUint32.exists_ok, hk.readUint64.exists_ok,
    hk.readBuff32.exists_ok] at h
  obtain ⟨-, -, hheader, signatures, hsignatures, body, hbody, -, -, -, -, -, hend, payload,
    hpayload, publicKeys, hpublicKeys, rfl⟩ := h
  obtain ⟨hnext, hvalue⟩ : signatures.next = ⟨vaaBytes, 6 + 66 * signatureSlots vaaBytes⟩ ∧
      signatures.value = signaturesOf vaaBytes :=
    (foldlM_batchReadSignatures_slots hk hheader rfl).2 signatures
      hsignatures
  have hbodyValue : body.value = signedBody vaaBytes := by
    rw [(hk.readBuff8192Max_none _ _ hbody).2, hnext]
    rfl
  refine ⟨?_, rfl, ?_⟩
  · rw [hnext] at hend hpayload
    have hinside : 6 + 66 * signatureSlots vaaBytes + 4 + 4 + 2 + 32 + 8 + 1 ≤ vaaBytes.length :=
      hend
    have hlength : (signedBody vaaBytes).length =
        vaaBytes.length - (6 + 66 * signatureSlots vaaBytes) := List.length_drop
    refine ⟨by omega, fun hnone => ⟨payload, ?_⟩⟩
    have hlast : vaaBytes.length =
        6 + 66 * signatureSlots vaaBytes + 4 + 4 + 2 + 32 + 8 + 1 := by omega
    rw [hlast]
    exact hpayload
  · show publicKeys = _
    rw [foldlM_batchRecoverPublicKeys hpublicKeys, List.nil_append, hvalue, hbodyValue]

/-- **When parsing returns.** -/
theorem parseVaa_returns_iff (hk : pf.hkCursor.Lawful) (vaaBytes : Buff) :
    (∃ message, parseVaa pf vaaBytes = .ok message) ↔ BodyReadable pf vaaBytes := by
  refine ⟨fun ⟨message, h⟩ => (parseVaa_message hk h).1, fun hreadable => ?_⟩
  obtain ⟨hbody, hpayload⟩ := hreadable
  rw [signedBody, List.length_drop] at hbody hpayload
  have hinside : SignaturesInside vaaBytes := by
    show 6 + 66 * signatureSlots vaaBytes ≤ vaaBytes.length
    omega
  have hheader : 6 ≤ vaaBytes.length := by omega
  let start := 6 + 66 * signatureSlots vaaBytes
  have hfields : start + 51 ≤ vaaBytes.length := by omega
  have hholds := Cursor.holds_of_le hfields
  obtain ⟨hreports, hread⟩ := foldlM_batchReadSignatures_slots hk hheader rfl
  rw [← returns_iff]
  simp only [parseVaa, returns_unwrap_bind, hk.readUint8.exists_ok, hk.readUint32.exists_ok]
  refine ⟨hholds 0 1 (by omega), hholds 1 4 (by omega), hheader,
    reports_bind.mpr ⟨(hreports _).mpr hinside, fun signatures hsignatures => ?_⟩⟩
  obtain ⟨hnext, hvalue⟩ := hread signatures hsignatures
  obtain ⟨body, hbody⟩ := hk.readBuff8192Max_none_ok _ (hholds start 1 (by omega))
  obtain ⟨payload, hpayload⟩ : pf.hkCursor.ReadsMax ⟨vaaBytes, start + 51⟩ none := by
    -- the payload is read when a byte of it is there, and is up to the cursor when none is
    by_cases hend : vaaBytes.length = start + 51
    · rw [← hend]
      exact hpayload (by omega)
    · refine hk.readBuff8192Max_none_ok _ ?_
      show start + 51 + 1 ≤ vaaBytes.length
      omega
  have hcount : signatures.value.length ≤ 19 := hvalue ▸ signaturesOf_length_le vaaBytes
  simp only [returns_unwrap_bind, hnext, hk.readUint8.exists_ok, hk.readUint16.exists_ok,
    hk.readUint32.exists_ok, hk.readUint64.exists_ok, hk.readBuff32.exists_ok]
  refine ⟨body, hbody, hholds start 4 (by omega), hholds (start + 4) 4 (by omega),
    hholds (start + 8) 2 (by omega), hholds (start + 10) 32 (by omega),
    hholds (start + 42) 8 (by omega), hholds (start + 50) 1 (by omega), payload, hpayload, ?_⟩
  rw [foldlM_batchRecoverPublicKeys_of_room hcount]
  exact .ok _

/-! ## Verification

The check looks up the guardian of every recovered key. It runs behind the comparison of the set id,
so a buffer under another id never gets there. -/

/-- The check of the recovered keys panics exactly on a guardian id past the end of the set. -/
theorem batchCheckActivePublicKeys_stepsOn (guardians : List GuardianKeys) :
    StepsOn (batchCheckActivePublicKeys guardians) (fun i result => result.length ≤ i)
      (fun _ key => key.guardianId < guardians.length) 19 where
  taken := by
    intro i result key hroom hlength hknown
    -- a known guardian: the key is added, with room for it, or passed over
    refine ⟨_, batchCheckActivePublicKeys_of_room hknown (by omega), ?_⟩
    cases matched? guardians key with
    | none => exact Nat.le_succ_of_le hlength
    | some publicKey => exact (collect_length_le _ _).trans (Nat.succ_le_succ hlength)
  aborts := by
    intro i result key _ _ hunknown
    have hguardian : guardians[key.guardianId]? = none :=
      List.getElem?_eq_none (Nat.not_lt.mp hunknown)
    rw [batchCheckActivePublicKeys, hguardian]
    rfl

/-- The keys that are checked, by the signatures they come from. -/
theorem mem_recovered {messageHash : Buff} {signatures : List GuardianSignature}
    {key : RecoveredKey} :
    key ∈ signatures.filterMap (recover? pf messageHash) ↔ ∃ entry ∈ signatures,
      pf.secp256k1Recover messageHash entry.signature = .ok key.recoveredCompressedPublicKey ∧
        entry.guardianId = key.guardianId := by
  simp only [List.mem_filterMap, recover?_eq_some]

/-- The check of the keys that a buffer's signatures recover to. -/
theorem foldlM_batchCheckActivePublicKeys_reports {errors : Nat → Prop} {vaaBytes : Buff}
    {guardians : List GuardianKeys} {keys : List RecoveredKey}
    (hkeys : keys = (signaturesOf vaaBytes).filterMap
      (recover? pf (pf.keccak256 (pf.keccak256 (signedBody vaaBytes))))) :
    Reports errors (keys.foldlM (batchCheckActivePublicKeys guardians) []) ↔
      GuardiansKnown pf guardians vaaBytes := by
  have hroom : 0 + keys.length ≤ 19 := by
    rw [Nat.zero_add, hkeys]
    exact (List.length_filterMap_le _ _).trans (signaturesOf_length_le vaaBytes)
  have hstart : ([] : List Buff).length ≤ 0 := Nat.le_refl _
  rw [((batchCheckActivePublicKeys_stepsOn guardians).foldlM hroom hstart).1 errors]
  constructor
  · -- every entry that recovers has its key somewhere in the list, and every key comes from an
    -- entry
    intro hall entry hentry publicKey hrecover
    have hkey : (⟨publicKey, entry.guardianId⟩ : RecoveredKey) ∈ keys :=
      hkeys ▸ mem_recovered.mpr ⟨entry, hentry, hrecover, rfl⟩
    obtain ⟨i, hi⟩ := List.mem_iff_getElem?.mp hkey
    exact hall i _ hi
  · intro hknown i key hi
    have hkey : key ∈ keys := List.mem_iff_getElem?.mpr ⟨i, hi⟩
    rw [hkeys] at hkey
    obtain ⟨entry, hentry, hrecover, hid⟩ := mem_recovered.mp hkey
    exact hid ▸ hknown entry hentry _ hrecover

/-- Verification reports exactly when parsing does and the check of the keys does. -/
theorem parseAndVerifyVaa_reports_iff (hk : pf.hkCursor.Lawful) (st : Storage)
    (vaaBytes : Buff) :
    Reports (· ∈ vaaErrors) (parseAndVerifyVaa pf st vaaBytes) ↔
      Reports (· ∈ vaaErrors) (parseVaa pf vaaBytes) ∧
      (BodyReadable pf vaaBytes → guardianSetIdOf vaaBytes = st.activeGuardianSetId →
        ∀ guardians, st.guardianSets st.activeGuardianSetId = some guardians →
          GuardiansKnown pf guardians vaaBytes) := by
  rw [parseAndVerifyVaa, reports_bind]
  refine and_congr_right fun _ => ?_
  simp (disch := decide) only [reports_asserts_bind, reports_unwrapOpt_bind]
  constructor
  · intro h hbody hactive guardians hguardians
    obtain ⟨message, hmessage⟩ := (parseVaa_returns_iff hk vaaBytes).mpr hbody
    obtain ⟨-, hid, hkeys⟩ := parseVaa_message hk hmessage
    rw [← hactive, ← hid] at hguardians
    have hcheck := (reports_bind.mp (h message hmessage (hid.trans hactive) guardians hguardians)).1
    exact (foldlM_batchCheckActivePublicKeys_reports hkeys).mp hcheck
  · intro h message hmessage hactive guardians hguardians
    obtain ⟨hbody, hid, hkeys⟩ := parseVaa_message hk hmessage
    rw [hactive] at hguardians
    refine reports_bind.mpr ⟨(foldlM_batchCheckActivePublicKeys_reports hkeys).mpr
      (h hbody (hid.symm.trans hactive) guardians hguardians), fun _ _ => ?_⟩
    -- what is left are two checks with errors of their own
    simp (disch := decide) only [reports_asserts_bind]
    intros
    exact .ok _

/-- What keeps the verification of a buffer from an abort. -/
structure Verifiable (pf : Platform) (st : Storage) (vaaBytes : Buff) : Prop where
  signatures : 6 ≤ vaaBytes.length → SignaturesInside vaaBytes
  guardians : BodyReadable pf vaaBytes →
    guardianSetIdOf vaaBytes = st.activeGuardianSetId →
    ∀ guardians, st.guardianSets st.activeGuardianSetId = some guardians →
      GuardiansKnown pf guardians vaaBytes

/-- **When verification cannot abort.** In any state and for any buffer, `parse-vaa` and
`parse-and-verify-vaa` both return ok or an `ERR_VAA_*` response exactly when the signatures
that are read (as many as declared, at most 19) end inside the buffer, unless the header does
not, and when, for a VAA of the active set with a whole body, no signature that recovers to a
key over the body carries a guardian id past the end of the set. A body is whole when it has a
payload, or when the cursor reads the empty rest behind its fields: where it does not, the
missing payload is reported before the keys are looked at. -/
theorem vaa_reports_iff_verifiable (hk : pf.hkCursor.Lawful) (st : Storage) (vaaBytes : Buff) :
    (Reports (· ∈ vaaErrors) (parseVaa pf vaaBytes) ∧
      Reports (· ∈ vaaErrors) (parseAndVerifyVaa pf st vaaBytes)) ↔
    Verifiable pf st vaaBytes := by
  rw [parseAndVerifyVaa_reports_iff hk, parseVaa_reports_iff hk]
  constructor
  · rintro ⟨hsignatures, -, hguardians⟩
    exact ⟨hsignatures, hguardians⟩
  · rintro ⟨hsignatures, hguardians⟩
    exact ⟨hsignatures, hsignatures, hguardians⟩

section ClosedRun

/-- The upgrade to set 2, signed by the guardian of set 1 under the given guardian id. -/
def signedAs (guardianId : Nat) : Vaa :=
  let vaa := upgradeTo 1 2 (ethAddress .reference guardianKey)
  { signed vaa with
    signatures := [⟨guardianId, compressedKey guardianKey ++ digest .reference vaa⟩] }

theorem vaa_reports_iff_verifiable_signedAs :
    Reports (· ∈ vaaErrors) (parseAndVerifyVaa .reference
      (Clarity.afterRun (Storage.after .reference) .deployed [firstSet])
      (serialize (signedAs 0))) := by
  have hrun : (Clarity.afterRun (Storage.after .reference) .deployed [firstSet]).guardianSets
      (Clarity.afterRun (Storage.after .reference) .deployed [firstSet]).activeGuardianSetId =
        some [⟨compressedKey guardianKey, guardianKey⟩] ∧
      SignaturesInside (serialize (signedAs 0)) ∧
      signaturesOf (serialize (signedAs 0)) = (signedAs 0).signatures := by
    decide +kernel
  have hstored := hrun.1
  have hsignatures := hrun.2.2
  have hreports := (vaa_reports_iff_verifiable Platform.reference_lawful _ _).mpr
      ⟨fun _ => hrun.2.1, fun _ _ guardians hguardians entry hentry publicKey _ => by
        rw [hstored] at hguardians
        cases hguardians
        rw [hsignatures] at hentry
        obtain rfl := List.mem_singleton.mp hentry
        exact Nat.zero_lt_one⟩
  exact hreports.2

/-- A header that declares a signature and ends there aborts the parsing, and a signature of
the only guardian under the id of a second one aborts the verification. -/
theorem verification_aborts :
    let st := Clarity.afterRun (Storage.after .reference) .deployed [firstSet]
    parseVaa .reference [1, 0, 0, 0, 1, 1] = .error .abort ∧
      parseAndVerifyVaa .reference st [1, 0, 0, 0, 1, 1] = .error .abort ∧
      (parseVaa .reference (serialize (signedAs 1))).toBool = true ∧
      parseAndVerifyVaa .reference st (serialize (signedAs 1)) = .error .abort ∧
      ¬ ∀ vaaBytes, Reports (· ∈ vaaErrors) (parseVaa .reference vaaBytes) ∧
        Reports (· ∈ vaaErrors) (parseAndVerifyVaa .reference st vaaBytes) := by
  intro st
  have hrun : parseVaa .reference [1, 0, 0, 0, 1, 1] = .error .abort ∧
      parseAndVerifyVaa .reference st [1, 0, 0, 0, 1, 1] = .error .abort ∧
      (parseVaa .reference (serialize (signedAs 1))).toBool = true ∧
      parseAndVerifyVaa .reference st (serialize (signedAs 1)) = .error .abort := by
    decide +kernel
  obtain ⟨hcut, hcut', hparsed, hunknown⟩ := hrun
  refine ⟨hcut, hcut', hparsed, hunknown, fun hclaim => ?_⟩
  have hreports := And.right (hclaim (serialize (signedAs 1)))
  rw [hunknown] at hreports
  exact not_reports_abort hreports

end ClosedRun

end PythBridge.WormholeCore
