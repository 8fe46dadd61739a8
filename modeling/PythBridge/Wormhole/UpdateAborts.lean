import PythBridge.Wormhole.GuardianSets

/-!
# Where a guardian set update aborts

`update-guardians-set` runs its folds before its checks. A payload with more than 19 guardians
overflows the list of cues, and the fold over the supplied keys panics on a key without an
address and on one that is too short, although the count of the keys is checked afterwards.
`ArgumentsFit` says when none of this happens (`updateGuardiansSet_reports_iff`).

An abort is worse for a caller than an error response: the code is lost, and whoever relies on one
of the documented errors gets none. The source gives every check of this function an error of its
own, and `u1207` is meant for a wrong number of keys; but the folds in front of these checks panic
first. The conditions below are equivalences, so they name *all* arguments for which that happens.

* **`parseAndVerifyGuardiansSet_reports_iff`, `parseAndVerifyGuardiansSet_returns_iff`** — the
  payload on its own: when it is parsed, and when it is at least reported as wrong.
* **`checkAndConsolidatePublicKeys_stepsOn`** — one key: the fold goes on, or aborts.
* **`updateGuardiansSet_reports_iff`** — the whole function.
-/

namespace PythBridge.WormholeCore

open Clarity

variable {pf : Platform}

/-! ## The payload

Three outcomes have to be told apart: parsed, refused with an error, and aborted in a fold. -/

/-- A payload that passes every check: module, action, chain and a new index, and the addresses
inside the buffer. Without an address there is nothing to read, and whether the payload gets past
`ERR_GSU_PARSING_GUARDIANS_BYTES` is up to the cursor. -/
structure NamesUpgrade (pf : Platform) (st : Storage) (payload : Buff) : Prop where
  module : payload.take 32 = gsuModule
  action : buffToUintBe ((payload.drop 32).take 1) = 2
  chain : buffToUintBe ((payload.drop 33).take 2) = 0
  newer : st.activeGuardianSetId < buffToUintBe ((payload.drop 35).take 4)
  inside : 40 + guardianCount payload * 20 ≤ payload.length
  empty : guardianCount payload = 0 → pf.hkCursor.ReadsMax ⟨payload, 40⟩ (some 0)

/-- Before its checks, which have errors of their own, the payload only has to leave room in the
list of cues. A payload of no guardians always does, whether its empty list is read or not. -/
theorem parseAndVerifyGuardiansSet_reports_iff (hk : pf.hkCursor.Lawful) (st : Storage)
    (payload : Buff) :
    Reports (· ∈ gsuErrors) (parseAndVerifyGuardiansSet pf st payload) ↔
      (40 + guardianCount payload * 20 ≤ payload.length → guardianCount payload ≤ 19) := by
  simp (disch := decide) only [parseAndVerifyGuardiansSet, reports_unwrap_bind,
    hk.readBuff32.forall_ok, hk.readUint8.forall_ok, hk.readUint16.forall_ok,
    hk.readUint32.forall_ok, hk.readSome_forall_ok]
  constructor
  · intro h hinside
    -- without an address there is nothing to prove: zero is at most 19
    rcases Nat.eq_zero_or_pos (guardianCount payload) with hnone | hsome
    · rw [hnone]
      decide
    -- with an address at all the read succeeds, and the cue fold is reached
    have hholds := Cursor.holds_of_le hinside
    have hfolds := h (hholds 0 32 (by omega)) (hholds 32 1 (by omega)) (hholds 33 2 (by omega))
      (hholds 35 4 (by omega)) (hholds 39 1 (by omega)) (hholds 40 _ (Nat.le_refl _))
      fun hzero => absurd hzero (Nat.ne_of_gt (Nat.mul_pos hsome (by decide)))
    have hcues : ((⟨payload, 40⟩ : Cursor).take (guardianCount payload * 20)).length ≤ 380 :=
      (foldlM_isGuardianCue_reports _ _).mp (reports_bind.mp hfolds).1
    rw [Cursor.take_length (hholds 40 _ (Nat.le_refl _))] at hcues
    omega
  · intro hcount _ _ _ _ _ hinside _
    have hlength := Cursor.take_length (c := ⟨payload, 40⟩) (n := guardianCount payload * 20)
      hinside
    obtain ⟨cues, hcues, haddresses⟩ := guardianFolds_return hk hlength (hcount hinside)
    refine reports_bind.mpr ⟨hcues ▸ .ok cues, fun cues' hcues' => ?_⟩
    obtain rfl := Except.ok.inj (hcues'.symm.trans hcues)
    refine reports_bind.mpr ⟨haddresses ▸ .ok _, fun _ _ => ?_⟩
    -- four checks with errors of their own
    simp (disch := decide) only [reports_asserts_bind]
    intros
    exact .ok _

/-- A payload is parsed exactly when it passes every check and the list has room for its
addresses. -/
theorem parseAndVerifyGuardiansSet_returns_iff (hk : pf.hkCursor.Lawful) (st : Storage)
    (payload : Buff) :
    (∃ update, parseAndVerifyGuardiansSet pf st payload = .ok update) ↔
      NamesUpgrade pf st payload ∧ guardianCount payload ≤ 19 := by
  rw [← returns_iff]
  simp only [parseAndVerifyGuardiansSet, returns_unwrap_bind, hk.readBuff32.exists_ok,
    hk.readUint8.exists_ok, hk.readUint16.exists_ok, hk.readUint32.exists_ok,
    hk.readSome_exists_ok]
  have hzero : guardianCount payload * 20 = 0 ↔ guardianCount payload = 0 := by omega
  constructor
  · rintro ⟨-, -, -, -, -, hinside, hempty, hfolds⟩
    obtain ⟨hcues, hrest⟩ := reports_bind.mp hfolds
    obtain ⟨cues, hcuesOk⟩ := returns_iff.mp hcues
    obtain ⟨haddresses, hrest⟩ := reports_bind.mp (hrest cues hcuesOk)
    obtain ⟨addresses, haddressesOk⟩ := returns_iff.mp haddresses
    -- the four checks passed, and the folds returned, so there are at most 19 addresses
    have hchecks := hrest addresses haddressesOk
    simp only [returns_asserts_bind] at hchecks
    obtain ⟨hmodule, haction, hchain, hnewer, -⟩ := hchecks
    have hcount : ((⟨payload, 40⟩ : Cursor).take (guardianCount payload * 20)).length ≤ 380 :=
      (foldlM_isGuardianCue_reports _ _).mp hcues
    have hlength := Cursor.take_length (c := ⟨payload, 40⟩) (n := guardianCount payload * 20)
      hinside
    exact ⟨⟨hmodule, haction, hchain, hnewer, hinside, fun hnone => hempty (hzero.mpr hnone)⟩,
      by omega⟩
  · rintro ⟨h, hcount⟩
    have hholds := Cursor.holds_of_le h.inside
    have hlength := Cursor.take_length (hholds 40 _ (Nat.le_refl _))
    obtain ⟨cues, hcues, haddresses⟩ := guardianFolds_return hk hlength hcount
    refine ⟨hholds 0 32 (by omega), hholds 32 1 (by omega), hholds 33 2 (by omega),
      hholds 35 4 (by omega), hholds 39 1 (by omega), hholds 40 _ (Nat.le_refl _),
      fun hnone => h.empty (hzero.mp hnone),
      reports_bind.mpr ⟨hcues ▸ .ok cues, fun cues' hcues' => ?_⟩⟩
    obtain rfl := Except.ok.inj (hcues'.symm.trans hcues)
    refine reports_bind.mpr ⟨haddresses ▸ .ok _, fun _ _ => ?_⟩
    simp only [returns_asserts_bind]
    exact ⟨h.module, h.action, h.chain, h.newer, .ok _⟩

/-! ## The keys

The key fold, for one key and for a list. A key without an address and a key that is too short both
abort, and it does not matter which comes first. -/

/-- Compressing a key needs its 64th byte, unless the key is empty. -/
theorem compressPublicKey_reports (errors : Nat → Prop) (key : Buff) :
    Reports errors (compressPublicKey key) ↔ key = [] ∨ 64 ≤ key.length := by
  unfold compressPublicKey
  -- the empty key is returned before anything is sliced
  by_cases hnil : [] = key
  · rw [if_pos hnil]
    exact ⟨fun _ => .inl hnil.symm, fun _ => .ok _⟩
  · rw [if_neg hnil, reports_unwrapPanicOpt_bind]
    simp only [reports_unwrapPanicOpt_bind, reports_unwrapPanicOpt, slice?_eq_some,
      asMaxLen?_eq_some]
    constructor
    · rintro ⟨_, -, last, hlast, -⟩
      have := (List.getElem?_eq_some_iff.mp hlast).1
      exact .inr this
    · -- with 64 bytes there is a first half, and the prefix and the half fit 33 bytes
      rintro (h | hlong)
      · exact absurd h.symm hnil
      · refine ⟨_, ⟨by omega, rfl⟩, _, List.getElem?_eq_getElem hlong, _, ?_, rfl⟩
        rw [List.length_append, List.drop_zero, List.length_take]
        split <;> rw [List.length_singleton] <;> omega

/-- Comparing an address never aborts, since a hash is long enough to be sliced. -/
theorem isEthAddressMatchingPublicKey_ok (hkeccak : ∀ bytes, (pf.keccak256 bytes).length = 32)
    (key address : Buff) : ∃ b, isEthAddressMatchingPublicKey pf key address = .ok b := by
  simp only [isEthAddressMatchingPublicKey, exec_bind_eq_ok, unwrapPanicOpt_eq_ok,
    slice?_eq_some, exec_pure_eq_ok]
  have hinside : 12 < (pf.keccak256 key).length ∧ 12 ≤ 32 ∧
      32 ≤ (pf.keccak256 key).length := by
    rw [hkeccak key]
    decide
  exact ⟨_, _, ⟨hinside, rfl⟩, rfl⟩

/-- The key fold panics on a key without an address and on one that is too short. -/
theorem checkAndConsolidatePublicKeys_stepsOn
    (hkeccak : ∀ bytes, (pf.keccak256 bytes).length = 32) (addresses : List Buff) :
    StepsOn (checkAndConsolidatePublicKeys pf addresses)
      (fun i acc => acc.cursor = i ∧ acc.result.length = i)
      (fun i key => i < addresses.length ∧ (key = [] ∨ 64 ≤ key.length)) 19 where
  taken := by
    intro i acc key hroom ⟨hcursor, hlength⟩ ⟨hinside, hkey⟩
    obtain ⟨compressed, hcompressed⟩ :=
      returns_iff.mp ((compressPublicKey_reports _ key).mpr hkey)
    obtain ⟨isMatching, hmatching⟩ := isEthAddressMatchingPublicKey_ok hkeccak key addresses[i]
    let entry : GuardianKeys := if isMatching then ⟨compressed, key⟩ else ⟨[], []⟩
    have hlength' : (acc.result ++ [entry]).length = i + 1 := by
      rw [List.length_append, List.length_singleton, hlength]
    refine ⟨⟨acc.cursor + 1, acc.result ++ [entry]⟩, ?_, by rw [hcursor], hlength'⟩
    simp only [checkAndConsolidatePublicKeys, exec_bind_eq_ok, unwrapPanicOpt_eq_ok,
      asMaxLen?_eq_some, exec_pure_eq_ok, hcursor]
    exact ⟨_, List.getElem?_eq_getElem hinside, compressed, hcompressed, isMatching, hmatching, _,
      ⟨(Nat.le_of_eq hlength').trans hroom, rfl⟩, rfl⟩
  aborts := by
    intro i acc key _ ⟨hcursor, _⟩ hbad
    refine eq_abort_of_not_reports fun hreports => hbad ?_
    rw [checkAndConsolidatePublicKeys, reports_unwrapPanicOpt_bind] at hreports
    obtain ⟨address, haddress, hreports⟩ := hreports
    rw [hcursor] at haddress
    exact ⟨(List.getElem?_eq_some_iff.mp haddress).1,
      (compressPublicKey_reports _ key).mp (reports_bind.mp hreports).1⟩

/-! ## The update

The two folds are all that can abort, so the condition is the conjunction of theirs. The second one
only counts when the payload was accepted: otherwise the function has returned an error by then. -/

/-- The VAA that a call goes on with: verified, or merely parsed before the first set. -/
def acceptedVaa (pf : Platform) (st : Storage) (guardianSetVaa : Buff) : Exec Vaa :=
  if st.guardianSetInitialized then parseAndVerifyVaa pf st guardianSetVaa
  else do
    let message ← parseVaa pf guardianSetVaa
    pure message.vaa

/-- What keeps an update from an abort. -/
structure ArgumentsFit (pf : Platform) (st : Storage) (payload : Buff) (keys : List Buff) :
    Prop where
  count : 40 + guardianCount payload * 20 ≤ payload.length → guardianCount payload ≤ 19
  keys : NamesUpgrade pf st payload →
    keys.length ≤ guardianCount payload ∧ ∀ key ∈ keys, key = [] ∨ key.length = 64

/-- The key fold on the keys of a call. -/
theorem foldlM_checkAndConsolidatePublicKeys_reports
    (hkeccak : ∀ bytes, (pf.keccak256 bytes).length = 32) {addresses keys : List Buff}
    (hroom : keys.length ≤ 19) (hsize : ∀ key ∈ keys, key.length ≤ 64) (errors : Nat → Prop) :
    Reports errors (keys.foldlM (checkAndConsolidatePublicKeys pf addresses) ⟨0, []⟩) ↔
      keys.length ≤ addresses.length ∧ ∀ key ∈ keys, key = [] ∨ key.length = 64 := by
  have hroom' : 0 + keys.length ≤ 19 := by rwa [Nat.zero_add]
  have hstart : (⟨0, []⟩ : ConsolidateAcc).cursor = 0 ∧
      (⟨0, []⟩ : ConsolidateAcc).result.length = 0 := ⟨rfl, rfl⟩
  rw [((checkAndConsolidatePublicKeys_stepsOn hkeccak addresses).foldlM hroom' hstart).1 errors]
  constructor
  · intro hall
    constructor
    · -- the first key without an address stands at the number of the addresses
      by_contra hmore
      have hinside : addresses.length < keys.length := Nat.not_le.mp hmore
      have := (hall _ _ (List.getElem?_eq_getElem hinside)).1
      omega
    · intro key hkey
      obtain ⟨i, hi⟩ := List.mem_iff_getElem?.mp hkey
      have hsized := hsize key hkey
      -- with the bound of its type a key that is long enough has 64 bytes
      rcases (hall i key hi).2 with hnil | hlong
      · exact .inl hnil
      · exact .inr (by omega)
  · rintro ⟨hcount, hkeys⟩ i key hi
    have hinside := (List.getElem?_eq_some_iff.mp hi).1
    refine ⟨by omega, ?_⟩
    rcases hkeys key (List.mem_iff_getElem?.mpr ⟨i, hi⟩) with hnil | hlength
    · exact .inl hnil
    · exact .inr (Nat.le_of_eq hlength.symm)

/-- Behind the two folds there are only checks with errors of their own. -/
theorem updateGuardiansSet_reports_iff_folds {c : UpdateCall} {st : Storage} {vaa : Vaa}
    (hvaa : acceptedVaa pf st c.guardianSetVaa = .ok vaa) :
    Reports (· ∈ gsuErrors) (c.run pf st).1 ↔
      Reports (· ∈ gsuErrors) (parseAndVerifyGuardiansSet pf st vaa.payload) ∧
      ∀ update, parseAndVerifyGuardiansSet pf st vaa.payload = .ok update →
        Reports (· ∈ gsuErrors) (c.uncompressedPublicKeys.foldlM
          (checkAndConsolidatePublicKeys pf update.value.guardiansEthAddresses) ⟨0, []⟩) := by
  unfold acceptedVaa at hvaa
  have hchecks : ∀ (thing : Prop) [Decidable thing] (code : Nat), code ∈ gsuErrors →
      Reports (· ∈ gsuErrors) (asserts thing code) := fun _ _ _ hcode => reports_asserts hcode
  rw [UpdateCall.run, Contract.reports_transaction, updateGuardiansSet]
  simp only [Contract.reports_bind, Contract.readOnly_apply, Contract.lift_apply,
    Prod.mk.injEq, hvaa, and_imp, forall_eq', forall_apply_eq_imp_iff, reports_ok, true_and,
    Except.ok.injEq, Contract.modify_apply, Contract.pure_apply]
  refine and_congr_right fun _ => forall_congr' fun update => imp_congr_right fun _ =>
    ⟨And.left, fun hfold => ⟨hfold, fun _ _ => ?_⟩⟩
  exact ⟨hchecks _ _ (by decide), fun _ _ => ⟨hchecks _ _ (by decide),
    fun _ _ => ⟨hchecks _ _ (by decide), fun _ _ _ _ _ => trivial⟩⟩⟩

/-- The VAA of a call parses to what the call goes on with. -/
theorem parseVaa_of_acceptedVaa {st : Storage} {guardianSetVaa : Buff} {vaa : Vaa}
    (hvaa : acceptedVaa pf st guardianSetVaa = .ok vaa) :
    ∃ message, parseVaa pf guardianSetVaa = .ok message ∧ message.vaa = vaa := by
  unfold acceptedVaa at hvaa
  split at hvaa
  · exact parseVaa_of_parseAndVerifyVaa hvaa
  · simpa only [exec_bind_eq_ok, exec_pure_eq_ok] using hvaa

/-- Every address that a payload lists is there once it is read. -/
theorem guardiansEthAddresses_length (hk : pf.hkCursor.Lawful) {st : Storage} {payload : Buff}
    {update : Read GuardiansSetUpdate}
    (h : parseAndVerifyGuardiansSet pf st payload = .ok update) :
    update.value.guardiansEthAddresses.length = guardianCount payload := by
  obtain ⟨-, -, haddresses, -⟩ := parseAndVerifyGuardiansSet_eq_ok hk h
  rw [haddresses, guardianAddresses, addressesOf_length]

/-- The function reports exactly on arguments that fit. -/
theorem updateGuardiansSet_reports_iff_fit (hk : pf.hkCursor.Lawful)
    (hkeccak : ∀ bytes, (pf.keccak256 bytes).length = 32)
    {c : UpdateCall} {st : Storage} {vaa : Vaa}
    (hvaa : acceptedVaa pf st c.guardianSetVaa = .ok vaa)
    (hroom : c.uncompressedPublicKeys.length ≤ 19)
    (hsize : ∀ key ∈ c.uncompressedPublicKeys, key.length ≤ 64) :
    Reports (· ∈ gsuErrors) (c.run pf st).1 ↔
      ArgumentsFit pf st vaa.payload c.uncompressedPublicKeys := by
  rw [updateGuardiansSet_reports_iff_folds hvaa, parseAndVerifyGuardiansSet_reports_iff hk]
  simp only [foldlM_checkAndConsolidatePublicKeys_reports hkeccak hroom hsize]
  constructor
  · rintro ⟨hcount, hfold⟩
    refine ⟨hcount, fun hupgrade => ?_⟩
    obtain ⟨update, hupdate⟩ := (parseAndVerifyGuardiansSet_returns_iff hk st _).mpr
      ⟨hupgrade, hcount hupgrade.inside⟩
    rw [← guardiansEthAddresses_length hk hupdate]
    exact hfold update hupdate
  · rintro ⟨hcount, hkeys⟩
    refine ⟨hcount, fun update hupdate => ?_⟩
    rw [guardiansEthAddresses_length hk hupdate]
    exact hkeys ((parseAndVerifyGuardiansSet_returns_iff hk st _).mp ⟨update, hupdate⟩).1

/-- Once the folds are through, the count of the keys is checked first. -/
theorem updateGuardiansSet_of_mismatch {c : UpdateCall} {st : Storage} {vaa : Vaa}
    {update : Read GuardiansSetUpdate} {consolidated : ConsolidateAcc}
    (hvaa : acceptedVaa pf st c.guardianSetVaa = .ok vaa)
    (hupdate : parseAndVerifyGuardiansSet pf st vaa.payload = .ok update)
    (hfold : c.uncompressedPublicKeys.foldlM
      (checkAndConsolidatePublicKeys pf update.value.guardiansEthAddresses) ⟨0, []⟩ =
        .ok consolidated)
    (hcount : c.uncompressedPublicKeys.length ≠ update.value.guardiansEthAddresses.length) :
    c.run pf st = (.error (.err errGsuUncompressedPublicKeys), st) := by
  unfold acceptedVaa at hvaa
  have hcheck : asserts (c.uncompressedPublicKeys.length =
      update.value.guardiansEthAddresses.length) errGsuUncompressedPublicKeys =
        .error (.err errGsuUncompressedPublicKeys) := if_neg hcount
  simp only [UpdateCall.run, Contract.transaction, updateGuardiansSet, bind,
    Contract.readOnly_apply, Contract.lift_apply] at hvaa ⊢
  simp only [hvaa, hupdate, hfold, hcheck]

/-- **When a guardian set update reports a bad argument.** In any state, for a VAA accepted
there and at most 19 keys of at most 64 bytes: the update returns ok or an `ERR_GSU_*`
response, where another number of keys than of addresses is
`ERR_GSU_UNCOMPRESSED_PUBLIC_KEYS` and more than 19 guardians are an error, without a change,
exactly when the arguments fit. Nothing is asked of the cursor where it reads nothing: a payload
of no guardians that it does not read names no upgrade, and the update is then an error whatever
the keys are. -/
theorem updateGuardiansSet_reports_iff (hk : pf.hkCursor.Lawful)
    (hkeccak : ∀ bytes, (pf.keccak256 bytes).length = 32) (c : UpdateCall) (st : Storage)
    {vaa : Vaa} (hvaa : acceptedVaa pf st c.guardianSetVaa = .ok vaa)
    (hroom : c.uncompressedPublicKeys.length ≤ 19)
    (hsize : ∀ key ∈ c.uncompressedPublicKeys, key.length ≤ 64) :
    (Reports (· ∈ gsuErrors) (c.run pf st).1 ∧
      (NamesUpgrade pf st vaa.payload →
        c.uncompressedPublicKeys.length ≠ guardianCount vaa.payload →
        (c.run pf st).1 = .error (.err errGsuUncompressedPublicKeys)) ∧
      (19 < guardianCount vaa.payload →
        ∃ code ∈ gsuErrors, (c.run pf st).1 = .error (.err code)) ∧
      ((∀ updated, (c.run pf st).1 ≠ .ok updated) → st.after pf c = st)) ↔
    ArgumentsFit pf st vaa.payload c.uncompressedPublicKeys := by
  have hiff := updateGuardiansSet_reports_iff_fit hk hkeccak hvaa hroom hsize
  refine ⟨fun h => hiff.mp h.1, fun hfit => ⟨hiff.mpr hfit, fun hupgrade hmismatch => ?_,
    fun hmany => ?_, fun herror => ?_⟩⟩
  · -- a wrong number of keys: the payload was accepted and the fold is through, so the count is
    -- refused
    obtain ⟨update, hupdate⟩ := (parseAndVerifyGuardiansSet_returns_iff hk st _).mpr
      ⟨hupgrade, hfit.count hupgrade.inside⟩
    have hlength := guardiansEthAddresses_length hk hupdate
    obtain ⟨consolidated, hfold⟩ := returns_iff.mp
      ((foldlM_checkAndConsolidatePublicKeys_reports hkeccak hroom hsize _).mpr
        (hlength ▸ hfit.keys hupgrade))
    rw [updateGuardiansSet_of_mismatch hvaa hupdate hfold (hlength ▸ hmismatch)]
  · -- more than 19 guardians: a success would have a key for each of them, and there are at most 19
    -- keys
    rcases c.cases hk st with ⟨updated, hok, hrotated⟩ | ⟨⟨e, herror⟩, -⟩
    · -- a rotation has a key for every guardian
      obtain ⟨message, hmessage, hupdated⟩ := hrotated.parsed
      obtain ⟨message', hmessage', rfl⟩ := parseVaa_of_acceptedVaa hvaa
      obtain rfl := Except.ok.inj (hmessage.symm.trans hmessage')
      have hkeys := hrotated.keys_length
      rw [hrotated.addresses_eq, guardianAddresses, addressesOf_length, ← hupdated] at hkeys
      omega
    · have hreports := hiff.mpr hfit
      rw [herror] at hreports ⊢
      cases hreports with
      | err hcode => exact ⟨_, hcode, rfl⟩
  · rcases c.cases hk st with ⟨updated, hok, -⟩ | ⟨-, hsame⟩
    · exact absurd (by rw [hok]) (herror updated)
    · exact hsame

section ClosedRun

/-- The first update with a key that has no address. -/
def surplusKey : UpdateCall where
  guardianSetVaa := firstSet.guardianSetVaa
  uncompressedPublicKeys := [guardianKey, guardianKey]

/-- The first update with a key of one byte. -/
def shortKey : UpdateCall where
  guardianSetVaa := firstSet.guardianSetVaa
  uncompressedPublicKeys := [[7]]

/-- The rotation to a set of 20 guardians, signed by the guardian of set 1. -/
def twentyGuardians : UpdateCall where
  guardianSetVaa := serialize (signed (unsigned 1 ⟨gsuEmittingChain, gsuEmittingAddress⟩ 2
    (upgradePayload 2 (List.replicate 20 (ethAddress .reference guardianKey)) [])))
  uncompressedPublicKeys := []

theorem updateGuardiansSet_reports_iff_firstSet :
    Reports (· ∈ gsuErrors) (firstSet.run .reference .deployed).1 := by
  have haccepted : acceptedVaa .reference .deployed firstSet.guardianSetVaa =
      .ok (upgradeTo 0 1 (ethAddress .reference guardianKey)) := by
    decide +kernel
  have hcount : guardianCount (upgradeTo 0 1 (ethAddress .reference guardianKey)).payload = 1 := by
    decide +kernel
  refine And.left ((updateGuardiansSet_reports_iff Platform.reference_lawful
    (fun bytes => ?_) firstSet .deployed haccepted (by decide) (by decide)).mpr
      ⟨fun _ => hcount ▸ by decide, fun _ => ?_⟩)
  · simp [Platform.reference]
  · rw [hcount]
    decide

/-- In the deployed state and under the first set, the arguments that the later checks are for
abort the update in its folds. -/
theorem update_aborts :
    let st := Clarity.afterRun (Storage.after .reference) .deployed [firstSet]
    (surplusKey.run .reference .deployed).1 = .error .abort ∧
      (shortKey.run .reference .deployed).1 = .error .abort ∧
      (acceptedVaa .reference st twentyGuardians.guardianSetVaa).toBool = true ∧
      (twentyGuardians.run .reference st).1 = .error .abort ∧
      ¬ ∀ (c : UpdateCall) (vaa : Vaa),
        acceptedVaa .reference .deployed c.guardianSetVaa = .ok vaa →
        c.uncompressedPublicKeys.length ≤ 19 →
        (∀ key ∈ c.uncompressedPublicKeys, key.length ≤ 64) →
        Reports (· ∈ gsuErrors) (c.run .reference .deployed).1 := by
  intro st
  have hrun : (surplusKey.run .reference .deployed).1 = .error .abort ∧
      (shortKey.run .reference .deployed).1 = .error .abort ∧
      (acceptedVaa .reference st twentyGuardians.guardianSetVaa).toBool = true ∧
      (twentyGuardians.run .reference st).1 = .error .abort ∧
      acceptedVaa .reference .deployed surplusKey.guardianSetVaa =
        .ok (upgradeTo 0 1 (ethAddress .reference guardianKey)) := by
    decide +kernel
  obtain ⟨hsurplus, hshort, haccepted, hmany, hvaa⟩ := hrun
  refine ⟨hsurplus, hshort, haccepted, hmany, fun hclaim => ?_⟩
  have hreports := hclaim surplusKey _ hvaa (by decide) (by decide)
  rw [hsurplus] at hreports
  exact not_reports_abort hreports

end ClosedRun

end PythBridge.WormholeCore
