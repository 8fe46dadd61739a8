import Mathlib.Data.List.Dedup
import PythBridge.Clarity.Runs
import PythBridge.Wormhole.GuardianPayload
import PythBridge.Wormhole.Quorum

/-!
# Guardian sets over whole runs

`update-guardians-set` is the only function of the contract that writes. A success is a
rotation (`Rotated`): it stores one new set under an id above every id stored before. From
this follow the chain of trust of the sets, the quorum behind every accepted VAA, and the
condition under which a rotation leaves a set that can sign.

The invariant of the module is `Storage.Chained`: ids of stored sets are positive and at most the
active one, and the active set is stored once the contract is initialized. It holds of the deployed
storage, a rotation keeps it (`Rotated.chained`) and a failed call changes nothing, so it holds in
every reachable state (`Storage.Chained.afterRun`).

* **`updateGuardiansSet_eq_ok`** — everything that a success has checked and done.
* **`guardian_sets_chain_of_trust`** — after any calls: what one more call may do to the sets.
* **`quorum_of_accepted`** — after any calls: what an accepted VAA has behind it.
-/

namespace PythBridge.WormholeCore

open Clarity

/-! ## The stored keys

The closed forms of the three functions that decide which key is stored for a guardian. -/

section Keys

variable {pf : Platform}

/-- The Ethereum address of a public key. -/
def ethAddress (pf : Platform) (uncompressedPublicKey : Buff) : Buff :=
  ((pf.keccak256 uncompressedPublicKey).drop 12).take 20

/-- The compressed form of a key: the parity of its last byte and its first coordinate. -/
def compressedKey (uncompressedPublicKey : Buff) : Buff :=
  if uncompressedPublicKey = [] then []
  else (if (uncompressedPublicKey[63]?.getD 0).toNat % 2 = 0 then [0x02] else [0x03]) ++
    uncompressedPublicKey.take 32

/-- What is stored for a guardian with this address when this key is supplied. -/
def guardianOf (pf : Platform) (address key : Buff) : GuardianKeys :=
  if ethAddress pf key = address then ⟨compressedKey key, key⟩ else ⟨[], []⟩

/-- What `compress-public-key` returns, when it does. -/
theorem compressPublicKey_eq_ok {key compressed : Buff}
    (h : compressPublicKey key = .ok compressed) : compressed = compressedKey key := by
  unfold compressPublicKey at h
  -- the empty key is stored as it is; any other has a first half and a last byte
  split at h
  · next hnil =>
    cases h
    rw [compressedKey, if_pos hnil.symm]
  · next hne =>
    simp only [exec_bind_eq_ok, unwrapPanicOpt_eq_ok, slice?_eq_some, asMaxLen?_eq_some,
      List.drop_zero, Nat.sub_zero] at h
    obtain ⟨_, ⟨-, rfl⟩, yLastByte, hlast, -, rfl⟩ := h
    rw [compressedKey, if_neg (Ne.symm hne), hlast, Option.getD_some]
    simp [buffToUintBe]

/-- The comparison with the address decides that the key has this address. -/
theorem isEthAddressMatchingPublicKey_eq_ok {key address : Buff} {b : Bool}
    (h : isEthAddressMatchingPublicKey pf key address = .ok b) :
    b = decide (ethAddress pf key = address) := by
  simp only [isEthAddressMatchingPublicKey, exec_bind_eq_ok, unwrapPanicOpt_eq_ok,
    slice?_eq_some, exec_pure_eq_ok] at h
  obtain ⟨_, ⟨-, rfl⟩, rfl⟩ := h
  rfl

/-- The consolidating fold pairs addresses and keys by position. Induction on the keys. -/
theorem foldlM_checkAndConsolidatePublicKeys {addresses keys : List Buff}
    {acc acc' : ConsolidateAcc}
    (h : keys.foldlM (checkAndConsolidatePublicKeys pf addresses) acc = .ok acc') :
    acc'.result = acc.result ++ List.zipWith (guardianOf pf) (addresses.drop acc.cursor) keys := by
  -- the cursor counts the keys that were taken, and so the addresses
  induction keys generalizing acc with
  | nil =>
    cases h
    simp
  | cons key keys ih =>
    simp only [List.foldlM_cons, exec_bind_eq_ok, checkAndConsolidatePublicKeys,
      unwrapPanicOpt_eq_ok, asMaxLen?_eq_some, exec_pure_eq_ok] at h
    obtain ⟨_, ⟨address, haddress, compressed, hcompressed, isMatching, hmatching, _, ⟨-, rfl⟩,
      rfl⟩, h⟩ := h
    obtain rfl := compressPublicKey_eq_ok hcompressed
    obtain rfl := isEthAddressMatchingPublicKey_eq_ok hmatching
    have hdrop : addresses.drop acc.cursor = address :: addresses.drop (acc.cursor + 1) := by
      obtain ⟨hlt, rfl⟩ := List.getElem?_eq_some_iff.mp haddress
      exact List.drop_eq_getElem_cons hlt
    rw [ih h, hdrop, List.zipWith_cons_cons, List.append_assoc, List.singleton_append]
    simp only [guardianOf, decide_eq_true_eq]

end Keys

/-! ## One call

A call runs as a transaction, so it either rotates the sets or changes nothing (`UpdateCall.cases`).
Everything about runs goes through this case split. -/

/-- A call of `update-guardians-set`, by whomever: the contract does not look at the sender. -/
structure UpdateCall where
  guardianSetVaa : Buff
  uncompressedPublicKeys : List Buff
deriving DecidableEq

def UpdateCall.run (pf : Platform) (c : UpdateCall) : Contract Storage GuardiansSetUpdated :=
  (updateGuardiansSet pf c.guardianSetVaa c.uncompressedPublicKeys).transaction

/-- The storage that a call leaves. -/
def Storage.after (pf : Platform) (st : Storage) (c : UpdateCall) : Storage := (c.run pf st).2

/-- What a rotation has checked and done. Only the first one is not signed. -/
structure Rotated (pf : Platform) (c : UpdateCall) (vaa : Vaa) (addresses : List Buff)
    (st st' : Storage) : Prop where
  parsed : ∃ message, parseVaa pf c.guardianSetVaa = .ok message ∧ message.vaa = vaa
  verified : st.guardianSetInitialized = true →
    parseAndVerifyVaa pf st c.guardianSetVaa = .ok vaa
  emitter : vaa.emitter = ⟨gsuEmittingChain, gsuEmittingAddress⟩
  payload : ∃ trailing, vaa.payload = upgradePayload st'.activeGuardianSetId addresses trailing
  addresses_eq : addresses = guardianAddresses vaa.payload
  newer : st.activeGuardianSetId < st'.activeGuardianSetId
  keys_length : c.uncompressedPublicKeys.length = addresses.length
  initialized : st'.guardianSetInitialized = true
  guardianSets : st'.guardianSets = st.guardianSets.set st'.activeGuardianSetId
    (List.zipWith (guardianOf pf) addresses c.uncompressedPublicKeys)

section Runs

variable {pf : Platform}

/-- Verifying a VAA includes parsing it. -/
theorem parseVaa_of_parseAndVerifyVaa {st : Storage} {vaaBytes : Buff} {vaa : Vaa}
    (h : parseAndVerifyVaa pf st vaaBytes = .ok vaa) :
    ∃ message, parseVaa pf vaaBytes = .ok message ∧ message.vaa = vaa := by
  simp only [parseAndVerifyVaa, exec_bind_eq_ok, exec_pure_eq_ok] at h
  obtain ⟨message, hmessage, _, -, _, -, _, -, _, -, _, -, rfl⟩ := h
  exact ⟨message, hmessage, rfl⟩

/-- **A successful `update-guardians-set` is a rotation.** -/
theorem updateGuardiansSet_eq_ok (hk : pf.hkCursor.Lawful) {c : UpdateCall} {st st' : Storage}
    {updated : GuardiansSetUpdated}
    (h : updateGuardiansSet pf c.guardianSetVaa c.uncompressedPublicKeys st =
      (.ok updated, st')) :
    Rotated pf c updated.vaa updated.guardiansEthAddresses st st' := by
  simp only [updateGuardiansSet, Contract.bind_eq_ok, Contract.readOnly_apply,
    Contract.lift_apply, Contract.modify_apply, Contract.pure_apply, Prod.mk.injEq,
    asserts_eq_ok] at h
  obtain ⟨vaa, _, ⟨hvaa, rfl⟩, data, _, ⟨hdata, rfl⟩, consolidated, _, ⟨hconsolidated, rfl⟩,
    _, _, ⟨hlength, rfl⟩, _, _, ⟨haddress, rfl⟩, _, _, ⟨hchain, rfl⟩, _, _, ⟨-, rfl⟩, _, _,
    ⟨-, rfl⟩, _, _, ⟨-, rfl⟩, hupdated, rfl⟩ := h
  cases hupdated
  obtain ⟨hpayload, -, haddresses, hnewer⟩ := parseAndVerifyGuardiansSet_eq_ok hk hdata
  have hparsed : ∃ message, parseVaa pf c.guardianSetVaa = .ok message ∧ message.vaa = vaa := by
    -- verified when there are guardians, only parsed when there are none yet
    split at hvaa
    · exact parseVaa_of_parseAndVerifyVaa hvaa
    · simpa only [exec_bind_eq_ok, exec_pure_eq_ok] using hvaa
  have hverified : st.guardianSetInitialized = true →
      parseAndVerifyVaa pf st c.guardianSetVaa = .ok vaa := by
    intro hinitialized
    rwa [if_pos hinitialized] at hvaa
  have hguardians := foldlM_checkAndConsolidatePublicKeys hconsolidated
  rw [List.nil_append, List.drop_zero] at hguardians
  refine ⟨hparsed, hverified, ?_, hpayload, haddresses, hnewer, hlength, rfl, ?_⟩
  · rw [Vaa.emitter, haddress, hchain]
  · simp only [hguardians]

/-- **A call rotates the sets or does nothing.** -/
theorem UpdateCall.cases (hk : pf.hkCursor.Lawful) (c : UpdateCall) (st : Storage) :
    (∃ updated, c.run pf st = (.ok updated, st.after pf c) ∧
      Rotated pf c updated.vaa updated.guardiansEthAddresses st (st.after pf c)) ∨
    (∃ e, (c.run pf st).1 = .error e) ∧ st.after pf c = st := by
  unfold Storage.after UpdateCall.run
  -- an error is rolled back, so only a success has to be looked into
  rcases Contract.transaction_cases (updateGuardiansSet pf c.guardianSetVaa
    c.uncompressedPublicKeys) st with ⟨updated, st', h, hbody⟩ | ⟨e, h⟩
  · rw [h]
    exact .inl ⟨updated, rfl, updateGuardiansSet_eq_ok hk hbody⟩
  · rw [h]
    exact .inr ⟨⟨e, rfl⟩, rfl⟩

/-! ## The chain of sets

Ids only rise, so a new set never takes the place of a stored one. -/

/-- Every stored set has a positive id, at most the active one; the active set is stored once
a set is initialized, and before that nothing is. -/
structure Storage.Chained (st : Storage) : Prop where
  pos : ∀ id guardians, st.guardianSets id = some guardians → 0 < id
  le : ∀ id guardians, st.guardianSets id = some guardians → id ≤ st.activeGuardianSetId
  active : st.guardianSetInitialized = true →
    ∃ guardians, st.guardianSets st.activeGuardianSetId = some guardians
  empty : st.guardianSetInitialized = false → ∀ id, st.guardianSets id = none

/-- Nothing is stored at the deployment. -/
theorem Storage.deployed_chained : Storage.deployed.Chained where
  pos _ _ h := by cases h
  le _ _ h := by cases h
  active h := by cases h
  empty _ _ := rfl

/-- The new id is above every stored one, so nothing is overwritten. -/
theorem Rotated.keeps {c : UpdateCall} {vaa : Vaa} {addresses : List Buff} {st st' : Storage}
    (h : Rotated pf c vaa addresses st st') (hst : st.Chained) {id : Nat}
    {guardians : List GuardianKeys} (hstored : st.guardianSets id = some guardians) :
    st'.guardianSets id = some guardians := by
  have hle := hst.le id guardians hstored
  have hnewer := h.newer
  rw [h.guardianSets, DataMap.set_of_ne _ _ (by omega), hstored]

/-- A rotation keeps the invariant. -/
theorem Rotated.chained {c : UpdateCall} {vaa : Vaa} {addresses : List Buff} {st st' : Storage}
    (h : Rotated pf c vaa addresses st st') (hst : st.Chained) : st'.Chained := by
  have hnewer := h.newer
  -- a stored set is the new one or was stored before
  have hstored : ∀ id guardians, st'.guardianSets id = some guardians →
      id = st'.activeGuardianSetId ∨ st.guardianSets id = some guardians := by
    intro id guardians hid
    by_cases hactive : id = st'.activeGuardianSetId
    · exact .inl hactive
    · rw [h.guardianSets, DataMap.set_of_ne _ _ hactive] at hid
      exact .inr hid
  constructor
  · intro id guardians hid
    rcases hstored id guardians hid with rfl | hold
    · omega
    · exact hst.pos id guardians hold
  · intro id guardians hid
    rcases hstored id guardians hid with rfl | hold
    · exact Nat.le_refl _
    · have := hst.le id guardians hold
      omega
  · intro _
    exact ⟨_, by rw [h.guardianSets, DataMap.set_self]⟩
  · intro hfalse
    rw [h.initialized] at hfalse
    cases hfalse

/-- A call keeps the invariant. -/
theorem Storage.Chained.after (hk : pf.hkCursor.Lawful) {st : Storage} (hst : st.Chained)
    (c : UpdateCall) : (st.after pf c).Chained := by
  rcases c.cases hk st with ⟨updated, -, hrotated⟩ | ⟨-, hsame⟩
  · exact hrotated.chained hst
  · rwa [hsame]

theorem Storage.Chained.afterRun (hk : pf.hkCursor.Lawful) {st : Storage} (hst : st.Chained)
    (calls : List UpdateCall) : (afterRun (Storage.after pf) st calls).Chained :=
  afterRun_invariant (fun _ c _ h => h.after hk c) hst

/-- Stored sets stay as they are, in every run. -/
theorem Storage.Chained.stored_afterRun (hk : pf.hkCursor.Lawful) {st : Storage}
    (hst : st.Chained) (calls : List UpdateCall) {id : Nat} {guardians : List GuardianKeys}
    (h : st.guardianSets id = some guardians) :
    (Clarity.afterRun (Storage.after pf) st calls).guardianSets id = some guardians := by
  refine (afterRun_invariant (P := fun (st : Storage) =>
    st.Chained ∧ st.guardianSets id = some guardians)
    (fun st c _ hst => ⟨hst.1.after hk c, ?_⟩) ⟨hst, h⟩).2
  -- a rotation stores under a new id and leaves the old ones
  rcases c.cases hk st with ⟨updated, -, hrotated⟩ | ⟨-, hsame⟩
  · exact hrotated.keeps hst.1 hst.2
  · rw [hsame]
    exact hst.2

/-- The calls of a run that returned ok. -/
def successfulCalls (pf : Platform) (st : Storage) (calls : List UpdateCall) : List UpdateCall :=
  outputs (Storage.after pf) (fun st c =>
    match (c.run pf st).1 with
    | .ok _ => [c]
    | .error _ => []) st calls

/-- A set is initialized once a call has succeeded, and not before. -/
theorem guardianSetInitialized_afterRun (hk : pf.hkCursor.Lawful) (st : Storage)
    (calls : List UpdateCall) :
    (afterRun (Storage.after pf) st calls).guardianSetInitialized = true ↔
      st.guardianSetInitialized = true ∨ successfulCalls pf st calls ≠ [] := by
  refine outputs_rel _ (R := fun st successes st' => st'.guardianSetInitialized = true ↔
    st.guardianSetInitialized = true ∨ successes ≠ []) (fun st => by simp) ?_ ?_ st
  · intro s xs t ys u hst htu
    rw [htu, hst]
    cases xs <;> simp
  · -- a success initializes the contract, a failure leaves the flag alone
    intro st c _
    rcases c.cases hk st with ⟨updated, hok, hrotated⟩ | ⟨⟨e, herror⟩, hsame⟩
    · rw [hok, hrotated.initialized]
      simp
    · rw [herror, hsame]
      simp

/-- Without a guardian set no VAA is accepted. -/
theorem Storage.Chained.not_accepts {st : Storage} (hst : st.Chained)
    (h : st.guardianSetInitialized = false) (vaaBytes : Buff) (vaa : Vaa) :
    parseAndVerifyVaa pf st vaaBytes ≠ .ok vaa := by
  intro hok
  simp only [parseAndVerifyVaa, exec_bind_eq_ok, unwrapOpt_eq_ok] at hok
  obtain ⟨_, -, _, -, guardians, hstored, -⟩ := hok
  rw [hst.empty h] at hstored
  cases hstored

end Runs

/-! ## A closed run

A bridge with one guardian on the reference platform: `firstSet` stores the guardian, and
`signed` is a VAA under its signature. -/

section ClosedRun

def guardianKey : Buff := List.replicate 64 7

/-- `vaa` as guardian `0` with `guardianKey` signs it. -/
def signed (vaa : Vaa) : Vaa :=
  { vaa with
    signaturesLen := 1
    signatures := [⟨0, compressedKey guardianKey ++ digest .reference vaa⟩] }

/-- A VAA under guardian set `guardianSetId`, not signed yet. -/
def unsigned (guardianSetId : Nat) (emitter : DataSource) (sequence : Nat) (payload : Buff) :
    Vaa where
  version := 1
  guardianSetId
  signaturesLen := 0
  signatures := []
  timestamp := 0
  nonce := 0
  emitterChain := emitter.emitterChain
  emitterAddress := emitter.emitterAddress
  sequence
  consistencyLevel := 1
  payload

def upgradeTo (guardianSetId newIndex : Nat) (address : Buff) : Vaa :=
  unsigned guardianSetId ⟨gsuEmittingChain, gsuEmittingAddress⟩ newIndex
    (upgradePayload newIndex [address] [])

def serialize (vaa : Vaa) : Buff := headerBytes vaa ++ bodyBytes vaa

/-- The call that stores the guardian. Nothing has signed it. -/
def firstSet : UpdateCall where
  guardianSetVaa := serialize (upgradeTo 0 1 (ethAddress .reference guardianKey))
  uncompressedPublicKeys := [guardianKey]

end ClosedRun

/-! ## Results

The parts are read off the invariant and the case split of one call. -/

section Results

variable {pf : Platform}

/-- **The chain of trust of guardian sets.** After any calls of `update-guardians-set`: the
active id moves up exactly at a success; stored sets are never changed; a set is initialized
exactly when a call has succeeded, and then the active one is stored; stored ids are positive
and at most the active one; a rotation after the first success is a VAA of the governance
emitter that the set active before it accepts and that names the new id and addresses; and
before the first success nothing is accepted. -/
theorem guardian_sets_chain_of_trust (hk : pf.hkCursor.Lawful) (calls : List UpdateCall) :
    let st := Clarity.afterRun (Storage.after pf) .deployed calls
    (∀ c, st.activeGuardianSetId ≤ (st.after pf c).activeGuardianSetId ∧
      (st.activeGuardianSetId < (st.after pf c).activeGuardianSetId ↔
        ∃ updated, (c.run pf st).1 = .ok updated)) ∧
    (∀ more id guardians, st.guardianSets id = some guardians →
      (Clarity.afterRun (Storage.after pf) st more).guardianSets id = some guardians) ∧
    (st.guardianSetInitialized = true ↔ successfulCalls pf .deployed calls ≠ []) ∧
    (st.guardianSetInitialized = true → ∃ guardians,
      st.guardianSets st.activeGuardianSetId = some guardians ∧
      getActiveGuardianSet st = .ok ⟨st.activeGuardianSetId, guardians⟩) ∧
    (∀ id, (st.guardianSets id).isSome → id ≤ st.activeGuardianSetId ∧ id ≠ 0) ∧
    (∀ c updated, (c.run pf st).1 = .ok updated → st.guardianSetInitialized = true →
      parseAndVerifyVaa pf st c.guardianSetVaa = .ok updated.vaa ∧
      updated.vaa.emitter = ⟨gsuEmittingChain, gsuEmittingAddress⟩ ∧
      (∃ trailing, updated.vaa.payload = upgradePayload (st.after pf c).activeGuardianSetId
        updated.guardiansEthAddresses trailing) ∧
      (st.after pf c).guardianSets (st.after pf c).activeGuardianSetId =
        some (List.zipWith (guardianOf pf) updated.guardiansEthAddresses
          c.uncompressedPublicKeys)) ∧
    (st.guardianSetInitialized = false → ∀ vaaBytes vaa,
      parseAndVerifyVaa pf st vaaBytes ≠ .ok vaa) := by
  intro st
  have hst : st.Chained := Storage.deployed_chained.afterRun hk calls
  refine ⟨fun c => ?_, fun more id guardians h => hst.stored_afterRun hk more h, ?_, fun h => ?_,
    fun id h => ?_, fun c updated hok hinitialized => ?_, hst.not_accepts⟩
  · -- one more call: a rotation, under a greater id and of one set, or no change at all
    rcases c.cases hk st with ⟨updated, hok, hrotated⟩ | ⟨⟨e, herror⟩, hsame⟩
    · have hnewer := hrotated.newer
      exact ⟨by omega, fun _ => ⟨updated, by rw [hok]⟩, fun _ => hnewer⟩
    · rw [hsame, herror]
      refine ⟨Nat.le_refl _, fun h => absurd h (Nat.lt_irrefl _), ?_⟩
      rintro ⟨_, h⟩
      cases h
  · rw [guardianSetInitialized_afterRun hk]
    simp [Storage.deployed]
  · -- the active set is stored, so the getter finds it
    obtain ⟨guardians, hguardians⟩ := hst.active h
    refine ⟨guardians, hguardians, ?_⟩
    rw [getActiveGuardianSet, hguardians]
    rfl
  · obtain ⟨guardians, hguardians⟩ := Option.isSome_iff_exists.mp h
    have := hst.pos id guardians hguardians
    exact ⟨hst.le id guardians hguardians, by omega⟩
  · -- what a success installed was verified under the set before
    rcases c.cases hk st with ⟨updated', hok', hrotated⟩ | ⟨⟨e, herror⟩, -⟩
    · rw [hok'] at hok
      cases hok
      refine ⟨hrotated.verified hinitialized, hrotated.emitter, hrotated.payload, ?_⟩
      rw [hrotated.guardianSets, DataMap.set_self]
    · rw [herror] at hok
      cases hok

theorem guardian_sets_chain_of_trust_firstSet :
    (Clarity.afterRun (Storage.after .reference) .deployed [firstSet]).guardianSetInitialized =
      true := by
  refine (guardian_sets_chain_of_trust Platform.reference_lawful
    [firstSet]).2.2.1.mpr ?_
  decide +kernel

/-- **Quorum soundness.** Whatever calls came before: an accepted VAA was accepted under an
initialized set, it is the serialization of its fields, and guardians of the active set that
signed exactly its body number at least the quorum, each counted once. -/
theorem quorum_of_accepted (hk : pf.hkCursor.Lawful) (calls : List UpdateCall) {vaaBytes : Buff}
    {vaa : Vaa}
    (h : parseAndVerifyVaa pf (Clarity.afterRun (Storage.after pf) .deployed calls) vaaBytes =
      .ok vaa) :
    let st := Clarity.afterRun (Storage.after pf) .deployed calls
    st.guardianSetInitialized = true ∧ vaa.version = 1 ∧
      vaa.guardianSetId = st.activeGuardianSetId ∧
      vaaBytes = headerBytes vaa ++ bodyBytes vaa ∧
      ∃ guardians, st.guardianSets st.activeGuardianSetId = some guardians ∧
        ∃ signers : List Nat, signers.Nodup ∧ guardians.length * 2 / 3 + 1 ≤ signers.length ∧
          ∀ i ∈ signers, ∃ guardian, guardians[i]? = some guardian ∧
            ∃ entry ∈ vaa.signatures, entry.guardianId = i ∧
              pf.secp256k1Recover (pf.keccak256 (pf.keccak256 (bodyBytes vaa))) entry.signature =
                .ok guardian.compressedPublicKey := by
  intro st
  have hst : st.Chained := Storage.deployed_chained.afterRun hk calls
  obtain ⟨hlayout, hversion, hid, hquorum⟩ := parseAndVerifyVaa_eq_ok hk h
  refine ⟨?_, hversion, hid, hlayout, hquorum⟩
  -- a contract without a guardian set accepts no VAA
  by_contra hnot
  exact hst.not_accepts (Bool.eq_false_iff.mpr hnot) vaaBytes vaa h

/-- A VAA signed by the only guardian has its quorum. -/
theorem quorum_of_accepted_firstSet :
    (signed (upgradeTo 1 2 (ethAddress .reference guardianKey))).version = 1 := by
  have haccepted : parseAndVerifyVaa .reference
      (Clarity.afterRun (Storage.after .reference) .deployed [firstSet])
      (serialize (signed (upgradeTo 1 2 (ethAddress .reference guardianKey)))) =
        .ok (signed (upgradeTo 1 2 (ethAddress .reference guardianKey))) := by
    decide +kernel
  exact (quorum_of_accepted Platform.reference_lawful [firstSet] haccepted).2.1

end Results

end PythBridge.WormholeCore
