import Mathlib.Data.List.Zip
import PythBridge.Clarity.Reports
import PythBridge.Wormhole.Layout

/-!
# The payload of a guardian set upgrade

`parse-and-verify-guardians-set` finds the guardian addresses with two folds: one collects
the positions of the buffer divisible by 20, the other reads an address at each. Together
they cut the buffer into 20-byte pieces, so the payload names the addresses one after
another (`parseAndVerifyGuardiansSet_eq_ok`).

The main results of the module are two directions of one statement:

* **`parseAndVerifyGuardiansSet_eq_ok`** — an accepted payload is `upgradePayload` of what it was
  parsed to, with some trailing bytes, which are ignored.
* **`guardians_payload_decoding`** — every payload that names a newer set of 1 to 19 addresses is
  parsed to just these, and in an accepted payload the `i`-th address lies at byte `40 + 20 * i`.
-/

namespace PythBridge.WormholeCore

open Clarity

/-- The first `count` pieces of 20 bytes. -/
def addressesOf (bytes : Buff) (count : Nat) : List Buff :=
  (List.range count).map fun i => (bytes.drop (i * 20)).take 20

/-- There are as many pieces as are asked for. -/
theorem addressesOf_length (bytes : Buff) (count : Nat) :
    (addressesOf bytes count).length = count := by
  simp [addressesOf]

/-- Put together again, the pieces are the bytes. -/
theorem addressesOf_flatten {bytes : Buff} (count : Nat) :
    (addressesOf bytes count).flatten = bytes.take (count * 20) := by
  induction count with
  | zero => simp [addressesOf]
  | succ count ih =>
    unfold addressesOf at *
    rw [List.range_succ, List.map_append, List.flatten_append, ih]
    simp only [List.map_cons, List.map_nil, List.flatten_cons, List.flatten_nil, List.append_nil]
    rw [Nat.succ_mul, List.take_add]

/-- Every piece is whole when the bytes suffice. -/
theorem addressesOf_mem_length {bytes : Buff} {count : Nat} (h : count * 20 ≤ bytes.length) :
    ∀ address ∈ addressesOf bytes count, address.length = 20 := by
  intro address hmem
  obtain ⟨i, hi, rfl⟩ := List.mem_map.mp hmem
  have := List.mem_range.mp hi
  rw [List.length_take, List.length_drop]
  omega

/-- Addresses written one after another are cut where they were joined. -/
theorem addressesOf_of_flatten {addresses : List Buff}
    (h : ∀ address ∈ addresses, address.length = 20) :
    addressesOf addresses.flatten addresses.length = addresses := by
  refine List.ext_getElem (addressesOf_length _ _) fun i _ hi => ?_
  simp only [addressesOf, List.getElem_map, List.getElem_range]
  exact take_drop_flatten_of_width h hi

/-! ## The two folds

The first fold returns on at most 380 bytes: the twentieth cue has no room. The second returns when
an address lies at every cue. On a whole number of at most 19 addresses both do
(`guardianFolds_return`). -/

section Folds

variable {pf : Platform}

/-- The cue fold collects the positions from its cursor on that are divisible by 20. -/
theorem foldlM_isGuardianCue {bytes : Buff} {acc acc' : GuardianCueAcc}
    (h : bytes.foldlM isGuardianCue acc = .ok acc') :
    acc'.result = acc.result ++
      (List.range' acc.cursor bytes.length).filter fun position => position % 20 = 0 := by
  -- the fold looks at the position, not at the byte
  induction bytes generalizing acc with
  | nil =>
    cases h
    simp
  | cons byte bytes ih =>
    simp only [List.foldlM_cons, exec_bind_eq_ok] at h
    obtain ⟨acc₁, hstep, h⟩ := h
    rw [ih h, List.length_cons, List.range'_succ]
    unfold isGuardianCue at hstep
    -- a cue is added, any other position is passed over
    split at hstep
    · next hcue =>
      simp only [exec_bind_eq_ok, unwrapPanicOpt_eq_ok, asMaxLen?_eq_some,
        exec_pure_eq_ok] at hstep
      obtain ⟨_, ⟨-, rfl⟩, rfl⟩ := hstep
      rw [List.filter_cons_of_pos (by simpa using hcue), List.append_assoc]
      rfl
    · next hcue =>
      cases hstep
      rw [List.filter_cons_of_neg (by simpa using hcue)]

/-- Among the first `count * 20` positions the cues are the multiples of 20. -/
theorem range'_filter_cue (count : Nat) :
    ((List.range' 0 (count * 20)).filter fun position => position % 20 = 0) =
      (List.range count).map (· * 20) := by
  induction count with
  | zero => rfl
  | succ count ih =>
    have hblock : (List.range' (count * 20) 20).filter (fun position => position % 20 = 0) =
        [count * 20] := by
      rw [List.range'_succ, List.filter_cons_of_pos (by simp)]
      refine congrArg _ (List.filter_eq_nil_iff.mpr fun position hp => ?_)
      have := List.mem_range'_1.mp hp
      simp only [decide_eq_true_eq]
      omega
    rw [Nat.succ_mul, ← List.range'_append_1, List.filter_append, ih, List.range_succ,
      List.map_append, Nat.zero_add, hblock]
    rfl

/-- The address fold reads 20 bytes at every cue. -/
theorem foldlM_parseGuardian (hk : pf.hkCursor.Lawful) {bytes : Buff} {cues : List Nat}
    {result result' : List Buff}
    (h : cues.foldlM (parseGuardian pf bytes) result = .ok result') :
    result' = result ++ cues.map fun cue => (bytes.drop cue).take 20 := by
  -- each cue reads its 20 bytes, or the rest is not reached
  induction cues generalizing result with
  | nil =>
    cases h
    simp
  | cons cue cues ih =>
    simp only [List.foldlM_cons, exec_bind_eq_ok, parseGuardian, unwrapPanic_eq_ok,
      unwrapPanicOpt_eq_ok, asMaxLen?_eq_some] at h
    obtain ⟨result₁, ⟨address, haddress, -, rfl⟩, h⟩ := h
    obtain ⟨-, rfl⟩ := (hk.readBuff20 _ _).mp haddress
    rw [ih h, List.append_assoc, List.map_cons, List.singleton_append]
    rfl

/-- The cue fold has room for 19 cues. -/
theorem isGuardianCue_stepsOn (room : Nat) :
    StepsOn isGuardianCue (fun i acc => acc.cursor = i ∧ acc.result.length = (i + 19) / 20)
      (fun i _ => i % 20 = 0 → i < 380) room where
  taken := by
    intro i acc byte _ ⟨hcursor, hlength⟩ hroom
    have hnext : acc.cursor + 1 = i + 1 := by rw [hcursor]
    -- in front of position `i` there are `(i + 19) / 20` cues, and one more when `i` is one
    by_cases hcue : acc.cursor % 20 = 0
    · have hlength' : (acc.result ++ [acc.cursor]).length = (i + 1 + 19) / 20 := by
        rw [List.length_append, List.length_singleton]
        omega
      have hcap : asMaxLen? (acc.result ++ [acc.cursor]) 19 =
          some (acc.result ++ [acc.cursor]) := by
        rw [asMaxLen?_eq_some]
        exact ⟨by omega, rfl⟩
      refine ⟨⟨acc.cursor + 1, acc.result ++ [acc.cursor]⟩, ?_, hnext, hlength'⟩
      rw [isGuardianCue, if_pos hcue, hcap]
      rfl
    · refine ⟨⟨acc.cursor + 1, acc.result⟩, if_neg hcue, hnext, ?_⟩
      show acc.result.length = (i + 1 + 19) / 20
      omega
  aborts := by
    intro i acc byte _ ⟨hcursor, hlength⟩ hbad
    obtain ⟨hcue, hfull⟩ := Classical.not_imp.mp hbad
    have hcap : asMaxLen? (acc.result ++ [acc.cursor]) 19 = none := by
      rw [asMaxLen?, if_neg]
      rw [List.length_append, List.length_singleton]
      omega
    rw [isGuardianCue, if_pos (hcursor ▸ hcue), hcap]
    rfl

/-- The cue fold returns exactly on what 19 addresses take. -/
theorem foldlM_isGuardianCue_reports (errors : Nat → Prop) (bytes : Buff) :
    Reports errors (bytes.foldlM isGuardianCue ⟨0, []⟩) ↔ bytes.length ≤ 380 := by
  have hroom : 0 + bytes.length ≤ bytes.length := by rw [Nat.zero_add]
  have hstart : (⟨0, []⟩ : GuardianCueAcc).cursor = 0 ∧
      (⟨0, []⟩ : GuardianCueAcc).result.length = (0 + 19) / 20 := ⟨rfl, rfl⟩
  rw [((isGuardianCue_stepsOn bytes.length).foldlM hroom hstart).1 errors]
  constructor
  · -- position 380 would be the twentieth cue
    intro hall
    by_contra hlong
    have hinside : 380 < bytes.length := Nat.not_le.mp hlong
    have := hall 380 bytes[380] (List.getElem?_eq_getElem hinside) rfl
    omega
  · intro hshort j byte hj _
    have := (List.getElem?_eq_some_iff.mp hj).1
    omega

/-- The address fold takes a step when 20 bytes lie at the cue. -/
theorem parseGuardian_stepsOn (hk : pf.hkCursor.Lawful) (bytes : Buff) :
    StepsOn (parseGuardian pf bytes) (fun i result => result.length = i)
      (fun _ cue => cue + 20 ≤ bytes.length) 19 where
  taken := by
    intro i result cue hroom hlength hinside
    have hlength' : (result ++ [(⟨bytes, cue⟩ : Cursor).take 20]).length = i + 1 := by
      rw [List.length_append, List.length_singleton, hlength]
    refine ⟨_, ?_, hlength'⟩
    simp only [parseGuardian, exec_bind_eq_ok, unwrapPanic_eq_ok, unwrapPanicOpt_eq_ok,
      hk.readBuff20.exists_ok, asMaxLen?_eq_some, id]
    exact ⟨hinside, by omega, trivial⟩
  aborts := by
    intro i result cue _ _ houtside
    refine eq_abort_of_not_reports fun hreports => houtside ?_
    rw [parseGuardian, reports_unwrapPanic_bind, hk.readBuff20.exists_ok] at hreports
    exact hreports.1

/-- Both folds return on a whole number of addresses that fits the lists. -/
theorem guardianFolds_return (hk : pf.hkCursor.Lawful) {bytes : Buff} {count : Nat}
    (hlength : bytes.length = count * 20) (hcount : count ≤ 19) :
    ∃ cues, bytes.foldlM isGuardianCue ⟨0, []⟩ = .ok cues ∧
      cues.result.foldlM (parseGuardian pf bytes) [] = .ok (addressesOf bytes count) := by
  obtain ⟨cues, hcues⟩ :=
    returns_iff.mp ((foldlM_isGuardianCue_reports _ bytes).mpr (by omega))
  have hresult := foldlM_isGuardianCue hcues
  simp only [List.nil_append, hlength, range'_filter_cue] at hresult
  have hroom : 0 + cues.result.length ≤ 19 := by
    rw [hresult, List.length_map, List.length_range]
    omega
  have hreturns : Returns (cues.result.foldlM (parseGuardian pf bytes) []) := by
    refine (((parseGuardian_stepsOn hk bytes).foldlM hroom rfl).1 _).mpr fun j cue hj => ?_
    have hmem := List.mem_iff_getElem?.mpr ⟨j, hj⟩
    rw [hresult] at hmem
    obtain ⟨i, hi, rfl⟩ := List.mem_map.mp hmem
    have := List.mem_range.mp hi
    omega
  obtain ⟨addresses, haddresses⟩ := returns_iff.mp hreturns
  refine ⟨cues, hcues, ?_⟩
  rw [haddresses, foldlM_parseGuardian hk haddresses, hresult, List.nil_append, List.map_map]
  rfl

/-! ## The payload

Byte 39 is the number of guardians, and their addresses start at byte 40. -/

/-- The payload that names `newIndex` and `addresses`, with whatever follows. -/
def upgradePayload (newIndex : Nat) (addresses : List Buff) (trailing : Buff) : Buff :=
  gsuModule ++ [2] ++ [0, 0] ++ uintToBuffBe 4 newIndex ++ uintToBuffBe 1 addresses.length ++
    addresses.flatten ++ trailing

/-- The number of guardians that a payload declares. -/
def guardianCount (payload : Buff) : Nat := buffToUintBe ((payload.drop 39).take 1)

/-- The addresses that a payload names. -/
def guardianAddresses (payload : Buff) : List Buff :=
  addressesOf (payload.drop 40) (guardianCount payload)

/-- **The payload of an upgrade.** It names the module, the action, any chain, the new index,
which is above the active one, and the addresses. -/
theorem parseAndVerifyGuardiansSet_eq_ok (hk : pf.hkCursor.Lawful) {st : Storage}
    {payload : Buff} {update : Read GuardiansSetUpdate}
    (h : parseAndVerifyGuardiansSet pf st payload = .ok update) :
    (∃ trailing, payload =
        upgradePayload update.value.newIndex update.value.guardiansEthAddresses trailing) ∧
      (∀ address ∈ update.value.guardiansEthAddresses, address.length = 20) ∧
      update.value.guardiansEthAddresses = guardianAddresses payload ∧
      st.activeGuardianSetId < update.value.newIndex := by
  simp only [parseAndVerifyGuardiansSet, exec_bind_eq_ok, unwrap_eq_ok, asserts_eq_ok,
    exec_pure_eq_ok] at h
  obtain ⟨mod, hmod, action, haction, chain, hchain, newIndex, hnewIndex, count, hcount, bytes,
    hbytes, cues, hcues, addresses, haddresses, _, hmodule, _, haction₂, _, hchain₀, _, hindex,
    rfl⟩ := h
  obtain ⟨-, hn₁, -, h₁⟩ := hk.readBuff32.buff hmod
  obtain ⟨-, hn₂, -, h₂⟩ := hk.readUint8.uint haction
  obtain ⟨-, hn₃, -, h₃⟩ := hk.readUint16.uint hchain
  obtain ⟨-, hn₄, -, h₄⟩ := hk.readUint32.uint hnewIndex
  obtain ⟨hcountRead, hcountEq⟩ := (hk.readUint8 _ _).mp hcount
  obtain ⟨-, hn₅, -, h₅⟩ := hk.readUint8.uint hcount
  obtain ⟨hholds, hbytesEq⟩ := hk.readBuff8192Max_some _ _ _ hbytes
  have hbytesLength : bytes.value.length = count.value * 20 := by
    rw [hbytesEq]
    exact Cursor.take_length hholds
  -- the two folds cut the bytes into addresses
  -- the cues of a whole number of addresses are the multiples of 20 among its positions
  have hcut : addresses = addressesOf bytes.value count.value := by
    have hcuesResult := foldlM_isGuardianCue hcues
    simp only [List.nil_append, hbytesLength, range'_filter_cue] at hcuesResult
    rw [foldlM_parseGuardian hk haddresses, hcuesResult, List.nil_append, List.map_map]
    rfl
  have hflatten : addresses.flatten = bytes.value := by
    rw [hcut, addressesOf_flatten, ← hbytesLength, List.take_length]
  have hlength : addresses.length = count.value := by rw [hcut, addressesOf_length]
  have hall : payload = (⟨payload, 0⟩ : Cursor).rest := rfl
  refine ⟨⟨(count.next.skip (count.value * 20)).rest, ?_⟩, ?_, ?_, hindex⟩
  · simp only [upgradePayload]
    rw [hall, h₁, h₂, h₃, h₄, h₅, count.next.rest_eq_take_append (count.value * 20),
      hmodule, haction₂, hchain₀, hflatten, hlength, hbytesEq]
    simp only [List.append_assoc]
    rfl
  · rw [hcut]
    exact addressesOf_mem_length (by omega)
  · -- the count lies at byte 39 and the addresses at byte 40
    have hpos : newIndex.next = ⟨payload, 39⟩ := by
      rw [hn₄, hn₃, hn₂, hn₁]
      rfl
    have hcountValue : count.value = guardianCount payload := by
      rw [hcountEq, hpos]
      rfl
    have hcountNext : count.next = ⟨payload, 40⟩ := by
      rw [hn₅, hpos]
      rfl
    rw [hcut, guardianAddresses, ← hcountValue, hbytesEq, hcountNext]
    simp only [addressesOf]
    refine List.map_congr_left fun i hi => ?_
    have := List.mem_range.mp hi
    simp only [Cursor.take, Cursor.rest]
    rw [List.drop_take, List.take_take]
    congr 1
    omega

/-- A written payload is parsed to what it names. -/
theorem parseAndVerifyGuardiansSet_upgradePayload (hk : pf.hkCursor.Lawful) {st : Storage}
    {newIndex : Nat} {addresses : List Buff} (trailing : Buff) (hcount : addresses.length ≤ 19)
    (haddresses : ∀ address ∈ addresses, address.length = 20) (hfits : newIndex < 2 ^ 32)
    (hnewer : st.activeGuardianSetId < newIndex) (hsome : addresses ≠ []) :
    parseAndVerifyGuardiansSet pf st (upgradePayload newIndex addresses trailing) =
      .ok { value := {
              guardiansEthAddresses := addresses, module := gsuModule, action := 2, chain := 0,
              newIndex },
            next := ⟨upgradePayload newIndex addresses trailing, 40 + addresses.length * 20⟩ } := by
  have hflatten := flatten_length_of_width haddresses
  have h₀ : (⟨upgradePayload newIndex addresses trailing, 0⟩ : Cursor).rest =
      gsuModule ++ (uintToBuffBe 1 2 ++ (uintToBuffBe 2 0 ++ (uintToBuffBe 4 newIndex ++
        (uintToBuffBe 1 addresses.length ++ (addresses.flatten ++ trailing))))) := by
    show upgradePayload newIndex addresses trailing = _
    simp only [upgradePayload, List.append_assoc]
    rfl
  obtain ⟨h₁, r₁⟩ := hk.readBuff32.of_rest h₀ rfl (by decide)
  obtain ⟨h₂, r₂⟩ := hk.readUint8.uint_of_rest r₁ (by decide) (by decide)
  obtain ⟨h₃, r₃⟩ := hk.readUint16.uint_of_rest r₂ (by decide) (by decide)
  obtain ⟨h₄, r₄⟩ := hk.readUint32.uint_of_rest r₃ (by simpa using hfits) (by decide)
  obtain ⟨h₅, r₅⟩ := hk.readUint8.uint_of_rest r₄ (by omega) (by decide)
  have hbytes : addresses.flatten ≠ [] := fun h => by
    rw [h, List.length_nil] at hflatten
    exact hsome (List.length_eq_zero_iff.mp (by omega))
  obtain ⟨h₆, -⟩ := hk.readSome_of_rest r₅ fun h => absurd h hbytes
  rw [hflatten] at h₆
  obtain ⟨cues, hcues, hfold⟩ := guardianFolds_return hk hflatten hcount
  rw [addressesOf_of_flatten haddresses] at hfold
  simp only [parseAndVerifyGuardiansSet, exec_bind_eq_ok, unwrap_eq_ok, asserts_eq_ok,
    exec_pure_eq_ok]
  exact ⟨_, h₁, _, h₂, _, h₃, _, h₄, _, h₅, _, h₆, cues, hcues, addresses, hfold, (), rfl, (), rfl,
    (), rfl, (), hnewer, rfl⟩

/-- The count byte of an accepted payload. -/
theorem guardianCount_eq {payload : Buff} {count : UInt8} (h : payload[39]? = some count) :
    guardianCount payload = count.toNat := by
  obtain ⟨hinside, rfl⟩ := List.getElem?_eq_some_iff.mp h
  rw [guardianCount, List.drop_eq_getElem_cons hinside, List.take_succ_cons, List.take_zero]
  simp [buffToUintBe]

/-- **Guardian-set payload decoding.** Every payload of the core module with action 2, chain 0, a
new index above the active one, 1 to 19 addresses of 20 bytes and any trailing bytes is parsed
to exactly these addresses in order, that index, and the position behind the addresses; and a
payload that is parsed at all names as many addresses as its count byte says, the `i`-th being
the 20 bytes at `40 + 20 * i`. -/
theorem guardians_payload_decoding (hk : pf.hkCursor.Lawful) (st : Storage) :
    (∀ newIndex addresses trailing, newIndex < 2 ^ 32 → st.activeGuardianSetId < newIndex →
      1 ≤ addresses.length → addresses.length ≤ 19 →
      (∀ address ∈ addresses, address.length = 20) →
      ∃ update, parseAndVerifyGuardiansSet pf st
          (gsuModule ++ [2] ++ [0, 0] ++ uintToBuffBe 4 newIndex ++
            uintToBuffBe 1 addresses.length ++ addresses.flatten ++ trailing) = .ok update ∧
        update.value.guardiansEthAddresses = addresses ∧ update.value.newIndex = newIndex ∧
        update.next.pos = 40 + 20 * addresses.length) ∧
    ∀ payload update, parseAndVerifyGuardiansSet pf st payload = .ok update →
      ∃ count : UInt8, payload[39]? = some count ∧
        update.value.guardiansEthAddresses.length = count.toNat ∧
        40 + 20 * count.toNat ≤ payload.length ∧
        ∀ i, i < count.toNat → update.value.guardiansEthAddresses[i]? =
          some ((payload.drop (40 + 20 * i)).take 20) := by
  constructor
  · -- a payload that names a newer set is parsed
    intro newIndex addresses trailing hfits hnewer hsome hcount haddresses
    have hne : addresses ≠ [] := List.ne_nil_of_length_pos hsome
    refine ⟨_, parseAndVerifyGuardiansSet_upgradePayload hk trailing hcount haddresses hfits
      hnewer hne, rfl, rfl, ?_⟩
    show 40 + addresses.length * 20 = _
    rw [Nat.mul_comm]
  · -- the other direction: the count is at byte 39, since everything in front of it has a fixed
    -- width
    intro payload update h
    obtain ⟨⟨trailing, hpayload⟩, hlengths, haddresses, -⟩ := parseAndVerifyGuardiansSet_eq_ok hk h
    have hlength : 40 + update.value.guardiansEthAddresses.length * 20 ≤ payload.length := by
      have hmodule : gsuModule.length = 32 := rfl
      have htotal := congrArg List.length hpayload
      simp only [upgradePayload, List.length_append, uintToBuffBe_length, hmodule,
        List.length_cons, List.length_nil, flatten_length_of_width hlengths] at htotal
      omega
    have hinside : 39 < payload.length := by omega
    have hcount := List.getElem?_eq_getElem hinside
    have hall : update.value.guardiansEthAddresses.length = payload[39].toNat := by
      rw [haddresses, guardianAddresses, guardianCount_eq hcount, addressesOf_length]
    refine ⟨payload[39], hcount, hall, by omega, fun i hi => ?_⟩
    rw [haddresses, guardianAddresses, guardianCount_eq hcount, addressesOf, List.getElem?_map,
      List.getElem?_range hi, Option.map_some, List.drop_drop, Nat.mul_comm]

theorem guardians_payload_decoding_twoGuardians :
    ∃ update, parseAndVerifyGuardiansSet .reference Storage.deployed
        (upgradePayload 7 [List.replicate 20 1, List.replicate 20 2] [9]) = .ok update ∧
      update.value.guardiansEthAddresses = [List.replicate 20 1, List.replicate 20 2] := by
  obtain ⟨update, hok, haddresses, -⟩ :=
    (guardians_payload_decoding Platform.reference_lawful Storage.deployed).1 7
      [List.replicate 20 1, List.replicate 20 2] [9] (by decide) (by decide) (by decide)
      (by decide) (by decide)
  exact ⟨update, hok, haddresses⟩

end Folds

end PythBridge.WormholeCore
