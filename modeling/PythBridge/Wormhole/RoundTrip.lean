import PythBridge.Wormhole.Layout

/-!
# Writing and parsing a VAA

`parse-vaa` undoes the serialization `headerBytes ++ bodyBytes` of every VAA with at most 19
signatures. The converse needs the same bound: the fold over 19 slots stops there whatever the
length byte says, and what it has not read is taken for the body.

Together with `Layout` this makes `parse-vaa` a bijection between well-formed buffers and VAAs that
fit the wire. Two exceptions are visible in the hypotheses:

* an empty payload: `read-buff-8192-max` reads everything up to the end, and whether it can read
  *nothing* there is up to the cursor contract, so `parseVaa_serialized` asks for a payload.
* more than 19 signatures declared: `parseVaa_wellFormed_iff` shows that this is exactly where
  parsing and writing stop being inverse. The signatures past the nineteenth are then read as the
  first bytes of the body, and it is this body that is hashed.
-/

namespace PythBridge.WormholeCore

open Clarity

variable {pf : Platform}

/-- The fields of a VAA fit their places on the wire. -/
structure FitsWire (vaa : Vaa) : Prop where
  version : vaa.version < 2 ^ 8
  guardianSetId : vaa.guardianSetId < 2 ^ 32
  signaturesLen : vaa.signaturesLen < 2 ^ 8
  signatures : ∀ entry ∈ vaa.signatures, entry.guardianId < 2 ^ 8 ∧ entry.signature.length = 65
  timestamp : vaa.timestamp < 2 ^ 32
  nonce : vaa.nonce < 2 ^ 32
  emitterChain : vaa.emitterChain < 2 ^ 16
  emitterAddress : vaa.emitterAddress.length = 32
  sequence : vaa.sequence < 2 ^ 64
  consistencyLevel : vaa.consistencyLevel < 2 ^ 8

/-! ## The folds on written signatures

The same two folds as in `Layout`, from the other side: what has to be there for every step to be
taken. -/

/-- The signature fold reads back what was written, as long as the slots and the result have
room for it. Induction on the slots. -/
theorem foldlM_batchReadSignatures_of_rest (hk : pf.hkCursor.Lawful) (steps : Nat) :
    ∀ (next : Cursor) (value signatures : List GuardianSignature) (rest : Buff),
      next.rest = signatures.flatMap signatureBytes ++ rest → signatures.length ≤ steps →
      value.length + signatures.length ≤ 19 →
      (∀ entry ∈ signatures, entry.guardianId < 2 ^ 8 ∧ entry.signature.length = 65) →
      ∃ last : Cursor, (List.replicate steps 0).foldlM (batchReadSignatures pf)
          { next, iter := signatures.length, value } =
            .ok { next := last, iter := 0, value := value ++ signatures } ∧
        last.rest = rest := by
  -- one step reads one entry, as long as there are declared ones
  induction steps with
  | zero =>
    intro next value signatures rest hrest hsteps _ _
    have hnil : signatures = [] := List.length_eq_zero_iff.mp (Nat.le_zero.mp hsteps)
    subst hnil
    exact ⟨next, by rw [List.append_nil]; rfl, hrest⟩
  | succ steps ih =>
    intro next value signatures rest hrest hsteps hroom hfits
    rw [List.replicate_succ, List.foldlM_cons]
    -- nothing is left to read and the slot does nothing, or the next entry is read
    cases signatures with
    | nil =>
      obtain ⟨last, hfold, hlast⟩ := ih next value [] rest hrest (Nat.zero_le _) hroom
        (fun _ h => by cases h)
      refine ⟨last, ?_, hlast⟩
      rw [batchReadSignatures, if_pos List.length_nil]
      exact hfold
    | cons entry signatures =>
      obtain ⟨hid, hsignature⟩ := hfits entry (.head _)
      rw [List.flatMap_cons, signatureBytes, List.append_assoc, List.append_assoc] at hrest
      obtain ⟨hread, hrest⟩ := hk.readUint8.uint_of_rest hrest (by simpa using hid) (by decide)
      obtain ⟨hread', hrest⟩ := hk.readBuff65.of_rest hrest hsignature (by decide)
      obtain ⟨last, hfold, hlast⟩ := ih ((next.skip 1).skip 65)
        (value ++ [entry]) signatures rest hrest
        (Nat.le_of_succ_le_succ hsteps)
        (by rw [List.length_append, List.length_singleton]; rw [List.length_cons] at hroom; omega)
        (fun e he => hfits e (.tail _ he))
      refine ⟨last, ?_, hlast⟩
      have hstep : batchReadSignatures pf
          { next, iter := (entry :: signatures).length, value } 0 =
            .ok { next := (next.skip 1).skip 65, iter := signatures.length,
                  value := value ++ [entry] } := by
        refine batchReadSignatures_of_reads ⟨next, (entry :: signatures).length, value⟩
          (Nat.succ_ne_zero _) hread hread' ?_ 0
        show value.length < 19
        rw [List.length_cons] at hroom
        omega
      rw [hstep]
      rw [List.append_assoc, List.singleton_append] at hfold
      exact hfold

/-- A step with room in the result is taken, whether a key is recovered or not. -/
theorem batchRecoverPublicKeys_of_room {messageHash : Buff} {value : List RecoveredKey}
    (entry : GuardianSignature) (hroom : value.length < 19) :
    batchRecoverPublicKeys pf messageHash value entry =
      .ok ((recover? pf messageHash entry).elim value fun key => value ++ [key]) := by
  unfold batchRecoverPublicKeys recover?
  rw [unwrapPanicOpt_eq_ok, asMaxLen?_eq_some]
  -- a signature without a key is left out
  cases pf.secp256k1Recover messageHash entry.signature with
  | error code => exact ⟨Nat.le_of_lt hroom, rfl⟩
  | ok publicKey =>
    refine ⟨?_, rfl⟩
    show (value ++ [_]).length ≤ 19
    rw [List.length_append, List.length_singleton]
    omega

/-- The recovery fold on as many signatures as the result has room for. -/
theorem foldlM_batchRecoverPublicKeys_of_room {messageHash : Buff}
    {signatures : List GuardianSignature} (hroom : signatures.length ≤ 19) :
    signatures.foldlM (batchRecoverPublicKeys pf messageHash) [] =
      .ok (signatures.filterMap (recover? pf messageHash)) := by
  have hroom' : ([] : List RecoveredKey).length + signatures.length ≤ 19 := by
    rw [List.length_nil]
    omega
  refine Eq.trans (foldlM_of_room (fun entry _ _ => batchRecoverPublicKeys_of_room entry)
    (fun _ _ => Nat.le_of_eq List.length_append) hroom') ?_
  rw [foldl_append_singleton, List.nil_append]

/-! ## Parsing what was written

The reads are followed one by one; each leaves the rest of the bytes for the next. -/

/-- A serialized VAA parses to its fields. -/
theorem parseVaa_of_fitsWire (hk : pf.hkCursor.Lawful) {vaa : Vaa} (hfits : FitsWire vaa)
    (hlen : vaa.signaturesLen = vaa.signatures.length) (hcount : vaa.signatures.length ≤ 19)
    (hpayload : vaa.payload ≠ []) :
    parseVaa pf (headerBytes vaa ++ bodyBytes vaa) =
      .ok ⟨vaa, vaa.signatures.filterMap (recover? pf (digest pf vaa))⟩ := by
  have h₀ : (⟨headerBytes vaa ++ bodyBytes vaa, 0⟩ : Cursor).rest =
      uintToBuffBe 1 vaa.version ++ (uintToBuffBe 4 vaa.guardianSetId ++
        (uintToBuffBe 1 vaa.signaturesLen ++
          (vaa.signatures.flatMap signatureBytes ++ bodyBytes vaa))) := by
    show headerBytes vaa ++ bodyBytes vaa = _
    simp only [headerBytes, List.append_assoc]
  -- the header
  obtain ⟨h₁, r₁⟩ := hk.readUint8.uint_of_rest h₀ (by simpa using hfits.version) (by decide)
  obtain ⟨h₂, r₂⟩ := hk.readUint32.uint_of_rest r₁ (by simpa using hfits.guardianSetId) (by decide)
  obtain ⟨h₃, r₃⟩ := hk.readUint8.uint_of_rest r₂ (by simpa using hfits.signaturesLen) (by decide)
  obtain ⟨start, h₄, r₄⟩ := foldlM_batchReadSignatures_of_rest hk 19 _ [] vaa.signatures
    (bodyBytes vaa) r₃ hcount (by simpa using hcount) hfits.signatures
  rw [← hlen, List.nil_append] at h₄
  -- the body, as a whole and field by field
  have hbodyBytes : bodyBytes vaa ≠ [] := fun h => by
    have hlength := congrArg List.length h
    simp only [bodyBytes, List.length_append, uintToBuffBe_length, List.length_nil] at hlength
    omega
  obtain ⟨body, h₅, hbody⟩ := hk.readAll_of_rest r₄ hbodyBytes
  have r₅ : start.rest = uintToBuffBe 4 vaa.timestamp ++ (uintToBuffBe 4 vaa.nonce ++
      (uintToBuffBe 2 vaa.emitterChain ++ (vaa.emitterAddress ++ (uintToBuffBe 8 vaa.sequence ++
        (uintToBuffBe 1 vaa.consistencyLevel ++ vaa.payload))))) := by
    rw [r₄]
    simp only [bodyBytes, List.append_assoc]
  obtain ⟨h₆, r₆⟩ := hk.readUint32.uint_of_rest r₅ (by simpa using hfits.timestamp) (by decide)
  obtain ⟨h₇, r₇⟩ := hk.readUint32.uint_of_rest r₆ (by simpa using hfits.nonce) (by decide)
  obtain ⟨h₈, r₈⟩ := hk.readUint16.uint_of_rest r₇ (by simpa using hfits.emitterChain) (by decide)
  obtain ⟨h₉, r₉⟩ := hk.readBuff32.of_rest r₈ hfits.emitterAddress (by decide)
  obtain ⟨h₁₀, r₁₀⟩ := hk.readUint64.uint_of_rest r₉ (by simpa using hfits.sequence) (by decide)
  obtain ⟨h₁₁, r₁₁⟩ := hk.readUint8.uint_of_rest r₁₀ (by simpa using hfits.consistencyLevel)
    (by decide)
  obtain ⟨payload, h₁₂, hpayloadRead⟩ := hk.readAll_of_rest r₁₁ hpayload
  -- every signature has room in the result for its key
  have h₁₃ : vaa.signatures.foldlM (batchRecoverPublicKeys pf
      (pf.keccak256 (pf.keccak256 body.value))) [] =
        .ok (vaa.signatures.filterMap (recover? pf (digest pf vaa))) := by
    rw [hbody]
    exact foldlM_batchRecoverPublicKeys_of_room hcount
  simp only [parseVaa, exec_bind_eq_ok, unwrap_eq_ok, exec_pure_eq_ok]
  refine ⟨_, h₁, _, h₂, _, h₃, _, h₄, _, h₅, _, h₆, _, h₇, _, h₈, _, h₉, _, h₁₀, _, h₁₁, _, h₁₂,
    _, h₁₃, ?_⟩
  rw [hpayloadRead]
  rfl

/-- **Parsing undoes writing.** For every VAA whose fields fit the wire, with at most 19
signatures and a payload, `parse-vaa` on the serialization returns exactly the VAA, and the
keys that the signatures over the body recover to, in order and with their guardian ids; a
signature that recovers to no key is left out. -/
theorem parseVaa_serialized (hk : pf.hkCursor.Lawful) {vaa : Vaa} (hfits : FitsWire vaa)
    (hlen : vaa.signaturesLen = vaa.signatures.length) (hcount : vaa.signatures.length ≤ 19)
    (hpayload : vaa.payload ≠ []) :
    parseVaa pf (headerBytes vaa ++ bodyBytes vaa) =
      .ok { vaa, recoveredPublicKeys := vaa.signatures.filterMap fun entry =>
        (pf.secp256k1Recover (pf.keccak256 (pf.keccak256 (bodyBytes vaa))) entry.signature).toOption
          |>.map (⟨·, entry.guardianId⟩) } := by
  have hkeys : (fun entry : GuardianSignature =>
      (pf.secp256k1Recover (pf.keccak256 (pf.keccak256 (bodyBytes vaa))) entry.signature).toOption
        |>.map (⟨·, entry.guardianId⟩)) = recover? pf (digest pf vaa) := by
    funext entry
    unfold recover?
    show Option.map _ (pf.secp256k1Recover (digest pf vaa) entry.signature).toOption = _
    cases pf.secp256k1Recover (digest pf vaa) entry.signature <;> rfl
  rw [hkeys]
  exact parseVaa_of_fitsWire hk hfits hlen hcount hpayload

/-! ### A closed input -/

/-- A VAA with the given signatures, for closed runs. -/
def vaaWith (signatures : List GuardianSignature) : Vaa where
  version := 1
  guardianSetId := 0
  signaturesLen := signatures.length
  signatures
  timestamp := 7
  nonce := 0
  emitterChain := 1
  emitterAddress := List.replicate 32 0
  sequence := 2
  consistencyLevel := 1
  payload := [9]

/-- The first of two signatures recovers to no key, the second to a key of its guardian. -/
def twoSignatures : List GuardianSignature :=
  [⟨0, List.replicate 65 0⟩, ⟨3, List.replicate 33 2 ++ digest .reference (vaaWith [])⟩]

theorem parseVaa_serialized_twoSignatures :
    parseVaa .reference
      (headerBytes (vaaWith twoSignatures) ++ bodyBytes (vaaWith twoSignatures)) =
      .ok ⟨vaaWith twoSignatures, [⟨List.replicate 33 2, 3⟩]⟩ := by
  have hfits : FitsWire (vaaWith twoSignatures) := by
    constructor <;> decide +kernel
  rw [parseVaa_serialized Platform.reference_lawful hfits rfl (by decide) (by decide)]
  decide +kernel

/-! ## Writing back what was parsed

What is read from a field fits it, so every parsed VAA fits the wire. What may fail is that all
declared signatures were read. -/

/-- The number of signatures a buffer declares. -/
def declaredSignatures (vaaBytes : Buff) : Nat := buffToUintBe ((vaaBytes.drop 5).take 1)

/-- Every signature that is read fits its place. -/
theorem batchReadSignatures_fits (hk : pf.hkCursor.Lawful) {acc acc' : ReadSignaturesAcc}
    {slot : Nat} (h : batchReadSignatures pf acc slot = .ok acc')
    (hacc : ∀ entry ∈ acc.value, entry.guardianId < 2 ^ 8 ∧ entry.signature.length = 65) :
    ∀ entry ∈ acc'.value, entry.guardianId < 2 ^ 8 ∧ entry.signature.length = 65 := by
  unfold batchReadSignatures at h
  split at h
  · cases h
    exact hacc
  · simp only [exec_bind_eq_ok, unwrapPanic_eq_ok, unwrapPanicOpt_eq_ok, asMaxLen?_eq_some,
      exec_pure_eq_ok] at h
    obtain ⟨guardianId, hguardianId, signature, hsignature, _, ⟨-, rfl⟩, rfl⟩ := h
    obtain ⟨-, -, hid, -⟩ := hk.readUint8.uint hguardianId
    obtain ⟨-, -, hlength, -⟩ := hk.readBuff65.buff hsignature
    intro entry hentry
    -- an entry from before, or the one that was read just now
    rcases List.mem_append.mp hentry with hentry | hentry
    · exact hacc entry hentry
    · rw [List.mem_singleton.mp hentry]
      exact ⟨hid, hlength⟩

/-- Every parsed VAA fits the wire. -/
theorem parseVaa_fitsWire (hk : pf.hkCursor.Lawful) {vaaBytes : Buff} {message : ParsedVaa}
    (h : parseVaa pf vaaBytes = .ok message) : FitsWire message.vaa := by
  simp only [parseVaa, exec_bind_eq_ok, unwrap_eq_ok, exec_pure_eq_ok] at h
  obtain ⟨version, hversion, guardianSetId, hguardianSetId, signaturesLen, hsignaturesLen,
    signatures, hsignatures, body, hbody, timestamp, htimestamp, nonce, hnonce, emitterChain,
    hemitterChain, emitterAddress, hemitterAddress, sequence, hsequence, consistencyLevel,
    hconsistencyLevel, payload, hpayload, publicKeys, hpublicKeys, rfl⟩ := h
  exact {
    version := (hk.readUint8.uint hversion).2.2.1
    guardianSetId := (hk.readUint32.uint hguardianSetId).2.2.1
    signaturesLen := (hk.readUint8.uint hsignaturesLen).2.2.1
    signatures := foldlM_invariant (fun _ _ _ => batchReadSignatures_fits hk) hsignatures
      (fun _ hentry => by cases hentry)
    timestamp := (hk.readUint32.uint htimestamp).2.2.1
    nonce := (hk.readUint32.uint hnonce).2.2.1
    emitterChain := (hk.readUint16.uint hemitterChain).2.2.1
    emitterAddress := (hk.readBuff32.buff hemitterAddress).2.2.1
    sequence := (hk.readUint64.uint hsequence).2.2.1
    consistencyLevel := (hk.readUint8.uint hconsistencyLevel).2.2.1 }

/-- A header takes 6 bytes, and 66 for every signature. -/
theorem FitsWire.headerBytes_length {vaa : Vaa} (h : FitsWire vaa) :
    (headerBytes vaa).length = 6 + 66 * vaa.signatures.length := by
  have hsignatures : (vaa.signatures.flatMap signatureBytes).length =
      66 * vaa.signatures.length := by
    rw [List.length_flatMap, List.map_congr_left (g := fun _ => 66), List.map_const',
      List.sum_replicate_nat, Nat.mul_comm]
    intro entry hentry
    rw [signatureBytes, List.length_append, uintToBuffBe_length, (h.signatures entry hentry).2]
  rw [headerBytes, List.length_append, hsignatures]
  simp only [List.length_append, uintToBuffBe_length]

/-- The length byte lies at byte 5. -/
theorem FitsWire.declaredSignatures_eq {vaa : Vaa} (h : FitsWire vaa) (body : Buff) :
    declaredSignatures (headerBytes vaa ++ body) = vaa.signaturesLen := by
  have hlength : (uintToBuffBe 1 vaa.version ++ uintToBuffBe 4 vaa.guardianSetId).length = 5 := by
    rw [List.length_append, uintToBuffBe_length, uintToBuffBe_length]
  have hdrop : (headerBytes vaa ++ body).drop 5 =
      uintToBuffBe 1 vaa.signaturesLen ++ (vaa.signatures.flatMap signatureBytes ++ body) := by
    rw [headerBytes, List.append_assoc, List.append_assoc, ← hlength, List.drop_left]
  rw [declaredSignatures, hdrop, List.take_left' (uintToBuffBe_length 1 _),
    buffToUintBe_uintToBuffBe (by simpa using h.signaturesLen)]

/-- **When a parsed VAA is well formed.** For a buffer that `parse-vaa` accepts: as many
signatures as declared were read, the body starts behind them, and writing the result gives
the buffer back, exactly when at most 19 signatures are declared. -/
theorem parseVaa_wellFormed_iff (hk : pf.hkCursor.Lawful) {vaaBytes : Buff} {message : ParsedVaa}
    (h : parseVaa pf vaaBytes = .ok message) :
    (message.vaa.signatures.length = message.vaa.signaturesLen ∧
      vaaBytes.drop (6 + 66 * message.vaa.signaturesLen) = bodyBytes message.vaa ∧
      headerBytes message.vaa ++ bodyBytes message.vaa = vaaBytes) ↔
    declaredSignatures vaaBytes ≤ 19 := by
  have hfits := parseVaa_fitsWire hk h
  obtain ⟨hlayout, -, hlength⟩ := parseVaa_eq_ok hk h
  have hdeclared : declaredSignatures vaaBytes = message.vaa.signaturesLen := by
    rw [hlayout, hfits.declaredSignatures_eq]
  constructor
  · rintro ⟨hall, -⟩
    omega
  · -- at most 19 are declared, so the fold has read them all
    intro hle
    have hall : message.vaa.signatures.length = message.vaa.signaturesLen := by omega
    refine ⟨hall, ?_, hlayout.symm⟩
    rw [hlayout, ← hall, ← hfits.headerBytes_length, List.drop_left]

theorem parseVaa_wellFormed_iff_twoSignatures :
    ∃ message, parseVaa .reference
        (headerBytes (vaaWith twoSignatures) ++ bodyBytes (vaaWith twoSignatures)) = .ok message ∧
      message.vaa.signatures.length = message.vaa.signaturesLen := by
  have hok : parseVaa .reference
      (headerBytes (vaaWith twoSignatures) ++ bodyBytes (vaaWith twoSignatures)) =
        .ok ⟨vaaWith twoSignatures, [⟨List.replicate 33 2, 3⟩]⟩ := by
    decide +kernel
  refine ⟨_, hok, ((parseVaa_wellFormed_iff Platform.reference_lawful hok).mpr ?_).1⟩
  decide +kernel

/-- With 20 signatures declared and present, 19 are read and the body starts at the twentieth:
the buffer is accepted, and what the guardians would have signed is not its body. -/
theorem twentySignatures_not_wellFormed :
    let vaaBytes := headerBytes (vaaWith (List.replicate 20 ⟨0, List.replicate 65 0⟩)) ++
      bodyBytes (vaaWith (List.replicate 20 ⟨0, List.replicate 65 0⟩))
    ∃ message, parseVaa .reference vaaBytes = .ok message ∧ message.vaa.signaturesLen = 20 ∧
      message.vaa.signatures.length = 19 ∧
      vaaBytes.drop (6 + 66 * message.vaa.signaturesLen) ≠ bodyBytes message.vaa ∧
      ¬ (message.vaa.signatures.length = message.vaa.signaturesLen ∧
        vaaBytes.drop (6 + 66 * message.vaa.signaturesLen) = bodyBytes message.vaa ∧
        headerBytes message.vaa ++ bodyBytes message.vaa = vaaBytes) := by
  intro vaaBytes
  have hparsed : (parseVaa .reference vaaBytes).map (fun message =>
      (message.vaa.signaturesLen, message.vaa.signatures.length,
        decide (vaaBytes.drop (6 + 66 * 20) = bodyBytes message.vaa))) = .ok (20, 19, false) := by
    decide +kernel
  cases hok : parseVaa .reference vaaBytes with
  | error e =>
    rw [hok] at hparsed
    cases hparsed
  | ok message =>
    rw [hok, Except.map, Except.ok.injEq, Prod.mk.injEq, Prod.mk.injEq] at hparsed
    obtain ⟨hdeclared, hread, hbody⟩ := hparsed
    have hne := of_decide_eq_false hbody
    rw [← hdeclared] at hne
    exact ⟨message, rfl, hdeclared, hread, hne, fun h => hne h.2.1⟩

end PythBridge.WormholeCore
