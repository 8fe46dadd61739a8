import PythBridge.Wormhole.Core

/-!
# The layout of a VAA

What `parse-vaa` has read when it returns: the buffer is a header with the signatures
(`headerBytes`) followed by the body (`bodyBytes`), the part the guardians sign, and the
recovered keys belong to the digest of exactly that body.

The module goes one way only, from a successful parse to the bytes. It is what makes "the guardians
signed this message" a statement about the message: a signature is checked against a hash, and the
hash is taken of the very bytes that the fields were read from.

* **`foldlM_batchReadSignatures`** — the signature fold reads entries one after another, as many as
  are declared and at most as many as there are slots.
* **`foldlM_batchRecoverPublicKeys`** — the recovery fold keeps what can be recovered.
* **`parseVaa_eq_ok`** — both together, with the fields of the body.

The converse, that what is written is parsed, is in `RoundTrip`.
-/

namespace PythBridge.WormholeCore

open Clarity

/-! ## Serialization

The fields of a VAA at their width on the wire, in order, without the length of what follows: a
payload goes up to the end. -/

/-- One entry: the index of the guardian in a byte, and the signature. -/
def signatureBytes (entry : GuardianSignature) : Buff :=
  uintToBuffBe 1 entry.guardianId ++ entry.signature

/-- The part in front of the body, which no signature covers. -/
def headerBytes (vaa : Vaa) : Buff :=
  uintToBuffBe 1 vaa.version ++ uintToBuffBe 4 vaa.guardianSetId ++
    uintToBuffBe 1 vaa.signaturesLen ++ vaa.signatures.flatMap signatureBytes

/-- The body of a VAA: what the guardians sign. -/
def bodyBytes (vaa : Vaa) : Buff :=
  uintToBuffBe 4 vaa.timestamp ++ uintToBuffBe 4 vaa.nonce ++ uintToBuffBe 2 vaa.emitterChain ++
    vaa.emitterAddress ++ uintToBuffBe 8 vaa.sequence ++ uintToBuffBe 1 vaa.consistencyLevel ++
    vaa.payload

section Layout

variable {pf : Platform}

/-- What the guardians sign: the body, hashed twice. -/
def digest (pf : Platform) (vaa : Vaa) : Buff := pf.keccak256 (pf.keccak256 (bodyBytes vaa))

/-- The key an entry's signature recovers to, with the entry's guardian id. -/
def recover? (pf : Platform) (messageHash : Buff) (entry : GuardianSignature) :
    Option RecoveredKey :=
  match pf.secp256k1Recover messageHash entry.signature with
  | .ok publicKey => some ⟨publicKey, entry.guardianId⟩
  | .error _ => none

/-- A key is recovered for the guardian that the entry names, and for no other. -/
theorem recover?_eq_some {messageHash : Buff} {entry : GuardianSignature} {key : RecoveredKey} :
    recover? pf messageHash entry = some key ↔
      pf.secp256k1Recover messageHash entry.signature = .ok key.recoveredCompressedPublicKey ∧
        entry.guardianId = key.guardianId := by
  unfold recover?
  cases pf.secp256k1Recover messageHash entry.signature with
  | error code => simp
  | ok publicKey => cases key; simp

/-! ## The folds of `parse-vaa`

Each fold is compared with a function of lists: reading one entry after another, and a `filterMap`.
-/

/-- One step with an entry left to read. -/
theorem batchReadSignatures_of_reads (acc : ReadSignaturesAcc) {entry : GuardianSignature}
    {next last : Cursor} (hmore : acc.iter ≠ 0)
    (hguardianId : pf.hkCursor.readUint8 acc.next = .ok ⟨entry.guardianId, next⟩)
    (hsignature : pf.hkCursor.readBuff65 next = .ok ⟨entry.signature, last⟩)
    (hroom : acc.value.length < 19) (slot : Nat) :
    batchReadSignatures pf acc slot =
      .ok { next := last, iter := acc.iter - 1, value := acc.value ++ [entry] } := by
  rw [batchReadSignatures, if_neg hmore]
  simp only [exec_bind_eq_ok, unwrapPanic_eq_ok, unwrapPanicOpt_eq_ok, asMaxLen?_eq_some,
    exec_pure_eq_ok]
  refine ⟨_, hguardianId, _, hsignature, _, ⟨?_, rfl⟩, rfl⟩
  rw [List.length_append, List.length_singleton]
  exact hroom

/-- The signature fold reads one entry a step while entries are left to read. Induction on the
steps. -/
theorem foldlM_batchReadSignatures (hk : pf.hkCursor.Lawful) (steps : Nat) :
    ∀ (acc acc' : ReadSignaturesAcc),
      (List.replicate steps 0).foldlM (batchReadSignatures pf) acc = .ok acc' →
      ∃ signatures, acc'.value = acc.value ++ signatures ∧
        signatures.length = min steps acc.iter ∧
        acc.next.rest = signatures.flatMap signatureBytes ++ acc'.next.rest := by
  induction steps with
  | zero =>
    intro acc acc' h
    cases h
    exact ⟨[], by simp, by simp, rfl⟩
  | succ steps ih =>
    intro acc acc' h
    simp only [List.replicate_succ, List.foldlM_cons, exec_bind_eq_ok] at h
    obtain ⟨acc₁, hstep, h⟩ := h
    obtain ⟨signatures, hvalue, hlength, hrest⟩ := ih acc₁ acc' h
    unfold batchReadSignatures at hstep
    -- all declared entries are read and the slot does nothing, or it reads the next one
    split at hstep
    · next hdone =>
      cases hstep
      simp only at hvalue hlength hrest
      exact ⟨signatures, hvalue, by omega, hrest⟩
    · next hmore =>
      simp only [exec_bind_eq_ok, unwrapPanic_eq_ok, unwrapPanicOpt_eq_ok, asMaxLen?_eq_some,
        exec_pure_eq_ok] at hstep
      obtain ⟨guardianId, hguardianId, signature, hsignature, _, ⟨-, rfl⟩, rfl⟩ := hstep
      obtain ⟨-, -, -, hbytes⟩ := hk.readUint8.uint hguardianId
      obtain ⟨-, -, -, hbytes'⟩ := hk.readBuff65.buff hsignature
      simp only at hvalue hlength hrest
      refine ⟨⟨guardianId.value, signature.value⟩ :: signatures, ?_, ?_, ?_⟩
      · rw [hvalue, List.append_assoc, List.singleton_append]
      · rw [List.length_cons, hlength]
        omega
      · rw [hbytes, hbytes', hrest, List.flatMap_cons, signatureBytes]
        simp only [List.append_assoc]

/-- A step of the recovery fold that returns added the recovered key, if there is one. -/
theorem batchRecoverPublicKeys_eq_ok {messageHash : Buff} {value value' : List RecoveredKey}
    {entry : GuardianSignature}
    (h : batchRecoverPublicKeys pf messageHash value entry = .ok value') :
    value' = (recover? pf messageHash entry).elim value fun key => value ++ [key] := by
  simp only [batchRecoverPublicKeys, unwrapPanicOpt_eq_ok, asMaxLen?_eq_some] at h
  obtain ⟨-, rfl⟩ := h
  unfold recover?
  cases pf.secp256k1Recover messageHash entry.signature <;> rfl

/-- The recovery fold keeps what can be recovered, in order. -/
theorem foldlM_batchRecoverPublicKeys {messageHash : Buff} {signatures : List GuardianSignature}
    {value value' : List RecoveredKey}
    (h : signatures.foldlM (batchRecoverPublicKeys pf messageHash) value = .ok value') :
    value' = value ++ signatures.filterMap (recover? pf messageHash) := by
  have hvalue := foldlM_eq_foldl_filterMap h fun _ _ _ => batchRecoverPublicKeys_eq_ok
  rw [hvalue, foldl_append_singleton]

/-! ## What was parsed -/

/-- **The layout of a parsed VAA.** The buffer is header and body, and the recovered keys are
those of the listed signatures over the digest of that body. -/
theorem parseVaa_eq_ok (hk : pf.hkCursor.Lawful) {vaaBytes : Buff} {message : ParsedVaa}
    (h : parseVaa pf vaaBytes = .ok message) :
    vaaBytes = headerBytes message.vaa ++ bodyBytes message.vaa ∧
      message.recoveredPublicKeys =
        message.vaa.signatures.filterMap (recover? pf (digest pf message.vaa)) ∧
      message.vaa.signatures.length = min 19 message.vaa.signaturesLen := by
  simp only [parseVaa, exec_bind_eq_ok, unwrap_eq_ok, exec_pure_eq_ok] at h
  obtain ⟨version, hversion, guardianSetId, hguardianSetId, signaturesLen, hsignaturesLen,
    signatures, hsignatures, body, hbody, timestamp, htimestamp, nonce, hnonce, emitterChain,
    hemitterChain, emitterAddress, hemitterAddress, sequence, hsequence, consistencyLevel,
    hconsistencyLevel, payload, hpayload, publicKeys, hpublicKeys, rfl⟩ := h
  obtain ⟨-, -, -, h₁⟩ := hk.readUint8.uint hversion
  obtain ⟨-, -, -, h₂⟩ := hk.readUint32.uint hguardianSetId
  obtain ⟨-, -, -, h₃⟩ := hk.readUint8.uint hsignaturesLen
  obtain ⟨entries, hentries, hlength, h₄⟩ := foldlM_batchReadSignatures hk 19 _ _ hsignatures
  obtain ⟨-, hbodyValue⟩ := hk.readBuff8192Max_none _ _ hbody
  obtain ⟨-, -, -, h₅⟩ := hk.readUint32.uint htimestamp
  obtain ⟨-, -, -, h₆⟩ := hk.readUint32.uint hnonce
  obtain ⟨-, -, -, h₇⟩ := hk.readUint16.uint hemitterChain
  obtain ⟨-, -, -, h₈⟩ := hk.readBuff32.buff hemitterAddress
  obtain ⟨-, -, -, h₉⟩ := hk.readUint64.uint hsequence
  obtain ⟨-, -, -, h₁₀⟩ := hk.readUint8.uint hconsistencyLevel
  obtain ⟨-, hpayloadValue⟩ := hk.readBuff8192Max_none _ _ hpayload
  simp only [List.nil_append] at hentries
  -- the rest at the start of the body is the serialized body
  have hrest : signatures.next.rest = uintToBuffBe 4 timestamp.value ++
      uintToBuffBe 4 nonce.value ++ uintToBuffBe 2 emitterChain.value ++ emitterAddress.value ++
      uintToBuffBe 8 sequence.value ++ uintToBuffBe 1 consistencyLevel.value ++
      payload.value := by
    rw [h₅, h₆, h₇, h₈, h₉, h₁₀, hpayloadValue]
    simp only [List.append_assoc]
  -- the bytes are put together again from the reads; the hash was taken of the rest at `signatures`
  refine ⟨?_, ?_, ?_⟩
  · have hall : vaaBytes = (⟨vaaBytes, 0⟩ : Cursor).rest := rfl
    simp only [headerBytes, bodyBytes]
    rw [hall, h₁, h₂, h₃, h₄, hrest, hentries]
    simp only [List.append_assoc]
  · rw [foldlM_batchRecoverPublicKeys hpublicKeys, List.nil_append]
    simp only [digest, bodyBytes]
    rw [hbodyValue, hrest]
  · simp only [hentries]
    exact hlength

end Layout

end PythBridge.WormholeCore
