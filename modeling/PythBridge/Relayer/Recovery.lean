import PythBridge.Clarity.Mapping
import PythBridge.Wormhole.RoundTrip

/-!
# The relayer — recovering the guardians' keys

`compute_secp256k1_recovery_from_vaa` of the relayer takes a VAA apart by itself, without the
checks of `parse-vaa`: a read past the end leaves zeros, every declared signature is read, and a
signature that cannot be recovered panics. On every VAA that the contract parses and that declares
no more signatures than the contract reads, both recover the same keys over the same hash
(`relayer_recovers_as_contract`).

The crux is that both walk over the same bytes. A VAA that the contract parses is a header, entries
of 66 bytes and a body (`parseVaa_eq_ok`), and along such a layout the reads of the relayer never
cross the end, so its zeros do not come up (`read_of_rest`). With the same entries and the same body
the hash is the same, and what remains is that two libraries recover alike, which is assumed of them
(`Libsecp256k1.Agrees`).

* `readVaa_of_parseVaa`: the same signatures and the same body.
* `recover?_ofEntry`: the same key for one signature.
* `relayer_recovers_as_contract`: all of them, and what becomes of a signature without a key.
-/

namespace PythBridge.Relayer

open Clarity

/-! ## The standard library's cursor

`Cursor::read` fills the array as far as it gets, and the relayer does not look at how far that was.
-/

/-- `Read::read` into an array of `n` zeros: as many bytes as are left, and at most `n`. -/
def read (n : Nat) (c : Cursor) : Buff × Cursor :=
  (c.take n ++ List.replicate (n - (c.take n).length) 0, c.skip (c.take n).length)

/-! ## `libsecp256k1` -/

/-- The functions of `libsecp256k1` the relayer calls. `Message::parse` takes every 32 bytes;
what `Err` carries is not looked at. -/
structure Libsecp256k1 where
  Message : Type
  Signature : Type
  RecoveryId : Type
  PublicKey : Type
  messageParse : Buff → Message
  signatureParseStandard : Buff → Option Signature
  recoveryIdParse : UInt8 → Option RecoveryId
  recover : Message → Signature → RecoveryId → Option PublicKey
  serialize : PublicKey → Buff
  serializeCompressed : PublicKey → Buff

/-! ## The recovery

The relayer splits what the contract reads as one buffer of 65 bytes into a signature and a recovery
byte. -/

/-- A signature with its guardian, as it is pushed to `sigs`. -/
structure SignatureRead where
  guardianId : UInt8
  signature : Buff
  recoveryId : UInt8
deriving DecidableEq, Repr

/-- The signatures of a VAA, one after another. -/
def readSigs : (sigLen : Nat) → Cursor → List SignatureRead × Cursor
  | 0, cursor => ([], cursor)
  | sigLen + 1, cursor =>
    let (guardianIdBytes, cursor) := read 1 cursor
    let (signature, cursor) := read 64 cursor
    let (recoveryId, cursor) := read 1 cursor
    let (sigs, cursor) := readSigs sigLen cursor
    (⟨guardianIdBytes.headD 0, signature, recoveryId.headD 0⟩ :: sigs, cursor)

/-- The signatures and the payload that is hashed: everything behind them. -/
def readVaa (vaa : Buff) : List SignatureRead × Buff :=
  let cursor : Cursor := ⟨vaa, 0⟩
  let (_version, cursor) := read 1 cursor
  let (_magic, cursor) := read 4 cursor
  let (sigLenBytes, cursor) := read 1 cursor
  let (sigs, cursor) := readSigs (sigLenBytes.headD 0).toNat cursor
  (sigs, cursor.rest)

variable (lib : Libsecp256k1) (keccak256 : Buff → Buff)

/-- The key of one signature; `none` is a panic. -/
def recoverOne (message : lib.Message) (sig : SignatureRead) : Option (UInt8 × lib.PublicKey) := do
  let signature ← lib.signatureParseStandard sig.signature
  let recoveryId ← lib.recoveryIdParse sig.recoveryId
  let publicKey ← lib.recover message signature recoveryId
  pure (sig.guardianId, publicKey)

/-- `none` is a panic of one of the `expect`s. -/
def computeSecp256k1RecoveryFromVaa (vaa : Buff) : Option (List (UInt8 × lib.PublicKey)) :=
  let (sigs, payload) := readVaa vaa
  let payloadHash := keccak256 (keccak256 payload)
  let message := lib.messageParse payloadHash
  sigs.mapM (recoverOne lib message)

/-! ## Reads inside the VAA

A buffer that begins with a written field is read as this field. -/

section Reads

variable {c : Cursor} {field rest : Buff}

/-- A read of a field that is there is the one of the contracts' cursor. -/
theorem read_of_rest (h : c.rest = field ++ rest) {n : Nat} (hlength : field.length = n) :
    read n c = (field, c.skip n) ∧ (c.skip n).rest = rest := by
  subst hlength
  have htake := Cursor.take_of_rest h
  refine ⟨?_, Cursor.skip_of_rest h⟩
  rw [read, htake, Nat.sub_self, List.replicate_zero, List.append_nil]

theorem read_byte_of_rest {n : Nat} (h : c.rest = uintToBuffBe 1 n ++ rest) (hn : n < 2 ^ 8) :
    ((read 1 c).1.headD 0).toNat = n ∧ (read 1 c).2 = c.skip 1 ∧ (c.skip 1).rest = rest := by
  obtain ⟨hread, hrest⟩ := read_of_rest h (uintToBuffBe_length 1 n)
  refine ⟨?_, by rw [hread], hrest⟩
  rw [hread]
  show (UInt8.ofNat n).toNat = n
  rw [UInt8.toNat_ofNat']
  omega

end Reads

/-- A signature entry of the contract, as the relayer reads it. -/
def ofEntry (entry : GuardianSignature) : SignatureRead where
  guardianId := UInt8.ofNat entry.guardianId
  signature := entry.signature.take 64
  recoveryId := (entry.signature.drop 64).headD 0

/-- Signature and recovery byte together are the contract's signature. -/
theorem ofEntry_signature {entry : GuardianSignature} (h : entry.signature.length = 65) :
    (ofEntry entry).signature ++ [(ofEntry entry).recoveryId] = entry.signature := by
  obtain ⟨last, hlast⟩ : ∃ last, entry.signature.drop 64 = [last] := by
    refine List.length_eq_one_iff.mp ?_
    rw [List.length_drop, h]
  rw [ofEntry, hlast]
  exact (congrArg _ hlast.symm).trans (List.take_append_drop 64 entry.signature)

/-- The written signatures are read, and the cursor stops behind them. -/
theorem readSigs_of_rest (signatures : List GuardianSignature) :
    ∀ (c : Cursor) (rest : Buff),
      c.rest = signatures.flatMap WormholeCore.signatureBytes ++ rest →
      (∀ entry ∈ signatures, entry.guardianId < 2 ^ 8 ∧ entry.signature.length = 65) →
      (readSigs signatures.length c).1 = signatures.map ofEntry ∧
        (readSigs signatures.length c).2.rest = rest := by
  induction signatures with
  | nil => exact fun c rest hrest _ => ⟨rfl, hrest⟩
  | cons entry signatures ih =>
    intro c rest hrest hfits
    obtain ⟨hid, hlength⟩ := hfits entry (.head _)
    -- an entry is three fields for the relayer and two for the contract
    have r₀ : c.rest = uintToBuffBe 1 entry.guardianId ++ (entry.signature.take 64 ++
        (entry.signature.drop 64 ++
          (signatures.flatMap WormholeCore.signatureBytes ++ rest))) := by
      rw [hrest, List.flatMap_cons, WormholeCore.signatureBytes,
        ← List.append_assoc (entry.signature.take 64), List.take_append_drop]
      simp only [List.append_assoc]
    obtain ⟨hguardianId, r₁⟩ := read_of_rest r₀ (uintToBuffBe_length 1 _)
    obtain ⟨hsignature, r₂⟩ := read_of_rest r₁
      (show (entry.signature.take 64).length = 64 by rw [List.length_take]; omega)
    obtain ⟨hrecoveryId, r₃⟩ := read_of_rest r₂
      (show (entry.signature.drop 64).length = 1 by rw [List.length_drop]; omega)
    obtain ⟨hsigs, hlast⟩ := ih _ _ r₃ fun other hother => hfits other (.tail _ hother)
    rw [List.length_cons, readSigs]
    simp only [hguardianId, hsignature, hrecoveryId, hsigs, hlast, List.map_cons, and_true]
    rfl

/-- **The relayer reads a VAA as the contract does**, when no more signatures are declared than
the contract reads. -/
theorem readVaa_of_parseVaa {pf : Platform} (hk : pf.hkCursor.Lawful) {vaaBytes : Buff}
    {message : WormholeCore.ParsedVaa} (h : WormholeCore.parseVaa pf vaaBytes = .ok message)
    (hcount : message.vaa.signaturesLen ≤ 19) :
    readVaa vaaBytes =
      (message.vaa.signatures.map ofEntry, WormholeCore.bodyBytes message.vaa) := by
  have hfits := WormholeCore.parseVaa_fitsWire hk h
  obtain ⟨hlayout, -, hlength⟩ := WormholeCore.parseVaa_eq_ok hk h
  -- at most 19 are declared, so the contract has read them all
  have hall : message.vaa.signatures.length = message.vaa.signaturesLen := by omega
  have r₀ : (⟨vaaBytes, 0⟩ : Cursor).rest = uintToBuffBe 1 message.vaa.version ++
      (uintToBuffBe 4 message.vaa.guardianSetId ++ (uintToBuffBe 1 message.vaa.signaturesLen ++
        (message.vaa.signatures.flatMap WormholeCore.signatureBytes ++
          WormholeCore.bodyBytes message.vaa))) := by
    show vaaBytes = _
    rw [hlayout, WormholeCore.headerBytes]
    simp only [List.append_assoc]
  obtain ⟨hversion, r₁⟩ := read_of_rest r₀ (uintToBuffBe_length 1 _)
  obtain ⟨hmagic, r₂⟩ := read_of_rest r₁ (uintToBuffBe_length 4 _)
  obtain ⟨hsigLen, hnext, r₃⟩ := read_byte_of_rest r₂ hfits.signaturesLen
  obtain ⟨hsigs, hbody⟩ := readSigs_of_rest _ _ _ r₃ hfits.signatures
  rw [hall] at hsigs hbody
  simp only [readVaa, hversion, hmagic, hsigLen, hnext, hsigs, hbody]

/-! ## The same keys

The relayer stops at a signature that has no key, the contract leaves it out. -/

/-- `libsecp256k1` and the VM recover keys alike: from a signature of 64 bytes and its recovery
byte both get the same key, or neither gets one. -/
structure Libsecp256k1.Agrees (lib : Libsecp256k1) (pf : Platform) : Prop where
  recovers : ∀ hash sig key, sig.signature.length = 64 →
    recoverOne lib (lib.messageParse hash) sig = some (sig.guardianId, key) →
      pf.secp256k1Recover hash (sig.signature ++ [sig.recoveryId]) =
        .ok (lib.serializeCompressed key)
  fails : ∀ hash sig, sig.signature.length = 64 →
    recoverOne lib (lib.messageParse hash) sig = none →
      ∃ code, pf.secp256k1Recover hash (sig.signature ++ [sig.recoveryId]) = .error code

/-- A recovered key as the contract keeps it. -/
def toRecoveredKey (key : UInt8 × lib.PublicKey) : WormholeCore.RecoveredKey where
  recoveredCompressedPublicKey := lib.serializeCompressed key.2
  guardianId := key.1.toNat

variable {lib}

/-- The guardian's id goes through unchanged. -/
theorem recoverOne_guardianId {message : lib.Message} {sig : SignatureRead}
    {key : UInt8 × lib.PublicKey} (h : recoverOne lib message sig = some key) :
    key.1 = sig.guardianId := by
  simp only [recoverOne, Option.bind_eq_bind, Option.bind_eq_some_iff, Option.pure_def,
    Option.some_inj] at h
  obtain ⟨_, _, _, _, _, _, rfl⟩ := h
  rfl

/-- One entry: the relayer and the contract recover the same, or both nothing. -/
theorem recover?_ofEntry {pf : Platform} (hlib : lib.Agrees pf) (hash : Buff)
    {entry : GuardianSignature} (hid : entry.guardianId < 2 ^ 8)
    (hlength : entry.signature.length = 65) :
    WormholeCore.recover? pf hash entry =
      (recoverOne lib (lib.messageParse hash) (ofEntry entry)).map (toRecoveredKey lib) := by
  have hwhole := ofEntry_signature hlength
  have hsignature : (ofEntry entry).signature.length = 64 := by
    rw [ofEntry, List.length_take]
    omega
  have hguardian : (ofEntry entry).guardianId.toNat = entry.guardianId := by
    show (UInt8.ofNat entry.guardianId).toNat = _
    rw [UInt8.toNat_ofNat']
    omega
  -- the same split on both sides: a key, or none
  cases hone : recoverOne lib (lib.messageParse hash) (ofEntry entry) with
  | none =>
    obtain ⟨code, hcode⟩ := hlib.fails hash _ hsignature hone
    rw [hwhole] at hcode
    rw [WormholeCore.recover?, hcode]
    rfl
  | some key =>
    obtain ⟨guardianId, publicKey⟩ := key
    obtain rfl : guardianId = (ofEntry entry).guardianId := recoverOne_guardianId hone
    have hkey := hlib.recovers hash _ _ hsignature hone
    rw [hwhole] at hkey
    rw [WormholeCore.recover?, hkey, Option.map_some, toRecoveredKey, hguardian]

/-- Where `f` and `g` agree up to `e`, and `f` yields every value, `g` keeps all of them. -/
theorem filterMap_eq_map_of_forall₂ {α β γ : Type} {f : α → Option β} {g : α → Option γ}
    {e : β → γ} {xs : List α} {ys : List β} (h : List.Forall₂ (fun x y => f x = some y) xs ys)
    (hagree : ∀ x ∈ xs, g x = (f x).map e) : xs.filterMap g = ys.map e := by
  induction h with
  | nil => rfl
  | cons hxy _ ih =>
    rw [List.filterMap_cons, hagree _ (.head _), hxy, List.map_cons,
      ← ih fun x hx => hagree x (.tail _ hx)]
    rfl

/-- **The relayer recovers what the contract recovers.** On a VAA that the contract parses and
that declares at most 19 signatures: when the relayer returns, its keys are the recovered keys of
the contract, one for each signature and in order; and it panics exactly when the contract drops
a signature as unrecoverable. -/
theorem relayer_recovers_as_contract {pf : Platform} (hk : pf.hkCursor.Lawful)
    (hlib : lib.Agrees pf) {vaaBytes : Buff} {message : WormholeCore.ParsedVaa}
    (h : WormholeCore.parseVaa pf vaaBytes = .ok message)
    (hcount : message.vaa.signaturesLen ≤ 19) :
    (∀ keys, computeSecp256k1RecoveryFromVaa lib pf.keccak256 vaaBytes = some keys →
      message.recoveredPublicKeys = keys.map (toRecoveredKey lib) ∧
        keys.length = message.vaa.signaturesLen) ∧
    (computeSecp256k1RecoveryFromVaa lib pf.keccak256 vaaBytes = none ↔
      message.recoveredPublicKeys.length < message.vaa.signaturesLen) := by
  have hfits := WormholeCore.parseVaa_fitsWire hk h
  obtain ⟨-, hrecovered, hlength⟩ := WormholeCore.parseVaa_eq_ok hk h
  have hall : message.vaa.signatures.length = message.vaa.signaturesLen := by omega
  have hcompute : computeSecp256k1RecoveryFromVaa lib pf.keccak256 vaaBytes =
      (message.vaa.signatures.map ofEntry).mapM (recoverOne lib
        (lib.messageParse (WormholeCore.digest pf message.vaa))) := by
    rw [computeSecp256k1RecoveryFromVaa, readVaa_of_parseVaa hk h hcount]
    rfl
  have hentry : ∀ entry ∈ message.vaa.signatures,
      WormholeCore.recover? pf (WormholeCore.digest pf message.vaa) entry =
        (recoverOne lib (lib.messageParse (WormholeCore.digest pf message.vaa))
          (ofEntry entry)).map (toRecoveredKey lib) := fun entry hmem =>
    recover?_ofEntry hlib _ (hfits.signatures entry hmem).1 (hfits.signatures entry hmem).2
  rw [hcompute, hrecovered, ← hall]
  constructor
  · -- every signature has a key, so the contract drops none
    intro keys hkeys
    have hforall := List.forall₂_map_left_iff.mp (mapM_eq_some.mp hkeys)
    exact ⟨filterMap_eq_map_of_forall₂ hforall hentry, hforall.length_eq.symm⟩
  · -- a list is shorter after a filter exactly when an entry has been dropped
    have hnone : (message.vaa.signatures.map ofEntry).mapM (recoverOne lib
        (lib.messageParse (WormholeCore.digest pf message.vaa))) = none ↔
          ∃ entry ∈ message.vaa.signatures, recoverOne lib
            (lib.messageParse (WormholeCore.digest pf message.vaa)) (ofEntry entry) = none := by
      rw [← Option.not_isSome_iff_eq_none, Option.isSome_iff_exists, exists_mapM_eq_some,
        List.forall_mem_map]
      simp only [not_forall, not_exists, exists_prop]
      refine exists_congr fun entry => and_congr_right fun _ => ?_
      exact Option.eq_none_iff_forall_ne_some.symm
    rw [List.length_filterMap_lt_length_iff_exists, hnone]
    simp only [exists_prop]
    refine exists_congr fun entry => and_congr_right fun hmem => ?_
    rw [hentry entry hmem, Option.map_eq_none_iff]

/-- A library that recovers as the reference platform does. -/
def Libsecp256k1.reference : Libsecp256k1 where
  Message := Buff
  Signature := Buff
  RecoveryId := UInt8
  PublicKey := Buff
  messageParse := id
  signatureParseStandard := some
  recoveryIdParse := some
  recover message signature recoveryId :=
    (Platform.reference.secp256k1Recover message (signature ++ [recoveryId])).toOption
  serialize := id
  serializeCompressed := id

theorem Libsecp256k1.reference_agrees : reference.Agrees .reference where
  recovers hash sig key _ h := by
    simp only [recoverOne, reference, Option.bind_eq_bind, Option.bind_some, id] at h
    cases hrecover : Platform.reference.secp256k1Recover hash (sig.signature ++ [sig.recoveryId])
    · rw [hrecover] at h
      cases h
    · rw [hrecover] at h
      cases h
      rfl
  fails hash sig _ h := by
    simp only [recoverOne, reference, Option.bind_eq_bind, Option.bind_some, id] at h
    cases hrecover : Platform.reference.secp256k1Recover hash (sig.signature ++ [sig.recoveryId])
    · exact ⟨_, rfl⟩
    · rw [hrecover] at h
      cases h

/-- The contract drops the first of the two signatures, and the relayer panics on it. -/
theorem relayer_recovers_as_contract_twoSignatures :
    computeSecp256k1RecoveryFromVaa .reference Platform.reference.keccak256
      (WormholeCore.headerBytes (WormholeCore.vaaWith WormholeCore.twoSignatures) ++
        WormholeCore.bodyBytes (WormholeCore.vaaWith WormholeCore.twoSignatures)) = none := by
  have hparsed : WormholeCore.parseVaa .reference
      (WormholeCore.headerBytes (WormholeCore.vaaWith WormholeCore.twoSignatures) ++
        WormholeCore.bodyBytes (WormholeCore.vaaWith WormholeCore.twoSignatures)) =
      .ok ⟨WormholeCore.vaaWith WormholeCore.twoSignatures, [⟨List.replicate 33 2, 3⟩]⟩ := by
    decide +kernel
  exact (relayer_recovers_as_contract Platform.reference_lawful
    Libsecp256k1.reference_agrees hparsed (by decide)).2.mpr (by decide)

end PythBridge.Relayer
