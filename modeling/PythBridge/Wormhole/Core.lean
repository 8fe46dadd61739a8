import PythBridge.Storage

/-!
# `wormhole-core-v2`

VAA parsing, signature checking and the rotation of guardian sets, function by function.

A *VAA* (Verified Action Approval) is a message with the signatures of guardians of another network.
`parse-vaa` reads it and recovers the public key behind every signature; `parse-and-verify-vaa` also
compares these keys with the stored guardian set and asks for a quorum. `update-guardians-set` is
the only function that writes: it takes a VAA whose payload names the addresses of the next
guardians, and the public keys that hash to them.

The definitions follow the source line by line, with its names and its order of checks. Three things
in that order are visible from outside and kept here:

* signatures are read, and keys recovered, by folds over fixed lists of 19 slots. What does not fit
  a slot aborts (`unwrap-panic`) instead of returning one of the errors below.
* the guardian of a signature is looked up with `unwrap-panic` before the version is checked, so an
  index that is out of range aborts whatever the version is.
* before the first guardian set is stored, an upgrade is parsed and not verified.
-/

namespace PythBridge.WormholeCore

open Clarity

/-! ## Constants

The error responses of the source, in its order. A code that no function returns is listed too. -/

def errVaaParsingVersion : Nat := 1001
def errVaaParsingGuardianSet : Nat := 1002
def errVaaParsingSignaturesLen : Nat := 1003
def errVaaParsingSignatures : Nat := 1004
def errVaaParsingTimestamp : Nat := 1005
def errVaaParsingNonce : Nat := 1006
def errVaaParsingEmitterChain : Nat := 1007
def errVaaParsingEmitterAddress : Nat := 1008
def errVaaParsingSequence : Nat := 1009
def errVaaParsingConsistencyLevel : Nat := 1010
def errVaaParsingPayload : Nat := 1011
def errVaaHashingBody : Nat := 1012
def errVaaChecksVersionUnsupported : Nat := 1101
def errVaaChecksThresholdSignature : Nat := 1102
def errVaaChecksRedundantSignature : Nat := 1103
def errVaaChecksGuardianSetConsistency : Nat := 1105
def errGsuParsingModule : Nat := 1201
def errGsuParsingAction : Nat := 1202
def errGsuParsingChain : Nat := 1203
def errGsuParsingIndex : Nat := 1204
def errGsuParsingGuardianLen : Nat := 1205
def errGsuParsingGuardiansBytes : Nat := 1206
def errGsuUncompressedPublicKeys : Nat := 1207
def errGsuCheckModule : Nat := 1301
def errGsuCheckAction : Nat := 1302
def errGsuCheckChain : Nat := 1303
def errGsuCheckIndex : Nat := 1304
def errGsuCheckEmitter : Nat := 1305

/-- The `ERR_VAA_*` responses. `ERR_VAA_PARSING_SIGNATURES` and
`ERR_VAA_CHECKS_REDUNDANT_SIGNATURE` are declared and returned nowhere. -/
def vaaErrors : List Nat :=
  [errVaaParsingVersion, errVaaParsingGuardianSet, errVaaParsingSignaturesLen,
    errVaaParsingSignatures, errVaaParsingTimestamp, errVaaParsingNonce,
    errVaaParsingEmitterChain, errVaaParsingEmitterAddress, errVaaParsingSequence,
    errVaaParsingConsistencyLevel, errVaaParsingPayload, errVaaHashingBody,
    errVaaChecksVersionUnsupported, errVaaChecksThresholdSignature,
    errVaaChecksRedundantSignature, errVaaChecksGuardianSetConsistency]

/-- The `ERR_GSU_*` responses. -/
def gsuErrors : List Nat :=
  [errGsuParsingModule, errGsuParsingAction, errGsuParsingChain, errGsuParsingIndex,
    errGsuParsingGuardianLen, errGsuParsingGuardiansBytes, errGsuUncompressedPublicKeys,
    errGsuCheckModule, errGsuCheckAction, errGsuCheckChain, errGsuCheckIndex,
    errGsuCheckEmitter]

/-- Guardian set upgrade emitting address. -/
def gsuEmittingAddress : Buff := List.replicate 31 0 ++ [4]

/-- Guardian set upgrade emitting chain. -/
def gsuEmittingChain : Nat := 1

/-- The module `Core` a guardian set upgrade must name. -/
def gsuModule : Buff := List.replicate 28 0 ++ [0x43, 0x6f, 0x72, 0x65]

/-- The storage of a fresh deployment: no guardian set yet. -/
def Storage.deployed : Storage where
  guardianSetInitialized := false
  activeGuardianSetId := 0
  guardianSets := fun _ => none

/-! ## VAA

A cursor runs over the bytes, and every field is read from where the one in front of it ended. -/

section Functions

variable (pf : Platform)

/-- The accumulator of the signature fold: where to read on, how many entries are left, and those
read. -/
structure ReadSignaturesAcc where
  next : Cursor
  iter : Nat
  value : List GuardianSignature

/-- Reads one signature while `iter` counts down; the folded `uint` is not used. -/
def batchReadSignatures (acc : ReadSignaturesAcc) (_entry : Nat) : Exec ReadSignaturesAcc :=
  if acc.iter = 0 then
    -- the entries that were declared are read, and the other slots do nothing
    .ok { iter := 0, next := acc.next, value := acc.value }
  else do
    let cursorGuardianId ← unwrapPanic (pf.hkCursor.readUint8 acc.next)
    let cursorSignature ← unwrapPanic (pf.hkCursor.readBuff65 cursorGuardianId.next)
    let value ← unwrapPanicOpt (asMaxLen?
      (acc.value ++ [⟨cursorGuardianId.value, cursorSignature.value⟩]) 19)
    pure { iter := acc.iter - 1, next := cursorSignature.next, value }

/-- A public key recovered from a signature entry, with the guardian id of the entry. -/
structure RecoveredKey where
  recoveredCompressedPublicKey : Buff
  guardianId : Nat
deriving DecidableEq, Repr

/-- Recovers the key of one signature over `messageHash`; an unrecoverable one is skipped. -/
def batchRecoverPublicKeys (messageHash : Buff) (value : List RecoveredKey)
    (entry : GuardianSignature) : Exec (List RecoveredKey) :=
  let updatedPublicKeys :=
    match pf.secp256k1Recover messageHash entry.signature with
    | .ok publicKey => value ++ [⟨publicKey, entry.guardianId⟩]
    | .error _ => value
  unwrapPanicOpt (asMaxLen? updatedPublicKeys 19)

/-- A parsed VAA with the keys that its signatures recover to. -/
structure ParsedVaa where
  vaa : Vaa
  recoveredPublicKeys : List RecoveredKey
deriving DecidableEq, Repr

/-- `parse-vaa`. The body is read twice from one position: as a whole to be hashed, and field by
field. -/
def parseVaa (vaaBytes : Buff) : Exec ParsedVaa := do
  let cursorVersion ← unwrap (pf.hkCursor.readUint8 ⟨vaaBytes, 0⟩) errVaaParsingVersion
  let cursorGuardianSetId ← unwrap (pf.hkCursor.readUint32 cursorVersion.next)
    errVaaParsingGuardianSet
  let cursorSignaturesLen ← unwrap (pf.hkCursor.readUint8 cursorGuardianSetId.next)
    errVaaParsingSignaturesLen
  let cursorSignatures ← (List.replicate 19 0).foldlM (batchReadSignatures pf)
    { next := cursorSignaturesLen.next, value := [], iter := cursorSignaturesLen.value }
  -- the body is everything behind the signatures that were read
  let vaaBody ← unwrap (pf.hkCursor.readBuff8192Max cursorSignatures.next none)
    errVaaHashingBody
  let vaaBodyHash := pf.keccak256 (pf.keccak256 vaaBody.value)
  let cursorTimestamp ← unwrap (pf.hkCursor.readUint32 cursorSignatures.next)
    errVaaParsingTimestamp
  let cursorNonce ← unwrap (pf.hkCursor.readUint32 cursorTimestamp.next) errVaaParsingNonce
  let cursorEmitterChain ← unwrap (pf.hkCursor.readUint16 cursorNonce.next)
    errVaaParsingEmitterChain
  let cursorEmitterAddress ← unwrap (pf.hkCursor.readBuff32 cursorEmitterChain.next)
    errVaaParsingEmitterAddress
  let cursorSequence ← unwrap (pf.hkCursor.readUint64 cursorEmitterAddress.next)
    errVaaParsingSequence
  let cursorConsistencyLevel ← unwrap (pf.hkCursor.readUint8 cursorSequence.next)
    errVaaParsingConsistencyLevel
  let cursorPayload ← unwrap (pf.hkCursor.readBuff8192Max cursorConsistencyLevel.next none)
    errVaaParsingPayload
  let publicKeysResults ← cursorSignatures.value.foldlM
    (batchRecoverPublicKeys pf vaaBodyHash) []
  pure {
    vaa := {
      version := cursorVersion.value
      guardianSetId := cursorGuardianSetId.value
      signaturesLen := cursorSignaturesLen.value
      signatures := cursorSignatures.value
      timestamp := cursorTimestamp.value
      nonce := cursorNonce.value
      emitterChain := cursorEmitterChain.value
      emitterAddress := cursorEmitterAddress.value
      sequence := cursorSequence.value
      consistencyLevel := cursorConsistencyLevel.value
      payload := cursorPayload.value }
    recoveredPublicKeys := publicKeysResults }

/-- Keeps a recovered key that is the stored key of the guardian it is attributed to and
was not kept before. A guardian id past the end of the set aborts. -/
def batchCheckActivePublicKeys (activeGuardians : List GuardianKeys) (result : List Buff)
    (entry : RecoveredKey) : Exec (List Buff) := do
  -- an index that the set does not have aborts
  let guardian ← unwrapPanicOpt activeGuardians[entry.guardianId]?
  if entry.recoveredCompressedPublicKey = guardian.compressedPublicKey ∧
      result.idxOf? entry.recoveredCompressedPublicKey = none then
    unwrapPanicOpt (asMaxLen? (result ++ [entry.recoveredCompressedPublicKey]) 19)
  else pure result

/-- Two thirds of the guardians, rounded down, and one more. -/
def getQuorum (guardianSetSize : Nat) : Nat := guardianSetSize * 2 / 3 + 1

/-- `parse-and-verify-vaa`: the VAA names the active set, and enough of its guardians have signed.
-/
def parseAndVerifyVaa (st : Storage) (vaaBytes : Buff) : Exec Vaa := do
  let message ← parseVaa pf vaaBytes
  -- Ensure that the guardian-set-id is the active one
  asserts (message.vaa.guardianSetId = st.activeGuardianSetId)
    errVaaChecksGuardianSetConsistency
  let activeGuardians ← unwrapOpt (st.guardianSets message.vaa.guardianSetId)
    errVaaChecksGuardianSetConsistency
  let signaturesFromActiveGuardians ← message.recoveredPublicKeys.foldlM
    (batchCheckActivePublicKeys activeGuardians) []
  -- Ensure that version is supported (v1 only)
  asserts (message.vaa.version = 1) errVaaChecksVersionUnsupported
  -- Ensure that the count of valid signatures reaches the quorum
  asserts (getQuorum activeGuardians.length ≤ signaturesFromActiveGuardians.length)
    errVaaChecksThresholdSignature
  pure message.vaa

/-! ## Guardian sets

An upgrade names addresses, the caller supplies keys. A key is stored for the guardian at its
position when it hashes to the address there, and an empty key is stored when it does not. -/

/-- Compresses a 64-byte key to 33 bytes; the empty key stays empty. -/
def compressPublicKey (uncompressedPublicKey : Buff) : Exec Buff :=
  if [] = uncompressedPublicKey then .ok []
  else do
    let xCoordinate ← unwrapPanicOpt (slice? uncompressedPublicKey 0 32)
    let yLastByte ← unwrapPanicOpt uncompressedPublicKey[63]?
    let yCoordinateParity := buffToUintBe [yLastByte]
    unwrapPanicOpt (asMaxLen?
      ((if yCoordinateParity % 2 = 0 then [0x02] else [0x03]) ++ xCoordinate) 33)

/-- An Ethereum address is the last 20 bytes of the hash of the key. -/
def isEthAddressMatchingPublicKey (uncompressedPublicKey ethAddress : Buff) : Exec Bool := do
  let hash ← unwrapPanicOpt (slice? (pf.keccak256 uncompressedPublicKey) 12 32)
  pure (hash = ethAddress)

/-- The accumulator of `check-and-consolidate-public-keys`; the addresses do not change. -/
structure ConsolidateAcc where
  cursor : Nat
  result : List GuardianKeys

/-- Pairs the next address with the next key; a key more than there are addresses aborts. -/
def checkAndConsolidatePublicKeys (ethAddresses : List Buff) (acc : ConsolidateAcc)
    (uncompressedPublicKey : Buff) : Exec ConsolidateAcc := do
  let ethAddress ← unwrapPanicOpt ethAddresses[acc.cursor]?
  let compressedPublicKey ← compressPublicKey uncompressedPublicKey
  let isMatching ← isEthAddressMatchingPublicKey pf uncompressedPublicKey ethAddress
  -- a key that does not match is not refused: its guardian gets no key
  let entry : GuardianKeys :=
    if isMatching then ⟨compressedPublicKey, uncompressedPublicKey⟩ else ⟨[], []⟩
  let result ← unwrapPanicOpt (asMaxLen? (acc.result ++ [entry]) 19)
  pure { cursor := acc.cursor + 1, result }

/-- The position in the bytes, and the positions at which an address starts. -/
structure GuardianCueAcc where
  cursor : Nat
  result : List Nat

/-- Every position divisible by 20 is the start of an address. -/
def isGuardianCue (acc : GuardianCueAcc) (_byte : UInt8) : Exec GuardianCueAcc :=
  if acc.cursor % 20 = 0 then do
    let result ← unwrapPanicOpt (asMaxLen? (acc.result ++ [acc.cursor]) 19)
    pure { cursor := acc.cursor + 1, result }
  else .ok { cursor := acc.cursor + 1, result := acc.result }

/-- Reads the address at one of these positions. -/
def parseGuardian (bytes : Buff) (result : List Buff) (cuePosition : Nat) :
    Exec (List Buff) := do
  let cursorAddressBytes ← unwrapPanic (pf.hkCursor.readBuff20 ⟨bytes, cuePosition⟩)
  unwrapPanicOpt (asMaxLen? (result ++ [cursorAddressBytes.value]) 19)

/-- What the payload of an upgrade says. -/
structure GuardiansSetUpdate where
  guardiansEthAddresses : List Buff
  module : Buff
  action : Nat
  chain : Nat
  newIndex : Nat
deriving DecidableEq, Repr

/-- `parse-and-verify-guardians-set`: module, action, chain and the new index, and the addresses. -/
def parseAndVerifyGuardiansSet (st : Storage) (bytes : Buff) :
    Exec (Read GuardiansSetUpdate) := do
  let cursorModule ← unwrap (pf.hkCursor.readBuff32 ⟨bytes, 0⟩) errGsuParsingModule
  let cursorAction ← unwrap (pf.hkCursor.readUint8 cursorModule.next) errGsuParsingAction
  let cursorChain ← unwrap (pf.hkCursor.readUint16 cursorAction.next) errGsuParsingChain
  let cursorNewIndex ← unwrap (pf.hkCursor.readUint32 cursorChain.next) errGsuParsingIndex
  let cursorGuardiansCount ← unwrap (pf.hkCursor.readUint8 cursorNewIndex.next)
    errGsuParsingGuardianLen
  let guardiansBytes ← unwrap (pf.hkCursor.readBuff8192Max cursorGuardiansCount.next
    (some (cursorGuardiansCount.value * 20))) errGsuParsingGuardiansBytes
  let guardiansCues ← guardiansBytes.value.foldlM isGuardianCue { cursor := 0, result := [] }
  let ethAddresses ← guardiansCues.result.foldlM (parseGuardian pf guardiansBytes.value) []
  -- Ensure that this message was emitted from authorized module
  asserts (cursorModule.value = gsuModule) errGsuCheckModule
  -- Ensure that this message is matching the adequate action
  asserts (cursorAction.value = 2) errGsuCheckAction
  asserts (cursorChain.value = 0) errGsuCheckChain
  -- Ensure that next index > current index
  asserts (st.activeGuardianSetId < cursorNewIndex.value) errGsuCheckIndex
  pure {
    value := {
      guardiansEthAddresses := ethAddresses
      module := cursorModule.value
      action := cursorAction.value
      chain := cursorChain.value
      newIndex := cursorNewIndex.value }
    next := ⟨bytes, cursorGuardiansCount.next.pos + cursorGuardiansCount.value * 20⟩ }

/-- What `update-guardians-set` returns. -/
structure GuardiansSetUpdated where
  vaa : Vaa
  guardiansEthAddresses : List Buff
  guardiansPublicKeys : List Buff
deriving DecidableEq, Repr

/-- The body of `update-guardians-set`. Before the first set is stored the VAA is only
parsed. -/
def updateGuardiansSet (guardianSetVaa : Buff) (uncompressedPublicKeys : List Buff) :
    Contract Storage GuardiansSetUpdated := do
  let vaa ← .readOnly fun st =>
    if st.guardianSetInitialized then parseAndVerifyVaa pf st guardianSetVaa
    else do
      let message ← parseVaa pf guardianSetVaa
      pure message.vaa
  let cursorGuardiansData ← .readOnly fun st => parseAndVerifyGuardiansSet pf st vaa.payload
  let setId := cursorGuardiansData.value.newIndex
  let ethAddresses := cursorGuardiansData.value.guardiansEthAddresses
  let consolidatedPublicKeys ← .lift (uncompressedPublicKeys.foldlM
    (checkAndConsolidatePublicKeys pf ethAddresses) { cursor := 0, result := [] })
  -- Ensure that enough uncompressed-public-keys were provided
  -- only the numbers are compared; whether a key matches its address was decided in the fold
  .lift (asserts (uncompressedPublicKeys.length = ethAddresses.length)
    errGsuUncompressedPublicKeys)
  -- Check emitting address and chain
  .lift (asserts (vaa.emitterAddress = gsuEmittingAddress) errGsuCheckEmitter)
  .lift (asserts (vaa.emitterChain = gsuEmittingChain) errGsuCheckEmitter)
  -- Update storage
  .modify fun st => { st with
    guardianSets := st.guardianSets.set setId consolidatedPublicKeys.result }
  .modify fun st => { st with activeGuardianSetId := setId }
  .modify fun st => { st with guardianSetInitialized := true }
  pure {
    vaa
    guardiansEthAddresses := ethAddresses
    guardiansPublicKeys := uncompressedPublicKeys }

/-- The active set with its id. -/
structure ActiveGuardianSet where
  setId : Nat
  guardians : List GuardianKeys
deriving DecidableEq, Repr

/-- `get-active-guardian-set`: it aborts as long as there is none. -/
def getActiveGuardianSet (st : Storage) : Exec ActiveGuardianSet := do
  let guardians ← unwrapPanicOpt (st.guardianSets st.activeGuardianSetId)
  pure { setId := st.activeGuardianSetId, guardians }

end Functions

end PythBridge.WormholeCore
