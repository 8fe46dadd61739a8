import PythBridge.Pyth.Governance

/-!
# `pyth-pnau-decoder-v1`

Decodes Pythnet accumulator updates (PNAU): a header, a VAA that carries a Merkle root, and
price updates with their proofs against that root.

The bytes of an update are not signed. What is signed is the root in the VAA, and `check-proof` ties
an update to it through the *leaf*, the bytes of its message. The decoder therefore reads each
message twice: field by field for the values, and as a slice of its declared size for the leaf. That
the fields lie inside the slice is not checked; where it fails is the subject of `DecoderRecords`.

Records have no index, so they are found by a fold over all bytes that jumps from start to start
(`Clarity.Walk`). Everything in that fold panics on malformed input.
-/

namespace PythBridge.PnauDecoder

open Clarity

/-! ## Constants -/

/-- `PNAU`: Pyth Network Accumulator Update. -/
def pnauMagic : Buff := hex "504e4155"

/-- `AUWV`: Accumulator Update Wormhole Verification. -/
def auwvMagic : Buff := hex "41555756"

def pythnetMajorVersion : Nat := 1
def pythnetMinorVersion : Nat := 0

def errMagicBytes : Nat := 2001
def errVersionMaj : Nat := 2002
def errVersionMin : Nat := 2003
def errHeaderTrailingSize : Nat := 2004
def errProofType : Nat := 2005
def errUpdateType : Nat := 2006
def errInvalidAuwv : Nat := 2007
def merkleRootMismatch : Nat := 2008
def errUnauthorizedPriceUpdate : Nat := 2401

section Functions

variable (pf : Platform)

/-! ## Header and Merkle root

Both parsers read all their fields first and check them afterwards. -/

/-- The header of an update. -/
structure PnauHeader where
  magic : Buff
  versionMaj : Nat
  versionMin : Nat
  headerTrailingSize : Nat
  proofType : Nat
deriving DecidableEq, Repr

/-- `parse-pnau-header`. The trailing header bytes are skipped, whatever they are. -/
def parsePnauHeader (pfBytes : Buff) : Exec (Read PnauHeader) := do
  let cursorMagic ← unwrap (pf.hkCursor.readBuff4 ⟨pfBytes, 0⟩) errMagicBytes
  let cursorVersionMaj ← unwrap (pf.hkCursor.readUint8 cursorMagic.next) errVersionMaj
  let cursorVersionMin ← unwrap (pf.hkCursor.readUint8 cursorVersionMaj.next) errVersionMin
  let cursorHeaderTrailingSize ← unwrap (pf.hkCursor.readUint8 cursorVersionMin.next)
    errHeaderTrailingSize
  let cursorProofType ← unwrap (pf.hkCursor.readUint8
    ⟨pfBytes, cursorHeaderTrailingSize.next.pos + cursorHeaderTrailingSize.value⟩) errProofType
  -- Check magic bytes
  asserts (cursorMagic.value = pnauMagic) errMagicBytes
  -- Check major and minor version
  asserts (cursorVersionMaj.value = pythnetMajorVersion) errVersionMaj
  asserts (cursorVersionMin.value = pythnetMinorVersion) errVersionMin
  -- Check proof type
  asserts (cursorProofType.value = 0) errProofType
  pure {
    value := {
      magic := cursorMagic.value
      versionMaj := cursorVersionMaj.value
      versionMin := cursorVersionMin.value
      headerTrailingSize := cursorHeaderTrailingSize.value
      proofType := cursorProofType.value }
    next := cursorProofType.next }

/-- The payload of the VAA. -/
structure MerkleRootData where
  merkleRootSlot : Nat
  merkleRootRingSize : Nat
  merkleRootHash : Buff
  payloadType : Buff
deriving DecidableEq, Repr

/-- `parse-merkle-root-data-from-vaa-payload`. -/
def parseMerkleRootDataFromVaaPayload (payloadVaaBytes : Buff) : Exec (Read MerkleRootData) := do
  let cursorPayloadType ← unwrap (pf.hkCursor.readBuff4 ⟨payloadVaaBytes, 0⟩) errInvalidAuwv
  let cursorWhUpdateType ← unwrap (pf.hkCursor.readUint8 cursorPayloadType.next) errInvalidAuwv
  let cursorMerkleRootSlot ← unwrap (pf.hkCursor.readUint64 cursorWhUpdateType.next)
    errInvalidAuwv
  let cursorMerkleRootRingSize ← unwrap (pf.hkCursor.readUint32 cursorMerkleRootSlot.next)
    errInvalidAuwv
  let cursorMerkleRootHash ← unwrap (pf.hkCursor.readBuff20 cursorMerkleRootRingSize.next)
    errInvalidAuwv
  -- Check payload type
  asserts (cursorPayloadType.value = auwvMagic) errMagicBytes
  -- Check update type
  -- the error here is that of the proof type
  asserts (cursorWhUpdateType.value = 0) errProofType
  pure {
    value := {
      merkleRootSlot := cursorMerkleRootSlot.value
      merkleRootRingSize := cursorMerkleRootRingSize.value
      merkleRootHash := cursorMerkleRootHash.value
      payloadType := cursorPayloadType.value }
    next := cursorMerkleRootHash.next }

/-! ## Price updates

A record is the size of its message, the message, the number of hashes in its proof, and the hashes.
-/

/-- A decoded price update with the leaf and the proof that authenticate it. -/
structure DecodedPriceUpdate where
  priceIdentifier : Buff
  price : Int
  conf : Nat
  expo : Int
  publishTime : Nat
  prevPublishTime : Nat
  emaPrice : Int
  emaConf : Nat
  proof : List Buff
  leafBytes : Buff
deriving DecidableEq, Repr

/-- `check-merkle-proof`: all proofs so far, and this one. -/
def checkMerkleProof (merkleRootHash : Buff) (result : Bool) (entry : DecodedPriceUpdate) :
    Bool :=
  result && pf.checkProof merkleRootHash entry.leafBytes entry.proof

/-- One step of the walk over the hashes of a proof, 20 bytes each. -/
def parseProof (bytes : Buff) (limit : Nat) (acc : WalkAcc Buff) (_entry : UInt8) :
    Exec (WalkAcc Buff) :=
  if acc.result.length = limit then pure acc
  else if acc.index = acc.nextUpdateIndex then do
    -- Parse update
    let cursorHash := pf.hkCursor.new bytes (some acc.index)
    let hash ← unwrapPanic (pf.hkCursor.readBuff20 cursorHash.next)
    let result ← unwrapPanicOpt (asMaxLen? (acc.result ++ [hash.value]) 128)
    pure { index := acc.index + 1, nextUpdateIndex := acc.index + 20, result }
  else
    -- Increment position
    pure { index := acc.index + 1, nextUpdateIndex := acc.nextUpdateIndex, result := acc.result }

/-- One step of the walk over the update records. The fields are read one after another from
the message type on; the leaf is sliced from the same place with the declared message size,
and the proof follows where that size says the message ends. -/
def parsePriceInfoAndProof (bytes : Buff) (limit : Nat) (acc : WalkAcc DecodedPriceUpdate)
    (_entry : UInt8) : Exec (WalkAcc DecodedPriceUpdate) :=
  if acc.result.length = limit then pure acc
  else if acc.index = acc.nextUpdateIndex then do
    -- Parse update
    let cursorUpdate := pf.hkCursor.new bytes (some acc.index)
    let cursorMessageSize ← unwrapPanic (pf.hkCursor.readUint16 cursorUpdate.next)
    let cursorMessageType ← unwrapPanic (pf.hkCursor.readUint8 cursorMessageSize.next)
    let cursorPriceIdentifier ← unwrapPanic (pf.hkCursor.readBuff32 cursorMessageType.next)
    let cursorPrice ← unwrapPanic (pf.hkCursor.readInt64 cursorPriceIdentifier.next)
    let cursorConf ← unwrapPanic (pf.hkCursor.readUint64 cursorPrice.next)
    let cursorExpo ← unwrapPanic (pf.hkCursor.readInt32 cursorConf.next)
    let cursorPublishTime ← unwrapPanic (pf.hkCursor.readUint64 cursorExpo.next)
    let cursorPrevPublishTime ← unwrapPanic (pf.hkCursor.readUint64 cursorPublishTime.next)
    let cursorEmaPrice ← unwrapPanic (pf.hkCursor.readInt64 cursorPrevPublishTime.next)
    let cursorEmaConf ← unwrapPanic (pf.hkCursor.readUint64 cursorEmaPrice.next)
    let cursorProof := pf.hkCursor.advance cursorMessageSize.next cursorMessageSize.value
    let cursorProofSize ← unwrapPanic (pf.hkCursor.readUint8 cursorProof)
    let proofBytes := pf.hkCursor.slice cursorProofSize.next (some (20 * cursorProofSize.value))
    let leafBytes := pf.hkCursor.slice cursorMessageSize.next (some cursorMessageSize.value)
    let proof ← proofBytes.foldlM (parseProof pf proofBytes cursorProofSize.value) .start
    -- Check cursor-message-type
    let _ ← unwrapPanic
      (if cursorMessageType.value = 0 then .ok true else .error errUpdateType)
    let leafBytes ← unwrapPanicOpt (asMaxLen? leafBytes 255)
    let result ← unwrapPanicOpt (asMaxLen? (acc.result ++ [{
      priceIdentifier := cursorPriceIdentifier.value
      price := cursorPrice.value
      conf := cursorConf.value
      expo := cursorExpo.value
      publishTime := cursorPublishTime.value
      prevPublishTime := cursorPrevPublishTime.value
      emaPrice := cursorEmaPrice.value
      emaConf := cursorEmaConf.value
      proof := proof.result
      leafBytes }]) 64)
    pure {
      index := acc.index + 1
      nextUpdateIndex :=
        acc.index + 2 + cursorMessageSize.value + 1 + cursorProofSize.value * 20
      result }
  else
    -- Increment position
    pure { index := acc.index + 1, nextUpdateIndex := acc.nextUpdateIndex, result := acc.result }

/-- `parse-and-verify-prices-updates`: the records behind the count, with all their proofs checked
against the root of the VAA. -/
def parseAndVerifyPricesUpdates (bytes merkleRootHash : Buff) :
    Exec (List DecodedPriceUpdate) := do
  let cursorNumUpdates ← tryResponse (pf.hkCursor.readUint8 ⟨bytes, 0⟩)
  let cursorUpdatesBytes := pf.hkCursor.slice cursorNumUpdates.next none
  let updates ← cursorUpdatesBytes.foldlM
    (parsePriceInfoAndProof pf cursorUpdatesBytes cursorNumUpdates.value) .start
  let merkleProofChecksSuccess := updates.result.foldl (checkMerkleProof pf merkleRootHash) true
  asserts (merkleProofChecksSuccess = true) merkleRootMismatch
  pure updates.result

/-- The fields of an update that the store takes. -/
def castDecodedPrice (entry : DecodedPriceUpdate) : PriceUpdate where
  priceIdentifier := entry.priceIdentifier
  price := entry.price
  conf := entry.conf
  expo := entry.expo
  publishTime := entry.publishTime
  prevPublishTime := entry.prevPublishTime
  emaPrice := entry.emaPrice
  emaConf := entry.emaConf

/-! ## Decoding

The VAA comes from the contract that the caller names. -/

variable {φ : Type} (vm : Dispatch (World φ))

/-- `decode-pnau-price-update`. The emitter is compared with the authorized sources last, after
everything was parsed and proved. -/
def decodePnauPriceUpdate (pnauBytes : Buff) (wormholeCoreAddress : Principal) :
    Contract (World φ) (List PriceUpdate) := do
  let cursorPnauHeader ← .lift (parsePnauHeader pf pnauBytes)
  let cursorPnauVaaSize ← .lift (tryResponse (pf.hkCursor.readUint16 cursorPnauHeader.next))
  let cursorPnauVaa ← .lift (tryResponse
    (pf.hkCursor.readBuff8192Max cursorPnauVaaSize.next (some cursorPnauVaaSize.value)))
  let vaa ← vm.parseAndVerifyVaa pf.pythPnauDecoderV1 wormholeCoreAddress cursorPnauVaa.value
  let cursorMerkleRootData ← .lift (parseMerkleRootDataFromVaaPayload pf vaa.payload)
  let decodedPricesUpdates ← .lift (parseAndVerifyPricesUpdates pf
    (pf.hkCursor.slice cursorPnauVaa.next none) cursorMerkleRootData.value.merkleRootHash)
  let pricesUpdates := decodedPricesUpdates.map castDecodedPrice
  let authorizedPricesDataSources ← .gets fun w =>
    Governance.getAuthorizedPricesDataSources w.governance
  -- Ensure that update was published by an data source authorized by governance
  let _ ← .lift (unwrapOpt
    (authorizedPricesDataSources.idxOf? ⟨vaa.emitterChain, vaa.emitterAddress⟩)
    errUnauthorizedPriceUpdate)
  pure pricesUpdates

/-- `decode-and-verify-price-feeds`: only the oracle of the plan may have it decode. -/
def decodeAndVerifyPriceFeeds (contractCaller : Principal) (pnauBytes : Buff)
    (wormholeCoreAddress : Principal) : Contract (World φ) (List PriceUpdate) := do
  -- Check execution flow
  let _ ← .readOnly fun w =>
    Governance.checkExecutionFlow w.governance pf.pythPnauDecoderV1 contractCaller none
  -- Proceed to update
  decodePnauPriceUpdate pf vm pnauBytes wormholeCoreAddress

end Functions

end PythBridge.PnauDecoder
