import PythBridge.HkCursor

/-!
# `pyth-p2wh-decoder-v1`

The decoder of the older attestation format, with a price store of its own. It runs on two
contracts that are not part of the repository: `hk-cursor-v1`, a record of readers with the rule
`HkCursorV1.Lawful`, and the verification of `wormhole-core-dev-preview-1`, of whose answer only
the payload is read.

A batch is a header of a declared length, two numbers and that many attestations of that many bytes.
The contract reads it in the manner of the Pyth decoder, with a fold over the bytes that collects
cues and a fold over the cues that cuts records, but it is laxer in two ways: the header is read and
never compared with anything, and the attestations start behind a trailing header whose declared
size the contract trusts.

Storing is laxer as well. There is no fee, no data source and no publish time to compare: what is
verified and watched is stored.
-/

namespace PythBridge.P2whDecoder

open Clarity

/-! ## What it is deployed on

The same treatment as for `hk-cursor-v2`: the readers are fields of a structure, the rule for them
is a property, and a concrete cursor shows that there is one that obeys it. -/

/-- The public read-only functions of `hk-cursor-v1` that the contract calls. -/
structure HkCursorV1 where
  readBuff1 : Cursor → Response (Read Buff)
  readBuff4 : Cursor → Response (Read Buff)
  readBuff8 : Cursor → Response (Read Buff)
  readBuff32 : Cursor → Response (Read Buff)
  readU8 : Cursor → Response (Read Nat)
  readU16 : Cursor → Response (Read Nat)

/-- Each reader answers with the field at the cursor, exactly when it is inside the buffer. -/
structure HkCursorV1.Lawful (hk : HkCursorV1) : Prop where
  readBuff1 : ReadsField 1 id hk.readBuff1
  readBuff4 : ReadsField 4 id hk.readBuff4
  readBuff8 : ReadsField 8 id hk.readBuff8
  readBuff32 : ReadsField 32 id hk.readBuff32
  readU8 : ReadsField 1 buffToUintBe hk.readU8
  readU16 : ReadsField 2 buffToUintBe hk.readU16

/-- `hk-cursor-v1` by the rules `Lawful` asks for. -/
def HkCursorV1.reference : HkCursorV1 where
  readBuff1 := HkCursorV2.readField 1 id
  readBuff4 := HkCursorV2.readField 4 id
  readBuff8 := HkCursorV2.readField 8 id
  readBuff32 := HkCursorV2.readField 32 id
  readU8 := HkCursorV2.readField 1 buffToUintBe
  readU16 := HkCursorV2.readField 2 buffToUintBe

/-- There is a cursor that obeys the rule. -/
theorem HkCursorV1.reference_lawful : HkCursorV1.reference.Lawful where
  readBuff1 := HkCursorV2.readField_readsField (by decide) id
  readBuff4 := HkCursorV2.readField_readsField (by decide) id
  readBuff8 := HkCursorV2.readField_readsField (by decide) id
  readBuff32 := HkCursorV2.readField_readsField (by decide) id
  readU8 := HkCursorV2.readField_readsField (by decide) _
  readU16 := HkCursorV2.readField_readsField (by decide) _

/-- `parse-and-verify-vaa` of `wormhole-core-dev-preview-1`, as it answers at the time of a
call: the payload of the VAA, or an error. -/
abbrev WormholeCore := (vaaBytes : Buff) → Response Buff

/-! ## Constants

The three feeds that are watched from the deployment on, and the error codes in the order in which
they can be reported. No function of the contract changes the watched feeds. -/

def stxUsd : Buff := hex "ec7a775f46379b5e943c3526b1c8d54cd49749176b0b98e02dde68d1bd335c17"
def btcUsd : Buff := hex "e62df6c8b4a85fe1a67db44dc12de5db330f7ac66b72dc658afedf0f4a415b43"
def ethUsd : Buff := hex "ff61491a931112ddf1bd8147cd1b641375f79f5825126d665480874634fd0ace"

def errPfParsingMagicBytes : Nat := 2001
def errPfParsingVersionMaj : Nat := 2002
def errPfParsingVersionMin : Nat := 2003
def errPfParsingTrailingHeaderSize : Nat := 2004
def errPfParsingPayloadId : Nat := 2006
def errP2whParsingAttestationCount : Nat := 2007
def errP2whParsingAttestationSize : Nat := 2008
def errP2whSlicingAttestationBytes : Nat := 2009
def errPfNotFound : Nat := 2010

/-! ## Storage

A price feed as it is stored, and the two data of the contract. -/

/-- What is stored for a feed. -/
structure PriceFeed where
  price : Int
  conf : Nat
  expo : Int
  attestationTime : Nat
  emaPrice : Int
  emaConf : Nat
  status : Nat
  publishTime : Nat
  prevPublishTime : Nat
  prevPrice : Int
  prevConf : Nat
deriving DecidableEq, Repr

structure Storage where
  prices : DataMap Buff PriceFeed
  watchedPriceFeeds : List Buff

def Storage.deployed : Storage where
  prices := fun _ => none
  watchedPriceFeeds := [stxUsd, btcUsd, ethUsd]

/-! ## Attestations

Everything that is decoded, first as buffers and then as numbers. `buff-to-int-be` of a buffer of
less than 16 bytes is never negative. -/

/-- A price attestation as it is cut from the message. -/
structure EncodedAttestation where
  priceFeedId : Buff
  price : Buff
  conf : Buff
  expo : Buff
  emaPrice : Buff
  emaConf : Buff
  status : Buff
  attestationTime : Buff
  publishTime : Buff
  prevPublishTime : Buff
  prevPrice : Buff
  prevConf : Buff
deriving DecidableEq, Repr

/-- A decoded attestation: what is stored, and the feed it is stored for. -/
structure PriceAttestation extends PriceFeed where
  priceFeedId : Buff
deriving DecidableEq, Repr

/-- A decoded batch. -/
structure PriceAttestations where
  attestationsCount : Nat
  attestationSize : Nat
  priceAttestations : List PriceAttestation
deriving DecidableEq, Repr

/-- The header of a batch, as it is read and not used. -/
structure AttestationsHeader where
  magic : Buff
  versionMaj : Nat
  versionMin : Nat
  headerSize : Nat
  payloadId : Nat
deriving DecidableEq, Repr

section Functions

variable (hk : HkCursorV1)

/-- None of the fields is checked; the payload id is the first byte of the trailing header. -/
def parsePriceAttestationsHeader (pfBytes : Buff) : Exec (Read AttestationsHeader) := do
  let cursorMagic ← unwrap (hk.readBuff4 ⟨pfBytes, 0⟩) errPfParsingMagicBytes
  let cursorVersionMaj ← unwrap (hk.readU16 cursorMagic.next) errPfParsingVersionMaj
  let cursorVersionMin ← unwrap (hk.readU16 cursorVersionMaj.next) errPfParsingVersionMin
  let cursorHeaderSize ← unwrap (hk.readU16 cursorVersionMin.next)
    errPfParsingTrailingHeaderSize
  let cursorPayloadId ← unwrap (hk.readU8 cursorHeaderSize.next) errPfParsingPayloadId
  -- the payload id is part of the trailing header, so a size of zero underflows here
  let trailingSize ← checkedSub cursorHeaderSize.value 1
  pure {
    value := {
      magic := cursorMagic.value
      versionMaj := cursorVersionMaj.value
      versionMin := cursorVersionMin.value
      headerSize := cursorHeaderSize.value
      payloadId := cursorPayloadId.value }
    next := ⟨pfBytes, cursorPayloadId.next.pos + trailingSize⟩ }

/-- What the cue fold carries: the size, the position and the cues so far. -/
structure AttestationCueAcc where
  size : Nat
  cursor : Nat
  result : List Nat

/-- The positive multiples of `size` are cues; the cue `u0` is in the list from the start. -/
def isPriceAttestationCue (acc : AttestationCueAcc) (_entry : UInt8) :
    Exec AttestationCueAcc := do
  -- `(mod cursor size)` divides by zero for a declared size of zero
  let remainder ← checkedMod acc.cursor acc.size
  if 0 = remainder ∧ 0 < acc.cursor then do
    let result ← unwrapPanicOpt (asMaxLen? (acc.result ++ [acc.cursor]) 64)
    pure { cursor := acc.cursor + 1, result, size := acc.size }
  else pure { cursor := acc.cursor + 1, result := acc.result, size := acc.size }

/-- Cuts the attestation at `entry`; three of its fields are obsolete. -/
def parsePriceAttestation (attestationsBytes : Buff) (result : List EncodedAttestation)
    (entry : Nat) : Exec (List EncodedAttestation) := do
  let cursorObsolete1 ← unwrapPanic (hk.readBuff32 ⟨attestationsBytes, entry⟩)
  let cursorPriceFeedId ← unwrapPanic (hk.readBuff32 cursorObsolete1.next)
  let cursorPrice ← unwrapPanic (hk.readBuff8 cursorPriceFeedId.next)
  let cursorConf ← unwrapPanic (hk.readBuff8 cursorPrice.next)
  let cursorExpo ← unwrapPanic (hk.readBuff4 cursorConf.next)
  let cursorEmaPrice ← unwrapPanic (hk.readBuff8 cursorExpo.next)
  let cursorEmaConf ← unwrapPanic (hk.readBuff8 cursorEmaPrice.next)
  let cursorStatus ← unwrapPanic (hk.readBuff1 cursorEmaConf.next)
  let cursorObsolete2 ← unwrapPanic (hk.readBuff4 cursorStatus.next)
  let cursorObsolete3 ← unwrapPanic (hk.readBuff4 cursorObsolete2.next)
  let cursorAttestationTime ← unwrapPanic (hk.readBuff8 cursorObsolete3.next)
  let cursorPublishTime ← unwrapPanic (hk.readBuff8 cursorAttestationTime.next)
  let cursorPrevPublishTime ← unwrapPanic (hk.readBuff8 cursorPublishTime.next)
  let cursorPrevPrice ← unwrapPanic (hk.readBuff8 cursorPrevPublishTime.next)
  let cursorPrevConf ← unwrapPanic (hk.readBuff8 cursorPrevPrice.next)
  unwrapPanicOpt (asMaxLen? (result ++ [{
    priceFeedId := cursorPriceFeedId.value
    price := cursorPrice.value
    conf := cursorConf.value
    expo := cursorExpo.value
    emaPrice := cursorEmaPrice.value
    emaConf := cursorEmaConf.value
    status := cursorStatus.value
    attestationTime := cursorAttestationTime.value
    publishTime := cursorPublishTime.value
    prevPublishTime := cursorPrevPublishTime.value
    prevPrice := cursorPrevPrice.value
    prevConf := cursorPrevConf.value }]) 64)

/-- The conversion of the fields, each by its width and sign. -/
def decodePriceAttestation (entry : EncodedAttestation) : PriceAttestation where
  priceFeedId := entry.priceFeedId
  price := buffToIntBe entry.price
  conf := buffToUintBe entry.conf
  expo := buffToIntBe entry.expo
  emaPrice := buffToIntBe entry.emaPrice
  emaConf := buffToUintBe entry.emaConf
  status := buffToUintBe entry.status
  attestationTime := buffToUintBe entry.attestationTime
  publishTime := buffToUintBe entry.publishTime
  prevPublishTime := buffToUintBe entry.prevPublishTime
  prevPrice := buffToIntBe entry.prevPrice
  prevConf := buffToUintBe entry.prevConf

/-- The entry the list of encoded attestations starts with; it is cut off again. -/
def emptyAttestation : EncodedAttestation where
  priceFeedId := []
  price := []
  conf := []
  expo := []
  emaPrice := []
  emaConf := []
  status := []
  attestationTime := []
  publishTime := []
  prevPublishTime := []
  prevPrice := []
  prevConf := []

/-- The body of the private function of that name: header, numbers, slice, cues, attestations. -/
def parseAndVerifyPriceAttestations (pfBytes : Buff) : Exec PriceAttestations := do
  let cursorPriceAttestationsHeader ← parsePriceAttestationsHeader hk pfBytes
  let cursorAttestationsCount ← unwrap (hk.readU16 cursorPriceAttestationsHeader.next)
    errP2whParsingAttestationCount
  let cursorAttestationSize ← unwrap (hk.readU16 cursorAttestationsCount.next)
    errP2whParsingAttestationSize
  let attestationsBytes ← unwrapOpt (slice? pfBytes cursorAttestationSize.next.pos
      (cursorAttestationSize.next.pos +
        cursorAttestationsCount.value * cursorAttestationSize.value))
    errP2whSlicingAttestationBytes
  let attestationsCues ← attestationsBytes.foldlM isPriceAttestationCue
    { size := cursorAttestationSize.value, cursor := 0, result := [0] }
  let encodedPriceAttestations ← attestationsCues.result.foldlM
    (parsePriceAttestation hk attestationsBytes) [emptyAttestation]
  -- the accumulator starts with an empty entry, and as many as declared are kept behind it
  let encoded ← unwrapPanicOpt (slice? encodedPriceAttestations 1
    (1 + cursorAttestationsCount.value))
  pure {
    attestationsCount := cursorAttestationsCount.value
    attestationSize := cursorAttestationSize.value
    priceAttestations := encoded.map decodePriceAttestation }

/-! ## Price feeds

The public functions. `process-price-attestation` is where a price is stored. -/

/-- The wormhole contract is asked, and an error of it aborts the call. -/
def parseAndVerifyVaa (wormhole : WormholeCore) (vaaBytes : Buff) : Exec Buff :=
  unwrapPanic (wormhole vaaBytes)

/-- A private function called for its response: an abort is not a response. -/
def response {α : Type} : Exec α → Exec (Response α)
  | .ok a => .ok (.ok a)
  | .error (.err code) => .ok (.error code)
  | .error .abort => .error .abort

/-- What the folds over the batches carry: the watched feeds, and the feeds stored so far. -/
structure ProcessAcc where
  input : List Buff
  updatedPricesFeeds : List Buff

/-- Stores the attestation of a watched feed, whatever is stored and however old it is. -/
def processPriceAttestation (acc : ProcessAcc) (entry : PriceAttestation) :
    Contract Storage ProcessAcc :=
  match acc.input.idxOf? entry.priceFeedId with
  | some _ => do
    -- Update Price Feed
    .modify fun st => { st with
      prices := st.prices.set entry.priceFeedId entry.toPriceFeed }
    let updatedPricesFeeds ← .lift (unwrapPanicOpt
      (asMaxLen? (acc.updatedPricesFeeds ++ [entry.priceFeedId]) 2048))
    pure { input := acc.input, updatedPricesFeeds }
  | none => pure acc

/-- A batch that could not be read aborts the call here, with the VAAs all verified by then. -/
def processPricesAttestationsBatch (acc : ProcessAcc) (entry : Response PriceAttestations) :
    Contract Storage ProcessAcc := do
  let batch ← .lift (unwrapPanic entry)
  let processed ← batch.priceAttestations.foldlM processPriceAttestation acc
  pure { input := acc.input, updatedPricesFeeds := processed.updatedPricesFeeds }

/-- The body of `update-prices-feeds`. -/
def updatePricesFeeds (wormhole : WormholeCore) (vaas : List Buff) :
    Contract Storage (List Buff) := do
  let decodedVaas ← .lift (vaas.mapM (parseAndVerifyVaa wormhole))
  -- each batch is parsed for its response; the errors are unwrapped in the fold below
  let decodedPricesAttestationsBatches ← .lift (decodedVaas.mapM fun pfBytes =>
    response (parseAndVerifyPriceAttestations hk pfBytes))
  let watchedPricesFeeds ← .gets Storage.watchedPriceFeeds
  let processed ← decodedPricesAttestationsBatches.foldlM processPricesAttestationsBatch
    { input := watchedPricesFeeds, updatedPricesFeeds := [] }
  pure processed.updatedPricesFeeds

/-- The body of `read-price-feed`. -/
def readPriceFeed (st : Storage) (priceFeedId : Buff) : Exec PriceFeed :=
  unwrapOpt (st.prices priceFeedId) errPfNotFound

end Functions

end PythBridge.P2whDecoder
