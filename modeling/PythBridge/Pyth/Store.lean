import PythBridge.Pyth.Governance

/-!
# `pyth-store-v1`

The latest price of every feed. `write` processes a batch entry by entry, writing both maps as it
goes, and only then asks governance whether the caller may write.

An entry that is refused, because a newer price is recorded or because it is stale, is dropped from
the batch: `write-batch-entry` is a private function whose response `map` collects, so what the
entries before it wrote stays written (`Contract.respond`). A caller who may not write, or a batch
of which nothing is accepted, undoes all of it, since `write` is public.
-/

namespace PythBridge.Store

open Clarity

/-- The error responses of the source. -/
def errNewerPriceAvailable : Nat := 5000
def errStalePrice : Nat := 5001
def errInvalidUpdates : Nat := 5003
def errPriceNotFound : Nat := 404

/-- No feed has a price at the deployment. -/
def Storage.deployed : Storage where
  prices := fun _ => none
  timestamps := fun _ => none

/-- `read`: the record of a feed, or `u404`. -/
def read (st : Storage) (priceIdentifier : Buff) : Exec PriceRecord :=
  unwrapOpt (st.prices priceIdentifier) errPriceNotFound

/-- The timestamp recorded for a feed, `u0` when there is none. -/
def Storage.timestamp (st : Storage) (priceIdentifier : Buff) : Nat :=
  (st.timestamps priceIdentifier).getD 0

/-- An entry is newer than what is recorded; the same publish time is not. -/
def isPriceUpdateMoreRecent (st : Storage) (priceIdentifier : Buff) (publishTime : Nat) : Prop :=
  st.timestamp priceIdentifier < publishTime

instance (st : Storage) (priceIdentifier : Buff) (publishTime : Nat) :
    Decidable (isPriceUpdateMoreRecent st priceIdentifier publishTime) :=
  inferInstanceAs (Decidable (st.timestamp priceIdentifier < publishTime))

/-- The two map writes of an accepted entry. -/
def Storage.put (st : Storage) (entry : PriceUpdate) : Storage where
  prices := st.prices.set entry.priceIdentifier entry.toPriceRecord
  timestamps := st.timestamps.set entry.priceIdentifier entry.publishTime

/-- `latest-bitcoin-timestamp`: the time of the previous block. -/
def latestBitcoinTimestamp (env : TxEnv) : Exec Nat := do
  let previous ← checkedSub env.blockHeight 1
  unwrapOpt (env.blockTime previous) errStalePrice

/-- Behind the first block there is a previous one to ask for its time. -/
theorem latestBitcoinTimestamp_eq {env : TxEnv} (hblock : 0 < env.blockHeight) :
    latestBitcoinTimestamp env =
      unwrapOpt (env.blockTime (env.blockHeight - 1)) errStalePrice := by
  have hprevious : checkedSub env.blockHeight 1 = .ok (env.blockHeight - 1) :=
    checkedSub_eq_ok.mpr ⟨hblock, rfl⟩
  rw [latestBitcoinTimestamp, hprevious]
  rfl

/-- `write-batch-entry`: an entry that is newer than the record and not stale is put on record. -/
def writeBatchEntry (gov : Governance.Storage) (env : TxEnv) (entry : PriceUpdate) :
    Contract Storage PriceUpdate := do
  let stalePriceThreshold := Governance.getStalePriceThreshold gov
  let latestTimestamp ← .lift (latestBitcoinTimestamp env)
  -- Ensure that we have not processed a newer price
  .readOnly fun st => asserts
    (isPriceUpdateMoreRecent st entry.priceIdentifier entry.publishTime) errNewerPriceAvailable
  -- Ensure that price is not stale
  -- this subtraction aborts when the threshold is above the time of the chain
  let oldest ← .lift (checkedSub latestTimestamp stalePriceThreshold)
  .lift (asserts (oldest ≤ entry.publishTime) errStalePrice)
  -- Update storage and timestamps tracking
  .modify fun st => st.put entry
  pure entry

/-- Keeps the entries that were written. -/
def onlyOkEntry (entry : Response PriceUpdate) : Bool := entry.toBool

def unwrappedEntry (entry : Response PriceUpdate) : Exec PriceUpdate := unwrapPanic entry

/-- `write`. The entries are written first and the caller is checked afterwards. -/
def write (pf : Platform) (gov : Governance.Storage) (env : TxEnv) (contractCaller : Principal)
    (batchUpdates : List PriceUpdate) : Contract Storage (List PriceUpdate) := do
  -- every entry sees what the entries in front of it wrote
  let responses ← batchUpdates.mapM' fun entry => (writeBatchEntry gov env entry).respond
  let successfulUpdates ← .lift ((responses.filter onlyOkEntry).mapM' unwrappedEntry)
  -- Ensure that updates are always coming from the right contract
  let _ ← .lift (Governance.checkExecutionFlow gov pf.pythStoreV1 contractCaller none)
  -- Ensure we have at least one entry
  .lift (asserts (0 < successfulUpdates.length) errInvalidUpdates)
  pure successfulUpdates

end PythBridge.Store
