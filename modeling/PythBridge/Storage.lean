import PythBridge.Platform

/-!
# Storage

The data vars and data maps of the stateful contracts, and the `World`: their storage
together with the STX balances and whatever all other contracts store.

A contract touches its own part only: `World.onWormhole`, `onGovernance` and `onStore` run a body on
one part and leave the others as they are, so the frames of a call follow from which of the three
its body is built of. What other contracts store is of an arbitrary type `φ`, and their code may
change it, and nothing else, in any way (see `System`).
-/

namespace PythBridge

open Clarity

namespace WormholeCore

/-- A guardian of a stored set. Both keys are empty when the key supplied for the guardian
did not match its address. -/
structure GuardianKeys where
  compressedPublicKey : Buff
  uncompressedPublicKey : Buff
deriving DecidableEq, Repr

/-- The data vars of `wormhole-core-v2`, and its map of guardian sets. -/
structure Storage where
  guardianSetInitialized : Bool
  activeGuardianSetId : Nat
  guardianSets : DataMap Nat (List GuardianKeys)

end WormholeCore

namespace Governance

/-- The fee of one update: `mantissa * 10 ^ exponent` micro-STX. -/
structure FeeValue where
  mantissa : Nat
  exponent : Nat
deriving DecidableEq, Repr

/-- The data vars of `pyth-governance-v1`. -/
structure Storage where
  governanceDataSource : DataSource
  pricesDataSources : List DataSource
  feeValue : FeeValue
  stalePriceThreshold : Nat
  feeRecipientAddress : Principal
  lastSequenceProcessed : Nat
  currentExecutionPlan : ExecutionPlan
deriving DecidableEq, Repr

end Governance

namespace Store

/-- The two maps of `pyth-store-v1`: the price of a feed, and the time it was published. -/
structure Storage where
  prices : DataMap Buff PriceRecord
  timestamps : DataMap Buff Nat

end Store

/-- All storage a transaction can touch. `φ` is the storage of the contracts that are not
part of the repository. -/
structure World (φ : Type) where
  wormhole : WormholeCore.Storage
  governance : Governance.Storage
  store : Store.Storage
  balances : Principal → Nat
  foreign : φ

/-- What the VM tells a contract about the transaction and the chain. -/
structure TxEnv where
  txSender : Principal
  blockHeight : Nat
  blockTime : Nat → Option Nat

namespace World

variable {φ α : Type}

/-- A body of `wormhole-core-v2` in the world of all contracts. -/
def onWormhole (m : Contract WormholeCore.Storage α) : Contract (World φ) α :=
  .zoom wormhole (fun s w => { w with wormhole := s }) m

/-- A body of `pyth-governance-v1`. -/
def onGovernance (m : Contract Governance.Storage α) : Contract (World φ) α :=
  .zoom governance (fun s w => { w with governance := s }) m

/-- A body of `pyth-store-v1`. -/
def onStore (m : Contract Store.Storage α) : Contract (World φ) α :=
  .zoom store (fun s w => { w with store := s }) m

/-- The balances after a transfer between two different principals. -/
def moveStx (balances : Principal → Nat) (amount : Nat) (sender recipient : Principal) :
    Principal → Nat := fun p =>
  if p = sender then balances p - amount
  else if p = recipient then balances p + amount
  else balances p

/-- `stx-transfer?`. It fails with `u3` on a zero amount, with `u2` when sender and recipient
are equal, with `u4` when the sender is not the `tx-sender` and with `u1` when the balance
is too small. -/
def stxTransfer (env : TxEnv) (amount : Nat) (sender recipient : Principal) :
    Contract (World φ) (Response Bool) := fun w =>
  if amount = 0 then (.ok (.error 3), w)
  else if sender = recipient then (.ok (.error 2), w)
  else if sender ≠ env.txSender then (.ok (.error 4), w)
  else if w.balances sender < amount then (.ok (.error 1), w)
  else (.ok (.ok true), { w with balances := moveStx w.balances amount sender recipient })

end World

end PythBridge
