import PythBridge.Clarity.Exec
import PythBridge.Clarity.Principal

/-!
# `wormhole-traits-v1` and `pyth-traits-v1`

The values that cross contract boundaries, and calls through trait arguments. A trait
argument is the principal of any contract that implements the trait; which code runs is
decided at the call, by `Dispatch`.

The records below are the tuples of the traits. A value of them says nothing about where it comes
from: a foreign contract that implements a trait may return any of them, and what the bridge's own
contracts return is the subject of the modules that model these.
-/

namespace PythBridge

open Clarity

/-- A signature of a VAA: the index of the guardian in its set, and the 65 bytes of the signature.
-/
structure GuardianSignature where
  guardianId : Nat
  signature : Buff
deriving DecidableEq, Repr

/-- A parsed Verified Action Approval, the result type of `core-trait`. -/
structure Vaa where
  version : Nat
  guardianSetId : Nat
  signaturesLen : Nat
  signatures : List GuardianSignature
  timestamp : Nat
  nonce : Nat
  emitterChain : Nat
  emitterAddress : Buff
  sequence : Nat
  consistencyLevel : Nat
  payload : Buff
deriving DecidableEq, Repr

/-- An emitter on another chain: governance messages and prices are accepted from known ones only.
-/
structure DataSource where
  emitterChain : Nat
  emitterAddress : Buff
deriving DecidableEq, Repr

/-- The source a message says it comes from. -/
def Vaa.emitter (vaa : Vaa) : DataSource := ⟨vaa.emitterChain, vaa.emitterAddress⟩

/-- A price as the store keeps it, under the identifier of its feed. -/
structure PriceRecord where
  price : Int
  conf : Nat
  expo : Int
  emaPrice : Int
  emaConf : Nat
  publishTime : Nat
  prevPublishTime : Nat
deriving DecidableEq, Repr

/-- One price update of a batch, as the decoder returns it and the store takes it. -/
structure PriceUpdate extends PriceRecord where
  priceIdentifier : Buff
deriving DecidableEq, Repr

/-- The contracts that calls of the oracle and the store have to go through, one for each role. -/
structure ExecutionPlan where
  pythOracleContract : Principal
  pythDecoderContract : Principal
  pythStorageContract : Principal
  wormholeCoreContract : Principal
deriving DecidableEq, Repr

/-- The `execution-plan` argument of the oracle: three trait arguments. -/
structure ExecutionPlanArg where
  pythStorageContract : Principal
  pythDecoderContract : Principal
  wormholeCoreContract : Principal
deriving DecidableEq, Repr

/-- Calls through trait arguments, on storage `ω`. `caller` is the contract that makes the
call (the callee's `contract-caller`) and `target` the trait argument. -/
structure Dispatch (ω : Type) where
  parseAndVerifyVaa : (caller target : Principal) → (vaaBytes : Buff) → Contract ω Vaa
  decodeAndVerifyPriceFeeds : (caller target : Principal) → (pnauBytes : Buff) →
    (wormholeCore : Principal) → Contract ω (List PriceUpdate)
  read : (caller target : Principal) → (priceIdentifier : Buff) → Contract ω PriceRecord
  write : (caller target : Principal) → (batchUpdates : List PriceUpdate) →
    Contract ω (List PriceUpdate)

end PythBridge
