import PythBridge.Clarity.Exits
import PythBridge.Cbtc.Token
import PythBridge.System

/-!
# The cBTC example — `cbtc-pool`

A pool that swaps STX for cBTC at the prices of the oracle. The pool never acts as its own
`tx-sender`, so it can receive and never spends.

All three contracts that the pool names in its calls of the oracle are the repository's, so no
foreign code runs in these calls, and nothing that happens inside of one can come back to the pool
or the token. This is why a call of the oracle is a step in the oracle's part of the world.

What the pool would pay out is a transfer with the pool as its sender, and such a transfer asks for
the sender of the transaction to be the pool. The contract has no call in which it would be. So the
crux of the outcomes is one lemma about the token (`callTransfer_of_ne`) and one about STX
(`withdrawStx_of_external`); everything in front of a payout can fail or abort, and the payout
itself fails.
-/

namespace PythBridge.Cbtc

open Clarity

/-- The contracts of the example, deployed on a platform with the oracle. -/
structure CbtcPlatform where
  pyth : Platform
  deployer : StandardPrincipal

def CbtcPlatform.cbtcPool (cp : CbtcPlatform) : Principal :=
  .contract cp.deployer (asciiBytes "cbtc-pool")

/-- The oracle's world and the token. -/
structure CbtcWorld (φ : Type) where
  pyth : World φ
  token : Token.Storage

namespace CbtcWorld

variable {φ α : Type}

def onPyth (m : Contract (World φ) α) : Contract (CbtcWorld φ) α :=
  .zoom pyth (fun s w => { w with pyth := s }) m

def onToken (m : Contract Token.Storage α) : Contract (CbtcWorld φ) α :=
  .zoom token (fun s w => { w with token := s }) m

theorem onToken_of_run {m : Contract Token.Storage α} {w : CbtcWorld φ} {r : Exec α}
    {t : Token.Storage} (h : m w.token = (r, t)) : onToken m w = (r, { w with token := t }) :=
  Contract.zoom_of_run h

end CbtcWorld

namespace Pool

structure Swap where
  stxIn : Nat
  cbtcSatsOut : Nat
deriving DecidableEq, Repr

section Functions

variable (cp : CbtcPlatform) {φ : Type} (code : ForeignCode φ) (depth : Nat)
  (stack : List FunctionId) (env : TxEnv)

/-- `contract-call?` of the token's `transfer`. -/
def callTransfer (amount : Nat) (sender recipient : Principal) :
    Contract (CbtcWorld φ) (Response Bool) :=
  CbtcWorld.onToken (Token.transfer env amount sender recipient none).transaction.respond

/-- `contract-call?` of `pyth-oracle-v2`. -/
def callOracle (c : Call) : Contract (CbtcWorld φ) (Response Reply) :=
  CbtcWorld.onPyth (exec cp.pyth code depth stack env cp.cbtcPool c).respond

/-- The answer of `read-price-feed`. -/
def asPriceRecord : Reply → Exec PriceRecord
  | .priceRecord value => .ok value
  | _ => .error .abort

/-- The answer of `verify-and-update-price-feeds`. -/
def asPriceUpdates : Reply → Exec (List PriceUpdate)
  | .priceUpdates value => .ok value
  | _ => .error .abort

def readPriceFromPyth (priceId : Buff) : Contract (CbtcWorld φ) Nat := do
  let response ← callOracle cp code depth stack env (.readPriceFeed priceId cp.pyth.pythStoreV1)
  let reply ← .lift (unwrap response 0)
  let feed ← .lift (asPriceRecord reply)
  .lift (toUint feed.price)

def stxPriceId : Buff :=
  [0xec, 0x7a, 0x77, 0x5f, 0x46, 0x37, 0x9b, 0x5e, 0x94, 0x3c, 0x35, 0x26, 0xb1, 0xc8, 0xd5, 0x4c,
    0xd4, 0x97, 0x49, 0x17, 0x6b, 0x0b, 0x98, 0xe0, 0x2d, 0xde, 0x68, 0xd1, 0xbd, 0x33, 0x5c, 0x17]

def btcPriceId : Buff :=
  [0xe6, 0x2d, 0xf6, 0xc8, 0xb4, 0xa8, 0x5f, 0xe1, 0xa6, 0x7d, 0xb4, 0x4d, 0xc1, 0x2d, 0xe5, 0xdb,
    0x33, 0x0f, 0x7a, 0xc6, 0x6b, 0x72, 0xdc, 0x65, 0x8a, 0xfe, 0xdf, 0x0f, 0x4a, 0x41, 0x5b, 0x43]

def readStxPriceFromPyth : Contract (CbtcWorld φ) Nat :=
  readPriceFromPyth cp code depth stack env stxPriceId

def readBtcPriceFromPyth : Contract (CbtcWorld φ) Nat :=
  readPriceFromPyth cp code depth stack env btcPriceId

/-- Updates the price feeds and takes the first entry that was updated. -/
def updateAndReadPriceFromPyth (priceFeed : Buff) : Contract (CbtcWorld φ) PriceUpdate := do
  let response ← callOracle cp code depth stack env (.verifyAndUpdatePriceFeeds priceFeed {
    pythStorageContract := cp.pyth.pythStoreV1
    pythDecoderContract := cp.pyth.pythPnauDecoderV1
    wormholeCoreContract := cp.pyth.wormholeCoreV2 })
  let reply ← .lift (unwrap response 0)
  let updatedPricesIds ← .lift (asPriceUpdates reply)
  .lift (unwrapOpt updatedPricesIds[0]? 404)

def updateAndReadStxPriceFromPyth (stxPriceFeed : Buff) : Contract (CbtcWorld φ) PriceUpdate :=
  updateAndReadPriceFromPyth cp code depth stack env stxPriceFeed

def updateAndReadBtcPriceFromPyth (btcPriceFeed : Buff) : Contract (CbtcWorld φ) PriceUpdate :=
  updateAndReadPriceFromPyth cp code depth stack env btcPriceFeed

def addCbtcLiquidity (cbtcSatsIn : Nat) : Contract (CbtcWorld φ) Nat := do
  let transferred ← callTransfer env cbtcSatsIn env.txSender cp.cbtcPool
  let _ ← .lift (unwrap transferred 1)
  pure cbtcSatsIn

def removeCbtcLiquidity (cbtcSatsOut : Nat) : Contract (CbtcWorld φ) Nat := do
  let transferred ← callTransfer env cbtcSatsOut cp.cbtcPool env.txSender
  let _ ← .lift (unwrap transferred 1)
  pure cbtcSatsOut

def withdrawStx (stxOut : Nat) : Contract (CbtcWorld φ) Nat := do
  let transferred ← CbtcWorld.onPyth (World.stxTransfer env stxOut cp.cbtcPool env.txSender)
  let _ ← .lift (unwrap transferred 1)
  pure stxOut

/-- The end of both swaps: the cBTC goes out and the STX comes in. -/
def exchange (stxIn cbtcSatsOut : Nat) : Contract (CbtcWorld φ) Swap := do
  let sent ← callTransfer env cbtcSatsOut cp.cbtcPool env.txSender
  let _ ← .lift (unwrap sent 1000)
  let received ← CbtcWorld.onPyth (World.stxTransfer env stxIn env.txSender cp.cbtcPool)
  let _ ← .lift (unwrap received 1000)
  pure ⟨stxIn, cbtcSatsOut⟩

def swapStx (stxIn : Nat) : Contract (CbtcWorld φ) Swap := do
  let stxPrice ← readStxPriceFromPyth cp code depth stack env
  let btcPrice ← readBtcPriceFromPyth cp code depth stack env
  let satPrice ← .lift (checkedMul 100000000 btcPrice)
  let value ← .lift (checkedMul stxIn satPrice)
  let cbtcSatsOut ← .lift (checkedDiv value stxPrice)
  exchange cp env stxIn cbtcSatsOut

def swapStxTrustless (stxIn : Nat) (stxPriceFeed btcPriceFeed : Buff) :
    Contract (CbtcWorld φ) Swap := do
  let stxPrice ← updateAndReadStxPriceFromPyth cp code depth stack env stxPriceFeed
  let btcPrice ← updateAndReadBtcPriceFromPyth cp code depth stack env btcPriceFeed
  let btcUint ← .lift (toUint btcPrice.price)
  let satPrice ← .lift (checkedMul 100000000 btcUint)
  let value ← .lift (checkedMul stxIn satPrice)
  let stxUint ← .lift (toUint stxPrice.price)
  let cbtcSatsOut ← .lift (checkedDiv value stxUint)
  exchange cp env stxIn cbtcSatsOut

end Functions

/-! ## Outcomes

`Exits` collects what the parts of a swap can answer: `u0` and `u404` of the oracle calls, an abort
of the arithmetic, and `u1000` at its end. -/

section Outcomes

variable {cp : CbtcPlatform} {φ : Type} {code : ForeignCode φ} {depth : Nat}
  {stack : List FunctionId} {env : TxEnv}

theorem asPriceRecord_exit {reply : Reply} {e : Exit} (h : asPriceRecord reply = .error e) :
    e = .abort := by
  unfold asPriceRecord at h
  split at h <;> cases h
  rfl

theorem asPriceUpdates_exit {reply : Reply} {e : Exit} (h : asPriceUpdates reply = .error e) :
    e = .abort := by
  unfold asPriceUpdates at h
  split at h <;> cases h
  rfl

/-- A call of the oracle does not end the function by an error; only an abort goes through. -/
theorem exits_callOracle {P : Exit → Prop} (habort : P .abort) (c : Call) :
    Exits P (callOracle cp code depth stack env c) := by
  unfold callOracle CbtcWorld.onPyth
  exact .zoom (.respond habort _)

/-- Reading a price fails with `u0` or aborts. -/
theorem exits_readPriceFromPyth {P : Exit → Prop} (habort : P .abort) (hread : P (.err 0))
    (priceId : Buff) : Exits P (readPriceFromPyth cp code depth stack env priceId) := by
  refine .bind (exits_callOracle habort _) fun response => ?_
  refine .bind (.lift fun e h => unwrap_exit h ▸ hread) fun reply => ?_
  refine .bind (.lift fun e h => asPriceRecord_exit h ▸ habort) fun feed => ?_
  exact .lift fun e h => toUint_exit h ▸ habort

/-- Updating and reading a price fails with `u0` or `u404` or aborts. -/
theorem exits_updateAndReadPriceFromPyth {P : Exit → Prop} (habort : P .abort)
    (hupdate : P (.err 0)) (hnone : P (.err 404)) (priceFeed : Buff) :
    Exits P (updateAndReadPriceFromPyth cp code depth stack env priceFeed) := by
  refine .bind (exits_callOracle habort _) fun response => ?_
  refine .bind (.lift fun e h => unwrap_exit h ▸ hupdate) fun reply => ?_
  refine .bind (.lift fun e h => asPriceUpdates_exit h ▸ habort) fun updated => ?_
  exact .lift fun e h => unwrapOpt_exit h ▸ hnone

/-- The token refuses a transfer from anybody but the `tx-sender`. -/
theorem callTransfer_of_ne {sender : Principal} (h : env.txSender ≠ sender) (amount : Nat)
    (recipient : Principal) (w : CbtcWorld φ) :
    callTransfer env amount sender recipient w = (.ok (.error 4), w) := by
  unfold callTransfer CbtcWorld.onToken Token.transfer
  rw [if_neg h]
  rfl

variable (hexternal : env.txSender ≠ cp.cbtcPool)
include hexternal

/-- Both swaps end here, with the first of the two transfers refused. -/
theorem exchange_of_external (stxIn cbtcSatsOut : Nat) (w : CbtcWorld φ) :
    exchange cp env stxIn cbtcSatsOut w = (.error (.err 1000), w) := by
  unfold exchange
  rw [Contract.bind_of_ok (callTransfer_of_ne hexternal cbtcSatsOut env.txSender w)]
  rfl

/-- A withdrawal of cBTC is refused by the token. -/
theorem removeCbtcLiquidity_of_external (cbtcSatsOut : Nat) (w : CbtcWorld φ) :
    removeCbtcLiquidity cp env cbtcSatsOut w = (.error (.err 1), w) := by
  unfold removeCbtcLiquidity
  rw [Contract.bind_of_ok (callTransfer_of_ne hexternal cbtcSatsOut env.txSender w)]
  rfl

/-- Nor does the pool hand out STX: `stx-transfer?` wants the `tx-sender` as well. -/
theorem withdrawStx_of_external (stxOut : Nat) (w : CbtcWorld φ) :
    withdrawStx cp env stxOut w = (.error (.err 1), w) := by
  have hrefused : ∃ code, World.stxTransfer env stxOut cp.cbtcPool env.txSender w.pyth =
      (.ok (.error code), w.pyth) := by
    unfold World.stxTransfer
    -- an amount of zero is refused before the sender is looked at
    by_cases hzero : stxOut = 0
    · exact ⟨3, if_pos hzero⟩
    · rw [if_neg hzero, if_neg (Ne.symm hexternal)]
      exact ⟨4, if_pos (Ne.symm hexternal)⟩
  obtain ⟨code, hrefused⟩ := hrefused
  have hcall : CbtcWorld.onPyth (World.stxTransfer env stxOut cp.cbtcPool env.txSender) w =
      (.ok (.error code), w) := by
    unfold CbtcWorld.onPyth Contract.zoom
    rw [hrefused]
  unfold withdrawStx
  rw [Contract.bind_of_ok hcall]
  rfl

theorem exits_exchange {P : Exit → Prop} (hP : P (.err 1000)) (stxIn cbtcSatsOut : Nat) :
    Exits P (exchange (φ := φ) cp env stxIn cbtcSatsOut) := by
  intro w e w' h
  rw [exchange_of_external hexternal] at h
  cases h
  exact hP

variable (code depth stack)

/-- What a swap can answer. -/
theorem swapStx_fails (stxIn : Nat) (w : CbtcWorld φ) :
    ∃ e w', swapStx cp code depth stack env stxIn w = (.error e, w') ∧
      (e = .err 0 ∨ e = .err 1000 ∨ e = .abort) := by
  have hexits : Exits (fun e => e = .err 0 ∨ e = .err 1000 ∨ e = .abort)
      (swapStx cp code depth stack env stxIn) := by
    have habort : Exit.abort = .err 0 ∨ Exit.abort = .err 1000 ∨ Exit.abort = .abort :=
      .inr (.inr rfl)
    refine .bind (exits_readPriceFromPyth habort (.inl rfl) _) fun stxPrice => ?_
    refine .bind (exits_readPriceFromPyth habort (.inl rfl) _) fun btcPrice => ?_
    refine .bind (.lift fun e h => checkedMul_exit h ▸ habort) fun satPrice => ?_
    refine .bind (.lift fun e h => checkedMul_exit h ▸ habort) fun value => ?_
    refine .bind (.lift fun e h => checkedDiv_exit h ▸ habort) fun cbtcSatsOut => ?_
    exact exits_exchange hexternal (.inr (.inl rfl)) _ _
  rcases h : swapStx cp code depth stack env stxIn w with ⟨e | swap, w'⟩
  · exact ⟨e, w', rfl, hexits w e w' h⟩
  · -- to return ok it would have to get through the exchange
    simp only [swapStx, Contract.bind_eq_ok, exchange_of_external hexternal] at h
    obtain ⟨_, _, _, _, _, _, _, _, _, _, _, _, _, _, _, hok⟩ := h
    cases hok

theorem swapStxTrustless_fails (stxIn : Nat) (stxPriceFeed btcPriceFeed : Buff)
    (w : CbtcWorld φ) :
    ∃ e w', swapStxTrustless cp code depth stack env stxIn stxPriceFeed btcPriceFeed w =
        (.error e, w') ∧ (e = .err 0 ∨ e = .err 404 ∨ e = .err 1000 ∨ e = .abort) := by
  have hexits : Exits (fun e => e = .err 0 ∨ e = .err 404 ∨ e = .err 1000 ∨ e = .abort)
      (swapStxTrustless cp code depth stack env stxIn stxPriceFeed btcPriceFeed) := by
    have habort : Exit.abort = .err 0 ∨ Exit.abort = .err 404 ∨ Exit.abort = .err 1000 ∨
        Exit.abort = .abort := .inr (.inr (.inr rfl))
    have hprice : ∀ feed, Exits (fun e => e = .err 0 ∨ e = .err 404 ∨ e = .err 1000 ∨ e = .abort)
        (updateAndReadPriceFromPyth cp code depth stack env feed) :=
      exits_updateAndReadPriceFromPyth habort (.inl rfl) (.inr (.inl rfl))
    refine .bind (hprice _) fun stxPrice => .bind (hprice _) fun btcPrice => ?_
    refine .bind (.lift fun e h => toUint_exit h ▸ habort) fun btcUint => ?_
    refine .bind (.lift fun e h => checkedMul_exit h ▸ habort) fun satPrice => ?_
    refine .bind (.lift fun e h => checkedMul_exit h ▸ habort) fun value => ?_
    refine .bind (.lift fun e h => toUint_exit h ▸ habort) fun stxUint => ?_
    refine .bind (.lift fun e h => checkedDiv_exit h ▸ habort) fun cbtcSatsOut => ?_
    exact exits_exchange hexternal (.inr (.inr (.inl rfl))) _ _
  rcases h : swapStxTrustless cp code depth stack env stxIn stxPriceFeed btcPriceFeed w with
    ⟨e | swap, w'⟩
  · exact ⟨e, w', rfl, hexits w e w' h⟩
  · -- the same with the prices updated first
    simp only [swapStxTrustless, Contract.bind_eq_ok, exchange_of_external hexternal] at h
    obtain ⟨_, _, _, _, _, _, _, _, _, _, _, _, _, _, _, _, _, _, _, _, _, hok⟩ := h
    cases hok

end Outcomes

end Pool

/-! ## Calls

Token and pool together, as one set of calls on one world. -/

/-- The functions of the two contracts that can change something. -/
inductive CbtcCall where
  | transfer (amount : Nat) (sender recipient : Principal) (memo : Option Buff)
  | mint (amount : Nat) (recipient : Principal)
  | burn (amount : Nat)
  | addCbtcLiquidity (cbtcSatsIn : Nat)
  | removeCbtcLiquidity (cbtcSatsOut : Nat)
  | withdrawStx (stxOut : Nat)
  | swapStx (stxIn : Nat)
  | swapStxTrustless (stxIn : Nat) (stxPriceFeed btcPriceFeed : Buff)
deriving DecidableEq, Repr

inductive CbtcReply where
  | bool (value : Bool)
  | uint (value : Nat)
  | swap (value : Pool.Swap)
deriving DecidableEq, Repr

/-- A call of one of them, while the functions in `stack` are running. -/
structure CbtcTx where
  depth : Nat
  stack : List FunctionId
  env : TxEnv
  call : CbtcCall

def CbtcTx.body {φ : Type} (cp : CbtcPlatform) (code : ForeignCode φ) (tx : CbtcTx) :
    Contract (CbtcWorld φ) CbtcReply :=
  match tx.call with
  | .transfer amount sender recipient memo => do
    let value ← CbtcWorld.onToken (Token.transfer tx.env amount sender recipient memo)
    pure (.bool value)
  | .mint amount recipient => do
    let value ← CbtcWorld.onToken (Token.mint tx.env amount recipient)
    pure (.bool value)
  | .burn amount => do
    let value ← CbtcWorld.onToken (Token.burn tx.env amount)
    pure (.bool value)
  | .addCbtcLiquidity cbtcSatsIn => do
    let value ← Pool.addCbtcLiquidity cp tx.env cbtcSatsIn
    pure (.uint value)
  | .removeCbtcLiquidity cbtcSatsOut => do
    let value ← Pool.removeCbtcLiquidity cp tx.env cbtcSatsOut
    pure (.uint value)
  | .withdrawStx stxOut => do
    let value ← Pool.withdrawStx cp tx.env stxOut
    pure (.uint value)
  | .swapStx stxIn => do
    let value ← Pool.swapStx cp code tx.depth tx.stack tx.env stxIn
    pure (.swap value)
  | .swapStxTrustless stxIn stxPriceFeed btcPriceFeed => do
    let value ← Pool.swapStxTrustless cp code tx.depth tx.stack tx.env stxIn stxPriceFeed
      btcPriceFeed
    pure (.swap value)

def CbtcTx.run {φ : Type} (cp : CbtcPlatform) (code : ForeignCode φ) (tx : CbtcTx) :
    Contract (CbtcWorld φ) CbtcReply :=
  (tx.body cp code).transaction

end PythBridge.Cbtc
