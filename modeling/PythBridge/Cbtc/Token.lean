import PythBridge.Clarity.FungibleToken
import PythBridge.Storage

/-!
# The cBTC example — `cbtc-token`

A SIP-010 token. A balance is spent by its holder alone, and one account mints.

The functions are those of the token of the platform with a check in front: `transfer` asks that the
sender of the transaction is the one who pays, `mint` that it is the authority, and `burn` burns of
the sender itself. So each of them is a change of the token that the sender is entitled to, or it
changes nothing (`Outcome`), and the three lemmas below are all that the rest of the example knows
about the token.
-/

namespace PythBridge.Cbtc

open Clarity

namespace Token

/-- `ST1SJ3DTE5DN7X54YDH5D64R3BCB6A2AG2ZQ8YPD5`. -/
def AUTHORITY : Principal :=
  .standard ⟨26, [0x73, 0x21, 0xb7, 0x4e, 0x2b, 0x6a, 0x7e, 0x94, 0x9e, 0x6c, 0x4a, 0xd3, 0x13,
    0x03, 0x5b, 0x16, 0x65, 0x09, 0x50, 0x17]⟩

abbrev Storage := FungibleToken Principal

/-- The body of `get-balance`. -/
def getBalance (owner : Principal) : Contract Storage Nat := .gets fun t => t.balances owner

/-- The body of `get-total-supply`. -/
def getTotalSupply : Contract Storage Nat := .gets fun t => t.supply

/-- Transfers tokens to a recipient. The memo is printed only. -/
def transfer (env : TxEnv) (amount : Nat) (sender recipient : Principal) (_memo : Option Buff) :
    Contract Storage Bool :=
  if env.txSender = sender then do
    let transferred ← FungibleToken.ftTransfer? amount sender recipient
    let _ ← .lift (tryResponse transferred)
    pure true
  else .lift (.error (.err 4))

/-- Mints tokens for a recipient, for the authority only. -/
def mint (env : TxEnv) (amount : Nat) (recipient : Principal) : Contract Storage Bool := do
  .lift (asserts (env.txSender = AUTHORITY) 0)
  let minted ← FungibleToken.ftMint? amount recipient
  .lift (tryResponse minted)

/-- Burns tokens of the sender of the transaction. -/
def burn (env : TxEnv) (amount : Nat) : Contract Storage Bool := do
  let burned ← FungibleToken.ftBurn? amount env.txSender
  .lift (tryResponse burned)

/-! ## Outcomes

An outcome says what a call changes, who may bring the change about, and when it aborts. The only
arithmetic that could abort outside of minting is a balance that overflows, and that needs a supply
which is not the sum of the balances or does not fit. -/

/-- Who brings a change about: holders spend and burn what is theirs, and one account mints. -/
def Authorized (txSender : Principal) : FungibleToken.Change Principal → Prop
  | .transferred _ sender _ => txSender = sender
  | .minted _ _ => txSender = AUTHORITY
  | .burned _ sender => txSender = sender

/-- A public function of the token makes an authorized change, or fails and changes nothing. -/
inductive Outcome (env : TxEnv) (t : Storage) (change : FungibleToken.Change Principal) :
    Exec Bool × Storage → Prop where
  | changed (hauthorized : Authorized env.txSender change) (hallows : t.Allows change) :
      Outcome env t change (.ok true, t.apply change)
  | failed (code : Nat) : Outcome env t change (.error (.err code), t)
  | aborted (hoverflow : ¬ t.Conserved ∨ 2 ^ 128 ≤ t.supply ∨ ∃ amount recipient,
      change = .minted amount recipient) : Outcome env t change (.error .abort, t)

variable (env : TxEnv) (t : Storage) (amount : Nat) (sender recipient : Principal)

/-- A transfer moves what the sender has, or is refused. -/
theorem transfer_outcome (memo : Option Buff) :
    Outcome env t (.transferred amount sender recipient)
      ((transfer env amount sender recipient memo).transaction t) := by
  unfold transfer
  by_cases hsender : env.txSender = sender
  · rw [if_pos hsender]
    rcases FungibleToken.ftTransfer?_cases t amount sender recipient with
      ⟨hallows, hrun⟩ | ⟨code, hrun⟩ | ⟨hover, hne, hle, hrun⟩
    · rw [Contract.transaction, Contract.bind_of_ok hrun]
      exact .changed hsender hallows
    · rw [Contract.transaction, Contract.bind_of_ok hrun]
      exact .failed code
    · rw [Contract.transaction, Contract.bind_of_error hrun]
      -- a recipient whose balance overflows has more than the supply
      refine .aborted (or_iff_not_imp_left.mpr fun hconserved => .inl ?_)
      have htwo := (not_not.mp hconserved).add_balance_le hne
      omega
  · rw [if_neg hsender]
    exact .failed 4

/-- A minting goes to anybody, and comes from the authority. -/
theorem mint_outcome :
    Outcome env t (.minted amount recipient) ((mint env amount recipient).transaction t) := by
  unfold mint
  by_cases hsender : env.txSender = AUTHORITY
  · have hasserts : (Contract.lift (asserts (env.txSender = AUTHORITY) 0) :
        Contract Storage Unit) t = (.ok (), t) := by
      rw [Contract.lift_apply, asserts_eq_ok.mpr hsender]
    rw [Contract.transaction, Contract.bind_of_ok hasserts]
    -- an overflow of the supply aborts, whatever the supply was before
    rcases FungibleToken.ftMint?_cases t amount recipient with ⟨hallows, hrun⟩ | hrun | hrun
    · rw [Contract.bind_of_ok hrun]
      exact .changed hsender hallows
    · rw [Contract.bind_of_ok hrun]
      exact .failed 1
    · rw [Contract.bind_of_error hrun]
      exact .aborted (.inr (.inr ⟨amount, recipient, rfl⟩))
  · have hasserts : (Contract.lift (asserts (env.txSender = AUTHORITY) 0) :
        Contract Storage Unit) t = (.error (.err 0), t) := by
      rw [Contract.lift_apply, asserts, if_neg hsender]
    rw [Contract.transaction, Contract.bind_of_error hasserts]
    exact .failed 0

/-- A burning is of the sender's own tokens. -/
theorem burn_outcome :
    Outcome env t (.burned amount env.txSender) ((burn env amount).transaction t) := by
  unfold burn
  rcases FungibleToken.ftBurn?_cases t amount env.txSender with
    ⟨hallows, hrun⟩ | hrun | ⟨hle, hover, hrun⟩
  · rw [Contract.transaction, Contract.bind_of_ok hrun]
    exact .changed rfl hallows
  · rw [Contract.transaction, Contract.bind_of_ok hrun]
    exact .failed 1
  · rw [Contract.transaction, Contract.bind_of_error hrun]
    -- the supply is smaller than a balance, against conservation
    refine .aborted (.inl fun hconserved => ?_)
    have hone := hconserved.balance_le env.txSender
    omega

end Token

end PythBridge.Cbtc
