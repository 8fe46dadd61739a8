import PythBridge.Cbtc.Pool
import PythBridge.System.Governance

/-!
# The cBTC example — runs

Any calls by anybody, mixed with anything that happens to the oracle. The supply stays the sum of
the balances (`supply_is_sum_of_balances`), balances fall and the supply grows only through those
entitled to it (`only_holders_spend`), and the pool never spends: no swap or withdrawal succeeds
(`pool_never_pays`).

The crux is that the token does not care who calls it: directly or through the pool, what happens to
it is one of its changes, made with the authority to, or nothing (`run_outcome`). The laws of a
fungible token in the library are about sequences of changes, so a run of the world gives such a
sequence (`run_accounts`), and its accounting is the library's.

* `run_outcome`: one call.
* `supply_is_sum_of_balances`, `only_holders_spend`, `pool_never_pays`: runs.
-/

namespace PythBridge.Cbtc

open Clarity FungibleToken ClosedRun

variable {φ : Type} {cp : CbtcPlatform} (code : ForeignCode φ)

/-! ## Outcomes of a call

The functions of the token are known from `Token`, and the payouts of the pool from `Pool`. A
deposit is a transfer of the token whose error becomes `u1`. -/

/-- The change of the token a call asks for. -/
def CbtcTx.change? (cp : CbtcPlatform) (tx : CbtcTx) : Option (Change Principal) :=
  match tx.call with
  | .transfer amount sender recipient _ => some (.transferred amount sender recipient)
  | .mint amount recipient => some (.minted amount recipient)
  | .burn amount => some (.burned amount tx.env.txSender)
  | .addCbtcLiquidity cbtcSatsIn => some (.transferred cbtcSatsIn tx.env.txSender cp.cbtcPool)
  | _ => none

/-- The calls that compute something that can overflow. -/
def CbtcCall.Computes : CbtcCall → Prop
  | .mint _ _ | .swapStx _ | .swapStxTrustless _ _ _ => True
  | _ => False

/-- A call makes the change it asks for, with the authority to, or fails and changes nothing. -/
inductive CbtcTx.Outcome (cp : CbtcPlatform) (tx : CbtcTx) (w : CbtcWorld φ) :
    Exec CbtcReply × CbtcWorld φ → Prop where
  | changed {change : Change Principal} (reply : CbtcReply) (hchange : tx.change? cp = some change)
      (hauthorized : Token.Authorized tx.env.txSender change) (hallows : w.token.Allows change) :
      Outcome cp tx w (.ok reply, { w with token := w.token.apply change })
  | failed (e : Exit)
      (habort : e = .abort → ¬ w.token.Conserved ∨ 2 ^ 128 ≤ w.token.supply ∨ tx.call.Computes) :
      Outcome cp tx w (.error e, w)

/-- A public function of the token, seen from the world. -/
theorem transaction_onToken {α : Type} (m : Contract Token.Storage α) (f : α → CbtcReply)
    (w : CbtcWorld φ) :
    Contract.transaction (do let value ← CbtcWorld.onToken m; pure (f value)) w =
      match m.transaction w.token with
      | (.ok a, t) => (.ok (f a), { w with token := t })
      | (.error e, _) => (.error e, w) := by
  unfold CbtcWorld.onToken Contract.zoom Contract.transaction
  simp only [bind]
  rcases m w.token with ⟨_ | a, t⟩ <;> rfl

theorem outcome_of_token {tx : CbtcTx} {w : CbtcWorld φ} {m : Contract Token.Storage Bool}
    {change : Change Principal} (hchange : tx.change? cp = some change)
    (hcomputes : (∃ amount recipient, change = .minted amount recipient) → tx.call.Computes)
    (h : Token.Outcome tx.env w.token change (m.transaction w.token)) :
    tx.Outcome cp w
      (Contract.transaction (do let value ← CbtcWorld.onToken m; pure (.bool value)) w) := by
  rw [transaction_onToken]
  generalize m.transaction w.token = result at h
  cases h with
  | changed hauthorized hallows => exact .changed _ hchange hauthorized hallows
  | failed code => exact .failed _ nofun
  | aborted hoverflow =>
    exact .failed _ fun _ => hoverflow.imp_right (Or.imp_right hcomputes)

theorem addCbtcLiquidity_outcome {tx : CbtcTx} {cbtcSatsIn : Nat}
    (hcall : tx.call = .addCbtcLiquidity cbtcSatsIn) (w : CbtcWorld φ) :
    tx.Outcome cp w (Contract.transaction
      (do let value ← Pool.addCbtcLiquidity cp tx.env cbtcSatsIn; pure (.uint value)) w) := by
  have hchange : tx.change? cp =
      some (.transferred cbtcSatsIn tx.env.txSender cp.cbtcPool) := by
    rw [CbtcTx.change?, hcall]
  have htoken := Token.transfer_outcome tx.env w.token cbtcSatsIn tx.env.txSender cp.cbtcPool none
  generalize hrun : (Token.transfer tx.env cbtcSatsIn tx.env.txSender cp.cbtcPool none).transaction
    w.token = result at htoken
  -- the response of the token decides
  cases htoken with
  | changed hauthorized hallows =>
    have hadd : Pool.addCbtcLiquidity cp tx.env cbtcSatsIn w = (.ok cbtcSatsIn, _) :=
      Contract.bind_of_ok (CbtcWorld.onToken_of_run (Contract.respond_of_ok hrun)) _
    rw [Contract.transaction, Contract.bind_of_ok hadd]
    exact .changed _ hchange hauthorized hallows
  | failed code =>
    have hadd : Pool.addCbtcLiquidity cp tx.env cbtcSatsIn w = (.error (.err 1), _) :=
      Contract.bind_of_ok (CbtcWorld.onToken_of_run (Contract.respond_of_err hrun)) _
    rw [Contract.transaction, Contract.bind_of_error hadd]
    refine .failed _ fun habort => ?_
    cases habort
  | aborted hoverflow =>
    have hadd : Pool.addCbtcLiquidity cp tx.env cbtcSatsIn w = (.error .abort, _) :=
      Contract.bind_of_error (CbtcWorld.onToken_of_run (Contract.respond_of_abort hrun)) _
    rw [Contract.transaction, Contract.bind_of_error hadd]
    refine .failed _ fun _ => hoverflow.imp_right (.imp_right ?_)
    rintro ⟨_, _, hminted⟩
    cases hminted

/-- What a withdrawal or a swap of the pool can answer. -/
def CbtcCall.payoutExits : CbtcCall → List Exit
  | .removeCbtcLiquidity _ | .withdrawStx _ => [.err 1]
  | .swapStx _ => [.err 0, .err 1000, .abort]
  | .swapStxTrustless _ _ _ => [.err 0, .err 404, .err 1000, .abort]
  | _ => []

/-- The calls that would pay out of the pool. -/
def CbtcCall.PaysOut (c : CbtcCall) : Prop := c.payoutExits ≠ []

/-- A transaction of anybody but the pool. -/
def CbtcTx.External (cp : CbtcPlatform) (tx : CbtcTx) : Prop := tx.env.txSender ≠ cp.cbtcPool

theorem transaction_of_error {α β : Type} {m : Contract (CbtcWorld φ) α} {w w' : CbtcWorld φ}
    {e : Exit} (h : m w = (.error e, w')) (f : α → Contract (CbtcWorld φ) β) :
    Contract.transaction (m >>= f) w = (.error e, w) := by
  rw [Contract.transaction, Contract.bind_of_error h]

/-- A payout fails, and the world is as it was. -/
theorem run_of_paysOut {tx : CbtcTx} (hexternal : tx.External cp) (hpays : tx.call.PaysOut)
    (w : CbtcWorld φ) : ∃ e ∈ tx.call.payoutExits, tx.run cp code w = (.error e, w) := by
  obtain ⟨depth, stack, env, call⟩ := tx
  cases call with
  | transfer | mint | burn | addCbtcLiquidity => exact absurd rfl hpays
  | removeCbtcLiquidity cbtcSatsOut =>
    exact ⟨.err 1, .head _, transaction_of_error
      (Pool.removeCbtcLiquidity_of_external hexternal cbtcSatsOut w) _⟩
  | withdrawStx stxOut =>
    exact ⟨.err 1, .head _, transaction_of_error
      (Pool.withdrawStx_of_external hexternal stxOut w) _⟩
  | swapStx stxIn =>
    obtain ⟨e, w', hrun, he⟩ := Pool.swapStx_fails code depth stack hexternal stxIn
      w
    exact ⟨e, by simpa [CbtcCall.payoutExits] using he, transaction_of_error hrun _⟩
  | swapStxTrustless stxIn stxPriceFeed btcPriceFeed =>
    obtain ⟨e, w', hrun, he⟩ := Pool.swapStxTrustless_fails code depth stack
      hexternal stxIn stxPriceFeed btcPriceFeed w
    exact ⟨e, by simpa [CbtcCall.payoutExits] using he, transaction_of_error hrun _⟩

/-- **What a call does.** -/
theorem run_outcome {tx : CbtcTx} (hexternal : tx.External cp) (w : CbtcWorld φ) :
    tx.Outcome cp w (tx.run cp code w) := by
  -- a payout fails in any case; of the other calls each has its outcome
  by_cases hpays : tx.call.PaysOut
  · obtain ⟨e, he, hrun⟩ := run_of_paysOut code hexternal hpays w
    rw [hrun]
    refine .failed e fun habort => .inr (.inr ?_)
    subst habort
    cases hcall : tx.call <;> simp_all [CbtcCall.payoutExits, CbtcCall.Computes]
  · obtain ⟨depth, stack, env, call⟩ := tx
    cases call with
    | transfer amount sender recipient memo =>
      exact outcome_of_token rfl nofun
        (Token.transfer_outcome env w.token amount sender recipient memo)
    | mint amount recipient =>
      exact outcome_of_token rfl (fun _ => trivial)
        (Token.mint_outcome env w.token amount recipient)
    | burn amount => exact outcome_of_token rfl nofun (Token.burn_outcome env w.token amount)
    | addCbtcLiquidity cbtcSatsIn => exact addCbtcLiquidity_outcome rfl w
    | _ => exact absurd (List.cons_ne_nil _ _) hpays

/-! ## Runs

Events of the oracle's world do not touch the token. -/

/-- One event: a call of the token or the pool, or an event of the oracle's world. -/
inductive CbtcEvent (φ : Type) where
  | call (tx : CbtcTx)
  | oracle (e : Event φ)

def CbtcEvent.External (cp : CbtcPlatform) : CbtcEvent φ → Prop
  | .call tx => tx.External cp
  | .oracle _ => True

def CbtcWorld.step (cp : CbtcPlatform) (code : ForeignCode φ) (w : CbtcWorld φ) :
    CbtcEvent φ → CbtcWorld φ
  | .call tx => (tx.run cp code w).2
  | .oracle e => { w with pyth := World.step cp.pyth code w.pyth e }

/-- The change of the token an event makes. -/
def CbtcWorld.changes (cp : CbtcPlatform) (code : ForeignCode φ) (w : CbtcWorld φ) :
    CbtcEvent φ → List (Change Principal)
  | .call tx =>
    match (tx.run cp code w).1 with
    | .ok _ => (tx.change? cp).toList
    | .error _ => []
  | .oracle _ => []

/-- An event makes one authorized change of the token, or none. -/
theorem step_cases {e : CbtcEvent φ} (hexternal : e.External cp) (w : CbtcWorld φ) :
    (∃ change tx, e = .call tx ∧ w.changes cp code e = [change] ∧
      Token.Authorized tx.env.txSender change ∧ w.token.Allows change ∧
      (w.step cp code e).token = w.token.apply change) ∨
    (w.changes cp code e = [] ∧ (w.step cp code e).token = w.token) := by
  cases e with
  | oracle e => exact .inr ⟨rfl, rfl⟩
  | call tx =>
    have hrun := run_outcome code hexternal w
    unfold CbtcWorld.changes CbtcWorld.step
    dsimp only
    generalize tx.run cp code w = result at hrun
    cases hrun with
    | @changed change reply hchange hauthorized hallows =>
      exact .inl ⟨change, tx, rfl, by rw [hchange]; rfl, hauthorized, hallows, rfl⟩
    | failed e => exact .inr ⟨rfl, rfl⟩

/-- The changes of a run account for the token at its end. -/
theorem run_accounts {events : List (CbtcEvent φ)} (hexternal : ∀ e ∈ events, e.External cp)
    (w : CbtcWorld φ) :
    Accounts w.token
      (outputs (CbtcWorld.step cp code) (CbtcWorld.changes cp code) w events)
      (afterRun (CbtcWorld.step cp code) w events).token := by
  refine outputs_rel (CbtcWorld.changes cp code)
    (R := fun w changes w' => Accounts w.token changes w'.token) (fun w => .nil w.token)
    (fun _ _ _ _ _ h h' => h.append h') (fun w e he => ?_) w
  rcases step_cases code (hexternal e he) w with
    ⟨change, tx, -, hchanges, -, hallows, htoken⟩ | ⟨hchanges, htoken⟩
  · rw [hchanges, htoken]
    exact .single hallows
  · rw [hchanges, htoken]
    exact .nil w.token

/-! ## A run

The platform of the example, and a run in which everything is tried once. -/

def sampleCbtc : CbtcPlatform := ⟨.reference, ⟨26, List.replicate 20 7⟩⟩

def deployedCbtc : CbtcWorld Unit := ⟨fresh, .empty⟩

def callBy (sender : Principal) (c : CbtcCall) : CbtcEvent Unit :=
  .call ⟨4, [], { sampleEnv with txSender := sender }, c⟩

def mallory : Principal := .standard ⟨26, List.replicate 20 8⟩

/-- The authority mints, the account deposits and burns, and then nobody gets anything: somebody
else wants the tokens of the account, and the account its deposit, the pool's STX and a swap. -/
def sampleEvents : List (CbtcEvent Unit) :=
  [callBy Token.AUTHORITY (.mint 1000 account), callBy account (.addCbtcLiquidity 400),
    callBy account (.burn 100), callBy mallory (.transfer 500 account mallory none),
    callBy account (.removeCbtcLiquidity 400), callBy account (.withdrawStx 5),
    callBy account (.swapStx 10)]

theorem sampleEvents_external : ∀ e ∈ sampleEvents, e.External sampleCbtc := by
  have hcall : ∀ sender c, sender ≠ sampleCbtc.cbtcPool →
      (callBy sender c).External sampleCbtc := fun _ _ h => h
  simp only [sampleEvents, List.forall_mem_cons]
  refine ⟨hcall _ _ ?_, hcall _ _ ?_, hcall _ _ ?_, hcall _ _ ?_, hcall _ _ ?_, hcall _ _ ?_,
    hcall _ _ ?_, nofun⟩ <;> decide

/-! ## What holds over runs

Each result is read off the sequence of changes, or carried along the run by a relation. -/

/-- **The supply is the sum of the balances.** After any calls since the deployment, the supply
is the sum of the balances, it fits into 128 bits, and it is what was minted less what was burned;
every balance is what was received less what was given away. No transfer, burn, deposit or
withdrawal aborts. -/
theorem supply_is_sum_of_balances {w : CbtcWorld φ} (hdeployed : w.token = .empty)
    {events : List (CbtcEvent φ)} (hexternal : ∀ e ∈ events, e.External cp) :
    let w' := afterRun (CbtcWorld.step cp code) w events
    let changes := outputs (CbtcWorld.step cp code) (CbtcWorld.changes cp code) w events
    w'.token.Conserved ∧ w'.token.supply < 2 ^ 128 ∧
      w'.token.supply + (changes.map Change.burns).sum = (changes.map Change.mints).sum ∧
      (∀ p, w'.token.balances p + (changes.map (Change.debit p)).sum =
        (changes.map (Change.credit p)).sum) ∧
      ∀ tx : CbtcTx, tx.External cp → ¬ tx.call.Computes →
        (tx.run cp code w').1 ≠ .error .abort := by
  intro w' changes
  have haccounts : Accounts w.token changes w'.token := run_accounts code hexternal w
  rw [hdeployed] at haccounts
  have hconserved : w'.token.Conserved := haccounts.conserved conserved_empty
  have hfits : w'.token.supply < 2 ^ 128 := haccounts.fits (Nat.two_pow_pos 128)
  refine ⟨hconserved, hfits, ?_, fun p => ?_, fun tx htx hcomputes habort => ?_⟩
  · exact haccounts.supply.trans (Nat.zero_add _)
  · exact (haccounts.balance p).trans (Nat.zero_add _)
  · have hrun := run_outcome code htx w'
    generalize tx.run cp code w' = result at hrun habort
    cases hrun with
    | changed => cases habort
    | failed e hoverflow =>
      obtain rfl : e = .abort := by injection habort
      -- a sound token has no reason to abort, so the call would have to compute
      rcases hoverflow rfl with hnot | hlarge | hcall
      · exact hnot hconserved
      · exact absurd hfits (Nat.not_lt.mpr hlarge)
      · exact hcomputes hcall

theorem supply_is_sum_of_balances_sample :
    (afterRun (CbtcWorld.step sampleCbtc silent) deployedCbtc sampleEvents).token.supply = 900 ∧
      (afterRun (CbtcWorld.step sampleCbtc silent) deployedCbtc sampleEvents).token.Conserved :=
  ⟨by decide +kernel,
    (supply_is_sum_of_balances silent rfl sampleEvents_external).1⟩

/-- A balance that its holder does not touch does not fall. -/
theorem balance_le_of_untouched {events : List (CbtcEvent φ)}
    (hexternal : ∀ e ∈ events, e.External cp) {p : Principal}
    (huntouched : ∀ tx : CbtcTx, .call tx ∈ events → tx.env.txSender ≠ p) (w : CbtcWorld φ) :
    w.token.balances p ≤ (afterRun (CbtcWorld.step cp code) w events).token.balances p := by
  refine afterRun_rel (R := fun w w' => w.token.balances p ≤ w'.token.balances p)
    (fun _ => Nat.le_refl _) (fun _ _ _ => Nat.le_trans) (fun w e he => ?_) w
  rcases step_cases code (hexternal e he) w with
    ⟨change, tx, rfl, -, hauthorized, hallows, htoken⟩ | ⟨-, htoken⟩
  · have hne := huntouched tx he
    -- a debit of this balance needs its holder as the sender
    have hdebit : change.debit p = 0 := by
      cases change with
      | transferred amount sender recipient =>
        exact if_neg fun heq => hne (hauthorized.trans heq.symm)
      | minted amount recipient => rfl
      | burned amount sender => exact if_neg fun heq => hne (hauthorized.trans heq.symm)
    have hbalance := balance_apply hallows p
    rw [htoken]
    omega
  · rw [htoken]

/-- **Only holders spend.** Over any calls, the balance of a principal that sends no transaction
of them does not fall, whatever the others call; and the supply does not grow unless the authority
sends one. -/
theorem only_holders_spend {events : List (CbtcEvent φ)} (hexternal : ∀ e ∈ events, e.External cp)
    (w : CbtcWorld φ) :
    (∀ p, (∀ tx : CbtcTx, .call tx ∈ events → tx.env.txSender ≠ p) →
      w.token.balances p ≤ (afterRun (CbtcWorld.step cp code) w events).token.balances p) ∧
    ((∀ tx : CbtcTx, .call tx ∈ events → tx.env.txSender ≠ Token.AUTHORITY) →
      (afterRun (CbtcWorld.step cp code) w events).token.supply ≤ w.token.supply) := by
  refine ⟨fun p huntouched => balance_le_of_untouched code hexternal huntouched w, fun hnone => ?_⟩
  refine afterRun_rel (R := fun w w' => w'.token.supply ≤ w.token.supply)
    (fun _ => Nat.le_refl _) (fun _ _ _ h h' => Nat.le_trans h' h) (fun w e he => ?_) w
  rcases step_cases code (hexternal e he) w with
    ⟨change, tx, rfl, -, hauthorized, hallows, htoken⟩ | ⟨-, htoken⟩
  · -- the supply grows by minting only
    have hmints : change.mints = 0 := by
      cases change with
      | transferred => rfl
      | minted amount recipient => exact absurd hauthorized (hnone tx he)
      | burned => rfl
    have hsupply := supply_apply hallows
    rw [htoken]
    omega
  · rw [htoken]

/-- Somebody else's transfer leaves the account what it has. -/
theorem only_holders_spend_mallory :
    let w := afterRun (CbtcWorld.step sampleCbtc silent) deployedCbtc (sampleEvents.take 3)
    w.token.balances account = 500 ∧ 500 ≤ (afterRun (CbtcWorld.step sampleCbtc silent) w
      [callBy mallory (.transfer 500 account mallory none)]).token.balances account := by
  intro w
  have hbalance : w.token.balances account = 500 := by decide +kernel
  have hexternal : ∀ e ∈ [callBy mallory (.transfer 500 account mallory none)],
      e.External sampleCbtc := fun e he =>
    sampleEvents_external e (List.mem_singleton.mp he ▸ by simp [sampleEvents])
  have hothers : ∀ tx : CbtcTx, .call tx ∈ [callBy mallory (.transfer 500 account mallory none)] →
      tx.env.txSender ≠ account := by
    intro tx htx
    cases List.mem_singleton.mp htx
    decide
  refine ⟨hbalance, ?_⟩
  have hspend := (only_holders_spend silent hexternal w).1 account hothers
  rwa [hbalance] at hspend

/-- **The pool never pays.** Over any calls, the balance of the pool does not fall: every call
that would pay out of it fails, in one of the ways listed for it, and leaves the whole world as it
was, the oracle's prices and fees included. -/
theorem pool_never_pays {events : List (CbtcEvent φ)} (hexternal : ∀ e ∈ events, e.External cp)
    (w : CbtcWorld φ) :
    w.token.balances cp.cbtcPool ≤
        (afterRun (CbtcWorld.step cp code) w events).token.balances cp.cbtcPool ∧
      ∀ before (tx : CbtcTx) after, events = before ++ .call tx :: after → tx.call.PaysOut →
        ∃ e ∈ tx.call.payoutExits,
          tx.run cp code (afterRun (CbtcWorld.step cp code) w before) =
            (.error e, afterRun (CbtcWorld.step cp code) w before) := by
  have htx : ∀ tx : CbtcTx, .call tx ∈ events → tx.External cp := fun tx he => hexternal _ he
  refine ⟨balance_le_of_untouched code hexternal htx w, fun before tx after hsplit hpays => ?_⟩
  exact run_of_paysOut code (htx tx (hsplit ▸ List.mem_append_right _ List.mem_cons_self)) hpays _

/-- The deposit of the sample run stays where it is. -/
theorem pool_never_pays_sample :
    (afterRun (CbtcWorld.step sampleCbtc silent) deployedCbtc (sampleEvents.take 2)).token.balances
        sampleCbtc.cbtcPool = 400 ∧
      400 ≤ (afterRun (CbtcWorld.step sampleCbtc silent)
        (afterRun (CbtcWorld.step sampleCbtc silent) deployedCbtc (sampleEvents.take 2))
        (sampleEvents.drop 2)).token.balances sampleCbtc.cbtcPool := by
  have hbalance : (afterRun (CbtcWorld.step sampleCbtc silent) deployedCbtc
      (sampleEvents.take 2)).token.balances sampleCbtc.cbtcPool = 400 := by decide +kernel
  have hexternal : ∀ e ∈ sampleEvents.drop 2, e.External sampleCbtc := fun e he =>
    sampleEvents_external e (List.mem_of_mem_drop he)
  have hpool := (pool_never_pays silent hexternal (afterRun
    (CbtcWorld.step sampleCbtc silent) deployedCbtc (sampleEvents.take 2))).1
  rw [hbalance] at hpool
  exact ⟨hbalance, hpool⟩

end PythBridge.Cbtc
