import Mathlib.Algebra.BigOperators.Group.Finset.Basic
import Mathlib.Algebra.GroupWithZero.Nat
import Mathlib.Algebra.Order.BigOperators.Group.Finset
import PythBridge.Clarity.Exec

/-!
# Clarity — fungible tokens

`define-fungible-token` keeps a balance for every holder and the supply. The three functions that
change them are `ft-transfer?`, `ft-mint?` and `ft-burn?`. The supply is the sum of the balances
(`Conserved`) as long as nothing else changes the token, and then no addition to a balance
overflows unless the supply does.

An operation is taken apart once, into the *change* that it makes (`Change`), and everything else is
proved about changes:

* **`ftTransfer?_cases`, `ftMint?_cases`, `ftBurn?_cases`** — an operation makes its change, or
  reports an error, or aborts, and only the first alters the token.
* **`balance_apply`, `supply_apply`** — what a change adds to a balance and to the supply.
* **`Conserved.apply`** — the supply stays the sum of the balances.
* **`Accounts`** — the three together for a list of changes; it composes (`Accounts.append`), so a
  run of calls is accounted for call by call.
-/

namespace PythBridge.Clarity

/-- The balances and the supply of a token, over the type of its holders. -/
structure FungibleToken (α : Type) where
  balances : α → Nat
  supply : Nat

namespace FungibleToken

variable {α : Type}

/-- A token nobody holds. -/
def empty : FungibleToken α := ⟨fun _ => 0, 0⟩

section Operations

variable [DecidableEq α]

/-- One balance is replaced, and the supply is left as it is. -/
def setBalance (t : FungibleToken α) (holder : α) (balance : Nat) : FungibleToken α :=
  { t with balances := Function.update t.balances holder balance }

/-- `ft-transfer?`. It fails with `u3` on a zero amount, with `u2` when sender and recipient are
equal and with `u1` when the balance is too small; an overflow of the recipient's balance
aborts. -/
def ftTransfer? (amount : Nat) (sender recipient : α) :
    Contract (FungibleToken α) (Response Bool) := fun t =>
  if amount = 0 then (.ok (.error 3), t)
  else if sender = recipient then (.ok (.error 2), t)
  else if t.balances sender < amount then (.ok (.error 1), t)
  else if t.balances recipient + amount < 2 ^ 128 then
    (.ok (.ok true), (t.setBalance sender (t.balances sender - amount)).setBalance recipient
      (t.balances recipient + amount))
  else (.error .abort, t)

/-- `ft-mint?`. It fails with `u1` on a zero amount; an overflow of the supply aborts. -/
def ftMint? (amount : Nat) (recipient : α) : Contract (FungibleToken α) (Response Bool) := fun t =>
  if amount = 0 then (.ok (.error 1), t)
  else if t.supply + amount < 2 ^ 128 then
    if t.balances recipient + amount < 2 ^ 128 then
      (.ok (.ok true),
        { t.setBalance recipient (t.balances recipient + amount) with
          supply := t.supply + amount })
    else (.error .abort, t)
  else (.error .abort, t)

/-- `ft-burn?`. It fails with `u1` on a zero amount and when the balance is too small; an underflow
of the supply aborts. -/
def ftBurn? (amount : Nat) (sender : α) : Contract (FungibleToken α) (Response Bool) := fun t =>
  if amount = 0 then (.ok (.error 1), t)
  else if t.balances sender < amount then (.ok (.error 1), t)
  else if amount ≤ t.supply then
    (.ok (.ok true),
      { t.setBalance sender (t.balances sender - amount) with supply := t.supply - amount })
  else (.error .abort, t)

end Operations

/-! ## What an operation does -/

/-- A balance is moved, added or taken away. -/
inductive Change (α : Type) where
  | transferred (amount : Nat) (sender recipient : α)
  | minted (amount : Nat) (recipient : α)
  | burned (amount : Nat) (sender : α)
deriving DecidableEq, Repr

section Changes

variable [DecidableEq α] {t t' : FungibleToken α} {amount : Nat} {sender recipient : α}

/-- The token after a change. -/
def apply (t : FungibleToken α) : Change α → FungibleToken α
  | .transferred amount sender recipient =>
    (t.setBalance sender (t.balances sender - amount)).setBalance recipient
      (t.balances recipient + amount)
  | .minted amount recipient =>
    { t.setBalance recipient (t.balances recipient + amount) with supply := t.supply + amount }
  | .burned amount sender =>
    { t.setBalance sender (t.balances sender - amount) with supply := t.supply - amount }

/-- When a change is possible. -/
def Allows (t : FungibleToken α) : Change α → Prop
  | .transferred amount sender recipient =>
    amount ≠ 0 ∧ sender ≠ recipient ∧ amount ≤ t.balances sender ∧
      t.balances recipient + amount < 2 ^ 128
  | .minted amount recipient =>
    amount ≠ 0 ∧ t.supply + amount < 2 ^ 128 ∧ t.balances recipient + amount < 2 ^ 128
  | .burned amount sender => amount ≠ 0 ∧ amount ≤ t.balances sender ∧ amount ≤ t.supply

/-- The operations, by their outcome: an error response and an abort change nothing. -/
theorem ftTransfer?_cases (t : FungibleToken α) (amount : Nat) (sender recipient : α) :
    (t.Allows (.transferred amount sender recipient) ∧
      ftTransfer? amount sender recipient t =
        (.ok (.ok true), t.apply (.transferred amount sender recipient))) ∨
    (∃ code, ftTransfer? amount sender recipient t = (.ok (.error code), t)) ∨
    (2 ^ 128 ≤ t.balances recipient + amount ∧ sender ≠ recipient ∧ amount ≤ t.balances sender ∧
      ftTransfer? amount sender recipient t = (.error .abort, t)) := by
  unfold ftTransfer?
  -- the checks in the order of the machine; behind the last of them only the addition can fail
  by_cases hzero : amount = 0
  · exact .inr (.inl ⟨3, if_pos hzero⟩)
  rw [if_neg hzero]
  by_cases hsame : sender = recipient
  · exact .inr (.inl ⟨2, if_pos hsame⟩)
  rw [if_neg hsame]
  by_cases hlow : t.balances sender < amount
  · exact .inr (.inl ⟨1, if_pos hlow⟩)
  rw [if_neg hlow]
  by_cases hfits : t.balances recipient + amount < 2 ^ 128
  · exact .inl ⟨⟨hzero, hsame, Nat.le_of_not_lt hlow, hfits⟩, if_pos hfits⟩
  · exact .inr (.inr ⟨Nat.le_of_not_lt hfits, hsame, Nat.le_of_not_lt hlow, if_neg hfits⟩)

/-- Minting adds to the supply first, so an overflow of the supply aborts whoever is the recipient.
-/
theorem ftMint?_cases (t : FungibleToken α) (amount : Nat) (recipient : α) :
    (t.Allows (.minted amount recipient) ∧
      ftMint? amount recipient t = (.ok (.ok true), t.apply (.minted amount recipient))) ∨
    ftMint? amount recipient t = (.ok (.error 1), t) ∨
    ftMint? amount recipient t = (.error .abort, t) := by
  unfold ftMint?
  by_cases hzero : amount = 0
  · exact .inr (.inl (if_pos hzero))
  rw [if_neg hzero]
  -- the supply is checked in front of the balance
  by_cases hsupply : t.supply + amount < 2 ^ 128
  · rw [if_pos hsupply]
    by_cases hfits : t.balances recipient + amount < 2 ^ 128
    · exact .inl ⟨⟨hzero, hsupply, hfits⟩, if_pos hfits⟩
    · exact .inr (.inr (if_neg hfits))
  · exact .inr (.inr (if_neg hsupply))

/-- A balance above the supply would abort; in a conserved token there is none. -/
theorem ftBurn?_cases (t : FungibleToken α) (amount : Nat) (sender : α) :
    (t.Allows (.burned amount sender) ∧
      ftBurn? amount sender t = (.ok (.ok true), t.apply (.burned amount sender))) ∨
    ftBurn? amount sender t = (.ok (.error 1), t) ∨
    (amount ≤ t.balances sender ∧ t.supply < amount ∧
      ftBurn? amount sender t = (.error .abort, t)) := by
  unfold ftBurn?
  by_cases hzero : amount = 0
  · exact .inr (.inl (if_pos hzero))
  rw [if_neg hzero]
  by_cases hlow : t.balances sender < amount
  · exact .inr (.inl (if_pos hlow))
  rw [if_neg hlow]
  by_cases hsupply : amount ≤ t.supply
  · exact .inl ⟨⟨hzero, Nat.le_of_not_lt hlow, hsupply⟩, if_pos hsupply⟩
  · exact .inr (.inr ⟨Nat.le_of_not_lt hlow, Nat.lt_of_not_le hsupply, if_neg hsupply⟩)

/-! ## Balances after a change

Natural numbers do not subtract, so the equations have the debit on the left side: the new balance
and what was taken are the old balance and what was given. -/

/-- What a change adds to a balance. -/
def Change.credit (holder : α) : Change α → Nat
  | .transferred amount _ recipient => if holder = recipient then amount else 0
  | .minted amount recipient => if holder = recipient then amount else 0
  | .burned _ _ => 0

/-- What a change takes from a balance. -/
def Change.debit (holder : α) : Change α → Nat
  | .transferred amount sender _ => if holder = sender then amount else 0
  | .minted _ _ => 0
  | .burned amount sender => if holder = sender then amount else 0

/-- What a change adds to the supply. -/
def Change.mints : Change α → Nat
  | .minted amount _ => amount
  | _ => 0

/-- What a change takes from the supply. -/
def Change.burns : Change α → Nat
  | .burned amount _ => amount
  | _ => 0

@[simp] theorem setBalance_self (t : FungibleToken α) (holder : α) (balance : Nat) :
    (t.setBalance holder balance).balances holder = balance :=
  Function.update_self ..

/-- The frame of a balance: nobody else's changes. -/
theorem setBalance_of_ne (t : FungibleToken α) {holder other : α} (h : other ≠ holder)
    (balance : Nat) : (t.setBalance holder balance).balances other = t.balances other :=
  Function.update_of_ne h ..

/-- A balance gains its credit and loses its debit. -/
theorem balance_apply {change : Change α} (h : t.Allows change) (holder : α) :
    (t.apply change).balances holder + change.debit holder =
      t.balances holder + change.credit holder := by
  cases change with
  | transferred amount sender recipient =>
    obtain ⟨-, hne, hle, -⟩ := h
    simp only [apply, Change.debit, Change.credit]
    -- the holder receives, or sends, or has nothing to do with the transfer
    by_cases hrecipient : holder = recipient
    · subst hrecipient
      rw [setBalance_self, if_neg (Ne.symm hne), if_pos rfl, Nat.add_zero]
    · rw [setBalance_of_ne _ hrecipient, if_neg hrecipient]
      by_cases hsender : holder = sender
      · subst hsender
        rw [setBalance_self, if_pos rfl]
        omega
      · rw [setBalance_of_ne _ hsender, if_neg hsender]
  | minted amount recipient =>
    simp only [apply, Change.debit, Change.credit, Nat.add_zero]
    by_cases hrecipient : holder = recipient
    · subst hrecipient
      rw [setBalance_self, if_pos rfl]
    · rw [setBalance_of_ne _ hrecipient, if_neg hrecipient, Nat.add_zero]
  | burned amount sender =>
    obtain ⟨-, hle, -⟩ := h
    simp only [apply, Change.debit, Change.credit]
    by_cases hsender : holder = sender
    · subst hsender
      rw [setBalance_self, if_pos rfl]
      omega
    · rw [setBalance_of_ne _ hsender, if_neg hsender]

/-- A transfer leaves the supply alone, and the two others move it by their amount. -/
theorem supply_apply {change : Change α} (h : t.Allows change) :
    (t.apply change).supply + change.burns = t.supply + change.mints := by
  cases change with
  | transferred => rfl
  | minted => rfl
  | burned amount sender =>
    obtain ⟨-, -, hle⟩ := h
    show t.supply - amount + amount = t.supply
    omega

/-! ## Conservation

The sum over all holders is a sum over finitely many, those who hold something. It can be taken over
more of them, which is what a change needs whose recipient held nothing before. -/

/-- The supply is the sum of the balances, of which finitely many are not zero. -/
def Conserved (t : FungibleToken α) : Prop :=
  ∃ holders : Finset α, (∀ holder, holder ∉ holders → t.balances holder = 0) ∧
    ∑ holder ∈ holders, t.balances holder = t.supply

omit [DecidableEq α] in
/-- A token nobody holds is conserved. -/
theorem conserved_empty : (empty : FungibleToken α).Conserved :=
  ⟨∅, fun _ _ => rfl, rfl⟩

/-- The sum can be taken over more holders. -/
theorem Conserved.exists_superset (h : t.Conserved) (more : Finset α) :
    ∃ holders, more ⊆ holders ∧ (∀ holder, holder ∉ holders → t.balances holder = 0) ∧
      ∑ holder ∈ holders, t.balances holder = t.supply := by
  obtain ⟨holders, hzero, hsum⟩ := h
  refine ⟨holders ∪ more, Finset.subset_union_right, fun holder hholder => hzero holder ?_, ?_⟩
  · exact fun hmem => hholder (Finset.mem_union_left _ hmem)
  · rw [← hsum]
    exact (Finset.sum_subset Finset.subset_union_left fun holder _ hnot => hzero holder hnot).symm

/-- One balance is replaced. -/
theorem sum_setBalance {holders : Finset α} {holder : α} (h : holder ∈ holders)
    (t : FungibleToken α) (balance : Nat) :
    ∑ other ∈ holders, (t.setBalance holder balance).balances other + t.balances holder =
      ∑ other ∈ holders, t.balances other + balance := by
  rw [← Finset.add_sum_erase holders _ h, ← Finset.add_sum_erase holders t.balances h,
    setBalance_self]
  have hothers : ∑ other ∈ holders.erase holder, (t.setBalance holder balance).balances other =
      ∑ other ∈ holders.erase holder, t.balances other :=
    Finset.sum_congr rfl fun other hother =>
      setBalance_of_ne t (Finset.ne_of_mem_erase hother) balance
  omega

/-- Nobody holds more than the supply. -/
theorem Conserved.balance_le (h : t.Conserved) (holder : α) : t.balances holder ≤ t.supply := by
  obtain ⟨holders, hmem, -, hsum⟩ := h.exists_superset {holder}
  rw [← hsum]
  exact Finset.single_le_sum (fun _ _ => Nat.zero_le _) (hmem (Finset.mem_singleton_self _))

/-- Two holders together have at most the supply. -/
theorem Conserved.add_balance_le (h : t.Conserved) {holder other : α} (hne : holder ≠ other) :
    t.balances holder + t.balances other ≤ t.supply := by
  obtain ⟨holders, hmem, -, hsum⟩ := h.exists_superset {holder, other}
  rw [← hsum, ← Finset.sum_pair hne]
  exact Finset.sum_le_sum_of_subset hmem

/-- Holders outside the sum stay without a balance. -/
theorem setBalance_eq_zero {holders : Finset α} (hzero : ∀ holder, holder ∉ holders →
    t.balances holder = 0) {holder : α} (hmem : holder ∈ holders) (balance : Nat) :
    ∀ other, other ∉ holders → (t.setBalance holder balance).balances other = 0 := by
  intro other hother
  have hne : other ≠ holder := fun heq => hother (heq.symm ▸ hmem)
  rw [setBalance_of_ne t hne, hzero other hother]

/-- **A possible change keeps the token conserved.** -/
theorem Conserved.apply {change : Change α} (h : t.Conserved) (hallows : t.Allows change) :
    (t.apply change).Conserved := by
  cases change with
  | transferred amount sender recipient =>
    obtain ⟨-, hne, hle, -⟩ := hallows
    obtain ⟨holders, hmem, hzero, hsum⟩ := h.exists_superset {sender, recipient}
    have hsender : sender ∈ holders := hmem (Finset.mem_insert_self _ _)
    have hrecipient : recipient ∈ holders :=
      hmem (Finset.mem_insert_of_mem (Finset.mem_singleton_self _))
    -- two balances are replaced one after the other, in a sum that contains both holders
    have htaken := sum_setBalance hsender t (t.balances sender - amount)
    have hgiven := sum_setBalance hrecipient (t.setBalance sender (t.balances sender - amount))
      (t.balances recipient + amount)
    rw [setBalance_of_ne t (Ne.symm hne)] at hgiven
    refine ⟨holders, setBalance_eq_zero (setBalance_eq_zero hzero hsender _) hrecipient _, ?_⟩
    simp only [FungibleToken.apply]
    have hsupply : ((t.setBalance sender (t.balances sender - amount)).setBalance recipient
      (t.balances recipient + amount)).supply = t.supply := rfl
    omega
  | minted amount recipient =>
    obtain ⟨holders, hmem, hzero, hsum⟩ := h.exists_superset {recipient}
    have hrecipient : recipient ∈ holders := hmem (Finset.mem_singleton_self _)
    have hgiven := sum_setBalance hrecipient t (t.balances recipient + amount)
    refine ⟨holders, setBalance_eq_zero hzero hrecipient _, ?_⟩
    simp only [FungibleToken.apply]
    omega
  | burned amount sender =>
    obtain ⟨-, hle, hsupply⟩ := hallows
    obtain ⟨holders, hmem, hzero, hsum⟩ := h.exists_superset {sender}
    have hsender : sender ∈ holders := hmem (Finset.mem_singleton_self _)
    have htaken := sum_setBalance hsender t (t.balances sender - amount)
    refine ⟨holders, setBalance_eq_zero hzero hsender _, ?_⟩
    simp only [FungibleToken.apply]
    omega

/-! ## Accounts

What a list of changes says about the tokens in front of it and behind it, as a relation that
composes along a run. -/

/-- The changes account for what became of the token. -/
structure Accounts (t : FungibleToken α) (changes : List (Change α)) (t' : FungibleToken α) :
    Prop where
  conserved : t.Conserved → t'.Conserved
  fits : t.supply < 2 ^ 128 → t'.supply < 2 ^ 128
  supply : t'.supply + (changes.map Change.burns).sum =
    t.supply + (changes.map Change.mints).sum
  balance : ∀ holder, t'.balances holder + (changes.map (Change.debit holder)).sum =
    t.balances holder + (changes.map (Change.credit holder)).sum

/-- Nothing accounts for nothing. -/
theorem Accounts.nil (t : FungibleToken α) : Accounts t [] t :=
  ⟨id, id, rfl, fun _ => rfl⟩

/-- A possible change accounts for itself. -/
theorem Accounts.single {change : Change α} (h : t.Allows change) :
    Accounts t [change] (t.apply change) := by
  refine ⟨fun hconserved => hconserved.apply h, fun hfits => ?_, ?_, fun holder => ?_⟩
  · -- only minting raises the supply, and it checks the bound
    cases change with
    | transferred => exact hfits
    | minted => exact h.2.1
    | burned => exact Nat.lt_of_le_of_lt (Nat.sub_le _ _) hfits
  · simpa using supply_apply h
  · simpa using balance_apply h holder

/-- Accounts compose: the sums of two lists of changes are added. -/
theorem Accounts.append {t'' : FungibleToken α} {changes more : List (Change α)}
    (h : Accounts t changes t') (h' : Accounts t' more t'') : Accounts t (changes ++ more) t'' := by
  refine ⟨h'.conserved ∘ h.conserved, h'.fits ∘ h.fits, ?_, fun holder => ?_⟩
  · have hfirst := h.supply
    have hsecond := h'.supply
    simp only [List.map_append, List.sum_append]
    omega
  · have hfirst := h.balance holder
    have hsecond := h'.balance holder
    simp only [List.map_append, List.sum_append]
    omega

end Changes

end FungibleToken

end PythBridge.Clarity
