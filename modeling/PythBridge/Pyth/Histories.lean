import PythBridge.Pyth.Batches

/-!
# Histories of `pyth-store-v1`

What any calls of `write` leave, in closed form. A call offers the entries that are not stale when
it is made, and none when it is not let through (`WriteCall.offered`). The store is a function of
what was offered: every feed reads as the newest entry offered for it, whatever the order of the
calls, how they were batched, and how often an entry was sent (`newest_offered_stored`).

`Batches` computes one authorized call. Here the calls differ in everything: the caller, the plan in
force, the threshold, the block and its time. What they have in common is that each of them filters
its batch by conditions that do not depend on the maps, and then writes what is newer than the
record. So the calls can be joined: many calls are one call with everything that they offer
(`afterRun_eq_newer`), and whatever is known of one batch is known of any history.

The last part of `newest_offered_stored` is what makes the store safe against being sent the same
thing again: a call that was made before finds everything that it offers on record or overtaken.
-/

namespace PythBridge.Store

open Clarity

variable {pf : Platform}

/-! ## What one batch leaves

The two facts of a single batch that others use, without the ties. -/

section Batch

variable {gov : Governance.Storage} {latest : Nat} {st : Storage} {batch : List PriceUpdate}
  {price : PriceUpdate}

/-- An entry that is not stale is on record or overtaken. -/
theorem publishTime_le_qualifying (hprice : price ∈ batch)
    (hfresh : notStale gov latest price = true) :
    price.publishTime ≤
      ((qualifying gov latest st batch).foldl Storage.put st).timestamp price.priceIdentifier := by
  rw [Storage.timestamp_foldl_put]
  exact time_le_foldl_record PriceUpdate.priceIdentifier (fun entry => entry.publishTime) _ _
    price (List.mem_filter.mpr ⟨hprice, hfresh⟩)

/-- A feed with a new entry reads as a newest one of the batch. -/
theorem read_qualifying (hprice : price ∈ batch) (hfresh : notStale gov latest price = true)
    (hnewer : st.timestamp price.priceIdentifier < price.publishTime) :
    ∃ newest ∈ batch, newest.priceIdentifier = price.priceIdentifier ∧
      price.publishTime ≤ newest.publishTime ∧
      read ((qualifying gov latest st batch).foldl Storage.put st) price.priceIdentifier =
        .ok newest.toPriceRecord := by
  have hmem : price ∈ batch.filter (notStale gov latest) := List.mem_filter.mpr ⟨hprice, hfresh⟩
  -- the entry is new and not stale, so something of its feed is accepted
  cases hlast : lastOf PriceUpdate.priceIdentifier price.priceIdentifier
      (qualifying gov latest st batch) with
  | none =>
    have hle := lastOf_accepted_eq_none.mp hlast price hmem rfl
    omega
  | some newest =>
    obtain ⟨hnewest, hid, -, hmax⟩ := lastOf_accepted_eq_some hlast
    refine ⟨newest, (List.mem_filter.mp hnewest).1, hid, hmax price hmem rfl, ?_⟩
    rw [read, (Storage.foldl_put_apply _ _ _).1, hlast]
    rfl

end Batch

/-! ## What a call offers

Checks that fail make a call offer nothing, which is also what it does then. -/

/-- The checks of `write` that do not look at the maps, and the entries that pass them. -/
def WriteCall.offer (pf : Platform) (c : WriteCall) : Exec (List PriceUpdate) := do
  let _ ← Governance.checkExecutionFlow c.governance pf.pythStoreV1 c.contractCaller none
  let latestTimestamp ← latestBitcoinTimestamp c.env
  let _ ← checkedSub latestTimestamp (Governance.getStalePriceThreshold c.governance)
  pure (c.batchUpdates.filter (notStale c.governance latestTimestamp))

/-- What a call offers to the store, whatever the store holds. -/
def WriteCall.offered (pf : Platform) (c : WriteCall) : List PriceUpdate :=
  (c.offer pf).toOption.getD []

/-- The entries of `offers` that are newer than the record of their turn. -/
abbrev Storage.newer (st : Storage) (offers : List PriceUpdate) : List PriceUpdate :=
  accepted PriceUpdate.priceIdentifier (fun entry => entry.publishTime) st.timestamp offers

/-- The conditions under which a call offers something, and what it offers then. -/
theorem WriteCall.offer_eq_ok {c : WriteCall} {offers : List PriceUpdate} :
    c.offer pf = .ok offers ↔
      c.governance.currentExecutionPlan.Allows pf.pythStoreV1 c.contractCaller none ∧
      ∃ latest, latestBitcoinTimestamp c.env = .ok latest ∧
        c.governance.stalePriceThreshold ≤ latest ∧
        c.batchUpdates.filter (notStale c.governance latest) = offers := by
  simp only [WriteCall.offer, exec_bind_eq_ok, exec_pure_eq_ok, checkedSub_eq_ok,
    Governance.checkExecutionFlow_eq_ok, Governance.getStalePriceThreshold]
  constructor
  · rintro ⟨_, ⟨-, hflow⟩, latest, hlatest, _, ⟨hthreshold, -⟩, hoffers⟩
    exact ⟨hflow, latest, hlatest, hthreshold, hoffers⟩
  · rintro ⟨hflow, latest, hlatest, hthreshold, hoffers⟩
    exact ⟨true, ⟨rfl, hflow⟩, latest, hlatest, _, ⟨hthreshold, rfl⟩, hoffers⟩

/-- **Any call in closed form.** It writes those of its offers that are newer than the record of
their turn, and what it returns is what it wrote. -/
theorem WriteCall.run_offered (pf : Platform) (c : WriteCall) (st : Storage) :
    (∀ written, (c.run pf st).1 = .ok written →
      written = st.newer (c.offered pf) ∧ written ≠ []) ∧
    st.after pf c = (st.newer (c.offered pf)).foldl Storage.put st := by
  unfold WriteCall.offered
  -- a call that passes the checks is the closed form of a batch
  cases hoffer : c.offer pf with
  | ok offers =>
    obtain ⟨hflow, latest, hlatest, hthreshold, rfl⟩ := c.offer_eq_ok.mp hoffer
    obtain ⟨hresult, hafter⟩ := c.run_eq st hflow hlatest hthreshold
    refine ⟨fun written hok => ?_, hafter⟩
    rw [hok] at hresult
    split at hresult
    · cases hresult
    · next hne =>
      cases hresult
      exact ⟨rfl, hne⟩
  | error e =>
    -- a call that returns passed the checks
    have herror : ∀ written st', c.run pf st ≠ (.ok written, st') := by
      intro written st' hrun
      obtain ⟨-, hne, hwritten, hflow⟩ := write_eq_ok (Contract.transaction_eq_ok.mp hrun)
      obtain ⟨latest, hlatest, hthreshold⟩ := hwritten.exists_latest hne
      have hok := WriteCall.offer_eq_ok.mpr ⟨hflow, latest, hlatest, hthreshold, rfl⟩
      rw [hoffer] at hok
      cases hok
    rcases hrun : c.run pf st with ⟨e' | written, st'⟩
    · refine ⟨fun _ hok => absurd hok (by simp), ?_⟩
      show (c.run pf st).2 = st
      rw [hrun]
      exact Contract.transaction_error hrun
    · exact absurd hrun (herror written st')

/-- **Any calls in closed form**: one call with everything they offer. Induction on the calls. -/
theorem afterRun_eq_newer (pf : Platform) (calls : List WriteCall) (st : Storage) :
    afterRun (Storage.after pf) st calls =
      (st.newer (calls.flatMap (WriteCall.offered pf))).foldl Storage.put st := by
  -- the offers of the first call come in front of those of the rest
  induction calls generalizing st with
  | nil => rfl
  | cons c calls ih =>
    show afterRun (Storage.after pf) (st.after pf c) calls = _
    have hfirst := (c.run_offered pf st).2
    rw [ih, List.flatMap_cons, Storage.newer, Storage.newer, accepted_append, List.foldl_append,
      ← Storage.timestamp_foldl_put, ← hfirst]

/-! ## What is read

The maps are functions of the accepted entries, so a feed reads as its last one. -/

section Deployed

variable {calls : List WriteCall} {id : Buff}

/-- Every feed reads as the last of the entries that are accepted among what was offered. -/
theorem read_afterRun (pf : Platform) (calls : List WriteCall) (id : Buff) :
    read (afterRun (Storage.after pf) .deployed calls) id =
      unwrapOpt ((lastOf PriceUpdate.priceIdentifier id
        (Storage.deployed.newer (calls.flatMap (WriteCall.offered pf)))).map
          PriceUpdate.toPriceRecord) errPriceNotFound := by
  rw [read, afterRun_eq_newer, (Storage.foldl_put_apply _ _ id).1]
  cases lastOf PriceUpdate.priceIdentifier id
    (Storage.deployed.newer (calls.flatMap (WriteCall.offered pf))) <;> rfl

/-- On an empty store everything with a positive time is newer than the record. -/
theorem lastOf_newer_deployed_eq_none {offers : List PriceUpdate} :
    lastOf PriceUpdate.priceIdentifier id (Storage.deployed.newer offers) = none ↔
      ∀ entry ∈ offers, entry.priceIdentifier = id → entry.publishTime = 0 := by
  have hzero : Storage.deployed.timestamp id = 0 := rfl
  simp only [lastOf_accepted_eq_none, hzero, Nat.le_zero]

/-- Nothing that was offered is newer than what is on record in the end. -/
theorem publishTime_le_of_offered {entry : PriceUpdate}
    (h : entry ∈ calls.flatMap (WriteCall.offered pf)) (st : Storage) :
    entry.publishTime ≤
      (afterRun (Storage.after pf) st calls).timestamp entry.priceIdentifier := by
  rw [afterRun_eq_newer, Storage.timestamp_foldl_put]
  exact time_le_foldl_record PriceUpdate.priceIdentifier (fun entry => entry.publishTime) _ _
    entry h

/-- A call that was made before finds nothing newer to write. -/
theorem newer_of_mem {c : WriteCall} (hc : c ∈ calls) (st : Storage) :
    (afterRun (Storage.after pf) st calls).newer (c.offered pf) = [] :=
  accepted_eq_nil_iff.mpr fun _ hentry =>
    publishTime_le_of_offered (List.mem_flatMap.mpr ⟨c, hc, hentry⟩) st

/-- **The store is a function of what was offered.** After any calls of `write` from the empty
store, each with whatever governance and chain say at that moment: a feed reads as a newest of the
entries offered for it, and is not found when there is none with a positive publish time. Calls
that offer the same entries, in any order, batched in any way and sent any number of times, leave
the same store, if entries of one feed and one time are the same. And a call that was made before
changes nothing when it is made again, and does not return ok. -/
theorem newest_offered_stored (pf : Platform) (calls : List WriteCall) :
    let st := afterRun (Storage.after pf) .deployed calls
    let offered := calls.flatMap (WriteCall.offered pf)
    (∀ id record, read st id = .ok record →
      ∃ entry ∈ offered, entry.priceIdentifier = id ∧ entry.toPriceRecord = record ∧
        0 < entry.publishTime ∧
        ∀ other ∈ offered, other.priceIdentifier = id →
          other.publishTime ≤ entry.publishTime) ∧
    (∀ id, read st id = .error (.err errPriceNotFound) ↔
      ∀ entry ∈ offered, entry.priceIdentifier = id → entry.publishTime = 0) ∧
    (∀ calls', (∀ entry, entry ∈ offered ↔ entry ∈ calls'.flatMap (WriteCall.offered pf)) →
      (∀ a ∈ offered, ∀ b ∈ offered,
        a.priceIdentifier = b.priceIdentifier → a.publishTime = b.publishTime → a = b) →
      afterRun (Storage.after pf) .deployed calls' = st) ∧
    ∀ c ∈ calls, st.after pf c = st ∧ ∀ written, (c.run pf st).1 ≠ .ok written := by
  intro st offered
  refine ⟨fun id record hread => ?_, fun id => ?_, fun calls' hsame hties => ?_, fun c hc => ?_⟩
  · rw [read_afterRun, unwrapOpt_eq_ok, Option.map_eq_some_iff] at hread
    obtain ⟨entry, hlast, hrecord⟩ := hread
    obtain ⟨hentry, hid, hnewer, hnewest⟩ := lastOf_accepted_eq_some hlast
    exact ⟨entry, hentry, hid, hrecord, hnewer, hnewest⟩
  · rw [read_afterRun]
    rw [← lastOf_newer_deployed_eq_none]
    cases lastOf PriceUpdate.priceIdentifier id (Storage.deployed.newer offered) with
    | none => exact ⟨fun _ => rfl, fun _ => rfl⟩
    | some entry => exact ⟨nofun, nofun⟩
  · -- with the same offers in another order the last accepted entry of every feed is the same
    show _ = afterRun (Storage.after pf) .deployed calls
    rw [afterRun_eq_newer, afterRun_eq_newer]
    refine Storage.eq_of_apply fun id => ?_
    have hlast : lastOf PriceUpdate.priceIdentifier id
          (Storage.deployed.newer (calls'.flatMap (WriteCall.offered pf))) =
        lastOf PriceUpdate.priceIdentifier id (Storage.deployed.newer offered) :=
      lastOf_accepted_congr hsame hties id
    obtain ⟨hprices, htimestamps⟩ := Storage.deployed.foldl_put_apply
      (Storage.deployed.newer (calls'.flatMap (WriteCall.offered pf))) id
    obtain ⟨hprices', htimestamps'⟩ := Storage.deployed.foldl_put_apply
      (Storage.deployed.newer offered) id
    rw [hprices, htimestamps, hprices', htimestamps', hlast]
    exact ⟨rfl, rfl⟩
  · obtain ⟨hreturned, hafter⟩ := c.run_offered pf st
    rw [newer_of_mem hc] at hreturned hafter
    exact ⟨hafter, fun written hok => (hreturned written hok).2 (hreturned written hok).1⟩

end Deployed

end PythBridge.Store
