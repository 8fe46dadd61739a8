import PythBridge.Clarity.Latest
import PythBridge.Pyth.StoreRuns

/-!
# Batches of `pyth-store-v1`

What a batch writes in closed form: the entries that are not stale and newer than the record of
their turn (`qualifying`), so that every feed ends with the newest entry of the batch
(`WriteCall.run_eq`). Order and batching do not matter for what is stored.

`StoreRuns` says what a successful `write` has done. This module says what a `write` *does*, success
or not, as a function of the batch and the maps. The function is `accepted` of `Clarity.Latest`,
applied to the entries that are not stale; everything about order, duplicates and splitting is
proved there, for entries of any kind, and read off here.

* **`WriteCall.run_eq`** — the closed form of an authorized call.
* **`newest_entry_wins`** — every feed ends with its newest entry, and neither the order nor the
  division into batches matters.
* **`returned_entries_stored`** — what is returned is what is stored, and `u5003` says exactly that
  nothing of the batch qualified.

A threshold above the block time is a case of its own: the subtraction in `write-batch-entry`
aborts, so one entry that is newer than its record takes the whole batch with it
(`mapM'_respond_underflow`).
-/

namespace PythBridge.Store

open Clarity

variable {pf : Platform} {gov : Governance.Storage} {env : TxEnv} {caller : Principal}
  {latest : Nat}

/-! ## One entry

The four outcomes for an entry: written, refused as old, refused as stale, aborted. -/

/-- Not older than the threshold allows; without underflow, unlike in `write-batch-entry`. -/
def notStale (gov : Governance.Storage) (latest : Nat) (entry : PriceUpdate) : Bool :=
  latest ≤ entry.publishTime + gov.stalePriceThreshold

/-- An entry that is newer and not stale is written. -/
theorem writeBatchEntry_of_newer {st : Storage} {entry : PriceUpdate}
    (hlatest : latestBitcoinTimestamp env = .ok latest)
    (hthreshold : gov.stalePriceThreshold ≤ latest)
    (hnewer : st.timestamp entry.priceIdentifier < entry.publishTime)
    (hfresh : notStale gov latest entry = true) :
    writeBatchEntry gov env entry st = (.ok entry, st.put entry) := by
  have hstale : latest - gov.stalePriceThreshold ≤ entry.publishTime := by
    rw [notStale, decide_eq_true_eq] at hfresh
    omega
  simp only [writeBatchEntry, Contract.bind_eq_ok, Contract.lift_apply, Contract.readOnly_apply,
    Contract.modify_apply, Contract.pure_apply, Prod.mk.injEq, asserts_eq_ok, checkedSub_eq_ok]
  exact ⟨latest, _, ⟨hlatest, rfl⟩, (), _, ⟨hnewer, rfl⟩, _, _, ⟨⟨hthreshold, rfl⟩, rfl⟩, (), _,
    ⟨hstale, rfl⟩, (), _, ⟨trivial, rfl⟩, trivial, rfl⟩

/-- A newer entry that is stale is refused. -/
theorem writeBatchEntry_of_stale {st : Storage} {entry : PriceUpdate}
    (hlatest : latestBitcoinTimestamp env = .ok latest)
    (hnewer : st.timestamp entry.priceIdentifier < entry.publishTime)
    (hstale : entry.publishTime + gov.stalePriceThreshold < latest) :
    writeBatchEntry gov env entry st = (.error (.err errStalePrice), st) := by
  -- the threshold is then below the block time
  have hthreshold : gov.stalePriceThreshold ≤ latest := by omega
  have hbehind : ¬ latest - gov.stalePriceThreshold ≤ entry.publishTime := by omega
  simp only [writeBatchEntry, Contract.bind_eq_error, Contract.lift_apply,
    Contract.readOnly_apply, Governance.getStalePriceThreshold, Prod.mk.injEq]
  refine .inr ⟨latest, _, ⟨hlatest, rfl⟩, .inr ⟨(), _, ⟨asserts_eq_ok.mpr hnewer, rfl⟩,
    .inr ⟨_, _, ⟨checkedSub_eq_ok.mpr ⟨hthreshold, rfl⟩, rfl⟩, .inl ⟨?_, rfl⟩⟩⟩⟩
  rw [asserts, if_neg hbehind]

/-- With the threshold above the block time the subtraction underflows. -/
theorem writeBatchEntry_of_underflow {st : Storage} {entry : PriceUpdate}
    (hlatest : latestBitcoinTimestamp env = .ok latest)
    (hnewer : st.timestamp entry.priceIdentifier < entry.publishTime)
    (hunder : latest < gov.stalePriceThreshold) :
    writeBatchEntry gov env entry st = (.error .abort, st) := by
  simp only [writeBatchEntry, Contract.bind_eq_error, Contract.lift_apply,
    Contract.readOnly_apply, Prod.mk.injEq]
  refine .inr ⟨latest, _, ⟨hlatest, rfl⟩, .inr ⟨(), _, ⟨asserts_eq_ok.mpr hnewer, rfl⟩,
    .inl ⟨?_, rfl⟩⟩⟩
  rw [checkedSub, Governance.getStalePriceThreshold, if_neg (Nat.not_le.mpr hunder)]

/-- The checks of `write-batch-entry` in order, for an entry that fails one. -/
theorem writeBatchEntry_of_not_qualified {st : Storage} {entry : PriceUpdate}
    (hlatest : latestBitcoinTimestamp env = .ok latest)
    (h : ¬ (st.timestamp entry.priceIdentifier < entry.publishTime ∧
      notStale gov latest entry = true)) :
    ∃ code, writeBatchEntry gov env entry st = (.error (.err code), st) := by
  -- the checks come in this order, so a stale entry that is also old is refused as old
  by_cases hnewer : isPriceUpdateMoreRecent st entry.priceIdentifier entry.publishTime
  · have hstale : entry.publishTime + gov.stalePriceThreshold < latest := by
      -- an entry that is neither old nor stale qualifies
      by_contra hnot
      exact h ⟨hnewer, decide_eq_true (Nat.not_lt.mp hnot)⟩
    exact ⟨errStalePrice, writeBatchEntry_of_stale hlatest hnewer hstale⟩
  · refine ⟨errNewerPriceAvailable, ?_⟩
    simp only [writeBatchEntry, Contract.bind_eq_error, Contract.lift_apply,
      Contract.readOnly_apply, Prod.mk.injEq]
    refine .inr ⟨latest, _, ⟨hlatest, rfl⟩, .inl ⟨?_, rfl⟩⟩
    rw [asserts, if_neg hnewer]

theorem respond_of_err {st st' : Storage} {entry : PriceUpdate} {code : Nat}
    (h : writeBatchEntry gov env entry st = (.error (.err code), st')) :
    (writeBatchEntry gov env entry).respond st = (.ok (.error code), st') := by
  rw [Contract.respond, h]

/-! ## One batch

The responses of a batch are collected in front of the check of the caller. Induction on the batch,
with the maps general: each entry changes what the next one is compared with. -/

section Responses

variable {st st₁ st' : Storage} {entry written : PriceUpdate} {batch : List PriceUpdate}
  {responses : List (Response PriceUpdate)} {code : Nat}

/-- An entry that is written, in front of a batch that is processed. -/
theorem mapM'_respond_cons_ok (hentry : writeBatchEntry gov env entry st = (.ok written, st₁))
    (hrest : batch.mapM' (fun entry => (writeBatchEntry gov env entry).respond) st₁ =
      (.ok responses, st')) :
    (entry :: batch).mapM' (fun entry => (writeBatchEntry gov env entry).respond) st =
      (.ok (.ok written :: responses), st') := by
  have hrespond : (writeBatchEntry gov env entry).respond st = (.ok (.ok written), st₁) := by
    rw [Contract.respond, hentry]
  rw [List.mapM'_cons, Contract.bind_eq_ok]
  exact ⟨_, _, hrespond, Contract.bind_eq_ok.mpr ⟨_, _, hrest, rfl⟩⟩

/-- An entry that is refused, in front of a batch that is processed. -/
theorem mapM'_respond_cons_err
    (herror : writeBatchEntry gov env entry st = (.error (.err code), st))
    (hrest : batch.mapM' (fun entry => (writeBatchEntry gov env entry).respond) st =
      (.ok responses, st')) :
    (entry :: batch).mapM' (fun entry => (writeBatchEntry gov env entry).respond) st =
      (.ok (.error code :: responses), st') := by
  rw [List.mapM'_cons, Contract.bind_eq_ok]
  exact ⟨_, _, respond_of_err herror, Contract.bind_eq_ok.mpr ⟨_, _, hrest, rfl⟩⟩

theorem filter_onlyOkEntry_error :
    (.error code :: responses).filter onlyOkEntry = responses.filter onlyOkEntry :=
  List.filter_cons_of_neg (by simp [onlyOkEntry, Except.toBool])

end Responses

/-- The entries of a batch that are not stale and newer than the record of their turn. -/
def qualifying (gov : Governance.Storage) (latest : Nat) (st : Storage)
    (batch : List PriceUpdate) : List PriceUpdate :=
  accepted PriceUpdate.priceIdentifier (fun entry => entry.publishTime) st.timestamp
    (batch.filter (notStale gov latest))

/-- Writing an entry records its time, and no other. -/
theorem Storage.timestamp_put (st : Storage) (entry : PriceUpdate) :
    (st.put entry).timestamp =
      record PriceUpdate.priceIdentifier (fun entry => entry.publishTime) st.timestamp entry := by
  funext id
  -- the feed of the entry has its time, the others keep theirs
  by_cases hid : id = entry.priceIdentifier
  · subst hid
    rw [record_self]
    simp only [Storage.timestamp, Storage.put, DataMap.set_self, Option.getD_some]
  · rw [record, Function.update_of_ne hid]
    simp only [Storage.timestamp, Storage.put, DataMap.set_of_ne _ _ hid]

/-- Writing entries records them one after another, so `accepted` sees the same record as the
source. -/
theorem Storage.timestamp_foldl_put (st : Storage) (entries : List PriceUpdate) :
    (entries.foldl Storage.put st).timestamp =
      entries.foldl (record PriceUpdate.priceIdentifier fun entry => entry.publishTime)
        st.timestamp := by
  induction entries generalizing st with
  | nil => rfl
  | cons entry entries ih => rw [List.foldl_cons, List.foldl_cons, ih, Storage.timestamp_put]

/-- What is in the maps after entries were written one after another. -/
theorem Storage.foldl_put_apply (st : Storage) (entries : List PriceUpdate) (id : Buff) :
    (entries.foldl Storage.put st).prices id =
        ((lastOf PriceUpdate.priceIdentifier id entries).map
          fun entry => some entry.toPriceRecord).getD (st.prices id) ∧
      (entries.foldl Storage.put st).timestamps id =
        ((lastOf PriceUpdate.priceIdentifier id entries).map
          fun entry => some entry.publishTime).getD (st.timestamps id) := by
  have hfold : (entries.foldl Storage.put st).prices =
        entries.foldl (fun (m : Buff → Option PriceRecord) entry =>
          Function.update m entry.priceIdentifier (some entry.toPriceRecord)) st.prices ∧
      (entries.foldl Storage.put st).timestamps =
        entries.foldl (fun (m : Buff → Option Nat) entry =>
          Function.update m entry.priceIdentifier (some entry.publishTime)) st.timestamps := by
    induction entries generalizing st with
    | nil => exact ⟨rfl, rfl⟩
    | cons entry entries ih =>
      obtain ⟨hprices, htimestamps⟩ := ih (st.put entry)
      rw [List.foldl_cons, List.foldl_cons, List.foldl_cons, hprices, htimestamps, Storage.put,
        DataMap.set_eq_update, DataMap.set_eq_update]
      exact ⟨rfl, rfl⟩
  rw [hfold.1, hfold.2]
  exact ⟨foldl_update_apply _ _ _ _, foldl_update_apply _ _ _ _⟩

/-- The batch is processed entry by entry: the responses of the qualifying ones are ok, and they
are what is written. Induction on the batch; writing an entry moves the record on. -/
theorem mapM'_respond (hlatest : latestBitcoinTimestamp env = .ok latest)
    (hthreshold : gov.stalePriceThreshold ≤ latest) (batch : List PriceUpdate) (st : Storage) :
    ∃ responses, batch.mapM' (fun entry => (writeBatchEntry gov env entry).respond) st =
        (.ok responses, (qualifying gov latest st batch).foldl Storage.put st) ∧
      responses.filter onlyOkEntry = (qualifying gov latest st batch).map .ok := by
  induction batch generalizing st with
  | nil => exact ⟨[], rfl, rfl⟩
  | cons entry batch ih =>
    -- the entry is written, and its feed has a new record for the rest, or it is refused
    by_cases hqualified : st.timestamp entry.priceIdentifier < entry.publishTime ∧
        notStale gov latest entry = true
    · obtain ⟨hnewer, hfresh⟩ := hqualified
      have hentry := writeBatchEntry_of_newer hlatest hthreshold hnewer hfresh
      have hcons : qualifying gov latest st (entry :: batch) =
          entry :: qualifying gov latest (st.put entry) batch := by
        rw [qualifying, List.filter_cons_of_pos hfresh, accepted, if_pos hnewer, qualifying,
          Storage.timestamp_put]
      obtain ⟨responses, hrest, hfilter⟩ := ih (st.put entry)
      refine ⟨.ok entry :: responses, ?_, ?_⟩
      · rw [hcons, List.foldl_cons]
        exact mapM'_respond_cons_ok hentry hrest
      · rw [hcons, List.filter_cons_of_pos (by rfl), hfilter, List.map_cons]
    · -- a refused entry leaves the state, and it is not accepted either
      obtain ⟨code, herror⟩ := writeBatchEntry_of_not_qualified hlatest hqualified
      have hskip : qualifying gov latest st (entry :: batch) = qualifying gov latest st batch := by
        by_cases hfresh : notStale gov latest entry = true
        · rw [qualifying, List.filter_cons_of_pos hfresh, accepted,
            if_neg fun hnewer => hqualified ⟨hnewer, hfresh⟩, qualifying]
        · rw [qualifying, List.filter_cons_of_neg hfresh, qualifying]
      obtain ⟨responses, hrest, hfilter⟩ := ih st
      refine ⟨.error code :: responses, ?_, ?_⟩
      · rw [hskip]
        exact mapM'_respond_cons_err herror hrest
      · rw [hskip, filter_onlyOkEntry_error, hfilter]

/-- Unwrapping entries that are all ok returns them. -/
theorem mapM'_unwrappedEntry_ok (written : List PriceUpdate) :
    (written.map Except.ok).mapM' unwrappedEntry = .ok written := by
  induction written with
  | nil => rfl
  | cons entry written ih =>
    rw [List.map_cons, List.mapM'_cons, ih]
    rfl

/-- The rest of `write`, once the batch is processed. -/
theorem write_of_responses
    (hflow : gov.currentExecutionPlan.Allows pf.pythStoreV1 caller none) {batch : List PriceUpdate}
    {written : List PriceUpdate} {responses : List (Response PriceUpdate)} {st st' : Storage}
    (hresponses : batch.mapM' (fun entry => (writeBatchEntry gov env entry).respond) st =
      (.ok responses, st')) (hfilter : responses.filter onlyOkEntry = written.map .ok) :
    write pf gov env caller batch st =
      (if written = [] then .error (.err errInvalidUpdates) else .ok written, st') := by
  have hchecked := Governance.checkExecutionFlow_of_allows hflow
  have hunwrapped := mapM'_unwrappedEntry_ok written
  rw [← hfilter] at hunwrapped
  -- a batch of which nothing was written is refused after the caller was let through
  by_cases hnil : written = []
  · rw [if_pos hnil]
    simp only [write, Contract.bind_eq_error, Contract.lift_apply, Prod.mk.injEq]
    refine .inr ⟨_, _, hresponses, .inr ⟨_, _, ⟨hunwrapped, rfl⟩, .inr ⟨_, _, ⟨hchecked, rfl⟩,
      .inl ⟨?_, rfl⟩⟩⟩⟩
    rw [hnil]
    rfl
  · rw [if_neg hnil]
    simp only [write, Contract.bind_eq_ok, Contract.lift_apply, Prod.mk.injEq, asserts_eq_ok]
    exact ⟨_, _, hresponses, _, _, ⟨hunwrapped, rfl⟩, _, _, ⟨hchecked, rfl⟩, (), _,
      ⟨List.length_pos_iff.mpr hnil, rfl⟩, rfl⟩

/-- Two stores with the same maps are one. -/
theorem Storage.eq_of_apply {st st' : Storage}
    (h : ∀ id, st.prices id = st'.prices id ∧ st.timestamps id = st'.timestamps id) :
    st = st' := by
  have hprices : st.prices = st'.prices := funext fun id => (h id).1
  have htimestamps : st.timestamps = st'.timestamps := funext fun id => (h id).2
  cases st
  cases st'
  cases hprices
  cases htimestamps
  rfl

/-- The entries of the second part qualify against what the first part left. -/
theorem qualifying_append (st : Storage) (batch more : List PriceUpdate) :
    qualifying gov latest st (batch ++ more) = qualifying gov latest st batch ++
      qualifying gov latest ((qualifying gov latest st batch).foldl Storage.put st) more := by
  rw [qualifying, List.filter_append, accepted_append, qualifying, qualifying,
    Storage.timestamp_foldl_put]

/-- Nothing qualifies exactly when everything that is not stale is old. -/
theorem qualifying_eq_nil_iff {st : Storage} {batch : List PriceUpdate} :
    qualifying gov latest st batch = [] ↔ ∀ entry ∈ batch, notStale gov latest entry = true →
      entry.publishTime ≤ st.timestamp entry.priceIdentifier := by
  rw [qualifying, accepted_eq_nil_iff]
  simp only [List.mem_filter, and_imp]

/-- Whether anything qualifies does not depend on the order. -/
theorem qualifying_perm_eq_nil {st : Storage} {batch batch' : List PriceUpdate}
    (hperm : batch.Perm batch') :
    qualifying gov latest st batch = [] ↔ qualifying gov latest st batch' = [] := by
  rw [qualifying_eq_nil_iff, qualifying_eq_nil_iff]
  constructor
  · intro h entry hentry
    exact h entry (hperm.symm.subset hentry)
  · intro h entry hentry
    exact h entry (hperm.subset hentry)

theorem ties_filter {batch : List PriceUpdate}
    (hties : ∀ a ∈ batch, ∀ b ∈ batch,
      a.priceIdentifier = b.priceIdentifier → a.publishTime = b.publishTime → a = b) :
    ∀ a ∈ batch.filter (notStale gov latest), ∀ b ∈ batch.filter (notStale gov latest),
      a.priceIdentifier = b.priceIdentifier → a.publishTime = b.publishTime → a = b :=
  fun a ha b hb => hties a (List.mem_filter.mp ha).1 b (List.mem_filter.mp hb).1

/-! ## An authorized call

The caller is the oracle of the plan in force, the block before has a time, and the threshold
is not above it. -/

section Authorized

variable {c : WriteCall} (st : Storage)
  (hflow : c.governance.currentExecutionPlan.Allows pf.pythStoreV1 c.contractCaller none)
  (hlatest : latestBitcoinTimestamp c.env = .ok latest)
  (hthreshold : c.governance.stalePriceThreshold ≤ latest)

include hflow hlatest hthreshold

/-- **A batch in closed form.** An authorized `write` returns and stores the qualifying entries,
and fails with `ERR_INVALID_UPDATES` when there are none. -/
theorem WriteCall.run_eq :
    (c.run pf st).1 = (if qualifying c.governance latest st c.batchUpdates = [] then
        .error (.err errInvalidUpdates)
      else .ok (qualifying c.governance latest st c.batchUpdates)) ∧
      st.after pf c = (qualifying c.governance latest st c.batchUpdates).foldl Storage.put st := by
  obtain ⟨responses, hresponses, hfilter⟩ := mapM'_respond hlatest hthreshold c.batchUpdates st
  have hwrite := write_of_responses hflow hresponses hfilter
  unfold Storage.after WriteCall.run Contract.transaction
  -- a batch of which nothing was written is refused as a whole
  by_cases hnil : qualifying c.governance latest st c.batchUpdates = []
  · rw [if_pos hnil] at hwrite ⊢
    rw [hwrite, hnil]
    exact ⟨rfl, rfl⟩
  · rw [if_neg hnil] at hwrite ⊢
    rw [hwrite]
    exact ⟨rfl, rfl⟩

/-- A call returns ok exactly when something qualifies, and is refused with `u5003` when nothing
does. -/
theorem WriteCall.verdict :
    ((∃ written, (c.run pf st).1 = .ok written) ↔
      qualifying c.governance latest st c.batchUpdates ≠ []) ∧
    ((c.run pf st).1 = .error (.err errInvalidUpdates) ↔
      qualifying c.governance latest st c.batchUpdates = []) := by
  rw [(c.run_eq st hflow hlatest hthreshold).1]
  split
  · next hnil => simp [hnil]
  · next hne => simp [hne]

/-- Every feed has the last qualifying entry for it. -/
theorem WriteCall.after_apply (id : Buff) :
    (st.after pf c).prices id = ((lastOf PriceUpdate.priceIdentifier id
        (qualifying c.governance latest st c.batchUpdates)).map
          fun entry => some entry.toPriceRecord).getD (st.prices id) ∧
      (st.after pf c).timestamps id = ((lastOf PriceUpdate.priceIdentifier id
        (qualifying c.governance latest st c.batchUpdates)).map
          fun entry => some entry.publishTime).getD (st.timestamps id) := by
  rw [(c.run_eq st hflow hlatest hthreshold).2]
  exact st.foldl_put_apply _ id

/-- When that entry is known, it is what is stored. -/
theorem WriteCall.after_of_lastOf {id : Buff} {entry : PriceUpdate}
    (hlast : lastOf PriceUpdate.priceIdentifier id
      (qualifying c.governance latest st c.batchUpdates) = some entry) :
    (st.after pf c).prices id = some entry.toPriceRecord ∧
      (st.after pf c).timestamps id = some entry.publishTime := by
  obtain ⟨hprices, htimestamps⟩ := c.after_apply st hflow hlatest hthreshold id
  rw [hlast] at hprices htimestamps
  exact ⟨hprices, htimestamps⟩

/-- A feed without a qualifying entry is as before. -/
theorem WriteCall.after_of_lastOf_none {id : Buff}
    (hlast : lastOf PriceUpdate.priceIdentifier id
      (qualifying c.governance latest st c.batchUpdates) = none) :
    (st.after pf c).prices id = st.prices id ∧
      (st.after pf c).timestamps id = st.timestamps id := by
  obtain ⟨hprices, htimestamps⟩ := c.after_apply st hflow hlatest hthreshold id
  rw [hlast] at hprices htimestamps
  exact ⟨hprices, htimestamps⟩

/-! ### Order and batching -/

/-- In whatever order the entries come, the same is stored. -/
theorem WriteCall.after_perm
    (hties : ∀ a ∈ c.batchUpdates, ∀ b ∈ c.batchUpdates,
      a.priceIdentifier = b.priceIdentifier → a.publishTime = b.publishTime → a = b)
    {batch : List PriceUpdate} (hperm : batch.Perm c.batchUpdates) :
    st.after pf { c with batchUpdates := batch } = st.after pf c := by
  refine Storage.eq_of_apply fun id => ?_
  have hlast : lastOf PriceUpdate.priceIdentifier id (qualifying c.governance latest st batch) =
      lastOf PriceUpdate.priceIdentifier id
        (qualifying c.governance latest st c.batchUpdates) :=
    lastOf_accepted_perm (hperm.symm.filter (notStale c.governance latest)) (ties_filter hties) id
  obtain ⟨hprices, htimestamps⟩ := c.after_apply st hflow hlatest hthreshold id
  obtain ⟨hprices', htimestamps'⟩ :=
    WriteCall.after_apply (c := { c with batchUpdates := batch }) st hflow hlatest hthreshold id
  rw [hprices, htimestamps, hprices', htimestamps', hlast]
  exact ⟨rfl, rfl⟩

/-- In whatever order the entries come, the verdict is the same. -/
theorem WriteCall.verdict_perm {batch : List PriceUpdate} (hperm : batch.Perm c.batchUpdates) :
    ((∃ written, (WriteCall.run pf { c with batchUpdates := batch } st).1 = .ok written) ↔
      ∃ written, (c.run pf st).1 = .ok written) ∧
    ((WriteCall.run pf { c with batchUpdates := batch } st).1 = .error (.err errInvalidUpdates) ↔
      (c.run pf st).1 = .error (.err errInvalidUpdates)) := by
  have hnil : qualifying c.governance latest st batch = [] ↔
      qualifying c.governance latest st c.batchUpdates = [] := qualifying_perm_eq_nil hperm
  obtain ⟨hok, hrefused⟩ := c.verdict st hflow hlatest hthreshold
  obtain ⟨hok', hrefused'⟩ :=
    WriteCall.verdict (c := { c with batchUpdates := batch }) st hflow hlatest hthreshold
  rw [hok, hrefused, hok', hrefused', ne_eq, ne_eq, hnil]
  exact ⟨Iff.rfl, Iff.rfl⟩

/-- The second batch goes on where the first one stopped. -/
theorem WriteCall.after_append (more : List PriceUpdate) :
    (st.after pf c).after pf { c with batchUpdates := more } =
      st.after pf { c with batchUpdates := c.batchUpdates ++ more } := by
  have hfirst := (c.run_eq st hflow hlatest hthreshold).2
  have hsecond := (WriteCall.run_eq (c := { c with batchUpdates := more }) (st.after pf c) hflow
    hlatest hthreshold).2
  have hboth := (WriteCall.run_eq (c := { c with batchUpdates := c.batchUpdates ++ more }) st
    hflow hlatest hthreshold).2
  rw [hsecond, hboth, qualifying_append, List.foldl_append, ← hfirst]

end Authorized

/-- **The newest entry wins.** After an authorized `write`, every feed has the newest of the
batch's entries for it that are not stale, if that is newer than what was recorded, and is as
before otherwise. So the order of a batch changes neither the maps nor the verdict, and two
batches in one block leave what their concatenation leaves. -/
theorem newest_entry_wins {c : WriteCall} {st : Storage}
    (hflow : c.governance.currentExecutionPlan.Allows pf.pythStoreV1 c.contractCaller none)
    (hlatest : latestBitcoinTimestamp c.env = .ok latest)
    (hthreshold : c.governance.stalePriceThreshold ≤ latest)
    (hties : ∀ a ∈ c.batchUpdates, ∀ b ∈ c.batchUpdates,
      a.priceIdentifier = b.priceIdentifier → a.publishTime = b.publishTime → a = b) :
    (∀ id,
      (∀ entry ∈ c.batchUpdates, entry.priceIdentifier = id →
        latest - c.governance.stalePriceThreshold ≤ entry.publishTime →
        st.timestamp id < entry.publishTime →
        (∀ other ∈ c.batchUpdates, other.priceIdentifier = id →
          latest - c.governance.stalePriceThreshold ≤ other.publishTime →
          other.publishTime ≤ entry.publishTime) →
        (st.after pf c).prices id = some entry.toPriceRecord ∧
          (st.after pf c).timestamps id = some entry.publishTime) ∧
      ((∀ entry ∈ c.batchUpdates, entry.priceIdentifier = id →
        latest - c.governance.stalePriceThreshold ≤ entry.publishTime →
        entry.publishTime ≤ st.timestamp id) →
        (st.after pf c).prices id = st.prices id ∧
          (st.after pf c).timestamps id = st.timestamps id)) ∧
    (∀ batch, batch.Perm c.batchUpdates →
      st.after pf { c with batchUpdates := batch } = st.after pf c ∧
      ((∃ written, (WriteCall.run pf { c with batchUpdates := batch } st).1 = .ok written) ↔
        ∃ written, (c.run pf st).1 = .ok written) ∧
      ((WriteCall.run pf { c with batchUpdates := batch } st).1 = .error (.err errInvalidUpdates) ↔
        (c.run pf st).1 = .error (.err errInvalidUpdates))) ∧
    (∀ more, (st.after pf c).after pf { c with batchUpdates := more } =
      st.after pf { c with batchUpdates := c.batchUpdates ++ more }) := by
  have hfresh : ∀ entry, notStale c.governance latest entry = true ↔
      latest - c.governance.stalePriceThreshold ≤ entry.publishTime := fun entry => by
    rw [notStale, decide_eq_true_eq]
    omega
  refine ⟨fun id => ⟨fun entry hentry hid hrecent hnewer hnewest => ?_, fun hold => ?_⟩,
    fun batch hperm => ?_, fun more => ?_⟩
  · refine c.after_of_lastOf st hflow hlatest hthreshold (lastOf_accepted_of_newest
      (ties_filter hties) (List.mem_filter.mpr ⟨hentry, (hfresh entry).mpr hrecent⟩) hid hnewer ?_)
    intro other hother hid'
    obtain ⟨hother, hfresh'⟩ := List.mem_filter.mp hother
    exact hnewest other hother hid' ((hfresh other).mp hfresh')
  · refine c.after_of_lastOf_none st hflow hlatest hthreshold (lastOf_accepted_eq_none.mpr ?_)
    intro entry hentry hid
    obtain ⟨hentry, hfresh'⟩ := List.mem_filter.mp hentry
    exact hold entry hentry hid ((hfresh entry).mp hfresh')
  · exact ⟨c.after_perm st hflow hlatest hthreshold hties hperm,
      c.verdict_perm st hflow hlatest hthreshold hperm⟩
  · exact c.after_append st hflow hlatest hthreshold more

/-! ### A closed batch -/

/-- An authorized call that writes one feed with these publish times, on testnet at the block
time 200000000. -/
def oneFeed (publishTimes : List Nat) : WriteCall where
  governance := .deployed .reference
  env := ⟨Platform.reference.pythOracleV2, 1, fun _ => some 200000000⟩
  contractCaller := Platform.reference.pythOracleV2
  batchUpdates := publishTimes.map fun (publishTime : Nat) =>
    { priceIdentifier := [1], price := publishTime, conf := 0, expo := -5, emaPrice := 0,
      emaConf := 0, publishTime, prevPublishTime := 0 }

theorem oneFeed_allows (publishTimes : List Nat) :
    (oneFeed publishTimes).governance.currentExecutionPlan.Allows
      Platform.reference.pythStoreV1 (oneFeed publishTimes).contractCaller none :=
  .inl ⟨.inl rfl, rfl⟩

theorem oneFeed_latest (publishTimes : List Nat) :
    latestBitcoinTimestamp (oneFeed publishTimes).env = .ok 200000000 := rfl

theorem newest_entry_wins_oneFeed :
    ((Storage.deployed.after .reference (oneFeed [150000000, 190000000, 7])).timestamps [1]) =
      some 190000000 := by
  have hwins := (@newest_entry_wins .reference 200000000 (oneFeed [150000000, 190000000, 7])
    .deployed (oneFeed_allows _) (oneFeed_latest _) (by decide) (by decide)).1 [1]
  exact (hwins.1 _ (.tail _ (.head _)) rfl (by decide) (by decide) (by decide)).2

/-! ## What is returned

For the exact condition of a refusal the call need not have a threshold below the block time, so the
batch is looked at once more, with the abort included. -/

section Returned

variable {st : Storage} {batch : List PriceUpdate}

/-- With the threshold above the block time, an entry newer than its record ends the call. -/
theorem mapM'_respond_underflow (hlatest : latestBitcoinTimestamp env = .ok latest)
    (hunder : latest < gov.stalePriceThreshold)
    (h : ∃ entry ∈ batch, st.timestamp entry.priceIdentifier < entry.publishTime) :
    ∃ st', batch.mapM' (fun entry => (writeBatchEntry gov env entry).respond) st =
      (.error .abort, st') := by
  induction batch with
  | nil =>
    obtain ⟨_, hmem, -⟩ := h
    cases hmem
  | cons entry batch ih =>
    -- this entry aborts the batch, or it is refused as old and a later one aborts it
    by_cases hnewer : isPriceUpdateMoreRecent st entry.priceIdentifier entry.publishTime
    · have habort := writeBatchEntry_of_underflow hlatest hnewer hunder
      refine ⟨st, ?_⟩
      rw [List.mapM'_cons, Contract.bind_eq_error, Contract.respond, habort]
      exact .inl rfl
    · obtain ⟨code, herror⟩ : ∃ code,
          writeBatchEntry gov env entry st = (.error (.err code), st) :=
        writeBatchEntry_of_not_qualified hlatest fun h => hnewer h.1
      have hrest : ∃ entry ∈ batch, st.timestamp entry.priceIdentifier < entry.publishTime := by
        obtain ⟨other, hother, hnewer'⟩ := h
        -- the entry that underflows is this one or comes later
        rcases List.mem_cons.mp hother with rfl | hother
        · exact absurd hnewer' hnewer
        · exact ⟨other, hother, hnewer'⟩
      obtain ⟨st', habort⟩ := ih hrest
      refine ⟨st', ?_⟩
      rw [List.mapM'_cons, Contract.bind_eq_error]
      exact .inr ⟨_, _, respond_of_err herror, Contract.bind_eq_error.mpr (.inl habort)⟩

/-- A batch whose entries all fail. -/
theorem mapM'_respond_of_errors
    (h : ∀ entry ∈ batch, ∃ code, writeBatchEntry gov env entry st = (.error (.err code), st)) :
    ∃ responses, batch.mapM' (fun entry => (writeBatchEntry gov env entry).respond) st =
        (.ok responses, st) ∧
      responses.filter onlyOkEntry = ([] : List PriceUpdate).map .ok := by
  induction batch with
  | nil => exact ⟨[], rfl, rfl⟩
  | cons entry batch ih =>
    obtain ⟨code, herror⟩ := h entry (.head _)
    obtain ⟨responses, hrest, hfilter⟩ := ih fun other hother => h other (.tail _ hother)
    exact ⟨.error code :: responses, mapM'_respond_cons_err herror hrest,
      filter_onlyOkEntry_error.trans hfilter⟩

/-- What `write` asks of an entry, in whole numbers. -/
def Qualifies (gov : Governance.Storage) (env : TxEnv) (st : Storage) (entry : PriceUpdate) :
    Prop :=
  st.timestamp entry.priceIdentifier < entry.publishTime ∧
    ∃ latest, latestBitcoinTimestamp env = .ok latest ∧
      latest ≤ entry.publishTime + gov.stalePriceThreshold

/-- An entry that does not qualify is refused, also where the block before has no time. -/
theorem writeBatchEntry_of_not_qualifies (hblock : 0 < env.blockHeight) {entry : PriceUpdate}
    (h : ¬ Qualifies gov env st entry) :
    ∃ code, writeBatchEntry gov env entry st = (.error (.err code), st) := by
  cases hlatest : latestBitcoinTimestamp env with
  | ok latest =>
    refine writeBatchEntry_of_not_qualified hlatest fun hqualified => h ⟨hqualified.1, latest,
      hlatest, ?_⟩
    have hfresh := hqualified.2
    rwa [notStale, decide_eq_true_eq] at hfresh
  | error e =>
    have hcode : e = .err errStalePrice := by
      rw [latestBitcoinTimestamp_eq hblock] at hlatest
      -- without a block time the entry is refused as stale
      cases htime : env.blockTime (env.blockHeight - 1) with
      | none =>
        rw [htime] at hlatest
        exact (Except.error.inj hlatest).symm
      | some time =>
        rw [htime] at hlatest
        cases hlatest
    refine ⟨errStalePrice, ?_⟩
    simp only [writeBatchEntry, Contract.bind_eq_error, Contract.lift_apply, Prod.mk.injEq]
    exact .inl ⟨hcode ▸ hlatest, trivial⟩

/-- **When a batch is refused as a whole.** -/
theorem WriteCall.errInvalidUpdates_iff {c : WriteCall} {st : Storage}
    (hflow : c.governance.currentExecutionPlan.Allows pf.pythStoreV1 c.contractCaller none)
    (hblock : 0 < c.env.blockHeight) :
    (c.run pf st).1 = .error (.err errInvalidUpdates) ↔
      ∀ entry ∈ c.batchUpdates, ¬ Qualifies c.governance c.env st entry := by
  constructor
  · rintro hrefused entry hentry ⟨hnewer, latest, hlatest, hfresh⟩
    -- the threshold decides whether an entry that qualifies is written or aborts; neither is a
    -- refusal
    by_cases hthreshold : c.governance.stalePriceThreshold ≤ latest
    · have hnil := (c.verdict st hflow hlatest hthreshold).2.mp hrefused
      have hle := qualifying_eq_nil_iff.mp hnil entry hentry (decide_eq_true hfresh)
      omega
    · obtain ⟨st', habort⟩ := mapM'_respond_underflow hlatest (Nat.not_le.mp hthreshold)
        ⟨entry, hentry, hnewer⟩
      have hwrite : write pf c.governance c.env c.contractCaller c.batchUpdates st =
          (.error .abort, st') := by
        rw [write, Contract.bind_eq_error]
        exact .inl habort
      rw [WriteCall.run, Contract.transaction, hwrite] at hrefused
      cases hrefused
  · intro hnone
    obtain ⟨responses, hresponses, hfilter⟩ := mapM'_respond_of_errors fun entry hentry =>
      writeBatchEntry_of_not_qualifies hblock (hnone entry hentry)
    have hwrite := write_of_responses hflow hresponses hfilter
    rw [WriteCall.run, Contract.transaction, hwrite, if_pos rfl]

/-- Where something was written there is a block time, and the threshold is not above it. -/
theorem Written.exists_latest {st st' : Storage} {written : List PriceUpdate}
    (h : Written gov env st written st') (hne : written ≠ []) :
    ∃ latest, latestBitcoinTimestamp env = .ok latest ∧ gov.stalePriceThreshold ≤ latest := by
  cases h with
  | nil => exact absurd rfl hne
  | cons haccepts _ =>
    obtain ⟨latest, hlatest, hthreshold, -⟩ := haccepts.2
    exact ⟨latest, hlatest, hthreshold⟩

/-- **What is returned is what was stored.** For an authorized `write` that returns ok: it
returns the entries of the batch that are not stale and newer than the record of their turn, in
order; those of one feed have rising publish times; every feed among them reads as its last
entry, and the other feeds are as before. It fails with `ERR_INVALID_UPDATES` exactly when no
entry of the batch qualifies. The block of the call is not the first one, so there is one
before it to take the time from. -/
theorem returned_entries_stored {c : WriteCall} {st : Storage}
    (hflow : c.governance.currentExecutionPlan.Allows pf.pythStoreV1 c.contractCaller none)
    (hblock : 0 < c.env.blockHeight) :
    (∀ written, (c.run pf st).1 = .ok written →
      (∃ latest, latestBitcoinTimestamp c.env = .ok latest ∧
        written = accepted PriceUpdate.priceIdentifier (fun entry => entry.publishTime)
          st.timestamp (c.batchUpdates.filter fun entry =>
            latest ≤ entry.publishTime + c.governance.stalePriceThreshold)) ∧
      written.Sublist c.batchUpdates ∧
      written.Pairwise (fun a b =>
        a.priceIdentifier = b.priceIdentifier → a.publishTime < b.publishTime) ∧
      (∀ id entry, lastOf PriceUpdate.priceIdentifier id written = some entry →
        read (st.after pf c) id = .ok entry.toPriceRecord) ∧
      (∀ id, (∀ entry ∈ written, entry.priceIdentifier ≠ id) →
        (st.after pf c).prices id = st.prices id ∧
          (st.after pf c).timestamps id = st.timestamps id)) ∧
    ((c.run pf st).1 = .error (.err errInvalidUpdates) ↔
      ∀ entry ∈ c.batchUpdates, ¬ (st.timestamp entry.priceIdentifier < entry.publishTime ∧
        ∃ latest, latestBitcoinTimestamp c.env = .ok latest ∧
          latest ≤ entry.publishTime + c.governance.stalePriceThreshold)) := by
  refine ⟨fun written hok => ?_, c.errInvalidUpdates_iff hflow hblock⟩
  obtain ⟨-, hne, hchain, -⟩ := write_eq_ok (Contract.transaction_eq_ok.mp (Contract.run_eq hok))
  obtain ⟨latest, hlatest, hthreshold⟩ := hchain.exists_latest hne
  have hresult := (c.run_eq st hflow hlatest hthreshold).1
  -- what is returned is what qualifies, in the closed form of the batch
  have hwritten : written = qualifying c.governance latest st c.batchUpdates := by
    rw [hok] at hresult
    split at hresult
    · cases hresult
    · exact Except.ok.inj hresult
  refine ⟨⟨latest, hlatest, hwritten⟩, ?_, ?_, fun id entry hlast => ?_, fun id hother => ?_⟩
  · rw [hwritten]
    exact (accepted_sublist _ _).trans List.filter_sublist
  · rw [hwritten]
    exact accepted_pairwise _ _
  · rw [hwritten] at hlast
    rw [read, (c.after_of_lastOf st hflow hlatest hthreshold hlast).1]
    rfl
  · have hlast := lastOf_eq_none.mpr hother
    rw [hwritten] at hlast
    exact c.after_of_lastOf_none st hflow hlatest hthreshold hlast

/-- The middle entry is older than the first one, and the last one stale. -/
theorem returned_entries_stored_oneFeed :
    ((oneFeed [190000000, 150000000, 7]).run .reference .deployed).1 =
        .ok ((oneFeed [190000000]).batchUpdates) ∧
      ((oneFeed [190000000]).batchUpdates).Sublist
        (oneFeed [190000000, 150000000, 7]).batchUpdates := by
  have hok : ((oneFeed [190000000, 150000000, 7]).run .reference .deployed).1 =
      .ok ((oneFeed [190000000]).batchUpdates) := by
    decide +kernel
  exact ⟨hok, ((returned_entries_stored (oneFeed_allows _) (by decide)).1 _ hok).2.1⟩

end Returned

end PythBridge.Store
