import PythBridge.Clarity.Runs
import PythBridge.Pyth.ExecutionFlow
import PythBridge.Pyth.Store

/-!
# Runs of `pyth-store-v1`

What a batch does, and from it what any sequence of batches does. A successful `write` is a
chain of accepted entries (`Written`), each newer than the record of its feed at the moment
it is written. That chain keeps the two maps in step (`Consistent`) and only moves feeds
forward (`Fresher`).

The module has three layers. One entry: `writeBatchEntry_eq_ok`, `writeBatchEntry_error`. One batch:
`write_eq_ok`, with the chain `Written` that the accepted entries form. A run: `Storage.after` per
call, and `afterRun` for any number of them. Each property of the maps is proved of one accepted
entry, carried along the chain by induction, and along the run by the rule of invariants.

Duplicates in a batch need no case of their own: the second entry of a feed is compared with the
record that the first one left, which is what `Written` says.
-/

namespace PythBridge.Store

open Clarity

variable {pf : Platform} {gov : Governance.Storage} {env : TxEnv} {caller : Principal}

/-! ## One batch

`map` runs over the batch with the storage threaded through, and refused entries are filtered out of
the responses afterwards. -/

/-- What `write-batch-entry` asks of an entry: it is newer than the recorded one, and not
older than the stale price threshold allows at the latest block time. -/
def Accepts (gov : Governance.Storage) (env : TxEnv) (st : Storage) (entry : PriceUpdate) :
    Prop :=
  isPriceUpdateMoreRecent st entry.priceIdentifier entry.publishTime ∧
    ∃ latest, latestBitcoinTimestamp env = .ok latest ∧ gov.stalePriceThreshold ≤ latest ∧
      latest - gov.stalePriceThreshold ≤ entry.publishTime

/-- `written` are accepted and written one after another from `st` to `st'`. -/
inductive Written (gov : Governance.Storage) (env : TxEnv) :
    Storage → List PriceUpdate → Storage → Prop where
  | nil (st : Storage) : Written gov env st [] st
  | cons {st st' : Storage} {entry : PriceUpdate} {written : List PriceUpdate}
      (haccepts : Accepts gov env st entry) (rest : Written gov env (st.put entry) written st') :
      Written gov env st (entry :: written) st'

/-- The storage behind a chain is what the entries leave, one put after another. -/
theorem Written.eq_foldl {st st' : Storage} {written : List PriceUpdate}
    (h : Written gov env st written st') : st' = written.foldl Storage.put st := by
  -- entry by entry, from the state that the entries before have left
  induction h with
  | nil => rfl
  | cons _ _ ih => exact ih

/-- An entry that is written was accepted, and is returned as it came. -/
theorem writeBatchEntry_eq_ok {st st' : Storage} {entry written : PriceUpdate}
    (h : writeBatchEntry gov env entry st = (.ok written, st')) :
    written = entry ∧ Accepts gov env st entry ∧ st' = st.put entry := by
  simp only [writeBatchEntry, Contract.bind_eq_ok, Contract.lift_apply, Contract.readOnly_apply,
    Contract.modify_apply, Contract.pure_apply, Prod.mk.injEq, asserts_eq_ok,
    checkedSub_eq_ok] at h
  obtain ⟨latest, _, ⟨hlatest, rfl⟩, _, _, ⟨hnewer, rfl⟩, _, _, ⟨⟨hthreshold, rfl⟩, rfl⟩, _, _,
    ⟨hstale, rfl⟩, _, _, ⟨-, rfl⟩, hwritten, rfl⟩ := h
  cases hwritten
  exact ⟨rfl, ⟨hnewer, latest, hlatest, hthreshold, hstale⟩, rfl⟩

/-- An entry that is not written leaves the maps alone. -/
theorem writeBatchEntry_error {st st' : Storage} {entry : PriceUpdate} {e : Exit}
    (h : writeBatchEntry gov env entry st = (.error e, st')) : st' = st := by
  simp only [writeBatchEntry, Contract.bind_eq_error, Contract.lift_apply,
    Contract.readOnly_apply, Contract.modify_apply, Contract.pure_apply, Prod.mk.injEq] at h
  -- the four steps in front of the write exit without having written, and the write does not exit
  rcases h with ⟨-, rfl⟩ | ⟨_, _, ⟨-, rfl⟩, h⟩
  · rfl
  rcases h with ⟨-, rfl⟩ | ⟨_, _, ⟨-, rfl⟩, h⟩
  · rfl
  rcases h with ⟨-, rfl⟩ | ⟨_, _, ⟨-, rfl⟩, h⟩
  · rfl
  rcases h with ⟨-, rfl⟩ | ⟨_, _, ⟨-, rfl⟩, h⟩
  · rfl
  rcases h with ⟨h, -⟩ | ⟨_, _, -, h, -⟩ <;> cases h

/-- The response for one entry: written, or refused without a trace. -/
theorem respond_writeBatchEntry {st st' : Storage} {entry : PriceUpdate}
    {response : Response PriceUpdate}
    (h : (writeBatchEntry gov env entry).respond st = (.ok response, st')) :
    (response = .ok entry ∧ Accepts gov env st entry ∧ st' = st.put entry) ∨
      ((∃ code, response = .error code) ∧ st' = st) := by
  unfold Contract.respond at h
  -- an error becomes a response, an abort goes through
  rcases hentry : writeBatchEntry gov env entry st with ⟨(code | _) | written, st₁⟩
  · rw [hentry] at h
    cases h
    exact .inr ⟨⟨code, rfl⟩, writeBatchEntry_error hentry⟩
  · rw [hentry] at h
    cases h
  · rw [hentry] at h
    cases h
    obtain ⟨rfl, haccepts, rfl⟩ := writeBatchEntry_eq_ok hentry
    exact .inl ⟨rfl, haccepts, rfl⟩

/-- The whole batch: the entries with an ok response are written in order, and they are a
sublist of the batch. Induction on the batch. -/
theorem mapM'_writeBatchEntry {st st' : Storage} {batch : List PriceUpdate}
    {responses : List (Response PriceUpdate)}
    (h : batch.mapM' (fun entry => (writeBatchEntry gov env entry).respond) st =
      (.ok responses, st')) :
    ∃ written, responses.filter onlyOkEntry = written.map .ok ∧ written.Sublist batch ∧
      Written gov env st written st' := by
  induction batch generalizing st responses with
  | nil =>
    cases h
    exact ⟨[], rfl, .slnil, .nil _⟩
  | cons entry batch ih =>
    simp only [List.mapM'_cons, Contract.bind_eq_ok, Contract.pure_apply, Prod.mk.injEq] at h
    obtain ⟨response, st₁, hentry, rest, st₂, hrest, hresponses, rfl⟩ := h
    cases hresponses
    obtain ⟨written, hfilter, hsub, hwritten⟩ := ih hrest
    -- the entry in front goes into the chain, or is dropped from it
    rcases respond_writeBatchEntry hentry with ⟨rfl, haccepts, rfl⟩ | ⟨⟨code, rfl⟩, rfl⟩
    · refine ⟨entry :: written, ?_, hsub.cons_cons entry, .cons haccepts hwritten⟩
      rw [List.filter_cons_of_pos (by rfl), hfilter, List.map_cons]
    · refine ⟨written, ?_, hsub.cons entry, hwritten⟩
      rw [List.filter_cons_of_neg (by simp [onlyOkEntry, Except.toBool]), hfilter]

/-- Unwrapping entries that are all ok changes nothing. -/
theorem mapM'_unwrappedEntry {written unwrapped : List PriceUpdate}
    (h : (written.map Except.ok).mapM' unwrappedEntry = .ok unwrapped) : unwrapped = written := by
  induction written generalizing unwrapped with
  | nil =>
    cases h
    rfl
  | cons entry written ih =>
    simp only [List.map_cons, List.mapM'_cons, exec_bind_eq_ok, exec_pure_eq_ok,
      unwrappedEntry, unwrapPanic_eq_ok] at h
    obtain ⟨_, hentry, rest, hrest, rfl⟩ := h
    cases hentry
    rw [ih hrest]

/-- **A successful `write`.** It returns the entries it wrote, in order; they are a non-empty
sublist of the batch, and governance let the caller through. -/
theorem write_eq_ok {st st' : Storage} {batchUpdates written : List PriceUpdate}
    (h : write pf gov env caller batchUpdates st = (.ok written, st')) :
    written.Sublist batchUpdates ∧ written ≠ [] ∧ Written gov env st written st' ∧
      gov.currentExecutionPlan.Allows pf.pythStoreV1 caller none := by
  simp only [write, Contract.bind_eq_ok, Contract.lift_apply, Contract.pure_apply,
    Prod.mk.injEq, asserts_eq_ok] at h
  obtain ⟨responses, st₁, hresponses, successful, _, ⟨hsuccessful, rfl⟩, flow, _, ⟨hflow, rfl⟩,
    _, _, ⟨hlength, rfl⟩, hwritten, rfl⟩ := h
  cases hwritten
  obtain ⟨entries, hfilter, hsub, hentries⟩ := mapM'_writeBatchEntry hresponses
  rw [hfilter] at hsuccessful
  obtain rfl := mapM'_unwrappedEntry hsuccessful
  have hne : written ≠ [] := by
    rintro rfl
    cases hlength
  exact ⟨hsub, hne, hentries, (Governance.checkExecutionFlow_eq_ok.mp hflow).2⟩

/-! ## The two maps

`Consistent` is an invariant of one state, `Fresher` a relation between an earlier and a later one.
-/

/-- The maps agree: a feed has a price exactly when it has a timestamp, the timestamp is the
price's publish time, and it is positive. -/
structure Storage.Consistent (st : Storage) : Prop where
  timestamps_eq : ∀ id, st.timestamps id = (st.prices id).map PriceRecord.publishTime
  pos : ∀ id time, st.timestamps id = some time → 0 < time

/-- The feeds of `st'` are those of `st`, possibly newer, and new ones. -/
structure Fresher (st st' : Storage) : Prop where
  prices_isSome : ∀ id, (st.prices id).isSome → (st'.prices id).isSome
  timestamps_le : ∀ id time, st.timestamps id = some time →
    ∃ time', st'.timestamps id = some time' ∧ time ≤ time'
  timestamp_le : ∀ id, st.timestamp id ≤ st'.timestamp id
  timestamp_lt : ∀ id, st'.prices id ≠ st.prices id → st.timestamp id < st'.timestamp id

/-- Both maps are empty at the deployment. -/
theorem Storage.deployed_consistent : Storage.deployed.Consistent where
  timestamps_eq _ := rfl
  pos _ _ h := by cases h

theorem Fresher.refl (st : Storage) : Fresher st st where
  prices_isSome _ h := h
  timestamps_le _ time h := ⟨time, h, Nat.le_refl _⟩
  timestamp_le _ := Nat.le_refl _
  timestamp_lt _ h := absurd rfl h

/-- Feeds move forward from state to state. -/
theorem Fresher.trans {a b c : Storage} (hab : Fresher a b) (hbc : Fresher b c) :
    Fresher a c where
  prices_isSome id h := hbc.prices_isSome id (hab.prices_isSome id h)
  timestamps_le id time h := by
    obtain ⟨time', h', hle⟩ := hab.timestamps_le id time h
    obtain ⟨time'', h'', hle'⟩ := hbc.timestamps_le id time' h'
    exact ⟨time'', h'', Nat.le_trans hle hle'⟩
  timestamp_le id := Nat.le_trans (hab.timestamp_le id) (hbc.timestamp_le id)
  timestamp_lt id h := by
    -- a change from `a` to `c` is a change in one of the two halves
    by_cases hb : b.prices id = a.prices id
    · have := hbc.timestamp_lt id (hb ▸ h)
      exact Nat.lt_of_le_of_lt (hab.timestamp_le id) this
    · have := hab.timestamp_lt id hb
      exact Nat.lt_of_lt_of_le this (hbc.timestamp_le id)

/-- An accepted entry keeps the maps in step: its publish time is above the recorded one, so
above zero. -/
theorem Storage.Consistent.put {st : Storage} {entry : PriceUpdate} (h : st.Consistent)
    (haccepts : Accepts gov env st entry) : (st.put entry).Consistent where
  timestamps_eq id := by
    -- price and time of the feed are set together
    by_cases hid : id = entry.priceIdentifier
    · simp [Storage.put, hid]
    · simp only [Storage.put, DataMap.set_of_ne _ _ hid, h.timestamps_eq id]
  pos id time htime := by
    by_cases hid : id = entry.priceIdentifier
    · have hnewer : st.timestamp entry.priceIdentifier < entry.publishTime := haccepts.1
      simp only [Storage.put, hid, DataMap.set_self, Option.some.injEq] at htime
      omega
    · simp only [Storage.put, DataMap.set_of_ne _ _ hid] at htime
      exact h.pos id time htime

/-- An accepted entry moves its feed forward and no other. -/
theorem Accepts.fresher {st : Storage} {entry : PriceUpdate}
    (haccepts : Accepts gov env st entry) : Fresher st (st.put entry) := by
  have hnewer : st.timestamp entry.priceIdentifier < entry.publishTime := haccepts.1
  have hself : (st.put entry).timestamp entry.priceIdentifier = entry.publishTime := by
    simp [Storage.put, Storage.timestamp]
  -- the frame: every other feed keeps its record
  have hother : ∀ id, id ≠ entry.priceIdentifier →
      (st.put entry).timestamps id = st.timestamps id := fun id hid => by
    simp only [Storage.put, DataMap.set_of_ne _ _ hid]
  constructor
  · intro id h
    by_cases hid : id = entry.priceIdentifier
    · simp [Storage.put, hid]
    · simpa only [Storage.put, DataMap.set_of_ne _ _ hid] using h
  · intro id time h
    by_cases hid : id = entry.priceIdentifier
    · subst hid
      rw [Storage.timestamp, h, Option.getD_some] at hnewer
      exact ⟨entry.publishTime, by simp [Storage.put], by omega⟩
    · exact ⟨time, by rw [hother id hid, h], Nat.le_refl _⟩
  · intro id
    by_cases hid : id = entry.priceIdentifier
    · subst hid
      omega
    · exact Nat.le_of_eq (by rw [Storage.timestamp, Storage.timestamp, hother id hid])
  · intro id h
    by_cases hid : id = entry.priceIdentifier
    · subst hid
      omega
    · exact absurd (by simp only [Storage.put, DataMap.set_of_ne _ _ hid]) h

/-- A chain of accepted entries keeps the maps in step. -/
theorem Written.consistent {st st' : Storage} {written : List PriceUpdate}
    (h : Written gov env st written st') (hst : st.Consistent) : st'.Consistent := by
  induction h with
  | nil => exact hst
  | cons haccepts _ ih => exact ih (hst.put haccepts)

/-- A chain of accepted entries only moves feeds forward. -/
theorem Written.fresher {st st' : Storage} {written : List PriceUpdate}
    (h : Written gov env st written st') : Fresher st st' := by
  induction h with
  | nil => exact .refl _
  | cons haccepts _ ih => exact haccepts.fresher.trans ih

/-- A price that a chain of entries has changed is that of one of them, newer than what was
recorded before the chain and not stale. -/
theorem Written.exists_entry {st st' : Storage} {written : List PriceUpdate}
    (h : Written gov env st written st') {id : Buff} (hne : st'.prices id ≠ st.prices id) :
    ∃ entry ∈ written, entry.priceIdentifier = id ∧
      st'.prices id = some entry.toPriceRecord ∧ st.timestamp id < entry.publishTime ∧
      ∃ latest, latestBitcoinTimestamp env = .ok latest ∧ gov.stalePriceThreshold ≤ latest ∧
        latest - gov.stalePriceThreshold ≤ entry.publishTime := by
  induction h with
  | nil => exact absurd rfl hne
  | @cons st st' entry written haccepts rest ih =>
    -- no later entry of the chain is for this feed, or the last one that is has set the price
    by_cases hlater : st'.prices id = (st.put entry).prices id
    · -- this entry is the last one for `id`
      have hid : id = entry.priceIdentifier := by
        by_contra hother
        exact hne (by rw [hlater]; simp only [Storage.put, DataMap.set_of_ne _ _ hother])
      subst hid
      exact ⟨entry, .head _, rfl, by rw [hlater]; simp [Storage.put], haccepts.1, haccepts.2⟩
    · obtain ⟨other, hother, hid, hprice, hnewer, hrecent⟩ := ih hlater
      have hle := haccepts.fresher.timestamp_le id
      exact ⟨other, .tail _ hother, hid, hprice, by omega, hrecent⟩

/-! ## Runs -/

/-- A call of `write`, with what governance and the chain say at that moment. -/
structure WriteCall where
  governance : Governance.Storage
  env : TxEnv
  contractCaller : Principal
  batchUpdates : List PriceUpdate

def WriteCall.run (pf : Platform) (c : WriteCall) : Contract Storage (List PriceUpdate) :=
  (write pf c.governance c.env c.contractCaller c.batchUpdates).transaction

def Storage.after (pf : Platform) (st : Storage) (c : WriteCall) : Storage := (c.run pf st).2

/-- Every call writes a chain of accepted entries; one that fails writes nothing. -/
theorem WriteCall.written (pf : Platform) (c : WriteCall) (st : Storage) :
    ∃ written, Written c.governance c.env st written (st.after pf c) := by
  unfold Storage.after WriteCall.run
  rcases Contract.transaction_cases (write pf c.governance c.env c.contractCaller
    c.batchUpdates) st with ⟨written, st', h, hbody⟩ | ⟨e, h⟩
  · rw [h]
    exact ⟨written, (write_eq_ok hbody).2.2.1⟩
  · rw [h]
    exact ⟨[], .nil st⟩

theorem Storage.Consistent.afterRun {st : Storage} (h : st.Consistent) (calls : List WriteCall) :
    (afterRun (Storage.after pf) st calls).Consistent :=
  afterRun_invariant (fun st c _ hst =>
    have ⟨_, hwritten⟩ := c.written pf st
    hwritten.consistent hst) h

theorem Fresher.afterRun (st : Storage) (calls : List WriteCall) :
    Fresher st (Clarity.afterRun (Storage.after pf) st calls) :=
  afterRun_rel Fresher.refl (fun _ _ _ => Fresher.trans) (fun st c _ =>
    have ⟨_, hwritten⟩ := c.written pf st
    hwritten.fresher) st

/-- **The store over whole runs.** After any calls of `write` from the empty store: a feed
has a price exactly when it has a timestamp, and the timestamp is the price's positive publish
time; whatever is called from there on, feeds never disappear or go back in time, and a price
changes only for a newer one; and a call that does not return ok changes nothing. -/
theorem store_consistent_and_fresh (pf : Platform) (calls : List WriteCall) :
    let st := Clarity.afterRun (Storage.after pf) .deployed calls
    (∀ id, ((st.prices id).isSome ↔ (st.timestamps id).isSome) ∧
      ∀ record, st.prices id = some record →
        st.timestamps id = some record.publishTime ∧ 0 < record.publishTime) ∧
    (∀ more, Fresher st (Clarity.afterRun (Storage.after pf) st more)) ∧
    ∀ (c : WriteCall) e, (c.run pf st).1 = .error e → st.after pf c = st := by
  intro st
  have hst : st.Consistent := Storage.deployed_consistent.afterRun calls
  refine ⟨fun id => ⟨?_, fun record hrecord => ?_⟩, fun more => .afterRun st more,
    fun c e he => ?_⟩
  · rw [hst.timestamps_eq id, Option.isSome_map]
  · have htime : st.timestamps id = some record.publishTime := by
      rw [hst.timestamps_eq id, hrecord, Option.map_some]
    exact ⟨htime, hst.pos id _ htime⟩
  · exact Contract.transaction_error (Prod.ext he rfl)

end PythBridge.Store
