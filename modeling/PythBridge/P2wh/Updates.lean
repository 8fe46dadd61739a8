import PythBridge.Clarity.Latest
import PythBridge.Clarity.Mapping
import PythBridge.Clarity.Runs
import PythBridge.P2wh.RoundTrip

/-!
# `update-prices-feeds` over whole runs

A call either reads every VAA it is given or aborts, so it never answers with an error
(`transaction_updatePricesFeeds`, `update_reads_all_or_aborts`). What it reads is stored for the
watched feeds without a look at what is stored already: after any run a price is the one of the last
attestation that a call which did not abort carried for its feed, however old it is
(`prices_follow_last_attestation`).

The crux is that the list of updated feeds never runs out of room. It has 2048 places, a call has
four VAAs, a VAA gives at most 63 attestations (`length_le_of_batchOf`), so the folds cannot abort
for want of room, and the only thing that aborts is a VAA that is not verified or not read. The
calls of a run then compose: storing one list of attestations after another is storing their
concatenation, in which the last entry of a feed wins.

* `foldlM_processPricesAttestationsBatch`: the folds in closed form.
* `neverErrs_updatePricesFeeds`: no error is answered.
* `transaction_updatePricesFeeds`: a call in closed form.
* `prices_follow_last_attestation`: runs.
-/

namespace PythBridge.P2whDecoder

open Clarity

variable {hk : HkCursorV1} {wormhole : WormholeCore} {st : Storage}

/-! ## What a call is given

A VAA is good or not, whatever the storage; the whole call is good when all its VAAs are. -/

/-- The batch of a VAA, if the VAA is verified and its payload can be read. -/
def batchOf (hk : HkCursorV1) (wormhole : WormholeCore) (vaaBytes : Buff) :
    Option PriceAttestations :=
  match wormhole vaaBytes with
  | .ok payload => (parseAndVerifyPriceAttestations hk payload).toOption
  | .error _ => none

/-- All attestations of a call, if every VAA of it is good. -/
def attestationsOf (hk : HkCursorV1) (wormhole : WormholeCore) (vaas : List Buff) :
    Option (List PriceAttestation) :=
  (vaas.mapM (batchOf hk wormhole)).map fun batches => batches.flatMap (·.priceAttestations)

/-! ## Storing

The storage after a list of attestations, and what is left of it under an identifier. -/

/-- The attestations of watched feeds. -/
def watchedOf (watched : List Buff) (attestations : List PriceAttestation) :
    List PriceAttestation :=
  attestations.filter (·.priceFeedId ∈ watched)

theorem watchedOf_append (watched : List Buff) (l l' : List PriceAttestation) :
    watchedOf watched (l ++ l') = watchedOf watched l ++ watchedOf watched l' :=
  List.filter_append ..

/-- The storage after `attestations` are stored one after another. -/
def Storage.storeAll (st : Storage) (attestations : List PriceAttestation) : Storage :=
  { st with
    prices := attestations.foldl
      (fun (prices : DataMap Buff PriceFeed) a => prices.set a.priceFeedId a.toPriceFeed)
      st.prices }

theorem Storage.storeAll_append (st : Storage) (l l' : List PriceAttestation) :
    st.storeAll (l ++ l') = (st.storeAll l).storeAll l' := by
  rw [storeAll, storeAll, storeAll, List.foldl_append]

/-- The last attestation of a feed is the one that stays. -/
theorem Storage.storeAll_prices (st : Storage) (l : List PriceAttestation) (id : Buff) :
    (st.storeAll l).prices id =
      ((lastOf PriceAttestation.priceFeedId id l).map fun a => some a.toPriceFeed).getD
        (st.prices id) := by
  rw [storeAll]
  simp only [DataMap.set_eq_update]
  exact foldl_update_apply (fun a : PriceAttestation => some a.toPriceFeed) st.prices id l

/-! ## The folds

The inner fold goes over the attestations of a batch, the outer one over the batches of a call. The
invariant of both is the room that is left in the list of updated feeds. -/

theorem processPriceAttestation_of_mem {acc : ProcessAcc} {entry : PriceAttestation}
    (hwatched : entry.priceFeedId ∈ acc.input) (hroom : acc.updatedPricesFeeds.length < 2048) :
    processPriceAttestation acc entry st =
      (.ok ⟨acc.input, acc.updatedPricesFeeds ++ [entry.priceFeedId]⟩, st.storeAll [entry]) := by
  obtain ⟨index, hindex⟩ : ∃ index, acc.input.idxOf? entry.priceFeedId = some index := by
    rw [← Option.isSome_iff_exists, List.isSome_idxOf?]
    exact hwatched
  have hcap : asMaxLen? (acc.updatedPricesFeeds ++ [entry.priceFeedId]) 2048 =
      some (acc.updatedPricesFeeds ++ [entry.priceFeedId]) := by
    rw [asMaxLen?_eq_some, List.length_append, List.length_singleton]
    exact ⟨hroom, rfl⟩
  simp only [processPriceAttestation, hindex, hcap, bind, Contract.modify, Contract.lift,
    unwrapPanicOpt]
  rfl

theorem processPriceAttestation_of_not_mem {acc : ProcessAcc} {entry : PriceAttestation}
    (hwatched : entry.priceFeedId ∉ acc.input) :
    processPriceAttestation acc entry st = (.ok acc, st) := by
  have hindex : acc.input.idxOf? entry.priceFeedId = none := List.idxOf?_eq_none_iff.mpr hwatched
  simp only [processPriceAttestation, hindex]
  rfl

/-- The attestations of one batch, with room for all of them. -/
theorem foldlM_processPriceAttestation (watched : List Buff) (l : List PriceAttestation) :
    ∀ st updated, updated.length + l.length ≤ 2048 →
      l.foldlM processPriceAttestation ⟨watched, updated⟩ st =
        (.ok ⟨watched, updated ++ (watchedOf watched l).map (·.priceFeedId)⟩,
          st.storeAll (watchedOf watched l)) := by
  induction l with
  | nil =>
    intro st updated _
    rw [show watchedOf watched [] = [] from rfl, List.map_nil, List.append_nil]
    rfl
  | cons a l ih =>
    intro st updated hroom
    rw [List.length_cons] at hroom
    rw [List.foldlM_cons]
    -- a watched entry is stored and takes one place; another one is passed over
    by_cases hwatched : a.priceFeedId ∈ watched
    · have hfilter : watchedOf watched (a :: l) = [a] ++ watchedOf watched l :=
        List.filter_cons_of_pos (by simpa using hwatched)
      have hstep : processPriceAttestation ⟨watched, updated⟩ a st =
          (.ok ⟨watched, updated ++ [a.priceFeedId]⟩, st.storeAll [a]) :=
        processPriceAttestation_of_mem hwatched (show updated.length < 2048 by omega)
      rw [Contract.bind_of_ok hstep,
        ih _ _ (by rw [List.length_append, List.length_singleton]; omega),
        hfilter, Storage.storeAll_append, List.map_append, List.append_assoc]
      rfl
    · have hfilter : watchedOf watched (a :: l) = watchedOf watched l :=
        List.filter_cons_of_neg (by simpa using hwatched)
      rw [Contract.bind_of_ok (processPriceAttestation_of_not_mem hwatched),
        ih _ _ (by omega), hfilter]

/-- Batches of at most 63 attestations each. -/
theorem foldlM_processPricesAttestationsBatch (watched : List Buff)
    (batches : List PriceAttestations) (hsize : ∀ b ∈ batches, b.priceAttestations.length ≤ 63) :
    ∀ st updated, updated.length + 63 * batches.length ≤ 2048 →
      (batches.map Except.ok).foldlM processPricesAttestationsBatch ⟨watched, updated⟩ st =
        (.ok ⟨watched, updated ++
            (watchedOf watched (batches.flatMap (·.priceAttestations))).map (·.priceFeedId)⟩,
          st.storeAll (watchedOf watched (batches.flatMap (·.priceAttestations)))) := by
  induction batches with
  | nil =>
    intro st updated _
    have hnone : watchedOf watched (([] : List PriceAttestations).flatMap (·.priceAttestations)) =
        [] := rfl
    simp only [hnone, List.map_nil, List.append_nil]
    rfl
  | cons b batches ih =>
    intro st updated hroom
    rw [List.length_cons] at hroom
    have hb := hsize b (.head _)
    have hupdated : ((watchedOf watched b.priceAttestations).map (·.priceFeedId)).length ≤ 63 := by
      rw [List.length_map]
      exact Nat.le_trans (List.length_filter_le _ _) hb
    -- 63 places are enough for this batch, and the rest of the room is for the others
    have hone : processPricesAttestationsBatch ⟨watched, updated⟩ (.ok b) st =
        (.ok ⟨watched, updated ++ (watchedOf watched b.priceAttestations).map (·.priceFeedId)⟩,
          st.storeAll (watchedOf watched b.priceAttestations)) := by
      have hfold := foldlM_processPriceAttestation watched b.priceAttestations st updated (by omega)
      exact (Contract.bind_of_ok hfold _).trans rfl
    rw [List.map_cons, List.foldlM_cons, Contract.bind_of_ok hone,
      ih (fun b' hb' => hsize b' (.tail _ hb')) _ _ (by rw [List.length_append]; omega),
      List.flatMap_cons, watchedOf_append, Storage.storeAll_append, List.map_append,
      List.append_assoc]

/-- A fold that returns has found no error among the responses. -/
theorem eq_map_ok_of_foldlM {batches : List (Response PriceAttestations)} {acc acc' : ProcessAcc}
    {st st' : Storage}
    (h : batches.foldlM processPricesAttestationsBatch acc st = (.ok acc', st')) :
    ∃ read : List PriceAttestations, batches = read.map Except.ok := by
  induction batches generalizing acc st with
  | nil => exact ⟨[], rfl⟩
  | cons entry batches ih =>
    rw [List.foldlM_cons, Contract.bind_eq_ok] at h
    obtain ⟨acc₁, st₁, hstep, hrest⟩ := h
    rw [processPricesAttestationsBatch, Contract.bind_eq_ok] at hstep
    obtain ⟨b, _, hunwrap, -⟩ := hstep
    -- the step unwraps its entry first, so an error would have ended the fold
    have hentry : unwrapPanic entry = .ok b := congrArg Prod.fst hunwrap
    obtain ⟨read, rfl⟩ := ih hrest
    exact ⟨b :: read, by rw [List.map_cons, unwrapPanic_eq_ok.mp hentry]⟩

theorem batchOf_eq_some {vaaBytes : Buff} {b : PriceAttestations} :
    batchOf hk wormhole vaaBytes = some b ↔ ∃ payload, wormhole vaaBytes = .ok payload ∧
      parseAndVerifyPriceAttestations hk payload = .ok b := by
  unfold batchOf
  cases wormhole vaaBytes with
  | error code => simp
  | ok payload =>
    cases hread : parseAndVerifyPriceAttestations hk payload <;> simp [Except.toOption, hread]

theorem response_eq_ok {α : Type} {x : Exec α} {a : α} :
    response x = .ok (.ok a) ↔ x = .ok a := by
  rcases x with (_ | _) | _ <;> simp [response]

/-- All VAAs of a call are good exactly when both maps of the call go through without an error. -/
theorem mapM_batchOf_eq_some {vaas : List Buff} {batches : List PriceAttestations} :
    vaas.mapM (batchOf hk wormhole) = some batches ↔
      ∃ payloads, vaas.mapM (parseAndVerifyVaa wormhole) = .ok payloads ∧
        (payloads.mapM fun pfBytes => response (parseAndVerifyPriceAttestations hk pfBytes)) =
          .ok (batches.map Except.ok) := by
  simp only [mapM_eq_some, mapM_eq_ok]
  induction vaas generalizing batches with
  | nil =>
    simp only [List.forall₂_nil_left_iff, exists_eq_left, List.map_eq_nil_iff]
  | cons vaa vaas ih =>
    simp only [List.forall₂_cons_left_iff]
    constructor
    · rintro ⟨b, batches, hb, hbatches, rfl⟩
      obtain ⟨payload, hpayload, hb⟩ := batchOf_eq_some.mp hb
      obtain ⟨payloads, hpayloads, hbatches⟩ := ih.mp hbatches
      refine ⟨payload :: payloads, ⟨payload, payloads, ?_, hpayloads, rfl⟩, ?_⟩
      · exact unwrapPanic_eq_ok.mpr hpayload
      · exact .cons (response_eq_ok.mpr hb) hbatches
    · -- the two maps run one after the other, and agree entry by entry
      rintro ⟨_, ⟨payload, payloads, hpayload, hpayloads, rfl⟩, hbatches⟩
      obtain ⟨_, _, hb, hrest, heq⟩ := List.forall₂_cons_left_iff.mp hbatches
      obtain ⟨b, batches, rfl, rfl, rfl⟩ := List.map_eq_cons_iff.mp heq
      exact ⟨b, batches,
        batchOf_eq_some.mpr ⟨payload, unwrapPanic_eq_ok.mp hpayload, response_eq_ok.mp hb⟩,
        ih.mpr ⟨payloads, hpayloads, hrest⟩, rfl⟩

/-! ## The call

Every `unwrap-panic` of the call turns an error into an abort, and there is nothing else in it that
answers with an error. -/

/-- A body that does not answer with an error: it returns or aborts. -/
def NeverErrs {α : Type} (x : Exec α) : Prop := ∀ code, x ≠ .error (.err code)

section NeverErrs

variable {α β : Type}

theorem NeverErrs.bind {x : Exec α} {f : α → Exec β} (hx : NeverErrs x)
    (hf : ∀ a, NeverErrs (f a)) : NeverErrs (x >>= f) := by
  rcases x with (code | _) | a
  · exact absurd rfl (hx code)
  · exact nofun
  · exact hf a

theorem NeverErrs.mapM {f : α → Exec β} (hf : ∀ a, NeverErrs (f a)) (xs : List α) :
    NeverErrs (xs.mapM f) := by
  induction xs with
  | nil => exact nofun
  | cons x xs ih =>
    rw [List.mapM_cons]
    exact (hf x).bind fun _ => ih.bind fun _ => nofun

theorem neverErrs_unwrapPanic (input : Response α) : NeverErrs (unwrapPanic input) := by
  cases input <;> exact nofun

theorem neverErrs_unwrapPanicOpt (input : Option α) : NeverErrs (unwrapPanicOpt input) := by
  cases input <;> exact nofun

theorem neverErrs_response (x : Exec α) : NeverErrs (response x) := by
  rcases x with (_ | _) | _ <;> exact nofun

end NeverErrs

/-- The same of a body over storage, from every storage. -/
def ContractNeverErrs {α : Type} (m : Contract Storage α) : Prop := ∀ st, NeverErrs (m st).1

section ContractNeverErrs

variable {α β : Type}

theorem ContractNeverErrs.bind {m : Contract Storage α} {f : α → Contract Storage β}
    (hm : ContractNeverErrs m) (hf : ∀ a, ContractNeverErrs (f a)) :
    ContractNeverErrs (m >>= f) := by
  intro st
  have h := hm st
  rcases hrun : m st with ⟨e | a, st₁⟩
  · rw [hrun] at h
    rw [Contract.bind_of_error hrun]
    exact fun code heq => h code (by cases heq; rfl)
  · rw [Contract.bind_of_ok hrun]
    exact hf a st₁

theorem ContractNeverErrs.foldlM {step : β → α → Contract Storage β}
    (hstep : ∀ acc x, ContractNeverErrs (step acc x)) (xs : List α) (acc : β) :
    ContractNeverErrs (xs.foldlM step acc) := by
  induction xs generalizing acc with
  | nil => exact fun _ => nofun
  | cons x xs ih =>
    rw [List.foldlM_cons]
    exact (hstep acc x).bind fun acc' => ih acc'

theorem neverErrs_processPriceAttestation (acc : ProcessAcc) (entry : PriceAttestation) :
    ContractNeverErrs (processPriceAttestation acc entry) := by
  unfold processPriceAttestation
  cases acc.input.idxOf? entry.priceFeedId with
  | none => exact fun _ => nofun
  | some index =>
    exact ContractNeverErrs.bind (fun _ => nofun) fun _ =>
      ContractNeverErrs.bind (fun _ => neverErrs_unwrapPanicOpt _) fun _ _ => nofun

theorem neverErrs_processPricesAttestationsBatch (acc : ProcessAcc)
    (entry : Response PriceAttestations) :
    ContractNeverErrs (processPricesAttestationsBatch acc entry) :=
  ContractNeverErrs.bind (fun _ => neverErrs_unwrapPanic entry) fun batch =>
    (ContractNeverErrs.foldlM neverErrs_processPriceAttestation batch.priceAttestations acc).bind
      fun _ _ => nofun

/-- No part of the call answers with an error. -/
theorem neverErrs_updatePricesFeeds (hk : HkCursorV1) (wormhole : WormholeCore)
    (vaas : List Buff) : ContractNeverErrs (updatePricesFeeds hk wormhole vaas) :=
  ContractNeverErrs.bind
    (fun _ => NeverErrs.mapM (fun vaa => neverErrs_unwrapPanic (wormhole vaa)) vaas) fun _ =>
  ContractNeverErrs.bind (fun _ => NeverErrs.mapM (fun _ => neverErrs_response _) _) fun _ =>
  ContractNeverErrs.bind (fun _ => nofun) fun _ =>
  (ContractNeverErrs.foldlM neverErrs_processPricesAttestationsBatch _ _).bind fun _ _ => nofun

end ContractNeverErrs

/-- A batch that is read has at most 63 attestations. -/
theorem length_le_of_batchOf (h : hk.Lawful) {vaaBytes : Buff} {b : PriceAttestations}
    (hb : batchOf hk wormhole vaaBytes = some b) : b.priceAttestations.length ≤ 63 := by
  obtain ⟨payload, -, hread⟩ := batchOf_eq_some.mp hb
  rw [parseAndVerifyPriceAttestations_eq_plainRead h] at hread
  rcases plainRead_cases payload with ⟨-, code, -, heq⟩ | ⟨-, heq⟩ | ⟨⟨-, -, hreadable⟩, heq⟩ <;>
    rw [heq] at hread <;> cases hread
  rw [readBatch, List.length_map, List.length_range]
  exact hreadable.2.1

theorem updatePricesFeeds_of_good (h : hk.Lawful) {vaas : List Buff}
    {batches : List PriceAttestations} (hvaas : vaas.length ≤ 4)
    (hgood : vaas.mapM (batchOf hk wormhole) = some batches) (st : Storage) :
    updatePricesFeeds hk wormhole vaas st =
      (.ok ((watchedOf st.watchedPriceFeeds (batches.flatMap (·.priceAttestations))).map
          (·.priceFeedId)),
        st.storeAll (watchedOf st.watchedPriceFeeds
          (batches.flatMap (·.priceAttestations)))) := by
  obtain ⟨payloads, hpayloads, hbatches⟩ := mapM_batchOf_eq_some.mp hgood
  have hall := mapM_eq_some.mp hgood
  have hsize : ∀ b ∈ batches, b.priceAttestations.length ≤ 63 := by
    intro b hb
    obtain ⟨vaa, -, hvaa⟩ := exists_mem_of_forall₂ hall b hb
    exact length_le_of_batchOf h hvaa
  have hroom : ([] : List Buff).length + 63 * batches.length ≤ 2048 := by
    have := hall.length_eq
    simp only [List.length_nil]
    omega
  have hfold := foldlM_processPricesAttestationsBatch st.watchedPriceFeeds batches hsize st []
    hroom
  rw [List.nil_append] at hfold
  rw [updatePricesFeeds, hpayloads]
  refine (Contract.bind_of_ok (show Contract.lift (.ok payloads) st = (.ok payloads, st) from rfl)
    _).trans ?_
  rw [hbatches]
  refine (Contract.bind_of_ok (show Contract.lift (.ok (batches.map Except.ok)) st =
    (.ok (batches.map Except.ok), st) from rfl) _).trans ?_
  exact (Contract.bind_of_ok hfold _).trans rfl

/-- A call that returns has found every VAA good. -/
theorem good_of_updatePricesFeeds {vaas ids : List Buff} {st' : Storage}
    (hok : updatePricesFeeds hk wormhole vaas st = (.ok ids, st')) :
    ∃ batches, vaas.mapM (batchOf hk wormhole) = some batches := by
  simp only [updatePricesFeeds, Contract.bind_eq_ok] at hok
  obtain ⟨payloads, st₁, hpayloads, responses, st₂, hresponses, watched, st₃, -, processed, st₄,
    hprocessed, -⟩ := hok
  obtain ⟨batches, rfl⟩ := eq_map_ok_of_foldlM hprocessed
  exact ⟨batches, mapM_batchOf_eq_some.mpr ⟨payloads, congrArg Prod.fst hpayloads,
    congrArg Prod.fst hresponses⟩⟩

/-- **A call in closed form.** With all VAAs good the attestations of the watched feeds are stored,
in their order, and their feeds are returned; otherwise it aborts. -/
theorem transaction_updatePricesFeeds (h : hk.Lawful) {vaas : List Buff} (hvaas : vaas.length ≤ 4)
    (st : Storage) :
    (updatePricesFeeds hk wormhole vaas).transaction st =
      match attestationsOf hk wormhole vaas with
      | some l => (.ok ((watchedOf st.watchedPriceFeeds l).map (·.priceFeedId)),
          st.storeAll (watchedOf st.watchedPriceFeeds l))
      | none => (.error .abort, st) := by
  rw [attestationsOf]
  cases hgood : vaas.mapM (batchOf hk wormhole) with
  | some batches =>
    rw [Option.map_some]
    exact Contract.transaction_eq_ok.mpr (updatePricesFeeds_of_good h hvaas hgood st)
  | none =>
    rw [Option.map_none]
    -- with a VAA that is not good: not an error, not ok, so an abort
    rcases hrun : updatePricesFeeds hk wormhole vaas st with ⟨(code | _) | ids, st'⟩
    · have := neverErrs_updatePricesFeeds hk wormhole vaas st code
      rw [hrun] at this
      exact absurd rfl this
    · rw [Contract.transaction, hrun]
    · obtain ⟨batches, hbatches⟩ := good_of_updatePricesFeeds hrun
      rw [hgood] at hbatches
      cases hbatches

/-- A watched feed has its last attestation, if it has one; the others are not touched. -/
theorem Storage.storeAll_watched_prices (st : Storage) (l : List PriceAttestation) (id : Buff) :
    (st.storeAll (watchedOf st.watchedPriceFeeds l)).prices id =
      if id ∈ st.watchedPriceFeeds then
        ((lastOf PriceAttestation.priceFeedId id l).map fun a => some a.toPriceFeed).getD
          (st.prices id)
      else st.prices id := by
  -- for a watched feed the filter drops none of its attestations, for another one all of them
  have hlast : lastOf PriceAttestation.priceFeedId id (watchedOf st.watchedPriceFeeds l) =
      if id ∈ st.watchedPriceFeeds then lastOf PriceAttestation.priceFeedId id l else none := by
    rw [lastOf, lastOf, watchedOf, List.filter_filter]
    split
    · next hwatched =>
      refine congrArg List.getLast? (List.filter_congr fun a _ => ?_)
      by_cases hid : a.priceFeedId = id <;> simp [hid, hwatched]
    · next hwatched =>
      rw [List.getLast?_eq_none_iff, List.filter_eq_nil_iff]
      intro a _
      by_cases hid : a.priceFeedId = id <;> simp [hid, hwatched]
  rw [storeAll_prices, hlast]
  split <;> rfl

/-- **A call of `update-prices-feeds` reads everything or aborts.** It never answers with an error.
It returns exactly when every VAA it is given is verified and has a payload that is read, and then
the last attestation of every watched feed is stored, and nothing else. -/
theorem update_reads_all_or_aborts (h : hk.Lawful) (wormhole : WormholeCore) (vaas : List Buff)
    (hvaas : vaas.length ≤ 4) (st : Storage) :
    (∀ code, ((updatePricesFeeds hk wormhole vaas).transaction st).1 ≠ .error (.err code)) ∧
    ((∃ ids, ((updatePricesFeeds hk wormhole vaas).transaction st).1 = .ok ids) ↔
      ∀ vaa ∈ vaas, ∃ payload batch, wormhole vaa = .ok payload ∧
        parseAndVerifyPriceAttestations hk payload = .ok batch) ∧
    ∀ ids st', (updatePricesFeeds hk wormhole vaas).transaction st = (.ok ids, st') →
      ∃ attested, attestationsOf hk wormhole vaas = some attested ∧
        ids = (watchedOf st.watchedPriceFeeds attested).map (·.priceFeedId) ∧
        st'.watchedPriceFeeds = st.watchedPriceFeeds ∧
        ∀ id, st'.prices id =
          if id ∈ st.watchedPriceFeeds then
            ((lastOf PriceAttestation.priceFeedId id attested).map fun a =>
              some a.toPriceFeed).getD (st.prices id)
          else st.prices id := by
  rw [transaction_updatePricesFeeds h hvaas st]
  have hgood : (∃ attested, attestationsOf hk wormhole vaas = some attested) ↔
      ∀ vaa ∈ vaas, ∃ payload batch, wormhole vaa = .ok payload ∧
        parseAndVerifyPriceAttestations hk payload = .ok batch := by
    simp only [attestationsOf, Option.map_eq_some_iff, exists_comm (α := List PriceAttestation),
      exists_and_left, exists_eq', and_true, exists_mapM_eq_some, batchOf_eq_some,
      exists_comm (α := PriceAttestations)]
  rw [← hgood]
  cases attestationsOf hk wormhole vaas with
  | none =>
    exact ⟨nofun, ⟨nofun, nofun⟩, nofun⟩
  | some attested =>
    refine ⟨nofun, ⟨fun _ => ⟨attested, rfl⟩, fun _ => ⟨_, rfl⟩⟩, ?_⟩
    intro ids st' hok
    cases hok
    exact ⟨attested, rfl, rfl, rfl, st.storeAll_watched_prices attested⟩

/-- A wormhole contract that accepts everything, with the payload as the VAA. -/
def acceptAll : WormholeCore := .ok

/-- A VAA with one attestation for the feed STX-USD. -/
def sampleVaa (s : SubmittedAttestation) : Buff := batchBytes sampleHeader 150 [s] []

theorem update_reads_all_or_aborts_sampleVaa :
    ∃ ids, ((updatePricesFeeds .reference acceptAll [sampleVaa sampleAttestation]).transaction
      .deployed).1 = .ok ids :=
  (update_reads_all_or_aborts HkCursorV1.reference_lawful acceptAll [sampleVaa sampleAttestation]
    (by decide) .deployed).2.1.mpr (List.forall_mem_singleton.mpr
      ⟨_, _, rfl, sampleBatch_fits.read HkCursorV1.reference_lawful []⟩)

/-! ## Runs

Calls one after another, each with the answers that the wormhole contract gives at its time. -/

/-- A call by anybody: what the wormhole contract answers at that time, and at most four VAAs. -/
structure UpdateTx where
  wormhole : WormholeCore
  vaas : List Buff
  room : vaas.length ≤ 4

def UpdateTx.run (hk : HkCursorV1) (st : Storage) (tx : UpdateTx) : Storage :=
  ((updatePricesFeeds hk tx.wormhole tx.vaas).transaction st).2

/-- The attestations of a call that returns; a call that aborts has none. -/
def UpdateTx.attested (hk : HkCursorV1) (tx : UpdateTx) : List PriceAttestation :=
  (attestationsOf hk tx.wormhole tx.vaas).getD []

/-- A call stores what it attested, whether it aborts or not. -/
theorem UpdateTx.run_eq (h : hk.Lawful) (st : Storage) (tx : UpdateTx) :
    tx.run hk st = st.storeAll (watchedOf st.watchedPriceFeeds (tx.attested hk)) := by
  rw [run, attested, transaction_updatePricesFeeds h tx.room st]
  cases attestationsOf hk tx.wormhole tx.vaas <;> rfl

theorem afterRun_eq (h : hk.Lawful) (txs : List UpdateTx) (st : Storage) :
    afterRun (UpdateTx.run hk) st txs =
      st.storeAll (watchedOf st.watchedPriceFeeds (txs.flatMap (·.attested hk))) := by
  induction txs generalizing st with
  | nil => rfl
  | cons tx txs ih =>
    show afterRun (UpdateTx.run hk) (tx.run hk st) txs = _
    rw [ih, tx.run_eq h st, List.flatMap_cons, watchedOf_append, Storage.storeAll_append]
    rfl

/-- **Prices follow the last attestation.** After any run the watched feeds are the three of the
deployment, and a feed reads as the last attestation that any call of the run that did not abort
carried for it, whatever its times; a feed that is not watched, or was not attested by such a call,
is not found. -/
theorem prices_follow_last_attestation (h : hk.Lawful) (txs : List UpdateTx) :
    (afterRun (UpdateTx.run hk) .deployed txs).watchedPriceFeeds = [stxUsd, btcUsd, ethUsd] ∧
    ∀ id, readPriceFeed (afterRun (UpdateTx.run hk) .deployed txs) id =
      if id ∈ [stxUsd, btcUsd, ethUsd] then
        match lastOf PriceAttestation.priceFeedId id (txs.flatMap (·.attested hk)) with
        | some a => .ok a.toPriceFeed
        | none => .error (.err errPfNotFound)
      else .error (.err errPfNotFound) := by
  rw [afterRun_eq h]
  refine ⟨rfl, fun id => ?_⟩
  rw [readPriceFeed, Storage.storeAll_watched_prices]
  show unwrapOpt (if id ∈ [stxUsd, btcUsd, ethUsd] then _ else none) _ = _
  -- the deployment has no price, so what is found was attested
  split
  · cases lastOf PriceAttestation.priceFeedId id (txs.flatMap (·.attested hk)) <;> rfl
  · rfl

/-- The sample attestation at another publish time and price. -/
def attestedAt (publishTime : Nat) (price : Int) : SubmittedAttestation :=
  { sampleAttestation with
    attestation := { sampleAttestation.attestation with publishTime, price } }

def updateOf (s : SubmittedAttestation) : UpdateTx where
  wormhole := acceptAll
  vaas := [sampleVaa s]
  room := show 1 ≤ 4 by decide

/-- An older price that is submitted later replaces a newer one. -/
theorem prices_follow_last_attestation_older :
    (readPriceFeed (afterRun (UpdateTx.run .reference) .deployed
      [updateOf (attestedAt 20 5), updateOf (attestedAt 10 4)]) stxUsd).map
        (fun feed => (feed.publishTime, feed.price)) = .ok (10, 4) := by
  rw [(prices_follow_last_attestation HkCursorV1.reference_lawful
    [updateOf (attestedAt 20 5), updateOf (attestedAt 10 4)]).2]
  decide +kernel

end PythBridge.P2whDecoder
