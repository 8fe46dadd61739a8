import PythBridge.Pyth.Publishing
import PythBridge.System.Prices

/-!
# Published prices

The whole way of a price: from the batch it was published in, over the root in a VAA and the proof
in a message, into the store. As long as the VAAs that are let through carry roots of published
batches, and nothing that is hashed on the way collides, the store holds published prices only
(`only_published_prices`).

The crux is the inversion of the whole way back from the store. A record that is new after a
transaction was written by the oracle (`exec_store_changed`), so it is one of the decoded prices, so
its fields were cut from a message whose proof leads to the root of the VAA, and then the Merkle
tree without collisions says that the message is a leaf of the batch. A leaf has to be told from an
inner node for this, which is why the published messages are asked to have at least 85 bytes, as
every price message has.

* `published_of_step`: one transaction.
* `only_published_prices`: every run since the deployment.
* `Published.exists_update`: the same in terms of the updates a batch was built from.
-/

namespace PythBridge

open Clarity PnauDecoder

variable {φ : Type} {pf : Platform} {code : ForeignCode φ}

/-! ## What is assumed of the messages

`Honest` asks nothing of those who submit. It says that guardians and authorized sources sign roots
of published batches, and that nobody has found a collision for a proof. -/

/-- The bytes that a transaction submits for an update. -/
def Event.submitted : Event φ → List Buff
  | .tx ⟨_, _, _, .verifyAndUpdatePriceFeeds priceFeedBytes _⟩ => [priceFeedBytes]
  | _ => []

/-- A price that a message of a published batch says. -/
def Published (published : List Buff → Prop) (id : Buff) (record : PriceRecord) : Prop :=
  ∃ messages, published messages ∧ ∃ message ∈ messages, ∃ update, FieldsOf message update ∧
    update.priceIdentifier = id ∧ (castDecodedPrice update).toPriceRecord = record

/-- The plan is the deployed one, and a VAA from an authorized source that the guardians let
through carries the root of a published batch, with nothing colliding in the proofs. -/
structure Honest (pf : Platform) (order : Buff → Buff → Buff) (published : List Buff → Prop)
    (w : World φ) (e : Event φ) : Prop where
  plan : w.governance.currentExecutionPlan = pf.deployedPlan
  root : ∀ priceFeedBytes ∈ e.submitted, ∀ vaa root updates,
    openMessage pf (WormholeCore.parseAndVerifyVaa pf w.wormhole) priceFeedBytes =
      .ok (vaa, root, updates) →
    vaa.emitter ∈ w.governance.pricesDataSources →
    ∃ messages, published messages ∧
      merkleRootHash pf (messages.map (keccak160HashLeaf pf)) = some root ∧
      ∀ update ∈ updates, ¬ Collides pf order messages update

/-! ## One transaction and runs

Only the paid update of the oracle writes, and with the deployed plan it decodes with the
repository's contracts. Induction over the events then keeps what is published. -/

/-- What is decoded was opened, with the guardians of the world. -/
theorem World.openMessage_of_decoded {w : World φ} {priceFeedBytes : Buff}
    {prices : List PriceUpdate} (h : w.decoded pf priceFeedBytes = .ok prices) :
    ∃ vaa root updates,
      openMessage pf (WormholeCore.parseAndVerifyVaa pf w.wormhole) priceFeedBytes =
        .ok (vaa, root, updates) ∧
      vaa.emitter ∈ w.governance.pricesDataSources ∧ prices = updates.map castDecodedPrice := by
  obtain ⟨w₁, hdirect⟩ : ∃ w₁, decodePnauPriceUpdate pf (Dispatch.direct pf) priceFeedBytes
      pf.wormholeCoreV2 w = (.ok prices, w₁) := ⟨_, Contract.run_eq h⟩
  exact PnauDecoder.openMessage_of_decoded (WormholeCore.parseAndVerifyVaa pf w.wormhole) hdirect
    fun vaaBytes vaa w₁ hvaa => ⟨congrArg Prod.fst hvaa, (congrArg Prod.snd hvaa).symm⟩

section Run

variable {order : Buff → Buff → Buff} {published : List Buff → Prop}

/-- The prices an event brings into the store are published ones. -/
theorem published_of_step (hk : pf.hkCursor.Lawful) (h : ChecksProofs pf order)
    (hlong : ∀ messages, published messages → ∀ message ∈ messages, 85 ≤ message.length)
    {w : World φ} {e : Event φ} (hexternal : e.External pf)
    (hhonest : Honest pf order published w e) {id : Buff} {record : PriceRecord}
    (hprice : (w.step pf code e).store.prices id = some record) :
    w.store.prices id = some record ∨ Published published id record := by
  -- a record that was there before is none of the event's doing
  by_cases hsame : (w.step pf code e).store.prices id = w.store.prices id
  · exact .inl (hsame ▸ hprice)
  · refine .inr ?_
    cases e with
    | outside balances foreign => exact absurd rfl hsame
    | tx t =>
      unfold World.step Tx.run at hsame hprice
      dsimp only at hsame hprice
      rcases hrun : exec pf code t.depth [] t.env t.contractCaller t.call w with ⟨exit | reply, w'⟩
      · -- a failed transaction leaves the store alone
        rw [hrun, exec_error hrun] at hsame
        exact absurd rfl hsame
      · rw [hrun] at hsame hprice
        obtain ⟨priceFeedBytes, executionPlan, written, hcall, rfl, hverify⟩ :=
          exec_store_changed hk hhonest.plan hexternal hrun fun hstore => hsame (by rw [hstore])
        obtain ⟨a, st', hdecoded, hsub, -, hwritten, hfee⟩ :=
          verifyAndUpdatePriceFeeds_eq_ok hk (hhonest.plan ▸ pf.deployedPlan_ours) hverify
        obtain ⟨-, -, -, rfl⟩ := chargeFee_eq_ok hfee
        -- from the record to the entry of the batch call, and on to the update of the message
        obtain ⟨entry, hentry, hid, hrecord, -⟩ := hwritten.exists_entry hsame
        obtain ⟨vaa, root, updates, hopen, hsource, hprices⟩ := w.openMessage_of_decoded hdecoded
        have hsubmitted : priceFeedBytes ∈ (Event.tx t : Event φ).submitted := by
          obtain ⟨_, _, _, call⟩ := t
          cases hcall
          exact .head _
        obtain ⟨messages, hpublished, hroot, hcollides⟩ :=
          hhonest.root _ hsubmitted vaa root updates hopen hsource
        obtain ⟨update, hupdate, rfl⟩ := List.mem_map.mp (hprices ▸ hsub.subset hentry)
        obtain ⟨hmem, hfields⟩ := fieldsOf_of_openMessage hk h hopen hroot
          (hlong messages hpublished) hupdate (hcollides update hupdate)
        exact ⟨messages, hpublished, _, hmem, update, hfields, hid,
          Option.some.inj (hrecord.symm.trans hprice)⟩

/-- **Only published prices are stored.** Over any transactions since the deployment, as long as the
plan is the deployed one, the messages carry roots of published batches whose messages have at least
85 bytes, and unless two things that are hashed collide: every price in the store, whoever submitted
it and however, is what a message of a published batch says. -/
theorem only_published_prices (hk : pf.hkCursor.Lawful) (h : ChecksProofs pf order)
    (hlong : ∀ messages, published messages → ∀ message ∈ messages, 85 ≤ message.length)
    {w : World φ} (hdeployed : w.store = .deployed) {events : List (Event φ)}
    (hexternal : ∀ e ∈ events, e.External pf)
    (hhonest : ∀ before e after, events = before ++ e :: after →
      Honest pf order published (afterRun (World.step pf code) w before) e) :
    ∀ id record, (afterRun (World.step pf code) w events).store.prices id = some record →
      Published published id record := by
  have hrun : ∀ id record,
      (afterRun (World.step pf code) w events).store.prices id = some record →
      w.store.prices id = some record ∨ Published published id record := by
    clear hdeployed
    -- a price comes from the rest of the run or was in the store that the rest began with
    induction events generalizing w with
    | nil => exact fun _ _ => .inl
    | cons e events ih =>
      intro id record hprice
      rw [List.forall_mem_cons] at hexternal
      have hrest := ih hexternal.2 (fun before e' after hsplit =>
        hhonest (e :: before) e' after (by rw [hsplit]; rfl)) id record hprice
      rcases hrest with hstored | hpublished
      · exact published_of_step hk h hlong hexternal.1 (hhonest [] e events rfl) hstored
      · exact .inr hpublished
  intro id record hprice
  rcases hrun id record hprice with hstored | hpublished
  · rw [hdeployed] at hstored
    cases hstored
  · exact hpublished

end Run

/-- A batch of price updates says the updates. -/
theorem Published.exists_update (hk : pf.hkCursor.Lawful) {decoded : List PriceUpdate}
    (hpublishable : ∀ priceUpdate ∈ decoded, Publishable priceUpdate) {id : Buff}
    {record : PriceRecord}
    (h : Published (· = (buildPriceUpdateBatch pf decoded).serialized) id record) :
    ∃ priceUpdate ∈ decoded, priceUpdate.priceIdentifier = id ∧
      priceUpdate.toPriceRecord = record := by
  obtain ⟨_, rfl, message, hmessage, update, hfields, hid, hrecord⟩ := h
  obtain ⟨priceUpdate, hmem, rfl⟩ := List.mem_map.mp hmessage
  -- the proof plays no part in what a message says, so it can be empty
  let s : SubmittedUpdate := ⟨priceUpdate, [], []⟩
  have hs : s.Fits := (hpublishable priceUpdate hmem).fits (Nat.zero_le _) nofun
  have hsame : castDecodedPrice update = priceUpdate := by
    refine hfields.castDecodedPrice_eq (b := decodedUpdate s) ?_
    have hmessage := fieldsOf_messageBytes hk hs
    rwa [messageBytes, List.append_nil] at hmessage
  refine ⟨priceUpdate, hmem, ?_, ?_⟩
  · rw [← hsame]
    exact hid
  · rw [← hsame]
    exact hrecord

/-! ## A run

The bootstrap and one update, with a batch of three prices of which two are submitted. -/

section ClosedRun

open ClosedRun

/-- Two updates of the sample batch, with the root of the batch signed by the guardian. -/
def publishedPnau : Buff :=
  let batch := buildPriceUpdateBatch merklePlatform sampleFeeds
  let vaa := WormholeCore.signed (WormholeCore.unsigned 1
    ⟨1, hex "6bb14509a612f01fbbc4cffeebd4bbfb492a86df717ebe92eb6df432a3f00a25"⟩ 1
    (auwvPayload 0 0 ((merkleRootHash merklePlatform batch.hashed).getD []) []))
  pnauMessage [] (WormholeCore.serialize vaa)
    (updatesBytes ([⟨2, by decide⟩, ⟨0, by decide⟩].map (submittedOf merklePlatform sampleFeeds))
      [])

def publishedUpdate : Tx :=
  txOf (.verifyAndUpdatePriceFeeds publishedPnau
    ⟨Platform.reference.pythStoreV1, Platform.reference.pythPnauDecoderV1,
      Platform.reference.wormholeCoreV2⟩)

/-- What the message is opened as: the root of the batch, and proofs that collide with nothing. -/
theorem publishedPnau_opened :
    let w := afterRun (World.step merklePlatform silent) fresh [bootstrap]
    let batch := buildPriceUpdateBatch merklePlatform sampleFeeds
    w.governance.currentExecutionPlan = merklePlatform.deployedPlan ∧
      (openMessage merklePlatform (WormholeCore.parseAndVerifyVaa merklePlatform w.wormhole)
        publishedPnau).toOption.all fun opened =>
          merkleRootHash merklePlatform batch.hashed = some opened.2.1 ∧
          ∀ update ∈ opened.2.2, ¬ Collides merklePlatform ascending batch.serialized update := by
  decide +kernel

theorem only_published_prices_sampleFeeds :
    ∃ record, (afterRun (World.step merklePlatform silent) fresh
        [bootstrap, .tx publishedUpdate]).store.prices (List.replicate 32 8) = some record ∧
      ∃ priceUpdate ∈ sampleFeeds, priceUpdate.priceIdentifier = List.replicate 32 8 ∧
        priceUpdate.toPriceRecord = record := by
  have hstored : ∃ record, (afterRun (World.step merklePlatform silent) fresh
      [bootstrap, .tx publishedUpdate]).store.prices (List.replicate 32 8) = some record := by
    refine Option.isSome_iff_exists.mp ?_
    decide +kernel
  obtain ⟨record, hrecord⟩ := hstored
  obtain ⟨hplan, hopened⟩ := publishedPnau_opened
  let published : List Buff → Prop :=
    (· = (buildPriceUpdateBatch merklePlatform sampleFeeds).serialized)
  have hhonest : ∀ before e after, [bootstrap, .tx publishedUpdate] = before ++ e :: after →
      Honest merklePlatform ascending published
        (afterRun (World.step merklePlatform silent) fresh before) e := by
    intro before e after hsplit
    -- the bootstrap submits no prices; the update submits the published message
    match before, hsplit with
    | [], hsplit =>
      cases hsplit
      exact ⟨rfl, nofun⟩
    | [_], hsplit =>
      cases hsplit
      refine ⟨hplan, fun priceFeedBytes hsubmitted vaa root updates hopen _ => ?_⟩
      cases List.mem_singleton.mp hsubmitted
      rw [hopen] at hopened
      obtain ⟨hroot, hcollides⟩ := of_decide_eq_true hopened
      exact ⟨_, rfl, hroot, hcollides⟩
    | _ :: _ :: before, hsplit =>
      have hlength := congrArg List.length hsplit
      simp at hlength
  have hlong : ∀ messages, published messages → ∀ message ∈ messages, 85 ≤ message.length := by
    rintro _ rfl
    decide +kernel
  have hexternal : ∀ e ∈ [bootstrap, .tx publishedUpdate], e.External merklePlatform := by
    have haccount : account ∉ merklePlatform.contracts := by decide
    rw [List.forall_mem_cons, List.forall_mem_singleton]
    exact ⟨haccount, haccount⟩
  have hall := only_published_prices merklePlatform_lawful merklePlatform_checksProofs hlong
    (show fresh.store = .deployed from rfl) hexternal hhonest
  have hpublished : Published published (List.replicate 32 8) record := hall _ record hrecord
  exact ⟨record, hrecord, hpublished.exists_update merklePlatform_lawful
    sampleFeeds_publishable⟩

end ClosedRun

end PythBridge
