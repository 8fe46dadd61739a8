import PythBridge.System.ExecutionPlan

/-!
# Prices end to end

Under the plan the system is deployed with, the only way to change a price is a successful
`verify-and-update-price-feeds`, and behind every changed price stands an `Attestation` of
the bytes that were passed. Under any plan such a call is all or nothing.

The frame of the store under the deployed plan is proved by cases on the function that was called
(`exec_store_changed`): an external caller is not the oracle of the plan, so it can neither write
nor decode by itself; updates and readings leave the store alone; what remains is the oracle.

* **`price_authenticity`** — a price that changed is a decoded, authenticated, newer and fresh one.
* **`update_all_or_nothing`** — exact accounting of a successful call, and nothing of a failed one.
* **`update_moves_other_balances`** — why the accounting asks for the repository's decoder.
-/

namespace PythBridge

open Clarity

variable {φ : Type} {pf : Platform} {code : ForeignCode φ} {depth : Nat}
  {stack : List FunctionId} {env : TxEnv} {caller : Principal} {w w' : World φ}

/-! ## The only way to change the store

An external caller, and the functions it can call, one by one. -/

/-- An external caller is not let through to the store or to the decoder. -/
theorem not_allowed_of_external {plan : ExecutionPlan} (hplan : plan = pf.deployedPlan)
    (hext : caller ∉ pf.contracts) {contractCaller : Principal} :
    ¬ plan.Allows contractCaller caller none := by
  intro hallows
  have horacle := hallows.below.2
  rw [hplan] at horacle
  exact hext (by simp [horacle, Platform.deployedPlan, Platform.contracts])

/-- An update call under the deployed plan leaves the store alone: the wormhole contract it
calls is the repository's. -/
theorem exec_update_store (hk : pf.hkCursor.Lawful)
    (hplan : w.governance.currentExecutionPlan.Ours pf) {u : Governance.UpdateFunction}
    {vaaBytes : Buff} {wormholeCoreContract : Principal} {reply : Reply}
    (h : exec pf code depth stack env caller (u.call vaaBytes wormholeCoreContract) w =
      (.ok reply, w')) : w'.store = w.store := by
  obtain ⟨hwormhole, vaa, w₁, hvaa, -, -, hw'⟩ := exec_update_eq_ok hk h
  rw [hwormhole, hplan.wormhole] at hvaa
  obtain ⟨rfl, -⟩ := vm_parseAndVerifyVaa_wormholeCoreV2 hvaa
  rw [hw']

/-- **The only way.** Under the deployed plan, a successful call by an external caller that
changes the store is `verify-and-update-price-feeds`. -/
theorem exec_store_changed (hk : pf.hkCursor.Lawful)
    (hplan : w.governance.currentExecutionPlan = pf.deployedPlan) (hext : caller ∉ pf.contracts)
    {c : Call} {reply : Reply} (h : exec pf code depth stack env caller c w = (.ok reply, w'))
    (hchanged : w'.store ≠ w.store) :
    ∃ priceFeedBytes executionPlan written,
      c = .verifyAndUpdatePriceFeeds priceFeedBytes executionPlan ∧
      reply = .priceUpdates written ∧
      Oracle.verifyAndUpdatePriceFeeds pf (vm pf code depth (c.functionId pf :: stack) env) env
        caller priceFeedBytes executionPlan w = (.ok written, w') := by
  have hours : w.governance.currentExecutionPlan.Ours pf := hplan ▸ pf.deployedPlan_ours
  -- an update call leaves the store alone under this plan
  cases hupdate : c.update? with
  | some update =>
    obtain ⟨u, vaaBytes, wormholeCoreContract⟩ := update
    rw [Call.update?_eq_some.mp hupdate] at h
    exact absurd (exec_update_store hk hours h) hchanged
  | none =>
    obtain ⟨-, hbody⟩ := exec_eq_ok.mp h
    cases c with
    | verifyAndUpdatePriceFeeds priceFeedBytes executionPlan =>
      obtain ⟨written, w₁, hverify, hreply⟩ := Contract.bind_eq_ok.mp hbody
      cases hreply
      exact ⟨priceFeedBytes, executionPlan, written, rfl, rfl, hverify⟩
    | decodePriceFeeds priceFeedBytes executionPlan =>
      obtain ⟨prices, w₁, hdecode, hreply⟩ := Contract.bind_eq_ok.mp hbody
      cases hreply
      obtain ⟨-, -, -, rfl⟩ := chargeFee_eq_ok (decodePriceFeeds_eq_ok hk hours hdecode).2
      exact absurd rfl hchanged
    | readPriceFeed priceFeedId pythStorageAddress =>
      obtain ⟨record, w₁, hread, hreply⟩ := Contract.bind_eq_ok.mp hbody
      cases hreply
      have hstorage := exec_read_ok (by rw [h] : _ = Except.ok (Reply.priceRecord record))
      rw [hours.storage] at hstorage
      subst hstorage
      obtain ⟨_, w₂, hcheck, hvm⟩ := Contract.bind_eq_ok.mp hread
      have hw₂ : w = w₂ := congrArg Prod.snd hcheck
      obtain ⟨rfl, -⟩ := vm_read_pythStoreV1 hvm
      exact absurd (by rw [← hw₂]) hchanged
    | decodeAndVerifyPriceFeeds pnauBytes wormholeCoreAddress =>
      obtain ⟨prices, w₁, hdecode, -⟩ := Contract.bind_eq_ok.mp hbody
      exact absurd (PnauDecoder.decodeAndVerifyPriceFeeds_eq_ok hdecode).1
        (not_allowed_of_external hplan hext)
    | write batchUpdates =>
      obtain ⟨written, w₁, hstore, -⟩ := Contract.bind_eq_ok.mp hbody
      obtain ⟨st', hwrite, -⟩ := Contract.zoom_eq_ok.mp hstore
      exact absurd (Store.write_eq_ok hwrite).2.2.2 (not_allowed_of_external hplan hext)
    | updateGuardiansSet guardianSetVaa uncompressedPublicKeys =>
      obtain ⟨updated, w₁, hrotate, hreply⟩ := Contract.bind_eq_ok.mp hbody
      cases hreply
      obtain ⟨st', -, rfl⟩ := Contract.zoom_eq_ok.mp hrotate
      exact absurd rfl hchanged
    | parseVaa | parseAndVerifyVaa | getActiveGuardianSet | checkExecutionFlow |
      checkStorageContract | getCurrentExecutionPlan | getFeeInfo | getStalePriceThreshold |
      getAuthorizedPricesDataSources | read =>
      -- a read leaves the world it found
      obtain ⟨_, w₁, hread, hreply⟩ := Contract.bind_eq_ok.mp hbody
      have hw₁ : w = w₁ := congrArg Prod.snd hread
      have hw' : w₁ = w' := congrArg Prod.snd hreply
      exact absurd (by rw [← hw', ← hw₁]) hchanged
    | _ => cases hupdate

/-! ## Authenticity

The transaction either failed, and changed nothing, or it is the one call that can change a price.
-/

/-- **End-to-end price authenticity.** Under the deployed plan, a transaction of any account or
contract outside the repository that changes the price of a feed is a successful
`verify-and-update-price-feeds`. The new price is an entry of the list it returned, and behind
it stands an attestation: the embedded VAA is accepted by the active guardians, comes from an
authorized source and carries a 20-byte root, and the entry is a record of the message with a
proof against this root. It is newer than the recorded price and not stale. -/
theorem price_authenticity (hk : pf.hkCursor.Lawful) (code : ForeignCode φ) (w : World φ)
    (hplan : w.governance.currentExecutionPlan = pf.deployedPlan) (t : Tx)
    (hext : t.External pf) (id : Buff)
    (hchanged : (t.run pf code w).2.store.prices id ≠ w.store.prices id) :
    ∃ priceFeedBytes executionPlan written, ∃ entry ∈ written,
      t.call = .verifyAndUpdatePriceFeeds priceFeedBytes executionPlan ∧
      (t.run pf code w).1 = .ok (.priceUpdates written) ∧
      entry.priceIdentifier = id ∧
      (t.run pf code w).2.store.prices id = some entry.toPriceRecord ∧
      (∃ a : w.Attestation pf priceFeedBytes, ∃ update ∈ a.updates,
        entry = PnauDecoder.castDecodedPrice update) ∧
      w.store.timestamp id < entry.publishTime ∧
      ∃ latest, Store.latestBitcoinTimestamp t.env = .ok latest ∧
        w.governance.stalePriceThreshold ≤ latest ∧
        latest - w.governance.stalePriceThreshold ≤ entry.publishTime := by
  -- a failed transaction changes no price
  rcases hrun : t.run pf code w with ⟨e | reply, w'⟩
  · rw [hrun, exec_error hrun] at hchanged
    exact absurd rfl hchanged
  · rw [hrun] at hchanged
    obtain ⟨priceFeedBytes, executionPlan, written, hcall, rfl, hverify⟩ :=
      exec_store_changed hk hplan hext hrun fun h => hchanged (by rw [h])
    obtain ⟨a, st', -, hsub, -, hwritten, hfee⟩ :=
      verifyAndUpdatePriceFeeds_eq_ok hk (hplan ▸ pf.deployedPlan_ours) hverify
    obtain ⟨-, -, -, rfl⟩ := chargeFee_eq_ok hfee
    obtain ⟨entry, hentry, hid, hprice, hnewer, hrecent⟩ := hwritten.exists_entry hchanged
    obtain ⟨update, hupdate, hcast⟩ := List.mem_map.mp (hsub.subset hentry)
    exact ⟨priceFeedBytes, executionPlan, written, entry, hentry, hcall, rfl, hid, hprice,
      ⟨a, update, hupdate, hcast.symm⟩, hnewer, hrecent⟩

section ClosedRun

open ClosedRun

def priceMessage (priceIdentifier : Buff) (price publishTime : Nat) : Buff :=
  [0] ++ priceIdentifier ++ uintToBuffBe 8 price ++ uintToBuffBe 8 0 ++ uintToBuffBe 4 0 ++
    uintToBuffBe 8 publishTime ++ uintToBuffBe 8 0 ++ uintToBuffBe 8 0 ++ uintToBuffBe 8 0

/-- A PNAU message with one update, its VAA signed by the guardian for the first data source
of the deployment. -/
def samplePnau : Buff :=
  let message := priceMessage samplePrice.priceIdentifier 7 100
  let root := (message ++ List.replicate 20 0).take 20
  let vaa := WormholeCore.signed (WormholeCore.unsigned 1
    ⟨1, hex "6bb14509a612f01fbbc4cffeebd4bbfb492a86df717ebe92eb6df432a3f00a25"⟩ 1
    (PnauDecoder.auwvPayload 0 0 root []))
  PnauDecoder.pnauMessage [] (WormholeCore.serialize vaa)
    ([1] ++ uintToBuffBe 2 message.length ++ message ++ [0])

/-- The transaction that submits it. -/
def sampleUpdate : Tx :=
  txOf (.verifyAndUpdatePriceFeeds samplePnau
    ⟨Platform.reference.pythStoreV1, Platform.reference.pythPnauDecoderV1,
      Platform.reference.wormholeCoreV2⟩)

/-- What the sample update finds, returns and changes; one evaluation for all of it. -/
theorem sampleUpdate_run :
    let w := afterRun (World.step .reference silent) fresh [bootstrap]
    w.governance.currentExecutionPlan = Platform.reference.deployedPlan ∧
      (sampleUpdate.run .reference silent w).1 =
        .ok (.priceUpdates [{ samplePrice with emaPrice := 0, prevPublishTime := 0 }]) ∧
      (sampleUpdate.run .reference silent w).2.store.prices samplePrice.priceIdentifier ≠
        w.store.prices samplePrice.priceIdentifier := by
  decide +kernel

theorem price_authenticity_sampleUpdate :
    let w := afterRun (World.step .reference silent) fresh [bootstrap]
    ∃ written, (sampleUpdate.run .reference silent w).1 = .ok (.priceUpdates written) := by
  intro w
  obtain ⟨hplan, -, hchanged⟩ := sampleUpdate_run
  obtain ⟨-, -, written, -, -, -, hok, -⟩ := price_authenticity
    Platform.reference_lawful silent _ hplan sampleUpdate
    (by decide : account ∉ Platform.reference.contracts) samplePrice.priceIdentifier hchanged
  exact ⟨written, hok⟩

end ClosedRun

/-! ## All or nothing

The fee is charged at the end, for what was written. -/

/-- The exact fee for `count` prices, as a number. -/
def World.fee (w : World φ) (count : Nat) : Nat :=
  count * (w.governance.feeValue.mantissa * 10 ^ w.governance.feeValue.exponent)

/-- From `w` to `w'` exactly `amount` has moved from the sender to the fee recipient. -/
structure FeePaid (env : TxEnv) (amount : Nat) (w w' : World φ) : Prop where
  sender : w'.balances env.txSender + amount = w.balances env.txSender
  recipient : w'.balances w.governance.feeRecipientAddress =
    w.balances w.governance.feeRecipientAddress + amount
  others : ∀ p, p ≠ env.txSender → p ≠ w.governance.feeRecipientAddress →
    w'.balances p = w.balances p

/-- What a charge does to the balances, over a world with any store. -/
theorem feePaid_of_chargeFee {count : Nat} (st : Store.Storage)
    (h : Oracle.chargeFee env count { w with store := st } = (.ok (), w')) :
    FeePaid env (w.fee count) w w' ∧ w'.store = st ∧ w'.governance = w.governance ∧
      w'.wormhole = w.wormhole ∧ w'.foreign = w.foreign := by
  obtain ⟨-, hdifferent, henough, rfl⟩ := chargeFee_eq_ok h
  have hfee : w.fee count ≤ w.balances env.txSender := henough
  refine ⟨⟨?_, ?_, fun p hsender hrecipient => ?_⟩, rfl, rfl, rfl, rfl⟩
  · show World.moveStx w.balances (w.fee count) _ _ _ + _ = _
    rw [World.moveStx, if_pos rfl]
    omega
  · show World.moveStx w.balances (w.fee count) _ _ _ = _
    rw [World.moveStx, if_neg (Ne.symm hdifferent), if_pos rfl]
  · show World.moveStx w.balances (w.fee count) _ _ _ = _
    rw [World.moveStx, if_neg hsender, if_neg hrecipient]

/-- **All-or-nothing update with exact accounting.** Under a plan with the repository's store,
decoder and wormhole contract: an update that returns ok wrote exactly the entries it returns,
at least one, in order; the sender paid the recipient exactly the fee for them, and nothing
else changed. Under any plan an update that does not return ok changes nothing. A decoding
that returns ok from the same world changes only the two balances, and the update's entries
are a sublist of what it returns. -/
theorem update_all_or_nothing (hk : pf.hkCursor.Lawful) (code : ForeignCode φ) (depth : Nat)
    (stack : List FunctionId) (env : TxEnv) (caller : Principal) (priceFeedBytes : Buff)
    (executionPlan : ExecutionPlanArg) (w : World φ) :
    (w.governance.currentExecutionPlan.Ours pf → ∀ reply w',
      exec pf code depth stack env caller
        (.verifyAndUpdatePriceFeeds priceFeedBytes executionPlan) w = (.ok reply, w') →
      ∃ written, reply = .priceUpdates written ∧ written ≠ [] ∧
        w'.store = written.foldl Store.Storage.put w.store ∧
        FeePaid env (w.fee written.length) w w' ∧
        w'.governance = w.governance ∧ w'.wormhole = w.wormhole ∧ w'.foreign = w.foreign) ∧
    (∀ e w', exec pf code depth stack env caller
        (.verifyAndUpdatePriceFeeds priceFeedBytes executionPlan) w = (.error e, w') →
      w' = w) ∧
    (w.governance.currentExecutionPlan.Ours pf → ∀ reply w',
      exec pf code depth stack env caller
        (.decodePriceFeeds priceFeedBytes executionPlan) w = (.ok reply, w') →
      ∃ prices, reply = .priceUpdates prices ∧
        FeePaid env (w.fee prices.length) w w' ∧ w'.store = w.store ∧
        w'.governance = w.governance ∧ w'.wormhole = w.wormhole ∧ w'.foreign = w.foreign ∧
        ∀ written w'', exec pf code depth stack env caller
          (.verifyAndUpdatePriceFeeds priceFeedBytes executionPlan) w =
            (.ok (.priceUpdates written), w'') → written.Sublist prices) := by
  -- the body of a successful update
  have hupdate : w.governance.currentExecutionPlan.Ours pf → ∀ reply w',
      exec pf code depth stack env caller
        (.verifyAndUpdatePriceFeeds priceFeedBytes executionPlan) w = (.ok reply, w') →
      ∃ written prices st', reply = .priceUpdates written ∧
        w.decoded pf priceFeedBytes = .ok prices ∧ written.Sublist prices ∧ written ≠ [] ∧
        Store.Written w.governance env w.store written st' ∧
        Oracle.chargeFee env written.length { w with store := st' } = (.ok (), w') := by
    intro hours reply w' h
    obtain ⟨-, hbody⟩ := exec_eq_ok.mp h
    obtain ⟨written, _, hverify, hreply⟩ := Contract.bind_eq_ok.mp hbody
    cases hreply
    obtain ⟨a, st', hdecoded, hsub, hne, hwritten, hfee⟩ :=
      verifyAndUpdatePriceFeeds_eq_ok hk hours hverify
    exact ⟨written, _, st', rfl, hdecoded, hsub, hne, hwritten, hfee⟩
  -- a success of either function, and between them a failure, which has no effect
  refine ⟨fun hours reply w' h => ?_, fun e w' => exec_error, fun hours reply w' h => ?_⟩
  · obtain ⟨written, _, st', rfl, -, -, hne, hwritten, hfee⟩ := hupdate hours reply w' h
    obtain ⟨hpaid, hstore, hrest⟩ := feePaid_of_chargeFee st' hfee
    exact ⟨written, rfl, hne, by rw [hstore, hwritten.eq_foldl], hpaid, hrest⟩
  · obtain ⟨-, hbody⟩ := exec_eq_ok.mp h
    obtain ⟨prices, _, hdecode, hreply⟩ := Contract.bind_eq_ok.mp hbody
    cases hreply
    obtain ⟨hdecoded, hfee⟩ := decodePriceFeeds_eq_ok hk hours hdecode
    obtain ⟨hpaid, hstore, hgov, hwormhole, hforeign⟩ := feePaid_of_chargeFee w.store hfee
    refine ⟨prices, rfl, hpaid, hstore, hgov, hwormhole, hforeign, fun written w'' h'' => ?_⟩
    obtain ⟨_, prices', _, hreply, hdecoded', hsub, -⟩ := hupdate hours _ _ h''
    cases hreply
    rw [hdecoded] at hdecoded'
    cases hdecoded'
    exact hsub

section ClosedRun

open ClosedRun

theorem update_all_or_nothing_sampleUpdate :
    let w := afterRun (World.step .reference silent) fresh [bootstrap]
    ∃ written : List PriceUpdate, written ≠ [] ∧
      FeePaid sampleEnv (w.fee written.length) w (sampleUpdate.run .reference silent w).2 := by
  intro w
  obtain ⟨hplan, hok, -⟩ := sampleUpdate_run
  have hours : w.governance.currentExecutionPlan.Ours .reference := by
    rw [hplan]
    exact ⟨rfl, rfl, rfl⟩
  obtain ⟨written, -, hne, -, hpaid, -⟩ := (update_all_or_nothing
    Platform.reference_lawful silent 4 [] sampleEnv account samplePnau _ _).1
    hours _ _ (Contract.run_eq hok)
  exact ⟨written, hne, hpaid⟩

/-- A contract outside the repository that decodes anything to one price, and moves its own
STX when it does. -/
def payingDecoder : ForeignCode Unit :=
  { silent with
    decodeAndVerifyPriceFeeds := fun target _ _ _ =>
      .stxTransfer target true 5 target (.standard ⟨26, List.replicate 20 4⟩) fun _ =>
        .done (.ok [samplePrice]) }

def payingDecoderV1 : Principal := .contract ⟨26, List.replicate 20 3⟩ (asciiBytes "decoder")

/-- Governance has installed it. -/
def withPayingDecoder : World Unit :=
  afterRun (World.step .reference payingDecoder) fresh
    [bootstrap, .tx (govern .pythDecoderContract 1 (principalBody payingDecoderV1))]

/-- With a decoder of somebody else an update can move other balances. -/
theorem update_moves_other_balances :
    ¬ ∀ w : World Unit, Reachable .reference payingDecoder w →
      ∀ depth env caller priceFeedBytes executionPlan reply w',
        exec .reference payingDecoder depth [] env caller
          (.verifyAndUpdatePriceFeeds priceFeedBytes executionPlan) w = (.ok reply, w') →
        ∀ p, p ≠ env.txSender → p ≠ w.governance.feeRecipientAddress →
          w'.balances p = w.balances p := by
  intro hclaim
  have hexternal : account ∉ Platform.reference.contracts := by decide
  have hreachable : Reachable .reference payingDecoder withPayingDecoder :=
    ⟨fresh, _, ⟨rfl, rfl, rfl⟩, by
      simp only [List.forall_mem_cons]
      exact ⟨hexternal, hexternal, fun _ h => by cases h⟩, rfl⟩
  let plan : ExecutionPlanArg :=
    ⟨Platform.reference.pythStoreV1, payingDecoderV1, Platform.reference.wormholeCoreV2⟩
  have hrun :
      (exec .reference payingDecoder 4 [] sampleEnv account
        (.verifyAndUpdatePriceFeeds [] plan) withPayingDecoder).1 =
          .ok (.priceUpdates [samplePrice]) ∧
      payingDecoderV1 ≠ withPayingDecoder.governance.feeRecipientAddress ∧
      (exec .reference payingDecoder 4 [] sampleEnv account
        (.verifyAndUpdatePriceFeeds [] plan) withPayingDecoder).2.balances payingDecoderV1 ≠
          withPayingDecoder.balances payingDecoderV1 := by
    decide +kernel
  obtain ⟨hok, hrecipient, hmoved⟩ := hrun
  have hsame := hclaim withPayingDecoder hreachable 4 sampleEnv account [] plan _ _
    (Contract.run_eq hok) payingDecoderV1 (by decide) hrecipient
  exact hmoved hsame

end ClosedRun

end PythBridge
