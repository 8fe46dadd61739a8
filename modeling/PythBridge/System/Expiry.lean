import PythBridge.System.Publishing

/-!
# Messages expire with their guardians

A VAA names the guardian set that signed it, and only the active set is asked. A rotation moves on
to a set with a larger id and never back. So what was let through before a rotation is refused for
good afterwards, and with it every price message and every governance message that carries it
(`messages_expire_with_guardians`).

The crux is that the ids of the active sets form a strictly increasing sequence along a run. A set
that was left can therefore not come back under its id, and a VAA names its set by the id: the check
of the id is the second one that `parse-and-verify-vaa` makes, before it looks at a single
signature, which is why the refusal is the same error for all of them.

* `World.guardians_unchanged_or_newer`: what a run does to the guardian sets.
* `WormholeCore.parseAndVerifyVaa_other`: a VAA under another set than its own.
* `messages_expire_with_guardians`: what follows for the messages that carry a VAA.
-/

namespace PythBridge

open Clarity PnauDecoder

variable {φ : Type} {pf : Platform} {code : ForeignCode φ}

/-! ## VAAs

The two facts about `wormhole-core-v2` that the rest needs: a call moves the active set forward or
not at all, and a VAA is let through under one set only. -/

namespace WormholeCore

/-- What a call does to the active set: nothing, or it is replaced by a newer one. -/
theorem UpdateCall.unchanged_or_newer (hk : pf.hkCursor.Lawful) (c : UpdateCall) (st : Storage) :
    st.after pf c = st ∨ st.activeGuardianSetId < (st.after pf c).activeGuardianSetId := by
  rcases c.cases hk st with ⟨updated, -, hrotated⟩ | ⟨-, hsame⟩
  · exact .inr hrotated.newer
  · exact .inl hsame

theorem Storage.unchanged_or_newer (hk : pf.hkCursor.Lawful) (st : Storage)
    (calls : List UpdateCall) :
    afterRun (Storage.after pf) st calls = st ∨
      st.activeGuardianSetId < (afterRun (Storage.after pf) st calls).activeGuardianSetId := by
  refine afterRun_rel (R := fun st st' =>
    st' = st ∨ st.activeGuardianSetId < st'.activeGuardianSetId) (fun _ => .inl rfl) ?_
    (fun st c _ => UpdateCall.unchanged_or_newer hk c st) st
  -- the relation is transitive: a rotation anywhere in the run is enough
  rintro s t u (rfl | hst) (rfl | htu)
  · exact .inl rfl
  · exact .inr htu
  · exact .inr hst
  · exact .inr (Nat.lt_trans hst htu)

/-- A VAA is let through under the set it names only. -/
theorem parseAndVerifyVaa_active {st : Storage} {vaaBytes : Buff} {vaa : Vaa}
    (h : parseAndVerifyVaa pf st vaaBytes = .ok vaa) :
    vaa.guardianSetId = st.activeGuardianSetId := by
  simp only [parseAndVerifyVaa, exec_bind_eq_ok, asserts_eq_ok, exec_pure_eq_ok] at h
  obtain ⟨message, -, _, hid, _, -, _, -, _, -, _, -, rfl⟩ := h
  exact hid

/-- Under any other set it is refused, always in the same way. -/
theorem parseAndVerifyVaa_other {st st' : Storage} {vaaBytes : Buff} {vaa : Vaa}
    (h : parseAndVerifyVaa pf st vaaBytes = .ok vaa)
    (hother : st'.activeGuardianSetId ≠ st.activeGuardianSetId) :
    parseAndVerifyVaa pf st' vaaBytes = .error (.err errVaaChecksGuardianSetConsistency) := by
  obtain ⟨message, hmessage, rfl⟩ := parseVaa_of_parseAndVerifyVaa h
  have hid := parseAndVerifyVaa_active h
  rw [parseAndVerifyVaa, hmessage]
  -- the message parses as before; the id is compared next, and fails
  show (asserts (message.vaa.guardianSetId = st'.activeGuardianSetId)
    errVaaChecksGuardianSetConsistency >>= _) = _
  rw [hid, asserts, if_neg hother.symm]
  rfl

end WormholeCore

/-- The guardian sets of a run of the system: untouched, or moved on. -/
theorem World.guardians_unchanged_or_newer (hk : pf.hkCursor.Lawful) (code : ForeignCode φ)
    (w : World φ) (events : List (Event φ)) :
    (afterRun (World.step pf code) w events).wormhole = w.wormhole ∨
      w.wormhole.activeGuardianSetId <
        (afterRun (World.step pf code) w events).wormhole.activeGuardianSetId := by
  obtain ⟨effects, hpath⟩ := afterRun_effects hk code w events
  rw [hpath.wormhole_run]
  exact w.wormhole.unchanged_or_newer hk _

/-! ## Messages

A message of Pyth embeds its VAA at a place that depends on the bytes only. So two worlds that both
decode it have verified the same VAA, and by the facts above they have the same active set. -/

/-- Two ways to verify are asked about the same VAA of a message. -/
theorem exists_vaaBytes_of_openMessage {verify verify' : Buff → Exec Vaa} {pnauBytes : Buff}
    {opened opened' : Vaa × Buff × List DecodedPriceUpdate}
    (h : openMessage pf verify pnauBytes = .ok opened)
    (h' : openMessage pf verify' pnauBytes = .ok opened') :
    ∃ vaaBytes, verify vaaBytes = .ok opened.1 ∧ verify' vaaBytes = .ok opened'.1 := by
  simp only [openMessage, exec_bind_eq_ok, exec_pure_eq_ok] at h h'
  obtain ⟨header, hheader, size, hsize, vaaRead, hvaaRead, vaa, hvaa, _, -, _, -, rfl⟩ := h
  obtain ⟨_, hheader', _, hsize', _, hvaaRead', vaa', hvaa', _, -, _, -, rfl⟩ := h'
  -- up to the VAA both read the same bytes with the same cursor
  obtain rfl := Except.ok.inj (hheader.symm.trans hheader')
  obtain rfl := Except.ok.inj (hsize.symm.trans hsize')
  obtain rfl := Except.ok.inj (hvaaRead.symm.trans hvaaRead')
  exact ⟨vaaRead.value, hvaa, hvaa'⟩

/-- What is decoded in two worlds is decoded under the same guardian set. -/
theorem World.active_eq_of_decoded {w w' : World φ} {priceFeedBytes : Buff}
    {prices prices' : List PriceUpdate} (h : w.decoded pf priceFeedBytes = .ok prices)
    (h' : w'.decoded pf priceFeedBytes = .ok prices') :
    w'.wormhole.activeGuardianSetId = w.wormhole.activeGuardianSetId := by
  obtain ⟨vaa, root, updates, hopen, -⟩ := w.openMessage_of_decoded h
  obtain ⟨vaa', root', updates', hopen', -⟩ := w'.openMessage_of_decoded h'
  obtain ⟨vaaBytes, hverified, hverified'⟩ := exists_vaaBytes_of_openMessage hopen hopen'
  by_contra hother
  rw [WormholeCore.parseAndVerifyVaa_other hverified hother] at hverified'
  cases hverified'

/-- **Messages expire with the guardians that signed them.** Along any run of the system: as long
as the active guardian set is the same, the guardian sets are untouched. Once it is another one,
it is another one for good, and what was good before is refused: every VAA, with one error; every
price message, in whatever paid call of the oracle and by whomever, while the plan names the
repository's contracts; and every governance message, while it names the wormhole contract. -/
theorem messages_expire_with_guardians (hk : pf.hkCursor.Lawful) (code : ForeignCode φ)
    (w : World φ) (events : List (Event φ)) :
    let w' := afterRun (World.step pf code) w events
    (w'.wormhole.activeGuardianSetId = w.wormhole.activeGuardianSetId →
      w'.wormhole = w.wormhole) ∧
    (w'.wormhole.activeGuardianSetId ≠ w.wormhole.activeGuardianSetId →
      (∀ more, (afterRun (World.step pf code) w' more).wormhole.activeGuardianSetId ≠
        w.wormhole.activeGuardianSetId) ∧
      (∀ vaaBytes vaa, WormholeCore.parseAndVerifyVaa pf w.wormhole vaaBytes = .ok vaa →
        WormholeCore.parseAndVerifyVaa pf w'.wormhole vaaBytes =
          .error (.err WormholeCore.errVaaChecksGuardianSetConsistency)) ∧
      (∀ priceFeedBytes prices, w.decoded pf priceFeedBytes = .ok prices →
        w'.governance.currentExecutionPlan.Ours pf → ∀ (t : Tx) executionPlan,
        t.call = .verifyAndUpdatePriceFeeds priceFeedBytes executionPlan ∨
          t.call = .decodePriceFeeds priceFeedBytes executionPlan →
        ∀ reply, (t.run pf code w').1 ≠ .ok reply) ∧
      ∀ (u : Governance.UpdateFunction) vaaBytes vaa,
        WormholeCore.parseAndVerifyVaa pf w.wormhole vaaBytes = .ok vaa →
        w'.governance.currentExecutionPlan.wormholeCoreContract = pf.wormholeCoreV2 →
        ∀ (t : Tx) wormholeCoreContract, t.call = u.call vaaBytes wormholeCoreContract →
        ∀ reply, (t.run pf code w').1 ≠ .ok reply) := by
  intro w'
  have hadvanced := w.guardians_unchanged_or_newer hk code events
  refine ⟨fun hsame => ?_, fun hother => ⟨fun more => ?_, fun vaaBytes vaa hverified => ?_, ?_, ?_⟩⟩
  · rcases hadvanced with hunchanged | hnewer
    · exact hunchanged
    · exact absurd hsame (Nat.ne_of_gt hnewer)
  · -- once ahead of the old id, always ahead of it
    have hnewer : w.wormhole.activeGuardianSetId < w'.wormhole.activeGuardianSetId := by
      rcases hadvanced with hunchanged | hnewer
      · exact absurd (congrArg _ hunchanged) hother
      · exact hnewer
    rcases w'.guardians_unchanged_or_newer hk code more with hunchanged | hlater
    · rw [hunchanged]
      exact hother
    · exact Nat.ne_of_gt (Nat.lt_trans hnewer hlater)
  · exact WormholeCore.parseAndVerifyVaa_other hverified hother
  · rintro priceFeedBytes prices hdecoded hours ⟨depth, env, caller, call⟩ executionPlan
      -- a paid call that succeeds has decoded the message, and under another set it cannot
      (rfl | rfl) reply hok
    · obtain ⟨-, hbody⟩ := exec_eq_ok.mp (Contract.run_eq hok)
      obtain ⟨written, w₁, hupdate, -⟩ := Contract.bind_eq_ok.mp hbody
      obtain ⟨a, st', hdecoded', -⟩ := verifyAndUpdatePriceFeeds_eq_ok hk hours hupdate
      exact hother (World.active_eq_of_decoded hdecoded hdecoded')
    · obtain ⟨-, hbody⟩ := exec_eq_ok.mp (Contract.run_eq hok)
      obtain ⟨written, w₁, hdecode, -⟩ := Contract.bind_eq_ok.mp hbody
      exact hother (World.active_eq_of_decoded hdecoded
        (decodePriceFeeds_eq_ok hk hours hdecode).1)
  · -- a governance call that is executed has asked the wormhole contract of the plan
    rintro u vaaBytes vaa hverified hwormhole ⟨depth, env, caller, call⟩ wormholeCoreContract rfl
      reply hok
    obtain ⟨hplan, vaa', w₁, hvaa, -⟩ := exec_update_eq_ok hk (Contract.run_eq hok)
    rw [hplan, hwormhole] at hvaa
    obtain ⟨-, hverified'⟩ := vm_parseAndVerifyVaa_wormholeCoreV2 hvaa
    rw [WormholeCore.parseAndVerifyVaa_other hverified hother] at hverified'
    cases hverified'

/-! ### A rotation

The bootstrapped system, an update that succeeds there, and the same update after one rotation. -/

section ClosedRun

open ClosedRun WormholeCore

/-- The guardian is replaced by itself, under the next id. -/
def renewal : Event Unit :=
  .tx <| txOf (.updateGuardiansSet
    (serialize (signed (upgradeTo 1 2 (ethAddress .reference guardianKey)))) [guardianKey])

/-- The sample update, which succeeds after the bootstrap, is refused after the renewal. -/
theorem messages_expire_with_guardians_renewal :
    let w := afterRun (World.step .reference silent) fresh [bootstrap]
    (∃ reply, (sampleUpdate.run .reference silent w).1 = .ok reply) ∧
      ∀ reply, (sampleUpdate.run .reference silent
        (afterRun (World.step .reference silent) w [renewal])).1 ≠ .ok reply := by
  intro w
  obtain ⟨-, hok, -⟩ := sampleUpdate_run
  have hrotated : (afterRun (World.step .reference silent) w
        [renewal]).wormhole.activeGuardianSetId ≠ w.wormhole.activeGuardianSetId ∧
      (afterRun (World.step .reference silent) w
        [renewal]).governance.currentExecutionPlan = Platform.reference.deployedPlan ∧
      (w.decoded .reference samplePnau).isOk := by
    decide +kernel
  obtain ⟨hother, hplan', hdecoded⟩ := hrotated
  obtain ⟨prices, hprices⟩ : ∃ prices, w.decoded .reference samplePnau = .ok prices := by
    cases hdecode : w.decoded .reference samplePnau with
    | ok prices => exact ⟨prices, rfl⟩
    | error e =>
      rw [hdecode] at hdecoded
      cases hdecoded
  have hours : (afterRun (World.step .reference silent) w
      [renewal]).governance.currentExecutionPlan.Ours .reference :=
    hplan' ▸ Platform.reference.deployedPlan_ours
  obtain ⟨-, -, hrefused, -⟩ := (messages_expire_with_guardians Platform.reference_lawful silent w
    [renewal]).2 hother
  have hcall : sampleUpdate.call = .verifyAndUpdatePriceFeeds samplePnau
      ⟨Platform.reference.pythStoreV1, Platform.reference.pythPnauDecoderV1,
        Platform.reference.wormholeCoreV2⟩ := rfl
  have hsample := hrefused samplePnau prices hprices hours sampleUpdate _ (.inl hcall)
  exact ⟨⟨_, hok⟩, hsample⟩

end ClosedRun

end PythBridge
