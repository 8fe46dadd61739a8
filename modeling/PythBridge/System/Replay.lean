import PythBridge.Clarity.Latest
import PythBridge.Pyth.Bodies
import PythBridge.System.Governance

/-!
# Governance as a replay

The storage of `pyth-governance-v1` in a reachable world is what its executed messages say, one
after another: a function governs by its last message, and each message comes from the source that
the messages before it put in charge. What was overtaken does not matter
(`governance_replays_messages`).

The nine update functions write nine disjoint parts of the storage, and together with the recorded
sequence these parts are all of it. This is the crux: the state is a product, one component for a
function, and a message of a function replaces its component by what its body says. So the
components can be replayed one by one, and `lastOf` of the library names the message that is left.

The recorded sequence is no component of a function. It is the largest sequence that was executed,
which is that of the last message of the function that was executed last.

* `Executes.governed`: one message.
* `governed_of_executions`: a run, for each function.
* `executions_eq_of_lastOf`: two runs with the same last messages end in the same storage.
* `governance_replays_messages`: the results together, with the sources of the messages.
-/

namespace PythBridge

open Clarity

variable {φ : Type} {pf : Platform}

namespace Governance

variable {st st' : Storage} {u : UpdateFunction}

/-! ## One message

The components of the storage, and what a message does to them. -/

/-- A function does not touch what another one governs. -/
theorem UpdateFunction.governed_replace_of_ne {u' : UpdateFunction} (h : u' ≠ u)
    (value : u'.Value) (st : Storage) : u.governed (u'.replace value st) = u.governed st := by
  cases u <;> cases u' <;> first | rfl | exact absurd rfl h

/-- The governed values and the sequence are the whole storage. -/
theorem Storage.eq_of_governed (hgoverned : ∀ u : UpdateFunction, u.governed st = u.governed st')
    (hsequence : st.lastSequenceProcessed = st'.lastSequenceProcessed) : st = st' := by
  -- the plan has four functions for its four fields
  have hplan : st.currentExecutionPlan = st'.currentExecutionPlan := by
    have horacle := hgoverned .pythOracleContract
    have hdecoder := hgoverned .pythDecoderContract
    have hstorage := hgoverned .pythStoreContract
    have hwormhole := hgoverned .wormholeCoreContract
    unfold UpdateFunction.governed at horacle hdecoder hstorage hwormhole
    cases hst : st.currentExecutionPlan
    cases hst' : st'.currentExecutionPlan
    simp_all
  have hfee := hgoverned .feeValue
  have hthreshold := hgoverned .stalePriceThreshold
  have hrecipient := hgoverned .feeRecipientAddress
  have hprices := hgoverned .pricesDataSources
  have hsource := hgoverned .governanceDataSource
  unfold UpdateFunction.governed at hfee hthreshold hrecipient hprices hsource
  cases st
  cases st'
  simp_all

/-- One message: its function governs by it, and the others as before. -/
theorem Executes.governed {u' : UpdateFunction} {vaa : Vaa} (h : Executes pf u' vaa st st') :
    (u' = u → u.decodeBody pf (vaa.payload.drop 8) = .ok (u.governed st')) ∧
      (u' ≠ u → u.governed st' = u.governed st) := by
  obtain ⟨value, hvalue, rfl⟩ := h.exists_value
  refine ⟨?_, fun hne => ?_⟩
  · rintro rfl
    rw [UpdateFunction.governed_replace]
    exact hvalue
  · rw [UpdateFunction.governed_replace_of_ne hne]
    cases u <;> rfl

end Governance

section Messages

variable {st st' : Governance.Storage} {messages : List (Governance.UpdateFunction × Vaa)}

/-! ## Any messages

Each fact is an induction over the run, or reads the last step off its end. -/

/-- Any messages: a function governs by the last of its own. Induction on the messages. -/
theorem governed_of_executions (h : Executions pf st messages st')
    (u : Governance.UpdateFunction) :
    (∀ m, lastOf Prod.fst u messages = some m →
      u.decodeBody pf (m.2.payload.drop 8) = .ok (u.governed st')) ∧
    (lastOf Prod.fst u messages = none → u.governed st' = u.governed st) := by
  induction h with
  | nil => exact ⟨nofun, fun _ => rfl⟩
  | @cons st st₁ st' first messages hexecutes _ ih =>
    obtain ⟨hown, hother⟩ := hexecutes.governed (u := u)
    rw [lastOf_cons]
    cases hlast : lastOf Prod.fst u messages with
    -- a later message of the function decides, whatever the first one was
    | some m => exact ⟨fun _ heq => ih.1 _ (hlast.trans heq), nofun⟩
    | none =>
      have hsame := ih.2 hlast
      rw [hsame]
      -- without a later one the first message decides, if it is the function's own
      by_cases hu : first.1 = u
      · rw [if_pos hu]
        exact ⟨fun _ heq => by cases heq; exact hown hu, nofun⟩
      · rw [if_neg hu]
        exact ⟨nofun, fun _ => hother hu⟩

/-- No message of a run is ahead of the sequence at its end. -/
theorem sequence_le_of_executions (h : Executions pf st messages st')
    {m : Governance.UpdateFunction × Vaa} (hm : m ∈ messages) :
    m.2.sequence ≤ st'.lastSequenceProcessed := by
  obtain ⟨before, after, rfl⟩ := List.append_of_mem hm
  obtain ⟨st₁, -, hrest⟩ := h.split
  cases hrest with
  | cons hexecutes hafter =>
    rw [← hexecutes.lastSequenceProcessed]
    exact (climbs_of_executions hafter).le

/-- What was executed last is the last message of its function. -/
theorem exists_last_of_executions (h : Executions pf st messages st') :
    st' = st ∨ ∃ m, lastOf Prod.fst m.1 messages = some m ∧
      m.2.sequence = st'.lastSequenceProcessed := by
  -- the run is split at its last message; nothing comes behind it
  rcases messages.eq_nil_or_concat with rfl | ⟨before, m, rfl⟩
  · cases h
    exact .inl rfl
  · refine .inr ⟨m, ?_, ?_⟩
    · rw [List.concat_eq_append, lastOf, List.filter_append,
        List.filter_cons_of_pos (by simp), List.filter_nil, List.getLast?_concat]
    · rw [List.concat_eq_append] at h
      obtain ⟨st₁, -, hlast⟩ := h.split
      cases hlast with
      | cons hexecutes hnil =>
        cases hnil
        exact hexecutes.lastSequenceProcessed.symm

/-- With the same last messages, nobody is ahead. -/
theorem sequence_le_of_lastOf {messages' : List (Governance.UpdateFunction × Vaa)}
    {st₁ st₂ : Governance.Storage} (h : Executions pf st messages st₁)
    (h' : Executions pf st messages' st₂)
    (hlast : ∀ u, lastOf Prod.fst u messages = lastOf Prod.fst u messages') :
    st₁.lastSequenceProcessed ≤ st₂.lastSequenceProcessed := by
  -- the last message of the first run is a message of the second one, too
  rcases exists_last_of_executions h with rfl | ⟨m, hm, hsequence⟩
  · exact (climbs_of_executions h').le
  · rw [hlast] at hm
    rw [← hsequence]
    exact sequence_le_of_executions h' (mem_of_lastOf hm).1

/-- What was overtaken does not matter. -/
theorem executions_eq_of_lastOf {messages' : List (Governance.UpdateFunction × Vaa)}
    {st₁ st₂ : Governance.Storage} (h : Executions pf st messages st₁)
    (h' : Executions pf st messages' st₂)
    (hlast : ∀ u, lastOf Prod.fst u messages = lastOf Prod.fst u messages') : st₁ = st₂ := by
  refine Governance.Storage.eq_of_governed (fun u => ?_)
    (Nat.le_antisymm (sequence_le_of_lastOf h h' hlast)
      (sequence_le_of_lastOf h' h fun u => (hlast u).symm))
  obtain ⟨hown, hnone⟩ := governed_of_executions h u
  obtain ⟨hown', hnone'⟩ := governed_of_executions h' u
  cases hm : lastOf Prod.fst u messages with
  | some m =>
    have hvalue := hown m hm
    rw [hown' m (hlast u ▸ hm)] at hvalue
    exact (Except.ok.inj hvalue).symm
  | none => rw [hnone hm, hnone' (hlast u ▸ hm)]

end Messages

/-- **Governance is the replay of its messages.** In a reachable world it is the end of a run of
executed messages from the deployment. After any such run a function governs by the body of its
last message, or by the deployment when it has none; every message came from the data source that
the last message about it before had named, or from the deployed one; and only the last message of
each function matters, for the recorded sequence as well. -/
theorem governance_replays_messages (hk : pf.hkCursor.Lawful) (code : ForeignCode φ) :
    (∀ w : World φ, Reachable pf code w →
      ∃ messages, Executions pf (.deployed pf) messages w.governance) ∧
    ∀ messages st, Executions pf (.deployed pf) messages st →
      (∀ u : Governance.UpdateFunction,
        (∀ m, lastOf Prod.fst u messages = some m →
          u.decodeBody pf (m.2.payload.drop 8) = .ok (u.governed st)) ∧
        (lastOf Prod.fst u messages = none → u.governed st = u.governed (.deployed pf))) ∧
      (∀ before u vaa after, messages = before ++ (u, vaa) :: after →
        (∀ m, lastOf Prod.fst .governanceDataSource before = some m →
          Governance.parseAndVerifyGovernanceDataSource pf (m.2.payload.drop 8) =
            .ok vaa.emitter) ∧
        (lastOf Prod.fst .governanceDataSource before = none →
          vaa.emitter = (Governance.Storage.deployed pf).governanceDataSource)) ∧
      ∀ messages' st', Executions pf (.deployed pf) messages' st' →
        (∀ u, lastOf Prod.fst u messages' = lastOf Prod.fst u messages) → st' = st := by
  refine ⟨fun w hw => hw.executions hk, fun messages st h => ⟨governed_of_executions h, ?_,
    fun messages' st' h' hlast => executions_eq_of_lastOf h' h hlast⟩⟩
  rintro before u vaa after rfl
  obtain ⟨st₁, hbefore, hrest⟩ := h.split
  cases hrest with
  | cons hexecutes _ =>
    -- the source is what the function for the source governs, before the message in question
    have hsource := governed_of_executions hbefore .governanceDataSource
    rw [hexecutes.emitter]
    exact hsource

/-! ### Two fees -/

section ClosedRun

open ClosedRun

def feeMessage (sequence mantissa : Nat) : Vaa :=
  message .feeValue sequence (uintToBuffBe 8 mantissa ++ uintToBuffBe 8 0)

def afterFees (sequence mantissa : Nat) : Governance.Storage :=
  { Governance.Storage.deployed .reference with
    feeValue := ⟨mantissa, 0⟩
    lastSequenceProcessed := sequence }

theorem feeMessages_executed :
    Executions .reference (.deployed .reference)
      [(.feeValue, feeMessage 5 3), (.feeValue, feeMessage 6 4)] (afterFees 6 4) := by
  have hfirst : Governance.Executes .reference .feeValue (feeMessage 5 3) (.deployed .reference)
      (afterFees 5 3) :=
    ⟨rfl, by decide, uintToBuffBe 8 3 ++ uintToBuffBe 8 0, rfl, by decide +kernel⟩
  have hsecond : Governance.Executes .reference .feeValue (feeMessage 6 4) (afterFees 5 3)
      (afterFees 6 4) :=
    ⟨rfl, by decide, uintToBuffBe 8 4 ++ uintToBuffBe 8 0, rfl, by decide +kernel⟩
  exact .cons hfirst (.single hsecond)

/-- The second of two fees governs. -/
theorem governance_replays_messages_feeValue :
    Governance.parseAndVerifyFeeValue .reference ((feeMessage 6 4).payload.drop 8) =
      .ok (afterFees 6 4).feeValue := by
  have hlast : lastOf Prod.fst .feeValue [(Governance.UpdateFunction.feeValue, feeMessage 5 3),
      (.feeValue, feeMessage 6 4)] = some (.feeValue, feeMessage 6 4) := rfl
  exact (((governance_replays_messages Platform.reference_lawful silent).2 _ _
    feeMessages_executed).1 .feeValue).1 _ hlast

end ClosedRun

end PythBridge
