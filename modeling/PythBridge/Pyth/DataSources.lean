import PythBridge.Clarity.Reports
import PythBridge.Pyth.Governance

/-!
# Lists of data sources

`parse-and-verify-prices-data-sources` walks over the bytes that follow the count, 34 a source,
and does not compare them with the count: cut between two sources a body yields a shorter list,
and cut inside one it aborts. What is declared is read exactly when it is there
(`parseAndVerifyPricesDataSources_iff_whole`).

The fold stops where the bytes stop, so three things can happen to a body that declares more than
there is, and none of them is the error response that the function has for a malformed body:

* cut between two sources: the sources that are there are installed, fewer than declared;
* cut inside a source: the read panics and the whole call aborts;
* without a count: the error of the cursor contract is handed on, whatever it is.
-/

namespace PythBridge.Governance

open Clarity

variable {pf : Platform}

/-! ## One source

The step of the fold is a step of a walk, with a decoder that returns or aborts. -/

/-- The source at a position, with the 34 bytes that it takes. -/
def decodeDataSource (pf : Platform) (bytes : Buff) (pos : Nat) : Exec (DataSource × Nat) := do
  let buffer := pf.hkCursor.new bytes (some pos)
  let cursorEmitterChain ← unwrapPanic (pf.hkCursor.readUint16 buffer.next)
  let cursorEmitterAddress ← unwrapPanic (pf.hkCursor.readBuff32 cursorEmitterChain.next)
  pure (⟨cursorEmitterChain.value, cursorEmitterAddress.value⟩, 34)

/-- The fold of the source is a walk. -/
theorem parseDataSource_eq_walkStep (bytes : Buff) (limit : Nat) :
    parseDataSource pf bytes limit = walkStep (decodeDataSource pf bytes) 255 limit := by
  funext acc entry
  unfold parseDataSource walkStep
  split
  · rfl
  split
  · simp only [decodeDataSource, bind_assoc, pure_bind]
  · rfl

/-- The source written in the 34 bytes from `pos` on. -/
def sourceAt (bytes : Buff) (pos : Nat) : DataSource where
  emitterChain := buffToUintBe ((bytes.drop pos).take 2)
  emitterAddress := (bytes.drop (pos + 2)).take 32

/-- A source is read exactly when all of its 34 bytes are there. -/
theorem decodeDataSource_decodesBy (hk : pf.hkCursor.Lawful) (bytes : Buff) :
    DecodesBy (decodeDataSource pf bytes) (fun pos => pos + 34 ≤ bytes.length)
      (sourceAt bytes) (fun _ => 34) where
  taken pos hinside := by
    have hchain : (⟨bytes, pos⟩ : Cursor).Holds 2 := by
      show pos + 2 ≤ bytes.length
      omega
    simp only [decodeDataSource, exec_bind_eq_ok, unwrapPanic_eq_ok, hk.readUint16.exists_ok,
      hk.readBuff32.exists_ok, hk.new, exec_pure_eq_ok, Option.getD_some]
    exact ⟨hchain, hinside, rfl⟩
  aborts pos houtside := by
    refine eq_abort_of_not_reports fun hreports => houtside ?_
    simp only [decodeDataSource, reports_unwrapPanic_bind, hk.readUint16.exists_ok,
      hk.readBuff32.exists_ok, hk.new, Option.getD_some] at hreports
    exact hreports.2.1
  stride_pos _ := by decide

/-! ## A body

A walk returns what is there, so a body is compared with what it declares. -/

/-- The number of sources that a body declares. -/
def numDataSources (body : Buff) : Nat := buffToUintBe (body.take 1)

/-- The count, and as many sources as it says. -/
def WholeBody (body : Buff) : Prop := 1 + 34 * numDataSources body ≤ body.length

instance (body : Buff) : Decidable (WholeBody body) :=
  inferInstanceAs (Decidable (_ ≤ _))

/-- The sources a body declares. -/
def declaredSources (body : Buff) : List DataSource :=
  (List.range (numDataSources body)).map fun i => sourceAt body (1 + 34 * i)

/-- It is a byte, so the list of 255 sources has room for all of them. -/
theorem numDataSources_le (body : Buff) : numDataSources body ≤ 255 := by
  have hlt := buffToUintBe_lt (body.take 1)
  have hlength : (body.take 1).length ≤ 1 := by
    rw [List.length_take]
    omega
  have hpow : 256 ^ (body.take 1).length ≤ 256 ^ 1 := Nat.pow_le_pow_right (by decide) hlength
  rw [numDataSources]
  omega

/-- Positions in the bytes behind the count. -/
theorem sourceAt_drop (body : Buff) (start pos : Nat) :
    sourceAt (body.drop start) pos = sourceAt body (start + pos) := by
  simp only [sourceAt, List.drop_drop, Nat.add_assoc]

/-- A body with a count either returns or aborts: there is no error in the walk. -/
theorem parseAndVerifyPricesDataSources_of_count (hk : pf.hkCursor.Lawful) {body : Buff}
    (hcount : body ≠ []) :
    (WholeBody body → parseAndVerifyPricesDataSources pf body = .ok (declaredSources body)) ∧
      ∀ code, parseAndVerifyPricesDataSources pf body ≠ .error (.err code) := by
  have hread : pf.hkCursor.readUint8 ⟨body, 0⟩ =
      .ok ⟨numDataSources body, (⟨body, 0⟩ : Cursor).skip 1⟩ := by
    refine (hk.readUint8 _ _).mpr ⟨?_, rfl⟩
    have := List.length_pos_iff.mpr hcount
    show 0 + 1 ≤ body.length
    omega
  have hwalk := (decodeDataSource_decodesBy hk (body.drop 1)).foldlM_walkStep_eq 255
    (numDataSources body) (body.drop 1)
  have hbody : parseAndVerifyPricesDataSources pf body =
      ((body.drop 1).foldlM (walkStep (decodeDataSource pf (body.drop 1)) 255
        (numDataSources body)) .start).map WalkAcc.result := by
    have hmap : ∀ x : Exec (WalkAcc DataSource),
        (x >>= fun acc => pure acc.result) = x.map WalkAcc.result := fun x => by cases x <;> rfl
    rw [parseAndVerifyPricesDataSources, hk.new]
    show (tryResponse (pf.hkCursor.readUint8 ⟨body, 0⟩) >>= _) = _
    simp only [hread, hk.slice_none, parseDataSource_eq_walkStep]
    exact hmap _
  rw [hbody, hwalk]
  constructor
  · -- all declared sources are inside, so the walk starts at every multiple of 34
    intro hwhole
    have hfit : 0 + 34 * numDataSources body ≤ (body.drop 1).length := by
      rw [WholeBody] at hwhole
      rw [List.length_drop]
      omega
    have hstarts : recordStarts (fun _ => 34) (body.drop 1).length (numDataSources body) 0 =
        (List.range (numDataSources body)).map fun i => 0 + 34 * i :=
      recordStarts_const (by decide) _ 0 hfit
    have hle := numDataSources_le body
    rw [if_pos, hstarts, List.map_map]
    · refine congrArg Except.ok (List.map_congr_left fun i _ => ?_)
      show sourceAt (body.drop 1) (0 + 34 * i) = sourceAt body (1 + 34 * i)
      rw [sourceAt_drop, Nat.zero_add]
    · rw [hstarts, List.length_map, List.length_range, List.forall_mem_map]
      refine ⟨fun i hi => ?_, hle⟩
      have := List.mem_range.mp hi
      omega
  · intro code
    split <;> nofun

/-! ## Results -/

/-- **When a list of data sources is checked.** For every body: what is declared is returned
when it is all there, and any shorter body gives `ERR_INVALID_ACTION_PAYLOAD`, exactly when it
is all there, or when there is not even a count and the cursor's own error is that one. -/
theorem parseAndVerifyPricesDataSources_iff_whole (hk : pf.hkCursor.Lawful) (body : Buff) :
    ((WholeBody body → parseAndVerifyPricesDataSources pf body = .ok (declaredSources body)) ∧
      (¬ WholeBody body →
        parseAndVerifyPricesDataSources pf body = .error (.err errInvalidActionPayload))) ↔
    WholeBody body ∨
      (body = [] ∧ pf.hkCursor.readUint8 ⟨[], 0⟩ = .error errInvalidActionPayload) := by
  -- without a count the read fails, with a code of the cursor contract
  by_cases hnil : body = []
  · subst hnil
    have hshort : ¬ WholeBody [] := by decide
    have hfails : ∃ code, pf.hkCursor.readUint8 ⟨[], 0⟩ = .error code := by
      cases hread : pf.hkCursor.readUint8 ⟨[], 0⟩ with
      | error code => exact ⟨code, rfl⟩
      | ok r =>
        have hholds := ((hk.readUint8 _ _).mp hread).1
        exact absurd hholds (by decide)
    obtain ⟨code, hread⟩ := hfails
    have hbody : parseAndVerifyPricesDataSources pf [] = .error (.err code) := by
      rw [parseAndVerifyPricesDataSources, hk.new]
      show (tryResponse (pf.hkCursor.readUint8 ⟨[], 0⟩) >>= _) = _
      rw [hread]
      rfl
    simp [hshort, hbody, hread]
  · obtain ⟨hwhole, hnoError⟩ := parseAndVerifyPricesDataSources_of_count hk hnil
    constructor
    · rintro ⟨-, hshort⟩
      refine .inl ?_
      by_contra hnot
      exact hnoError _ (hshort hnot)
    · rintro (h | ⟨h, -⟩)
      · exact ⟨hwhole, fun hnot => absurd h hnot⟩
      · exact absurd h hnil

section ClosedBodies

/-- A body with one source. -/
def oneSource (count : UInt8) : Buff := [count, 0, 26] ++ List.replicate 32 7

theorem parseAndVerifyPricesDataSources_iff_whole_oneSource :
    parseAndVerifyPricesDataSources .reference (oneSource 1) =
      .ok [⟨26, List.replicate 32 7⟩] := by
  have hwhole : WholeBody (oneSource 1) ∧
      declaredSources (oneSource 1) = [⟨26, List.replicate 32 7⟩] := by
    decide
  rw [((parseAndVerifyPricesDataSources_iff_whole Platform.reference_lawful
    (oneSource 1)).mpr (.inl hwhole.1)).1 hwhole.1, hwhole.2]

/-- A body that declares two sources and ends behind the first installs one, and a body that
ends inside its source aborts. -/
theorem cut_sources_not_checked :
    parseAndVerifyPricesDataSources .reference (oneSource 2) =
        .ok [⟨26, List.replicate 32 7⟩] ∧
      parseAndVerifyPricesDataSources .reference (oneSource 1).dropLast = .error .abort ∧
      ¬ ∀ body, ¬ WholeBody body →
        parseAndVerifyPricesDataSources .reference body =
          .error (.err errInvalidActionPayload) := by
  refine ⟨by rfl, by rfl, fun hclaim => ?_⟩
  have hshort := hclaim (oneSource 2) (by decide)
  have hlist : parseAndVerifyPricesDataSources .reference (oneSource 2) =
      .ok [⟨26, List.replicate 32 7⟩] := by rfl
  rw [hlist] at hshort
  cases hshort

end ClosedBodies

end PythBridge.Governance
