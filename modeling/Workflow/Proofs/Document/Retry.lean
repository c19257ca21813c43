import Workflow.Proofs.Document.Views
import Workflow.Proofs.Run.Counting

/-!
# How often steps are tried

The attempts at a step can be counted if 32 bits hold their number. A document in form asks for ten
retries at most, so the attempts at its steps can be counted, and a run of it has a result.
-/

namespace Workflow

namespace Decode

/-- What is read as a whole number of 32 bits is that number. -/
theorem natural?_of_u32 {json : Json} {count : UInt32} (h : u32 json = .ok count) :
    json.natural? = some count.toNat := by
  cases json with
  | num number =>
    cases number with
    | int n =>
      rw [u32, natural] at h
      by_cases hrange : 0 ≤ n ∧ n < 4294967296
      · rw [if_pos (by simpa using hrange)] at h
        cases h
        have hcount : n.toNat.toUInt32.toNat = n.toNat :=
          UInt32.toNat_ofNat_of_lt' (by simp only [UInt32.size]; omega)
        rw [hcount]
        exact if_pos hrange.1
      · rw [if_neg (by simpa using hrange)] at h
        cases h
    | float x => cases h
  | null | bool | str | arr | obj => cases h

end Decode

namespace Validation.Schema

/-- A step in form asks for ten retries at most. -/
theorem StepForm.retryCount_le {fields : Entries Json} {step : Step} {handling : ErrorHandling}
    {count : UInt32} (hform : StepForm fields) (hstep : Step.decoder (.obj fields) = .ok step)
    (hhandling : step.errorHandling = some handling) (hcount : handling.retryCount = some count) :
    count.toNat ≤ 10 := by
  obtain ⟨draft, hdraft, hstep⟩ := Decode.bind_eq_ok hstep
  obtain ⟨config, -, hstep⟩ := Decode.bind_eq_ok hstep
  cases hstep
  have hpolicy := (Step.Draft.readFrom hdraft).errorHandling
  have hhandling : draft.errorHandling = some handling := hhandling
  cases hget : fields.get? "error_handling" with
  | none => cases (hpolicy.of_none hget).symm.trans hhandling
  | some value =>
    obtain ⟨policy, rfl, hkept⟩ := hform.errorHandling value hget
    have hread := hpolicy.of_some hget
    rw [hhandling] at hread
    have hretries := (ErrorHandling.readFrom (Decode.optional_eq_ok hread rfl).2).retryCount
    cases hretry : Entries.get? policy "retry_count" with
    | none => cases (hretries.of_none hretry).symm.trans hcount
    | some json =>
      have hjson := hretries.of_some hretry
      rw [hcount] at hjson
      have hnumber := Decode.natural?_of_u32 (Decode.optional_eq_ok hjson rfl).2
      obtain ⟨n, hn, hnatural⟩ := hkept.retryCount json hretry
      rw [hnumber] at hnatural
      rw [Option.some.inj hnatural]
      exact hn

end Validation.Schema

/-- How often a step may be tried: at least twice if its failures call for a
retry, and once if they do not. -/
def Policy.limit (step : Step) : Nat :=
  match step.errorHandling with
  | some ⟨.retry, count, _⟩ => 1 + max ((count.map UInt32.toNat).getD 1) 1
  | _ => 1

namespace Policy

variable {step : Step}

theorem toNat_max_one (n : UInt32) : (max n 1).toNat = max n.toNat 1 := by
  change (if n ≤ 1 then 1 else n : UInt32).toNat = _
  have hone : (1 : UInt32).toNat = 1 := rfl
  simp only [UInt32.le_iff_toNat_le]
  split <;> omega

/-- The attempts at a step are counted exactly, if they can be counted. -/
theorem map_toNat_maxAttempts (step : Step) :
    (maxAttempts step).map UInt32.toNat =
      if limit step < UInt32.size then some (limit step) else none := by
  unfold limit
  split
  · next count fallback hhandling =>
    have hagain : (max (count.getD 1) 1).toNat = max ((count.map UInt32.toNat).getD 1) 1 := by
      rw [toNat_max_one]
      cases count <;> rfl
    rw [maxAttempts, hhandling, ← hagain]
    simp only
    split
    · next hfits =>
      rw [Option.map_some, UInt32.toNat_add]
      exact congrArg some (Nat.mod_eq_of_lt hfits)
    · rfl
  · next hother =>
    unfold maxAttempts
    split
    · next count fallback hhandling => exact absurd hhandling (hother count fallback)
    · rfl

theorem maxAttempts_eq_none_iff : maxAttempts step = none ↔ UInt32.size ≤ limit step := by
  rw [← Option.map_eq_none_iff (f := UInt32.toNat), map_toNat_maxAttempts]
  split <;> simp <;> omega

theorem exists_maxAttempts (h : limit step < UInt32.size) :
    ∃ most, maxAttempts step = some most ∧ most.toNat = limit step :=
  Option.map_eq_some_iff.mp ((map_toNat_maxAttempts step).trans (if_pos h))

/-- A step is tried once more than it is retried. -/
theorem retries_add_one (h : limit step < UInt32.size) : retries step + 1 = limit step := by
  have hpositive : 1 ≤ limit step := by
    unfold limit
    split <;> omega
  rw [retries, map_toNat_maxAttempts, if_pos h, Option.getD_some]
  exact Nat.sub_add_cancel hpositive

end Policy

namespace Definition

variable {document : Json} {d : Definition} {step : Step}

/-- A step of a document in form is tried eleven times at most. -/
theorem limit_le_of_form (hform : Validation.Schema.document document = [])
    (hdecoder : Definition.decoder document = .ok d) (hstep : step ∈ d.steps) :
    Policy.limit step ≤ 11 := by
  obtain ⟨items, ⟨top, graph, rfl, hgraph, hitems⟩, hsteps⟩ := Validation.Schema.stepsForm hform
  obtain ⟨item, hitem, hread⟩ := Decode.exists_of_forall₂
    (Definition.forall₂_of_decoder hdecoder hgraph hitems) hstep
  obtain ⟨fields, rfl, hkept⟩ := hsteps item hitem
  unfold Policy.limit
  split
  · next count fallback hhandling =>
    cases count with
    | none => decide
    | some n =>
      have hbound := hkept.retryCount_le hread hhandling rfl
      rw [Option.map_some, Option.getD_some]
      omega
  · decide

theorem countable_of_form (hform : Validation.Schema.document document = [])
    (hdecoder : Definition.decoder document = .ok d) : d.Countable := by
  intro step hstep huncounted
  have hmost := limit_le_of_form hform hdecoder hstep
  have huncounted := Policy.maxAttempts_eq_none_iff.mp huncounted
  exact absurd (Nat.le_trans huncounted hmost) (by decide)

end Definition

end Workflow
