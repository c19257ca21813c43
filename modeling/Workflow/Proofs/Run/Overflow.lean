import Workflow.Proofs.Run.Diagnostics
import Workflow.Validation.Semantics

/-!
# Results that overflow a context

Whether a result fits is found out only when it has been stored, and a result that does
not fit is not taken back: it stands in the place of what the context had for its step.
Nothing else in the context changes. So a context is as before exactly if it had kept that
very value for the step already.
-/

namespace Workflow

/-! ## Writing one entry -/

namespace Entries

variable {α : Type} {entries : Entries α} {key : String} {value : α}

/-- Writing what stands under a key already changes nothing. -/
theorem insert_eq_self_iff :
    entries.insert key value = entries ↔ entries.get? key = some value := by
  constructor
  · intro h
    rw [← h, get?_insert_self]
  · intro h
    induction entries with
    | nil => cases h
    | cons entry rest ih =>
      obtain ⟨k, v⟩ := entry
      rw [get?] at h
      rw [insert]
      split at h
      · next hkey =>
        obtain rfl := Option.some.inj h
        rw [if_pos hkey]
      · next hkey => rw [if_neg hkey, ih h]

/-- What several entries are written over does not matter for a key on which both agree. -/
theorem get?_foldl_insert_congr {vars others : Entries α} (h : vars.get? key = others.get? key) :
    Entries.get? (entries.foldl (fun vars (name, value) => vars.insert name value) vars) key =
      Entries.get?
        (entries.foldl (fun vars (name, value) => vars.insert name value) others) key := by
  induction entries generalizing vars others with
  | nil => exact h
  | cons entry rest ih =>
    rw [List.foldl_cons, List.foldl_cons]
    apply ih
    rw [get?_insert, get?_insert, h]

/-- Nor does it for a key that is written itself. -/
theorem get?_foldl_insert_of_mem (h : key ∈ entries.keys) (vars others : Entries α) :
    Entries.get? (entries.foldl (fun vars (name, value) => vars.insert name value) vars) key =
      Entries.get?
        (entries.foldl (fun vars (name, value) => vars.insert name value) others) key := by
  induction entries generalizing vars others with
  | nil => cases h
  | cons entry rest ih =>
    rw [List.foldl_cons, List.foldl_cons]
    rcases List.mem_cons.mp h with rfl | hrest
    · apply get?_foldl_insert_congr
      rw [get?_insert_self, get?_insert_self]
    · exact ih hrest _ _

end Entries

namespace Context

open Validation.Semantics (reservedIds)

variable {c after : Context} {id : String} {result : Json} {overflow : Overflow}

/-! ## What one result changes -/

/-- The place that the result of a step takes up. -/
def sizeOf (c : Context) (id : String) : Nat := ((c.result? id).map Json.textSize).getD 0

theorem resultsSize_insert (results : Entries Json) (id : String) (value : Json) :
    resultsSize (results.insert id value) + ((results.get? id).map Json.textSize).getD 0 =
      resultsSize results + value.textSize := by
  induction results with
  | nil => simp [Entries.insert, resultsSize]
  | cons entry rest ih =>
    obtain ⟨k, v⟩ := entry
    rw [Entries.insert, Entries.get?]
    split
    · simp only [resultsSize, Option.map_some, Option.getD_some]
      omega
    · simp only [resultsSize]
      omega

/-- The size of a context changes by the place of one result. -/
theorem totalSize_put (c : Context) (id : String) (result : Json) :
    (c.put id result).totalSize + c.sizeOf id = c.totalSize + (kept result).textSize := by
  have hresults := resultsSize_insert c.results id (kept result)
  simp only [totalSize, sizeOf, result?, put]
  omega

/-- A result can be seen under the name of its step only, unless something else hides it there. -/
theorem get?_bindings_put {name : String}
    (h : name ≠ id ∨ name ∈ c.inputs.keys ∨ name ∈ reservedIds) :
    (c.put id result).bindings.get? name = c.bindings.get? name := by
  simp only [bindings, put, Entries.get?_insert]
  split
  · rfl
  split
  · rfl
  split
  · rfl
  · next hsys hinputs hinput =>
    rcases h with hne | hmem | hreserved
    · apply Entries.get?_foldl_insert_congr
      rw [Entries.get?_insert, if_neg hne]
    · exact Entries.get?_foldl_insert_of_mem hmem _ _
    · simp [reservedIds, hsys, hinputs, hinput] at hreserved

theorem put_eq_self_iff : c.put id result = c ↔ c.result? id = some (kept result) := by
  rw [result?, ← Entries.insert_eq_self_iff]
  constructor
  · exact congrArg results
  · intro h
    rw [put, h]

/-- A result with which a context overflows is kept all the same, as it is or as a marker, in the
place of what the context had for the step. The results of other steps stay, and so do all
bindings but that of the step, which stays too if an input or a reserved name hides it; the size
changes by the place of the one result. The context is as before exactly if it had kept the same
value for the step already. -/
theorem overflowing_results_kept (h : c.store id result = (after, some overflow)) :
    after.result? id = some (kept result) ∧
      (∀ other, other ≠ id → after.result? other = c.result? other) ∧
      (∀ name, name ≠ id ∨ name ∈ c.inputs.keys ∨ name ∈ reservedIds →
        after.bindings.get? name = c.bindings.get? name) ∧
      after.totalSize + c.sizeOf id = c.totalSize + (kept result).textSize ∧
      overflow.total = after.totalSize ∧ maxContextSize < after.totalSize ∧
      (after = c ↔ c.result? id = some (kept result)) := by
  obtain ⟨rfl, hoverflow⟩ := Prod.mk.inj h
  obtain ⟨hlarge, htotal⟩ : maxContextSize < (c.put id result).totalSize ∧
      overflow = ⟨(c.put id result).totalSize⟩ := by
    unfold overflow? at hoverflow
    split at hoverflow
    · next hlarge => exact ⟨hlarge, (Option.some.inj hoverflow).symm⟩
    · cases hoverflow
  refine ⟨?_, ?_, fun name => get?_bindings_put, totalSize_put c id result, ?_, hlarge,
    put_eq_self_iff⟩
  · rw [result?_put, if_pos rfl]
  · intro other hne
    rw [result?_put, if_neg hne]
  · rw [htotal]

/-- A context that has no place for results. -/
def loaded : Context := initial burden "exec" "" cargo

theorem store_eq_overflow {c : Context} (h : c.inputs = cargo) (id : String) (result : Json) :
    ∃ overflow, c.store id result = (c.put id result, some overflow) := by
  refine ⟨_, Prod.ext rfl (if_pos (totalSize_of_cargo ?_))⟩
  exact h

/-- The result of a step gives way to a new one that does not fit either. -/
theorem overflowing_results_kept_in_burden :
    ∃ overflow, (loaded.put "begin" (.bool true)).store "begin" (.bool false) =
        ((loaded.put "begin" (.bool true)).put "begin" (.bool false), some overflow) ∧
      ((loaded.put "begin" (.bool true)).put "begin" (.bool false)).result? "begin" =
        some (.bool false) ∧
      (loaded.put "begin" (.bool true)).put "begin" (.bool false) ≠
        loaded.put "begin" (.bool true) := by
  obtain ⟨overflow, hstore⟩ :=
    store_eq_overflow (c := loaded.put "begin" (.bool true)) rfl "begin" (.bool false)
  obtain ⟨hkept, -, -, -, -, -, hsame⟩ := overflowing_results_kept hstore
  refine ⟨overflow, hstore, hkept, fun heq => ?_⟩
  cases hsame.mp heq

/-- A context that refuses a result is not as before: the result is there for references and
bindings to find, and it counts. -/
theorem refused_result_found_in_burden :
    ∃ after overflow, loaded.store "begin" (.bool true) = (after, some overflow) ∧
      loaded.result? "begin" = none ∧ after.result? "begin" = some (.bool true) ∧
      loaded.bindings.get? "begin" = none ∧ after.bindings.get? "begin" = some (.bool true) ∧
      after.totalSize = loaded.totalSize + 4 := by
  obtain ⟨overflow, hstore⟩ := store_eq_overflow (c := loaded) rfl "begin" (.bool true)
  have hsize := totalSize_put loaded "begin" (.bool true)
  rw [show loaded.sizeOf "begin" = 0 from rfl, Nat.add_zero,
    show (kept (.bool true)).textSize = 4 from rfl] at hsize
  exact ⟨_, overflow, hstore, rfl, rfl, rfl, rfl, hsize⟩

end Context

end Workflow
