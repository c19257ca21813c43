import Mathlib.Algebra.GroupWithZero.Nat
import Workflow.Proofs.Run.Capacity
import Workflow.Proofs.Run.Settlement

/-!
# What a context keeps

A context keeps a result as it is, or a marker with its size if it is too large. So however many
results are stored in it, over old ones or beside them, none that it keeps is too large, and if it
has not overflowed, neither is their total.
-/

namespace Workflow

namespace Context

/-- The context after several results have been stored, whether or not it has overflowed. -/
def storeAll (c : Context) (calls : List (String × Json)) : Context :=
  calls.foldl (fun c call => (c.store call.1 call.2).1) c

/-- No result that a context keeps is too large. -/
def Bounded (c : Context) : Prop :=
  ∀ id value, c.result? id = some value → value.text.utf8ByteSize ≤ maxResultSize

variable {c : Context} {id : String} {result : Json}

theorem resultsSize_eq (results : Entries Json) :
    resultsSize results = (results.values.map fun value => value.text.utf8ByteSize).sum := by
  induction results with
  | nil => rfl
  | cons entry rest ih =>
    rw [resultsSize, ih, Json.textSize_eq]
    rfl

/-- The size of a context is counted in bytes of text. -/
theorem totalSize_eq (c : Context) :
    c.totalSize = (c.results.values.map fun value => value.text.utf8ByteSize).sum +
      (Json.obj c.inputs).text.utf8ByteSize := by
  rw [totalSize, resultsSize_eq, Json.textSize_eq]

/-- A marker tells the size of what it stands for. -/
theorem field?_marker (size : Nat) : (marker size).field? "_original_size" = some (.nat size) := rfl

theorem bounded_initial (d : Definition) (executionId time : String) (inputs : Entries Json) :
    (initial d executionId time inputs).Bounded := by
  intro id value hvalue
  cases hvalue

/-- Storing one more result keeps a context bounded, even if the context overflows. -/
theorem Bounded.store (h : c.Bounded) (id : String)
    (hsize : result.text.utf8ByteSize < 2 ^ 64) : (c.store id result).1.Bounded := by
  intro other value hvalue
  have hput : (c.put id result).result? other = some value := hvalue
  rw [result?_put] at hput
  split at hput
  · obtain rfl := Option.some.inj hput
    rw [← Json.textSize_eq] at hsize ⊢
    exact textSize_kept_le hsize
  · exact h other value hput

theorem Bounded.storeAll (h : c.Bounded) {calls : List (String × Json)}
    (hsizes : ∀ call ∈ calls, call.2.text.utf8ByteSize < 2 ^ 64) : (c.storeAll calls).Bounded := by
  induction calls generalizing c with
  | nil => exact h
  | cons call rest ih =>
    obtain ⟨hsize, hrest⟩ := List.forall_mem_cons.mp hsizes
    exact ih (h.store call.1 hsize) hrest

/-- What a context keeps of a result that is stored in it. -/
structure Keeps (c : Context) (id : String) (result : Json) : Prop where
  /-- A result that is not too large is kept as it is. -/
  verbatim : result.text.utf8ByteSize ≤ maxResultSize → c.result? id = some result
  /-- Any other is replaced by a marker with its size. -/
  marked : maxResultSize < result.text.utf8ByteSize → ∃ value, c.result? id = some value ∧
    value.field? "_truncated" = some (.bool true) ∧
      value.field? "_original_size" = some (.nat result.text.utf8ByteSize)

theorem keeps_store (c : Context) (id : String) (result : Json) :
    (c.store id result).1.Keeps id result := by
  have hput : (c.store id result).1.result? id = some (kept result) :=
    (result?_put c id id result).trans (if_pos rfl)
  constructor
  · intro hsmall
    rw [hput, kept_of_le (Json.textSize_eq result ▸ hsmall)]
  · intro hlarge
    rw [hput, kept_of_lt (Json.textSize_eq result ▸ hlarge), Json.textSize_eq]
    exact ⟨_, rfl, rfl, field?_marker _⟩

/-- However many results have been stored in a context since the beginning of a run, when one more
is stored none that is kept is too large. Unless the context overflows, the total is not too large
either, which counts the texts of all results and of the inputs. The result is kept as it is, or a
marker with its size if it is too large. The size of a text is a number of 64 bits. -/
theorem stored_sizes_bounded (d : Definition) (executionId time : String) (inputs : Entries Json)
    (calls : List (String × Json)) (id : String) (result : Json)
    (hsizes : ∀ call ∈ calls ++ [(id, result)], call.2.text.utf8ByteSize < 2 ^ 64) :
    ∃ after overflow,
      ((initial d executionId time inputs).storeAll calls).store id result = (after, overflow) ∧
        after.Bounded ∧ (overflow = none → after.totalSize ≤ maxContextSize) ∧
          after.totalSize = (after.results.values.map fun value => value.text.utf8ByteSize).sum +
            (Json.obj after.inputs).text.utf8ByteSize ∧
          after.Keeps id result := by
  obtain ⟨hcalls, hlast⟩ := List.forall_mem_append.mp hsizes
  have hbefore : ((initial d executionId time inputs).storeAll calls).Bounded :=
    (bounded_initial d executionId time inputs).storeAll hcalls
  refine ⟨_, _, rfl, ?_, ?_, totalSize_eq _, keeps_store _ id result⟩
  · exact hbefore.store id (hlast _ (List.mem_singleton_self _))
  · exact (overflow?_eq_none_iff _).mp

/-- A result that is too large is kept as a marker in the place of one that was not. -/
theorem stored_sizes_bounded_for_bulk :
    (∀ call ∈ [("draft", Json.bool true)] ++ [("draft", .str (Json.bulk maxResultSize))],
        call.2.text.utf8ByteSize < 2 ^ 64) ∧
      ∃ after overflow,
        ((initial detour "exec" "" []).storeAll [("draft", .bool true)]).store "draft"
            (.str (Json.bulk maxResultSize)) = (after, overflow) ∧
          after.Bounded ∧ (overflow = none → after.totalSize ≤ maxContextSize) ∧
            ∃ value, after.result? "draft" = some value ∧
              value.field? "_original_size" = some (.nat 1048578) := by
  have hbulk : (Json.str (Json.bulk maxResultSize)).text.utf8ByteSize = 1048578 := by
    rw [← Json.textSize_eq, Json.textSize, Json.quotedSize_bulk]
    rfl
  have hsizes : ∀ call ∈ [("draft", Json.bool true)] ++
      [("draft", .str (Json.bulk maxResultSize))], call.2.text.utf8ByteSize < 2 ^ 64 := by
    rw [List.forall_mem_append, List.forall_mem_singleton, List.forall_mem_singleton, hbulk]
    decide +kernel
  obtain ⟨after, overflow, hstore, hbounded, hfits, -, hkeeps⟩ :=
    stored_sizes_bounded detour "exec" "" [] _ _ _ hsizes
  obtain ⟨value, hvalue, -, hsize⟩ := hkeeps.marked (by rw [hbulk]; decide)
  rw [hbulk] at hsize
  exact ⟨hsizes, after, overflow, hstore, hbounded, hfits, value, hvalue, hsize⟩

end Context

end Workflow
