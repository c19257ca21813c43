import Mathlib.Data.List.Find
import Workflow.Proofs.Graph.Plan

/-!
# Walks along dependencies

A search that has noted no edge from a node to itself is followed by walks in the other direction,
from the nodes in the order in which they would be executed. If no walk meets a second node, the
order respects all dependencies; the first one that does tells which dependency is in its way.
-/

namespace Workflow

open Dependent (dependsOn)

variable {α : Type} [Dependent α] {nodes : List α}

namespace Graph.Search

variable {next : String → List String} {fuel : Nat} {path : List String} {s : Search}

theorem discovered_follow_of_mem {other : String} (h : other ∈ s.discovered) :
    (follow next fuel path s other).discovered = s.discovered := by
  unfold follow
  rw [if_pos h]
  split <;> rfl

theorem discovered_foldl_follow_of_mem (others : List String) (s : Search)
    (h : ∀ other ∈ others, other ∈ s.discovered) :
    (others.foldl (follow next fuel path) s).discovered = s.discovered := by
  induction others generalizing s with
  | nil => rfl
  | cons other rest ih =>
    have hfollow : (follow next fuel path s other).discovered = s.discovered :=
      discovered_follow_of_mem (h other List.mem_cons_self)
    rw [List.foldl_cons, ih _ fun x hx => hfollow ▸ h x (List.mem_cons_of_mem other hx), hfollow]

/-- What has been discovered stays at the beginning, whatever is followed. -/
theorem prefix_foldl_follow
    (hvisit : ∀ path node s, s.discovered <+: (visit next fuel path node s).discovered)
    (others : List String) (s : Search) :
    s.discovered <+: (others.foldl (follow next fuel path) s).discovered := by
  induction others generalizing s with
  | nil => exact List.prefix_refl _
  | cons other rest ih =>
    refine List.IsPrefix.trans ?_ (ih (follow next fuel path s other))
    by_cases hknown : other ∈ s.discovered
    · simp only [discovered_follow_of_mem hknown, List.prefix_refl]
    · rw [follow, if_neg hknown]
      exact hvisit path other s

theorem prefix_visit (fuel : Nat) (path : List String) (node : String) (s : Search) :
    s.discovered <+: (visit next fuel path node s).discovered := by
  induction fuel generalizing path node s with
  | zero => exact List.prefix_refl _
  | succ fuel ih =>
    rw [visit_succ]
    split
    · exact List.prefix_refl _
    · exact (List.prefix_append s.discovered [node]).trans
        (prefix_foldl_follow ih (next node) (discover s node))

theorem prefix_visit_of_not_mem {node : String} (h : node ∉ s.discovered) :
    s.discovered ++ [node] <+: (visit next (fuel + 1) path node s).discovered := by
  rw [visit_succ, if_neg h]
  exact prefix_foldl_follow (prefix_visit fuel) (next node) (discover s node)

/-- The first node that is new is discovered next. -/
theorem prefix_foldl_follow_of_find? (others : List String) (s : Search) {other : String}
    (h : others.find? (· ∉ s.discovered) = some other) :
    s.discovered ++ [other] <+: (others.foldl (follow next (fuel + 1) path) s).discovered := by
  induction others generalizing s with
  | nil => simp at h
  | cons head rest ih =>
    rw [List.foldl_cons]
    by_cases hknown : head ∈ s.discovered
    · have hfollow : (follow next (fuel + 1) path s head).discovered = s.discovered :=
        discovered_follow_of_mem hknown
      rw [List.find?_cons_of_neg (by simpa using hknown), ← hfollow] at h
      exact hfollow ▸ ih _ h
    · rw [List.find?_cons_of_pos (by simpa using hknown)] at h
      obtain rfl : head = other := Option.some.inj h
      refine List.IsPrefix.trans ?_ (prefix_foldl_follow (prefix_visit (fuel + 1)) rest _)
      rw [follow, if_neg hknown]
      exact prefix_visit_of_not_mem hknown

/-- The second node that a walk meets, if each of the nodes is walked from and no walk meets a node
that another one has met. -/
def secondMet? (next : String → List String) (fuel : Nat) (s : Search) : List String → Option String
  | [] => none
  | node :: rest =>
    let walked := visit next fuel [] node s
    match (walked.discovered.drop s.discovered.length).drop 1 with
    | second :: _ => some second
    | [] => secondMet? next fuel walked rest

end Graph.Search

namespace Plan

open Graph.Search

/-- A dependency stands in the wrong place exactly if a walk along dependencies meets it second. -/
theorem misplaced?_eq_secondMet? {fuel : Nat} {ids placed : List String} {s : Graph.Search}
    (hplaced : ∀ x, x ∈ placed ↔ x ∈ s.discovered) (hnodup : ids.Nodup)
    (hnew : ∀ id ∈ ids, id ∉ s.discovered) (hloop : ∀ id ∈ ids, id ∉ dependenciesOf nodes id) :
    misplaced? nodes placed ids = secondMet? (dependenciesOf nodes) (fuel + 2) s ids := by
  induction ids generalizing placed s with
  | nil => rfl
  | cons id rest ih =>
    have hid : id ∉ s.discovered := hnew id List.mem_cons_self
    have hfind : (dependenciesOf nodes id).find? (· ∉ placed) =
        (dependenciesOf nodes id).find? (· ∉ (discover s id).discovered) := by
      refine List.find?_congr fun x hx => ?_
      have hne : x ≠ id := fun heq => hloop id List.mem_cons_self (heq ▸ hx)
      simp [discover, hplaced, hne]
    rw [misplaced?, secondMet?, hfind]
    cases hmet : (dependenciesOf nodes id).find? (· ∉ (discover s id).discovered) with
    | some dependency =>
      obtain ⟨tail, htail⟩ : s.discovered ++ [id] ++ [dependency] <+:
          (visit (dependenciesOf nodes) (fuel + 2) [] id s).discovered := by
        rw [visit_succ, if_neg hid]
        exact prefix_foldl_follow_of_find? _ (discover s id) hmet
      simp [← htail]
    | none =>
      have hwalked : (visit (dependenciesOf nodes) (fuel + 2) [] id s).discovered =
          s.discovered ++ [id] := by
        rw [visit_succ, if_neg hid]
        refine discovered_foldl_follow_of_mem _ (discover s id) fun x hx => ?_
        simpa using List.find?_eq_none.mp hmet x hx
      obtain ⟨hhead, hrest⟩ := List.nodup_cons.mp hnodup
      simp only [hwalked, List.drop_left, List.drop_succ_cons, List.drop_zero]
      refine ih (fun x => ?_) hrest (fun x hx => ?_)
        fun x hx => hloop x (List.mem_cons_of_mem id hx)
      · rw [hwalked]
        simp [hplaced, or_comm]
      · rw [hwalked]
        have hne : x ≠ id := fun heq => hhead (heq ▸ hx)
        simp [hnew x (List.mem_cons_of_mem id hx), hne]

/-- The id that is reported for a cycle: the first one to be discovered that depends on itself or,
if none does, the second one that a walk along dependencies meets, if it is walked from the nodes in
the order from the last to the first finished one. -/
def offender? (nodes : List α) : Option String :=
  let g := Graph.ofNodes nodes
  let search := ofRoots g.dependents (g.ids.length + 1) g.ids
  (search.discovered.find? fun id => id ∈ g.dependents id).or
    (secondMet? (dependenciesOf nodes) (nodes.length + 2) .empty search.finished)

theorem offender?_of_order (hnodup : (nodes.map Dependent.id).Nodup)
    (hknown : ∀ node ∈ nodes, ∀ dependency ∈ dependsOn node, dependency ∈ nodes.map Dependent.id)
    {id : String} (h : order nodes = .error id) : offender? nodes = some id := by
  unfold order at h
  simp only at h
  unfold offender?
  split at h
  · next found hfind =>
    cases h
    simp only [hfind, Option.some_or]
  next hfind =>
  simp only [hfind, Option.none_or]
  split at h
  · next found hmisplaced =>
    cases h
    have hproper := Graph.proper_ofNodes nodes
    have hclosed := closed_dependents nodes
    have hperm := perm_finished_ofRoots hclosed (Nat.lt_succ_self _) hproper.nodup
    have hsound := (extends_ofRoots hclosed (Nat.lt_succ_self _) fun _ h => h).sound
    rw [← hmisplaced]
    refine (misplaced?_eq_secondMet? (by simp [Graph.Search.empty])
      (hperm.nodup_iff.mpr hproper.nodup) (by simp [Graph.Search.empty])
      fun other hother hself => ?_).symm
    have hloop := Graph.mem_dependents.mpr (edge_of_mem_dependenciesOf hnodup hknown hself)
    have hnone := List.find?_eq_none.mp hfind other ((hsound.known other).mpr (Or.inl hother))
    exact hnone (decide_eq_true hloop)
  · cases h

end Plan

end Workflow
