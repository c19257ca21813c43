import Mathlib.Data.List.Chain
import Mathlib.Data.List.Nodup
import Mathlib.Logic.Relation
import Workflow.Graph.Search

/-!
# What a depth-first search finds

A search finishes with every node that it discovers, and with a node only after all that follows on
it unless it closes a cycle on the way. So the nodes from the last to the first finished one stand
in an order that respects the edges if no cycle has been noted. Every cycle that is noted is a
simple cycle of edges, and what follows on a node that is finished later leads back to that node.
-/

namespace Workflow.Graph

open Relation

/-- No node leads back to itself. -/
def Acyclic (next : String → List String) : Prop :=
  ∀ a, ¬ TransGen (fun a b => b ∈ next a) a a

/-- Different nodes each of which leads to the next one, and the last one to the first. -/
structure SimpleCycle (leads : String → String → Prop) (cycle : List String) : Prop where
  nodup : cycle.Nodup
  linked : cycle.IsChain leads
  closed : ∃ first last, cycle.head? = some first ∧ cycle.getLast? = some last ∧ leads last first

/-- In a chain every node leads to all that stand behind it. -/
theorem pairwise_transGen {leads : String → String → Prop} {nodes : List String}
    (h : nodes.IsChain leads) : nodes.Pairwise (TransGen leads) :=
  (h.imp fun _ _ => TransGen.single).pairwise

theorem SimpleCycle.exists_transGen {leads : String → String → Prop} {cycle : List String}
    (h : SimpleCycle leads cycle) : ∃ a, TransGen leads a a := by
  obtain ⟨first, last, hfirst, hlast, hback⟩ := h.closed
  obtain ⟨rest, rfl⟩ := List.head?_eq_some_iff.mp hfirst
  refine ⟨last, ?_⟩
  rcases List.mem_cons.mp (List.mem_of_getLast? hlast) with rfl | hrest
  · exact TransGen.single hback
  · exact TransGen.head hback (List.rel_of_pairwise_cons (pairwise_transGen h.linked) hrest)

namespace Search

/-- Every node stands before all that follow on it. -/
def Descending (next : String → List String) : List String → Prop
  | [] => True
  | node :: rest => (∀ other ∈ next node, other ∈ rest) ∧ Descending next rest

/-- What holds of a search that stands at the end of a path: it has discovered what it has
finished with and what lies on the path, and nothing else. -/
structure Sound (ids path : List String) (s : Search) : Prop where
  known : ∀ x, x ∈ s.discovered ↔ x ∈ s.finished ∨ x ∈ path
  apart : ∀ x ∈ path, x ∉ s.finished
  finished_nodup : s.finished.Nodup
  path_nodup : path.Nodup
  within : ∀ x ∈ s.discovered, x ∈ ids

/-- What a search has become after some more nodes, when it stands at the end
of the same path again. -/
structure Extends (next : String → List String) (ids path : List String) (s t : Search) : Prop where
  sound : Sound ids path t
  discovered : ∀ x ∈ s.discovered, x ∈ t.discovered
  finished : ∀ x ∈ s.finished, x ∈ t.finished
  cycles : t.cycles = [] → s.cycles = []
  descending : t.cycles = [] → Descending next s.finished → Descending next t.finished

variable {next : String → List String} {ids path : List String} {s t u : Search}

theorem Extends.refl (h : Sound ids path s) : Extends next ids path s s :=
  ⟨h, fun _ => id, fun _ => id, id, fun _ => id⟩

theorem Extends.trans (hst : Extends next ids path s t) (htu : Extends next ids path t u) :
    Extends next ids path s u where
  sound := htu.sound
  discovered x hx := htu.discovered x (hst.discovered x hx)
  finished x hx := htu.finished x (hst.finished x hx)
  cycles h := hst.cycles (htu.cycles h)
  descending h hs := htu.descending h (hst.descending (htu.cycles h) hs)

/-- Notes the cycle that an edge back to a node of the path closes. -/
def close (s : Search) (path : List String) (other : String) : Search :=
  { s with cycles := s.cycles ++ [path.dropWhile (· ≠ other)] }

/-- What a search does with a node that follows on the end of the path. -/
def follow (next : String → List String) (fuel : Nat) (path : List String) (s : Search)
    (other : String) : Search :=
  if other ∈ s.discovered then if other ∈ s.finished then s else close s path other
  else visit next fuel path other s

def discover (s : Search) (node : String) : Search :=
  { s with discovered := s.discovered ++ [node] }

def finish (s : Search) (node : String) : Search := { s with finished := node :: s.finished }

/-- A visit discovers a node, follows its edges and finishes with it. -/
theorem visit_succ (next : String → List String) (fuel : Nat) (path : List String) (node : String)
    (s : Search) :
    visit next (fuel + 1) path node s =
      if node ∈ s.discovered then s
      else finish ((next node).foldl (follow next fuel (path ++ [node])) (discover s node)) node :=
  rfl

theorem Sound.discover (h : Sound ids path s) {node : String} (hnew : node ∉ s.discovered)
    (hnode : node ∈ ids) :
    Sound ids (path ++ [node]) (discover s node) := by
  have hfinished : node ∉ s.finished := fun hin => hnew ((h.known node).mpr (Or.inl hin))
  have hpath : node ∉ path := fun hin => hnew ((h.known node).mpr (Or.inr hin))
  constructor
  · intro x
    simp [Search.discover, h.known x, or_assoc]
  · intro x hx
    rcases List.mem_append.mp hx with hold | hnode
    · exact h.apart x hold
    · rw [List.mem_singleton.mp hnode]
      exact hfinished
  · exact h.finished_nodup
  · exact List.Nodup.append h.path_nodup (List.nodup_singleton node)
      (by simpa [List.disjoint_singleton] using hpath)
  · intro x hx
    rcases List.mem_append.mp hx with hold | hx
    · exact h.within x hold
    · rw [List.mem_singleton.mp hx]
      exact hnode

/-- Finishing with the last node of a path leads back along the path. -/
theorem Sound.finish {node : String} (h : Sound ids (path ++ [node]) s) :
    Sound ids path (finish s node) := by
  obtain ⟨hpath, -, hdisjoint⟩ := List.nodup_append'.mp h.path_nodup
  have hnode : node ∉ path := fun hin => hdisjoint hin (List.mem_singleton_self node)
  constructor
  · intro x
    simp only [Search.finish, h.known x, List.mem_append, List.mem_cons]
    tauto
  · intro x hx
    have hne : x ≠ node := fun heq => hnode (heq ▸ hx)
    simp [Search.finish, hne, h.apart x (List.mem_append_left [node] hx)]
  · exact List.nodup_cons.mpr ⟨h.apart node (by simp), h.finished_nodup⟩
  · exact hpath
  · exact h.within

/-- A path on which a node can follow leaves fuel for it. -/
theorem Sound.length_path_le (h : Sound ids path s) : path.length ≤ ids.length :=
  List.Nodup.length_le_of_subset h.path_nodup fun x hx => h.within x ((h.known x).mpr (Or.inr hx))

theorem Extends.finish {node : String} (h : Extends next ids (path ++ [node]) (discover s node) t)
    (hnext : t.cycles = [] → ∀ other ∈ next node, other ∈ t.finished) :
    Extends next ids path s (finish t node) where
  sound := h.sound.finish
  discovered x hx := h.discovered x (List.mem_append_left [node] hx)
  finished x hx := List.mem_cons_of_mem node (h.finished x hx)
  cycles := h.cycles
  descending hcycles hdescending := ⟨hnext hcycles, h.descending hcycles hdescending⟩

/-- With so much fuel, a visit extends the search and discovers its node. -/
def Visits (next : String → List String) (ids : List String) (fuel : Nat) : Prop :=
  ∀ path node s, Sound ids path s → node ∈ ids → ids.length < path.length + fuel →
    Extends next ids path s (visit next fuel path node s) ∧
      node ∈ (visit next fuel path node s).discovered

theorem Sound.close (h : Sound ids path s) (walked : List String) (other : String) :
    Sound ids path (close s walked other) :=
  ⟨h.known, h.apart, h.finished_nodup, h.path_nodup, h.within⟩

/-- Following an edge discovers its target, and finishes with it unless that closes a cycle. -/
theorem extends_follow {fuel : Nat} (hvisit : Visits next ids fuel) (hs : Sound ids path s)
    {other : String} (hother : other ∈ ids) (hfuel : ids.length < path.length + fuel) :
    Extends next ids path s (follow next fuel path s other) ∧
      other ∈ (follow next fuel path s other).discovered ∧
      ((follow next fuel path s other).cycles = [] →
        other ∈ (follow next fuel path s other).finished) := by
  by_cases hknown : other ∈ s.discovered
  · by_cases hfinished : other ∈ s.finished
    · simp only [follow, hknown, hfinished, if_true]
      exact ⟨Extends.refl hs, trivial, fun _ => trivial⟩
    · simp only [follow, hknown, hfinished, if_true, if_false]
      have hnoted : ∀ {P : Prop}, (close s path other).cycles = [] → P := fun h => by
        simp [close] at h
      exact ⟨⟨hs.close path other, fun _ => id, fun _ => id, hnoted, hnoted⟩, hknown, hnoted⟩
  · simp only [follow, hknown, if_false]
    obtain ⟨hextends, hdiscovered⟩ := hvisit path other s hs hother hfuel
    refine ⟨hextends, hdiscovered, fun _ => ?_⟩
    rcases (hextends.sound.known other).mp hdiscovered with hfinished | hpath
    · exact hfinished
    · exact absurd ((hs.known other).mpr (Or.inr hpath)) hknown

theorem extends_foldl_follow {fuel : Nat} (hvisit : Visits next ids fuel)
    (hfuel : ids.length < path.length + fuel) (others : List String)
    (hothers : ∀ x ∈ others, x ∈ ids) (hs : Sound ids path s) :
    Extends next ids path s (others.foldl (follow next fuel path) s) ∧
      (∀ x ∈ others, x ∈ (others.foldl (follow next fuel path) s).discovered) ∧
      ((others.foldl (follow next fuel path) s).cycles = [] →
        ∀ x ∈ others, x ∈ (others.foldl (follow next fuel path) s).finished) := by
  induction others generalizing s with
  | nil =>
    exact ⟨Extends.refl hs, fun x hx => absurd hx List.not_mem_nil,
      fun _ x hx => absurd hx List.not_mem_nil⟩
  | cons other rest ih =>
    obtain ⟨hfollow, hknown, hfinished⟩ :=
      extends_follow hvisit hs (hothers other List.mem_cons_self) hfuel
    obtain ⟨hrest, hdiscovered, hall⟩ :=
      ih (fun x hx => hothers x (List.mem_cons_of_mem other hx)) hfollow.sound
    refine ⟨hfollow.trans hrest, fun x hx => ?_, fun hcycles x hx => ?_⟩
    · rcases List.mem_cons.mp hx with rfl | hx
      · exact hrest.discovered _ hknown
      · exact hdiscovered x hx
    · rcases List.mem_cons.mp hx with rfl | hx
      · exact hrest.finished _ (hfinished (hrest.cycles hcycles))
      · exact hall hcycles x hx

theorem length_lt_of_snoc {fuel : Nat} (node : String) (h : ids.length < path.length + (fuel + 1)) :
    ids.length < (path ++ [node]).length + fuel := by
  rw [List.length_append, List.length_singleton]
  omega

/-- A visit extends the search and discovers its node. The path never repeats
a node, so the fuel lasts. -/
theorem visits (hclosed : ∀ a ∈ ids, ∀ b ∈ next a, b ∈ ids) (fuel : Nat) :
    Visits next ids fuel := by
  induction fuel with
  | zero =>
    intro path node s hs _ hfuel
    have := hs.length_path_le
    omega
  | succ fuel ih =>
    intro path node s hs hnode hfuel
    rw [visit_succ]
    by_cases hknown : node ∈ s.discovered
    · rw [if_pos hknown]
      exact ⟨Extends.refl hs, hknown⟩
    · rw [if_neg hknown]
      obtain ⟨hfold, -, hall⟩ :=
        extends_foldl_follow ih (length_lt_of_snoc node hfuel) (next node) (hclosed node hnode)
        (hs.discover hknown hnode)
      exact ⟨Extends.finish hfold hall, hfold.discovered node (by simp [discover])⟩

/-! ## Invariants

A search takes three kinds of steps at the end of a path whose nodes follow on each other. What all
three keep holds of every visit.
-/

/-- The nodes of a path follow on each other. -/
abbrev Linked (next : String → List String) (path : List String) : Prop :=
  path.IsChain fun a b => b ∈ next a

/-- What every step of a search keeps. -/
structure Invariant (next : String → List String) (ids : List String)
    (holds : List String → Search → Prop) : Prop where
  discover : ∀ path node s, Sound ids path s → node ∉ s.discovered → holds path s →
    holds (path ++ [node]) (discover s node)
  /-- An edge from the last node of the path leads back to the path. -/
  close : ∀ path node other s, Sound ids (path ++ [node]) s → Linked next (path ++ [node]) →
    other ∈ next node → other ∈ path ++ [node] → holds (path ++ [node]) s →
    holds (path ++ [node]) (close s (path ++ [node]) other)
  /-- All that follows on the last node of the path is known. -/
  finish : ∀ path node s, Sound ids (path ++ [node]) s → Linked next (path ++ [node]) →
    (∀ other ∈ next node, other ∈ s.discovered) → holds (path ++ [node]) s →
    holds path (finish s node)

theorem Linked.snoc {node other : String} (h : Linked next (path ++ [node]))
    (hother : other ∈ next node) : Linked next (path ++ [node] ++ [other]) :=
  List.IsChain.append h (List.isChain_singleton other) (by simpa using hother)

theorem Invariant.visit {holds : List String → Search → Prop} (h : Invariant next ids holds)
    (hclosed : ∀ a ∈ ids, ∀ b ∈ next a, b ∈ ids) (fuel : Nat) :
    ∀ path node s, Sound ids path s → node ∈ ids → ids.length < path.length + fuel →
      Linked next (path ++ [node]) → holds path s → holds path (visit next fuel path node s) := by
  induction fuel with
  | zero => exact fun _ _ _ _ _ _ _ hs => hs
  | succ fuel ih =>
    intro path node s hs hnode hfuel hlinked hholds
    rw [visit_succ]
    by_cases hknown : node ∈ s.discovered
    · rwa [if_pos hknown]
    rw [if_neg hknown]
    have hlength := length_lt_of_snoc node hfuel
    have hvisits : Visits next ids fuel := visits hclosed fuel
    have hfold : ∀ (others : List String) (t : Search), (∀ x ∈ others, x ∈ next node) →
        Sound ids (path ++ [node]) t → holds (path ++ [node]) t →
        holds (path ++ [node]) (others.foldl (follow next fuel (path ++ [node])) t) := by
      intro others
      induction others with
      | nil => exact fun _ _ _ ht => ht
      | cons other rest ihRest =>
        intro t hothers ht hholds
        have hother : other ∈ next node := hothers other List.mem_cons_self
        have hid : other ∈ ids := hclosed node hnode other hother
        refine ihRest _ (fun x hx => hothers x (List.mem_cons_of_mem other hx))
          (extends_follow hvisits ht hid hlength).1.sound ?_
        unfold follow
        split
        · next hdiscovered =>
          split
          · exact hholds
          · next hopen =>
            -- What is known and not finished lies on the path.
            have hon := ((ht.known other).mp hdiscovered).resolve_left hopen
            exact h.close path node other t ht hlinked hother hon hholds
        · exact ih _ other t ht hid hlength (hlinked.snoc hother) hholds
    have hdiscover := hs.discover hknown hnode
    obtain ⟨hextends, hall, -⟩ :=
      extends_foldl_follow hvisits hlength (next node) (hclosed node hnode) hdiscover
    exact h.finish path node _ hextends.sound hlinked hall
      (hfold (next node) _ (fun _ => id) hdiscover (h.discover path node s hs hknown hholds))

/-! ## Orders in which nodes are finished -/

/-- A descending order holds all that follows on its nodes. -/
theorem Descending.closed {order : List String} (h : Descending next order) :
    ∀ a ∈ order, ∀ b ∈ next a, b ∈ order := by
  induction order with
  | nil => exact fun a ha => absurd ha List.not_mem_nil
  | cons node rest ih =>
    intro a ha b hb
    rcases List.mem_cons.mp ha with rfl | ha
    · exact List.mem_cons_of_mem _ (h.1 b hb)
    · exact List.mem_cons_of_mem _ (ih h.2 a ha b hb)

theorem mem_of_reflTransGen {nodes : List String} (hclosed : ∀ a ∈ nodes, ∀ b ∈ next a, b ∈ nodes)
    {a b : String} (ha : a ∈ nodes) (hab : ReflTransGen (fun a b => b ∈ next a) a b) :
    b ∈ nodes := by
  induction hab with
  | refl => exact ha
  | tail _ hstep ih => exact hclosed _ ih _ hstep

/-- No node of a descending order leads back to itself. -/
theorem Descending.not_transGen {order : List String} (h : Descending next order) :
    ∀ a ∈ order, ¬ TransGen (fun a b => b ∈ next a) a a := by
  induction order with
  | nil => exact fun a ha => absurd ha List.not_mem_nil
  | cons node rest ih =>
    intro a ha hcycle
    rcases List.mem_cons.mp ha with rfl | ha
    · obtain ⟨other, hother, hback⟩ := TransGen.head'_iff.mp hcycle
      exact ih h.2 a (mem_of_reflTransGen h.2.closed (h.1 other hother) hback) hcycle
    · exact ih h.2 a ha hcycle

/-- Edges that a descending order of all their sources respects have no cycle. -/
theorem Descending.acyclic {order : List String} (h : Descending next order)
    (hall : ∀ a, next a ≠ [] → a ∈ order) : Acyclic next := by
  intro a hcycle
  obtain ⟨other, hother, -⟩ := TransGen.head'_iff.mp hcycle
  exact h.not_transGen a (hall a (List.ne_nil_of_mem hother)) hcycle

/-! ## Searches from several roots -/

theorem sound_empty (ids : List String) : Sound ids [] empty := by
  constructor <;> simp [empty]

theorem extends_foldl_visit {fuel : Nat} (hclosed : ∀ a ∈ ids, ∀ b ∈ next a, b ∈ ids)
    (hfuel : ids.length < fuel) (roots : List String) (hroots : ∀ x ∈ roots, x ∈ ids)
    (hs : Sound ids [] s) :
    Extends next ids [] s (roots.foldl (fun s root => visit next fuel [] root s) s) ∧
      ∀ x ∈ roots, x ∈ (roots.foldl (fun s root => visit next fuel [] root s) s).finished := by
  induction roots generalizing s with
  | nil => exact ⟨Extends.refl hs, fun x hx => absurd hx List.not_mem_nil⟩
  | cons root rest ih =>
    obtain ⟨hvisit, hdiscovered⟩ :=
      visits hclosed fuel [] root s hs (hroots root List.mem_cons_self) (by simpa using hfuel)
    obtain ⟨hrest, hall⟩ := ih (fun x hx => hroots x (List.mem_cons_of_mem root hx)) hvisit.sound
    refine ⟨hvisit.trans hrest, fun x hx => ?_⟩
    rcases List.mem_cons.mp hx with rfl | hx
    · have hfinished := (hvisit.sound.known x).mp hdiscovered
      exact hrest.finished x (by simpa using hfinished)
    · exact hall x hx

theorem extends_ofRoots {fuel : Nat} (hclosed : ∀ a ∈ ids, ∀ b ∈ next a, b ∈ ids)
    (hfuel : ids.length < fuel) {roots : List String} (hroots : ∀ x ∈ roots, x ∈ ids) :
    Extends next ids [] empty (ofRoots next fuel roots) :=
  (extends_foldl_visit hclosed hfuel roots hroots (sound_empty ids)).1

/-- A search from all nodes finishes with each of them once. -/
theorem perm_finished_ofRoots {fuel : Nat} (hclosed : ∀ a ∈ ids, ∀ b ∈ next a, b ∈ ids)
    (hfuel : ids.length < fuel) (hnodup : ids.Nodup) :
    (ofRoots next fuel ids).finished.Perm ids := by
  obtain ⟨hextends, hall⟩ := extends_foldl_visit hclosed hfuel ids (fun _ => id) (sound_empty ids)
  refine (List.perm_ext_iff_of_nodup hextends.sound.finished_nodup hnodup).mpr fun x =>
    ⟨fun hx => ?_, hall x⟩
  exact hextends.sound.within x ((hextends.sound.known x).mpr (Or.inl hx))

/-- A search that notes no cycle finishes with each node after all that follows on it. -/
theorem descending_ofRoots {fuel : Nat} (hclosed : ∀ a ∈ ids, ∀ b ∈ next a, b ∈ ids)
    (hfuel : ids.length < fuel) {roots : List String} (hroots : ∀ x ∈ roots, x ∈ ids)
    (hcycles : (ofRoots next fuel roots).cycles = []) :
    Descending next (ofRoots next fuel roots).finished :=
  (extends_ofRoots hclosed hfuel hroots).descending hcycles trivial

/-- What the steps of a search keep holds of a search from several roots. -/
theorem Invariant.ofRoots {holds : List String → Search → Prop} (h : Invariant next ids holds)
    (hclosed : ∀ a ∈ ids, ∀ b ∈ next a, b ∈ ids) {fuel : Nat} (hfuel : ids.length < fuel)
    {roots : List String} (hroots : ∀ x ∈ roots, x ∈ ids) (hempty : holds [] empty) :
    holds [] (ofRoots next fuel roots) := by
  have hfold : ∀ (roots : List String) (s : Search), (∀ x ∈ roots, x ∈ ids) → Sound ids [] s →
      holds [] s → holds [] (roots.foldl (fun s root => Search.visit next fuel [] root s) s) := by
    intro roots
    induction roots with
    | nil => exact fun _ _ _ hs => hs
    | cons root rest ih =>
      intro s hroots hs hholds
      have hroot := hroots root List.mem_cons_self
      have hlength : ids.length < ([] : List String).length + fuel := by simpa using hfuel
      exact ih _ (fun x hx => hroots x (List.mem_cons_of_mem root hx))
        (visits hclosed fuel [] root s hs hroot hlength).1.sound
        (h.visit hclosed fuel [] root s hs hroot hlength (List.isChain_singleton root) hholds)
  exact hfold roots empty hroots (sound_empty ids) hempty

/-! ## Cycles -/

/-- What is left of a list from the first place of one of its members on. -/
theorem exists_dropWhile_ne {path : List String} {other : String} (h : other ∈ path) :
    ∃ before after, path = before ++ other :: after ∧
      path.dropWhile (· ≠ other) = other :: after := by
  induction path with
  | nil => exact absurd h List.not_mem_nil
  | cons head rest ih =>
    by_cases heq : head = other
    · subst heq
      exact ⟨[], rest, rfl, by simp⟩
    · obtain ⟨before, after, rfl, hdrop⟩ :=
        ih ((List.mem_cons.mp h).resolve_left fun heq' => heq heq'.symm)
      exact ⟨head :: before, after, rfl, by simpa [heq] using hdrop⟩

/-- An edge back to the path closes a simple cycle. -/
theorem simpleCycle_of_back {node other : String} (hnodup : (path ++ [node]).Nodup)
    (hlinked : Linked next (path ++ [node])) (hedge : other ∈ next node)
    (hon : other ∈ path ++ [node]) :
    SimpleCycle (fun a b => b ∈ next a) ((path ++ [node]).dropWhile (· ≠ other)) := by
  obtain ⟨before, after, hsplit, hdrop⟩ := exists_dropWhile_ne hon
  have hlast : (path ++ [node]).getLast? = some node := List.getLast?_concat
  rw [hdrop]
  rw [hsplit] at hnodup hlinked hlast
  refine ⟨(List.nodup_append.mp hnodup).2.1, List.IsChain.right_of_append hlinked, other, node, rfl,
    ?_, hedge⟩
  rwa [List.getLast?_append_of_ne_nil _ (List.cons_ne_nil other after)] at hlast

/-- Every cycle that has been noted is one. -/
theorem invariant_cycles (next : String → List String) (ids : List String) :
    Invariant next ids fun _ s => ∀ cycle ∈ s.cycles,
    SimpleCycle (fun a b => b ∈ next a) cycle where
  discover _ _ _ _ _ hs := hs
  close path node other s hsound hlinked hedge hon hs cycle hcycle := by
    rcases List.mem_append.mp hcycle with hold | hnew
    · exact hs cycle hold
    · rw [List.mem_singleton.mp hnew]
      exact simpleCycle_of_back hsound.path_nodup hlinked hedge hon
  finish _ _ _ _ _ _ hs := hs

theorem simpleCycle_of_mem {fuel : Nat} (hclosed : ∀ a ∈ ids, ∀ b ∈ next a, b ∈ ids)
    (hfuel : ids.length < fuel) {roots : List String} (hroots : ∀ x ∈ roots, x ∈ ids)
    {cycle : List String} (h : cycle ∈ (ofRoots next fuel roots).cycles) :
    SimpleCycle (fun a b => b ∈ next a) cycle :=
  (invariant_cycles next ids).ofRoots hclosed hfuel hroots (fun _ h => absurd h List.not_mem_nil)
    cycle h

/-! ## Nodes that lead back -/

/-- All that follows on a node stands behind it or leads back to it. -/
def Returning (next : String → List String) : List String → Prop
  | [] => True
  | node :: rest =>
    (∀ other ∈ next node, other ∈ rest ∨ TransGen (fun a b => b ∈ next a) other node) ∧
      Returning next rest

/-- What follows on a node and is not finished when the node is lies on the path that led to it. -/
theorem invariant_returning (next : String → List String) (ids : List String) :
    Invariant next ids fun _ s => Returning next s.finished where
  discover _ _ _ _ _ hs := hs
  close _ _ _ _ _ _ _ _ hs := hs
  finish path node s hsound hlinked hall hs := by
    refine ⟨fun other hother => ?_, hs⟩
    rcases (hsound.known other).mp (hall other hother) with hfinished | hon
    · exact Or.inl hfinished
    refine Or.inr ?_
    rcases List.mem_append.mp hon with hpath | hself
    · exact (List.pairwise_append.mp (pairwise_transGen hlinked)).2.2 other hpath node
        (List.mem_singleton_self node)
    · rw [List.mem_singleton.mp hself] at hother ⊢
      exact TransGen.single hother

theorem returning_ofRoots {fuel : Nat} (hclosed : ∀ a ∈ ids, ∀ b ∈ next a, b ∈ ids)
    (hfuel : ids.length < fuel) {roots : List String} (hroots : ∀ x ∈ roots, x ∈ ids) :
    Returning next (ofRoots next fuel roots).finished :=
  (invariant_returning next ids).ofRoots hclosed hfuel hroots trivial

end Search

/-! ## Graphs -/

theorem mem_dependents {g : Graph} {a b : String} : b ∈ g.dependents a ↔ (a, b) ∈ g.edges := by
  simp [dependents]

theorem mem_latestDependents {g : Graph} {a b : String} :
    b ∈ g.latestDependents a ↔ (a, b) ∈ g.edges := by
  rw [latestDependents, List.mem_reverse, mem_dependents]

/-- The edges of a graph join its nodes, and it has each node once. -/
structure Proper (g : Graph) : Prop where
  nodup : g.ids.Nodup
  source : ∀ a b, (a, b) ∈ g.edges → a ∈ g.ids
  target : ∀ a b, (a, b) ∈ g.edges → b ∈ g.ids

/-- A search through all nodes of a graph notes no cycle exactly if its edges have none. The order
in which it tries the edges of a node does not matter. -/
theorem Proper.cycles_ofRoots_eq_nil_iff {g : Graph} (h : g.Proper) {next : String → List String}
    (hnext : ∀ a b, b ∈ next a ↔ (a, b) ∈ g.edges) :
    (Search.ofRoots next (g.ids.length + 1) g.ids).cycles = [] ↔ Acyclic next := by
  have hclosed : ∀ a ∈ g.ids, ∀ b ∈ next a, b ∈ g.ids :=
    fun a _ b hb => h.target a b ((hnext a b).mp hb)
  have hfuel : g.ids.length < g.ids.length + 1 := Nat.lt_succ_self _
  constructor
  · intro hcycles
    have hdescending := Search.descending_ofRoots hclosed hfuel (fun _ => id) hcycles
    refine hdescending.acyclic fun a hne => ?_
    obtain ⟨b, hb⟩ := List.exists_mem_of_ne_nil _ hne
    exact (Search.perm_finished_ofRoots hclosed hfuel h.nodup).mem_iff.mpr
      (h.source a b ((hnext a b).mp hb))
  · intro hacyclic
    refine List.eq_nil_iff_forall_not_mem.mpr fun cycle hcycle => ?_
    obtain ⟨a, ha⟩ := (Search.simpleCycle_of_mem hclosed hfuel (fun _ => id) hcycle).exists_transGen
    exact hacyclic a ha

theorem Acyclic.congr {next next' : String → List String} (h : Acyclic next)
    (hnext : ∀ a, ∀ b ∈ next' a, b ∈ next a) :
    Acyclic next' :=
  fun a hcycle => h a (TransGen.mono (fun b c hc => hnext b c hc) a a hcycle)

/-- A graph has no cycle exactly if none is found. -/
theorem Proper.cycles_eq_nil_iff {g : Graph} (h : g.Proper) :
    g.cycles = [] ↔ Acyclic g.dependents := by
  rw [cycles, h.cycles_ofRoots_eq_nil_iff fun _ _ => mem_latestDependents]
  have hmem : ∀ a b, b ∈ g.latestDependents a ↔ b ∈ g.dependents a := fun a b => List.mem_reverse
  exact ⟨fun hacyclic => hacyclic.congr fun a b => (hmem a b).mpr, fun hacyclic =>
    hacyclic.congr fun a b => (hmem a b).mp⟩

end Workflow.Graph
