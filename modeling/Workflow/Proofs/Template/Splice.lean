import Workflow.Proofs.Decode.Record
import Workflow.Template.Resolve

/-!
# Putting values in the places of references

The references of a template are the leftmost ones that do not overlap. While values are
put in their places, each reference is looked for again by its text, and what is found is
always the reference itself: it is the first in what is left of the template, and nothing
before it is written like it. So every reference gives way to the text of its value once,
and that text is not read again.
-/

namespace Workflow.Template

open Decode (forall₂_of_mapM map_eq_ok)

/-! ## The first failure -/

section

variable {α β γ ε : Type} {f : α → Except ε β} {x : α} {xs : List α} {e : ε}

/-- When several things are done from left to right, the first that fails does so with a fault. -/
def FailsFirst (f : α → Except ε β) (xs : List α) (e : ε) : Prop :=
  ∃ before x after, xs = before ++ x :: after ∧ (∀ y ∈ before, ∃ b, f y = .ok b) ∧ f x = .error e

theorem FailsFirst.exists_mem (h : FailsFirst f xs e) : ∃ x ∈ xs, f x = .error e := by
  obtain ⟨before, x, after, rfl, -, hfails⟩ := h
  exact ⟨x, List.mem_append_right _ List.mem_cons_self, hfails⟩

theorem not_failsFirst_nil : ¬ FailsFirst f [] e := by
  intro h
  obtain ⟨x, hx, -⟩ := h.exists_mem
  exact List.not_mem_nil hx

theorem failsFirst_cons_iff :
    FailsFirst f (x :: xs) e ↔ f x = .error e ∨ (∃ b, f x = .ok b) ∧ FailsFirst f xs e := by
  constructor
  · rintro ⟨before, y, after, heq, hbefore, hfails⟩
    cases before with
    | nil =>
      cases heq
      exact Or.inl hfails
    | cons z before =>
      cases heq
      rw [List.forall_mem_cons] at hbefore
      exact Or.inr ⟨hbefore.1, before, y, after, rfl, hbefore.2, hfails⟩
  · rintro (hfails | ⟨hok, before, y, after, rfl, hbefore, hfails⟩)
    · exact ⟨[], x, xs, rfl, by simp, hfails⟩
    · exact ⟨x :: before, y, after, rfl, List.forall_mem_cons.mpr ⟨hok, hbefore⟩, hfails⟩

theorem failsFirst_singleton_iff : FailsFirst f [x] e ↔ f x = .error e := by
  rw [failsFirst_cons_iff, or_iff_left fun h => not_failsFirst_nil h.2]

theorem mapM_eq_ok_iff {values : List β} :
    xs.mapM f = .ok values ↔ List.Forall₂ (fun x value => f x = .ok value) xs values := by
  refine ⟨forall₂_of_mapM, fun h => ?_⟩
  induction h with
  | nil => rfl
  | cons hhead _ ih =>
    rw [List.mapM_cons, hhead, ih]
    rfl

theorem mapM_eq_error_iff : xs.mapM f = .error e ↔ FailsFirst f xs e := by
  induction xs with
  | nil => exact ⟨nofun, fun h => absurd h not_failsFirst_nil⟩
  | cons x xs ih =>
    rw [List.mapM_cons, failsFirst_cons_iff, ← ih]
    cases hx : f x with
    | error fault => simp [bind, Except.bind]
    | ok b => cases hxs : xs.mapM f <;> simp [bind, Except.bind, pure, Except.pure]

theorem forall_ok_or_failsFirst (f : α → Except ε β) (xs : List α) :
    (∀ x ∈ xs, ∃ b, f x = .ok b) ∨ ∃ e, FailsFirst f xs e := by
  induction xs with
  | nil => exact Or.inl nofun
  | cons x xs ih =>
    simp only [List.forall_mem_cons, failsFirst_cons_iff]
    cases hx : f x with
    | error e => exact Or.inr ⟨e, Or.inl rfl⟩
    | ok b =>
      refine ih.imp (fun hall => ⟨⟨b, rfl⟩, hall⟩) fun ⟨e, hfails⟩ => ⟨e, Or.inr ⟨⟨b, rfl⟩, hfails⟩⟩

theorem failsFirst_append_iff {ys : List α} :
    FailsFirst f (xs ++ ys) e ↔
      FailsFirst f xs e ∨ (∀ x ∈ xs, ∃ b, f x = .ok b) ∧ FailsFirst f ys e := by
  induction xs with
  | nil => simp [not_failsFirst_nil]
  | cons x xs ih =>
    rw [List.cons_append, failsFirst_cons_iff, ih, failsFirst_cons_iff, List.forall_mem_cons]
    tauto

/-- What fails exactly for the first failure among several things succeeds
exactly if all of them do. -/
theorem exists_ok_iff {result : Except ε γ} (h : ∀ e, result = .error e ↔ FailsFirst f xs e) :
    (∃ c, result = .ok c) ↔ ∀ x ∈ xs, ∃ b, f x = .ok b := by
  constructor
  · rintro ⟨c, rfl⟩
    refine (forall_ok_or_failsFirst f xs).resolve_right fun ⟨e, hfails⟩ => ?_
    exact nomatch (h e).mpr hfails
  · intro hall
    cases result with
    | ok c => exact ⟨c, rfl⟩
    | error e =>
      obtain ⟨x, hx, hfails⟩ := ((h e).mp rfl).exists_mem
      obtain ⟨b, hok⟩ := hall x hx
      exact nomatch hok.symm.trans hfails

end

/-! ## References in a text -/

/-- A reference stands in a text, with something before it and something behind it. -/
structure Stands (text before inner behind : List Char) : Prop where
  spelled : text = before ++ (opening ++ inner ++ [closing]) ++ behind
  closes : closing ∉ inner

/-- It is the first one in the text. -/
structure First (text before inner behind : List Char) : Prop
    extends Stands text before inner behind where
  leftmost : ∀ {before' inner' behind'}, Stands text before' inner' behind' →
    before.length ≤ before'.length

/-- The pieces of a text that is cut at its leftmost references that do not overlap: each is the
first behind the one before. -/
inductive Cut : List Char → List Piece → Prop
  | plain {text : List Char} (hnone : ∀ before inner behind, ¬ Stands text before inner behind) :
    Cut text [.text text]
  | reference {text before inner behind : List Char} {pieces : List Piece}
    (hfirst : First text before inner behind) (hrest : Cut behind pieces) :
    Cut text (.text before :: .reference inner :: pieces)

variable {text front before inner behind : List Char}

/-- What stands behind the front of a text stands in the rest of it. -/
theorem Stands.of_append (h : Stands (front ++ text) before inner behind)
    (hle : front.length ≤ before.length) :
    ∃ between, before = front ++ between ∧ Stands text between inner behind := by
  have hspelled := h.spelled
  rw [List.append_assoc] at hspelled
  obtain ⟨between, rfl⟩ : front <+: before :=
    List.prefix_of_prefix_length_le ⟨text, hspelled⟩ ⟨_, rfl⟩ hle
  rw [List.append_assoc] at hspelled
  refine ⟨between, rfl, ?_, h.closes⟩
  rw [List.append_assoc, List.append_cancel_left hspelled]

theorem Stands.closing_mem (h : Stands text before inner behind) : closing ∈ text := by
  rw [h.spelled]
  simp

/-- A text up to the first sign that closes. -/
theorem takeWhile_ne_closing (h : closing ∉ inner) (behind : List Char) :
    (inner ++ closing :: behind).takeWhile (· ≠ closing) = inner := by
  rw [List.takeWhile_append_of_pos, List.takeWhile_cons_of_neg, List.append_nil]
  · simp
  · intro c hc
    simpa using fun heq : c = closing => h (heq ▸ hc)

/-- Two first references of a text are the same. -/
theorem First.unique {before' inner' behind' : List Char} (h : First text before inner behind)
    (h' : First text before' inner' behind') :
    before = before' ∧ inner = inner' ∧ behind = behind' := by
  have hlength : before.length = before'.length :=
    Nat.le_antisymm (h.leftmost h'.toStands) (h'.leftmost h.toStands)
  have hspelled := h.spelled.symm.trans h'.spelled
  simp only [List.append_assoc, List.singleton_append] at hspelled
  obtain ⟨rfl, hbraces⟩ := List.append_inj hspelled hlength
  have hinside := List.append_cancel_left hbraces
  have hinner := congrArg (List.takeWhile (· ≠ closing)) hinside
  rw [takeWhile_ne_closing h.closes, takeWhile_ne_closing h'.closes] at hinner
  subst hinner
  exact ⟨rfl, rfl, (List.cons.inj (List.append_cancel_left hinside)).2⟩

theorem Cut.unique {pieces pieces' : List Piece} (h : Cut text pieces) (h' : Cut text pieces') :
    pieces = pieces' := by
  induction h generalizing pieces' with
  | plain hnone =>
    cases h' with
    | plain => rfl
    | reference hfirst => exact absurd hfirst.toStands (hnone _ _ _)
  | reference hfirst hrest ih =>
    cases h' with
    | plain hnone => exact absurd hfirst.toStands (hnone _ _ _)
    | reference hfirst' hrest' =>
      obtain ⟨rfl, rfl, rfl⟩ := hfirst.unique hfirst'
      rw [ih hrest']

/-- What has been read of a reference that has begun, as it is written. -/
def begun : Option (List Char) → List Char
  | none => []
  | some inner => opening ++ inner.reverse

theorem closing_notMem_begun {inside : Option (List Char)} (h : ∀ inner ∈ inside, closing ∉ inner) :
    closing ∉ begun inside := by
  cases inside with
  | none => exact List.not_mem_nil
  | some inner =>
    intro hmem
    rcases List.mem_append.mp hmem with hopening | hinner
    · exact absurd hopening (by decide)
    · exact h inner rfl (List.mem_reverse.mp hinner)

/-- A text is cut where its references are, if none begins in what has been
read of it as plain text. -/
theorem cut_scan (before : List Char) (inside : Option (List Char)) (text : List Char)
    (hclosed : ∀ inner ∈ inside, closing ∉ inner)
    (hplain : ∀ before' inner' behind',
      Stands (before.reverse ++ (begun inside ++ text)) before' inner' behind' →
        before.length ≤ before'.length) :
    Cut (before.reverse ++ (begun inside ++ text)) (scan before inside text) := by
  fun_induction scan before inside text with
  | case1 before inside =>
    rw [List.append_nil] at hplain ⊢
    refine .plain fun before' inner' behind' hstands => ?_
    obtain ⟨between, -, hrest⟩ := hstands.of_append (by simpa using hplain _ _ _ hstands)
    exact closing_notMem_begun hclosed hrest.closing_mem
  | case2 before rest inner ih =>
    refine .reference ⟨⟨by simp [begun], ?_⟩, ?_⟩ (ih nofun fun _ _ _ _ => Nat.zero_le _)
    · simpa using hclosed inner rfl
    · intro before' inner' behind' hstands
      simpa using hplain _ _ _ hstands
  | case3 before c rest inner hne ih =>
    have heq : begun (some inner) ++ c :: rest = begun (some (c :: inner)) ++ rest := by
      simp [begun]
    rw [heq] at hplain ⊢
    refine ih (fun read hread => ?_) hplain
    cases hread
    exact List.not_mem_cons_of_ne_of_not_mem (Ne.symm hne) (hclosed inner rfl)
  | case4 before rest ih =>
    refine ih (fun read hread => ?_) hplain
    cases hread
    exact List.not_mem_nil
  | case5 before c rest hother ih =>
    have heq : before.reverse ++ (begun none ++ c :: rest) =
        (c :: before).reverse ++ (begun none ++ rest) := by simp [begun]
    rw [heq] at hplain ⊢
    refine ih nofun fun before' inner' behind' hstands => ?_
    refine Nat.lt_of_le_of_ne (hplain _ _ _ hstands) fun hlength => ?_
    rw [← heq] at hstands
    obtain ⟨between, rfl, hrest⟩ := hstands.of_append (by simp [← hlength])
    have hnil : between = [] := by simpa using hlength
    have hspelled : c :: rest = between ++ _ ++ _ := hrest.spelled
    rw [hnil] at hspelled
    obtain ⟨rfl, hbrace⟩ := List.cons.inj hspelled
    exact hother _ rfl hbrace

/-- The pieces of a template are those of its leftmost references. -/
theorem cut_pieces (template : String) : Cut template.toList (pieces template) :=
  cut_scan [] none template.toList nofun fun _ _ _ _ => Nat.zero_le _

/-! ## Where the search lands -/

/-- A text is found where it first occurs. -/
theorem locate_eq {sought seen : List Char} (h : text = before ++ sought ++ behind)
    (hfirst : ∀ before' behind', text = before' ++ sought ++ behind' →
      before.length ≤ before'.length) :
    locate sought seen text = some (seen.reverse ++ before, behind) := by
  induction before generalizing seen text with
  | nil =>
    subst h
    unfold Template.locate
    rw [if_pos (by simp)]
    simp
  | cons c rest ih =>
    subst h
    unfold Template.locate
    rw [if_neg]
    · rw [List.cons_append, List.cons_append]
      refine (ih rfl fun before' behind' heq => ?_).trans (by simp)
      exact Nat.le_of_succ_le_succ (hfirst (c :: before') behind' (congrArg (c :: ·) heq))
    · intro hprefix
      obtain ⟨behind', heq⟩ := List.isPrefixOf_iff_prefix.mp hprefix
      exact absurd (hfirst [] behind' heq.symm) (by simp)

@[simp] theorem toList_raw (token : Token) :
    token.raw.toList = opening ++ token.inner.toList ++ [closing] := by
  simp [Token.raw, opening, closing]

/-- The search for the first reference of a text lands on it. -/
theorem First.locate {token : Token} (h : First text before token.inner.toList behind) :
    locate token.raw.toList [] text = some (before, behind) := by
  rw [toList_raw]
  exact locate_eq h.spelled fun before' behind' heq => h.leftmost ⟨heq, h.closes⟩

namespace Splicing

variable {scope : Scope}

/-- What is reached turn by turn while values are put in the places of the references of a template,
with the references to come. -/
inductive Reached (scope : Scope) (template : String) : Splicing → List Token → Prop
  | start : Reached scope template ⟨[], template.toList⟩ (tokens template)
  | turn {s next : Splicing} {token : Token} {left : List Token}
    (h : Reached scope template s (token :: left))
    (hturn : s.turn? scope token = some (.ok next)) : Reached scope template next left

/-- The next reference is the first one that is left. -/
theorem exists_first {cut : List Piece} {token : Token} {left : List Token} (hcut : Cut text cut)
    (h : cut.filterMap Piece.token? = token :: left) :
    ∃ before behind cut', First text before token.inner.toList behind ∧ Cut behind cut' ∧
      cut'.filterMap Piece.token? = left := by
  cases hcut with
  | plain => cases h
  | @reference _ before inner behind pieces hfirst hrest =>
    obtain ⟨rfl, rfl⟩ := List.cons.inj h
    exact ⟨before, behind, pieces, by rwa [String.toList_ofList], hrest, rfl⟩

theorem turn?_eq {s : Splicing} {token : Token}
    (h : First s.rest before token.inner.toList behind) :
    s.turn? scope token = some ((resolvePath scope token.path).map fun value =>
      ⟨s.written ++ before ++ (valueText value).toList, behind⟩) := by
  rw [turn?, h.locate, Option.map_some]

/-- The references to come are those of what is left of the template. -/
theorem Reached.exists_cut {template : String} {s : Splicing} {left : List Token}
    (h : Reached scope template s left) :
    ∃ cut, Cut s.rest cut ∧ cut.filterMap Piece.token? = left := by
  induction h with
  | start => exact ⟨_, cut_pieces template, rfl⟩
  | turn _ hturn ih =>
    obtain ⟨cut, hcut, hleft⟩ := ih
    obtain ⟨before, behind, cut', hfirst, hcut', hleft'⟩ := exists_first hcut hleft
    rw [turn?_eq hfirst] at hturn
    obtain ⟨value, -, rfl⟩ := map_eq_ok (Option.some.inj hturn)
    exact ⟨cut', hcut', hleft'⟩

end Splicing

/-! ## Pieces and what stands in their places -/

variable {scope : Scope} {fault : Fault}

/-- What stands in the place of a piece: plain text stays, and a reference gives
way to the text of its value. -/
def Piece.part (scope : Scope) : Piece → Except Fault (List Char)
  | .text chars => .ok chars
  | .reference inner =>
    (resolvePath scope (Token.path ⟨String.ofList inner⟩)).map fun value => (valueText value).toList

/-- The turns put the parts of all pieces one behind the other. -/
theorem turns_eq {rest : List Char} {cut : List Piece} (h : Cut rest cut) (written : List Char) :
    (Splicing.turns scope ⟨written, rest⟩ (cut.filterMap Piece.token?)).map Splicing.text =
      (cut.mapM (Piece.part scope)).map fun parts => String.ofList (written ++ parts.flatten) := by
  induction h generalizing written with
  | @plain text hnone =>
    show Except.ok (String.ofList (written ++ text)) = .ok (String.ofList (written ++ (text ++ [])))
    rw [List.append_nil]
  | @reference text before inner behind pieces hfirst hrest ih =>
    have hturn : Splicing.turn? scope ⟨written, text⟩ ⟨String.ofList inner⟩ = _ :=
      Splicing.turn?_eq (show First text before (String.ofList inner).toList behind by
        rwa [String.toList_ofList])
    rw [List.filterMap_cons_none (by rfl), List.filterMap_cons_some (by rfl), Splicing.turns, hturn,
      List.mapM_cons, List.mapM_cons, Piece.part, Piece.part]
    cases resolvePath scope (Token.path ⟨String.ofList inner⟩) with
    | error fault => rfl
    | ok value =>
      refine (ih (written ++ before ++ (valueText value).toList)).trans ?_
      cases pieces.mapM (Piece.part scope) with
      | error fault => rfl
      | ok parts => simp [Except.map, bind, Except.bind, pure, Except.pure]

/-- A template without references stays as it is when nothing is put in place. -/
theorem resolveString_eq_splice (scope : Scope) (template : String) :
    resolveString scope template = splice scope template (tokens template) := by
  unfold resolveString
  split
  · next hnone =>
    rw [hnone, splice, Splicing.turns, Except.map, Splicing.text, List.nil_append,
      String.ofList_toList]
  · rfl

/-- A template as text is what stands in the places of its pieces. -/
theorem resolveString_eq_mapM (scope : Scope) (template : String) :
    resolveString scope template =
      ((pieces template).mapM (Piece.part scope)).map fun parts => String.ofList parts.flatten :=
  (resolveString_eq_splice scope template).trans (turns_eq (cut_pieces template) [])

/-- The first piece that fails is the first reference that does. -/
theorem failsFirst_part_iff {cut : List Piece} :
    FailsFirst (Piece.part scope) cut fault ↔
      FailsFirst (fun token : Token => resolvePath scope token.path)
        (cut.filterMap Piece.token?) fault := by
  induction cut with
  | nil => exact iff_of_false not_failsFirst_nil not_failsFirst_nil
  | cons piece cut ih =>
    cases piece with
    | text chars =>
      rw [List.filterMap_cons_none (by rfl), failsFirst_cons_iff, ← ih]
      simp [Piece.part]
    | reference inner =>
      rw [List.filterMap_cons_some (by rfl), failsFirst_cons_iff, failsFirst_cons_iff, ih,
        Piece.part]
      cases resolvePath scope (Token.path ⟨String.ofList inner⟩) <;> simp [Except.map]

/-- A template as text fails for the first reference that does. -/
theorem resolveString_eq_error_iff {template : String} :
    resolveString scope template = .error fault ↔
      FailsFirst (fun token : Token => resolvePath scope token.path) (tokens template) fault := by
  rw [resolveString_eq_mapM, tokens, ← failsFirst_part_iff, ← mapM_eq_error_iff]
  cases (pieces template).mapM (Piece.part scope) <;> simp [Except.map]

/-- Substitution is exact and goes through a template once. Its references are the leftmost ones
that do not overlap, and the search for the next one always lands on it. A template is resolved
exactly if all of its references are. Then every reference has given way to the text of its value,
which is not read again, and all other text is as before. Otherwise it fails for the leftmost
reference that does. -/
theorem references_replaced_in_one_pass (scope : Scope) (template : String) :
    (∀ cut, Cut template.toList cut ↔ cut = pieces template) ∧
      (∀ s token left, Splicing.Reached scope template s (token :: left) →
        (s.turn? scope token).isSome = true ∧ ∃ before behind,
          locate token.raw.toList [] s.rest = some (before, behind) ∧
            First s.rest before token.inner.toList behind) ∧
      ((∃ text, resolveString scope template = .ok text) ↔
        ∀ token ∈ tokens template, ∃ value, resolvePath scope token.path = .ok value) ∧
      (∀ text, resolveString scope template = .ok text ↔
        ∃ parts, List.Forall₂ (fun piece part => Piece.part scope piece = .ok part)
          (pieces template) parts ∧ text = String.ofList parts.flatten) ∧
      ∀ fault, resolveString scope template = .error fault ↔
        FailsFirst (fun token : Token => resolvePath scope token.path) (tokens template) fault := by
  refine ⟨fun cut => ⟨fun hcut => hcut.unique (cut_pieces template), ?_⟩, ?_, ?_, ?_, ?_⟩
  · rintro rfl
    exact cut_pieces template
  · intro s token left hreached
    obtain ⟨cut, hcut, hleft⟩ := hreached.exists_cut
    obtain ⟨before, behind, -, hfirst, -⟩ := Splicing.exists_first hcut hleft
    exact ⟨by rw [Splicing.turn?_eq hfirst]; rfl, before, behind, hfirst.locate, hfirst⟩
  · exact exists_ok_iff fun fault => resolveString_eq_error_iff
  · intro text
    simp only [resolveString_eq_mapM, ← mapM_eq_ok_iff]
    cases (pieces template).mapM (Piece.part scope) <;> simp [Except.map, eq_comm]
  · exact fun fault => resolveString_eq_error_iff

/-- A scope in which every input has a value that looks like a reference. -/
def mirror : Scope where
  sys := .null
  isDeclared _ := true
  input? name := some (.str (Token.raw ⟨name⟩))
  result? _ := none

theorem references_replaced_in_mirror :
    Splicing.Reached mirror "$\x7bx\x7d!" ⟨[], "$\x7bx\x7d!".toList⟩ [⟨"x"⟩] ∧
      (∃ before behind, First "$\x7bx\x7d!".toList before "x".toList behind) ∧
      ∃ text, resolveString mirror "$\x7bx\x7d!" = .ok text := by
  have htokens : tokens "$\x7bx\x7d!" = [⟨"x"⟩] := by decide +kernel
  have hstart : Splicing.Reached mirror "$\x7bx\x7d!" ⟨[], "$\x7bx\x7d!".toList⟩ [⟨"x"⟩] :=
    htokens ▸ .start
  obtain ⟨-, hlands, hok, -, -⟩ := references_replaced_in_one_pass mirror "$\x7bx\x7d!"
  obtain ⟨-, before, behind, -, hfirst⟩ := hlands _ _ _ hstart
  refine ⟨hstart, ⟨before, behind, hfirst⟩, hok.mpr fun token htoken => ?_⟩
  rw [htokens, List.mem_singleton] at htoken
  subst htoken
  exact ⟨_, rfl⟩

/-- What has been put in place is not read again, also where a reference comes twice. -/
example : (resolveString mirror "$\x7bx\x7d, $$\x7b y \x7d, $\x7bx\x7d").toOption =
    some "$\x7bx\x7d, $$\x7by\x7d, $\x7bx\x7d" := by
  decide +kernel

/-! ## Values of templates -/

/-- A reference with nothing around it gives way to the text of its value. -/
theorem splice_raw {token : Token} (h : closing ∉ token.inner.toList) :
    splice scope token.raw [token] = (resolvePath scope token.path).map valueText := by
  have hfirst : First token.raw.toList [] token.inner.toList [] :=
    ⟨⟨by simp, h⟩, fun _ => Nat.zero_le _⟩
  have hturn : Splicing.turn? scope ⟨[], token.raw.toList⟩ token = _ := Splicing.turn?_eq hfirst
  rw [splice, Splicing.turns, hturn]
  cases resolvePath scope token.path with
  | error fault => rfl
  | ok value =>
    show Except.ok (String.ofList ([] ++ [] ++ (valueText value).toList ++ [])) =
      .ok (valueText value)
    simp

theorem closing_notMem_of_tokens {template : String} {token : Token} {left : List Token}
    (h : tokens template = token :: left) : closing ∉ token.inner.toList := by
  obtain ⟨_, _, _, hfirst, -⟩ := Splicing.exists_first (cut_pieces template) h
  exact hfirst.closes

/-- A template as text is the text of its value. -/
theorem map_valueText_resolveTemplate (scope : Scope) (template : String) :
    (resolveTemplate scope template).map valueText = resolveString scope template := by
  have htext : ∀ {result : Except Fault String}, (result.map Json.str).map valueText = result := by
    intro result
    cases result <;> rfl
  rw [resolveString_eq_splice]
  unfold resolveTemplate
  split
  · next hnone =>
    rw [← resolveString_eq_splice, resolveString, hnone]
    rfl
  · next only honly =>
    rw [honly]
    split
    · next hwhole =>
      subst hwhole
      exact (splice_raw (closing_notMem_of_tokens honly)).symm
    · exact htext
  · exact htext

theorem resolveTemplate_eq_error_iff {template : String} :
    resolveTemplate scope template = .error fault ↔
      FailsFirst (fun token : Token => resolvePath scope token.path) (tokens template) fault := by
  rw [← resolveString_eq_error_iff, ← map_valueText_resolveTemplate]
  cases resolveTemplate scope template <;> simp [Except.map]

/-- The two ways to resolve a template agree: as text it is the text of its value, and where it has
none, both fail with the same fault. Only a template that is one reference and nothing else has a
value that is no text. -/
theorem resolved_text_is_text_of_value (scope : Scope) (template : String) :
    resolveString scope template = (resolveTemplate scope template).map valueText ∧
      ∀ value, resolveTemplate scope template = .ok value → value.isString = false →
        ∃ token, tokens template = [token] ∧ token.raw = template ∧
          resolvePath scope token.path = .ok value := by
  refine ⟨(map_valueText_resolveTemplate scope template).symm, fun value hvalue hkind => ?_⟩
  unfold resolveTemplate at hvalue
  split at hvalue
  · cases hvalue
    cases hkind
  · next only honly =>
    split at hvalue
    · next hwhole => exact ⟨only, honly, hwhole, hvalue⟩
    · obtain ⟨text, -, rfl⟩ := map_eq_ok hvalue
      cases hkind
  · obtain ⟨text, -, rfl⟩ := map_eq_ok hvalue
    cases hkind

theorem resolved_text_is_text_of_number :
    let scope : Scope := { mirror with input? := fun _ => some (.int 41) }
    resolveTemplate scope "$\x7b x \x7d" = .ok (.int 41) ∧
      resolveString scope "$\x7b x \x7d" = .ok (valueText (.int 41)) ∧
      ∃ token, tokens "$\x7b x \x7d" = [token] ∧ token.raw = "$\x7b x \x7d" ∧
        resolvePath scope token.path = .ok (.int 41) := by
  intro scope
  have htokens : tokens "$\x7b x \x7d" = [⟨" x "⟩] := by decide +kernel
  have hvalue : resolveTemplate scope "$\x7b x \x7d" = .ok (.int 41) := by
    rw [resolveTemplate, htokens]
    exact if_pos (by decide +kernel)
  obtain ⟨htext, hwhole⟩ := resolved_text_is_text_of_value scope "$\x7b x \x7d"
  rw [hvalue] at htext
  exact ⟨hvalue, htext, hwhole _ hvalue rfl⟩

end Workflow.Template
