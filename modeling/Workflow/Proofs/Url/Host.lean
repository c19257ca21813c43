import Workflow.Proofs.Condition.Reference
import Workflow.Proofs.Pattern.Digit
import Workflow.Url.Host

/-!
# Hosts of plain characters

The rules for international names leave ASCII text as it is, but for its capitals.
So a host of plain characters is a domain, unless one of its labels is a written
form or its last part is a number.
-/

namespace Workflow

/-! ## ASCII and the tables -/

namespace Unicode

namespace CharSet

/-- What lies below the first run of a written set does not belong to it. -/
theorem has_ofText_eq_false {text : String} {word : List Char} {c : Char}
    (htext : ∃ rest, text.toList = word ++ ' ' :: rest)
    (hword : (word.all fun d => d ≠ ' ' ∧ d ≠ '\n') = true) (hne : word ≠ [])
    (hlt : c.toNat < readNumber (word.takeWhile (· ≠ '-'))) :
    (ofText text).has c = false := by
  obtain ⟨rest, htext⟩ := htext
  have hinside : ∀ d ∈ word, d ≠ ' ' ∧ d ≠ '\n' :=
    fun d hd => of_decide_eq_true (List.all_eq_true.mp hword d hd)
  have hwords : words text.toList = word :: words rest := by
    rw [htext, words, splitWords_append hinside, List.filter_cons_of_pos (by simp [hne]), ← words]
  rw [has, mem, ofText, hwords, boundsOfWords, insideFrom, if_pos hlt]

end CharSet

set_option maxRecDepth 20000 in
theorem markText_begins : ∃ rest, markText.toList = "300-36F".toList ++ ' ' :: rest :=
  ⟨_, String.toList_ofList⟩

set_option maxRecDepth 8000 in
theorem rightToLeftText_begins : ∃ rest, rightToLeftText.toList = "5BE".toList ++ ' ' :: rest :=
  ⟨_, String.toList_ofList⟩

theorem arabicNumberText_begins :
    ∃ rest, arabicNumberText.toList = "600-605".toList ++ ' ' :: rest :=
  ⟨_, String.toList_ofList⟩

variable {c : Char}

theorem isMark_of_ascii (h : c.toNat < 128) : isMark c = false := by
  rw [isMark]
  exact CharSet.has_ofText_eq_false markText_begins (by decide) (by decide)
    (Nat.lt_trans h (by decide))

end Unicode

namespace Url

open Unicode (CharSet Direction compose)
open Label (isForbiddenAscii isRightToLeft plainForm? ofPlain? joinersFit isSound)

variable {c : Char} {text : List Char}

theorem isRightToLeft_of_ascii (h : c.toNat < 128) : isRightToLeft c = false := by
  have hletters : (CharSet.ofText Unicode.rightToLeftText).has c = false :=
    CharSet.has_ofText_eq_false Unicode.rightToLeftText_begins (by decide) (by decide)
      (Nat.lt_trans h (by decide))
  have hnumbers : (CharSet.ofText Unicode.arabicNumberText).has c = false :=
    CharSet.has_ofText_eq_false Unicode.arabicNumberText_begins (by decide) (by decide)
      (Nat.lt_trans h (by decide))
  have hother : Direction.of c ≠ .rightToLeft ∧ Direction.of c ≠ .arabicNumber := by
    rw [Direction.of, hletters, hnumbers]
    simp only [Bool.false_eq_true, if_false]
    repeat' split
    all_goals exact ⟨nofun, nofun⟩
  -- The tables are not to be evaluated, so the definition is unfolded before it is applied.
  have hunfold : isRightToLeft = isRightToLeft := rfl
  conv at hunfold => rhs; delta isRightToLeft
  rw [congrFun hunfold c]
  generalize Direction.of c = direction at hother
  cases direction with
  | rightToLeft => exact absurd rfl hother.1
  | arabicNumber => exact absurd rfl hother.2
  | leftToRight | europeanNumber | neutral | attached | blankOrBreak => rfl

/-- Of all the runs of replaced characters only the first, that of the
capitals, holds any of ASCII. -/
theorem replacementRuns_ascii : ∃ rest, replacementRuns.toList = ⟨65, 90, 1, 32⟩ :: rest ∧
    ∀ run ∈ rest, 128 ≤ run.first := by
  have hall : replacementRuns.toList.tail.all (fun run => 128 ≤ run.first) = true := by
    decide +kernel
  exact ⟨replacementRuns.toList.tail, rfl,
    fun run hrun => of_decide_eq_true (List.all_eq_true.mp hall run hrun)⟩

/-- The run of a character of ASCII, which is a capital. -/
theorem find?_replacementRuns (h : c.toNat < 128) :
    replacementRuns.find? (·.contains c.toNat) =
      if 65 ≤ c.toNat ∧ c.toNat ≤ 90 then some ⟨65, 90, 1, 32⟩ else none := by
  obtain ⟨rest, hruns, hrest⟩ := replacementRuns_ascii
  have hothers : rest.find? (·.contains c.toNat) = none := by
    rw [List.find?_eq_none]
    intro run hrun hcontains
    have hfirst := hrest run hrun
    simp only [Unicode.ShiftRun.contains, Bool.and_eq_true, decide_eq_true_eq] at hcontains
    omega
  rw [← Array.find?_toList, hruns, List.find?_cons, hothers, Unicode.ShiftRun.contains, Nat.mod_one]
  by_cases hupper : 65 ≤ c.toNat ∧ c.toNat ≤ 90
  · simp [hupper]
  · rw [if_neg hupper, ← Bool.decide_and, decide_eq_false hupper]
    rfl

/-- What holds of the characters of ASCII, one by one, holds of them all. -/
theorem ascii_induction {P : Char → Prop} (hall : ∀ n < 128, P (Char.ofNat n)) (h : c.toNat < 128) :
    P c := by
  rw [← Char.ofNat_toNat c]
  exact hall _ h

theorem lower_of_ascii (h : c.toNat < 128) :
    65 ≤ c.toNat ∧ c.toNat ≤ 90 → c.toLower = Char.ofNat (c.toNat + 32) :=
  ascii_induction (P := fun c => 65 ≤ c.toNat ∧ c.toNat ≤ 90 →
    c.toLower = Char.ofNat (c.toNat + 32))
    (by decide +kernel) h

/-- What becomes of a character of ASCII in a domain name: a capital is put in lower case. -/
theorem fate_of_ascii (h : c.toNat < 128) :
    Fate.of c = .kept ∧ c.toLower = c ∨ Fate.of c = .replaced [c.toLower] := by
  have hunfold : Fate.of = Fate.of := rfl
  conv at hunfold => rhs; delta Fate.of
  rw [congrFun hunfold c, find?_replacementRuns h]
  by_cases hupper : 65 ≤ c.toNat ∧ c.toNat ≤ 90
  · have hlower := lower_of_ascii h hupper
    have hshift : ((c.toNat : Int) + 32).toNat = c.toNat + 32 := by omega
    rw [if_pos hupper, hlower]
    dsimp only
    rw [hshift]
    exact Or.inr rfl
  · have hlower : c.toLower = c := dif_neg hupper
    rw [if_neg hupper, hlower]
    dsimp only
    rw [if_pos h]
    exact Or.inl ⟨rfl, rfl⟩

/-! ## Characters that stand for themselves -/

/-- A character of ASCII that a domain name may hold. -/
def IsPlain (c : Char) : Prop := c.toNat < 128 ∧ isForbiddenAscii c = false

instance : DecidablePred IsPlain :=
  fun c => inferInstanceAs (Decidable (c.toNat < 128 ∧ isForbiddenAscii c = false))

theorem IsPlain.lower (h : IsPlain c) : IsPlain c.toLower := by
  have hlower : c.toLower.toNat < 128 ∧ isForbiddenAscii c.toLower = isForbiddenAscii c :=
    ascii_induction (P := fun c => c.toLower.toNat < 128 ∧
      isForbiddenAscii c.toLower = isForbiddenAscii c)
      (by decide +kernel) h.1
  exact ⟨hlower.1, hlower.2.trans h.2⟩

/-- A character of a name is none of those that separate the parts of a URL. -/
theorem IsPlain.ne (h : IsPlain c) {sign : Char} (hsign : isForbiddenAscii sign = true) :
    c ≠ sign := by
  rintro rfl
  exact Bool.false_ne_true (h.2.symm.trans hsign)

theorem mapM_eq_some_map {α β : Type} {f : α → Option β} {g : α → β} {xs : List α}
    (h : ∀ x ∈ xs, f x = some (g x)) : xs.mapM f = some (xs.map g) := by
  induction xs with
  | nil => rfl
  | cons x xs ih =>
    obtain ⟨hx, hxs⟩ := List.forall_mem_cons.mp h
    rw [List.mapM_cons, hx, ih hxs]
    rfl

/-- The plain form of plain text is the text in lower case. -/
theorem plainForm?_eq_some (h : ∀ c ∈ text, IsPlain c) :
    plainForm? text = some (text.map Char.toLower) := by
  have hcompose : compose (text.map Char.toLower) = text.map Char.toLower := by
    rw [compose, if_pos]
    rw [List.all_eq_true]
    intro c hc
    obtain ⟨d, hd, rfl⟩ := List.mem_map.mp hc
    exact decide_eq_true (Nat.lt_trans (h d hd).lower.1 (by decide))
  have hallowed : (text.map Char.toLower).any isForbiddenAscii = false := by
    rw [List.any_eq_false]
    intro c hc
    obtain ⟨d, hd, rfl⟩ := List.mem_map.mp hc
    exact Bool.eq_false_iff.mp (h d hd).lower.2
  have hflatten : ∀ cs : List Char, (cs.map fun c => [c.toLower]).flatten =
      cs.map Char.toLower := by
    intro cs
    induction cs with
    | nil => rfl
    | cons c cs ih =>
      rw [List.map_cons, List.flatten_cons, ih, List.map_cons, List.singleton_append]
  rw [plainForm?, mapM_eq_some_map (g := fun c => [c.toLower])]
  · simp only [Option.bind_eq_bind, Option.bind_some, hflatten, hcompose, hallowed]
    rfl
  · intro c hc
    rcases fate_of_ascii (h c hc).1 with ⟨hkept, hlower⟩ | hreplaced
    · rw [hkept, hlower]
    · rw [hreplaced]

/-! ## Names of hosts -/

/-- A label that is written the way labels of other characters are. -/
def IsWritten (label : List Char) : Prop := ['x', 'n', '-', '-'] <+: label

instance : DecidablePred IsWritten :=
  fun label => inferInstanceAs (Decidable (['x', 'n', '-', '-'] <+: label))

/-- A host that consists of plain characters, of which no label is a written form and
which does not end in a number. -/
structure IsName (text : List Char) : Prop where
  nonempty : text ≠ []
  plain : ∀ c ∈ text, IsPlain c
  labels : ∀ label ∈ (text.map Char.toLower).splitOn '.', ¬ IsWritten label
  last : endsInNumber (text.map Char.toLower) = false

theorem ofPlain?_eq_some {label : List Char} (h : ¬ IsWritten label) :
    ofPlain? label = some label := by
  unfold ofPlain?
  split
  · exact absurd ⟨_, rfl⟩ h
  · rfl

theorem joinersFit_of_ascii {before label : List Char} (h : ∀ c ∈ label, c.toNat < 128) :
    joinersFit before label = true := by
  induction label generalizing before with
  | nil => rfl
  | cons c rest ih =>
    obtain ⟨hc, hrest⟩ := List.forall_mem_cons.mp h
    have hjoiner : ¬ (c.toNat = 0x200c ∨ c.toNat = 0x200d) := by omega
    rw [joinersFit, ih hrest]
    simp [hjoiner]

theorem isSound_of_ascii {label : List Char} (h : ∀ c ∈ label, c.toNat < 128) :
    isSound label = true := by
  have hascii : label.all (·.toNat < 128) = true :=
    List.all_eq_true.mpr fun c hc => decide_eq_true (h c hc)
  have hmark : (label.head?.map Unicode.isMark).getD false = false := by
    cases label with
    | nil => rfl
    | cons c rest =>
      rw [List.head?_cons, Option.map_some, Option.getD_some,
        Unicode.isMark_of_ascii (h c List.mem_cons_self)]
  rw [isSound, hmark, joinersFit_of_ascii h, hascii]
  rfl

/-- A name is its own normal form, in lower case. -/
theorem domain?_of_isName (h : IsName text) :
    domain? (String.ofList text) = some (String.ofList (text.map Char.toLower)) := by
  have hascii : ∀ label ∈ (text.map Char.toLower).splitOn '.', ∀ c ∈ label, c.toNat < 128 := by
    intro label hlabel c hc
    obtain ⟨d, hd, rfl⟩ := List.mem_map.mp (Template.mem_of_mem_splitOn hlabel hc)
    exact (h.plain d hd).lower.1
  have hlabels : ((text.map Char.toLower).splitOn '.').mapM ofPlain? =
      some ((text.map Char.toLower).splitOn '.') := by
    have hall : ∀ label ∈ (text.map Char.toLower).splitOn '.', ofPlain? label = some (id label) :=
      fun label hlabel => ofPlain?_eq_some (h.labels label hlabel)
    rw [mapM_eq_some_map hall, List.map_id]
  have hsound : ((text.map Char.toLower).splitOn '.').all isSound = true :=
    List.all_eq_true.mpr fun label hlabel => isSound_of_ascii (hascii label hlabel)
  have hdirection : ((text.map Char.toLower).splitOn '.').any (·.any isRightToLeft) = false := by
    rw [List.any_eq_false]
    intro label hlabel
    rw [Bool.not_eq_true, List.any_eq_false]
    exact fun c hc => Bool.eq_false_iff.mp (isRightToLeft_of_ascii (hascii label hlabel c hc))
  have hjoin : String.intercalate "." (((text.map Char.toLower).splitOn '.').map String.ofList) =
      String.ofList (text.map Char.toLower) := by
    rw [← String.toList_inj, String.toList_intercalate, List.map_map]
    have hmap : String.toList ∘ String.ofList = id := funext fun cs => String.toList_ofList
    rw [hmap, List.map_id, String.toList_ofList, String.toList_ofList]
    exact List.intercalate_splitOn '.'
  rw [domain?, String.toList_ofList, plainForm?_eq_some h.plain]
  simp only [Option.bind_eq_bind, Option.bind_some, hlabels, hsound, hdirection, hjoin]
  rfl

/-! ## Bytes -/

theorem toList_loop (bytes : ByteArray) (i : Nat) (seen : List UInt8) :
    ByteArray.toList.loop bytes i seen = seen.reverse ++ bytes.data.toList.drop i := by
  fun_induction ByteArray.toList.loop bytes i seen with
  | case1 i seen hlt ih =>
    have hdata : i < bytes.data.toList.length := hlt
    have hget : bytes.get! i = bytes.data.toList[i] := by
      rw [Array.getElem_toList]
      exact getElem!_pos bytes.data i hlt
    rw [ih, List.drop_eq_getElem_cons hdata, List.reverse_cons, List.append_assoc, hget]
    rfl
  | case2 i seen hge => rw [List.drop_of_length_le (Nat.not_lt.mp hge), List.append_nil]

theorem toList_eq_data (bytes : ByteArray) : bytes.toList = bytes.data.toList :=
  toList_loop bytes 0 []

/-- The bytes of ASCII text are its characters. -/
theorem mem_toUTF8 {b : UInt8} (htext : ∀ c ∈ text, c.toNat < 128)
    (h : b ∈ (String.ofList text).toUTF8.toList) : ∃ c ∈ text, b.toNat = c.toNat := by
  rw [toList_eq_data, String.toUTF8_eq_toByteArray, String.toByteArray_ofList, List.utf8Encode,
    List.toList_data_toByteArray, List.mem_flatMap] at h
  obtain ⟨c, hc, hb⟩ := h
  have hsize : c.utf8Size = 1 := Char.utf8Size_eq_one_iff.mpr (Nat.le_of_lt_succ (htext c hc))
  rw [String.utf8EncodeChar_eq_singleton hsize, List.mem_singleton] at hb
  refine ⟨c, hc, ?_⟩
  rw [hb]
  exact Nat.mod_eq_of_lt (Nat.lt_trans (htext c hc) (by decide))

/-- Without a percent sign there is nothing to decode. -/
theorem percentDecode_eq_self {bytes : List UInt8} (h : 37 ∉ bytes) :
    percentDecode bytes = bytes := by
  fun_induction percentDecode bytes with
  | case1 | case2 | case3 => rfl
  | case4 => exact absurd List.mem_cons_self h
  | case5 => exact absurd List.mem_cons_self h
  | case6 a b c rest ha ih => rw [ih fun hmem => h (List.mem_cons_of_mem _ hmem)]

theorem percentDecode_plain (h : ∀ c ∈ text, IsPlain c) :
    String.fromUTF8? ⟨(percentDecode (String.ofList text).toUTF8.toList).toArray⟩ =
      some (String.ofList text) := by
  have hpercent : 37 ∉ (String.ofList text).toUTF8.toList := by
    intro hmem
    obtain ⟨c, hc, heq⟩ := mem_toUTF8 (fun c hc => (h c hc).1) hmem
    have hsign : c = '%' := Char.toNat_inj.mp heq.symm
    exact (h c hc).ne (by decide) hsign
  rw [percentDecode_eq_self hpercent, toList_eq_data, Array.toArray_toList]
  exact dif_pos (String.ofList text).isValidUTF8

/-! ## Hosts -/

theorem bracketed?_eq_none (h : '[' ∉ text) : bracketed? text = none := by
  unfold bracketed?
  split
  · exact absurd List.mem_cons_self h
  · rfl

/-- A host that is a name is a domain. -/
theorem read_of_isName (h : IsName text) :
    Host.read text = .ok (.domain (String.ofList (text.map Char.toLower))) := by
  have hbracket : bracketed? text = none :=
    bracketed?_eq_none fun hmem => (h.plain _ hmem).ne (by decide) rfl
  have hnonempty : (String.ofList (text.map Char.toLower)).isEmpty = false := by
    rw [Bool.eq_false_iff, ne_eq, String.isEmpty_iff, ← String.toList_inj, String.toList_ofList]
    exact fun hnil => h.nonempty (List.map_eq_nil_iff.mp hnil)
  rw [Host.read, hbracket]
  simp only [percentDecode_plain h.plain, Option.bind_some, domain?_of_isName h, hnonempty,
    String.toList_ofList, h.last, Bool.false_eq_true, if_false]

/-- A separator has no place in a name. -/
theorem IsPlain.isSeparator (h : IsPlain c) : isSeparator c = false := by
  refine Bool.eq_false_iff.mpr fun hseparator => ?_
  have hforbidden : isForbiddenAscii c = true := by
    rcases Bool.or_eq_true_iff.mp hseparator with hzero | hmem
    · simp [isForbiddenAscii, of_decide_eq_true hzero]
    · have hlist : c ∈ "\t\n\r #/:<>?@[\\]^|".toList := List.contains_iff_mem.mp hmem
      have hall : "\t\n\r #/:<>?@[\\]^|".toList.all isForbiddenAscii = true := by decide
      exact List.all_eq_true.mp hall c hlist
  exact Bool.false_ne_true (h.2.symm.trans hforbidden)

theorem ne_of_isSeparator (h : isSeparator c = false) {sign : Char}
    (hsign : isSeparator sign = true) : c ≠ sign := by
  rintro rfl
  exact Bool.false_ne_true (h.symm.trans hsign)

/-- Schemes that do not say what hosts are take a text without separators as it is. -/
theorem readVerbatim_of_isSeparator (h : ∀ c ∈ text, isSeparator c = false) :
    Host.readVerbatim text = .ok (.verbatim (String.ofList text)) := by
  have hbracket : bracketed? text = none :=
    bracketed?_eq_none fun hmem => ne_of_isSeparator (h _ hmem) (by decide) rfl
  have hseparator : text.any isSeparator = false := by simpa using h
  rw [Host.readVerbatim, hbracket, hseparator]
  rfl

end Url

end Workflow
