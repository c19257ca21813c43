import Workflow.Proofs.Document.Concerns
import Workflow.Proofs.Run.Names
import Workflow.Proofs.Template.Signs
import Workflow.Proofs.Url.Layout

/-!
# Addresses that are read before their references are resolved

The URL of a step is checked with one word in the place of every reference, and with a
scheme in front if a reference comes first. The word fits where any word fits: in a path, a
query or a user, in a host that is a name, in a scheme behind its first letter. It fits no
port number and no IP address, and it is not always what a reference at the head stands for.
So the check is sure to accept what can be used if the references of a URL stand for words
or come behind the end of the host.
-/

namespace Workflow.Validation.Address

open Semantics (maskedUrl)
open Template (Sign Scope signs resolveString)
open Unicode (isBlank trim trimChars)
open Url (Closed IsHost IsName IsPortNumber IsScheme IsSlash IsSlashes SchemeKind counted
  endsAuthority isCounted
  isEdge isSchemeChar isSeparator numberText schemeKind schemeOf)

/-! ## What is read -/

/-- The word that stands for every reference. -/
def word : List Char := "placeholder".toList

/-- Signs with the word in the places of references. -/
def masked (signs : List Sign) : List Char := Sign.fillAll (fun _ => word) signs

@[simp] theorem masked_nil : masked [] = [] := rfl

@[simp] theorem masked_char (c : Char) (signs : List Sign) :
    masked (.char c :: signs) = c :: masked signs := rfl

@[simp] theorem masked_reference (token : Template.Token) (signs : List Sign) :
    masked (.reference token :: signs) = word ++ masked signs := rfl

@[simp] theorem masked_append (signs more : List Sign) :
    masked (signs ++ more) = masked signs ++ masked more :=
  Sign.fillAll_append _ _

@[simp] theorem masked_map_char (cs : List Char) : masked (cs.map .char) = cs :=
  Sign.fillAll_map_char cs

/-- The signs of a URL, behind a scheme if a reference comes first. -/
def candidate (raw : String) : List Sign :=
  if ['$', '\x7b'].isPrefixOf (trimChars raw.toList) then
    "http://".toList.map .char ++ signs (trim raw)
  else signs (trim raw)

theorem toList_maskedUrl (raw : String) : (maskedUrl raw).toList = masked (candidate raw) := by
  have hmask : (Template.mask (trim raw) "placeholder").toList = masked (signs (trim raw)) := by
    rw [Template.mask_placeholder, Template.toList_substitute]
    rfl
  rw [maskedUrl, candidate]
  split
  · rw [String.toList_append, hmask, masked_append, masked_map_char]
  · exact hmask

theorem read_maskedUrl (raw : String) :
    Url.read (maskedUrl raw) = Url.read (String.ofList (masked (candidate raw))) := by
  rw [← toList_maskedUrl, String.ofList_toList]

/-- A step is told that its URL is invalid only if it is no URL with the word in it. -/
theorem exists_of_invalidUrl {s : StepView} {finding : Finding}
    (h : finding ∈ (Semantics.http s).errors) (hcode : finding.problem.code = "INVALID_URL") :
    ∃ raw fault, s.text? "url" = some raw ∧ Url.read (maskedUrl raw) = .error fault := by
  have hurl : finding ∈ (Semantics.url s).errors := by
    simp only [Semantics.http, Findings.errors_append, List.mem_append] at h
    rcases h with (h | h) | h
    · exact h
    · split at h
      · cases h
      · obtain ⟨-, h⟩ := Findings.mem_errors_given.mp h
        obtain rfl := List.mem_singleton.mp h
        simp [Problem.code] at hcode
    · split at h
      · obtain ⟨-, h⟩ := Findings.mem_errors_given.mp h
        cases h
      · cases h
  unfold Semantics.url at hurl
  split at hurl
  · obtain rfl := List.mem_singleton.mp hurl
    simp [Problem.code] at hcode
  · next raw hraw =>
    split at hurl
    · obtain rfl := List.mem_singleton.mp hurl
      simp [Problem.code] at hcode
    · split at hurl
      · cases hurl
      · next fault hfault => exact ⟨raw, fault, hraw, hfault⟩

/-! ## What can be used -/

section

variable {scope : Scope} {raw text : String} {url : Url}

theorem isBlank_of_isAlpha {c : Char} (h : c.isAlpha = true) : isBlank c = false :=
  Template.isBlank_of_isNameChar
    (Bool.or_eq_true_iff.mpr (Or.inl (Bool.or_eq_true_iff.mpr (Or.inl h))))

/-- In front of a URL there is nothing that counts. -/
theorem isEdge_of_blank {before rest : List Char} (hblank : ∀ c ∈ before, isBlank c = true)
    (hfirst : ∃ first ∈ (counted (before ++ rest)).head?, first.isAlpha = true) :
    ∀ c ∈ before, isEdge c = true := by
  induction before with
  | nil => exact nofun
  | cons b before ih =>
    obtain ⟨hb, hblank⟩ := List.forall_mem_cons.mp hblank
    by_cases hedge : isEdge b = true
    · rw [← List.singleton_append, List.append_assoc,
        Url.counted_edges_append (List.forall_mem_singleton.mpr hedge)] at hfirst
      exact List.forall_mem_cons.mpr ⟨hedge, ih hblank hfirst⟩
    · obtain ⟨first, hfirst, halpha⟩ := hfirst
      rw [List.cons_append, Url.head?_counted (Bool.not_eq_true _ ▸ hedge)] at hfirst
      obtain rfl := Option.some.inj hfirst
      exact absurd (hb.symm.trans (isBlank_of_isAlpha halpha)) (by decide)

/-- What can be used is a URL also without the blanks in front of it. -/
theorem exists_read_of_usable (htext : resolveString scope raw = .ok text)
    (hurl : Url.read text = .ok url) :
    ∃ behind, (∀ c ∈ behind, c ∈ raw.toList.rtakeWhile isBlank) ∧
      Url.read (String.ofList (Sign.fillAll scope.fill (signs (trim raw)) ++ behind)) =
        .ok url := by
  obtain ⟨before, behind, hresolved, hwritten, hbefore, hbehind⟩ :=
    Template.exists_blanks_of_resolveString htext
  refine ⟨behind, fun c hc => ?_, ?_⟩
  · rw [hwritten, List.rtakeWhile, List.mem_reverse, List.reverse_append,
      List.takeWhile_append_of_pos fun c hc => hbehind c (List.mem_reverse.mp hc)]
    exact List.mem_append_left _ (List.mem_reverse.mpr hc)
  · rw [← String.ofList_toList (s := text), Url.read_eq_parse, Url.significant_ofList, hresolved,
      List.append_assoc] at hurl
    rw [Url.read_eq_parse, Url.significant_ofList,
      ← Url.counted_edges_append (isEdge_of_blank hbefore (Url.exists_alpha_of_parse hurl))]
    exact hurl

/-- Where a letter comes first, it is no reference that does. -/
theorem candidate_eq (h : ∃ first ∈ (counted (Sign.front (signs (trim raw)))).head?,
      first.isAlpha = true) :
    candidate raw = signs (trim raw) := by
  rw [candidate, if_neg]
  intro hprefix
  obtain ⟨rest, hrest⟩ := List.isPrefixOf_iff_prefix.mp hprefix
  obtain ⟨behind, hfront⟩ := Sign.exists_fillAll_eq_front_append (signs (trim raw))
  have hwritten : (trim raw).toList = ['$', '\x7b'] ++ rest := String.toList_ofList.trans hrest.symm
  rw [← Template.fillAll_raw, hfront] at hwritten
  obtain ⟨first, hfirst, halpha⟩ := h
  generalize Sign.front (signs (trim raw)) = front at hfirst hwritten
  cases front with
  | nil => cases hfirst
  | cons c front =>
    obtain rfl : c = '$' := (List.cons.inj hwritten).1
    rw [Url.head?_counted (by decide)] at hfirst
    obtain rfl := Option.some.inj hfirst
    exact absurd halpha (by decide)

/-- A reference behind the end of the host does no harm. -/
theorem exists_read_of_closed (htext : resolveString scope raw = .ok text)
    (hurl : Url.read text = .ok url) (hclosed : Closed (counted (Sign.front (signs (trim raw))))) :
    ∃ url, Url.read (maskedUrl raw) = .ok url := by
  obtain ⟨behind, -, hread⟩ := exists_read_of_usable htext hurl
  obtain ⟨rest, hfront⟩ := Sign.exists_fillAll_eq_front_append (signs (trim raw))
  rw [hfront, List.append_assoc, Url.read_append_of_closed hclosed] at hread
  refine ⟨url, ?_⟩
  rw [read_maskedUrl, candidate_eq hclosed.exists_alpha, masked, hfront,
    Url.read_append_of_closed hclosed, hread]

/-- Without references the text itself is read. -/
theorem exists_read_of_written (htext : resolveString scope raw = .ok text)
    (hurl : Url.read text = .ok url) (hwritten : Template.tokens raw = [])
    (hblank : ∀ c ∈ raw.toList.rtakeWhile isBlank, isEdge c = true) :
    ∃ url, Url.read (maskedUrl raw) = .ok url := by
  obtain ⟨behind, hbehind, hread⟩ := exists_read_of_usable htext hurl
  have hsigns : signs (trim raw) = (trim raw).toList.map .char :=
    Template.signs_of_tokens ((Template.tokens_trim raw).trans hwritten)
  rw [hsigns, Sign.fillAll_map_char, Url.read_eq_parse, Url.significant_ofList,
    Url.counted_append_edges fun c hc => hblank c (hbehind c hc)] at hread
  have hfirst := Url.exists_alpha_of_parse hread
  refine ⟨url, ?_⟩
  rw [read_maskedUrl, candidate_eq (by rwa [hsigns, Sign.front_map_char]), hsigns, masked_map_char,
    Url.read_eq_parse, Url.significant_ofList, hread]

end

/-! ## Signs that count -/

/-- Whether a sign does not count at the ends of a URL. -/
def isEdgeSign : Sign → Bool
  | .char c => isEdge c
  | .reference _ => false

/-- Whether a sign counts inside a URL. -/
def isCountedSign : Sign → Bool
  | .char c => isCounted c
  | .reference _ => true

def countedSigns (signs : List Sign) : List Sign :=
  ((signs.dropWhile isEdgeSign).rdropWhile isEdgeSign).filter isCountedSign

theorem dropWhile_masked (signs : List Sign) :
    (masked signs).dropWhile isEdge = masked (signs.dropWhile isEdgeSign) := by
  induction signs with
  | nil => rfl
  | cons sign rest ih =>
    cases sign with
    | char c => by_cases hc : isEdge c = true <;> simp [hc, isEdgeSign, ih]
    | reference token => rfl

theorem rdropWhile_masked (signs : List Sign) :
    (masked signs).rdropWhile isEdge = masked (signs.rdropWhile isEdgeSign) := by
  induction signs using List.reverseRecOn with
  | nil => rfl
  | append_singleton signs sign ih =>
    cases sign with
    | char c =>
      rw [masked_append, masked_char, masked_nil, List.rdropWhile_concat,
        List.rdropWhile_concat, ih]
      by_cases hc : isEdge c = true <;> simp [hc, isEdgeSign]
    | reference token =>
      have hword : word.rdropWhile isEdge = word := by decide
      rw [List.rdropWhile_concat, if_neg (by simp [isEdgeSign]), masked_append, masked_reference,
        masked_nil, List.append_nil, Url.rdropWhile_append, hword, if_neg (by decide)]

theorem filter_masked (signs : List Sign) :
    (masked signs).filter isCounted = masked (signs.filter isCountedSign) := by
  induction signs with
  | nil => rfl
  | cons sign rest ih =>
    cases sign with
    | char c => by_cases hc : isCounted c = true <;> simp [hc, isCountedSign, ih]
    | reference token =>
      have hword : word.filter isCounted = word := by decide
      rw [masked_reference, List.filter_append, hword, ih]
      rfl

/-- The word counts. -/
theorem counted_masked (signs : List Sign) :
    counted (masked signs) = masked (countedSigns signs) := by
  rw [counted, dropWhile_masked, rdropWhile_masked, filter_masked, countedSigns]

/-! ## What is laid out as a URL -/

/-- Every character that is written out satisfies a property. -/
def Written (p : Char → Prop) (signs : List Sign) : Prop := ∀ c, Sign.char c ∈ signs → p c

/-- A scheme whose first letter is written out. -/
structure IsSchemeTemplate (name : List Sign) : Prop where
  letter : ∃ c, name.head? = some (.char c) ∧ c.isAlpha = true
  chars : Written (isSchemeChar · = true) name

/-- The kind of a scheme with the word in it. -/
def kindOf (name : List Sign) : SchemeKind := schemeKind (schemeOf (masked name))

/-- A host that is a name with the word in it, or that has no references. Schemes that do not say
what hosts are leave more to references. -/
inductive IsHostTemplate (kind : SchemeKind) : List Sign → Prop
  | name {host : List Sign} (hname : IsName (masked host)) : IsHostTemplate kind host
  | other {host : List Sign} (hkind : kind = .other) (hne : host ≠ [])
    (hinside : Written (isSeparator · = false) host) : IsHostTemplate kind host
  | written {host : List Char} (hhost : IsHost kind host) : IsHostTemplate kind (host.map .char)

def userSigns : Option (List Sign) → List Sign
  | none => []
  | some user => user ++ [.char '@']

/-- References stand where a URL has words: in the scheme, the user and the host, and behind these.
A port number is written out, and a character that ends the host comes next. -/
inductive LaidOut : List Sign → Prop
  | hosted {name : List Sign} {slashes : List Char} {user : Option (List Sign)} {host : List Sign}
    {number : Option (List Char)} {rest : List Sign} (hname : IsSchemeTemplate name)
    (hslashes : IsSlashes (kindOf name) slashes)
    (huser : ∀ signs ∈ user, Written (endsAuthority (kindOf name) · = false) signs)
    (hhost : IsHostTemplate (kindOf name) host) (hnumber : ∀ digits ∈ number, IsPortNumber digits)
    (hfile : kindOf name = .file → user = none ∧ number = none)
    (hrest : ∀ sign ∈ rest.head?, ∃ c, sign = .char c ∧ endsAuthority (kindOf name) c = true) :
    LaidOut (name ++ .char ':' :: (slashes.map .char ++
      (userSigns user ++ (host ++ (numberText number).map .char) ++ rest)))
  | hostless {name : List Sign} {slash : List Char} {rest : List Sign}
    (hname : IsSchemeTemplate name)
    (hkind : kindOf name ≠ .web) (hslash : IsSlash slash)
    (hrest : ∀ c, rest.head? = some (.char c) → c ≠ '/' ∧ c ≠ '\\') :
    LaidOut (name ++ .char ':' :: (slash.map .char ++ rest))

section

variable {p : Char → Prop} {name host rest template : List Sign} {kind : SchemeKind}

theorem word_letters : ∀ c ∈ word, c.isAlpha = true := by
  have hall : word.all Char.isAlpha = true := by decide
  exact List.all_eq_true.mp hall

theorem endsAuthority_of_mem_word {c : Char} (hc : c ∈ word) : endsAuthority kind c = false := by
  have hall : (word.all fun c => !endsAuthority kind c) = true := by cases kind <;> decide
  simpa using List.all_eq_true.mp hall c hc

theorem isSeparator_of_mem_word {c : Char} (hc : c ∈ word) : isSeparator c = false := by
  have hall : (word.all fun c => !isSeparator c) = true := by decide
  simpa using List.all_eq_true.mp hall c hc

theorem Written.masked (h : Written p template) (hword : ∀ c ∈ word, p c) :
    ∀ c ∈ masked template, p c := by
  intro c hc
  obtain ⟨sign, hsign, hc⟩ := List.mem_flatMap.mp hc
  cases sign with
  | char d =>
    obtain rfl := List.mem_singleton.mp hc
    exact h c hsign
  | reference token => exact hword c hc

theorem IsSchemeTemplate.isScheme (h : IsSchemeTemplate name) : IsScheme (masked name) := by
  obtain ⟨c, hhead, halpha⟩ := h.letter
  obtain ⟨others, rfl⟩ := List.head?_eq_some_iff.mp hhead
  refine ⟨⟨c, rfl, halpha⟩, h.chars.masked fun c hc => ?_⟩
  simp [isSchemeChar, Char.isAlphanum, word_letters c hc]

theorem IsHostTemplate.isHost (h : IsHostTemplate kind host) : IsHost kind (masked host) := by
  cases h with
  | name hname => exact hname.isHost kind
  | other hkind hne hinside =>
    subst hkind
    refine Url.isHost_other ?_ (hinside.masked fun c hc => isSeparator_of_mem_word hc)
    obtain ⟨sign, rest, rfl⟩ := List.exists_cons_of_ne_nil hne
    cases sign with
    | char | reference => exact List.cons_ne_nil _ _
  | written hhost => rwa [masked_map_char]

theorem isBehind_masked (h : ∀ sign ∈ rest.head?, ∃ c, sign = .char c ∧
      endsAuthority kind c = true) :
    Url.IsBehind kind (masked rest) := by
  cases rest with
  | nil => exact nofun
  | cons sign rest =>
    obtain ⟨c, rfl, hc⟩ := h sign rfl
    rintro d hd
    obtain rfl : c = d := Option.some.inj hd
    exact hc

theorem beginsInside_masked (h : ∀ c, rest.head? = some (.char c) → c ≠ '/' ∧ c ≠ '\\') :
    Url.BeginsInside (masked rest) := by
  match rest with
  | [] => exact nofun
  | .char c :: rest =>
    rintro d hd
    obtain rfl : c = d := Option.some.inj hd
    exact h c rfl
  | .reference token :: rest =>
    rintro d hd
    obtain rfl : 'p' = d := Option.some.inj hd
    decide

/-- Where references stand for words, the word fits. -/
theorem LaidOut.exists_parse (h : LaidOut template) :
    ∃ url, Url.parse (masked template) = .ok url := by
  cases h with
  | @hosted name slashes user host number rest hname hslashes huser hhost hnumber hfile hrest =>
    have huser' : ∀ text ∈ user.map masked, ∀ c ∈ text, endsAuthority (kindOf name) c = false := by
      intro text htext
      obtain ⟨signs, hsigns, rfl⟩ := Option.map_eq_some_iff.mp htext
      exact (huser signs hsigns).masked fun c hc => endsAuthority_of_mem_word hc
    have hfile' : kindOf name = .file → user.map masked = none ∧ number = none := by
      intro hkind
      obtain ⟨rfl, rfl⟩ := hfile hkind
      exact ⟨rfl, rfl⟩
    have hmasked : masked (name ++ .char ':' :: (slashes.map .char ++
        (userSigns user ++ (host ++ (numberText number).map .char) ++ rest))) =
        masked name ++ ':' :: (slashes ++ (Url.placeText (user.map masked) (masked host) number ++
          masked rest)) := by
      cases user <;> simp [userSigns, Url.placeText, Url.userText]
    rw [hmasked]
    exact Url.parse_hosted hname.isScheme hslashes huser' hhost.isHost hnumber hfile'
      (isBehind_masked hrest)
  | @hostless name slash rest hname hkind hslash hrest =>
    have hmasked : masked (name ++ .char ':' :: (slash.map .char ++ rest)) =
        masked name ++ ':' :: (slash ++ masked rest) := by
      simp
    rw [hmasked]
    exact Url.parse_hostless hname.isScheme hkind hslash (beginsInside_masked hrest)

end

/-! ## What the check accepts -/

/-- URLs whose references the check reads as they are meant: there are none, they stand behind the
end of the host, or they stand for words. -/
inductive Foreseen (raw : String) : Prop
  | written (hplain : Template.tokens raw = [])
    (hblank : ∀ c ∈ raw.toList.rtakeWhile isBlank, isEdge c = true)
  | closed (hclosed : Closed (counted (Sign.front (signs (trim raw)))))
  | laidOut (hlaid : LaidOut (countedSigns (candidate raw)))

/-- If the references of a URL are foreseen and it can be used in some scope,
it is not said to be invalid. -/
theorem usable_address_accepted {s : StepView} {raw text : String} {scope : Scope} {url : Url}
    (hraw : s.text? "url" = some raw) (htext : resolveString scope raw = .ok text)
    (hurl : Url.read text = .ok url) (hforeseen : Foreseen raw) :
    ∀ finding ∈ (Semantics.http s).errors, finding.problem.code ≠ "INVALID_URL" := by
  intro finding hfinding hcode
  obtain ⟨other, fault, hother, hfault⟩ := exists_of_invalidUrl hfinding hcode
  obtain rfl : raw = other := Option.some.inj (hraw.symm.trans hother)
  have hread : ∃ url, Url.read (maskedUrl raw) = .ok url := by
    cases hforeseen with
    | written hplain hblank => exact exists_read_of_written htext hurl hplain hblank
    | closed hclosed => exact exists_read_of_closed htext hurl hclosed
    | laidOut hlaid =>
      rw [read_maskedUrl, Url.read_eq_parse, Url.significant_ofList, counted_masked]
      exact hlaid.exists_parse
  obtain ⟨read, hread⟩ := hread
  cases hfault.symm.trans hread

/-- A URL that begins with a reference to its base. -/
theorem usable_address_accepted_with_base :
    let s : StepView := ⟨0, "call", .http, [], some [("url", .str "$\x7bbase\x7d/items")], none⟩
    let scope : Scope := { Template.mirror with input? := fun _ => some (.str "http://[::1]") }
    s.text? "url" = some "$\x7bbase\x7d/items" ∧
      resolveString scope "$\x7bbase\x7d/items" = .ok "http://[::1]/items" ∧
      (∃ url, Url.read "http://[::1]/items" = .ok url) ∧ Foreseen "$\x7bbase\x7d/items" ∧
      ∀ finding ∈ (Semantics.http s).errors, finding.problem.code ≠ "INVALID_URL" := by
  intro s scope
  have hraw : s.text? "url" = some "$\x7bbase\x7d/items" := rfl
  have htext : resolveString scope "$\x7bbase\x7d/items" = .ok "http://[::1]/items" := rfl
  have hurl : Url.read "http://[::1]/items" =
      .ok ⟨"http", some (.ipv6 [0, 0, 0, 0, 0, 0, 0, 1]), none⟩ := by
    decide +kernel
  have hscheme : IsSchemeTemplate ("http".toList.map .char) := by
    refine ⟨⟨'h', rfl, rfl⟩, fun c hc => ?_⟩
    obtain ⟨d, hd, heq⟩ := List.mem_map.mp hc
    obtain rfl := Sign.char.inj heq
    have hall : "http".toList.all isSchemeChar = true := by decide
    exact List.all_eq_true.mp hall d hd
  have hkind : kindOf ("http".toList.map .char) = .web := by decide +kernel
  have hname : IsName (masked [.reference ⟨"base"⟩]) := by
    have hplain : (masked [.reference ⟨"base"⟩]).all (fun c => Url.IsPlain c) = true := by
      decide +kernel
    exact ⟨by decide, fun c hc => of_decide_eq_true (List.all_eq_true.mp hplain c hc), by
      decide +kernel, by decide +kernel⟩
  have hcandidate : countedSigns (candidate "$\x7bbase\x7d/items") = "http".toList.map .char ++
      .char ':' :: (['/', '/'].map .char ++ (userSigns none ++ ([.reference ⟨"base"⟩] ++
        (numberText none).map .char) ++ "/items".toList.map .char)) := by
    decide +kernel
  have hforeseen : Foreseen "$\x7bbase\x7d/items" := by
    apply Foreseen.laidOut
    rw [hcandidate]
    refine LaidOut.hosted hscheme ?_ nofun (.name hname) nofun (fun _ => ⟨rfl, rfl⟩) ?_
    · rw [hkind]
      simp [IsSlashes]
    · rw [hkind]
      rintro sign hsign
      exact ⟨'/', (Option.some.inj hsign).symm, rfl⟩
  exact ⟨hraw, htext, ⟨_, hurl⟩, hforeseen, usable_address_accepted hraw htext hurl hforeseen⟩

/-- A port number may be a reference and make a URL, but the word is no number. -/
theorem usable_address_refused_with_port :
    let s : StepView :=
      ⟨0, "call", .http, [], some [("url", .str "http://[::1]:$\x7bport\x7d/")], none⟩
    let scope : Scope := { Template.mirror with input? := fun _ => some (.str "8080") }
    s.text? "url" = some "http://[::1]:$\x7bport\x7d/" ∧
      resolveString scope "http://[::1]:$\x7bport\x7d/" = .ok "http://[::1]:8080/" ∧
      (∃ url, Url.read "http://[::1]:8080/" = .ok url) ∧
      ∃ finding ∈ (Semantics.http s).errors, finding.problem.code = "INVALID_URL" := by
  intro s scope
  have hraw : s.text? "url" = some "http://[::1]:$\x7bport\x7d/" := rfl
  have htext : resolveString scope "http://[::1]:$\x7bport\x7d/" = .ok "http://[::1]:8080/" := by
    decide +kernel
  have hurl : Url.read "http://[::1]:8080/" =
      .ok ⟨"http", some (.ipv6 [0, 0, 0, 0, 0, 0, 0, 1]), some 8080⟩ := by
    decide +kernel
  have hfound : (Semantics.http s).errors.any (·.problem.code = "INVALID_URL") = true := by
    decide +kernel
  obtain ⟨finding, hfinding, hcode⟩ := List.any_eq_true.mp hfound
  exact ⟨hraw, htext, ⟨_, hurl⟩, finding, hfinding, of_decide_eq_true hcode⟩

end Workflow.Validation.Address
