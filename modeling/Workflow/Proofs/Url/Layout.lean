import Mathlib.Data.List.DropRight
import Workflow.Proofs.Url.Host
import Workflow.Url.Basic

/-!
# The parts of a URL that can be wrong

What comes behind the host and the port number of a URL cannot be wrong. So a text whose host has
come to its end is a URL or not whatever follows, and a text that is laid out as a URL is one if its
scheme, its host and its port number are what they should be.
-/

namespace Workflow.Url

open Label (isForbiddenAscii)

/-! ## Characters that count -/

/-- Whether a character does not count at the ends of a text. -/
def isEdge (c : Char) : Bool := c.toNat ≤ 32

/-- Whether a character counts inside a text. -/
def isCounted (c : Char) : Bool := !(c = '\t' || c = '\n' || c = '\r')

/-- The characters of a text that count. -/
def counted (cs : List Char) : List Char :=
  ((cs.dropWhile isEdge).rdropWhile isEdge).filter isCounted

theorem significant_ofList (cs : List Char) : significant (String.ofList cs) = counted cs := by
  rw [significant, String.toList_ofList]
  rfl

section

variable {c : Char} {cs front more : List Char}

theorem isCounted_of_not_isEdge (h : isEdge c = false) : isCounted c = true := by
  have hlarge : 32 < c.toNat := Nat.lt_of_not_le (of_decide_eq_false h)
  have hne : ∀ d : Char, d.toNat ≤ 32 → c ≠ d := by
    rintro d hd rfl
    omega
  simp [isCounted, hne '\t' (by decide), hne '\n' (by decide), hne '\r' (by decide)]

theorem rdropWhile_append {α : Type} (p : α → Bool) (xs ys : List α) :
    (xs ++ ys).rdropWhile p = if ys.rdropWhile p = [] then
      xs.rdropWhile p else xs ++ ys.rdropWhile p := by
  simp only [List.rdropWhile, List.reverse_append, List.dropWhile_append, List.reverse_eq_nil_iff,
    List.isEmpty_iff]
  split <;> simp

theorem rdropWhile_prefix_append {α : Type} (p : α → Bool) (xs ys : List α) :
    xs.rdropWhile p <+: (xs ++ ys).rdropWhile p := by
  rw [rdropWhile_append]
  split
  · exact List.prefix_rfl
  · exact (List.rdropWhile_prefix p _).trans (List.prefix_append _ _)

theorem rdropWhile_cons {p : Char → Bool} (hc : p c = false) (rest : List Char) :
    (c :: rest).rdropWhile p = c :: rest.rdropWhile p := by
  have hsingle : [c].rdropWhile p = [c] := by simp [List.rdropWhile, hc]
  have happend := rdropWhile_append p [c] rest
  rw [List.singleton_append, hsingle] at happend
  rw [happend]
  split
  · next hnil => rw [hnil]
  · rfl

/-- What counts in the front of a text counts in the text. -/
theorem counted_prefix_append (front more : List Char) :
    counted front <+: counted (front ++ more) := by
  rw [counted, counted, List.dropWhile_append]
  split
  · next hempty =>
    rw [List.isEmpty_iff.mp hempty]
    exact List.nil_prefix
  · exact (rdropWhile_prefix_append _ _ _).filter _

theorem counted_edges_append (h : ∀ c ∈ front, isEdge c = true) :
    counted (front ++ cs) = counted cs := by
  rw [counted, counted, List.dropWhile_append_of_pos h]

theorem counted_append_edges (h : ∀ c ∈ more, isEdge c = true) :
    counted (cs ++ more) = counted cs := by
  have hmore : more.rdropWhile isEdge = [] := List.rdropWhile_eq_nil_iff.mpr h
  rw [counted, counted, List.dropWhile_append]
  split
  · next hempty => rw [List.isEmpty_iff.mp hempty, List.dropWhile_eq_nil_iff.mpr h]
  · rw [rdropWhile_append, if_pos hmore]

theorem head?_counted (h : isEdge c = false) (cs : List Char) :
    (counted (c :: cs)).head? = some c := by
  rw [counted, List.dropWhile_cons_of_neg (by simp [h]), rdropWhile_cons h,
    List.filter_cons_of_pos (isCounted_of_not_isEdge h), List.head?_cons]

end

def parse (cs : List Char) : Except Fault Url :=
  match scheme? cs with
  | none => .error .relative
  | some (scheme, rest) =>
    match schemeKind scheme with
    | .file => readFile rest
    | .web => readAuthority scheme .web (rest.dropWhile fun c => c = '/' || c = '\\')
    | .other =>
      match rest with
      | '/' :: '/' :: rest => readAuthority scheme .other rest
      | _ => .ok ⟨scheme, none, none⟩

theorem read_eq_parse (text : String) : read text = parse (significant text) := rfl

/-! ## Schemes -/

section

variable {name rest cs : List Char} {scheme : String}

/-- A character of a scheme. -/
abbrev isSchemeChar (c : Char) : Bool := c.isAlphanum || c = '+' || c = '-' || c = '.'

/-- A scheme in the form in which schemes are compared. -/
def schemeOf (name : List Char) : String := String.ofList (name.map Char.toLower)

/-- A scheme as it is written: a letter, then letters, digits and a few signs. -/
def IsScheme (name : List Char) : Prop :=
  (∃ first ∈ name.head?, first.isAlpha = true) ∧ ∀ c ∈ name, isSchemeChar c = true

theorem scheme?_append (h : IsScheme name) (rest : List Char) :
    scheme? (name ++ ':' :: rest) = some (schemeOf name, rest) := by
  obtain ⟨⟨first, hfirst, halpha⟩, hchars⟩ := h
  obtain ⟨others, rfl⟩ := List.head?_eq_some_iff.mp hfirst
  have htake : (first :: (others ++ ':' :: rest)).takeWhile isSchemeChar = first :: others := by
    rw [← List.cons_append, List.takeWhile_append_of_pos hchars,
      List.takeWhile_cons_of_neg (by decide), List.append_nil]
  have hdrop : (first :: (others ++ ':' :: rest)).drop (first :: others).length = ':' :: rest :=
    List.drop_left
  rw [List.cons_append, scheme?, if_pos halpha]
  dsimp only
  rw [htake, hdrop]
  rfl

theorem exists_of_scheme? (h : scheme? cs = some (scheme, rest)) :
    ∃ name, IsScheme name ∧ scheme = schemeOf name ∧ cs = name ++ ':' :: rest := by
  unfold scheme? at h
  split at h
  · next first others =>
    split at h
    · next halpha =>
      dsimp only at h
      split at h
      · next behind hdrop =>
        obtain ⟨rfl, rfl⟩ := Prod.mk.inj (Option.some.inj h)
        refine ⟨(first :: others).takeWhile isSchemeChar, ⟨⟨first, ?_, halpha⟩, ?_⟩, rfl, ?_⟩
        · rw [List.takeWhile_cons_of_pos (by simp [isSchemeChar, Char.isAlphanum, halpha])]
          rfl
        · exact fun c hc => List.mem_takeWhile_imp hc
        · rw [← hdrop]
          exact (List.prefix_iff_eq_append.mp (List.takeWhile_prefix _)).symm
      · cases h
    · cases h
  · cases h

end

/-! ## Where the host stands -/

/-- What stands behind the slashes in front of a host. Schemes that do not say what hosts are, and
files, have a host only behind two of them. -/
def authority? : SchemeKind → List Char → Option (List Char)
  | .web, rest => some (rest.dropWhile fun c => c = '/' || c = '\\')
  | .other, '/' :: '/' :: rest => some rest
  | .file, a :: b :: rest =>
    if (a = '/' || a = '\\') && (b = '/' || b = '\\') then some rest else none
  | _, _ => none

/-- The host of a file, which may be empty or a drive. -/
def readFileHost (text : List Char) : Except Fault Url :=
  let host := text.takeWhile fun c => !endsAuthority .file c
  if host.isEmpty || isDrive host then .ok ⟨"file", none, none⟩
  else (Host.read host).map fun host => ⟨"file", some host, none⟩

def readPlace (scheme : String) (kind : SchemeKind) (text : List Char) : Except Fault Url :=
  match kind with
  | .file => readFileHost text
  | kind => readAuthority scheme kind text

theorem eq_file_of_schemeKind {scheme : String} (h : schemeKind scheme = .file) :
    scheme = "file" := by
  unfold schemeKind at h
  split at h
  · assumption
  · split at h <;> cases h

/-- Behind a scheme there is only the host that can be wrong. -/
theorem parse_eq {cs rest : List Char} {scheme : String} (h : scheme? cs = some (scheme, rest)) :
    parse cs =
      match authority? (schemeKind scheme) rest with
      | none => .ok ⟨scheme, none, none⟩
      | some text => readPlace scheme (schemeKind scheme) text := by
  rw [parse, h]
  cases hkind : schemeKind scheme with
  | web =>
    simp only [hkind]
    rfl
  | other =>
    simp only [hkind]
    split
    · rfl
    · next hslashes =>
      have hnone : authority? .other rest = none := by
        unfold authority?
        split
        · next hkind => cases hkind
        · exact absurd rfl (hslashes _)
        · next hkind => cases hkind
        · rfl
      rw [hnone]
  | file =>
    obtain rfl := eq_file_of_schemeKind hkind
    simp only [hkind]
    match rest with
    | [] | [_] => rfl
    | a :: b :: rest =>
      rw [readFile, authority?]
      dsimp only
      split
      · simp only [readPlace, readFileHost]
        split
        · rfl
        · cases Host.read _ <;> rfl
      · rfl

/-! ## Texts whose host has come to its end -/

section

variable {cs rest text more : List Char} {scheme : String} {kind : SchemeKind} {c : Char}

/-- What decides whether a text is a URL lies behind: a character that ends the host has come, or
there is no host whatever follows. -/
inductive Closed (cs : List Char) : Prop
  | host {scheme : String} {rest text : List Char} {c : Char}
    (hscheme : scheme? cs = some (scheme, rest))
    (htext : authority? (schemeKind scheme) rest = some text) (hc : c ∈ text)
    (hends : endsAuthority (schemeKind scheme) c = true)
  | path {scheme : String} {rest : List Char} (hscheme : scheme? cs = some (scheme, rest))
    (hpath : ∀ more, authority? (schemeKind scheme) (rest ++ more) = none)

theorem scheme?_append_of_eq (h : scheme? cs = some (scheme, rest)) (more : List Char) :
    scheme? (cs ++ more) = some (scheme, rest ++ more) := by
  obtain ⟨name, hname, rfl, rfl⟩ := exists_of_scheme? h
  rw [List.append_assoc, List.cons_append, scheme?_append hname]

theorem authority?_append (h : authority? kind rest = some text) (hne : text ≠ [])
    (more : List Char) :
    authority? kind (rest ++ more) = some (text ++ more) := by
  unfold authority? at h
  split at h
  · obtain rfl := Option.some.inj h
    rw [authority?, List.dropWhile_append, if_neg (by simpa using hne)]
  · obtain rfl := Option.some.inj h
    rfl
  · next a b rest =>
    split at h
    · next hslashes =>
      obtain rfl := Option.some.inj h
      exact if_pos hslashes
    · cases h
  · cases h

theorem length_takeWhile_lt {p : Char → Bool} (hc : c ∈ text) (hp : p c = false) :
    (text.takeWhile p).length < text.length := by
  refine Nat.lt_of_le_of_ne (List.takeWhile_prefix p).length_le fun hlength => ?_
  have hall := (List.takeWhile_prefix p).eq_of_length hlength
  have hkept : p c = true := List.mem_takeWhile_imp (hall.symm ▸ hc)
  exact Bool.false_ne_true (hp.symm.trans hkept)

theorem takeWhile_append_of_mem {p : Char → Bool} (hc : c ∈ text) (hp : p c = false)
    (more : List Char) :
    (text ++ more).takeWhile p = text.takeWhile p := by
  rw [List.takeWhile_append, if_neg (length_takeWhile_lt hc hp).ne]

/-- What stands behind the end of the host does not matter. -/
theorem readPlace_append (hc : c ∈ text) (hends : endsAuthority kind c = true) (more : List Char) :
    readPlace scheme kind (text ++ more) = readPlace scheme kind text := by
  have hp : (!endsAuthority kind c) = false := by rw [hends, Bool.not_true]
  have htake := takeWhile_append_of_mem (p := fun c => !endsAuthority kind c) hc hp more
  have hlt := length_takeWhile_lt (p := fun c => !endsAuthority kind c) hc hp
  have hmore : (text.takeWhile fun c => !endsAuthority kind c).length < (text ++ more).length :=
    Nat.lt_of_lt_of_le hlt (List.length_append ▸ Nat.le_add_right _ _)
  cases kind with
  | file =>
    simp only [readPlace, readFileHost]
    rw [htake]
  | web | other =>
    simp only [readPlace, readAuthority]
    rw [htake]
    simp only [hlt, hmore]

theorem parse_append_of_closed (h : Closed cs) (more : List Char) :
    parse (cs ++ more) = parse cs := by
  cases h with
  | host hscheme htext hc hends =>
    rw [parse_eq hscheme, parse_eq (scheme?_append_of_eq hscheme more), htext,
      authority?_append htext (List.ne_nil_of_mem hc)]
    exact readPlace_append hc hends more
  | path hscheme hpath =>
    have hnone := hpath []
    rw [List.append_nil] at hnone
    rw [parse_eq hscheme, parse_eq (scheme?_append_of_eq hscheme more), hpath, hnone]

/-- A text is a URL whatever is put behind the end of its host, or it never is. -/
theorem read_append_of_closed {front : List Char} (h : Closed (counted front)) (more : List Char) :
    read (String.ofList (front ++ more)) = read (String.ofList front) := by
  obtain ⟨behind, hbehind⟩ := counted_prefix_append front more
  rw [read_eq_parse, read_eq_parse, significant_ofList, significant_ofList, ← hbehind,
    parse_append_of_closed h]

theorem exists_alpha_of_scheme? (h : scheme? cs = some (scheme, rest)) :
    ∃ first ∈ cs.head?, first.isAlpha = true := by
  obtain ⟨name, ⟨⟨first, hfirst, halpha⟩, -⟩, -, rfl⟩ := exists_of_scheme? h
  obtain ⟨others, rfl⟩ := List.head?_eq_some_iff.mp hfirst
  exact ⟨first, rfl, halpha⟩

theorem Closed.exists_alpha (h : Closed cs) : ∃ first ∈ cs.head?, first.isAlpha = true := by
  cases h with
  | host hscheme | path hscheme => exact exists_alpha_of_scheme? hscheme

/-- A URL begins with a letter. -/
theorem exists_alpha_of_parse {url : Url} (h : parse cs = .ok url) :
    ∃ first ∈ cs.head?, first.isAlpha = true := by
  unfold parse at h
  split at h
  · cases h
  · next hscheme => exact exists_alpha_of_scheme? hscheme

end

/-! ## Texts that are laid out as URLs -/

def userText : Option (List Char) → List Char
  | none => []
  | some user => user ++ ['@']

def numberText : Option (List Char) → List Char
  | none => []
  | some digits => ':' :: digits

/-- The slashes in front of a host. -/
def IsSlashes : SchemeKind → List Char → Prop
  | .web, slashes => ∀ c ∈ slashes, c = '/' ∨ c = '\\'
  | .other, slashes => slashes = ['/', '/']
  | .file, slashes => slashes.length = 2 ∧ ∀ c ∈ slashes, c = '/' ∨ c = '\\'

/-- A host as it is written: a colon behind it begins the port number. -/
structure IsHost (kind : SchemeKind) (host : List Char) : Prop where
  nonempty : host ≠ []
  whole : ∀ c ∈ host, endsAuthority kind c = false ∧ c ≠ '@'
  delimited : splitHost false (host ++ [':']) = (host, some [])
  readable : ∃ read, (if kind = .other then Host.readVerbatim host else Host.read host) = .ok read

def IsPortNumber (digits : List Char) : Prop :=
  (∀ c ∈ digits, c.isDigit = true) ∧ Decimal.ofDigits digits < 65536

/-- What may stand behind the host and the port number: nothing, or a character that ends them. -/
def IsBehind (kind : SchemeKind) (rest : List Char) : Prop :=
  ∀ c ∈ rest.head?, endsAuthority kind c = true

section

variable {kind : SchemeKind} {name host place slashes text rest digits : List Char}
  {scheme : String}
  {user number : Option (List Char)} {c : Char}

theorem authority?_slashes (h : IsSlashes kind slashes)
    (hhead : ∀ c ∈ text.head?, endsAuthority kind c = false) :
    authority? kind (slashes ++ text) = some text := by
  cases kind with
  | web =>
    have hslashes : ∀ c ∈ slashes, (decide (c = '/') || decide (c = '\\')) = true := by
      simpa [IsSlashes] using h
    rw [authority?, List.dropWhile_append_of_pos hslashes]
    cases text with
    | nil => rfl
    | cons c text =>
      have hc := hhead c rfl
      simp only [endsAuthority, Bool.or_eq_false_iff] at hc
      rw [List.dropWhile_cons_of_neg]
      simpa using And.intro hc.1.1.1 hc.2
  | other =>
    obtain rfl : slashes = ['/', '/'] := h
    rfl
  | file =>
    obtain ⟨hlength, hall⟩ := h
    obtain ⟨a, b, rfl⟩ := List.length_eq_two.mp hlength
    have ha := hall a List.mem_cons_self
    have hb := hall b (List.mem_cons_of_mem _ List.mem_cons_self)
    exact if_pos (by simp [ha, hb])

theorem splitUser_append (hplace : '@' ∉ place) (user : Option (List Char)) :
    splitUser (userText user ++ place) = (user, place) := by
  cases user with
  | none => exact if_neg (by simpa [userText] using hplace)
  | some user =>
    have htake : (userText (some user) ++ place).reverse.takeWhile (· ≠ '@') = place.reverse := by
      rw [List.reverse_append, List.takeWhile_append_of_pos]
      · simp [userText]
      · intro c hc
        exact decide_eq_true fun heq => hplace (heq ▸ List.mem_reverse.mp hc)
    have hcontains : (userText (some user) ++ place).contains '@' = true :=
      List.contains_iff_mem.mpr (by simp [userText])
    rw [splitUser, if_pos hcontains, htake, List.reverse_reverse]
    have hlength : (userText (some user) ++ place).length - place.length - 1 = user.length := by
      simp [userText]
      omega
    have huser : (userText (some user) ++ place).take user.length = user := by
      rw [userText, List.append_assoc, List.take_left]
    simp only [hlength, huser]

/-- What a colon ends is the same whatever follows the colon. -/
theorem splitHost_append {bracketed : Bool}
    (h : splitHost bracketed (host ++ [':']) = (host, some [])) (number : Option (List Char)) :
    splitHost bracketed (host ++ numberText number) = (host, number) := by
  induction host generalizing bracketed with
  | nil =>
    cases number with
    | none => rfl
    | some digits =>
      rw [List.nil_append] at h ⊢
      rw [splitHost] at h
      rw [numberText, splitHost]
      split at h
      · next hcolon => rw [if_pos hcolon]
      · simp at h
  | cons c host ih =>
    rw [List.cons_append, splitHost] at h
    rw [List.cons_append, splitHost]
    split at h
    · simp at h
    · next hcolon =>
      obtain ⟨hhost, hnumber⟩ := Prod.mk.inj h
      have hrest := ih (Prod.ext (List.cons.inj hhost).2 hnumber)
      rw [if_neg hcolon, hrest]

theorem readPortNumber_of_isPortNumber (h : IsPortNumber digits) :
    ∃ number, readPortNumber digits = .ok number := by
  obtain ⟨hdigits, hlt⟩ := h
  have hbackslash : digits.takeWhile (· ≠ '\\') = digits := by
    rw [List.takeWhile_eq_self_iff]
    intro c hc
    have hdigit := hdigits c hc
    exact decide_eq_true fun heq => absurd (heq ▸ hdigit) (by decide)
  have hleading : digits.takeWhile Char.isDigit = digits := List.takeWhile_eq_self_iff.mpr hdigits
  rw [readPortNumber]
  simp only [hbackslash, hleading, decide_true, Bool.true_and]
  split
  · exact ⟨none, rfl⟩
  · rw [if_pos (decide_eq_true hlt)]
    exact ⟨some (Decimal.ofDigits digits), rfl⟩

/-- A number ends no host. -/
theorem numberText_inside (h : ∀ digits ∈ number, IsPortNumber digits)
    (hc : c ∈ numberText number) :
    endsAuthority kind c = false ∧ c ≠ '@' := by
  cases number with
  | none => cases hc
  | some digits =>
    rcases List.mem_cons.mp hc with rfl | hc
    · cases kind <;> decide
    · have hdigit : 48 ≤ c.toNat ∧ c.toNat ≤ 57 := Char.isDigit_iff_toNat.mp ((h digits rfl).1 c hc)
      have hne : ∀ d : Char, d.toNat < 48 ∨ 57 < d.toNat → c ≠ d := by
        rintro d hd rfl
        omega
      refine ⟨?_, hne '@' (by decide)⟩
      simp [endsAuthority, hne '/' (by decide), hne '?' (by decide), hne '#' (by decide),
        hne '\\' (by decide)]

theorem splitHost_of_isSeparator (h : ∀ c ∈ host, isSeparator c = false) :
    splitHost false (host ++ [':']) = (host, some []) := by
  induction host with
  | nil => rfl
  | cons c host ih =>
    obtain ⟨hc, hhost⟩ := List.forall_mem_cons.mp h
    have hcolon : c ≠ ':' := ne_of_isSeparator hc (by decide)
    have hbracket : c ≠ '[' := ne_of_isSeparator hc (by decide)
    rw [List.cons_append, splitHost]
    simp [hcolon, hbracket, ih hhost]

/-- A text without separators is a host if it can be read as one. -/
theorem isHost_of_isSeparator (hne : host ≠ []) (h : ∀ c ∈ host, isSeparator c = false)
    (hread : ∃ read,
      (if kind = .other then Host.readVerbatim host else Host.read host) = .ok read) :
    IsHost kind host := by
  refine ⟨hne, fun c hc => ⟨?_, ne_of_isSeparator (h c hc) (by decide)⟩,
    splitHost_of_isSeparator h, hread⟩
  have hsign : ∀ sign, isSeparator sign = true → c ≠ sign := fun _ => ne_of_isSeparator (h c hc)
  simp [endsAuthority, hsign '/' (by decide), hsign '?' (by decide), hsign '#' (by decide),
    hsign '\\' (by decide)]

/-- Schemes that do not say what hosts are have hosts of all characters that separate nothing. -/
theorem isHost_other (hne : host ≠ []) (h : ∀ c ∈ host, isSeparator c = false) :
    IsHost .other host :=
  isHost_of_isSeparator hne h ⟨_, readVerbatim_of_isSeparator h⟩

/-- A name is a host of every scheme. -/
theorem IsName.isHost (h : IsName host) (kind : SchemeKind) : IsHost kind host := by
  have hinside : ∀ c ∈ host, isSeparator c = false := fun c hc => (h.plain c hc).isSeparator
  refine isHost_of_isSeparator h.nonempty hinside ?_
  split
  · exact ⟨_, readVerbatim_of_isSeparator hinside⟩
  · exact ⟨_, read_of_isName h⟩

/-- The user, the host and the port number of a URL. -/
def placeText (user : Option (List Char)) (host : List Char) (number : Option (List Char)) :
    List Char :=
  userText user ++ (host ++ numberText number)

theorem placeText_host (host : List Char) : placeText none host none = host := List.append_nil host

theorem endsAuthority_of_mem_placeText
    (huser : ∀ name ∈ user, ∀ c ∈ name, endsAuthority kind c = false)
    (hhost : IsHost kind host) (hnumber : ∀ digits ∈ number, IsPortNumber digits)
    (hc : c ∈ placeText user host number) : endsAuthority kind c = false := by
  rcases List.mem_append.mp hc with hc | hc
  · cases user with
    | none => cases hc
    | some user =>
      rcases List.mem_append.mp hc with hc | hc
      · exact huser user rfl c hc
      · obtain rfl := List.mem_singleton.mp hc
        cases kind <;> decide
  · rcases List.mem_append.mp hc with hc | hc
    · exact (hhost.whole c hc).1
    · exact (numberText_inside hnumber hc).1

/-- The place is what stands in front of the first character that ends it. -/
theorem takeWhile_placeText (huser : ∀ name ∈ user, ∀ c ∈ name, endsAuthority kind c = false)
    (hhost : IsHost kind host) (hnumber : ∀ digits ∈ number, IsPortNumber digits)
    (hrest : IsBehind kind rest) :
    (placeText user host number ++ rest).takeWhile (fun c => !endsAuthority kind c) =
      placeText user host number := by
  have hinside : ∀ c ∈ placeText user host number, (!endsAuthority kind c) = true := fun c hc => by
    rw [endsAuthority_of_mem_placeText huser hhost hnumber hc, Bool.not_false]
  rw [List.takeWhile_append_of_pos hinside]
  cases rest with
  | nil => simp
  | cons c rest => rw [List.takeWhile_cons_of_neg (by simp [hrest c rfl]), List.append_nil]

theorem readAuthority_placeText (hkind : kind ≠ .file)
    (huser : ∀ name ∈ user, ∀ c ∈ name, endsAuthority kind c = false) (hhost : IsHost kind host)
    (hnumber : ∀ digits ∈ number, IsPortNumber digits) (hrest : IsBehind kind rest) :
    ∃ url, readAuthority scheme kind (placeText user host number ++ rest) = .ok url := by
  have hplace : '@' ∉ host ++ numberText number := by
    intro hmem
    rcases List.mem_append.mp hmem with hmem | hmem
    · exact (hhost.whole _ hmem).2 rfl
    · have hinside : endsAuthority kind '@' = false ∧ '@' ≠ '@' := numberText_inside hnumber hmem
      exact hinside.2 rfl
  have hnonempty : host.isEmpty = false := by simpa using hhost.nonempty
  obtain ⟨read, hread⟩ := hhost.readable
  have hbranch : ∀ (next : Host → Except Fault Url),
      (if kind = .web then Host.read host >>= next else Host.readVerbatim host >>= next) =
        next read := by
    intro next
    cases kind with
    | file => exact absurd rfl hkind
    | web | other => exact congrArg (· >>= next) hread
  rw [readAuthority]
  simp only [takeWhile_placeText huser hhost hnumber hrest]
  simp only [placeText, splitUser_append hplace, splitHost_append hhost.delimited, hnonempty,
    Bool.false_eq_true, if_false, hbranch]
  cases number with
  | none => exact ⟨_, rfl⟩
  | some digits =>
    obtain ⟨port, hport⟩ := readPortNumber_of_isPortNumber (hnumber digits rfl)
    simp only [hport]
    exact ⟨_, rfl⟩

theorem readFileHost_of_isHost (hhost : IsHost .file host) (hrest : IsBehind .file rest) :
    ∃ url, readFileHost (host ++ rest) = .ok url := by
  have htake : (placeText none host none ++ rest).takeWhile (fun c => !endsAuthority .file c) =
      placeText none host none := takeWhile_placeText nofun hhost nofun hrest
  rw [placeText_host] at htake
  obtain ⟨read, hread⟩ := hhost.readable
  rw [readFileHost]
  simp only [htake]
  split
  · exact ⟨_, rfl⟩
  · rw [show Host.read host = .ok read from hread]
    exact ⟨_, rfl⟩

/-- Where the user, the host and the port number are what they should be, nothing is wrong. -/
theorem readPlace_placeText (huser : ∀ name ∈ user, ∀ c ∈ name, endsAuthority kind c = false)
    (hhost : IsHost kind host) (hnumber : ∀ digits ∈ number, IsPortNumber digits)
    (hfile : kind = .file → user = none ∧ number = none) (hrest : IsBehind kind rest) :
    ∃ url, readPlace scheme kind (placeText user host number ++ rest) = .ok url := by
  cases kind with
  | file =>
    obtain ⟨rfl, rfl⟩ := hfile rfl
    rw [placeText_host]
    exact readFileHost_of_isHost hhost hrest
  | web | other => exact readAuthority_placeText nofun huser hhost hnumber hrest

/-- A text that is laid out as a URL with a host is one. -/
theorem parse_hosted (hname : IsScheme name)
    (hslashes : IsSlashes (schemeKind (schemeOf name)) slashes)
    (huser : ∀ name' ∈ user, ∀ c ∈ name', endsAuthority (schemeKind (schemeOf name)) c = false)
    (hhost : IsHost (schemeKind (schemeOf name)) host)
    (hnumber : ∀ digits ∈ number, IsPortNumber digits)
    (hfile : schemeKind (schemeOf name) = .file → user = none ∧ number = none)
    (hrest : IsBehind (schemeKind (schemeOf name)) rest) :
    ∃ url, parse (name ++ ':' :: (slashes ++ (placeText user host number ++ rest))) = .ok url := by
  have hplace : ∀ c ∈ (placeText user host number ++ rest).head?,
      endsAuthority (schemeKind (schemeOf name)) c = false := by
    intro c hc
    have hne : placeText user host number ≠ [] := by simp [placeText, hhost.nonempty]
    rw [List.head?_append_of_ne_nil _ hne] at hc
    exact endsAuthority_of_mem_placeText huser hhost hnumber (List.mem_of_mem_head? hc)
  rw [parse_eq (scheme?_append hname _), authority?_slashes hslashes hplace]
  exact readPlace_placeText huser hhost hnumber hfile hrest

/-! ## Texts without a host -/

/-- What follows is no slash. -/
def BeginsInside (rest : List Char) : Prop := ∀ c ∈ rest.head?, c ≠ '/' ∧ c ≠ '\\'

def IsSlash (slash : List Char) : Prop := slash = [] ∨ slash = ['/'] ∨ slash = ['\\']

theorem authority?_eq_none (hkind : kind ≠ .web)
    (h : ∀ a b more, text = a :: b :: more → (a ≠ '/' ∧ a ≠ '\\') ∨ b ≠ '/' ∧ b ≠ '\\') :
    authority? kind text = none := by
  unfold authority?
  split
  · exact absurd rfl hkind
  · exact absurd (h '/' '/' _ rfl) (by decide)
  · next a b more =>
    apply if_neg
    rcases h a b more rfl with hnot | hnot <;> simp [hnot]
  · rfl

/-- Behind less than two slashes there is no host. -/
theorem authority?_slash {slash : List Char} (hkind : kind ≠ .web) (hslash : IsSlash slash)
    (hrest : BeginsInside rest) : authority? kind (slash ++ rest) = none := by
  refine authority?_eq_none hkind fun a b more heq => ?_
  rcases hslash with rfl | rfl | rfl
  · obtain rfl : rest = a :: b :: more := heq
    exact Or.inl (hrest a rfl)
  · obtain rfl : rest = b :: more := (List.cons.inj heq).2
    exact Or.inr (hrest b rfl)
  · obtain rfl : rest = b :: more := (List.cons.inj heq).2
    exact Or.inr (hrest b rfl)

/-- A text without a host is a URL if its scheme does not call for one. -/
theorem parse_hostless {slash : List Char} (hname : IsScheme name)
    (hkind : schemeKind (schemeOf name) ≠ .web) (hslash : IsSlash slash)
    (hrest : BeginsInside rest) :
    ∃ url, parse (name ++ ':' :: (slash ++ rest)) = .ok url := by
  rw [parse_eq (scheme?_append hname _), authority?_slash hkind hslash hrest]
  exact ⟨_, rfl⟩

end

end Workflow.Url
