import Mathlib.Data.List.Pairwise
import Workflow.Proofs.Decode.Writing

/-!
# Objects that are accepted

An object is accepted as a record exactly if each of its fields finds what it can read,
and nothing else stands under another of its names: fields that have to be there are
there, and no field is there twice.
-/

namespace Workflow.Decode

variable {α β σ : Type}

/-- A decoder makes something of a value. -/
def Accepts (decoder : Decoder α) (json : Json) : Prop := ∃ a, decoder json = .ok a

/-! ## Values -/

theorem accepts_text (s : String) : Accepts text (.str s) := ⟨s, rfl⟩

theorem accepts_any (json : Json) : Accepts any json := ⟨json, rfl⟩

theorem accepts_boolean {json : Json} (h : json.isBool = true) : Accepts boolean json := by
  cases json with
  | bool b => exact ⟨b, rfl⟩
  | null | num | str | arr | obj => cases h

theorem accepts_float {json : Json} (h : json.isNumber = true) : Accepts float json := by
  cases json with
  | num n => exact ⟨n.toFloat, rfl⟩
  | null | bool | str | arr | obj => cases h

theorem Accepts.optional {decoder : Decoder α} {json : Json} (h : Accepts decoder json) :
    Accepts (optional decoder) json := by
  obtain ⟨a, ha⟩ := h
  by_cases hnull : json = .null
  · exact ⟨none, by rw [hnull]; rfl⟩
  · exact ⟨some a, by rw [optional_of_ne_null hnull, ha]; rfl⟩

/-- A number that counts things is the one that it is written as. -/
theorem eq_nat_of_natural? {json : Json} {n : Nat} (h : json.natural? = some n) :
    json = .nat n := by
  cases json with
  | num number =>
    cases number with
    | int i =>
      simp only [Json.natural?, Number.natural?] at h
      split at h
      · cases h
        rw [Json.nat, Int.toNat_of_nonneg ‹_›]
      · cases h
    | float x => cases h
  | null | bool | str | arr | obj => cases h

theorem accepts_u32 {json : Json} {n : Nat} (h : json.natural? = some n) (hn : n < 4294967296) :
    Accepts u32 json := by
  rw [eq_nat_of_natural? h, Accepts, u32, natural_nat hn]
  exact ⟨_, rfl⟩

/-- Proper numbers have 64 bits. -/
theorem accepts_size {json : Json} (hproper : json.Proper) (h : json.natural?.isSome = true) :
    Accepts size json := by
  obtain ⟨n, hn⟩ := Option.isSome_iff_exists.mp h
  obtain rfl := eq_nat_of_natural? hn
  have hmost := (Json.proper_num_iff.mp hproper).2
  rw [Number.maxInt] at hmost
  rw [Accepts, size, natural_nat (by omega)]
  exact ⟨_, rfl⟩

theorem accepts_list {decoder : Decoder α} {items : List Json}
    (h : ∀ item ∈ items, Accepts decoder item) :
    Accepts (list decoder) (.arr items) := by
  show ∃ values, items.mapM decoder = .ok values
  induction items with
  | nil => exact ⟨[], rfl⟩
  | cons item rest ih =>
    obtain ⟨⟨value, hvalue⟩, hrest⟩ := List.forall_mem_cons.mp h
    obtain ⟨values, hvalues⟩ := ih hrest
    exact ⟨value :: values, by rw [List.mapM_cons, hvalue, hvalues]; rfl⟩

theorem accepts_entries {decoder : Decoder α} {fields : Entries Json}
    (h : ∀ field ∈ fields, Accepts decoder field.2) : Accepts (entries decoder) (.obj fields) := by
  show ∃ values, fields.mapM (fun field => return (field.1, ← decoder field.2)) = .ok values
  induction fields with
  | nil => exact ⟨[], rfl⟩
  | cons field rest ih =>
    obtain ⟨⟨value, hvalue⟩, hrest⟩ := List.forall_mem_cons.mp h
    obtain ⟨values, hvalues⟩ := ih hrest
    exact ⟨(field.1, value) :: values, by rw [List.mapM_cons]; simp only [hvalue, hvalues]; rfl⟩

/-! ## Fields of an object -/

/-- A field finds in an object what it can read, and is there if it has to be. -/
structure Field.Served (f : Field σ) (entries : Entries Json) : Prop where
  takes : ∀ key ∈ f.names, ∀ json, entries.get? key = some json → ∀ s, ∃ s', f.set json s = .ok s'
  present : f.required = true → ∃ key ∈ f.names, ∃ json, entries.get? key = some json

namespace Field

variable {entries : Entries Json} {name : String} {decoder : Decoder α} {put : α → σ → σ}

theorem served_named {names : List String}
    (h : ∀ key ∈ names, ∀ json, entries.get? key = some json → Accepts decoder json) :
    (named names decoder put).Served entries where
  takes key hkey json hjson s := by
    obtain ⟨a, ha⟩ := h key hkey json hjson
    refine ⟨put a s, ?_⟩
    show (decoder json >>= fun v => pure (put v s)) = _
    rw [ha]
    rfl
  present := nofun

theorem served_defaulted (h : ∀ json, entries.get? name = some json → Accepts decoder json) :
    (defaulted name decoder put).Served entries :=
  served_named fun _ hkey json hjson => h json (List.mem_singleton.mp hkey ▸ hjson)

theorem served_mandatory {json : Json} (hjson : entries.get? name = some json)
    (h : Accepts decoder json) : (mandatory name decoder put).Served entries where
  takes := (served_named fun key hkey _ hother => by
    rw [List.mem_singleton.mp hkey, hjson] at hother
    exact Option.some.inj hother ▸ h : (named [name] decoder put).Served entries).takes
  present _ := ⟨name, List.mem_cons_self, json, hjson⟩

end Field

/-! ## Objects -/

variable {fields : List (Field σ)}

/-- No field goes by the keys of both entries. -/
def Apart (fields : List (Field σ)) (a b : String × Json) : Prop :=
  ∀ f ∈ fields, a.1 ∈ f.names → b.1 ∉ f.names

instance : Std.Symm (Apart fields) := ⟨fun _ _ h f hf hb ha => h f hf ha hb⟩

theorem eq_of_names (hdistinct : Distinct fields) {f g : Field σ} (hf : f ∈ fields)
    (hg : g ∈ fields) {key : String} (hkeyf : key ∈ f.names) (hkeyg : key ∈ g.names) : f = g :=
  Option.some.inj ((find?_of_mem hdistinct hf hkeyf).symm.trans (find?_of_mem hdistinct hg hkeyg))

/-- The fields of an object are apart if of two names of a field one at most is there. -/
theorem pairwise_apart_iff {entries : Entries Json} (hkeys : entries.keys.Nodup) :
    entries.Pairwise (Apart fields) ↔
      ∀ f ∈ fields, ∀ key ∈ f.names, ∀ other ∈ f.names, key ≠ other →
        entries.get? key = none ∨ entries.get? other = none := by
  constructor
  · intro hapart f hf key hkey other hother hne
    by_contra hboth
    obtain ⟨hfirst, hsecond⟩ := not_or.mp hboth
    obtain ⟨json, hjson⟩ := Option.ne_none_iff_exists'.mp hfirst
    obtain ⟨json', hjson'⟩ := Option.ne_none_iff_exists'.mp hsecond
    have hpair : (key, json) ≠ (other, json') := fun heq => hne (congrArg Prod.fst heq)
    exact hapart.forall (Entries.mem_of_get? hjson) (Entries.mem_of_get? hjson') hpair f hf
      hkey hother
  · intro hspelled
    refine (List.pairwise_map.mp hkeys).imp_of_mem fun ha hb hne f hf hkey hother => ?_
    rcases hspelled f hf _ hkey _ hother hne with hnone | hnone
    · rw [Entries.get?_eq_some_of_mem hkeys ha] at hnone
      cases hnone
    · rw [Entries.get?_eq_some_of_mem hkeys hb] at hnone
      cases hnone

/-- Entries are read if no field is seen twice and every field takes what stands under its names. -/
theorem exists_readFields (hdistinct : Distinct fields) {entries : Entries Json}
    {seen : List String} {s : σ}
    (htakes : ∀ entry ∈ entries, ∀ f ∈ fields, entry.1 ∈ f.names →
      ∀ s, ∃ s', f.set entry.2 s = .ok s')
    (hapart : entries.Pairwise (Apart fields))
    (hfresh : ∀ entry ∈ entries, ∀ f ∈ fields, entry.1 ∈ f.names → f.name ∉ seen) :
    ∃ seen' s', readFields fields seen s entries = .ok (seen', s') ∧ seen ⊆ seen' ∧
      ∀ entry ∈ entries, ∀ f ∈ fields, entry.1 ∈ f.names → f.name ∈ seen' := by
  induction entries generalizing seen s with
  | nil =>
    exact ⟨seen, s, rfl, List.Subset.refl seen, fun _ hentry => absurd hentry List.not_mem_nil⟩
  | cons pair rest ih =>
    obtain ⟨key, value⟩ := pair
    obtain ⟨htake, htakes⟩ := List.forall_mem_cons.mp htakes
    obtain ⟨hhead, hapart⟩ := List.pairwise_cons.mp hapart
    obtain ⟨hunseen, hfresh⟩ := List.forall_mem_cons.mp hfresh
    cases hfind : fields.find? fun f => f.names.contains key with
    | none =>
      obtain ⟨seen', s', hread, hsub, hall⟩ := ih (s := s) htakes hapart hfresh
      refine ⟨seen', s', by rw [readFields, hfind]; exact hread, hsub,
        List.forall_mem_cons.mpr ⟨?_, hall⟩⟩
      intro f hf hkey
      exact absurd hkey (by simpa using List.find?_eq_none.mp hfind f hf)
    | some f =>
      obtain ⟨hf, hkey⟩ := names_of_find hfind
      obtain ⟨t, hset⟩ := htake f hf hkey s
      have hfresh' : ∀ entry ∈ rest, ∀ g ∈ fields, entry.1 ∈ g.names → g.name ∉ f.name :: seen := by
        intro entry hentry g hg hname hin
        rcases List.mem_cons.mp hin with heq | hin
        · have hsame :=
            eq_of_names hdistinct hf hg (Field.name_mem hkey) (heq ▸ Field.name_mem hname)
          exact hhead entry hentry f hf hkey (hsame ▸ hname)
        · exact hfresh entry hentry g hg hname hin
      obtain ⟨seen', s', hread, hsub, hall⟩ := ih (s := t) htakes hapart hfresh'
      refine ⟨seen', s', ?_, fun _ hother => hsub (List.mem_cons_of_mem f.name hother),
        List.forall_mem_cons.mpr ⟨fun g hg hname => ?_, hall⟩⟩
      · have hnot : f.name ∉ seen := hunseen f hf hkey
        rw [readFields, hfind]
        simp only [List.contains_eq_mem, hnot, decide_false, Bool.false_eq_true, if_false, hset]
        exact hread
      · rw [← eq_of_names hdistinct hf hg hkey hname]
        exact hsub List.mem_cons_self

/-- An object is accepted if each field is served and none is there twice. -/
theorem accepts_record {name : String} {initial : σ} {entries : Entries Json}
    (hdistinct : Distinct fields) (hkeys : entries.keys.Nodup)
    (hserved : ∀ f ∈ fields, f.Served entries) (hapart : entries.Pairwise (Apart fields)) :
    Accepts (record name fields initial) (.obj entries) := by
  have htakes : ∀ entry ∈ entries, ∀ f ∈ fields, entry.1 ∈ f.names →
      ∀ s, ∃ s', f.set entry.2 s = .ok s' := fun entry hentry f hf hkey =>
    (hserved f hf).takes entry.1 hkey entry.2 (Entries.get?_eq_some_of_mem hkeys hentry)
  have hfresh : ∀ entry ∈ entries, ∀ f ∈ fields, entry.1 ∈ f.names → f.name ∉ ([] : List String) :=
    fun _ _ _ _ _ => List.not_mem_nil
  obtain ⟨seen, s, hread, -, hall⟩ :=
    exists_readFields hdistinct (s := initial) htakes hapart hfresh
  refine ⟨s, record_of_readFields hread fun f hf hrequired => ?_⟩
  obtain ⟨key, hkey, json, hjson⟩ := (hserved f hf).present hrequired
  exact hall (key, json) (Entries.mem_of_get? hjson) f hf hkey

/-- A proper object is accepted if each field is served and has one name only. -/
theorem accepts_record_of_proper {name : String} {initial : σ} {entries : Entries Json}
    (hdistinct : Distinct fields) (hnames : ∀ f ∈ fields, f.names = [f.name])
    (hproper : Json.Proper (.obj entries)) (hserved : ∀ f ∈ fields, f.Served entries) :
    Accepts (record name fields initial) (.obj entries) := by
  have hkeys := (Json.proper_obj_iff.mp hproper).1
  refine accepts_record hdistinct hkeys hserved ((pairwise_apart_iff hkeys).mpr ?_)
  intro f hf key hkey other hother hne
  rw [hnames f hf, List.mem_singleton] at hkey hother
  exact absurd (hkey.trans hother.symm) hne

/-- A field that has been seen does not come again. -/
theorem apart_of_readFields (hdistinct : Distinct fields) {entries : Entries Json}
    {seen : List String} {s : σ} {result : List String × σ}
    (h : readFields fields seen s entries = .ok result) :
    entries.Pairwise (Apart fields) ∧
      ∀ entry ∈ entries, ∀ f ∈ fields, entry.1 ∈ f.names → f.name ∉ seen := by
  induction entries generalizing seen s with
  | nil => exact ⟨.nil, fun _ hentry => absurd hentry List.not_mem_nil⟩
  | cons pair rest ih =>
    obtain ⟨key, value⟩ := pair
    rw [readFields] at h
    split at h
    · next hfind =>
      obtain ⟨hapart, hfresh⟩ := ih h
      have hunknown : ∀ f ∈ fields, key ∉ f.names := fun f hf => by
        simpa using List.find?_eq_none.mp hfind f hf
      exact ⟨.cons (fun _ _ f hf hkey => absurd hkey (hunknown f hf)) hapart,
        List.forall_mem_cons.mpr ⟨fun f hf hkey => absurd hkey (hunknown f hf), hfresh⟩⟩
    · next f hfind =>
      obtain ⟨hf, hkey⟩ := names_of_find hfind
      split at h
      · cases h
      · next hunseen =>
        obtain ⟨t, -, h⟩ := bind_eq_ok h
        obtain ⟨hapart, hfresh⟩ := ih h
        refine ⟨.cons (fun entry hentry g hg hkeyg hentryg => ?_) hapart,
          List.forall_mem_cons.mpr ⟨fun g hg hkeyg => ?_, fun entry hentry g hg hentryg hin => ?_⟩⟩
        · rw [eq_of_names hdistinct hg hf hkeyg hkey] at hentryg
          exact hfresh entry hentry f hf hentryg List.mem_cons_self
        · rw [eq_of_names hdistinct hg hf hkeyg hkey]
          simpa using hunseen
        · exact hfresh entry hentry g hg hentryg (List.mem_cons_of_mem f.name hin)

/-- What is accepted has no field twice. -/
theorem apart_of_record {name : String} {initial s : σ} {entries : Entries Json}
    (hdistinct : Distinct fields) (h : record name fields initial (.obj entries) = .ok s) :
    entries.Pairwise (Apart fields) := by
  obtain ⟨_, hread, -⟩ := bind_eq_ok h
  exact (apart_of_readFields hdistinct hread).1

end Workflow.Decode
