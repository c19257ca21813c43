import Workflow.Definition.Write
import Workflow.Proofs.Decode.Record
import Workflow.Proofs.Json.Proper

/-!
# Records that are written and read back

What is read from a proper value has every property that its fields keep. A record whose fields are
written in their declared order, each under one of its names, is read back field by field; a field
may be left out if it need not be there.
-/

namespace Workflow.Decode

variable {α β σ : Type}

/-! ## Properties that reading keeps -/

/-- A field keeps a property of records, whatever proper value it reads. -/
def Field.Keeps (P : σ → Prop) (f : Field σ) : Prop :=
  ∀ json s s', json.Proper → P s → f.set json s = .ok s' → P s'

theorem keeps_readFields {P : σ → Prop} {fields : List (Field σ)} (hkeeps : ∀ f ∈ fields, f.Keeps P)
    {seen seen' : List String} {s s' : σ} {entries : Entries Json}
    (hproper : ∀ entry ∈ entries, entry.2.Proper) (hs : P s)
    (h : readFields fields seen s entries = .ok (seen', s')) : P s' := by
  induction entries generalizing seen s with
  | nil =>
    cases h
    exact hs
  | cons pair rest ih =>
    obtain ⟨key, value⟩ := pair
    have hrest : ∀ entry ∈ rest, entry.2.Proper := fun entry hentry =>
      hproper entry (List.mem_cons_of_mem _ hentry)
    rw [readFields] at h
    split at h
    · exact ih hrest hs h
    · next f hfind =>
      split at h
      · cases h
      · obtain ⟨t, hset, h⟩ := bind_eq_ok h
        have ht := hkeeps f (names_of_find hfind).1 value s t (hproper _ List.mem_cons_self) hs hset
        exact ih hrest ht h

theorem keeps_readItems {P : σ → Prop} {fields : List (Field σ)} (hkeeps : ∀ f ∈ fields, f.Keeps P)
    {expected : String} {place : Nat} {s : σ} {items : List Json} {result : σ × Nat}
    (hproper : ∀ item ∈ items, item.Proper) (hs : P s)
    (h : readItems expected place s fields items = .ok result) : P result.1 := by
  induction fields generalizing place s items with
  | nil =>
    cases h
    exact hs
  | cons f fields ih =>
    have hrest : ∀ f ∈ fields, f.Keeps P := fun g hg => hkeeps g (List.mem_cons_of_mem f hg)
    cases items with
    | nil =>
      rw [readItems] at h
      split at h
      · cases h
      · exact ih hrest hproper hs h
    | cons item items =>
      obtain ⟨t, hset, h⟩ := bind_eq_ok h
      have ht := hkeeps f List.mem_cons_self item s t (hproper item List.mem_cons_self) hs hset
      exact ih hrest (fun other hother => hproper other (List.mem_cons_of_mem item hother)) ht h

/-- A record that is read from a proper value has every property that all of its fields keep. -/
theorem keeps_record (P : σ → Prop) {name : String} {fields : List (Field σ)} {initial s : σ}
    (hkeeps : ∀ f ∈ fields, f.Keeps P) (hinitial : P initial) {json : Json} (hproper : json.Proper)
    (h : record name fields initial json = .ok s) : P s := by
  cases json with
  | obj entries =>
    obtain ⟨⟨seen, s'⟩, hread, h⟩ := bind_eq_ok h
    simp only at h
    split at h
    · cases h
    · cases h
      exact keeps_readFields hkeeps (Json.proper_obj_iff.mp hproper).2 hinitial hread
  | arr items =>
    obtain ⟨⟨s', rest⟩, hread, h⟩ := bind_eq_ok h
    simp only at h
    split at h
    · cases h
      exact keeps_readItems hkeeps (Json.proper_arr_iff.mp hproper) hinitial hread
    · cases h
  | null | bool | num | str => cases h

/-- What is in a place of a record has every property that whatever is read for it has. -/
theorem place_of_record {name : String} {fields : List (Field σ)} {initial s : σ} {json : Json}
    (h : record name fields initial json = .ok s) (hproper : json.Proper) (key : String)
    (decoder : Decoder β) (place : σ → β) (hgoverns : Governs fields key decoder place)
    (Q : β → Prop) (hread : ∀ json v, json.Proper → decoder json = .ok v → Q v)
    (hinitial : Q (place initial)) :
    Q (place s) := by
  have hkeeps : ∀ f ∈ fields, f.Keeps fun s => Q (place s) := by
    intro f hf json s s' hproper hs hset
    have hrespects := hgoverns.respected f hf
    by_cases hkey : key ∈ f.names
    · rw [Field.Respects, if_pos hkey] at hrespects
      exact hread json _ hproper (hrespects.2 json s s' hset)
    · rw [Field.Respects, if_neg hkey] at hrespects
      rw [hrespects.2 json s s' hset]
      exact hs
  exact keeps_record (fun s => Q (place s)) hkeeps hinitial hproper h

/-- A float that is read is finite. -/
theorem isFinite_of_record {name : String} {fields : List (Field σ)} {initial s : σ} {json : Json}
    (h : record name fields initial json = .ok s) (hproper : json.Proper) (key : String)
    (place : σ → Option Float) (hgoverns : Governs fields key (optional float) place)
    (hinitial : place initial = none) : ∀ x ∈ place s, x.isFinite = true := by
  refine place_of_record h hproper key _ place hgoverns (fun v => ∀ x ∈ v, x.isFinite = true) ?_ ?_
  · intro json v hproper hread x hx
    obtain ⟨-, hread⟩ := optional_eq_ok hread hx
    cases json with
    | num n =>
      cases hread
      exact (Json.proper_num_iff.mp hproper).isFinite_toFloat
    | null | bool | str | arr | obj => cases hread
  · rw [hinitial]
    exact fun _ => nofun

/-- A value that may be absent is never read as `null`. -/
theorem null_notMem_of_record {name : String} {fields : List (Field σ)} {initial s : σ}
    {json : Json} (h : record name fields initial json = .ok s) (hproper : json.Proper)
    (key : String) (place : σ → Option Json) (hgoverns : Governs fields key (optional any) place)
    (hinitial : place initial = none) : .null ∉ place s := by
  refine place_of_record h hproper key _ place hgoverns (fun v => .null ∉ v) ?_ ?_
  · intro json v _ hread hnull
    obtain ⟨hne, hread⟩ := optional_eq_ok hread hnull
    cases hread
    exact hne rfl
  · rw [hinitial]
    nofun

/-- What is written for the values of a map is read, value by value. -/
theorem of_entries {decoder : Decoder α} {json : Json} {values : Entries α} {P : α → Prop}
    (hproper : json.Proper) (h : entries decoder json = .ok values)
    (hread : ∀ json v, json.Proper → decoder json = .ok v → P v) : ∀ entry ∈ values, P entry.2 := by
  obtain ⟨fields, rfl, hfields⟩ := forall₂_of_entries h
  intro entry hentry
  obtain ⟨field, hfield, -, hvalue⟩ := exists_of_forall₂ hfields hentry
  exact hread field.2 entry.2 ((Json.proper_obj_iff.mp hproper).2 field hfield) hvalue

theorem of_list {decoder : Decoder α} {json : Json} {values : List α} {P : α → Prop}
    (hproper : json.Proper) (h : list decoder json = .ok values)
    (hread : ∀ json v, json.Proper → decoder json = .ok v → P v) : ∀ value ∈ values, P value := by
  cases json with
  | arr items =>
    intro value hvalue
    obtain ⟨item, hitem, hread'⟩ := exists_of_forall₂ (forall₂_of_mapM h) hvalue
    exact hread item value (Json.proper_arr_iff.mp hproper item hitem) hread'
  | null | bool | num | str | obj => cases h

/-! ## Records in their declared order -/

/-- No two fields share a name. -/
def Distinct (fields : List (Field σ)) : Prop := fields.Pairwise fun f g => f.names.Disjoint g.names

/-- A field is found by any of its names. -/
theorem find?_of_mem {fields : List (Field σ)} (hdistinct : Distinct fields) {f : Field σ}
    (hf : f ∈ fields) {key : String} (hkey : key ∈ f.names) :
    fields.find? (fun g => g.names.contains key) = some f := by
  induction fields with
  | nil => exact absurd hf List.not_mem_nil
  | cons g rest ih =>
    obtain ⟨hhead, hrest⟩ := List.pairwise_cons.mp hdistinct
    rcases List.mem_cons.mp hf with rfl | hf
    · simp [hkey]
    · have hother : key ∉ g.names := fun hg => hhead f hf hg hkey
      rw [List.find?_cons_of_neg (by simpa using hother)]
      exact ih hrest hf

theorem Field.name_mem {f : Field σ} {key : String} (h : key ∈ f.names) : f.name ∈ f.names := by
  rw [name]
  cases hnames : f.names with
  | nil => simp [hnames] at h
  | cons first rest => simp

/-- Reading entries in the declared order of the fields takes `s` to `s'` and
leaves the fields `rest`. -/
inductive InOrder : List (Field σ) → List (Field σ) → Entries Json → σ → σ → Prop
  | done (fields : List (Field σ)) (s : σ) : InOrder fields fields [] s s
  | skip {f : Field σ} {fields rest : List (Field σ)} {entries : Entries Json} {s s' : σ}
    (hoptional : f.required = false) (h : InOrder fields rest entries s s') :
    InOrder (f :: fields) rest entries s s'
  | enter {f : Field σ} {fields rest : List (Field σ)} {key : String} {value : Json}
    {entries : Entries Json} {s t s' : σ} (hkey : key ∈ f.names) (hset : f.set value s = .ok t)
    (h : InOrder fields rest entries t s') : InOrder (f :: fields) rest
      ((key, value) :: entries) s s'

namespace InOrder

variable {fields rest last all : List (Field σ)} {a b : Entries Json} {s t u : σ}

theorem append (h : InOrder fields rest a s t) (h' : InOrder rest last b t u) :
    InOrder fields last (a ++ b) s u := by
  induction h with
  | done _ _ => exact h'
  | skip hoptional _ ih => exact .skip hoptional (ih h')
  | enter hkey hset _ ih => exact .enter hkey hset (ih h')

/-- The entries are read, and all fields in front of the rest that have to be there are seen. -/
theorem readFields (hdistinct : Distinct all) (h : InOrder fields rest a s t)
    (hsub : fields.Sublist all) {seen : List String}
    (hfresh : ∀ f ∈ fields, ∀ key ∈ f.names, key ∉ seen) :
    ∃ seen', Decode.readFields all seen s a = .ok (seen', t) ∧ seen ⊆ seen' ∧
      ∀ f ∈ fields, f.required = true → f ∈ rest ∨ f.name ∈ seen' := by
  induction h generalizing seen with
  | done fields s => exact ⟨seen, rfl, List.Subset.refl seen, fun f hf _ => Or.inl hf⟩
  | @skip f fields _ _ _ _ hoptional _ ih =>
    obtain ⟨seen', hread, hseen, hrequired⟩ := ih ((List.sublist_cons_self f fields).trans hsub)
      fun g hg => hfresh g (List.mem_cons_of_mem f hg)
    refine ⟨seen', hread, hseen, fun g hg hg' => ?_⟩
    rcases List.mem_cons.mp hg with rfl | hg
    · exact absurd hg' (Bool.eq_false_iff.mp hoptional)
    · exact hrequired g hg hg'
  | @enter f fields _ key value _ s t _ hkey hset _ ih =>
    have hname := Field.name_mem hkey
    have hothers := (List.pairwise_cons.mp (hdistinct.sublist hsub)).1
    have hunseen : f.name ∉ seen := hfresh f List.mem_cons_self f.name hname
    have hfresh' : ∀ g ∈ fields, ∀ key ∈ g.names, key ∉ f.name :: seen := by
      intro g hg key hkey hin
      rcases List.mem_cons.mp hin with rfl | hin
      · exact hothers g hg hname hkey
      · exact hfresh g (List.mem_cons_of_mem f hg) key hkey hin
    obtain ⟨seen', hread, hseen, hrequired⟩ :=
      ih ((List.sublist_cons_self f fields).trans hsub) hfresh'
    refine ⟨seen', ?_, fun key hkey => hseen (List.mem_cons_of_mem f.name hkey), fun g hg hg' => ?_⟩
    · rw [Decode.readFields, find?_of_mem hdistinct (hsub.subset List.mem_cons_self) hkey]
      simp only [List.contains_eq_mem, hunseen, decide_false, Bool.false_eq_true, if_false, hset]
      exact hread
    · rcases List.mem_cons.mp hg with rfl | hg
      · exact Or.inr (hseen List.mem_cons_self)
      · exact hrequired g hg hg'

end InOrder

/-- A record is read if its entries are and no field is missing. -/
theorem record_of_readFields {name : String} {fields : List (Field σ)} {initial s : σ}
    {entries : Entries Json} {seen : List String}
    (hread : readFields fields [] initial entries = .ok (seen, s))
    (hrequired : ∀ f ∈ fields, f.required = true → f.name ∈ seen) :
    record name fields initial (.obj entries) = .ok s := by
  have hall : fields.find? (fun f => f.required && !seen.contains f.name) = none := by
    refine List.find?_eq_none.mpr fun f hf hmissing => ?_
    simp only [Bool.and_eq_true, Bool.not_eq_true', List.contains_eq_mem, decide_eq_false_iff_not]
      at hmissing
    exact hmissing.2 (hrequired f hf hmissing.1)
  simp only [record, hread, bind, Except.bind, hall]
  rfl

/-- A record is read from entries in its declared order. -/
theorem record_of_inOrder {name : String} {fields : List (Field σ)} {initial s : σ}
    {entries : Entries Json} (hdistinct : Distinct fields)
    (h : InOrder fields [] entries initial s) :
    record name fields initial (.obj entries) = .ok s := by
  have hfresh : ∀ f ∈ fields, ∀ key ∈ f.names, key ∉ ([] : List String) :=
    fun _ _ _ _ => List.not_mem_nil
  obtain ⟨seen, hread, -, hrequired⟩ := h.readFields hdistinct (List.Sublist.refl fields) hfresh
  exact record_of_readFields hread fun f hf hf' =>
    (hrequired f hf hf').resolve_left List.not_mem_nil

/-! ## Values -/

theorem optional_of_ne_null {decoder : Decoder α} {json : Json} (h : json ≠ .null) :
    optional decoder json = (decoder json).map some := by
  cases json with
  | null => exact absurd rfl h
  | bool | num | str | arr | obj => rfl

theorem natural_nat {limit n : Nat} (h : n < limit) (name : String) :
    natural limit name (.nat n) = .ok n := by
  have hrange : (decide (0 ≤ (n : Int)) && decide ((n : Int) < limit)) = true := by
    simp
    omega
  show (if (decide (0 ≤ (n : Int)) && decide ((n : Int) < limit)) = true then
    Except.ok (n : Int).toNat else _) = _
  rw [if_pos hrange]
  rfl

theorem u32_nat (n : UInt32) : u32 (.nat n.toNat) = .ok n := by
  rw [u32, natural_nat n.toNat_lt]
  simp [Except.map]

theorem u64_nat (n : UInt64) : u64 (.nat n.toNat) = .ok n := by
  rw [u64, natural_nat n.toNat_lt]
  simp [Except.map]

theorem size_nat (n : UInt64) : size (.nat n.toNat) = .ok n := by
  rw [size, natural_nat n.toNat_lt]
  simp [Except.map]

/-- A float is written as a number if it is finite. -/
theorem float_eq_num {x : Float} (h : x.isFinite = true) : Json.float x = .num (.float x) :=
  if_pos h

/-- A list is read back if its items are. -/
theorem list_map {decoder : Decoder α} {encode : α → Json} {items : List α}
    (h : ∀ item ∈ items, decoder (encode item) = .ok item) :
    list decoder (.arr (items.map encode)) = .ok items := by
  show (items.map encode).mapM decoder = .ok items
  induction items with
  | nil => rfl
  | cons item rest ih =>
    obtain ⟨hitem, hrest⟩ := List.forall_mem_cons.mp h
    rw [List.map_cons, List.mapM_cons, hitem, ih hrest]
    rfl

theorem list_any (items : List Json) : list any (.arr items) = .ok items := by
  have h : list any (.arr (items.map id)) = .ok items := list_map fun _ _ => rfl
  rwa [List.map_id] at h

/-- A map is read back if its values are. -/
theorem entries_mapValues {decoder : Decoder α} {encode : α → Json} {values : Entries α}
    (h : ∀ entry ∈ values, decoder (encode entry.2) = .ok entry.2) :
    entries decoder (.obj (values.mapValues encode)) = .ok values := by
  show (values.map fun pair => (pair.1, encode pair.2)).mapM (fun field =>
    return (field.1, ← decoder field.2)) = .ok values
  induction values with
  | nil => rfl
  | cons entry rest ih =>
    obtain ⟨hentry, hrest⟩ := List.forall_mem_cons.mp h
    rw [List.map_cons, List.mapM_cons]
    simp only [hentry, ih hrest]
    rfl

/-! ## Fields in their declared order -/

namespace InOrder

variable {fields : List (Field σ)} {name : String} {names : List String} {s : σ}

/-- A field that has to be there, and is written. -/
theorem mandatory {decoder : Decoder α} {put : α → σ → σ} {json : Json} {v : α}
    (h : decoder json = .ok v) :
    InOrder (.mandatory name decoder put :: fields) fields (Encode.field name json) s
      (put v s) := by
  refine .enter List.mem_cons_self ?_ (.done fields _)
  show (decoder json >>= fun v => pure (put v s)) = _
  rw [h]
  rfl

/-- A field that may be left out, and is written. -/
theorem written {decoder : Decoder α} {put : α → σ → σ} {json : Json} {v : α} (hname : name ∈ names)
    (h : decoder json = .ok v) :
    InOrder (.named names decoder put :: fields) fields [(name, json)] s (put v s) := by
  refine .enter hname ?_ (.done fields _)
  show (decoder json >>= fun v => pure (put v s)) = _
  rw [h]
  rfl

/-- A field that may be left out, and is. -/
theorem omitted {decoder : Decoder α} {put : α → σ → σ} :
    InOrder (.named names decoder put :: fields) fields [] s s :=
  .skip rfl (.done fields s)

/-- A value that may be absent is left out if it is. -/
theorem optional {decoder : Decoder α} {put : Option α → σ → σ} {encode : α → Json} {v : Option α}
    (hname : name ∈ names) (hnone : put none s = s)
    (h : ∀ a ∈ v, encode a ≠ .null ∧ decoder (encode a) = .ok a) :
    InOrder (.named names (Decode.optional decoder) put :: fields) fields
      (Encode.optional name (v.map encode)) s (put v s) := by
  cases v with
  | none =>
    rw [hnone]
    exact omitted
  | some a =>
    obtain ⟨hnull, hdecoder⟩ := h a rfl
    refine written hname ?_
    rw [optional_of_ne_null hnull, hdecoder]
    rfl

theorem text {put : Option String → σ → σ} {v : Option String} (hnone : put none s = s) :
    InOrder (.defaulted name (Decode.optional Decode.text) put :: fields) fields
      (Encode.text name v) s
      (put v s) :=
  optional List.mem_cons_self hnone fun _ _ => ⟨Json.noConfusion, rfl⟩

/-- A name that may be absent. -/
theorem nameOf {decoder : Decoder α} {put : Option α → σ → σ} {encode : α → String} {v : Option α}
    (hnone : put none s = s) (h : ∀ a, decoder (.str (encode a)) = .ok a) :
    InOrder (.defaulted name (Decode.optional decoder) put :: fields) fields
      (Encode.text name (v.map encode)) s (put v s) := by
  rw [Encode.text, Option.map_map]
  exact optional List.mem_cons_self hnone fun a _ => ⟨Json.noConfusion, h a⟩

theorem u32 {put : Option UInt32 → σ → σ} {v : Option UInt32} (hnone : put none s = s) :
    InOrder (.defaulted name (Decode.optional Decode.u32) put :: fields) fields
      (Encode.u32 name v) s
      (put v s) :=
  optional List.mem_cons_self hnone fun n _ => ⟨Json.noConfusion, u32_nat n⟩

theorem u64 {put : Option UInt64 → σ → σ} {v : Option UInt64} (hnone : put none s = s) :
    InOrder (.defaulted name (Decode.optional Decode.u64) put :: fields) fields
      (Encode.u64 name v) s
      (put v s) :=
  optional List.mem_cons_self hnone fun n _ => ⟨Json.noConfusion, u64_nat n⟩

theorem size {put : Option UInt64 → σ → σ} {v : Option UInt64} (hname : name ∈ names)
    (hnone : put none s = s) :
    InOrder (.named names (Decode.optional Decode.size) put :: fields) fields (Encode.u64 name v) s
      (put v s) :=
  optional hname hnone fun n _ => ⟨Json.noConfusion, size_nat n⟩

theorem float {put : Option Float → σ → σ} {v : Option Float} (hnone : put none s = s)
    (h : ∀ x ∈ v, x.isFinite = true) :
    InOrder (.defaulted name (Decode.optional Decode.float) put :: fields) fields
      (Encode.float name v) s
      (put v s) := by
  refine optional List.mem_cons_self hnone fun x hx => ?_
  rw [float_eq_num (h x hx)]
  exact ⟨Json.noConfusion, rfl⟩

/-- A value of any form that may be absent is never `null`. -/
theorem any {put : Option Json → σ → σ} {v : Option Json} (hnone : put none s = s) (h : .null ∉ v) :
    InOrder (.defaulted name (Decode.optional Decode.any) put :: fields) fields
      (Encode.optional name v) s
      (put v s) := by
  have hv : v.map id = v := Option.map_id_fun' ▸ rfl
  rw [← hv]
  refine hv.symm ▸ optional List.mem_cons_self hnone fun json hjson => ⟨?_, rfl⟩
  rintro rfl
  exact h hjson

theorem texts {put : List String → σ → σ} {v : List String} (hnil : put [] s = s) :
    InOrder (.defaulted name (Decode.list Decode.text) put :: fields) fields
      (Encode.list name (v.map Json.str)) s (put v s) := by
  cases v with
  | nil =>
    rw [hnil]
    exact omitted
  | cons item rest => exact written List.mem_cons_self (list_map fun _ _ => rfl)

theorem textEntries {put : Entries String → σ → σ} {v : Entries String} (hnil : put [] s = s) :
    InOrder (.defaulted name (Decode.entries Decode.text) put :: fields) fields
      (Encode.entries name (v.mapValues Json.str)) s (put v s) := by
  cases v with
  | nil =>
    rw [hnil]
    exact omitted
  | cons entry rest => exact written List.mem_cons_self (entries_mapValues fun _ _ => rfl)

end InOrder

end Workflow.Decode
