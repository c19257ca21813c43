import Mathlib.Data.List.Forall2
import Workflow.Decode.Basic

/-!
# What records are read from

A record that is read from an object holds, in each of its places, what the decoder of that place
makes of the value under its key; a place whose key is left out keeps its initial value. Keys of
other places do not count, and no key counts twice.
-/

namespace Workflow.Decode

variable {α β σ : Type}

theorem bind_eq_ok {ε : Type} {x : Except ε α} {f : α → Except ε β} {b : β}
    (h : (x >>= f) = .ok b) :
    ∃ a, x = .ok a ∧ f a = .ok b := by
  cases x with
  | error e => cases h
  | ok a => exact ⟨a, rfl, h⟩

theorem bind_eq_error {ε : Type} {x : Except ε α} {f : α → Except ε β} {e : ε}
    (h : (x >>= f) = .error e) : x = .error e ∨ ∃ a, x = .ok a ∧ f a = .error e := by
  cases x with
  | error other =>
    cases h
    exact Or.inl rfl
  | ok a => exact Or.inr ⟨a, rfl, h⟩

theorem map_eq_error {ε : Type} {x : Except ε α} {f : α → β} {e : ε} (h : x.map f = .error e) :
    x = .error e := by
  cases x with
  | error other => exact congrArg Except.error (Except.error.inj h)
  | ok a => cases h

theorem mapError_eq_error {ε ε' : Type} {x : Except ε α} {f : ε → ε'} {e : ε'}
    (h : x.mapError f = .error e) : ∃ fault, x = .error fault ∧ f fault = e := by
  cases x with
  | error fault => exact ⟨fault, rfl, Except.error.inj h⟩
  | ok a => cases h

theorem map_eq_ok {ε : Type} {x : Except ε α} {f : α → β} {b : β} (h : x.map f = .ok b) :
    ∃ a, x = .ok a ∧ f a = b := by
  cases x with
  | error e => cases h
  | ok a => exact ⟨a, rfl, Except.ok.inj h⟩

/-- What stands on the right of a list that is related to another has a partner on the left. -/
theorem exists_of_forall₂ {R : α → β → Prop} {as : List α} {bs : List β}
    (h : List.Forall₂ R as bs) {b : β} (hb : b ∈ bs) : ∃ a ∈ as, R a b := by
  induction h with
  | nil => exact absurd hb List.not_mem_nil
  | cons hhead _ ih =>
    rcases List.mem_cons.mp hb with rfl | hb
    · exact ⟨_, List.mem_cons_self, hhead⟩
    · obtain ⟨a, ha, hab⟩ := ih hb
      exact ⟨a, List.mem_cons_of_mem _ ha, hab⟩

/-- Items are read one by one. -/
theorem forall₂_of_mapM {ε : Type} {f : α → Except ε β} {items : List α} {values : List β}
    (h : items.mapM f = .ok values) :
    List.Forall₂ (fun item value => f item = .ok value) items values := by
  induction items generalizing values with
  | nil =>
    rw [List.mapM_nil] at h
    cases h
    exact .nil
  | cons head tail ih =>
    rw [List.mapM_cons] at h
    obtain ⟨value, hvalue, h⟩ := bind_eq_ok h
    obtain ⟨rest, hrest, h⟩ := bind_eq_ok h
    cases h
    exact .cons hvalue (ih hrest)

/-- A map is read from an object, field by field. -/
theorem forall₂_of_entries {decoder : Decoder α} {json : Json} {values : Entries α}
    (h : entries decoder json = .ok values) :
    ∃ fields, json = .obj fields ∧ List.Forall₂ (fun field value =>
      field.1 = value.1 ∧ decoder field.2 = .ok value.2) fields values := by
  cases json with
  | obj fields =>
    refine ⟨fields, rfl, (forall₂_of_mapM h).imp fun field value hfield => ?_⟩
    obtain ⟨v, hv, heq⟩ := bind_eq_ok hfield
    cases heq
    exact ⟨rfl, hv⟩
  | null | bool | num | str | arr => cases h

/-- A map has the keys of the object that it is read from. -/
theorem keys_of_entries {decoder : Decoder α} {fields : Entries Json} {values : Entries α}
    (h : entries decoder (.obj fields) = .ok values) : values.keys = fields.keys := by
  obtain ⟨_, ⟨⟩, hfields⟩ := forall₂_of_entries h
  have hkeys : fields.map Prod.fst = values.map Prod.fst :=
    List.forall₂_eq_eq_eq ▸ List.rel_map (fun _ _ hfield => hfield.1) hfields
  exact hkeys.symm

/-- A value that is read although it may be absent is there. -/
theorem optional_eq_ok {decoder : Decoder α} {json : Json} {v : Option α}
    (h : optional decoder json = .ok v) {a : α} (ha : a ∈ v) :
    json ≠ .null ∧ decoder json = .ok a := by
  cases json with
  | null =>
    cases h
    cases ha
  | bool | num | str | arr | obj =>
    obtain ⟨b, hb, rfl⟩ := map_eq_ok h
    cases ha
    exact ⟨Json.noConfusion, hb⟩

theorem text_eq_ok {json : Json} {s : String} (h : text json = .ok s) : json = .str s := by
  cases json with
  | str t =>
    cases h
    rfl
  | null | bool | num | arr | obj => cases h

theorem optional_text_eq_ok {json : Json} {s : Option String} (h : optional text json = .ok s) :
    json.string? = s := by
  cases json with
  | null | str =>
    cases h
    rfl
  | bool | num | arr | obj => cases h

/-- Texts are read from an array of them. -/
theorem list_text_eq_ok {json : Json} {texts : List String} (h : list text json = .ok texts) :
    json = .arr (texts.map .str) := by
  cases json with
  | arr items =>
    have heq : ∀ {items texts}, List.Forall₂ (fun item value => text item = .ok value) items texts →
        items = texts.map .str := by
      intro items texts hitems
      induction hitems with
      | nil => rfl
      | cons hhead _ ih => rw [List.map_cons, ← ih, text_eq_ok hhead]
    rw [heq (forall₂_of_mapM h)]
  | null | bool | num | str | obj => cases h

/-! ## Places of a record -/

namespace Field

/-- What a field reads ends up in a place of the record. -/
def Fills (f : Field σ) (decoder : Decoder β) (place : σ → β) : Prop :=
  ∀ json s s', f.set json s = .ok s' → decoder json = .ok (place s')

/-- A field leaves a place of the record as it is. -/
def Spares (f : Field σ) (place : σ → β) : Prop :=
  ∀ json s s', f.set json s = .ok s' → place s' = place s

/-- A field fills a place if it has the key of the place and no other, and
leaves it alone if it has not. -/
def Respects (f : Field σ) (key : String) (decoder : Decoder β) (place : σ → β) : Prop :=
  if key ∈ f.names then f.names = [key] ∧ f.Fills decoder place else f.name ≠ key ∧ f.Spares place

variable {name key : String} {decoder : Decoder α} {put : α → σ → σ}

@[simp] theorem names_mandatory : (mandatory name decoder put).names = [name] := rfl

@[simp] theorem names_named {names : List String} : (named names decoder put).names = names := rfl

@[simp] theorem names_defaulted : (defaulted name decoder put).names = [name] := rfl

@[simp] theorem respects_mandatory_self {place : σ → α} (hput : ∀ v s, place (put v s) = v) :
    (mandatory key decoder put).Respects key decoder place := by
  rw [Respects, names_mandatory, if_pos List.mem_cons_self]
  refine ⟨rfl, fun json s s' hset => ?_⟩
  obtain ⟨v, hv, heq⟩ := bind_eq_ok hset
  cases heq
  rw [hput, hv]

@[simp] theorem respects_defaulted_self {place : σ → α} (hput : ∀ v s, place (put v s) = v) :
    (defaulted key decoder put).Respects key decoder place :=
  respects_mandatory_self hput

@[simp] theorem respects_mandatory_of_ne {other : Decoder β} {place : σ → β} (hne : name ≠ key)
    (hput : ∀ v s, place (put v s) = place s) :
    (mandatory name decoder put).Respects key other place := by
  rw [Respects, names_mandatory, if_neg (List.mem_singleton.not.mpr hne.symm)]
  refine ⟨hne, fun json s s' hset => ?_⟩
  obtain ⟨v, -, heq⟩ := bind_eq_ok hset
  cases heq
  exact hput v s

@[simp] theorem respects_defaulted_of_ne {other : Decoder β} {place : σ → β} (hne : name ≠ key)
    (hput : ∀ v s, place (put v s) = place s) :
    (defaulted name decoder put).Respects key other place :=
  respects_mandatory_of_ne hne hput

@[simp] theorem respects_named_of_ne {names : List String} {other : Decoder β} {place : σ → β}
    (hkey : key ∉ names) (hname : names.headD "" ≠ key) (hput : ∀ v s, place (put v s) = place s) :
    (named names decoder put).Respects key other place := by
  rw [Respects, names_named, if_neg hkey]
  refine ⟨hname, fun json s s' hset => ?_⟩
  obtain ⟨v, -, heq⟩ := bind_eq_ok hset
  cases heq
  exact hput v s

end Field

/-- A place of a record belongs to a key: one of the fields has that key, and
all of them respect the place. -/
structure Governs (fields : List (Field σ)) (key : String) (decoder : Decoder β) (place : σ → β) :
    Prop where
  known : ∃ f ∈ fields, key ∈ f.names
  respected : ∀ f ∈ fields, f.Respects key decoder place

/-- A value is what an object holds under a key, or a default if it has no such key. -/
def Holds (entries : Entries Json) (key : String) (decoder : Decoder β) (default value : β) :
    Prop :=
  match entries.get? key with
  | some json => decoder json = .ok value
  | none => value = default

theorem Holds.of_some {entries : Entries Json} {key : String} {decoder : Decoder β}
    {default value : β} {json : Json} (h : Holds entries key decoder default value)
    (hjson : entries.get? key = some json) : decoder json = .ok value := by
  rw [Holds, hjson] at h
  exact h

theorem Holds.of_none {entries : Entries Json} {key : String} {decoder : Decoder β}
    {default value : β} (h : Holds entries key decoder default value)
    (hkey : entries.get? key = none) : value = default := by
  rw [Holds, hkey] at h
  exact h

variable {fields : List (Field σ)} {key : String} {decoder : Decoder β} {place : σ → β}

/-- A field that is looked up by a key has it. -/
theorem names_of_find {f : Field σ} (h : fields.find? (fun f => f.names.contains key) = some f) :
    f ∈ fields ∧ key ∈ f.names :=
  ⟨List.mem_of_find?_eq_some h, by simpa using List.find?_some h⟩

/-- A place whose key has been read keeps its value. -/
theorem place_readFields (hgoverns : Governs fields key decoder place) {seen seen' : List String}
    {s s' : σ} {entries : Entries Json} (h : readFields fields seen s entries = .ok (seen', s'))
    (hseen : key ∈ seen) :
    place s' = place s := by
  induction entries generalizing seen s with
  | nil =>
    cases h
    rfl
  | cons pair rest ih =>
    obtain ⟨k, value⟩ := pair
    rw [readFields] at h
    split at h
    · exact ih h hseen
    · next f hfind =>
      obtain ⟨hmem, hk⟩ := names_of_find hfind
      split at h
      · cases h
      · next hfresh =>
        obtain ⟨t, hset, h⟩ := bind_eq_ok h
        have hrespects := hgoverns.respected f hmem
        rw [ih h (List.mem_cons_of_mem f.name hseen)]
        by_cases hkey : key ∈ f.names
        · rw [Field.Respects, if_pos hkey] at hrespects
          exact absurd hseen (by simpa [Field.name, hrespects.1] using hfresh)
        · rw [Field.Respects, if_neg hkey] at hrespects
          exact hrespects.2 value s t hset

/-- A place whose key has not been read yet gets what the remaining fields hold for it. -/
theorem holds_readFields (hgoverns : Governs fields key decoder place) {seen seen' : List String}
    {s s' : σ} {entries : Entries Json} (h : readFields fields seen s entries = .ok (seen', s'))
    (hseen : key ∉ seen) :
    Holds entries key decoder (place s) (place s') := by
  induction entries generalizing seen s with
  | nil =>
    cases h
    rfl
  | cons pair rest ih =>
    obtain ⟨k, value⟩ := pair
    rw [readFields] at h
    by_cases hk : k = key
    · -- The first field of this key is the one that counts: none of that name is read after it.
      rw [Holds, Entries.get?, if_pos hk]
      split at h
      · next hfind =>
        obtain ⟨f, hmem, hkey⟩ := hgoverns.known
        exact absurd (List.find?_eq_none.mp hfind f hmem) (by simp [hk, hkey])
      · next f hfind =>
        obtain ⟨hmem, hkey⟩ := names_of_find hfind
        split at h
        · cases h
        · obtain ⟨t, hset, h⟩ := bind_eq_ok h
          have hrespects := hgoverns.respected f hmem
          rw [Field.Respects, if_pos (hk ▸ hkey)] at hrespects
          rw [place_readFields hgoverns h (by simp [Field.name, hrespects.1])]
          exact hrespects.2 value s t hset
    · have hrest : Holds rest key decoder (place s) (place s') := by
        split at h
        · exact ih h hseen
        · next f hfind =>
          obtain ⟨hmem, hkey⟩ := names_of_find hfind
          split at h
          · cases h
          · obtain ⟨t, hset, h⟩ := bind_eq_ok h
            have hrespects := hgoverns.respected f hmem
            by_cases hown : key ∈ f.names
            · rw [Field.Respects, if_pos hown] at hrespects
              rw [hrespects.1, List.mem_singleton] at hkey
              exact absurd hkey hk
            · rw [Field.Respects, if_neg hown] at hrespects
              rw [← hrespects.2 value s t hset]
              refine ih h fun hin => ?_
              rcases List.mem_cons.mp hin with heq | hin
              · exact hrespects.1 heq.symm
              · exact hseen hin
      rw [Holds, Entries.get?, if_neg hk]
      exact hrest

/-- What an object is read into holds, in each place, what the object has for it. -/
theorem holds_of_record {name : String} {initial s : σ} {entries : Entries Json}
    (h : record name fields initial (.obj entries) = .ok s) (key : String) (decoder : Decoder β)
    (place : σ → β) (hgoverns : Governs fields key decoder place) :
    Holds entries key decoder (place initial) (place s) := by
  obtain ⟨⟨seen, s'⟩, hread, h⟩ := bind_eq_ok h
  simp only at h
  split at h
  · cases h
  · cases h
    exact holds_readFields hgoverns hread List.not_mem_nil

end Workflow.Decode
