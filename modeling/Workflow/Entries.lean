/-!
# Ordered entries

Documents, input maps and step results all keep the order in which their keys were first written.
`Entries α` is such a map: a list of key-value pairs in which writing to a known key replaces the
value where it stands, and writing to a new key appends.
-/

namespace Workflow

/-- A map that remembers the order of first insertion. -/
abbrev Entries (α : Type) := List (String × α)

namespace Entries

variable {α β : Type}

def get? : Entries α → String → Option α
  | [], _ => none
  | (k, v) :: rest, key => if k = key then some v else get? rest key

def contains (entries : Entries α) (key : String) : Bool :=
  (entries.get? key).isSome

/-- Writes `value` under `key`: in place if the key is known, at the end otherwise. -/
def insert : Entries α → String → α → Entries α
  | [], key, value => [(key, value)]
  | (k, v) :: rest, key, value =>
    if k = key then (k, value) :: rest else (k, v) :: insert rest key value

/-- Removes the pair stored under `key`. -/
def erase (entries : Entries α) (key : String) : Entries α :=
  entries.filter (fun pair => pair.1 ≠ key)

def keys (entries : Entries α) : List String :=
  entries.map Prod.fst

def values (entries : Entries α) : List α :=
  entries.map Prod.snd

/-- Builds a map by inserting pairs from left to right, so the last value of a key wins and stands
at the key's first place. -/
def ofList (pairs : List (String × α)) : Entries α :=
  pairs.foldl (fun entries pair => entries.insert pair.1 pair.2) []

def mapValues (f : α → β) (entries : Entries α) : Entries β :=
  entries.map (fun pair => (pair.1, f pair.2))

@[simp] theorem get?_nil (key : String) : get? ([] : Entries α) key = none := rfl

theorem get?_insert_self (entries : Entries α) (key : String) (value : α) :
    (entries.insert key value).get? key = some value := by
  induction entries with
  | nil => simp [insert, get?]
  | cons pair rest ih =>
    obtain ⟨k, v⟩ := pair
    by_cases h : k = key <;> simp [insert, get?, h, ih]

theorem get?_insert_of_ne (entries : Entries α) {key other : String} (value : α)
    (hne : other ≠ key) : (entries.insert key value).get? other = entries.get? other := by
  induction entries with
  | nil => simp [insert, get?, hne.symm]
  | cons pair rest ih =>
    obtain ⟨k, v⟩ := pair
    by_cases h : k = key
    · subst h
      simp [insert, get?, hne.symm]
    · by_cases h' : k = other
      · subst h'
        simp [insert, get?, h]
      · simp [insert, get?, h, h', ih]

theorem get?_insert (entries : Entries α) (key other : String) (value : α) :
    (entries.insert key value).get? other = if other = key then
      some value else entries.get? other := by
  by_cases h : other = key
  · subst h
    simp [get?_insert_self]
  · simp [h, get?_insert_of_ne entries value h]

/-- A value other than the one that is inserted was there before. -/
theorem get?_of_insert {entries : Entries α} {key other : String} {value found : α}
    (h : (entries.insert key value).get? other = some found) (hne : value ≠ found) :
    entries.get? other = some found := by
  rw [get?_insert] at h
  split at h
  · exact absurd (Option.some.inj h) hne
  · exact h

/-- Writing to a known key keeps the keys; a new key comes last. -/
theorem keys_insert (entries : Entries α) (key : String) (value : α) :
    (entries.insert key value).keys =
      if key ∈ entries.keys then entries.keys else entries.keys ++ [key] := by
  induction entries with
  | nil => simp [insert, keys]
  | cons pair rest ih =>
    obtain ⟨k, v⟩ := pair
    by_cases h : k = key
    · subst h
      simp [insert, keys]
    · have hne : ¬ key = k := fun e => h e.symm
      simp only [keys] at ih
      by_cases hm : key ∈ List.map Prod.fst rest <;> simp_all [insert, keys]

/-- A key has a value exactly if it is one of the keys. -/
theorem contains_iff_mem_keys (entries : Entries α) (key : String) :
    entries.contains key = true ↔ key ∈ entries.keys := by
  induction entries with
  | nil => simp [contains, keys]
  | cons pair rest ih =>
    obtain ⟨k, v⟩ := pair
    by_cases h : k = key
    · simp [contains, get?, keys, h]
    · have hne : ¬ key = k := fun e => h e.symm
      simp only [contains, keys] at ih
      simp [contains, get?, keys, h, hne, ih]

/-- A key that is not one of the keys has no value. -/
theorem get?_eq_none {entries : Entries α} {key : String} (h : key ∉ entries.keys) :
    entries.get? key = none := by
  rw [← Option.not_isSome_iff_eq_none]
  exact fun hsome => h ((contains_iff_mem_keys entries key).mp hsome)

/-- With each key once, every pair is found by its key. -/
theorem get?_eq_some_of_mem {entries : Entries α} (h : entries.keys.Nodup) {key : String}
    {value : α} (hmem : (key, value) ∈ entries) : entries.get? key = some value := by
  induction entries with
  | nil => exact absurd hmem List.not_mem_nil
  | cons pair rest ih =>
    obtain ⟨k, v⟩ := pair
    obtain ⟨hhead, hrest⟩ := List.nodup_cons.mp h
    rcases List.mem_cons.mp hmem with heq | hmem
    · cases heq
      simp [get?]
    · have hkey : key ∈ rest.map Prod.fst := List.mem_map_of_mem hmem
      have hne : k ≠ key := fun heq => hhead (heq ▸ hkey)
      rw [get?, if_neg hne]
      exact ih hrest hmem

/-- A value that is found by its key stands under it. -/
theorem mem_of_get? {entries : Entries α} {key : String} {value : α}
    (h : entries.get? key = some value) : (key, value) ∈ entries := by
  induction entries with
  | nil => cases h
  | cons pair rest ih =>
    obtain ⟨k, v⟩ := pair
    rw [get?] at h
    split at h
    · next heq =>
      cases h
      exact heq ▸ List.mem_cons_self
    · exact List.mem_cons_of_mem _ (ih h)

theorem contains_insert (entries : Entries α) (key other : String) (value : α) :
    (entries.insert key value).contains other =
      (decide (other = key) || entries.contains other) := by
  by_cases h : other = key <;> simp [contains, get?_insert, h]

/-- Writing never brings a key in twice. -/
theorem nodup_keys_insert {entries : Entries α} (h : entries.keys.Nodup) (key : String)
    (value : α) :
    (entries.insert key value).keys.Nodup := by
  rw [keys_insert]
  split
  · exact h
  · next hne =>
    refine List.nodup_append.mpr ⟨h, by simp, ?_⟩
    intro a ha b hb e
    rw [List.mem_singleton] at hb
    exact hne (hb ▸ e ▸ ha)

theorem get?_erase (entries : Entries α) (key other : String) :
    (entries.erase key).get? other = if other = key then none else entries.get? other := by
  induction entries with
  | nil => simp [erase]
  | cons pair rest ih =>
    obtain ⟨k, v⟩ := pair
    simp only [erase] at ih
    by_cases h : k = key
    · subst h
      by_cases h' : other = k
      · simpa [erase, get?, h'] using ih
      · have hne : ¬ k = other := fun e => h' e.symm
        simpa [erase, get?, h', hne] using ih
    · by_cases h' : k = other
      · subst h'
        simp [erase, get?, h]
      · simpa [erase, get?, h, h'] using ih

@[simp] theorem keys_mapValues (f : α → β) (entries : Entries α) :
    (entries.mapValues f).keys = entries.keys := by
  simp [keys, mapValues]

end Entries

end Workflow
