/-!
Dictionaries and sets of names, kept in the order of the names. Main statements: what a name stands
for after an entry is put in or taken out, and that two dictionaries that agree on every name are
the same.
-/

namespace SingleFlight

section Keys

variable {α κ : Type} [DecidableEq κ] {key : α → κ} {members : List α} {member : α}

/-- Where a key tells members apart, only one of them has the key that it has. -/
theorem filter_of_key (distinct : (members.map key).Nodup) (memberIn : member ∈ members) :
    members.filter (fun other => key other = key member) = [member] := by
  induction members with
  | nil => cases memberIn
  | cons first rest ih =>
    obtain ⟨apart, distinctRest⟩ := List.nodup_cons.mp distinct
    rcases List.mem_cons.mp memberIn with same | inRest
    · subst same
      rw [List.filter_cons_of_pos (by simp), List.filter_eq_nil_iff.mpr]
      intro other otherIn sameKey
      exact apart (List.mem_map.mpr ⟨other, otherIn, of_decide_eq_true sameKey⟩)
    · rw [List.filter_cons_of_neg, ih distinctRest inRest]
      intro sameKey
      exact apart (List.mem_map.mpr ⟨member, inRest, (of_decide_eq_true sameKey).symm⟩)

theorem find?_of_key (distinct : (members.map key).Nodup) (memberIn : member ∈ members) :
    members.find? (fun other => key other = key member) = some member := by
  rw [← List.head?_filter, filter_of_key distinct memberIn]
  rfl

end Keys

/-- Entries sorted strictly by name. -/
structure Dictionary (α : Type) where
  entries : List (String × α)
  sorted : entries.Pairwise (fun first second => first.1 < second.1)
  deriving DecidableEq

namespace Dictionary

variable {α : Type}

def empty : Dictionary α := ⟨[], List.Pairwise.nil⟩

def lookup (name : String) (entries : List (String × α)) : Option α := (entries.find? (·.1 == name)).map (·.2)

def find? (dictionary : Dictionary α) (name : String) : Option α := lookup name dictionary.entries

def contains (dictionary : Dictionary α) (name : String) : Bool := (dictionary.find? name).isSome

def insertEntry (name : String) (value : α) : List (String × α) → List (String × α)
  | [] => [(name, value)]
  | (other, held) :: rest =>
    if name < other then (name, value) :: (other, held) :: rest
    else if name = other then (name, value) :: rest
    else (other, held) :: insertEntry name value rest

theorem mem_insertEntry {name : String} {value : α} {entries : List (String × α)} {entry : String × α}
    (member : entry ∈ insertEntry name value entries) : entry = (name, value) ∨ entry ∈ entries := by
  induction entries with
  | nil => simpa [insertEntry] using member
  | cons first rest ih =>
    obtain ⟨other, held⟩ := first
    simp only [insertEntry] at member
    split at member
    · simpa using member
    · split at member
      · rcases List.mem_cons.mp member with same | inRest
        · exact .inl same
        · exact .inr (List.mem_cons_of_mem _ inRest)
      · rcases List.mem_cons.mp member with same | inRest
        · exact .inr (same ▸ List.mem_cons_self)
        · exact (ih inRest).imp_right (List.mem_cons_of_mem _)

theorem sorted_insertEntry (name : String) (value : α) (entries : List (String × α))
    (sorted : entries.Pairwise (fun first second => first.1 < second.1)) :
    (insertEntry name value entries).Pairwise (fun first second => first.1 < second.1) := by
  induction entries with
  | nil => simp [insertEntry]
  | cons first rest ih =>
    obtain ⟨other, held⟩ := first
    obtain ⟨before, sortedRest⟩ := List.pairwise_cons.mp sorted
    simp only [insertEntry]
    split
    next less =>
      refine List.pairwise_cons.mpr ⟨?_, sorted⟩
      intro entry member
      rcases List.mem_cons.mp member with same | inRest
      · exact same ▸ less
      · exact String.lt_trans less (before entry inRest)
    next notLess =>
      split
      next same => exact List.pairwise_cons.mpr ⟨same ▸ before, sortedRest⟩
      next different =>
        have greater : other < name :=
          Decidable.byContradiction fun no => different (String.le_antisymm (String.not_lt.mp no) (String.not_lt.mp notLess))
        refine List.pairwise_cons.mpr ⟨?_, ih sortedRest⟩
        intro entry member
        rcases mem_insertEntry member with same | inRest
        · exact same ▸ greater
        · exact before entry inRest

def insert (dictionary : Dictionary α) (name : String) (value : α) : Dictionary α :=
  ⟨insertEntry name value dictionary.entries, sorted_insertEntry name value _ dictionary.sorted⟩

def erase (dictionary : Dictionary α) (name : String) : Dictionary α :=
  ⟨dictionary.entries.filter (fun entry => !(entry.1 == name)), dictionary.sorted.filter _⟩

/-- Entries put in one after the other, so that the last one of a name stays. -/
def ofList (entries : List (String × α)) : Dictionary α :=
  entries.foldl (fun dictionary entry => dictionary.insert entry.1 entry.2) empty

theorem lookup_insertEntry (name other : String) (value : α) (entries : List (String × α)) :
    lookup other (insertEntry name value entries) = if other = name then some value else lookup other entries := by
  induction entries with
  | nil =>
    by_cases same : other = name
    · simp [insertEntry, lookup, same]
    · simp [insertEntry, lookup, same, Ne.symm same]
  | cons first rest ih =>
    obtain ⟨key, held⟩ := first
    simp only [insertEntry]
    split
    · by_cases same : other = name
      · simp [lookup, same]
      · simp [lookup, same, Ne.symm same]
    · split
      next keyIsName =>
        subst keyIsName
        by_cases same : other = name
        · simp [lookup, same]
        · simp [lookup, same, Ne.symm same]
      next different =>
        by_cases keySame : key = other
        · subst keySame
          simp [lookup, Ne.symm different]
        · simpa [lookup, keySame] using ih

@[simp]
theorem find?_insert (dictionary : Dictionary α) (name other : String) (value : α) :
    (dictionary.insert name value).find? other = if other = name then some value else dictionary.find? other :=
  lookup_insertEntry name other value dictionary.entries

@[simp]
theorem find?_erase (dictionary : Dictionary α) (name other : String) :
    (dictionary.erase name).find? other = if other = name then none else dictionary.find? other := by
  obtain ⟨entries, sorted⟩ := dictionary
  simp only [find?, erase, lookup]
  clear sorted
  induction entries with
  | nil => simp
  | cons first rest ih =>
    by_cases erased : first.1 = name
    · by_cases same : other = name
      · simp [same]
      · simpa [List.filter_cons, erased, same, Ne.symm same] using ih
    · by_cases found : first.1 = other
      · have different : ¬other = name := fun same => erased (found.trans same)
        simp [found, different]
      · simpa [List.filter_cons, erased, found] using ih

theorem nodup_names (dictionary : Dictionary α) : (dictionary.entries.map (·.1)).Nodup := by
  apply List.pairwise_map.mpr
  apply dictionary.sorted.imp
  intro first second less same
  rw [same] at less
  exact String.lt_irrefl _ less

/-- Where no name has two entries, an entry is one that its name stands for. -/
theorem lookup_iff {entries : List (String × α)} (distinct : (entries.map (·.1)).Nodup) {name : String} {value : α} :
    lookup name entries = some value ↔ (name, value) ∈ entries := by
  rw [lookup, Option.map_eq_some_iff]
  constructor
  · intro given
    obtain ⟨entry, found, rfl⟩ := given
    have same : entry.1 = name := by simpa using List.find?_some found
    rw [← same]
    exact List.mem_of_find?_eq_some found
  · intro entryIn
    exact ⟨(name, value), find?_of_key distinct entryIn, rfl⟩

theorem mem_entries {dictionary : Dictionary α} {name : String} {value : α} :
    (name, value) ∈ dictionary.entries ↔ dictionary.find? name = some value :=
  (lookup_iff dictionary.nodup_names).symm

@[simp]
theorem find?_empty (name : String) : (empty : Dictionary α).find? name = none := rfl

/-- Of the entries of a name that are put in one after the other, the last one stays. -/
theorem find?_foldl_insert {β : Type} (write : String × α → β) (entries : List (String × α)) (start : Dictionary β)
    (name : String) :
    (entries.foldl (fun dictionary entry => dictionary.insert entry.1 (write entry)) start).find? name =
      ((entries.reverse.find? (·.1 == name)).map write).or (start.find? name) := by
  induction entries generalizing start with
  | nil => rfl
  | cons first rest ih =>
    rw [List.foldl_cons, ih, List.reverse_cons, List.find?_append, find?_insert]
    cases rest.reverse.find? (·.1 == name) with
    | some last => rfl
    | none =>
      by_cases same : name = first.1
      · simp [same]
      · simp [same, Ne.symm same]

/-- Where no name has two entries it does not matter from which end one looks. -/
theorem find?_reverse {entries : List (String × α)} (distinct : (entries.map (·.1)).Nodup) (name : String) :
    entries.reverse.find? (·.1 == name) = entries.find? (·.1 == name) := by
  have distinctBack : (entries.reverse.map (·.1)).Nodup := by
    rw [List.map_reverse]
    exact List.pairwise_reverse.mpr (distinct.imp Ne.symm)
  cases found : entries.find? (·.1 == name) with
  | none =>
    rw [List.find?_eq_none] at found ⊢
    intro entry entryIn
    exact found entry (List.mem_reverse.mp entryIn)
  | some entry =>
    have same : entry.1 = name := by simpa using List.find?_some found
    rw [← same]
    exact find?_of_key distinctBack (List.mem_reverse.mpr (List.mem_of_find?_eq_some found))

theorem find?_ofList (entries : List (String × α)) (name : String) :
    (ofList entries).find? name = lookup name entries.reverse := by
  rw [ofList, find?_foldl_insert, lookup, find?_empty, Option.or_none]

theorem find?_ofList_iff {entries : List (String × α)} (distinct : (entries.map (·.1)).Nodup) {name : String} {value : α} :
    (ofList entries).find? name = some value ↔ (name, value) ∈ entries := by
  rw [find?_ofList, lookup, find?_reverse distinct]
  exact lookup_iff distinct

end Dictionary

/-- A set of names. -/
abbrev NameSet := Dictionary Unit

namespace NameSet

def ofList (names : List String) : NameSet := Dictionary.ofList (names.map (·, ()))

def toList (names : NameSet) : List String := names.entries.map (·.1)

theorem contains_iff {names : NameSet} {name : String} : names.contains name = true ↔ names.find? name = some () := by
  cases found : names.find? name <;> simp [Dictionary.contains, found]

theorem mem_toList {names : NameSet} {name : String} : name ∈ names.toList ↔ names.contains name = true := by
  rw [contains_iff, ← Dictionary.mem_entries, toList, List.mem_map]
  constructor
  · intro given
    obtain ⟨entry, entryIn, rfl⟩ := given
    exact entryIn
  · intro entryIn
    exact ⟨(name, ()), entryIn, rfl⟩

/-- Names put in one after the other are those that were there and those that were put in. -/
theorem contains_foldl_insert (added : List String) (names : NameSet) (name : String) :
    (added.foldl (fun names name => names.insert name ()) names).contains name = true ↔
      name ∈ added ∨ names.contains name = true := by
  induction added generalizing names with
  | nil => simp
  | cons first rest ih =>
    rw [List.foldl_cons, ih, contains_iff, contains_iff, Dictionary.find?_insert]
    by_cases same : name = first <;> simp [same]

theorem contains_ofList (names : List String) (name : String) : (ofList names).contains name = true ↔ name ∈ names := by
  rw [ofList, Dictionary.ofList, List.foldl_map, contains_foldl_insert]
  simp [Dictionary.contains]

end NameSet

end SingleFlight
