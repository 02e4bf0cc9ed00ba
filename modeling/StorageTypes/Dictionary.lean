
namespace StorageTypes

/-- Entries under names, in order. -/
abbrev Dictionary (α : Type) := List (String × α)

namespace Dictionary

variable {α β : Type}

def find? (name : String) : Dictionary α → Option α
  | [] => none
  | (key, value) :: rest => if key = name then some value else find? name rest

/-- Writes an entry: in place when the name exists, at the end otherwise. -/
def put (name : String) (value : α) : Dictionary α → Dictionary α
  | [] => [(name, value)]
  | (key, old) :: rest =>
    if key = name then (key, value) :: rest else (key, old) :: put name value rest

def names (entries : Dictionary α) : List String :=
  entries.map (·.1)

def values (entries : Dictionary α) : List α :=
  entries.map (·.2)

def holds (name : String) (entries : Dictionary α) : Bool :=
  (find? name entries).isSome

def mapValues (f : α → β) (entries : Dictionary α) : Dictionary β :=
  entries.map fun entry => (entry.1, f entry.2)

def putAll (entries : Dictionary α) (changes : List (String × α)) : Dictionary α :=
  changes.foldl (fun done change => put change.1 change.2 done) entries

/-- The dictionary of a list of entries: first positions, last values. -/
def ofList (entries : List (String × α)) : Dictionary α :=
  putAll [] entries

theorem find?_put_self (name : String) (value : α) (entries : Dictionary α) :
    find? name (put name value entries) = some value := by
  induction entries with
  | nil => simp [put, find?]
  | cons entry rest ih =>
    by_cases h : entry.1 = name
    · simp [put, find?, h]
    · simp [put, find?, h, ih]

theorem find?_put_of_ne {name other : String} (h : other ≠ name) (value : α)
    (entries : Dictionary α) : find? other (put name value entries) = find? other entries := by
  induction entries with
  | nil => simp [put, find?, Ne.symm h]
  | cons entry rest ih =>
    by_cases hn : entry.1 = name
    · have ho : entry.1 ≠ other := fun he => h (he.symm.trans hn)
      simp [put, find?, hn, Ne.symm h]
    · by_cases ho : entry.1 = other
      · simp [put, find?, ho, h]
      · simp [put, find?, hn, ho, ih]

theorem find?_isSome_iff {name : String} {entries : Dictionary α} :
    (find? name entries).isSome ↔ name ∈ names entries := by
  induction entries with
  | nil => simp [find?, names]
  | cons entry rest ih =>
    by_cases h : entry.1 = name
    · simp [find?, names, h]
    · simp only [find?, h, if_false, ih, names, List.map_cons, List.mem_cons]
      simp [Ne.symm h]

theorem names_put (name : String) (value : α) (entries : Dictionary α) :
    names (put name value entries)
      = if name ∈ names entries then names entries else names entries ++ [name] := by
  induction entries with
  | nil => simp [put, names]
  | cons entry rest ih =>
    by_cases h : entry.1 = name
    · simp [put, names, h]
    · simp only [names] at ih
      simp only [put, h, if_false, names, List.map_cons, ih, List.mem_cons, Ne.symm h, false_or]
      split <;> simp [*]

theorem names_mapValues (f : α → β) (entries : Dictionary α) :
    names (mapValues f entries) = names entries := by
  simp [names, mapValues]

end Dictionary

end StorageTypes
