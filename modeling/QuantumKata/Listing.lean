/-!
# Listings

A listing holds values under names in the order in which the names were first written.  Writing a
name again replaces its value and leaves it in its place.
-/

namespace QuantumKata

/-- Values under names. -/
structure Listing (α : Type) where
  entries : List (String × α) := []

namespace Listing

variable {α : Type}

instance : Inhabited (Listing α) := ⟨{}⟩

/-- Write a value into a list of entries. -/
def putEntry (name : String) (value : α) : List (String × α) → List (String × α)
  | [] => [(name, value)]
  | (key, old) :: rest =>
    if key = name then (key, value) :: rest else (key, old) :: putEntry name value rest

/-- Write a value under a name. -/
def put (listing : Listing α) (name : String) (value : α) : Listing α :=
  ⟨putEntry name value listing.entries⟩

/-- The listing of entries that are written one after the other. -/
def ofList (entries : List (String × α)) : Listing α :=
  entries.foldl (fun listing entry => listing.put entry.1 entry.2) {}

/-- The value under a name. -/
def find? (listing : Listing α) (name : String) : Option α := listing.entries.lookup name

/-- Whether a name has a value. -/
def holds (listing : Listing α) (name : String) : Bool := (listing.find? name).isSome

/-- The number of names. -/
def size (listing : Listing α) : Nat := listing.entries.length

/-- The names in order. -/
def names (listing : Listing α) : List String := listing.entries.map Prod.fst

/-- The values in order. -/
def values (listing : Listing α) : List α := listing.entries.map Prod.snd

theorem lookup_putEntry_self (name : String) (value : α) (entries : List (String × α)) :
    (putEntry name value entries).lookup name = some value := by
  induction entries with
  | nil => simp [putEntry]
  | cons entry rest ih =>
    obtain ⟨key, old⟩ := entry
    by_cases same : key = name
    · simp [putEntry, same]
    · simp [putEntry, same, List.lookup_cons, beq_false_of_ne (Ne.symm same), ih]

theorem lookup_putEntry_of_ne {name other : String} (different : other ≠ name) (value : α)
    (entries : List (String × α)) :
    (putEntry name value entries).lookup other = entries.lookup other := by
  induction entries with
  | nil => simp [putEntry, different]
  | cons entry rest ih =>
    obtain ⟨key, old⟩ := entry
    by_cases same : key = name
    · simp [putEntry, same, List.lookup_cons, beq_false_of_ne different]
    · simp [putEntry, same, List.lookup_cons, ih]

/-- What was written last under a name is found there. -/
@[simp]
theorem find?_put_self (listing : Listing α) (name : String) (value : α) :
    (listing.put name value).find? name = some value :=
  lookup_putEntry_self name value listing.entries

/-- Writing under one name leaves the others alone. -/
@[simp]
theorem find?_put_of_ne (listing : Listing α) {name other : String} (different : other ≠ name)
    (value : α) : (listing.put name value).find? other = listing.find? other :=
  lookup_putEntry_of_ne different value listing.entries

end Listing

end QuantumKata
