import QuantumKata.Exercise.Basic
import QuantumKata.Listing

/-!
# Catalogs

A catalog holds exercises under their names, in the order in which they were added.
-/

namespace QuantumKata

/-- A collection of exercises. -/
structure Catalog (R : Type) where
  listing : Listing (Exercise R) := {}

/-- How many exercises there are, by size and by mode. -/
structure CatalogStatistics where
  total : Nat
  bySize : List (Int × Nat)
  byMode : List (EquivalenceMode × Nat)

namespace Catalog

variable {R : Type}

/-- Add an exercise under a name that is not taken. -/
def add (catalog : Catalog R) (exercise : Exercise R) : Except Fault (Catalog R) :=
  if catalog.listing.holds exercise.name then .error (.duplicateExercise exercise.name)
  else .ok ⟨catalog.listing.put exercise.name exercise⟩

/-- The catalog of exercises that are added one after the other. -/
def ofList (exercises : List (Exercise R)) : Except Fault (Catalog R) :=
  exercises.foldlM add {}

/-- The exercise of a name. -/
def get (catalog : Catalog R) (name : String) : Except Fault (Exercise R) :=
  match catalog.listing.find? name with
  | some exercise => .ok exercise
  | none => .error (.unknownExercise name)

/-- The exercises in order. -/
def toList (catalog : Catalog R) : List (Exercise R) := catalog.listing.values

/-- The names in order. -/
def names (catalog : Catalog R) : List String := catalog.listing.names

/-- Whether there is an exercise of the name. -/
def holds (catalog : Catalog R) (name : String) : Bool := catalog.listing.holds name

/-- The number of exercises. -/
def size (catalog : Catalog R) : Nat := catalog.listing.size

/-- The exercises that carry a tag. -/
def withTag (catalog : Catalog R) (tag : String) : List (Exercise R) :=
  catalog.toList.filter fun exercise => exercise.tags.contains tag

/-- How often each value occurs, in the order of first occurrence. -/
def countEach {α : Type} [BEq α] (values : List α) : List (α × Nat) :=
  values.eraseDups.map fun value => (value, values.count value)

/-- The statistics of a catalog. -/
def statistics (catalog : Catalog R) : CatalogStatistics where
  total := catalog.size
  bySize := countEach (catalog.toList.map Exercise.numQubits)
  byMode := countEach (catalog.toList.map Exercise.mode)

end Catalog

namespace CatalogStatistics

/-- Statistics as a record. -/
def toRecord (statistics : CatalogStatistics) : Datum :=
  .record [("total_exercises", .integer statistics.total),
    ("by_num_qubits", .mapping (statistics.bySize.map fun (size, count) =>
      (.integer size, .integer count))),
    ("by_mode", .record (statistics.byMode.map fun (mode, count) =>
      (mode.word, .integer count)))]

end CatalogStatistics

end QuantumKata
