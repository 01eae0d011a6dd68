import QuantumKata.Listing
import QuantumKata.Operation.Basic

/-!
# The registry

A submission exports values under names; those that are operations can be registered.  The registry
is asked for the learner's operation by name.  It may be filled with other values from the start,
and these are found like operations.
-/

namespace QuantumKata

/-- What a submission exports under a name. -/
inductive Export (R : Type) where
  | operation (operation : Operation R)
  | value (datum : Datum)

instance {R : Type} : Inhabited (Export R) := ⟨.value .null⟩

namespace Export

variable {R : Type}

/-- The name of an export's type. -/
def typeName : Export R → String
  | operation given => given.kindWord
  | value datum => datum.typeName

/-- Whether an export is an operation. -/
def isOperation : Export R → Bool
  | operation _ => true
  | value _ => false

end Export

/-- Exports under names. -/
structure Registry (R : Type) where
  listing : Listing (Export R) := {}

namespace Registry

variable {R : Type}

instance : Inhabited (Registry R) := ⟨{}⟩

/-- A registry with the given exports. -/
def ofList (exports : List (String × Export R)) : Registry R := ⟨.ofList exports⟩

/-- Register an operation.  A name that is taken can only be taken over by replacement. -/
def register (registry : Registry R) (name : String) (given : Export R) (replacing : Bool) :
    Except Fault (Registry R) :=
  if !given.isOperation then .error (.notAnOperation given.typeName)
  else if registry.listing.holds name && !replacing then .error (.alreadyRegistered name)
  else .ok ⟨registry.listing.put name given⟩

/-- The export of a name. -/
def resolve (registry : Registry R) (name : String) : Except Fault (Export R) :=
  match registry.listing.find? name with
  | some found => .ok found
  | none => .error (.notSubmitted name)

/-- Whether an export counts when a whole submission is registered: it is an operation and its name
does not begin with an underscore. -/
def isPublic (name : String) (given : Export R) : Bool :=
  given.isOperation && name.toList.head? != some '_'

/-- Register what counts among exports, and say how many did; the first name that cannot be taken
ends it, and what was registered before stays. -/
def registerAll (replacing : Bool) : (count : Nat) → List (String × Export R) → Registry R →
    Except Fault Nat × Registry R
  | count, [], registry => (.ok count, registry)
  | count, (name, given) :: rest, registry =>
    if isPublic name given then
      match registry.register name given replacing with
      | .ok next => registerAll replacing (count + 1) rest next
      | .error fault => (.error fault, registry)
    else registerAll replacing count rest registry

/-- Register a submission. -/
def registerSubmission (registry : Registry R) (exports : Listing (Export R)) (replacing : Bool) :
    Except Fault Nat × Registry R :=
  registerAll replacing 0 exports.entries registry

/-- The registry of a submission. -/
def ofSubmission (exports : Listing (Export R)) : Registry R :=
  (registerSubmission {} exports true).2

/-- The names, sorted. -/
def names (registry : Registry R) : List String :=
  registry.listing.names.mergeSort fun left right => decide (left ≤ right)

/-- Whether a name is known. -/
def holds (registry : Registry R) (name : String) : Bool := registry.listing.holds name

/-- The number of names. -/
def size (registry : Registry R) : Nat := registry.listing.size

end Registry

end QuantumKata
