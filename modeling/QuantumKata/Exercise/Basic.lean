import QuantumKata.Operation.Basic
import QuantumKata.Record
import QuantumKata.Verdict

/-!
# Exercises

An exercise states a reference operation and how a submission is compared with it.  With a preparer
the comparison is made on the prepared state only; without one it is made on all inputs unless the
exercise says otherwise.  The learner's operation is looked up under the candidate name, which is
the name of the exercise unless another one is given.
-/

namespace QuantumKata

/-- An exercise. -/
structure Exercise (R : Type) where
  name : String
  numQubits : Int
  reference : Operation R
  preparer : Option (Operation R)
  mode : EquivalenceMode
  description : String
  hint : String
  candidateName : String
  tags : List String

/-- An exercise as it is stated; what is left out has a default. -/
structure ExercisePlan (R : Type) where
  name : String
  numQubits : Int
  reference : Operation R
  preparer : Option (Operation R) := none
  mode : Option EquivalenceMode := none
  description : String := ""
  hint : String := ""
  candidateName : Option String := none
  tags : List String := []

namespace ExercisePlan

variable {R : Type}

/-- The mode for an exercise that gives none. -/
def defaultMode (preparer : Option (Operation R)) : EquivalenceMode :=
  if preparer.isSome then .state else .operator

/-- Make an exercise; its parts have to agree. -/
def build (plan : ExercisePlan R) : Except Fault (Exercise R) :=
  let mode := plan.mode.getD (defaultMode plan.preparer)
  if plan.reference.numQubits ≠ plan.numQubits then
    .error (.exerciseArity plan.name plan.numQubits plan.reference.numQubits)
  else if plan.preparer.isSome ∧ mode = .operator then .error (.exercisePreparerMode plan.name)
  else .ok
    { name := plan.name, numQubits := plan.numQubits, reference := plan.reference,
      preparer := plan.preparer, mode, description := plan.description, hint := plan.hint,
      candidateName := plan.candidateName.getD plan.name, tags := plan.tags }

end ExercisePlan

namespace Exercise

variable {R : Type} [Scalar R]

/-- The name of the preparer as it is shown.  A circuit without steps prepares nothing and is not
shown. -/
def preparerName (exercise : Exercise R) : Option String :=
  match exercise.preparer with
  | some preparer => if preparer.length? = some 0 then none else some preparer.name
  | none => none

/-- An exercise as a record. -/
def toRecord (exercise : Exercise R) : Datum :=
  .record [("name", .text exercise.name), ("num_qubits", .integer exercise.numQubits),
    ("reference", .text exercise.reference.name),
    ("preparer", .optional .text exercise.preparerName), ("mode", .text exercise.mode.word),
    ("description", .text exercise.description), ("hint", .text exercise.hint),
    ("candidate_name", .text exercise.candidateName), ("tags", .texts exercise.tags)]

end Exercise

end QuantumKata
