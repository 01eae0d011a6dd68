import QuantumKata.Description
import QuantumKata.Registry

/-!
# Submissions

A submission defines operations and exports some of them, and other values, under names.  Loading it
carries its definitions out in order; one that cannot be carried out fails the whole submission, as
does a submission that refuses to load.  The definitions are kept, because the bodies of what is
exported may call on them.
-/

namespace QuantumKata

/-- What a submission is said to export under a name. -/
inductive ExportPlan where
  | operation (blueprint : Blueprint Float)
  | value (datum : Datum)

/-- What a submission says. -/
inductive SubmissionPlan where
  | exporting (definitions : List (String × Blueprint Float))
      (exports : List (String × ExportPlan))
  | refusing (fault : Fault)

instance : Inhabited SubmissionPlan := ⟨.exporting [] []⟩

/-- What loading a submission leaves: its definitions and what it exports. -/
structure SubmissionContent where
  definitions : Definitions Float := {}
  exports : Listing (Export Float) := {}

namespace SubmissionPlan

/-- Carry out an export. -/
def exportOf (definitions : Definitions Float) : ExportPlan → Except Fault (Export Float)
  | .operation blueprint => (blueprint.build definitions).map .operation
  | .value datum => .ok (.value datum)

/-- Carry out exports in order. -/
def exportAll (definitions : Definitions Float) : List (String × ExportPlan) →
    Except Fault (List (String × Export Float))
  | [] => .ok []
  | (name, plan) :: rest => do
    let given ← exportOf definitions plan
    let others ← exportAll definitions rest
    return (name, given) :: others

/-- Load a submission. -/
def load : SubmissionPlan → Except Fault SubmissionContent
  | exporting definitions exports => do
    let defined ← Blueprint.define {} definitions
    let exported ← exportAll defined exports
    return ⟨defined, .ofList exported⟩
  | refusing fault => .error fault

end SubmissionPlan

namespace Description

/-- Read an export: an operation, or a value under the field `value`. -/
def exportPlanOf (datum : Datum) : ExportPlan :=
  match datum.field? "value" with
  | some value => .value value
  | none => .operation (blueprintOf datum)

/-- Read a submission: exports under `ops` after definitions under `defs`, or a refusal under
`raise`. -/
def submissionOf (datum : Datum) : SubmissionPlan :=
  match datum.field "raise" with
  | .list (kind :: arguments) =>
    .refusing (Fault.raising kind.toText arguments)
  | _ =>
    .exporting
      (definitionPlansOf (datum.field "defs"))
      (((datum.field "ops").items.filterMap pairOf).map fun (name, content) =>
        (name, exportPlanOf content))

end Description

end QuantumKata
