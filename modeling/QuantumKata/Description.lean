import QuantumKata.Blueprint.Build

/-!
# Operations described as data

A submission is a piece of data that describes operations: an operation is the name of a library
constant or a record whose fields say how it is put together, and an instruction is a list of a word
and its arguments.  This module reads such data as blueprints.  Data that describe nothing become
blueprints that fail to build and instructions that fail to run.
-/

namespace QuantumKata.Description

/-- A complex number: a number, or a pair of numbers under the field `c`. -/
def amplitudeOf (datum : Datum) : Amplitude Float :=
  match datum.field "c" with
  | .list [re, im] => ⟨re.toReal, im.toReal⟩
  | _ => ⟨datum.toReal, 0⟩

mutual

/-- The shape of nested lists, along the first item of each. -/
def shapeOf : Datum → List Nat
  | .list items => items.length :: innerShapeOf items
  | _ => []

/-- The shape of the first item. -/
def innerShapeOf : List Datum → List Nat
  | [] => []
  | first :: _ => shapeOf first

end

mutual

/-- The numbers in nested lists, in order. -/
def entriesOf : Datum → List (Amplitude Float)
  | .list items => entriesOfItems items
  | other => [amplitudeOf other]

/-- The numbers in the items of a list, in order. -/
def entriesOfItems : List Datum → List (Amplitude Float)
  | [] => []
  | item :: rest => entriesOf item ++ entriesOfItems rest

end

/-- Angles. -/
def anglesOf (datum : Datum) : List Float := datum.items.map Datum.toReal

/-- The angle of a phase shift. -/
def phaseAngleOf (datum : Datum) : PhaseAngle Float where
  value := datum.toReal
  isWhole := match datum with
    | .integer _ | .truth _ => true
    | _ => false

/-- A matrix: its entries, or a named gate. -/
def matrixOf (datum : Datum) : MatrixPlan Float :=
  match datum.field? "gate" with
  | some name => .ofGate name.toText (anglesOf (datum.field "params"))
  | none => .entries ⟨shapeOf datum, (entriesOf datum).toArray⟩

/-- A qubit: its place among the given ones, its index in the register under `abs`, or a place and a
distance under `off`. -/
def qubitOf (datum : Datum) : QubitRef :=
  match datum.field? "abs", datum.field "off" with
  | some qubit, _ => .absolute qubit.toInteger
  | none, .list [place, distance] => .offset place.toInteger distance.toInteger
  | none, _ => .given datum.toInteger

/-- Several qubits. -/
def qubitsOf (datum : Datum) : List QubitRef := datum.items.map qubitOf

/-- A profile. -/
def profileOf (datum : Datum) : TargetProfile :=
  (TargetProfile.all.find? fun profile => profile.setting == datum.toText).getD .unrestricted

/-- The gates without parameters that have a word of their own. -/
def fixedWords : List (String × FixedGate) :=
  [("x", .x), ("y", .y), ("z", .z), ("h", .h), ("s", .s), ("t", .t)]

/-- The words for rotations. -/
def rotationWords : List (String × Rotation) :=
  [("rx", .rx), ("ry", .ry), ("rz", .rz), ("r1", .r1)]

/-- An instruction of one gate whose operands are qubits. -/
def gateWord? (word : String) (arguments : List Datum) : Option (InstructionPlan Float) :=
  match word, arguments with
  | "swap", [first, second] => some (.fixed .swap [qubitOf first, qubitOf second])
  | "cnot", [control, target] => some (.controlledGate .x [qubitOf control] (qubitOf target))
  | "cz", [control, target] => some (.controlledGate .z [qubitOf control] (qubitOf target))
  | "ccnot", [first, second, target] =>
    some (.controlledGate .x [qubitOf first, qubitOf second] (qubitOf target))
  | "phase", [angle] => some (.primitive (.globalPhase angle.toReal) [])
  | "gate", [name, angles, qubits] =>
    some (.namedGate name.toText (anglesOf angles) (qubitsOf qubits))
  | "unitary", [matrix, qubits] => some (.unitary (matrixOf matrix) (qubitsOf qubits) none)
  | "unitary", [matrix, qubits, name] =>
    some (.unitary (matrixOf matrix) (qubitsOf qubits) (some name.toText))
  | word, [qubit] =>
    (fixedWords.lookup word).map fun gate => .fixed gate [qubitOf qubit]
  | word, [angle, qubit] =>
    (rotationWords.lookup word).map fun axis =>
      .primitive (.rotation axis angle.toReal) [qubitOf qubit]
  | _, _ => none

/-- The fault of data that describe no operation. -/
def meaningless : Fault := .raised .value [.text "not an operation"]

mutual

/-- Read the description of an operation; the fuel bounds its depth. -/
def blueprintWithin : (fuel : Nat) → Datum → Blueprint Float
  | 0, _ => .failing meaningless
  | fuel + 1, datum =>
    let name := (datum.given? "name").map Datum.toText
    let count := ((datum.given? "n").map Datum.toInteger).getD 1
    match datum with
    | .text word =>
      match LibraryConstant.ofName? word with
      | some constant => .constant constant
      | none => .reference word
    | .mapping entries =>
      let part (key : String) : Option Datum := Datum.find? entries key
      if let some axis := part "lib" then
        match Rotation.ofName? axis.toText with
        | some found => .rotation found (datum.field "theta").toReal
        | none => .reference axis.toText
      else if let some gate := part "gate" then
        .gate gate.toText (anglesOf (datum.field "params")) name
      else if let some matrix := part "unitary" then .unitary (matrixOf matrix) name
      else if let some size := part "identity" then .identity size.toInteger
      else if (part "bell_pair").isSome then .bellPair
      else if let some size := part "circuit" then
        .circuit size.toInteger name (stepsWithin fuel (datum.field "steps").items)
      else if let some size := part "fn" then
        .routine size.toInteger name
          (((part "adjoint").map Datum.isTruthy).getD true)
          (((part "controlled").map Datum.isTruthy).getD true)
          (bodyWithin fuel (datum.field "body").items)
          (match datum.given? "define_adjoint" with
            | some body => .written (bodyWithin fuel body.items)
            | none => .absent)
      else if let some inner := part "phase_shifted" then
        .phaseShifted (blueprintWithin fuel inner) (phaseAngleOf (datum.field "theta"))
      else if let some inner := part "adjoint_of" then .adjointOf (blueprintWithin fuel inner)
      else if let some inner := part "controlled" then
        .controlledOf (blueprintWithin fuel inner) count
      else if let some inner := part "control_op" then
        .controlWrapper (blueprintWithin fuel inner) count name
      else if let some exercise := part "exercise" then .ofExercise exercise.toText
      else if let some reference := part "ref" then .reference reference.toText
      else .failing meaningless
    | _ => .failing meaningless

/-- Read the steps of a circuit: lists of an operation and qubits. -/
def stepsWithin (fuel : Nat) : List Datum → StepPlans Float
  | [] => .nil
  | step :: rest =>
    match fuel, step with
    | fuel + 1, .list (operation :: qubits) =>
      .cons (blueprintWithin fuel operation) (qubits.map Datum.toInteger)
        (stepsWithin (fuel + 1) rest)
    | fuel, _ => .cons (.failing meaningless) [] (stepsWithin fuel rest)

/-- Read an instruction. -/
def instructionWithin : (fuel : Nat) → Datum → InstructionPlan Float
  | 0, _ => .raise (.raised .value [.text "not an instruction"])
  | fuel + 1, datum =>
    match datum with
    | .list (.text word :: arguments) =>
      match word, arguments with
      | "measure", [qubit] => .measure (qubitOf qubit)
      | "reset", [qubit] => .reset (qubitOf qubit)
      | "apply", [operation, qubits] | "call", [operation, qubits] =>
        .apply .itself (blueprintWithin fuel operation) [] (qubitsOf qubits)
      | "apply_adjoint", [operation, qubits] =>
        .apply .adjoint (blueprintWithin fuel operation) [] (qubitsOf qubits)
      | "apply_controlled", [operation, controls, qubits] =>
        .apply .controlled (blueprintWithin fuel operation) (qubitsOf controls) (qubitsOf qubits)
      | "apply_controlled_adjoint", [operation, controls, qubits] =>
        .apply .controlledAdjoint (blueprintWithin fuel operation) (qubitsOf controls)
          (qubitsOf qubits)
      | "controlled_by", [controls, block] =>
        .controlledBy (qubitsOf controls) (bodyWithin fuel block.items)
      | "restricted_to", [profile, block] =>
        .restrictedTo (profileOf profile) (bodyWithin fuel block.items)
      | "record", [block] => .record (bodyWithin fuel block.items)
      | "record_replay", [block] => .recordAndUndo (bodyWithin fuel block.items)
      | "if_measure", [qubit, block] => .ifMeasured (qubitOf qubit) (bodyWithin fuel block.items)
      | "sleep", [seconds] => .sleep seconds.toReal
      | "raise", kind :: rest => .raise (Fault.raising kind.toText rest)
      | word, arguments =>
        (gateWord? word arguments).getD (.raise (.raised .value [.text "not an instruction"]))
    | _ => .raise (.raised .value [.text "not an instruction"])

/-- Read a body. -/
def bodyWithin (fuel : Nat) : List Datum → InstructionPlans Float
  | [] => .nil
  | first :: rest =>
    match fuel with
    | fuel + 1 => .cons (instructionWithin fuel first) (bodyWithin (fuel + 1) rest)
    | 0 => .nil

end

/-- Read the description of an operation. -/
def blueprintOf (datum : Datum) : Blueprint Float := blueprintWithin (2 * datum.depth) datum

/-- Read the description of an instruction. -/
def instructionOf (datum : Datum) : InstructionPlan Float :=
  instructionWithin (2 * datum.depth) datum

/-- Read the description of a body. -/
def bodyOf (datum : Datum) : InstructionPlans Float := bodyWithin (2 * datum.depth) datum.items

/-- Read a pair of a name and something else. -/
def pairOf (datum : Datum) : Option (String × Datum) :=
  match datum with
  | .list [name, content] => some (name.toText, content)
  | _ => none

/-- Read definitions, pairs of a name and a description. -/
def definitionPlansOf (datum : Datum) : List (String × Blueprint Float) :=
  (datum.items.filterMap pairOf).map fun (name, content) => (name, blueprintOf content)

/-- Define the listed operations in order; later ones may refer to earlier ones. -/
def definitionsOf (datum : Datum) : Except Fault (Definitions Float) :=
  Blueprint.define {} (definitionPlansOf datum)

end QuantumKata.Description
