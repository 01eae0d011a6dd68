import QuantumKata.Bench
import QuantumKata.Operation.Library
import QuantumKata.Verdict

/-!
# Equivalence of operations

Whether a candidate `U` and a reference `V` on `m` qubits are the same up to a global phase is
decided by control indirection.  A probe qubit is put into an even superposition; then `U`, and
after it the inverse of `V`, is applied to the target qubits under the control of the probe.  When
`U = e^{iφ} V`, the targets are back at their input in both branches of the probe and all that is
left is the phase `φ` between the branches.  Any other difference keeps the targets entangled with
the probe.  Once the phase has been taken off and the preparation undone, every qubit has to read
zero.

In operator mode the targets start maximally entangled with as many ancilla qubits, so that their
return certifies equality on all inputs; in state mode they start in the state that the preparer
makes.  The candidate alone is held to the target profile.
-/

namespace QuantumKata

/-- The part that a checked operation plays. -/
inductive Role where
  | candidate
  | reference
  | preparer
  deriving DecidableEq, Repr

namespace Role

/-- The word for a role. -/
def word : Role → String
  | candidate => "candidate"
  | reference => "reference"
  | preparer => "preparer"

end Role

/-- A checked operation that failed while it was applied, through no fault of the simulator. -/
structure OperationFailure where
  role : Role
  name : String
  cause : Fault

namespace OperationFailure

/-- The text of a failure. -/
def text (failure : OperationFailure) : String :=
  failure.role.word ++ " operation '" ++ failure.name ++ "' failed: " ++
    failure.cause.kind.title ++ ": " ++ failure.cause.text

end OperationFailure

/-- What a check is made with. -/
structure EquivalenceChecker (R : Type) where
  tolerance : R
  mode : EquivalenceMode
  profile : TargetProfile
  /-- Whether there is a generator of measurement outcomes, or why there is none. -/
  generator : Except Fault Unit := .ok ()

namespace EquivalenceChecker

variable {R : Type} [Scalar R]

/-- How a trial ends: with a failed operation, with a lost norm, or with the answer of the zero test
and the phase that was read off. -/
inductive TrialEnd (R : Type) where
  | failed (failure : OperationFailure)
  | normLost
  | decided (equivalent : Bool) (phase : Option R)

/-- The probe qubit. -/
def probe : Int := 0

/-- The target qubits. -/
def targets (numQubits : Nat) : List Int :=
  (List.range numQubits).map fun (qubit : Nat) => 1 + (qubit : Int)

/-- The target qubits, each with its ancilla. -/
def pairs (numQubits : Nat) : List (Int × Int) :=
  (List.range numQubits).map fun (qubit : Nat) => (1 + (qubit : Int), 1 + numQubits + (qubit : Int))

/-- Apply a library constant. -/
def applyConstant (constant : LibraryConstant) (qubits : List Int) : EngineAction R Unit :=
  Engine.apply constant.operation qubits

/-- Entangle each target with its ancilla. -/
def entangle : List (Int × Int) → EngineAction R Unit
  | [] => pure ()
  | (target, ancilla) :: rest => do
    applyConstant (.fixed .h) [ancilla]
    applyConstant .cnot [ancilla, target]
    entangle rest

/-- Undo the entanglement of each target with its ancilla. -/
def disentangle : List (Int × Int) → EngineAction R Unit
  | [] => pure ()
  | (target, ancilla) :: rest => do
    applyConstant .cnot [ancilla, target]
    applyConstant (.fixed .h) [ancilla]
    disentangle rest

/-- Apply a variant of a checked operation.  A programming fault ends the check; one of the
candidate is attributed to it.  Any other fault is a failure of the operation. -/
def applyAs (role : Role) (name : String) (profile : TargetProfile) (variant : Operation R)
    (qubits : List Int) : EngineAction R (Option OperationFailure) := fun engine =>
  match Engine.restrictedTo profile (Engine.apply variant qubits) engine with
  | (.ok _, after) => (.ok none, after)
  | (.error fault, after) =>
    if fault.kind.isProgramming then
      (.error (if role = .candidate then .attributed role.word name fault else fault), after)
    else (.ok (some ⟨role, name, fault⟩), after)

/-- Go on unless an operation has failed. -/
def unlessFailed (action : EngineAction R (Option OperationFailure))
    (next : EngineAction R (TrialEnd R)) : EngineAction R (TrialEnd R) := do
  match ← action with
  | some failure => return .failed failure
  | none => next

/-- Bring the targets into their input state. -/
def prepare (mode : EquivalenceMode) (numQubits : Nat) (preparer : Option (Operation R)) :
    EngineAction R (Option OperationFailure) :=
  match mode, preparer with
  | .operator, _ => do
    entangle (pairs numQubits)
    return none
  | .state, some operation =>
    applyAs .preparer operation.name .unrestricted operation (targets numQubits)
  | .state, none => pure none

/-- Undo the preparation; the preparer comes with its inverse. -/
def unprepare (mode : EquivalenceMode) (numQubits : Nat)
    (preparer : Option (Operation R × Operation R)) : EngineAction R (Option OperationFailure) :=
  match mode, preparer with
  | .operator, _ => do
    disentangle (pairs numQubits)
    return none
  | .state, some (operation, inverse) =>
    applyAs .preparer operation.name .unrestricted inverse (targets numQubits)
  | .state, none => pure none

/-- Read the phase between the branches of the probe off the two amplitudes in which all other
qubits read zero, and take it off.  Where one of the amplitudes is too small the phase is unknown
and nothing is done. -/
def alignPhase (tolerance : R) : EngineAction R (Option R) := do
  let low ← Action.inspect fun engine => engine.memory.amplitude 0
  let high ← Action.inspect fun engine => engine.memory.amplitude 1
  let low ← Action.ofExcept low
  let high ← Action.ofExcept high
  let cutoff := Scalar.sqrt tolerance
  if Scalar.atMost low.magnitude cutoff || Scalar.atMost high.magnitude cutoff then return none
  else
    let phase := (high / low).angle
    if Scalar.less 0 (Scalar.magnitude phase) then
      Engine.apply (.rotation .r1 (-phase)) [probe]
      return some phase
    else return some phase

/-- The trial that a check consists of, on a register of the probe, the targets and the ancillas. -/
def trial (checker : EquivalenceChecker R) (numQubits : Nat)
    (candidate controlledCandidate reference referenceInverse : Operation R)
    (preparer : Option (Operation R × Operation R)) : EngineAction R (TrialEnd R) :=
  unlessFailed (prepare checker.mode numQubits (preparer.map Prod.fst)) do
    applyConstant (.fixed .h) [probe]
    unlessFailed (applyAs .candidate candidate.name checker.profile controlledCandidate
        (probe :: targets numQubits)) <|
      unlessFailed (applyAs .reference reference.name .unrestricted referenceInverse
          (probe :: targets numQubits)) do
        let normalized ← Action.inspect fun engine =>
          engine.memory.isNormalized (checker.tolerance * Scalar.ofNat 1000)
        if ← Action.ofExcept normalized then
          unlessFailed (unprepare checker.mode numQubits preparer) do
            let phase ← alignPhase checker.tolerance
            applyConstant (.fixed .h) [probe]
            let zero ← Action.inspect fun engine =>
              engine.memory.isZero none checker.tolerance
            let equivalent ← Action.ofExcept zero
            return .decided equivalent phase
        else return .normLost

/-- The verdict on a trial. -/
def judge (mode : EquivalenceMode) (candidate reference : String) : TrialEnd R → Verdict R
  | .failed failure =>
    { status := .executionError, mode, message := failure.text,
      error := some failure.cause.kind.title }
  | .normLost =>
    { status := .executionError, mode,
      message := "Operation '" ++ candidate ++ "' did not preserve the state norm",
      error := some "non-unitary" }
  | .decided true phase =>
    { status := .correct, mode, message := "Operations are equivalent", globalPhase := phase }
  | .decided false _ =>
    { status := .incorrect, mode,
      message := "'" ++ candidate ++ "' does not match '" ++ reference ++ "'" }

/-- The number of qubits of the register that a check on `numQubits` qubits needs. -/
def registerSize (mode : EquivalenceMode) (numQubits : Int) : Int :=
  match mode with
  | .operator => 1 + numQubits + numQubits
  | .state => 1 + numQubits

/-- The inverse of the preparer beside the preparer, if there is one. -/
def preparerPair : Option (Operation R) → Except Fault (Option (Operation R × Operation R))
  | none => .ok none
  | some operation => operation.adjoint.map fun inverse => some (operation, inverse)

/-- Check a candidate against a reference.  All variants are built before a register is taken: a
missing variant of the reference or the preparer is a fault, one of the candidate a verdict. -/
def check (checker : EquivalenceChecker R) (candidate reference : Operation R) (numQubits : Int)
    (preparer : Option (Operation R)) : BenchAction R (Verdict R) := do
  let mode := checker.mode
  if reference.numQubits ≠ numQubits then
    Action.fail (.referenceArity reference.name reference.numQubits numQubits)
  if candidate.numQubits ≠ numQubits then
    return { status := .executionError, mode,
             message := "Operation '" ++ candidate.name ++ "' acts on " ++
               Decimal.integer candidate.numQubits ++ " qubit(s), expected " ++
               Decimal.integer numQubits,
             error := some "signature mismatch" }
  if preparer.isSome && mode == .operator then Action.fail .preparerInOperatorMode
  if let some operation := preparer then
    if operation.numQubits ≠ numQubits then
      Action.fail (.preparerArity operation.name operation.numQubits numQubits)
  let inverse ← Action.ofExcept reference.adjoint
  let referenceInverse ← Action.ofExcept (inverse.controlledBy 1)
  let pair ← Action.ofExcept (preparerPair preparer)
  match candidate.controlledBy 1 with
  | .error fault =>
    return { status := .executionError, mode,
             message := "Operation '" ++ candidate.name ++ "' cannot be controlled: " ++ fault.text,
             error := some fault.kind.title }
  | .ok controlledCandidate =>
    let ended ← Bench.withRegister (registerSize mode numQubits) do
      Action.ofExcept checker.generator
      checker.trial numQubits.toNat candidate controlledCandidate reference referenceInverse pair
    return judge mode candidate.name reference.name ended

end EquivalenceChecker

/-- Whether two operations are equivalent: in state mode when a preparer is given, else in operator
mode. -/
def operationsEquivalent {R : Type} [Scalar R] (candidate reference : Operation R) (numQubits : Int)
    (preparer : Option (Operation R)) (tolerance : R) : BenchAction R Bool := do
  let mode := if preparer.isSome then EquivalenceMode.state else .operator
  let checker : EquivalenceChecker R := { tolerance, mode, profile := .unrestricted }
  let verdict ← checker.check candidate reference numQubits preparer
  return verdict.isCorrect

end QuantumKata
