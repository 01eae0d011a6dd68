import QuantumKata.Fault.Raised

/-!
# Faults

Everything that can go wrong is a `Fault`, named by its cause.  A fault has a *kind* and a *text*.
-/

namespace QuantumKata

/-- Why a path cannot be used. -/
inductive PathProblem where
  | missing
  | occupied
  | insideFile
  | directory
  deriving DecidableEq, Repr

namespace PathProblem

/-- The number of a problem. -/
def number : PathProblem → Nat
  | missing => 2
  | occupied => 17
  | insideFile => 20
  | directory => 21

/-- A problem in words. -/
def text : PathProblem → String
  | missing => "No such file or directory"
  | occupied => "File exists"
  | insideFile => "Not a directory"
  | directory => "Is a directory"

/-- The kind of the fault that a problem leads to. -/
def kind : PathProblem → FaultKind
  | missing => .missingFile
  | occupied => .other "FileExistsError"
  | insideFile => .other "NotADirectoryError"
  | directory => .other "IsADirectoryError"

end PathProblem

/-- What went wrong. -/
inductive Fault where
  /-- A released state was used. -/
  | stateReleased
  /-- A qubit index is not an index of the register; `word` says what the qubit was meant for. -/
  | qubitOutOfRange (word index : String) (numQubits : Nat)
  /-- A qubit index was given twice. -/
  | qubitRepeated (word index : String)
  /-- A basis index is not an index of the state. -/
  | basisIndexOutOfRange (index : Int)
  /-- A position outside a list. -/
  | listIndexOutOfRange (index : Int)
  /-- A position outside a vector of the given size. -/
  | vectorIndexOutOfRange (index : Int) (size : Nat)
  /-- A state of a negative number of qubits. -/
  | negativeRegister (numQubits : Int)
  /-- A register of no qubits. -/
  | emptyRegister (numQubits : Int)
  /-- A number of amplitudes that is not a power of two. -/
  | amplitudeCount (count : Nat)
  /-- A snapshot with the wrong number of amplitudes. -/
  | snapshotSize (expected : String) (numQubits : Int) (count : Nat)
  /-- A register whose amplitudes do not fit into memory. -/
  | tooManyAmplitudes (numQubits : Int)
  /-- A basis state written with a negative number of bits. -/
  | negativeWidth (numQubits : Int)
  /-- A matrix whose size does not fit its targets. -/
  | matrixShape (shape : List Nat) (targets : Nat)
  /-- Two states that cannot be compared. -/
  | statesDiffer (left right : List Nat)
  /-- A state with no probabilities to choose from. -/
  | undefinedProbabilities
  /-- A gate that takes no angle was given one. -/
  | superfluousAngles (gate : String)
  /-- A gate that takes an angle was given none or several. -/
  | oneAngle (gate : String)
  /-- The same for the global phase. -/
  | onePhase
  | unknownGate (name : String)
  /-- A gate matrix that is not square. -/
  | matrixNotSquare (shape : List Nat)
  /-- A gate matrix whose size is not a power of two. -/
  | matrixSize (size : Nat)
  | matrixNotUnitary (gate : String)
  | singularMatrix
  /-- A gate on the wrong number of qubits. -/
  | gateArity (gate : String) (expected given : Nat)
  /-- An operation on the wrong number of qubits. -/
  | operationArity (name : String) (expected : Int) (given : Nat)
  | negativeArity (name : String)
  /-- A step of a circuit on qubits that the circuit does not have, or on a qubit twice. -/
  | circuitQubits (qubits : List Int) (numQubits : Int)
  | noAdjoint (name : String)
  | noControlled (name : String)
  | noControlQubit
  /-- Objects that contain each other. -/
  | endlessRecursion
  /-- An instruction that the profile in force does not have. -/
  | notInProfile (instruction profile : String)
  | irreversibleUnderControl (what : String)
  | irreversibleInAdjoint (what : String)
  | handleNotLive (handle : Int)
  | registerTooLarge (numQubits : Int) (limit : String)
  | splitMismatch (numQubits : Int) (sizes : List Int)
  | referenceArity (name : String) (actual declared : Int)
  | preparerArity (name : String) (actual expected : Int)
  | preparerInOperatorMode
  | unknownMode (value : String)
  | exerciseArity (exercise : String) (declared actual : Int)
  | exercisePreparerMode (exercise : String)
  | duplicateExercise (name : String)
  | unknownExercise (name : String)
  | reporterBusy (active next : String)
  | notAnOperation (typeName : String)
  | alreadyRegistered (name : String)
  | notSubmitted (name : String)
  | submissionNotFound (path : String)
  | missingMember (source member : String)
  | malformedReference (reference : String)
  | noModule (name : String)
  /-- A module that is looked for inside one that holds no others. -/
  | noPackage (name package : String)
  | emptyModuleName
  | relativeModuleName (name : String)
  | unusablePath (problem : PathProblem) (path : String)
  | unknownKeys (keys : List Datum)
  | outOfRange (setting rule value : String)
  | unknownLogLevel (level : String)
  | adaptiveDisabled
  | noWorkers
  /-- Two to the power of a negative number where a count is needed. -/
  | fractionalCount
  /-- A text that stands for no integer in a base. -/
  | notAnInteger (base : Nat) (text : String)
  /-- A text that stands for no real number. -/
  | notAReal (text : String)
  /-- An integer of too many decimal digits, whose number may be unknown. -/
  | tooManyDigits (count : Option Nat)
  /-- A moment that is no number. -/
  | undefinedMoment
  /-- A moment whose seconds are too many to be counted. -/
  | endlessMoment
  /-- A moment whose year is too far away to be counted. -/
  | distantMoment
  | yearOutOfRange (year : Int)
  /-- A seed that is neither an integer nor a list. -/
  | notASeed (value : String)
  | negativeSeed
  /-- Data of a wrong type where a number or a mapping is needed. -/
  | wrongType (text : String)
  /-- Data of a wrong type where a text or a mapping is needed. -/
  | wrongMember (text : String)
  /-- A document that a reader cannot make sense of; `reader` names the stage of reading. -/
  | malformedDocument (reader text : String)
  /-- A fault raised by hand. -/
  | raised (kind : FaultKind) (arguments : List Datum)
  /-- A programming fault with the operation that tripped it. -/
  | attributed (role name : String) (cause : Fault)
  deriving Inhabited

namespace Fault

/-- The kind of a fault. -/
def kind : Fault → FaultKind
  | stateReleased | handleNotLive _ => .releasedRegister
  | qubitOutOfRange .. | qubitRepeated .. | basisIndexOutOfRange _ | circuitQubits .. => .qubitIndex
  | listIndexOutOfRange _ | vectorIndexOutOfRange .. => .index
  | negativeRegister _ | emptyRegister _ | amplitudeCount _ | matrixShape .. | statesDiffer ..
  | matrixNotSquare _ | matrixSize _ | gateArity .. | operationArity .. | negativeArity _
  | splitMismatch .. | referenceArity .. | preparerArity .. | exerciseArity .. => .dimensionMismatch
  | snapshotSize .. | undefinedProbabilities | superfluousAngles _ | oneAngle _ | onePhase
  | unknownGate _ | noControlQubit | unknownMode _ | duplicateExercise _ | alreadyRegistered _
  | malformedReference _ | emptyModuleName | noWorkers | notAnInteger .. | notAReal _
  | tooManyDigits _ | negativeWidth _ | negativeSeed | undefinedMoment | yearOutOfRange _ => .value
  | tooManyAmplitudes numQubits =>
    if numQubits < 59 then .other "_ArrayMemoryError" else .value
  | endlessMoment => .other "OverflowError"
  | distantMoment => .other "OSError"
  | matrixNotUnitary _ => .nonUnitary
  | singularMatrix => .linearAlgebra
  | noAdjoint _ | noControlled _ => .capability
  | endlessRecursion => .recursion
  | notInProfile .. => .profileViolation
  | irreversibleUnderControl _ | irreversibleInAdjoint _ => .execution
  | registerTooLarge .. => .arenaExhausted
  | preparerInOperatorMode | exercisePreparerMode _ | reporterBusy .. => .programming
  | unknownExercise _ => .key
  | notAnOperation _ | wrongType _ | relativeModuleName _ | fractionalCount | notASeed _ => .type
  | wrongMember _ => .member
  | notSubmitted _ => .unknownOperation
  | submissionNotFound _ => .missingFile
  | unusablePath problem _ => problem.kind
  | missingMember .. => .missingImport
  | noModule _ | noPackage .. => .missingModule
  | unknownKeys _ | outOfRange .. | unknownLogLevel _ | adaptiveDisabled => .configuration
  | malformedDocument reader _ => .other reader
  | raised kind _ => kind
  | attributed _ _ cause => cause.kind

/-- A shape as a tuple. -/
def shapeText (shape : List Nat) : String :=
  Text.tupled (shape.map Decimal.digits)

/-- A number of bytes, two to the given power, in the greatest unit that it fills. -/
def memoryText (exponent : Nat) : String :=
  let units := ["bytes", "KiB", "MiB", "GiB", "TiB", "PiB", "EiB"]
  let places := exponent % 10
  Decimal.digits (Nat.pow 2 places) ++
    (if places < 4 then ".00 " else if places < 7 then ".0 " else ". ") ++
    units.getD (exponent / 10) "EiB"

/-- The text of a fault, as it stands inside other texts. -/
def text : Fault → String
  | stateReleased => "State vector has already been released"
  | qubitOutOfRange word index numQubits =>
    word ++ " index " ++ index ++ " out of range for " ++ Decimal.digits numQubits ++
      "-qubit register"
  | qubitRepeated word index => word ++ " index " ++ index ++ " used more than once"
  | basisIndexOutOfRange index => "Basis index " ++ Decimal.integer index ++ " out of range"
  | listIndexOutOfRange index =>
    if Datum.fitsWord index then "list index out of range"
    else "cannot fit 'int' into an index-sized integer"
  | vectorIndexOutOfRange index size =>
    "index " ++ Decimal.integer index ++ " is out of bounds for axis 0 with size " ++
      Decimal.digits size
  | negativeRegister numQubits =>
    "Register size must be non-negative, got " ++ Decimal.integer numQubits
  | emptyRegister numQubits => "Register size must be positive, got " ++ Decimal.integer numQubits
  | amplitudeCount count => "Amplitude count must be a power of two, got " ++ Decimal.digits count
  | snapshotSize expected numQubits count =>
    "Expected " ++ expected ++ " amplitudes for " ++ Decimal.integer numQubits ++ " qubits, got " ++
      Decimal.digits count
  | tooManyAmplitudes numQubits =>
    if numQubits < 59 then
      "Unable to allocate " ++ memoryText (numQubits.toNat + 4) ++ " for an array with shape " ++
        shapeText [Nat.pow 2 numQubits.toNat] ++ " and data type complex128"
    else if numQubits < 63 then
      "array is too big; `arr.size * arr.dtype.itemsize` is larger than the maximum possible size."
    else "Maximum allowed dimension exceeded"
  | negativeWidth numQubits =>
    "Invalid format specifier '0" ++ Decimal.integer numQubits ++ "b' for object of type 'int'"
  | matrixShape shape targets =>
    "Matrix of shape " ++ shapeText shape ++ " cannot act on " ++ Decimal.digits targets ++
      " target qubit(s)"
  | statesDiffer left right =>
    "Cannot compare states of shapes " ++ shapeText left ++ " and " ++ shapeText right
  | undefinedProbabilities => "Probabilities contain NaN"
  | superfluousAngles gate => "Gate " ++ gate ++ " takes no parameters"
  | oneAngle gate => "Gate " ++ gate ++ " takes exactly one angle"
  | onePhase => "GPHASE takes exactly one angle"
  | unknownGate name => "Unknown gate: " ++ name
  | matrixNotSquare shape => "Gate matrix must be square, got shape " ++ shapeText shape
  | matrixSize size => "Gate matrix size must be a power of two, got " ++ Decimal.digits size
  | matrixNotUnitary gate => "Matrix for gate '" ++ gate ++ "' is not unitary"
  | singularMatrix => "Singular matrix"
  | gateArity gate expected given =>
    "Gate " ++ gate ++ " acts on " ++ Decimal.digits expected ++ " qubit(s), got " ++
      Decimal.digits given
  | operationArity name expected given =>
    "Operation '" ++ name ++ "' acts on " ++ Decimal.integer expected ++ " qubit(s), got " ++
      Decimal.digits given
  | negativeArity name => "Operation '" ++ name ++ "' has negative qubit count"
  | circuitQubits qubits numQubits =>
    "Invalid qubits " ++ Text.tupled (qubits.map Decimal.integer) ++ " for " ++
      Decimal.integer numQubits ++ "-qubit circuit"
  | noAdjoint name => "Operation '" ++ name ++ "' does not support Adjoint"
  | noControlled name => "Operation '" ++ name ++ "' does not support Controlled"
  | noControlQubit => "A controlled operation needs at least one control qubit"
  | endlessRecursion => "maximum recursion depth exceeded"
  | notInProfile instruction profile =>
    "Instruction '" ++ instruction ++ "' is not available in the '" ++ profile ++ "' target profile"
  | irreversibleUnderControl what => "Cannot apply " ++ what ++ " inside a controlled operation"
  | irreversibleInAdjoint what => "Cannot apply " ++ what ++ " inside an adjoint operation"
  | handleNotLive handle => "Register #" ++ Decimal.integer handle ++ " is not live"
  | registerTooLarge numQubits limit =>
    "Cannot allocate " ++ Decimal.integer numQubits ++ " qubits: registers are limited to " ++ limit
  | splitMismatch numQubits sizes =>
    "Cannot split " ++ Decimal.integer numQubits ++ " qubits into groups " ++
      Text.tupled (sizes.map Decimal.integer)
  | referenceArity name actual declared =>
    "Reference '" ++ name ++ "' acts on " ++ Decimal.integer actual ++
      " qubit(s), exercise declares " ++ Decimal.integer declared
  | preparerArity name actual expected =>
    "Preparer '" ++ name ++ "' acts on " ++ Decimal.integer actual ++ " qubit(s), expected " ++
      Decimal.integer expected
  | preparerInOperatorMode => "A preparer can only be used in state mode"
  | unknownMode value =>
    "Unknown equivalence mode '" ++ value ++ "', expected one of ['operator', 'state']"
  | exerciseArity exercise declared actual =>
    "Exercise '" ++ exercise ++ "' declares " ++ Decimal.integer declared ++
      " qubit(s) but its reference acts on " ++ Decimal.integer actual
  | exercisePreparerMode exercise =>
    "Exercise '" ++ exercise ++ "' uses a preparer in operator mode"
  | duplicateExercise name => "Duplicate exercise name: " ++ name
  | unknownExercise name => Text.quoted ("Unknown exercise: " ++ name)
  | reporterBusy active next =>
    "Reporter is already reporting '" ++ active ++ "', cannot begin '" ++ next ++ "'"
  | notAnOperation typeName => "Cannot register " ++ typeName ++ " as an operation"
  | alreadyRegistered name => "Operation '" ++ name ++ "' is already registered"
  | notSubmitted name => "No operation named '" ++ name ++ "' was submitted"
  | submissionNotFound path => "Submission file not found: " ++ path
  | missingMember source member =>
    "'" ++ source ++ "' has no attribute '" ++ member ++ "'"
  | malformedReference reference => "Expected 'module:attribute', got '" ++ reference ++ "'"
  | noModule name => "No module named " ++ Text.quoted name
  | noPackage name package =>
    "No module named " ++ Text.quoted name ++ "; " ++ Text.quoted package ++ " is not a package"
  | emptyModuleName => "Empty module name"
  | relativeModuleName name => "the module name " ++ Text.quoted name ++ " is relative"
  | unusablePath problem path =>
    "[Errno " ++ Decimal.digits problem.number ++ "] " ++ problem.text ++ ": " ++ Text.quoted path
  | unknownKeys keys => "Unknown configuration keys: " ++ Text.bracketed (keys.map Datum.quoted)
  | outOfRange setting rule value => setting ++ " must be " ++ rule ++ ", got " ++ value
  | unknownLogLevel level => "Unknown log level: " ++ level
  | adaptiveDisabled => "The adaptive profile is disabled; set enable_adaptive_profile to use it"
  | noWorkers => "max_workers must be greater than 0"
  | fractionalCount => "'float' object cannot be interpreted as an integer"
  | notAnInteger base text =>
    "invalid literal for int() with base " ++ Decimal.digits base ++ ": " ++
      String.ofList ((Text.quoted text).toList.take 200)
  | notAReal text => "could not convert string to float: " ++ Text.quoted text
  | tooManyDigits count =>
    "Exceeds the limit (4300 digits) for integer string conversion" ++
      (match count with
        | some count => ": value has " ++ Decimal.digits count ++ " digits"
        | none => "") ++ "; use sys.set_int_max_str_digits() to increase the limit"
  | undefinedMoment => "Invalid value NaN (not a number)"
  | endlessMoment => "timestamp out of range for platform time_t"
  | distantMoment => "[Errno 75] Value too large for defined data type"
  | yearOutOfRange year => "year " ++ Decimal.integer year ++ " is out of range"
  | notASeed value => "SeedSequence expects int or sequence of ints for entropy not " ++ value
  | negativeSeed => "expected non-negative integer"
  | wrongType text | wrongMember text | malformedDocument _ text => text
  | raised kind arguments => kind.textOf arguments
  | attributed role name cause => role ++ " operation '" ++ name ++ "': " ++ cause.text

/-- The fault that raising a kind by name leads to. -/
def raising (name : String) (arguments : List Datum) : Fault :=
  let (kind, fitting) := (FaultKind.ofTitle name).fitting arguments
  raised kind fitting

/-- The text of a fault that stands alone: the key of a failed look-up loses its quotes. -/
def report : Fault → String
  | unknownExercise name => "Unknown exercise: " ++ name
  | raised .key [only] => only.plain
  | other => other.text

/-! ## Results that may be faults -/

variable {α β : Type}

/-- What goes on with a result ends well exactly if there is one and the rest ends well. -/
theorem bind_eq_ok_iff {result : Except Fault α} {next : α → Except Fault β} {last : β} :
    (result >>= next) = .ok last ↔ ∃ value, result = .ok value ∧ next value = .ok last := by
  cases result with
  | ok value =>
    constructor
    · intro followed
      exact ⟨value, rfl, followed⟩
    · rintro ⟨other, same, followed⟩
      cases same
      exact followed
  | error fault =>
    constructor
    · intro failed
      cases failed
    · rintro ⟨other, same, -⟩
      cases same

theorem map_eq_ok_iff {result : Except Fault α} {change : α → β} {last : β} :
    result.map change = .ok last ↔ ∃ value, result = .ok value ∧ change value = last := by
  cases result with
  | ok value => simp [Except.map]
  | error fault => simp [Except.map]

end Fault

end QuantumKata
