/-!
# Kinds of faults

The kind of a fault decides who is to blame for it.  Three families are told apart: a *programming*
fault breaks a rule of the simulator itself (a qubit outside the register, a released register,
sizes that do not agree); an *execution* fault is a misbehaving operation body; a *capability* fault
asks for a variant that an operation does not have.  All other kinds belong to plain data and to the
bodies of submissions, which may raise a fault of any kind by hand.
-/

namespace QuantumKata

/-- The kinds of faults. -/
inductive FaultKind where
  | base
  | programming
  | qubitIndex
  | releasedRegister
  | dimensionMismatch
  | arenaExhausted
  | execution
  | profileViolation
  | nonUnitary
  | capability
  | configuration
  | unknownOperation
  | value
  | index
  | key
  | type
  | member
  | recursion
  | linearAlgebra
  | missingFile
  | missingModule
  | missingImport
  | other (name : String)
  deriving DecidableEq, Repr

namespace FaultKind

/-- The name of a kind. -/
def title : FaultKind → String
  | base => "QGradeError"
  | programming => "ProgrammingError"
  | qubitIndex => "QubitIndexError"
  | releasedRegister => "ReleasedRegisterError"
  | dimensionMismatch => "DimensionMismatchError"
  | arenaExhausted => "ArenaExhaustedError"
  | execution => "ExecutionError"
  | profileViolation => "ProfileViolationError"
  | nonUnitary => "NonUnitaryError"
  | capability => "CapabilityError"
  | configuration => "ConfigurationError"
  | unknownOperation => "UnknownOperationError"
  | value => "ValueError"
  | index => "IndexError"
  | key => "KeyError"
  | type => "TypeError"
  | member => "AttributeError"
  | recursion => "RecursionError"
  | linearAlgebra => "LinAlgError"
  | missingFile => "FileNotFoundError"
  | missingModule => "ModuleNotFoundError"
  | missingImport => "ImportError"
  | other name => name

/-- The kinds that have a name of their own here. -/
def known : List FaultKind :=
  [base, programming, qubitIndex, releasedRegister, dimensionMismatch, arenaExhausted, execution,
    profileViolation, nonUnitary, capability, configuration, unknownOperation, value, index, key,
    type, member, recursion, linearAlgebra, missingFile, missingModule, missingImport]

/-- The kind of a given name. -/
def ofTitle (name : String) : FaultKind :=
  if name = "IOError" ∨ name = "EnvironmentError" then .other "OSError"
  else (known.find? fun kind => kind.title == name).getD (.other name)

/-- Whether a kind belongs to the programming faults. -/
def isProgramming : FaultKind → Bool
  | programming | qubitIndex | releasedRegister | dimensionMismatch | arenaExhausted => true
  | _ => false

/-- Whether a kind says that something could not be imported. -/
def isImport : FaultKind → Bool
  | missingModule | missingImport => true
  | _ => false

/-- A fault of the operating system whose number says nothing more. -/
def system : FaultKind := other "OSError"

/-- A fault of the operating system that comes from work that would have to wait. -/
def blocking : FaultKind := other "BlockingIOError"

/-- The kinds that the operating system's numbers stand for. -/
def numbered : List (Int × FaultKind) :=
  [(1, other "PermissionError"), (2, missingFile), (3, other "ProcessLookupError"),
    (4, other "InterruptedError"), (10, other "ChildProcessError"), (11, blocking),
    (13, other "PermissionError"), (17, other "FileExistsError"),
    (20, other "NotADirectoryError"), (21, other "IsADirectoryError"),
    (32, other "BrokenPipeError"), (103, other "ConnectionAbortedError"),
    (104, other "ConnectionResetError"), (108, other "BrokenPipeError"),
    (110, other "TimeoutError"), (111, other "ConnectionRefusedError"), (114, blocking),
    (115, blocking)]

/-- Whether a kind comes from the operating system, whose faults carry a number and a text. -/
def isSystem (kind : FaultKind) : Bool :=
  kind = system || kind = other "ConnectionError" || numbered.any fun entry => entry.2 = kind

/-- Whether a kind is about source text that cannot be read, whose faults may carry a place. -/
def isSyntax : FaultKind → Bool
  | other name => ["SyntaxError", "IndentationError", "TabError"].contains name
  | _ => false

end FaultKind

end QuantumKata
