import QuantumKata.Gate

/-!
# Library constants

The constants of the library are the gates without parameters and the three usual control wrappers.
Each has a name by which it is spoken of.
-/

namespace QuantumKata

/-- The operations without parameters. -/
inductive LibraryConstant where
  | fixed (gate : FixedGate)
  | cnot
  | cz
  | ccnot
  deriving DecidableEq, Repr

namespace LibraryConstant

/-- All constants of the library. -/
def all : List LibraryConstant :=
  [.fixed .i, .fixed .x, .fixed .y, .fixed .z, .fixed .h, .fixed .s, .fixed .t, .fixed .sx,
    .fixed .swap, cnot, cz, ccnot]

/-- The name of a constant. -/
def name : LibraryConstant → String
  | fixed gate => gate.name
  | cnot => "CNOT"
  | cz => "CZ"
  | ccnot => "CCNOT"

/-- The constant of a given name. -/
def ofName? (text : String) : Option LibraryConstant :=
  all.find? fun constant => constant.name == text

end LibraryConstant

end QuantumKata
