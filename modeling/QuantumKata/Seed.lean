import QuantumKata.Fault
import QuantumKata.Text.Numeral

/-!
# Seeds

The generator of measurement outcomes is seeded by nothing, by an integer that is not negative, or
by a list of such.  The parts of a list may be lists themselves and may be given as text.  Only
certain outcomes are ever drawn where a seed is used, so all that matters about one is whether the
generator takes it.
-/

namespace QuantumKata.Seed

/-- Whether the generator takes an integer. -/
def checkInteger (value : Int) : Except Fault Unit :=
  if value < 0 then .error .negativeSeed else .ok ()

/-- Whether the generator takes a text: an integer, which may be in hexadecimal digits.  Other texts
must at least begin with a decimal digit to be looked at. -/
def checkText (text : String) : Except Fault Unit := do
  let isHexadecimal := text.startsWith "0x"
  unless isHexadecimal || text.toList.head?.any Char.isDigit do
    throw (.raised .value [.text "unrecognized seed string"])
  let value ← Text.integerIn (if isHexadecimal then 16 else 10) text
  checkInteger value

mutual

/-- Whether the generator takes a part of a list. -/
def checkPart : Datum → Except Fault Unit
  | .integer value => checkInteger value
  | .truth _ | .bytes _ => .ok ()
  | .text text => checkText text
  | .real _ => .error (.wrongType "seed must be integer")
  | .list items | .tuple items | .set items => checkParts items
  | .mapping entries => checkKeys entries
  | other => .error (.wrongType ("object of type '" ++ other.typeName ++ "' has no len()"))

/-- Whether the generator takes the parts of a list. -/
def checkParts : List Datum → Except Fault Unit
  | [] => .ok ()
  | part :: rest => do
    checkPart part
    checkParts rest

/-- Whether the generator takes the keys of a mapping. -/
def checkKeys : List (Datum × Datum) → Except Fault Unit
  | [] => .ok ()
  | (key, _) :: rest => do
    checkPart key
    checkKeys rest

end

/-- Whether the generator takes a seed. -/
def check (seed : Datum) : Except Fault Unit :=
  match seed with
  | .null | .truth _ => .ok ()
  | .integer value => checkInteger value
  | .list parts | .tuple parts => checkParts parts
  | other => .error (.notASeed other.plain)

end QuantumKata.Seed
