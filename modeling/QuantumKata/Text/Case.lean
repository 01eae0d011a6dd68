/-!
# Letter case

Gate names, log levels, grading modes, profile settings and names of pictographs are compared
without regard to case.  All of those words are written in ASCII letters and a few letters with
accents of the Latin supplement, so of the case maps only the characters matter whose image holds
such letters: besides these letters themselves they are the long s, the dotless i, the sharp s, the
Latin ligatures, the Kelvin and Angstrom signs and the capital I with a dot.
-/

namespace QuantumKata.Text

/-- The upper-case form of a character. -/
def upperChar (char : Char) : List Char :=
  match char.toNat with
  | 0xdf => ['S', 'S']
  | 0x131 => ['I']
  | 0x17f => ['S']
  | 0xfb00 => ['F', 'F']
  | 0xfb01 => ['F', 'I']
  | 0xfb02 => ['F', 'L']
  | 0xfb03 => ['F', 'F', 'I']
  | 0xfb04 => ['F', 'F', 'L']
  | 0xfb05 => ['S', 'T']
  | 0xfb06 => ['S', 'T']
  | _ => [char.toUpper]

/-- The lower-case form of a character. -/
def lowerChar (char : Char) : List Char :=
  match char.toNat with
  | 0x130 => ['i', Char.ofNat 0x307]
  | 0x212a => ['k']
  | 0x212b => ['å']
  | code =>
    if 0xc0 ≤ code ∧ code ≤ 0xde ∧ code ≠ 0xd7 then [Char.ofNat (code + 0x20)]
    else [char.toLower]

/-- The upper-case form of a text. -/
def upper (text : String) : String :=
  String.ofList (text.toList.flatMap upperChar)

/-- The lower-case form of a text. -/
def lower (text : String) : String :=
  String.ofList (text.toList.flatMap lowerChar)

end QuantumKata.Text
