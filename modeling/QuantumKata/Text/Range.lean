/-!
# Ranges of characters

A class of characters is given by the ranges of codes it consists of, in ascending order.
-/

namespace QuantumKata.Text

/-- Whether a character lies in one of the ranges. -/
def liesIn (ranges : Array (Nat × Nat)) (char : Char) : Bool :=
  ranges.any fun (first, last) => first ≤ char.toNat && char.toNat ≤ last

end QuantumKata.Text
