import QuantumKata.Scalar

/-!
# Angles of phase shifts

The angle of a phase shift stands in the name of the shifted operation.  An angle that was given as
a whole number has no negative zero, so its negation is shown without a sign.
-/

namespace QuantumKata

/-- The angle of a phase shift. -/
structure PhaseAngle (R : Type) where
  value : R
  /-- Whether the angle was given as a whole number. -/
  isWhole : Bool := false

namespace PhaseAngle

variable {R : Type} [Scalar R]

/-- Whether an angle is zero. -/
def isZero (angle : PhaseAngle R) : Bool :=
  Scalar.atMost angle.value 0 && Scalar.atMost 0 angle.value

/-- The opposite angle. -/
def opposite (angle : PhaseAngle R) : PhaseAngle R :=
  if angle.isWhole && angle.isZero then angle else { angle with value := -angle.value }

/-- The text of an angle inside names. -/
def text (angle : PhaseAngle R) : String := Scalar.brief angle.value

end PhaseAngle

end QuantumKata
