import QuantumKata.Basis
import QuantumKata.Fault
import QuantumKata.Matrix
import QuantumKata.Text.Case

/-!
# Gates

A gate is a primitive instruction.  The *fixed* gates need no parameter; a *rotation* takes one
angle; a *global phase* acts on no qubit at all and multiplies the state by a number of magnitude
one; a *custom* gate carries its own matrix.

The adjoint of a gate undoes it.  It has a closed form except for custom gates: fixed gates come
in pairs of partners, some being their own partner, and the other two kinds negate their angle.
A custom gate is undone by the inverse matrix, and the mark `_adj` at the end of its name is put on
or taken off.
-/

namespace QuantumKata

/-- The gates without parameters. -/
inductive FixedGate where
  | i | x | y | z | h | s | sdg | t | tdg | sx | sxdg | swap
  deriving DecidableEq, Repr

namespace FixedGate

/-- All fixed gates. -/
def all : List FixedGate := [i, x, y, z, h, s, sdg, t, tdg, sx, sxdg, swap]

/-- The name of a fixed gate. -/
def name : FixedGate → String
  | i => "I"
  | x => "X"
  | y => "Y"
  | z => "Z"
  | h => "H"
  | s => "S"
  | sdg => "SDG"
  | t => "T"
  | tdg => "TDG"
  | sx => "SX"
  | sxdg => "SXDG"
  | swap => "SWAP"

/-- The fixed gate of a given name. -/
def ofName? (text : String) : Option FixedGate :=
  all.find? fun gate => gate.name == text

/-- The number of qubits a fixed gate acts on. -/
def numQubits : FixedGate → Nat
  | swap => 2
  | _ => 1

/-- The partner that undoes a fixed gate. -/
def adjoint : FixedGate → FixedGate
  | s => sdg
  | sdg => s
  | t => tdg
  | tdg => t
  | sx => sxdg
  | sxdg => sx
  | other => other

@[simp]
theorem adjoint_adjoint (gate : FixedGate) : gate.adjoint.adjoint = gate := by
  cases gate <;> rfl

@[simp]
theorem ofName?_name (gate : FixedGate) : ofName? gate.name = some gate := by
  cases gate <;> decide

/-- Whether a gate is its own partner. -/
def isSelfAdjoint (gate : FixedGate) : Bool := gate.adjoint == gate

variable {R : Type} [Scalar R]

/-- Half the square root of two. -/
def halfRoot : R := 1 / Scalar.sqrt Scalar.two

/-- One half. -/
def half : R := 1 / Scalar.two

/-- The matrix of a fixed gate. -/
def matrix : FixedGate → SquareMatrix R
  | i => .ofRows 1 0 0 1
  | x => .ofRows 0 1 1 0
  | y => .ofRows 0 (-Amplitude.imaginary) Amplitude.imaginary 0
  | z => .ofRows 1 0 0 (-1)
  | h => .ofRows (.ofReal halfRoot) (.ofReal halfRoot) (.ofReal halfRoot) (.ofReal (-halfRoot))
  | s => .ofRows 1 0 0 Amplitude.imaginary
  | sdg => .ofRows 1 0 0 (-Amplitude.imaginary)
  | t => .ofRows 1 0 0 (Amplitude.unit (Scalar.pi / Scalar.ofNat 4))
  | tdg => .ofRows 1 0 0 (Amplitude.unit (Scalar.pi / Scalar.ofNat 4)).conj
  | sx => .ofRows ⟨half, half⟩ ⟨half, -half⟩ ⟨half, -half⟩ ⟨half, half⟩
  | sxdg => .ofRows ⟨half, -half⟩ ⟨half, half⟩ ⟨half, half⟩ ⟨half, -half⟩
  | swap => ⟨4, #v[#v[1, 0, 0, 0], #v[0, 0, 1, 0], #v[0, 1, 0, 0], #v[0, 0, 0, 1]]⟩

end FixedGate

/-- The gates that turn a qubit by an angle. -/
inductive Rotation where
  | rx | ry | rz | r1
  deriving DecidableEq, Repr

namespace Rotation

/-- All rotations. -/
def all : List Rotation := [rx, ry, rz, r1]

/-- The name of a rotation. -/
def name : Rotation → String
  | rx => "RX"
  | ry => "RY"
  | rz => "RZ"
  | r1 => "R1"

/-- The rotation of a given name. -/
def ofName? (text : String) : Option Rotation :=
  all.find? fun axis => axis.name == text

variable {R : Type} [Scalar R]

/-- The matrix of a rotation: half the angle to either side, or the whole angle on one side. -/
def matrix (axis : Rotation) (angle : R) : SquareMatrix R :=
  let half := angle / Scalar.two
  match axis with
  | rx =>
    let across := -Amplitude.imaginary * .ofReal (Scalar.sin half)
    .ofRows (.ofReal (Scalar.cos half)) across across (.ofReal (Scalar.cos half))
  | ry => .ofRows (.ofReal (Scalar.cos half)) (.ofReal (-Scalar.sin half))
      (.ofReal (Scalar.sin half)) (.ofReal (Scalar.cos half))
  | rz => .ofRows (Amplitude.unit (-half)) 0 0 (Amplitude.unit half)
  | r1 => .ofRows 1 0 0 (Amplitude.unit angle)

end Rotation

/-- A gate with a matrix of its own. -/
structure CustomGate (R : Type) where
  name : String
  numQubits : Nat
  matrix : SquareMatrix R
  size_eq : matrix.size = Basis.count numQubits

/-- A primitive instruction. -/
inductive Gate (R : Type) where
  | fixed (gate : FixedGate)
  | rotation (axis : Rotation) (angle : R)
  | globalPhase (angle : R)
  | custom (gate : CustomGate R)

/-- The family a gate belongs to. -/
inductive GateKind where
  | standard
  | custom
  | phase
  deriving DecidableEq, Repr

namespace GateKind

/-- The word for a family of gates. -/
def word : GateKind → String
  | standard => "standard"
  | custom => "custom"
  | phase => "phase"

end GateKind

namespace Gate

variable {R : Type}

/-- The name of a gate. -/
def name : Gate R → String
  | fixed gate => gate.name
  | rotation axis _ => axis.name
  | globalPhase _ => "GPHASE"
  | custom gate => gate.name

/-- The number of qubits a gate acts on. -/
def numQubits : Gate R → Nat
  | fixed gate => gate.numQubits
  | rotation _ _ => 1
  | globalPhase _ => 0
  | custom gate => gate.numQubits

/-- The angles of a gate. -/
def angles : Gate R → List R
  | rotation _ angle => [angle]
  | globalPhase angle => [angle]
  | _ => []

/-- The family of a gate. -/
def kind : Gate R → GateKind
  | fixed _ | rotation _ _ => .standard
  | globalPhase _ => .phase
  | custom _ => .custom

/-- Whether a gate bears the name of a fixed gate that is its own partner.  A custom gate is judged
by its name as well. -/
def isSelfAdjoint (gate : Gate R) : Bool :=
  (FixedGate.ofName? gate.name).any FixedGate.isSelfAdjoint

/-- The names of the gates that can be built by name. -/
def standardNames : List String :=
  (FixedGate.all.map FixedGate.name ++ Rotation.all.map Rotation.name ++ ["GPHASE"]).mergeSort
    fun left right => decide (left ≤ right)

variable [Scalar R]

/-- The name of a gate with its angle. -/
def text (gate : Gate R) : String :=
  match gate.angles with
  | [] => gate.name
  | angles => gate.name ++ "(" ++ ", ".intercalate (angles.map Scalar.brief) ++ ")"

/-- Whether two gates have the same name, size, kind and angles. -/
def isSame (left right : Gate R) : Bool :=
  left.name == right.name && left.numQubits == right.numQubits && left.kind == right.kind &&
    left.angles.length == right.angles.length &&
    (left.angles.zip right.angles).all fun (first, second) =>
      Scalar.atMost first second && Scalar.atMost second first

/-- Build a gate by its name; case does not matter. -/
def named (givenName : String) (angles : List R) : Except Fault (Gate R) :=
  let key := Text.upper givenName
  match FixedGate.ofName? key with
  | some gate => if angles.isEmpty then .ok (.fixed gate) else .error (.superfluousAngles key)
  | none =>
    match Rotation.ofName? key, angles with
    | some axis, [angle] => .ok (.rotation axis angle)
    | some _, _ => .error (.oneAngle key)
    | none, angles =>
      if key = "GPHASE" then
        match angles with
        | [angle] => .ok (.globalPhase angle)
        | _ => .error .onePhase
      else .error (.unknownGate givenName)

/-- The name of a custom gate for which no other is given. -/
def defaultCustomName : String := "U"

/-- Build a gate from a matrix, which has to be square, of a size `2 ^ k` with `1 ≤ k`, and unitary
up to the tolerance. -/
def ofTensor (tensor : Tensor R) (givenName : String) (tolerance : R) : Except Fault (Gate R) :=
  match tensor.square? with
  | none => .error (.matrixNotSquare tensor.shape)
  | some matrix =>
    let numQubits := matrix.size.log2
    if size_eq : matrix.size = Basis.count numQubits then
      if numQubits = 0 then .error (.matrixSize matrix.size)
      else if matrix.isUnitary (tolerance * Scalar.ofNat 1000) then
        .ok (.custom ⟨givenName, numQubits, matrix, size_eq⟩)
      else .error (.matrixNotUnitary givenName)
    else .error (.matrixSize matrix.size)

/-- The matrix of a gate; a global phase has a matrix of size one. -/
def matrix : Gate R → SquareMatrix R
  | fixed gate => gate.matrix
  | rotation axis angle => axis.matrix angle
  | globalPhase angle => ⟨1, #v[#v[Amplitude.unit angle]]⟩
  | custom gate => gate.matrix

/-- The mark at the end of the name of a custom gate that has been inverted. -/
def adjointMark : List Char := ['_', 'a', 'd', 'j']

/-- Put the mark of an inverted gate on a name, or take it off. -/
def toggleMark (givenName : String) : String :=
  let characters := givenName.toList
  if adjointMark.isSuffixOf characters then
    String.ofList (characters.take (characters.length - adjointMark.length))
  else String.ofList (characters ++ adjointMark)

/-- The inverse of a matrix keeps its size. -/
theorem inverse?_size {matrix inverse : SquareMatrix R} (found : matrix.inverse? = some inverse) :
    inverse.size = matrix.size := by
  unfold SquareMatrix.inverse? at found
  obtain ⟨rows, -, rfl⟩ := Option.map_eq_some_iff.1 found
  rfl

/-- The gate that undoes a gate. -/
def adjoint : Gate R → Except Fault (Gate R)
  | fixed gate => .ok (.fixed gate.adjoint)
  | rotation axis angle => .ok (.rotation axis (-angle))
  | globalPhase angle => .ok (.globalPhase (-angle))
  | custom gate =>
    match found : gate.matrix.inverse? with
    | none => .error .singularMatrix
    | some inverse =>
      .ok (.custom ⟨toggleMark gate.name, gate.numQubits, inverse,
        (inverse?_size found).trans gate.size_eq⟩)

end Gate

end QuantumKata
