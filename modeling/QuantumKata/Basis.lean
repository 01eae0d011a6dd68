/-!
# Basis indices

A basis state of a register is a natural number whose bit `q` is the value of qubit `q`.  A gate
looks at the bits of its targets only: `gather` reads them as a small number, the first target being
the most significant bit, and `scatter` writes such a number back into the targets.

The indices that differ in the targets only form a *group*.  A group is a base, in which the targets
read zero, and an offset from it for every number that the targets can hold.
-/

namespace QuantumKata.Basis

/-- The number of basis states of a register of so many qubits. -/
def count (numQubits : Nat) : Nat := Nat.pow 2 numQubits

/-- The index with bit `qubit` set to `value`. -/
def setBit (index qubit : Nat) (value : Bool) : Nat :=
  if index.testBit qubit = value then index else index ^^^ count qubit

/-- The number of basis states of a register is the index whose only one stands behind the
register. -/
theorem testBit_count (numQubits qubit : Nat) :
    (count numQubits).testBit qubit = decide (numQubits = qubit) :=
  Nat.testBit_two_pow

/-- A bit that has been set has the value it was set to, and no other bit changes. -/
theorem testBit_setBit (index qubit : Nat) (value : Bool) (other : Nat) :
    (setBit index qubit value).testBit other =
      if other = qubit then value else index.testBit other := by
  unfold setBit
  by_cases same : index.testBit qubit = value
  · by_cases here : other = qubit
    · subst here
      simp [same]
    · simp [same, here]
  · by_cases here : other = qubit
    · subst here
      cases value <;> simp_all [testBit_count]
    · simp [same, here, testBit_count, Ne.symm here]

/-- Setting a bit of the register keeps the index inside the register. -/
theorem setBit_lt {index qubit numQubits : Nat} (value : Bool)
    (inRegister : index < count numQubits) (isQubit : qubit < numQubits) :
    setBit index qubit value < count numQubits := by
  unfold setBit
  split
  · exact inRegister
  · exact Nat.xor_lt_two_pow inRegister (Nat.pow_lt_pow_right (by decide) isQubit)

/-- The bits of the given qubits as a number, the first qubit most significant. -/
def gather (qubits : List Nat) (index : Nat) : Nat :=
  qubits.foldl (fun number qubit => 2 * number + (index.testBit qubit).toNat) 0

/-- Write a number into the bits of the given qubits, the first qubit most significant. -/
def scatter : (qubits : List Nat) → (number index : Nat) → Nat
  | [], _, index => index
  | qubit :: rest, number, index =>
    scatter rest number (setBit index qubit (number.testBit rest.length))

/-- Whether all the given qubits read one. -/
def allOne (qubits : List Nat) (index : Nat) : Bool :=
  qubits.all fun qubit => index.testBit qubit

/-- Whether one of the given qubits reads one. -/
def anyOne (qubits : List Nat) (index : Nat) : Bool :=
  qubits.any fun qubit => index.testBit qubit

/-- Whether two indices agree on the given qubits. -/
def agree (qubits : List Nat) (left right : Nat) : Bool :=
  qubits.all fun qubit => left.testBit qubit == right.testBit qubit

/-! ## Groups of indices -/

/-- The index in which the given qubits read one and no other qubit does. -/
def mask (qubits : List Nat) : Nat :=
  qubits.foldl (fun ones qubit => ones ||| count qubit) 0

/-- How far the index that holds a number in the given qubits, the first one most significant, is
from the index that holds zero there. -/
def offset : (qubits : List Nat) → (number : Nat) → Nat
  | [], _ => 0
  | qubit :: rest, number =>
    (if number.testBit rest.length then count qubit else 0) ||| offset rest number

/-- The indices of a register in which the targets read zero and the controls read one. -/
def bases (numQubits : Nat) (targets controls : List Nat) : List Nat :=
  (List.range (count numQubits)).filter fun index =>
    index &&& mask targets == 0 && index &&& mask controls == mask controls

/-- The groups of indices that a gate mixes: for every base the indices that differ from it in the
targets only, in the order of the numbers that the targets hold. -/
def groups (numQubits : Nat) (targets controls : List Nat) : List (List Nat) :=
  let offsets := (List.range (count targets.length)).map (offset targets)
  (bases numQubits targets controls).map fun base => offsets.map (base + ·)

end QuantumKata.Basis
