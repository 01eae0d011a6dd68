import QuantumKata.Equivalence
import QuantumKata.Proofs.Branches
import QuantumKata.Proofs.Holding

/-!
# Gates on one qubit

A gate on one qubit combines the amplitudes of two basis states that differ in this qubit.  The ones
that a check of equivalence uses itself are written out: the even superposition, the flip under
controls and the phase of a probe.
-/

noncomputable section

namespace QuantumKata

open Complex

/-! ## One qubit in general -/

namespace TapeEntry

/-- A gate on one qubit combines two amplitudes where all controls read one. -/
theorem act_single {gate : Gate ℝ} (size : gate.matrix.size = 2) (qubit : ℕ) (controls : List Int)
    (amplitudes : ℕ → ℂ) (index : ℕ) :
    (⟨gate, [(qubit : Int)], controls⟩ : TapeEntry ℝ).act [] amplitudes index =
      if Basis.allOne (controls.map Int.toNat) index then
        (gate.matrix.entry (index.testBit qubit).toNat 0).toComplex *
            amplitudes (Basis.setBit index qubit false) +
          (gate.matrix.entry (index.testBit qubit).toNat 1).toComplex *
            amplitudes (Basis.setBit index qubit true)
      else amplitudes index := by
  have gathered : Basis.gather [qubit] index = (index.testBit qubit).toNat := by
    simp [Basis.gather]
  rw [act_apply]
  change (if Basis.allOne (controls.map Int.toNat) index then
    ∑ column ∈ Finset.range gate.matrix.size,
      (gate.matrix.entry (Basis.gather [qubit] index) column).toComplex *
        amplitudes (Basis.scatter [qubit] column index) else amplitudes index) = _
  rw [size, Finset.sum_range_succ, Finset.sum_range_one, gathered]
  rfl

end TapeEntry

/-! ## The even superposition -/

/-- Half the square root of two as a complex number. -/
def evenWeight : ℂ := (FixedGate.halfRoot : ℝ)

theorem evenWeight_mul_self : evenWeight * evenWeight = 1 / 2 := halfRoot_mul_self

theorem act_hadamard (qubit : ℕ) (amplitudes : ℕ → ℂ) (index : ℕ) :
    (⟨.fixed .h, [(qubit : Int)], []⟩ : TapeEntry ℝ).act [] amplitudes index =
      evenWeight * (amplitudes (Basis.setBit index qubit false) +
        (if index.testBit qubit then -1 else 1) * amplitudes (Basis.setBit index qubit true)) := by
  have first : ∀ bit : Bool,
      ((Gate.fixed .h : Gate ℝ).matrix.entry bit.toNat 0).toComplex = evenWeight := by
    intro bit
    cases bit <;> rfl
  have second : ∀ bit : Bool, ((Gate.fixed .h : Gate ℝ).matrix.entry bit.toNat 1).toComplex =
      if bit then -evenWeight else evenWeight := by
    intro bit
    cases bit with
    | false => rfl
    | true => exact ofReal_neg _
  rw [TapeEntry.act_single rfl, first, second]
  cases index.testBit qubit with
  | false =>
    simp [Basis.allOne]
    ring
  | true =>
    simp [Basis.allOne]
    ring

/-- A flip under controls. -/
theorem act_flip (qubit : ℕ) (controls : List Int) (amplitudes : ℕ → ℂ) (index : ℕ) :
    (⟨.fixed .x, [(qubit : Int)], controls⟩ : TapeEntry ℝ).act [] amplitudes index =
      if Basis.allOne (controls.map Int.toNat) index then
        amplitudes (Basis.setBit index qubit !(index.testBit qubit))
      else amplitudes index := by
  have first : ∀ bit : Bool, ((Gate.fixed .x : Gate ℝ).matrix.entry bit.toNat 0).toComplex =
      if bit then 1 else 0 := by
    intro bit
    cases bit <;> rfl
  have second : ∀ bit : Bool, ((Gate.fixed .x : Gate ℝ).matrix.entry bit.toNat 1).toComplex =
      if bit then 0 else 1 := by
    intro bit
    cases bit <;> rfl
  rw [TapeEntry.act_single rfl, first, second]
  cases index.testBit qubit <;> simp

/-! ## The probe -/

/-- The superposition of a probe combines the branches. -/
theorem branch_hadamard (value : Bool) (amplitudes : ℕ → ℂ) (part : ℕ) :
    branch value ((⟨.fixed .h, [0], []⟩ : TapeEntry ℝ).act [] amplitudes) part =
      evenWeight * (branch false amplitudes part +
        (if value then -1 else 1) * branch true amplitudes part) := by
  have here := act_hadamard 0 amplitudes (Nat.bit value part)
  rw [Basis.setBit_bit_zero, Basis.setBit_bit_zero, Nat.testBit_bit_zero] at here
  exact here

/-- A phase of a probe multiplies the branch for one. -/
theorem branch_phase (angle : ℝ) (value : Bool) (amplitudes : ℕ → ℂ) (part : ℕ) :
    branch value ((⟨.rotation .r1 angle, [0], []⟩ : TapeEntry ℝ).act [] amplitudes) part =
      (if value then exp (angle * I) else 1) * branch value amplitudes part := by
  have first : ∀ bit : Bool, ((Gate.rotation .r1 angle).matrix.entry bit.toNat 0).toComplex =
      if bit then 0 else 1 := by
    intro bit
    cases bit <;> rfl
  have second : ∀ bit : Bool, ((Gate.rotation .r1 angle).matrix.entry bit.toNat 1).toComplex =
      if bit then exp (angle * I) else 0 := by
    intro bit
    cases bit with
    | false => rfl
    | true => exact Amplitude.toComplex_unit angle
  have here := @TapeEntry.act_single (.rotation .r1 angle) rfl 0 [] amplitudes
    (Nat.bit value part)
  rw [Basis.setBit_bit_zero, Basis.setBit_bit_zero, Nat.testBit_bit_zero, first,
    second] at here
  refine here.trans ?_
  cases value <;> simp [Basis.allOne, branch]

/-! ## The constants of the library -/

namespace Engine

variable {definitions : Definitions ℝ} {numQubits : ℕ}

/-- Gates on one qubit are complete. -/
theorem isExact_single {gate : Gate ℝ} (unitary : gate.IsUnitary) (arity : gate.numQubits = 1)
    (qubit : Int) (controls : List Int) : (⟨gate, [qubit], controls⟩ : TapeEntry ℝ).IsExact :=
  ⟨unitary, arity.symm⟩

theorem performs_hadamard {qubit : Int} (fits : QubitsFit numQubits [qubit]) :
    Performs definitions numQubits (EquivalenceChecker.applyConstant (.fixed .h) [qubit]) ()
      [⟨.fixed .h, [qubit], []⟩] := by
  apply performs_apply
  · exact .issue (.done ())
  · exact List.forall_mem_singleton.2 (isExact_single (Gate.isUnitary_fixed .h) rfl qubit [])
  · exact List.forall_mem_singleton.2 fits

theorem performs_cnot {control target : Int} (fits : QubitsFit numQubits [target, control]) :
    Performs definitions numQubits (EquivalenceChecker.applyConstant .cnot [control, target]) ()
      [⟨.fixed .x, [target], [control]⟩] := by
  apply performs_apply
  · exact .issue (.done ())
  · exact List.forall_mem_singleton.2 (isExact_single (Gate.isUnitary_fixed .x) rfl target [control])
  · exact List.forall_mem_singleton.2 fits

theorem performs_phase (angle : ℝ) {qubit : Int} (fits : QubitsFit numQubits [qubit]) :
    Performs definitions numQubits (apply (.rotation .r1 angle) [qubit]) ()
      [⟨.rotation .r1 angle, [qubit], []⟩] := by
  apply performs_apply
  · exact .issue (.done ())
  · exact List.forall_mem_singleton.2
      (isExact_single (Gate.isUnitary_rotation .r1 angle) rfl qubit [])
  · exact List.forall_mem_singleton.2 fits

end Engine

end QuantumKata

end
