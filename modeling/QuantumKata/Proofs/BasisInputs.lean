import QuantumKata.Proofs.Errand
import QuantumKata.Proofs.GateAdjoint

/-!
# Basis states as inputs

A run on a basis input starts from a register in which every qubit reads zero, and flips the qubits
that read one in the index of the input.  A flip of a qubit takes a basis state to the basis state
in which this qubit alone is changed, so after the flips the register is in the basis state of the
index.  No more of the arithmetic is needed for this than that zero and one are added, subtracted
and multiplied exactly, as they are among floating-point numbers.

A basis state is labelled by its bits.  The digits of a number in base two are its bits, the least
significant one last, and zeros fill them up to the width of the register in front.
-/

namespace QuantumKata

/-! ## Arithmetic with zero and one -/

/-- Scalars that calculate exactly with zero and one. -/
class Scalar.IsExactOnBits (R : Type) [Scalar R] : Prop where
  zero_add_zero : (0 : R) + 0 = 0
  zero_add_one : (0 : R) + 1 = 1
  one_add_zero : (1 : R) + 0 = 1
  zero_sub_zero : (0 : R) - 0 = 0
  one_sub_zero : (1 : R) - 0 = 1
  zero_mul_zero : (0 : R) * 0 = 0
  zero_mul_one : (0 : R) * 1 = 0
  one_mul_zero : (1 : R) * 0 = 0
  one_mul_one : (1 : R) * 1 = 1

attribute [simp] Scalar.IsExactOnBits.zero_add_zero Scalar.IsExactOnBits.zero_add_one
  Scalar.IsExactOnBits.one_add_zero Scalar.IsExactOnBits.zero_sub_zero
  Scalar.IsExactOnBits.one_sub_zero Scalar.IsExactOnBits.zero_mul_zero
  Scalar.IsExactOnBits.zero_mul_one Scalar.IsExactOnBits.one_mul_zero
  Scalar.IsExactOnBits.one_mul_one

namespace Amplitude

variable {R : Type} [Scalar R] [Scalar.IsExactOnBits R]

/-- The amplitude of a basis state: one or zero. -/
def ofBit (bit : Bool) : Amplitude R := if bit then 1 else 0

/-- One row of a flip picks the other amplitude. -/
theorem sum_flip (row left right : Bool) :
    (sum [(SquareMatrix.ofRows 0 1 1 0).entry row.toNat 0 * ofBit left,
      (SquareMatrix.ofRows 0 1 1 0).entry row.toNat 1 * ofBit right] : Amplitude R) =
      ofBit (if row then left else right) := by
  have parts : ∀ first second third fourth : R,
      (⟨first, second⟩ : Amplitude R) * ⟨third, fourth⟩ =
        ⟨first * third - second * fourth, first * fourth + second * third⟩ :=
    fun _ _ _ _ => rfl
  have sums : ∀ first second third fourth : R,
      (⟨first, second⟩ : Amplitude R) + ⟨third, fourth⟩ = ⟨first + third, second + fourth⟩ :=
    fun _ _ _ _ => rfl
  have zero : (0 : Amplitude R) = ⟨0, 0⟩ := rfl
  have one : (1 : Amplitude R) = ⟨1, 0⟩ := rfl
  cases row <;> cases left <;> cases right <;>
    simp [sum, ofBit, SquareMatrix.entry, SquareMatrix.ofRows, zero, one, parts, sums]

end Amplitude

/-! ## Flipping qubits of a basis state -/

namespace Basis

/-- The index after flips of qubits, one after the other. -/
def flipped (qubits : List Nat) (index : Nat) : Nat :=
  qubits.foldl (fun index qubit => setBit index qubit !index.testBit qubit) index

theorem testBit_flipped {qubits : List Nat} (distinct : qubits.Nodup) (index qubit : Nat) :
    (flipped qubits index).testBit qubit = (index.testBit qubit ^^ decide (qubit ∈ qubits)) := by
  induction qubits generalizing index with
  | nil => simp [flipped]
  | cons first rest ih =>
    rcases List.nodup_cons.1 distinct with ⟨apart, distinct⟩
    change (flipped rest (setBit index first !index.testBit first)).testBit qubit = _
    rw [ih distinct, testBit_setBit]
    by_cases here : qubit = first
    · subst here
      simp [apart]
    · simp [here]

/-- Flipping the ones of an index takes zero to the index. -/
theorem flipped_ones {numQubits index : Nat} (inRegister : index < count numQubits) :
    flipped ((List.range numQubits).filter index.testBit) 0 = index := by
  apply Nat.eq_of_testBit_eq
  intro qubit
  rw [testBit_flipped (List.nodup_range.filter _)]
  by_cases inside : qubit < numQubits
  · simp [inside]
  · have large : 2 ^ numQubits ≤ 2 ^ qubit := Nat.pow_le_pow_right (by decide) (not_lt.1 inside)
    have none : index.testBit qubit = false :=
      Nat.testBit_lt_two_pow (lt_of_lt_of_le inRegister large)
    simp [none]

/-- Flipping a bit twice. -/
theorem setBit_not_eq_iff (first second qubit : Nat) :
    setBit first qubit (!first.testBit qubit) = second ↔
      first = setBit second qubit !second.testBit qubit := by
  have back : ∀ index : Nat,
      setBit (setBit index qubit !index.testBit qubit) qubit
        (!(setBit index qubit !index.testBit qubit).testBit qubit) = index := by
    intro index
    apply Nat.eq_of_testBit_eq
    intro other
    rw [testBit_setBit, testBit_setBit, testBit_setBit]
    by_cases here : other = qubit
    · simp [here]
    · simp [here]
  constructor
  · rintro rfl
    exact (back first).symm
  · rintro rfl
    exact back second

end Basis

namespace StateVector

variable {R : Type} [Scalar R]

theorem amplitude_basis {numQubits position index : Nat}
    (inRegister : index < Basis.count numQubits) :
    (basis numQubits position : StateVector R).amplitude index =
      .ofBit (decide (index = position)) := by
  rw [basis, amplitude_ofAmplitudes _ inRegister, Amplitude.ofBit]
  simp

/-- A flip takes a basis state to the basis state with this bit changed. -/
theorem onState_flip_basis [Scalar.IsExactOnBits R] {numQubits qubit index : Nat}
    (isQubit : qubit < numQubits) :
    (TapeEntry.mk (.fixed .x) [(qubit : Int)] []).onState []
        (basis numQubits index : StateVector R) =
      basis numQubits (Basis.setBit index qubit !index.testBit qubit) := by
  refine ext_amplitude (rfl :) fun position inside => ?_
  have inRegister : position < Basis.count numQubits := inside
  have setInside : ∀ bit, Basis.setBit position qubit bit < Basis.count numQubits :=
    fun bit => Basis.setBit_lt bit inRegister isQubit
  have row : Basis.gather [qubit] position = (position.testBit qubit).toNat := by
    simp [Basis.gather]
  have acted : ((TapeEntry.mk (.fixed .x) [(qubit : Int)] []).onState []
      (basis numQubits index : StateVector R)).amplitude position =
        transformed (.ofRows 0 1 1 0) [qubit] (basis numQubits index) position :=
    (amplitude_applyMatrix (.ofRows 0 1 1 0) [qubit] [] inRegister).trans (if_pos rfl)
  rw [acted, transformed, row]
  change Amplitude.sum [(SquareMatrix.ofRows 0 1 1 0).entry (position.testBit qubit).toNat 0 *
      (basis numQubits index).amplitude (Basis.setBit position qubit false),
    (SquareMatrix.ofRows 0 1 1 0).entry (position.testBit qubit).toNat 1 *
      (basis numQubits index).amplitude (Basis.setBit position qubit true)] = _
  rw [amplitude_basis (setInside false), amplitude_basis (setInside true), Amplitude.sum_flip,
    amplitude_basis inRegister]
  congr 1
  have other : (if position.testBit qubit = true then
      decide (Basis.setBit position qubit false = index)
      else decide (Basis.setBit position qubit true = index)) =
        decide (Basis.setBit position qubit (!position.testBit qubit) = index) := by
    cases position.testBit qubit <;> rfl
  rw [other]
  exact decide_eq_decide.2 (Basis.setBit_not_eq_iff position index qubit)

end StateVector

/-! ## Runs on a basis input -/

namespace DiagnosticRunner

open Engine

section Flips

variable {R : Type} [Scalar R] [Scalar.IsExactOnBits R]

/-- An unrestricted engine with nothing on its stacks in a basis state. -/
def onBasis (definitions : Definitions R) (numQubits index : Nat) : Engine R :=
  start (.holding (.basis numQubits index)) .unrestricted [] definitions

theorem apply_flip (definitions : Definitions R) {numQubits qubit : Nat} (index : Nat)
    (isQubit : qubit < numQubits) :
    Engine.apply (LibraryConstant.operation (.fixed .x)) [(qubit : Int)]
        (onBasis definitions numQubits index) =
      (.ok (), onBasis definitions numQubits (Basis.setBit index qubit !index.testBit qubit)) := by
  have wraps : (LibraryConstant.operation (.fixed .x) : Operation R).Wraps (.fixed .x) := .gate _
  have fits : (TapeEntry.mk (.fixed .x : Gate R) [(qubit : Int)] []).Fits numQubits [] := by
    refine ⟨List.nodup_singleton _, List.forall_mem_singleton.2 ?_⟩
    omega
  rw [wraps.apply_eq rfl]
  refine (gate_eq_ok_iff rfl).2 ⟨rfl, rfl, _, rfl, fits, ?_⟩
  rw [onBasis, ← StateVector.onState_flip_basis isQubit]
  rfl

theorem flip_eq (definitions : Definitions R) {numQubits : Nat} {qubits : List Nat}
    (areQubits : ∀ qubit ∈ qubits, qubit < numQubits) (index : Nat) :
    flip (qubits.map Int.ofNat) (onBasis definitions numQubits index) =
      (.ok (), onBasis definitions numQubits (Basis.flipped qubits index)) := by
  induction qubits generalizing index with
  | nil => rfl
  | cons first rest ih =>
    rcases List.forall_mem_cons.1 areQubits with ⟨isQubit, areQubits⟩
    have flippedFirst := apply_flip definitions index isQubit
    rw [List.map_cons, flip]
    exact (Action.bind_of_ok flippedFirst).trans (ih areQubits _)

omit [Scalar R] [Scalar.IsExactOnBits R] in
theorem onesOf_natCast (numQubits index : Nat) :
    onesOf numQubits index = ((List.range numQubits).filter index.testBit).map Int.ofNat := by
  have ones : ∀ qubit : Nat, decide (((index : Int) >>> qubit) % 2 = 1) = index.testBit qubit := by
    intro qubit
    rw [Nat.testBit_eq_decide_div_mod_eq, Int.shiftRight_eq_div_pow]
    congr 1
    apply propext
    norm_cast
  rw [onesOf]
  simp only [ones]

/-- The flips of a run put the register into the basis state of its index. -/
theorem flip_onesOf (definitions : Definitions R) {numQubits index : Nat}
    (inRegister : index < Basis.count numQubits) :
    flip (onesOf numQubits index)
        (start (.holding (.zero numQubits)) .unrestricted [] definitions) =
      (.ok (), onBasis definitions numQubits index) := by
  have areQubits : ∀ qubit ∈ (List.range numQubits).filter index.testBit, qubit < numQubits := by
    intro qubit member
    exact List.mem_range.1 (List.mem_filter.1 member).1
  have flips := flip_eq definitions areQubits 0
  rw [Basis.flipped_ones inRegister] at flips
  rw [onesOf_natCast]
  exact flips

/-- What a run does to a register that holds its input. -/
def observed (operation : Operation R) (size : Nat) (profile : TargetProfile) :
    EngineAction R (Snapshot R × Snapshot R) := do
  let before ← Action.inspect fun engine => engine.memory.snapshot
  let input ← Action.ofExcept before
  Engine.restrictedTo profile (Engine.apply operation ((List.range size).map Int.ofNat))
  let after ← Action.inspect fun engine => engine.memory.snapshot
  let output ← Action.ofExcept after
  return (input, output)

omit [Scalar.IsExactOnBits R] in
theorem runOn_none_eq (operation : Operation R) (size : Nat) (index : Int)
    (profile : TargetProfile) :
    runOn operation size none index profile = Bench.withRegister size (do
      flip (onesOf size index)
      observed operation size profile) := by
  rw [runOn]
  rw [Int.toNat_natCast]
  rfl

/-- The block of a run on a basis input works on the basis state. -/
theorem block_eq (operation : Operation R) {size index : Nat}
    (inRegister : index < Basis.count size) (profile : TargetProfile)
    (definitions : Definitions R) :
    (do
      flip (onesOf size index)
      observed operation size profile : EngineAction R (Snapshot R × Snapshot R))
        (start (.holding (.zero (size : Int).toNat)) .unrestricted [] definitions) =
      observed operation size profile (onBasis definitions size index) :=
  Action.bind_of_ok (flip_onesOf definitions inRegister)

/-- A run on a basis input that completes has been given a register, has the basis state as its
input, and has applied the operation to it. -/
theorem completed_of_runOn {operation : Operation R} {size index : Nat}
    (inRegister : index < Basis.count size) {profile : TargetProfile} {bench : Bench R}
    {input output : Snapshot R}
    (ran : (runOn operation size none index profile bench).1 = .ok (input, output)) :
    1 ≤ size ∧ bench.arena.limit.isExceededBy size = false ∧
      input = .ofState (.basis size index) ∧
      ∃ after, Engine.restrictedTo profile
        (Engine.apply operation ((List.range size).map Int.ofNat))
        (onBasis bench.definitions size index) = (.ok (), after) := by
  rw [runOn_none_eq] at ran
  have completed : Bench.withRegister size (do
      flip (onesOf size index)
      observed operation size profile) bench = (.ok (input, output), _) := Prod.ext ran rfl
  rcases Bench.ok_of_withRegister completed with ⟨some, roomy, after, done⟩
  rw [block_eq operation inRegister, observed] at done
  rcases Action.bind_eq_ok_iff.1 done with ⟨before, between, looked, done⟩
  cases looked
  rcases Action.bind_eq_ok_iff.1 done with ⟨seen, next, copied, done⟩
  cases copied
  rcases Action.bind_eq_ok_iff.1 done with ⟨⟨⟩, applied, appliedHere, done⟩
  rcases Action.bind_eq_ok_iff.1 done with ⟨later, last, -, done⟩
  rcases Action.bind_eq_ok_iff.1 done with ⟨shown, closed, -, done⟩
  cases done
  exact ⟨by omega, roomy, rfl, applied, appliedHere⟩

end Flips

end DiagnosticRunner

/-! ## Labels of basis states -/

namespace Snapshot

/-- The character of a bit. -/
def bitCharacter (bit : Bool) : Char := if bit then '1' else '0'

/-- The digits of a number in base two are its bits, the least significant one last. -/
theorem getD_reverse_toDigits (number qubit : Nat) :
    (Nat.toDigits 2 number).reverse.getD qubit '0' = bitCharacter (number.testBit qubit) := by
  induction number using Nat.strongRecOn generalizing qubit with
  | ind number ih =>
    rw [Nat.toDigits_eq_if (by decide)]
    by_cases small : number < 2
    · rw [if_pos small]
      cases qubit with
      | zero =>
        rcases (by omega : number = 0 ∨ number = 1) with rfl | rfl <;> decide
      | succ qubit =>
        have none : number.testBit (qubit + 1) = false := by
          have wide : 2 ^ 1 ≤ 2 ^ (qubit + 1) :=
            Nat.pow_le_pow_right two_pos (Nat.le_add_left 1 qubit)
          exact Nat.testBit_lt_two_pow (lt_of_lt_of_le small wide)
        rw [none]
        rfl
    · rw [if_neg small, List.reverse_append]
      cases qubit with
      | zero =>
        rw [Nat.testBit_zero]
        rcases Nat.mod_two_eq_zero_or_one number with even | odd
        · rw [even]
          rfl
        · rw [odd]
          rfl
      | succ qubit =>
        rw [Nat.testBit_succ, ← ih (number / 2) (by omega)]
        rfl

/-- The bits of a number of so many bits: character `qubit` from the right is bit `qubit`. -/
theorem bitsText_eq {width number : Nat} (some : 1 ≤ width) (inside : number < Basis.count width) :
    ∃ characters : List Char, bitsText width number = String.ofList characters ∧
      characters.length = width ∧ ∀ qubit < width,
        characters.reverse[qubit]? = .some (bitCharacter (number.testBit qubit)) := by
  have short : (Nat.toDigits 2 number).length ≤ width :=
    (Nat.length_toDigits_le_iff (by decide) some).2 inside
  refine ⟨_, rfl, ?_, ?_⟩
  · rw [List.length_append, List.length_replicate]
    omega
  · intro qubit within
    rw [← getD_reverse_toDigits, List.reverse_append, List.reverse_replicate,
      List.getD_eq_getElem?_getD]
    by_cases digit : qubit < (Nat.toDigits 2 number).length
    · have present : qubit < (Nat.toDigits 2 number).reverse.length := by simpa using digit
      rw [List.getElem?_append_left present, List.getElem?_eq_getElem present]
      rfl
    · have absent : (Nat.toDigits 2 number).reverse.length ≤ qubit := by simpa using digit
      rw [List.getElem?_append_right absent, List.getElem?_eq_none absent,
        List.getElem?_replicate]
      rw [List.length_reverse] at absent ⊢
      rw [if_pos (by omega)]
      rfl

/-- The label of a basis state of a register with qubits. -/
theorem plainLabel_eq {size : Nat} (some : 1 ≤ size) (index : Nat) :
    plainLabel size index = "|" ++ bitsText size index ++ "⟩" := by
  have notEmpty : (size : Int) ≠ 0 := by omega
  have nonneg : ¬(index : Int) < 0 := by omega
  rw [plainLabel, if_neg notEmpty, if_neg nonneg, Int.toNat_natCast, Int.natAbs_natCast]

end Snapshot

end QuantumKata
