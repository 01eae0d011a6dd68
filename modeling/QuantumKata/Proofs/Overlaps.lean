import Mathlib.Algebra.BigOperators.Field
import Mathlib.LinearAlgebra.Matrix.Trace
import QuantumKata.Proofs.EntangledPairs
import QuantumKata.Proofs.Transformation

/-!
# What the overlap is

In operator mode the overlap of the branches is a trace: the entangled state has one block for each
value of the ancillas, in which the targets have the same value, and the operations multiply each
block by their matrices.
-/

noncomputable section

namespace QuantumKata

open Complex Matrix

/-! ## Blocks of a register -/

/-- The inner product of a register is the sum of the inner products of its blocks. -/
theorem overlap_eq_sum_blocks (numQubits further : ℕ) (left right : ℕ → ℂ) :
    overlap (numQubits + further) left right =
      ∑ high : Fin (2 ^ further), star (block numQubits high left) ⬝ᵥ block numQubits high right := by
  have size : Basis.count (numQubits + further) = 2 ^ further * 2 ^ numQubits := by
    change 2 ^ (numQubits + further) = _
    rw [pow_add, mul_comm]
  rw [overlap]
  rw [size, Finset.sum_range, ← finProdFinEquiv.sum_comp, Fintype.sum_prod_type]
  apply Finset.sum_congr rfl
  intro high _
  apply Finset.sum_congr rfl
  intro low _
  have index : ((finProdFinEquiv (high, low) : Fin (2 ^ further * 2 ^ numQubits)) : ℕ) =
      Basis.joined numQubits high low := by
    rw [Basis.joined_of_lt _ low.isLt]
    exact Nat.add_comm _ _
  rw [index]
  rfl

theorem block_origin (numQubits : ℕ) :
    block numQubits 0 origin = Pi.single (0 : Fin (2 ^ numQubits)) 1 := by
  funext part
  change basisAmplitudes 0 (Basis.joined numQubits 0 part) = _
  rw [basisAmplitudes]
  rw [Basis.joined_of_lt _ part.isLt, Nat.mul_zero, Nat.zero_add, Pi.single_apply]
  simp only [Fin.ext_iff, Fin.val_zero]

theorem apply_zero_eq_block (numQubits : ℕ) (amplitudes : ℕ → ℂ) :
    amplitudes 0 = block numQubits 0 amplitudes (0 : Fin (2 ^ numQubits)) := by
  have index : Basis.joined numQubits 0 (0 : Fin (2 ^ numQubits)) = 0 := by
    simp [Basis.joined]
  exact congrArg amplitudes index.symm

/-! ## Each target with its ancilla -/

/-- Each qubit of a register with the one as far behind the register. -/
def ownPairs (numQubits : ℕ) : List (ℕ × ℕ) :=
  (List.range numQubits).map fun qubit => (qubit, numQubits + qubit)

theorem pairs_eq_ownPairs (numQubits : ℕ) :
    EquivalenceChecker.pairs numQubits =
      (ownPairs numQubits).map EquivalenceChecker.pairBehindProbe := by
  rw [EquivalenceChecker.pairs, ownPairs]
  rw [List.map_map]
  apply List.map_congr_left
  intro qubit _
  simp only [Function.comp_apply, EquivalenceChecker.pairBehindProbe, Prod.mk.injEq]
  omega

theorem ownPairs_fit (numQubits : ℕ) : PairsFit (numQubits + numQubits) (ownPairs numQubits) := by
  constructor
  · rw [pairedQubits, ownPairs]
    rw [List.flatMap_map, List.nodup_flatMap]
    constructor
    · intro qubit inside
      have bound := List.mem_range.1 inside
      simp only [List.nodup_cons, List.mem_singleton, List.not_mem_nil, not_false_eq_true,
        List.nodup_nil, and_true]
      omega
    · apply List.Pairwise.imp_of_mem _ List.nodup_range
      intro first second firstInside secondInside apart
      have firstBound := List.mem_range.1 firstInside
      have secondBound := List.mem_range.1 secondInside
      simp only [Function.onFun, List.disjoint_cons_left, List.mem_cons, List.not_mem_nil, or_false,
        List.disjoint_nil_left, and_true]
      omega
  · intro qubit member
    rcases mem_pairedQubits.1 member with ⟨pair, among, isOne⟩
    rcases List.mem_map.1 among with ⟨original, inside, rfl⟩
    have bound := List.mem_range.1 inside
    rcases isOne with rfl | rfl
    · exact Nat.lt_add_right numQubits bound
    · exact Nat.add_lt_add_left bound numQubits

/-- The targets and the ancillas agree exactly if they have the same value. -/
theorem arePaired_joined {numQubits high low : ℕ} (highInside : high < 2 ^ numQubits)
    (lowInside : low < 2 ^ numQubits) :
    ArePaired (ownPairs numQubits) (Basis.joined numQubits high low) ↔ low = high := by
  have target : ∀ qubit < numQubits,
      (Basis.joined numQubits high low).testBit qubit = low.testBit qubit := by
    intro qubit inside
    rw [Basis.testBit_joined, if_pos inside]
  have ancilla : ∀ qubit,
      (Basis.joined numQubits high low).testBit (numQubits + qubit) = high.testBit qubit := by
    intro qubit
    rw [Basis.testBit_joined, if_neg (by omega), Nat.add_sub_cancel_left]
  have listed : ∀ qubit < numQubits, (qubit, numQubits + qubit) ∈ ownPairs numQubits := by
    intro qubit inside
    exact List.mem_map.2 ⟨qubit, List.mem_range.2 inside, rfl⟩
  constructor
  · rintro ⟨-, agree⟩
    apply Nat.eq_of_testBit_eq
    intro qubit
    by_cases inside : qubit < numQubits
    · have same := agree _ (listed qubit inside)
      rwa [target qubit inside, ancilla qubit] at same
    · have power : 2 ^ numQubits ≤ 2 ^ qubit := Nat.pow_le_pow_right (by decide) (not_lt.1 inside)
      rw [Nat.testBit_lt_two_pow (lt_of_lt_of_le lowInside power),
        Nat.testBit_lt_two_pow (lt_of_lt_of_le highInside power)]
  · rintro rfl
    constructor
    · intro qubit one
      by_cases inside : qubit < numQubits
      · exact mem_pairedQubits.2 ⟨_, listed qubit inside, .inl rfl⟩
      · rw [Basis.testBit_joined, if_neg inside] at one
        have behind : qubit - numQubits < numQubits := by
          by_contra outside
          have power : 2 ^ numQubits ≤ 2 ^ (qubit - numQubits) :=
            Nat.pow_le_pow_right (by decide) (not_lt.1 outside)
          rw [Nat.testBit_lt_two_pow (lt_of_lt_of_le lowInside power)] at one
          cases one
        refine mem_pairedQubits.2 ⟨_, listed _ behind, .inr ?_⟩
        simp only
        omega
    · intro pair member
      rcases List.mem_map.1 member with ⟨qubit, inside, rfl⟩
      rw [target qubit (List.mem_range.1 inside), ancilla qubit]

/-- Each block of the entangled state is one basis state. -/
theorem block_of_isPaired {numQubits : ℕ} {amplitudes : ℕ → ℂ}
    (isPaired : IsPaired (ownPairs numQubits) amplitudes) (high : Fin (2 ^ numQubits)) :
    block numQubits high amplitudes = Pi.single high (evenWeight ^ numQubits) := by
  funext part
  have size : (ownPairs numQubits).length = numQubits := by simp [ownPairs]
  have paired := arePaired_joined high.isLt part.isLt
  rw [block]
  by_cases same : part = high
  · subst same
    rw [isPaired.weight _ (paired.2 rfl), size, Pi.single_eq_same]
  · have different : ¬ArePaired (ownPairs numQubits) (Basis.joined numQubits high part) :=
      fun isPaired => same (Fin.ext (paired.1 isPaired))
    rw [isPaired.elsewhere _ different, Pi.single_eq_of_ne same]

/-! ## The overlaps -/

section Overlaps

variable {numQubits : ℕ} {entries : List (TapeEntry ℝ)}
  {matrix : Matrix (Fin (2 ^ numQubits)) (Fin (2 ^ numQubits)) ℂ}

theorem evenWeight_pow_mul (count : ℕ) :
    star (evenWeight ^ count) * evenWeight ^ count = 1 / 2 ^ count := by
  have real : star evenWeight = evenWeight := conj_ofReal _
  rw [star_pow, real, ← mul_pow, evenWeight_mul_self, div_pow, one_pow]

/-- Between entangled pairs the overlap is a trace. -/
theorem overlap_of_isPaired (multiplies : Multiplies numQubits entries matrix) {amplitudes : ℕ → ℂ}
    (isPaired : IsPaired (ownPairs numQubits) amplitudes) :
    overlap (numQubits + numQubits) amplitudes (actAll [] entries amplitudes) =
      matrix.trace / 2 ^ numQubits := by
  have blockwise : ∀ high : Fin (2 ^ numQubits),
      star (block numQubits high amplitudes) ⬝ᵥ
          block numQubits high (actAll [] entries amplitudes) =
        matrix high high / 2 ^ numQubits := by
    intro high
    rw [multiplies, block_of_isPaired isPaired, ← Pi.single_star, single_dotProduct,
      Matrix.mulVec_single]
    have weights := evenWeight_pow_mul numQubits
    simp only [Pi.smul_apply, Matrix.col_apply, MulOpposite.smul_eq_mul_unop,
      MulOpposite.unop_op]
    rw [mul_comm _ (evenWeight ^ numQubits), ← mul_assoc, weights]
    ring
  rw [overlap_eq_sum_blocks]
  simp only [blockwise]
  rw [← Finset.sum_div]
  rfl

end Overlaps

end QuantumKata

end
