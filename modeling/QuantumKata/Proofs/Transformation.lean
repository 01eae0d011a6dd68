import Mathlib.LinearAlgebra.UnitaryGroup
import QuantumKata.Proofs.Branches
import QuantumKata.Proofs.Holding

/-!
# The matrix of an operation

The matrix of an operation has as its columns what running the operation makes of the basis states
of a register of its own.  For an operation that keeps to the qubits it is given, does not measure
or reset, has exactly unitary gates and completes, this matrix is unitary, and it says what the
operation does to the amplitudes of any register: each block of amplitudes over the qubits of the
operation is multiplied by the matrix.
-/

noncomputable section

namespace QuantumKata

open Complex Matrix

/-! ## Operations that act on their qubits -/

namespace Conduct

/-- The conduct of bodies that name no qubit of the register by its number, neither measure nor
reset, and have exactly unitary gates. -/
def confined : Conduct ℝ :=
  ⟨Gate.IsUnitary, fun reference => ∀ qubit, reference ≠ .absolute qubit, False⟩

theorem confined_reversible : confined.Reversible :=
  fun _ _ unitary built => Gate.adjoint_isUnitary unitary built

end Conduct

namespace Operation

/-- The state that running an operation on a register of its own leaves behind. -/
def resultOn (definitions : Definitions ℝ) (operation : Operation ℝ) (state : StateVector ℝ) :
    StateVector ℝ :=
  let engine := Engine.start (.holding state) .unrestricted [] definitions
  match (Engine.apply operation (ownQubits state.numQubits) engine).2.memory with
  | .holding last => last
  | .released _ => state

/-- The matrix of an operation: its columns are the states that the basis states become. -/
def matrix (definitions : Definitions ℝ) (numQubits : ℕ) (operation : Operation ℝ) :
    Matrix (Fin (2 ^ numQubits)) (Fin (2 ^ numQubits)) ℂ :=
  Matrix.of fun row column =>
    (operation.resultOn definitions (.basis numQubits column)).value row

/-- An operation that acts on a number of qubits by itself and completes on a register of them. -/
structure ActsOn (definitions : Definitions ℝ) (numQubits : ℕ) (operation : Operation ℝ) :
    Prop where
  arity : operation.numQubits = numQubits
  keeps : operation.Keeps .confined definitions
  completes : ∃ after, Engine.apply operation (ownQubits numQubits)
    (Engine.start (.holding (.zero numQubits)) .unrestricted [] definitions) = (.ok (), after)

/-- The gates that an operation issues on a register of its own. -/
structure Realizes (definitions : Definitions ℝ) (numQubits : ℕ) (entries : List (TapeEntry ℝ))
    (operation : Operation ℝ) : Prop where
  issued : (operation.course definitions (ownQubits numQubits) .unrestricted).Issues entries ()
  exact : ∀ entry ∈ entries, entry.IsExact
  fit : ∀ entry ∈ entries, entry.Fits numQubits []

variable {definitions : Definitions ℝ} {numQubits : ℕ} {operation : Operation ℝ}
  {entries : List (TapeEntry ℝ)}

theorem ActsOn.exists_gates (acts : operation.ActsOn definitions numQubits) :
    ∃ entries, operation.Realizes definitions numQubits entries := by
  have follows := course_follows Conduct.confined_reversible acts.keeps (ownQubits numQubits)
    .unrestricted
  have met : (operation.course definitions (ownQubits numQubits) .unrestricted).Meets
      TapeEntry.IsComplete False fun _ => True := follows.mono fun entry kept => kept.2
  rcases acts.completes with ⟨after, completes⟩
  rw [Engine.apply_eq] at completes
  rcases Course.issues_of_play met _ rfl rfl completes with ⟨entries, issued, -, fit⟩
  exact ⟨entries, issued, (follows.issued issued).1, fit⟩

/-- An operation whose gates fit a register of its own completes there. -/
theorem Realizes.actsOn (realizes : operation.Realizes definitions numQubits entries)
    (arity : operation.numQubits = numQubits) (keeps : operation.Keeps .confined definitions) :
    operation.ActsOn definitions numQubits := by
  have performs : Engine.Performs definitions numQubits
      (Engine.apply operation (ownQubits numQubits)) () entries :=
    Engine.performs_apply realizes.issued realizes.exact realizes.fit
  rcases performs.completes _ _ (Engine.holds_basis definitions (Nat.two_pow_pos numQubits)) with
    ⟨after, completes, -⟩
  exact ⟨arity, keeps, after, completes⟩

/-- Behind a probe an operation issues the same gates, each on the next qubit. -/
theorem Realizes.issued_behindProbe (realizes : operation.Realizes definitions numQubits entries)
    (keeps : operation.Keeps .confined definitions) :
    (operation.course definitions ((ownQubits numQubits).map (· + 1)) .unrestricted).Issues
      (behindProbe entries) () := by
  have moves : Conduct.confined.Admits (· + 1) :=
    Conduct.admits_of_offsets 1 fun _ relative => relative
  rw [course_map moves keeps]
  exact realizes.issued.relabel (· + 1) id

/-- The columns of the matrix are what the gates make of the basis states. -/
theorem Realizes.matrix_apply (realizes : operation.Realizes definitions numQubits entries)
    (row column : Fin (2 ^ numQubits)) :
    operation.matrix definitions numQubits row column =
      actAll [] entries (basisAmplitudes column) row := by
  have performs : Engine.Performs definitions numQubits
      (Engine.apply operation (ownQubits numQubits)) () entries :=
    Engine.performs_apply realizes.issued realizes.exact realizes.fit
  rcases performs.completes _ _ (Engine.holds_basis definitions column.isLt) with
    ⟨after, applied, holds⟩
  rcases holds.live with ⟨state, live, size, value⟩
  have result : operation.resultOn definitions (.basis numQubits column) = state := by
    rw [resultOn]
    have afterwards : (Engine.apply operation
        (ownQubits (StateVector.basis numQubits column : StateVector ℝ).numQubits)
        (Engine.start (.holding (.basis numQubits column)) .unrestricted [] definitions)).2.memory =
          .holding state := (congrArg (fun outcome => outcome.2.memory) applied).trans live
    simp only [afterwards]
  rw [matrix, Matrix.of_apply, result, value]

end Operation

/-! ## The matrix on the blocks of a register -/

/-- The amplitudes over the first qubits of a register, for fixed bits of the others. -/
def block (numQubits high : ℕ) (amplitudes : ℕ → ℂ) (part : Fin (2 ^ numQubits)) : ℂ :=
  amplitudes (Basis.joined numQubits high part)

/-- Gates that multiply each block by a matrix. -/
def Multiplies (numQubits : ℕ) (entries : List (TapeEntry ℝ))
    (matrix : Matrix (Fin (2 ^ numQubits)) (Fin (2 ^ numQubits)) ℂ) : Prop :=
  ∀ (high : ℕ) (amplitudes : ℕ → ℂ), block numQubits high (actAll [] entries amplitudes) =
    matrix *ᵥ block numQubits high amplitudes

theorem multiplies_nil (numQubits : ℕ) : Multiplies numQubits [] 1 := by
  intro high amplitudes
  rw [actAll_nil, Matrix.one_mulVec]

theorem Multiplies.append {numQubits : ℕ} {first second : List (TapeEntry ℝ)}
    {matrix other : Matrix (Fin (2 ^ numQubits)) (Fin (2 ^ numQubits)) ℂ}
    (multiplies : Multiplies numQubits first matrix)
    (further : Multiplies numQubits second other) :
    Multiplies numQubits (first ++ second) (other * matrix) := by
  intro high amplitudes
  rw [actAll_append, further, multiplies, Matrix.mulVec_mulVec]

namespace Operation

variable {definitions : Definitions ℝ} {numQubits : ℕ} {operation : Operation ℝ}
  {entries : List (TapeEntry ℝ)}

/-- The gates of an operation multiply each block by the matrix of the operation. -/
theorem Realizes.multiplies (realizes : operation.Realizes definitions numQubits entries) :
    Multiplies numQubits entries (operation.matrix definitions numQubits) := by
  intro high amplitudes
  funext row
  have expanded : ∀ index < Basis.count numQubits,
      amplitudes (Basis.joined numQubits high index) =
        (∑ column : Fin (2 ^ numQubits),
          block numQubits high amplitudes column • basisAmplitudes column) index := by
    intro index inRegister
    rw [Finset.sum_apply, Finset.sum_eq_single (⟨index, inRegister⟩ : Fin (2 ^ numQubits))]
    · simp [basisAmplitudes, block]
    · intro column _ apart
      have different : index ≠ column := fun same => apart (Fin.ext same.symm)
      simp [basisAmplitudes, different]
    · intro absent
      exact absurd (Finset.mem_univ _) absent
  calc
    actAll [] entries amplitudes (Basis.joined numQubits high row) =
        ∑ column : Fin (2 ^ numQubits), block numQubits high amplitudes column *
          actAll [] entries (basisAmplitudes column) row := by
      rw [actAll_joined realizes.fit, actAll_congr realizes.fit expanded row row.isLt, map_sum,
        Finset.sum_apply]
      simp only [map_smul, Pi.smul_apply, smul_eq_mul]
    _ = ∑ column : Fin (2 ^ numQubits), operation.matrix definitions numQubits row column *
          block numQubits high amplitudes column := by
      simp only [realizes.matrix_apply, mul_comm]

/-- The matrix of an operation is unitary. -/
theorem Realizes.matrix_unitary (realizes : operation.Realizes definitions numQubits entries) :
    (operation.matrix definitions numQubits)ᴴ * operation.matrix definitions numQubits = 1 := by
  ext row column
  have kept := overlap_actAll realizes.exact realizes.fit (basisAmplitudes row)
    (basisAmplitudes column)
  rw [overlap_basisAmplitudes row.isLt] at kept
  calc
    ((operation.matrix definitions numQubits)ᴴ * operation.matrix definitions numQubits) row column =
        ∑ middle : Fin (2 ^ numQubits), star (operation.matrix definitions numQubits middle row) *
          operation.matrix definitions numQubits middle column := by
      rw [Matrix.mul_apply]
      rfl
    _ = overlap numQubits (actAll [] entries (basisAmplitudes row))
          (actAll [] entries (basisAmplitudes column)) := by
      rw [overlap]
      rw [Finset.sum_range]
      simp only [realizes.matrix_apply]
      rfl
    _ = (1 : Matrix (Fin (2 ^ numQubits)) (Fin (2 ^ numQubits)) ℂ) row column := by
      rw [kept, basisAmplitudes, Matrix.one_apply]
      simp only [Fin.ext_iff]

/-- An operation whose matrix takes back the matrix of another one has its conjugate transpose. -/
theorem Realizes.matrix_eq_of_mul (realizes : operation.Realizes definitions numQubits entries)
    {inverse : Matrix (Fin (2 ^ numQubits)) (Fin (2 ^ numQubits)) ℂ}
    (takesBack : inverse * operation.matrix definitions numQubits = 1) :
    inverse = (operation.matrix definitions numQubits)ᴴ := by
  have right := mul_eq_one_comm.1 realizes.matrix_unitary
  calc
    inverse = inverse * (operation.matrix definitions numQubits *
        (operation.matrix definitions numQubits)ᴴ) := by rw [right, mul_one]
    _ = (operation.matrix definitions numQubits)ᴴ := by rw [← mul_assoc, takesBack, one_mul]

end Operation

end QuantumKata

end
