import Mathlib.LinearAlgebra.Matrix.IsDiag
import QuantumKata.Proofs.BasisInputs
import QuantumKata.Proofs.Comparison
import QuantumKata.Proofs.Diagnosing

/-!
# The search for a counterexample

The search runs reference and candidate on the basis inputs in order, and ends with the first one
whose outputs are not equal up to a phase.  Each run has a register of its own, and what comes out
of a run depends on the limit of the arena and on the definitions only, which no run changes.  So
the outputs may as well be taken at the bench from before the search, and the search finds the first
index at which they differ, if there is one.

Exactly computed, the outputs for an index are the columns of the two matrices, and their overlap is
an entry on the diagonal of the conjugate transpose of the one matrix times the other.  This product
is unitary.  An entry on its diagonal has magnitude one exactly if nothing else is in its column, so
with tolerance zero all outputs are equal up to a phase exactly if the product is diagonal, and then
the operations differ by the phases on the diagonal.
-/

noncomputable section

namespace QuantumKata

open Complex Matrix

namespace DiagnosticRunner

/-! ## The first input that tells two operations apart -/

section Search

variable {R : Type} [Scalar R] {runner : DiagnosticRunner R} {candidate reference : Operation R}
  {size : ℕ} {bench : Bench R} {expected actual : ℕ → Snapshot R}

/-- The outputs of reference and candidate for the basis inputs, which all complete. -/
structure Outputs (runner : DiagnosticRunner R) (candidate reference : Operation R) (size : ℕ)
    (bench : Bench R) (expected actual : ℕ → Snapshot R) : Prop where
  expects : ∀ index < Basis.count size, ∃ input,
    (runOn reference size none index .unrestricted bench).1 = .ok (input, expected index)
  acts : ∀ index < Basis.count size, ∃ input,
    (runOn candidate size none index runner.profile bench).1 = .ok (input, actual index)

/-- The outputs for a basis input are equal up to a phase within the tolerance. -/
def Agree (runner : DiagnosticRunner R) (expected actual : ℕ → Snapshot R) (index : ℕ) : Prop :=
  equalUpToPhase (expected index).amplitudes (actual index).amplitudes runner.tolerance = true

/-- What a search finds from an index on: nothing when all outputs agree, and otherwise the first
index at which they do not. -/
inductive FindsFirst (runner : DiagnosticRunner R) (size : ℕ) (expected actual : ℕ → Snapshot R)
    (start : ℕ) : Option (Counterexample R) → Prop where
  | nothing (agree : ∀ index, start ≤ index → index < Basis.count size →
      runner.Agree expected actual index) : FindsFirst runner size expected actual start none
  | first (index : ℕ) (from_ : start ≤ index) (inRegister : index < Basis.count size)
      (differ : ¬runner.Agree expected actual index)
      (before : ∀ earlier, start ≤ earlier → earlier < index →
        runner.Agree expected actual earlier) :
      FindsFirst runner size expected actual start (some ⟨.ofState (.basis size index),
        expected index, actual index, "basis input " ++ Snapshot.plainLabel size index⟩)

/-- What no run changes about a bench. -/
def outset (bench : Bench R) : SizeLimit × Definitions R := (bench.arena.limit, bench.definitions)

variable [Scalar.IsExactOnBits R]

/-- The runs for a basis input, at any bench like the one from before. -/
theorem Outputs.runs (outputs : runner.Outputs candidate reference size bench expected actual)
    {index : ℕ} (inRegister : index < Basis.count size) {other : Bench R}
    (like : outset other = outset bench) :
    ∃ between later input,
      runOn reference size none index .unrestricted other =
        (.ok (.ofState (.basis size index), expected index), between) ∧
      runOn candidate size none index runner.profile between =
        (.ok (input, actual index), later) ∧
      outset later = outset bench := by
  have expecting := isErrand_runOn reference size none index .unrestricted
  have acting := isErrand_runOn candidate size none index runner.profile
  rcases outputs.expects index inRegister with ⟨input, expects⟩
  rcases outputs.acts index inRegister with ⟨again, acts⟩
  have isInput := (completed_of_runOn inRegister expects).2.2.1
  rw [isInput] at expects
  rcases firstRun : runOn reference size none index .unrestricted other with ⟨outcome, between⟩
  have likeBetween : outset between = outset bench := by
    have kept := expecting.keeps other
    rw [firstRun] at kept
    exact kept.trans like
  have firstOutcome := (expecting.congr (congrArg Prod.fst like) (congrArg Prod.snd like)).1
  rw [firstRun, expects] at firstOutcome
  rcases secondRun : runOn candidate size none index runner.profile between with ⟨result, later⟩
  have likeLater : outset later = outset bench := by
    have kept := acting.keeps between
    rw [secondRun] at kept
    exact kept.trans likeBetween
  have secondOutcome :=
    (acting.congr (congrArg Prod.fst likeBetween) (congrArg Prod.snd likeBetween)).1
  rw [secondRun, acts] at secondOutcome
  cases firstOutcome
  cases secondOutcome
  exact ⟨between, later, again, rfl, secondRun, likeLater⟩

/-- One step of the search, at any bench like the one from before. -/
theorem searchFrom_succ (outputs : runner.Outputs candidate reference size bench expected actual)
    {index : ℕ} (inRegister : index < Basis.count size) {other : Bench R}
    (like : outset other = outset bench) (fuel : ℕ) :
    ∃ later, outset later = outset bench ∧
      (runner.Agree expected actual index →
        runner.searchFrom candidate reference size (fuel + 1) index other =
          runner.searchFrom candidate reference size fuel (index + 1) later) ∧
      (¬runner.Agree expected actual index →
        runner.searchFrom candidate reference size (fuel + 1) index other =
          (.ok (some ⟨.ofState (.basis size index), expected index, actual index,
            "basis input " ++ Snapshot.plainLabel size index⟩), later)) := by
  rcases outputs.runs inRegister like with ⟨between, later, input, expects, acts, likeLater⟩
  have stepped : runner.searchFrom candidate reference size (fuel + 1) index other =
      (if equalUpToPhase (expected index).amplitudes (actual index).amplitudes runner.tolerance
        then runner.searchFrom candidate reference size fuel (index + 1)
        else pure (some ⟨.ofState (.basis size index), expected index, actual index,
          "basis input " ++ Snapshot.plainLabel size index⟩)) later := by
    rw [searchFrom, Action.bind_of_ok expects]
    dsimp only
    rw [Action.bind_of_ok acts]
    rfl
  refine ⟨later, likeLater, fun agree => ?_, fun differ => ?_⟩
  · have equal : equalUpToPhase (expected index).amplitudes (actual index).amplitudes
        runner.tolerance = true := agree
    rw [stepped, equal]
    rfl
  · have apart : equalUpToPhase (expected index).amplitudes (actual index).amplitudes
        runner.tolerance = false := Bool.eq_false_of_not_eq_true differ
    rw [stepped, apart]
    rfl

/-- The comparison on all zeros completes as well. -/
theorem Outputs.compare (outputs : runner.Outputs candidate reference size bench expected actual) :
    ∃ later, runner.compare candidate reference size none bench =
        (.ok ⟨.ofState (.zero size), expected 0, actual 0, runner.tolerance⟩, later) ∧
      outset later = outset bench := by
  rcases outputs.runs (Nat.two_pow_pos size) rfl with
    ⟨between, later, input, expects, acts, likeLater⟩
  rw [Nat.cast_zero] at expects acts
  refine ⟨later, ?_, likeLater⟩
  rw [DiagnosticRunner.compare, Action.bind_of_ok expects]
  dsimp only
  rw [Action.bind_of_ok acts]
  rfl

/-- The search finds the first index at which the outputs differ. -/
theorem searchFrom_finds
    (outputs : runner.Outputs candidate reference size bench expected actual) (fuel : ℕ) :
    ∀ (index : ℕ) (other : Bench R), index + fuel = Basis.count size →
      outset other = outset bench →
      ∃ found later, runner.searchFrom candidate reference size fuel index other =
          (.ok found, later) ∧ FindsFirst runner size expected actual index found := by
  induction fuel with
  | zero =>
    intro index other allDone like
    refine ⟨none, other, rfl, .nothing fun later after inRegister => ?_⟩
    omega
  | succ fuel ih =>
    intro index other left like
    have inRegister : index < Basis.count size := by omega
    rcases searchFrom_succ outputs inRegister like fuel with ⟨later, likeLater, goesOn, ends⟩
    by_cases agree : runner.Agree expected actual index
    · rcases ih (index + 1) later (by omega) likeLater with ⟨found, last, searched, finds⟩
      refine ⟨found, last, (goesOn agree).trans searched, ?_⟩
      cases finds with
      | nothing agreeLater =>
        refine .nothing fun place start inside => ?_
        rcases start.eq_or_lt with rfl | after
        · exact agree
        · exact agreeLater place after inside
      | first place start inside differ before =>
        refine .first place (by omega) inside differ fun earlier begins ahead => ?_
        rcases begins.eq_or_lt with rfl | after
        · exact agree
        · exact before earlier after ahead
    · refine ⟨_, later, ends agree, ?_⟩
      exact .first index (le_refl _) inRegister agree fun earlier begins ahead => by omega

theorem findCounterexample_finds
    (outputs : runner.Outputs candidate reference size bench expected actual)
    (within : runner.searchLimit.isExceededBy size = .ok false) {other : Bench R}
    (like : outset other = outset bench) :
    ∃ found later, runner.findCounterexample candidate reference size other = (.ok found, later) ∧
      FindsFirst runner size expected actual 0 found := by
  have nonneg : ¬(size : Int) < 0 := by omega
  have searching : runner.findCounterexample candidate reference size other =
      runner.searchFrom candidate reference size (Basis.count size) 0 other := by
    rw [findCounterexample, within]
    simp only [Action.bind_apply, Action.ofExcept, Bool.false_eq_true, if_false, nonneg,
      Int.toNat_natCast]
  rw [searching]
  exact searchFrom_finds outputs _ 0 other (Nat.zero_add _) like

/-- A register on which the runs complete has qubits. -/
theorem Outputs.some_qubit
    (outputs : runner.Outputs candidate reference size bench expected actual) : 1 ≤ size := by
  rcases outputs.expects 0 (Nat.two_pow_pos size) with ⟨input, ran⟩
  exact (completed_of_runOn (Nat.two_pow_pos size) ran).1

end Search

end DiagnosticRunner

/-! ## Unitary matrices with a diagonal of magnitude one -/

section Diagonal

variable {size : Type} [Fintype size] [DecidableEq size] {matrix : Matrix size size ℂ}

/-- The squares of the magnitudes in a column of a unitary matrix sum to one. -/
theorem sum_sq_column (unitary : matrixᴴ * matrix = 1) (column : size) :
    ∑ row, ‖matrix row column‖ ^ 2 = 1 := by
  have entry := congrFun (congrFun unitary column) column
  rw [Matrix.mul_apply, Matrix.one_apply_eq] at entry
  have squares : ∀ row, matrixᴴ column row * matrix row column =
      ((‖matrix row column‖ ^ 2 : ℝ) : ℂ) := by
    intro row
    rw [Matrix.conjTranspose_apply, mul_comm]
    exact_mod_cast mul_conj' (matrix row column)
  simp only [squares] at entry
  exact_mod_cast entry

/-- The diagonal of a unitary diagonal matrix consists of phases. -/
theorem norm_eq_one_of_isDiag (unitary : matrixᴴ * matrix = 1) (diagonal : matrix.IsDiag)
    (index : size) : ‖matrix index index‖ = 1 := by
  have sum := sum_sq_column unitary index
  rw [Finset.sum_eq_single index] at sum
  · exact (pow_eq_one_iff_of_nonneg (norm_nonneg _) two_ne_zero).1 sum
  · intro row _ apart
    rw [diagonal apart, norm_zero, zero_pow two_ne_zero]
  · intro absent
    exact absurd (Finset.mem_univ _) absent

/-- A unitary matrix is diagonal exactly if no entry on its diagonal has a magnitude below one. -/
theorem isDiag_iff_of_unitary (unitary : matrixᴴ * matrix = 1) :
    matrix.IsDiag ↔ ∀ index, 1 ≤ ‖matrix index index‖ := by
  constructor
  · intro diagonal index
    exact (norm_eq_one_of_isDiag unitary diagonal index).ge
  · intro large row column apart
    have sum := sum_sq_column unitary column
    rw [← Finset.add_sum_erase _ _ (Finset.mem_univ column)] at sum
    have others : ∑ other ∈ Finset.univ.erase column, ‖matrix other column‖ ^ 2 = 0 := by
      have nonneg : 0 ≤ ∑ other ∈ Finset.univ.erase column, ‖matrix other column‖ ^ 2 :=
        Finset.sum_nonneg fun other _ => sq_nonneg _
      have square : 1 ≤ ‖matrix column column‖ ^ 2 := one_le_pow₀ (large column)
      linarith
    have entry := (Finset.sum_eq_zero_iff_of_nonneg fun other _ => sq_nonneg _).1 others row
      (Finset.mem_erase.2 ⟨apart, Finset.mem_univ _⟩)
    exact norm_eq_zero.1 ((pow_eq_zero_iff two_ne_zero).1 entry)

/-- Phases by which a matrix differs from another one are not all the same unless it is a multiple
of it. -/
theorem exists_ne_of_not_smul {left right : Matrix size size ℂ} {phase : size → ℂ} (first : size)
    (differ : left = right * Matrix.diagonal phase) (apart : ∀ factor : ℂ, left ≠ factor • right) :
    ∃ first second, phase first ≠ phase second := by
  by_contra same
  simp only [not_exists, not_not] at same
  have constant : phase = Function.const size (phase first) :=
    funext fun index => same index first
  apply apart (phase first)
  ext row column
  rw [differ, Matrix.mul_diagonal, constant, Matrix.smul_apply, smul_eq_mul, mul_comm]
  rfl

end Diagonal

namespace DiagnosticRunner

open Engine

/-! ## Exact outputs -/

instance : Scalar.IsExactOnBits ℝ where
  zero_add_zero := add_zero (0 : ℝ)
  zero_add_one := zero_add (1 : ℝ)
  one_add_zero := add_zero (1 : ℝ)
  zero_sub_zero := sub_zero (0 : ℝ)
  one_sub_zero := sub_zero (1 : ℝ)
  zero_mul_zero := mul_zero (0 : ℝ)
  zero_mul_one := mul_one (0 : ℝ)
  one_mul_zero := mul_zero (1 : ℝ)
  one_mul_one := mul_one (1 : ℝ)

section Exact

variable {runner : DiagnosticRunner ℝ} {candidate reference : Operation ℝ} {size : ℕ}
  {bench : Bench ℝ} {expected actual : ℕ → Snapshot ℝ} {definitions : Definitions ℝ}
  {entries gates forward : List (TapeEntry ℝ)}

/-- A run that performs gates on a basis input shows what the gates make of the basis state. -/
theorem output_of_performs {operation : Operation ℝ} {profile : TargetProfile} {index : ℕ}
    (inRegister : index < Basis.count size) (someQubit : 1 ≤ size)
    (roomy : bench.arena.limit.isExceededBy size = false) (known : bench.definitions = definitions)
    (applies : Performs definitions size
      (restrictedTo profile (Engine.apply operation (ownQubits size))) () entries) :
    ∃ output : StateVector ℝ,
      (runOn operation size none index profile bench).1 =
        .ok (.ofState (.basis size index), .ofState output) ∧
      output.numQubits = size ∧ output.value = actAll [] entries (basisAmplitudes index) := by
  rcases applies.completes _ _ (holds_basis definitions inRegister) with ⟨after, applied, holds⟩
  rcases holds.live with ⟨output, live, outputSize, outputValue⟩
  have some : (1 : Int) ≤ size := by exact_mod_cast someQubit
  have done : observed operation size profile (onBasis definitions size index) =
      (.ok (.ofState (.basis size index), .ofState output), after) := by
    have appliedHere : restrictedTo profile
        (Engine.apply operation ((List.range size).map Int.ofNat))
        (onBasis definitions size index) = (.ok (), after) := applied
    have before : (onBasis definitions size index).memory.snapshot =
        .ok (Snapshot.ofState (.basis size index)) := rfl
    rw [observed]
    simp only [Action.bind_apply, Action.inspect, Action.ofExcept, before, appliedHere,
      snapshot_of_live live]
    rfl
  have ran := (block_eq operation inRegister profile definitions).trans done
  refine ⟨output, ?_, outputSize, outputValue⟩
  rw [runOn_none_eq]
  rw [← known] at ran
  exact Bench.outcome_withRegister_of_live some roomy ran live

/-- The gates that an operation issues under a profile under which it completes. -/
theorem issues_of_run {operation : Operation ℝ} {profile : TargetProfile}
    (acts : operation.ActsOn bench.definitions size) {index : ℕ}
    (inRegister : index < Basis.count size) {input output : Snapshot ℝ}
    (ran : (runOn operation size none index profile bench).1 = .ok (input, output)) :
    ∃ entries, (operation.course bench.definitions (ownQubits size) profile).Issues entries () ∧
      operation.Realizes bench.definitions size entries := by
  rcases completed_of_runOn inRegister ran with ⟨-, -, -, after, applied⟩
  have follows := Operation.course_follows Conduct.confined_reversible acts.keeps (ownQubits size)
    profile
  have met : (operation.course bench.definitions (ownQubits size) profile).Meets
      TapeEntry.IsComplete False fun _ => True := follows.mono fun entry kept => kept.2
  rw [restrictedTo_apply] at applied
  rcases Course.issues_of_play met _ rfl rfl applied with ⟨entries, issued, -, -⟩
  rcases acts.exists_gates with ⟨gates, realizes⟩
  have cut := Operation.course_cutShort bench.definitions operation (ownQubits size) profile
  rcases (cut.issues issued).unique realizes.issued with ⟨rfl, -⟩
  exact ⟨entries, issued, realizes⟩

/-- The overlap of two columns is an entry of the conjugate transpose times the other matrix. -/
theorem overlap_columns (returns : reference.Realizes definitions size gates)
    (advances : candidate.Realizes definitions size forward) (first second : Fin (2 ^ size)) :
    overlap size (actAll [] gates (basisAmplitudes first))
        (actAll [] forward (basisAmplitudes second)) =
      ((reference.matrix definitions size)ᴴ * candidate.matrix definitions size) first second := by
  rw [Matrix.mul_apply, overlap, Finset.sum_range]
  simp only [Matrix.conjTranspose_apply, returns.matrix_apply, advances.matrix_apply]
  rfl

variable (referenceActs : reference.ActsOn bench.definitions size)
  (candidateActs : candidate.ActsOn bench.definitions size)

include referenceActs candidateActs

/-- The runs of operations without measurements complete on every basis input. -/
theorem exists_outputs (someQubit : 1 ≤ size)
    (roomy : bench.arena.limit.isExceededBy size = false)
    (letsThrough : ∃ entries,
      (candidate.course bench.definitions (ownQubits size) runner.profile).Issues entries ()) :
    ∃ expected actual, runner.Outputs candidate reference size bench expected actual := by
  rcases referenceActs.exists_gates with ⟨gates, returns⟩
  rcases candidateActs.exists_gates with ⟨forward, advances⟩
  rcases letsThrough with ⟨entries, issued⟩
  have cut := Operation.course_cutShort bench.definitions candidate (ownQubits size) runner.profile
  rcases (cut.issues issued).unique advances.issued with ⟨rfl, -⟩
  have expecting := (performs_apply returns.issued returns.exact returns.fit).restrictedTo
  have acting := performs_restrictedTo_apply issued advances.exact advances.fit
  have expects : ∀ index < Basis.count size, ∃ output : Snapshot ℝ, ∃ input,
      (runOn reference size none index .unrestricted bench).1 = .ok (input, output) := by
    intro index inRegister
    rcases output_of_performs inRegister someQubit roomy rfl expecting with ⟨output, ran, -, -⟩
    exact ⟨_, _, ran⟩
  have acts : ∀ index < Basis.count size, ∃ output : Snapshot ℝ, ∃ input,
      (runOn candidate size none index runner.profile bench).1 = .ok (input, output) := by
    intro index inRegister
    rcases output_of_performs inRegister someQubit roomy rfl acting with ⟨output, ran, -, -⟩
    exact ⟨_, _, ran⟩
  have : Nonempty (Snapshot ℝ) := ⟨.ofState (.zero size)⟩
  choose! expected expects using expects
  choose! actual acts using acts
  exact ⟨expected, actual, expects, acts⟩

theorem unitary_mul_of_actsOn :
    ((reference.matrix bench.definitions size)ᴴ * candidate.matrix bench.definitions size)ᴴ *
      ((reference.matrix bench.definitions size)ᴴ * candidate.matrix bench.definitions size) =
        1 := by
  rcases referenceActs.exists_gates with ⟨gates, returns⟩
  rcases candidateActs.exists_gates with ⟨forward, advances⟩
  have right := mul_eq_one_comm.1 returns.matrix_unitary
  rw [conjTranspose_mul, conjTranspose_conjTranspose, Matrix.mul_assoc,
    ← Matrix.mul_assoc (reference.matrix bench.definitions size), right, Matrix.one_mul,
    advances.matrix_unitary]

/-- Operations whose matrices differ by a diagonal one differ by a phase for each basis state. -/
theorem exists_phases_of_isDiag
    (diagonal : ((reference.matrix bench.definitions size)ᴴ *
      candidate.matrix bench.definitions size).IsDiag) :
    ∃ phase : Fin (2 ^ size) → ℂ, (∀ index, ‖phase index‖ = 1) ∧
      candidate.matrix bench.definitions size =
        reference.matrix bench.definitions size * Matrix.diagonal phase := by
  rcases referenceActs.exists_gates with ⟨gates, returns⟩
  have right := mul_eq_one_comm.1 returns.matrix_unitary
  refine ⟨Matrix.diag ((reference.matrix bench.definitions size)ᴴ *
    candidate.matrix bench.definitions size), ?_, ?_⟩
  · intro index
    rw [Matrix.diag_apply]
    exact norm_eq_one_of_isDiag (unitary_mul_of_actsOn referenceActs candidateActs) diagonal index
  · rw [diagonal.diagonal_diag, ← Matrix.mul_assoc, right, Matrix.one_mul]

variable (outputs : runner.Outputs candidate reference size bench expected actual)

include outputs

/-- The outputs for an index are equal up to a phase when the entry on the diagonal is near one in
magnitude. -/
theorem agree_iff (index : Fin (2 ^ size)) :
    runner.Agree expected actual index ↔
      1 - ‖((reference.matrix bench.definitions size)ᴴ *
        candidate.matrix bench.definitions size) index index‖ ≤ runner.tolerance := by
  have inRegister : (index : ℕ) < Basis.count size := index.isLt
  rcases outputs.expects index inRegister with ⟨input, expects⟩
  rcases outputs.acts index inRegister with ⟨again, acts⟩
  rcases completed_of_runOn inRegister expects with ⟨someQubit, roomy, -, -⟩
  rcases issues_of_run referenceActs inRegister expects with ⟨gates, expecting, returns⟩
  rcases issues_of_run candidateActs inRegister acts with ⟨forward, acting, advances⟩
  have returning := performs_restrictedTo_apply expecting returns.exact returns.fit
  have advancing := performs_restrictedTo_apply acting advances.exact advances.fit
  rcases output_of_performs inRegister someQubit roomy rfl returning with
    ⟨left, leftRan, leftSize, leftValue⟩
  rcases output_of_performs inRegister someQubit roomy rfl advancing with
    ⟨right, rightRan, rightSize, rightValue⟩
  have isLeft : expected index = .ofState left := by
    rw [expects] at leftRan
    exact congrArg Prod.snd (Except.ok.inj leftRan)
  have isRight : actual index = .ofState right := by
    rw [acts] at rightRan
    exact congrArg Prod.snd (Except.ok.inj rightRan)
  have normal : overlap size (basisAmplitudes index) (basisAmplitudes index) = 1 :=
    (holds_basis bench.definitions inRegister).normal
  have leftNormal := (overlap_actAll returns.exact returns.fit _ _).trans normal
  have rightNormal := (overlap_actAll advances.exact advances.fit _ _).trans normal
  rw [← leftValue] at leftNormal
  rw [← rightValue] at rightNormal
  have compared := StateVector.equalUpToPhase_iff leftSize rightSize leftNormal rightNormal
    runner.tolerance
  rw [leftValue, rightValue, overlap_columns returns advances] at compared
  rw [Agree, isLeft, isRight]
  exact compared

/-- With tolerance zero all outputs are equal up to a phase exactly if one matrix takes the other
one to a diagonal matrix. -/
theorem agree_all_iff (exact : runner.tolerance = 0) :
    (∀ index < Basis.count size, runner.Agree expected actual index) ↔
      ((reference.matrix bench.definitions size)ᴴ *
        candidate.matrix bench.definitions size).IsDiag := by
  rw [isDiag_iff_of_unitary (unitary_mul_of_actsOn referenceActs candidateActs)]
  have entries : ∀ index : Fin (2 ^ size), runner.Agree expected actual index ↔
      1 ≤ ‖((reference.matrix bench.definitions size)ᴴ *
        candidate.matrix bench.definitions size) index index‖ := by
    intro index
    rw [agree_iff referenceActs candidateActs outputs index, exact, sub_nonpos]
  constructor
  · intro agree index
    exact (entries index).1 (agree index index.isLt)
  · intro large index inRegister
    exact (entries ⟨index, inRegister⟩).2 (large ⟨index, inRegister⟩)

end Exact

/-! ## What the search decides -/

/-- A counterexample shows the first index at which the outputs are not equal up to a phase. -/
structure Shows {R : Type} [Scalar R] (runner : DiagnosticRunner R) (size : ℕ)
    (expected actual : ℕ → Snapshot R) (index : ℕ) (found : Counterexample R) : Prop where
  inRegister : index < Basis.count size
  differ : ¬runner.Agree expected actual index
  before : ∀ earlier < index, runner.Agree expected actual earlier
  inputSize : found.input.amplitudes.size = Basis.count size
  input : ∀ position < Basis.count size,
    found.input.amplitudes[position]? = some (if position = index then 1 else 0)
  expects : found.expected = expected index
  acts : found.actual = actual index
  description : ∃ characters : List Char,
    found.description = "basis input |" ++ String.ofList characters ++ "⟩" ∧
    characters.length = size ∧ ∀ qubit < size,
      characters.reverse[qubit]? = some (Snapshot.bitCharacter (index.testBit qubit))

theorem FindsFirst.eq_none_iff {R : Type} [Scalar R] {runner : DiagnosticRunner R} {size : ℕ}
    {expected actual : ℕ → Snapshot R} {found : Option (Counterexample R)}
    (finds : FindsFirst runner size expected actual 0 found) :
    found = none ↔ ∀ index < Basis.count size, runner.Agree expected actual index := by
  cases finds with
  | nothing agree =>
    exact iff_of_true rfl fun index inRegister => agree index index.zero_le inRegister
  | first index from_ inRegister differ before =>
    exact iff_of_false nofun fun agree => differ (agree index inRegister)

theorem FindsFirst.shows {R : Type} [Scalar R] {runner : DiagnosticRunner R} {size : ℕ}
    {expected actual : ℕ → Snapshot R} {found : Counterexample R} (someQubit : 1 ≤ size)
    (finds : FindsFirst runner size expected actual 0 (some found)) :
    ∃ index, runner.Shows size expected actual index found := by
  rcases finds with - | ⟨index, from_, inRegister, differ, before⟩
  rcases Snapshot.bitsText_eq someQubit inRegister with ⟨characters, bits, length, places⟩
  refine ⟨index, inRegister, differ, fun earlier ahead => before earlier earlier.zero_le ahead, ?_,
    fun position inside => ?_, rfl, rfl, characters, ?_, length, places⟩
  · exact Array.size_ofFn
  · have stored : (StateVector.basis size index : StateVector R).amplitudes.toArray[position]? =
        some (if position = index then 1 else 0) := by
      rw [Vector.getElem?_toArray]
      exact (Vector.getElem?_ofFn ..).trans (dif_pos inside)
    exact stored
  · have opening : "basis input " ++ "|" = "basis input |" := by decide +kernel
    change "basis input " ++ Snapshot.plainLabel size index = _
    rw [Snapshot.plainLabel_eq someQubit, bits, ← String.append_assoc, ← String.append_assoc,
      opening]

section

variable {R : Type} [Scalar R] [Scalar.IsExactOnBits R] {runner : DiagnosticRunner R}
  {candidate reference : Operation R} {size : ℕ} {bench : Bench R}
  {expected actual : ℕ → Snapshot R}
  (outputs : runner.Outputs candidate reference size bench expected actual)

include outputs

/-- The note about relative phases is given only where the outputs for all basis inputs are equal up
to a phase. -/
theorem agree_of_noted {diagnosis : Diagnosis R} {later : Bench R}
    (diagnosed : runner.diagnose candidate reference size none bench = (.ok diagnosis, later))
    (noted : Diagnosis.relativePhaseNote ∈ diagnosis.notes) :
    ∀ index < Basis.count size, runner.Agree expected actual index := by
  rcases search_of_noted (congrArg Prod.fst diagnosed) noted with ⟨-, within, nothing⟩
  have like := (isErrand_compare runner candidate reference size none).keeps bench
  rcases findCounterexample_finds outputs (SearchLimit.isExceededBy_of_reaches within) like with
    ⟨found, last, searched, finds⟩
  rw [searched] at nothing
  cases nothing
  exact finds.eq_none_iff.1 rfl

/-- Where the outputs for all basis inputs are equal up to a phase, the note is given. -/
theorem noted_of_agree (within : runner.searchLimit.reaches size = .ok true)
    (agree : ∀ index < Basis.count size, runner.Agree expected actual index) :
    ∃ diagnosis later,
      runner.diagnose candidate reference size none bench = (.ok diagnosis, later) ∧
      Diagnosis.relativePhaseNote ∈ diagnosis.notes := by
  rcases outputs.compare with ⟨between, compared, like⟩
  rcases findCounterexample_finds outputs (SearchLimit.isExceededBy_of_reaches within) like with
    ⟨found, later, searched, finds⟩
  cases finds.eq_none_iff.2 agree
  have clean : runner.gathered candidate reference size bench =
      ⟨some ⟨.ofState (.zero size), expected 0, actual 0, runner.tolerance⟩, none, []⟩ := by
    simp only [gathered, compared, searched, ofComparison, withSearch]
  have diagnosed : (runner.diagnose candidate reference size none bench).1 =
      .ok ⟨some ⟨.ofState (.zero size), expected 0, actual 0, runner.tolerance⟩, none,
        [Diagnosis.relativePhaseNote]⟩ := by
    rw [diagnose_of_none, within, clean]
    rfl
  exact ⟨_, _, Prod.ext diagnosed rfl, List.mem_singleton_self _⟩

end

/-- The search finds the first basis input for which the outputs are not equal up to a phase, and
nothing exactly if there is none.  Exactly computed and with tolerance zero, it finds nothing if and
only if the operations differ by a diagonal matrix, and the note about relative phases is given only
then: an operation that is not the other one up to a phase on the whole differs from it by phases
that are not all the same. -/
theorem search_decides :
    (∀ {R : Type} [Scalar R] [Scalar.IsExactOnBits R] (runner : DiagnosticRunner R)
      (candidate reference : Operation R) (size : ℕ) (bench : Bench R)
      (expected actual : ℕ → Snapshot R),
      runner.Outputs candidate reference size bench expected actual →
      (runner.searchLimit.isExceededBy size = .ok false →
        ∃ found later,
          runner.findCounterexample candidate reference size bench = (.ok found, later) ∧
          (found = none ↔ ∀ index < Basis.count size, runner.Agree expected actual index) ∧
          ∀ counterexample, found = some counterexample →
            ∃ index, runner.Shows size expected actual index counterexample) ∧
      ∀ diagnosis later,
        runner.diagnose candidate reference size none bench = (.ok diagnosis, later) →
        Diagnosis.relativePhaseNote ∈ diagnosis.notes →
        ∀ index < Basis.count size, runner.Agree expected actual index) ∧
    ∀ (runner : DiagnosticRunner ℝ) (candidate reference : Operation ℝ) (size : ℕ)
      (bench : Bench ℝ) (expected actual : ℕ → Snapshot ℝ),
      runner.Outputs candidate reference size bench expected actual →
      runner.tolerance = 0 →
      reference.ActsOn bench.definitions size → candidate.ActsOn bench.definitions size →
      (runner.searchLimit.isExceededBy size = .ok false →
        ((runner.findCounterexample candidate reference size bench).1 = .ok none ↔
          ((reference.matrix bench.definitions size)ᴴ *
            candidate.matrix bench.definitions size).IsDiag)) ∧
      ∀ diagnosis later,
        runner.diagnose candidate reference size none bench = (.ok diagnosis, later) →
        Diagnosis.relativePhaseNote ∈ diagnosis.notes →
        ∃ phase : Fin (2 ^ size) → ℂ, (∀ index, ‖phase index‖ = 1) ∧
          candidate.matrix bench.definitions size =
            reference.matrix bench.definitions size * Matrix.diagonal phase ∧
          ((∀ factor : ℂ, candidate.matrix bench.definitions size ≠
              factor • reference.matrix bench.definitions size) →
            ∃ first second, phase first ≠ phase second) := by
  refine ⟨?_, ?_⟩
  · intro R _ _ runner candidate reference size bench expected actual outputs
    refine ⟨fun within => ?_, fun diagnosis later => agree_of_noted outputs⟩
    rcases findCounterexample_finds outputs within rfl with ⟨found, later, searched, finds⟩
    refine ⟨found, later, searched, finds.eq_none_iff, ?_⟩
    rintro counterexample rfl
    exact finds.shows outputs.some_qubit
  · intro runner candidate reference size bench expected actual outputs exact referenceActs
      candidateActs
    have decides := agree_all_iff referenceActs candidateActs outputs exact
    refine ⟨fun within => ?_, fun diagnosis later diagnosed noted => ?_⟩
    · rcases findCounterexample_finds outputs within rfl with ⟨found, later, searched, finds⟩
      rw [searched, ← decides, ← finds.eq_none_iff, Except.ok.injEq]
    · have diagonal := decides.1 (agree_of_noted outputs diagnosed noted)
      rcases exists_phases_of_isDiag referenceActs candidateActs diagonal with
        ⟨phase, unit, differ⟩
      exact ⟨phase, unit, differ, exists_ne_of_not_smul ⟨0, Nat.two_pow_pos size⟩ differ⟩

open EquivalenceChecker

/-- The gate that turns the phase of the basis state in which the qubit reads one. -/
def phaseFlip : Operation ℝ := .gate (.fixed .z) "Z"

theorem phaseFlip_realizes : phaseFlip.Realizes {} 1 [⟨.fixed .z, [0], []⟩] := by
  constructor
  case issued => exact .issue (.done ())
  case exact =>
    exact List.forall_mem_singleton.2 (isExact_single (Gate.isUnitary_fixed .z) rfl 0 [])
  case fit =>
    have fits : QubitsFit 1 [0] := by decide
    exact List.forall_mem_singleton.2 fits

theorem phaseFlip_acts : phaseFlip.ActsOn {} 1 :=
  phaseFlip_realizes.actsOn rfl (Gate.isUnitary_fixed .z)

theorem matrix_phaseFlip (row column : Fin (2 ^ 1)) :
    phaseFlip.matrix {} 1 row column =
      if row = column then if row = 0 then 1 else -1 else 0 := by
  have acted := @TapeEntry.act_single (.fixed .z) rfl 0 [] (basisAmplitudes column) row
  have first : ∀ bit : Bool, ((Gate.fixed .z : Gate ℝ).matrix.entry bit.toNat 0).toComplex =
      if bit then 0 else 1 := by
    intro bit
    cases bit <;> rfl
  have second : ∀ bit : Bool, ((Gate.fixed .z : Gate ℝ).matrix.entry bit.toNat 1).toComplex =
      if bit then -1 else 0 := by
    intro bit
    cases bit with
    | false => rfl
    | true => exact (Amplitude.toComplex_neg 1).trans (congrArg Neg.neg Amplitude.toComplex_one)
  rw [first, second] at acted
  rw [phaseFlip_realizes.matrix_apply]
  refine Eq.trans acted ?_
  fin_cases row <;> fin_cases column <;>
    simp [Basis.allOne, Basis.setBit, basisAmplitudes]

/-- A runner of diagnoses without tolerance. -/
def exactRunner : DiagnosticRunner ℝ := ⟨.unrestricted, 0, .standard⟩

/-- No basis input tells a phase flip from doing nothing, and the note is true of the two: the
phases by which they differ are not the same.  A flip is told from doing nothing. -/
theorem search_decides_of_phaseFlip :
    let bench : Bench ℝ := .ofLimit .standard {}
    (∃ diagnosis later,
      exactRunner.diagnose phaseFlip idle (1 : ℕ) none bench = (.ok diagnosis, later) ∧
      Diagnosis.relativePhaseNote ∈ diagnosis.notes ∧
      ∃ phase : Fin (2 ^ 1) → ℂ, (∀ index, ‖phase index‖ = 1) ∧
        phaseFlip.matrix {} 1 = idle.matrix {} 1 * Matrix.diagonal phase ∧
        ∃ first second, phase first ≠ phase second) ∧
    ∃ expected actual counterexample later,
      exactRunner.findCounterexample (Engine.flip ℝ) idle (1 : ℕ) bench =
        (.ok (some counterexample), later) ∧
      ∃ index, exactRunner.Shows 1 expected actual index counterexample := by
  intro bench
  have same : (idle.matrix {} 1)ᴴ = 1 := by
    rw [matrix_idle, conjTranspose_one]
  have roomy : bench.arena.limit.isExceededBy (1 : ℕ) = false := rfl
  constructor
  · have letsThrough : ∃ entries,
        (phaseFlip.course bench.definitions (ownQubits 1) exactRunner.profile).Issues entries () :=
      ⟨_, phaseFlip_realizes.issued⟩
    rcases exists_outputs idle_acts phaseFlip_acts (le_refl 1) roomy letsThrough with
      ⟨expected, actual, outputs⟩
    have diagonal : ((idle.matrix {} 1)ᴴ * phaseFlip.matrix {} 1).IsDiag := by
      intro row column apart
      rw [same, Matrix.one_mul, matrix_phaseFlip, if_neg apart]
    have agree := (agree_all_iff idle_acts phaseFlip_acts outputs rfl).2 diagonal
    rcases noted_of_agree outputs rfl agree with ⟨diagnosis, later, diagnosed, noted⟩
    have decides := search_decides.2 exactRunner phaseFlip idle 1 bench expected actual outputs rfl
      idle_acts phaseFlip_acts
    rcases decides.2 diagnosis later diagnosed noted with ⟨phase, unit, differ, apart⟩
    refine ⟨diagnosis, later, diagnosed, noted, phase, unit, differ, ?_⟩
    refine apart fun factor multiple => ?_
    have entry : ∀ index : Fin (2 ^ 1), (if index = 0 then 1 else -1 : ℂ) = factor := by
      intro index
      have entries : phaseFlip.matrix {} 1 index index = (factor • idle.matrix {} 1) index index :=
        congrFun (congrFun multiple index) index
      rwa [matrix_phaseFlip, if_pos rfl, matrix_idle, Matrix.smul_apply, Matrix.one_apply_eq,
        smul_eq_mul, mul_one] at entries
    have turned := (entry 0).trans (entry 1).symm
    norm_num at turned
  · have letsThrough : ∃ entries, ((Engine.flip ℝ).course bench.definitions (ownQubits 1)
        exactRunner.profile).Issues entries () := ⟨_, flip_realizes.issued⟩
    rcases exists_outputs idle_acts flip_acts (le_refl 1) roomy letsThrough with
      ⟨expected, actual, outputs⟩
    have decides := search_decides.2 exactRunner (Engine.flip ℝ) idle 1 bench expected actual
      outputs rfl idle_acts flip_acts
    rcases (search_decides.1 exactRunner (Engine.flip ℝ) idle 1 bench expected actual outputs).1 rfl
      with ⟨found, later, searched, -, shows⟩
    cases found with
    | none =>
      have diagonal := (decides.1 rfl).1 (congrArg Prod.fst searched)
      have entry : ((idle.matrix {} 1)ᴴ * (Engine.flip ℝ).matrix {} 1) 0 1 = 0 :=
        diagonal (by decide)
      rw [same, Matrix.one_mul, matrix_flip, if_neg (by decide)] at entry
      exact absurd entry one_ne_zero
    | some counterexample =>
      exact ⟨expected, actual, counterexample, later, searched, shows _ rfl⟩

end DiagnosticRunner

end QuantumKata

end
