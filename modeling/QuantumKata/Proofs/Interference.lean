import Mathlib.Analysis.SpecialFunctions.Complex.Log
import QuantumKata.Proofs.Checking
import QuantumKata.Proofs.SingleQubit

/-!
# The interference of the branches

A trial puts the probe into a superposition, lets the operations act on one branch only, and brings
the branches together again.  At zero two numbers are left, one on each branch.  Unless the
tolerance is too large for them, the angle between them is read off as the phase between the
branches and taken off.  The trial accepts when the square of the magnitude of their mean is within
the tolerance of one.

Where the angle has been taken off, this is the mean of the two magnitudes.  For tolerances of at
most a quarter the magnitudes always decide: where the angle is not read, the trial rejects whatever
the angle is.
-/

noncomputable section

namespace QuantumKata

open Complex

/-! ## The branches at the start -/

theorem branch_false_origin : branch false origin = origin := by
  funext part
  simp [branch, basisAmplitudes, Nat.bit_val]

theorem branch_true_origin : branch true origin = 0 := by
  funext part
  simp [branch, basisAmplitudes, Nat.bit_val]

/-! ## The mean of one and the magnitude -/

theorem norm_evenWeight_mul_self : ‖evenWeight‖ * ‖evenWeight‖ = 1 / 2 := by
  rw [← norm_mul, evenWeight_mul_self]
  norm_num

theorem evenWeight_ne_zero : evenWeight ≠ 0 := by
  intro zero
  have half := evenWeight_mul_self
  rw [zero, mul_zero] at half
  norm_num at half

/-- Taking the angle off a complex number leaves its magnitude. -/
theorem exp_neg_arg_mul (number : ℂ) :
    exp (((-arg number : ℝ) : ℂ) * I) * number = ‖number‖ := by
  have polar := norm_mul_exp_arg_mul_I number
  have inverse : exp (((-arg number : ℝ) : ℂ) * I) * exp (arg number * I) = 1 := by
    rw [← exp_add, ofReal_neg, neg_mul, neg_add_cancel, exp_zero]
  calc
    exp (((-arg number : ℝ) : ℂ) * I) * number =
        exp (((-arg number : ℝ) : ℂ) * I) * (‖number‖ * exp (arg number * I)) := by rw [polar]
    _ = ‖number‖ * (exp (((-arg number : ℝ) : ℂ) * I) * exp (arg number * I)) := by ring
    _ = ‖number‖ := by rw [inverse, mul_one]

/-- What an amplitude has to be larger than for its angle to be read. -/
theorem sqrt_lt_evenWeight_mul {tolerance size : ℝ} (positive : 0 < tolerance) (nonneg : 0 ≤ size) :
    √tolerance < ‖evenWeight‖ * size ↔ 2 * tolerance < size ^ 2 := by
  have square : (‖evenWeight‖ * size) ^ 2 = size ^ 2 / 2 := by
    rw [mul_pow, sq, norm_evenWeight_mul_self]
    ring
  rw [Real.sqrt_lt positive.le (mul_nonneg (norm_nonneg _) nonneg), square]
  constructor
  · intro below
    linarith
  · intro below
    linarith

/-! ## What is read and what is accepted -/

/-- Where one of two magnitudes is small, the square of their mean is far from one. -/
theorem far_of_small {tolerance small large : ℝ} (quarter : tolerance ≤ 1 / 4)
    (nonneg : 0 ≤ small) (squared : small ^ 2 ≤ 2 * tolerance) (alsoNonneg : 0 ≤ large)
    (bounded : large ≤ 1) (positive : 0 < tolerance) :
    ((small + large) / 2) ^ 2 < 1 - tolerance := by
  have below : small ≤ 3 / 4 := by nlinarith
  have whole : (small + large) / 2 ≤ (1 + small) / 2 := by linarith
  have far : ((1 + small) / 2) ^ 2 < 1 - tolerance := by nlinarith
  exact (pow_le_pow_left₀ (by positivity) whole 2).trans_lt far

namespace EquivalenceChecker

open Engine

/-- The tolerance is small enough for the angle between two numbers to be read. -/
structure ReadsPhase (tolerance : ℝ) (low high : ℂ) : Prop where
  onLow : 2 * tolerance < ‖low‖ ^ 2
  onHigh : 2 * tolerance < ‖high‖ ^ 2

instance (tolerance : ℝ) (low high : ℂ) : Decidable (ReadsPhase tolerance low high) :=
  Classical.propDecidable _

/-- The phase that is read off. -/
def phaseRead (tolerance : ℝ) (low high : ℂ) : Option ℝ :=
  if ReadsPhase tolerance low high then some (arg (high / low)) else none

/-- The number on the second branch after the angle has been taken off, if it has been read. -/
def aligned (tolerance : ℝ) (low high : ℂ) : ℂ :=
  if ReadsPhase tolerance low high then exp (((-arg (high / low) : ℝ) : ℂ) * I) * high else high

/-- What is left at zero when the branches are brought together is within the tolerance of one. -/
def Accepts (tolerance : ℝ) (low high : ℂ) : Prop :=
  1 - tolerance ≤
    normSq (evenWeight * (evenWeight * low + evenWeight * aligned tolerance low high))

section

variable {tolerance : ℝ} {low high : ℂ}

theorem readsPhase_iff : ReadsPhase tolerance low high ↔
    2 * tolerance < ‖low‖ ^ 2 ∧ 2 * tolerance < ‖high‖ ^ 2 :=
  ⟨fun reads => ⟨reads.onLow, reads.onHigh⟩, fun both => ⟨both.1, both.2⟩⟩

/-- When the branches are brought together, the amplitude at zero is the mean. -/
theorem accepts_iff : Accepts tolerance low high ↔
    1 - tolerance ≤ ‖(low + aligned tolerance low high) / 2‖ ^ 2 := by
  have mean : evenWeight * (evenWeight * low + evenWeight * aligned tolerance low high) =
      (low + aligned tolerance low high) / 2 := by
    linear_combination (low + aligned tolerance low high) * evenWeight_mul_self
  rw [Accepts, mean, normSq_eq_norm_sq]

theorem norm_aligned : ‖aligned tolerance low high‖ = ‖high‖ := by
  rw [aligned]
  split
  · rw [norm_mul, norm_exp_ofReal_mul_I, one_mul]
  · rfl

theorem norm_half_add_le (first second : ℂ) :
    ‖(first + second) / 2‖ ≤ (‖first‖ + ‖second‖) / 2 := by
  rw [norm_div, RCLike.norm_ofNat]
  exact div_le_div_of_nonneg_right (norm_add_le first second) two_pos.le

/-- Whether the angle has been read or not, what is accepted is accepted by the magnitudes. -/
theorem Accepts.magnitude (accepted : Accepts tolerance low high) :
    1 - tolerance ≤ ((‖low‖ + ‖high‖) / 2) ^ 2 := by
  have bound := norm_half_add_le low (aligned tolerance low high)
  rw [norm_aligned] at bound
  exact (accepts_iff.1 accepted).trans (pow_le_pow_left₀ (norm_nonneg _) bound 2)

variable (positive : 0 < tolerance)

include positive

/-- Where the angle is taken off, the numbers have the same direction. -/
theorem norm_half_add_aligned (read : ReadsPhase tolerance low high) :
    ‖(low + aligned tolerance low high) / 2‖ = (‖low‖ + ‖high‖) / 2 := by
  have large : 0 < ‖low‖ ^ 2 := by linarith [read.onLow]
  have nonzero : low ≠ 0 := by
    rintro rfl
    rw [norm_zero] at large
    norm_num at large
  have direction : aligned tolerance low high = low * (‖high / low‖ : ℂ) := by
    rw [aligned, if_pos read, ← exp_neg_arg_mul (high / low), mul_left_comm,
      mul_div_cancel₀ _ nonzero]
  have product : low + aligned tolerance low high = low * ((1 + ‖high / low‖ : ℝ) : ℂ) := by
    rw [direction]
    push_cast
    ring
  have quotient : ‖low‖ * (‖high‖ / ‖low‖) = ‖high‖ :=
    mul_div_cancel₀ _ (norm_ne_zero_iff.2 nonzero)
  rw [product, norm_div, norm_mul, norm_real, Real.norm_of_nonneg (by positivity),
    RCLike.norm_ofNat, norm_div, mul_add, mul_one, quotient]

theorem accepts_iff_of_read (read : ReadsPhase tolerance low high) :
    Accepts tolerance low high ↔ 1 - tolerance ≤ ((‖low‖ + ‖high‖) / 2) ^ 2 := by
  rw [accepts_iff, norm_half_add_aligned positive read]

variable (quarter : tolerance ≤ 1 / 4)

include quarter

/-- Numbers between which the angle is not read are far from acceptance, whatever the angle is. -/
theorem far_of_unread (unread : ¬ReadsPhase tolerance low high) (lowBound : ‖low‖ ≤ 1)
    (highBound : ‖high‖ ≤ 1) : ((‖low‖ + ‖high‖) / 2) ^ 2 < 1 - tolerance := by
  rw [readsPhase_iff, not_and_or] at unread
  rcases unread with small | small
  · exact far_of_small quarter (norm_nonneg _) (not_lt.1 small) (norm_nonneg _) highBound positive
  · rw [add_comm]
    exact far_of_small quarter (norm_nonneg _) (not_lt.1 small) (norm_nonneg _) lowBound positive

/-- On the first branch nothing is lost where the preparation has been undone. -/
theorem far_of_unread_one (unread : ¬ReadsPhase tolerance 1 high) :
    ((1 + ‖high‖) / 2) ^ 2 < 1 - tolerance := by
  have small : ‖high‖ ^ 2 ≤ 2 * tolerance := by
    refine not_lt.1 fun large => unread ⟨?_, large⟩
    rw [norm_one]
    linarith
  rw [add_comm]
  exact far_of_small quarter (norm_nonneg _) small zero_le_one (le_refl 1) positive

/-- For small tolerances the magnitude on the second branch decides. -/
theorem accepts_one_iff : Accepts tolerance 1 high ↔ 1 - tolerance ≤ ((1 + ‖high‖) / 2) ^ 2 := by
  by_cases read : ReadsPhase tolerance 1 high
  · rw [accepts_iff_of_read positive read, norm_one]
  · have far := far_of_unread_one positive quarter read
    constructor
    · intro accepted
      have near := accepted.magnitude
      rwa [norm_one] at near
    · intro near
      exact absurd near (not_le.2 far)

theorem phaseRead_of_accepts (accepted : Accepts tolerance 1 high) :
    phaseRead tolerance 1 high = some (arg high) := by
  have read : ReadsPhase tolerance 1 high := by
    by_contra unread
    have near := (accepts_one_iff positive quarter).1 accepted
    exact absurd near (not_le.2 (far_of_unread_one positive quarter unread))
  rw [phaseRead, if_pos read, div_one]

end

/-! ## Reading the phase -/

variable {definitions : Definitions ℝ} {numQubits : ℕ} {amplitudes : ℕ → ℂ} {tolerance : ℝ}

theorem probe_fits : QubitsFit (1 + numQubits) [probe] := by
  constructor
  · exact List.nodup_singleton probe
  · intro qubit member
    rw [List.mem_singleton.1 member]
    rw [probe]
    omega

/-- The two amplitudes that are read are the first ones of the branches. -/
theorem exists_readOut {engine : Engine ℝ}
    (holds : engine.Holds definitions (1 + numQubits) amplitudes) :
    ∃ first second : Amplitude ℝ, engine.memory.amplitude 0 = .ok first ∧
      engine.memory.amplitude 1 = .ok second ∧
      first.toComplex = branch false amplitudes 0 ∧ second.toComplex = branch true amplitudes 0 := by
  rcases holds.live with ⟨state, live, size, rfl⟩
  have oneInside : 1 < Basis.count state.numQubits := by
    rw [size]
    exact Nat.one_lt_two_pow (by omega)
  rw [live]
  exact ⟨state.amplitude 0, state.amplitude 1, Memory.amplitude_holding (Nat.two_pow_pos _),
    Memory.amplitude_holding oneInside, rfl, rfl⟩

/-- The amplitudes are above the cutoff exactly if the phase is read. -/
theorem atMost_cutoff_iff (positive : 0 < tolerance) {first second : Amplitude ℝ} {low high : ℂ}
    (isLow : first.toComplex = evenWeight * low) (isHigh : second.toComplex = evenWeight * high) :
    (Scalar.atMost first.magnitude (Scalar.sqrt tolerance) ||
      Scalar.atMost second.magnitude (Scalar.sqrt tolerance)) = true ↔
        ¬ReadsPhase tolerance low high := by
  rw [Bool.or_eq_true, Scalar.atMost_iff, Scalar.atMost_iff, Amplitude.magnitude_eq,
    Amplitude.magnitude_eq, isLow, isHigh, norm_mul, norm_mul, readsPhase_iff,
    ← sqrt_lt_evenWeight_mul positive (norm_nonneg low),
    ← sqrt_lt_evenWeight_mul positive (norm_nonneg high), not_and_or, not_lt, not_lt]
  rfl

/-- The angle between the branches is read and taken off, or nothing is done. -/
theorem alignPhase_holds (positive : 0 < tolerance)
    {engine : Engine ℝ} (holds : engine.Holds definitions (1 + numQubits) amplitudes)
    {low high : ℂ} (onLow : branch false amplitudes 0 = evenWeight * low)
    (onHigh : branch true amplitudes 0 = evenWeight * high) :
    ∃ after last,
      alignPhase tolerance engine = (.ok (phaseRead tolerance low high), after) ∧
      after.Holds definitions (1 + numQubits) last ∧
      branch false last 0 = evenWeight * low ∧
      branch true last 0 = evenWeight * aligned tolerance low high := by
  rcases exists_readOut holds with ⟨first, second, firstRead, secondRead, isLow, isHigh⟩
  rw [onLow] at isLow
  rw [onHigh] at isHigh
  have small := atMost_cutoff_iff positive isLow isHigh
  have angle : (second / first).angle = arg (high / low) := by
    rw [Amplitude.angle_eq, Amplitude.toComplex_div, isLow, isHigh,
      mul_div_mul_left _ _ evenWeight_ne_zero]
  have read : alignPhase tolerance engine =
      (if Scalar.atMost first.magnitude (Scalar.sqrt tolerance) ||
          Scalar.atMost second.magnitude (Scalar.sqrt tolerance) then pure none
        else if Scalar.less 0 (Scalar.magnitude (arg (high / low))) then do
          Engine.apply (.rotation .r1 (-arg (high / low))) [probe]
          return some (arg (high / low))
        else return some (arg (high / low)) : EngineAction ℝ (Option ℝ)) engine := by
    rw [alignPhase]
    simp only [Action.bind_apply, Action.inspect, Action.ofExcept, firstRead, secondRead, angle]
  rw [read]
  by_cases large : ReadsPhase tolerance low high
  · rw [if_neg (mt small.1 (not_not_intro large)), phaseRead, if_pos large, aligned, if_pos large]
    by_cases turned : Scalar.less 0 (Scalar.magnitude (arg (high / low))) = true
    · rw [if_pos turned]
      have performs : Performs definitions (1 + numQubits) _ _ _ :=
        performs_phase (-arg (high / low)) probe_fits
      rcases performs.completes engine amplitudes holds with ⟨after, applied, holdsAfter⟩
      refine ⟨after, _, Action.bind_of_ok applied, holdsAfter, ?_, ?_⟩
      · exact (branch_phase _ false amplitudes 0).trans (by simpa using onLow)
      · refine (branch_phase _ true amplitudes 0).trans ?_
        rw [if_pos rfl, onHigh, mul_left_comm]
    · rw [if_neg turned]
      refine ⟨engine, amplitudes, rfl, holds, onLow, ?_⟩
      have straight : arg (high / low) = 0 := by
        rw [Scalar.less_iff, Scalar.magnitude_eq, abs_pos, not_not] at turned
        exact turned
      rw [onHigh, straight, neg_zero, ofReal_zero, zero_mul, exp_zero, one_mul]
  · rw [if_pos (small.2 large), phaseRead, if_neg large, aligned, if_neg large]
    exact ⟨engine, amplitudes, rfl, holds, onLow, onHigh⟩

/-! ## The end of a trial -/

/-- What is done when the branches have been brought together: the phase is taken off and all qubits
are tested for zero. -/
def readOut (tolerance : ℝ) : EngineAction ℝ (TrialEnd ℝ) := do
  let phase ← alignPhase tolerance
  applyConstant (.fixed .h) [probe]
  let zero ← Action.inspect fun engine => engine.memory.isZero none tolerance
  let equivalent ← Action.ofExcept zero
  return .decided equivalent phase

/-- The trial accepts when the square of the mean is within the tolerance of one. -/
theorem readOut_decides (positive : 0 < tolerance)
    {engine : Engine ℝ} (holds : engine.Holds definitions (1 + numQubits) amplitudes)
    {low high : ℂ} (onLow : branch false amplitudes 0 = evenWeight * low)
    (onHigh : branch true amplitudes 0 = evenWeight * high) :
    ∃ equivalent after last,
      readOut tolerance engine =
        (.ok (.decided equivalent (phaseRead tolerance low high)), after) ∧
      after.Holds definitions (1 + numQubits) last ∧
      (equivalent = true ↔ Accepts tolerance low high) := by
  rcases alignPhase_holds positive holds onLow onHigh with
    ⟨between, turned, alignedTo, holdsBetween, lowBetween, highBetween⟩
  have performs : Performs definitions (1 + numQubits) _ _ _ := performs_hadamard probe_fits
  rcases performs.completes between turned holdsBetween with ⟨after, applied, holdsAfter⟩
  rcases holdsAfter.live with ⟨state, live, size, value⟩
  have normal := holdsAfter.normal
  rw [← size, ← value] at normal
  have tested := Memory.isZero_holding normal tolerance
  rw [← live] at tested
  have done : readOut tolerance engine =
      (.ok (.decided (decide (1 - normSq (state.value 0) ≤ tolerance))
        (phaseRead tolerance low high)), after) := by
    rw [readOut, Action.bind_of_ok alignedTo, Action.bind_of_ok applied]
    simp only [Action.bind_apply, Action.inspect, Action.ofExcept, tested]
    rfl
  have atZero : state.value 0 =
      evenWeight * (evenWeight * low + branch true turned 0) := by
    have both := branch_hadamard false turned 0
    rw [lowBetween, if_neg Bool.false_ne_true, one_mul] at both
    rw [value]
    exact both
  refine ⟨_, after, _, done, holdsAfter, ?_⟩
  rw [decide_eq_true_iff, Accepts, atZero, highBetween]
  exact ⟨sub_le_comm.1, sub_le_comm.1⟩

/-! ## The whole trial -/

/-- The amplitudes of a trial when the branches have been brought together: the gates of the
preparation, the superposition of the probe, the gates of the candidate and of the inverse of the
reference, and the gates that undo the preparation. -/
def trialAmplitudes (prepared advanced returned unprepared : List (TapeEntry ℝ)) : ℕ → ℂ :=
  actAll [] unprepared (actAll [] returned (actAll [] advanced
    (actAll [] [⟨.fixed .h, [probe], []⟩] (actAll [] prepared origin))))

/-- Gates behind the probe and under its control. -/
def underProbe (entries : List (TapeEntry ℝ)) : List (TapeEntry ℝ) :=
  (behindProbe entries).map (TapeEntry.under [probe])

section Trial

variable {prepared forward backward unprepared : List (TapeEntry ℝ)}

theorem branch_superposed (fit : ∀ entry ∈ prepared, entry.Fits numQubits []) (value : Bool) :
    branch value (actAll [] [⟨.fixed .h, [probe], []⟩]
      (actAll [] (behindProbe prepared) origin)) = evenWeight • actAll [] prepared origin := by
  funext part
  have combined := branch_hadamard value (actAll [] (behindProbe prepared) origin) part
  rw [branch_actAll fit, branch_actAll fit, branch_false_origin, branch_true_origin, map_zero,
    Pi.zero_apply, mul_zero, add_zero] at combined
  exact combined

/-- On the branch for zero the preparation is undone at once. -/
theorem branch_false_trial (preparedFit : ∀ entry ∈ prepared, entry.Fits numQubits [])
    (unpreparedFit : ∀ entry ∈ unprepared, entry.Fits numQubits []) :
    branch false (trialAmplitudes (behindProbe prepared) (underProbe forward) (underProbe backward)
        (behindProbe unprepared)) =
      evenWeight • actAll [] unprepared (actAll [] prepared origin) := by
  unfold trialAmplitudes underProbe
  rw [branch_actAll unpreparedFit, actAll_under, actAll_under, List.nil_append]
  change actAll [] unprepared (branch false (actAll [0] _ (actAll [0] _ _))) = _
  rw [branch_zero_actAll, branch_zero_actAll, branch_superposed preparedFit, map_smul]

/-- On the branch for one it is undone after the candidate and the inverse of the reference. -/
theorem branch_true_trial (preparedFit : ∀ entry ∈ prepared, entry.Fits numQubits [])
    (forwardFit : ∀ entry ∈ forward, entry.Fits numQubits [])
    (backwardFit : ∀ entry ∈ backward, entry.Fits numQubits [])
    (unpreparedFit : ∀ entry ∈ unprepared, entry.Fits numQubits []) :
    branch true (trialAmplitudes (behindProbe prepared) (underProbe forward) (underProbe backward)
        (behindProbe unprepared)) =
      evenWeight • actAll [] unprepared
        (actAll [] backward (actAll [] forward (actAll [] prepared origin))) := by
  unfold trialAmplitudes underProbe
  rw [branch_actAll unpreparedFit, actAll_under, actAll_under, List.nil_append]
  change actAll [] unprepared (branch true (actAll [0] _ (actAll [0] _ _))) = _
  rw [branch_one_actAll backwardFit, branch_one_actAll forwardFit, branch_superposed preparedFit,
    map_smul, map_smul, map_smul]

variable {checker : EquivalenceChecker ℝ} {size : ℕ}
  {candidate controlledCandidate reference referenceInverse : Operation ℝ}
  {preparer : Option (Operation ℝ × Operation ℝ)}

/-- A trial in which no operation fails decides by the two amplitudes at zero behind the probe. -/
theorem trial_decides_of_branches (positive : 0 < checker.tolerance)
    {advanced returned : List (TapeEntry ℝ)}
    (prepares : Performs definitions (1 + numQubits)
      (prepare checker.mode size (preparer.map Prod.fst)) none prepared)
    (advances : Performs definitions (1 + numQubits)
      (applyAs .candidate candidate.name checker.profile controlledCandidate
        (probe :: targets size)) none advanced)
    (returns : Performs definitions (1 + numQubits)
      (applyAs .reference reference.name .unrestricted referenceInverse
        (probe :: targets size)) none returned)
    (unprepares : Performs definitions (1 + numQubits)
      (unprepare checker.mode size preparer) none unprepared) {low high : ℂ}
    (onLow : branch false (trialAmplitudes prepared advanced returned unprepared) 0 =
      evenWeight * low)
    (onHigh : branch true (trialAmplitudes prepared advanced returned unprepared) 0 =
      evenWeight * high) {engine : Engine ℝ}
    (holds : engine.Holds definitions (1 + numQubits) origin) :
    ∃ equivalent after last,
      checker.trial size candidate controlledCandidate reference referenceInverse preparer engine =
        (.ok (.decided equivalent (phaseRead checker.tolerance low high)), after) ∧
      after.Holds definitions (1 + numQubits) last ∧
      (equivalent = true ↔ Accepts checker.tolerance low high) := by
  rcases prepares.completes engine _ holds with ⟨first, firstDone, firstHolds⟩
  have superposes : Performs definitions (1 + numQubits) _ _ _ := performs_hadamard probe_fits
  rcases superposes.completes first _ firstHolds with ⟨second, secondDone, secondHolds⟩
  rcases advances.completes second _ secondHolds with ⟨third, thirdDone, thirdHolds⟩
  rcases returns.completes third _ thirdHolds with ⟨fourth, fourthDone, fourthHolds⟩
  rcases unprepares.completes fourth _ fourthHolds with ⟨fifth, fifthDone, fifthHolds⟩
  have together : fifth.Holds definitions (1 + numQubits)
      (trialAmplitudes prepared advanced returned unprepared) := fifthHolds
  have normalized : fourth.memory.isNormalized (checker.tolerance * Scalar.ofNat 1000) =
      .ok true := by
    rcases fourthHolds.live with ⟨state, live, sizeIs, value⟩
    have normal := fourthHolds.normal
    rw [← sizeIs, ← value] at normal
    rw [live]
    apply Memory.isNormalized_holding normal
    rw [Scalar.ofNat_eq]
    positivity
  rcases readOut_decides positive together onLow onHigh with
    ⟨equivalent, after, last, done, decided⟩
  refine ⟨equivalent, after, last, ?_, decided⟩
  rw [trial]
  rw [unlessFailed_of_ok firstDone, Action.bind_of_ok secondDone, unlessFailed_of_ok thirdDone,
    unlessFailed_of_ok fourthDone]
  simp only [Action.bind_apply, Action.inspect, Action.ofExcept, normalized, if_true]
  rw [unlessFailed_of_ok fifthDone]
  exact done

/-- A trial whose preparation keeps off the probe, and in which the candidate and the inverse of the
reference are controlled by it, decides by what is left at zero without them and with them. -/
theorem trial_decides (positive : 0 < checker.tolerance)
    (prepares : Performs definitions (1 + numQubits)
      (prepare checker.mode size (preparer.map Prod.fst)) none (behindProbe prepared))
    (advances : Performs definitions (1 + numQubits)
      (applyAs .candidate candidate.name checker.profile controlledCandidate
        (probe :: targets size)) none (underProbe forward))
    (returns : Performs definitions (1 + numQubits)
      (applyAs .reference reference.name .unrestricted referenceInverse
        (probe :: targets size)) none (underProbe backward))
    (unprepares : Performs definitions (1 + numQubits)
      (unprepare checker.mode size preparer) none (behindProbe unprepared))
    (preparedFit : ∀ entry ∈ prepared, entry.Fits numQubits [])
    (forwardFit : ∀ entry ∈ forward, entry.Fits numQubits [])
    (backwardFit : ∀ entry ∈ backward, entry.Fits numQubits [])
    (unpreparedFit : ∀ entry ∈ unprepared, entry.Fits numQubits [])
    {low high : ℂ} (without : actAll [] unprepared (actAll [] prepared origin) 0 = low)
    (between : actAll [] unprepared (actAll [] backward (actAll [] forward
      (actAll [] prepared origin))) 0 = high) {engine : Engine ℝ}
    (holds : engine.Holds definitions (1 + numQubits) origin) :
    ∃ equivalent after last,
      checker.trial size candidate controlledCandidate reference referenceInverse preparer engine =
        (.ok (.decided equivalent (phaseRead checker.tolerance low high)), after) ∧
      after.Holds definitions (1 + numQubits) last ∧
      (equivalent = true ↔ Accepts checker.tolerance low high) := by
  refine trial_decides_of_branches positive prepares advances returns unprepares ?_ ?_ holds
  · rw [branch_false_trial preparedFit unpreparedFit, Pi.smul_apply, without, smul_eq_mul]
  · rw [branch_true_trial preparedFit forwardFit backwardFit unpreparedFit, Pi.smul_apply, between,
      smul_eq_mul]

end Trial

end EquivalenceChecker

end QuantumKata

end
