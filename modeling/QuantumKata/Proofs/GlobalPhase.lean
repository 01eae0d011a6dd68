import QuantumKata.Proofs.Rejection
import QuantumKata.Proofs.Reversal

/-!
# Global phases of a candidate

A candidate that is shifted by a phase issues the gates of the candidate and then the phase, which
every profile has.  So a profile lets the one through where it lets the other through, and what is
left at zero behind the operations is multiplied by the phase.

A check is blind to this phase where it reads it off.  It does so for small tolerances.  For large
ones it does not, and then the mean of what is left on the branches depends on the phase: a check
accepts the candidate with some phases and rejects it with others, unless all such means are within
the tolerance of one or all of them are not.
-/

noncomputable section

namespace QuantumKata

open Complex Matrix

/-! ## Shifted operations -/

namespace Operation

variable {definitions : Definitions ℝ} {numQubits : ℕ} {operation : Operation ℝ}
  {entries : List (TapeEntry ℝ)} {qubits : List Int} {profile : TargetProfile}

theorem ofGate_globalPhase (profile : TargetProfile) (angle : ℝ) :
    Course.ofGate profile (.globalPhase angle) [] =
      .issue (phaseEntry angle) (.done (.ok ())) := by
  cases profile <;> rfl

/-- An operation that is given the right number of qubits goes on to its body. -/
theorem course_of_checkArity (arity : Engine.checkArity operation qubits = .ok ()) :
    operation.course definitions qubits profile =
      Course.ofOperation (.ofDefinitions definitions) operation qubits profile := by
  rw [course, arity]
  rfl

theorem checkArity_phaseShifted (angle : PhaseAngle ℝ) :
    Engine.checkArity (phaseShifted operation angle) qubits = .ok () ↔
      Engine.checkArity operation qubits = .ok () := by
  rw [Engine.checkArity, Engine.checkArity, numQubits]
  split
  · constructor
    · rintro ⟨⟩
    · rintro ⟨⟩
  · exact Iff.rfl

theorem issues_phaseShifted
    (issued : (operation.course definitions qubits profile).Issues entries ())
    (angle : PhaseAngle ℝ) :
    ((phaseShifted operation angle).course definitions qubits profile).Issues
      (entries ++ [phaseEntry angle.value]) () := by
  rcases Course.issues_done_bind issued with ⟨fits, arity, inside⟩
  rw [course_of_checkArity ((checkArity_phaseShifted angle).2 arity)]
  refine Course.Issues.bind inside ?_
  rw [ofGate_globalPhase]
  exact .issue (.done ())

/-- Where a shifted operation is let through, so is the operation. -/
theorem issues_of_phaseShifted {angle : PhaseAngle ℝ}
    (issued :
      ((phaseShifted operation angle).course definitions qubits profile).Issues entries ()) :
    ∃ inside, (operation.course definitions qubits profile).Issues inside () := by
  rcases Course.issues_done_bind issued with ⟨fits, arity, followed⟩
  rw [Course.ofOperation] at followed
  rcases Course.issues_bind followed with ⟨inside, value, phases, issuedInside, -, -⟩
  rw [course_of_checkArity ((checkArity_phaseShifted angle).1 arity)]
  exact ⟨inside, issuedInside⟩

theorem Realizes.phaseShifted (realizes : operation.Realizes definitions numQubits entries)
    (angle : PhaseAngle ℝ) :
    (Operation.phaseShifted operation angle).Realizes definitions numQubits
      (entries ++ [phaseEntry angle.value]) := by
  constructor
  case issued => exact issues_phaseShifted realizes.issued angle
  case exact =>
    exact List.forall_mem_append.2
      ⟨realizes.exact, List.forall_mem_singleton.2 (phaseEntry_isExact angle.value)⟩
  case fit =>
    have fits : QubitsFit numQubits [] := ⟨List.nodup_nil, nofun⟩
    exact List.forall_mem_append.2 ⟨realizes.fit, List.forall_mem_singleton.2 fits⟩

theorem ActsOn.phaseShifted (acts : operation.ActsOn definitions numQubits)
    (angle : PhaseAngle ℝ) : (phaseShifted operation angle).ActsOn definitions numQubits := by
  rcases acts.exists_gates with ⟨entries, realizes⟩
  exact (realizes.phaseShifted angle).actsOn acts.arity
    ⟨acts.keeps, Gate.isUnitary_globalPhase angle.value⟩

/-- A phase shift multiplies the matrix of an operation by the phase. -/
theorem ActsOn.matrix_phaseShifted (acts : operation.ActsOn definitions numQubits)
    (angle : PhaseAngle ℝ) :
    (Operation.phaseShifted operation angle).matrix definitions numQubits =
      exp (angle.value * I) • operation.matrix definitions numQubits := by
  rcases acts.exists_gates with ⟨entries, realizes⟩
  ext row column
  rw [(realizes.phaseShifted angle).matrix_apply, actAll_append, Matrix.smul_apply,
    realizes.matrix_apply, smul_eq_mul]
  exact act_phaseEntry [] angle.value _ _

end Operation

namespace EquivalenceChecker

open Engine

/-! ## Phases that do not matter -/

/-- The angle between two numbers makes no difference to their acceptance: it is read off, or
numbers of these magnitudes are all rejected, or all of them are accepted. -/
inductive IsSettled (tolerance : ℝ) (low high : ℂ) : Prop where
  | read (reads : ReadsPhase tolerance low high)
  | far (rejected : ((‖low‖ + ‖high‖) / 2) ^ 2 < 1 - tolerance)
  | near (accepted : 1 - tolerance ≤ ((‖low‖ - ‖high‖) / 2) ^ 2)

section

variable {tolerance : ℝ} {low high other : ℂ}

theorem readsPhase_congr (same : ‖other‖ = ‖high‖) :
    ReadsPhase tolerance low other ↔ ReadsPhase tolerance low high := by
  rw [readsPhase_iff, readsPhase_iff, same]

/-- What is accepted when the numbers point in opposite directions is accepted at every angle. -/
theorem accepts_of_opposite (near : 1 - tolerance ≤ ((‖low‖ - ‖high‖) / 2) ^ 2) :
    Accepts tolerance low high := by
  have bound : |‖low‖ - ‖high‖| ≤ ‖low + aligned tolerance low high‖ := by
    have apart := abs_norm_sub_norm_le low (-aligned tolerance low high)
    rwa [norm_neg, norm_aligned, sub_neg_eq_add] at apart
  refine accepts_iff.2 (near.trans ?_)
  rw [norm_div, RCLike.norm_ofNat, ← sq_abs ((‖low‖ - ‖high‖) / 2), abs_div, abs_two]
  exact pow_le_pow_left₀ (by positivity) (div_le_div_of_nonneg_right bound two_pos.le) 2

theorem IsSettled.accepts_iff (positive : 0 < tolerance) (settled : IsSettled tolerance low high)
    (same : ‖other‖ = ‖high‖) : Accepts tolerance low other ↔ Accepts tolerance low high := by
  rcases settled with read | far | near
  · rw [accepts_iff_of_read positive read,
      accepts_iff_of_read positive ((readsPhase_congr same).2 read), same]
  · constructor
    · intro accepted
      have within := accepted.magnitude
      rw [same] at within
      exact absurd within (not_le.2 far)
    · intro accepted
      exact absurd accepted.magnitude (not_le.2 far)
  · exact iff_of_true (accepts_of_opposite (same ▸ near)) (accepts_of_opposite near)

theorem accepts_of_unread (unread : ¬ReadsPhase tolerance low high) :
    Accepts tolerance low high ↔ 1 - tolerance ≤ ‖(low + high) / 2‖ ^ 2 := by
  rw [accepts_iff, aligned, if_neg unread]

/-- Turned by the angle between them, a number has the direction of the other. -/
theorem exp_sub_arg_mul (low high : ℂ) :
    exp (((arg low - arg high : ℝ) : ℂ) * I) * high = exp (arg low * I) * ‖high‖ := by
  rw [← exp_neg_arg_mul high, ← mul_assoc, ← exp_add, ← add_mul, ← ofReal_add, ← sub_eq_add_neg]

/-- Turned along the other number or against it, a number adds its magnitude to the magnitude of the
other or takes it away. -/
theorem norm_half_add_turned (low : ℂ) (size : ℝ) :
    ‖(low + exp (arg low * I) * size) / 2‖ ^ 2 = ((‖low‖ + size) / 2) ^ 2 := by
  have direction : low + exp (arg low * I) * size =
      exp (arg low * I) * ((‖low‖ + size : ℝ) : ℂ) := by
    have polar := norm_mul_exp_arg_mul_I low
    push_cast
    linear_combination -polar
  rw [direction, norm_div, norm_mul, norm_exp_ofReal_mul_I, one_mul, norm_real, RCLike.norm_ofNat,
    Real.norm_eq_abs, div_pow, div_pow, sq_abs]

/-- Where the angle matters, turning a number along the other and against it makes the
difference. -/
theorem isSettled_of_turns (turns : ∀ angle : ℝ,
    Accepts tolerance low (exp (angle * I) * high) ↔ Accepts tolerance low high) :
    IsSettled tolerance low high := by
  by_contra unsettled
  have unread : ¬ReadsPhase tolerance low high := mt .read unsettled
  have near := not_lt.1 (mt .far unsettled)
  have far := not_le.1 (mt .near unsettled)
  have turnedUnread : ∀ angle : ℝ, ¬ReadsPhase tolerance low (exp (angle * I) * high) := by
    intro angle
    refine mt (readsPhase_congr ?_).1 unread
    rw [norm_mul, norm_exp_ofReal_mul_I, one_mul]
  have against : exp (((arg low - arg high + Real.pi : ℝ) : ℂ) * I) * high =
      exp (arg low * I) * ((-‖high‖ : ℝ) : ℂ) := by
    rw [ofReal_add, add_mul, exp_add, exp_pi_mul_I, mul_neg_one, neg_mul, exp_sub_arg_mul,
      ofReal_neg, mul_neg]
  -- Turned towards the other number the mean is large enough, turned away it is too small.
  have towards := turns (arg low - arg high)
  have away := turns (arg low - arg high + Real.pi)
  rw [accepts_of_unread (turnedUnread _), exp_sub_arg_mul, norm_half_add_turned] at towards
  rw [accepts_of_unread (turnedUnread _), against, norm_half_add_turned, ← sub_eq_add_neg] at away
  exact absurd (away.2 (towards.1 near)) (not_le.2 far)

theorem isSettled_iff (positive : 0 < tolerance) : IsSettled tolerance low high ↔
    ∀ angle : ℝ, Accepts tolerance low (exp (angle * I) * high) ↔ Accepts tolerance low high := by
  refine ⟨fun settled angle => settled.accepts_iff positive ?_, isSettled_of_turns⟩
  rw [norm_mul, norm_exp_ofReal_mul_I, one_mul]

theorem isSettled_of_quarter (positive : 0 < tolerance) (quarter : tolerance ≤ 1 / 4)
    (lowBound : ‖low‖ ≤ 1) (highBound : ‖high‖ ≤ 1) : IsSettled tolerance low high := by
  by_cases read : ReadsPhase tolerance low high
  · exact .read read
  · exact .far (far_of_unread positive quarter read lowBound highBound)

end

/-! ## Checks of a candidate and of the shifted candidate -/

/-- The candidate has a controlled variant, and the profile of the check lets its gates through. -/
def LetsThrough (checker : EquivalenceChecker ℝ) (size : ℕ) (candidate : Operation ℝ)
    (definitions : Definitions ℝ) : Prop :=
  candidate.capabilities.controlled = true ∧
    ∃ entries, (candidate.course definitions (targets size) checker.profile).Issues entries ()

theorem letsThrough_phaseShifted {checker : EquivalenceChecker ℝ} {size : ℕ}
    {candidate : Operation ℝ} {definitions : Definitions ℝ} (angle : PhaseAngle ℝ) :
    checker.LetsThrough size (.phaseShifted candidate angle) definitions ↔
      checker.LetsThrough size candidate definitions := by
  constructor
  · rintro ⟨supported, entries, issued⟩
    exact ⟨supported, Operation.issues_of_phaseShifted issued⟩
  · rintro ⟨supported, entries, issued⟩
    exact ⟨supported, _, Operation.issues_phaseShifted issued angle⟩

theorem status_eq_iff {first second : VerdictStatus}
    (decided : first = .correct ∨ first = .incorrect)
    (alsoDecided : second = .correct ∨ second = .incorrect) :
    first = second ↔ (first = .correct ↔ second = .correct) := by
  rcases decided with rfl | rfl <;> rcases alsoDecided with rfl | rfl <;> simp

section

variable {checker : EquivalenceChecker ℝ} {size : ℕ} {candidate reference inverse : Operation ℝ}
  {preparer : Option (Operation ℝ)} {pair : Option (Operation ℝ × Operation ℝ)} {bench : Bench ℝ}
  (admits : checker.Admits size candidate reference inverse preparer pair bench)

include admits

theorem Admits.phaseShifted (angle : PhaseAngle ℝ) :
    checker.Admits size (.phaseShifted candidate angle) reference inverse preparer pair bench :=
  { admits with
    acts := admits.acts.phaseShifted angle
    proper := trivial }

/-- Without the operations and with them, what is left at zero is an amplitude of a state of norm
one. -/
theorem Admits.norm_leftAtZero_le_one :
    ‖leftAtZero bench.definitions size checker.mode pair 1‖ ≤ 1 ∧
      ‖leftAtZero bench.definitions size checker.mode pair
        (inverse.matrix bench.definitions size * candidate.matrix bench.definitions size)‖ ≤ 1 := by
  rcases admits.exists_staging with ⟨numQubits, prepared, unprepared, staging⟩
  rcases admits.acts.exists_gates with ⟨forward, advances⟩
  rcases admits.inverseActs.exists_gates with ⟨backward, returns⟩
  constructor
  · exact staging.norm_leaves_le_one (multiplies_nil size) (by simp) (by simp)
  · exact staging.norm_leaves_le_one (advances.multiplies.append returns.multiplies)
      (List.forall_mem_append.2 ⟨advances.exact, returns.exact⟩)
      (List.forall_mem_append.2 ⟨advances.fit, returns.fit⟩)

variable (positive : 0 < checker.tolerance)

include positive

/-- A candidate whose gates are let through is accepted or rejected by what is left at zero. -/
theorem Admits.status_of_letsThrough
    (letsThrough : checker.LetsThrough size candidate bench.definitions) :
    ∃ verdict later, checker.check candidate reference size preparer bench = (.ok verdict, later) ∧
      (verdict.status = .correct ∨ verdict.status = .incorrect) ∧
      (verdict.status = .correct ↔ Accepts checker.tolerance
        (leftAtZero bench.definitions size checker.mode pair 1)
        (leftAtZero bench.definitions size checker.mode pair
          (inverse.matrix bench.definitions size * candidate.matrix bench.definitions size))) := by
  rcases letsThrough with ⟨supported, entries, issued⟩
  rcases admits.acts.exists_gates with ⟨forward, advances⟩
  rw [eq_behindProbe_of_issues admits.acts advances issued] at issued
  rcases Operation.exists_controlledBy_of_supported (le_refl 1) supported with
    ⟨controlled, variant⟩
  rcases admits.decides positive advances variant issued with
    ⟨equivalent, later, checked, decides⟩
  refine ⟨_, later, checked, ?_, ?_⟩
  · rw [judge_status]
    cases equivalent <;> simp
  · rw [judge_status, ← decides]
    cases equivalent <;> simp

omit positive in
/-- Without a controlled variant of the candidate there is no trial. -/
theorem Admits.status_of_unsupported (unsupported : candidate.capabilities.controlled = false) :
    ∃ verdict later, checker.check candidate reference size preparer bench = (.ok verdict, later) ∧
      verdict.status = .executionError := by
  rcases admits.inverseVariant with ⟨controlledInverse, inverseVariant⟩
  rw [admits.agrees.check_eq, buildAndTry]
  simp only [admits.undoing, inverseVariant, admits.pairing,
    Operation.controlledBy_of_unsupported 1 unsupported, Action.bind_apply, Action.ofExcept]
  exact ⟨_, _, rfl, rfl⟩

/-- A candidate whose gates are not let through is neither accepted nor rejected. -/
theorem Admits.status_of_not_letsThrough
    (refused : ¬checker.LetsThrough size candidate bench.definitions) :
    ∃ verdict later, checker.check candidate reference size preparer bench = (.ok verdict, later) ∧
      verdict.status = .executionError := by
  cases supported : candidate.capabilities.controlled with
  | false => exact admits.status_of_unsupported supported
  | true =>
    have ungraded : ∀ verdict later,
        checker.check candidate reference size preparer bench = (.ok verdict, later) →
        verdict.status = .executionError := by
      intro verdict later checked
      by_contra graded
      rcases issued_of_graded admits.proper checked graded with ⟨entries, issued, -⟩
      exact refused ⟨supported, entries, issued⟩
    rcases check_rejected_or_same checker candidate reference size preparer bench with
      ⟨kind, instruction, -, rejected⟩ | same
    · exact ⟨_, _, Prod.ext rejected rfl, rfl⟩
    · have alsoAdmits :
          checker.withoutProfile.Admits size candidate reference inverse preparer pair bench :=
        { admits with }
      rcases admits.acts.exists_gates with ⟨forward, advances⟩
      rcases alsoAdmits.status_of_letsThrough positive
        ⟨supported, _, issued_onTargets admits.acts advances⟩ with ⟨verdict, later, checked, -⟩
      rw [← same] at checked
      exact ⟨verdict, later, checked, ungraded verdict later checked⟩

omit positive in
/-- With the shifted candidate, what is left at zero is multiplied by the phase. -/
theorem Admits.leftAtZero_phaseShifted (angle : PhaseAngle ℝ) :
    leftAtZero bench.definitions size checker.mode pair (inverse.matrix bench.definitions size *
        (Operation.phaseShifted candidate angle).matrix bench.definitions size) =
      exp (angle.value * I) * leftAtZero bench.definitions size checker.mode pair
        (inverse.matrix bench.definitions size * candidate.matrix bench.definitions size) := by
  rw [admits.acts.matrix_phaseShifted, Matrix.mul_smul, leftAtZero_smul]

/-- A shifted candidate whose gates are let through has the status of the candidate exactly if what
is left at zero is accepted with the phase as it is without. -/
theorem Admits.status_phaseShifted_of_letsThrough
    (letsThrough : checker.LetsThrough size candidate bench.definitions) :
    ∃ verdict later, checker.check candidate reference size preparer bench = (.ok verdict, later) ∧
      verdict.status ≠ .executionError ∧
      ∀ angle, ∃ shifted last,
        checker.check (.phaseShifted candidate angle) reference size preparer bench =
          (.ok shifted, last) ∧
        (shifted.status = verdict.status ↔
          (Accepts checker.tolerance (leftAtZero bench.definitions size checker.mode pair 1)
            (exp (angle.value * I) * leftAtZero bench.definitions size checker.mode pair
              (inverse.matrix bench.definitions size * candidate.matrix bench.definitions size)) ↔
          Accepts checker.tolerance (leftAtZero bench.definitions size checker.mode pair 1)
            (leftAtZero bench.definitions size checker.mode pair
              (inverse.matrix bench.definitions size *
                candidate.matrix bench.definitions size)))) := by
  rcases admits.status_of_letsThrough positive letsThrough with
    ⟨verdict, later, checked, decided, accepts⟩
  refine ⟨verdict, later, checked, ?_, fun angle => ?_⟩
  · rcases decided with correct | incorrect
    · rw [correct]
      nofun
    · rw [incorrect]
      nofun
  · rcases (admits.phaseShifted angle).status_of_letsThrough positive
      ((letsThrough_phaseShifted angle).2 letsThrough) with
      ⟨shifted, last, shiftedChecked, alsoDecided, alsoAccepts⟩
    refine ⟨shifted, last, shiftedChecked, ?_⟩
    rw [status_eq_iff alsoDecided decided, alsoAccepts, accepts, admits.leftAtZero_phaseShifted]

/-- A candidate whose gates are not let through is neither accepted nor rejected with any phase. -/
theorem Admits.status_phaseShifted_of_not_letsThrough
    (refused : ¬checker.LetsThrough size candidate bench.definitions) :
    ∃ verdict later, checker.check candidate reference size preparer bench = (.ok verdict, later) ∧
      verdict.status = .executionError ∧
      ∀ angle, ∃ shifted last,
        checker.check (.phaseShifted candidate angle) reference size preparer bench =
          (.ok shifted, last) ∧ shifted.status = .executionError := by
  rcases admits.status_of_not_letsThrough positive refused with ⟨verdict, later, checked, status⟩
  exact ⟨verdict, later, checked, status, fun angle =>
    (admits.phaseShifted angle).status_of_not_letsThrough positive
      (mt (letsThrough_phaseShifted angle).1 refused)⟩

end

/-- A check of a shifted candidate comes to a decision like the check of the candidate.  The
statuses are the same for all phases exactly if the candidate cannot be tried or the angle between
what is left at zero without the operations and with them is of no importance, as it is for
tolerances of at most a quarter. -/
theorem status_phaseShifted_iff {checker : EquivalenceChecker ℝ} {size : ℕ}
    {candidate reference inverse : Operation ℝ} {preparer : Option (Operation ℝ)}
    {pair : Option (Operation ℝ × Operation ℝ)} {bench : Bench ℝ}
    (admits : checker.Admits size candidate reference inverse preparer pair bench)
    (positive : 0 < checker.tolerance) :
    let low := leftAtZero bench.definitions size checker.mode pair 1
    let high := leftAtZero bench.definitions size checker.mode pair
      (inverse.matrix bench.definitions size * candidate.matrix bench.definitions size)
    ∃ verdict later, checker.check candidate reference size preparer bench = (.ok verdict, later) ∧
      (∀ angle, ∃ shifted last,
        checker.check (.phaseShifted candidate angle) reference size preparer bench =
          (.ok shifted, last)) ∧
      ((∀ angle shifted last,
          checker.check (.phaseShifted candidate angle) reference size preparer bench =
            (.ok shifted, last) → shifted.status = verdict.status) ↔
        verdict.status = .executionError ∨ IsSettled checker.tolerance low high) ∧
      (checker.tolerance ≤ 1 / 4 → IsSettled checker.tolerance low high) := by
  intro low high
  rcases admits.norm_leftAtZero_le_one with ⟨lowBound, highBound⟩
  have quarter := fun small : checker.tolerance ≤ 1 / 4 =>
    isSettled_of_quarter positive small lowBound highBound
  by_cases letsThrough : checker.LetsThrough size candidate bench.definitions
  · rcases admits.status_phaseShifted_of_letsThrough positive letsThrough with
      ⟨verdict, later, checked, graded, shifts⟩
    refine ⟨verdict, later, checked, ?_, ?_, quarter⟩
    · intro angle
      rcases shifts angle with ⟨shifted, last, shiftedChecked, -⟩
      exact ⟨shifted, last, shiftedChecked⟩
    rw [or_iff_right graded, isSettled_iff positive]
    constructor
    · intro same angle
      rcases shifts ⟨angle, false⟩ with ⟨shifted, last, shiftedChecked, sameStatus⟩
      exact sameStatus.1 (same _ shifted last shiftedChecked)
    · intro settled angle shifted last shiftedChecked
      rcases shifts angle with ⟨other, later, otherChecked, sameStatus⟩
      rw [shiftedChecked] at otherChecked
      cases otherChecked
      exact sameStatus.2 (settled angle.value)
  · rcases admits.status_phaseShifted_of_not_letsThrough positive letsThrough with
      ⟨verdict, later, checked, status, shifts⟩
    refine ⟨verdict, later, checked, ?_, iff_of_true ?_ (.inl status), quarter⟩
    · intro angle
      rcases shifts angle with ⟨shifted, last, shiftedChecked, -⟩
      exact ⟨shifted, last, shiftedChecked⟩
    · intro angle shifted last shiftedChecked
      rcases shifts angle with ⟨other, later, otherChecked, otherStatus⟩
      rw [shiftedChecked] at otherChecked
      cases otherChecked
      rw [otherStatus, status]

/-! ## A flip with a phase -/

/-- A checker for a tolerance. -/
def tolerating (tolerance : ℝ) : EquivalenceChecker ℝ :=
  { tolerance, mode := .operator, profile := .unrestricted }

theorem admits_flip (tolerance : ℝ) :
    (tolerating tolerance).Admits 1 (flip ℝ) (flip ℝ) (flip ℝ) none none
      (.ofLimit .standard {}) where
  generated := rfl
  roomy := rfl
  acts := flip_acts
  proper := trivial
  arity := rfl
  undoing := rfl
  inverseActs := flip_acts
  inverseProper := trivial
  inverseVariant := ⟨_, rfl⟩
  pairing := rfl
  prepares := nofun

/-- Two flips leave everything at zero. -/
theorem leftAtZero_flip :
    leftAtZero {} 1 .operator none ((flip ℝ).matrix {} 1 * (flip ℝ).matrix {} 1) = 1 := by
  have preparation : Preparation {} .operator 1 none none (1 + 1) _ _ := preparation_operator
  rw [flip_isUndone.takesBack, preparation.restored]

theorem check_flip {tolerance : ℝ} (positive : 0 < tolerance) :
    ∃ verdict later,
      (tolerating tolerance).check (flip ℝ) (flip ℝ) (1 : ℕ) none (.ofLimit .standard {}) =
        (.ok verdict, later) ∧ verdict.status = .correct := by
  have preparation : Preparation {} .operator 1 none none (1 + 1) _ _ := preparation_operator
  rcases (admits_flip tolerance).status_of_letsThrough positive ⟨rfl, _, .issue (.done ())⟩ with
    ⟨verdict, later, checked, -, accepts⟩
  refine ⟨verdict, later, checked, accepts.2 ?_⟩
  change Accepts tolerance (leftAtZero {} 1 .operator none 1)
    (leftAtZero {} 1 .operator none ((flip ℝ).matrix {} 1 * (flip ℝ).matrix {} 1))
  rw [leftAtZero_flip, preparation.restored, accepts_iff]
  have whole : aligned tolerance 1 1 = 1 := by
    rw [aligned]
    split
    · simp
    · rfl
  rw [whole]
  norm_num
  exact positive.le

/-- When the tolerance is a quarter, a flip that is shifted by half a turn is accepted as a flip. -/
theorem status_phaseShifted_iff_of_flip :
    ∃ shifted last,
      (tolerating (1 / 4)).check (.phaseShifted (flip ℝ) ⟨Real.pi, false⟩) (flip ℝ) (1 : ℕ) none
        (.ofLimit .standard {}) = (.ok shifted, last) ∧ shifted.status = .correct := by
  have positive : (0 : ℝ) < 1 / 4 := one_div_pos.2 four_pos
  rcases check_flip positive with ⟨verdict, later, checked, correct⟩
  rcases status_phaseShifted_iff (admits_flip (1 / 4)) positive with
    ⟨other, last, otherChecked, exists_shifted, agree, quarter⟩
  rw [checked] at otherChecked
  cases otherChecked
  rcases exists_shifted ⟨Real.pi, false⟩ with ⟨shifted, last, shiftedChecked⟩
  have same := agree.2 (.inr (quarter (le_refl _))) _ shifted last shiftedChecked
  exact ⟨shifted, last, shiftedChecked, same.trans correct⟩

/-- When the tolerance is three fifths, a flip is accepted as a flip, but shifted by half a turn it
is rejected. -/
theorem told_apart_by_phase :
    (tolerating (3 / 5)).Admits 1 (flip ℝ) (flip ℝ) (flip ℝ) none none (.ofLimit .standard {}) ∧
    (∃ verdict later, (tolerating (3 / 5)).check (flip ℝ) (flip ℝ) (1 : ℕ) none
      (.ofLimit .standard {}) = (.ok verdict, later) ∧ verdict.status = .correct) ∧
    ∃ shifted later, (tolerating (3 / 5)).check (.phaseShifted (flip ℝ) ⟨Real.pi, false⟩) (flip ℝ)
      (1 : ℕ) none (.ofLimit .standard {}) = (.ok shifted, later) ∧
        shifted.status = .incorrect := by
  have positive : (0 : ℝ) < 3 / 5 := by norm_num
  have preparation : Preparation {} .operator 1 none none (1 + 1) _ _ := preparation_operator
  refine ⟨admits_flip _, check_flip positive, ?_⟩
  have admits := (admits_flip (3 / 5)).phaseShifted ⟨Real.pi, false⟩
  rcases admits.status_of_letsThrough positive
    ((letsThrough_phaseShifted _).2 ⟨rfl, _, .issue (.done ())⟩) with
    ⟨shifted, later, checked, decided, accepts⟩
  refine ⟨shifted, later, checked, decided.resolve_left (mt accepts.1 ?_)⟩
  have opposite : leftAtZero {} 1 .operator none ((flip ℝ).matrix {} 1 *
      (Operation.phaseShifted (flip ℝ) ⟨Real.pi, false⟩).matrix {} 1) = -1 := by
    rw [flip_acts.matrix_phaseShifted, Matrix.mul_smul, leftAtZero_smul, leftAtZero_flip, mul_one,
      exp_pi_mul_I]
  change ¬Accepts (3 / 5) (leftAtZero {} 1 .operator none 1) (leftAtZero {} 1 .operator none
    ((flip ℝ).matrix {} 1 * (Operation.phaseShifted (flip ℝ) ⟨Real.pi, false⟩).matrix {} 1))
  rw [opposite, preparation.restored]
  have unread : ¬ReadsPhase (3 / 5) 1 (-1) := fun read => by
    have small := read.onLow
    norm_num at small
  rw [accepts_of_unread unread, add_neg_cancel, zero_div, norm_zero]
  norm_num

end EquivalenceChecker

end QuantumKata

end
