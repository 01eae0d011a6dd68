import QuantumKata.Proofs.Rejection

/-!
# Comparing outputs

A comparison runs the reference and the candidate one after the other on the prepared state, each on
a register of its own, and looks at the overlap of their outputs.  In state mode this overlap is the
agreement that a check decides by, although a check never runs the two apart.

The outputs match when the magnitude of the agreement is within the tolerance of one; a check asks
this of the square of the mean of one and the magnitude, which is closer to one.  So a check rejects
nothing that matches, and where all zeros are the input, the search for a counterexample ends at
once.
-/

noncomputable section

namespace QuantumKata

open Complex Matrix

/-! ## The overlap of two states -/

namespace StateVector

variable {left right : StateVector ℝ} {numQubits : ℕ} (leftSize : left.numQubits = numQubits)
  (rightSize : right.numQubits = numQubits)

include leftSize rightSize

theorem toComplex_innerProduct :
    (innerProduct left.amplitudes.toArray right.amplitudes.toArray).toComplex =
      overlap numQubits left.value right.value := by
  have products : List.zipWith (fun first second => first.conj * second) left.amplitudes.toList
      right.amplitudes.toList = (List.range (Basis.count numQubits)).map fun index =>
        (left.amplitude index).conj * right.amplitude index := by
    rw [toList_amplitudes, toList_amplitudes, leftSize, rightSize, List.zipWith_map,
      List.zipWith_self]
  have summed : (innerProduct left.amplitudes.toArray right.amplitudes.toArray).toComplex =
      (Amplitude.sum ((List.range (Basis.count numQubits)).map fun index =>
        (left.amplitude index).conj * right.amplitude index)).toComplex :=
    congrArg (fun numbers => (Amplitude.sum numbers).toComplex) products
  rw [summed, Amplitude.toComplex_sum, List.map_map]
  simp only [Function.comp_def, Amplitude.toComplex_mul, Amplitude.toComplex_conj]
  rfl

/-- States of norm one are equal up to a phase when their overlap is near one in magnitude. -/
theorem equalUpToPhase_iff (leftNormal : overlap numQubits left.value left.value = 1)
    (rightNormal : overlap numQubits right.value right.value = 1) (tolerance : ℝ) :
    equalUpToPhase left.amplitudes.toArray right.amplitudes.toArray tolerance = true ↔
      1 - ‖overlap numQubits left.value right.value‖ ≤ tolerance := by
  have leftNorm : (innerProduct left.amplitudes.toArray left.amplitudes.toArray).re = 1 := by
    rw [← Amplitude.toComplex_re, toComplex_innerProduct leftSize leftSize, leftNormal, one_re]
  have rightNorm : (innerProduct right.amplitudes.toArray right.amplitudes.toArray).re = 1 := by
    rw [← Amplitude.toComplex_re, toComplex_innerProduct rightSize rightSize, rightNormal, one_re]
  have one : (Scalar.sqrt (1 * 1) : ℝ) = 1 := by
    rw [mul_one]
    exact Real.sqrt_one
  rw [equalUpToPhase, Scalar.atMost_iff, leftNorm, rightNorm, one, Amplitude.magnitude_eq,
    toComplex_innerProduct leftSize rightSize]

end StateVector

theorem overlap_eq_block (numQubits : ℕ) (left right : ℕ → ℂ) :
    overlap numQubits left right =
      star (block numQubits 0 left) ⬝ᵥ block numQubits 0 right := by
  have blocks := overlap_eq_sum_blocks numQubits 0 left right
  rwa [pow_zero, Fin.sum_univ_one] at blocks

/-- On a register without qubits there is but a phase. -/
theorem norm_overlap_of_zero {left right : ℕ → ℂ} (leftNormal : overlap 0 left left = 1)
    (rightNormal : overlap 0 right right = 1) : ‖overlap 0 left right‖ = 1 := by
  have unit : ∀ amplitudes : ℕ → ℂ, overlap 0 amplitudes amplitudes = 1 → ‖amplitudes 0‖ = 1 := by
    intro amplitudes normal
    have square := sum_normSq_of_normal normal
    rw [show Basis.count 0 = 1 from rfl, Finset.sum_range_one, normSq_eq_norm_sq] at square
    exact (pow_eq_one_iff_of_nonneg (norm_nonneg _) two_ne_zero).1 square
  rw [overlap]
  rw [show Basis.count 0 = 1 from rfl, Finset.sum_range_one, norm_mul, norm_star, unit _ leftNormal,
    unit _ rightNormal, one_mul]

/-! ## Runs for a comparison -/

variable {definitions : Definitions ℝ} {size : ℕ} {candidate reference : Operation ℝ}
  {preparer : Option (Operation ℝ)} {bench : Bench ℝ}
  {prepared gates forward entries : List (TapeEntry ℝ)}

namespace DiagnosticRunner

open Engine

/-- What is done to a register of its own before an operation is run on it. -/
def makeInput (preparer : Option (Operation ℝ)) (size : ℕ) : EngineAction ℝ Unit :=
  match preparer with
  | none => pure ()
  | some operation => Engine.apply operation (ownQubits size)

theorem onesOf_zero (size : ℕ) : onesOf size 0 = [] := by
  simp [onesOf]

theorem runOn_eq (operation : Operation ℝ) (preparer : Option (Operation ℝ)) (size : ℕ)
    (profile : TargetProfile) :
    runOn operation size preparer 0 profile = Bench.withRegister size (do
      makeInput preparer size
      let before ← Action.inspect fun engine => engine.memory.snapshot
      let input ← Action.ofExcept before
      Engine.restrictedTo profile (Engine.apply operation (ownQubits size))
      let after ← Action.inspect fun engine => engine.memory.snapshot
      let output ← Action.ofExcept after
      return (input, output)) := by
  rw [runOn]
  rw [Int.toNat_natCast, onesOf_zero]
  cases preparer <;> rfl

/-- A preparer makes the prepared state of all zeros. -/
theorem exists_input (acts : ∀ operation, preparer = some operation →
      operation.ActsOn definitions size) :
    ∃ prepared, Performs definitions size (makeInput preparer size) () prepared ∧
      block size 0 (actAll [] prepared origin) = preparedState definitions size preparer ∧
      (preparer = none → prepared = []) := by
  cases preparer with
  | none => exact ⟨[], performs_pure (), block_origin size, fun _ => rfl⟩
  | some operation =>
    rcases (acts operation rfl).exists_gates with ⟨prepared, realizes⟩
    refine ⟨prepared, performs_apply realizes.issued realizes.exact realizes.fit, ?_, nofun⟩
    rw [realizes.multiplies, block_origin, mulVec_single_one]
    rfl

theorem snapshot_of_live {engine : Engine ℝ} {state : StateVector ℝ}
    (live : engine.memory = .holding state) :
    engine.memory.snapshot = .ok (Snapshot.ofState state) := by
  rw [live]
  rfl

/-- A run of an operation that performs gates shows the states before and after them. -/
theorem runOn_completes {operation : Operation ℝ} {profile : TargetProfile} (someQubit : 1 ≤ size)
    (roomy : bench.arena.limit.isExceededBy size = false) (known : bench.definitions = definitions)
    (prepares : Performs definitions size (makeInput preparer size) () prepared)
    (applies : Performs definitions size
      (restrictedTo profile (Engine.apply operation (ownQubits size))) () entries) :
    ∃ input output later, runOn operation size preparer 0 profile bench =
        (.ok (Snapshot.ofState input, Snapshot.ofState output), later) ∧
      input.numQubits = size ∧ input.value = actAll [] prepared origin ∧
      output.numQubits = size ∧ output.value = actAll [] entries (actAll [] prepared origin) := by
  have zeros := holds_basis definitions (Nat.two_pow_pos size)
  rcases prepares.completes _ _ zeros with ⟨between, preparesHere, holdsBetween⟩
  rcases applies.completes between _ holdsBetween with ⟨after, appliesHere, holdsAfter⟩
  rcases holdsBetween.live with ⟨input, inputLive, inputSize, inputValue⟩
  rcases holdsAfter.live with ⟨output, outputLive, outputSize, outputValue⟩
  have done : (do
      makeInput preparer size
      let before ← Action.inspect fun engine => engine.memory.snapshot
      let input ← Action.ofExcept before
      Engine.restrictedTo profile (Engine.apply operation (ownQubits size))
      let after ← Action.inspect fun engine => engine.memory.snapshot
      let output ← Action.ofExcept after
      return (input, output) : EngineAction ℝ (Snapshot ℝ × Snapshot ℝ))
      (start (.holding (.zero (size : Int).toNat)) .unrestricted [] bench.definitions) =
        (.ok (Snapshot.ofState input, Snapshot.ofState output), after) := by
    rw [Int.toNat_natCast, known]
    refine (Action.bind_of_ok preparesHere).trans ?_
    simp only [Action.bind_apply, Action.inspect, Action.ofExcept, snapshot_of_live inputLive,
      appliesHere, snapshot_of_live outputLive]
    rfl
  have some : (1 : Int) ≤ size := by exact_mod_cast someQubit
  rcases Bench.withRegister_of_ok some roomy done outputLive with ⟨later, ran⟩
  rw [runOn_eq]
  exact ⟨input, output, later, ran, inputSize, inputValue, outputSize, outputValue⟩

/-- The outputs overlap as much as the operations agree. -/
theorem overlap_eq_agreement
    (prepares : block size 0 (actAll [] prepared origin) = preparedState definitions size preparer)
    (advances : candidate.Realizes definitions size forward)
    (returns : reference.Realizes definitions size gates) :
    overlap size (actAll [] gates (actAll [] prepared origin))
        (actAll [] forward (actAll [] prepared origin)) =
      agreement definitions size .state candidate reference preparer := by
  rw [overlap_eq_block, returns.multiplies, advances.multiplies, prepares, star_mulVec,
    ← dotProduct_mulVec, mulVec_mulVec]
  rfl

/-- Operations on no qubits differ by a phase only. -/
theorem norm_agreement_of_zero {definitions : Definitions ℝ}
    (preparerActs : ∀ operation, preparer = some operation → operation.ActsOn definitions 0)
    (referenceActs : reference.ActsOn definitions 0)
    (candidateActs : candidate.ActsOn definitions 0) :
    ‖agreement definitions 0 .state candidate reference preparer‖ = 1 := by
  rcases exists_input preparerActs with ⟨prepared, prepares, isPrepared, -⟩
  rcases referenceActs.exists_gates with ⟨gates, returns⟩
  rcases candidateActs.exists_gates with ⟨forward, advances⟩
  have start : overlap 0 origin origin = 1 := (holds_basis definitions one_pos).normal
  have normal := (overlap_actAll prepares.exact prepares.fit origin origin).trans start
  rw [← overlap_eq_agreement isPrepared advances returns]
  exact norm_overlap_of_zero ((overlap_actAll returns.exact returns.fit _ _).trans normal)
    ((overlap_actAll advances.exact advances.fit _ _).trans normal)

section

variable {runner : DiagnosticRunner ℝ} (someQubit : 1 ≤ size)
  (roomy : bench.arena.limit.isExceededBy size = false) (known : bench.definitions = definitions)
  (referenceActs : reference.ActsOn definitions size)
  (candidateActs : candidate.ActsOn definitions size)
  (letsThrough : ∃ entries,
    (candidate.course definitions (ownQubits size) runner.profile).Issues entries ())

include someQubit roomy known referenceActs candidateActs letsThrough

/-- The runs of the reference and of the candidate complete, and their outputs are equal up to a
phase when the agreement is near one in magnitude. -/
theorem runs_complete
    (preparerActs : ∀ operation, preparer = some operation → operation.ActsOn definitions size) :
    ∃ input expected again actual between later,
      runOn reference size preparer 0 .unrestricted bench =
        (.ok (Snapshot.ofState input, Snapshot.ofState expected), between) ∧
      runOn candidate size preparer 0 runner.profile between =
        (.ok (Snapshot.ofState again, Snapshot.ofState actual), later) ∧
      (preparer = none → input = .zero size) ∧
      ∀ tolerance, equalUpToPhase (Snapshot.ofState expected).amplitudes
          (Snapshot.ofState actual).amplitudes tolerance = true ↔
        1 - ‖agreement definitions size .state candidate reference preparer‖ ≤ tolerance := by
  rcases exists_input preparerActs with ⟨prepared, prepares, isPrepared, nothing⟩
  rcases referenceActs.exists_gates with ⟨gates, returns⟩
  rcases candidateActs.exists_gates with ⟨forward, advances⟩
  rcases letsThrough with ⟨entries, issued⟩
  have cut := Operation.course_cutShort definitions candidate (ownQubits size) runner.profile
  rcases (cut.issues issued).unique advances.issued with ⟨rfl, -⟩
  have expects := (performs_apply returns.issued returns.exact returns.fit).restrictedTo
  have applies := performs_restrictedTo_apply issued advances.exact advances.fit
  rcases runOn_completes someQubit roomy known prepares expects with
    ⟨input, expected, between, ran, inputSize, inputValue, expectedSize, expectedValue⟩
  have kept : (between.arena.limit, between.definitions) =
      (bench.arena.limit, bench.definitions) := by
    have keeps := (isErrand_runOn reference size preparer 0 .unrestricted).keeps bench
    rwa [ran] at keeps
  have sameLimit : between.arena.limit = bench.arena.limit := congrArg Prod.fst kept
  have roomyBetween : between.arena.limit.isExceededBy size = false := by
    rwa [sameLimit]
  rcases runOn_completes someQubit roomyBetween ((congrArg Prod.snd kept).trans known) prepares
    applies with
    ⟨again, actual, later, ranAgain, -, -, actualSize, actualValue⟩
  refine ⟨input, expected, again, actual, between, later, ran, ranAgain, ?_, ?_⟩
  · intro noPreparer
    rw [nothing noPreparer] at inputValue
    apply StateVector.ext_value inputSize
    exact inputValue.trans (StateVector.value_basis (Nat.two_pow_pos size)).symm
  · intro tolerance
    have start : overlap size origin origin = 1 :=
      (holds_basis definitions (Nat.two_pow_pos size)).normal
    have normal := (overlap_actAll prepares.exact prepares.fit origin origin).trans start
    have expectedNormal := (overlap_actAll expects.exact expects.fit _ _).trans normal
    have actualNormal := (overlap_actAll applies.exact applies.fit _ _).trans normal
    rw [← expectedValue] at expectedNormal
    rw [← actualValue] at actualNormal
    have compared := StateVector.equalUpToPhase_iff expectedSize actualSize expectedNormal
      actualNormal tolerance
    rw [expectedValue, actualValue, overlap_eq_agreement isPrepared advances returns] at compared
    exact compared

/-- A comparison matches exactly if the magnitude of the agreement is within the tolerance of
one. -/
theorem compare_completes
    (preparerActs : ∀ operation, preparer = some operation → operation.ActsOn definitions size) :
    ∃ comparison later,
      runner.compare candidate reference size preparer bench = (.ok comparison, later) ∧
      (comparison.isMatch = true ↔
        1 - ‖agreement definitions size .state candidate reference preparer‖ ≤
          runner.tolerance) := by
  rcases runs_complete someQubit roomy known referenceActs candidateActs letsThrough preparerActs
    with ⟨input, expected, again, actual, between, later, ran, ranAgain, -, compared⟩
  refine ⟨⟨.ofState input, .ofState expected, .ofState actual, runner.tolerance⟩, later, ?_,
    compared runner.tolerance⟩
  rw [compare, Action.bind_of_ok ran]
  dsimp only
  rw [Action.bind_of_ok ranAgain]
  rfl

/-- Where the outputs for all zeros do not match, the search for a counterexample ends with them. -/
theorem findCounterexample_of_far
    (within : runner.searchLimit.isExceededBy size = .ok false)
    (far : ¬1 - ‖agreement definitions size .state candidate reference none‖ ≤ runner.tolerance) :
    ∃ found later,
      runner.findCounterexample candidate reference size bench = (.ok (some found), later) ∧
      found.input = .ofState (.zero size) ∧
      found.description = "basis input " ++ Snapshot.plainLabel size 0 := by
  have noPreparer : ∀ operation : Operation ℝ, none = some operation →
      operation.ActsOn definitions size := nofun
  rcases runs_complete someQubit roomy known referenceActs candidateActs letsThrough
    noPreparer with
    ⟨input, expected, again, actual, between, later, ran, ranAgain, isZero, compared⟩
  obtain ⟨fuel, states⟩ : ∃ fuel, Basis.count (size : Int).toNat = fuel + 1 :=
    Nat.exists_eq_add_one.2 (Nat.two_pow_pos _)
  have apart : equalUpToPhase (Snapshot.ofState expected).amplitudes
      (Snapshot.ofState actual).amplitudes runner.tolerance = false :=
    Bool.eq_false_of_not_eq_true (mt (compared _).1 far)
  refine ⟨⟨.ofState input, .ofState expected, .ofState actual, _⟩, later, ?_,
    congrArg Snapshot.ofState (isZero rfl), rfl⟩
  have nonneg : ¬(size : Int) < 0 := by omega
  rw [findCounterexample, within]
  simp only [Action.bind_apply, Action.ofExcept, Bool.false_eq_true, if_false, nonneg, states]
  rw [searchFrom, Nat.cast_zero, Action.bind_of_ok ran]
  dsimp only
  rw [Action.bind_of_ok ranAgain]
  dsimp only
  rw [apart]
  rw [isZero rfl]
  rfl

end

end DiagnosticRunner

/-! ## Rejected candidates -/

/-- Where the square of the mean of one and a magnitude is far from one, so is the magnitude. -/
theorem far_of_mean_far {tolerance size : ℝ}
    (far : ((1 + size) / 2) ^ 2 < 1 - tolerance) : tolerance < 1 - size := by
  by_contra near
  nlinarith [sq_nonneg (1 - size)]

theorem SizeLimit.isExceededBy_of_le {limit : SizeLimit} {small large : Int} (le : small ≤ large)
    (roomy : limit.isExceededBy large = false) : limit.isExceededBy small = false := by
  rw [isExceededBy] at roomy ⊢
  cases largest : limit.largest with
  | none => rfl
  | some bound =>
    simp only [largest, decide_eq_false_iff_not] at roomy ⊢
    omega

/-- A size within the limit of the search is not above it. -/
theorem SearchLimit.isExceededBy_of_reaches {limit : SearchLimit} {numQubits : Int}
    (within : limit.reaches numQubits = .ok true) : limit.isExceededBy numQubits = .ok false := by
  cases limit with
  | upTo largest =>
    simp only [reaches, Except.ok.injEq, decide_eq_true_eq] at within
    simp only [isExceededBy, Except.ok.injEq, decide_eq_false_iff_not]
    omega
  | unlimited => rfl
  | undefined => rfl
  | incomparable typeName => cases within

namespace EquivalenceChecker

open Engine

variable {checker : EquivalenceChecker ℝ} {inverse : Operation ℝ} {verdict : Verdict ℝ}
  {later : Bench ℝ}
  (checked : checker.check candidate reference size preparer bench = (.ok verdict, later))
  (acts : candidate.ActsOn bench.definitions size) (proper : candidate.HasProperControls)

include checked acts proper

/-- The profile of a check lets a graded candidate through on a register of its own as well. -/
theorem letsThrough_of_graded (graded : verdict.status ≠ .executionError) :
    ∃ entries, (candidate.course bench.definitions (ownQubits size) checker.profile).Issues
      entries () := by
  rcases issued_of_graded proper checked graded with ⟨entries, issued, -⟩
  have moves : Conduct.confined.Admits (· + 1) :=
    Conduct.admits_of_offsets 1 fun _ relative => relative
  rw [targets_eq, Operation.course_map moves acts.keeps] at issued
  rcases Course.issues_relabel issued with ⟨own, ⟨⟩, alone, -, -⟩
  exact ⟨own, alone⟩

variable (isUndone : reference.IsUndoneBy bench.definitions size inverse)
  (inverseProper : inverse.HasProperControls)
  (preparerFits : PreparerFits bench.definitions size checker.mode preparer)

include isUndone inverseProper preparerFits

/-- Whatever its profile, a check that accepts or rejects does so by the agreement. -/
theorem status_of_graded (graded : verdict.status ≠ .executionError)
    (positive : 0 < checker.tolerance) (quarter : checker.tolerance ≤ 1 / 4) :
    verdict.status = .correct ↔ 1 - checker.tolerance ≤
      ((1 + ‖agreement bench.definitions size checker.mode candidate reference preparer‖) / 2)
        ^ 2 := by
  rcases trial_of_graded checked graded with
    ⟨generated, -, roomy, variant, controlledInverse, pair, -, -, -, builds, -, -⟩
  rcases builds.inverse with ⟨other, otherIs, inverseVariant⟩
  cases otherIs.symm.trans isUndone.built
  rcases acts.exists_gates with ⟨forward, advances⟩
  rcases issued_of_graded proper checked graded with ⟨entries, issued, -⟩
  rw [eq_behindProbe_of_issues acts advances issued] at issued
  rcases check_decides_within positive quarter generated acts advances issued proper
    builds.candidate isUndone inverseProper inverseVariant preparerFits rfl roomy with
    ⟨equivalent, phase, last, decided, decides, -⟩
  rw [checked] at decided
  cases decided
  rw [judge_status, ← decides]
  cases equivalent <;> simp

/-- A check in state mode that rejects is not contradicted by a comparison under the same profile
and with the same tolerance: the comparison completes and the outputs do not match.  Without a
preparer and within its limit, the search for a counterexample then ends at the first input, all
zeros. -/
theorem compare_of_incorrect (incorrect : verdict.status = .incorrect)
    (positive : 0 < checker.tolerance) (quarter : checker.tolerance ≤ 1 / 4)
    (isState : checker.mode = .state) {runner : DiagnosticRunner ℝ}
    (sameTolerance : runner.tolerance = checker.tolerance)
    (sameProfile : runner.profile = checker.profile) {other : Bench ℝ}
    (sameLimit : other.arena.limit = bench.arena.limit)
    (known : other.definitions = bench.definitions) :
    (∃ comparison last,
      runner.compare candidate reference size preparer other = (.ok comparison, last) ∧
      comparison.isMatch = false) ∧
    (preparer = none → runner.searchLimit.reaches size = .ok true → ∃ found last,
      runner.findCounterexample candidate reference size other = (.ok (some found), last) ∧
      found.input = .ofState (.zero size) ∧
      found.description = "basis input " ++ Snapshot.plainLabel size 0) := by
  have graded : verdict.status ≠ .executionError := by
    rw [incorrect]
    exact nofun
  have decides := status_of_graded checked acts proper isUndone inverseProper preparerFits graded
    positive quarter
  rw [incorrect, isState] at decides
  have far := far_of_mean_far (not_le.1 (mt decides.2 nofun))
  have letsThrough := letsThrough_of_graded checked acts proper graded
  rw [← sameProfile] at letsThrough
  rw [← sameTolerance, ← not_le] at far
  have preparerActs : ∀ operation, preparer = some operation →
      operation.ActsOn bench.definitions size := by
    intro operation given
    rcases preparerFits operation given with ⟨-, undone, isUndone⟩
    exact isUndone.acts
  have someQubit : 1 ≤ size := by
    by_contra none
    obtain rfl : size = 0 := by omega
    rw [DiagnosticRunner.norm_agreement_of_zero preparerActs isUndone.acts acts, sub_self,
      sameTolerance] at far
    exact far positive.le
  have roomy : other.arena.limit.isExceededBy size = false := by
    rcases trial_of_graded checked graded with ⟨-, -, roomy, -⟩
    rw [sameLimit]
    apply SizeLimit.isExceededBy_of_le _ roomy
    rw [isState, registerSize]
    omega
  constructor
  · rcases DiagnosticRunner.compare_completes someQubit roomy known isUndone.acts acts letsThrough
      preparerActs with ⟨comparison, last, compared, isMatch⟩
    exact ⟨comparison, last, compared, Bool.eq_false_of_not_eq_true (mt isMatch.1 far)⟩
  · rintro rfl within
    exact DiagnosticRunner.findCounterexample_of_far someQubit roomy known isUndone.acts acts
      letsThrough (SearchLimit.isExceededBy_of_reaches within) far

omit checked acts proper isUndone inverseProper preparerFits

theorem agreement_state_idle_flip : agreement {} 1 .state idle (flip ℝ) none = 0 := by
  change star (preparedState {} 1 none) ⬝ᵥ _ = 0
  rw [dotProduct_preparedState_none, matrix_idle, Matrix.mul_one, preparedState, mulVec_single_one,
    Matrix.col_apply, Matrix.conjTranspose_apply, matrix_flip]
  simp

/-- A runner of diagnoses with the tolerance of the checker in state mode. -/
def stateRunner : DiagnosticRunner ℝ := ⟨.unrestricted, stateChecker.tolerance, .standard⟩

/-- Doing nothing is rejected as a flip, the outputs do not match, and all zeros tell them apart. -/
theorem compare_of_incorrect_of_idle :
    let bench : Bench ℝ := .ofLimit .standard {}
    ∃ verdict later, stateChecker.check idle (flip ℝ) (1 : ℕ) none bench = (.ok verdict, later) ∧
      verdict.status = .incorrect ∧
      (∃ comparison last,
        stateRunner.compare idle (flip ℝ) (1 : ℕ) none bench = (.ok comparison, last) ∧
        comparison.isMatch = false) ∧
      ∃ found last,
        stateRunner.findCounterexample idle (flip ℝ) (1 : ℕ) bench = (.ok (some found), last) ∧
        found.input = .ofState (.zero 1) := by
  intro bench
  have quarter : stateChecker.tolerance ≤ 1 / 4 := le_refl _
  have positive : 0 < stateChecker.tolerance := one_div_pos.2 four_pos
  have roomy : bench.arena.limit.isExceededBy (registerSize stateChecker.mode (1 : ℕ)) = false :=
    rfl
  rcases check_decides positive quarter rfl rfl idle_acts trivial rfl flip_isUndone trivial rfl
    preparerFits_none rfl roomy with ⟨equivalent, phase, later, checked, decides, -⟩
  have refused : ¬equivalent = true := by
    change equivalent = true ↔
      1 - 1 / 4 ≤ ((1 + ‖agreement {} 1 .state idle (flip ℝ) none‖) / 2) ^ 2 at decides
    rw [decides, agreement_state_idle_flip, norm_zero]
    norm_num
  have incorrect : (judge stateChecker.mode idle.name (flip ℝ).name
      (.decided equivalent phase)).status = .incorrect := by
    rw [judge_status, if_neg refused]
  have sameTolerance : stateRunner.tolerance = stateChecker.tolerance := rfl
  have sameProfile : stateRunner.profile = stateChecker.profile := rfl
  have sameLimit : bench.arena.limit = bench.arena.limit := rfl
  rcases compare_of_incorrect checked idle_acts trivial flip_isUndone trivial preparerFits_none
    incorrect positive quarter rfl sameTolerance sameProfile sameLimit rfl with
    ⟨compared, searched⟩
  rcases searched rfl rfl with ⟨found, last, isFound, input, -⟩
  exact ⟨_, later, checked, incorrect, compared, found, last, isFound, input⟩

/-- The adjoint of a flip that is wrapped into a negative number of controls. -/
def overdrawnAdjoint : Operation ℝ :=
  let body : Operation ℝ :=
    .routine 2 "body" .all (.cons (.primitive (.fixed .x) [.given 0]) .nil) .derived
  .linked (.controlled (.derivedAdjoint body) (-1)
    (Operation.controlledName (-1) (Operation.derivedAdjoint body).name)) (overdrawn ℝ)

theorem overdrawnAdjoint_realizes : overdrawnAdjoint.Realizes {} 1 [⟨.fixed .x, [0], []⟩] := by
  constructor
  case issued => exact .issue (.done ())
  case exact => exact flip_realizes.exact
  case fit => exact flip_realizes.fit

theorem overdrawn_isUndone : (overdrawn ℝ).IsUndoneBy {} 1 overdrawnAdjoint := by
  have matrix : overdrawnAdjoint.matrix {} 1 = (flip ℝ).matrix {} 1 := by
    ext row column
    rw [overdrawnAdjoint_realizes.matrix_apply, flip_realizes.matrix_apply]
  refine ⟨overdrawn_acts, overdrawnAdjoint_realizes.actsOn rfl ?_, rfl, ?_⟩
  · exact overdrawn_acts.keeps
  · rw [matrix, matrix_overdrawn]
    exact flip_isUndone.takesBack

/-- A flip that is wrapped into a negative number of controls does what a flip does and its adjoint
takes it back.  It is rejected as a flip, but the outputs match. -/
theorem matched_of_overdrawn :
    let bench : Bench ℝ := .ofLimit .standard {}
    (∃ undone, (overdrawn ℝ).IsUndoneBy {} 1 undone) ∧ (flip ℝ).IsUndoneBy {} 1 (flip ℝ) ∧
      (∃ verdict later,
        stateChecker.check (overdrawn ℝ) (flip ℝ) (1 : ℕ) none bench = (.ok verdict, later) ∧
        verdict.status = .incorrect) ∧
      ∃ comparison last,
        stateRunner.compare (overdrawn ℝ) (flip ℝ) (1 : ℕ) none bench = (.ok comparison, last) ∧
        comparison.isMatch = true := by
  intro bench
  have same : (overdrawn ℝ).matrix {} 1 = (1 : ℂ) • (flip ℝ).matrix {} 1 := by
    rw [one_smul, matrix_overdrawn]
  have preparation : Preparation {} .state 1 none none 1 [] [] := preparation_state_none
  have roomy : bench.arena.limit.isExceededBy (1 : ℕ) = false := rfl
  have letsThrough : ∃ entries,
      ((overdrawn ℝ).course {} (ownQubits 1) stateRunner.profile).Issues entries () :=
    ⟨_, overdrawn_realizes.issued⟩
  have noPreparer : ∀ operation : Operation ℝ, none = some operation → operation.ActsOn {} 1 :=
    nofun
  rcases DiagnosticRunner.compare_completes (le_refl 1) roomy rfl flip_acts overdrawn_acts
    letsThrough noPreparer with ⟨comparison, last, compared, isMatch⟩
  refine ⟨?_, flip_isUndone, overdrawn_incorrect preparation_state_none agreement_state_idle_flip,
    comparison, last, compared, isMatch.2 ?_⟩
  · exact ⟨_, overdrawn_isUndone⟩
  · change 1 - ‖agreement {} 1 .state (overdrawn ℝ) (flip ℝ) none‖ ≤ 1 / 4
    rw [agreement_of_smul same, agreement_self flip_realizes.matrix_unitary preparation.normal,
      mul_one, norm_one, sub_self]
    exact one_div_nonneg.2 zero_le_four

end EquivalenceChecker

end QuantumKata

end
