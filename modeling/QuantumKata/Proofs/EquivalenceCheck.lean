import QuantumKata.Proofs.Preparation

/-!
# When operations are equivalent

A check accepts a candidate `U` against a reference `V` exactly if the square of the mean of one and
the magnitude of `τ` is within the tolerance of one.  Here `τ` is the normalized trace of the product
of the conjugate transpose of `V` with `U` in operator mode, and the mean of this product in the
prepared state in state mode.  A check that accepts reports the angle of `τ` as the global phase.

This holds for operations that act on their qubits by themselves, and for tolerances of at most a
quarter.  The controlled variants have to be controlled, so neither the candidate nor the inverse of
the reference may be a wrapper around a negative number of controls.
-/

noncomputable section

namespace QuantumKata

open Complex Matrix

namespace EquivalenceChecker

open Engine

variable {definitions : Definitions ℝ} {size : ℕ}

/-! ## The verdict -/

theorem judge_status (mode : EquivalenceMode) (candidate reference : String) (equivalent : Bool)
    (phase : Option ℝ) :
    (judge mode candidate reference (.decided equivalent phase)).status =
      if equivalent then .correct else .incorrect := by
  cases equivalent <;> rfl

/-- A check ends with the verdict on what its trial decides. -/
theorem check_of_trial {checker : EquivalenceChecker ℝ}
    {candidate reference controlledCandidate controlledInverse : Operation ℝ}
    {preparer : Option (Operation ℝ)} {pair : Option (Operation ℝ × Operation ℝ)} {numQubits : ℕ}
    {bench : Bench ℝ} {equivalent : Bool} {phase : Option ℝ} {after : Engine ℝ} {last : ℕ → ℂ}
    (agrees : checker.Agrees candidate reference size preparer)
    (builds : Builds candidate reference preparer controlledCandidate controlledInverse pair)
    (generated : checker.generator = .ok ())
    (register : registerSize checker.mode size = 1 + numQubits)
    (roomy : bench.arena.limit.isExceededBy (registerSize checker.mode size) = false)
    (known : bench.definitions = definitions)
    (decided : checker.trial size candidate controlledCandidate reference controlledInverse pair
      (start (.holding (.basis (1 + numQubits) 0)) .unrestricted [] definitions) =
        (.ok (.decided equivalent phase), after))
    (holds : after.Holds definitions (1 + numQubits) last) :
    ∃ later, checker.check candidate reference size preparer bench =
      (.ok (judge checker.mode candidate.name reference.name (.decided equivalent phase)),
        later) := by
  have registerNat : (registerSize checker.mode size).toNat = 1 + numQubits := by
    rw [register]
    omega
  have someQubit : 1 ≤ registerSize checker.mode size := by
    rw [register]
    omega
  have done : (do
      Action.ofExcept checker.generator
      checker.trial size candidate controlledCandidate reference controlledInverse pair :
        EngineAction ℝ (TrialEnd ℝ))
      (start (.holding (.zero (registerSize checker.mode size).toNat)) .unrestricted []
        bench.definitions) = (.ok (.decided equivalent phase), after) := by
    rw [registerNat, known, generated]
    exact decided
  rcases holds.live with ⟨state, live, -, -⟩
  rcases Bench.withRegister_of_ok someQubit roomy done live with ⟨later, ran⟩
  refine ⟨later, ?_⟩
  rw [builds.check_eq agrees, Action.bind_of_ok ran]
  rfl

/-! ## A flip -/

theorem flip_realizes : (flip ℝ).Realizes {} 1 [⟨.fixed .x, [0], []⟩] := by
  constructor
  case issued => exact .issue (.done ())
  case exact =>
    exact List.forall_mem_singleton.2 (isExact_single (Gate.isUnitary_fixed .x) rfl 0 [])
  case fit =>
    have fits : QubitsFit 1 [0] := by decide
    exact List.forall_mem_singleton.2 fits

theorem flip_acts : (flip ℝ).ActsOn {} 1 :=
  flip_realizes.actsOn rfl (Gate.isUnitary_fixed .x)

theorem matrix_flip (row column : Fin (2 ^ 1)) :
    (flip ℝ).matrix {} 1 row column = if row = column then 0 else 1 := by
  have flipped := act_flip 0 [] (basisAmplitudes column) row
  rw [flip_realizes.matrix_apply]
  refine Eq.trans flipped ?_
  fin_cases row <;> fin_cases column <;> rfl

theorem flip_isUndone : (flip ℝ).IsUndoneBy {} 1 (flip ℝ) := by
  refine ⟨flip_acts, flip_acts, rfl, ?_⟩
  ext row column
  rw [Matrix.mul_apply]
  simp only [matrix_flip]
  fin_cases row <;> fin_cases column <;> simp

/-! ## The formula -/

/-- What a check needs for coming to a decision, apart from what is asked of the candidate in the
end: that it has a controlled variant and the profile lets it through.  The adjoints of the reference
and of the preparer need not take back what these do. -/
structure Admits (checker : EquivalenceChecker ℝ) (size : ℕ)
    (candidate reference inverse : Operation ℝ) (preparer : Option (Operation ℝ))
    (pair : Option (Operation ℝ × Operation ℝ)) (bench : Bench ℝ) : Prop where
  generated : checker.generator = .ok ()
  roomy : bench.arena.limit.isExceededBy (registerSize checker.mode size) = false
  acts : candidate.ActsOn bench.definitions size
  proper : candidate.HasProperControls
  arity : reference.numQubits = size
  undoing : reference.adjoint = .ok inverse
  inverseActs : inverse.ActsOn bench.definitions size
  inverseProper : inverse.HasProperControls
  inverseVariant : ∃ controlled, inverse.controlledBy 1 = .ok controlled
  pairing : preparerPair preparer = .ok pair
  prepares : ∀ operation undo, pair = some (operation, undo) → checker.mode = .state ∧
    operation.ActsOn bench.definitions size ∧ undo.ActsOn bench.definitions size

section

variable {checker : EquivalenceChecker ℝ} {candidate reference inverse : Operation ℝ}
  {preparer : Option (Operation ℝ)} {pair : Option (Operation ℝ × Operation ℝ)} {bench : Bench ℝ}

theorem Admits.exists_staging
    (admits : checker.Admits size candidate reference inverse preparer pair bench) :
    ∃ numQubits prepared unprepared,
      Staging bench.definitions checker.mode size pair numQubits prepared unprepared := by
  cases pair with
  | none =>
    cases checker.mode with
    | operator => exact ⟨_, _, _, staging_operator none⟩
    | state => exact ⟨_, _, _, staging_state_none⟩
  | some both =>
    rcases both with ⟨operation, undo⟩
    rcases admits.prepares operation undo rfl with ⟨isState, acts, undoActs⟩
    rw [isState]
    exact ⟨size, staging_state_some acts undoActs⟩

theorem Admits.agrees
    (admits : checker.Admits size candidate reference inverse preparer pair bench) :
    checker.Agrees candidate reference size preparer := by
  refine ⟨admits.arity, admits.acts.arity, ?_⟩
  rintro operation rfl
  have pairing : operation.adjoint.map (fun undo => some (operation, undo)) = .ok pair :=
    admits.pairing
  rcases Fault.map_eq_ok_iff.1 pairing with ⟨undo, -, rfl⟩
  rcases admits.prepares operation undo rfl with ⟨isState, acts, -⟩
  exact ⟨isState, acts.arity⟩

/-- The trial of a check decides by what is left at zero, as long as the profile lets the gates of
the candidate through. -/
theorem Admits.decides
    (admits : checker.Admits size candidate reference inverse preparer pair bench)
    (positive : 0 < checker.tolerance) {forward : List (TapeEntry ℝ)}
    (advances : candidate.Realizes bench.definitions size forward) {controlledCandidate : Operation ℝ}
    (variant : candidate.controlledBy 1 = .ok controlledCandidate)
    (issued : (candidate.course bench.definitions (targets size) checker.profile).Issues
      (behindProbe forward) ()) :
    let low := leftAtZero bench.definitions size checker.mode pair 1
    let high := leftAtZero bench.definitions size checker.mode pair
      (inverse.matrix bench.definitions size * candidate.matrix bench.definitions size)
    ∃ equivalent later, checker.check candidate reference size preparer bench =
        (.ok (judge checker.mode candidate.name reference.name
          (.decided equivalent (phaseRead checker.tolerance low high))), later) ∧
      (equivalent = true ↔ Accepts checker.tolerance low high) := by
  intro low high
  rcases admits.exists_staging with ⟨numQubits, prepared, unprepared, staging⟩
  rcases admits.inverseActs.exists_gates with ⟨backward, returns⟩
  rcases admits.inverseVariant with ⟨controlledInverse, inverseVariant⟩
  have holds := holds_basis bench.definitions (Nat.two_pow_pos (1 + numQubits))
  have applies := performs_applyAs_within .candidate candidate.name (performs_controlled advances
    staging.enough admits.acts.arity issued admits.proper variant)
  have undoes := performs_applyAs_within .reference reference.name (performs_controlled returns
    staging.enough admits.inverseActs.arity (issued_onTargets admits.inverseActs returns)
    admits.inverseProper inverseVariant)
  rcases trial_decides positive staging.prepares applies undoes
    staging.unprepares staging.preparedFit
    (fun entry member => (advances.fit entry member).of_le staging.enough)
    (fun entry member => (returns.fit entry member).of_le staging.enough)
    staging.unpreparedFit (staging.leaves (multiplies_nil size))
    (staging.leavesBetween advances returns) holds with
    ⟨equivalent, after, last, done, holdsAfter, decides⟩
  have builds : Builds candidate reference preparer controlledCandidate controlledInverse pair :=
    ⟨⟨inverse, admits.undoing, inverseVariant⟩, admits.pairing, variant⟩
  rcases check_of_trial admits.agrees builds admits.generated staging.register admits.roomy rfl done
    holdsAfter with ⟨later, checked⟩
  exact ⟨equivalent, later, checked, decides⟩

/-- Where the adjoints take back what the operations do, the magnitude of the agreement decides, at
least for small tolerances. -/
theorem check_decides_within {controlledCandidate controlledInverse : Operation ℝ}
    {forward : List (TapeEntry ℝ)}
    (positive : 0 < checker.tolerance) (quarter : checker.tolerance ≤ 1 / 4)
    (generated : checker.generator = .ok ())
    (candidateActs : candidate.ActsOn definitions size)
    (advances : candidate.Realizes definitions size forward)
    (issued : (candidate.course definitions (targets size) checker.profile).Issues
      (behindProbe forward) ())
    (candidateProper : candidate.HasProperControls)
    (candidateVariant : candidate.controlledBy 1 = .ok controlledCandidate)
    (referenceIsUndone : reference.IsUndoneBy definitions size inverse)
    (inverseProper : inverse.HasProperControls)
    (inverseVariant : inverse.controlledBy 1 = .ok controlledInverse)
    (preparerFits : PreparerFits definitions size checker.mode preparer)
    (known : bench.definitions = definitions)
    (roomy : bench.arena.limit.isExceededBy (registerSize checker.mode size) = false) :
    ∃ equivalent phase later, checker.check candidate reference size preparer bench =
        (.ok (judge checker.mode candidate.name reference.name (.decided equivalent phase)),
          later) ∧
      (equivalent = true ↔ 1 - checker.tolerance ≤
        ((1 + ‖agreement definitions size checker.mode candidate reference preparer‖) / 2) ^ 2) ∧
      (equivalent = true → phase =
        some (arg (agreement definitions size checker.mode candidate reference preparer))) := by
  subst known
  rcases exists_preparation preparerFits with
    ⟨pair, numQubits, prepared, unprepared, pairing, preparation, prepares⟩
  have admits : checker.Admits size candidate reference inverse preparer pair bench :=
    { generated, roomy
      acts := candidateActs
      proper := candidateProper
      arity := referenceIsUndone.acts.arity
      undoing := referenceIsUndone.built
      inverseActs := referenceIsUndone.inverseActs
      inverseProper
      inverseVariant := ⟨_, inverseVariant⟩
      pairing, prepares }
  rcases referenceIsUndone.acts.exists_gates with ⟨gates, realizes⟩
  rcases admits.decides positive advances candidateVariant issued with
    ⟨equivalent, later, checked, decides⟩
  rw [preparation.restored,
    preparation.agreed (realizes.matrix_eq_of_mul referenceIsUndone.takesBack)] at checked decides
  exact ⟨equivalent, _, later, checked, decides.trans (accepts_one_iff positive quarter),
    fun accepted => phaseRead_of_accepts positive quarter (decides.1 accepted)⟩

/-- Without a profile every candidate is let through. -/
theorem check_decides {controlledCandidate controlledInverse : Operation ℝ}
    (positive : 0 < checker.tolerance) (quarter : checker.tolerance ≤ 1 / 4)
    (unrestricted : checker.profile = .unrestricted) (generated : checker.generator = .ok ())
    (candidateActs : candidate.ActsOn definitions size)
    (candidateProper : candidate.HasProperControls)
    (candidateVariant : candidate.controlledBy 1 = .ok controlledCandidate)
    (referenceIsUndone : reference.IsUndoneBy definitions size inverse)
    (inverseProper : inverse.HasProperControls)
    (inverseVariant : inverse.controlledBy 1 = .ok controlledInverse)
    (preparerFits : PreparerFits definitions size checker.mode preparer)
    (known : bench.definitions = definitions)
    (roomy : bench.arena.limit.isExceededBy (registerSize checker.mode size) = false) :
    ∃ equivalent phase later, checker.check candidate reference size preparer bench =
        (.ok (judge checker.mode candidate.name reference.name (.decided equivalent phase)),
          later) ∧
      (equivalent = true ↔ 1 - checker.tolerance ≤
        ((1 + ‖agreement definitions size checker.mode candidate reference preparer‖) / 2) ^ 2) ∧
      (equivalent = true → phase =
        some (arg (agreement definitions size checker.mode candidate reference preparer))) := by
  rcases candidateActs.exists_gates with ⟨forward, advances⟩
  have issued := issued_onTargets candidateActs advances
  rw [← unrestricted] at issued
  exact check_decides_within positive quarter generated candidateActs advances issued
    candidateProper candidateVariant referenceIsUndone inverseProper inverseVariant preparerFits
    known roomy

end

/-- An operation that differs by a phase agrees by this phase. -/
theorem agreement_of_turn {reference inverse candidate : Operation ℝ} {mode : EquivalenceMode}
    {preparer : Option (Operation ℝ)}
    (referenceIsUndone : reference.IsUndoneBy definitions size inverse)
    (preparerFits : PreparerFits definitions size mode preparer) {angle : ℝ}
    (same : candidate.matrix definitions size =
      exp (angle * I) • reference.matrix definitions size) :
    agreement definitions size mode candidate reference preparer = exp (angle * I) := by
  rcases exists_preparation preparerFits with
    ⟨pair, numQubits, prepared, unprepared, -, preparation, -⟩
  rcases referenceIsUndone.acts.exists_gates with ⟨gates, realizes⟩
  exact agreement_of_phase realizes.matrix_unitary preparation.normal same

/-- An angle is the angle of its direction up to full turns. -/
theorem exists_turns (angle : ℝ) :
    ∃ turns : ℤ, arg (exp (angle * I)) = angle + turns * (2 * Real.pi) := by
  have polar := norm_mul_exp_arg_mul_I (exp (angle * I))
  rw [norm_exp_ofReal_mul_I, ofReal_one, one_mul] at polar
  rcases exp_eq_exp_iff_exists_int.1 polar with ⟨turns, equal⟩
  refine ⟨turns, ?_⟩
  have factored : ((arg (exp (angle * I)) : ℝ) : ℂ) * I =
      ((angle + turns * (2 * Real.pi) : ℝ) : ℂ) * I := by
    rw [equal]
    push_cast
    ring
  exact_mod_cast mul_right_cancel₀ I_ne_zero factored

/-- A check of operations that act on their qubits by themselves ends with a verdict that accepts or
rejects.  It accepts exactly if the square of the mean of one and the magnitude of the agreement is
within the tolerance of one, and then it reports the angle of the agreement; so it accepts operations
that differ by a phase, and reports this phase. -/
theorem check_correct_iff {checker : EquivalenceChecker ℝ}
    {candidate reference inverse controlledCandidate controlledInverse : Operation ℝ}
    {preparer : Option (Operation ℝ)} {bench : Bench ℝ}
    (positive : 0 < checker.tolerance) (quarter : checker.tolerance ≤ 1 / 4)
    (unrestricted : checker.profile = .unrestricted) (generated : checker.generator = .ok ())
    (candidateActs : candidate.ActsOn definitions size)
    (candidateProper : candidate.HasProperControls)
    (candidateVariant : candidate.controlledBy 1 = .ok controlledCandidate)
    (referenceIsUndone : reference.IsUndoneBy definitions size inverse)
    (inverseProper : inverse.HasProperControls)
    (inverseVariant : inverse.controlledBy 1 = .ok controlledInverse)
    (preparerFits : PreparerFits definitions size checker.mode preparer)
    (known : bench.definitions = definitions)
    (roomy : bench.arena.limit.isExceededBy (registerSize checker.mode size) = false) :
    ∃ verdict later, checker.check candidate reference size preparer bench = (.ok verdict, later) ∧
      (verdict.status = .correct ∨ verdict.status = .incorrect) ∧
      (verdict.status = .correct ↔ 1 - checker.tolerance ≤
        ((1 + ‖agreement definitions size checker.mode candidate reference preparer‖) / 2) ^ 2) ∧
      (verdict.status = .correct → verdict.globalPhase =
        some (arg (agreement definitions size checker.mode candidate reference preparer))) ∧
      ∀ angle : ℝ, candidate.matrix definitions size =
          exp (angle * I) • reference.matrix definitions size →
        verdict.status = .correct ∧
          ∃ turns : ℤ, verdict.globalPhase = some (angle + turns * (2 * Real.pi)) := by
  rcases check_decides positive quarter unrestricted generated candidateActs candidateProper
    candidateVariant referenceIsUndone inverseProper inverseVariant preparerFits known roomy with
    ⟨equivalent, phase, later, checked, decides, phaseIs⟩
  have accepts : equivalent = true ↔
      (judge checker.mode candidate.name reference.name
        (.decided equivalent phase)).status = .correct := by
    rw [judge_status]
    cases equivalent <;> simp
  have reports : equivalent = true → (judge checker.mode candidate.name reference.name
      (.decided equivalent phase)).globalPhase =
        some (arg (agreement definitions size checker.mode candidate reference preparer)) := by
    intro accepted
    rw [← phaseIs accepted, accepted]
    rfl
  refine ⟨_, later, checked, ?_, accepts.symm.trans decides, fun correct =>
    reports (accepts.2 correct), ?_⟩
  · rw [judge_status]
    cases equivalent <;> simp
  · intro angle same
    have turned : agreement definitions size checker.mode candidate reference preparer =
        exp (angle * I) := agreement_of_turn referenceIsUndone preparerFits same
    have accepted : equivalent = true := by
      rw [decides, turned, norm_exp_ofReal_mul_I]
      norm_num
      exact positive.le
    rcases exists_turns angle with ⟨turns, angleIs⟩
    refine ⟨accepts.1 accepted, turns, ?_⟩
    rw [reports accepted, turned, angleIs]

/-- A flip is checked against itself. -/
theorem check_correct_of_flip :
    let checker : EquivalenceChecker ℝ :=
      { tolerance := 1 / 4, mode := .operator, profile := .unrestricted }
    ∃ verdict later,
      checker.check (flip ℝ) (flip ℝ) (1 : ℕ) none (.ofLimit .standard {}) = (.ok verdict, later) ∧
      verdict.status = .correct ∧
      ∃ turns : ℤ, verdict.globalPhase = some (0 + turns * (2 * Real.pi)) := by
  intro checker
  have quarter : checker.tolerance ≤ 1 / 4 := le_refl _
  have positive : 0 < checker.tolerance := one_div_pos.2 four_pos
  have noPreparer : PreparerFits {} 1 checker.mode none := fun _ isPreparer => nomatch isPreparer
  have noTurn : (flip ℝ).matrix {} 1 = exp ((0 : ℝ) * I) • (flip ℝ).matrix {} 1 := by
    rw [ofReal_zero, zero_mul, exp_zero, one_smul]
  have roomy : (Bench.ofLimit .standard {} : Bench ℝ).arena.limit.isExceededBy
      (registerSize checker.mode (1 : ℕ)) = false := rfl
  rcases check_correct_iff positive quarter rfl rfl flip_acts trivial rfl flip_isUndone trivial rfl
    noPreparer rfl roomy with ⟨verdict, later, checked, -, -, -, turned⟩
  exact ⟨verdict, later, checked, turned 0 noTurn⟩

/-- A check of a candidate against a flip decides by the two amplitudes at zero behind the probe. -/
theorem check_flip_decides {mode : EquivalenceMode} {numQubits : ℕ}
    {prepared unprepared : List (TapeEntry ℝ)}
    (preparation : Preparation {} mode 1 none none numQubits prepared unprepared)
    {candidate wrapped : Operation ℝ} {advanced : List (TapeEntry ℝ)}
    (arity : candidate.numQubits = 1) (variant : candidate.controlledBy 1 = .ok wrapped)
    (advances : Performs {} (1 + numQubits) (applyAs .candidate candidate.name .unrestricted wrapped
      (probe :: targets 1)) none advanced)
    {overlapping : ℂ}
    (low : branch false (trialAmplitudes (behindProbe prepared) advanced
      (underProbe [⟨.fixed .x, [0], []⟩]) (behindProbe unprepared)) 0 = evenWeight)
    (high : branch true (trialAmplitudes (behindProbe prepared) advanced
      (underProbe [⟨.fixed .x, [0], []⟩]) (behindProbe unprepared)) 0 = evenWeight * overlapping) :
    let checker : EquivalenceChecker ℝ := { tolerance := 1 / 4, mode, profile := .unrestricted }
    ∃ equivalent phase later,
      checker.check candidate (flip ℝ) (1 : ℕ) none (.ofLimit .standard {}) =
        (.ok (judge mode candidate.name (flip ℝ).name (.decided equivalent phase)), later) ∧
      (equivalent = true ↔ 1 - 1 / 4 ≤ ((1 + ‖overlapping‖) / 2) ^ 2) := by
  intro checker
  have quarter : checker.tolerance ≤ 1 / 4 := le_refl _
  have positive : 0 < checker.tolerance := one_div_pos.2 four_pos
  have returns := performs_applyAs_within .reference (flip ℝ).name (performs_controlled
    flip_realizes preparation.enough rfl (issued_onTargets flip_acts flip_realizes) trivial rfl)
  have lowIs := low.trans (mul_one evenWeight).symm
  rcases trial_decides_of_branches positive preparation.prepares advances returns
    preparation.unprepares lowIs high (holds_basis {} (Nat.two_pow_pos _)) with
    ⟨equivalent, after, last, done, holds, decides⟩
  have agrees : checker.Agrees candidate (flip ℝ) 1 none :=
    ⟨rfl, arity, fun _ isPreparer => nomatch isPreparer⟩
  have builds : Builds candidate (flip ℝ) none wrapped _ none :=
    ⟨⟨flip ℝ, rfl, rfl⟩, rfl, variant⟩
  have roomy : (Bench.ofLimit .standard {} : Bench ℝ).arena.limit.isExceededBy
      (registerSize checker.mode (1 : ℕ)) = false := by
    cases mode <;> rfl
  rcases check_of_trial agrees builds rfl preparation.register roomy rfl done holds with
    ⟨later, checked⟩
  exact ⟨equivalent, _, later, checked, decides.trans (accepts_one_iff positive quarter)⟩

/-! ## Wrappers around a negative number of controls -/

theorem overdrawn_realizes : (overdrawn ℝ).Realizes {} 1 [⟨.fixed .x, [0], []⟩] := by
  constructor
  case issued => exact .issue (.done ())
  case exact => exact flip_realizes.exact
  case fit => exact flip_realizes.fit

theorem overdrawn_acts : (overdrawn ℝ).ActsOn {} 1 := by
  apply overdrawn_realizes.actsOn rfl
  refine ⟨⟨Gate.isUnitary_fixed .x, ?_⟩, trivial⟩
  intro target among qubit
  rw [List.mem_singleton.1 among]
  exact nofun

theorem matrix_overdrawn : (overdrawn ℝ).matrix {} 1 = (flip ℝ).matrix {} 1 := by
  ext row column
  rw [overdrawn_realizes.matrix_apply, flip_realizes.matrix_apply]

/-- A flip of the probe after its superposition does nothing. -/
theorem trialAmplitudes_flip {prepared returned unprepared : List (TapeEntry ℝ)} {numQubits : ℕ}
    (fit : ∀ entry ∈ prepared, entry.Fits numQubits []) :
    trialAmplitudes (behindProbe prepared) [⟨.fixed .x, [probe], []⟩] returned unprepared =
      trialAmplitudes (behindProbe prepared) (underProbe []) returned unprepared := by
  have balanced := branch_superposed fit
  rw [trialAmplitudes]
  congr 2
  funext index
  have flipped := act_flip 0 [] (actAll [] [⟨.fixed .h, [probe], []⟩]
    (actAll [] (behindProbe prepared) origin)) index
  refine Eq.trans flipped ?_
  have split := Nat.bit_bodd_div2 index
  rw [← split, Basis.setBit_bit_zero, Nat.testBit_bit_zero]
  exact congrFun ((balanced _).trans (balanced _).symm) _

/-- The operation without any steps. -/
def idle : Operation ℝ := .circuit 1 "idle" .nil

theorem idle_realizes : idle.Realizes {} 1 [] := by
  constructor
  case issued => exact .done ()
  case exact => simp
  case fit => simp

theorem idle_acts : idle.ActsOn {} 1 := idle_realizes.actsOn rfl trivial

theorem matrix_idle : idle.matrix {} 1 = 1 := by
  ext row column
  rw [idle_realizes.matrix_apply, Matrix.one_apply]
  rw [actAll_nil]
  simp [basisAmplitudes, Fin.ext_iff]

theorem agreement_idle_flip : agreement {} 1 .operator idle (flip ℝ) none = 0 := by
  have diagonal : ((flip ℝ).matrix {} 1).trace = 0 := by
    simp [Matrix.trace, matrix_flip]
  simp [agreement, matrix_idle, Matrix.trace_conjTranspose, diagonal]

/-- The controlled variant of a flip that is wrapped into a negative number of controls is not
controlled and flips the probe, so it is not accepted as a flip. -/
theorem overdrawn_incorrect {mode : EquivalenceMode} {numQubits : ℕ}
    {prepared unprepared : List (TapeEntry ℝ)}
    (preparation : Preparation {} mode 1 none none numQubits prepared unprepared)
    (apart : agreement {} 1 mode idle (flip ℝ) none = 0) :
    let checker : EquivalenceChecker ℝ := { tolerance := 1 / 4, mode, profile := .unrestricted }
    ∃ verdict later,
      checker.check (overdrawn ℝ) (flip ℝ) (1 : ℕ) none (.ofLimit .standard {}) =
        (.ok verdict, later) ∧
      verdict.status = .incorrect := by
  intro checker
  let wrapped : Operation ℝ :=
    .controlled (.routine 2 "body" .all (.cons (.primitive (.fixed .x) [.given 0]) .nil) .derived)
      0 (Operation.controlledName 0 "body")
  have issued : (wrapped.course {} (probe :: targets 1) .unrestricted).Issues
      [⟨.fixed .x, [probe], []⟩] () := .issue (.done ())
  have advances : Performs {} (1 + numQubits) (applyAs .candidate (overdrawn ℝ).name .unrestricted
      wrapped (probe :: targets 1)) none [⟨.fixed .x, [probe], []⟩] :=
    performs_applyAs .candidate (overdrawn ℝ).name (performs_apply issued flip_realizes.exact
      (List.forall_mem_singleton.2 probe_fits))
  have low : branch false (trialAmplitudes (behindProbe prepared) [⟨.fixed .x, [probe], []⟩]
      (underProbe [⟨.fixed .x, [0], []⟩]) (behindProbe unprepared)) 0 = evenWeight := by
    rw [trialAmplitudes_flip preparation.preparedFit, branch_false_trial preparation.preparedFit
      preparation.unpreparedFit, Pi.smul_apply, preparation.restores, smul_eq_mul, mul_one]
  have high : branch true (trialAmplitudes (behindProbe prepared) [⟨.fixed .x, [probe], []⟩]
      (underProbe [⟨.fixed .x, [0], []⟩]) (behindProbe unprepared)) 0 = evenWeight * 0 := by
    have nothing : ∀ entry ∈ ([] : List (TapeEntry ℝ)), entry.Fits numQubits [] := by simp
    have backwardFit : ∀ entry ∈ [(⟨.fixed .x, [0], []⟩ : TapeEntry ℝ)],
        entry.Fits numQubits [] :=
      fun entry member => (flip_realizes.fit entry member).of_le preparation.enough
    have inverse := flip_realizes.matrix_eq_of_mul flip_isUndone.takesBack
    rw [trialAmplitudes_flip preparation.preparedFit, branch_true_trial preparation.preparedFit
      nothing backwardFit preparation.unpreparedFit, Pi.smul_apply,
      preparation.overlaps idle_realizes flip_realizes inverse, smul_eq_mul, apart]
  rcases check_flip_decides preparation rfl rfl advances low high with
    ⟨equivalent, phase, later, checked, decides⟩
  refine ⟨_, later, checked, ?_⟩
  have refused : ¬equivalent = true := by
    rw [decides, norm_zero]
    norm_num
  rw [judge_status, if_neg refused]

/-- A flip that is wrapped into a negative number of controls does what a flip does, but it is not
accepted as a flip. -/
theorem check_of_overdrawn :
    let checker : EquivalenceChecker ℝ :=
      { tolerance := 1 / 4, mode := .operator, profile := .unrestricted }
    (overdrawn ℝ).ActsOn {} 1 ∧ (flip ℝ).IsUndoneBy {} 1 (flip ℝ) ∧
      (overdrawn ℝ).matrix {} 1 = (flip ℝ).matrix {} 1 ∧
      ∃ verdict later,
        checker.check (overdrawn ℝ) (flip ℝ) (1 : ℕ) none (.ofLimit .standard {}) =
          (.ok verdict, later) ∧
        verdict.status = .incorrect := by
  intro checker
  exact ⟨overdrawn_acts, flip_isUndone, matrix_overdrawn,
    overdrawn_incorrect preparation_operator agreement_idle_flip⟩

end EquivalenceChecker

end QuantumKata

end
