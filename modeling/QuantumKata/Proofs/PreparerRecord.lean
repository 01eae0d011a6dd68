import QuantumKata.Exercise.Basic
import QuantumKata.Proofs.Capability
import QuantumKata.Proofs.Checking

/-!
# The preparer in the record of an exercise

An exercise is put together, checked and diagnosed differently if it has a preparer.  Its record
asks something else: whether the preparer has something to do.  The two come apart for circuits
without steps, which are preparers that do nothing, and the record leaves them out.

A checker does tell such a preparer from none.  In operator mode every preparer is refused, so that
what a checker makes of an exercise is independent of its preparer only if there is none.  In state
mode a preparer on another number of qubits is refused as well, and there the record hides why no
candidate can be graded.  On the right number of qubits neither the preparer nor its adjoint does
anything, and the check is the one without.
-/

namespace QuantumKata

/-! ## Circuits without steps -/

namespace Operation

variable {R : Type}

/-- A circuit without steps, also one that is remembered as the adjoint of another. -/
inductive IsStepless : Operation R → Prop where
  | circuit (numQubits : Int) (name : String) : IsStepless (.circuit numQubits name .nil)
  | linked {core : Operation R} (partner : Operation R) (stepless : IsStepless core) :
    IsStepless (.linked core partner)

theorem isStepless_of_length? : ∀ {operation : Operation R}, operation.length? = some 0 →
    operation.IsStepless
  | .circuit numQubits name .nil, _ => .circuit numQubits name
  | .linked _ partner, short => .linked partner (isStepless_of_length? short)

/-- The circuits without steps are the operations of length zero. -/
theorem isStepless_iff {operation : Operation R} :
    operation.IsStepless ↔ operation.length? = some 0 := by
  refine ⟨fun stepless => ?_, isStepless_of_length?⟩
  induction stepless with
  | circuit => rfl
  | linked partner stepless ih => exact ih

variable [Scalar R]

theorem IsStepless.runBody_eq {operation : Operation R} (stepless : operation.IsStepless)
    (scope : Scope R) (qubits : List Int) : Engine.runBody scope operation qubits = pure () := by
  induction stepless with
  | circuit numQubits name => rw [Engine.runBody, Engine.runSteps]
  | linked partner stepless ih => rw [Engine.runBody, ih]

/-- On as many qubits as it has a circuit without steps does nothing. -/
theorem IsStepless.apply_eq {operation : Operation R} (stepless : operation.IsStepless)
    {qubits : List Int} (complete : (qubits.length : Int) = operation.numQubits) :
    Engine.apply operation qubits = pure () := by
  have checked : Engine.checkArity operation qubits = .ok () := by
    rw [Engine.checkArity, complete]
    simp
  funext engine
  rw [Engine.apply, checked]
  exact congrFun (stepless.runBody_eq engine.scope qubits) engine

end Operation

namespace EquivalenceChecker

variable {R : Type} [Scalar R] {checker : EquivalenceChecker R}
  {candidate reference preparer : Operation R} {numQubits : Int}

theorem applyAs_of_stepless {operation : Operation R} (stepless : operation.IsStepless)
    {qubits : List Int} (complete : (qubits.length : Int) = operation.numQubits) (role : Role)
    (name : String) (profile : TargetProfile) :
    applyAs role name profile operation qubits = pure none := by
  funext engine
  rw [applyAs, stepless.apply_eq complete]
  rfl

/-- A preparer without steps, undone by another one, makes no difference to a trial. -/
theorem trial_of_stepless (isState : checker.mode = .state) {size : Nat} {undone : Operation R}
    (stepless : preparer.IsStepless) (undoneStepless : undone.IsStepless)
    (sized : preparer.numQubits = size) (undoneSized : undone.numQubits = size)
    (candidate controlledCandidate reference controlledInverse : Operation R) :
    checker.trial size candidate controlledCandidate reference controlledInverse
        (some (preparer, undone)) =
      checker.trial size candidate controlledCandidate reference controlledInverse none := by
  have complete : ((targets size).length : Int) = size := by simp [targets]
  have prepared : prepare .state size (some preparer) = prepare .state size none :=
    applyAs_of_stepless stepless (complete.trans sized.symm) ..
  have unprepared : unprepare .state size (some (preparer, undone)) = unprepare .state size none :=
    applyAs_of_stepless undoneStepless (complete.trans undoneSized.symm) ..
  rw [trial, trial, isState, Option.map_some, Option.map_none, prepared, unprepared]

theorem check_of_operator_mode (isOperator : checker.mode = .operator)
    (referenceSize : reference.numQubits = numQubits)
    (candidateSize : candidate.numQubits = numQubits) :
    checker.check candidate reference numQubits (some preparer) =
      Action.fail .preparerInOperatorMode := by
  rw [check_eq, sizeOutcome?, isOperator]
  simp only [referenceSize, candidateSize, ne_eq, not_true_eq_false, if_false]
  rfl

theorem check_of_wrong_size (isState : checker.mode = .state)
    (referenceSize : reference.numQubits = numQubits)
    (candidateSize : candidate.numQubits = numQubits) (different : preparer.numQubits ≠ numQubits) :
    checker.check candidate reference numQubits (some preparer) =
      Action.fail (.preparerArity preparer.name preparer.numQubits numQubits) := by
  rw [check_eq, sizeOutcome?, isState]
  simp only [referenceSize, candidateSize, different, ne_eq, not_true_eq_false, if_false]
  rfl

/-- A circuit without steps is undone by another one. -/
theorem preparerPair_of_stepless (numQubits : Int) (name : String) :
    preparerPair (some (.circuit numQubits name .nil : Operation R)) =
      .ok (some (.circuit numQubits name .nil,
        .linked (.circuit numQubits (Operation.adjointName name) .nil)
          (.circuit numQubits name .nil))) := by
  rw [preparerPair, Operation.adjoint, Operation.stepsAdjoint]
  rfl

/-- A candidate on another number of qubits is refused whatever the preparer is. -/
theorem check_of_candidate_size (referenceSize : reference.numQubits = numQubits)
    (different : candidate.numQubits ≠ numQubits) (first second : Option (Operation R)) :
    checker.check candidate reference numQubits first =
      checker.check candidate reference numQubits second := by
  rw [check_eq, check_eq, sizeOutcome?.eq_def, sizeOutcome?.eq_def]
  simp only [referenceSize, different, ne_eq, not_true_eq_false, not_false_eq_true, if_false,
    if_true]

/-- Preparers whose trials are the same make the same check. -/
theorem check_eq_of_trials {size : Nat} {first second : Option (Operation R)}
    {pair other : Option (Operation R × Operation R)}
    (agrees : checker.Agrees candidate reference size first)
    (otherAgrees : checker.Agrees candidate reference size second)
    (built : preparerPair first = .ok pair) (otherBuilt : preparerPair second = .ok other)
    (same : ∀ controlledCandidate controlledInverse,
      checker.trial size candidate controlledCandidate reference controlledInverse pair =
        checker.trial size candidate controlledCandidate reference controlledInverse other) :
    checker.check candidate reference size first =
      checker.check candidate reference size second := by
  rw [agrees.check_eq, otherAgrees.check_eq, buildAndTry, buildAndTry, built, otherBuilt]
  refine bind_congr fun inverse => bind_congr fun controlledInverse => ?_
  funext bench
  simp only [Action.bind_apply, Action.ofExcept, same]

/-- In state mode a circuit without steps on as many qubits makes no difference. -/
theorem check_of_stepless (isState : checker.mode = .state) {size : Nat}
    (referenceSize : reference.numQubits = size) (candidate : Operation R) (name : String) :
    checker.check candidate reference size (some (.circuit size name .nil)) =
      checker.check candidate reference size none := by
  by_cases candidateSize : candidate.numQubits = size
  · have agrees : checker.Agrees candidate reference size (some (.circuit size name .nil)) :=
      ⟨referenceSize, candidateSize, by
        rintro operation ⟨⟩
        exact ⟨isState, rfl⟩⟩
    refine check_eq_of_trials agrees ⟨referenceSize, candidateSize, nofun⟩
      (preparerPair_of_stepless size name) rfl fun controlledCandidate controlledInverse => ?_
    exact trial_of_stepless isState (.circuit size name) (.linked _ (.circuit size _)) rfl rfl ..
  · exact check_of_candidate_size referenceSize candidateSize _ _

end EquivalenceChecker

/-! ## What the record says -/

namespace Exercise

variable {R : Type} [Scalar R]

/-- The checks of an exercise are those without a preparer, whoever checks whatever candidate. -/
def IsCheckedUnprepared (exercise : Exercise R) : Prop :=
  ∀ (checker : EquivalenceChecker R) (candidate : Operation R),
    checker.check candidate exercise.reference exercise.numQubits exercise.preparer =
      checker.check candidate exercise.reference exercise.numQubits none

/-- The record of an exercise has nothing for its preparer exactly if the exercise is checked
without one, and otherwise the name of the preparer. -/
structure RecordsPreparer (exercise : Exercise R) : Prop where
  nothing_iff : exercise.toRecord.field? "preparer" = some .null ↔ exercise.IsCheckedUnprepared
  named : ¬exercise.IsCheckedUnprepared → ∃ preparer, exercise.preparer = some preparer ∧
    exercise.toRecord.field? "preparer" = some (.text preparer.name)

variable {exercise : Exercise R}

theorem field?_preparer (exercise : Exercise R) : exercise.toRecord.field? "preparer" =
    some (.optional .text exercise.preparerName) := by
  simp [toRecord, Datum.record, Datum.field?, Datum.find?, Datum.entries]

theorem field?_mode (exercise : Exercise R) : exercise.toRecord.field? "mode" =
    some (.text exercise.mode.word) := by
  simp [toRecord, Datum.record, Datum.field?, Datum.find?, Datum.entries]

theorem preparerName_of_stepless {preparer : Operation R}
    (given : exercise.preparer = some preparer) (stepless : preparer.IsStepless) :
    exercise.preparerName = none := by
  rw [preparerName, given]
  exact if_pos (Operation.isStepless_iff.1 stepless)

theorem preparerName_of_steps {preparer : Operation R} (given : exercise.preparer = some preparer)
    (steps : ¬preparer.IsStepless) : exercise.preparerName = some preparer.name := by
  rw [preparerName, given]
  exact if_neg (mt Operation.isStepless_iff.2 steps)

theorem exists_of_preparerName {name : String} (shown : exercise.preparerName = some name) :
    ∃ preparer, exercise.preparer = some preparer ∧ preparer.name = name := by
  cases given : exercise.preparer with
  | none =>
    rw [preparerName, given] at shown
    cases shown
  | some preparer =>
    by_cases stepless : preparer.IsStepless
    · rw [preparerName_of_stepless given stepless] at shown
      cases shown
    · rw [preparerName_of_steps given stepless] at shown
      exact ⟨preparer, rfl, Option.some.inj shown⟩

theorem exists_of_field?_preparer {name : String}
    (shown : exercise.toRecord.field? "preparer" = some (.text name)) :
    ∃ preparer, exercise.preparer = some preparer ∧ preparer.name = name := by
  rw [field?_preparer] at shown
  cases own : exercise.preparerName with
  | none =>
    rw [own] at shown
    cases shown
  | some other =>
    rw [own] at shown
    cases shown
    exact exists_of_preparerName own

/-- The record leaves out what is no preparer and what has no steps, and nothing else. -/
theorem field?_preparer_eq_null_iff : exercise.toRecord.field? "preparer" = some .null ↔
    ∀ preparer, exercise.preparer = some preparer → preparer.IsStepless := by
  rw [field?_preparer]
  cases given : exercise.preparer with
  | none => simp [preparerName, given, Datum.optional]
  | some preparer =>
    by_cases stepless : preparer.IsStepless
    · simp [preparerName_of_stepless given stepless, stepless, Datum.optional]
    · simp [preparerName_of_steps given stepless, stepless, Datum.optional]

/-! ## What the checker makes of it -/

/-- A candidate that cannot be controlled. -/
def bystander (numQubits : Int) : Operation R := .routine numQubits "" ⟨true, false⟩ .nil .derived

/-- Without a preparer a check of it ends with a verdict, or for lack of a variant of the
reference. -/
theorem check_bystander (checker : EquivalenceChecker R) {reference : Operation R} {numQubits : Int}
    (referenceSize : reference.numQubits = numQubits) (bench : Bench R) :
    (checker.check (bystander numQubits) reference numQubits none bench).1 ≠
      .error .preparerInOperatorMode := by
  intro failed
  have ownSize : (bystander numQubits : Operation R).numQubits = numQubits := rfl
  have goesOn : EquivalenceChecker.sizeOutcome? checker.mode (bystander numQubits) reference
      numQubits none = none := by
    rw [EquivalenceChecker.sizeOutcome?]
    simp only [referenceSize, ownSize, ne_eq, not_true_eq_false, if_false]
  rw [EquivalenceChecker.check_eq, goesOn] at failed
  simp only [EquivalenceChecker.buildAndJudge] at failed
  cases inverseBuilt : reference.adjoint with
  | error fault =>
    rw [inverseBuilt] at failed
    cases failed
    rcases Operation.isNoAdjoint_of_adjoint inverseBuilt with unsupported | singular
    · cases unsupported
    · cases singular
  | ok inverse =>
    rw [inverseBuilt] at failed
    cases variantBuilt : inverse.controlledBy 1 with
    | error fault =>
      simp only [variantBuilt, Action.bind_apply, Action.ofExcept] at failed
      cases failed
      cases Operation.kind_of_controlledBy (Int.le_refl 1) variantBuilt
    | ok controlledInverse =>
      have refused : (bystander numQubits : Operation R).controlledBy 1 =
          .error (.noControlled "") :=
        Operation.controlledBy_of_unsupported 1 rfl
      simp only [variantBuilt, refused, EquivalenceChecker.preparerPair, Action.bind_apply,
        Action.ofExcept, Action.pure_apply] at failed
      cases failed

/-- A checker in operator mode tells every preparer from none. -/
theorem isCheckedUnprepared_iff (agree : exercise.reference.numQubits = exercise.numQubits) :
    exercise.IsCheckedUnprepared ↔ exercise.preparer = none := by
  constructor
  · intro unprepared
    cases given : exercise.preparer with
    | none => rfl
    | some preparer =>
      -- The preparer is refused in operator mode, and that candidate is not.
      let checker : EquivalenceChecker R := ⟨0, .operator, .unrestricted, .ok ()⟩
      have same := unprepared checker (bystander exercise.numQubits)
      rw [given, EquivalenceChecker.check_of_operator_mode rfl agree rfl] at same
      have failed := congrArg Prod.fst (congrFun same ⟨.empty .standard, 0, {}⟩)
      exact absurd failed.symm (check_bystander checker agree _)
  · intro none checker candidate
    rw [none]

/-! ## Exercises that are put together -/

omit [Scalar R] in
theorem of_build {plan : ExercisePlan R} (built : plan.build = .ok exercise) :
    exercise.reference.numQubits = exercise.numQubits ∧
      (exercise.preparer ≠ none → exercise.mode = .state) := by
  rw [ExercisePlan.build] at built
  split at built
  · cases built
  · rename_i agree
    split at built
    · cases built
    · rename_i allowed
      cases built
      refine ⟨Classical.not_not.1 agree, fun some => ?_⟩
      dsimp only at some ⊢
      cases mode : plan.mode.getD (ExercisePlan.defaultMode plan.preparer) with
      | state => rfl
      | operator => exact absurd ⟨Option.isSome_iff_ne_none.2 some, mode⟩ allowed

theorem recordsPreparer_iff (agree : exercise.reference.numQubits = exercise.numQubits) :
    exercise.RecordsPreparer ↔
      ∀ preparer, exercise.preparer = some preparer → ¬preparer.IsStepless := by
  have unprepared_iff := isCheckedUnprepared_iff agree
  constructor
  · intro records preparer given stepless
    have omitted : exercise.toRecord.field? "preparer" = some .null := by
      apply field?_preparer_eq_null_iff.2
      intro other isOther
      rw [given] at isOther
      exact Option.some.inj isOther ▸ stepless
    have none := unprepared_iff.1 (records.nothing_iff.1 omitted)
    rw [given] at none
    cases none
  · intro steps
    refine ⟨?_, fun prepared => ?_⟩
    · rw [field?_preparer_eq_null_iff, unprepared_iff, Option.eq_none_iff_forall_ne_some]
      exact ⟨fun stepless preparer given => steps preparer given (stepless preparer given),
        fun none preparer given => absurd given (none preparer)⟩
    · obtain ⟨preparer, given⟩ := Option.ne_none_iff_exists'.1 (mt unprepared_iff.2 prepared)
      refine ⟨preparer, given, ?_⟩
      rw [field?_preparer, preparerName_of_steps given (steps preparer given)]
      rfl

/-- In state mode a preparer without steps is of no account on the right number of qubits, and ends
the check on another. -/
theorem check_of_idle {size : Int} {name : String} {checker : EquivalenceChecker R}
    {candidate : Operation R} (isState : checker.mode = .state)
    (agree : exercise.reference.numQubits = exercise.numQubits) (nonneg : 0 ≤ exercise.numQubits)
    (candidateSize : candidate.numQubits = exercise.numQubits) :
    checker.check candidate exercise.reference exercise.numQubits
        (some (.circuit size name .nil)) =
      if size = exercise.numQubits then
        checker.check candidate exercise.reference exercise.numQubits none
      else Action.fail (.preparerArity name size exercise.numQubits) := by
  obtain ⟨count, isCount⟩ := Int.eq_ofNat_of_zero_le nonneg
  split
  · rename_i same
    rw [same, isCount]
    exact EquivalenceChecker.check_of_stepless isState (agree.trans isCount) candidate name
  · rename_i different
    exact EquivalenceChecker.check_of_wrong_size isState agree candidateSize different

/-- The record of an exercise tells how the exercise is checked exactly if its preparer is no
circuit without steps.  Where it names a preparer the mode is that of states.  A circuit without
steps that it leaves out makes no difference to the checks in that mode if it has as many qubits as
the exercise, and ends them if it has not. -/
theorem record_tells_preparer_iff {plan : ExercisePlan R} (built : plan.build = .ok exercise) :
    (exercise.IsCheckedUnprepared ↔ exercise.preparer = none) ∧
    (exercise.RecordsPreparer ↔
      ∀ preparer, exercise.preparer = some preparer → ¬preparer.IsStepless) ∧
    (∀ name, exercise.toRecord.field? "preparer" = some (.text name) →
      exercise.toRecord.field? "mode" = some (.text "state")) ∧
    ∀ size name, exercise.preparer = some (.circuit size name .nil) → 0 ≤ exercise.numQubits →
      ∀ (checker : EquivalenceChecker R) (candidate : Operation R),
        checker.mode = exercise.mode → candidate.numQubits = exercise.numQubits →
        checker.check candidate exercise.reference exercise.numQubits exercise.preparer =
          if size = exercise.numQubits then
            checker.check candidate exercise.reference exercise.numQubits none
          else Action.fail (.preparerArity name size exercise.numQubits) := by
  rcases of_build built with ⟨agree, isState⟩
  have inStates : ∀ {preparer}, exercise.preparer = some preparer → exercise.mode = .state :=
    fun given => isState (given ▸ Option.some_ne_none _)
  refine ⟨isCheckedUnprepared_iff agree, recordsPreparer_iff agree, fun name shown => ?_, ?_⟩
  · obtain ⟨preparer, given, -⟩ := exists_of_field?_preparer shown
    rw [field?_mode, inStates given]
    rfl
  · intro size name given nonneg checker candidate sameMode candidateSize
    rw [given]
    exact check_of_idle (sameMode.trans (inStates given)) agree nonneg candidateSize

/-- An exercise whose preparer is put together from nothing. -/
def idlyPrepared (numQubits : Int) : ExercisePlan Float where
  name := "flip"
  numQubits := 1
  reference := LibraryConstant.operation (.fixed .x)
  preparer := some (.circuit numQubits "nothing" .nil)

/-- An exercise with a prepared superposition. -/
def evenlyPrepared : ExercisePlan Float where
  name := "flip"
  numQubits := 1
  reference := LibraryConstant.operation (.fixed .x)
  preparer := some .plusState

/-- The record names a preparer that has a step, and leaving out one that has none does no harm on
the right number of qubits. -/
theorem record_tells_preparer_of_steps :
    (∃ exercise, evenlyPrepared.build = .ok exercise ∧ exercise.RecordsPreparer ∧
      exercise.toRecord.field? "preparer" = some (.text "prepare_plus") ∧
      exercise.toRecord.field? "mode" = some (.text "state")) ∧
    ∃ exercise, (idlyPrepared 1).build = .ok exercise ∧
      ∀ checker : EquivalenceChecker Float, checker.mode = .state →
        checker.check exercise.reference exercise.reference 1 exercise.preparer =
          checker.check exercise.reference exercise.reference 1 none := by
  constructor
  · have built : evenlyPrepared.build = .ok _ := rfl
    rcases record_tells_preparer_iff built with ⟨-, records, inStates, -⟩
    refine ⟨_, built, records.2 ?_, rfl, inStates "prepare_plus" rfl⟩
    rintro preparer ⟨⟩
    nofun
  · have built : (idlyPrepared 1).build = .ok _ := rfl
    refine ⟨_, built, fun checker isState => ?_⟩
    have same := (record_tells_preparer_iff built).2.2.2 1 "nothing" rfl (by decide) checker
      (LibraryConstant.operation (.fixed .x)) isState rfl
    exact same.trans (if_pos rfl)

/-- A circuit without steps that has two qubits is left out of the record of an exercise on one,
although every check in its mode ends for it. -/
theorem record_omits_preparer :
    ∃ exercise, (idlyPrepared 2).build = .ok exercise ∧
      exercise.toRecord.field? "preparer" = some .null ∧
      exercise.toRecord.field? "mode" = some (.text "state") ∧
      ¬exercise.IsCheckedUnprepared ∧ ¬exercise.RecordsPreparer ∧
      ∀ checker : EquivalenceChecker Float, checker.mode = .state →
        checker.check exercise.reference exercise.reference 1 exercise.preparer =
          Action.fail (.preparerArity "nothing" 2 1) := by
  have built : (idlyPrepared 2).build = .ok _ := rfl
  have prepared := mt (isCheckedUnprepared_iff (of_build built).1).1 nofun
  refine ⟨_, built, rfl, rfl, prepared, fun records => prepared (records.nothing_iff.1 rfl), ?_⟩
  intro checker isState
  exact EquivalenceChecker.check_of_wrong_size isState rfl rfl nofun

end Exercise

end QuantumKata
