import QuantumKata.Equivalence

/-!
# How a check runs

A check builds the controlled variants it needs, takes a register, and applies on it one operation
after the other.  A check that accepts or rejects has come through all of this: the variants are
there, the register is large enough, and each operation has been applied without a fault.
-/

namespace QuantumKata

/-! ## Registers -/

namespace Bench

variable {R : Type} [Scalar R] {α : Type} {register : Int} {block : EngineAction R α}
  {bench later : Bench R} {value : α}

theorem acquire_of_roomy (some : 1 ≤ register)
    (roomy : bench.arena.limit.isExceededBy register = false) :
    bench.arena.acquire (R := R) register = .ok
      (⟨bench.arena.nextHandle, register, true, .holding (.zero register.toNat)⟩,
        { bench.arena with
          nextHandle := bench.arena.nextHandle + 1
          live := bench.arena.live ++ [(bench.arena.nextHandle, register)] }) := by
  have notEmpty : ¬register < 1 := by omega
  rw [Arena.acquire]
  rw [if_neg notEmpty, roomy]
  rfl

/-- On a register that is handed out, a block that leaves its memory live decides the outcome. -/
theorem outcome_withRegister_of_live {outcome : Except Fault α} {after : Engine R}
    {state : StateVector R} (some : 1 ≤ register)
    (roomy : bench.arena.limit.isExceededBy register = false)
    (ran : block (Engine.start (.holding (.zero register.toNat)) .unrestricted []
      bench.definitions) = (outcome, after))
    (live : after.memory = .holding state) : (withRegister register block bench).1 = outcome := by
  rw [withRegister]
  rw [acquire_of_roomy some roomy]
  simp only [ran, Arena.release, live, Memory.release, Memory.live]
  rw [if_pos (by simp)]
  rfl

/-- A block that completes on a register that is handed out. -/
theorem withRegister_of_ok {after : Engine R} {state : StateVector R} (some : 1 ≤ register)
    (roomy : bench.arena.limit.isExceededBy register = false)
    (done : block (Engine.start (.holding (.zero register.toNat)) .unrestricted []
      bench.definitions) = (.ok value, after))
    (live : after.memory = .holding state) :
    ∃ later, withRegister register block bench = (.ok value, later) :=
  ⟨(withRegister register block bench).2,
    Prod.ext (outcome_withRegister_of_live some roomy done live) rfl⟩

/-- A block that has completed on a register has been given one. -/
theorem ok_of_withRegister (ran : withRegister register block bench = (.ok value, later)) :
    1 ≤ register ∧ bench.arena.limit.isExceededBy register = false ∧
      ∃ after, block (Engine.start (.holding (.zero register.toNat)) .unrestricted []
        bench.definitions) = (.ok value, after) := by
  by_cases empty : register < 1
  · have refused : bench.arena.acquire (R := R) register = .error (.emptyRegister register) := by
      rw [Arena.acquire]
      rw [if_pos empty]
    rw [withRegister] at ran
    rw [refused] at ran
    cases ran
  · cases roomy : bench.arena.limit.isExceededBy register with
    | true =>
      have refused : bench.arena.acquire (R := R) register =
          .error (.registerTooLarge register bench.arena.limit.label) := by
        rw [Arena.acquire]
        rw [if_neg empty, roomy]
        rfl
      rw [withRegister] at ran
      rw [refused] at ran
      cases ran
    | false =>
      have some : 1 ≤ register := by omega
      refine ⟨some, rfl, ?_⟩
      rw [withRegister] at ran
      rw [acquire_of_roomy some roomy] at ran
      rcases result : block (Engine.start (.holding (.zero register.toNat)) .unrestricted []
        bench.definitions) with ⟨outcome, after⟩
      simp only [result] at ran
      refine ⟨after, ?_⟩
      split at ran
      · cases ran
        rfl
      · cases ran

end Bench

/-! ## From a check to its trial -/

namespace EquivalenceChecker

variable {R : Type}

theorem unlessFailed_of_ok {action : EngineAction R (Option OperationFailure)}
    {next : EngineAction R (TrialEnd R)} {engine after : Engine R}
    (done : action engine = (.ok none, after)) : unlessFailed action next engine = next after := by
  rw [unlessFailed]
  rw [Action.bind_of_ok done]

/-- What goes on to a decision has not failed. -/
theorem ok_of_unlessFailed {action : EngineAction R (Option OperationFailure)}
    {next : EngineAction R (TrialEnd R)} {engine last : Engine R} {equivalent : Bool}
    {phase : Option R}
    (ended : unlessFailed action next engine = (.ok (.decided equivalent phase), last)) :
    ∃ between, action engine = (.ok none, between) ∧
      next between = (.ok (.decided equivalent phase), last) := by
  rw [unlessFailed] at ended
  rcases Action.bind_eq_ok_iff.1 ended with ⟨failure, between, done, followed⟩
  cases failure with
  | none => exact ⟨between, done, followed⟩
  | some failure => cases followed

variable [Scalar R]

/-- The number of qubits of the operations is the one that is checked for, and a preparer is only
there in state mode. -/
structure Agrees (checker : EquivalenceChecker R) (candidate reference : Operation R) (size : Nat)
    (preparer : Option (Operation R)) : Prop where
  reference : reference.numQubits = size
  candidate : candidate.numQubits = size
  preparer : ∀ operation, preparer = some operation →
    checker.mode = .state ∧ operation.numQubits = size

/-- The variants that a check builds before it takes a register. -/
structure Builds (candidate reference : Operation R) (preparer : Option (Operation R))
    (controlledCandidate controlledInverse : Operation R)
    (pair : Option (Operation R × Operation R)) : Prop where
  inverse : ∃ inverse, reference.adjoint = .ok inverse ∧
    inverse.controlledBy 1 = .ok controlledInverse
  pair : preparerPair preparer = .ok pair
  candidate : candidate.controlledBy 1 = .ok controlledCandidate

/-- How a check ends by the numbers of qubits alone, if they do not let it go on. -/
def sizeOutcome? (mode : EquivalenceMode) (candidate reference : Operation R) (numQubits : Int)
    (preparer : Option (Operation R)) : Option (Except Fault (Verdict R)) :=
  if reference.numQubits ≠ numQubits then
    some (.error (.referenceArity reference.name reference.numQubits numQubits))
  else if candidate.numQubits ≠ numQubits then
    some (.ok
      { status := .executionError, mode,
        message := "Operation '" ++ candidate.name ++ "' acts on " ++
          Decimal.integer candidate.numQubits ++ " qubit(s), expected " ++
          Decimal.integer numQubits,
        error := some "signature mismatch" })
  else
    match preparer with
    | none => none
    | some operation =>
      if mode = .operator then some (.error .preparerInOperatorMode)
      else if operation.numQubits ≠ numQubits then
        some (.error (.preparerArity operation.name operation.numQubits numQubits))
      else none

/-- Build the variants and make a trial with them. -/
def buildAndJudge (checker : EquivalenceChecker R) (candidate reference : Operation R) (size : Nat)
    (preparer : Option (Operation R)) (register : Int) : BenchAction R (Verdict R) := do
  let inverse ← Action.ofExcept reference.adjoint
  let controlledInverse ← Action.ofExcept (inverse.controlledBy 1)
  let pair ← Action.ofExcept (preparerPair preparer)
  match candidate.controlledBy 1 with
  | .error fault =>
    return { status := .executionError, mode := checker.mode,
             message := "Operation '" ++ candidate.name ++ "' cannot be controlled: " ++ fault.text,
             error := some fault.kind.title }
  | .ok variant =>
    let ended ← Bench.withRegister register do
      Action.ofExcept checker.generator
      checker.trial size candidate variant reference controlledInverse pair
    return judge checker.mode candidate.name reference.name ended

/-- What a check does once the numbers of qubits agree. -/
def buildAndTry (checker : EquivalenceChecker R) (candidate reference : Operation R) (size : Nat)
    (preparer : Option (Operation R)) : BenchAction R (Verdict R) := do
  let inverse ← Action.ofExcept reference.adjoint
  let referenceInverse ← Action.ofExcept (inverse.controlledBy 1)
  let pair ← Action.ofExcept (preparerPair preparer)
  match candidate.controlledBy 1 with
  | .error fault =>
    return { status := .executionError, mode := checker.mode,
             message := "Operation '" ++ candidate.name ++ "' cannot be controlled: " ++ fault.text,
             error := some fault.kind.title }
  | .ok controlledCandidate =>
    let ended ← Bench.withRegister (registerSize checker.mode size) do
      Action.ofExcept checker.generator
      checker.trial size candidate controlledCandidate reference referenceInverse pair
    return judge checker.mode candidate.name reference.name ended

variable {checker : EquivalenceChecker R} {candidate reference : Operation R} {size : Nat}
  {preparer : Option (Operation R)} {controlledCandidate controlledInverse : Operation R}
  {pair : Option (Operation R × Operation R)} {bench later : Bench R}

/-- A check ends by the numbers of qubits, or it builds the variants and makes a trial. -/
theorem check_eq (checker : EquivalenceChecker R) (candidate reference : Operation R)
    (numQubits : Int) (preparer : Option (Operation R)) :
    checker.check candidate reference numQubits preparer =
      match sizeOutcome? checker.mode candidate reference numQubits preparer with
      | some outcome => Action.ofExcept outcome
      | none => checker.buildAndJudge candidate reference numQubits.toNat preparer
          (registerSize checker.mode numQubits) := by
  rw [check, sizeOutcome?.eq_def]
  by_cases referenceSize : reference.numQubits ≠ numQubits
  · rw [if_pos referenceSize, if_pos referenceSize]
    rfl
  rw [if_neg referenceSize, if_neg referenceSize]
  by_cases candidateSize : candidate.numQubits ≠ numQubits
  · rw [if_pos candidateSize, if_pos candidateSize]
    rfl
  rw [if_neg candidateSize, if_neg candidateSize]
  cases preparer with
  | none => rfl
  | some operation =>
    rcases checker with ⟨tolerance, mode, profile, generator⟩
    cases mode with
    | operator => rfl
    | state =>
      by_cases preparerSize : operation.numQubits ≠ numQubits
      · simp only [preparerSize, ne_eq, not_false_eq_true, if_true]
        rfl
      · simp only [preparerSize, if_false]
        rfl

theorem sizeOutcome?_eq_none_iff :
    sizeOutcome? checker.mode candidate reference size preparer = none ↔
      checker.Agrees candidate reference size preparer := by
  rw [sizeOutcome?.eq_def]
  constructor
  · intro goesOn
    split at goesOn
    · cases goesOn
    next referenceSize =>
    split at goesOn
    · cases goesOn
    next candidateSize =>
    refine ⟨Decidable.not_not.1 referenceSize, Decidable.not_not.1 candidateSize, ?_⟩
    rintro operation rfl
    cases mode : checker.mode with
    | operator => simp only [mode, if_true, reduceCtorEq] at goesOn
    | state =>
      simp only [mode, reduceCtorEq, if_false] at goesOn
      split at goesOn
      · cases goesOn
      next preparerSize => exact ⟨rfl, Decidable.not_not.1 preparerSize⟩
  · intro agrees
    rw [if_neg (not_not_intro agrees.reference), if_neg (not_not_intro agrees.candidate)]
    cases preparer with
    | none => rfl
    | some operation =>
      rcases agrees.preparer operation rfl with ⟨isState, preparerSize⟩
      simp only [isState, preparerSize, reduceCtorEq, ne_eq, not_true_eq_false, if_false]

/-- By the numbers of qubits alone a check ends with a verdict only where the candidate has another
one than the reference. -/
theorem of_sizeOutcome?_eq_ok {mode : EquivalenceMode} {numQubits : Int} {verdict : Verdict R}
    (ended : sizeOutcome? mode candidate reference numQubits preparer = some (.ok verdict)) :
    candidate.numQubits ≠ numQubits ∧ verdict =
      { status := .executionError, mode,
        message := "Operation '" ++ candidate.name ++ "' acts on " ++
          Decimal.integer candidate.numQubits ++ " qubit(s), expected " ++
          Decimal.integer numQubits,
        error := some "signature mismatch" } := by
  rw [sizeOutcome?.eq_def] at ended
  split at ended
  · cases ended
  split at ended
  next candidateSize =>
    cases ended
    exact ⟨candidateSize, rfl⟩
  cases preparer with
  | none => cases ended
  | some operation =>
    dsimp only at ended
    split at ended
    · cases ended
    · split at ended <;> cases ended

theorem Agrees.check_eq (agrees : checker.Agrees candidate reference size preparer) :
    checker.check candidate reference size preparer =
      checker.buildAndTry candidate reference size preparer := by
  rw [EquivalenceChecker.check_eq, sizeOutcome?_eq_none_iff.2 agrees]
  rfl

/-- A check that accepts or rejects has found that the numbers of qubits agree. -/
theorem agrees_of_graded {verdict : Verdict R}
    (checked : checker.check candidate reference size preparer bench = (.ok verdict, later))
    (graded : verdict.status ≠ .executionError) :
    checker.Agrees candidate reference size preparer := by
  rw [check_eq] at checked
  cases ended : sizeOutcome? checker.mode candidate reference size preparer with
  | none => exact sizeOutcome?_eq_none_iff.1 ended
  | some outcome =>
    rw [ended] at checked
    cases checked
    rcases of_sizeOutcome?_eq_ok ended with ⟨-, rfl⟩
    exact absurd rfl graded

/-- A check whose variants are built is a trial on a register. -/
theorem Builds.check_eq (builds : Builds candidate reference preparer controlledCandidate
    controlledInverse pair) (agrees : checker.Agrees candidate reference size preparer) :
    checker.check candidate reference size preparer bench =
      (do
        let ended ← Bench.withRegister (registerSize checker.mode size) do
          Action.ofExcept checker.generator
          checker.trial size candidate controlledCandidate reference controlledInverse pair
        return judge checker.mode candidate.name reference.name ended :
          BenchAction R (Verdict R)) bench := by
  rcases builds.inverse with ⟨inverse, inverseIs, inverseVariant⟩
  rw [agrees.check_eq]
  rw [buildAndTry]
  simp only [inverseIs, inverseVariant, builds.pair, builds.candidate, Action.bind_apply,
    Action.ofExcept]

/-- A check that accepts or rejects has built all variants, and its trial has decided. -/
theorem trial_of_graded {verdict : Verdict R}
    (checked : checker.check candidate reference size preparer bench = (.ok verdict, later))
    (graded : verdict.status ≠ .executionError) :
    checker.generator = .ok () ∧ 1 ≤ registerSize checker.mode size ∧
      bench.arena.limit.isExceededBy (registerSize checker.mode size) = false ∧
      ∃ controlledCandidate controlledInverse pair equivalent phase after,
        Builds candidate reference preparer controlledCandidate controlledInverse pair ∧
        checker.trial size candidate controlledCandidate reference controlledInverse pair
          (Engine.start (.holding (.zero (registerSize checker.mode size).toNat)) .unrestricted []
            bench.definitions) = (.ok (.decided equivalent phase), after) ∧
        verdict =
          judge checker.mode candidate.name reference.name (.decided equivalent phase) := by
  rw [(agrees_of_graded checked graded).check_eq] at checked
  rw [buildAndTry] at checked
  simp only [Action.bind_eq_ok_iff, Action.ofExcept_eq_ok_iff] at checked
  rcases checked with ⟨inverse, _, ⟨inverseIs, rfl⟩, controlledInverse, _, ⟨inverseVariant, rfl⟩,
    pair, _, ⟨pairIs, rfl⟩, decided⟩
  cases candidateVariant : candidate.controlledBy 1 with
  | error fault =>
    rw [candidateVariant] at decided
    cases decided
    exact absurd rfl graded
  | ok controlledCandidate =>
    rw [candidateVariant] at decided
    rcases Action.bind_eq_ok_iff.1 decided with ⟨ended, between, ran, judged⟩
    cases judged
    rcases Bench.ok_of_withRegister ran with ⟨some, roomy, after, done⟩
    rcases Action.bind_eq_ok_iff.1 done with ⟨_, middle, generated, tried⟩
    rcases Action.ofExcept_eq_ok_iff.1 generated with ⟨generatorIs, rfl⟩
    refine ⟨generatorIs, some, roomy, controlledCandidate, controlledInverse, pair, ?_⟩
    cases ended with
    | failed failure => exact absurd rfl graded
    | normLost => exact absurd rfl graded
    | decided equivalent phase =>
      exact ⟨equivalent, phase, after, ⟨⟨inverse, inverseIs, inverseVariant⟩, pairIs,
        candidateVariant⟩, tried, rfl⟩

/-! ## The application of a variant -/

section Application

variable {role : Role} {name : String} {profile other : TargetProfile} {variant : Operation R}
  {qubits : List Int} {engine after : Engine R}

theorem applyAs_eq_ok_none_iff :
    applyAs role name profile variant qubits engine = (.ok none, after) ↔
      Engine.restrictedTo profile (Engine.apply variant qubits) engine = (.ok (), after) := by
  rw [applyAs]
  rcases Engine.restrictedTo profile (Engine.apply variant qubits) engine with ⟨fault | done, last⟩
  · dsimp only
    split <;> simp
  · simp

/-- An application that fails names the operation and the fault, which is not one of the simulator's
own kind. -/
theorem applyAs_eq_ok_some_iff {failure : OperationFailure} :
    applyAs role name profile variant qubits engine = (.ok (some failure), after) ↔
      ∃ fault, Engine.restrictedTo profile (Engine.apply variant qubits) engine =
          (.error fault, after) ∧
        fault.kind.isProgramming = false ∧ failure = ⟨role, name, fault⟩ := by
  rw [applyAs]
  rcases Engine.restrictedTo profile (Engine.apply variant qubits) engine with ⟨fault | done, last⟩
  · dsimp only
    constructor
    · intro ended
      cases blame : fault.kind.isProgramming with
      | true =>
        rw [blame, if_pos rfl] at ended
        cases ended
      | false =>
        rw [blame, if_neg Bool.false_ne_true] at ended
        cases ended
        exact ⟨fault, rfl, blame, rfl⟩
    · rintro ⟨_, ⟨⟩, blameless, rfl⟩
      rw [blameless, if_neg Bool.false_ne_true]
  · simp

/-- Two profiles under which a variant does the same. -/
theorem applyAs_congr
    (same : Engine.restrictedTo profile (Engine.apply variant qubits) engine =
      Engine.restrictedTo other (Engine.apply variant qubits) engine) :
    applyAs role name profile variant qubits engine =
      applyAs role name other variant qubits engine := by
  rw [applyAs, applyAs, same]

end Application

/-! ## The steps of a trial -/

/-- A trial that decides has applied the controlled candidate without a fault. -/
theorem applied_of_trial {engine last : Engine R} {equivalent : Bool} {phase : Option R}
    (tried : checker.trial size candidate controlledCandidate reference controlledInverse pair
      engine = (.ok (.decided equivalent phase), last)) :
    ∃ prepared superposed after,
      prepare checker.mode size (pair.map Prod.fst) engine = (.ok none, prepared) ∧
      applyConstant (.fixed .h) [probe] prepared = (.ok (), superposed) ∧
      applyAs .candidate candidate.name checker.profile controlledCandidate
        (probe :: targets size) superposed = (.ok none, after) := by
  rw [trial] at tried
  rcases ok_of_unlessFailed tried with ⟨prepared, prepares, followed⟩
  rcases Action.bind_eq_ok_iff.1 followed with ⟨_, superposed, superposes, followed⟩
  rcases ok_of_unlessFailed followed with ⟨after, applies, -⟩
  exact ⟨prepared, superposed, after, prepares, superposes, applies⟩

end EquivalenceChecker

end QuantumKata
