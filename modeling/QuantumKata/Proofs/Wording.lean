import QuantumKata.Proofs.Grading
import QuantumKata.Proofs.Rejection

/-!
# What a run says

A run that comes to no decision about the candidate says why.  The candidate was not found, was no
operation or had the wrong size; it could not be controlled; a body failed; the norm was lost; or a
fault of the simulator's own kind ended the check.  In each case the message is made of words of its
own, of the names of what takes part and of the text of the fault, and the error is either a phrase
of its own or the name of the fault's class.

A run that rejects the candidate says the same of the two parts of its diagnosis in notes.
-/

namespace QuantumKata

/-! ## Checks -/

namespace EquivalenceChecker

open Engine

variable {R : Type}

/-- A trial that goes on to a failure has met it in one of its two parts. -/
theorem failed_of_unlessFailed {action : EngineAction R (Option OperationFailure)}
    {next : EngineAction R (TrialEnd R)} {engine last : Engine R} {failure : OperationFailure}
    (ended : unlessFailed action next engine = (.ok (.failed failure), last)) :
    (∃ between : Engine R, action engine = (.ok (some failure), between)) ∨
      ∃ between : Engine R, next between = (.ok (.failed failure), last) := by
  rw [unlessFailed] at ended
  rcases Action.bind_eq_ok_iff.1 ended with ⟨outcome, between, done, followed⟩
  cases outcome with
  | none => exact .inr ⟨between, followed⟩
  | some met =>
    cases followed
    exact .inl ⟨_, done⟩

variable [Scalar R]

/-- The operations that take part in a check, in their roles and under their names. -/
inductive TakesPart (candidate reference : Operation R) (preparer : Option (Operation R)) :
    Role → String → Prop where
  | candidate : TakesPart candidate reference preparer .candidate candidate.name
  | reference : TakesPart candidate reference preparer .reference reference.name
  | preparer {operation : Operation R} (given : preparer = some operation) :
      TakesPart candidate reference preparer .preparer operation.name

/-- A failure is blamed on one of the operations that take part. -/
structure Blames (candidate reference : Operation R) (preparer : Option (Operation R))
    (failure : OperationFailure) : Prop where
  part : TakesPart candidate reference preparer failure.role failure.name
  blameless : failure.cause.kind.isProgramming = false

variable {checker : EquivalenceChecker R} {candidate reference : Operation R}
  {preparer : Option (Operation R)} {bench later : Bench R}

/-- The preparer is taken along with its inverse or not at all. -/
theorem preparer_of_pair {pair : Option (Operation R × Operation R)}
    (paired : preparerPair preparer = .ok pair) : pair.map Prod.fst = preparer := by
  cases preparer with
  | none =>
    cases paired
    rfl
  | some operation =>
    rcases Fault.map_eq_ok_iff.1 paired with ⟨inverse, -, rfl⟩
    rfl

theorem blames_of_prepare {mode : EquivalenceMode} {size : Nat} {engine after : Engine R}
    {failure : OperationFailure}
    (prepared : prepare mode size preparer engine = (.ok (some failure), after)) :
    Blames candidate reference preparer failure := by
  cases mode with
  | operator =>
    rw [prepare] at prepared
    rcases Action.bind_eq_ok_iff.1 prepared with ⟨_, _, -, ended⟩
    cases ended
  | state =>
    cases preparer with
    | none => cases prepared
    | some operation =>
      rcases applyAs_eq_ok_some_iff.1 prepared with ⟨fault, -, blameless, rfl⟩
      exact ⟨.preparer rfl, blameless⟩

theorem blames_of_unprepare {mode : EquivalenceMode} {size : Nat}
    {pair : Option (Operation R × Operation R)} {engine after : Engine R}
    {failure : OperationFailure}
    (unprepared : unprepare mode size pair engine = (.ok (some failure), after)) :
    Blames candidate reference (pair.map Prod.fst) failure := by
  cases mode with
  | operator =>
    rw [unprepare] at unprepared
    rcases Action.bind_eq_ok_iff.1 unprepared with ⟨_, _, -, ended⟩
    cases ended
  | state =>
    rcases pair with none | ⟨operation, inverse⟩
    · cases unprepared
    · rcases applyAs_eq_ok_some_iff.1 unprepared with ⟨fault, -, blameless, rfl⟩
      exact ⟨.preparer rfl, blameless⟩

/-- The failure that ends a trial is blamed on the operation that was being applied. -/
theorem blames_of_trial {size : Nat} {variant inverse : Operation R}
    {pair : Option (Operation R × Operation R)} {engine last : Engine R}
    {failure : OperationFailure}
    (ended : checker.trial size candidate variant reference inverse pair engine =
      (.ok (.failed failure), last)) :
    Blames candidate reference (pair.map Prod.fst) failure := by
  rw [trial] at ended
  rcases failed_of_unlessFailed ended with ⟨_, prepared⟩ | ⟨_, ended⟩
  · exact blames_of_prepare prepared
  rcases Action.bind_eq_ok_iff.1 ended with ⟨_, _, -, ended⟩
  rcases failed_of_unlessFailed ended with ⟨_, applied⟩ | ⟨_, ended⟩
  · rcases applyAs_eq_ok_some_iff.1 applied with ⟨fault, -, blameless, rfl⟩
    exact ⟨.candidate, blameless⟩
  rcases failed_of_unlessFailed ended with ⟨_, returned⟩ | ⟨_, ended⟩
  · rcases applyAs_eq_ok_some_iff.1 returned with ⟨fault, -, blameless, rfl⟩
    exact ⟨.reference, blameless⟩
  rcases Action.bind_eq_ok_iff.1 ended with ⟨_, _, -, ended⟩
  rcases Action.bind_eq_ok_iff.1 ended with ⟨normal, _, -, ended⟩
  cases normal with
  | false => cases ended
  | true =>
    rw [if_pos rfl] at ended
    rcases failed_of_unlessFailed ended with ⟨_, unprepared⟩ | ⟨_, ended⟩
    · exact blames_of_unprepare unprepared
    -- What follows the inverse of the preparer can only come to a decision.
    · simp only [Action.bind_eq_ok_iff] at ended
      rcases ended with ⟨_, _, -, _, _, -, _, _, -, _, _, -, ended⟩
      cases ended

/-- The ways in which a check comes to a verdict. -/
inductive Judges (checker : EquivalenceChecker R) (candidate reference : Operation R)
    (numQubits : Int) (preparer : Option (Operation R)) : Verdict R → Prop where
  | arity (differs : candidate.numQubits ≠ numQubits) :
      Judges checker candidate reference numQubits preparer
        { status := .executionError, mode := checker.mode,
          message := "Operation '" ++ candidate.name ++ "' acts on " ++
            Decimal.integer candidate.numQubits ++ " qubit(s), expected " ++
            Decimal.integer numQubits,
          error := some "signature mismatch" }
  | uncontrolled {fault : Fault} (refused : candidate.controlledBy 1 = .error fault) :
      Judges checker candidate reference numQubits preparer
        { status := .executionError, mode := checker.mode,
          message := "Operation '" ++ candidate.name ++ "' cannot be controlled: " ++ fault.text,
          error := some fault.kind.title }
  | tried (ended : TrialEnd R)
      (blamed : ∀ failure, ended = .failed failure → Blames candidate reference preparer failure) :
      Judges checker candidate reference numQubits preparer
        (judge checker.mode candidate.name reference.name ended)

/-- A check that gets to building the variants comes to a verdict on the candidate's variant or on a
trial. -/
theorem judges_of_build {numQubits register : Int} {size : Nat} {verdict : Verdict R}
    (checked : checker.buildAndJudge candidate reference size preparer register bench =
      (.ok verdict, later)) :
    checker.Judges candidate reference numQubits preparer verdict := by
  rw [buildAndJudge] at checked
  simp only [Action.bind_eq_ok_iff, Action.ofExcept_eq_ok_iff] at checked
  rcases checked with ⟨_, _, -, _, _, -, pair, _, ⟨paired, rfl⟩, judged⟩
  cases built : candidate.controlledBy 1 with
  | error fault =>
    rw [built] at judged
    cases judged
    exact .uncontrolled built
  | ok variant =>
    rw [built] at judged
    rcases Action.bind_eq_ok_iff.1 judged with ⟨ended, _, ran, judged⟩
    cases judged
    rcases Bench.ok_of_withRegister ran with ⟨-, -, after, done⟩
    rcases Action.bind_eq_ok_iff.1 done with ⟨_, _, -, tried⟩
    refine .tried ended fun failure failed => ?_
    rw [failed] at tried
    rw [← preparer_of_pair paired]
    exact blames_of_trial tried

theorem judges_of_check {numQubits : Int} {verdict : Verdict R}
    (checked : checker.check candidate reference numQubits preparer bench = (.ok verdict, later)) :
    checker.Judges candidate reference numQubits preparer verdict := by
  rw [check_eq] at checked
  cases ended : sizeOutcome? checker.mode candidate reference numQubits preparer with
  | some outcome =>
    rw [ended] at checked
    cases checked
    rcases of_sizeOutcome?_eq_ok ended with ⟨arity, rfl⟩
    exact .arity arity
  | none =>
    rw [ended] at checked
    exact judges_of_build checked

end EquivalenceChecker

/-! ## Diagnoses -/

namespace DiagnosticRunner

variable {R : Type} [Scalar R] {runner : DiagnosticRunner R} {candidate reference : Operation R}
  {numQubits : Int} {preparer : Option (Operation R)} {bench : Bench R}

/-- A basis input that tells two operations apart is described by its label. -/
theorem description_of_searchFrom {fuel index : Nat} {found : Counterexample R} {later : Bench R}
    (searched : runner.searchFrom candidate reference numQubits fuel index bench =
      (.ok (some found), later)) :
    ∃ width label, found.description = "basis input " ++ Snapshot.plainLabel width label := by
  induction fuel generalizing index bench with
  | zero => cases searched
  | succ fuel ih =>
    rw [searchFrom] at searched
    rcases Action.bind_eq_ok_iff.1 searched with ⟨⟨input, expected⟩, _, -, searched⟩
    rcases Action.bind_eq_ok_iff.1 searched with ⟨⟨_, actual⟩, _, -, searched⟩
    dsimp only at searched
    split at searched
    · exact ih searched
    · cases searched
      exact ⟨_, _, rfl⟩

theorem description_of_findCounterexample {found : Counterexample R}
    (searched : (runner.findCounterexample candidate reference numQubits bench).1 =
      .ok (some found)) :
    ∃ width label, found.description = "basis input " ++ Snapshot.plainLabel width label := by
  have ran : runner.findCounterexample candidate reference numQubits bench =
      (.ok (some found), (runner.findCounterexample candidate reference numQubits bench).2) :=
    Prod.ext searched rfl
  rw [findCounterexample] at ran
  rcases Action.bind_eq_ok_iff.1 ran with ⟨exceeded, _, -, ran⟩
  split at ran
  · cases ran
  · split at ran
    · cases ran
    · exact description_of_searchFrom ran

/-- The faults that a diagnosis makes a note of. -/
inductive Misses (runner : DiagnosticRunner R) (candidate reference : Operation R)
    (numQubits : Int) (preparer : Option (Operation R)) (bench : Bench R) : Fault → Prop where
  | comparison {fault : Fault}
      (failed : (runner.compare candidate reference numQubits preparer bench).1 = .error fault) :
      Misses runner candidate reference numQubits preparer bench fault
  | search {fault : Fault}
      (failed : (runner.findCounterexample candidate reference numQubits
        (runner.compare candidate reference numQubits preparer bench).2).1 = .error fault) :
      Misses runner candidate reference numQubits preparer bench fault

/-- A diagnosis tells of faults in notes and describes an input by its label. -/
structure Tells (runner : DiagnosticRunner R) (candidate reference : Operation R)
    (numQubits : Int) (preparer : Option (Operation R)) (bench : Bench R)
    (diagnosis : Diagnosis R) : Prop where
  notes : ∀ note ∈ diagnosis.notes, note = Diagnosis.relativePhaseNote ∨
    ∃ fault, runner.Misses candidate reference numQubits preparer bench fault ∧
      (note = "State comparison unavailable: " ++ fault.text ∨
        note = "Counterexample search unavailable: " ++ fault.text)
  description : ∀ found, diagnosis.counterexample = some found →
    ∃ width label, found.description = "basis input " ++ Snapshot.plainLabel width label

theorem tells_of_gathered :
    runner.Tells candidate reference numQubits none bench
      (runner.gathered candidate reference numQubits bench) := by
  constructor
  case notes =>
    intro note member
    rcases notes_of_search member with before | ⟨fault, failed, rfl⟩
    · rcases notes_of_comparison before with ⟨fault, failed, rfl⟩
      exact .inr ⟨fault, .comparison failed, .inl rfl⟩
    · exact .inr ⟨fault, .search failed, .inr rfl⟩
  case description =>
    intro found isFound
    rw [gathered] at isFound
    cases outcome : (runner.findCounterexample candidate reference numQubits
      (runner.compare candidate reference numQubits none bench).2).1 with
    | ok counterexample =>
      rw [outcome] at isFound
      have same : counterexample = some found := isFound
      rw [same] at outcome
      exact description_of_findCounterexample outcome
    | error fault =>
      rw [outcome] at isFound
      cases (counterexample_ofComparison _).symm.trans isFound

theorem tells_of_diagnose {diagnosis : Diagnosis R}
    (diagnosed : (runner.diagnose candidate reference numQubits preparer bench).1 =
      .ok diagnosis) :
    runner.Tells candidate reference numQubits preparer bench diagnosis := by
  cases preparer with
  | some operation =>
    rw [diagnose_of_preparer] at diagnosed
    cases diagnosed
    refine ⟨fun note member => ?_, fun found isFound => ?_⟩
    · rcases notes_of_comparison member with ⟨fault, failed, rfl⟩
      exact .inr ⟨fault, .comparison failed, .inl rfl⟩
    · cases (counterexample_ofComparison _).symm.trans isFound
  | none =>
    have told : runner.Tells candidate reference numQubits none bench
        (runner.gathered candidate reference numQubits bench) := tells_of_gathered
    rcases Fault.map_eq_ok_iff.1 (diagnose_of_none.symm.trans diagnosed) with ⟨within, -, rfl⟩
    dsimp only
    split
    · exact ⟨fun note member => .inl (List.mem_singleton.1 member), told.description⟩
    · exact told

end DiagnosticRunner

/-! ## Runs of the grader -/

namespace Grader

open EquivalenceChecker

variable {R : Type} [Scalar R] {grader : Grader R} {registry : Registry R}
  {exercise : Exercise R} {candidate : Candidate R} {bench : Bench R}

/-- The diagnosis that follows a check. -/
def diagnosisFor (grader : Grader R) (exercise : Exercise R) (operation : Operation R)
    (bench : Bench R) : Except Fault (Diagnosis R) :=
  (grader.diagnostics.diagnose operation exercise.reference exercise.numQubits exercise.preparer
    (grader.checkFor exercise operation bench).2).1

/-- The faults that a run meets when it checks an operation: those of the check and of the bodies in
it, and those of the diagnosis and of its parts. -/
inductive Meets (grader : Grader R) (exercise : Exercise R) (operation : Operation R)
    (bench : Bench R) : Fault → Prop where
  | control {fault : Fault} (refused : operation.controlledBy 1 = .error fault) :
      Meets grader exercise operation bench fault
  | body {failure : OperationFailure}
      (blamed : Blames operation exercise.reference exercise.preparer failure)
      (checked : (grader.checkFor exercise operation bench).1 =
        .ok (judge exercise.mode operation.name exercise.reference.name (.failed failure))) :
      Meets grader exercise operation bench failure.cause
  | check {fault : Fault}
      (failed : (grader.checkFor exercise operation bench).1 = .error fault) :
      Meets grader exercise operation bench fault
  | part {fault : Fault}
      (missed : grader.diagnostics.Misses operation exercise.reference exercise.numQubits
        exercise.preparer (grader.checkFor exercise operation bench).2 fault) :
      Meets grader exercise operation bench fault
  | diagnosis {fault : Fault}
      (failed : grader.diagnosisFor exercise operation bench = .error fault) :
      Meets grader exercise operation bench fault

/-- Why a run comes to no decision about the candidate, with the message and the error that say
so. -/
inductive Ending (grader : Grader R) (registry : Registry R) (exercise : Exercise R)
    (candidate : Candidate R) (bench : Bench R) :
    VerdictStatus → (message error : String) → Prop where
  | missing (absent : find (grader.visible registry) exercise candidate =
        .error (.notSubmitted (candidate.label exercise))) :
      Ending grader registry exercise candidate bench .executionError
        (Fault.notSubmitted (candidate.label exercise)).text "missing operation"
  | noOperation {datum : Datum}
      (found : find (grader.visible registry) exercise candidate = .ok (.value datum)) :
      Ending grader registry exercise candidate bench .executionError
        ("'" ++ candidate.label exercise ++ "' is a " ++ datum.typeName ++ ", not an operation")
        "not an operation"
  | arity {operation : Operation R}
      (found : find (grader.visible registry) exercise candidate = .ok (.operation operation))
      (differs : operation.numQubits ≠ exercise.numQubits) :
      Ending grader registry exercise candidate bench .executionError
        ("Operation '" ++ candidate.label exercise ++ "' acts on " ++
          Decimal.integer operation.numQubits ++ " qubit(s), exercise '" ++ exercise.name ++
          "' expects " ++ Decimal.integer exercise.numQubits) "signature mismatch"
  | uncontrolled {operation : Operation R} {fault : Fault}
      (chosen : choose (grader.visible registry) exercise candidate = .ok operation)
      (refused : operation.controlledBy 1 = .error fault) :
      Ending grader registry exercise candidate bench .executionError
        ("Operation '" ++ operation.name ++ "' cannot be controlled: " ++ fault.text)
        fault.kind.title
  | failed {operation : Operation R} {failure : OperationFailure}
      (chosen : choose (grader.visible registry) exercise candidate = .ok operation)
      (blamed : Blames operation exercise.reference exercise.preparer failure)
      (checked : (grader.checkFor exercise operation bench).1 =
        .ok (judge exercise.mode operation.name exercise.reference.name (.failed failure))) :
      Ending grader registry exercise candidate bench .executionError failure.text
        failure.cause.kind.title
  | normLost {operation : Operation R}
      (chosen : choose (grader.visible registry) exercise candidate = .ok operation) :
      Ending grader registry exercise candidate bench .executionError
        ("Operation '" ++ operation.name ++ "' did not preserve the state norm") "non-unitary"
  | aborted {operation : Operation R} {fault : Fault}
      (chosen : choose (grader.visible registry) exercise candidate = .ok operation)
      (failed : (grader.checkFor exercise operation bench).1 = .error fault ∨
        grader.diagnosisFor exercise operation bench = .error fault) :
      Ending grader registry exercise candidate bench .aborted fault.text fault.kind.title

theorem find_cases (registry : Registry R) (exercise : Exercise R) (candidate : Candidate R) :
    find registry exercise candidate = .error (.notSubmitted (candidate.label exercise)) ∨
      ∃ item, find registry exercise candidate = .ok item := by
  have resolved : ∀ name, registry.resolve name = .error (.notSubmitted name) ∨
      ∃ item, registry.resolve name = .ok item := by
    intro name
    rw [Registry.resolve]
    cases registry.listing.find? name with
    | none => exact .inl rfl
    | some item => exact .inr ⟨item, rfl⟩
  cases candidate with
  | byDefault => exact resolved _
  | named name => exact resolved _
  | given item => exact .inr ⟨item, rfl⟩

/-- A refused candidate is missing, no operation, or of the wrong size. -/
theorem ending_of_refused {refused : GradeResult R} (bench : Bench R)
    (chosen : choose (grader.visible registry) exercise candidate = .error refused) :
    ∃ error, refused.verdict.error = some error ∧ refused.diagnosis = none ∧
      Ending grader registry exercise candidate bench refused.status refused.verdict.message
        error := by
  rw [choose] at chosen
  rcases find_cases (grader.visible registry) exercise candidate with absent | ⟨item, found⟩
  · rw [absent] at chosen
    cases chosen
    exact ⟨_, rfl, rfl, .missing absent⟩
  · rw [found] at chosen
    cases item with
    | value datum =>
      cases chosen
      exact ⟨_, rfl, rfl, .noOperation found⟩
    | operation operation =>
      dsimp only at chosen
      split at chosen
      · cases chosen
      case isFalse differs =>
        cases chosen
        exact ⟨_, rfl, rfl, .arity found differs⟩

/-- A verdict of the check that is no decision comes from the candidate's variant, from a body or
from the norm. -/
theorem ending_of_judged {operation : Operation R} {verdict : Verdict R}
    (chosen : choose (grader.visible registry) exercise candidate = .ok operation)
    (checked : (grader.checkFor exercise operation bench).1 = .ok verdict)
    (judged : (grader.checkerFor exercise).Judges operation exercise.reference exercise.numQubits
      exercise.preparer verdict)
    (undecided : verdict.status ≠ .correct ∧ verdict.status ≠ .incorrect) :
    ∃ error, verdict.error = some error ∧
      Ending grader registry exercise candidate bench verdict.status verdict.message error := by
  cases judged with
  | arity differs => exact absurd (choose_eq_ok_iff.1 chosen).2 differs
  | uncontrolled refused => exact ⟨_, rfl, .uncontrolled chosen refused⟩
  | tried ended blamed =>
    cases ended with
    | failed failure => exact ⟨_, rfl, .failed chosen (blamed failure rfl) checked⟩
    | normLost => exact ⟨_, rfl, .normLost chosen⟩
    | decided equivalent phase =>
      cases equivalent with
      | true => exact absurd rfl undecided.1
      | false => exact absurd rfl undecided.2

/-- A run that comes to no decision says why. -/
theorem ending_of_graded
    (undecided : (grader.graded registry exercise candidate bench).status ≠ .correct ∧
      (grader.graded registry exercise candidate bench).status ≠ .incorrect) :
    ∃ error, (grader.graded registry exercise candidate bench).verdict.error = some error ∧
      Ending grader registry exercise candidate bench
        (grader.graded registry exercise candidate bench).status
        (grader.graded registry exercise candidate bench).verdict.message error := by
  cases chosen : choose (grader.visible registry) exercise candidate with
  | error refused =>
    have same : grader.graded registry exercise candidate bench = refused := by
      rw [graded, assess_of_refused chosen]
    rw [same]
    rcases ending_of_refused bench chosen with ⟨error, isError, -, ending⟩
    exact ⟨error, isError, ending⟩
  | ok operation =>
    cases checked : (grader.checkFor exercise operation bench).1 with
    | error fault =>
      rw [graded_of_error chosen checked]
      exact ⟨_, rfl, .aborted chosen (.inl checked)⟩
    | ok verdict =>
      have judged := judges_of_check (Prod.ext checked rfl)
      rw [graded_eq_of_ok chosen (Prod.ext checked rfl)] at undecided ⊢
      split at undecided
      case isTrue diagnosed =>
        rw [if_pos diagnosed]
        cases gathered : grader.diagnosisFor exercise operation bench with
        | error fault =>
          rw [diagnosisFor] at gathered
          rw [gathered]
          exact ⟨_, rfl, .aborted chosen (.inr gathered)⟩
        | ok diagnosis =>
          rw [diagnosisFor] at gathered
          rw [gathered] at undecided
          exact absurd diagnosed.1 undecided.2
      case isFalse diagnosed =>
        rw [if_neg diagnosed]
        exact ending_of_judged chosen checked judged undecided

/-- The diagnosis of a result is the one that has followed the check. -/
theorem diagnosisFor_of_graded {diagnosis : Diagnosis R}
    (diagnosed : (grader.graded registry exercise candidate bench).diagnosis = some diagnosis) :
    ∃ operation, choose (grader.visible registry) exercise candidate = .ok operation ∧
      grader.diagnosisFor exercise operation bench = .ok diagnosis := by
  cases chosen : choose (grader.visible registry) exercise candidate with
  | error refused =>
    rw [graded, assess_of_refused chosen] at diagnosed
    rcases ending_of_refused bench chosen with ⟨-, -, undiagnosed, -⟩
    cases undiagnosed.symm.trans diagnosed
  | ok operation =>
    refine ⟨operation, rfl, ?_⟩
    cases checked : (grader.checkFor exercise operation bench).1 with
    | error fault =>
      rw [graded_of_error chosen checked] at diagnosed
      cases diagnosed
    | ok verdict =>
      rw [graded_eq_of_ok chosen (Prod.ext checked rfl)] at diagnosed
      split at diagnosed
      · cases gathered : grader.diagnosisFor exercise operation bench with
        | error fault =>
          rw [diagnosisFor] at gathered
          rw [gathered] at diagnosed
          cases diagnosed
        | ok found =>
          rw [diagnosisFor] at gathered
          rw [gathered] at diagnosed
          exact congrArg Except.ok (Option.some.inj diagnosed)
      · cases diagnosed

end Grader

end QuantumKata
