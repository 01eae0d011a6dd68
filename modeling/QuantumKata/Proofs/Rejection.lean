import QuantumKata.Proofs.Containment
import QuantumKata.Proofs.Watching

/-!
# A profile can only reject

What a body does depends on the profile in force in one way: where an instruction is missing from
the profile the run ends there, with a violation of that profile.  So the course of a body under a
profile is its course without a restriction, cut short at the first instruction that the profile
does not have.  Blocks respect this, whatever they do with a course: controls are put in front of
the entries of both courses, a recording collects the same entries from both, and a block under a
profile of its own has the same course in both.

A check puts its profile in force for the candidate alone.  Either the candidate is cut short, and
the check ends with a verdict that says so, or the whole check runs as it does without a profile.
-/

namespace QuantumKata

namespace Course

variable {R α β : Type}

/-- A course that goes as another one does, up to an instruction that a profile does not have. -/
inductive CutShort (profile : TargetProfile) : Course R α → Course R α → Prop where
  | violation {kind : InstructionKind} (name : String) (whole : Course R α)
      (missing : profile.allows kind = false) :
      CutShort profile (done (.error (.notInProfile name profile.setting))) whole
  | done (outcome : Except Fault α) : CutShort profile (done outcome) (done outcome)
  | issue (entry : TapeEntry R) {short whole : Course R α} (rest : CutShort profile short whole) :
      CutShort profile (issue entry short) (issue entry whole)
  | pause (seconds : R) {short whole : Course R α} (rest : CutShort profile short whole) :
      CutShort profile (pause seconds short) (pause seconds whole)
  | measure (qubit : Int) {short whole : Bool → Course R α}
      (rest : ∀ bit, CutShort profile (short bit) (whole bit)) :
      CutShort profile (measure qubit short) (measure qubit whole)
  | reset (qubit : Int) {short whole : Course R α} (rest : CutShort profile short whole) :
      CutShort profile (reset qubit short) (reset qubit whole)
  | refuse (what : String) : CutShort profile (refuse what) (refuse what)

namespace CutShort

variable {profile : TargetProfile} {short whole : Course R α}

theorem refl (course : Course R α) : CutShort profile course course := by
  induction course with
  | done outcome => exact .done outcome
  | issue entry rest ih => exact .issue entry ih
  | pause seconds rest ih => exact .pause seconds ih
  | measure qubit rest ih => exact .measure qubit ih
  | reset qubit rest ih => exact .reset qubit ih
  | refuse what => exact .refuse what

theorem bind {shortNext wholeNext : α → Course R β} (first : CutShort profile short whole)
    (second : ∀ value, CutShort profile (shortNext value) (wholeNext value)) :
    CutShort profile (short >>= shortNext) (whole >>= wholeNext) := by
  induction first with
  | violation name whole missing => exact .violation name _ missing
  | done outcome =>
    cases outcome with
    | ok value => exact second value
    | error fault => exact .done (.error fault)
  | issue entry rest ih => exact .issue entry ih
  | pause seconds rest ih => exact .pause seconds ih
  | measure qubit rest ih => exact .measure qubit ih
  | reset qubit rest ih => exact .reset qubit ih
  | refuse what => exact .refuse what

theorem under (added : List Int) (cut : CutShort profile short whole) :
    CutShort profile (short.under added) (whole.under added) := by
  induction cut with
  | violation name whole missing => exact .violation name _ missing
  | done outcome => exact .done outcome
  | issue entry rest ih => exact .issue _ ih
  | pause seconds rest ih => exact .pause seconds ih
  | measure qubit rest ih =>
    simp only [Course.under]
    split
    · exact .measure qubit ih
    · exact .done _
  | reset qubit rest ih =>
    simp only [Course.under]
    split
    · exact .reset qubit ih
    · exact .done _
  | refuse what => exact .refl _

/-- A recording that is cut short has collected nothing: its entries are dropped with it. -/
theorem recordedAfter (cut : CutShort profile short whole) :
    ∀ collected, CutShort profile (short.recordedAfter collected)
      (whole.recordedAfter collected) := by
  induction cut with
  | violation name whole missing => exact fun _ => .violation name _ missing
  | done outcome => exact fun _ => .refl _
  | issue entry rest ih => exact fun _ => ih _
  | pause seconds rest ih => exact fun _ => .pause seconds (ih _)
  | measure qubit rest ih => exact fun _ => .refuse _
  | reset qubit rest ih => exact fun _ => .refuse _
  | refuse what => exact fun _ => .refuse what

theorem recorded (cut : CutShort profile short whole) :
    CutShort profile short.recorded whole.recorded :=
  cut.recordedAfter []

end CutShort

/-! ## Primitives -/

section

variable {profile : TargetProfile}

/-- An instruction that a profile lets through goes as it does without a restriction. -/
theorem cutShort_ite {kind : InstructionKind} (name : String) (course : Course R α) :
    CutShort profile
      (if profile.allows kind then course
        else done (.error (.notInProfile name profile.setting)))
      (if TargetProfile.unrestricted.allows kind then course
        else done (.error (.notInProfile name TargetProfile.unrestricted.setting))) := by
  rw [show TargetProfile.unrestricted.allows kind = true from rfl, if_pos rfl]
  cases allowed : profile.allows kind with
  | true => exact .refl course
  | false => exact .violation name course allowed

theorem cutShort_ofMeasure (qubit : Int) :
    CutShort (R := R) profile (ofMeasure profile qubit) (ofMeasure .unrestricted qubit) :=
  cutShort_ite "M" _

theorem cutShort_ofReset (qubit : Int) :
    CutShort (R := R) profile (ofReset profile qubit) (ofReset .unrestricted qubit) :=
  cutShort_ite "Reset" _

variable [Scalar R]

theorem cutShort_ofGate (gate : Gate R) (targets : List Int) :
    CutShort profile (ofGate profile gate targets) (ofGate .unrestricted gate targets) := by
  rw [ofGate, ofGate]
  by_cases arity : targets.length ≠ gate.numQubits
  · rw [if_pos arity, if_pos arity]
    exact .done _
  · rw [if_neg arity, if_neg arity]
    exact cutShort_ite gate.name _

theorem cutShort_ofUndoEntries (entries : List (TapeEntry R)) :
    CutShort profile (ofUndoEntries profile entries) (ofUndoEntries .unrestricted entries) := by
  induction entries with
  | nil => exact .done _
  | cons entry rest ih =>
    have undone : CutShort profile (ofUndoEntry profile entry) (ofUndoEntry .unrestricted entry) :=
      ((CutShort.done _).bind fun inverse => cutShort_ofGate inverse entry.targets).under _
    exact undone.bind fun _ => ih

end

end Course

/-! ## Bodies -/

/-- A guide by whose courses a profile can do no more than cut them short. -/
def Guide.CutsShort {R : Type} (guide : Guide R) (profile : TargetProfile) : Prop :=
  ∀ operation qubits, Course.CutShort profile (guide.course operation qubits profile)
    (guide.course operation qubits .unrestricted)

namespace Course

variable {R : Type} [Scalar R] {guide : Guide R} {profile : TargetProfile}

mutual

/-- A profile cuts the course of an operation short or leaves it as it is. -/
theorem cutShort_ofOperation (guided : guide.CutsShort profile) :
    ∀ (operation : Operation R) (qubits : List Int),
      CutShort profile (ofOperation guide operation qubits profile)
        (ofOperation guide operation qubits .unrestricted)
  | .gate primitive _, qubits => cutShort_ofGate primitive qubits
  | .circuit _ _ steps, qubits => cutShort_ofSteps guided steps qubits
  | .phaseShifted inner _, qubits =>
    (cutShort_ofOperation guided inner qubits).bind fun _ => cutShort_ofGate _ []
  | .controlled inner _ _, _ => (cutShort_ofOperation guided inner _).under _
  | .derivedAdjoint inner, qubits =>
    (cutShort_ofOperation guided inner qubits).recorded.bind fun entries =>
      cutShort_ofUndoEntries entries.reverse
  | .routine _ _ _ body _, qubits =>
    (cutShort_ofProgram guided body (.given qubits)).bind fun _ => .done _
  | .linked core _, qubits => cutShort_ofOperation guided core qubits

theorem cutShort_ofSteps (guided : guide.CutsShort profile) :
    ∀ (steps : Steps R) (qubits : List Int),
      CutShort profile (ofSteps guide steps qubits profile)
        (ofSteps guide steps qubits .unrestricted)
  | .nil, _ => .done _
  | .cons operation _ rest, qubits =>
    (CutShort.done _).bind fun chosen => (CutShort.done _).bind fun _ =>
      (cutShort_ofOperation guided operation chosen).bind fun _ =>
        cutShort_ofSteps guided rest qubits

theorem cutShort_ofInstruction (guided : guide.CutsShort profile) :
    ∀ (instruction : Instruction R) (frame : Frame),
      CutShort profile (ofInstruction guide instruction frame profile)
        (ofInstruction guide instruction frame .unrestricted)
  | .primitive primitive _, _ =>
    (CutShort.done _).bind fun qubits => (cutShort_ofGate primitive qubits).bind fun _ => .done _
  | .unitary _ _ _, _ =>
    (CutShort.done _).bind fun qubits => (CutShort.done _).bind fun primitive =>
      (cutShort_ofGate primitive qubits).bind fun _ => .done _
  | .apply operation _, _ =>
    (CutShort.done _).bind fun qubits => (CutShort.done _).bind fun _ =>
      (cutShort_ofOperation guided operation qubits).bind fun _ => .done _
  | .applyNamed _ _ _ _, _ =>
    (CutShort.done _).bind fun _ => (CutShort.done _).bind fun qubits =>
      (CutShort.done _).bind fun chosen => (CutShort.done _).bind fun _ =>
        (guided chosen qubits).bind fun _ => .done _
  | .refused _ _, _ => .refl _
  | .measure _, _ =>
    (CutShort.done _).bind fun qubit => (cutShort_ofMeasure qubit).bind fun _ => .done _
  | .reset _, _ =>
    (CutShort.done _).bind fun qubit => (cutShort_ofReset qubit).bind fun _ => .done _
  | .controlledBy _ block, frame =>
    (CutShort.done _).bind fun controls => (cutShort_ofProgram guided block frame).under controls
  -- The block brings its own profile along, so the one around it is not asked.
  | .restrictedTo _ _, _ => .refl _
  | .record block, frame =>
    (cutShort_ofProgram guided block frame).recorded.bind fun _ => .done _
  | .recordAndUndo block, frame =>
    (cutShort_ofProgram guided block frame).recorded.bind fun entries =>
      (cutShort_ofUndoEntries entries.reverse).bind fun _ => .done _
  | .ifMeasured _ block, frame =>
    (CutShort.done _).bind fun qubit => (cutShort_ofMeasure qubit).bind fun bit => by
      cases bit with
      | false => exact .done _
      | true => exact (cutShort_ofProgram guided block frame).bind fun _ => .done _
  | .sleep _, _ => .refl _

theorem cutShort_ofProgram (guided : guide.CutsShort profile) :
    ∀ (program : Program R) (frame : Frame),
      CutShort profile (ofProgram guide program frame profile)
        (ofProgram guide program frame .unrestricted)
  | .nil, _ => .done _
  | .cons instruction .nil, frame => cutShort_ofInstruction guided instruction frame
  | .cons instruction (.cons next rest), frame =>
    (cutShort_ofInstruction guided instruction frame).bind fun _ =>
      cutShort_ofProgram guided (.cons next rest) frame

end

end Course

namespace Guide

variable {R : Type} [Scalar R]

theorem within_cutsShort (profile : TargetProfile) (definitions : Definitions R) (depth : Nat) :
    (within definitions depth).CutsShort profile := by
  induction depth with
  | zero => exact fun _ _ => .done _
  | succ depth ih => exact Course.cutShort_ofOperation ih

end Guide

namespace Operation

variable {R : Type} [Scalar R]

theorem course_cutShort (definitions : Definitions R) (operation : Operation R) (qubits : List Int)
    (profile : TargetProfile) :
    Course.CutShort profile (operation.course definitions qubits profile)
      (operation.course definitions qubits .unrestricted) :=
  (Course.CutShort.done _).bind fun _ =>
    Course.cutShort_ofOperation (Guide.within_cutsShort profile definitions _) operation qubits

end Operation

/-! ## Runs -/

namespace Action

variable {σ α β : Type} {holds : Except Fault α → Prop}

/-- Two actions that begin alike: where what follows has a certain outcome or is the same, so is the
whole. -/
theorem bind_holds_or_same (action : Action σ β) {first second : β → Action σ α}
    (next : ∀ value state, holds (first value state).1 ∨ first value state = second value state)
    (state : σ) :
    holds ((action >>= first) state).1 ∨ (action >>= first) state = (action >>= second) state := by
  rw [bind_apply, bind_apply]
  rcases action state with ⟨fault | value, after⟩
  · exact .inr rfl
  · exact next value after

end Action

/-- A run that a profile has ended: it asked for an instruction that the profile does not have. -/
def TargetProfile.Ends {α : Type} (profile : TargetProfile) (outcome : Except Fault α) : Prop :=
  ∃ kind name, profile.allows kind = false ∧
    outcome = .error (.notInProfile name profile.setting)

/-- A course that may be cut short is ended by the profile, or it is played to the same end and
leaves the same engine. -/
theorem Course.CutShort.play {R α : Type} [Scalar R] {profile : TargetProfile}
    {short whole : Course R α} (cut : CutShort profile short whole) :
    ∀ engine, profile.Ends (short.play engine).1 ∨ short.play engine = whole.play engine := by
  induction cut with
  | violation name whole missing => exact fun _ => .inl ⟨_, name, missing, rfl⟩
  | done outcome => exact fun _ => .inr rfl
  | issue entry rest ih => exact Action.bind_holds_or_same _ fun _ => ih
  | pause seconds rest ih => exact Action.bind_holds_or_same _ fun _ => ih
  | measure qubit rest ih => exact Action.bind_holds_or_same _ ih
  | reset qubit rest ih => exact Action.bind_holds_or_same _ fun _ => ih
  | refuse what => exact fun _ => .inr rfl

/-- What is issued under a profile is issued without it. -/
theorem Course.CutShort.issues {R α : Type} {profile : TargetProfile} {short whole : Course R α}
    (cut : CutShort profile short whole) {entries : List (TapeEntry R)} {value : α}
    (issued : short.Issues entries value) : whole.Issues entries value := by
  induction cut generalizing entries with
  | violation name whole missing => cases issued
  | done outcome => exact issued
  | issue entry rest ih =>
    cases issued with
    | issue later => exact .issue (ih later)
  | pause seconds rest ih =>
    cases issued with
    | pause later => exact .pause (ih later)
  | measure qubit rest ih => cases issued
  | reset qubit rest ih => cases issued
  | refuse what => cases issued

namespace Engine

variable {R : Type} [Scalar R]

/-- A profile ends the application of an operation, or it makes no difference to it. -/
theorem restrictedTo_apply_ends_or_same (profile : TargetProfile) (operation : Operation R)
    (qubits : List Int) (engine : Engine R) :
    profile.Ends (restrictedTo profile (apply operation qubits) engine).1 ∨
      restrictedTo profile (apply operation qubits) engine =
        restrictedTo .unrestricted (apply operation qubits) engine := by
  rw [restrictedTo_apply, restrictedTo_apply]
  exact (Operation.course_cutShort engine.definitions operation qubits profile).play engine

/-- An operation that is applied under a profile is applied alike without it. -/
theorem restrictedTo_apply_of_ok {profile : TargetProfile} {operation : Operation R}
    {qubits : List Int} {engine after : Engine R}
    (applies : restrictedTo profile (apply operation qubits) engine = (.ok (), after)) :
    restrictedTo .unrestricted (apply operation qubits) engine = (.ok (), after) := by
  rcases restrictedTo_apply_ends_or_same profile operation qubits engine with
    ⟨kind, name, -, ended⟩ | same
  · rw [applies] at ended
    cases ended
  · rw [← same, applies]

end Engine

/-! ## Checks -/

namespace EquivalenceChecker

open Engine

variable {R : Type}

/-- The same check without a profile. -/
def withoutProfile (checker : EquivalenceChecker R) : EquivalenceChecker R :=
  { checker with profile := .unrestricted }

variable [Scalar R] {checker : EquivalenceChecker R} {candidate reference : Operation R}
  {size : Nat} {variant inverse : Operation R} {pair : Option (Operation R × Operation R)}

/-- A trial that the profile of the check has ended at the candidate. -/
def Rejects (checker : EquivalenceChecker R) (candidate : Operation R)
    (outcome : Except Fault (TrialEnd R)) : Prop :=
  ∃ kind name, checker.profile.allows kind = false ∧
    outcome = .ok (.failed ⟨.candidate, candidate.name, .notInProfile name checker.profile.setting⟩)

/-- The profile of a check rejects the candidate, or it makes no difference to the trial. -/
theorem trial_rejects_or_same (engine : Engine R) :
    checker.Rejects candidate
        (checker.trial size candidate variant reference inverse pair engine).1 ∨
      checker.trial size candidate variant reference inverse pair engine =
        checker.withoutProfile.trial size candidate variant reference inverse pair engine := by
  refine Action.bind_holds_or_same (prepare checker.mode size (pair.map Prod.fst)) ?_ engine
  rintro (_ | failure) prepared
  swap
  · exact .inr rfl
  refine Action.bind_holds_or_same (applyConstant (.fixed .h) [probe]) ?_ prepared
  intro _ superposed
  rcases restrictedTo_apply_ends_or_same checker.profile variant (probe :: targets size)
    superposed with ⟨kind, name, missing, ended⟩ | same
  · left
    refine ⟨kind, name, missing, ?_⟩
    rw [unlessFailed_of_error (Prod.ext ended rfl)]
    rfl
  · right
    rw [unlessFailed, Action.bind_apply, applyAs_congr same]
    rfl

/-- Blocks on a register that have a certain outcome or are the same. -/
theorem withRegister_holds_or_same {α : Type} {holds : Except Fault α → Prop}
    {first second : EngineAction R α} (kept : Action.Keeps outline first)
    (each : ∀ engine, holds (first engine).1 ∨ first engine = second engine) (register : Int)
    (bench : Bench R) :
    holds (Bench.withRegister register first bench).1 ∨
      Bench.withRegister register first bench = Bench.withRegister register second bench := by
  by_cases some : 1 ≤ register
  swap
  · right
    rw [Bench.withRegister, Bench.withRegister, Arena.acquire, if_pos (by omega)]
  cases roomy : bench.arena.limit.isExceededBy register with
  | true =>
    right
    rw [Bench.withRegister, Bench.withRegister, Arena.acquire, if_neg (by omega), if_pos roomy]
  | false =>
    rcases each (start (.holding (.zero register.toNat)) .unrestricted [] bench.definitions) with
      certain | same
    · left
      rwa [Bench.outcome_withRegister kept some roomy]
    · right
      rw [Bench.withRegister, Bench.withRegister, Bench.acquire_of_roomy some roomy]
      dsimp only
      rw [same]

/-- The outcome of a check whose candidate has asked for an instruction that the profile of the
check does not have. -/
def RejectedFor (checker : EquivalenceChecker R) (candidate : Operation R)
    (outcome : Except Fault (Verdict R)) : Prop :=
  ∃ kind instruction, checker.profile.allows kind = false ∧ outcome = .ok
    { status := .executionError, mode := checker.mode,
      message := OperationFailure.text
        ⟨.candidate, candidate.name, .notInProfile instruction checker.profile.setting⟩,
      error := some "ProfileViolationError" }

theorem buildAndJudge_rejected_or_same (preparer : Option (Operation R)) (register : Int)
    (bench : Bench R) :
    checker.RejectedFor candidate
        (checker.buildAndJudge candidate reference size preparer register bench).1 ∨
      checker.buildAndJudge candidate reference size preparer register bench =
        checker.withoutProfile.buildAndJudge candidate reference size preparer register bench := by
  refine Action.bind_holds_or_same _ (fun inverse => ?_) bench
  refine Action.bind_holds_or_same _ fun controlledInverse => ?_
  refine Action.bind_holds_or_same _ fun pair bench => ?_
  cases candidate.controlledBy 1 with
  | error fault => exact .inr rfl
  | ok variant =>
    have kept : Action.Keeps outline (do
        Action.ofExcept checker.generator
        checker.trial size candidate variant reference controlledInverse pair) :=
      (Action.keeps_ofExcept _).bind fun _ => trial_keeps_outline
    rcases withRegister_holds_or_same kept
      (Action.bind_holds_or_same _ fun _ => trial_rejects_or_same) register bench with
      ⟨kind, name, missing, ended⟩ | same
    · left
      refine ⟨kind, name, missing, ?_⟩
      dsimp only
      rw [Action.bind_of_ok (Prod.ext ended rfl)]
      rfl
    · right
      dsimp only
      rw [Action.bind_apply, same]
      rfl

/-- The profile of a check rejects the candidate, or it makes no difference to the check. -/
theorem check_rejected_or_same (checker : EquivalenceChecker R) (candidate reference : Operation R)
    (numQubits : Int) (preparer : Option (Operation R)) (bench : Bench R) :
    checker.RejectedFor candidate
        (checker.check candidate reference numQubits preparer bench).1 ∨
      checker.check candidate reference numQubits preparer bench =
        checker.withoutProfile.check candidate reference numQubits preparer bench := by
  -- What is looked at before the variants are built has nothing to do with the profile.
  have sameMode : checker.withoutProfile.mode = checker.mode := rfl
  rw [check_eq, check_eq, sameMode]
  cases sizeOutcome? checker.mode candidate reference numQubits preparer with
  | some outcome => exact .inr rfl
  | none => exact buildAndJudge_rejected_or_same preparer _ bench

/-- What a profile lets through of an operation on the targets is all that it issues there. -/
theorem eq_behindProbe_of_issues {definitions : Definitions ℝ} {operation : Operation ℝ}
    {profile : TargetProfile} {forward entries : List (TapeEntry ℝ)}
    (acts : operation.ActsOn definitions size)
    (advances : operation.Realizes definitions size forward)
    (issued : (operation.course definitions (targets size) profile).Issues entries ()) :
    entries = behindProbe forward := by
  have cut := Operation.course_cutShort definitions operation (targets size) profile
  exact ((cut.issues issued).unique (issued_onTargets acts advances)).1

/-! ## What a profile is not asked for -/

/-- A body other than the candidate that fails first does so without a profile as well. -/
theorem FirstFailure.withoutProfile {engine : Engine R} {role : Role} {name : String}
    {fault : Fault}
    (failure : FirstFailure checker size candidate variant reference inverse pair engine role name
      fault) (other : role ≠ .candidate) :
    FirstFailure checker.withoutProfile size candidate variant reference inverse pair engine role
      name fault := by
  cases failure with
  | preparer mode given fails => exact .preparer mode given fails
  | candidate _ _ _ => exact absurd rfl other
  | reference prepares superposes applies fails =>
    exact .reference prepares superposes (restrictedTo_apply_of_ok applies) fails
  | inversePreparer mode given prepares superposes applies returns normal fails =>
    exact .inversePreparer mode given prepares superposes (restrictedTo_apply_of_ok applies)
      returns normal fails

/-- A body without a restriction is refused an instruction only under a profile that a block of its
own has put in force. -/
theorem refused_within_own_block (operation : Operation R) (qubits : List Int)
    (engine : Engine R) :
    ∃ events,
      Watched.restrictedTo .unrestricted (Watched.apply operation qubits) (engine, []) =
        ((restrictedTo .unrestricted (apply operation qubits) engine).1,
          (restrictedTo .unrestricted (apply operation qubits) engine).2,
          .entered .unrestricted :: events) ∧
      ∀ request inForce fault, .asked request inForce fault ∈ events →
        inForce.allows request.kind = false → .entered inForce ∈ events := by
  rcases Watches.apply operation qubits (enterProfile .unrestricted engine)
    [.entered .unrestricted] with ⟨events, ran, account, -⟩
  refine ⟨events, ?_, ?_⟩
  · rw [Watched.restrictedTo, Action.bind_apply]
    simp only [Watched.note, Action.update, Watched.during, Action.during, List.nil_append, ran]
    rfl
  · intro request inForce fault member missing
    refine (account.inForce request inForce fault member).resolve_left ?_
    rintro rfl
    cases missing

/-- A body that resets its qubit. -/
def resetter : Operation ℝ := .routine 1 "body" .all (.cons (.reset (.given 0)) .nil) .derived

/-- Under the base profile a reset is refused for the profile; without a profile it is refused
because it cannot be controlled. -/
example :
    let checker : EquivalenceChecker ℝ := { stateChecker with profile := .base }
    let outcome := fun (checker : EquivalenceChecker ℝ) =>
      (checker.check resetter (flip ℝ) (1 : ℕ) none (.ofLimit .standard {})).1.map
        fun verdict => (verdict.message, verdict.error)
    outcome checker = .ok
      ("candidate operation 'body' failed: ProfileViolationError: Instruction 'Reset' is not " ++
        "available in the 'base' target profile", some "ProfileViolationError") ∧
    outcome { checker with profile := .unrestricted } = .ok
      ("candidate operation 'body' failed: ExecutionError: Cannot apply reset inside a " ++
        "controlled operation", some "ExecutionError") :=
  ⟨rfl, rfl⟩

end EquivalenceChecker

end QuantumKata
