import QuantumKata.Proofs.EquivalenceCheck
import QuantumKata.Proofs.Watching

/-!
# What a profile confines

A block under a profile asks the profile for leave before each of its primitives, also for those
that it only records or that undo a tape.  But a block inside it may put another profile in force,
and then it is that profile that is asked.  So a block is confined to its profile exactly as far as
the blocks inside it are: when none of them enters a profile with further instructions, every
primitive that goes through is one that the outer profile has, and any other is refused.

A check holds its candidate to a profile by such a block.  A body that enters the unrestricted
profile is not held to anything, and it may be accepted for a gate that the profile of the check
does not have.
-/

noncomputable section

namespace QuantumKata

/-- A profile that has no instruction which another one lacks. -/
def TargetProfile.Within (inner outer : TargetProfile) : Prop :=
  ∀ kind, inner.allows kind = true → outer.allows kind = true

/-- A block under a profile, with the outcome that it comes to and the events inside. -/
structure Confined {R α : Type} (profile : TargetProfile) (outcome : Except Fault α)
    (events : List (Event R)) : Prop where
  /-- Each primitive is answered as the profile of one of the blocks around it demands. -/
  abides : ∀ request inForce fault, .asked request inForce fault ∈ events →
    request.Abides inForce fault ∧ .entered inForce ∈ events
  ends : ∀ request inForce fault, .asked request inForce (some fault) ∈ events →
    outcome = .error fault
  /-- No block inside enters a profile with further instructions: nothing else goes through. -/
  within : (∀ inner, .entered inner ∈ events → inner.Within profile) →
    ∀ request inForce fault, .asked request inForce fault ∈ events →
      (fault = none → profile.allows request.kind = true) ∧
      (profile.allows request.kind = false → ∃ refusal, fault = some refusal ∧
        (refusal.kind = .profileViolation ∨
          request.IsMalformed ∧ refusal.kind = .dimensionMismatch))

section Blocks

variable {R α : Type} {profile outer : TargetProfile}

theorem Account.confined {outcome : Except Fault α} {events : List (Event R)}
    (account : Account profile outcome events) :
    Confined profile outcome (.entered profile :: events) := by
  have around : Account profile outcome (.entered profile :: events) := account.entered
  have inForceIs : ∀ request inForce fault,
      .asked request inForce fault ∈ (.entered profile :: events) →
        .entered inForce ∈ (.entered profile :: events) := by
    intro request inForce fault member
    rcases around.inForce request inForce fault member with rfl | entered
    · exact List.mem_cons_self
    · exact entered
  constructor
  case abides =>
    intro request inForce fault member
    exact ⟨around.abides request inForce fault member, inForceIs request inForce fault member⟩
  case ends => exact around.ends
  case within =>
    intro narrower request inForce fault member
    have abides := around.abides request inForce fault member
    -- The profile that was asked has been entered, so it has nothing that the outer one lacks.
    have narrow := narrower inForce (inForceIs request inForce fault member)
    refine ⟨fun through => narrow _ (abides.allowed through), ?_⟩
    intro forbidden
    by_cases malformed : request.IsMalformed
    · rcases abides.malformed malformed with ⟨refusal, isRefusal, isKind⟩
      exact ⟨refusal, isRefusal, .inr ⟨malformed, isKind⟩⟩
    · have forbiddenInside : inForce.allows request.kind = false := by
        by_contra allowed
        rw [Bool.not_eq_false] at allowed
        cases (narrow _ allowed).symm.trans forbidden
      exact ⟨_, abides.refused malformed forbiddenInside, .inl rfl⟩

theorem Watches.confined {watched : Watched R α} {action : EngineAction R α}
    (inside : Watches watched action) (profile : TargetProfile) (engine : Engine R) :
    ∃ events,
      Watched.restrictedTo profile watched (engine, []) =
        ((Engine.restrictedTo profile action engine).1,
          (Engine.restrictedTo profile action engine).2, events) ∧
      Confined profile (Engine.restrictedTo profile action engine).1 events := by
  rcases inside (Engine.enterProfile profile engine) [.entered profile] with
    ⟨more, ran, account, -⟩
  refine ⟨.entered profile :: more, ?_, account.confined⟩
  rw [Watched.restrictedTo, Action.bind_apply]
  simp only [Watched.note, Action.update, Watched.during, Action.during, List.nil_append, ran]
  rfl

end Blocks

namespace EquivalenceChecker

open Engine

variable {R : Type} [Scalar R]

/-- Whatever is run under a profile is confined by it, and so is the candidate that a check accepts
or rejects: all of its primitives have gone through, and unless it enters a profile with further
instructions they are instructions of the profile of the check. -/
theorem confined_by_profile :
    (∀ (profile : TargetProfile) (body : Program R) (frame : Frame) (engine : Engine R), ∃ events,
      Watched.restrictedTo profile (Watched.execute body frame) (engine, []) =
        ((restrictedTo profile (execute body frame) engine).1,
          (restrictedTo profile (execute body frame) engine).2, events) ∧
      Confined profile (restrictedTo profile (execute body frame) engine).1 events) ∧
    (∀ (profile : TargetProfile) (operation : Operation R) (qubits : List Int) (engine : Engine R),
      ∃ events,
        Watched.restrictedTo profile (Watched.apply operation qubits) (engine, []) =
          ((restrictedTo profile (apply operation qubits) engine).1,
            (restrictedTo profile (apply operation qubits) engine).2, events) ∧
        Confined profile (restrictedTo profile (apply operation qubits) engine).1 events) ∧
    ∀ (checker : EquivalenceChecker R) (candidate reference : Operation R) (size : Nat)
      (preparer : Option (Operation R)) (bench later : Bench R) (verdict : Verdict R),
      checker.check candidate reference size preparer bench = (.ok verdict, later) →
      verdict.status ≠ .executionError →
      ∃ variant pair prepared superposed after events,
        candidate.controlledBy 1 = .ok variant ∧ preparerPair preparer = .ok pair ∧
        prepare checker.mode size (pair.map Prod.fst)
          (start (.holding (.zero (registerSize checker.mode size).toNat)) .unrestricted []
            bench.definitions) = (.ok none, prepared) ∧
        applyConstant (.fixed .h) [probe] prepared = (.ok (), superposed) ∧
        restrictedTo checker.profile (apply variant (probe :: targets size)) superposed =
          (.ok (), after) ∧
        Watched.restrictedTo checker.profile (Watched.apply variant (probe :: targets size))
          (superposed, []) = (.ok (), after, events) ∧
        Confined checker.profile (.ok () : Except Fault Unit) events ∧
        ∀ request inForce fault, .asked request inForce fault ∈ events →
          fault = none ∧ ((∀ inner, .entered inner ∈ events → inner.Within checker.profile) →
            checker.profile.allows request.kind = true) := by
  refine ⟨?_, ?_, ?_⟩
  · intro profile body frame engine
    exact (Watches.execute body frame).confined profile engine
  · intro profile operation qubits engine
    exact (Watches.apply operation qubits).confined profile engine
  · intro checker candidate reference size preparer bench later verdict checked graded
    rcases trial_of_graded checked graded with
      ⟨-, -, -, variant, _, pair, _, _, _, builds, tried, -⟩
    rcases applied_of_trial tried with
      ⟨prepared, superposed, after, prepares, superposes, applies⟩
    have applied := applyAs_eq_ok_none_iff.1 applies
    rcases (Watches.apply variant (probe :: targets size)).confined checker.profile superposed with
      ⟨events, ran, confined⟩
    rw [applied] at ran confined
    refine ⟨variant, pair, prepared, superposed, after, events, builds.candidate, builds.pair,
      prepares, superposes, applied, ran, confined, ?_⟩
    intro request inForce fault member
    have through : fault = none := by
      rcases fault with none | refusal
      · rfl
      · cases confined.ends request inForce refusal member
    exact ⟨through, fun narrower =>
      (confined.within narrower request inForce fault member).1 through⟩

/-- A recording that is undone, and a reset inside a block of its own under the same profile. -/
theorem confined_by_profile_of_reset :
    let body : Program Float :=
      .ofList [.recordAndUndo (.ofList [.primitive (.fixed .x) [.given 0]]),
        .restrictedTo .base (.ofList [.reset (.given 0)])]
    let engine : Engine Float := start (.holding (.zero 1)) .unrestricted [] {}
    ∃ events,
      (Watched.restrictedTo .base (Watched.execute body .register) (engine, [])).2.2 = events ∧
      (∀ inner, .entered inner ∈ events → inner.Within .base) ∧
      .asked (.reset 0) .base (some (.notInProfile "Reset" "base")) ∈ events ∧
      ∀ request inForce, .asked request inForce none ∈ events →
        TargetProfile.base.allows request.kind = true := by
  intro body engine
  rcases confined_by_profile.1 .base body .register engine with ⟨events, ran, confined⟩
  have written : events = [.entered .base, .asked (.gate (.fixed .x) [0]) .base none,
      .asked (.gate (.fixed .x) [0]) .base none, .entered .base,
      .asked (.reset 0) .base (some (.notInProfile "Reset" "base"))] :=
    (congrArg (fun ended => ended.2.2) ran).symm.trans rfl
  have narrower : ∀ inner, .entered inner ∈ events → inner.Within .base := by
    intro inner member
    have isBase : inner = .base := by
      simpa [written] using member
    rw [isBase]
    exact fun kind allowed => allowed
  refine ⟨events, congrArg (fun ended => ended.2.2) ran, narrower, ?_, ?_⟩
  · simp [written]
  · intro request inForce member
    exact (confined.within narrower request inForce none member).1 rfl

/-! ## A body that enters another profile -/

variable {checker : EquivalenceChecker R} {candidate : Operation R} {profile : TargetProfile}

theorem applyAs_eq_of_course_eq {variant : Operation R} {other : TargetProfile}
    (role : Role) (name : String) (qubits : List Int)
    (same : ∀ definitions, variant.course definitions qubits profile =
      variant.course definitions qubits other) :
    applyAs role name profile variant qubits = applyAs role name other variant qubits := by
  funext engine
  apply applyAs_congr
  rw [restrictedTo_apply, restrictedTo_apply, same]

/-- The profile of a check matters only for the course of the candidate. -/
theorem check_eq_of_course_eq
    (same : ∀ variant, candidate.controlledBy 1 = .ok variant → ∀ definitions qubits,
      variant.course definitions qubits checker.profile =
        variant.course definitions qubits profile) :
    checker.check candidate = { checker with profile := profile }.check candidate := by
  funext reference numQubits preparer
  rw [check, check]
  cases built : candidate.controlledBy 1 with
  | error fault => rfl
  | ok variant =>
    have applied := applyAs_eq_of_course_eq .candidate candidate.name
      (probe :: targets numQubits.toNat) fun definitions => same variant built definitions _
    simp only [trial, applied]

/-- A flip that carries its own matrix. -/
def ownFlip : Gate ℝ := .custom ⟨"U", 1, FixedGate.x.matrix, rfl⟩

/-- A body that flips its qubit by a gate of its own, inside a block without a restriction. -/
def escape : Operation ℝ :=
  .routine 1 "body" .all
    (.cons (.restrictedTo .unrestricted (.cons (.primitive ownFlip [.given 0]) .nil)) .nil) .derived

theorem escape_realizes : escape.Realizes {} 1 [⟨ownFlip, [0], []⟩] := by
  constructor
  case issued => exact .issue (.done ())
  case exact =>
    exact List.forall_mem_singleton.2 ⟨Gate.isUnitary_fixed .x, rfl⟩
  case fit =>
    have fits : QubitsFit 1 [0] := by decide
    exact List.forall_mem_singleton.2 fits

theorem escape_acts : escape.ActsOn {} 1 := by
  apply escape_realizes.actsOn rfl
  refine ⟨⟨⟨Gate.isUnitary_fixed .x, ?_⟩, trivial⟩, trivial⟩
  intro target among qubit
  rw [List.mem_singleton.1 among]
  exact nofun

theorem matrix_escape : escape.matrix {} 1 = (flip ℝ).matrix {} 1 := by
  ext row column
  rw [escape_realizes.matrix_apply, flip_realizes.matrix_apply]
  rfl

/-- The base profile has no gates of one's own, but inside a block without a restriction such a
gate goes through, and a check under the base profile accepts it. -/
theorem correct_of_escape :
    let checker : EquivalenceChecker ℝ :=
      { tolerance := 1 / 4, mode := .operator, profile := .base }
    let body : Program ℝ :=
      .cons (.restrictedTo .unrestricted (.cons (.primitive ownFlip [.given 0]) .nil)) .nil
    let engine : Engine ℝ := start (.holding (.zero 1)) .unrestricted [] {}
    TargetProfile.base.allows (instructionKind ownFlip) = false ∧
      .asked (.gate ownFlip [0]) .unrestricted none ∈
        (Watched.restrictedTo .base (Watched.execute body (.given [0])) (engine, [])).2.2 ∧
      escape = .routine 1 "body" .all body .derived ∧
      ∃ verdict later,
        checker.check escape (flip ℝ) (1 : ℕ) none (.ofLimit .standard {}) = (.ok verdict, later) ∧
        verdict.status = .correct := by
  intro checker body engine
  have noPreparer : PreparerFits {} 1 .operator (none : Option (Operation ℝ)) :=
    fun _ isPreparer => nomatch isPreparer
  have roomy : (Bench.ofLimit .standard {} : Bench ℝ).arena.limit.isExceededBy
      (registerSize .operator (1 : ℕ)) = false := rfl
  have written : (Watched.restrictedTo .base (Watched.execute body (.given [0]))
      (engine, [])).2.2 = [.entered .base, .entered .unrestricted,
        .asked (.gate ownFlip [0]) .unrestricted none] := rfl
  have sameCourse : ∀ variant, escape.controlledBy 1 = .ok variant → ∀ definitions qubits,
      variant.course definitions qubits .base =
        variant.course definitions qubits .unrestricted := by
    intro variant built definitions qubits
    cases built
    rfl
  have unrestricted : checker.check escape =
      { checker with profile := .unrestricted }.check escape := check_eq_of_course_eq sameCourse
  let free : EquivalenceChecker ℝ := { checker with profile := .unrestricted }
  have quarter : free.tolerance ≤ 1 / 4 := le_refl _
  have positive : 0 < free.tolerance := one_div_pos.2 four_pos
  have freePreparer : PreparerFits {} 1 free.mode none := noPreparer
  rcases check_decides positive quarter rfl rfl escape_acts trivial rfl flip_isUndone trivial rfl
    freePreparer rfl roomy with ⟨equivalent, phase, later, checked, decides, -⟩
  have noTurn : escape.matrix {} 1 = Complex.exp ((0 : ℝ) * Complex.I) • (flip ℝ).matrix {} 1 := by
    rw [matrix_escape, Complex.ofReal_zero, zero_mul, Complex.exp_zero, one_smul]
  have accepted : equivalent = true := by
    rw [decides, agreement_of_turn flip_isUndone noPreparer noTurn, Complex.norm_exp_ofReal_mul_I]
    norm_num
  rw [← unrestricted] at checked
  refine ⟨rfl, ?_, rfl, _, later, checked, ?_⟩
  · rw [written]
    simp
  · rw [judge_status, if_pos accepted]

end EquivalenceChecker

end QuantumKata

end
