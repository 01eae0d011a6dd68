import QuantumKata.Proofs.Capability
import QuantumKata.Proofs.Completion
import QuantumKata.Proofs.Errand
import QuantumKata.Proofs.Isolation

/-!
# How failures end a check

A check either ends before it takes a register, or it runs one trial on one register and gives that
register back.  A variant that the reference or the preparer does not support ends it before.

In a trial the bodies are run one after the other: the preparer, the candidate, the inverse of the
reference, the inverse of the preparer.  The first of them that fails decides how the check ends.  A
fault of the simulator's own kind goes through, with the name of the candidate put in front when it
is the candidate's; any other fault becomes a verdict that names the body.  Where none of them fails
the trial comes to a decision, or the norm has been lost on the way.
-/

namespace QuantumKata

namespace EquivalenceChecker

open Engine

variable {R : Type}

theorem unlessFailed_keeps {τ : Type} {view : Engine R → τ}
    {action : EngineAction R (Option OperationFailure)} {next : EngineAction R (TrialEnd R)}
    (first : Action.Keeps view action) (second : Action.Keeps view next) :
    Action.Keeps view (unlessFailed action next) := by
  apply first.bind
  intro failure
  cases failure with
  | some failure => exact fun _ => rfl
  | none => exact second

/-- What the fault of a body makes of a trial. -/
def endOf (role : Role) (name : String) (fault : Fault) : Except Fault (TrialEnd R) :=
  if fault.kind.isProgramming then
    .error (if role = .candidate then .attributed role.word name fault else fault)
  else .ok (.failed ⟨role, name, fault⟩)

theorem endOf_of_blameless (role : Role) (name : String) {fault : Fault}
    (blameless : fault.kind.isProgramming = false) :
    (endOf role name fault : Except Fault (TrialEnd R)) = .ok (.failed ⟨role, name, fault⟩) := by
  rw [endOf, blameless]
  rfl

theorem endOf_of_programming (role : Role) (name : String) {fault : Fault}
    (programming : fault.kind.isProgramming = true) :
    (endOf role name fault : Except Fault (TrialEnd R)) =
      .error (if role = .candidate then .attributed role.word name fault else fault) := by
  rw [endOf, if_pos programming]

variable [Scalar R] {checker : EquivalenceChecker R} {candidate reference : Operation R}
  {size : Nat} {preparer : Option (Operation R)} {variant inverse : Operation R}
  {pair : Option (Operation R × Operation R)} {bench : Bench R}

/-! ## The register of a check -/

theorem givesBack_check (checker : EquivalenceChecker R) (candidate reference : Operation R)
    (numQubits : Int) (preparer : Option (Operation R)) :
    Bench.GivesBack (checker.check candidate reference numQubits preparer) :=
  (isErrand_check checker candidate reference numQubits preparer).givesBack

/-! ## What a trial leaves of the engine -/

theorem disentangle_keeps_outline (pairs : List (Int × Int)) :
    Action.Keeps (outline (R := R)) (disentangle pairs) := by
  induction pairs with
  | nil => exact fun _ => rfl
  | cons pair rest ih =>
    rcases pair with ⟨target, ancilla⟩
    exact (apply_keeps_outline _ _).bind fun _ => (apply_keeps_outline _ _).bind fun _ => ih

theorem unprepare_keeps_outline (mode : EquivalenceMode) (size : Nat)
    (pair : Option (Operation R × Operation R)) :
    Action.Keeps outline (unprepare mode size pair) := by
  cases mode with
  | operator => exact (disentangle_keeps_outline _).bind fun _ _ => rfl
  | state =>
    cases pair with
    | none => exact fun _ => rfl
    | some both => exact applyAs_keeps_outline _ _ _ _ _

theorem alignPhase_keeps_outline (tolerance : R) :
    Action.Keeps outline (alignPhase tolerance) := by
  refine (Action.keeps_inspect _).bind fun low => (Action.keeps_inspect _).bind fun high => ?_
  refine (Action.keeps_ofExcept low).bind fun low => ?_
  refine (Action.keeps_ofExcept high).bind fun high => ?_
  dsimp only
  split
  · exact fun _ => rfl
  · split
    · exact (apply_keeps_outline _ _).bind fun _ _ => rfl
    · exact fun _ => rfl

theorem trial_keeps_outline :
    Action.Keeps outline (checker.trial size candidate variant reference inverse pair) := by
  apply unlessFailed_keeps (prepare_keeps_outline _ _ _)
  refine (apply_keeps_outline _ _).bind fun _ => ?_
  apply unlessFailed_keeps (applyAs_keeps_outline _ _ _ _ _)
  apply unlessFailed_keeps (applyAs_keeps_outline _ _ _ _ _)
  refine (Action.keeps_inspect _).bind fun normal =>
    (Action.keeps_ofExcept normal).bind fun isNormal => ?_
  split
  · apply unlessFailed_keeps (unprepare_keeps_outline _ _ _)
    refine (alignPhase_keeps_outline _).bind fun _ => (apply_keeps_outline _ _).bind fun _ => ?_
    exact (Action.keeps_inspect _).bind fun zero =>
      (Action.keeps_ofExcept zero).bind fun _ _ => rfl
  · exact fun _ => rfl

/-- With its variants built and a register at hand a check ends as its trial does. -/
theorem outcome_check (agrees : checker.Agrees candidate reference size preparer)
    (builds : Builds candidate reference preparer variant inverse pair)
    (generated : checker.generator = .ok ())
    (roomy : bench.arena.limit.isExceededBy (registerSize checker.mode size) = false) :
    (checker.check candidate reference size preparer bench).1 =
      (checker.trial size candidate variant reference inverse pair
        (start (.holding (.zero (registerSize checker.mode size).toNat)) .unrestricted []
          bench.definitions)).1.map (judge checker.mode candidate.name reference.name) := by
  have some : 1 ≤ registerSize checker.mode size := by
    cases checker.mode <;> simp only [registerSize] <;> omega
  have kept : Action.Keeps outline (do
      Action.ofExcept checker.generator
      checker.trial size candidate variant reference inverse pair) :=
    (Action.keeps_ofExcept _).bind fun _ => trial_keeps_outline
  have outcome := Bench.outcome_withRegister kept some roomy
  rw [generated] at outcome
  rw [builds.check_eq agrees, Action.bind_apply, generated]
  rcases ran : Bench.withRegister (registerSize checker.mode size) (do
    Action.ofExcept (.ok ())
    checker.trial size candidate variant reference inverse pair) bench with ⟨ended, later⟩
  rw [ran] at outcome
  change ended = (checker.trial size candidate variant reference inverse pair _).1 at outcome
  rw [← outcome]
  cases ended <;> rfl

/-! ## Variants that are missing -/

/-- A variant that a check needs of the reference or the preparer is not supported. -/
inductive MissingVariant (reference : Operation R) (preparer : Option (Operation R)) : Prop where
  | adjoint (unsupported : reference.capabilities.adjoint = false)
  | controlled (unsupported : reference.capabilities.controlled = false)
      (agree : reference.LinksAgree)
  | preparer {operation : Operation R} (given : preparer = some operation)
      (unsupported : operation.capabilities.adjoint = false)

/-- A missing variant ends a check before it takes a register. -/
theorem check_of_missing (agrees : checker.Agrees candidate reference size preparer)
    (missing : MissingVariant reference preparer) (bench : Bench R) :
    ∃ fault, checker.check candidate reference size preparer bench = (.error fault, bench) ∧
      (fault.kind = .capability ∨ reference.adjoint = .error .singularMatrix) := by
  rw [agrees.check_eq, buildAndTry]
  cases inverseBuilt : reference.adjoint with
  | error fault =>
    refine ⟨fault, rfl, ?_⟩
    rcases Operation.isNoAdjoint_of_adjoint inverseBuilt with unsupported | rfl
    · exact .inl unsupported
    · exact .inr rfl
  | ok inverse =>
    cases variantBuilt : inverse.controlledBy 1 with
    | error fault =>
      refine ⟨fault, ?_, .inl (Operation.kind_of_controlledBy (le_refl 1) variantBuilt)⟩
      simp only [variantBuilt, Action.bind_apply, Action.ofExcept]
    | ok controlledInverse =>
      cases missing with
      | adjoint unsupported =>
        cases inverseBuilt.symm.trans (Operation.adjoint_of_unsupported unsupported)
      | controlled unsupported agree =>
        -- The adjoint supports what the reference supports, so it could not have been controlled.
        have same := (Operation.capabilities_adjoint inverseBuilt agree).1
        rw [← same] at unsupported
        cases variantBuilt.symm.trans (Operation.controlledBy_of_unsupported 1 unsupported)
      | @preparer operation given unsupported =>
        refine ⟨.noAdjoint operation.name, ?_, .inl rfl⟩
        simp only [variantBuilt, given, preparerPair, Operation.adjoint_of_unsupported unsupported,
          Action.bind_apply, Action.ofExcept]
        rfl

/-! ## The first body that fails -/

theorem unlessFailed_of_error {role : Role} {name : String} {profile : TargetProfile}
    {operation : Operation R} {qubits : List Int} {engine after : Engine R} {fault : Fault}
    (fails : restrictedTo profile (apply operation qubits) engine = (.error fault, after))
    (next : EngineAction R (TrialEnd R)) :
    (unlessFailed (applyAs role name profile operation qubits) next engine).1 =
      endOf role name fault := by
  rw [unlessFailed, Action.bind_apply, applyAs, fails, endOf]
  cases blame : fault.kind.isProgramming with
  | true => simp only [blame, if_true]
  | false => simp only [blame, Bool.false_eq_true, if_false]; rfl

/-- The bodies of a trial run in order on an engine, and the given one is the first that fails. -/
inductive FirstFailure (checker : EquivalenceChecker R) (size : Nat)
    (candidate variant reference inverse : Operation R)
    (pair : Option (Operation R × Operation R)) (engine : Engine R) :
    Role → String → Fault → Prop where
  | preparer {operation undo : Operation R} {after : Engine R} {fault : Fault}
      (mode : checker.mode = .state) (given : pair = some (operation, undo))
      (fails : restrictedTo .unrestricted (apply operation (targets size)) engine =
        (.error fault, after)) :
      FirstFailure checker size candidate variant reference inverse pair engine .preparer
        operation.name fault
  | candidate {prepared superposed after : Engine R} {fault : Fault}
      (prepares : prepare checker.mode size (pair.map Prod.fst) engine = (.ok none, prepared))
      (superposes : applyConstant (.fixed .h) [probe] prepared = (.ok (), superposed))
      (fails : restrictedTo checker.profile (apply variant (probe :: targets size)) superposed =
        (.error fault, after)) :
      FirstFailure checker size candidate variant reference inverse pair engine .candidate
        candidate.name fault
  | reference {prepared superposed applied after : Engine R} {fault : Fault}
      (prepares : prepare checker.mode size (pair.map Prod.fst) engine = (.ok none, prepared))
      (superposes : applyConstant (.fixed .h) [probe] prepared = (.ok (), superposed))
      (applies : restrictedTo checker.profile (apply variant (probe :: targets size)) superposed =
        (.ok (), applied))
      (fails : restrictedTo .unrestricted (apply inverse (probe :: targets size)) applied =
        (.error fault, after)) :
      FirstFailure checker size candidate variant reference inverse pair engine .reference
        reference.name fault
  | inversePreparer {operation undo : Operation R}
      {prepared superposed applied returned after : Engine R} {fault : Fault}
      (mode : checker.mode = .state) (given : pair = some (operation, undo))
      (prepares : prepare checker.mode size (pair.map Prod.fst) engine = (.ok none, prepared))
      (superposes : applyConstant (.fixed .h) [probe] prepared = (.ok (), superposed))
      (applies : restrictedTo checker.profile (apply variant (probe :: targets size)) superposed =
        (.ok (), applied))
      (returns : restrictedTo .unrestricted (apply inverse (probe :: targets size)) applied =
        (.ok (), returned))
      (normal : returned.memory.isNormalized (checker.tolerance * Scalar.ofNat 1000) = .ok true)
      (fails : restrictedTo .unrestricted (apply undo (targets size)) returned =
        (.error fault, after)) :
      FirstFailure checker size candidate variant reference inverse pair engine .preparer
        operation.name fault

variable {engine : Engine R} {role : Role} {name : String} {fault : Fault}

theorem FirstFailure.outcome_trial
    (failure : FirstFailure checker size candidate variant reference inverse pair engine role name
      fault) :
    (checker.trial size candidate variant reference inverse pair engine).1 =
      endOf role name fault := by
  cases failure with
  | preparer mode given fails =>
    rw [trial, mode, given]
    exact unlessFailed_of_error fails _
  | candidate prepares superposes fails =>
    rw [trial, unlessFailed_of_ok prepares, Action.bind_of_ok superposes]
    exact unlessFailed_of_error fails _
  | reference prepares superposes applies fails =>
    rw [trial, unlessFailed_of_ok prepares, Action.bind_of_ok superposes,
      unlessFailed_of_ok (applyAs_eq_ok_none_iff.2 applies)]
    exact unlessFailed_of_error fails _
  | inversePreparer mode given prepares superposes applies returns normal fails =>
    rw [trial, unlessFailed_of_ok prepares, Action.bind_of_ok superposes,
      unlessFailed_of_ok (applyAs_eq_ok_none_iff.2 applies),
      unlessFailed_of_ok (applyAs_eq_ok_none_iff.2 returns)]
    simp only [Action.bind_apply, Action.inspect, Action.ofExcept, normal, if_true]
    rw [mode, given]
    exact unlessFailed_of_error fails _

theorem FirstFailure.outcome_check
    (failure : FirstFailure checker size candidate variant reference inverse pair
      (start (.holding (.zero (registerSize checker.mode size).toNat)) .unrestricted []
        bench.definitions) role name fault)
    (agrees : checker.Agrees candidate reference size preparer)
    (builds : Builds candidate reference preparer variant inverse pair)
    (generated : checker.generator = .ok ())
    (roomy : bench.arena.limit.isExceededBy (registerSize checker.mode size) = false) :
    (checker.check candidate reference size preparer bench).1 =
      (endOf role name fault).map (judge checker.mode candidate.name reference.name) := by
  rw [EquivalenceChecker.outcome_check agrees builds generated roomy, failure.outcome_trial]

/-! ## Trials in which no body fails -/

/-- A body is applied and leaves the engine ready, or it fails. -/
theorem applied_or_fails {width : Nat} (ready : engine.IsReady width) (profile : TargetProfile)
    (operation : Operation R) (qubits : List Int) :
    (∃ after, restrictedTo profile (apply operation qubits) engine = (.ok (), after) ∧
      after.IsReady width) ∨
    ∃ fault after,
      restrictedTo profile (apply operation qubits) engine = (.error fault, after) := by
  have kept := restrictedTo_keeps_outline profile (apply_keeps_outline operation qubits) engine
  rcases ran : restrictedTo profile (apply operation qubits) engine with ⟨fault | value, after⟩
  · exact .inr ⟨fault, after, rfl⟩
  · rw [ran] at kept
    exact .inl ⟨after, rfl, ready.of_outline kept⟩

theorem prepared_or_fails (pair : Option (Operation R × Operation R)) {mode : EquivalenceMode}
    (ready : engine.IsReady (registerSize mode size).toNat) :
    (∃ prepared, prepare mode size (pair.map Prod.fst) engine = (.ok none, prepared) ∧
      prepared.IsReady (registerSize mode size).toNat) ∨
    ∃ operation undo fault after, mode = .state ∧ pair = some (operation, undo) ∧
      restrictedTo .unrestricted (apply operation (targets size)) engine =
        (.error fault, after) := by
  cases mode with
  | operator =>
    rcases endsWell_entangle (fit_pairs size) engine ready with ⟨_, prepared, done, readyThen⟩
    refine .inl ⟨prepared, ?_, readyThen⟩
    rw [prepare, Action.bind_of_ok done]
    rfl
  | state =>
    rcases pair with none | ⟨operation, undo⟩
    · exact .inl ⟨engine, rfl, ready⟩
    · rcases applied_or_fails ready .unrestricted operation (targets size) with
        ⟨prepared, applies, readyThen⟩ | ⟨fault, after, fails⟩
      · exact .inl ⟨prepared, applyAs_eq_ok_none_iff.2 applies, readyThen⟩
      · exact .inr ⟨operation, undo, fault, after, rfl, rfl, fails⟩

theorem unprepared_or_fails (pair : Option (Operation R × Operation R)) {mode : EquivalenceMode}
    (ready : engine.IsReady (registerSize mode size).toNat) :
    (∃ unprepared, unprepare mode size pair engine = (.ok none, unprepared) ∧
      unprepared.IsReady (registerSize mode size).toNat) ∨
    ∃ operation undo fault after, mode = .state ∧ pair = some (operation, undo) ∧
      restrictedTo .unrestricted (apply undo (targets size)) engine = (.error fault, after) := by
  cases mode with
  | operator =>
    rcases endsWell_disentangle (fit_pairs size) engine ready with ⟨_, unprepared, done, readyThen⟩
    refine .inl ⟨unprepared, ?_, readyThen⟩
    rw [unprepare, Action.bind_of_ok done]
    rfl
  | state =>
    rcases pair with none | ⟨operation, undo⟩
    · exact .inl ⟨engine, rfl, ready⟩
    · rcases applied_or_fails ready .unrestricted undo (targets size) with
        ⟨unprepared, applies, readyThen⟩ | ⟨fault, after, fails⟩
      · exact .inl ⟨unprepared, applyAs_eq_ok_none_iff.2 applies, readyThen⟩
      · exact .inr ⟨operation, undo, fault, after, rfl, rfl, fails⟩

/-- Where no body fails a trial comes to a decision, or the norm has been lost. -/
theorem firstFailure_or_ended (ready : engine.IsReady (registerSize checker.mode size).toNat) :
    (∃ role name fault, FirstFailure checker size candidate variant reference inverse pair engine
      role name fault) ∨
    ∃ ended, (checker.trial size candidate variant reference inverse pair engine).1 = .ok ended ∧
      (ended = .normLost ∨ ∃ equivalent phase, ended = .decided equivalent phase) := by
  have some : 1 ≤ (registerSize checker.mode size).toNat := by
    cases checker.mode <;> simp only [registerSize] <;> omega
  have probeFits : QubitsFit (registerSize checker.mode size).toNat [probe] := by
    refine ⟨by decide, List.forall_mem_singleton.2 ⟨Int.le_refl 0, ?_⟩⟩
    exact Int.natCast_pos.2 some
  rcases prepared_or_fails pair ready with
    ⟨prepared, prepares, ready⟩ | ⟨operation, undo, fault, after, mode, given, fails⟩
  swap
  · exact .inl ⟨_, _, fault, .preparer mode given fails⟩
  rcases endsWell_hadamard probeFits prepared ready with ⟨_, superposed, superposes, ready⟩
  rcases applied_or_fails ready checker.profile variant (probe :: targets size) with
    ⟨applied, applies, ready⟩ | ⟨fault, after, fails⟩
  swap
  · exact .inl ⟨_, _, fault, .candidate prepares superposes fails⟩
  rcases applied_or_fails ready .unrestricted inverse (probe :: targets size) with
    ⟨returned, returns, ready⟩ | ⟨fault, after, fails⟩
  swap
  · exact .inl ⟨_, _, fault, .reference prepares superposes applies fails⟩
  rw [trial, unlessFailed_of_ok prepares, Action.bind_of_ok superposes,
    unlessFailed_of_ok (applyAs_eq_ok_none_iff.2 applies),
    unlessFailed_of_ok (applyAs_eq_ok_none_iff.2 returns)]
  rcases exists_isNormalized ready (checker.tolerance * Scalar.ofNat 1000) with
    ⟨isNormal, normal⟩
  simp only [Action.bind_apply, Action.inspect, Action.ofExcept, normal]
  cases isNormal with
  | false => exact .inr ⟨.normLost, rfl, .inl rfl⟩
  | true =>
    rcases unprepared_or_fails pair ready with
      ⟨unprepared, unprepares, ready⟩ | ⟨operation, undo, fault, after, mode, given, fails⟩
    swap
    · exact .inl ⟨_, _, fault, .inversePreparer mode given prepares superposes applies returns
        normal fails⟩
    right
    simp only [if_true]
    rw [unlessFailed_of_ok unprepares]
    rcases endsWell_alignPhase some checker.tolerance unprepared ready with
      ⟨phase, aligned, aligns, ready⟩
    rcases endsWell_hadamard probeFits aligned ready with ⟨_, closed, closes, ready⟩
    rcases exists_isZero ready checker.tolerance with ⟨equivalent, isZero⟩
    rw [Action.bind_of_ok aligns, Action.bind_of_ok closes]
    simp only [Action.bind_apply, Action.inspect, Action.ofExcept, isZero]
    exact ⟨.decided equivalent phase, rfl, .inr ⟨equivalent, phase, rfl⟩⟩

/-- A body on one qubit that raises a fault. -/
def raiser (declared : Capabilities) (fault : Fault) : Operation R :=
  .routine 1 "body" declared (.cons (.refused [] fault) .nil) .derived

/-- A check in state mode. -/
noncomputable def stateChecker : EquivalenceChecker ℝ :=
  { tolerance := 1 / 4, mode := .state, profile := .unrestricted }

/-- The controlled variant of a flip. -/
def probedFlip : Operation ℝ := .controlled (flip ℝ) 1 "Controlled X"

theorem raiser_agrees (declared : Capabilities) (fault : Fault) :
    stateChecker.Agrees (flip ℝ) (flip ℝ) 1 (some (raiser declared fault)) := by
  refine ⟨rfl, rfl, ?_⟩
  rintro _ ⟨⟩
  exact ⟨rfl, rfl⟩

theorem raiser_builds (fault : Fault) : Builds (flip ℝ) (flip ℝ) (some (raiser .all fault))
    probedFlip probedFlip (some (raiser .all fault, .derivedAdjoint (raiser .all fault))) :=
  ⟨⟨flip ℝ, rfl, rfl⟩, rfl, rfl⟩

theorem raiser_firstFailure (fault : Fault) : FirstFailure stateChecker 1 (flip ℝ) probedFlip
    (flip ℝ) probedFlip (some (raiser .all fault, .derivedAdjoint (raiser .all fault)))
    (start (.holding (.zero 2)) .unrestricted [] {}) .preparer "body" fault :=
  .preparer rfl rfl rfl

theorem flip_noFailure (role : Role) (name : String) (fault : Fault) :
    ¬FirstFailure stateChecker 1 (flip ℝ) probedFlip (flip ℝ) probedFlip none
      (start (.holding (.zero 2)) .unrestricted [] {}) role name fault := by
  intro failure
  cases failure with
  | preparer mode given fails => cases given
  | candidate prepares superposes fails =>
    cases prepares
    cases superposes
    cases fails
  | reference prepares superposes applies fails =>
    cases prepares
    cases superposes
    cases applies
    cases fails
  | inversePreparer mode given => cases given

end EquivalenceChecker

end QuantumKata
