import QuantumKata.Proofs.Reversal

/-!
# The adjoint of an operation

An operation is *reversible* when its custom gates are exactly unitary and are not mistaken for a
built-in gate by their name, and no routine of it has an inverse of its own that was written by hand.
A remembered adjoint is reversible when it is the adjoint that building it gives.

By induction on such an operation its adjoint undoes it.  So applying the one after the other brings
every state back, in either order and under all controls.
-/

noncomputable section

namespace QuantumKata

/-! ## Reversible operations -/

namespace Conduct

/-- The conduct of bodies whose gates are exactly unitary. -/
def exact : Conduct ℝ := ⟨Gate.IsUnitary, fun _ => True, True⟩

theorem exact_reversible : exact.Reversible :=
  fun _ _ unitary built => Gate.adjoint_isUnitary unitary built

end Conduct

/-- A gate that its name does not make its own adjoint unless it is one of the fixed gates. -/
def Gate.HasHonestName {R : Type} (gate : Gate R) : Prop :=
  gate.kind = .custom → gate.isSelfAdjoint = false

mutual

/-- Whether the adjoint of an operation undoes it by construction. -/
def Operation.IsReversible (definitions : Definitions ℝ) : Operation ℝ → Prop
  | .gate primitive _ => primitive.IsUnitary ∧ primitive.HasHonestName
  | .circuit _ _ steps => steps.AreReversible definitions
  | .phaseShifted inner _ => inner.IsReversible definitions
  | .controlled inner _ _ => inner.IsReversible definitions
  | .derivedAdjoint inner => inner.Keeps .exact definitions
  | .routine _ _ _ body undo =>
    body.Follows .exact (Conduct.exact.namedWithin definitions Engine.depthLimit) ∧
      undo = .derived
  | .linked core partner =>
    (core.IsReversible definitions ∧ core.adjoint = .ok (.linked partner core)) ∨
      (partner.IsReversible definitions ∧ partner.adjoint = .ok (.linked core partner))

/-- Whether the adjoints of all steps undo them by construction. -/
def Steps.AreReversible (definitions : Definitions ℝ) : Steps ℝ → Prop
  | .nil => True
  | .cons operation _ rest =>
    operation.IsReversible definitions ∧ rest.AreReversible definitions

end

/-! ## What the adjoint is -/

namespace Operation

variable {R : Type} [Scalar R]

theorem adjoint_gate {primitive : Gate R} {name : String} {inverse : Operation R}
    (built : (gate primitive name).adjoint = .ok inverse) :
    (primitive.isSelfAdjoint = true ∧ inverse = gate primitive name) ∨
      ∃ undone, primitive.adjoint = .ok undone ∧
        inverse = linked (gate undone undone.text) (gate primitive name) := by
  rw [adjoint] at built
  split at built
  · rename_i selfAdjoint
    exact .inl ⟨selfAdjoint, (Except.ok.inj built).symm⟩
  · rcases Fault.bind_eq_ok_iff.1 built with ⟨undone, gateBuilt, followed⟩
    exact .inr ⟨undone, gateBuilt, (Except.ok.inj followed).symm⟩

/-- What follows a check is reached only when the check succeeds. -/
theorem unless_bind {α : Type} {supported : Bool} {fault : Fault} {next : Except Fault α}
    {value : α} (built : (do unless supported do throw fault
                             next) = .ok value) :
    supported = true ∧ next = .ok value := by
  cases supported with
  | true => exact ⟨rfl, built⟩
  | false => cases built

theorem adjoint_circuit {numQubits : Int} {name : String} {steps : Steps R}
    {inverse : Operation R} (built : (circuit numQubits name steps).adjoint = .ok inverse) :
    ∃ reversed, stepsAdjoint steps = .ok reversed ∧
      inverse = linked (circuit numQubits (adjointName name) reversed)
        (circuit numQubits name steps) := by
  rw [adjoint] at built
  rcases unless_bind built with ⟨-, followed⟩
  rcases Fault.bind_eq_ok_iff.1 followed with ⟨reversed, stepsBuilt, linked⟩
  exact ⟨reversed, stepsBuilt, (Except.ok.inj linked).symm⟩

theorem adjoint_phaseShifted {inner : Operation R} {angle : PhaseAngle R} {inverse : Operation R}
    (built : (phaseShifted inner angle).adjoint = .ok inverse) :
    ∃ undone, inner.adjoint = .ok undone ∧
      inverse = linked (phaseShifted undone angle.opposite) (phaseShifted inner angle) := by
  rw [adjoint] at built
  rcases unless_bind built with ⟨-, followed⟩
  rcases Fault.bind_eq_ok_iff.1 followed with ⟨undone, innerBuilt, linked⟩
  exact ⟨undone, innerBuilt, (Except.ok.inj linked).symm⟩

theorem adjoint_controlled {inner : Operation R} {count : Int} {name : String}
    {inverse : Operation R} (built : (controlled inner count name).adjoint = .ok inverse) :
    ∃ undone, inner.adjoint = .ok undone ∧
      inverse = linked (controlled undone count (controlledName count undone.name))
        (controlled inner count name) := by
  rw [adjoint] at built
  rcases unless_bind built with ⟨-, followed⟩
  rcases Fault.bind_eq_ok_iff.1 followed with ⟨undone, innerBuilt, linked⟩
  exact ⟨undone, innerBuilt, (Except.ok.inj linked).symm⟩

theorem adjoint_derivedAdjoint {inner inverse : Operation R}
    (built : (derivedAdjoint inner).adjoint = .ok inverse) : inverse = inner := by
  rw [adjoint] at built
  exact (Except.ok.inj (unless_bind built).2).symm

theorem adjoint_routine {numQubits : Int} {name : String} {declared : Capabilities}
    {body : Program R} {inverse : Operation R}
    (built : (routine numQubits name declared body .derived).adjoint = .ok inverse) :
    inverse = derivedAdjoint (routine numQubits name declared body .derived) := by
  rw [adjoint] at built
  exact (Except.ok.inj (unless_bind built).2).symm

theorem adjoint_linked {core partner inverse : Operation R}
    (built : (linked core partner).adjoint = .ok inverse) : inverse = linked partner core := by
  rw [adjoint] at built
  exact (Except.ok.inj (unless_bind built).2).symm

theorem stepsAdjoint_cons {operation : Operation R} {places : List Int} {rest reversed : Steps R}
    (built : stepsAdjoint (.cons operation places rest) = .ok reversed) :
    ∃ later undone, stepsAdjoint rest = .ok later ∧ operation.adjoint = .ok undone ∧
      reversed = later.append (.cons undone places .nil) := by
  rw [stepsAdjoint] at built
  rcases Fault.bind_eq_ok_iff.1 built with ⟨later, restBuilt, followed⟩
  rcases Fault.bind_eq_ok_iff.1 followed with ⟨undone, firstBuilt, appended⟩
  exact ⟨later, undone, restBuilt, firstBuilt, (Except.ok.inj appended).symm⟩

end Operation

/-- A gate that its name makes its own adjoint, and that has an honest name, is its own adjoint. -/
theorem Gate.adjoint_of_isSelfAdjoint {R : Type} [Scalar R] {gate : Gate R}
    (honest : gate.HasHonestName) (selfAdjoint : gate.isSelfAdjoint = true) :
    gate.adjoint = .ok gate := by
  cases gate with
  | fixed gate =>
    have partner : gate.adjoint = gate := by
      rw [isSelfAdjoint] at selfAdjoint
      rw [Gate.name, FixedGate.ofName?_name] at selfAdjoint
      simpa [FixedGate.isSelfAdjoint] using selfAdjoint
    exact congrArg (fun same => Except.ok (Gate.fixed same)) partner
  | rotation axis angle =>
    have named : FixedGate.ofName? axis.name = none := by
      cases axis <;> decide
    rw [isSelfAdjoint] at selfAdjoint
    rw [Gate.name, named] at selfAdjoint
    cases selfAdjoint
  | globalPhase angle =>
    have named : FixedGate.ofName? "GPHASE" = none := by decide
    rw [isSelfAdjoint] at selfAdjoint
    rw [Gate.name, named] at selfAdjoint
    cases selfAdjoint
  | custom gate =>
    rw [honest rfl] at selfAdjoint
    cases selfAdjoint

/-! ## The adjoint undoes -/

theorem PhaseAngle.opposite_value (angle : PhaseAngle ℝ) : angle.opposite.value = -angle.value := by
  rw [opposite]
  split
  · rename_i whole
    have zero : angle.value = 0 := by
      rw [Bool.and_eq_true, isZero, Bool.and_eq_true, Scalar.atMost_iff, Scalar.atMost_iff] at whole
      exact le_antisymm whole.2.1 whole.2.2
    rw [zero, neg_zero]
  · rfl

namespace Operation

open Course

variable {definitions : Definitions ℝ}

/-- The adjoint of a reversible operation acts on as many qubits. -/
theorem numQubits_adjoint :
    ∀ operation : Operation ℝ, operation.IsReversible definitions →
      ∀ inverse, operation.adjoint = .ok inverse → inverse.numQubits = operation.numQubits
  | .gate primitive _, _, inverse, built => by
    rcases adjoint_gate built with ⟨-, rfl⟩ | ⟨undone, undoneBuilt, rfl⟩
    · rfl
    · exact congrArg Int.ofNat (Gate.adjoint_numQubits undoneBuilt)
  | .circuit _ _ _, _, inverse, built => by
    rcases adjoint_circuit built with ⟨reversed, -, rfl⟩
    rfl
  | .phaseShifted inner _, reversible, inverse, built => by
    rcases adjoint_phaseShifted built with ⟨undone, innerBuilt, rfl⟩
    exact numQubits_adjoint inner reversible undone innerBuilt
  | .controlled inner count _, reversible, inverse, built => by
    rcases adjoint_controlled built with ⟨undone, innerBuilt, rfl⟩
    exact congrArg (· + count) (numQubits_adjoint inner reversible undone innerBuilt)
  | .derivedAdjoint _, _, inverse, built => by
    rw [adjoint_derivedAdjoint built]
    rfl
  | .routine _ _ _ _ undo, reversible, inverse, built => by
    have derived : undo = .derived := reversible.2
    subst derived
    rw [adjoint_routine built]
    rfl
  | .linked core partner, reversible, inverse, built => by
    rw [adjoint_linked built]
    rcases reversible with ⟨coreReversible, coreBuilt⟩ | ⟨partnerReversible, partnerBuilt⟩
    · exact numQubits_adjoint core coreReversible _ coreBuilt
    · exact (numQubits_adjoint partner partnerReversible _ partnerBuilt).symm

/-- The course of a single step of a circuit. -/
def stepCourse (definitions : Definitions ℝ) (operation : Operation ℝ) (places qubits : List Int) :
    Course ℝ Unit := do
  let chosen ← .done (Engine.pick qubits places)
  operation.course definitions chosen .unrestricted

theorem ofSteps_cons (operation : Operation ℝ) (places : List Int) (rest : Steps ℝ)
    (qubits : List Int) :
    ofSteps (.ofDefinitions definitions) (.cons operation places rest) qubits .unrestricted =
      (stepCourse definitions operation places qubits >>= fun _ =>
        ofSteps (.ofDefinitions definitions) rest qubits .unrestricted) := by
  unfold stepCourse
  rw [ofSteps, bind_bind]
  congr 1
  funext chosen
  exact (bind_bind _ _ _).symm

theorem ofSteps_append (qubits : List Int) :
    ∀ earlier later : Steps ℝ,
      ofSteps (.ofDefinitions definitions) (earlier.append later) qubits .unrestricted =
        (ofSteps (.ofDefinitions definitions) earlier qubits .unrestricted >>= fun _ =>
          ofSteps (.ofDefinitions definitions) later qubits .unrestricted)
  | .nil, _ => rfl
  | .cons operation places rest, later => by
    rw [Steps.append, ofSteps_cons, ofSteps_cons, ofSteps_append qubits rest later, bind_bind]

/-- Operations on as many qubits pass the same check before they run. -/
theorem undoes_course {operation inverse : Operation ℝ}
    (sizes : inverse.numQubits = operation.numQubits) (qubits : List Int)
    (undoes : (ofOperation (.ofDefinitions definitions) operation qubits .unrestricted).Undoes
      (ofOperation (.ofDefinitions definitions) inverse qubits .unrestricted)) :
    (operation.course definitions qubits .unrestricted).Undoes
      (inverse.course definitions qubits .unrestricted) := by
  unfold Operation.course
  by_cases arity : (qubits.length : Int) = operation.numQubits
  · have checked : ∀ other : Operation ℝ, other.numQubits = operation.numQubits →
        Engine.checkArity other qubits = .ok () := by
      intro other same
      unfold Engine.checkArity
      rw [same, if_neg (not_not_intro arity)]
    rw [checked operation rfl, checked inverse sizes]
    exact undoes
  · have refused : ∀ other : Operation ℝ, other.numQubits = operation.numQubits →
        ∃ fault, Engine.checkArity other qubits = .error fault := by
      intro other same
      unfold Engine.checkArity
      rw [same, if_pos arity]
      exact ⟨_, rfl⟩
    rcases refused operation rfl with ⟨fault, isRefused⟩
    rcases refused inverse sizes with ⟨otherFault, isAlsoRefused⟩
    rw [isRefused, isAlsoRefused]
    constructor
    · intro entries issued
      cases issued
    · intro others issued
      cases issued

/-- The gates of an operation of the exact conduct are unitary. -/
theorem exact_of_follows {operation : Operation ℝ} (keeps : operation.Keeps .exact definitions)
    (qubits : List Int) (entries : List (TapeEntry ℝ))
    (issued : (ofOperation (.ofDefinitions definitions) operation qubits .unrestricted).Issues
      entries ()) : ∀ entry ∈ entries, entry.IsExact :=
  ((ofOperation_follows Conduct.exact_reversible
    (Guide.within_follows Conduct.exact_reversible definitions _) operation keeps qubits
    .unrestricted).issued issued).1

mutual

/-- The adjoint of a reversible operation undoes it on all qubits. -/
theorem undoes_adjoint :
    ∀ operation : Operation ℝ, operation.IsReversible definitions →
      ∀ inverse, operation.adjoint = .ok inverse → ∀ qubits,
        (ofOperation (.ofDefinitions definitions) operation qubits .unrestricted).Undoes
          (ofOperation (.ofDefinitions definitions) inverse qubits .unrestricted)
  | .gate primitive _, reversible, inverse, built, qubits => by
    rcases adjoint_gate built with ⟨selfAdjoint, rfl⟩ | ⟨undone, undoneBuilt, rfl⟩
    · exact undoes_ofGate reversible.1
        (Gate.adjoint_of_isSelfAdjoint reversible.2 selfAdjoint) qubits
    · exact undoes_ofGate reversible.1 undoneBuilt qubits
  | .circuit _ _ steps, reversible, inverse, built, qubits => by
    rcases adjoint_circuit built with ⟨reversed, stepsBuilt, rfl⟩
    exact undoes_stepsAdjoint steps reversible reversed stepsBuilt qubits
  | .phaseShifted inner angle, reversible, inverse, built, qubits => by
    rcases adjoint_phaseShifted built with ⟨undone, innerBuilt, rfl⟩
    have undoes := (undoes_adjoint inner reversible undone innerBuilt qubits).phase angle.value
    rw [← PhaseAngle.opposite_value] at undoes
    exact undoes
  | .controlled inner count _, reversible, inverse, built, qubits => by
    rcases adjoint_controlled built with ⟨undone, innerBuilt, rfl⟩
    exact (undoes_adjoint inner reversible undone innerBuilt
      (Engine.splitAt count qubits).2).under (Engine.splitAt count qubits).1
  | .derivedAdjoint inner, reversible, inverse, built, qubits => by
    rw [adjoint_derivedAdjoint built]
    exact (undoes_undoTape (exact_of_follows reversible qubits)).symm
  | .routine numQubits name declared body undo, reversible, inverse, built, qubits => by
    have derived : undo = .derived := reversible.2
    subst derived
    rw [adjoint_routine built]
    have keeps : (routine numQubits name declared body .derived).Keeps .exact definitions :=
      reversible.1
    exact undoes_undoTape (exact_of_follows keeps qubits)
  | .linked core partner, reversible, inverse, built, qubits => by
    rw [adjoint_linked built]
    rcases reversible with ⟨coreReversible, coreBuilt⟩ | ⟨partnerReversible, partnerBuilt⟩
    · exact undoes_adjoint core coreReversible _ coreBuilt qubits
    · exact (undoes_adjoint partner partnerReversible _ partnerBuilt qubits).symm

/-- The adjoints of the steps of a circuit in reverse order undo the steps. -/
theorem undoes_stepsAdjoint :
    ∀ steps : Steps ℝ, steps.AreReversible definitions →
      ∀ reversed, stepsAdjoint steps = .ok reversed → ∀ qubits,
        (ofSteps (.ofDefinitions definitions) steps qubits .unrestricted).Undoes
          (ofSteps (.ofDefinitions definitions) reversed qubits .unrestricted)
  | .nil, _, reversed, built, qubits => by
    cases built
    exact undoes_done
  | .cons operation places rest, reversible, reversed, built, qubits => by
    rcases stepsAdjoint_cons built with ⟨later, undone, restBuilt, firstBuilt, rfl⟩
    have sizes := numQubits_adjoint operation reversible.1 undone firstBuilt
    have first : (stepCourse definitions operation places qubits).Undoes
        (stepCourse definitions undone places qubits) := by
      apply undoes_done_bind
      intro chosen _
      exact undoes_course sizes chosen
        (undoes_adjoint operation reversible.1 undone firstBuilt chosen)
    rw [ofSteps_cons, ofSteps_append, ofSteps_cons]
    apply Undoes.bind
    · rw [ofSteps, bind_done]
      exact first
    · exact undoes_stepsAdjoint rest reversible.2 later restBuilt qubits

end

/-! ## The adjoint is there -/

mutual

/-- A reversible operation that supports the adjoint has one. -/
theorem exists_adjoint :
    ∀ operation : Operation ℝ, operation.IsReversible definitions →
      operation.capabilities.adjoint = true → ∃ inverse, operation.adjoint = .ok inverse
  | .gate primitive name, reversible, _ => by
    rcases Gate.exists_adjoint reversible.1 with ⟨undone, built⟩
    by_cases selfAdjoint : primitive.isSelfAdjoint = true
    · exact ⟨gate primitive name, by rw [adjoint, if_pos selfAdjoint]⟩
    · exact ⟨_, by rw [adjoint, if_neg selfAdjoint, built]; rfl⟩
  | .circuit _ _ steps, reversible, supports => by
    rcases exists_stepsAdjoint steps reversible supports with ⟨reversed, built⟩
    have supported : (stepsCapabilities steps).adjoint = true := supports
    exact ⟨_, by rw [adjoint, supported, built]; rfl⟩
  | .phaseShifted inner _, reversible, supports => by
    rcases exists_adjoint inner reversible supports with ⟨undone, built⟩
    have supported : inner.capabilities.adjoint = true := supports
    exact ⟨_, by rw [adjoint, supported, built]; rfl⟩
  | .controlled inner _ _, reversible, supports => by
    have supported : inner.capabilities.adjoint = true := supports
    rcases exists_adjoint inner reversible supported with ⟨undone, built⟩
    exact ⟨_, by rw [adjoint, supported, built]; rfl⟩
  | .derivedAdjoint inner, _, supports => by
    have supported : inner.capabilities.adjoint = true := supports
    exact ⟨_, by rw [adjoint, supported]; rfl⟩
  | .routine _ _ declared _ undo, reversible, supports => by
    have derived : undo = .derived := reversible.2
    have supported : declared.adjoint = true := supports
    subst derived
    exact ⟨_, by rw [adjoint, supported]; rfl⟩
  | .linked core _, _, supports => by
    have supported : core.capabilities.adjoint = true := supports
    exact ⟨_, by rw [adjoint, supported]; rfl⟩

theorem exists_stepsAdjoint :
    ∀ steps : Steps ℝ, steps.AreReversible definitions →
      (stepsCapabilities steps).adjoint = true → ∃ reversed, stepsAdjoint steps = .ok reversed
  | .nil, _, _ => ⟨_, rfl⟩
  | .cons operation places rest, reversible, supports => by
    have both : operation.capabilities.adjoint = true ∧
        (stepsCapabilities rest).adjoint = true := by
      simpa [stepsCapabilities, Capabilities.common] using supports
    rcases exists_adjoint operation reversible.1 both.1 with ⟨undone, firstBuilt⟩
    rcases exists_stepsAdjoint rest reversible.2 both.2 with ⟨later, restBuilt⟩
    exact ⟨_, by rw [stepsAdjoint, restBuilt, firstBuilt]; rfl⟩

end

end Operation

/-! ## Doing and undoing -/

/-- A course that neither measures nor resets. -/
def Course.IsQuiet {α : Type} (course : Course ℝ α) : Prop :=
  course.Meets (fun _ => True) False fun _ => True

/-- After a course that ends well, a course that undoes it ends well and restores the memory. -/
theorem Course.Undoes.restores {course other : Course ℝ Unit} (undoes : course.Undoes other)
    {entries : List (TapeEntry ℝ)} (issued : course.Issues entries ()) (engine : Engine ℝ)
    {state : StateVector ℝ} (noTape : engine.tapes = []) (live : engine.memory = .holding state)
    (fit : ∀ entry ∈ entries, entry.Fits state.numQubits engine.controls) :
    ∃ memory elapsed finished,
      course.play engine = (.ok (), { engine with memory := memory, elapsed := elapsed }) ∧
      other.play { engine with memory := memory, elapsed := elapsed } =
        (.ok (), { engine with elapsed := finished }) := by
  rcases undoes.1 entries issued with ⟨others, otherIssued, cancel⟩
  have otherFit : ∀ entry ∈ others, entry.Fits (state.through engine.controls entries).numQubits
      engine.controls := by
    rw [StateVector.through_numQubits]
    exact (cancel.fits_iff _ _).1 fit
  rcases issued.play engine noTape live (fun entry member => (cancel.firstExact entry member).2)
    fit with ⟨elapsed, played⟩
  rcases otherIssued.play
    { engine with memory := .holding (state.through engine.controls entries), elapsed := elapsed }
    noTape rfl (fun entry member => (cancel.secondExact entry member).2) otherFit with
    ⟨finished, undone⟩
  have back : (state.through engine.controls entries).through engine.controls others = state := by
    apply StateVector.ext_value
    · rw [StateVector.through_numQubits, StateVector.through_numQubits]
    · rw [StateVector.value_through cancel.secondExact otherFit,
        StateVector.value_through cancel.firstExact fit]
      exact cancel.back _ _ fit _
  refine ⟨_, elapsed, finished, played, ?_⟩
  rw [undone]
  simp only [back, ← live]

namespace Engine

/-- A reversible operation that supports the adjoint has one, and whenever the operation completes
without a measurement or a reset, the operation and its adjoint one after the other complete and
leave everything but the clock as it was, in either order. -/
theorem restored_by_adjoint {definitions : Definitions ℝ} {operation : Operation ℝ}
    (reversible : operation.IsReversible definitions)
    (supports : operation.capabilities.adjoint = true) :
    ∃ inverse, operation.adjoint = .ok inverse ∧
      ∀ (engine after : Engine ℝ) (state : StateVector ℝ) (qubits : List Int),
        engine.definitions = definitions → engine.profile = .unrestricted → engine.tapes = [] →
        engine.memory = .holding state →
        (operation.course definitions qubits .unrestricted).IsQuiet →
        apply operation qubits engine = (.ok (), after) →
        (∃ elapsed, apply inverse qubits after = (.ok (), { engine with elapsed := elapsed })) ∧
        ∃ between elapsed, apply inverse qubits engine = (.ok (), between) ∧
          apply operation qubits between = (.ok (), { engine with elapsed := elapsed }) := by
  rcases Operation.exists_adjoint operation reversible supports with ⟨inverse, built⟩
  refine ⟨inverse, built, ?_⟩
  intro engine after state qubits known unrestricted noTape live quiet completes
  have sizes := Operation.numQubits_adjoint operation reversible inverse built
  have undoes := Operation.undoes_course sizes qubits
    (Operation.undoes_adjoint operation reversible inverse built qubits)
  have applied : ∀ (other : Operation ℝ) (memory : Memory ℝ) (elapsed : ℝ),
      apply other qubits { engine with memory := memory, elapsed := elapsed } =
        (other.course definitions qubits .unrestricted).play
          { engine with memory := memory, elapsed := elapsed } := by
    intro other memory elapsed
    rw [apply_eq]
    simp only [known, unrestricted]
  have met : (operation.course definitions qubits .unrestricted).Meets TapeEntry.IsComplete
      False fun _ => True := by
    have both := (Operation.course_complete definitions operation qubits .unrestricted).and quiet
    simp only [and_true, and_false] at both
    exact both
  have played := applied operation engine.memory engine.elapsed
  rw [completes] at played
  rcases Course.issues_of_play met engine noTape live played.symm with
    ⟨entries, issued, -, fit⟩
  constructor
  · rcases undoes.restores issued engine noTape live fit with
      ⟨memory, elapsed, finished, done, undone⟩
    have same : after = { engine with memory := memory, elapsed := elapsed } :=
      congrArg Prod.snd (played.trans done)
    refine ⟨finished, ?_⟩
    rw [same, applied, undone]
  · rcases undoes.1 entries issued with ⟨others, otherIssued, cancel⟩
    rcases undoes.symm.restores otherIssued engine noTape live ((cancel.fits_iff _ _).1 fit) with
      ⟨memory, elapsed, finished, done, undone⟩
    refine ⟨{ engine with memory := memory, elapsed := elapsed }, finished, ?_, ?_⟩
    · exact (applied inverse engine.memory engine.elapsed).trans done
    · rw [applied, undone]

/-- A phase gate under a control that the body opens itself. -/
def controlledPhase : Operation ℝ :=
  .routine 2 "body" .all
    (.cons (.controlledBy [.given 0] (.cons (.primitive (.fixed .s) [.given 1]) .nil)) .nil)
    .derived

theorem controlledPhase_isReversible : controlledPhase.IsReversible {} := by
  refine ⟨⟨⟨?_, ?_⟩, trivial⟩, rfl⟩
  · intro control _
    trivial
  · exact ⟨⟨Gate.isUnitary_fixed .s, fun _ _ => trivial⟩, trivial⟩

theorem restored_by_adjoint_of_controlledPhase :
    let engine := Engine.start (.holding (.zero 2)) .unrestricted [] {}
    ∃ (inverse : Operation ℝ) (after : Engine ℝ) (elapsed : ℝ),
      controlledPhase.adjoint = .ok inverse ∧ apply controlledPhase [0, 1] engine = (.ok (), after) ∧
      apply inverse [0, 1] after = (.ok (), { engine with elapsed := elapsed }) := by
  intro engine
  rcases restored_by_adjoint controlledPhase_isReversible rfl with ⟨inverse, built, restores⟩
  have issued : (controlledPhase.course {} [0, 1] .unrestricted).Issues
      [⟨.fixed .s, [1], [0]⟩] () := .issue (.done ())
  have fits : QubitsFit 2 [1, 0] := by decide
  rcases issued.play engine rfl rfl (List.forall_mem_singleton.2 rfl)
    (List.forall_mem_singleton.2 fits) with ⟨elapsed, played⟩
  have applied := (apply_eq controlledPhase [0, 1] engine).trans played
  rcases restores engine _ (.zero 2) [0, 1] rfl rfl rfl rfl ⟨trivial, trivial⟩ applied with
    ⟨⟨finished, undone⟩, -⟩
  exact ⟨inverse, _, finished, built, applied, undone⟩

end Engine

end QuantumKata

end
