import QuantumKata.Proofs.Adjoint

/-!
# Variants that are not supported

The adjoint of an operation that does not support it, and the controlled variant of one that cannot
be controlled, are refused before anything else is looked at.  An operation that supports the
adjoint has one, unless a custom gate in it has a matrix without an inverse.

The adjoint supports what the operation supports.  For an operation that remembers what it is the
adjoint of this is an invariant of how operations come about: it holds of everything that is built
from a description.
-/

namespace QuantumKata

mutual

/-- Where an operation remembers what it is the adjoint of, both support the same variants. -/
def Operation.LinksAgree {R : Type} : Operation R → Prop
  | .gate _ _ | .routine _ _ _ _ _ => True
  | .circuit _ _ steps => steps.LinksAgree
  | .phaseShifted inner _ | .controlled inner _ _ | .derivedAdjoint inner => inner.LinksAgree
  | .linked core partner =>
    partner.capabilities = core.capabilities ∧ core.LinksAgree ∧ partner.LinksAgree

/-- Where a step remembers what it is the adjoint of, both support the same variants. -/
def Steps.LinksAgree {R : Type} : Steps R → Prop
  | .nil => True
  | .cons operation _ rest => operation.LinksAgree ∧ rest.LinksAgree

end

/-- Everything that is defined remembers what supports the same variants. -/
def Definitions.LinksAgree {R : Type} (definitions : Definitions R) : Prop :=
  ∀ entry ∈ definitions.entries, entry.2.LinksAgree

namespace Operation

variable {R : Type}

theorem stepsCapabilities_append : ∀ earlier later : Steps R,
    stepsCapabilities (earlier.append later) =
      (stepsCapabilities earlier).common (stepsCapabilities later)
  | .nil, _ => by
    simp [Steps.append, stepsCapabilities, Capabilities.common, Capabilities.all]
  | .cons _ _ rest, later => by
    simp [Steps.append, stepsCapabilities, Capabilities.common,
      stepsCapabilities_append rest later, Bool.and_assoc]

theorem linksAgree_append : ∀ {earlier later : Steps R}, earlier.LinksAgree → later.LinksAgree →
    (earlier.append later).LinksAgree
  | .nil, _, _, agree => agree
  | .cons _ _ _, _, first, second => ⟨first.1, linksAgree_append first.2 second⟩

theorem capabilities_core : ∀ operation : Operation R,
    operation.core.capabilities = operation.capabilities
  | .linked inner _ => capabilities_core inner
  | .gate _ _ | .circuit _ _ _ | .phaseShifted _ _ | .controlled _ _ _ | .derivedAdjoint _
  | .routine _ _ _ _ _ => rfl

theorem linksAgree_core : ∀ {operation : Operation R}, operation.LinksAgree →
    operation.core.LinksAgree
  | .linked inner _, agree => by
    rw [core]
    exact linksAgree_core agree.2.1
  | .gate _ _, agree | .circuit _ _ _, agree | .phaseShifted _ _, agree | .controlled _ _ _, agree
  | .derivedAdjoint _, agree | .routine _ _ _ _ _, agree => agree

theorem linksAgree_constant (given : LibraryConstant) :
    (given.operation : Operation R).LinksAgree := by
  cases given <;> trivial

variable [Scalar R]

/-! ## What is refused -/

theorem adjoint_of_unsupported {operation : Operation R}
    (unsupported : operation.capabilities.adjoint = false) :
    operation.adjoint = .error (.noAdjoint operation.name) := by
  cases operation with
  | gate primitive name => cases unsupported
  | _ =>
    simp only [capabilities, Capabilities.withControlled] at unsupported
    rw [adjoint, unsupported]
    rfl

theorem controlledBy_of_unsupported {operation : Operation R} (count : Int)
    (unsupported : operation.capabilities.controlled = false) :
    operation.controlledBy count = .error (.noControlled operation.name) := by
  -- A control wrapper can always be controlled further, so the core is none.
  have notWrapped : ∀ inner already name, operation.core ≠ .controlled inner already name := by
    intro inner already name isWrapper
    rw [← capabilities_core, isWrapper] at unsupported
    cases unsupported
  rw [controlledBy]
  cases core : operation.core with
  | controlled inner already name => exact absurd core (notWrapped inner already name)
  | _ => simp [unsupported]

theorem exists_controlledBy_of_supported {operation : Operation R} {count : Int}
    (positive : 1 ≤ count) (supported : operation.capabilities.controlled = true) :
    ∃ variant, operation.controlledBy count = .ok variant := by
  have enough : ¬count < 1 := by omega
  rw [controlledBy]
  cases operation.core with
  | controlled inner already name => exact ⟨_, if_neg enough⟩
  | _ =>
    simp only [supported, enough, if_true, if_false]
    exact ⟨_, rfl⟩

/-- A controlled variant with a control qubit is refused for lack of support only. -/
theorem kind_of_controlledBy {operation : Operation R} {count : Int} {fault : Fault}
    (positive : 1 ≤ count) (refused : operation.controlledBy count = .error fault) :
    fault.kind = .capability := by
  have enough : ¬count < 1 := by omega
  rw [controlledBy] at refused
  cases core : operation.core with
  | controlled inner already name =>
    simp only [core, enough, if_false] at refused
    cases refused
  | _ =>
    simp only [core, enough, if_false] at refused
    split at refused <;> cases refused
    rfl

/-- What follows a check fails when the check fails or what follows it does. -/
theorem unless_bind_error {α : Type} {supported : Bool} {fault other : Fault}
    {next : Except Fault α} (refused : (do unless supported do throw fault
                                           next) = .error other) :
    other = fault ∨ next = .error other := by
  cases supported with
  | true => exact .inr refused
  | false =>
    cases refused
    exact .inl rfl

theorem error_of_answer {α β : Type} {first : Except Fault α} {answer : α → β} {fault : Fault}
    (failed : (first >>= fun value => pure (answer value)) = .error fault) :
    first = .error fault := by
  cases first with
  | ok value => cases failed
  | error other =>
    cases failed
    rfl

/-- The ways in which an adjoint can be refused: for lack of support, or for a gate without an
inverse. -/
def IsNoAdjoint (fault : Fault) : Prop := fault.kind = .capability ∨ fault = .singularMatrix

/-- A gate has no inverse only if its matrix has none. -/
theorem eq_singularMatrix_of_gate {primitive : Gate R} {fault : Fault}
    (refused : primitive.adjoint = .error fault) : fault = .singularMatrix := by
  cases primitive with
  | fixed gate => cases refused
  | rotation axis angle => cases refused
  | globalPhase angle => cases refused
  | custom gate =>
    rw [Gate.adjoint] at refused
    split at refused
    · cases refused
      rfl
    · cases refused

mutual

/-- By induction on the operation: what is refused is refused for an operation inside it. -/
theorem isNoAdjoint_of_adjoint : ∀ {operation : Operation R} {fault : Fault},
    operation.adjoint = .error fault → IsNoAdjoint fault
  | .gate primitive name, fault, refused => by
    rw [adjoint] at refused
    split at refused
    · cases refused
    · cases built : primitive.adjoint with
      | ok inverse =>
        rw [built] at refused
        cases refused
      | error other =>
        rw [built] at refused
        cases refused
        exact .inr (eq_singularMatrix_of_gate built)
  | .circuit numQubits name steps, fault, refused => by
    rw [adjoint] at refused
    rcases unless_bind_error refused with rfl | failed
    · exact .inl rfl
    · exact isNoAdjoint_of_stepsAdjoint (error_of_answer failed)
  | .phaseShifted inner angle, fault, refused => by
    rw [adjoint] at refused
    rcases unless_bind_error refused with rfl | failed
    · exact .inl rfl
    · exact isNoAdjoint_of_adjoint (error_of_answer failed)
  | .controlled inner count name, fault, refused => by
    rw [adjoint] at refused
    rcases unless_bind_error refused with rfl | failed
    · exact .inl rfl
    · exact isNoAdjoint_of_adjoint (error_of_answer failed)
  | .derivedAdjoint inner, fault, refused => by
    rw [adjoint] at refused
    rcases unless_bind_error refused with rfl | failed
    · exact .inl rfl
    · cases failed
  | .routine numQubits name declared body undo, fault, refused => by
    rw [adjoint] at refused
    rcases unless_bind_error refused with rfl | failed
    · exact .inl rfl
    · cases undo <;> cases failed
  | .linked core partner, fault, refused => by
    rw [adjoint] at refused
    rcases unless_bind_error refused with rfl | failed
    · exact .inl rfl
    · cases failed

theorem isNoAdjoint_of_stepsAdjoint : ∀ {steps : Steps R} {fault : Fault},
    stepsAdjoint steps = .error fault → IsNoAdjoint fault
  | .nil, fault, refused => by
    rw [stepsAdjoint] at refused
    cases refused
  | .cons operation places rest, fault, refused => by
    rw [stepsAdjoint] at refused
    cases later : stepsAdjoint rest with
    | error other =>
      rw [later] at refused
      cases refused
      exact isNoAdjoint_of_stepsAdjoint later
    | ok reversed =>
      rw [later] at refused
      exact isNoAdjoint_of_adjoint (error_of_answer refused)

end

/-! ## What the adjoint supports -/

mutual

/-- By induction on the operation: an adjoint is built of adjoints, and remembers the operation. -/
theorem capabilities_adjoint : ∀ {operation inverse : Operation R},
    operation.adjoint = .ok inverse → operation.LinksAgree →
      inverse.capabilities = operation.capabilities ∧ inverse.LinksAgree
  | .gate primitive name, inverse, built, agree => by
    rcases adjoint_gate built with ⟨-, rfl⟩ | ⟨undone, -, rfl⟩
    · exact ⟨rfl, trivial⟩
    · exact ⟨rfl, rfl, trivial, trivial⟩
  | .circuit numQubits name steps, inverse, built, agree => by
    rcases adjoint_circuit built with ⟨reversed, stepsBuilt, rfl⟩
    rcases capabilities_stepsAdjoint stepsBuilt agree with ⟨same, agreeReversed⟩
    exact ⟨same, same.symm, agreeReversed, agree⟩
  | .phaseShifted inner angle, inverse, built, agree => by
    rcases adjoint_phaseShifted built with ⟨undone, innerBuilt, rfl⟩
    rcases capabilities_adjoint innerBuilt agree with ⟨same, agreeUndone⟩
    exact ⟨same, same.symm, agreeUndone, agree⟩
  | .controlled inner count name, inverse, built, agree => by
    rcases adjoint_controlled built with ⟨undone, innerBuilt, rfl⟩
    rcases capabilities_adjoint innerBuilt agree with ⟨same, agreeUndone⟩
    have wrapped : (undone.capabilities).withControlled = inner.capabilities.withControlled :=
      congrArg Capabilities.withControlled same
    exact ⟨wrapped, wrapped.symm, agreeUndone, agree⟩
  | .derivedAdjoint inner, inverse, built, agree => by
    rw [adjoint_derivedAdjoint built]
    exact ⟨rfl, agree⟩
  | .routine numQubits name declared body undo, inverse, built, agree => by
    rw [adjoint] at built
    rcases unless_bind built with ⟨-, followed⟩
    cases undo with
    | derived =>
      cases followed
      exact ⟨rfl, trivial⟩
    | written body =>
      cases followed
      exact ⟨rfl, rfl, trivial, trivial⟩
  | .linked core partner, inverse, built, agree => by
    rw [adjoint_linked built]
    exact ⟨agree.1, agree.1.symm, agree.2.2, agree.2.1⟩

theorem capabilities_stepsAdjoint : ∀ {steps reversed : Steps R},
    stepsAdjoint steps = .ok reversed → steps.LinksAgree →
      stepsCapabilities reversed = stepsCapabilities steps ∧ reversed.LinksAgree
  | .nil, reversed, built, agree => by
    rw [stepsAdjoint] at built
    cases built
    exact ⟨rfl, trivial⟩
  | .cons operation places rest, reversed, built, agree => by
    rcases stepsAdjoint_cons built with ⟨later, undone, restBuilt, firstBuilt, rfl⟩
    rcases capabilities_adjoint firstBuilt agree.1 with ⟨sameFirst, agreeFirst⟩
    rcases capabilities_stepsAdjoint restBuilt agree.2 with ⟨sameRest, agreeRest⟩
    refine ⟨?_, linksAgree_append agreeRest ⟨agreeFirst, trivial⟩⟩
    rw [stepsCapabilities_append, sameRest, stepsCapabilities, stepsCapabilities, sameFirst]
    simp [stepsCapabilities, Capabilities.common, Capabilities.all, Bool.and_comm]

end

/-! ## How operations come about -/

theorem linksAgree_controlledBy {operation variant : Operation R} {count : Int}
    (built : operation.controlledBy count = .ok variant) (agree : operation.LinksAgree) :
    variant.LinksAgree := by
  have agreeCore := linksAgree_core agree
  rw [controlledBy] at built
  cases core : operation.core with
  | controlled inner already name =>
    rw [core] at agreeCore
    simp only [core] at built
    split at built <;> cases built
    exact agreeCore
  | _ =>
    simp only [core] at built
    split at built
    · split at built <;> cases built
      exact agree
    · cases built

/-- A step goes onto the circuit itself, which then no longer remembers an adjoint. -/
theorem linksAgree_addStep {operation extended : Operation R} {qubits : List Int}
    (agree : operation.LinksAgree) : ∀ {whole : Operation R},
    addStep operation qubits whole = .ok extended → whole.LinksAgree → extended.LinksAgree
  | .circuit numQubits name steps, built, agreeWhole => by
    rw [addStep] at built
    rcases Fault.map_eq_ok_iff.1 built with ⟨_, -, rfl⟩
    exact linksAgree_append agreeWhole ⟨agree, trivial⟩
  | .linked inner _, built, agreeWhole => by
    rw [addStep] at built
    exact linksAgree_addStep agree built agreeWhole.2.1

theorem linksAgree_steps {steps : List (Operation R × List Int)} :
    ∀ {whole extended : Operation R}, (∀ step ∈ steps, step.1.LinksAgree) →
      steps.foldlM (fun whole (operation, qubits) => addStep operation qubits whole) whole =
        .ok extended → whole.LinksAgree → extended.LinksAgree := by
  induction steps with
  | nil =>
    intro whole extended _ built agree
    cases built
    exact agree
  | cons step rest ih =>
    intro whole extended each built agree
    rw [List.foldlM_cons] at built
    rcases Fault.bind_eq_ok_iff.1 built with ⟨between, added, built⟩
    exact ih (fun later member => each later (.tail _ member)) built
      (linksAgree_addStep (each step (.head _)) added agree)

theorem linksAgree_identity {numQubits : Int} {operation : Operation R}
    (built : identity numQubits = .ok operation) : operation.LinksAgree := by
  rw [identity, circuitOf] at built
  rcases Fault.bind_eq_ok_iff.1 built with ⟨empty, started, built⟩
  rw [emptyCircuit] at started
  split at started <;> cases started
  refine linksAgree_steps ?_ built trivial
  intro step member
  rcases List.mem_map.1 member with ⟨qubit, -, rfl⟩
  exact linksAgree_constant (.fixed .i)

end Operation

namespace Blueprint

variable {R : Type} [Scalar R] {definitions : Definitions R}

open Operation

mutual

theorem linksAgree_build (defined : definitions.LinksAgree) :
    ∀ {described : Blueprint R} {operation : Operation R},
      described.build definitions = .ok operation → operation.LinksAgree
  | .constant given, operation, built => by
    cases built
    exact linksAgree_constant given
  | .rotation axis angle, operation, built => by
    cases built
    exact trivial
  | .gate gateName angles name, operation, built => by
    rw [build] at built
    rcases Fault.map_eq_ok_iff.1 built with ⟨_, -, rfl⟩
    exact trivial
  | .unitary matrix name, operation, built => by
    rw [build] at built
    rcases Fault.bind_eq_ok_iff.1 built with ⟨tensor, -, built⟩
    rcases Fault.map_eq_ok_iff.1 built with ⟨_, -, rfl⟩
    exact trivial
  | .identity numQubits, operation, built => linksAgree_identity built
  | .bellPair, operation, built => by
    cases built
    exact ⟨trivial, trivial, trivial⟩
  | .circuit numQubits name steps, operation, built => by
    rw [build] at built
    rcases Fault.bind_eq_ok_iff.1 built with ⟨empty, started, built⟩
    rw [emptyCircuit] at started
    split at started <;> cases started
    exact linksAgree_buildSteps defined built trivial
  | .routine numQubits name undoable controllable body inverse, operation, built => by
    rw [build, routineOf] at built
    split at built <;> cases built
    exact trivial
  | .phaseShifted inner angle, operation, built => by
    rw [build] at built
    rcases Fault.bind_eq_ok_iff.1 built with ⟨whole, innerBuilt, built⟩
    have agree := linksAgree_build defined innerBuilt
    cases built
    exact agree
  | .adjointOf inner, operation, built => by
    rw [build] at built
    rcases Fault.bind_eq_ok_iff.1 built with ⟨whole, innerBuilt, built⟩
    exact (capabilities_adjoint built (linksAgree_build defined innerBuilt)).2
  | .controlledOf inner count, operation, built => by
    rw [build] at built
    rcases Fault.bind_eq_ok_iff.1 built with ⟨whole, innerBuilt, built⟩
    exact linksAgree_controlledBy built (linksAgree_build defined innerBuilt)
  | .controlWrapper inner count name, operation, built => by
    rw [build] at built
    rcases Fault.bind_eq_ok_iff.1 built with ⟨whole, innerBuilt, built⟩
    rw [Operation.controlWrapper] at built
    have agree := linksAgree_build defined innerBuilt
    split at built <;> cases built
    exact agree
  | .reference name, operation, built => by
    rw [build, Definitions.find] at built
    split at built
    · rename_i found
      cases built
      rcases List.lookup_eq_some_iff.1 found with ⟨before, after, entries, -⟩
      apply defined (name, operation)
      rw [entries]
      exact List.mem_append_right _ (.head _)
    · cases built
  | .failing fault, operation, built => by cases built

theorem linksAgree_buildSteps (defined : definitions.LinksAgree) :
    ∀ {steps : StepPlans R} {whole operation : Operation R},
      buildSteps definitions whole steps = .ok operation → whole.LinksAgree → operation.LinksAgree
  | .nil, whole, operation, built, agree => by
    cases built
    exact agree
  | .cons described qubits rest, whole, operation, built, agree => by
    rw [buildSteps] at built
    rcases Fault.bind_eq_ok_iff.1 built with ⟨step, stepBuilt, built⟩
    rcases Fault.bind_eq_ok_iff.1 built with ⟨extended, added, built⟩
    exact linksAgree_buildSteps defined built
      (linksAgree_addStep (linksAgree_build defined stepBuilt) added agree)

end

theorem linksAgree_define : ∀ {described : List (String × Blueprint R)}
    {before after : Definitions R}, define before described = .ok after → before.LinksAgree →
      after.LinksAgree
  | [], before, after, built, agree => by
    cases built
    exact agree
  | (name, blueprint) :: rest, before, after, built, agree => by
    rw [define] at built
    rcases Fault.bind_eq_ok_iff.1 built with ⟨operation, operationBuilt, built⟩
    refine linksAgree_define built fun entry member => ?_
    rcases List.mem_cons.1 member with rfl | earlier
    · exact linksAgree_build agree operationBuilt
    · exact agree entry earlier

end Blueprint

end QuantumKata
