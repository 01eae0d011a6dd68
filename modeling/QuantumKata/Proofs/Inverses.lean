import QuantumKata.Proofs.Adjoint

/-!
# Operations that invert each other

Two operations *invert* each other when they act on as many qubits and their courses undo each other
on all qubits.  Each way of building an operation has a counterpart that inverts it, given operations
that invert its parts: gates have their adjoints, the steps of a circuit are inverted in reverse
order, phases change their sign, and control wrappers stay.  An operation that does not measure is
inverted by playing its tape backwards.

An operation that completes is taken back by one that inverts it.
-/

noncomputable section

namespace QuantumKata

open Course

namespace Conduct

/-- The conduct of bodies whose gates are exactly unitary and that do not measure. -/
def coherent : Conduct ℝ := ⟨Gate.IsUnitary, fun _ => True, False⟩

theorem coherent_reversible : coherent.Reversible :=
  fun _ _ unitary built => Gate.adjoint_isUnitary unitary built

end Conduct

variable {definitions : Definitions ℝ}

/-- Steps that undo other steps on all qubits. -/
def Steps.Invert (definitions : Definitions ℝ) (steps other : Steps ℝ) : Prop :=
  ∀ qubits, (ofSteps (.ofDefinitions definitions) steps qubits .unrestricted).Undoes
    (ofSteps (.ofDefinitions definitions) other qubits .unrestricted)

/-- Operations on as many qubits that undo each other. -/
structure Operation.Inverts (definitions : Definitions ℝ) (operation other : Operation ℝ) :
    Prop where
  size : other.numQubits = operation.numQubits
  undoes : ∀ qubits, (ofOperation (.ofDefinitions definitions) operation qubits
    .unrestricted).Undoes (ofOperation (.ofDefinitions definitions) other qubits .unrestricted)

namespace Steps

theorem invert_nil : Invert definitions .nil .nil := fun _ => undoes_done

/-- The last step is undone first. -/
theorem invert_cons {operation other : Operation ℝ} {later earlier : Steps ℝ}
    (first : operation.Inverts definitions other) (rest : later.Invert definitions earlier)
    (places : List Int) :
    (cons operation places later).Invert definitions
      (earlier.append (.cons other places .nil)) := by
  intro qubits
  have undone : (Operation.stepCourse definitions operation places qubits).Undoes
      (Operation.stepCourse definitions other places qubits) := by
    apply undoes_done_bind
    intro chosen _
    exact Operation.undoes_course first.size chosen (first.undoes chosen)
  rw [Operation.ofSteps_cons, Operation.ofSteps_append, Operation.ofSteps_cons]
  apply Undoes.bind
  · rw [ofSteps, bind_done]
    exact undone
  · exact rest qubits

end Steps

namespace Operation

theorem Inverts.symm {operation other : Operation ℝ}
    (inverts : operation.Inverts definitions other) : other.Inverts definitions operation :=
  ⟨inverts.size.symm, fun qubits => (inverts.undoes qubits).symm⟩

theorem inverts_gate {primitive inverse : Gate ℝ} (unitary : primitive.IsUnitary)
    (built : primitive.adjoint = .ok inverse) (name other : String) :
    (gate primitive name).Inverts definitions (gate inverse other) where
  size := congrArg Int.ofNat (Gate.adjoint_numQubits built)
  undoes := undoes_ofGate unitary built

theorem inverts_circuit {steps other : Steps ℝ} (invert : steps.Invert definitions other)
    (numQubits : Int) (name otherName : String) :
    (circuit numQubits name steps).Inverts definitions (circuit numQubits otherName other) :=
  ⟨rfl, invert⟩

section

variable {inner other : Operation ℝ} (inverts : inner.Inverts definitions other)

include inverts

theorem inverts_phaseShifted {angle opposite : PhaseAngle ℝ}
    (negated : opposite.value = -angle.value) :
    (phaseShifted inner angle).Inverts definitions (phaseShifted other opposite) where
  size := inverts.size
  undoes qubits := by
    have undoes := (inverts.undoes qubits).phase angle.value
    rw [← negated] at undoes
    exact undoes

theorem inverts_controlled (count : Int) (name otherName : String) :
    (controlled inner count name).Inverts definitions (controlled other count otherName) where
  size := congrArg (· + count) inverts.size
  undoes _ := (inverts.undoes _).under _

end

/-- An operation whose gates are unitary and that does not measure is inverted by its reversed
tape. -/
theorem inverts_derivedAdjoint {operation : Operation ℝ}
    (keeps : operation.Keeps .coherent definitions) :
    operation.Inverts definitions (derivedAdjoint operation) where
  size := rfl
  undoes _ := by
    apply undoes_undoTape
    intro entries issued
    exact ((ofOperation_follows Conduct.coherent_reversible
      (Guide.within_follows Conduct.coherent_reversible definitions _) operation keeps _
      .unrestricted).issued issued).1

/-- What inverts an operation takes it back wherever it completes. -/
theorem Inverts.restores {operation other : Operation ℝ}
    (inverts : operation.Inverts definitions other)
    (keeps : operation.Keeps .coherent definitions) {engine after : Engine ℝ}
    {state : StateVector ℝ} {qubits : List Int} (known : engine.definitions = definitions)
    (unrestricted : engine.profile = .unrestricted) (noTape : engine.tapes = [])
    (live : engine.memory = .holding state)
    (completes : Engine.apply operation qubits engine = (.ok (), after)) :
    ∃ elapsed, Engine.apply other qubits after =
      (.ok (), { engine with elapsed := elapsed }) := by
  have undoes := undoes_course inverts.size qubits (inverts.undoes qubits)
  have applied : ∀ (either : Operation ℝ) (memory : Memory ℝ) (elapsed : ℝ),
      Engine.apply either qubits { engine with memory := memory, elapsed := elapsed } =
        (either.course definitions qubits .unrestricted).play
          { engine with memory := memory, elapsed := elapsed } := by
    intro either memory elapsed
    rw [Engine.apply_eq]
    simp only [known, unrestricted]
  have met : (operation.course definitions qubits .unrestricted).Meets TapeEntry.IsComplete
      False fun _ => True :=
    (course_follows Conduct.coherent_reversible keeps qubits .unrestricted).mono
      fun entry follows => follows.2
  have played := (applied operation engine.memory engine.elapsed).symm.trans completes
  rcases issues_of_play met engine noTape live played with ⟨entries, issued, -, fit⟩
  rcases undoes.restores issued engine noTape live fit with
    ⟨memory, elapsed, finished, done, undone⟩
  have same : after = { engine with memory := memory, elapsed := elapsed } :=
    congrArg Prod.snd (played.symm.trans done)
  refine ⟨finished, ?_⟩
  rw [same, applied, undone]

end Operation

end QuantumKata

end
