import QuantumKata.Proofs.Course

/-!
# The courses of operations

Operations, steps, instructions and programs are laid out as courses by the same recursion that runs
them.  Running is playing the course: this holds for every operation, also for those that measure,
fail or call on names, and it is the only fact about running that later modules use.
-/

namespace QuantumKata

namespace Course

variable {R α β : Type} [Scalar R]

open Engine

/-! ## Courses laid out for the profile in force -/

theorem enact_bind (course : TargetProfile → Course R α)
    (next : α → TargetProfile → Course R β) :
    (enact course >>= fun value => enact (next value)) =
      enact fun profile => course profile >>= fun value => next value profile := by
  funext engine
  simp only [enact, play_bind, Action.bind_apply]
  rcases result : (course engine.profile).play engine with ⟨outcome, after⟩
  cases outcome with
  | error fault => rfl
  | ok value =>
    have kept : after.profile = engine.profile := by
      have same := congrArg (fun part => part.2.1)
        (play_keeps_frame (course engine.profile) engine)
      rwa [result] at same
    dsimp only
    rw [kept]

/-- A result or a fault that is known from the start, and what follows a result. -/
theorem ofExcept_bind_enact (outcome : Except Fault α)
    (next : α → TargetProfile → Course R β) :
    (Action.ofExcept outcome >>= fun value => enact (next value)) =
      enact fun profile => done outcome >>= fun value => next value profile :=
  enact_bind (fun _ => done outcome) next

theorem controlledBy_enact (added : List Int) (course : TargetProfile → Course R α) :
    controlledBy added (enact course) = enact fun profile => (course profile).under added := by
  funext engine
  simp only [enact, play_under]
  rfl

theorem restrictedTo_enact (profile : TargetProfile) (course : TargetProfile → Course R α) :
    restrictedTo profile (enact course) = enact fun _ => course profile := by
  funext engine
  exact congrFun (play_restrictedTo profile (course profile)) engine

theorem record_enact (course : TargetProfile → Course R α) :
    record (enact course) = enact fun profile => (course profile).recorded := by
  funext engine
  simp only [enact, play_recorded]
  rfl

theorem pure_eq_enact (value : α) :
    (pure value : EngineAction R α) = enact fun _ => done (.ok value) :=
  rfl

theorem ite_enact (bit : Bool) (first second : TargetProfile → Course R α) :
    (if bit then enact first else enact second) =
      enact fun profile => if bit then first profile else second profile := by
  cases bit <;> rfl

/-! ## Instructions that are no blocks -/

theorem carryOut_eq (gate : Gate R) (targets : List Int) :
    carryOut gate targets = (issue ⟨gate, targets, []⟩ (done (.ok ()))).play := by
  simp only [play, carryOutEntry, controlledBy_nil (carryOut_keeps_frame gate targets)]
  exact (bind_pure _).symm

theorem gate_eq (gate : Gate R) (targets : List Int) :
    Engine.gate gate targets = enact fun profile => ofGate profile gate targets := by
  funext engine
  rw [Engine.gate, enact, ofGate]
  by_cases fits : targets.length = gate.numQubits
  · by_cases allowed : engine.profile.allows (instructionKind gate) = true
    · simp [fits, allowed, Action.bind_apply, require, carryOut_eq]
    · simp [fits, allowed, Action.bind_apply, require, play, Action.ofExcept]
  · simp [fits, Action.bind_apply, Action.fail, play, Action.ofExcept]

theorem measure_eq (qubit : Int) :
    Engine.measure (R := R) qubit = enact fun profile => ofMeasure profile qubit := by
  funext engine
  change (require .measure "M" >>= fun _ => observe qubit) engine = _
  rw [enact, ofMeasure]
  by_cases allowed : engine.profile.allows .measure = true
  · simp only [Action.bind_apply, require, allowed, if_true, play]
    exact (congrFun (bind_pure (observe qubit)) engine).symm
  · simp [Action.bind_apply, require, allowed, play, Action.ofExcept]

theorem reset_eq (qubit : Int) :
    Engine.reset (R := R) qubit = enact fun profile => ofReset profile qubit := by
  funext engine
  change (require .reset "Reset" >>= fun _ => restore qubit) engine = _
  rw [enact, ofReset]
  by_cases allowed : engine.profile.allows .reset = true
  · simp only [Action.bind_apply, require, allowed, if_true, play]
    exact (congrFun (bind_pure (restore qubit)) engine).symm
  · simp [Action.bind_apply, require, allowed, play, Action.ofExcept]

/-- The course of undoing a recorded gate. -/
def ofUndoEntry (profile : TargetProfile) (entry : TapeEntry R) : Course R Unit :=
  (do
    let inverse ← done entry.gate.adjoint
    ofGate profile inverse entry.targets : Course R Unit).under entry.controls

/-- The course of undoing recorded gates in the order given. -/
def ofUndoEntries (profile : TargetProfile) : List (TapeEntry R) → Course R Unit
  | [] => done (.ok ())
  | entry :: rest => do
    ofUndoEntry profile entry
    ofUndoEntries profile rest

/-- The course of playing a tape backwards. -/
def ofUndoTape (profile : TargetProfile) (entries : List (TapeEntry R)) : Course R Unit :=
  ofUndoEntries profile entries.reverse

theorem undoEntry_eq (entry : TapeEntry R) :
    undoEntry entry = enact fun profile => ofUndoEntry profile entry := by
  unfold undoEntry ofUndoEntry
  simp only [gate_eq, ofExcept_bind_enact, controlledBy_enact]

theorem undoEntries_eq (entries : List (TapeEntry R)) :
    undoEntries entries = enact fun profile => ofUndoEntries profile entries := by
  induction entries with
  | nil => rfl
  | cons entry rest ih => simp only [undoEntries, ih, undoEntry_eq, enact_bind, ofUndoEntries]

theorem undoTape_eq (entries : List (TapeEntry R)) :
    undoTape entries = enact fun profile => ofUndoTape profile entries :=
  undoEntries_eq entries.reverse

end Course

/-! ## Laying out operations -/

/-- How operations that are known by name only are built and laid out. -/
structure Guide (R : Type) where
  build : Blueprint R → Except Fault (Operation R)
  course : Operation R → List Int → TargetProfile → Course R Unit

namespace Guide

/-- The scope in which running is playing what the guide lays out. -/
def scope {R : Type} [Scalar R] (guide : Guide R) : Scope R :=
  ⟨guide.build, fun operation qubits => Course.enact (guide.course operation qubits)⟩

end Guide

namespace Course

variable {R : Type} [Scalar R]

open Engine

mutual

/-- The course of an operation on qubits. -/
def ofOperation (guide : Guide R) :
    Operation R → List Int → TargetProfile → Course R Unit
  | .gate primitive _, qubits, profile => ofGate profile primitive qubits
  | .circuit _ _ steps, qubits, profile => ofSteps guide steps qubits profile
  | .phaseShifted inner angle, qubits, profile => do
    ofOperation guide inner qubits profile
    ofGate profile (.globalPhase angle.value) []
  | .controlled inner count _, qubits, profile =>
    (ofOperation guide inner (Engine.splitAt count qubits).2 profile).under
      (Engine.splitAt count qubits).1
  | .derivedAdjoint inner, qubits, profile => do
    let entries ← (ofOperation guide inner qubits profile).recorded
    ofUndoTape profile entries
  | .routine _ _ _ body _, qubits, profile => do
    let _ ← ofProgram guide body (.given qubits) profile
    done (.ok ())
  | .linked core _, qubits, profile => ofOperation guide core qubits profile

/-- The course of the steps of a circuit. -/
def ofSteps (guide : Guide R) : Steps R → List Int → TargetProfile → Course R Unit
  | .nil, _, _ => done (.ok ())
  | .cons operation places rest, qubits, profile => do
    let chosen ← done (Engine.pick qubits places)
    done (Engine.checkArity operation chosen)
    ofOperation guide operation chosen profile
    ofSteps guide rest qubits profile

/-- The course of an instruction. -/
def ofInstruction (guide : Guide R) :
    Instruction R → Frame → TargetProfile → Course R (Reading R)
  | .primitive primitive targets, frame, profile => do
    let qubits ← done (frame.resolveAll targets)
    ofGate profile primitive qubits
    done (.ok .nothing)
  | .unitary tensor name targets, frame, profile => do
    let qubits ← done (frame.resolveAll targets)
    let primitive ← done (Gate.ofTensor tensor name Scalar.defaultTolerance)
    ofGate profile primitive qubits
    done (.ok .nothing)
  | .apply operation references, frame, profile => do
    let qubits ← done (frame.resolveAll references)
    done (Engine.checkArity operation qubits)
    ofOperation guide operation qubits profile
    done (.ok .nothing)
  | .applyNamed variant described controls references, frame, profile => do
    let operation ← done (guide.build described)
    let qubits ← done (frame.resolveAll (controls ++ references))
    let chosen ← done (operation.variant variant controls.length)
    done (Engine.checkArity chosen qubits)
    guide.course chosen qubits profile
    done (.ok .nothing)
  | .refused references fault, frame, _ => do
    let _ ← done (frame.resolveAll references)
    done (.error fault)
  | .measure reference, frame, profile => do
    let qubit ← done (frame.resolve reference)
    let bit ← ofMeasure profile qubit
    done (.ok (.bit bit))
  | .reset reference, frame, profile => do
    let qubit ← done (frame.resolve reference)
    ofReset profile qubit
    done (.ok .nothing)
  | .controlledBy references block, frame, profile => do
    let controls ← done (frame.resolveAll references)
    (ofProgram guide block frame profile).under controls
  | .restrictedTo inner block, frame, _ => ofProgram guide block frame inner
  | .record block, frame, profile => do
    let entries ← (ofProgram guide block frame profile).recorded
    done (.ok (.tape entries))
  | .recordAndUndo block, frame, profile => do
    let entries ← (ofProgram guide block frame profile).recorded
    ofUndoTape profile entries
    done (.ok (.tape entries))
  | .ifMeasured reference block, frame, profile => do
    let qubit ← done (frame.resolve reference)
    let bit ← ofMeasure profile qubit
    if bit then do
      let _ ← ofProgram guide block frame profile
      done (.ok (.bit bit))
    else done (.ok (.bit bit))
  | .sleep seconds, _, _ => pause seconds (done (.ok .nothing))

/-- The course of instructions one after the other. -/
def ofProgram (guide : Guide R) : Program R → Frame → TargetProfile → Course R (Reading R)
  | .nil, _, _ => done (.ok .nothing)
  | .cons instruction .nil, frame, profile => ofInstruction guide instruction frame profile
  | .cons instruction (.cons next rest), frame, profile => do
    let _ ← ofInstruction guide instruction frame profile
    ofProgram guide (.cons next rest) frame profile

end

/-! ## Running is playing the course -/

mutual

/-- Running the body of an operation is playing its course. -/
theorem runBody_eq (guide : Guide R) : ∀ (operation : Operation R) (qubits : List Int),
    runBody guide.scope operation qubits = enact (ofOperation guide operation qubits)
  | .gate primitive _, qubits => gate_eq primitive qubits
  | .circuit _ _ steps, qubits => runSteps_eq guide steps qubits
  | .phaseShifted inner angle, qubits => by
    simp only [runBody, runBody_eq guide inner qubits, gate_eq, enact_bind]
    rfl
  | .controlled inner count _, qubits => by
    simp only [runBody, runBody_eq guide inner, controlledBy_enact]
    rfl
  | .derivedAdjoint inner, qubits => by
    simp only [runBody, runBody_eq guide inner qubits, record_enact, undoTape_eq, enact_bind]
    rfl
  | .routine _ _ _ body _, qubits => by
    simp only [runBody, runProgram_eq guide body (.given qubits)]
    exact enact_bind _ fun _ _ => done (.ok ())
  | .linked core _, qubits => runBody_eq guide core qubits

theorem runSteps_eq (guide : Guide R) : ∀ (steps : Steps R) (qubits : List Int),
    runSteps guide.scope steps qubits = enact (ofSteps guide steps qubits)
  | .nil, _ => rfl
  | .cons operation places rest, qubits => by
    simp only [runSteps, runBody_eq guide operation, runSteps_eq guide rest qubits, enact_bind,
      ofExcept_bind_enact]
    rfl

theorem runInstruction_eq (guide : Guide R) :
    ∀ (instruction : Instruction R) (frame : Frame),
      runInstruction guide.scope instruction frame = enact (ofInstruction guide instruction frame)
  | .primitive primitive targets, frame => by
    simp only [runInstruction, gate_eq, pure_eq_enact, enact_bind, ofExcept_bind_enact]
    rfl
  | .unitary tensor name targets, frame => by
    simp only [runInstruction, gate_eq, pure_eq_enact, enact_bind, ofExcept_bind_enact]
    rfl
  | .apply operation references, frame => by
    simp only [runInstruction, runBody_eq guide operation, pure_eq_enact, enact_bind,
      ofExcept_bind_enact]
    rfl
  | .applyNamed variant described controls references, frame => by
    simp only [runInstruction, Guide.scope, pure_eq_enact, enact_bind, ofExcept_bind_enact]
    rfl
  | .refused references fault, frame => by
    exact ofExcept_bind_enact _ fun _ _ => done (.error fault)
  | .measure reference, frame => by
    simp only [runInstruction, measure_eq, pure_eq_enact, enact_bind, ofExcept_bind_enact]
    rfl
  | .reset reference, frame => by
    simp only [runInstruction, reset_eq, pure_eq_enact, enact_bind, ofExcept_bind_enact]
    rfl
  | .controlledBy references block, frame => by
    simp only [runInstruction, runProgram_eq guide block, controlledBy_enact,
      ofExcept_bind_enact]
    rfl
  | .restrictedTo profile block, frame => by
    simp only [runInstruction, runProgram_eq guide block, restrictedTo_enact]
    rfl
  | .record block, frame => by
    simp only [runInstruction, runProgram_eq guide block, record_enact, pure_eq_enact, enact_bind]
    rfl
  | .recordAndUndo block, frame => by
    simp only [runInstruction, runProgram_eq guide block, record_enact, undoTape_eq,
      pure_eq_enact, enact_bind]
    rfl
  | .ifMeasured reference block, frame => by
    simp only [runInstruction, runProgram_eq guide block, measure_eq, pure_eq_enact, enact_bind,
      ite_enact, ofExcept_bind_enact]
    rfl
  | .sleep seconds, _ => rfl

theorem runProgram_eq (guide : Guide R) : ∀ (program : Program R) (frame : Frame),
    runProgram guide.scope program frame = enact (ofProgram guide program frame)
  | .nil, _ => rfl
  | .cons instruction .nil, frame => runInstruction_eq guide instruction frame
  | .cons instruction (.cons next rest), frame => by
    simp only [runProgram, runInstruction_eq guide instruction frame,
      runProgram_eq guide (.cons next rest) frame, enact_bind]
    rfl

end

end Course

/-! ## The definitions of an engine -/

namespace Guide

variable {R : Type} [Scalar R]

/-- The guide of definitions, down to a depth. -/
def within (definitions : Definitions R) : (depth : Nat) → Guide R
  | 0 => ⟨Blueprint.build definitions, fun _ _ _ => .done (.error .endlessRecursion)⟩
  | depth + 1 => ⟨Blueprint.build definitions, Course.ofOperation (within definitions depth)⟩

/-- The guide of the definitions of an engine. -/
def ofDefinitions (definitions : Definitions R) : Guide R :=
  within definitions Engine.depthLimit

theorem scopeWithin_eq (definitions : Definitions R) (depth : Nat) :
    Engine.scopeWithin definitions depth = (within definitions depth).scope := by
  induction depth with
  | zero => rfl
  | succ depth ih =>
    have runs : Engine.runBody (Engine.scopeWithin definitions depth) =
        fun operation qubits =>
          Course.enact (Course.ofOperation (within definitions depth) operation qubits) := by
      funext operation qubits
      rw [ih, Course.runBody_eq]
    simp only [Engine.scopeWithin, scope, within, runs]

end Guide

namespace Operation

variable {R : Type} [Scalar R]

/-- The course of applying an operation to qubits. -/
def course (definitions : Definitions R) (operation : Operation R) (qubits : List Int)
    (profile : TargetProfile) : Course R Unit := do
  .done (Engine.checkArity operation qubits)
  Course.ofOperation (.ofDefinitions definitions) operation qubits profile

end Operation

namespace Program

variable {R : Type} [Scalar R]

/-- The course of carrying a program out. -/
def course (definitions : Definitions R) (program : Program R) (frame : Frame)
    (profile : TargetProfile) : Course R (Reading R) :=
  Course.ofProgram (.ofDefinitions definitions) program frame profile

end Program

namespace Engine

variable {R : Type} [Scalar R]

/-- An engine runs what the guide of its definitions lays out. -/
theorem scope_eq (engine : Engine R) :
    engine.scope = (Guide.ofDefinitions engine.definitions).scope :=
  Guide.scopeWithin_eq engine.definitions depthLimit

/-- Carrying a program out is playing its course. -/
theorem execute_eq (program : Program R) (frame : Frame) (engine : Engine R) :
    execute program frame engine =
      (program.course engine.definitions frame engine.profile).play engine := by
  change runProgram engine.scope program frame engine = _
  rw [scope_eq, Course.runProgram_eq]
  rfl

/-- Applying an operation is playing its course. -/
theorem apply_eq (operation : Operation R) (qubits : List Int) (engine : Engine R) :
    apply operation qubits engine =
      (operation.course engine.definitions qubits engine.profile).play engine := by
  have laidOut : runBody engine.scope operation qubits =
      Course.enact
        (Course.ofOperation (.ofDefinitions engine.definitions) operation qubits) := by
    rw [scope_eq, Course.runBody_eq]
  simp only [apply, Operation.course, Course.play_bind, Action.bind_apply, Action.ofExcept,
    Action.inspect, Course.play]
  cases checkArity operation qubits with
  | error fault => rfl
  | ok checked => exact congrFun laidOut engine

/-- Under a profile the course is laid out for that profile. -/
theorem restrictedTo_apply (profile : TargetProfile) (operation : Operation R) (qubits : List Int)
    (engine : Engine R) :
    restrictedTo profile (apply operation qubits) engine =
      (operation.course engine.definitions qubits profile).play engine := by
  rw [← Course.play_restrictedTo profile]
  simp only [restrictedTo, Action.during, apply_eq]
  rfl

end Engine

end QuantumKata
