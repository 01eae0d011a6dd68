import Mathlib.Logic.Relation
import QuantumKata.Workshop.Run

/-!
# Unfolding parts

At any moment a part of the workshop stands for an operation: the tree that comes out when all
references to other parts are followed.  Running the part does to the engine what running this tree
does, and leaves the workshop as it is.

The tree depends on the part and on the parts inside it only, so it stays the same while those do,
whatever else is built.

Only routines that mention no other operation are unfolded.  What a body mentions is built when the
body runs, and that may change the workshop.
-/

namespace QuantumKata

/-! ## Bodies that mention no operation -/

section

variable {R : Type}

mutual

/-- Whether an instruction applies no other operation. -/
def InstructionPlan.isPlain : InstructionPlan R → Bool
  | .apply _ _ _ _ => false
  | .controlledBy _ block => block.isPlain
  | .restrictedTo _ block => block.isPlain
  | .record block => block.isPlain
  | .recordAndUndo block => block.isPlain
  | .ifMeasured _ block => block.isPlain
  | _ => true

/-- Whether no instruction of a body applies another operation. -/
def InstructionPlans.isPlain : InstructionPlans R → Bool
  | .nil => true
  | .cons first rest => first.isPlain && rest.isPlain

end

end

/-- An instruction that does not ask what names stand for is carried out alike in all scopes. -/
theorem Engine.execute_single {R : Type} [Scalar R] {scope : Scope R} {instruction : Instruction R}
    {frame : Frame}
    (same : ∀ other, Engine.runInstruction other instruction frame =
      Engine.runInstruction scope instruction frame) :
    Engine.execute (.cons instruction .nil) frame =
      Engine.runInstruction scope instruction frame := by
  funext engine
  exact congrFun (same engine.scope) engine

namespace Workshop

/-! ## Runs that leave the workshop alone -/

section

variable {R α β : Type}

/-- A run does to the engine what an action does, and leaves the workshop as it is. -/
def RunsAs (workshop : Workshop R) (run : RunAction R α) (action : EngineAction R α) : Prop :=
  ∀ engine, run (workshop, engine) = ((action engine).1, (workshop, (action engine).2))

namespace RunsAs

variable {workshop : Workshop R} {run : RunAction R α} {action : EngineAction R α}

theorem onSecond (action : EngineAction R α) :
    workshop.RunsAs (Action.onSecond action) action :=
  fun _ => rfl

theorem ofExcept (outcome : Except Fault α) :
    workshop.RunsAs (Action.ofExcept outcome) (Action.ofExcept outcome) :=
  fun _ => rfl

theorem bind {next : α → RunAction R β} {later : α → EngineAction R β}
    (first : workshop.RunsAs run action)
    (second : ∀ value, workshop.RunsAs (next value) (later value)) :
    workshop.RunsAs (run >>= next) (action >>= later) := by
  intro engine
  rw [Action.bind_apply, Action.bind_apply, first engine]
  rcases action engine with ⟨outcome, after⟩
  cases outcome with
  | ok value => exact second value after
  | error fault => rfl

/-- Looking at the workshop does not delay a run. -/
theorem look_bind {id : PartId} {next : Part R → RunAction R α}
    (followed : workshop.RunsAs (next (workshop.part id)) action) :
    workshop.RunsAs (Action.onFirst (look id) >>= next) action :=
  fun engine => followed engine

theorem during {enter : Engine R → Engine R} {leave : (before after : Engine R) → Engine R}
    (inside : workshop.RunsAs run action) :
    workshop.RunsAs (Workshop.during enter leave run) (Action.during enter leave action) := by
  intro engine
  simp only [Workshop.during, Action.during, inside (enter engine)]

theorem record (inside : workshop.RunsAs run action) :
    workshop.RunsAs (Workshop.record run) (Engine.record action) :=
  during (inside.bind fun _ => fun _ => rfl)

end RunsAs

end

variable {R : Type} [Scalar R] {workshop : Workshop R}

section

theorem execute_runsAs {scope : Scope R} {instruction : Instruction R} {frame : Frame}
    (same : ∀ other, Engine.runInstruction other instruction frame =
      Engine.runInstruction scope instruction frame) :
    workshop.RunsAs (Action.onSecond (Engine.execute (.cons instruction .nil) frame))
      (Engine.runInstruction scope instruction frame) := by
  rw [Engine.execute_single same]
  exact .onSecond _

variable (call : PartId → List Int → RunAction R Unit) (scope : Scope R)

mutual

/-- An instruction that applies no operation runs as the instruction built from it. -/
theorem runInstruction_runsAs :
    ∀ (plan : InstructionPlan R), plan.isPlain = true → ∀ frame,
      workshop.RunsAs (runInstruction call plan frame)
        (Engine.runInstruction scope (Blueprint.buildInstruction plan) frame)
  | .primitive _ _, _, _ => fun _ => rfl
  | .namedGate name angles targets, _, frame => by
    apply execute_runsAs
    intro other
    rw [Blueprint.buildInstruction]
    cases Gate.named name angles <;> rfl
  | .unitary matrix targets name, _, frame => by
    apply execute_runsAs
    intro other
    rw [Blueprint.buildInstruction]
    cases matrix.build <;> rfl
  | .apply _ _ _ _, plain, _ => nomatch plain
  | .measure _, _, _ => fun _ => rfl
  | .reset _, _, _ => fun _ => rfl
  | .controlledBy references block, plain, frame =>
    (RunsAs.ofExcept (frame.resolveAll references)).bind fun _ =>
      (runBody_runsAs block plain frame).during
  | .restrictedTo _ block, plain, frame => (runBody_runsAs block plain frame).during
  | .record block, plain, frame =>
    (runBody_runsAs block plain frame).record.bind fun _ _ => rfl
  | .recordAndUndo block, plain, frame =>
    (runBody_runsAs block plain frame).record.bind fun _ =>
      (RunsAs.onSecond _).bind fun _ _ => rfl
  | .ifMeasured reference block, plain, frame =>
    (RunsAs.ofExcept (frame.resolve reference)).bind fun _ => (RunsAs.onSecond _).bind fun bit => by
      cases bit with
      | false => exact fun _ => rfl
      | true => exact (runBody_runsAs block plain frame).bind fun _ _ => rfl
  | .sleep _, _, _ => fun _ => rfl
  | .raise _, _, _ => fun _ => rfl

/-- A body that applies no operation runs as the program built from it. -/
theorem runBody_runsAs :
    ∀ (plans : InstructionPlans R), plans.isPlain = true → ∀ frame,
      workshop.RunsAs (runBody call plans frame)
        (Engine.runProgram scope (Blueprint.buildBody plans) frame)
  | .nil, _, _ => fun _ => rfl
  | .cons instruction .nil, plain, frame =>
    runInstruction_runsAs instruction (Bool.and_eq_true_iff.1 plain).1 frame
  | .cons instruction (.cons next rest), plain, frame => by
    have parts := Bool.and_eq_true_iff.1 plain
    exact (runInstruction_runsAs instruction parts.1 frame).bind fun _ =>
      runBody_runsAs (.cons next rest) parts.2 frame

end

end

end Workshop

/-! ## The operation that a part stands for -/

section

variable {R : Type}

/-- The parts that a part is put together from. -/
def PartShape.members : PartShape R → List PartId
  | gate _ => []
  | circuit steps => steps.map Prod.fst
  | phaseShifted inner _ => [inner]
  | controlled inner _ => [inner]
  | derivedAdjoint inner => [inner]
  | routine _ _ => []

/-- Whether a part plays the tape of another one backwards. -/
def PartShape.isDerivedAdjoint : PartShape R → Bool
  | derivedAdjoint _ => true
  | _ => false

namespace Part

/-- A part without what it remembers. -/
def bare (part : Part R) : Part R := { part with adjoint := none }

variable {part other : Part R} (same : part.bare = other.bare)

include same

theorem shape_eq_of_bare : part.shape = other.shape :=
  (congrArg shape same :)

theorem name_eq_of_bare : part.name = other.name :=
  (congrArg name same :)

theorem numQubits_eq_of_bare : part.numQubits = other.numQubits :=
  (congrArg numQubits same :)

theorem capabilities_eq_of_bare : part.capabilities = other.capabilities :=
  (congrArg capabilities same :)

end Part

/-- The steps of a circuit, where it is known what the parts stand for. -/
def PartShape.unfoldedSteps (view : PartId → Option (Operation R)) :
    List (PartId × List Int) → Option (Steps R)
  | [] => some .nil
  | (step, places) :: rest =>
    (view step).bind fun operation =>
      (unfoldedSteps view rest).map fun later => .cons operation places later

theorem PartShape.unfoldedSteps_congr {view other : PartId → Option (Operation R)} :
    ∀ {steps : List (PartId × List Int)},
      (∀ step ∈ steps, view step.1 = other step.1) →
      unfoldedSteps view steps = unfoldedSteps other steps
  | [], _ => rfl
  | (step, places) :: rest, same => by
    rcases List.forall_mem_cons.1 same with ⟨first, later⟩
    rw [unfoldedSteps, unfoldedSteps, first, unfoldedSteps_congr later]

theorem PartShape.unfoldedSteps_mono {view other : PartId → Option (Operation R)}
    (finer : ∀ id operation, view id = some operation → other id = some operation) :
    ∀ {steps : List (PartId × List Int)} {listed : Steps R},
      unfoldedSteps view steps = some listed → unfoldedSteps other steps = some listed
  | [], _, stands => stands
  | (step, places) :: rest, listed, stands => by
    rw [unfoldedSteps, Option.bind_eq_some_iff] at stands
    rcases stands with ⟨operation, first, mapped⟩
    rcases Option.map_eq_some_iff.1 mapped with ⟨later, followed, rfl⟩
    rw [unfoldedSteps, finer step operation first, Option.bind_some,
      unfoldedSteps_mono finer followed, Option.map_some]

/-- The steps that are unfolded are known one by one. -/
theorem PartShape.exists_of_unfoldedSteps {view : PartId → Option (Operation R)} :
    ∀ {steps : List (PartId × List Int)} {listed : Steps R},
      unfoldedSteps view steps = some listed → ∀ step ∈ steps, ∃ operation,
        view step.1 = some operation
  | [], _, _ => nofun
  | (step, places) :: rest, listed, stands => by
    rw [unfoldedSteps, Option.bind_eq_some_iff] at stands
    rcases stands with ⟨operation, first, mapped⟩
    rcases Option.map_eq_some_iff.1 mapped with ⟨later, followed, -⟩
    exact List.forall_mem_cons.2 ⟨⟨operation, first⟩, exists_of_unfoldedSteps followed⟩

theorem PartShape.unfoldedSteps_append {view : PartId → Option (Operation R)}
    {later : List (PartId × List Int)} :
    ∀ {steps : List (PartId × List Int)}, unfoldedSteps view (steps ++ later) =
      (unfoldedSteps view steps).bind fun first =>
        (unfoldedSteps view later).map fun second => first.append second
  | [] => by
    change _ = (unfoldedSteps view later).map fun second => second
    rw [Option.map_id']
    rfl
  | (step, places) :: rest => by
    rw [List.cons_append, unfoldedSteps, unfoldedSteps, unfoldedSteps_append]
    cases view step with
    | none => rfl
    | some operation =>
      cases unfoldedSteps view rest with
      | none => rfl
      | some first => cases unfoldedSteps view later <;> rfl

variable [Scalar R]

/-- The operation that a part stands for, where it is known what its members stand for. -/
def Part.unfolded (view : PartId → Option (Operation R)) (part : Part R) :
    Option (Operation R) :=
  match part.shape with
  | .gate primitive => some (.gate primitive part.name)
  | .circuit steps =>
    (PartShape.unfoldedSteps view steps).map fun listed =>
      .circuit part.numQubits part.name listed
  | .phaseShifted inner angle => (view inner).map fun operation => .phaseShifted operation angle
  | .controlled inner count =>
    (view inner).map fun operation => .controlled operation count part.name
  | .derivedAdjoint inner => (view inner).map .derivedAdjoint
  | .routine body inverse =>
    if body.isPlain = true then
      some (.routine part.numQubits part.name part.capabilities (Blueprint.buildBody body)
        (Blueprint.buildInverse inverse))
    else none

/-- The operation that a part stands for now, if fewer than `depth` other parts are nested in it. -/
def Workshop.unfolded (workshop : Workshop R) : (depth : Nat) → PartId → Option (Operation R)
  | 0, _ => none
  | depth + 1, id => (workshop.part id).unfolded (workshop.unfolded depth)

/-! ### What the operation depends on -/

theorem Part.unfolded_congr {view other : PartId → Option (Operation R)} {part : Part R}
    (same : ∀ inner ∈ part.shape.members, view inner = other inner) :
    part.unfolded view = part.unfolded other := by
  rcases part with ⟨shape, name, numQubits, capabilities, adjoint⟩
  cases shape with
  | gate primitive => rfl
  | circuit steps =>
    have steps : PartShape.unfoldedSteps view steps = PartShape.unfoldedSteps other steps :=
      PartShape.unfoldedSteps_congr fun step member => same step.1 (List.mem_map_of_mem member)
    simp only [unfolded, steps]
  | phaseShifted inner angle => simp only [unfolded, same inner (List.mem_singleton_self inner)]
  | controlled inner count => simp only [unfolded, same inner (List.mem_singleton_self inner)]
  | derivedAdjoint inner => simp only [unfolded, same inner (List.mem_singleton_self inner)]
  | routine body inverse => rfl

theorem Part.unfolded_mono {view other : PartId → Option (Operation R)} {part : Part R}
    {operation : Operation R}
    (finer : ∀ id inner, view id = some inner → other id = some inner)
    (stands : part.unfolded view = some operation) : part.unfolded other = some operation := by
  rcases part with ⟨shape, name, numQubits, capabilities, adjoint⟩
  cases shape with
  | gate primitive => exact stands
  | circuit steps =>
    rcases Option.map_eq_some_iff.1 stands with ⟨listed, followed, rfl⟩
    simp only [unfolded, PartShape.unfoldedSteps_mono finer followed, Option.map_some]
  | phaseShifted inner angle =>
    rcases Option.map_eq_some_iff.1 stands with ⟨found, followed, rfl⟩
    simp only [unfolded, finer inner found followed, Option.map_some]
  | controlled inner count =>
    rcases Option.map_eq_some_iff.1 stands with ⟨found, followed, rfl⟩
    simp only [unfolded, finer inner found followed, Option.map_some]
  | derivedAdjoint inner =>
    rcases Option.map_eq_some_iff.1 stands with ⟨found, followed, rfl⟩
    simp only [unfolded, finer inner found followed, Option.map_some]
  | routine body inverse => exact stands

end

namespace Workshop

section

variable {R : Type}

/-- A part is among those that another part is put together from. -/
def IsMember (workshop : Workshop R) (outer inner : PartId) : Prop :=
  inner ∈ (workshop.part outer).shape.members

theorem isMember_of_step {workshop : Workshop R} {id : PartId} {steps : List (PartId × List Int)}
    {step : PartId × List Int} (shape : (workshop.part id).shape = .circuit steps)
    (listed : step ∈ steps) : workshop.IsMember id step.1 := by
  rw [IsMember, shape]
  exact List.mem_map_of_mem listed

/-- A part is another part, or inside it. -/
def Contains (workshop : Workshop R) : PartId → PartId → Prop :=
  Relation.ReflTransGen workshop.IsMember

end

variable {R : Type} [Scalar R] {workshop after : Workshop R} {id : PartId}

/-- With more depth a part stands for the same operation. -/
theorem unfolded_succ {depth : Nat} {operation : Operation R}
    (stands : workshop.unfolded depth id = some operation) :
    workshop.unfolded (depth + 1) id = some operation := by
  induction depth generalizing id operation with
  | zero => cases stands
  | succ depth ih => exact Part.unfolded_mono (fun _ _ followed => ih followed) stands

/-- A part stands for the same operation as long as the parts inside it stay the same, apart from
what they remember. -/
theorem unfolded_congr {depth : Nat}
    (same : ∀ inner, workshop.Contains id inner →
      (after.part inner).bare = (workshop.part inner).bare) :
    after.unfolded depth id = workshop.unfolded depth id := by
  induction depth generalizing id with
  | zero => rfl
  | succ depth ih =>
    have here := congrArg (Part.unfolded (after.unfolded depth)) (same id .refl)
    refine here.trans (Part.unfolded_congr fun inner member => ?_)
    exact ih fun other inside => same other (.head member inside)

/-! ## Running a part -/

end Workshop

/-- A part goes with the parts that it is put together from. -/
def Part.Fits {R : Type} [Scalar R] (workshop : Workshop R) (part : Part R) : Prop :=
  match part.shape with
  | .gate primitive => part.numQubits = primitive.numQubits
  | .circuit steps => ∀ step ∈ steps, (step.2.length : Int) = (workshop.part step.1).numQubits ∧
      Operation.areDistinctBelow part.numQubits step.2 = true
  | .phaseShifted inner angle => part.numQubits = (workshop.part inner).numQubits ∧
      part.name = (workshop.part inner).name ++ "·e^(i" ++ angle.text ++ ")"
  | .controlled inner count => part.numQubits = (workshop.part inner).numQubits + count
  | .derivedAdjoint inner => part.numQubits = (workshop.part inner).numQubits ∧
      part.name = Operation.adjointName (workshop.part inner).name
  | .routine _ _ => True

namespace Workshop

variable {R : Type} [Scalar R] {workshop : Workshop R} {id : PartId}

theorem unfolded_signature (fits : ∀ id, (workshop.part id).Fits workshop) {depth : Nat}
    {operation : Operation R} (stands : workshop.unfolded depth id = some operation) :
    operation.numQubits = (workshop.part id).numQubits ∧
      operation.name = (workshop.part id).name := by
  induction depth generalizing id operation with
  | zero => cases stands
  | succ depth ih =>
    have fit := fits id
    rw [unfolded, Part.unfolded] at stands
    rw [Part.Fits] at fit
    cases shape : (workshop.part id).shape with
    | gate primitive =>
      rw [shape] at stands fit
      cases stands
      exact ⟨fit.symm, rfl⟩
    | circuit steps =>
      rw [shape] at stands
      rcases Option.map_eq_some_iff.1 stands with ⟨listed, -, rfl⟩
      exact ⟨rfl, rfl⟩
    | phaseShifted inner angle =>
      rw [shape] at stands fit
      rcases Option.map_eq_some_iff.1 stands with ⟨found, followed, rfl⟩
      rcases ih followed with ⟨size, name⟩
      exact ⟨size.trans fit.1.symm, by rw [Operation.name, name]; exact fit.2.symm⟩
    | controlled inner count =>
      rw [shape] at stands fit
      rcases Option.map_eq_some_iff.1 stands with ⟨found, followed, rfl⟩
      exact ⟨by rw [Operation.numQubits, (ih followed).1]; exact fit.symm, rfl⟩
    | derivedAdjoint inner =>
      rw [shape] at stands fit
      rcases Option.map_eq_some_iff.1 stands with ⟨found, followed, rfl⟩
      rcases ih followed with ⟨size, name⟩
      exact ⟨size.trans fit.1.symm, by rw [Operation.name, name]; exact fit.2.symm⟩
    | routine body inverse =>
      rw [shape] at stands
      dsimp only at stands
      split at stands
      · cases stands
        exact ⟨rfl, rfl⟩
      · cases stands

theorem checkArity_runsAs {operation : Operation R}
    (size : operation.numQubits = (workshop.part id).numQubits)
    (name : operation.name = (workshop.part id).name) (qubits : List Int) :
    workshop.RunsAs (checkArity id qubits)
      (Action.ofExcept (Engine.checkArity operation qubits)) := by
  apply RunsAs.look_bind
  rw [Engine.checkArity, size, name]
  split
  · exact fun _ => rfl
  · exact fun _ => rfl

theorem runSteps_runsAs {call : PartId → List Int → RunAction R Unit} {scope : Scope R}
    {view : PartId → Option (Operation R)} {qubits : List Int}
    (checked : ∀ step operation, view step = some operation → ∀ chosen,
      workshop.RunsAs (checkArity step chosen)
        (Action.ofExcept (Engine.checkArity operation chosen)))
    (called : ∀ step operation, view step = some operation → ∀ chosen,
      workshop.RunsAs (call step chosen) (Engine.runBody scope operation chosen)) :
    ∀ {steps : List (PartId × List Int)} {listed : Steps R},
      PartShape.unfoldedSteps view steps = some listed →
      workshop.RunsAs (runSteps call qubits steps) (Engine.runSteps scope listed qubits)
  | [], _, stands => by
    cases stands
    exact fun _ => rfl
  | (step, places) :: rest, listed, stands => by
    rw [PartShape.unfoldedSteps, Option.bind_eq_some_iff] at stands
    rcases stands with ⟨operation, first, mapped⟩
    rcases Option.map_eq_some_iff.1 mapped with ⟨later, followed, rfl⟩
    exact (RunsAs.ofExcept (Engine.pick qubits places)).bind fun chosen =>
      (checked step operation first chosen).bind fun _ =>
        (called step operation first chosen).bind fun _ => runSteps_runsAs checked called followed

/-- Running a part is running the operation that it stands for. -/
theorem runWithin_runsAs (fits : ∀ id, (workshop.part id).Fits workshop) (scope : Scope R)
    {depth : Nat} {operation : Operation R}
    (stands : workshop.unfolded depth id = some operation) (qubits : List Int) :
    workshop.RunsAs (runWithin depth id qubits) (Engine.runBody scope operation qubits) := by
  induction depth generalizing id operation qubits with
  | zero => cases stands
  | succ depth ih =>
    rw [unfolded, Part.unfolded] at stands
    rw [runWithin]
    apply RunsAs.look_bind
    cases shape : (workshop.part id).shape with
    | gate primitive =>
      rw [shape] at stands
      cases stands
      exact .onSecond _
    | circuit steps =>
      rw [shape] at stands
      rcases Option.map_eq_some_iff.1 stands with ⟨listed, followed, rfl⟩
      refine runSteps_runsAs ?_ (fun step operation found => ih found) followed
      intro step operation found chosen
      rcases unfolded_signature fits found with ⟨size, name⟩
      exact checkArity_runsAs size name chosen
    | phaseShifted inner angle =>
      rw [shape] at stands
      rcases Option.map_eq_some_iff.1 stands with ⟨found, followed, rfl⟩
      exact (ih followed qubits).bind fun _ => .onSecond _
    | controlled inner count =>
      rw [shape] at stands
      rcases Option.map_eq_some_iff.1 stands with ⟨found, followed, rfl⟩
      exact (ih followed _).during
    | derivedAdjoint inner =>
      rw [shape] at stands
      rcases Option.map_eq_some_iff.1 stands with ⟨found, followed, rfl⟩
      exact (ih followed qubits).record.bind fun _ => .onSecond _
    | routine body inverse =>
      rw [shape] at stands
      dsimp only at stands
      split at stands
      case isTrue plain =>
        cases stands
        exact (runBody_runsAs _ scope body plain _).bind fun _ _ => rfl
      case isFalse => cases stands

/-- Applying a part is applying the operation that it stands for. -/
theorem apply_runsAs (fits : ∀ id, (workshop.part id).Fits workshop) {operation : Operation R}
    (stands : workshop.unfolded depthLimit id = some operation) (qubits : List Int) :
    workshop.RunsAs (apply id qubits) (Engine.apply operation qubits) := by
  intro engine
  rcases unfolded_signature fits stands with ⟨size, name⟩
  have applied : Engine.apply operation qubits engine =
      (Action.ofExcept (Engine.checkArity operation qubits) >>= fun _ =>
        Engine.runBody engine.scope operation qubits) engine := by
    simp only [Engine.apply, Action.bind_apply, Action.ofExcept, Action.inspect]
    cases Engine.checkArity operation qubits <;> rfl
  rw [applied]
  exact (checkArity_runsAs size name qubits).bind
    (fun _ => runWithin_runsAs fits engine.scope stands qubits) engine

end Workshop

end QuantumKata
