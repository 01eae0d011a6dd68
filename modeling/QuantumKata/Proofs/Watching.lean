import QuantumKata.Proofs.Layout

/-!
# Watching a run

A *watched* run does what a run does and writes down two kinds of events: each primitive that is
asked of the engine, with the profile then in force and the fault that it meets, and each profile
that a block puts in force.  The primitives of a block that is being recorded are written down like
all others, and so are those that undo a tape.

Watching changes nothing: the answer and the engine afterwards are those of the run itself.  What is
written down abides by the profile in force, and the first fault that a primitive meets is the one
that the run ends with.
-/

namespace QuantumKata

/-- A primitive that is asked of the engine. -/
inductive Request (R : Type) where
  | gate (gate : Gate R) (targets : List Int)
  | measure (qubit : Int)
  | reset (qubit : Int)

namespace Request

variable {R : Type}

/-- The family of instructions that a primitive belongs to. -/
def kind : Request R → InstructionKind
  | gate primitive _ => Engine.instructionKind primitive
  | measure _ => .measure
  | reset _ => .reset

/-- The name under which a primitive is refused. -/
def name : Request R → String
  | gate primitive _ => primitive.name
  | measure _ => "M"
  | reset _ => "Reset"

/-- A gate on the wrong number of targets; it is refused before the profile is looked at. -/
def IsMalformed : Request R → Prop
  | gate primitive targets => targets.length ≠ primitive.numQubits
  | measure _ | reset _ => False

end Request

/-- What is written down of a run. -/
inductive Event (R : Type) where
  /-- A primitive, the profile in force and the fault that the primitive meets, if any. -/
  | asked (request : Request R) (profile : TargetProfile) (fault : Option Fault)
  | entered (profile : TargetProfile)

/-- A primitive is answered as the profile in force demands. -/
structure Request.Abides {R : Type} (request : Request R) (profile : TargetProfile)
    (fault : Option Fault) : Prop where
  allowed : fault = none → profile.allows request.kind = true
  refused : ¬request.IsMalformed → profile.allows request.kind = false →
    fault = some (.notInProfile request.name profile.setting)
  malformed : request.IsMalformed → ∃ refusal, fault = some refusal ∧
    refusal.kind = .dimensionMismatch

/-- A primitive that is not malformed is refused for the profile alone. -/
theorem Request.abides_of_formed {R : Type} {request : Request R} {profile : TargetProfile}
    {fault : Option Fault} (formed : ¬request.IsMalformed)
    (refused : profile.allows request.kind = false →
      fault = some (.notInProfile request.name profile.setting)) :
    request.Abides profile fault := by
  refine ⟨?_, fun _ => refused, fun malformed => absurd malformed formed⟩
  intro noFault
  cases allowed : profile.allows request.kind with
  | true => rfl
  | false => cases noFault.symm.trans (refused allowed)

/-- What is written down of a run that begins under a profile and comes to an outcome. -/
structure Account {R α : Type} (profile : TargetProfile) (outcome : Except Fault α)
    (events : List (Event R)) : Prop where
  abides : ∀ request inForce fault, .asked request inForce fault ∈ events →
    request.Abides inForce fault
  inForce : ∀ request inForce fault, .asked request inForce fault ∈ events →
    inForce = profile ∨ .entered inForce ∈ events
  ends : ∀ request inForce fault, .asked request inForce (some fault) ∈ events →
    outcome = .error fault

/-- An action of the engine with the events so far. -/
abbrev Watched (R α : Type) : Type := Action (Engine R × List (Event R)) α

namespace Watched

variable {R α β : Type}

def note (event : Event R) : Watched R Unit :=
  Action.update fun (engine, events) => (engine, events ++ [event])

/-- The fault of an outcome, if there is one. -/
def fault? : Except Fault α → Option Fault
  | .ok _ => none
  | .error fault => some fault

/-- Carry out a primitive and write it down. -/
def ask (request : Request R) (action : EngineAction R α) : Watched R α :=
  fun (engine, events) =>
    ((action engine).1, (action engine).2,
      events ++ [.asked request engine.profile (fault? (action engine).1)])

def during (enter : Engine R → Engine R) (leave : (before after : Engine R) → Engine R)
    (block : Watched R α) : Watched R α :=
  Action.during (fun (engine, events) => (enter engine, events))
    (fun before after => (leave before.1 after.1, after.2)) block

def controlledBy (added : List Int) (block : Watched R α) : Watched R α :=
  during (Engine.pushControls added) Engine.popControls block

def restrictedTo (profile : TargetProfile) (block : Watched R α) : Watched R α := do
  note (.entered profile)
  during (Engine.enterProfile profile) Engine.leaveProfile block

def record (block : Watched R α) : Watched R (List (TapeEntry R)) :=
  during Engine.pushTape Engine.popTape do
    let _ ← block
    Action.onFirst (Action.inspect Engine.topmostEntries)

variable [Scalar R]

def gate (primitive : Gate R) (targets : List Int) : Watched R Unit :=
  ask (.gate primitive targets) (Engine.gate primitive targets)

def measure (qubit : Int) : Watched R Bool :=
  ask (.measure qubit) (Engine.measure qubit)

def reset (qubit : Int) : Watched R Unit :=
  ask (.reset qubit) (Engine.reset qubit)

def undoEntry (entry : TapeEntry R) : Watched R Unit :=
  controlledBy entry.controls do
    let inverse ← Action.ofExcept entry.gate.adjoint
    gate inverse entry.targets

def undoEntries : List (TapeEntry R) → Watched R Unit
  | [] => pure ()
  | entry :: rest => do
    undoEntry entry
    undoEntries rest

end Watched

/-- How operations that are known by name only are built and run while they are watched. -/
structure WatchedScope (R : Type) where
  build : Blueprint R → Except Fault (Operation R)
  run : Operation R → List Int → Watched R Unit

namespace Watched

variable {R : Type} [Scalar R]

mutual

/-- The runs of operations and programs, line by line, with every primitive written down. -/
def runBody (scope : WatchedScope R) : Operation R → List Int → Watched R Unit
  | .gate primitive _, qubits => gate primitive qubits
  | .circuit _ _ steps, qubits => runSteps scope steps qubits
  | .phaseShifted inner angle, qubits => do
    runBody scope inner qubits
    gate (.globalPhase angle.value) []
  | .controlled inner count _, qubits =>
    controlledBy (Engine.splitAt count qubits).1
      (runBody scope inner (Engine.splitAt count qubits).2)
  | .derivedAdjoint inner, qubits => do
    let entries ← record (runBody scope inner qubits)
    undoEntries entries.reverse
  | .routine _ _ _ body _, qubits => do
    let _ ← runProgram scope body (.given qubits)
    pure ()
  | .linked core _, qubits => runBody scope core qubits

def runSteps (scope : WatchedScope R) : Steps R → List Int → Watched R Unit
  | .nil, _ => pure ()
  | .cons operation places rest, qubits => do
    let chosen ← Action.ofExcept (Engine.pick qubits places)
    Action.ofExcept (Engine.checkArity operation chosen)
    runBody scope operation chosen
    runSteps scope rest qubits

def runInstruction (scope : WatchedScope R) : Instruction R → Frame → Watched R (Reading R)
  | .primitive primitive targets, frame => do
    let qubits ← Action.ofExcept (frame.resolveAll targets)
    gate primitive qubits
    return .nothing
  | .unitary tensor name targets, frame => do
    let qubits ← Action.ofExcept (frame.resolveAll targets)
    let primitive ← Action.ofExcept (Gate.ofTensor tensor name Scalar.defaultTolerance)
    gate primitive qubits
    return .nothing
  | .apply operation references, frame => do
    let qubits ← Action.ofExcept (frame.resolveAll references)
    Action.ofExcept (Engine.checkArity operation qubits)
    runBody scope operation qubits
    return .nothing
  | .applyNamed variant described controls references, frame => do
    let operation ← Action.ofExcept (scope.build described)
    let qubits ← Action.ofExcept (frame.resolveAll (controls ++ references))
    let chosen ← Action.ofExcept (operation.variant variant controls.length)
    Action.ofExcept (Engine.checkArity chosen qubits)
    scope.run chosen qubits
    return .nothing
  | .refused references fault, frame => do
    let _ ← Action.ofExcept (frame.resolveAll references)
    Action.fail fault
  | .measure reference, frame => do
    let qubit ← Action.ofExcept (frame.resolve reference)
    let bit ← measure qubit
    return .bit bit
  | .reset reference, frame => do
    let qubit ← Action.ofExcept (frame.resolve reference)
    reset qubit
    return .nothing
  | .controlledBy references block, frame => do
    let controls ← Action.ofExcept (frame.resolveAll references)
    controlledBy controls (runProgram scope block frame)
  | .restrictedTo profile block, frame => restrictedTo profile (runProgram scope block frame)
  | .record block, frame => do
    let entries ← record (runProgram scope block frame)
    return .tape entries
  | .recordAndUndo block, frame => do
    let entries ← record (runProgram scope block frame)
    undoEntries entries.reverse
    return .tape entries
  | .ifMeasured reference block, frame => do
    let qubit ← Action.ofExcept (frame.resolve reference)
    let bit ← measure qubit
    if bit then
      let _ ← runProgram scope block frame
      return .bit bit
    else return .bit bit
  | .sleep seconds, _ => do
    Action.onFirst (Engine.sleep seconds)
    return .nothing

def runProgram (scope : WatchedScope R) : Program R → Frame → Watched R (Reading R)
  | .nil, _ => pure .nothing
  | .cons instruction .nil, frame => runInstruction scope instruction frame
  | .cons instruction (.cons next rest), frame => do
    let _ ← runInstruction scope instruction frame
    runProgram scope (.cons next rest) frame

end

def scopeWithin (definitions : Definitions R) : (depth : Nat) → WatchedScope R
  | 0 => ⟨Blueprint.build definitions, fun _ _ => Action.fail .endlessRecursion⟩
  | depth + 1 => ⟨Blueprint.build definitions, runBody (scopeWithin definitions depth)⟩

def apply (operation : Operation R) (qubits : List Int) : Watched R Unit := do
  Action.ofExcept (Engine.checkArity operation qubits)
  let definitions ← Action.inspect fun (engine, _) => engine.definitions
  runBody (scopeWithin definitions Engine.depthLimit) operation qubits

def execute (program : Program R) (frame : Frame) : Watched R (Reading R) := do
  let definitions ← Action.inspect fun (engine, _) => engine.definitions
  runProgram (scopeWithin definitions Engine.depthLimit) program frame

end Watched

/-! ## Watching changes nothing -/

namespace Account

variable {R α β : Type} {profile : TargetProfile} {events others : List (Event R)}

theorem nil (outcome : Except Fault α) : Account profile outcome ([] : List (Event R)) := by
  constructor <;> exact fun _ _ _ member => nomatch member

/-- What is written down of two runs one after the other. -/
theorem append {value : α} {outcome : Except Fault β}
    (first : Account profile (.ok value) events) (second : Account profile outcome others) :
    Account profile outcome (events ++ others) := by
  constructor
  case abides =>
    intro request inForce fault member
    rcases List.mem_append.1 member with before | after
    · exact first.abides request inForce fault before
    · exact second.abides request inForce fault after
  case inForce =>
    intro request inForce fault member
    rcases List.mem_append.1 member with before | after
    · exact (first.inForce request inForce fault before).imp_right (List.mem_append_left _)
    · exact (second.inForce request inForce fault after).imp_right (List.mem_append_right _)
  case ends =>
    intro request inForce fault member
    rcases List.mem_append.1 member with before | after
    · exact nomatch first.ends request inForce fault before
    · exact second.ends request inForce fault after

/-- A run that has failed has the same account whatever was to come. -/
theorem error {fault : Fault} (failed : Account profile (.error fault : Except Fault α) events) :
    Account profile (.error fault : Except Fault β) events := by
  constructor
  case abides => exact failed.abides
  case inForce => exact failed.inForce
  case ends =>
    intro request inForce other member
    cases failed.ends request inForce other member
    rfl

/-- A block under a profile of its own puts that profile in force. -/
theorem entered {inner : TargetProfile} {outcome : Except Fault α}
    (inside : Account inner outcome events) :
    Account profile outcome (.entered inner :: events) := by
  constructor
  case abides =>
    intro request inForce fault member
    rcases List.mem_cons.1 member with same | among
    · cases same
    · exact inside.abides request inForce fault among
  case inForce =>
    intro request inForce fault member
    rcases List.mem_cons.1 member with same | among
    · cases same
    · right
      rcases inside.inForce request inForce fault among with rfl | before
      · exact List.mem_cons_self
      · exact List.mem_cons_of_mem _ before
  case ends =>
    intro request inForce fault member
    rcases List.mem_cons.1 member with same | among
    · cases same
    · exact inside.ends request inForce fault among

end Account

/-- A watched action does what the action does, writes an account of it, and leaves the profile as
it was. -/
def Watches {R α : Type} (watched : Watched R α) (action : EngineAction R α) : Prop :=
  ∀ engine events, ∃ more,
    watched (engine, events) = ((action engine).1, (action engine).2, events ++ more) ∧
      Account engine.profile (action engine).1 more ∧
      (action engine).2.profile = engine.profile

namespace Watches

variable {R α β : Type} {action : EngineAction R α} {watched : Watched R α}

/-- An action that asks for no primitive. -/
theorem quietly (kept : Action.Keeps Engine.profile action) :
    Watches (Action.onFirst action) action := by
  intro engine events
  refine ⟨[], ?_, .nil _, kept engine⟩
  rw [List.append_nil]
  rfl

theorem ofExcept (outcome : Except Fault α) :
    Watches (R := R) (Action.ofExcept outcome) (Action.ofExcept outcome) :=
  quietly (Action.keeps_ofExcept outcome)

theorem done (value : α) : Watches (R := R) (pure value) (pure value) :=
  ofExcept (.ok value)

theorem bind {next : α → EngineAction R β} {watchedNext : α → Watched R β}
    (first : Watches watched action) (second : ∀ value, Watches (watchedNext value) (next value)) :
    Watches (watched >>= watchedNext) (action >>= next) := by
  intro engine events
  rcases first engine events with ⟨more, ran, account, kept⟩
  rw [Action.bind_apply, Action.bind_apply, ran]
  rcases result : action engine with ⟨outcome, after⟩
  rw [result] at account kept
  cases outcome with
  | error fault => exact ⟨more, rfl, account.error, kept⟩
  | ok value =>
    rcases second value after (events ++ more) with ⟨later, ranLater, accountLater, keptLater⟩
    -- The first run leaves the profile as it was, so both accounts are of the same profile.
    rw [kept] at accountLater keptLater
    refine ⟨more ++ later, ?_, account.append accountLater, keptLater⟩
    rw [← List.append_assoc]
    exact ranLater

theorem during {enter : Engine R → Engine R} {leave : (before after : Engine R) → Engine R}
    (inside : Watches watched action) (entering : ∀ engine, (enter engine).profile = engine.profile)
    (leaving : ∀ before after, (leave before after).profile = after.profile) :
    Watches (Watched.during enter leave watched) (Action.during enter leave action) := by
  intro engine events
  rcases inside (enter engine) events with ⟨more, ran, account, kept⟩
  rw [entering] at account kept
  refine ⟨more, ?_, account, (leaving _ _).trans kept⟩
  rw [Watched.during, Action.during]
  rw [ran]
  rfl

theorem controlledBy (added : List Int) (inside : Watches watched action) :
    Watches (Watched.controlledBy added watched) (Engine.controlledBy added action) :=
  inside.during (fun _ => rfl) fun _ _ => rfl

theorem record (inside : Watches watched action) :
    Watches (Watched.record watched) (Engine.record action) := by
  refine during (inside.bind fun _ => quietly fun _ => rfl) (fun _ => rfl) fun _ _ => rfl

theorem restrictedTo (profile : TargetProfile) (inside : Watches watched action) :
    Watches (Watched.restrictedTo profile watched) (Engine.restrictedTo profile action) := by
  intro engine events
  rcases inside (Engine.enterProfile profile engine) (events ++ [.entered profile]) with
    ⟨more, ran, account, -⟩
  refine ⟨.entered profile :: more, ?_, account.entered, rfl⟩
  rw [Watched.restrictedTo, Action.bind_apply]
  simp only [Watched.note, Action.update, Watched.during, Action.during, ran,
    List.append_assoc, List.singleton_append]
  rfl

theorem ask {request : Request R} (kept : Action.Keeps Engine.profile action)
    (abides : ∀ engine, request.Abides engine.profile (Watched.fault? (action engine).1)) :
    Watches (Watched.ask request action) action := by
  intro engine events
  refine ⟨[.asked request engine.profile (Watched.fault? (action engine).1)], rfl, ?_, kept engine⟩
  constructor
  case abides =>
    intro other inForce fault member
    cases List.mem_singleton.1 member
    exact abides engine
  case inForce =>
    intro other inForce fault member
    cases List.mem_singleton.1 member
    exact .inl rfl
  case ends =>
    intro other inForce fault member
    have same := List.mem_singleton.1 member
    simp only [Event.asked.injEq] at same
    rcases outcome : (action engine).1 with failed | value
    · rw [outcome] at same
      cases same.2.2
      rfl
    · rw [outcome] at same
      cases same.2.2

/-- A primitive that the profile is asked about first. -/
theorem ask_require (request : Request R) {next : Unit → EngineAction R α}
    (formed : ¬request.IsMalformed)
    (kept : Action.Keeps Engine.profile (Engine.require request.kind request.name >>= next)) :
    Watches (Watched.ask request (Engine.require request.kind request.name >>= next))
      (Engine.require request.kind request.name >>= next) := by
  refine ask kept fun engine => Request.abides_of_formed formed fun forbidden => ?_
  simp [Engine.require, forbidden, Action.bind_apply, Watched.fault?]

variable [Scalar R]

theorem keeps_profile_play (course : Course R α) : Action.Keeps Engine.profile course.play :=
  fun engine => congrArg (fun part => part.2.1) (Course.play_keeps_frame course engine)

theorem gate (primitive : Gate R) (targets : List Int) :
    Watches (Watched.gate primitive targets) (Engine.gate primitive targets) := by
  have kept : Action.Keeps Engine.profile (Engine.gate primitive targets) := by
    intro engine
    rw [Course.gate_eq]
    exact keeps_profile_play _ engine
  rw [Watched.gate]
  by_cases fits : targets.length = primitive.numQubits
  · have checked : Engine.gate primitive targets = (do
        Engine.require (Engine.instructionKind primitive) primitive.name
        Engine.carryOut primitive targets) := by
      rw [Engine.gate, if_neg (not_not_intro fits)]
    rw [checked] at kept ⊢
    exact ask_require (.gate primitive targets) (not_not_intro fits) kept
  · -- The number of targets is looked at first: the profile is not asked.
    apply ask kept
    intro engine
    have refused : (Engine.gate primitive targets engine).1 =
        .error (.gateArity primitive.text primitive.numQubits targets.length) := by
      rw [Engine.gate, if_pos fits]
      rfl
    rw [refused]
    constructor
    case allowed =>
      intro noFault
      cases noFault
    case refused => exact fun formed => absurd fits formed
    case malformed => exact fun _ => ⟨_, rfl, rfl⟩

theorem measure (qubit : Int) :
    Watches (R := R) (Watched.measure qubit) (Engine.measure qubit) := by
  apply ask_require (.measure qubit) id
  intro engine
  change (Engine.measure qubit engine).2.profile = engine.profile
  rw [Course.measure_eq]
  exact keeps_profile_play _ engine

theorem reset (qubit : Int) :
    Watches (R := R) (Watched.reset qubit) (Engine.reset qubit) := by
  apply ask_require (.reset qubit) id
  intro engine
  change (Engine.reset qubit engine).2.profile = engine.profile
  rw [Course.reset_eq]
  exact keeps_profile_play _ engine

theorem undoEntry (entry : TapeEntry R) :
    Watches (Watched.undoEntry entry) (Engine.undoEntry entry) :=
  controlledBy _ ((ofExcept _).bind fun _ => gate _ _)

theorem undoEntries : ∀ entries : List (TapeEntry R),
    Watches (Watched.undoEntries entries) (Engine.undoEntries entries)
  | [] => done _
  | entry :: rest => (undoEntry entry).bind fun _ => undoEntries rest

/-- A watched scope builds what a scope builds, and runs it watched. -/
structure Scopes (watched : WatchedScope R) (scope : Scope R) : Prop where
  build : watched.build = scope.build
  run : ∀ operation qubits, Watches (watched.run operation qubits) (scope.run operation qubits)

variable {watchedScope : WatchedScope R} {scope : Scope R}

mutual

theorem runBody (scopes : Scopes watchedScope scope) :
    ∀ (operation : Operation R) (qubits : List Int),
      Watches (Watched.runBody watchedScope operation qubits)
        (Engine.runBody scope operation qubits)
  | .gate primitive _, qubits => gate primitive qubits
  | .circuit _ _ steps, qubits => runSteps scopes steps qubits
  | .phaseShifted inner angle, qubits =>
    (runBody scopes inner qubits).bind fun _ => gate (.globalPhase angle.value) []
  | .controlled inner count _, qubits =>
    controlledBy _ (runBody scopes inner (Engine.splitAt count qubits).2)
  | .derivedAdjoint inner, qubits =>
    (record (runBody scopes inner qubits)).bind fun entries => undoEntries entries.reverse
  | .routine _ _ _ body _, qubits =>
    (runProgram scopes body (.given qubits)).bind fun _ => done _
  | .linked core _, qubits => runBody scopes core qubits

theorem runSteps (scopes : Scopes watchedScope scope) :
    ∀ (steps : Steps R) (qubits : List Int),
      Watches (Watched.runSteps watchedScope steps qubits) (Engine.runSteps scope steps qubits)
  | .nil, _ => done _
  | .cons operation _ rest, qubits =>
    (ofExcept _).bind fun chosen => (ofExcept _).bind fun _ =>
      (runBody scopes operation chosen).bind fun _ => runSteps scopes rest qubits

theorem runInstruction (scopes : Scopes watchedScope scope) :
    ∀ (instruction : Instruction R) (frame : Frame),
      Watches (Watched.runInstruction watchedScope instruction frame)
        (Engine.runInstruction scope instruction frame)
  | .primitive primitive _, _ =>
    (ofExcept _).bind fun qubits => (gate primitive qubits).bind fun _ => done _
  | .unitary _ _ _, _ =>
    (ofExcept _).bind fun qubits => (ofExcept _).bind fun primitive =>
      (gate primitive qubits).bind fun _ => done _
  | .apply operation _, _ =>
    (ofExcept _).bind fun qubits => (ofExcept _).bind fun _ =>
      (runBody scopes operation qubits).bind fun _ => done _
  | .applyNamed _ described _ _, _ => by
    rw [Watched.runInstruction, Engine.runInstruction, scopes.build]
    exact (ofExcept _).bind fun _ => (ofExcept _).bind fun qubits =>
      (ofExcept _).bind fun chosen => (ofExcept _).bind fun _ =>
        (scopes.run chosen qubits).bind fun _ => done _
  | .refused _ fault, _ => (ofExcept _).bind fun _ => ofExcept (.error fault)
  | .measure _, _ =>
    (ofExcept _).bind fun qubit => (measure qubit).bind fun bit => done _
  | .reset _, _ =>
    (ofExcept _).bind fun qubit => (reset qubit).bind fun _ => done _
  | .controlledBy _ block, frame =>
    (ofExcept _).bind fun controls => controlledBy controls (runProgram scopes block frame)
  | .restrictedTo profile block, frame => restrictedTo profile (runProgram scopes block frame)
  | .record block, frame =>
    (record (runProgram scopes block frame)).bind fun entries => done _
  | .recordAndUndo block, frame =>
    (record (runProgram scopes block frame)).bind fun entries =>
      (undoEntries entries.reverse).bind fun _ => done _
  | .ifMeasured _ block, frame =>
    (ofExcept _).bind fun qubit => (measure qubit).bind fun
      | true => (runProgram scopes block frame).bind fun _ => done (Reading.bit true)
      | false => done (Reading.bit false)
  | .sleep seconds, _ => (quietly fun _ => rfl).bind fun _ => done _

theorem runProgram (scopes : Scopes watchedScope scope) :
    ∀ (program : Program R) (frame : Frame),
      Watches (Watched.runProgram watchedScope program frame)
        (Engine.runProgram scope program frame)
  | .nil, _ => done _
  | .cons instruction .nil, frame => runInstruction scopes instruction frame
  | .cons instruction (.cons next rest), frame =>
    (runInstruction scopes instruction frame).bind fun _ =>
      runProgram scopes (.cons next rest) frame

end

/-- By induction on the depth to which names are looked up. -/
theorem scopeWithin (definitions : Definitions R) (depth : Nat) :
    Scopes (Watched.scopeWithin definitions depth) (Engine.scopeWithin definitions depth) := by
  induction depth with
  | zero => exact ⟨rfl, fun _ _ => ofExcept (.error .endlessRecursion)⟩
  | succ depth ih => exact ⟨rfl, runBody ih⟩

theorem apply (operation : Operation R) (qubits : List Int) :
    Watches (Watched.apply operation qubits) (Engine.apply operation qubits) := by
  refine (ofExcept _).bind fun _ engine events => ?_
  exact runBody (scopeWithin engine.definitions Engine.depthLimit) operation qubits engine events

theorem execute (program : Program R) (frame : Frame) :
    Watches (Watched.execute program frame) (Engine.execute program frame) := by
  intro engine events
  exact runProgram (scopeWithin engine.definitions Engine.depthLimit) program frame engine events

end Watches

end QuantumKata
