import QuantumKata.Proofs.Layout
import QuantumKata.Workshop.Run

/-!
# The engine is handed back

A block under controls, a block under a profile and a recording each put something on the engine and
take it off again.  Blocks stand inside each other and inside the bodies of operations, any of them
may fail half-way, and the fault then leaves through all blocks that are open.  Whoever asked for
the work has to get the engine back with the controls, the profile and the tapes it had, or every
later gate would be controlled or swallowed by something nobody asked for.

While a tape is recording nothing reaches the memory.  Work that was asked for under a recording has
put entries at the end of the topmost tape, and has done nothing else that remains.

The three pairs of putting on and taking off have the same law: what the block in between hands back
is handed back to the outside.  An engine's own work is played as a course, where the law follows
step by step.  Running a part of a workshop is an induction over the instructions of its body and
over how deep parts run inside each other.
-/

namespace QuantumKata

variable {R : Type}

namespace Engine

/-- The engine after some work, as the one who asked for the work finds it. -/
structure HandsBack (before after : Engine R) : Prop where
  controls : after.controls = before.controls
  profile : after.profile = before.profile
  definitions : after.definitions = before.definitions
  idle : before.tapes = [] → after.tapes = []
  /-- The draws are those of the measurements to come. -/
  recording : ∀ tape below, before.tapes = tape :: below →
    after.memory = before.memory ∧ after.draws = before.draws ∧
      ∃ added, after.tapes = { tape with entries := tape.entries ++ added } :: below

namespace HandsBack

variable {before between after engine : Engine R}

/-- Work that touches neither the memory nor the stacks. -/
theorem of_same (controls : after.controls = before.controls)
    (profile : after.profile = before.profile) (definitions : after.definitions = before.definitions)
    (tapes : after.tapes = before.tapes) (memory : after.memory = before.memory)
    (draws : after.draws = before.draws) : HandsBack before after where
  controls := controls
  profile := profile
  definitions := definitions
  idle := fun none => tapes.trans none
  recording := by
    rintro tape below topmost
    refine ⟨memory, draws, [], ?_⟩
    rw [tapes, topmost, List.append_nil]

theorem refl (engine : Engine R) : HandsBack engine engine :=
  of_same rfl rfl rfl rfl rfl rfl

/-- Work on the memory, which no tape is recording. -/
theorem of_idle (controls : after.controls = before.controls)
    (profile : after.profile = before.profile) (definitions : after.definitions = before.definitions)
    (none : before.tapes = []) (tapes : after.tapes = []) : HandsBack before after where
  controls := controls
  profile := profile
  definitions := definitions
  idle := fun _ => tapes
  recording := fun _ _ topmost => nomatch none.symm.trans topmost

/-- One piece of work after another. -/
theorem trans (first : HandsBack before between) (second : HandsBack between after) :
    HandsBack before after where
  controls := second.controls.trans first.controls
  profile := second.profile.trans first.profile
  definitions := second.definitions.trans first.definitions
  idle := fun none => second.idle (first.idle none)
  recording := by
    rintro tape below topmost
    obtain ⟨memory, draws, added, grown⟩ := first.recording tape below topmost
    obtain ⟨memory', draws', more, grown'⟩ := second.recording _ below grown
    refine ⟨memory'.trans memory, draws'.trans draws, added ++ more, ?_⟩
    rw [grown', List.append_assoc]

/-- What is left of the controls added for a block is nothing. -/
theorem popControls {added : List Int} (inside : HandsBack (pushControls added before) after) :
    HandsBack before (popControls before after) where
  controls := by
    change after.controls.take _ = _
    rw [inside.controls]
    exact List.take_left
  profile := inside.profile
  definitions := inside.definitions
  idle := inside.idle
  recording := inside.recording

/-- The profile put in force for a block is replaced by the one before. -/
theorem leaveProfile {profile : TargetProfile}
    (inside : HandsBack (enterProfile profile before) after) :
    HandsBack before (leaveProfile before after) where
  controls := inside.controls
  profile := rfl
  definitions := inside.definitions
  idle := inside.idle
  recording := inside.recording

/-- With the tape of a recording everything goes that was recorded. -/
theorem popTape (inside : HandsBack (pushTape before) after) :
    HandsBack before (popTape before after) := by
  obtain ⟨memory, draws, added, grown⟩ := inside.recording _ _ rfl
  refine of_same inside.controls inside.profile inside.definitions ?_ memory draws
  change after.tapes.tail = _
  rw [grown]
  rfl

end HandsBack

end Engine

/-! ## Actions that hand the engine back -/

namespace Action

variable {σ α β : Type} {view : σ → Engine R}

/-- An action that hands back the engine it is given as a part of its state, whether it ends well or
with a fault. -/
def HandsBack (view : σ → Engine R) (action : Action σ α) : Prop :=
  ∀ state, (view state).HandsBack (view (action state).2)

theorem Keeps.handsBack {action : Action σ α} (kept : Keeps view action) : HandsBack view action := by
  intro state
  rw [kept state]
  exact .refl _

theorem HandsBack.bind {action : Action σ α} {next : α → Action σ β} (first : HandsBack view action)
    (second : ∀ value, HandsBack view (next value)) : HandsBack view (action >>= next) := by
  intro state
  have handed := first state
  rw [bind_apply]
  rcases result : action state with ⟨outcome, after⟩
  rw [result] at handed
  cases outcome with
  | ok value => exact handed.trans (second value after)
  | error fault => exact handed

theorem HandsBack.ite {condition : Prop} [Decidable condition] {action other : Action σ α}
    (first : HandsBack view action) (second : HandsBack view other) :
    HandsBack view (if condition then action else other) := by
  split
  · exact first
  · exact second

end Action

/-! ## Playing a course -/

namespace Engine

/-- An action that needs the memory is allowed where no tape is recording only. -/
theorem handsBack_of_reversible {α : Type} {what : String} {action : EngineAction R α}
    (kept : Action.Keeps frame action) (tapes : Action.Keeps Engine.tapes action) :
    Action.HandsBack id (requireReversible what >>= fun _ => action) := by
  intro engine
  by_cases idle : engine.tapes = []
  · have same := ((requireReversible_keeps frame what).bind fun _ => kept) engine
    simp only [frame, Prod.mk.injEq] at same
    have still := ((requireReversible_keeps Engine.tapes what).bind fun _ => tapes) engine
    exact .of_idle same.1 same.2.1 same.2.2 idle (still.trans idle)
  · have refused : ∃ fault, requireReversible what engine = (.error fault, engine) := by
      rw [requireReversible]
      split
      · exact ⟨_, rfl⟩
      · exact ⟨_, if_pos (by simpa using idle)⟩
    obtain ⟨fault, refused⟩ := refused
    rw [Action.bind_of_error refused]
    exact .refl engine

variable [Scalar R]

/-- A gate goes to the end of the topmost tape, or to the memory if there is none. -/
theorem handsBack_carryOut (gate : Gate R) (targets : List Int) :
    Action.HandsBack id (carryOut gate targets) := by
  intro engine
  have kept := carryOut_keeps_frame gate targets engine
  simp only [frame, Prod.mk.injEq] at kept
  cases tapes : engine.tapes with
  | nil =>
    refine .of_idle kept.1 kept.2.1 kept.2.2 tapes ?_
    simp only [carryOut, tapes, id_eq]
    split
    · rfl
    · exact tapes
  | cons tape below =>
    refine ⟨kept.1, kept.2.1, kept.2.2, fun none => ?_, fun topmost rest same => ?_⟩
    · cases none.symm.trans tapes
    · cases same.symm.trans tapes
      simp only [carryOut, tapes, id_eq]
      exact ⟨trivial, trivial, _, rfl⟩

theorem handsBack_carryOutEntry (entry : TapeEntry R) :
    Action.HandsBack id (carryOutEntry entry) :=
  fun engine => (handsBack_carryOut entry.gate entry.targets
    (pushControls entry.controls engine)).popControls

theorem handsBack_observe (qubit : Int) : Action.HandsBack id (observe (R := R) qubit) := by
  refine handsBack_of_reversible (measureMemory_keeps_frame qubit) fun engine => ?_
  rw [measureMemory]
  split <;> rfl

theorem handsBack_restore (qubit : Int) : Action.HandsBack id (restore (R := R) qubit) := by
  refine handsBack_of_reversible (resetMemory_keeps_frame qubit) fun engine => ?_
  rw [resetMemory]
  split <;> rfl

/-- Playing a course hands the engine back. -/
theorem handsBack_play {α : Type} (course : Course R α) : Action.HandsBack id course.play := by
  induction course with
  | done outcome => exact (Action.keeps_ofExcept outcome).handsBack
  | issue entry rest ih => exact (handsBack_carryOutEntry entry).bind fun _ => ih
  | pause seconds rest ih =>
    have slept : Action.HandsBack id (sleep seconds) :=
      fun engine => .of_same rfl rfl rfl rfl rfl rfl
    exact slept.bind fun _ => ih
  | measure qubit rest ih => exact (handsBack_observe qubit).bind ih
  | reset qubit rest ih => exact (handsBack_restore qubit).bind fun _ => ih
  | refuse what => exact (refuse_keeps id what).handsBack

theorem handsBack_gate (gate : Gate R) (targets : List Int) :
    Action.HandsBack id (Engine.gate gate targets) := by
  intro engine
  rw [Course.gate_eq]
  exact handsBack_play _ engine

theorem handsBack_measure (qubit : Int) : Action.HandsBack id (measure (R := R) qubit) := by
  intro engine
  rw [Course.measure_eq]
  exact handsBack_play _ engine

theorem handsBack_undoTape (entries : List (TapeEntry R)) :
    Action.HandsBack id (undoTape entries) := by
  intro engine
  rw [Course.undoTape_eq]
  exact handsBack_play _ engine

theorem handsBack_execute (program : Program R) (frame : Frame) :
    Action.HandsBack id (execute program frame) := by
  intro engine
  rw [execute_eq]
  exact handsBack_play _ engine

theorem handsBack_apply (operation : Operation R) (qubits : List Int) :
    Action.HandsBack id (apply operation qubits) := by
  intro engine
  rw [apply_eq]
  exact handsBack_play _ engine

end Engine

/-! ## Running a part of a workshop -/

namespace Workshop

variable {α : Type}

/-- The engine that a workshop runs its parts on. -/
abbrev engineOf (state : Workshop R × Engine R) : Engine R := state.2

theorem handsBack_onFirst (action : WorkshopAction R α) :
    Action.HandsBack engineOf (Action.onFirst (τ := Engine R) action) :=
  fun _ => .refl _

theorem handsBack_onSecond {action : EngineAction R α} (handed : Action.HandsBack id action) :
    Action.HandsBack engineOf (Action.onSecond (σ := Workshop R) action) :=
  fun state => handed state.2

theorem handsBack_ofExcept (outcome : Except Fault α) :
    Action.HandsBack engineOf (Action.ofExcept outcome : RunAction R α) :=
  (Action.keeps_ofExcept outcome).handsBack

theorem handsBack_pure (value : α) :
    Action.HandsBack engineOf (pure value : RunAction R α) :=
  handsBack_ofExcept (.ok value)

theorem handsBack_underControls {block : RunAction R α} (added : List Int)
    (handed : Action.HandsBack engineOf block) :
    Action.HandsBack engineOf
      (during (Engine.pushControls added) Engine.popControls block) :=
  fun state => (handed (state.1, Engine.pushControls added state.2)).popControls

theorem handsBack_underProfile {block : RunAction R α} (profile : TargetProfile)
    (handed : Action.HandsBack engineOf block) :
    Action.HandsBack engineOf
      (during (Engine.enterProfile profile) Engine.leaveProfile block) :=
  fun state => (handed (state.1, Engine.enterProfile profile state.2)).leaveProfile

theorem handsBack_record {block : RunAction R α} (handed : Action.HandsBack engineOf block) :
    Action.HandsBack engineOf (record block) := by
  have inside : Action.HandsBack engineOf
      (block >>= fun _ => Action.inspect fun (state : Workshop R × Engine R) =>
        state.2.topmostEntries) :=
    handed.bind fun _ => (Action.keeps_inspect _).handsBack
  exact fun state => (inside (state.1, Engine.pushTape state.2)).popTape

theorem handsBack_checkArity (id : PartId) (qubits : List Int) :
    Action.HandsBack (R := R) engineOf (checkArity id qubits) := by
  refine (handsBack_onFirst _).bind fun found => Action.HandsBack.ite ?_ ?_
  · exact handsBack_ofExcept (.error _)
  · exact handsBack_pure _

/-- A way of calling parts that hands the engine back. -/
def CallsHandBack (call : PartId → List Int → RunAction R Unit) : Prop :=
  ∀ id qubits, Action.HandsBack engineOf (call id qubits)

theorem handsBack_runSteps {call : PartId → List Int → RunAction R Unit}
    (handed : CallsHandBack call) (qubits : List Int) (steps : List (PartId × List Int)) :
    Action.HandsBack engineOf (runSteps call qubits steps) := by
  induction steps with
  | nil => exact handsBack_pure _
  | cons first rest ih =>
    exact (handsBack_ofExcept _).bind fun chosen => (handsBack_checkArity first.1 chosen).bind
      fun _ => (handed first.1 chosen).bind fun _ => ih

variable [Scalar R]

mutual

/-- An instruction hands the engine back if the parts that it calls do. -/
theorem handsBack_runInstruction {call : PartId → List Int → RunAction R Unit}
    (handed : CallsHandBack call) : ∀ (plan : InstructionPlan R) (frame : Frame),
    Action.HandsBack engineOf (runInstruction call plan frame)
  | .apply wanted described controls references, frame => by
    rw [runInstruction]
    exact (handsBack_onFirst _).bind fun made => (handsBack_ofExcept _).bind fun qubits =>
      (handsBack_onFirst _).bind fun chosen => (handsBack_checkArity chosen qubits).bind fun _ =>
        (handed chosen qubits).bind fun _ => handsBack_pure _
  | .controlledBy references block, frame => by
    rw [runInstruction]
    exact (handsBack_ofExcept _).bind fun controls =>
      handsBack_underControls controls (handsBack_runBody handed block frame)
  | .restrictedTo profile block, frame => by
    rw [runInstruction]
    exact handsBack_underProfile profile (handsBack_runBody handed block frame)
  | .record block, frame => by
    rw [runInstruction]
    exact (handsBack_record (handsBack_runBody handed block frame)).bind fun entries =>
      handsBack_pure _
  | .recordAndUndo block, frame => by
    rw [runInstruction]
    exact (handsBack_record (handsBack_runBody handed block frame)).bind fun entries =>
      (handsBack_onSecond (Engine.handsBack_undoTape entries)).bind fun _ =>
        handsBack_pure _
  | .ifMeasured reference block, frame => by
    rw [runInstruction]
    refine (handsBack_ofExcept _).bind fun qubit =>
      (handsBack_onSecond (Engine.handsBack_measure qubit)).bind fun bit => .ite ?_ ?_
    · exact (handsBack_runBody handed block frame).bind fun _ => handsBack_pure _
    · exact handsBack_pure _
  | .primitive _ _, _ | .namedGate _ _ _, _ | .unitary _ _ _, _ | .measure _, _ | .reset _, _
  | .sleep _, _ | .raise _, _ => by
    simp only [runInstruction]
    exact handsBack_onSecond (Engine.handsBack_execute _ _)

theorem handsBack_runBody {call : PartId → List Int → RunAction R Unit}
    (handed : CallsHandBack call) : ∀ (body : InstructionPlans R) (frame : Frame),
    Action.HandsBack engineOf (runBody call body frame)
  | .nil, _ => handsBack_pure _
  | .cons instruction .nil, frame => handsBack_runInstruction handed instruction frame
  | .cons instruction (.cons next rest), frame => by
    rw [runBody]
    exact (handsBack_runInstruction handed instruction frame).bind fun _ =>
      handsBack_runBody handed (.cons next rest) frame

end

/-- Running a part hands the engine back, however deep parts run inside each other. -/
theorem handsBack_runWithin (depth : Nat) : CallsHandBack (R := R) (runWithin depth) := by
  induction depth with
  | zero =>
    intro id qubits
    exact handsBack_ofExcept (.error .endlessRecursion)
  | succ depth ih =>
    intro id qubits
    rw [runWithin]
    refine (handsBack_onFirst _).bind fun found => ?_
    cases found.shape with
    | gate primitive => exact handsBack_onSecond (Engine.handsBack_gate primitive qubits)
    | circuit steps => exact handsBack_runSteps ih qubits steps
    | phaseShifted inner angle =>
      exact (ih inner qubits).bind fun _ => handsBack_onSecond (Engine.handsBack_gate _ _)
    | controlled inner count => exact handsBack_underControls _ (ih inner _)
    | derivedAdjoint inner =>
      exact (handsBack_record (ih inner qubits)).bind fun entries =>
        handsBack_onSecond (Engine.handsBack_undoTape entries)
    | routine body inverse =>
      exact (handsBack_runBody ih body (.given qubits)).bind fun _ => handsBack_pure _

theorem handsBack_apply (id : PartId) (qubits : List Int) :
    Action.HandsBack (R := R) engineOf (apply id qubits) :=
  (handsBack_checkArity id qubits).bind fun _ => handsBack_runWithin depthLimit id qubits

end Workshop

/-- Whatever an engine is asked to do, whether it carries out a program, applies an operation, plays
a tape backwards or runs a part of a workshop, and whether that ends well or with a fault, it is
handed back with the controls, the profile and the tapes it had.  If a tape was recording, the
memory is the same and entries have been put at the end of the topmost tape only. -/
theorem Engine.handsBack_of_work [Scalar R] (before : Engine R) :
    (∀ program frame, before.HandsBack (execute program frame before).2) ∧
      (∀ operation qubits, before.HandsBack (apply operation qubits before).2) ∧
      (∀ entries, before.HandsBack (undoTape entries before).2) ∧
      ∀ workshop id qubits,
        before.HandsBack (Workshop.apply id qubits (workshop, before)).2.2 := by
  refine ⟨?programs, ?operations, ?tapes, ?parts⟩
  case programs => exact fun program frame => handsBack_execute program frame before
  case operations => exact fun operation qubits => handsBack_apply operation qubits before
  case tapes => exact fun entries => handsBack_undoTape entries before
  case parts =>
    exact fun workshop id qubits => Workshop.handsBack_apply id qubits (workshop, before)

end QuantumKata
