import QuantumKata.Engine

/-!
# Courses

The *course* of a body is what the body asks of the engine, step by step.  It does not mention the
controls that are in force, the tapes that are recording or the amplitudes: a gate is issued
together with the controls that the body itself has added, and what comes after a measurement is
given for either bit.  Playing a course on an engine does what running the body does.

Blocks act on courses.  A block under controls adds the controls to every gate and cannot measure,
a recording collects the gates of its block and leaves the rest, and a profile is asked for leave
while the course is laid out.  The laws of this module say that playing a course changed in this way
is running the block, so that a statement about all bodies becomes an induction over courses.
-/

namespace QuantumKata

/-! ## Actions that keep a part of the state -/

namespace Action

variable {σ τ α β : Type}

private theorem id_map_action (action : Action σ α) : id <$> action = action := by
  funext state
  change (action >>= fun value => pure value) state = action state
  rw [bind_apply]
  rcases action state with ⟨outcome, after⟩
  cases outcome <;> rfl

private theorem bind_assoc_action {γ : Type}
    (action : Action σ α) (next : α → Action σ β) (last : β → Action σ γ) :
    action >>= next >>= last = action >>= fun value => next value >>= last := by
  funext state
  simp only [bind_apply]
  rcases action state with ⟨outcome, after⟩
  cases outcome <;> rfl

instance : LawfulMonad (Action σ) :=
  LawfulMonad.mk' (Action σ) id_map_action (fun _ _ => rfl) bind_assoc_action

/-- A part of the state that an action leaves as it is, whether it ends well or not. -/
def Keeps (view : σ → τ) (action : Action σ α) : Prop :=
  ∀ state, view (action state).2 = view state

variable {view : σ → τ} {action : Action σ α} {next : α → Action σ β}

theorem keeps_ofExcept (outcome : Except Fault α) :
    Keeps view (ofExcept outcome : Action σ α) :=
  fun _ => rfl

theorem keeps_inspect (read : σ → α) : Keeps view (inspect read) :=
  fun _ => rfl

theorem Keeps.bind
    (first : Keeps view action)
    (second : ∀ value, Keeps view (next value)) :
    Keeps view (action >>= next) := by
  intro state
  have kept := first state
  rw [bind_apply]
  rcases result : action state with ⟨outcome, after⟩
  rw [result] at kept
  cases outcome with
  | ok value => exact (second value after).trans kept
  | error fault => exact kept

end Action

/-! ## Courses -/

/-- What a body asks of the engine, up to a result or a fault. -/
inductive Course (R α : Type) where
  | done (outcome : Except Fault α)
  /-- A gate under the controls that were added since the body began. -/
  | issue (entry : TapeEntry R) (next : Course R α)
  | pause (seconds : R) (next : Course R α)
  | measure (qubit : Int) (next : Bool → Course R α)
  | reset (qubit : Int) (next : Course R α)
  /-- A measurement or a reset inside a recording. -/
  | refuse (what : String)

/-- The words for what cannot be undone. -/
def Course.measurementWord : String := "measurement"

/-- The word for bringing a qubit back to zero. -/
def Course.resetWord : String := "reset"

namespace TapeEntry

variable {R : Type}

/-- Add controls in front of those of an entry. -/
def under (added : List Int) (entry : TapeEntry R) : TapeEntry R :=
  { entry with controls := added ++ entry.controls }

@[simp]
theorem under_nil (entry : TapeEntry R) : entry.under [] = entry := rfl

end TapeEntry

namespace Course

variable {R α β γ : Type}

/-- Go on with the result of a course. -/
protected def bind : Course R α → (α → Course R β) → Course R β
  | done (.ok value), next => next value
  | done (.error fault), _ => done (.error fault)
  | issue entry rest, next => issue entry (rest.bind next)
  | pause seconds rest, next => pause seconds (rest.bind next)
  | measure qubit rest, next => measure qubit fun bit => (rest bit).bind next
  | reset qubit rest, next => reset qubit (rest.bind next)
  | refuse what, _ => refuse what

instance : Monad (Course R) where
  pure value := done (.ok value)
  bind := Course.bind

@[simp]
theorem pure_eq (value : α) : (pure value : Course R α) = done (.ok value) := rfl

@[simp]
theorem done_ok_bind (value : α) (next : α → Course R β) :
    (done (.ok value) >>= next) = next value := rfl

@[simp]
theorem done_error_bind (fault : Fault) (next : α → Course R β) :
    (done (.error fault) >>= next) = done (.error fault) := rfl

@[simp]
theorem issue_bind (entry : TapeEntry R) (rest : Course R α) (next : α → Course R β) :
    (issue entry rest >>= next) = issue entry (rest >>= next) := rfl

@[simp]
theorem pause_bind (seconds : R) (rest : Course R α) (next : α → Course R β) :
    (pause seconds rest >>= next) = pause seconds (rest >>= next) := rfl

@[simp]
theorem measure_bind (qubit : Int) (rest : Bool → Course R α) (next : α → Course R β) :
    (measure qubit rest >>= next) = measure qubit fun bit => rest bit >>= next := rfl

@[simp]
theorem reset_bind (qubit : Int) (rest : Course R α) (next : α → Course R β) :
    (reset qubit rest >>= next) = reset qubit (rest >>= next) := rfl

@[simp]
theorem refuse_bind (what : String) (next : α → Course R β) :
    (refuse what >>= next) = refuse what := rfl

/-- Going on twice is going on with both. -/
theorem bind_bind (course : Course R α) (next : α → Course R β) (last : β → Course R γ) :
    (course >>= next >>= last) = course >>= fun value => next value >>= last := by
  induction course with
  | done outcome => cases outcome <;> rfl
  | issue entry rest ih => exact congrArg (issue entry) ih
  | pause seconds rest ih => exact congrArg (pause seconds) ih
  | measure qubit rest ih => exact congrArg (measure qubit) (funext ih)
  | reset qubit rest ih => exact congrArg (reset qubit) ih
  | refuse what => rfl

theorem bind_done (course : Course R Unit) : (course >>= fun _ => done (.ok ())) = course := by
  induction course with
  | done outcome => cases outcome <;> rfl
  | issue entry rest ih => exact congrArg (issue entry) ih
  | pause seconds rest ih => exact congrArg (pause seconds) ih
  | measure qubit rest ih => exact congrArg (measure qubit) (funext ih)
  | reset qubit rest ih => exact congrArg (reset qubit) ih
  | refuse what => rfl

/-- The course inside a block under added controls.  Without a control nothing changes; with one
whatever cannot be undone is refused. -/
def under (added : List Int) : Course R α → Course R α
  | done outcome => done outcome
  | issue entry rest => issue (entry.under added) (rest.under added)
  | pause seconds rest => pause seconds (rest.under added)
  | measure qubit rest =>
    if added.isEmpty then measure qubit fun bit => (rest bit).under added
    else done (.error (.irreversibleUnderControl measurementWord))
  | reset qubit rest =>
    if added.isEmpty then reset qubit (rest.under added)
    else done (.error (.irreversibleUnderControl resetWord))
  | refuse what =>
    if added.isEmpty then refuse what else done (.error (.irreversibleUnderControl what))

/-- The course of a recording that has collected some entries already: the gates are collected, and
time still passes. -/
def recordedAfter (collected : List (TapeEntry R)) :
    Course R α → Course R (List (TapeEntry R))
  | done (.ok _) => done (.ok collected)
  | done (.error fault) => done (.error fault)
  | issue entry rest => rest.recordedAfter (collected ++ [entry])
  | pause seconds rest => pause seconds (rest.recordedAfter collected)
  | measure _ _ => refuse measurementWord
  | reset _ _ => refuse resetWord
  | refuse what => refuse what

/-- The course of a recording. -/
def recorded (course : Course R α) : Course R (List (TapeEntry R)) := course.recordedAfter []

/-- The course of a gate: it may have the wrong number of targets, or the profile may not have
it. -/
def ofGate [Scalar R] (profile : TargetProfile) (gate : Gate R) (targets : List Int) :
    Course R Unit :=
  if targets.length ≠ gate.numQubits then
    done (.error (.gateArity gate.text gate.numQubits targets.length))
  else if profile.allows (Engine.instructionKind gate) then
    issue ⟨gate, targets, []⟩ (done (.ok ()))
  else done (.error (.notInProfile gate.name profile.setting))

/-- The course of a measurement. -/
def ofMeasure (profile : TargetProfile) (qubit : Int) : Course R Bool :=
  if profile.allows .measure then measure qubit fun bit => done (.ok bit)
  else done (.error (.notInProfile "M" profile.setting))

/-- The course of a reset. -/
def ofReset (profile : TargetProfile) (qubit : Int) : Course R Unit :=
  if profile.allows .reset then reset qubit (done (.ok ()))
  else done (.error (.notInProfile "Reset" profile.setting))

end Course

/-! ## Playing a course -/

namespace Engine

variable {R : Type}

/-- Refuse what cannot be undone, while a tape is recording. -/
def refuse {α : Type} (what : String) : EngineAction R α := fun engine =>
  if engine.controls.isEmpty then (.error (.irreversibleInAdjoint what), engine)
  else (.error (.irreversibleUnderControl what), engine)

variable [Scalar R]

/-- Measure a qubit of the memory. -/
def measureMemory (qubit : Int) : EngineAction R Bool := fun engine =>
  match engine.memory.measure [.number qubit] engine.draws with
  | .ok (bits, memory, draws) =>
    (.ok (bits.headD false), { engine with memory := memory, draws := draws })
  | .error fault => (.error fault, engine)

/-- Bring a qubit of the memory back to zero. -/
def resetMemory (qubit : Int) : EngineAction R Unit := fun engine =>
  match engine.memory.reset (.number qubit) engine.draws with
  | .ok (memory, draws) => (.ok (), { engine with memory := memory, draws := draws })
  | .error fault => (.error fault, engine)

/-- Measure a qubit that the profile lets measure. -/
def observe (qubit : Int) : EngineAction R Bool := do
  requireReversible Course.measurementWord
  measureMemory qubit

/-- Bring a qubit back to zero that the profile lets reset. -/
def restore (qubit : Int) : EngineAction R Unit := do
  requireReversible Course.resetWord
  resetMemory qubit

/-- Carry out a gate under the controls that it brings along. -/
def carryOutEntry (entry : TapeEntry R) : EngineAction R Unit :=
  controlledBy entry.controls (carryOut entry.gate entry.targets)

end Engine

namespace Course

variable {R α β : Type} [Scalar R]

open Engine

/-- Do what a course asks for. -/
def play : Course R α → EngineAction R α
  | done outcome => Action.ofExcept outcome
  | issue entry rest => do
    carryOutEntry entry
    rest.play
  | pause seconds rest => do
    sleep seconds
    rest.play
  | measure qubit rest => do
    let bit ← observe qubit
    (rest bit).play
  | reset qubit rest => do
    restore qubit
    rest.play
  | refuse what => Engine.refuse what

/-- Play the course that is laid out for the profile in force. -/
def enact (course : TargetProfile → Course R α) : EngineAction R α := fun engine =>
  (course engine.profile).play engine

theorem play_bind (course : Course R α) (next : α → Course R β) :
    (course >>= next).play = course.play >>= fun value => (next value).play := by
  induction course with
  | done outcome =>
    cases outcome with
    | ok value => rfl
    | error fault => rfl
  | issue entry rest ih => simp only [issue_bind, play, ih, bind_assoc]
  | pause seconds rest ih => simp only [pause_bind, play, ih, bind_assoc]
  | measure qubit rest ih => simp only [measure_bind, play, ih, bind_assoc]
  | reset qubit rest ih => simp only [reset_bind, play, ih, bind_assoc]
  | refuse what =>
    funext engine
    simp only [refuse_bind, play, Engine.refuse, Action.bind_apply]
    split <;> rfl

end Course

/-! ## What playing keeps -/

namespace Engine

variable {R : Type}

/-- The part of an engine that a completed block leaves as it found it. -/
def frame (engine : Engine R) : List Int × TargetProfile × Definitions R :=
  (engine.controls, engine.profile, engine.definitions)

@[simp]
theorem popControls_pushControls (added : List Int) (engine : Engine R) :
    popControls engine (pushControls added engine) = engine := by
  simp [popControls, pushControls]

theorem controlledBy_keeps_frame {α : Type} {block : EngineAction R α} (added : List Int)
    (kept : Action.Keeps frame block) :
    Action.Keeps frame (controlledBy added block) := by
  intro engine
  have inside := kept (pushControls added engine)
  simp only [frame, pushControls, Prod.mk.injEq] at inside
  simp only [controlledBy, Action.during, frame, popControls, pushControls, inside.1, inside.2.1,
    inside.2.2, List.take_left']

theorem requireReversible_keeps {τ : Type} (view : Engine R → τ) (what : String) :
    Action.Keeps view (requireReversible what) := by
  intro engine
  rw [requireReversible]
  split
  · rfl
  · split <;> rfl

theorem refuse_keeps {τ α : Type} (view : Engine R → τ) (what : String) :
    Action.Keeps view (refuse what : EngineAction R α) := by
  intro engine
  rw [refuse]
  split <;> rfl

variable [Scalar R]

theorem carryOut_keeps_frame (gate : Gate R) (targets : List Int) :
    Action.Keeps frame (carryOut gate targets) := by
  intro engine
  unfold carryOut
  split
  · rfl
  · dsimp only
    split <;> rfl

theorem carryOutEntry_keeps_frame (entry : TapeEntry R) :
    Action.Keeps frame (carryOutEntry entry) :=
  controlledBy_keeps_frame _ (carryOut_keeps_frame _ _)

theorem sleep_keeps_frame (seconds : R) : Action.Keeps frame (sleep seconds) :=
  fun _ => rfl

theorem measureMemory_keeps_frame (qubit : Int) :
    Action.Keeps (frame (R := R)) (measureMemory qubit) := by
  intro engine
  rw [measureMemory]
  split <;> rfl

theorem resetMemory_keeps_frame (qubit : Int) :
    Action.Keeps (frame (R := R)) (resetMemory qubit) := by
  intro engine
  rw [resetMemory]
  split <;> rfl

theorem observe_keeps_frame (qubit : Int) : Action.Keeps (frame (R := R)) (observe qubit) :=
  (requireReversible_keeps frame _).bind fun _ => measureMemory_keeps_frame qubit

theorem restore_keeps_frame (qubit : Int) : Action.Keeps (frame (R := R)) (restore qubit) :=
  (requireReversible_keeps frame _).bind fun _ => resetMemory_keeps_frame qubit

end Engine

namespace Course

variable {R α β : Type} [Scalar R]

open Engine

/-- A course leaves the controls, the profile and the definitions as they were. -/
theorem play_keeps_frame (course : Course R α) : Action.Keeps frame course.play := by
  induction course with
  | done outcome => exact Action.keeps_ofExcept outcome
  | issue entry rest ih => exact (carryOutEntry_keeps_frame entry).bind fun _ => ih
  | pause seconds rest ih => exact (sleep_keeps_frame seconds).bind fun _ => ih
  | measure qubit rest ih => exact (observe_keeps_frame qubit).bind ih
  | reset qubit rest ih => exact (restore_keeps_frame qubit).bind fun _ => ih
  | refuse what => exact refuse_keeps frame what

end Course

/-! ## Blocks under controls -/

namespace Engine

variable {R α β : Type}

/-- A block under controls may be split where the first part leaves the controls as they were. -/
theorem controlledBy_bind {block : EngineAction R α} {next : α → EngineAction R β}
    (added : List Int) (kept : Action.Keeps frame block) :
    controlledBy added (block >>= next) =
      controlledBy added block >>= fun value => controlledBy added (next value) := by
  funext engine
  simp only [controlledBy, Action.during, Action.bind_apply]
  rcases result : block (pushControls added engine) with ⟨outcome, after⟩
  cases outcome with
  | error fault => rfl
  | ok value =>
    have inside : after.controls = engine.controls ++ added := by
      have same := congrArg Prod.fst (kept (pushControls added engine))
      rwa [result] at same
    have again : pushControls added (popControls engine after) = after := by
      simp only [pushControls, popControls, inside, List.take_left']
      rw [← inside]
    have shorter : popControls (popControls engine after) = popControls engine := by
      funext last
      simp only [popControls, inside, List.take_left']
    dsimp only
    rw [again, shorter]

/-- Without added controls a block runs as it does by itself. -/
theorem controlledBy_nil {block : EngineAction R α} (kept : Action.Keeps frame block) :
    controlledBy [] block = block := by
  funext engine
  have inside := kept engine
  simp only [frame, Prod.mk.injEq] at inside
  have same : pushControls [] engine = engine := by
    simp [pushControls]
  simp only [controlledBy, Action.during, same]
  rcases result : block engine with ⟨outcome, after⟩
  rw [result] at inside
  simp [popControls, ← inside.1]

/-- Controls inside controls are controls one after the other. -/
theorem controlledBy_controlledBy (added more : List Int) (block : EngineAction R α) :
    controlledBy added (controlledBy more block) = controlledBy (added ++ more) block := by
  funext engine
  simp only [controlledBy, Action.during, pushControls, popControls, List.append_assoc,
    List.length_append, List.take_take, Nat.min_eq_left (Nat.le_add_right _ _)]

theorem controlledBy_ofExcept (added : List Int) (outcome : Except Fault α) :
    controlledBy added (Action.ofExcept outcome : EngineAction R α) = Action.ofExcept outcome := by
  funext engine
  simp [controlledBy, Action.during, Action.ofExcept]

/-- What is refused inside a recording is refused under controls as well. -/
theorem controlledBy_refuse {added : List Int} (some : added ≠ []) (what : String) :
    controlledBy added (refuse what : EngineAction R α) =
      Action.ofExcept (.error (.irreversibleUnderControl what)) := by
  funext engine
  have notEmpty : (engine.controls ++ added).isEmpty = false := by
    simp [some]
  simp [controlledBy, Action.during, refuse, Action.ofExcept, pushControls, notEmpty, popControls]

/-- What cannot be undone is refused under controls. -/
theorem controlledBy_requireReversible {added : List Int} (some : added ≠ []) (what : String)
    (next : Unit → EngineAction R α) :
    controlledBy added (requireReversible what >>= next) =
      Action.ofExcept (.error (.irreversibleUnderControl what)) := by
  funext engine
  have notEmpty : (engine.controls ++ added).isEmpty = false := by
    simp [some]
  simp [controlledBy, Action.during, requireReversible, Action.bind_apply, Action.ofExcept,
    pushControls, notEmpty, popControls]

end Engine

namespace Course

variable {R α β : Type} [Scalar R]

open Engine

theorem carryOutEntry_under (added : List Int) (entry : TapeEntry R) :
    carryOutEntry (entry.under added) = controlledBy added (carryOutEntry entry) := by
  rw [carryOutEntry, carryOutEntry, controlledBy_controlledBy]
  rfl

/-- Playing the course of a block under controls is running the block under them. -/
theorem play_under (added : List Int) (course : Course R α) :
    (course.under added).play = controlledBy added course.play := by
  by_cases none : added = []
  · subst none
    rw [controlledBy_nil (play_keeps_frame course)]
    induction course with
    | done outcome => rfl
    | issue entry rest ih => simp only [under, play, ih, TapeEntry.under_nil]
    | pause seconds rest ih => simp only [under, play, ih]
    | measure qubit rest ih => simp only [under, List.isEmpty_nil, if_true, play, ih]
    | reset qubit rest ih => simp only [under, List.isEmpty_nil, if_true, play, ih]
    | refuse what => rfl
  · have notEmpty : added.isEmpty = false := by
      simpa using none
    induction course with
    | done outcome => exact (controlledBy_ofExcept added outcome).symm
    | issue entry rest ih =>
      simp only [under, play, ih, carryOutEntry_under,
        controlledBy_bind added (carryOutEntry_keeps_frame entry)]
    | pause seconds rest ih =>
      have still : controlledBy added (sleep seconds) = sleep seconds := by
        funext engine
        simp [controlledBy, Action.during, sleep, pushControls, popControls]
      simp only [under, play, ih, controlledBy_bind added (sleep_keeps_frame seconds), still]
    | measure qubit rest ih =>
      simp only [under, notEmpty, play, observe, bind_assoc,
        controlledBy_requireReversible none]
      rfl
    | reset qubit rest ih =>
      simp only [under, notEmpty, play, restore, bind_assoc,
        controlledBy_requireReversible none]
      rfl
    | refuse what =>
      simp only [under, notEmpty, play, controlledBy_refuse none]
      rfl

end Course

/-! ## Blocks under a profile -/

namespace Engine

variable {R α β : Type}

/-- An action that does not ask for the profile: another profile makes no difference to it. -/
def IgnoresProfile (action : EngineAction R α) : Prop :=
  ∀ profile engine,
    action (enterProfile profile engine) =
      ((action engine).1, enterProfile profile (action engine).2)

theorem ignoresProfile_ofExcept (outcome : Except Fault α) :
    IgnoresProfile (Action.ofExcept outcome : EngineAction R α) :=
  fun _ _ => rfl

theorem IgnoresProfile.bind {action : EngineAction R α} {next : α → EngineAction R β}
    (first : IgnoresProfile action) (second : ∀ value, IgnoresProfile (next value)) :
    IgnoresProfile (action >>= next) := by
  intro profile engine
  rw [Action.bind_apply, Action.bind_apply, first profile engine]
  rcases action engine with ⟨outcome, after⟩
  cases outcome with
  | ok value => exact second value profile after
  | error fault => rfl

theorem IgnoresProfile.controlledBy {block : EngineAction R α} (added : List Int)
    (inside : IgnoresProfile block) :
    IgnoresProfile (controlledBy added block) := by
  intro profile engine
  have entered := inside profile (pushControls added engine)
  simp only [Engine.controlledBy, Action.during]
  rw [show pushControls added (enterProfile profile engine) =
    enterProfile profile (pushControls added engine) from rfl, entered]
  rfl

theorem ignoresProfile_requireReversible (what : String) :
    IgnoresProfile (requireReversible what : EngineAction R Unit) := by
  intro profile ⟨memory, _, controls, tapes, draws, elapsed, definitions⟩
  cases controls with
  | cons control rest => rfl
  | nil => cases tapes <;> rfl

theorem ignoresProfile_refuse (what : String) :
    IgnoresProfile (refuse what : EngineAction R α) := by
  intro profile ⟨memory, _, controls, tapes, draws, elapsed, definitions⟩
  cases controls <;> rfl

/-- A profile for the duration of a block that does not ask for it makes no difference. -/
theorem restrictedTo_of_ignoresProfile {block : EngineAction R α} (profile : TargetProfile)
    (ignores : IgnoresProfile block) (kept : Action.Keeps frame block) :
    restrictedTo profile block = block := by
  funext engine
  have same := congrArg (fun part => part.2.1) (kept engine)
  simp only [frame] at same
  simp only [restrictedTo, Action.during, ignores profile engine]
  rcases result : block engine with ⟨outcome, after⟩
  rw [result] at same
  simp only [leaveProfile, enterProfile, ← same]

variable [Scalar R]

theorem ignoresProfile_carryOut (gate : Gate R) (targets : List Int) :
    IgnoresProfile (carryOut gate targets) := by
  intro profile ⟨memory, _, controls, tapes, draws, elapsed, definitions⟩
  cases tapes with
  | cons tape below => rfl
  | nil =>
    simp only [carryOut, enterProfile]
    split <;> simp only [*]

theorem ignoresProfile_carryOutEntry (entry : TapeEntry R) :
    IgnoresProfile (carryOutEntry entry) :=
  (ignoresProfile_carryOut _ _).controlledBy _

theorem ignoresProfile_observe (qubit : Int) :
    IgnoresProfile (R := R) (observe qubit) := by
  refine (ignoresProfile_requireReversible _).bind fun _ profile engine => ?_
  simp only [measureMemory, enterProfile]
  split <;> simp only [*]

theorem ignoresProfile_restore (qubit : Int) :
    IgnoresProfile (R := R) (restore qubit) := by
  refine (ignoresProfile_requireReversible _).bind fun _ profile engine => ?_
  simp only [resetMemory, enterProfile]
  split <;> simp only [*]

end Engine

namespace Course

variable {R α β : Type} [Scalar R]

open Engine

theorem play_ignoresProfile (course : Course R α) : IgnoresProfile course.play := by
  induction course with
  | done outcome => exact ignoresProfile_ofExcept outcome
  | issue entry rest ih => exact (ignoresProfile_carryOutEntry entry).bind fun _ => ih
  | pause seconds rest ih =>
    have still : IgnoresProfile (sleep seconds) := fun _ _ => rfl
    exact still.bind fun _ => ih
  | measure qubit rest ih => exact (ignoresProfile_observe qubit).bind ih
  | reset qubit rest ih => exact (ignoresProfile_restore qubit).bind fun _ => ih
  | refuse what => exact ignoresProfile_refuse what

/-- A course is laid out for a profile already, so playing it does not ask for the profile. -/
theorem play_restrictedTo (profile : TargetProfile) (course : Course R α) :
    restrictedTo profile course.play = course.play :=
  restrictedTo_of_ignoresProfile profile (play_ignoresProfile course) (play_keeps_frame course)

end Course

/-! ## Recordings -/

namespace Engine

variable {R α : Type}

/-- The engine with a tape on top that holds some entries already. -/
def withTape (collected : List (TapeEntry R)) (engine : Engine R) : Engine R :=
  { engine with tapes := ⟨collected, engine.controls.length⟩ :: engine.tapes }

@[simp]
theorem popTape_withTape (collected : List (TapeEntry R)) (engine before : Engine R) :
    popTape before (withTape collected engine) = engine := rfl

@[simp]
theorem topmostEntries_withTape (collected : List (TapeEntry R)) (engine : Engine R) :
    topmostEntries (withTape collected engine) = collected := rfl

theorem refuse_withTape (what : String) (collected : List (TapeEntry R)) (engine : Engine R) :
    (refuse what : EngineAction R α) (withTape collected engine) =
      (((refuse what : EngineAction R α) engine).1, withTape collected engine) := by
  rcases engine with ⟨memory, profile, controls, tapes, draws, elapsed, definitions⟩
  cases controls <;> rfl

/-- While a tape is recording, what cannot be undone is refused. -/
theorem requireReversible_withTape (what : String) (next : Unit → EngineAction R α)
    (collected : List (TapeEntry R)) (engine : Engine R) :
    (requireReversible what >>= next) (withTape collected engine) =
      (((refuse what : EngineAction R α) engine).1, withTape collected engine) := by
  rcases engine with ⟨memory, profile, controls, tapes, draws, elapsed, definitions⟩
  cases controls <;> rfl

/-- While a tape is recording, a gate is put at its end. -/
theorem carryOutEntry_withTape [Scalar R] (entry : TapeEntry R)
    (collected : List (TapeEntry R)) (engine : Engine R) :
    carryOutEntry entry (withTape collected engine) =
      (.ok (), withTape (collected ++ [entry]) engine) := by
  simp only [carryOutEntry, controlledBy, Action.during, pushControls, withTape, carryOut,
    popControls, List.take_left', List.drop_left']

end Engine

namespace Course

variable {R α : Type} [Scalar R]

open Engine

/-- Playing a course while a tape is recording leaves the entries on the tape, and apart from them
does what the course of the recording does. -/
theorem play_recordedAfter (course : Course R α) :
    ∀ (collected : List (TapeEntry R)) (engine : Engine R),
      (course.recordedAfter collected).play engine =
        (((course.play (withTape collected engine)).1.map fun _ =>
            topmostEntries (course.play (withTape collected engine)).2),
          popTape engine (course.play (withTape collected engine)).2) := by
  induction course with
  | done outcome =>
    intro collected engine
    cases outcome <;> rfl
  | issue entry rest ih =>
    intro collected engine
    simp only [recordedAfter, ih, play, Action.bind_apply, carryOutEntry_withTape]
  | pause seconds rest ih =>
    intro collected engine
    simp only [recordedAfter, play, Action.bind_apply, sleep, ih]
    rfl
  | measure qubit rest ih =>
    intro collected engine
    simp only [recordedAfter, play, observe, bind_assoc, requireReversible_withTape]
    rcases engine with ⟨memory, profile, controls, tapes, draws, elapsed, definitions⟩
    cases controls <;> rfl
  | reset qubit rest ih =>
    intro collected engine
    simp only [recordedAfter, play, restore, bind_assoc, requireReversible_withTape]
    rcases engine with ⟨memory, profile, controls, tapes, draws, elapsed, definitions⟩
    cases controls <;> rfl
  | refuse what =>
    intro collected engine
    simp only [recordedAfter, play, refuse_withTape]
    rcases engine with ⟨memory, profile, controls, tapes, draws, elapsed, definitions⟩
    cases controls <;> rfl

/-- Playing the course of a recording is recording the course. -/
theorem play_recorded (course : Course R α) : course.recorded.play = record course.play := by
  funext engine
  rw [recorded, play_recordedAfter]
  simp only [record, Action.during, Action.bind_apply]
  rw [show pushTape engine = withTape [] engine from rfl]
  rcases course.play (withTape [] engine) with ⟨outcome, after⟩
  cases outcome <;> rfl

end Course

end QuantumKata
