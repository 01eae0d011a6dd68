import QuantumKata.Proofs.Issuing

/-!
# What a tape says

A block that is recorded to its end leaves a tape, and the tape is a program: whenever the block
itself runs to its end, carrying out the entries of the tape one after the other does the same to
the memory, each gate under the controls in force and then the controls recorded with it.

This follows from the course of the block.  The course is laid out from the definitions and the
profile alone, before any engine is looked at.  Recording answers with the gates that the course
issues, wherever it takes place, and playing the course carries these gates out.
-/

namespace QuantumKata

/-! ## Recording a course -/

namespace Course

variable {R α : Type} [Scalar R] {entries tape : List (TapeEntry R)}

/-- A recording that comes to its end has the gates of its course on the tape. -/
theorem issues_of_play_recordedAfter {course : Course R α} {collected : List (TapeEntry R)}
    {engine after : Engine R}
    (recorded : (course.recordedAfter collected).play engine = (.ok tape, after)) :
    ∃ issued value, course.Issues issued value ∧ tape = collected ++ issued := by
  induction course generalizing collected engine with
  | done outcome =>
    cases outcome with
    | ok value =>
      cases recorded
      exact ⟨[], value, .done value, (List.append_nil _).symm⟩
    | error fault => cases recorded
  | issue entry rest ih =>
    rcases ih recorded with ⟨issued, value, later, rfl⟩
    exact ⟨entry :: issued, value, .issue later, List.append_assoc _ _ _⟩
  | pause seconds rest ih =>
    rcases ih recorded with ⟨issued, value, later, rfl⟩
    exact ⟨issued, value, .pause later, rfl⟩
  | measure qubit rest ih =>
    simp only [recordedAfter, play, Engine.refuse] at recorded
    split at recorded <;> cases recorded
  | reset qubit rest ih =>
    simp only [recordedAfter, play, Engine.refuse] at recorded
    split at recorded <;> cases recorded
  | refuse what =>
    simp only [recordedAfter, play, Engine.refuse] at recorded
    split at recorded <;> cases recorded

/-- A course without gates only lets time pass. -/
theorem Issues.play_nil {course : Course R α} {value : α} (issued : course.Issues [] value)
    (engine : Engine R) :
    ∃ elapsed, course.play engine = (.ok value, { engine with elapsed := elapsed }) := by
  generalize noGates : ([] : List (TapeEntry R)) = entries at issued
  induction issued generalizing engine with
  | done value => exact ⟨engine.elapsed, rfl⟩
  | issue later ih => cases noGates
  | @pause seconds rest entries value later ih =>
    exact ih { engine with elapsed := engine.elapsed + seconds } noGates

end Course

/-! ## Carrying out a tape -/

namespace Engine

variable {R : Type} [Scalar R]

def carryOutTape : List (TapeEntry R) → EngineAction R Unit
  | [] => pure ()
  | entry :: rest => do
    carryOutEntry entry
    carryOutTape rest

/-- Time that has passed makes no difference to a gate. -/
theorem carryOutEntry_elapsed (entry : TapeEntry R) (engine : Engine R) (elapsed : R) :
    carryOutEntry entry { engine with elapsed := elapsed } =
      ((carryOutEntry entry engine).1,
        { (carryOutEntry entry engine).2 with elapsed := elapsed }) := by
  rcases engine with ⟨memory, profile, controls, tapes, draws, before, definitions⟩
  cases tapes with
  | cons tape below => rfl
  | nil =>
    rw [carryOutEntry_onMemory entry rfl, carryOutEntry_onMemory entry rfl]
    dsimp only
    cases entry.onMemory controls memory <;> rfl

theorem carryOutTape_elapsed (tape : List (TapeEntry R)) (engine : Engine R) (elapsed : R) :
    carryOutTape tape { engine with elapsed := elapsed } =
      ((carryOutTape tape engine).1,
        { (carryOutTape tape engine).2 with elapsed := elapsed }) := by
  induction tape generalizing engine with
  | nil => rfl
  | cons entry rest ih =>
    rw [carryOutTape, Action.bind_apply, Action.bind_apply, carryOutEntry_elapsed]
    rcases carryOutEntry entry engine with ⟨outcome, after⟩
    cases outcome with
    | ok value => exact ih after
    | error fault => rfl

theorem carryOutEntry_keeps_elapsed (entry : TapeEntry R) :
    Action.Keeps Engine.elapsed (carryOutEntry entry) := by
  intro engine
  exact congrArg (fun ended => ended.2.elapsed) (carryOutEntry_elapsed entry engine engine.elapsed)

/-- Without a tape that is recording, carrying out a tape acts on the memory alone. -/
theorem memory_of_carryOutTape {tape : List (TapeEntry R)} {engine after : Engine R}
    (noTape : engine.tapes = []) (carried : carryOutTape tape engine = (.ok (), after)) :
    tape.foldlM (fun memory entry => entry.onMemory engine.controls memory) engine.memory =
      .ok after.memory := by
  induction tape generalizing engine with
  | nil =>
    cases carried
    rfl
  | cons entry rest ih =>
    rw [carryOutTape, Action.bind_apply, carryOutEntry_onMemory entry noTape] at carried
    rw [List.foldlM_cons]
    cases acted : entry.onMemory engine.controls engine.memory with
    | error fault =>
      rw [acted] at carried
      cases carried
    | ok memory =>
      rw [acted] at carried
      exact @ih { engine with memory := memory } noTape carried

end Engine

namespace Course

variable {R α : Type} [Scalar R] {entries : List (TapeEntry R)} {value : α}

open Engine

/-- A course that runs to its end does what carrying out its gates does; besides, time passes. -/
theorem Issues.carryOutTape_eq {course : Course R α} (issued : course.Issues entries value)
    {engine after : Engine R} {result : α} (played : course.play engine = (.ok result, after)) :
    carryOutTape entries engine = (.ok (), { after with elapsed := engine.elapsed }) := by
  induction issued generalizing engine with
  | done value =>
    cases played
    rfl
  | @issue entry rest entries value later ih =>
    rcases Action.bind_eq_ok_iff.1 played with ⟨_, between, carried, followed⟩
    have kept : between.elapsed = engine.elapsed := by
      have same := carryOutEntry_keeps_elapsed entry engine
      rwa [carried] at same
    rw [carryOutTape, Action.bind_of_ok carried, ih followed, kept]
  | @pause seconds rest entries value later ih =>
    have carried := @ih { engine with elapsed := engine.elapsed + seconds } played
    have again := carryOutTape_elapsed entries { engine with elapsed := engine.elapsed + seconds }
      engine.elapsed
    rwa [carried] at again

end Course

/-! ## The tape of a body -/

namespace Engine

variable {R : Type} [Scalar R]

/-- Where recording a body ends well, it does so on every engine with the same profile and
definitions, with the same tape, and leaves the memory alone.  Where running the body ends well too,
it does what carrying out the tape does, whatever the controls, the tapes and the state. -/
theorem execute_eq_carryOutTape {body : Program R} {frame : Frame}
    {engine after recorder recorded : Engine R} {tape : List (TapeEntry R)} {reading : Reading R}
    (profile : recorder.profile = engine.profile)
    (definitions : recorder.definitions = engine.definitions)
    (records : record (execute body frame) recorder = (.ok tape, recorded))
    (runs : execute body frame engine = (.ok reading, after)) :
    carryOutTape tape engine = (.ok (), { after with elapsed := engine.elapsed }) ∧
      (engine.tapes = [] →
        tape.foldlM (fun memory entry => entry.onMemory engine.controls memory) engine.memory =
          .ok after.memory) ∧
      recorded.memory = recorder.memory ∧
      ∀ other : Engine R, other.profile = recorder.profile →
        other.definitions = recorder.definitions →
          ∃ later, record (execute body frame) other = (.ok tape, later) ∧
            later.memory = other.memory := by
  -- The course depends on the profile and the definitions only, so all these recordings play one.
  have recording : ∀ other : Engine R, other.profile = recorder.profile →
      other.definitions = recorder.definitions →
        record (execute body frame) other =
          (body.course engine.definitions frame engine.profile).recorded.play other := by
    intro other sameProfile sameDefinitions
    rw [Course.play_recorded, ← definitions, ← profile, ← sameDefinitions, ← sameProfile]
    simp only [record, Action.during, Action.bind_apply, execute_eq]
    rfl
  rw [recording recorder rfl rfl] at records
  rcases Course.issues_of_play_recordedAfter records with ⟨issued, value, issues, isTape⟩
  rw [List.nil_append] at isTape
  subst isTape
  have again : ∀ other : Engine R, other.profile = recorder.profile →
      other.definitions = recorder.definitions →
        ∃ elapsed, record (execute body frame) other =
          (.ok tape, { other with elapsed := elapsed }) := by
    intro other sameProfile sameDefinitions
    rw [recording other sameProfile sameDefinitions]
    exact issues.recorded.play_nil other
  rw [execute_eq] at runs
  have carried := issues.carryOutTape_eq runs
  refine ⟨carried, ?_, ?_, ?_⟩
  · intro noTape
    exact (memory_of_carryOutTape noTape carried :)
  · rcases again recorder rfl rfl with ⟨elapsed, same⟩
    rw [recording recorder rfl rfl, records] at same
    cases same
    rfl
  · intro other sameProfile sameDefinitions
    rcases again other sameProfile sameDefinitions with ⟨elapsed, same⟩
    exact ⟨_, same, rfl⟩

/-- A recording inside a block under controls, which is undone there, and a derived adjoint. -/
theorem execute_eq_carryOutTape_of_nested :
    let inner : Operation Float :=
      .routine 2 "body" .all (.ofList [.controlledBy [.given 0] (.ofList [.primitive (.fixed .s)
        [.given 1]])]) .derived
    let body : Program Float :=
      .ofList [.controlledBy [.given 0] (.ofList
        [.recordAndUndo (.ofList [.primitive (.fixed .t) [.given 1]])]),
        .apply (.derivedAdjoint inner) [.given 1, .given 0]]
    let engine : Engine Float :=
      { start (.holding (.zero 3)) .unrestricted [] {} with controls := [2] }
    ∃ tape reading,
      (record (execute body .register) engine).1 = .ok tape ∧
      (execute body .register engine).1 = .ok reading ∧
      tape.map (fun entry => (entry.targets, entry.controls)) = [([1], [0]), ([0], [1])] ∧
      tape.foldlM (fun memory entry => entry.onMemory [2] memory) engine.memory =
        .ok (execute body .register engine).2.memory := by
  intro inner body engine
  have records : ∃ tape, (record (execute body .register) engine).1 = .ok tape ∧
      tape.map (fun entry => (entry.targets, entry.controls)) = [([1], [0]), ([0], [1])] :=
    ⟨_, rfl, rfl⟩
  have runs : ∃ reading, (execute body .register engine).1 = .ok reading := ⟨_, rfl⟩
  rcases records with ⟨tape, records, places⟩
  rcases runs with ⟨reading, runs⟩
  refine ⟨tape, reading, records, runs, places, ?_⟩
  exact (execute_eq_carryOutTape rfl rfl (Prod.ext records rfl) (Prod.ext runs rfl)).2.1 rfl

end Engine

end QuantumKata
