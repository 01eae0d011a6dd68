import QuantumKata.Proofs.Capability
import QuantumKata.Proofs.Support

/-!
# Runs that are not refused

A missing capability is noticed where a variant is asked for, and nowhere else.  Running a part asks
for none, apart from what the bodies of routines do: the engine checks qubits, matrices and the
profile, which are other matters.  So a part without routines inside runs, well or not, without ever
being refused for a missing capability, and leaves the workshop as it is.
-/

namespace QuantumKata

/-! ## Outcomes -/

namespace Fault

variable {α β : Type}

/-- Whatever fault an outcome may be, no capability is missing. -/
def Spares (outcome : Except Fault α) : Prop :=
  ∀ fault, outcome = .error fault → fault.kind ≠ .capability

theorem spares_ok (value : α) : Spares (.ok value) := nofun

theorem spares_error {fault : Fault} (other : fault.kind ≠ .capability) :
    Spares (.error fault : Except Fault α) := by
  intro found same
  cases same
  exact other

theorem Spares.bind {outcome : Except Fault α} {next : α → Except Fault β} (first : Spares outcome)
    (second : ∀ value, Spares (next value)) : Spares (outcome >>= next) := by
  cases outcome with
  | ok value => exact second value
  | error fault => exact spares_error (first fault rfl)

theorem Spares.map {outcome : Except Fault α} (spares : Spares outcome) (value : α → β) :
    Spares (outcome.map value) := by
  cases outcome with
  | ok _ => exact spares_ok _
  | error fault => exact spares_error (spares fault rfl)

theorem spares_mapM {next : α → Except Fault β} (each : ∀ value, Spares (next value)) :
    ∀ listed : List α, Spares (listed.mapM next)
  | [] => spares_ok []
  | first :: rest => by
    rw [List.mapM_cons]
    exact (each first).bind fun _ => (spares_mapM each rest).bind fun _ => spares_ok _

end Fault

open Fault

namespace Action

variable {σ α β : Type}

/-- An action that never fails for a missing capability. -/
def Spares (action : Action σ α) : Prop := ∀ state, Fault.Spares (action state).1

theorem spares_fail {fault : Fault} (other : fault.kind ≠ .capability) :
    Spares (fail fault : Action σ α) :=
  fun _ => spares_error other

theorem Spares.bind {action : Action σ α} {next : α → Action σ β} (first : Spares action)
    (second : ∀ value, Spares (next value)) : Spares (action >>= next) := by
  intro state
  have spares := first state
  rw [bind_apply]
  rcases acted : action state with ⟨fault | value, after⟩
  · rw [acted] at spares
    exact spares_error (spares fault rfl)
  · exact second value after

end Action

/-! ## The memory -/

namespace QubitIndex

theorem spares_resolveFrom (word : String) (numQubits : Nat) :
    ∀ (seen : List Nat) (indices : List QubitIndex),
      Spares (resolveFrom word numQubits seen indices)
  | _, [] => spares_ok _
  | seen, index :: rest => by
    rw [resolveFrom]
    split
    · exact spares_error (by rintro ⟨⟩)
    · split
      · split
        · exact spares_error (by rintro ⟨⟩)
        · exact (spares_resolveFrom word numQubits _ rest).map _
      · exact spares_error (by rintro ⟨⟩)

end QubitIndex

namespace Memory

variable {R : Type}

theorem spares_live (memory : Memory R) : Spares memory.live := by
  cases memory with
  | holding state => exact spares_ok state
  | released numQubits => exact spares_error (by rintro ⟨⟩)

variable [Scalar R] (memory : Memory R)

theorem spares_applyPhase (angle : R) (controls : List QubitIndex) :
    Spares (memory.applyPhase angle controls) :=
  memory.spares_live.bind fun _ => (QubitIndex.spares_resolveFrom _ _ _ _).bind fun _ => spares_ok _

theorem spares_applyMatrix (matrix : SquareMatrix R) (targets controls : List QubitIndex) :
    Spares (memory.applyMatrix matrix targets controls) := by
  refine memory.spares_live.bind fun _ => (QubitIndex.spares_resolveFrom _ _ _ _).bind fun _ => ?_
  split
  · split
    · exact spares_ok _
    · exact spares_ok _
  · exact spares_error (by rintro ⟨⟩)

end Memory

/-! ## The engine -/

namespace Engine

variable {R : Type}

theorem spares_require (kind : InstructionKind) (name : String) :
    Action.Spares (require (R := R) kind name) := by
  intro engine
  rw [require]
  split
  · exact spares_ok _
  · exact spares_error (by rintro ⟨⟩)

variable [Scalar R]

theorem spares_pick (qubits places : List Int) : Spares (pick qubits places) := by
  refine spares_mapM (fun place => ?_) places
  dsimp only [Frame.at?]
  split
  · exact spares_ok _
  · exact spares_error (by rintro ⟨⟩)

theorem spares_carryOut (primitive : Gate R) (targets : List Int) :
    Action.Spares (carryOut primitive targets) := by
  intro engine
  cases tapes : engine.tapes with
  | cons tape below =>
    simp only [carryOut, tapes]
    exact spares_ok ()
  | nil =>
    cases primitive with
    | globalPhase angle =>
      have spares := engine.memory.spares_applyPhase angle (indices engine.controls)
      simp only [carryOut, tapes]
      split
      · exact spares_ok ()
      · rename_i refused
        exact spares_error (spares _ refused)
    | fixed _ | rotation _ _ | custom _ =>
      have spares := fun matrix => engine.memory.spares_applyMatrix matrix (indices targets)
        (indices engine.controls)
      simp only [carryOut, tapes]
      split
      · exact spares_ok ()
      · rename_i refused
        exact spares_error (spares _ _ refused)

theorem spares_gate (primitive : Gate R) (targets : List Int) :
    Action.Spares (gate primitive targets) := by
  have issues : Action.Spares (require (R := R) (instructionKind primitive) primitive.name >>=
      fun _ => carryOut primitive targets) :=
    (spares_require _ _).bind fun _ => spares_carryOut primitive targets
  rw [gate]
  dsimp only
  split
  · exact (Action.spares_fail (by rintro ⟨⟩)).bind fun _ => issues
  · exact issues

theorem spares_undoEntry (entry : TapeEntry R) : Action.Spares (undoEntry entry) := by
  have undoes : Action.Spares (Action.ofExcept entry.gate.adjoint >>= fun inverse =>
      gate inverse entry.targets) := by
    refine Action.Spares.bind (fun _ => ?_) fun inverse => spares_gate inverse entry.targets
    intro fault refused
    rw [Operation.eq_singularMatrix_of_gate refused]
    rintro ⟨⟩
  exact fun engine => undoes (pushControls entry.controls engine)

theorem spares_undoTape (entries : List (TapeEntry R)) : Action.Spares (undoTape entries) := by
  have undoes : ∀ listed : List (TapeEntry R), Action.Spares (undoEntries listed) := by
    intro listed
    induction listed with
    | nil => exact fun _ => spares_ok ()
    | cons entry rest ih => exact (spares_undoEntry entry).bind fun _ => ih
  exact undoes entries.reverse

end Engine

/-! ## Parts without routines -/

namespace Workshop

variable {R α β : Type}

/-- A run that leaves the workshop as it is and never fails for a missing capability. -/
structure IsSpared (workshop : Workshop R) (run : RunAction R α) : Prop where
  unchanged : ∀ engine, (run (workshop, engine)).2.1 = workshop
  spares : ∀ engine, Spares (run (workshop, engine)).1

namespace IsSpared

variable {workshop : Workshop R} {run : RunAction R α}

theorem pure (value : α) : workshop.IsSpared (pure value) :=
  ⟨fun _ => rfl, fun _ => spares_ok value⟩

theorem fail {fault : Fault} (other : fault.kind ≠ .capability) :
    workshop.IsSpared (Action.fail fault : RunAction R α) :=
  ⟨fun _ => rfl, fun _ => spares_error other⟩

theorem onSecond {action : EngineAction R α} (spares : Action.Spares action) :
    workshop.IsSpared (Action.onSecond action) :=
  ⟨fun _ => rfl, spares⟩

theorem ofExcept {outcome : Except Fault α} (spares : Spares outcome) :
    workshop.IsSpared (Action.ofExcept outcome) :=
  ⟨fun _ => rfl, fun _ => spares⟩

theorem bind {next : α → RunAction R β} (first : workshop.IsSpared run)
    (second : ∀ value, workshop.IsSpared (next value)) : workshop.IsSpared (run >>= next) := by
  constructor
  case unchanged =>
    intro engine
    have kept := first.unchanged engine
    rw [Action.bind_apply]
    rcases ran : run (workshop, engine) with ⟨fault | value, left, between⟩
    · rwa [ran] at kept
    · rw [ran] at kept
      obtain rfl : left = workshop := kept
      exact (second value).unchanged between
  case spares =>
    intro engine
    have kept := first.unchanged engine
    have spares := first.spares engine
    rw [Action.bind_apply]
    rcases ran : run (workshop, engine) with ⟨fault | value, left, between⟩
    · rw [ran] at spares
      exact spares_error (spares fault rfl)
    · rw [ran] at kept
      obtain rfl : left = workshop := kept
      exact (second value).spares between

theorem look_bind {id : PartId} {next : Part R → RunAction R α}
    (followed : workshop.IsSpared (next (workshop.part id))) :
    workshop.IsSpared (Action.onFirst (look id) >>= next) :=
  ⟨fun engine => followed.unchanged engine, fun engine => followed.spares engine⟩

theorem during {enter : Engine R → Engine R} {leave : (before after : Engine R) → Engine R}
    (inside : workshop.IsSpared run) : workshop.IsSpared (Workshop.during enter leave run) :=
  ⟨fun engine => inside.unchanged (enter engine), fun engine => inside.spares (enter engine)⟩

theorem record (inside : workshop.IsSpared run) : workshop.IsSpared (Workshop.record run) :=
  during (inside.bind fun _ => ⟨fun _ => rfl, fun _ => spares_ok _⟩)

end IsSpared

variable {workshop : Workshop R} {id : PartId}

theorem isSpared_checkArity (id : PartId) (qubits : List Int) :
    workshop.IsSpared (checkArity id qubits) := by
  refine .look_bind ?_
  split
  · exact .fail (by rintro ⟨⟩)
  · exact .pure ()

theorem isSpared_runSteps {call : PartId → List Int → RunAction R Unit} {qubits : List Int} :
    ∀ {steps : List (PartId × List Int)},
      (∀ step ∈ steps, ∀ chosen, workshop.IsSpared (call step.1 chosen)) →
      workshop.IsSpared (runSteps call qubits steps)
  | [], _ => .pure ()
  | (step, places) :: rest, calls => by
    obtain ⟨first, later⟩ := List.forall_mem_cons.1 calls
    rw [runSteps]
    refine (IsSpared.ofExcept (Engine.spares_pick qubits places)).bind fun chosen => ?_
    exact (isSpared_checkArity step chosen).bind fun _ => (first chosen).bind fun _ =>
      isSpared_runSteps later

variable [Scalar R]

/-- By induction on the depth: what runs inside a part without routines is such a part again. -/
theorem isSpared_runWithin (depth : Nat) (free : workshop.IsRoutineFree id) (qubits : List Int) :
    workshop.IsSpared (runWithin depth id qubits) := by
  induction depth generalizing id qubits with
  | zero => exact .fail (by rintro ⟨⟩)
  | succ depth ih =>
    obtain ⟨notRoutine, within⟩ := isRoutineFree_iff.1 free
    rw [runWithin]
    refine .look_bind ?_
    cases shape : (workshop.part id).shape with
    | gate primitive => exact .onSecond (Engine.spares_gate primitive qubits)
    | circuit steps =>
      rw [shape] at within
      exact isSpared_runSteps fun step listed => ih (within step.1 (List.mem_map_of_mem listed))
    | phaseShifted inner angle =>
      rw [shape] at within
      exact (ih (within inner (List.mem_singleton_self inner)) qubits).bind fun _ =>
        .onSecond (Engine.spares_gate _ [])
    | controlled inner count =>
      rw [shape] at within
      exact (ih (within inner (List.mem_singleton_self inner)) _).during
    | derivedAdjoint inner =>
      rw [shape] at within
      exact (ih (within inner (List.mem_singleton_self inner)) qubits).record.bind fun entries =>
        .onSecond (Engine.spares_undoTape entries)
    | routine body inverse =>
      rw [shape] at notRoutine
      cases notRoutine

/-- However a part without routines is applied, no capability is missing. -/
theorem isSpared_apply (free : workshop.IsRoutineFree id) (qubits : List Int) :
    workshop.IsSpared (apply id qubits) :=
  (isSpared_checkArity id qubits).bind fun _ => isSpared_runWithin depthLimit free qubits

end Workshop

end QuantumKata
