import QuantumKata.Proofs.Outline
import QuantumKata.Proofs.Slice

/-!
# Amplitudes off the branch

A block under controls works on one branch of the state, where all of the controls read one.  The
*other branch* of a qubit holds the amplitudes of the basis states in which that qubit reads zero.
For every control of the block they are the very values that were there before, whatever the block
does and however it ends.

A gate of the block is carried out under the whole stack of controls, so it leaves the other branch
of each of them alone; measurements and resets are refused; and what is recorded does not touch the
memory at all.  Scalars obey no laws here: an amplitude of the other branch is not computed anew.
-/

namespace QuantumKata

namespace Memory

variable {R : Type} [Scalar R]

/-- The amplitudes of the basis states in which a qubit reads zero, and the size of the register;
nothing once the memory has been released. -/
def otherBranch (qubit : Nat) : Memory R → Option (Nat × (Nat → Option (Amplitude R)))
  | holding state =>
    some (state.numQubits, fun index =>
      if index.testBit qubit then none else some (state.amplitude index))
  | released _ => none

theorem otherBranch_eq {qubit : Nat} {before after : StateVector R}
    (size : after.numQubits = before.numQubits)
    (same : ∀ index < Basis.count before.numQubits, index.testBit qubit = false →
      after.amplitude index = before.amplitude index) :
    (holding after).otherBranch qubit = (holding before).otherBranch qubit := by
  simp only [otherBranch, size, Option.some.injEq, Prod.mk.injEq, true_and]
  ext1 index
  cases bit : index.testBit qubit with
  | true => rfl
  | false =>
    by_cases inRegister : index < Basis.count before.numQubits
    · simp [same index inRegister bit]
    · simp [StateVector.amplitude, size, inRegister]

/-- Memories with the same other branch give the same answer when asked for an amplitude there. -/
theorem amplitude_of_otherBranch_eq {qubit index : Nat} {before after : Memory R}
    (same : after.otherBranch qubit = before.otherBranch qubit)
    (off : index.testBit qubit = false) : after.amplitude index = before.amplitude index := by
  cases before with
  | released size =>
    cases after with
    | released other => rfl
    | holding state => cases same
  | holding state =>
    cases after with
    | released other => cases same
    | holding later =>
      simp only [otherBranch, Option.some.injEq, Prod.mk.injEq] at same
      have here := congrFun same.2 index
      simp only [off, Bool.false_eq_true, if_false, Option.some.injEq] at here
      have dimension : later.dimension = state.dimension := congrArg Basis.count same.1
      refine if_congr ?_ (congrArg Except.ok here) rfl
      rw [dimension]

end Memory

/-! ## One gate under controls -/

theorem Basis.allOne_of_off {controls : List Nat} {control index : Nat}
    (member : control ∈ controls) (off : index.testBit control = false) :
    allOne controls index = false := by
  by_contra one
  rw [Bool.not_eq_false, allOne, List.all_eq_true] at one
  rw [one control member] at off
  cases off

namespace StateVector

variable {R : Type} [Scalar R] {control : Nat} {controls : List Nat}

theorem otherBranch_applyPhase (state : StateVector R) (angle : R) (member : control ∈ controls) :
    (Memory.holding (state.applyPhase angle controls)).otherBranch control =
      (Memory.holding state).otherBranch control := by
  refine Memory.otherBranch_eq (show _ = state.numQubits from rfl) fun index inRegister off => ?_
  rw [amplitude_applyPhase angle controls inRegister, Basis.allOne_of_off member off]
  rfl

theorem otherBranch_applyMatrix (state : StateVector R) (matrix : SquareMatrix R)
    (targets : List Nat) (member : control ∈ controls) :
    (Memory.holding (state.applyMatrix matrix targets controls)).otherBranch control =
      (Memory.holding state).otherBranch control := by
  refine Memory.otherBranch_eq (show _ = state.numQubits from rfl) fun index inRegister off => ?_
  rw [amplitude_applyMatrix matrix targets controls inRegister, Basis.allOne_of_off member off]
  rfl

end StateVector

namespace Memory

variable {R : Type} [Scalar R] {memory after : Memory R} {control : Int} {controls : List Int}

theorem size_eq_of_applyMatrix {matrix : SquareMatrix R} {targets others : List QubitIndex}
    (applied : memory.applyMatrix matrix targets others = .ok after) :
    matrix.size = Basis.count targets.length :=
  (applyMatrix_eq_ok_iff.1 applied).1

theorem otherBranch_applyPhase {angle : R} (member : control ∈ controls)
    (applied : memory.applyPhase angle (Engine.indices controls) = .ok after) :
    after.otherBranch control.toNat = memory.otherBranch control.toNat := by
  cases memory with
  | released size => cases applied
  | holding state =>
    rcases (applyPhase_holding state angle controls after).1 applied with ⟨-, rfl⟩
    exact state.otherBranch_applyPhase angle (List.mem_map_of_mem member)

theorem otherBranch_applyMatrix {matrix : SquareMatrix R} {targets : List Int}
    (member : control ∈ controls)
    (applied : memory.applyMatrix matrix (Engine.indices targets) (Engine.indices controls) =
      .ok after) :
    after.otherBranch control.toNat = memory.otherBranch control.toNat := by
  have size_eq := size_eq_of_applyMatrix applied
  rw [Engine.indices, List.length_map] at size_eq
  cases memory with
  | released size => cases applied
  | holding state =>
    rcases (applyMatrix_holding state matrix targets controls size_eq after).1 applied with
      ⟨-, rfl⟩
    have among : control.toNat ∈ controls.map Int.toNat := List.mem_map_of_mem member
    split
    · exact state.otherBranch_applyPhase _ among
    · exact state.otherBranch_applyMatrix _ _ among

theorem otherBranch_onMemory {entry : TapeEntry R} {ambient : List Int}
    (member : control ∈ ambient ++ entry.controls)
    (acted : entry.onMemory ambient memory = .ok after) :
    after.otherBranch control.toNat = memory.otherBranch control.toNat := by
  rw [TapeEntry.onMemory] at acted
  split at acted
  · exact otherBranch_applyPhase member acted
  · exact otherBranch_applyMatrix member acted

end Memory

/-! ## A block under controls -/

namespace Engine

variable {R : Type} [Scalar R]

def otherBranch (qubit : Nat) (engine : Engine R) : Option (Nat × (Nat → Option (Amplitude R))) :=
  engine.memory.otherBranch qubit

theorem carryOutEntry_keeps_otherBranch {entry : TapeEntry R} {control : Int}
    (member : control ∈ entry.controls) :
    Action.Keeps (otherBranch control.toNat) (carryOutEntry entry) := by
  intro engine
  cases tapes : engine.tapes with
  | nil =>
    rw [carryOutEntry_onMemory entry tapes]
    cases acted : entry.onMemory engine.controls engine.memory with
    | ok memory => exact Memory.otherBranch_onMemory (List.mem_append_right _ member) acted
    | error fault => rfl
  | cons tape below =>
    -- While a tape is recording the gate goes to the tape.
    simp only [carryOutEntry, controlledBy, Action.during, carryOut, pushControls, tapes]
    rfl

/-- By induction on the course of a block: under a control its steps are gates under that control,
and pauses. -/
theorem play_under_keeps_otherBranch {α : Type} {added : List Int} {control : Int}
    (member : control ∈ added) (course : Course R α) :
    Action.Keeps (otherBranch control.toNat) (course.under added).play := by
  have notEmpty : added.isEmpty = false := List.isEmpty_eq_false_iff.2 (List.ne_nil_of_mem member)
  induction course with
  | done outcome => exact Action.keeps_ofExcept outcome
  | issue entry rest ih =>
    exact (carryOutEntry_keeps_otherBranch (List.mem_append_left _ member)).bind fun _ => ih
  | pause seconds rest ih =>
    have slept : Action.Keeps (otherBranch (R := R) control.toNat) (sleep seconds) := fun _ => rfl
    exact slept.bind fun _ => ih
  | measure qubit rest ih =>
    rw [Course.under, notEmpty]
    exact Action.keeps_ofExcept _
  | reset qubit rest ih =>
    rw [Course.under, notEmpty]
    exact Action.keeps_ofExcept _
  | refuse what =>
    rw [Course.under, notEmpty]
    exact Action.keeps_ofExcept _

/-- What is run under controls leaves every amplitude as it is whose basis index has a zero at one
of them, on every engine, and also when it ends with a fault. -/
theorem amplitude_offBranch (engine : Engine R) (controls : List Int) (body : Program R)
    (frame : Frame) :
    ∀ control ∈ controls, ∀ index : Nat, index.testBit control.toNat = false →
      (controlledBy controls (execute body frame) engine).2.memory.amplitude index =
        engine.memory.amplitude index := by
  intro control member index off
  have played : controlledBy controls (execute body frame) engine =
      ((body.course engine.definitions frame engine.profile).under controls).play engine := by
    rw [Course.play_under, controlledBy, Action.during, execute_eq]
    rfl
  rw [played]
  exact Memory.amplitude_of_otherBranch_eq (play_under_keeps_otherBranch member _ engine) off

/-- A block that changes the branch of its control and then fails to measure. -/
theorem amplitude_offBranch_of_refused_measurement :
    let body : Program Float :=
      .ofList [.primitive (.fixed .h) [.given 0], .measure (.given 0)]
    let engine : Engine Float := start (.holding (.zero 2)) .unrestricted [] {}
    let ended := controlledBy [1] (execute body (.given [0])) engine
    ended.1 = .error (.irreversibleUnderControl "measurement") ∧
      (1 : Int) ∈ [1] ∧ Nat.testBit 0 (Int.toNat 1) = false ∧
      ended.2.memory.amplitude (0 : Nat) = engine.memory.amplitude (0 : Nat) := by
  intro body engine ended
  refine ⟨rfl, List.mem_singleton_self 1, rfl, ?_⟩
  exact amplitude_offBranch engine [1] body (.given [0]) 1 (List.mem_singleton_self 1) 0 rfl

end Engine

end QuantumKata
