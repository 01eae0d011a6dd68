import QuantumKata.Proofs.Issuing

/-!
# Slices of a state

Fix the bits of all qubits outside a list.  The amplitudes of the basis states that are left are a
state of a register of their own, with a qubit for every place in the list: a *slice*.

A gate on qubits of the list, under controls of the list and others outside, acts on each slice by
itself.  Where the outer controls read one the slice goes through the gate on its own register;
elsewhere it stays as it is.  No law of arithmetic is needed for this, since the same amplitudes are
combined in the same order.
-/

namespace QuantumKata

/-! ## Slices -/

namespace StateVector

variable {R : Type} [Scalar R]

/-- The slice of a state over some qubits through a basis index: the amplitudes of the basis states
that agree with the index on all other qubits. -/
def slice (state : StateVector R) (qubits : List Nat) (index : Nat) : StateVector R :=
  ofAmplitudes qubits.length fun part => state.amplitude (Basis.embed qubits part index)

@[simp]
theorem slice_numQubits (state : StateVector R) (qubits : List Nat) (index : Nat) :
    (state.slice qubits index).numQubits = qubits.length := rfl

theorem amplitude_slice (state : StateVector R) (qubits : List Nat) (index : Nat) {part : Nat}
    (inside : part < Basis.count qubits.length) :
    (state.slice qubits index).amplitude part =
      state.amplitude (Basis.embed qubits part index) :=
  amplitude_ofAmplitudes _ inside

section Gates

variable {state : StateVector R} {qubits outer targets controls : List Nat} {index : Nat}

/-- All controls of a gate read one where the outer ones do and the inner ones do in the slice. -/
theorem allOne_controls (distinct : qubits.Nodup) (apart : ∀ qubit ∈ outer, qubit ∉ qubits)
    (areControls : ∀ control ∈ controls, control < qubits.length) (part index : Nat) :
    Basis.allOne (outer ++ controls.map (Basis.placed qubits)) (Basis.embed qubits part index) =
      (Basis.allOne outer index && Basis.allOne controls part) := by
  have outside : Basis.allOne outer (Basis.embed qubits part index) = Basis.allOne outer index :=
    Basis.allOne_congr fun qubit member =>
      Basis.testBit_embed_of_notMem (apart qubit member) part index
  have inside : Basis.allOne (controls.map (Basis.placed qubits))
      (Basis.embed qubits part index) = Basis.allOne controls part :=
    Basis.allOne_map fun control member =>
      Basis.testBit_embed_placed distinct part index (areControls control member)
  rw [Basis.allOne_append, outside, inside]

theorem slice_applyPhase (distinct : qubits.Nodup)
    (areQubits : ∀ qubit ∈ qubits, qubit < state.numQubits)
    (apart : ∀ qubit ∈ outer, qubit ∉ qubits)
    (areControls : ∀ control ∈ controls, control < qubits.length) (angle : R)
    (inRegister : index < Basis.count state.numQubits) :
    (state.applyPhase angle (outer ++ controls.map (Basis.placed qubits))).slice qubits index =
      if Basis.allOne outer index then (state.slice qubits index).applyPhase angle controls
      else state.slice qubits index := by
  have pointwise : ∀ part < Basis.count qubits.length,
      ((state.applyPhase angle (outer ++ controls.map (Basis.placed qubits))).slice qubits
        index).amplitude part =
      if Basis.allOne outer index && Basis.allOne controls part then
        (state.slice qubits index).amplitude part * Amplitude.unit angle
      else (state.slice qubits index).amplitude part := by
    intro part inside
    rw [amplitude_slice _ _ _ inside, amplitude_slice _ _ _ inside,
      amplitude_applyPhase angle _ (Basis.embed_lt inRegister areQubits part),
      allOne_controls distinct apart areControls]
  apply ext_amplitude
  · split <;> rfl
  · intro part inside
    have inSlice : part < Basis.count (state.slice qubits index).numQubits := inside
    rw [pointwise part inside]
    by_cases outerOne : Basis.allOne outer index
    · simp only [outerOne, Bool.true_and, if_true]
      exact (amplitude_applyPhase angle controls inSlice).symm
    · simp [outerOne]

theorem transformed_embed (distinct : qubits.Nodup)
    (areTargets : ∀ target ∈ targets, target < qubits.length) (matrix : SquareMatrix R)
    {part : Nat} (inside : part < Basis.count qubits.length) :
    transformed matrix (targets.map (Basis.placed qubits)) state (Basis.embed qubits part index) =
      transformed matrix targets (state.slice qubits index) part := by
  have row : Basis.gather (targets.map (Basis.placed qubits)) (Basis.embed qubits part index) =
      Basis.gather targets part :=
    Basis.gather_map fun target member =>
      Basis.testBit_embed_placed distinct part index (areTargets target member)
  rw [transformed]
  simp only [row]
  congr 1
  apply List.map_congr_left
  intro column _
  rw [Basis.scatter_embed distinct areTargets,
    amplitude_slice _ _ _ (Basis.scatter_lt inside areTargets column)]

theorem slice_applyMatrix (distinct : qubits.Nodup)
    (areQubits : ∀ qubit ∈ qubits, qubit < state.numQubits)
    (apart : ∀ qubit ∈ outer, qubit ∉ qubits)
    (areTargets : ∀ target ∈ targets, target < qubits.length)
    (areControls : ∀ control ∈ controls, control < qubits.length) (matrix : SquareMatrix R)
    (inRegister : index < Basis.count state.numQubits) :
    (state.applyMatrix matrix (targets.map (Basis.placed qubits))
        (outer ++ controls.map (Basis.placed qubits))).slice qubits index =
      if Basis.allOne outer index then
        (state.slice qubits index).applyMatrix matrix targets controls
      else state.slice qubits index := by
  have pointwise : ∀ part < Basis.count qubits.length,
      ((state.applyMatrix matrix (targets.map (Basis.placed qubits))
        (outer ++ controls.map (Basis.placed qubits))).slice qubits index).amplitude part =
      if Basis.allOne outer index && Basis.allOne controls part then
        transformed matrix targets (state.slice qubits index) part
      else (state.slice qubits index).amplitude part := by
    intro part inside
    rw [amplitude_slice _ _ _ inside, amplitude_slice _ _ _ inside,
      amplitude_applyMatrix matrix _ _ (Basis.embed_lt inRegister areQubits part),
      allOne_controls distinct apart areControls, transformed_embed distinct areTargets matrix
      inside]
  apply ext_amplitude
  · split <;> rfl
  · intro part inside
    have inSlice : part < Basis.count (state.slice qubits index).numQubits := inside
    rw [pointwise part inside]
    by_cases outerOne : Basis.allOne outer index
    · simp only [outerOne, Bool.true_and, if_true]
      exact (amplitude_applyMatrix matrix targets controls inSlice).symm
    · simp [outerOne]

end Gates

end StateVector

/-! ## Recorded gates on a slice -/

/-- The qubits of a register by itself. -/
def ownQubits (numQubits : Nat) : List Int := (List.range numQubits).map Int.ofNat

theorem mem_ownQubits {numQubits : Nat} {qubit : Int} :
    qubit ∈ ownQubits numQubits ↔ 0 ≤ qubit ∧ qubit < numQubits := by
  rw [ownQubits]
  rw [List.mem_map]
  constructor
  · rintro ⟨place, member, rfl⟩
    have inside := List.mem_range.1 member
    constructor
    · exact Int.natCast_nonneg place
    · exact Int.ofNat_lt.2 inside
  · rintro ⟨nonnegative, inside⟩
    refine ⟨qubit.toNat, List.mem_range.2 ?_, Int.toNat_of_nonneg nonnegative⟩
    omega

/-- The qubit that stands at a place of a list. -/
def placedQubit (qubits : List Int) (place : Int) : Int := qubits.getD place.toNat 0

theorem toNat_placedQubit (qubits : List Int) (place : Int) :
    (placedQubit qubits place).toNat = Basis.placed (qubits.map Int.toNat) place.toNat := by
  rw [placedQubit, Basis.placed]
  rw [List.getD_eq_getElem?_getD, List.getD_eq_getElem?_getD, List.getElem?_map]
  cases qubits[place.toNat]? <;> rfl

theorem map_toNat_placedQubit (qubits places : List Int) :
    (places.map (placedQubit qubits)).map Int.toNat =
      (places.map Int.toNat).map (Basis.placed (qubits.map Int.toNat)) := by
  rw [List.map_map, List.map_map]
  apply List.map_congr_left
  intro place _
  exact toNat_placedQubit qubits place

/-- The qubits of a list are its places, put into the list. -/
theorem map_placedQubit (qubits : List Int) :
    (ownQubits qubits.length).map (placedQubit qubits) = qubits := by
  rw [ownQubits]
  rw [List.map_map]
  apply List.ext_getElem
  · simp
  · intro place _ inside
    simp only [List.getElem_map, List.getElem_range, Function.comp_apply, placedQubit]
    rw [List.getD_eq_getElem?_getD]
    simp [inside]

namespace TapeEntry

variable {R : Type}

/-- A gate on given places fits into a register of its own when it fits where the places are. -/
theorem Fits.of_relabel {entry : TapeEntry R} {label : Int → Int} {ambient : List Int}
    {numQubits ownSize : Nat} (fits : (entry.relabel label).Fits numQubits ambient)
    (within : ∀ qubit ∈ entry.qubits, 0 ≤ qubit ∧ qubit < ownSize) : entry.Fits ownSize [] := by
  constructor
  · have distinct := fits.1
    have sub : ((entry.targets ++ entry.controls).map label).Sublist
        ((entry.relabel label).targets ++ (ambient ++ (entry.relabel label).controls)) := by
      rw [List.map_append]
      exact List.Sublist.append_left (List.sublist_append_right _ _) _
    exact List.Nodup.of_map label (distinct.sublist sub)
  · exact within

theorem Fits.of_le {entry : TapeEntry R} {ambient : List Int} {numQubits larger : Nat}
    (fits : entry.Fits numQubits ambient) (enough : numQubits ≤ larger) :
    entry.Fits larger ambient := by
  refine ⟨fits.1, ?_⟩
  intro qubit member
  have bound := fits.2 qubit member
  omega

theorem fits_under {ambient added : List Int} {entry : TapeEntry R} {numQubits : Nat} :
    (entry.under added).Fits numQubits ambient ↔ entry.Fits numQubits (ambient ++ added) := by
  simp only [Fits, under, List.append_assoc]

variable [Scalar R]

theorem onState_under (ambient added : List Int) (entry : TapeEntry R) (state : StateVector R) :
    (entry.under added).onState ambient state = entry.onState (ambient ++ added) state := by
  simp only [onState, under, List.append_assoc]
  rfl

end TapeEntry

namespace StateVector

variable {R : Type} [Scalar R]

theorem through_under (ambient added : List Int) (entries : List (TapeEntry R))
    (state : StateVector R) :
    through ambient (entries.map (TapeEntry.under added)) state =
      through (ambient ++ added) entries state := by
  induction entries generalizing state with
  | nil => rfl
  | cons entry rest ih => rw [List.map_cons, through, through, TapeEntry.onState_under, ih]

section Entries

variable {qubits ambient : List Int} {state : StateVector R} {index : Nat}

/-- A gate on places of a list acts on each slice over the list by itself. -/
theorem slice_onState (fits : QubitsFit state.numQubits (ambient ++ qubits))
    (inRegister : index < Basis.count state.numQubits) {entry : TapeEntry R}
    (inside : entry.Fits qubits.length []) :
    ((entry.relabel (placedQubit qubits)).onState ambient state).slice (qubits.map Int.toNat)
        index =
      if Basis.allOne (ambient.map Int.toNat) index then
        entry.onState [] (state.slice (qubits.map Int.toNat) index)
      else state.slice (qubits.map Int.toNat) index := by
  have distinct := fits.right.toNat_nodup
  have areQubits := fits.right.toNat_lt
  have apart := fits.apart
  have placesInside := inside.toNat_lt
  rw [List.map_append, ← List.length_map Int.toNat] at placesInside
  have areTargets : ∀ target ∈ entry.targets.map Int.toNat,
      target < (qubits.map Int.toNat).length := fun target member =>
    placesInside target (List.mem_append_left _ member)
  have areControls : ∀ control ∈ entry.controls.map Int.toNat,
      control < (qubits.map Int.toNat).length := fun control member =>
    placesInside control (List.mem_append_right _ member)
  have controls_eq : (ambient ++ entry.controls.map (placedQubit qubits)).map Int.toNat =
      ambient.map Int.toNat ++
        (entry.controls.map Int.toNat).map (Basis.placed (qubits.map Int.toNat)) := by
    rw [List.map_append, map_toNat_placedQubit]
  have phase := fun angle : R => slice_applyPhase distinct areQubits apart areControls angle
    inRegister
  have matrix := fun matrix : SquareMatrix R =>
    slice_applyMatrix distinct areQubits apart areTargets areControls matrix inRegister
  unfold TapeEntry.onState
  simp only [TapeEntry.relabel, List.isEmpty_map, controls_eq, List.nil_append,
    map_toNat_placedQubit]
  cases entry.gate with
  | globalPhase angle => exact phase angle
  | fixed fixed =>
    dsimp only
    split
    · exact phase _
    · exact matrix _
  | rotation axis angle =>
    dsimp only
    split
    · exact phase _
    · exact matrix _
  | custom custom =>
    dsimp only
    split
    · exact phase _
    · exact matrix _

/-- Gates on places of a list act on each slice over the list by itself. -/
theorem slice_through (fits : QubitsFit state.numQubits (ambient ++ qubits))
    (inRegister : index < Basis.count state.numQubits) (entries : List (TapeEntry R))
    (inside : ∀ entry ∈ entries, entry.Fits qubits.length []) :
    (through ambient (entries.map (TapeEntry.relabel (placedQubit qubits))) state).slice
        (qubits.map Int.toNat) index =
      if Basis.allOne (ambient.map Int.toNat) index then
        through [] entries (state.slice (qubits.map Int.toNat) index)
      else state.slice (qubits.map Int.toNat) index := by
  induction entries generalizing state with
  | nil => simp [through]
  | cons entry rest ih =>
    rcases List.forall_mem_cons.1 inside with ⟨here, inside⟩
    have step := slice_onState fits inRegister here
    rw [List.map_cons, through, ih (by simpa using fits) (by simpa using inRegister) inside, step]
    by_cases allOne : Basis.allOne (ambient.map Int.toNat) index
    · simp only [allOne, if_true, through]
    · simp [allOne]

end Entries

end StateVector

end QuantumKata
