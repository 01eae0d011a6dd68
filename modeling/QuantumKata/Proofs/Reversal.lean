import QuantumKata.Proofs.Attachment
import QuantumKata.Proofs.Linear

/-!
# Adjoints undo

Two lists of gates *cancel* when they fit into the same registers under the same controls, and each
of them takes back what the other one did.  Two courses *undo* each other when the gates of either
are cancelled by gates of the other.

Undoing is symmetric, it is reversed by doing one course after another, it goes along with added
controls, and a global phase can be taken back at either end.  The reversed tape of a course undoes
the course.  These laws are the cases of the induction over operations: the adjoint of an operation
undoes it, whether it was built in closed form or by playing a tape backwards.
-/

noncomputable section

namespace QuantumKata

open Complex

/-! ## Gates that cancel -/

/-- Gates that take back what other gates did, in both orders. -/
structure Cancel (first second : List (TapeEntry ℝ)) : Prop where
  firstExact : ∀ entry ∈ first, entry.IsExact
  secondExact : ∀ entry ∈ second, entry.IsExact
  fits_iff : ∀ numQubits ambient,
    (∀ entry ∈ first, entry.Fits numQubits ambient) ↔
      ∀ entry ∈ second, entry.Fits numQubits ambient
  back : ∀ numQubits ambient, (∀ entry ∈ first, entry.Fits numQubits ambient) →
    ∀ amplitudes, actAll ambient second (actAll ambient first amplitudes) = amplitudes
  forth : ∀ numQubits ambient, (∀ entry ∈ first, entry.Fits numQubits ambient) →
    ∀ amplitudes, actAll ambient first (actAll ambient second amplitudes) = amplitudes

namespace Cancel

variable {first second third fourth : List (TapeEntry ℝ)}

theorem symm (cancel : Cancel first second) : Cancel second first where
  firstExact := cancel.secondExact
  secondExact := cancel.firstExact
  fits_iff numQubits ambient := (cancel.fits_iff numQubits ambient).symm
  back numQubits ambient fit := cancel.forth numQubits ambient ((cancel.fits_iff _ _).2 fit)
  forth numQubits ambient fit := cancel.back numQubits ambient ((cancel.fits_iff _ _).2 fit)

theorem nil : Cancel [] [] := by
  constructor <;> simp [actAll]

/-- What is done last is taken back first. -/
theorem append (cancel : Cancel first second) (later : Cancel third fourth) :
    Cancel (first ++ third) (fourth ++ second) := by
  constructor
  case firstExact => exact List.forall_mem_append.2 ⟨cancel.firstExact, later.firstExact⟩
  case secondExact => exact List.forall_mem_append.2 ⟨later.secondExact, cancel.secondExact⟩
  case fits_iff =>
    intro numQubits ambient
    rw [List.forall_mem_append, List.forall_mem_append, cancel.fits_iff, later.fits_iff, and_comm]
  case back =>
    intro numQubits ambient fit amplitudes
    rcases List.forall_mem_append.1 fit with ⟨firstFit, thirdFit⟩
    rw [actAll_append, actAll_append, later.back _ _ thirdFit, cancel.back _ _ firstFit]
  case forth =>
    intro numQubits ambient fit amplitudes
    rcases List.forall_mem_append.1 fit with ⟨firstFit, thirdFit⟩
    rw [actAll_append, actAll_append, cancel.forth _ _ firstFit, later.forth _ _ thirdFit]

theorem exact_under {entries : List (TapeEntry ℝ)} (exact : ∀ entry ∈ entries, entry.IsExact)
    (added : List Int) : ∀ entry ∈ entries.map (TapeEntry.under added), entry.IsExact := by
  intro entry member
  rcases List.mem_map.1 member with ⟨inner, among, rfl⟩
  exact exact inner among

theorem fit_under {entries : List (TapeEntry ℝ)} {numQubits : ℕ} {ambient : List Int}
    (added : List Int) :
    (∀ entry ∈ entries.map (TapeEntry.under added), entry.Fits numQubits ambient) ↔
      ∀ entry ∈ entries, entry.Fits numQubits (ambient ++ added) := by
  rw [List.forall_mem_map]
  simp only [TapeEntry.fits_under]

theorem under (cancel : Cancel first second) (added : List Int) :
    Cancel (first.map (TapeEntry.under added)) (second.map (TapeEntry.under added)) := by
  constructor
  case firstExact => exact exact_under cancel.firstExact added
  case secondExact => exact exact_under cancel.secondExact added
  case fits_iff =>
    intro numQubits ambient
    rw [fit_under, fit_under]
    exact cancel.fits_iff numQubits (ambient ++ added)
  case back =>
    intro numQubits ambient fit amplitudes
    rw [actAll_under, actAll_under]
    exact cancel.back _ _ ((fit_under added).1 fit) amplitudes
  case forth =>
    intro numQubits ambient fit amplitudes
    rw [actAll_under, actAll_under]
    exact cancel.forth _ _ ((fit_under added).1 fit) amplitudes

/-- A unitary gate and its adjoint on the same qubits cancel. -/
theorem singleton {entry : TapeEntry ℝ} {inverse : Gate ℝ} (exact : entry.IsExact)
    (built : entry.gate.adjoint = .ok inverse) : Cancel [entry] [entry.withGate inverse] := by
  have adjoint := Gate.adjoint_isAdjointOf exact.1 built
  have alsoExact : (entry.withGate inverse).IsExact := by
    refine ⟨Gate.adjoint_isUnitary exact.1 built, ?_⟩
    exact exact.2.trans (Gate.adjoint_numQubits built).symm
  have adjointBack : ((entry.withGate inverse).withGate entry.gate).gate.matrix.IsAdjointOf
      (entry.withGate inverse).gate.matrix := by
    refine ⟨adjoint.1.symm, fun row column => ?_⟩
    change (entry.gate.matrix.entry row column).toComplex =
      star (inverse.matrix.entry column row).toComplex
    rw [adjoint.2, star_star]
  constructor
  case firstExact => simpa using exact
  case secondExact => simpa using alsoExact
  case fits_iff =>
    intro numQubits ambient
    simp only [List.forall_mem_singleton]
    exact Iff.rfl
  case back =>
    intro numQubits ambient fit amplitudes
    exact entry.act_withGate_act exact (List.forall_mem_singleton.1 fit) adjoint amplitudes
  case forth =>
    intro numQubits ambient fit amplitudes
    have fits : entry.Fits numQubits ambient := List.forall_mem_singleton.1 fit
    exact (entry.withGate inverse).act_withGate_act alsoExact fits adjointBack amplitudes

end Cancel

/-! ## Global phases -/

/-- A recorded global phase. -/
def phaseEntry (angle : ℝ) : TapeEntry ℝ := ⟨.globalPhase angle, [], []⟩

theorem phaseEntry_isExact (angle : ℝ) : (phaseEntry angle).IsExact :=
  ⟨Gate.isUnitary_globalPhase angle, rfl⟩

theorem act_phaseEntry (ambient : List Int) (angle : ℝ) (amplitudes : ℕ → ℂ) (index : ℕ) :
    (phaseEntry angle).act ambient amplitudes index =
      if Basis.allOne (ambient.map Int.toNat) index then exp (angle * I) * amplitudes index
      else amplitudes index := by
  have controls : (phaseEntry angle).allControls ambient = ambient.map Int.toNat := by
    simp [TapeEntry.allControls, phaseEntry]
  have number : ((Gate.globalPhase angle).matrix.entry 0 0).toComplex = exp (angle * I) :=
    Gate.toMatrix_globalPhase angle 0 0
  rw [TapeEntry.act_apply, controls, ← number]
  change (if Basis.allOne (ambient.map Int.toNat) index then
    ∑ column ∈ Finset.range 1, ((Gate.globalPhase angle).matrix.entry 0 column).toComplex *
      amplitudes index else amplitudes index) = _
  rw [Finset.sum_range_one]

/-- A global phase can be put in before a gate as well as after it. -/
theorem act_phaseEntry_comm {entry : TapeEntry ℝ} {numQubits : ℕ} {ambient : List Int}
    (fits : entry.Fits numQubits ambient) (angle : ℝ) (amplitudes : ℕ → ℂ) :
    entry.act ambient ((phaseEntry angle).act ambient amplitudes) =
      (phaseEntry angle).act ambient (entry.act ambient amplitudes) := by
  funext index
  rw [act_phaseEntry, entry.act_apply ambient _ index, entry.act_apply ambient amplitudes index]
  have split : Basis.allOne (entry.allControls ambient) index =
      (Basis.allOne (ambient.map Int.toNat) index &&
        Basis.allOne (entry.controls.map Int.toNat) index) := by
    rw [TapeEntry.allControls, List.map_append, Basis.allOne_append]
  have unchanged : ∀ column, Basis.allOne (ambient.map Int.toNat)
      (Basis.scatter entry.targetQubits column index) =
      Basis.allOne (ambient.map Int.toNat) index := by
    intro column
    apply Basis.allOne_congr
    intro control isControl
    apply Basis.testBit_scatter_of_notMem
    apply fits.controls_apart
    rw [TapeEntry.allControls, List.map_append]
    exact List.mem_append_left _ isControl
  by_cases one : Basis.allOne (entry.allControls ambient) index = true
  · have ambientOne : Basis.allOne (ambient.map Int.toNat) index = true := by
      rw [split, Bool.and_eq_true] at one
      exact one.1
    rw [if_pos one, if_pos one, if_pos ambientOne, Finset.mul_sum]
    apply Finset.sum_congr rfl
    intro column _
    rw [act_phaseEntry, unchanged, if_pos ambientOne]
    ring
  · rw [if_neg one, if_neg one, act_phaseEntry]

theorem actAll_phaseEntry_comm {entries : List (TapeEntry ℝ)} {numQubits : ℕ}
    {ambient : List Int} (fit : ∀ entry ∈ entries, entry.Fits numQubits ambient) (angle : ℝ)
    (amplitudes : ℕ → ℂ) :
    actAll ambient entries ((phaseEntry angle).act ambient amplitudes) =
      (phaseEntry angle).act ambient (actAll ambient entries amplitudes) := by
  induction entries generalizing amplitudes with
  | nil => rfl
  | cons entry rest ih =>
    rcases List.forall_mem_cons.1 fit with ⟨fits, fit⟩
    rw [actAll_cons, actAll_cons, act_phaseEntry_comm fits, ih fit]

theorem act_phaseEntry_neg (ambient : List Int) (angle : ℝ) (amplitudes : ℕ → ℂ) :
    (phaseEntry (-angle)).act ambient ((phaseEntry angle).act ambient amplitudes) =
      amplitudes := by
  have inverse : exp (((-angle : ℝ) : ℂ) * I) * exp (angle * I) = 1 := by
    rw [← exp_add, ofReal_neg, neg_mul, neg_add_cancel, exp_zero]
  funext index
  rw [act_phaseEntry, act_phaseEntry]
  split
  · rw [← mul_assoc, inverse, one_mul]
  · rfl

/-- A phase after gates is taken back by the opposite phase after what cancels the gates. -/
theorem Cancel.phase {first second : List (TapeEntry ℝ)} (cancel : Cancel first second)
    (angle : ℝ) : Cancel (first ++ [phaseEntry angle]) (second ++ [phaseEntry (-angle)]) := by
  have single : ∀ angle, ∀ entry ∈ [phaseEntry angle], entry.IsExact := by
    intro angle
    exact List.forall_mem_singleton.2 (phaseEntry_isExact angle)
  have sides : ∀ {entries : List (TapeEntry ℝ)} {numQubits ambient} (angle : ℝ),
      (∀ entry ∈ entries ++ [phaseEntry angle], entry.Fits numQubits ambient) ↔
        (∀ entry ∈ entries, entry.Fits numQubits ambient) ∧
          QubitsFit numQubits (ambient ++ []) := by
    intro entries numQubits ambient angle
    rw [List.forall_mem_append, List.forall_mem_singleton]
    exact Iff.rfl
  constructor
  case firstExact => exact List.forall_mem_append.2 ⟨cancel.firstExact, single angle⟩
  case secondExact => exact List.forall_mem_append.2 ⟨cancel.secondExact, single (-angle)⟩
  case fits_iff =>
    intro numQubits ambient
    rw [sides, sides, cancel.fits_iff]
  case back =>
    intro numQubits ambient fit amplitudes
    have firstFit := ((sides angle).1 fit).1
    rw [actAll_append, actAll_append, actAll_cons, actAll_nil, actAll_cons, actAll_nil,
      actAll_phaseEntry_comm ((cancel.fits_iff _ _).1 firstFit)]
    exact (act_phaseEntry_neg ambient angle _).trans (cancel.back _ _ firstFit amplitudes)
  case forth =>
    intro numQubits ambient fit amplitudes
    have firstFit := ((sides angle).1 fit).1
    have opposite := act_phaseEntry_neg ambient (-angle)
    rw [neg_neg] at opposite
    rw [actAll_append, actAll_append, actAll_cons, actAll_nil, actAll_cons, actAll_nil,
      actAll_phaseEntry_comm firstFit]
    exact (opposite _).trans (cancel.forth _ _ firstFit amplitudes)

/-! ## Courses that undo each other -/

namespace Course

/-- Courses whose gates cancel. -/
def Undoes (course other : Course ℝ Unit) : Prop :=
  (∀ entries, course.Issues entries () → ∃ others, other.Issues others () ∧ Cancel entries others) ∧
  ∀ others, other.Issues others () → ∃ entries, course.Issues entries () ∧ Cancel entries others

variable {course other next later : Course ℝ Unit}

theorem Undoes.symm (undoes : course.Undoes other) : other.Undoes course := by
  constructor
  · intro entries issued
    rcases undoes.2 entries issued with ⟨others, otherIssued, cancel⟩
    exact ⟨others, otherIssued, cancel.symm⟩
  · intro others issued
    rcases undoes.1 others issued with ⟨entries, otherIssued, cancel⟩
    exact ⟨entries, otherIssued, cancel.symm⟩

theorem undoes_done : (done (.ok ()) : Course ℝ Unit).Undoes (done (.ok ())) := by
  constructor
  · intro entries issued
    rcases issues_done issued with ⟨-, rfl⟩
    exact ⟨[], .done (), .nil⟩
  · intro others issued
    rcases issues_done issued with ⟨-, rfl⟩
    exact ⟨[], .done (), .nil⟩

/-- What comes last is undone first. -/
theorem Undoes.bind (undoes : course.Undoes other) (laterUndoes : next.Undoes later) :
    (course >>= fun _ => next).Undoes (later >>= fun _ => other) := by
  constructor
  · intro entries issued
    rcases issues_bind issued with ⟨first, answer, second, firstIssued, secondIssued, rfl⟩
    rcases undoes.1 first firstIssued with ⟨firstBack, firstBackIssued, cancel⟩
    rcases laterUndoes.1 second secondIssued with ⟨secondBack, secondBackIssued, laterCancel⟩
    exact ⟨secondBack ++ firstBack, secondBackIssued.bind firstBackIssued,
      cancel.append laterCancel⟩
  · intro others issued
    rcases issues_bind issued with ⟨first, answer, second, firstIssued, secondIssued, rfl⟩
    rcases laterUndoes.2 first firstIssued with ⟨firstBack, firstBackIssued, laterCancel⟩
    rcases undoes.2 second secondIssued with ⟨secondBack, secondBackIssued, cancel⟩
    exact ⟨secondBack ++ firstBack, secondBackIssued.bind firstBackIssued,
      cancel.append laterCancel⟩

theorem Undoes.under (undoes : course.Undoes other) (added : List Int) :
    (course.under added).Undoes (other.under added) := by
  constructor
  · intro entries issued
    rcases issues_under issued with ⟨inner, innerIssued, rfl⟩
    rcases undoes.1 inner innerIssued with ⟨others, otherIssued, cancel⟩
    exact ⟨_, otherIssued.under added, cancel.under added⟩
  · intro others issued
    rcases issues_under issued with ⟨inner, innerIssued, rfl⟩
    rcases undoes.2 inner innerIssued with ⟨entries, otherIssued, cancel⟩
    exact ⟨_, otherIssued.under added, cancel.under added⟩

/-- Courses that go on from the same outcome. -/
theorem undoes_done_bind {α : Type} {outcome : Except Fault α} {course other : α → Course ℝ Unit}
    (undoes : ∀ value, outcome = .ok value → (course value).Undoes (other value)) :
    ((done outcome : Course ℝ α) >>= course).Undoes ((done outcome : Course ℝ α) >>= other) := by
  constructor
  · intro entries issued
    rcases issues_done_bind issued with ⟨value, rfl, followed⟩
    exact (undoes value rfl).1 entries followed
  · intro others issued
    rcases issues_done_bind issued with ⟨value, rfl, followed⟩
    exact (undoes value rfl).2 others followed

/-- A unitary gate and its adjoint on the same qubits. -/
theorem undoes_ofGate {gate inverse : Gate ℝ} (unitary : gate.IsUnitary)
    (built : gate.adjoint = .ok inverse) (targets : List Int) :
    (ofGate .unrestricted gate targets).Undoes (ofGate .unrestricted inverse targets) := by
  have single : targets.length = gate.numQubits →
      Cancel [⟨gate, targets, []⟩] [⟨inverse, targets, []⟩] := fun complete =>
    @Cancel.singleton ⟨gate, targets, []⟩ inverse ⟨unitary, complete⟩ built
  have sizes := Gate.adjoint_numQubits built
  constructor
  · intro entries issued
    rcases issues_ofGate issued with ⟨rfl, complete⟩
    exact ⟨_, ofGate_issues (complete.trans sizes.symm), single complete⟩
  · intro others issued
    rcases issues_ofGate issued with ⟨rfl, complete⟩
    exact ⟨_, ofGate_issues (complete.trans sizes), single (complete.trans sizes)⟩

/-- A phase after a course is taken back by the opposite phase after what undoes the course. -/
theorem Undoes.phase (undoes : course.Undoes other) (angle : ℝ) :
    (course >>= fun _ => ofGate .unrestricted (.globalPhase angle) []).Undoes
      (other >>= fun _ => ofGate .unrestricted (.globalPhase (-angle)) []) := by
  constructor
  · intro entries issued
    rcases issues_bind issued with ⟨first, answer, second, firstIssued, secondIssued, rfl⟩
    rcases issues_ofGate secondIssued with ⟨rfl, -⟩
    rcases undoes.1 first firstIssued with ⟨back, backIssued, cancel⟩
    exact ⟨_, backIssued.bind (ofGate_issues rfl), cancel.phase angle⟩
  · intro others issued
    rcases issues_bind issued with ⟨first, answer, second, firstIssued, secondIssued, rfl⟩
    rcases issues_ofGate secondIssued with ⟨rfl, -⟩
    rcases undoes.2 first firstIssued with ⟨back, backIssued, cancel⟩
    exact ⟨_, backIssued.bind (ofGate_issues rfl), cancel.phase angle⟩

theorem ofUndoEntries_append {R : Type} [Scalar R] (profile : TargetProfile)
    (first second : List (TapeEntry R)) :
    ofUndoEntries profile (first ++ second) =
      (ofUndoEntries profile first >>= fun _ => ofUndoEntries profile second) := by
  induction first with
  | nil => rfl
  | cons entry rest ih =>
    rw [List.cons_append, ofUndoEntries, ofUndoEntries, ih]
    exact (bind_bind _ _ _).symm

/-- Playing a tape of unitary gates backwards cancels them. -/
theorem exists_undoTape {entries : List (TapeEntry ℝ)}
    (exact : ∀ entry ∈ entries, entry.IsExact) :
    ∃ others, (ofUndoTape .unrestricted entries).Issues others () ∧ Cancel entries others := by
  rw [ofUndoTape]
  induction entries with
  | nil => exact ⟨[], .done (), .nil⟩
  | cons entry rest ih =>
    rcases List.forall_mem_cons.1 exact with ⟨isExact, exact⟩
    rcases ih exact with ⟨others, issued, cancel⟩
    rcases Gate.exists_adjoint isExact.1 with ⟨inverse, built⟩
    have complete : entry.targets.length = inverse.numQubits :=
      isExact.2.trans (Gate.adjoint_numQubits built).symm
    have undone : (ofUndoEntry .unrestricted entry).Issues [entry.withGate inverse] () := by
      rw [ofUndoEntry]
      rw [built]
      have inner := (ofGate_issues complete).under entry.controls
      simpa [TapeEntry.under, TapeEntry.withGate] using inner
    refine ⟨others ++ [entry.withGate inverse], ?_, ?_⟩
    · rw [List.reverse_cons, ofUndoEntries_append]
      apply issued.bind
      exact undone.bind (Issues.done ())
    · exact (Cancel.singleton isExact built).append cancel

/-- The reversed tape of a course of unitary gates undoes the course. -/
theorem undoes_undoTape
    (exact : ∀ entries, course.Issues entries () → ∀ entry ∈ entries, entry.IsExact) :
    course.Undoes (course.recorded >>= ofUndoTape .unrestricted) := by
  constructor
  · intro entries issued
    rcases exists_undoTape (exact entries issued) with ⟨others, undone, cancel⟩
    exact ⟨others, issued.recorded.bind undone, cancel⟩
  · intro others issued
    rcases issues_bind issued with ⟨first, tape, second, recorded, undone, rfl⟩
    rcases issues_recorded recorded with ⟨rfl, answer, tapeIssued⟩
    rcases exists_undoTape (exact tape tapeIssued) with ⟨back, backIssued, cancel⟩
    rcases undone.unique backIssued with ⟨rfl, -⟩
    exact ⟨tape, tapeIssued, cancel⟩

end Course

end QuantumKata

end
