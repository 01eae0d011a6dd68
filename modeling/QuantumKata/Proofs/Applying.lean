import QuantumKata.Proofs.Slice
import QuantumKata.Proofs.Unfolding

/-!
# Parts that can be applied

A part that is put together from gates by circuits, phase shifts and control wrappers can be applied
to any distinct qubits of the register apart from the controls in force, as many as it is about.  It
issues gates that fit, and nothing else.
-/

namespace QuantumKata

variable {R : Type} {size : Nat} {ambient qubits : List Int}

/-! ## Qubits of a register -/

theorem QubitsFit.of_perm {first second : List Int} (fits : QubitsFit size first)
    (same : first.Perm second) : QubitsFit size second :=
  ⟨same.nodup_iff.1 fits.1, fun qubit member => fits.2 qubit (same.mem_iff.2 member)⟩

theorem QubitsFit.of_subset {chosen : List Int} (fits : QubitsFit size (qubits ++ ambient))
    (distinct : chosen.Nodup) (among : chosen ⊆ qubits) : QubitsFit size (chosen ++ ambient) := by
  rcases List.nodup_append.1 fits.1 with ⟨-, ambientDistinct, apart⟩
  constructor
  · exact List.nodup_append.2 ⟨distinct, ambientDistinct, fun qubit member =>
      apart qubit (among member)⟩
  · intro qubit member
    rcases List.mem_append.1 member with isChosen | isAmbient
    · exact fits.2 qubit (List.mem_append_left _ (among isChosen))
    · exact fits.2 qubit (List.mem_append_right _ isAmbient)

namespace Engine

theorem at?_given_of_lt {place : Int} (inside : 0 ≤ place ∧ place < qubits.length) :
    (Frame.given qubits).at? place = .ok (qubits.getD place.toNat 0) := by
  simp only [Frame.at?, Snapshot.place?, if_pos inside.1, if_pos inside.2]

theorem pick_of_lt {places : List Int}
    (inside : ∀ place ∈ places, 0 ≤ place ∧ place < qubits.length) :
    pick qubits places = .ok (places.map fun place => qubits.getD place.toNat 0) := by
  induction places with
  | nil => rfl
  | cons place rest ih =>
    rcases List.forall_mem_cons.1 inside with ⟨here, later⟩
    have following := ih later
    unfold pick at following ⊢
    rw [List.mapM_cons, at?_given_of_lt here, following]
    rfl

/-- Distinct places among distinct qubits pick distinct ones of them. -/
theorem exists_pick {places : List Int} (distinct : qubits.Nodup)
    (apart : Operation.areDistinctBelow qubits.length places = true) :
    ∃ chosen, pick qubits places = .ok chosen ∧ chosen.length = places.length ∧
      chosen.Nodup ∧ chosen ⊆ qubits := by
  simp only [Operation.areDistinctBelow, Bool.and_eq_true, decide_eq_true_eq, List.all_eq_true]
    at apart
  rcases apart with ⟨placesDistinct, inside⟩
  have chosen : ∀ place ∈ places, ∃ below : place.toNat < qubits.length,
      qubits.getD place.toNat 0 = qubits[place.toNat] := by
    intro place member
    have below : place.toNat < qubits.length := by
      have bound := inside place member
      omega
    refine ⟨below, ?_⟩
    rw [List.getD_eq_getElem?_getD, List.getElem?_eq_getElem below, Option.getD_some]
  refine ⟨_, pick_of_lt inside, List.length_map _, ?_, ?_⟩
  · refine List.Nodup.map_on ?_ placesDistinct
    intro first firstMember second secondMember same
    rcases chosen first firstMember with ⟨firstBelow, firstIs⟩
    rcases chosen second secondMember with ⟨secondBelow, secondIs⟩
    rw [firstIs, secondIs] at same
    have samePosition := (List.Nodup.getElem_inj_iff distinct).1 same
    have firstBound := inside first firstMember
    have secondBound := inside second secondMember
    omega
  · intro qubit member
    rcases List.mem_map.1 member with ⟨place, placeMember, rfl⟩
    rcases chosen place placeMember with ⟨below, is⟩
    rw [is]
    exact List.getElem_mem below

theorem splitAt_append (count : Int) (qubits : List Int) :
    (splitAt count qubits).1 ++ (splitAt count qubits).2 = qubits :=
  List.take_append_drop _ _

end Engine

/-! ## Courses that complete -/

namespace Course

/-- A course that issues gates which fit into a register under the controls in force, and then ends
well. -/
def Completes (size : Nat) (ambient : List Int) (course : Course R Unit) : Prop :=
  ∃ entries, course.Issues entries () ∧ (∀ entry ∈ entries, entry.IsComplete) ∧
    ∀ entry ∈ entries, entry.Fits size ambient

theorem completes_done : (done (.ok ()) : Course R Unit).Completes size ambient :=
  ⟨[], .done (), List.forall_mem_nil _, List.forall_mem_nil _⟩

theorem Completes.bind {course : Course R Unit} {next : Unit → Course R Unit}
    (first : course.Completes size ambient) (second : (next ()).Completes size ambient) :
    (course >>= next).Completes size ambient := by
  rcases first with ⟨earlier, issued, complete, fit⟩
  rcases second with ⟨later, following, alsoComplete, alsoFit⟩
  refine ⟨earlier ++ later, issued.bind following, ?_, ?_⟩
  · exact List.forall_mem_append.2 ⟨complete, alsoComplete⟩
  · exact List.forall_mem_append.2 ⟨fit, alsoFit⟩

theorem Completes.under {course : Course R Unit} {added : List Int}
    (inside : course.Completes size (ambient ++ added)) :
    (course.under added).Completes size ambient := by
  rcases inside with ⟨entries, issued, complete, fit⟩
  refine ⟨_, issued.under added, ?_, ?_⟩
  · exact List.forall_mem_map.2 complete
  · exact List.forall_mem_map.2 fun entry member => TapeEntry.fits_under.2 (fit entry member)

variable [Scalar R]

theorem completes_ofGate {gate : Gate R} {targets : List Int}
    (arity : targets.length = gate.numQubits) (fits : QubitsFit size (targets ++ ambient)) :
    (ofGate .unrestricted gate targets).Completes size ambient := by
  refine ⟨_, ofGate_issues arity, List.forall_mem_singleton.2 arity, ?_⟩
  rw [List.forall_mem_singleton, TapeEntry.Fits, List.append_nil]
  exact fits

theorem Completes.play {course : Course R Unit} {engine : Engine R} {state : StateVector R}
    (completes : course.Completes state.numQubits engine.controls) (noTape : engine.tapes = [])
    (live : engine.memory = .holding state) :
    ∃ after, course.play engine = (.ok (), after) := by
  rcases completes with ⟨entries, issued, complete, fit⟩
  rcases issued.play engine noTape live complete fit with ⟨elapsed, played⟩
  exact ⟨_, played⟩

end Course

/-! ## Operations that can be applied -/

namespace Operation

variable [Scalar R] {guide : Guide R} {inner : Operation R}

/-- An operation that completes on any distinct qubits of the register apart from the controls in
force, if they are as many as it acts on. -/
def Applies (guide : Guide R) (size : Nat) (operation : Operation R) : Prop :=
  ∀ qubits ambient : List Int, (qubits.length : Int) = operation.numQubits →
    QubitsFit size (qubits ++ ambient) →
    (Course.ofOperation guide operation qubits .unrestricted).Completes size ambient

open Course

theorem applies_gate (primitive : Gate R) (name : String) :
    (gate primitive name).Applies guide size :=
  fun _ _ arity fits => completes_ofGate (Int.ofNat_inj.1 arity) fits

theorem Applies.phaseShifted (applies : inner.Applies guide size) (angle : PhaseAngle R) :
    (phaseShifted inner angle).Applies guide size :=
  fun qubits ambient arity fits =>
    (applies qubits ambient arity fits).bind (completes_ofGate rfl fits.right)

/-- The first qubits are the controls, and the wrapped operation is left with the others. -/
theorem Applies.controlled (applies : inner.Applies guide size) {count : Int} (proper : 0 ≤ count)
    (nonneg : 0 ≤ inner.numQubits) (name : String) :
    (controlled inner count name).Applies guide size := by
  intro qubits ambient arity fits
  have whole := Engine.splitAt_append count qubits
  apply Completes.under
  apply applies
  · rw [numQubits] at arity
    simp only [Engine.splitAt, if_pos proper, List.length_drop]
    omega
  · rw [← whole, List.append_assoc] at fits
    rw [← List.append_assoc]
    exact fits.of_perm List.perm_append_comm

end Operation

theorem PartShape.completes_ofSteps [Scalar R] {guide : Guide R}
    {view : PartId → Option (Operation R)} (fits : QubitsFit size (qubits ++ ambient)) :
    ∀ {steps : List (PartId × List Int)} {listed : Steps R},
      (∀ step ∈ steps, Operation.areDistinctBelow qubits.length step.2 = true) →
      (∀ step ∈ steps, ∀ operation, view step.1 = some operation →
        (step.2.length : Int) = operation.numQubits ∧ operation.Applies guide size) →
      unfoldedSteps view steps = some listed →
      (Course.ofSteps guide listed qubits .unrestricted).Completes size ambient
  | [], _, _, _, stands => by
    cases stands
    exact Course.completes_done
  | (step, places) :: rest, listed, apart, apply, stands => by
    rcases List.forall_mem_cons.1 apart with ⟨placesApart, apart⟩
    rcases List.forall_mem_cons.1 apply with ⟨first, later⟩
    rw [unfoldedSteps, Option.bind_eq_some_iff] at stands
    rcases stands with ⟨operation, found, mapped⟩
    rcases Option.map_eq_some_iff.1 mapped with ⟨further, followed, rfl⟩
    rcases first operation found with ⟨arity, applies⟩
    rcases Engine.exists_pick fits.left.1 placesApart with
      ⟨chosen, picked, length, distinct, among⟩
    have checked : Engine.checkArity operation chosen = .ok () := by
      rw [Engine.checkArity, length, if_neg (not_not_intro arity)]
    rw [Course.ofSteps, picked, Course.done_ok_bind, checked, Course.done_ok_bind]
    refine Course.Completes.bind ?_ (completes_ofSteps fits apart later followed)
    exact applies chosen ambient (by rw [length, arity]) (fits.of_subset distinct among)

/-! ## Parts that are put together from gates -/

/-- Gates, and ways to put parts together that add phases and controls only. -/
def PartShape.isDirect : PartShape R → Bool
  | gate _ | circuit _ | phaseShifted _ _ => true
  | controlled _ count => decide (0 ≤ count)
  | derivedAdjoint _ | routine _ _ => false

namespace Workshop

/-- A part that is put together from gates by circuits, phase shifts and control wrappers. -/
def IsDirect (workshop : Workshop R) (id : PartId) : Prop :=
  ∀ inner, workshop.Contains id inner → (workshop.part inner).shape.isDirect = true

variable {workshop : Workshop R} {id inner : PartId}

theorem IsDirect.member (direct : workshop.IsDirect id) (member : workshop.IsMember id inner) :
    workshop.IsDirect inner :=
  fun other inside => direct other (.head member inside)

variable [Scalar R] {operation : Operation R} (fits : ∀ id, (workshop.part id).Fits workshop)
  (nonneg : ∀ id, 0 ≤ (workshop.part id).numQubits)

include fits nonneg

/-- What a part stands for that is put together from gates can be applied. -/
theorem IsDirect.applies (direct : workshop.IsDirect id) {guide : Guide R} {depth : Nat}
    (stands : workshop.unfolded depth id = some operation) : operation.Applies guide size := by
  induction depth generalizing id operation with
  | zero => cases stands
  | succ depth ih =>
    have fit := fits id
    have proper := direct id .refl
    have inside : ∀ inner ∈ (workshop.part id).shape.members, ∀ found,
        workshop.unfolded depth inner = some found → found.Applies guide size :=
      fun inner member found followed => ih (direct.member member) followed
    rw [unfolded, Part.unfolded] at stands
    rw [Part.Fits] at fit
    cases shape : (workshop.part id).shape with
    | gate primitive =>
      rw [shape] at stands
      cases stands
      exact Operation.applies_gate primitive _
    | circuit steps =>
      rw [shape] at stands fit inside
      rcases Option.map_eq_some_iff.1 stands with ⟨listed, followed, rfl⟩
      intro qubits ambient arity qubitsFit
      refine PartShape.completes_ofSteps qubitsFit ?_ ?_ followed
      · intro step among
        rw [arity]
        exact (fit step among).2
      · intro step among found stepFollowed
        refine ⟨?_, inside step.1 (List.mem_map_of_mem among) found stepFollowed⟩
        rw [(fit step among).1, (unfolded_signature fits stepFollowed).1]
    | phaseShifted inner angle =>
      rw [shape] at stands inside
      rcases Option.map_eq_some_iff.1 stands with ⟨found, followed, rfl⟩
      exact (inside inner (List.mem_singleton_self inner) found followed).phaseShifted angle
    | controlled inner count =>
      rw [shape] at stands inside proper
      rcases Option.map_eq_some_iff.1 stands with ⟨found, followed, rfl⟩
      refine (inside inner (List.mem_singleton_self inner) found followed).controlled
        (of_decide_eq_true proper) ?_ _
      rw [(unfolded_signature fits followed).1]
      exact nonneg inner
    | derivedAdjoint inner =>
      rw [shape] at proper
      cases proper
    | routine body inverse =>
      rw [shape] at proper
      cases proper

/-- Applying such a part to distinct qubits of a register that is live completes. -/
theorem IsDirect.completes (direct : workshop.IsDirect id)
    (stands : workshop.unfolded depthLimit id = some operation) {engine : Engine R}
    {state : StateVector R} (unrestricted : engine.profile = .unrestricted)
    (noTape : engine.tapes = []) (live : engine.memory = .holding state)
    (arity : (qubits.length : Int) = (workshop.part id).numQubits)
    (qubitsFit : QubitsFit state.numQubits (qubits ++ engine.controls)) :
    ∃ last, apply id qubits (workshop, engine) = (.ok (), workshop, last) := by
  have sameArity := arity.trans (unfolded_signature fits stands).1.symm
  have completes : (Course.ofOperation (.ofDefinitions engine.definitions) operation qubits
      .unrestricted).Completes state.numQubits engine.controls :=
    IsDirect.applies fits nonneg direct stands qubits engine.controls sameArity qubitsFit
  rcases completes.play noTape live with ⟨last, played⟩
  have applied : Engine.apply operation qubits engine = (.ok (), last) := by
    rw [Engine.apply_eq, unrestricted, Operation.course, Engine.checkArity,
      if_neg (not_not_intro sameArity), Course.done_ok_bind]
    exact played
  refine ⟨last, ?_⟩
  rw [apply_runsAs fits stands qubits engine, applied]

end Workshop

end QuantumKata
