import QuantumKata.Proofs.TakingAdjoints

/-!
# The adjoint of a part

A call for the adjoint of a part keeps a workshop sound, whether it ends well or not.  When it ends
well, the part remembers the result; and it does end well for a part that supports the adjoint
throughout and is not nested too deeply.

The proof follows the call: for each kind of part it says what is made, given that calls for the
adjoints of the members are as they should be.
-/

noncomputable section

namespace QuantumKata

namespace Workshop

/-! ## The course of a call -/

section

variable {R : Type} {before : Workshop R} {id inner inverse : PartId}

theorem isMember_of_members (members : (before.part id).shape.members = [inner]) :
    before.IsMember id inner := by
  rw [IsMember, members]
  exact List.mem_singleton_self inner

theorem settles_around (members : (before.part id).shape.members = [inner])
    (settles : before.Settles inner) : before.Settles id := by
  constructor
  rintro other ⟨-, member⟩
  rw [IsMember, members] at member
  rwa [List.mem_singleton.1 member]

variable [Scalar R] {fuel : Nat} {after : Workshop R} {fault : Fault}

theorem adjointWithin_of_unsupported (incapable : (before.part id).capabilities.adjoint = false) :
    adjointWithin (fuel + 1) id before = (.error (.noAdjoint (before.part id).name), before) := by
  simp [adjointWithin, incapable]

section

variable {call : PartId → WorkshopAction R PartId} {primitive : Gate R} {body : InstructionPlans R}

theorem makeAdjoint_of_isSelfAdjoint (shape : (before.part id).shape = .gate primitive)
    (selfAdjoint : primitive.isSelfAdjoint = true) :
    makeAdjoint call id before = (.ok id, before) := by
  simp [makeAdjoint, shape, selfAdjoint]

theorem makeAdjoint_of_gate {undone : Gate R} (shape : (before.part id).shape = .gate primitive)
    (other : primitive.isSelfAdjoint = false) (built : primitive.adjoint = .ok undone) :
    makeAdjoint call id before = (.ok before.parts.size, before.extended
      ⟨.gate undone, undone.text, undone.numQubits, .all, none⟩) := by
  simp [makeAdjoint, shape, other, built, add_apply]

theorem makeAdjoint_of_singular (shape : (before.part id).shape = .gate primitive)
    (other : primitive.isSelfAdjoint = false) (refused : primitive.adjoint = .error fault) :
    makeAdjoint call id before = (.error fault, before) := by
  simp [makeAdjoint, shape, other, refused]

theorem makeAdjoint_of_circuit {steps : List (PartId × List Int)}
    (shape : (before.part id).shape = .circuit steps) (nonneg : 0 ≤ (before.part id).numQubits) :
    makeAdjoint call id before = (do
      addAdjointSteps call before.parts.size steps.reverse
      return before.parts.size : WorkshopAction R PartId)
        (before.extended (emptyPart (before.part id).numQubits
          (Operation.adjointName (before.part id).name))) := by
  simp only [makeAdjoint, look_bind, shape]
  rw [Action.bind_of_ok (emptyCircuit_of_nonneg nonneg)]

theorem makeAdjoint_of_phaseShifted {angle : PhaseAngle R}
    (shape : (before.part id).shape = .phaseShifted inner angle) :
    makeAdjoint call id before =
      (call inner >>= fun undone => phaseShift undone angle.opposite) before := by
  simp [makeAdjoint, shape]

theorem makeAdjoint_of_controlled {count : Int}
    (shape : (before.part id).shape = .controlled inner count) :
    makeAdjoint call id before =
      (call inner >>= fun undone => controlWrapper undone count none) before := by
  simp [makeAdjoint, shape]

theorem makeAdjoint_of_absent (shape : (before.part id).shape = .routine body .absent) :
    makeAdjoint call id before = (.ok before.parts.size, before.extended
      ⟨.derivedAdjoint id, Operation.adjointName (before.part id).name,
        (before.part id).numQubits, (before.part id).capabilities, some id⟩) := by
  simp [makeAdjoint, shape, add_apply]

theorem makeAdjoint_of_written {written : InstructionPlans R}
    (shape : (before.part id).shape = .routine body (.written written)) :
    makeAdjoint call id before = (.ok before.parts.size, before.extended
      ⟨.routine written .absent, Operation.adjointName (before.part id).name,
        (before.part id).numQubits, (before.part id).capabilities, none⟩) := by
  simp [makeAdjoint, shape, add_apply]

end

variable (capable : (before.part id).capabilities.adjoint = true)

include capable

theorem adjointWithin_of_remembers (remembers : before.Remembers id inverse) :
    adjointWithin (fuel + 1) id before = (.ok inverse, before) := by
  rw [Remembers] at remembers
  simp [adjointWithin, capable, remembers]

variable (unremembered : (before.part id).adjoint = none)

include unremembered

theorem adjointWithin_of_error
    (failed : makeAdjoint (adjointWithin fuel) id before = (.error fault, after)) :
    adjointWithin (fuel + 1) id before = (.error fault, after) := by
  simp [adjointWithin, capable, unremembered, Action.bind_of_error failed]

theorem adjointWithin_of_ok
    (made : makeAdjoint (adjointWithin fuel) id before = (.ok inverse, after)) :
    adjointWithin (fuel + 1) id before = (.ok inverse, after.linked id inverse) := by
  have followed : adjointWithin (fuel + 1) id before = (do
      if inverse ≠ id then change inverse fun part => { part with adjoint := some id }
      change id fun part => { part with adjoint := some inverse }
      return inverse : WorkshopAction R PartId) after := by
    simp [adjointWithin, capable, unremembered, Action.bind_of_ok made]
  rw [followed, linked]
  by_cases same : inverse = id
  · simp only [same, ne_eq, not_true_eq_false, if_false, if_true]
    rfl
  · simp only [same, ne_eq, not_false_eq_true, if_false, if_true]
    rfl

end

variable {definitions : Definitions ℝ} {stale : Set PartId} {fuel : Nat}
  {before between after workshop : Workshop ℝ} {id inner inverse : PartId} {fault : Fault}

/-- What a call for the adjoint of a part comes to.  It fails only where the part is nested too
deeply or something inside does not support the adjoint. -/
inductive Takes (definitions : Definitions ℝ) (stale : Set PartId) (fuel : Nat) (id : PartId)
    (before : Workshop ℝ) : Except Fault PartId × Workshop ℝ → Prop where
  | failed {fault : Fault} {after : Workshop ℝ}
      (advances : Advances definitions stale (before.OpensTo id) before after)
      (hopeless : ∀ operation, before.unfolded fuel id = some operation → ¬before.Supports id) :
      Takes definitions stale fuel id before (.error fault, after)
  | taken {inverse : PartId} {after : Workshop ℝ}
      (advances : Advances definitions stale (before.OpensTo id) before after)
      (remembers : after.Remembers id inverse) (settles : before.Settles id) :
      Takes definitions stale fuel id before (.ok inverse, after)

theorem Takes.advances {taken : Except Fault PartId × Workshop ℝ}
    (takes : Takes definitions stale fuel id before taken) :
    Advances definitions stale (before.OpensTo id) before taken.2 := by
  cases takes with
  | failed advances hopeless => exact advances
  | taken advances remembers settles => exact advances

/-- Calls for the adjoints of parts that are as they should be. -/
def TakesAdjoints (definitions : Definitions ℝ) (stale : Set PartId) (fuel : Nat)
    (call : PartId → WorkshopAction ℝ PartId) : Prop :=
  ∀ before : Workshop ℝ, before.Sound definitions stale → ∀ id < before.parts.size,
    Takes definitions stale fuel id before (call id before)

/-! ## Around the making -/

/-- What making the adjoint of a part comes to, where the part remembers none yet. -/
inductive Makes (definitions : Definitions ℝ) (stale : Set PartId) (fuel : Nat) (id : PartId)
    (before : Workshop ℝ) : Except Fault PartId × Workshop ℝ → Prop where
  | failed {fault : Fault} {after : Workshop ℝ}
      (advances : Advances definitions stale (before.OpensBeyond id) before after)
      (hopeless : ∀ operation, before.unfolded fuel id = some operation → ¬before.Supports id) :
      Makes definitions stale fuel id before (.error fault, after)
  | made {inverse : PartId} {after : Workshop ℝ} (inside : inverse < after.parts.size)
      (advances : Advances definitions stale (before.OpensTo id) before (after.linked id inverse))
      (settles : before.Settles id) :
      Makes definitions stale fuel id before (.ok inverse, after)

section

variable (capable : (before.part id).capabilities.adjoint = true)
  (unremembered : (before.part id).adjoint = none)

include capable unremembered

/-- A call is as it should be if the making is, where it comes to that. -/
theorem takes_of_makes (old : id < before.parts.size)
    (makes : Makes definitions stale (fuel + 1) id before
      (makeAdjoint (adjointWithin fuel) id before)) :
    Takes definitions stale (fuel + 1) id before (adjointWithin (fuel + 1) id before) := by
  rcases made : makeAdjoint (adjointWithin fuel) id before with ⟨outcome, after⟩
  rw [made] at makes
  cases makes with
  | failed advances hopeless =>
    rw [adjointWithin_of_error capable unremembered made]
    exact .failed (advances.mono fun _ => opensTo_of_opensBeyond) hopeless
  | @made inverse _ inside advances settles =>
    rw [adjointWithin_of_ok capable unremembered made]
    have oldAfter : id < after.parts.size :=
      old.trans_le (advances.grows.size.trans_eq size_linked)
    exact .taken advances (remembers_linked oldAfter inside) settles

end

theorem takes_of_unsupported (sound : before.Sound definitions stale)
    (incapable : (before.part id).capabilities.adjoint = false) :
    Takes definitions stale (fuel + 1) id before (adjointWithin (fuel + 1) id before) := by
  rw [adjointWithin_of_unsupported incapable]
  refine .failed (.refl sound) fun _ _ supports => ?_
  cases incapable.symm.trans (supports id .refl)

theorem takes_of_remembers (sound : before.Sound definitions stale)
    (capable : (before.part id).capabilities.adjoint = true)
    (remembers : before.Remembers id inverse) :
    Takes definitions stale (fuel + 1) id before (adjointWithin (fuel + 1) id before) := by
  rw [adjointWithin_of_remembers capable remembers]
  exact .taken (.refl sound) remembers (settles_of_remembers remembers)

namespace Prepared

variable {made : Workshop ℝ}
  (prepared : Prepared definitions stale id inverse before between made)

include prepared

/-- What is made is as it should be if it counters what it is made for. -/
theorem makes (sound : before.Sound definitions stale)
    (counters : (made.linked id inverse).IsUpToDate stale id →
      (made.linked id inverse).Counters definitions id inverse) :
    Makes definitions stale fuel id before (.ok inverse, made) :=
  .made prepared.inside (prepared.linked sound counters) prepared.settles

theorem grows_before : before.Grows (made.linked id inverse) :=
  prepared.advances.grows.trans prepared.grows_linked

theorem shape_linked :
    ((made.linked id inverse).part id).shape = (before.part id).shape :=
  Part.shape_eq_of_bare (prepared.grows_before.same id prepared.old)

/-- A member and the adjoint that it remembers counter each other if the part is up to date. -/
theorem counters_member {undone : PartId} (member : before.IsMember id inner)
    (remembers : between.Remembers inner undone)
    (upToDate : (made.linked id inverse).IsUpToDate stale id) :
    (made.linked id inverse).Counters definitions inner undone := by
  have sound := prepared.advances.sound
  have oldInner := lt_size_of_remembers remembers
  refine sound.counters_grow prepared.grows_linked oldInner (sound.partner_lt _ _ remembers) ?_
  refine sound.counters inner undone remembers
    (sound.isUpToDate_of_grow prepared.grows_linked oldInner ?_)
  intro other concerned
  refine upToDate other (.head (.inl ?_) concerned)
  exact (prepared.grows_before.isMember_iff prepared.old).2 member

end Prepared

/-! ## Gates -/

/-- Making the adjoint of a part with one member is as it should be if what is put around the
adjoint of the member is. -/
theorem makes_around {call : PartId → WorkshopAction ℝ PartId}
    (sound : before.Sound definitions stale) (unremembered : (before.part id).adjoint = none)
    (members : (before.part id).shape.members = [inner])
    (takes : Takes definitions stale fuel inner before (call inner before))
    (wrap : PartId → WorkshopAction ℝ PartId)
    (runs : makeAdjoint call id before = (call inner >>= wrap) before)
    (stands : ∀ operation, before.unfolded (fuel + 1) id = some operation →
      ∃ found, before.unfolded fuel inner = some found)
    (wraps : ∀ between undone,
      Advances definitions stale (before.OpensBeyond id) before between →
      between.Remembers inner undone → before.Settles id →
      ∃ made, wrap undone between = (.ok between.parts.size, made) ∧
        Prepared definitions stale id between.parts.size before between made ∧
        ((made.linked id between.parts.size).Counters definitions inner undone →
          (made.linked id between.parts.size).Counters definitions id between.parts.size)) :
    Makes definitions stale (fuel + 1) id before (makeAdjoint call id before) := by
  have member := isMember_of_members members
  have opens : before.Opens id inner := ⟨unremembered, member⟩
  have beyond : ∀ other, before.OpensTo inner other → before.OpensBeyond id other :=
    fun other onwards => ⟨inner, opens, onwards⟩
  rcases called : call inner before with ⟨outcome, between⟩
  rw [called] at takes
  cases takes with
  | failed advances hopeless =>
    rw [runs, Action.bind_of_error called]
    refine .failed (advances.mono beyond) fun operation standing supports => ?_
    rcases stands operation standing with ⟨found, followed⟩
    exact hopeless found followed fun other inside => supports other (.head member inside)
  | @taken undone _ advances remembers settlesInner =>
    have settles : before.Settles id := settles_around members settlesInner
    rcases wraps between undone (advances.mono beyond) remembers settles with
      ⟨made, wrapped, prepared, counters⟩
    rw [runs, Action.bind_of_ok called, wrapped]
    exact prepared.makes sound fun upToDate =>
      counters (prepared.counters_member member remembers upToDate)

/-- The adjoint that a part remembers has the size that the part had before. -/
theorem Advances.numQubits_eq {reached : PartId → Prop} {undone : PartId}
    (advances : Advances definitions stale reached before between)
    (old : id < before.parts.size) (remembers : between.Remembers id undone) :
    (between.part undone).numQubits = (before.part id).numQubits :=
  (advances.sound.partner_numQubits _ _ remembers).trans
    (Part.numQubits_eq_of_bare (advances.grows.same id old))

section

variable (sound : before.Sound definitions stale) (old : id < before.parts.size)
  (unremembered : (before.part id).adjoint = none)

include sound old unremembered

theorem makes_gate {primitive : Gate ℝ} (shape : (before.part id).shape = .gate primitive)
    (call : PartId → WorkshopAction ℝ PartId) :
    Makes definitions stale fuel id before (makeAdjoint call id before) := by
  have settles : before.Settles id := by
    constructor
    rintro inner ⟨-, member⟩
    rw [IsMember, shape] at member
    cases member
  have coherent := (sound.inOrder id).coherent
  rw [Part.IsCoherent, shape] at coherent
  have fits := (sound.inOrder id).fits
  rw [Part.Fits, shape] at fits
  by_cases selfAdjoint : primitive.isSelfAdjoint = true
  · have prepared : Prepared definitions stale id id before before before :=
      { advances := .refl sound
        settles := settles
        old := old
        unremembered := unremembered
        grows := .refl before
        inside := old
        fresh := .inl rfl
        new := fun _ outside inside => absurd inside (not_lt.2 outside)
        links := fun _ _ remembers => .inl remembers
        free := fun _ remembers => by cases remembers.symm.trans unremembered
        members := fun _ member => .single (.inl member)
        inOrder := fun outside => absurd old (not_lt.2 outside)
        sizes := rfl }
    rw [makeAdjoint_of_isSelfAdjoint shape selfAdjoint]
    apply prepared.makes sound
    intro _
    have linkedShape := prepared.shape_linked.trans shape
    exact counters_gate linkedShape linkedShape coherent.1
      (Gate.adjoint_of_isSelfAdjoint (coherent.2 unremembered) selfAdjoint)
  · rcases Gate.exists_adjoint coherent.1 with ⟨inverse, built⟩
    have sizes : (inverse.numQubits : Int) = (before.part id).numQubits :=
      (congrArg Int.ofNat (Gate.adjoint_numQubits built)).trans fits.symm
    have prepared := prepared_extended
      ⟨.gate inverse, inverse.text, inverse.numQubits, .all, none⟩ (.refl sound) settles old
      unremembered (.inl rfl) (List.forall_mem_nil _) rfl (Int.natCast_nonneg _) sizes
      ⟨Gate.adjoint_isUnitary coherent.1 built, fun nothing => by cases nothing⟩ (.inl rfl)
    rw [makeAdjoint_of_gate shape (Bool.eq_false_of_not_eq_true selfAdjoint) built]
    apply prepared.makes sound
    intro _
    refine counters_gate (prepared.shape_linked.trans shape) ?_ coherent.1 built
    rw [Part.shape_eq_of_bare prepared.bare_eq, part_extended_size]

/-! ## Parts with one member -/

/-- What is put around the adjoint of the member of a part. -/
theorem prepared_around {undone : PartId} (made : Part ℝ)
    (advances : Advances definitions stale (before.OpensBeyond id) before between)
    (settles : before.Settles id) (member : before.IsMember id inner)
    (remembers : between.Remembers inner undone) (around : made.shape.members = [undone])
    (unlinked : made.adjoint = none)
    (fits : made.Fits between) (sizes : made.numQubits = (before.part id).numQubits)
    (coherent : Part.IsCoherent definitions { made with adjoint := some id })
    (notDerived : made.shape.isDerivedAdjoint = false) :
    Prepared definitions stale id between.parts.size before between (between.extended made) := by
  have sizesBetween := Part.numQubits_eq_of_bare (advances.grows.same id old)
  refine prepared_extended made advances settles old unremembered (.inl unlinked) ?_ fits ?_
    (sizes.trans sizesBetween.symm) coherent (.inl notDerived)
  · intro inside isInside
    rw [around] at isInside
    cases List.mem_singleton.1 isInside
    exact ⟨advances.sound.partner_lt _ _ remembers,
      .head (.inl ((advances.grows.isMember_iff old).2 member)) (.single (.inr remembers))⟩
  · rw [sizes]
    exact (sound.inOrder id).nonneg

section

variable {call : PartId → WorkshopAction ℝ PartId}
  (takes : Takes definitions stale fuel inner before (call inner before))

include takes

theorem makes_phaseShifted {angle : PhaseAngle ℝ}
    (shape : (before.part id).shape = .phaseShifted inner angle) :
    Makes definitions stale (fuel + 1) id before (makeAdjoint call id before) := by
  have members : (before.part id).shape.members = [inner] := congrArg PartShape.members shape
  have oldInner := (sound.inOrder id).members _ (isMember_of_members members)
  have fits := (sound.inOrder id).fits
  rw [Part.Fits, shape] at fits
  refine makes_around sound unremembered members takes
    (fun undone => phaseShift undone angle.opposite) (makeAdjoint_of_phaseShifted shape) ?_ ?_
  · intro operation stands
    rw [unfolded_of_phaseShifted shape] at stands
    exact (Option.map_eq_some_iff.1 stands).imp fun _ => And.left
  · intro between undone advances remembers settles
    have sizes := (advances.numQubits_eq oldInner remembers).trans fits.1.symm
    have prepared := prepared_around sound old unremembered
      (between.shiftOf undone angle.opposite) advances settles
      (isMember_of_members members) remembers rfl rfl
      ⟨rfl, rfl⟩ sizes trivial rfl
    refine ⟨_, phaseShift_apply, prepared, fun counters => ?_⟩
    refine counters_phaseShifted (prepared.shape_linked.trans shape) ?_ counters
    rw [Part.shape_eq_of_bare prepared.bare_eq, part_extended_size, shiftOf]

theorem makes_controlled {count : Int}
    (shape : (before.part id).shape = .controlled inner count) :
    Makes definitions stale (fuel + 1) id before (makeAdjoint call id before) := by
  have members : (before.part id).shape.members = [inner] := congrArg PartShape.members shape
  have oldInner := (sound.inOrder id).members _ (isMember_of_members members)
  have fits := (sound.inOrder id).fits
  rw [Part.Fits, shape] at fits
  refine makes_around sound unremembered members takes
    (fun undone => controlWrapper undone count none) (makeAdjoint_of_controlled shape) ?_ ?_
  · intro operation stands
    rw [unfolded_of_controlled shape] at stands
    exact (Option.map_eq_some_iff.1 stands).imp fun _ => And.left
  · intro between undone advances remembers settles
    have sizes : (between.part undone).numQubits + count = (before.part id).numQubits :=
      (congrArg (· + count) (advances.numQubits_eq oldInner remembers)).trans fits.symm
    have prepared := prepared_around sound old unremembered
      (between.wrapperOf undone count (between.wrapperName undone count none)) advances
      settles (isMember_of_members members) remembers rfl rfl rfl sizes trivial rfl
    refine ⟨_, controlWrapper_of_nonneg ?_, prepared, fun counters => ?_⟩
    · exact (sound.inOrder id).nonneg.trans_eq sizes.symm
    · refine counters_controlled (prepared.shape_linked.trans shape) ?_ counters
      rw [Part.shape_eq_of_bare prepared.bare_eq, part_extended_size, wrapperOf]

end

/-! ## Routines -/

/-- The adjoint of a routine plays its tape backwards. -/
theorem makes_routine {body : InstructionPlans ℝ} {inverse : InversePlan ℝ}
    (shape : (before.part id).shape = .routine body inverse)
    (capable : (before.part id).capabilities.adjoint = true)
    (call : PartId → WorkshopAction ℝ PartId) :
    Makes definitions stale fuel id before (makeAdjoint call id before) := by
  have settles : before.Settles id := by
    constructor
    rintro inner ⟨-, member⟩
    rw [IsMember, shape] at member
    cases member
  have coherent := (sound.inOrder id).coherent
  rw [Part.IsCoherent, shape] at coherent
  rcases coherent capable with ⟨rfl, follows⟩
  have prepared := prepared_extended
    ⟨.derivedAdjoint id, Operation.adjointName (before.part id).name,
      (before.part id).numQubits, (before.part id).capabilities, some id⟩
    (.refl sound) settles old unremembered (.inr rfl)
    (fun inner member => by
      cases List.mem_singleton.1 member
      exact ⟨old, .refl⟩)
    ⟨rfl, rfl⟩ (sound.inOrder id).nonneg rfl trivial
    (.inr rfl)
  rw [makeAdjoint_of_absent shape]
  apply prepared.makes sound
  intro _
  apply counters_derivedAdjoint
  · rw [Part.shape_eq_of_bare prepared.bare_eq, part_extended_size]
  · rintro (_ | depth) operation stands
    · cases stands
    · rw [unfolded, Part.unfolded, prepared.shape_linked.trans shape] at stands
      dsimp only at stands
      split at stands
      case isTrue plain =>
        cases stands
        exact follows plain
      case isFalse => cases stands

end

end Workshop

end QuantumKata

end
