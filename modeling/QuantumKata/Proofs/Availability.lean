import QuantumKata.Proofs.Involution
import QuantumKata.Proofs.Unrefused
import QuantumKata.Proofs.Upholding

/-!
# Which variants are available

What a part supports decides on its variants.  The adjoint is refused for a missing capability
exactly if the part does not support it, however the part is put together, and the same goes for the
controlled variant.  The adjoint has the size and the capabilities of the part, so that it makes no
difference in which order the two are asked for.

This is so for every part that concerns nothing overtaken, at any moment of building and with parts
shared in any way, and for whatever variants of it are taken.  A part that is free of routines, and
every variant of it, can be applied without being refused.
-/

noncomputable section

namespace QuantumKata

theorem Capabilities.eq_all_iff {capabilities : Capabilities} : capabilities = .all ↔
    capabilities.adjoint = true ∧ capabilities.controlled = true := by
  rcases capabilities with ⟨adjoint, controlled⟩
  simp [Capabilities.all]

namespace Action

variable {σ α : Type}

/-- An action fails for a missing capability. -/
def IsRefused (action : Action σ α) (state : σ) : Prop :=
  ∃ fault, (action state).1 = .error fault ∧ fault.kind = .capability

/-- An action ends well. -/
def Succeeds (action : Action σ α) (state : σ) : Prop :=
  ∃ value after, action state = (.ok value, after)

theorem isRefused_bind_iff {β : Type} {action : Action σ α} {next : α → Action σ β} {state : σ} :
    (action >>= next).IsRefused state ↔ action.IsRefused state ∨
      ∃ value after, action state = (.ok value, after) ∧ (next value).IsRefused after := by
  rw [IsRefused, bind_apply]
  rcases acted : action state with ⟨fault | value, after⟩
  · simp [IsRefused, acted]
  · simp [IsRefused, acted]

theorem succeeds_bind_iff {β : Type} {action : Action σ α} {next : α → Action σ β} {state : σ} :
    (action >>= next).Succeeds state ↔
      ∃ value after, action state = (.ok value, after) ∧ (next value).Succeeds after := by
  constructor
  · rintro ⟨last, left, followed⟩
    obtain ⟨value, after, acted, further⟩ := bind_eq_ok_iff.1 followed
    exact ⟨value, after, acted, last, left, further⟩
  · rintro ⟨value, after, acted, last, left, further⟩
    exact ⟨last, left, bind_eq_ok_iff.2 ⟨value, after, acted, further⟩⟩

theorem Succeeds.not_isRefused {action : Action σ α} {state : σ} (succeeds : action.Succeeds state) :
    ¬action.IsRefused state := by
  obtain ⟨value, after, acted⟩ := succeeds
  rintro ⟨fault, failed, -⟩
  rw [acted] at failed
  cases failed

theorem not_isRefused_of_spares {action : Action σ α} {state : σ}
    (spares : Fault.Spares (action state).1) : ¬action.IsRefused state :=
  fun ⟨fault, failed, missing⟩ => spares fault failed missing

end Action

namespace Workshop

/-! ## Building, and what it overtakes -/

section

variable {R : Type} [Scalar R]

/-- The parts that are overtaken after a step.  A step that fails changes no part. -/
def Crafting.overtakes (crafting : Crafting R) (workshop : Workshop R)
    (overtaken : Set PartId) : Set PartId :=
  match crafting, (crafting.perform workshop).1 with
  | .making (.append changed _ _), .ok _ => workshop.overtakenBy changed overtaken
  | .writing changed _, .ok _ => workshop.overtakenBy changed overtaken
  | _, _ => overtaken

section

variable {workshop after : Workshop R} {overtaken : Set PartId} {whole step changed made : PartId}
  {qubits : List Int} {body : InstructionPlans R} {fault : Fault}

theorem overtakes_append_of_ok
    (performed : (Making.append whole step qubits).perform workshop = (.ok made, after)) :
    (Crafting.making (.append whole step qubits)).overtakes workshop overtaken =
      workshop.overtakenBy whole overtaken := by
  have done : ((Crafting.making (.append whole step qubits)).perform workshop).1 = .ok made :=
    congrArg Prod.fst performed
  simp only [Crafting.overtakes, done]

/-- A step of building that fails overtakes nothing. -/
theorem overtakes_making_of_error {making : Making R}
    (performed : making.perform workshop = (.error fault, after)) :
    (Crafting.making making).overtakes workshop overtaken = overtaken := by
  have done : ((Crafting.making making).perform workshop).1 = .error fault :=
    congrArg Prod.fst performed
  cases making with
  | append whole step qubits => simp only [Crafting.overtakes, done]
  | _ => rfl

/-- A new part overtakes nothing. -/
theorem overtakes_of_mayMake {making : Making R} {fresh : Part R}
    (mayMake : making.MayMake workshop fresh) :
    (Crafting.making making).overtakes workshop overtaken = overtaken := by
  cases making with
  | append whole step qubits => exact mayMake.elim
  | _ => rfl

theorem overtakes_writing_of_ok
    (performed : (Crafting.writing changed body).perform workshop = (.ok made, after)) :
    (Crafting.writing changed body).overtakes workshop overtaken =
      workshop.overtakenBy changed overtaken := by
  simp only [Crafting.overtakes, performed]

theorem overtakes_writing_of_error
    (performed : (Crafting.writing changed body).perform workshop = (.error fault, after)) :
    (Crafting.writing changed body).overtakes workshop overtaken = overtaken := by
  simp only [Crafting.overtakes, performed]

end

/-- What workshops come to by building, with the parts that are overtaken. -/
inductive Tended : Workshop R → Set PartId → Prop where
  | empty : Tended {} ∅
  | craft {workshop : Workshop R} {overtaken : Set PartId} (crafting : Crafting R)
      (earlier : Tended workshop overtaken)
      (known : ∀ id ∈ crafting.mentions, id < workshop.parts.size) :
      Tended (crafting.perform workshop).2 (crafting.overtakes workshop overtaken)

variable {workshop before after : Workshop R} {overtaken : Set PartId}
  {id inner : PartId}

theorem Tended.exists_crafted (tended : Tended workshop overtaken) :
    ∃ disowned, Crafted workshop disowned := by
  induction tended with
  | empty => exact ⟨_, .empty⟩
  | craft crafting _ known ih =>
    obtain ⟨disowned, crafted⟩ := ih
    exact ⟨_, crafted.craft crafting known⟩

/-- What a step puts into a workshop supports what its members do. -/
theorem Making.MayMake.inherits {making : Making R} {made : Part R}
    (mayMake : making.MayMake workshop made) : made.capabilities = made.inherited workshop := by
  cases making with
  | gate _ _ | routine _ _ _ _ | circuit _ _ | phaseShift _ _ =>
    cases mayMake
    rfl
  | controlWrapper _ _ _ | controlledBy _ _ =>
    obtain ⟨inner, count, name, rfl⟩ := mayMake
    rfl
  | append _ _ _ | adjoint _ => exact mayMake.elim

/-- A reversed tape put around a part agrees with the part. -/
theorem Faithful.reversed (faithful : workshop.Faithful overtaken) (tidy : workshop.Tidy)
    (known : inner < workshop.parts.size) :
    (workshop.extended (workshop.reversedPart inner)).Faithful overtaken := by
  refine faithful.extended tidy (List.forall_mem_singleton.2 known) rfl fun partner remembers => ?_
  cases remembers
  constructor
  case capabilities =>
    rw [part_extended_size, part_extended_of_ne known.ne, reversedPart]
  case routineFree =>
    have around : (workshop.extended (workshop.reversedPart inner)).IsRoutineFree
        workshop.parts.size ↔ _ := isRoutineFree_iff
    rw [around, part_extended_size]
    exact ⟨fun free => ⟨rfl, List.forall_mem_singleton.2 free⟩,
      fun free => List.forall_mem_singleton.1 free.2⟩

/-- Each step of building keeps a workshop faithful. -/
theorem Making.faithful (making : Making R) (tidy : workshop.Tidy) (tapes : workshop.OwnsTapes)
    (faithful : workshop.Faithful overtaken)
    (known : ∀ id ∈ making.mentions, id < workshop.parts.size) :
    (making.perform workshop).2.Faithful
      ((Crafting.making making).overtakes workshop overtaken) := by
  have leads := making.leads tidy.nonneg tidy.member_lt known
  generalize performed : making.perform workshop = result at leads ⊢
  cases leads with
  | refused fault =>
    rw [overtakes_making_of_error performed]
    exact faithful
  | joined mayMake joins =>
    rw [overtakes_of_mayMake mayMake]
    exact faithful.extended_unlinked tidy joins.members mayMake.inherits joins.unlinked
  | appended old oldStep shape arity distinct =>
    rw [overtakes_append_of_ok performed]
    exact faithful.appended old shape
  | @adjoint id old =>
    exact (upholdsAdjoints_adjointWithin overtaken depthLimit workshop tidy tapes faithful id
      old).faithful

theorem Crafting.faithful (crafting : Crafting R) (tidy : workshop.Tidy)
    (tapes : workshop.OwnsTapes) (faithful : workshop.Faithful overtaken)
    (known : ∀ id ∈ crafting.mentions, id < workshop.parts.size) :
    (crafting.perform workshop).2.Faithful (crafting.overtakes workshop overtaken) := by
  cases crafting with
  | making making => exact making.faithful tidy tapes faithful known
  | writing id body =>
    rcases defineAdjoint_cases workshop id body with ⟨fault, failed⟩ | ⟨forward, written⟩
    · have performed : (writing id body).perform workshop = (.error fault, workshop) := by
        rw [perform, Action.bind_of_error failed]
      rw [performed, overtakes_writing_of_error performed]
      exact faithful
    · have performed : (writing id body).perform workshop = (.ok id, workshop.altered id fun part =>
          { part with shape := .routine forward (.written body), adjoint := none }) := by
        rw [perform, Action.bind_of_ok written]
        rfl
      rw [performed, overtakes_writing_of_ok performed]
      exact faithful.altered (known id (List.mem_singleton_self id)) rfl fun _ _ => rfl
  | reversing inner => exact faithful.reversed tidy (known inner (List.mem_singleton_self inner))

/-- Whatever has been built is faithful. -/
theorem Tended.faithful (tended : Tended workshop overtaken) : workshop.Faithful overtaken := by
  induction tended with
  | empty => exact faithful_empty
  | craft crafting earlier known ih =>
    obtain ⟨disowned, crafted⟩ := earlier.exists_crafted
    exact crafting.faithful crafted.accords.tidy crafted.accords.tapes ih known

end

/-! ## Parts that can be undone -/

section

variable {R : Type} [Scalar R] {workshop before after : Workshop R} {overtaken region : Set PartId}
  {id inner inverse variant made : PartId} {count : Int} {depth : Nat}

/-- Every gate inside a part has an inverse, and parts are nested less than `depth` deeply. -/
def IsUndoable (workshop : Workshop R) : (depth : Nat) → PartId → Prop
  | 0, _ => False
  | depth + 1, id =>
    (∀ primitive, (workshop.part id).shape = .gate primitive →
      ∃ undone, primitive.adjoint = .ok undone) ∧
    ∀ inner, workshop.IsMember id inner → workshop.IsUndoable depth inner

theorem IsUndoable.succ (undoable : workshop.IsUndoable depth id) :
    workshop.IsUndoable (depth + 1) id := by
  induction depth generalizing id with
  | zero => exact undoable.elim
  | succ depth ih => exact ⟨undoable.1, fun inner member => ih (undoable.2 inner member)⟩

theorem IsUndoable.grow (undoable : before.IsUndoable depth id) (tidy : before.Tidy)
    (grows : before.Grows after) (old : id < before.parts.size) :
    after.IsUndoable depth id := by
  induction depth generalizing id with
  | zero => exact undoable
  | succ depth ih =>
    constructor
    · intro primitive shape
      exact undoable.1 primitive ((Part.shape_eq_of_bare (grows.same id old)).symm.trans shape)
    · intro inner member
      have wasMember := (grows.isMember_iff old).1 member
      exact ih (undoable.2 inner wasMember) (tidy.member_lt id inner wasMember)

/-! ## Parts that concern nothing overtaken -/

/-- A part of a faithful workshop in a region without overtaken parts. -/
structure Sheltered (overtaken region : Set PartId) (workshop : Workshop R) (id : PartId) :
    Prop where
  tidy : workshop.Tidy
  tapes : workshop.OwnsTapes
  faithful : workshop.Faithful overtaken
  isRegion : workshop.IsRegion region
  current : region ⊆ overtakenᶜ
  inside : id ∈ region
  known : id < workshop.parts.size

theorem Tended.sheltered (tended : Tended workshop overtaken) (known : id < workshop.parts.size)
    (upToDate : workshop.IsUpToDate overtaken id) :
    Sheltered overtaken (workshop.surroundings id) workshop id := by
  obtain ⟨disowned, crafted⟩ := tended.exists_crafted
  exact ⟨crafted.accords.tidy, crafted.accords.tapes, tended.faithful,
    isRegion_surroundings workshop id, upToDate.surroundings_subset tended.faithful.known,
    mem_surroundings_self workshop id, known⟩

namespace Sheltered

variable (sheltered : Sheltered overtaken region workshop id)

include sheltered

theorem inherits : (workshop.part id).capabilities = (workshop.part id).inherited workshop :=
  sheltered.faithful.inherits id (sheltered.current sheltered.inside)

theorem member (member : workshop.IsMember id inner) :
    Sheltered overtaken region workshop inner :=
  { sheltered with
    inside := sheltered.isRegion.of_tied sheltered.inside (.inl member)
    known := sheltered.tidy.member_lt id inner member }

theorem yields : Yields depthLimit id workshop (adjoint id workshop) :=
  yieldsAdjoints_adjointWithin depthLimit workshop sheltered.tidy sheltered.tapes id sheltered.known

theorem upholds : Upholds overtaken id workshop (adjoint id workshop) :=
  upholdsAdjoints_adjointWithin overtaken depthLimit workshop sheltered.tidy sheltered.tapes
    sheltered.faithful id sheltered.known

/-! ### The adjoint -/

theorem adjoint_of_ok (taken : adjoint id workshop = (.ok inverse, after)) :
    Sheltered overtaken region after inverse ∧
      (after.part inverse).numQubits = (workshop.part id).numQubits ∧
      (after.part inverse).capabilities = (workshop.part id).capabilities ∧
      (after.IsRoutineFree inverse ↔ workshop.IsRoutineFree id) := by
  have stays := staysIn_adjointWithin (R := R) depthLimit sheltered.inside
  have isRegion := stays.isRegion workshop sheltered.isRegion
  have inside := stays.answers workshop sheltered.isRegion inverse (congrArg Prod.fst taken)
  have upholds := sheltered.upholds
  have yields := sheltered.yields
  change (adjoint id workshop).2.IsRegion region at isRegion
  rw [taken] at isRegion upholds yields
  cases yields with
  | taken progress tapes remembers _ =>
    have bare := progress.grows.same id sheltered.known
    have agree := upholds.faithful.agrees id inverse remembers
      (isRegion.isUpToDate sheltered.current sheltered.inside)
    refine ⟨⟨progress.tidy, tapes, upholds.faithful, isRegion, sheltered.current, inside,
      progress.tidy.partner_lt id inverse remembers⟩, ?_, ?_, ?_⟩
    · exact (progress.tidy.partner_numQubits id inverse remembers).trans
        (Part.numQubits_eq_of_bare bare)
    · exact agree.capabilities.trans (Part.capabilities_eq_of_bare bare)
    · rw [agree.routineFree]
      exact sheltered.tidy.isRoutineFree_grow progress.grows sheltered.known

theorem isRefused_adjoint_iff : (adjoint id).IsRefused workshop ↔
    (workshop.part id).capabilities.adjoint = false := by
  constructor
  · rintro ⟨fault, failed, missing⟩
    refine Bool.eq_false_of_not_eq_true fun capable => ?_
    exact sheltered.upholds.unrefused fault failed region sheltered.isRegion sheltered.inside
      sheltered.current capable missing
  · intro incapable
    have refused : adjoint id workshop = _ :=
      (adjointWithin_of_unsupported incapable : adjointWithin (depthLimit - 1 + 1) id workshop = _)
    exact ⟨_, congrArg Prod.fst refused, rfl⟩

/-- What supports the adjoint can get one, as far as its gates and its depth allow it. -/
theorem isInvertible (capable : (workshop.part id).capabilities.adjoint = true)
    (undoable : workshop.IsUndoable depth id) : workshop.IsInvertible depth id := by
  induction depth generalizing id with
  | zero => exact undoable
  | succ depth ih =>
    refine ⟨capable, fun _ => ⟨fun primitive shape _ => undoable.1 primitive shape, ?_⟩⟩
    intro inner member
    rw [sheltered.inherits] at capable
    exact ih (sheltered.member member) (Part.adjoint_of_inherited capable member)
      (undoable.2 inner member)

theorem capable_of_adjoint_succeeds (succeeds : (adjoint id).Succeeds workshop) :
    (workshop.part id).capabilities.adjoint = true :=
  Bool.eq_true_of_not_eq_false fun incapable =>
    succeeds.not_isRefused (sheltered.isRefused_adjoint_iff.2 incapable)

theorem adjoint_succeeds (undoable : workshop.IsUndoable depthLimit id)
    (capable : (workshop.part id).capabilities.adjoint = true) : (adjoint id).Succeeds workshop := by
  have yields := sheltered.yields
  rcases taken : adjoint id workshop with ⟨fault | inverse, after⟩
  · rw [taken] at yields
    cases yields with
    | failed _ _ hopeless => exact absurd (sheltered.isInvertible capable undoable) hopeless
  · exact ⟨inverse, after, taken⟩

/-! ### The controlled variant -/

theorem controlledBy_of_unsupported
    (incapable : (workshop.part id).capabilities.controlled = false) :
    controlledBy id count workshop = (.error (.noControlled (workshop.part id).name), workshop) := by
  cases shape : (workshop.part id).shape with
  | controlled inner already =>
    rw [sheltered.inherits, Part.inherited, shape] at incapable
    cases incapable
  | gate _ | circuit _ | phaseShifted _ _ | derivedAdjoint _ | routine _ _ =>
    simp [controlledBy, shape, incapable]

/-- A wrapper with more control qubits goes around the part, or around what the part wraps. -/
theorem controlledBy_of_supported (positive : 1 ≤ count)
    (capable : (workshop.part id).capabilities.controlled = true) :
    ∃ inner total name, (inner = id ∨ workshop.IsMember id inner) ∧
      0 ≤ (workshop.part inner).numQubits + total ∧
      controlledBy id count workshop =
        (.ok workshop.parts.size, workshop.extended (workshop.wrapperOf inner total name)) ∧
      (workshop.wrapperOf inner total name).capabilities =
        (workshop.part id).capabilities.withControlled := by
  have enough : ¬count < 1 := not_lt.2 positive
  have size := sheltered.tidy.nonneg id
  cases shape : (workshop.part id).shape with
  | controlled inner already =>
    have fits := sheltered.tidy.fits id
    rw [Part.Fits, shape] at fits
    have nonneg : 0 ≤ (workshop.part inner).numQubits + (already + count) := by omega
    have wraps : controlledBy id count workshop =
        Workshop.controlWrapper inner (already + count) none workshop := by
      simp [controlledBy, shape, enough]
    refine ⟨inner, already + count, _, .inr ?_, nonneg,
      wraps.trans (controlWrapper_of_nonneg nonneg), ?_⟩
    · rw [IsMember, shape]
      exact List.mem_singleton_self inner
    · rw [sheltered.inherits, Part.inherited, shape]
      rfl
  | gate _ | circuit _ | phaseShifted _ _ | derivedAdjoint _ | routine _ _ =>
    have nonneg : 0 ≤ (workshop.part id).numQubits + count := by omega
    have wraps : controlledBy id count workshop =
        Workshop.controlWrapper id count none workshop := by
      simp [controlledBy, shape, capable, enough]
    exact ⟨id, count, _, .inl rfl, nonneg, wraps.trans (controlWrapper_of_nonneg nonneg), rfl⟩

theorem isRefused_controlledBy_iff (positive : 1 ≤ count) :
    (controlledBy id count).IsRefused workshop ↔
      (workshop.part id).capabilities.controlled = false := by
  constructor
  · rintro ⟨fault, failed, -⟩
    refine Bool.eq_false_of_not_eq_true fun capable => ?_
    obtain ⟨inner, total, name, -, -, wraps, -⟩ :=
      sheltered.controlledBy_of_supported positive capable
    rw [wraps] at failed
    cases failed
  · intro incapable
    exact ⟨_, congrArg Prod.fst (sheltered.controlledBy_of_unsupported incapable), rfl⟩

theorem controlledBy_succeeds_iff (positive : 1 ≤ count) :
    (controlledBy id count).Succeeds workshop ↔
      (workshop.part id).capabilities.controlled = true := by
  constructor
  · intro succeeds
    refine Bool.eq_true_of_not_eq_false fun incapable => ?_
    exact succeeds.not_isRefused ((sheltered.isRefused_controlledBy_iff positive).2 incapable)
  · intro capable
    obtain ⟨inner, total, name, -, -, wraps, -⟩ :=
      sheltered.controlledBy_of_supported positive capable
    exact ⟨_, _, wraps⟩

theorem controlledBy_of_ok (positive : 1 ≤ count)
    (taken : controlledBy id count workshop = (.ok made, after)) :
    Sheltered overtaken region after made ∧
      (after.part made).capabilities = (workshop.part id).capabilities.withControlled ∧
      (workshop.IsRoutineFree id → after.IsRoutineFree made) ∧
      ∀ depth, workshop.IsUndoable depth id → after.IsUndoable (depth + 1) made := by
  have stays := staysIn_controlledBy (R := R) sheltered.inside count
  have isRegion := stays.isRegion workshop sheltered.isRegion
  have inside := stays.answers workshop sheltered.isRegion made (congrArg Prod.fst taken)
  have capable := (sheltered.controlledBy_succeeds_iff positive).1 ⟨made, after, taken⟩
  obtain ⟨inner, total, name, among, nonneg, wraps, capabilities⟩ :=
    sheltered.controlledBy_of_supported positive capable
  rw [taken] at isRegion
  cases taken.symm.trans wraps
  have tidy := sheltered.tidy
  have known : inner < workshop.parts.size := by
    rcases among with rfl | member
    · exact sheltered.known
    · exact tidy.member_lt id inner member
  have members : ∀ other ∈ [inner], other < workshop.parts.size := List.forall_mem_singleton.2 known
  have grows := grows_extended workshop (workshop.wrapperOf inner total name)
  have here : (workshop.extended (workshop.wrapperOf inner total name)).part workshop.parts.size =
      workshop.wrapperOf inner total name := part_extended_size
  refine ⟨⟨tidy.extended rfl nonneg members nofun, sheltered.tapes.extended rfl,
    sheltered.faithful.extended_unlinked tidy members rfl rfl, isRegion, sheltered.current, inside,
    lt_size_extended⟩, ?_, fun free => ?_, fun depth undoable => ⟨?_, ?_⟩⟩
  · rw [here]
    exact capabilities
  · rw [isRoutineFree_iff, here]
    refine ⟨rfl, List.forall_mem_singleton.2 ((tidy.isRoutineFree_grow grows known).2 ?_)⟩
    rcases among with rfl | member
    · exact free
    · exact (isRoutineFree_iff.1 free).2 inner member
  · intro primitive shape
    rw [here] at shape
    cases shape
  · intro other member
    rw [IsMember, here] at member
    obtain rfl := List.mem_singleton.1 member
    refine IsUndoable.grow ?_ tidy grows known
    rcases among with rfl | isMember
    · exact undoable
    · cases depth with
      | zero => exact undoable.elim
      | succ depth => exact (undoable.2 other isMember).succ

end Sheltered

/-! ## What a part supports decides -/

/-- The controlled variant of the adjoint of a part. -/
def controlledAdjoint (count : Int) (id : PartId) : WorkshopAction R PartId := do
  let inverse ← adjoint id
  controlledBy inverse count

/-- The adjoint of the controlled variant of a part. -/
def adjointControlled (count : Int) (id : PartId) : WorkshopAction R PartId := do
  let made ← controlledBy id count
  adjoint made

/-- The variants of a part are refused for a missing capability exactly if the part does not support
them, and the adjoint has the size and the capabilities of the part. -/
structure SupportDecides (workshop : Workshop R) (id : PartId) : Prop where
  adjoint_refused : (adjoint id).IsRefused workshop ↔
    (workshop.part id).capabilities.adjoint = false
  adjoint_succeeds : workshop.IsUndoable depthLimit id →
    ((adjoint id).Succeeds workshop ↔ (workshop.part id).capabilities.adjoint = true)
  adjoint_same : ∀ inverse after, adjoint id workshop = (.ok inverse, after) →
    (after.part inverse).numQubits = (workshop.part id).numQubits ∧
      (after.part inverse).capabilities = (workshop.part id).capabilities
  controlled_refused : ∀ count, 1 ≤ count → ((controlledBy id count).IsRefused workshop ↔
    (workshop.part id).capabilities.controlled = false)
  controlled_succeeds : ∀ count, 1 ≤ count → ((controlledBy id count).Succeeds workshop ↔
    (workshop.part id).capabilities.controlled = true)
  /-- In neither order are both asked for in vain. -/
  both_unrefused : (workshop.part id).capabilities = .all → ∀ count, 1 ≤ count →
    ¬(controlledAdjoint count id).IsRefused workshop ∧
      ¬(adjointControlled count id).IsRefused workshop
  both_needed : ∀ count, 1 ≤ count → (controlledAdjoint count id).Succeeds workshop ∨
    (adjointControlled count id).Succeeds workshop → (workshop.part id).capabilities = .all
  both_succeed : workshop.IsUndoable (depthLimit - 1) id →
    (workshop.part id).capabilities = .all → ∀ count, 1 ≤ count →
      (controlledAdjoint count id).Succeeds workshop ∧
        (adjointControlled count id).Succeeds workshop

namespace Sheltered

variable (sheltered : Sheltered overtaken region workshop id)

include sheltered

theorem not_isRefused_both (all : (workshop.part id).capabilities = .all) (positive : 1 ≤ count) :
    ¬(controlledAdjoint count id).IsRefused workshop ∧
      ¬(adjointControlled count id).IsRefused workshop := by
  constructor
  · rw [controlledAdjoint, Action.isRefused_bind_iff, sheltered.isRefused_adjoint_iff]
    rintro (incapable | ⟨inverse, after, taken, refused⟩)
    · rw [all] at incapable
      cases incapable
    · obtain ⟨later, -, same, -⟩ := sheltered.adjoint_of_ok taken
      rw [later.isRefused_controlledBy_iff positive, same, all] at refused
      cases refused
  · rw [adjointControlled, Action.isRefused_bind_iff, sheltered.isRefused_controlledBy_iff positive]
    rintro (incapable | ⟨made, after, taken, refused⟩)
    · rw [all] at incapable
      cases incapable
    · obtain ⟨later, same, -⟩ := sheltered.controlledBy_of_ok positive taken
      rw [later.isRefused_adjoint_iff, same, all] at refused
      cases refused

theorem eq_all_of_succeeds (positive : 1 ≤ count)
    (succeeds : (controlledAdjoint count id).Succeeds workshop ∨
      (adjointControlled count id).Succeeds workshop) :
    (workshop.part id).capabilities = .all := by
  rw [controlledAdjoint, adjointControlled, Action.succeeds_bind_iff, Action.succeeds_bind_iff]
    at succeeds
  rw [Capabilities.eq_all_iff]
  rcases succeeds with ⟨inverse, after, taken, further⟩ | ⟨made, after, taken, further⟩
  · obtain ⟨later, -, same, -⟩ := sheltered.adjoint_of_ok taken
    refine ⟨sheltered.capable_of_adjoint_succeeds ⟨inverse, after, taken⟩, ?_⟩
    rw [← same]
    exact (later.controlledBy_succeeds_iff positive).1 further
  · obtain ⟨later, same, -⟩ := sheltered.controlledBy_of_ok positive taken
    have capable := later.capable_of_adjoint_succeeds further
    rw [same] at capable
    exact ⟨capable, (sheltered.controlledBy_succeeds_iff positive).1 ⟨made, after, taken⟩⟩

theorem both_succeed (undoable : workshop.IsUndoable (depthLimit - 1) id)
    (all : (workshop.part id).capabilities = .all) (positive : 1 ≤ count) :
    (controlledAdjoint count id).Succeeds workshop ∧
      (adjointControlled count id).Succeeds workshop := by
  obtain ⟨capable, controllable⟩ := Capabilities.eq_all_iff.1 all
  rw [controlledAdjoint, adjointControlled, Action.succeeds_bind_iff, Action.succeeds_bind_iff]
  constructor
  · obtain ⟨inverse, after, taken⟩ := sheltered.adjoint_succeeds undoable.succ capable
    obtain ⟨later, -, same, -⟩ := sheltered.adjoint_of_ok taken
    refine ⟨inverse, after, taken, (later.controlledBy_succeeds_iff positive).2 ?_⟩
    rw [same]
    exact controllable
  · obtain ⟨made, after, taken⟩ := (sheltered.controlledBy_succeeds_iff positive).2 controllable
    obtain ⟨later, same, -, undoes⟩ := sheltered.controlledBy_of_ok positive taken
    refine ⟨made, after, taken, later.adjoint_succeeds (undoes _ undoable) ?_⟩
    rw [same]
    exact capable

theorem supportDecides : workshop.SupportDecides id where
  adjoint_refused := sheltered.isRefused_adjoint_iff
  adjoint_succeeds undoable :=
    ⟨sheltered.capable_of_adjoint_succeeds, sheltered.adjoint_succeeds undoable⟩
  adjoint_same _ _ taken := by
    obtain ⟨-, sizes, same, -⟩ := sheltered.adjoint_of_ok taken
    exact ⟨sizes, same⟩
  controlled_refused _ := sheltered.isRefused_controlledBy_iff
  controlled_succeeds _ := sheltered.controlledBy_succeeds_iff
  both_unrefused all _ := sheltered.not_isRefused_both all
  both_needed _ := sheltered.eq_all_of_succeeds
  both_succeed undoable all _ := sheltered.both_succeed undoable all

end Sheltered

/-! ## All variants -/

/-- What comes of a part by asking for adjoints and controlled variants one after the other, with
the workshop that it comes of it in. -/
inductive IsVariant (workshop : Workshop R) (id : PartId) : Workshop R → PartId → Prop where
  | itself : IsVariant workshop id workshop id
  | adjoint {between after : Workshop R} {variant inverse : PartId}
      (earlier : IsVariant workshop id between variant)
      (taken : Workshop.adjoint variant between = (.ok inverse, after)) :
      IsVariant workshop id after inverse
  | controlled {between after : Workshop R} {variant made : PartId} {count : Int}
      (positive : 1 ≤ count) (earlier : IsVariant workshop id between variant)
      (taken : controlledBy variant count between = (.ok made, after)) :
      IsVariant workshop id after made

/-- By induction on the variant: it concerns nothing overtaken, and is free of routines if the part
is. -/
theorem Sheltered.of_isVariant (sheltered : Sheltered overtaken region workshop id)
    (isVariant : workshop.IsVariant id after variant) :
    Sheltered overtaken region after variant ∧
      (workshop.IsRoutineFree id → after.IsRoutineFree variant) := by
  induction isVariant with
  | itself => exact ⟨sheltered, fun free => free⟩
  | adjoint _ taken ih =>
    obtain ⟨earlier, wasFree⟩ := ih
    obtain ⟨later, -, -, free⟩ := earlier.adjoint_of_ok taken
    exact ⟨later, fun routineFree => free.2 (wasFree routineFree)⟩
  | controlled positive _ taken ih =>
    obtain ⟨earlier, wasFree⟩ := ih
    obtain ⟨later, -, free, -⟩ := earlier.controlledBy_of_ok positive taken
    exact ⟨later, fun routineFree => free (wasFree routineFree)⟩

/-- At any moment of building, what a part supports that concerns nothing overtaken decides on its
variants, and the same goes for all variants of it.  If the part is free of routines, no variant is
refused for a missing capability when it is applied, to whatever qubits and by whatever engine. -/
theorem supportDecides_of_isVariant (tended : Tended workshop overtaken)
    (known : id < workshop.parts.size) (upToDate : workshop.IsUpToDate overtaken id) :
    ∀ after variant, workshop.IsVariant id after variant →
      after.SupportDecides variant ∧ (workshop.IsRoutineFree id →
        ∀ (qubits : List Int) (engine : Engine R),
          ¬(apply variant qubits).IsRefused (after, engine)) := by
  intro after variant isVariant
  obtain ⟨sheltered, free⟩ := (tended.sheltered known upToDate).of_isVariant isVariant
  refine ⟨sheltered.supportDecides, fun routineFree qubits engine => ?_⟩
  exact Action.not_isRefused_of_spares ((isSpared_apply (free routineFree) qubits).spares engine)

end

/-! ## A circuit that is changed after its adjoint has been taken -/

/-- The change overtakes the former adjoint of the circuit, and nothing else. -/
theorem tended_redrafted :
    ∃ overtaken, Tended redrafted overtaken ∧ ∀ id, id ∈ overtaken ↔ id = 1 := by
  have nothing : Tended ({} : Workshop ℝ) ∅ := .empty
  have circuit := nothing.craft (.making (.circuit 1 "c")) (List.forall_mem_nil _)
  have taken := circuit.craft (.making (.adjoint 0)) (by decide)
  have same : ((Crafting.making (.adjoint 0)).perform
      ((Crafting.making (.circuit 1 "c")).perform ({} : Workshop ℝ)).2).2 = drafted := rfl
  rw [same] at taken
  have gate := taken.craft (.making (.gate (.fixed .x) "X")) (List.forall_mem_nil _)
  have withGate : ((Crafting.making (.gate (.fixed .x) "X")).perform drafted).2 =
      drafted.extended (gatePart (.fixed .x) "X") := rfl
  rw [withGate] at gate
  have changed := gate.craft (.making (.append 0 2 [0])) (by decide)
  have appends : (Making.append 0 2 [0]).perform (drafted.extended (gatePart (.fixed .x) "X")) =
      (.ok 0, redrafted) := rfl
  have changes : ((Crafting.making (.append 0 2 [0])).perform
      (drafted.extended (gatePart (.fixed .x) "X"))).2 = redrafted := congrArg Prod.snd appends
  rw [changes, overtakes_append_of_ok appends] at changed
  refine ⟨_, changed, fun id => ⟨?_, ?_⟩⟩
  · rintro (earlier | member | remembers)
    · cases earlier
    · match id with
      | 0 | 1 | 2 | _ + 3 => cases member
    · match id with
      | 0 => cases remembers
      | 1 => rfl
      | 2 => cases remembers
      | _ + 3 => cases remembers
  · rintro rfl
    exact .inr (.inr rfl)

theorem isUndoable_redrafted : redrafted.IsUndoable (depthLimit - 1) 0 := by
  have gate : redrafted.IsUndoable (depthLimit - 3 + 1) 2 := by
    refine ⟨?_, nofun⟩
    intro primitive shape
    cases shape
    exact ⟨.fixed .x, rfl⟩
  have circuit : redrafted.IsUndoable (depthLimit - 2 + 1) 0 := by
    refine ⟨nofun, ?_⟩
    intro inner member
    cases List.mem_singleton.1 member
    exact gate
  exact circuit

theorem isRoutineFree_redrafted (id : PartId) : redrafted.IsRoutineFree id := by
  intro inner _
  match inner with
  | 0 | 1 | 2 | _ + 3 => rfl

/-- Both variants of the changed circuit are to be had in either order, and none that comes of it is
refused when it is applied. -/
theorem both_succeed_redrafted :
    ∃ overtaken, Tended redrafted overtaken ∧ 0 < redrafted.parts.size ∧
      redrafted.IsUpToDate overtaken 0 ∧ redrafted.IsRoutineFree 0 ∧
      (controlledAdjoint 2 0).Succeeds redrafted ∧ (adjointControlled 2 0).Succeeds redrafted ∧
      ∀ after variant, redrafted.IsVariant 0 after variant → after.SupportDecides variant ∧
        ∀ (qubits : List Int) (engine : Engine ℝ),
          ¬(apply variant qubits).IsRefused (after, engine) := by
  obtain ⟨overtaken, tended, overtaken_iff⟩ := tended_redrafted
  have known : 0 < redrafted.parts.size := by decide
  have upToDate : redrafted.IsUpToDate overtaken 0 := by
    intro other concerned isOvertaken
    obtain rfl := (overtaken_iff other).1 isOvertaken
    rcases eq_of_concerns_redrafted concerned with same | same <;> cases same
  have free := isRoutineFree_redrafted 0
  have decides := supportDecides_of_isVariant tended known upToDate
  obtain ⟨afterwards, beforehand⟩ := (decides redrafted 0 .itself).1.both_succeed
    isUndoable_redrafted rfl 2 (by decide)
  refine ⟨overtaken, tended, known, upToDate, free, afterwards, beforehand, ?_⟩
  intro after variant isVariant
  exact ⟨(decides after variant isVariant).1, (decides after variant isVariant).2 free⟩

end Workshop

end QuantumKata

end
