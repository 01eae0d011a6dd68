import QuantumKata.Proofs.Capability
import QuantumKata.Proofs.Regions
import QuantumKata.Proofs.Support

/-!
# Calls for adjoints keep to the capabilities

A call for the adjoint of a part leaves a faithful workshop faithful: a new part supports what the
part supports that it is made for, because the parts inside it are the adjoints of those inside the
other one.  Where the part supports the adjoint and concerns nothing that is overtaken, the call is
not refused for a missing capability of a part inside it.

By induction on how deeply parts are nested.  A circuit is filled with the adjoints of steps while
nothing refers to it, so that its capabilities can still change without overtaking anything.
-/

namespace QuantumKata

namespace Workshop

variable {R : Type} [Scalar R] {workshop before between after : Workshop R} {overtaken : Set PartId}
  {id inner inverse undone other : PartId} {made : Part R} {fuel : Nat}

/-! ## What a call upholds -/

omit [Scalar R] in
/-- A fault is not that of a missing capability, provided that a part supports the adjoint and lies
in a region without overtaken parts. -/
def IsUnrefused (overtaken : Set PartId) (id : PartId) (before : Workshop R) (fault : Fault) :
    Prop :=
  ∀ region, before.IsRegion region → id ∈ region → region ⊆ overtakenᶜ →
    (before.part id).capabilities.adjoint = true → fault.kind ≠ .capability

/-- The workshop stays faithful, and the call is not refused without a reason. -/
structure Upholds (overtaken : Set PartId) (id : PartId) (before : Workshop R)
    (called : Except Fault PartId × Workshop R) : Prop where
  faithful : called.2.Faithful overtaken
  unrefused : ∀ fault, called.1 = .error fault → IsUnrefused overtaken id before fault

/-- What making the adjoint of a part comes to, before the two are linked. -/
inductive Offers (overtaken : Set PartId) (id : PartId) (before : Workshop R) :
    Except Fault PartId × Workshop R → Prop where
  | failed {fault : Fault} {after : Workshop R} (faithful : after.Faithful overtaken)
      (unrefused : IsUnrefused overtaken id before fault) :
      Offers overtaken id before (.error fault, after)
  | made {inverse : PartId} {after : Workshop R}
      (faithful : (after.linked id inverse).Faithful overtaken) :
      Offers overtaken id before (.ok inverse, after)

/-- Calls for the adjoints of parts that uphold what they should. -/
def UpholdsAdjoints (R : Type) [Scalar R] (overtaken : Set PartId) (fuel : Nat) : Prop :=
  ∀ before : Workshop R, before.Tidy → before.OwnsTapes → before.Faithful overtaken →
    ∀ id < before.parts.size, Upholds overtaken id before (adjointWithin fuel id before)

theorem upholds_of_offers (capable : (before.part id).capabilities.adjoint = true)
    (unremembered : (before.part id).adjoint = none)
    (offers : Offers overtaken id before (makeAdjoint (adjointWithin fuel) id before)) :
    Upholds overtaken id before (adjointWithin (fuel + 1) id before) := by
  rcases answered : makeAdjoint (adjointWithin fuel) id before with ⟨outcome, after⟩
  rw [answered] at offers
  cases offers with
  | failed faithful unrefused =>
    rw [adjointWithin_of_error capable unremembered answered]
    refine ⟨faithful, fun fault failed => ?_⟩
    cases failed
    exact unrefused
  | made faithful =>
    rw [adjointWithin_of_ok capable unremembered answered]
    exact ⟨faithful, nofun⟩

/-- A new part may be linked to the one that it is made for, if it supports the same and is free of
routines if that one is. -/
theorem Faithful.linked_extended (faithful : workshop.Faithful overtaken) (tidy : workshop.Tidy)
    (known : id < workshop.parts.size) (unremembered : (workshop.part id).adjoint = none)
    (fits : made.bare.Fits workshop) (sizes : made.numQubits = (workshop.part id).numQubits)
    (members : ∀ inner ∈ made.shape.members, inner < workshop.parts.size)
    (inherits : made.capabilities = made.inherited workshop)
    (same : workshop.IsUpToDate overtaken id →
      made.capabilities = (workshop.part id).capabilities)
    (routineFree : workshop.IsUpToDate overtaken id →
      (made.shape.isRoutine = false ∧
        (∀ inner ∈ made.shape.members, workshop.IsRoutineFree inner) ↔ workshop.IsRoutineFree id)) :
    ((workshop.extended made).linked id workshop.parts.size).Faithful overtaken := by
  have grows := grows_extended workshop made.bare
  have kept : (workshop.extended made.bare).part id = workshop.part id :=
    part_extended_of_ne known.ne
  have nonneg : 0 ≤ made.bare.numQubits := (tidy.nonneg id).trans_eq sizes.symm
  have unlinked : ∀ partner, made.bare.adjoint ≠ some partner := fun partner remembers =>
    Option.some_ne_none partner remembers.symm
  have nothing : ∀ partner, ¬(workshop.extended made.bare).Remembers id partner := by
    intro partner remembers
    rw [Remembers, kept, unremembered] at remembers
    cases remembers
  have nothingNew : ∀ partner,
      ¬(workshop.extended made.bare).Remembers workshop.parts.size partner :=
    fun partner remembers =>
      lt_irrefl _ (lt_size_of_remembers (remembers_of_extended rfl remembers))
  have extended : (workshop.extended made.bare).Faithful overtaken :=
    faithful.extended_unlinked tidy members inherits rfl
  have tidyExtended : (workshop.extended made.bare).Tidy :=
    tidy.extended fits nonneg members fun partner remembers => absurd remembers (unlinked partner)
  rw [Workshop.linked_extended known]
  refine extended.linked tidyExtended (known.trans lt_size_extended) lt_size_extended
    (fun partner remembers => absurd remembers (nothing partner))
    (fun partner remembers => absurd remembers (nothingNew partner)) fun upToDate => ?_
  have wasUpToDate : workshop.IsUpToDate overtaken id := fun other concerned =>
    upToDate other (grows.concerns_of_old tidy.member_lt tidy.partner_lt known concerned).1
  constructor
  case capabilities =>
    rw [part_extended_size, kept]
    exact same wasUpToDate
  case routineFree =>
    rw [tidy.isRoutineFree_grow grows known, isRoutineFree_iff, part_extended_size,
      ← routineFree wasUpToDate]
    exact and_congr_right fun _ => forall₂_congr fun inner member =>
      tidy.isRoutineFree_grow grows (members inner member)

/-! ## Gates and routines -/

section

variable (faithful : before.Faithful overtaken) (tidy : before.Tidy) (old : id < before.parts.size)
  (unremembered : (before.part id).adjoint = none)

include faithful tidy old unremembered

theorem offers_gate {primitive : Gate R} (shape : (before.part id).shape = .gate primitive)
    (call : PartId → WorkshopAction R PartId) :
    Offers overtaken id before (makeAdjoint call id before) := by
  cases selfAdjoint : primitive.isSelfAdjoint with
  | true =>
    rw [makeAdjoint_of_isSelfAdjoint shape selfAdjoint]
    have nothing : ∀ partner, before.Remembers id partner → partner = id := by
      intro partner remembers
      cases remembers.symm.trans unremembered
    exact .made (faithful.linked tidy old old nothing nothing fun _ => .refl before id)
  | false =>
    cases built : primitive.adjoint with
    | error fault =>
      rw [makeAdjoint_of_singular shape selfAdjoint built]
      refine .failed faithful fun _ _ _ _ _ => ?_
      rw [Operation.eq_singularMatrix_of_gate built]
      exact nofun
    | ok inverse =>
      have fits := tidy.fits id
      rw [Part.Fits, shape] at fits
      have sizes := (congrArg Int.ofNat (Gate.adjoint_numQubits built)).trans fits.symm
      rw [makeAdjoint_of_gate shape selfAdjoint built]
      refine .made (faithful.linked_extended tidy old unremembered rfl sizes (List.forall_mem_nil _)
        rfl (fun upToDate => ?_) fun _ => ?_)
      · rw [faithful.inherits id (upToDate id .refl), Part.inherited, shape]
      · rw [isRoutineFree_iff, shape]
        rfl

theorem offers_routine {body : InstructionPlans R} {plan : InversePlan R}
    (shape : (before.part id).shape = .routine body plan)
    (call : PartId → WorkshopAction R PartId) :
    Offers overtaken id before (makeAdjoint call id before) := by
  have notFree : ¬before.IsRoutineFree id := by
    intro free
    have here := free id .refl
    rw [shape] at here
    cases here
  cases plan with
  | absent =>
    rw [makeAdjoint_of_absent shape]
    refine .made (faithful.linked_extended tidy old unremembered ⟨rfl, rfl⟩ rfl
      (List.forall_mem_singleton.2 old) rfl (fun _ => rfl) fun _ => ?_)
    exact iff_of_false (fun free => notFree (List.forall_mem_singleton.1 free.2)) notFree
  | written written =>
    rw [makeAdjoint_of_written shape]
    refine .made (faithful.linked_extended tidy old unremembered trivial rfl
      (List.forall_mem_nil _) rfl (fun _ => rfl) fun _ => ?_)
    exact iff_of_false (fun free => Bool.noConfusion free.1) notFree

/-! ## Phase shifts and control wrappers -/

/-- A part is made around the adjoint of the one member of another part. -/
theorem offers_around {call : PartId → WorkshopAction R PartId}
    (members : (before.part id).shape.members = [inner])
    (notRoutine : (before.part id).shape.isRoutine = false)
    (yields : Yields fuel inner before (call inner before))
    (upholds : Upholds overtaken inner before (call inner before))
    (wrap : PartId → WorkshopAction R PartId)
    (runs : makeAdjoint call id before = (call inner >>= wrap) before)
    (wraps : ∀ (between : Workshop R) undone,
      (between.part undone).numQubits = (before.part inner).numQubits →
      ∃ made : Part R, wrap undone between = (.ok between.parts.size, between.extended made) ∧
        made.bare.Fits between ∧ made.numQubits = (before.part id).numQubits ∧
        made.shape.members = [undone] ∧ made.shape.isRoutine = false ∧
        made.capabilities = made.inherited between ∧
        ((between.part undone).capabilities = (between.part inner).capabilities →
          made.inherited between = (before.part id).inherited between)) :
    Offers overtaken id before (makeAdjoint call id before) := by
  have member := isMember_of_members members
  have oldInner := tidy.member_lt id inner member
  have beyond : ∀ other, before.OpensTo inner other → Relation.TransGen before.Opens id other :=
    fun other onwards => Relation.TransGen.head' ⟨unremembered, member⟩ onwards
  rcases called : call inner before with ⟨outcome, between⟩
  rw [called] at yields upholds
  cases yields with
  | failed progress _ _ =>
    rw [runs, Action.bind_of_error called]
    refine .failed upholds.faithful fun region isRegion inside current capable => ?_
    rw [faithful.inherits id (current inside)] at capable
    exact upholds.unrefused _ rfl region isRegion (isRegion.of_tied inside (.inl member)) current
      (Part.adjoint_of_inherited capable member)
  | @taken undone _ progress _ remembers settlesInner =>
    have settles := settles_around members settlesInner
    have sizeOf : (between.part undone).numQubits = (before.part inner).numQubits :=
      (progress.tidy.partner_numQubits inner undone remembers).trans
        (Part.numQubits_eq_of_bare (progress.grows.same inner oldInner))
    obtain ⟨made, wrapped, fits, sizes, around, notRoutineMade, inherits, same⟩ :=
      wraps between undone sizeOf
    have known : id < between.parts.size := old.trans_le progress.grows.size
    have bare := progress.grows.same id old
    have agree : between.IsUpToDate overtaken id → between.Agree inner undone := by
      intro upToDate
      refine upholds.faithful.agrees inner undone remembers fun other concerned => ?_
      refine upToDate other (.head (.inl ?_) concerned)
      exact (progress.grows.isMember_iff old).2 member
    rw [runs, Action.bind_of_ok called, wrapped]
    refine .made (upholds.faithful.linked_extended progress.tidy known
      ((progress.mono beyond).still_unremembered old unremembered settles) fits
      (sizes.trans (Part.numQubits_eq_of_bare bare).symm)
      (by rw [around]; exact List.forall_mem_singleton.2 (progress.tidy.partner_lt _ _ remembers))
      inherits ?_ ?_)
    · intro upToDate
      rw [upholds.faithful.inherits id (upToDate id .refl), inherits,
        same (agree upToDate).capabilities]
      exact (Part.inherited_congr bare fun _ _ => rfl).symm
    · intro upToDate
      rw [isRoutineFree_iff, Part.shape_eq_of_bare bare, around, members, List.forall_mem_singleton,
        List.forall_mem_singleton, (agree upToDate).routineFree, notRoutine, notRoutineMade]

theorem offers_phaseShifted {call : PartId → WorkshopAction R PartId} {angle : PhaseAngle R}
    (shape : (before.part id).shape = .phaseShifted inner angle)
    (yields : Yields fuel inner before (call inner before))
    (upholds : Upholds overtaken inner before (call inner before)) :
    Offers overtaken id before (makeAdjoint call id before) := by
  have fits := tidy.fits id
  rw [Part.Fits, shape] at fits
  refine offers_around faithful tidy old unremembered (congrArg PartShape.members shape)
    (congrArg PartShape.isRoutine shape) yields upholds
    (fun undone => phaseShift undone angle.opposite) (makeAdjoint_of_phaseShifted shape)
    fun between undone sizes => ?_
  refine ⟨_, phaseShift_apply, ⟨rfl, rfl⟩, sizes.trans fits.1.symm, rfl, rfl, rfl, fun same => ?_⟩
  rw [Part.inherited, Part.inherited, shape]
  exact same

theorem offers_controlled {call : PartId → WorkshopAction R PartId} {count : Int}
    (shape : (before.part id).shape = .controlled inner count)
    (yields : Yields fuel inner before (call inner before))
    (upholds : Upholds overtaken inner before (call inner before)) :
    Offers overtaken id before (makeAdjoint call id before) := by
  have fits := tidy.fits id
  rw [Part.Fits, shape] at fits
  refine offers_around faithful tidy old unremembered (congrArg PartShape.members shape)
    (congrArg PartShape.isRoutine shape) yields upholds
    (fun undone => controlWrapper undone count none) (makeAdjoint_of_controlled shape)
    fun between undone sizes => ?_
  have total : (between.part undone).numQubits + count = (before.part id).numQubits :=
    (congrArg (· + count) sizes).trans fits.symm
  have nonneg : 0 ≤ (between.part undone).numQubits + count := (tidy.nonneg id).trans_eq total.symm
  refine ⟨_, controlWrapper_of_nonneg nonneg, rfl, total, rfl, rfl, rfl, fun same => ?_⟩
  rw [Part.inherited, Part.inherited, shape]
  exact congrArg Capabilities.withControlled same

end

/-! ## Circuits -/

/-- A new circuit is filled with the adjoints of steps while nothing refers to it. -/
structure Mirroring (overtaken : Set PartId) (id inverse : PartId) (before : Workshop R)
    (done : List (PartId × List Int)) (workshop : Workshop R) : Prop where
  filling : Filling id inverse before done workshop
  faithful : workshop.Faithful overtaken
  unreferred : ¬workshop.IsReferred inverse
  mirrored : ∃ added, (workshop.part inverse).shape = .circuit added ∧
    List.Forall₂ (fun step other => workshop.Remembers step.1 other.1) done added

/-- What filling a circuit comes to. -/
inductive Mirrors (overtaken : Set PartId) (id inverse : PartId) (before between : Workshop R)
    (done pending : List (PartId × List Int)) : Except Fault Unit × Workshop R → Prop where
  | failed {fault : Fault} {after : Workshop R} (faithful : after.Faithful overtaken)
      (unrefused : ∀ region, between.IsRegion region → inverse ∈ region →
        (∀ step ∈ pending, step.1 ∈ region) → region ⊆ overtakenᶜ →
        (∀ step ∈ pending, (before.part step.1).capabilities.adjoint = true) →
        fault.kind ≠ .capability) :
      Mirrors overtaken id inverse before between done pending (.error fault, after)
  | filled {after : Workshop R}
      (mirroring : Mirroring overtaken id inverse before (done ++ pending) after) :
      Mirrors overtaken id inverse before between done pending (.ok (), after)

theorem mirroring_emptyPart (faithful : before.Faithful overtaken) (tidy : before.Tidy)
    (tapes : before.OwnsTapes) (id : PartId) (name : String) :
    Mirroring overtaken id before.parts.size before []
      (before.extended (emptyPart (before.part id).numQubits name)) where
  filling := filling_emptyPart tidy tapes id name
  faithful := faithful.extended_unlinked tidy (List.forall_mem_nil _) rfl rfl
  unreferred := not_isReferred_extended tidy.member_lt tidy.partner_lt rfl rfl
  mirrored := ⟨[], by rw [part_extended_size, emptyPart], .nil⟩

/-- Lists that match element by element have something in common throughout, both or not at all. -/
theorem forall_mem_iff_of_forall₂ {α β : Type} {p : α → Prop} {q : β → Prop} {first : List α}
    {second : List β} (matched : List.Forall₂ (fun a b => p a ↔ q b) first second) :
    (∀ a ∈ first, p a) ↔ ∀ b ∈ second, q b := by
  induction matched with
  | nil => simp
  | cons head _ ih => rw [List.forall_mem_cons, List.forall_mem_cons, head, ih]

namespace Mirroring

variable {done : List (PartId × List Int)} {step : PartId} {qubits : List Int}
  (mirroring : Mirroring overtaken id inverse before done between)

include mirroring

/-- Nothing but the circuit is a region while it is filled. -/
theorem isRegion_compl : between.IsRegion {inverse}ᶜ :=
  isRegion_compl_of_not_isReferred mirroring.filling.inside mirroring.unreferred

theorem isWithin_compl : (between.part inverse).IsWithin {inverse}ᶜ where
  members _ member same :=
    mirroring.unreferred ⟨inverse, .inl (Set.mem_singleton_iff.1 same ▸ member)⟩
  adjoint _ remembers same :=
    mirroring.unreferred ⟨inverse, .inr (Set.mem_singleton_iff.1 same ▸ remembers)⟩

/-- A call for the adjoint of a step neither changes the circuit nor refers to it. -/
theorem called (tidy : before.Tidy) (member : before.IsMember id step)
    (unremembered : (before.part id).adjoint = none)
    (ran : (adjointWithin fuel step between).2 = after)
    (progress : Progress (between.OpensTo step) between after) (tapes : after.OwnsTapes)
    (faithful : after.Faithful overtaken) :
    Mirroring overtaken id inverse before done after := by
  have filling := mirroring.filling
  have outside : step ∈ ({inverse}ᶜ : Set PartId) := fun same =>
    Nat.not_lt_of_le filling.outside
      (Set.mem_singleton_iff.1 same ▸ tidy.member_lt id step member)
  have stays := staysIn_adjointWithin (R := R) fuel outside
  have isRegion := stays.isRegion between mirroring.isRegion_compl
  have kept := stays.outside between mirroring.isRegion_compl inverse (not_not_intro rfl)
  rw [ran] at isRegion kept
  obtain ⟨added, shape, remembered⟩ := mirroring.mirrored
  refine ⟨filling.called tidy member unremembered progress tapes, faithful, ?_, added, ?_, ?_⟩
  · refine isRegion.not_isReferred ?_
    rw [kept]
    exact mirroring.isWithin_compl
  · rw [kept, shape]
  · exact remembered.imp fun _ _ => progress.grows.remembers _ _

/-- The adjoint of a step is appended to the circuit. -/
theorem append {added : List (PartId × List Int)}
    (shape : (between.part inverse).shape = .circuit added)
    (filling : Filling id inverse before (done ++ [(step, qubits)])
      (between.appended inverse added undone qubits))
    (remembers : between.Remembers step undone) :
    Mirroring overtaken id inverse before (done ++ [(step, qubits)])
      (between.appended inverse added undone qubits) := by
  have inside := mirroring.filling.inside
  have apart : undone ≠ inverse := by
    rintro rfl
    exact mirroring.unreferred ⟨step, .inr remembers⟩
  have here : (between.appended inverse added undone qubits).part inverse = _ :=
    part_appended_self inside
  have within : ((between.appended inverse added undone qubits).part inverse).IsWithin
      {inverse}ᶜ := by
    have members := mirroring.isWithin_compl.members
    rw [shape] at members
    rw [here]
    exact Part.isWithin_of_unlinked (List.forall_mem_map.2 (List.forall_mem_append.2
      ⟨List.forall_mem_map.1 members, List.forall_mem_singleton.2 apart⟩)) rfl
  have isRegion : (between.appended inverse added undone qubits).IsRegion {inverse}ᶜ := by
    rw [here] at within
    exact mirroring.isRegion_compl.altered within
  have persists : ∀ {taken other}, between.Remembers taken other →
      (between.appended inverse added undone qubits).Remembers taken other := by
    intro taken other remembered
    have different : taken ≠ inverse := by
      rintro rfl
      cases remembered.symm.trans mirroring.filling.unlinked
    rwa [Remembers, part_appended_of_ne different]
  obtain ⟨_, sameShape, remembered⟩ := mirroring.mirrored
  cases shape.symm.trans sameShape
  refine ⟨filling, ?_, isRegion.not_isReferred within, _, by rw [here], ?_⟩
  · have faithful : (between.appended inverse added undone qubits).Faithful _ :=
      mirroring.faithful.appended inside shape
    rwa [overtakenBy_of_not_isReferred mirroring.unreferred] at faithful
  · exact List.rel_append (remembered.imp fun _ _ => persists) (.cons (persists remembers) .nil)

omit mirroring in
/-- The steps of the adjoint agree with those that they undo, which come in reverse order. -/
theorem steps_agree {steps : List (PartId × List Int)}
    (mirroring : Mirroring overtaken id inverse before steps.reverse between)
    (shape : (between.part id).shape = .circuit steps)
    (upToDate : between.IsUpToDate overtaken id) :
    ∃ added, (between.part inverse).shape = .circuit added ∧
      List.Forall₂ (fun step other => between.Agree step.1 other.1) steps.reverse added := by
  obtain ⟨added, holds, remembered⟩ := mirroring.mirrored
  refine ⟨added, holds, ?_⟩
  have members : ∀ step ∈ steps.reverse, between.IsMember id step.1 :=
    fun step listed => isMember_of_step shape (List.mem_reverse.1 listed)
  refine ((List.forall₂_and_left _ _).2 ⟨members, remembered⟩).imp fun step other both => ?_
  exact mirroring.faithful.agrees _ _ both.2 fun further concerned =>
    upToDate further (.head (.inl both.1) concerned)

omit mirroring in
/-- A circuit filled with the adjoints of all steps agrees with the one that has the steps. -/
theorem agree {steps : List (PartId × List Int)}
    (mirroring : Mirroring overtaken id inverse before steps.reverse between)
    (old : id < before.parts.size) (shape : (before.part id).shape = .circuit steps)
    (known : ∀ other ∈ overtaken, other < before.parts.size)
    (upToDate : between.IsUpToDate overtaken id) : between.Agree id inverse := by
  have filling := mirroring.filling
  have faithful := mirroring.faithful
  have current : inverse ∉ overtaken := fun isOvertaken =>
    Nat.not_lt_of_le filling.outside (known inverse isOvertaken)
  have shapeNow : (between.part id).shape = .circuit steps :=
    (Part.shape_eq_of_bare (filling.progress.grows.same id old)).trans shape
  obtain ⟨added, holds, stepsAgree⟩ := mirroring.steps_agree shapeNow upToDate
  have share : ∀ p : PartId → Prop, (∀ {step other}, between.Agree step other →
      (p step ↔ p other)) → ((∀ other ∈ added, p other.1) ↔ ∀ step ∈ steps, p step.1) := by
    intro p same
    rw [← forall_mem_iff_of_forall₂ (stepsAgree.imp fun _ _ => same)]
    simp only [List.mem_reverse]
  constructor
  case capabilities =>
    rw [faithful.inherits inverse current, faithful.inherits id (upToDate id .refl), Part.inherited,
      Part.inherited, holds, shapeNow, Capabilities.mk.injEq]
    constructor
    · rw [Bool.eq_iff_iff, List.all_eq_true, List.all_eq_true]
      refine share (fun part => (between.part part).capabilities.adjoint = true) fun agree => ?_
      rw [agree.capabilities]
    · rw [Bool.eq_iff_iff, List.all_eq_true, List.all_eq_true]
      refine share (fun part => (between.part part).capabilities.controlled = true) fun agree => ?_
      rw [agree.capabilities]
  case routineFree =>
    rw [isRoutineFree_iff, isRoutineFree_iff, holds, shapeNow]
    refine and_congr_right fun _ => ?_
    rw [PartShape.members, PartShape.members, List.forall_mem_map, List.forall_mem_map]
    exact share between.IsRoutineFree fun agree => agree.routineFree.symm

end Mirroring

section

variable {steps : List (PartId × List Int)} (tidy : before.Tidy)
  (shape : (before.part id).shape = .circuit steps)
  (unremembered : (before.part id).adjoint = none)

include tidy shape unremembered

/-- By induction on the steps that are still to be done. -/
theorem mirrors_of_mirroring (upholds : UpholdsAdjoints R overtaken fuel) :
    ∀ (pending done : List (PartId × List Int)) (between : Workshop R),
      (∀ step ∈ pending, step ∈ steps) → Mirroring overtaken id inverse before done between →
      Mirrors overtaken id inverse before between done pending
        (addAdjointSteps (adjointWithin fuel) inverse pending between)
  | [], done, between, _, mirroring => by
    rw [← List.append_nil done] at mirroring
    exact .filled mirroring
  | (step, qubits) :: pending, done, between, among, mirroring => by
    obtain ⟨listed, amongRest⟩ := List.forall_mem_cons.1 among
    have filling := mirroring.filling
    have member : before.IsMember id step := isMember_of_step shape listed
    have grows := filling.progress.grows
    have oldStep := tidy.member_lt id step member
    have knownStep := oldStep.trans_le grows.size
    have yielded := yieldsAdjoints_adjointWithin fuel between filling.progress.tidy filling.tapes
      step knownStep
    have upheld := upholds between filling.progress.tidy filling.tapes mirroring.faithful step
      knownStep
    rcases called : adjointWithin fuel step between with ⟨outcome, after⟩
    rw [called] at yielded upheld
    have next := mirroring.called tidy member unremembered (congrArg Prod.snd called)
      yielded.progress yielded.tapes upheld.faithful
    cases yielded with
    | failed _ _ _ =>
      rw [addAdjointSteps, Action.bind_of_error called]
      refine .failed upheld.faithful fun region isRegion _ inRegion current supports => ?_
      refine upheld.unrefused _ rfl region isRegion (inRegion _ List.mem_cons_self) current ?_
      exact (grows.capable_iff oldStep).trans (supports _ List.mem_cons_self)
    | @taken undone _ progress _ remembers settlesThere =>
      have settles := filling.progress.settles_before tidy settlesThere oldStep
      have capable : (after.part undone).capabilities.adjoint = true ↔ before.LeadsBack step := by
        rw [← leadsBack_iff_of_remembers remembers, next.filling.progress.leadsBack_iff tidy oldStep]
      obtain ⟨added, holds, appends, goesOn⟩ :=
        next.filling.append tidy member shape listed settles remembers capable
      have rest := mirrors_of_mirroring upholds pending _ _ amongRest
        (next.append holds goesOn remembers)
      rw [addAdjointSteps, Action.bind_of_ok called, Action.bind_of_ok appends]
      rcases ends : addAdjointSteps (adjointWithin fuel) inverse pending
        (after.appended inverse added undone qubits) with ⟨ended, last⟩
      rw [ends] at rest
      cases rest with
      | failed faithful unrefused =>
        refine .failed faithful fun region isRegion inside inRegion current supports => ?_
        obtain ⟨insideStep, insideRest⟩ := List.forall_mem_cons.1 inRegion
        have reached := (staysIn_adjointWithin fuel insideStep).isRegion between isRegion
        rw [called] at reached
        have insideUndone := reached.of_tied insideStep (.inr remembers)
        have later := (staysIn_addStep inside insideUndone qubits).isRegion after reached
        rw [appends] at later
        exact unrefused region later inside insideRest current (List.forall_mem_cons.1 supports).2
      | filled mirroring =>
        rw [← List.append_cons] at mirroring
        exact .filled mirroring

theorem offers_circuit (faithful : before.Faithful overtaken) (tapes : before.OwnsTapes)
    (old : id < before.parts.size) (upholds : UpholdsAdjoints R overtaken fuel) :
    Offers overtaken id before (makeAdjoint (adjointWithin fuel) id before) := by
  have mirrored := mirrors_of_mirroring tidy shape unremembered upholds steps.reverse [] _
    (fun _ => List.mem_reverse.1)
    (mirroring_emptyPart faithful tidy tapes id (Operation.adjointName (before.part id).name))
  rcases ends : addAdjointSteps (adjointWithin fuel) before.parts.size steps.reverse
    (before.extended (emptyPart (before.part id).numQubits
      (Operation.adjointName (before.part id).name))) with ⟨outcome, after⟩
  rw [ends] at mirrored
  rw [makeAdjoint_of_circuit shape (tidy.nonneg id)]
  have isMember : ∀ {step}, step ∈ steps.reverse → before.IsMember id step.1 :=
    fun listed => isMember_of_step shape (List.mem_reverse.1 listed)
  cases mirrored with
  | failed later unrefused =>
    rw [Action.bind_of_error ends]
    refine .failed later fun region isRegion inside current capable => ?_
    rw [faithful.inherits id (current inside)] at capable
    exact unrefused region (isRegion.extended (Part.isWithin_of_unlinked (List.forall_mem_nil _) rfl))
      (isRegion.later _ (Nat.le_refl _))
      (fun step listed => isRegion.of_tied inside (.inl (isMember listed))) current
      fun step listed => Part.adjoint_of_inherited capable (isMember listed)
  | filled mirroring =>
    rw [List.nil_append] at mirroring
    rw [Action.bind_of_ok ends]
    have filling := mirroring.filling
    have settles : before.Settles id := by
      constructor
      rintro inner ⟨-, member⟩
      rw [IsMember, shape] at member
      obtain ⟨step, listed, rfl⟩ := List.mem_map.1 member
      exact filling.settles step (List.mem_reverse.2 listed)
    refine .made (mirroring.faithful.linked filling.progress.tidy
      (old.trans_le filling.progress.grows.size) filling.inside (fun partner remembers => ?_)
      (fun partner remembers => ?_) fun upToDate => mirroring.agree old shape faithful.known upToDate)
    · cases remembers.symm.trans (filling.progress.still_unremembered old unremembered settles)
    · cases remembers.symm.trans filling.unlinked

end

/-! ## All parts -/

/-- By induction on the depth: calls for the adjoints of parts uphold what they should. -/
theorem upholdsAdjoints_adjointWithin (overtaken : Set PartId) :
    ∀ fuel, UpholdsAdjoints R overtaken fuel
  | 0, before, tidy, tapes, faithful, id, old => by
    refine ⟨faithful, fun fault failed _ _ _ _ _ => ?_⟩
    cases failed
    exact nofun
  | fuel + 1, before, tidy, tapes, faithful, id, old => by
    have ih := upholdsAdjoints_adjointWithin overtaken fuel
    cases capable : (before.part id).capabilities.adjoint with
    | false =>
      rw [adjointWithin_of_unsupported capable]
      refine ⟨faithful, fun _ _ _ _ _ _ supports => ?_⟩
      cases capable.symm.trans supports
    | true =>
      cases remembered : (before.part id).adjoint with
      | some partner =>
        rw [adjointWithin_of_remembers capable remembered]
        exact ⟨faithful, nofun⟩
      | none =>
        have known : ∀ {inner}, before.IsMember id inner → inner < before.parts.size :=
          fun member => tidy.member_lt id _ member
        refine upholds_of_offers capable remembered ?_
        cases shape : (before.part id).shape with
        | gate primitive => exact offers_gate faithful tidy old remembered shape _
        | circuit steps => exact offers_circuit tidy shape remembered faithful tapes old ih
        | phaseShifted inner angle =>
          have oldInner := known (isMember_of_members (congrArg PartShape.members shape))
          exact offers_phaseShifted faithful tidy old remembered shape
            (yieldsAdjoints_adjointWithin fuel before tidy tapes inner oldInner)
            (ih before tidy tapes faithful inner oldInner)
        | controlled inner count =>
          have oldInner := known (isMember_of_members (congrArg PartShape.members shape))
          exact offers_controlled faithful tidy old remembered shape
            (yieldsAdjoints_adjointWithin fuel before tidy tapes inner oldInner)
            (ih before tidy tapes faithful inner oldInner)
        | derivedAdjoint inner =>
          exact absurd remembered (tapes id (congrArg PartShape.isDerivedAdjoint shape))
        | routine body plan => exact offers_routine faithful tidy old remembered shape _

end Workshop

end QuantumKata
