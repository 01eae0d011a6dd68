import QuantumKata.Proofs.Linking
import QuantumKata.Proofs.PartAdjoint

/-!
# Calls for adjoints

A call for the adjoint of a part answers with a part that is linked to it, or fails and leaves some
of the parts inside it linked to their adjoints.  It does not fail for a part that can get an
adjoint.  In either case the workshop has made progress: links have been added, and nothing else has
changed for the parts that were there.

The proof follows the call through the kinds of parts, by induction on how deeply parts are nested.
A circuit takes the adjoints of its steps one after the other, while a new circuit is filled with
them that none of these calls comes across.
-/

namespace QuantumKata

namespace Workshop

variable {R : Type} {workshop before between after : Workshop R}
  {id inner inverse undone other : PartId} {made : Part R} {fault : Fault} {fuel : Nat}

/-! ## Reversed tapes -/

theorem OwnsTapes.extended (tapes : workshop.OwnsTapes)
    (notDerived : made.shape.isDerivedAdjoint = false) :
    (workshop.extended made).OwnsTapes := by
  intro id derived
  by_cases new : id = workshop.parts.size
  · subst new
    rw [part_extended_size, notDerived] at derived
    cases derived
  · rw [part_extended_of_ne new] at derived ⊢
    exact tapes id derived

theorem OwnsTapes.altered {next : Part R → Part R} (tapes : workshop.OwnsTapes)
    (known : id < workshop.parts.size)
    (notDerived : (next (workshop.part id)).shape.isDerivedAdjoint = false) :
    (workshop.altered id next).OwnsTapes := by
  intro other derived
  by_cases same : other = id
  · subst same
    rw [part_altered_self known, notDerived] at derived
    cases derived
  · rw [part_altered_of_ne same] at derived ⊢
    exact tapes other derived

/-- With a link to a reversed tape the tape remembers a part. -/
theorem ownsTapes_linked (known : id < workshop.parts.size) (inside : inverse < workshop.parts.size)
    (tapes : ∀ other, other ≠ inverse → (workshop.part other).shape.isDerivedAdjoint = true →
      (workshop.part other).adjoint ≠ none) :
    (workshop.linked id inverse).OwnsTapes := by
  intro other derived
  rw [Part.shape_eq_of_bare (bare_linked known inside)] at derived
  rw [part_linked known inside]
  dsimp only
  split
  · exact nofun
  · split
    · exact nofun
    · rename_i different
      exact tapes other different derived

theorem OwnsTapes.linked (tapes : workshop.OwnsTapes) (known : id < workshop.parts.size)
    (inside : inverse < workshop.parts.size) : (workshop.linked id inverse).OwnsTapes :=
  ownsTapes_linked known inside fun other _ => tapes other

theorem altered_extended_size (next : Part R → Part R) :
    (workshop.extended made).altered workshop.parts.size next = workshop.extended (next made) := by
  have same : (workshop.parts.push made).modify workshop.parts.size next =
      workshop.parts.push (next made) := by
    refine Array.ext_getElem? fun place => ?_
    rw [Array.getElem?_modify, Array.getElem?_push, Array.getElem?_push]
    by_cases here : place = workshop.parts.size
    · subst here
      simp
    · rw [if_neg here, if_neg here, if_neg (Ne.symm here)]
  exact congrArg (fun parts => { workshop with parts := parts }) same

/-- A new part that is linked need not have remembered anything before. -/
theorem linked_extended (old : id < workshop.parts.size) (made : Part R) :
    (workshop.extended made).linked id workshop.parts.size =
      (workshop.extended made.bare).linked id workshop.parts.size := by
  have apart : workshop.parts.size ≠ id := Nat.ne_of_gt old
  rw [linked, linked, if_neg apart, if_neg apart, altered_extended_size, altered_extended_size]
  rfl

/-! ## What a call comes to -/

variable [Scalar R]

/-- What a call for the adjoint of a part comes to. -/
inductive Yields (fuel : Nat) (id : PartId) (before : Workshop R) :
    Except Fault PartId × Workshop R → Prop where
  | failed {fault : Fault} {after : Workshop R}
      (progress : Progress (before.OpensTo id) before after) (tapes : after.OwnsTapes)
      (hopeless : ¬before.IsInvertible fuel id) :
      Yields fuel id before (.error fault, after)
  | taken {inverse : PartId} {after : Workshop R}
      (progress : Progress (before.OpensTo id) before after) (tapes : after.OwnsTapes)
      (remembers : after.Remembers id inverse) (settles : before.Settles id) :
      Yields fuel id before (.ok inverse, after)

/-- What making the adjoint of a part comes to, where the part remembers none yet. -/
inductive Readies (fuel : Nat) (id : PartId) (before : Workshop R) :
    Except Fault PartId × Workshop R → Prop where
  | failed {fault : Fault} {after : Workshop R}
      (progress : Progress (Relation.TransGen before.Opens id) before after)
      (tapes : after.OwnsTapes) (hopeless : ¬before.IsInvertible fuel id) :
      Readies fuel id before (.error fault, after)
  | made {inverse : PartId} {after : Workshop R} (inside : inverse < after.parts.size)
      (progress : Progress (before.OpensTo id) before (after.linked id inverse))
      (tapes : (after.linked id inverse).OwnsTapes) (settles : before.Settles id) :
      Readies fuel id before (.ok inverse, after)

/-- Calls for the adjoints of parts that come to what they should. -/
def YieldsAdjoints (fuel : Nat) (call : PartId → WorkshopAction R PartId) : Prop :=
  ∀ before : Workshop R, before.Tidy → before.OwnsTapes → ∀ id < before.parts.size,
    Yields fuel id before (call id before)

theorem Yields.progress {yielded : Except Fault PartId × Workshop R}
    (yields : Yields fuel id before yielded) :
    Progress (before.OpensTo id) before yielded.2 := by
  cases yields with
  | failed progress tapes hopeless => exact progress
  | taken progress tapes remembers settles => exact progress

theorem Yields.tapes {yielded : Except Fault PartId × Workshop R}
    (yields : Yields fuel id before yielded) : yielded.2.OwnsTapes := by
  cases yields with
  | failed progress tapes hopeless => exact tapes
  | taken progress tapes remembers settles => exact tapes

theorem yields_of_readies (old : id < before.parts.size)
    (capable : (before.part id).capabilities.adjoint = true)
    (unremembered : (before.part id).adjoint = none)
    (readies : Readies (fuel + 1) id before (makeAdjoint (adjointWithin fuel) id before)) :
    Yields (fuel + 1) id before (adjointWithin (fuel + 1) id before) := by
  rcases made : makeAdjoint (adjointWithin fuel) id before with ⟨outcome, after⟩
  rw [made] at readies
  cases readies with
  | failed progress tapes hopeless =>
    rw [adjointWithin_of_error capable unremembered made]
    exact .failed (progress.mono fun _ => Relation.TransGen.to_reflTransGen) tapes hopeless
  | @made inverse _ inside progress tapes settles =>
    rw [adjointWithin_of_ok capable unremembered made]
    have known : id < after.parts.size :=
      Nat.lt_of_lt_of_le old (Nat.le_trans progress.grows.size (Nat.le_of_eq size_linked))
    exact .taken progress tapes (remembers_linked known inside) settles

omit [Scalar R] in
theorem settles_of_members (alone : (before.part id).shape.members = []) : before.Settles id := by
  constructor
  rintro inner ⟨-, member⟩
  rw [IsMember, alone] at member
  cases member

omit [Scalar R] in
theorem leadsBack_of_members (unremembered : (before.part id).adjoint = none)
    (alone : (before.part id).shape.members = []) : before.LeadsBack id := by
  rw [leadsBack_iff_of_unremembered unremembered]
  intro inner member
  rw [IsMember, alone] at member
  cases member

section

variable (tidy : before.Tidy) (old : id < before.parts.size)
  (unremembered : (before.part id).adjoint = none)

include tidy old unremembered

/-- For a part without members another one is made that supports the adjoint. -/
theorem readies_alone (made : Part R) (tapes : before.OwnsTapes)
    {call : PartId → WorkshopAction R PartId} (alone : (before.part id).shape.members = [])
    (runs : makeAdjoint call id before = (.ok before.parts.size, before.extended made))
    (fits : made.bare.Fits before) (sizes : made.numQubits = (before.part id).numQubits)
    (members : ∀ inner ∈ made.shape.members, inner < before.parts.size)
    (supports : made.capabilities.adjoint = true) :
    Readies fuel id before (makeAdjoint call id before) := by
  have inside : before.parts.size < (before.extended made.bare).parts.size := lt_size_extended
  have nonneg : 0 ≤ made.bare.numQubits := (tidy.nonneg id).trans_eq sizes.symm
  have known : id < (before.extended made.bare).parts.size := Nat.lt_trans old inside
  have kept : (before.extended made.bare).part id = before.part id :=
    part_extended_of_ne (Nat.ne_of_lt old)
  rw [runs]
  refine .made lt_size_extended ?_ ?_ (settles_of_members alone)
  · rw [linked_extended old]
    refine Progress.linked ((Progress.refl tidy).extended fits nonneg members rfl) old unremembered
      (settles_of_members alone) inside (.inr (Nat.le_refl _)) ?_ ?_ ?_
    · rw [part_extended_size]
      rfl
    · rw [part_extended_size, kept]
      exact sizes
    · rw [part_extended_size]
      exact iff_of_true supports (leadsBack_of_members unremembered alone)
  · rw [linked_extended old]
    refine ownsTapes_linked known inside fun other apart derived => ?_
    rw [part_extended_of_ne apart] at derived ⊢
    exact tapes other derived

theorem readies_gate (tapes : before.OwnsTapes) {primitive : Gate R}
    (shape : (before.part id).shape = .gate primitive)
    (capable : (before.part id).capabilities.adjoint = true)
    (call : PartId → WorkshopAction R PartId) :
    Readies (fuel + 1) id before (makeAdjoint call id before) := by
  have alone : (before.part id).shape.members = [] := congrArg PartShape.members shape
  cases selfAdjoint : primitive.isSelfAdjoint with
  | true =>
    rw [makeAdjoint_of_isSelfAdjoint shape selfAdjoint]
    refine .made old ?_ (tapes.linked old old) (settles_of_members alone)
    exact Progress.linked (.refl tidy) old unremembered (settles_of_members alone) old (.inl rfl)
      unremembered rfl (iff_of_true capable (leadsBack_of_members unremembered alone))
  | false =>
    cases built : primitive.adjoint with
    | error fault =>
      rw [makeAdjoint_of_singular shape selfAdjoint built]
      refine .failed (.refl tidy) tapes fun invertible => ?_
      obtain ⟨inverse, found⟩ := (invertible.2 unremembered).1 primitive shape selfAdjoint
      cases found.symm.trans built
    | ok inverse =>
      have fits := tidy.fits id
      rw [Part.Fits, shape] at fits
      refine readies_alone tidy old unremembered
        ⟨.gate inverse, inverse.text, inverse.numQubits, .all, none⟩ tapes alone
        (makeAdjoint_of_gate shape selfAdjoint built) rfl ?_ (List.forall_mem_nil _) rfl
      exact (congrArg Int.ofNat (Gate.adjoint_numQubits built)).trans fits.symm

theorem readies_routine (tapes : before.OwnsTapes) {body : InstructionPlans R}
    {plan : InversePlan R}
    (shape : (before.part id).shape = .routine body plan)
    (capable : (before.part id).capabilities.adjoint = true)
    (call : PartId → WorkshopAction R PartId) :
    Readies fuel id before (makeAdjoint call id before) := by
  have alone : (before.part id).shape.members = [] := congrArg PartShape.members shape
  cases plan with
  | absent =>
    exact readies_alone tidy old unremembered
      ⟨.derivedAdjoint id, Operation.adjointName (before.part id).name,
        (before.part id).numQubits, (before.part id).capabilities, some id⟩
      tapes alone (makeAdjoint_of_absent shape) ⟨rfl, rfl⟩ rfl (List.forall_mem_singleton.2 old)
      capable
  | written written =>
    exact readies_alone tidy old unremembered
      ⟨.routine written .absent, Operation.adjointName (before.part id).name,
        (before.part id).numQubits, (before.part id).capabilities, none⟩
      tapes alone (makeAdjoint_of_written shape) trivial rfl (List.forall_mem_nil _) capable

/-- A part is made around the adjoint of the one member of another part. -/
theorem readies_around {call : PartId → WorkshopAction R PartId}
    (members : (before.part id).shape.members = [inner])
    (yields : Yields fuel inner before (call inner before))
    (wrap : PartId → WorkshopAction R PartId)
    (runs : makeAdjoint call id before = (call inner >>= wrap) before)
    (wraps : ∀ (between : Workshop R) undone,
      (between.part undone).numQubits = (before.part inner).numQubits →
      ∃ made : Part R, wrap undone between = (.ok between.parts.size, between.extended made) ∧
        made.Fits between ∧ made.numQubits = (before.part id).numQubits ∧
        made.shape.members = [undone] ∧ made.shape.isDerivedAdjoint = false ∧
        made.adjoint = none ∧
        made.capabilities.adjoint = (between.part undone).capabilities.adjoint) :
    Readies (fuel + 1) id before (makeAdjoint call id before) := by
  have member := isMember_of_members members
  have oldInner := tidy.member_lt id inner member
  have opens : before.Opens id inner := ⟨unremembered, member⟩
  have beyond : ∀ other, before.OpensTo inner other → Relation.TransGen before.Opens id other :=
    fun other onwards => Relation.TransGen.head' opens onwards
  have only : ∀ other, before.IsMember id other → other = inner := by
    intro other isMember
    rw [IsMember, members] at isMember
    exact List.mem_singleton.1 isMember
  rcases called : call inner before with ⟨outcome, between⟩
  rw [called] at yields
  cases yields with
  | failed progress ownsTapes hopeless =>
    rw [runs, Action.bind_of_error called]
    exact .failed (progress.mono beyond) ownsTapes fun invertible =>
      hopeless ((invertible.2 unremembered).2 inner member)
  | @taken undone _ progress ownsTapes remembers settlesInner =>
    have settles : before.Settles id := settles_around members settlesInner
    have sizeOf : (between.part undone).numQubits = (before.part inner).numQubits :=
      (progress.tidy.partner_numQubits inner undone remembers).trans
        (Part.numQubits_eq_of_bare (progress.grows.same inner oldInner))
    obtain ⟨made, wrapped, fits, sizes, around, notDerived, unlinked, supports⟩ :=
      wraps between undone sizeOf
    have known : id < between.parts.size := Nat.lt_of_lt_of_le old progress.grows.size
    have inside : between.parts.size < (between.extended made).parts.size := lt_size_extended
    have nonneg : 0 ≤ made.numQubits := (tidy.nonneg id).trans_eq sizes.symm
    have further := (progress.mono beyond).extended fits nonneg
      (by rw [around]; exact List.forall_mem_singleton.2 (progress.tidy.partner_lt _ _ remembers))
      unlinked
    have kept : ((between.extended made).part id).numQubits = (before.part id).numQubits := by
      rw [part_extended_of_ne (Nat.ne_of_lt known),
        Part.numQubits_eq_of_bare (progress.grows.same id old)]
    rw [runs, Action.bind_of_ok called, wrapped]
    refine .made inside ?_ ((ownsTapes.extended notDerived).linked (Nat.lt_trans known inside) inside)
      settles
    refine further.linked old unremembered settles inside (.inr progress.grows.size) ?_ ?_ ?_
    · rw [part_extended_size]
      exact unlinked
    · rw [part_extended_size, kept]
      exact sizes
    · rw [part_extended_size, supports, ← leadsBack_iff_of_remembers remembers,
        progress.leadsBack_iff tidy oldInner, leadsBack_iff_of_unremembered unremembered]
      exact ⟨fun leads other isMember => only other isMember ▸ leads, fun leads => leads inner member⟩

theorem readies_phaseShifted {call : PartId → WorkshopAction R PartId} {angle : PhaseAngle R}
    (shape : (before.part id).shape = .phaseShifted inner angle)
    (yields : Yields fuel inner before (call inner before)) :
    Readies (fuel + 1) id before (makeAdjoint call id before) := by
  have fits := tidy.fits id
  rw [Part.Fits, shape] at fits
  refine readies_around tidy old unremembered (congrArg PartShape.members shape) yields
    (fun undone => phaseShift undone angle.opposite) (makeAdjoint_of_phaseShifted shape)
    fun between undone sizes => ?_
  exact ⟨_, phaseShift_apply, ⟨rfl, rfl⟩, sizes.trans fits.1.symm, rfl, rfl, rfl, rfl⟩

theorem readies_controlled {call : PartId → WorkshopAction R PartId} {count : Int}
    (shape : (before.part id).shape = .controlled inner count)
    (yields : Yields fuel inner before (call inner before)) :
    Readies (fuel + 1) id before (makeAdjoint call id before) := by
  have fits := tidy.fits id
  rw [Part.Fits, shape] at fits
  refine readies_around tidy old unremembered (congrArg PartShape.members shape) yields
    (fun undone => controlWrapper undone count none) (makeAdjoint_of_controlled shape)
    fun between undone sizes => ?_
  have total : (between.part undone).numQubits + count = (before.part id).numQubits :=
    (congrArg (· + count) sizes).trans fits.symm
  have nonneg : 0 ≤ (between.part undone).numQubits + count := (tidy.nonneg id).trans_eq total.symm
  exact ⟨_, controlWrapper_of_nonneg nonneg, rfl, total, rfl, rfl, rfl, rfl⟩

end

/-! ## Circuits -/

/-- A new circuit that is filled with the adjoints of steps of a circuit, when some are done. -/
structure Filling (id inverse : PartId) (before : Workshop R) (done : List (PartId × List Int))
    (workshop : Workshop R) : Prop where
  progress : Progress (Relation.TransGen before.Opens id) before workshop
  tapes : workshop.OwnsTapes
  outside : before.parts.size ≤ inverse
  inside : inverse < workshop.parts.size
  shape : ∃ added, (workshop.part inverse).shape = .circuit added
  unlinked : (workshop.part inverse).adjoint = none
  sizes : (workshop.part inverse).numQubits = (before.part id).numQubits
  supports : (workshop.part inverse).capabilities.adjoint = true ↔
    ∀ step ∈ done, before.LeadsBack step.1
  settles : ∀ step ∈ done, before.Settles step.1

/-- What filling a circuit comes to. -/
inductive Unwinds (fuel : Nat) (id inverse : PartId) (before : Workshop R)
    (done pending : List (PartId × List Int)) : Except Fault Unit × Workshop R → Prop where
  | failed {fault : Fault} {after : Workshop R}
      (progress : Progress (Relation.TransGen before.Opens id) before after)
      (tapes : after.OwnsTapes)
      (hopeless : ¬∀ step ∈ pending, before.IsInvertible fuel step.1) :
      Unwinds fuel id inverse before done pending (.error fault, after)
  | filled {after : Workshop R} (filling : Filling id inverse before (done ++ pending) after) :
      Unwinds fuel id inverse before done pending (.ok (), after)

theorem Unwinds.cons {step : PartId × List Int} {done pending : List (PartId × List Int)}
    {filled : Except Fault Unit × Workshop R}
    (unwinds : Unwinds fuel id inverse before (done ++ [step]) pending filled) :
    Unwinds fuel id inverse before done (step :: pending) filled := by
  cases unwinds with
  | failed progress tapes hopeless =>
    exact .failed progress tapes fun invertible => hopeless fun other later =>
      invertible other (List.mem_cons_of_mem step later)
  | filled filling =>
    rw [← List.append_cons] at filling
    exact .filled filling

theorem filling_emptyPart (tidy : before.Tidy) (tapes : before.OwnsTapes) (id : PartId)
    (name : String) : Filling id before.parts.size before []
      (before.extended (emptyPart (before.part id).numQubits name)) where
  progress := (Progress.refl tidy).extended (List.forall_mem_nil _) (tidy.nonneg id)
    (List.forall_mem_nil _) rfl
  tapes := tapes.extended rfl
  outside := Nat.le_refl _
  inside := lt_size_extended
  shape := ⟨[], by rw [part_extended_size, emptyPart]⟩
  unlinked := by rw [part_extended_size, emptyPart]
  sizes := by rw [part_extended_size, emptyPart]
  supports := by
    rw [part_extended_size]
    exact iff_of_true rfl (List.forall_mem_nil _)
  settles := List.forall_mem_nil _

namespace Filling

variable {done : List (PartId × List Int)} {step : PartId} {qubits : List Int}
  (filling : Filling id inverse before done between) (tidy : before.Tidy)
  (member : before.IsMember id step)

include filling tidy member

/-- A call for the adjoint of a step leaves the circuit that is filled alone. -/
theorem called (unremembered : (before.part id).adjoint = none)
    (progress : Progress (between.OpensTo step) between after) (tapes : after.OwnsTapes) :
    Filling id inverse before done after := by
  have same := progress.grows.same inverse filling.inside
  have oldStep := tidy.member_lt id step member
  have grows := filling.progress.grows
  constructor
  case progress =>
    refine filling.progress.trans tidy progress fun other opens => ?_
    exact Relation.TransGen.head' ⟨unremembered, member⟩
      (tidy.opensTo_of_grows grows oldStep opens)
  case tapes => exact tapes
  case outside => exact filling.outside
  case inside => exact Nat.lt_of_lt_of_le filling.inside progress.grows.size
  case shape => exact filling.shape.imp fun _ => (Part.shape_eq_of_bare same).trans
  case unlinked =>
    by_contra something
    have opens := (progress.settles inverse filling.inside filling.unlinked something).1
    exact Nat.not_le_of_lt (tidy.opensTo_lt oldStep (tidy.opensTo_of_grows grows oldStep opens))
      filling.outside
  case sizes => exact (Part.numQubits_eq_of_bare same).trans filling.sizes
  case supports =>
    rw [Part.capabilities_eq_of_bare same]
    exact filling.supports
  case settles => exact filling.settles

/-- The adjoint of a step that has been taken is appended. -/
theorem append {steps : List (PartId × List Int)} (shape : (before.part id).shape = .circuit steps)
    (listed : (step, qubits) ∈ steps) (settles : before.Settles step)
    (remembers : between.Remembers step undone)
    (capable : (between.part undone).capabilities.adjoint = true ↔ before.LeadsBack step) :
    ∃ added, (between.part inverse).shape = .circuit added ∧
      addStep inverse undone qubits between =
        (.ok (), between.appended inverse added undone qubits) ∧
      Filling id inverse before (done ++ [(step, qubits)])
        (between.appended inverse added undone qubits) := by
  have fits := tidy.fits id
  rw [Part.Fits, shape] at fits
  have oldStep := tidy.member_lt id step member
  have arity : (qubits.length : Int) = (between.part undone).numQubits := by
    rw [(fits _ listed).1, filling.progress.tidy.partner_numQubits step undone remembers,
      Part.numQubits_eq_of_bare (filling.progress.grows.same step oldStep)]
  have distinct : Operation.areDistinctBelow (between.part inverse).numQubits qubits = true := by
    rw [filling.sizes]
    exact (fits _ listed).2
  obtain ⟨added, holds⟩ := filling.shape
  have here : (between.appended inverse added undone qubits).part inverse = _ :=
    part_appended_self filling.inside
  have addedFits := filling.progress.tidy.fits inverse
  rw [Part.Fits, holds] at addedFits
  refine ⟨added, holds, addStep_of_fits holds arity distinct, ?_⟩
  constructor
  case progress =>
    refine filling.progress.altered tidy filling.outside filling.inside filling.unlinked rfl rfl
      ?_ ?_ rfl
    · exact List.forall_mem_append.2
        ⟨addedFits, List.forall_mem_singleton.2 ⟨arity, distinct⟩⟩
    · exact filling.progress.tidy.members_append holds
        (filling.progress.tidy.partner_lt step undone remembers)
  case tapes => exact filling.tapes.altered filling.inside rfl
  case outside => exact filling.outside
  case inside => exact Nat.lt_of_lt_of_eq filling.inside size_appended.symm
  case shape => exact ⟨_, by rw [here]⟩
  case unlinked => rw [here]
  case sizes =>
    rw [here]
    exact filling.sizes
  case supports =>
    rw [here, List.forall_mem_append, List.forall_mem_singleton, ← filling.supports, ← capable]
    exact Bool.and_eq_true_iff
  case settles =>
    exact List.forall_mem_append.2 ⟨filling.settles, List.forall_mem_singleton.2 settles⟩

end Filling

section

variable {steps : List (PartId × List Int)} {call : PartId → WorkshopAction R PartId}
  (tidy : before.Tidy) (shape : (before.part id).shape = .circuit steps)
  (unremembered : (before.part id).adjoint = none)

include tidy shape unremembered

theorem unwinds_of_filling (yields : YieldsAdjoints fuel call) :
    ∀ (pending done : List (PartId × List Int)) (between : Workshop R),
      (∀ step ∈ pending, step ∈ steps) → Filling id inverse before done between →
      Unwinds fuel id inverse before done pending (addAdjointSteps call inverse pending between)
  | [], done, between, _, filling => by
    rw [← List.append_nil done] at filling
    exact .filled filling
  | (step, qubits) :: pending, done, between, among, filling => by
    obtain ⟨listed, amongRest⟩ := List.forall_mem_cons.1 among
    have member : before.IsMember id step := isMember_of_step shape listed
    have grows := filling.progress.grows
    have oldStep := tidy.member_lt id step member
    have knownStep := Nat.lt_of_lt_of_le oldStep grows.size
    have yielded := yields between filling.progress.tidy filling.tapes step knownStep
    rcases called : call step between with ⟨outcome, after⟩
    rw [called] at yielded
    have next := filling.called tidy member unremembered yielded.progress yielded.tapes
    cases yielded with
    | failed _ _ hopeless =>
      rw [addAdjointSteps, Action.bind_of_error called]
      refine .failed next.progress next.tapes fun invertible => hopeless ?_
      exact tidy.isInvertible_of_grows grows oldStep (invertible _ List.mem_cons_self)
    | @taken undone _ progress _ remembers settlesThere =>
      have settles := filling.progress.settles_before tidy settlesThere oldStep
      have capable : (after.part undone).capabilities.adjoint = true ↔ before.LeadsBack step := by
        rw [← leadsBack_iff_of_remembers remembers, next.progress.leadsBack_iff tidy oldStep]
      obtain ⟨added, -, appends, goesOn⟩ :=
        next.append tidy member shape listed settles remembers capable
      have rest := unwinds_of_filling yields pending _ _ amongRest goesOn
      rw [addAdjointSteps, Action.bind_of_ok called, Action.bind_of_ok appends]
      exact rest.cons

theorem readies_circuit (tapes : before.OwnsTapes) (old : id < before.parts.size)
    (yields : YieldsAdjoints fuel call) :
    Readies (fuel + 1) id before (makeAdjoint call id before) := by
  have filled := unwinds_of_filling tidy shape unremembered yields steps.reverse [] _
    (fun _ => List.mem_reverse.1)
    (filling_emptyPart tidy tapes id (Operation.adjointName (before.part id).name))
  have isMember : ∀ {inner}, before.IsMember id inner ↔ ∃ step ∈ steps, step.1 = inner := by
    intro inner
    rw [IsMember, shape]
    exact List.mem_map
  rcases ends : addAdjointSteps call before.parts.size steps.reverse (before.extended
    (emptyPart (before.part id).numQubits (Operation.adjointName (before.part id).name))) with
    ⟨outcome, after⟩
  rw [ends] at filled
  rw [makeAdjoint_of_circuit shape (tidy.nonneg id)]
  cases filled with
  | failed progress ownsTapes hopeless =>
    rw [Action.bind_of_error ends]
    refine .failed progress ownsTapes fun invertible => hopeless fun step listed => ?_
    exact (invertible.2 unremembered).2 step.1 (isMember.2 ⟨step, List.mem_reverse.1 listed, rfl⟩)
  | filled filling =>
    rw [Action.bind_of_ok ends]
    have settles : before.Settles id := by
      constructor
      rintro inner ⟨-, member⟩
      obtain ⟨step, listed, rfl⟩ := isMember.1 member
      exact filling.settles step (List.mem_reverse.2 listed)
    have known := Nat.lt_of_lt_of_le old filling.progress.grows.size
    refine .made filling.inside ?_ (filling.tapes.linked known filling.inside) settles
    refine filling.progress.linked old unremembered settles filling.inside (.inr filling.outside)
      filling.unlinked ?_ ?_
    · rw [filling.sizes, Part.numQubits_eq_of_bare (filling.progress.grows.same id old)]
    · rw [filling.supports, leadsBack_iff_of_unremembered unremembered]
      constructor
      · intro leads inner member
        obtain ⟨step, listed, rfl⟩ := isMember.1 member
        exact leads step (List.mem_reverse.2 listed)
      · exact fun leads step listed =>
          leads step.1 (isMember.2 ⟨step, List.mem_reverse.1 listed, rfl⟩)

end

/-! ## All parts -/

/-- Calls for the adjoints of parts come to what they should. -/
theorem yieldsAdjoints_adjointWithin : ∀ fuel, YieldsAdjoints (R := R) fuel (adjointWithin fuel)
  | 0, before, tidy, tapes, id, old => .failed (.refl tidy) tapes fun invertible => invertible
  | fuel + 1, before, tidy, tapes, id, old => by
    have ih := yieldsAdjoints_adjointWithin fuel
    cases capable : (before.part id).capabilities.adjoint with
    | false =>
      rw [adjointWithin_of_unsupported capable]
      refine .failed (.refl tidy) tapes fun invertible => ?_
      cases capable.symm.trans invertible.1
    | true =>
      cases remembered : (before.part id).adjoint with
      | some partner =>
        rw [adjointWithin_of_remembers capable remembered]
        exact .taken (.refl tidy) tapes remembered (settles_of_remembers remembered)
      | none =>
        have called : ∀ inner, before.IsMember id inner →
            Yields fuel inner before (adjointWithin fuel inner before) :=
          fun inner member => ih before tidy tapes inner (tidy.member_lt id inner member)
        refine yields_of_readies old capable remembered ?_
        cases shape : (before.part id).shape with
        | gate primitive => exact readies_gate tidy old remembered tapes shape capable _
        | circuit steps => exact readies_circuit tidy shape remembered tapes old ih
        | phaseShifted inner angle =>
          exact readies_phaseShifted tidy old remembered shape
            (called inner (isMember_of_members (congrArg PartShape.members shape)))
        | controlled inner count =>
          exact readies_controlled tidy old remembered shape
            (called inner (isMember_of_members (congrArg PartShape.members shape)))
        | derivedAdjoint inner =>
          exact absurd remembered (tapes id (congrArg PartShape.isDerivedAdjoint shape))
        | routine body plan => exact readies_routine tidy old remembered tapes shape capable _

end Workshop

end QuantumKata
