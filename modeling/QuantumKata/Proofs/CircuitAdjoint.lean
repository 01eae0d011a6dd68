import QuantumKata.Proofs.PartAdjoint

/-!
# The adjoint of a circuit

The adjoint of a circuit is a new circuit, to which the adjoints of the steps are appended, latest
first.  While it is filled nothing refers to it yet, so that appending to it lets nothing get out of
date, and none of the calls for the adjoints of the steps comes across it.

With this a call for the adjoint of any part is as it should be, by induction on how deeply parts
may be nested.
-/

noncomputable section

namespace QuantumKata

namespace Workshop

variable {definitions : Definitions ℝ} {stale : Set PartId} {fuel : Nat}
  {before between after workshop : Workshop ℝ} {id circuit undone other : PartId}
  {added done : List (PartId × List Int)} {qubits : List Int} {reached : PartId → Prop}

/-! ## Appending to a circuit that nothing refers to -/

section

variable (unreferred : ¬between.IsReferred circuit)

include unreferred

theorem eq_of_contains (inside : between.Contains id circuit) : id = circuit := by
  rcases inside.cases_tail with same | ⟨outer, -, member⟩
  · exact same.symm
  · exact absurd ⟨outer, .inl member⟩ unreferred

theorem eq_of_opensTo (opens : between.OpensTo id circuit) : id = circuit := by
  rcases opens.cases_tail with same | ⟨outer, -, last⟩
  · exact same.symm
  · exact absurd ⟨outer, .inl last.2⟩ unreferred

theorem outdated_appended_subset (unlinked : (between.part circuit).adjoint = none) :
    outdated between (between.appended circuit added undone qubits) stale ⊆ stale := by
  rintro id ⟨partner, remembers, -, isStale | ⟨changed, isInside, different⟩⟩
  · exact isStale
  · have same : changed = circuit := by
      by_contra unchanged
      exact different (by rw [part_appended_of_ne unchanged])
    subst same
    rcases isInside with first | second
    · cases eq_of_contains unreferred first
      cases remembers.symm.trans unlinked
    · cases eq_of_contains unreferred second
      exact absurd ⟨id, .inr remembers⟩ unreferred

end

section

variable (inside : circuit < between.parts.size)
  (shape : (between.part circuit).shape = .circuit added)

include inside shape

theorem isReferred_of_appended
    (isReferred : (between.appended circuit added undone qubits).IsReferred other) :
    between.IsReferred other ∨ other = undone := by
  rcases isReferred with ⟨referring, member | remembers⟩
  · by_cases same : referring = circuit
    · subst same
      rw [IsMember, part_appended_self inside] at member
      rcases List.mem_map.1 member with ⟨step, among, rfl⟩
      rcases List.mem_append.1 among with earlier | latest
      · refine .inl ⟨referring, .inl ?_⟩
        exact isMember_of_step shape earlier
      · exact .inr (congrArg Prod.fst (List.mem_singleton.1 latest))
    · rw [IsMember, part_appended_of_ne same] at member
      exact .inl ⟨referring, .inl member⟩
  · exact .inl ⟨referring, .inr (remembers_of_appended inside remembers).2⟩

theorem Advances.appended (advances : Advances definitions stale reached before between)
    (outside : before.parts.size ≤ circuit) (unlinked : (between.part circuit).adjoint = none)
    (unreferred : ¬between.IsReferred circuit) (referred : between.IsReferred undone)
    (oldUndone : undone < between.parts.size)
    (arity : (qubits.length : Int) = (between.part undone).numQubits)
    (distinct : Operation.areDistinctBelow (between.part circuit).numQubits qubits = true) :
    Advances definitions stale reached before
      (between.appended circuit added undone qubits) := by
  have kept : ∀ other < before.parts.size,
      (between.appended circuit added undone qubits).part other = between.part other :=
    fun other old => part_appended_of_ne (old.trans_le outside).ne
  constructor
  case grows =>
    constructor
    case size => exact advances.grows.size.trans_eq size_appended.symm
    case same =>
      intro other old
      rw [kept other old]
      exact advances.grows.same other old
    case remembers =>
      intro other partner remembers
      rw [Remembers, kept other (lt_size_of_remembers remembers)]
      exact advances.grows.remembers other partner remembers
  case sound =>
    refine (advances.sound.appended inside oldUndone shape arity distinct).mono
      (outdated_appended_subset unreferred unlinked) ?_
    intro other isStale
    rcases advances.sound.remembers other isStale with ⟨partner, remembers⟩
    refine ⟨partner, ?_⟩
    have different : other ≠ circuit := by
      rintro rfl
      cases remembers.symm.trans unlinked
    rw [Remembers, part_appended_of_ne different]
    exact remembers
  case settles =>
    intro other old nothing something
    rw [kept other old] at something
    exact advances.settles other old nothing something
  case referred =>
    intro other old isReferred
    rcases isReferred_of_appended inside shape isReferred with earlier | rfl
    · exact advances.referred other old earlier
    · exact advances.referred other old referred
  case upToDate =>
    intro id old upToDate other concerned
    have wasConcerned : between.Concerns id other ∧ other ≠ circuit := by
      induction concerned with
      | refl => exact ⟨.refl, (old.trans_le outside).ne⟩
      | @tail last next _ tied ih =>
        have tiedBefore : between.IsTied last next := by
          rwa [IsTied, IsMember, Remembers, part_appended_of_ne ih.2] at tied
        exact ⟨.tail ih.1 tiedBefore, fun same => unreferred ⟨last, same ▸ tiedBefore⟩⟩
    exact advances.upToDate id old upToDate other wasConcerned.1

end

/-! ## Filling the adjoint of a circuit -/

/-- A new circuit in which the adjoints of some steps of a circuit stand, in the order in which they
have been taken. -/
structure Unrolls (definitions : Definitions ℝ) (stale : Set PartId) (id inverse : PartId)
    (before : Workshop ℝ) (done added : List (PartId × List Int)) (workshop : Workshop ℝ) :
    Prop where
  advances : Advances definitions stale (before.OpensBeyond id) before workshop
  outside : before.parts.size ≤ inverse
  inside : inverse < workshop.parts.size
  shape : (workshop.part inverse).shape = .circuit added
  unlinked : (workshop.part inverse).adjoint = none
  unreferred : ¬workshop.IsReferred inverse
  sizes : (workshop.part inverse).numQubits = (before.part id).numQubits
  matched : List.Forall₂ (fun step other => before.Settles step.1 ∧ before.IsMember id step.1 ∧
    workshop.Remembers step.1 other.1 ∧ step.2 = other.2) done added

theorem unrolls_emptyPart (sound : before.Sound definitions stale) (id : PartId) (name : String) :
    Unrolls definitions stale id before.parts.size before [] []
      (before.extended (emptyPart (before.part id).numQubits name)) := by
  -- a circuit without steps adds no ties
  have wasTied : ∀ {referring other},
      (before.extended (emptyPart (before.part id).numQubits name)).IsTied referring other →
        before.IsTied referring other :=
    fun tied => (isTied_extended_iff.1 tied).resolve_left fun fresh => fresh.2.elim nofun nofun
  constructor
  case advances =>
    constructor
    case grows => exact grows_extended before _
    case sound =>
      exact sound.extended rfl (List.forall_mem_nil _) (List.forall_mem_nil _)
        (sound.inOrder id).nonneg trivial rfl
    case settles =>
      intro other known nothing something
      rw [part_extended_of_ne known.ne] at something
      exact absurd nothing something
    case referred =>
      rintro other - ⟨referring, tied⟩
      exact .inl ⟨referring, wasTied tied⟩
    case upToDate =>
      intro other _ upToDate further concerned
      refine upToDate further ?_
      induction concerned with
      | refl => exact .refl
      | tail _ tied ih => exact .tail ih (wasTied tied)
  case outside => exact le_refl _
  case inside => exact lt_size_extended
  case shape => rw [part_extended_size, emptyPart]
  case unlinked => rw [part_extended_size, emptyPart]
  case unreferred =>
    exact not_isReferred_extended (fun other => (sound.inOrder other).members) sound.partner_lt rfl
      rfl
  case sizes => rw [part_extended_size, emptyPart]
  case matched => exact .nil

namespace Unrolls

variable {inverse step : PartId}
  (unrolls : Unrolls definitions stale id inverse before done added between)
  (sound : before.Sound definitions stale) (member : before.IsMember id step)

include unrolls sound member

theorem not_opensTo : ¬between.OpensTo step inverse := by
  intro opens
  have same := eq_of_opensTo unrolls.unreferred opens
  have oldStep := (sound.inOrder id).members step member
  exact absurd (oldStep.trans_le unrolls.outside) (by rw [same]; exact lt_irrefl _)

variable (unremembered : (before.part id).adjoint = none)

include unremembered

/-- From a step only those parts are reached that were reached before. -/
theorem opensBeyond (opens : between.OpensTo step other) : before.OpensBeyond id other :=
  ⟨step, ⟨unremembered, member⟩,
    (sound.opensTo_grow unrolls.advances.grows ((sound.inOrder id).members step member) opens).1⟩

/-- A call for the adjoint of a step leaves the circuit that is filled alone. -/
theorem called (advances : Advances definitions stale (between.OpensTo step) between after) :
    Unrolls definitions stale id inverse before done added after := by
  have same := advances.grows.same inverse unrolls.inside
  constructor
  case advances =>
    exact unrolls.advances.trans sound advances
      fun _ => unrolls.opensBeyond sound member unremembered
  case outside => exact unrolls.outside
  case inside => exact unrolls.inside.trans_le advances.grows.size
  case shape => exact (Part.shape_eq_of_bare same).trans unrolls.shape
  case unlinked =>
    by_contra something
    exact unrolls.not_opensTo sound member
      (advances.settles inverse unrolls.inside unrolls.unlinked something).1
  case unreferred =>
    intro isReferred
    rcases advances.referred inverse unrolls.inside isReferred with earlier | opens
    · exact unrolls.unreferred earlier
    · exact unrolls.not_opensTo sound member opens
  case sizes => exact (Part.numQubits_eq_of_bare same).trans unrolls.sizes
  case matched =>
    refine unrolls.matched.imp fun step other matched => ?_
    exact ⟨matched.1, matched.2.1, advances.grows.remembers _ _ matched.2.2.1, matched.2.2.2⟩

end Unrolls

theorem Unrolls.exists_step {inverse : PartId}
    (unrolls : Unrolls definitions stale id inverse before done added between) :
    ∀ other ∈ added, ∃ step, before.IsMember id step ∧ between.Remembers step other.1 := by
  have matched : List.Forall₂ (fun other _ =>
      (∃ step, before.IsMember id step ∧ between.Remembers step other.1) ∧ True) added done :=
    unrolls.matched.flip.imp fun other step matched =>
      ⟨⟨step.1, matched.2.1, matched.2.2.1⟩, trivial⟩
  exact ((List.forall₂_and_left _ _).1 matched).1

/-- What is made for a circuit when all its steps are dealt with. -/
theorem Unrolls.prepared {inverse : PartId} {steps : List (PartId × List Int)}
    (shape : (before.part id).shape = .circuit steps)
    (unremembered : (before.part id).adjoint = none) (old : id < before.parts.size)
    (unrolls : Unrolls definitions stale id inverse before steps.reverse added between) :
    Prepared definitions stale id inverse before between between where
  advances := unrolls.advances
  settles := by
    constructor
    rintro inner ⟨-, member⟩
    rw [IsMember, shape] at member
    rcases List.mem_map.1 member with ⟨step, listed, rfl⟩
    exact ((List.forall₂_and_left _ _).1 unrolls.matched).1 step (List.mem_reverse.2 listed)
  old := old
  unremembered := unremembered
  grows := .refl between
  inside := unrolls.inside
  fresh := .inr ⟨unrolls.outside, unrolls.unreferred⟩
  new _ outside inside := absurd inside (not_lt.2 outside)
  links _ _ remembers := .inl remembers
  free _ remembers := by cases remembers.symm.trans unrolls.unlinked
  members := by
    intro inner member
    rw [IsMember, unrolls.shape] at member
    rcases List.mem_map.1 member with ⟨other, listed, rfl⟩
    rcases unrolls.exists_step other listed with ⟨step, isMember, remembers⟩
    exact .head (.inl ((unrolls.advances.grows.isMember_iff old).2 isMember))
      (.single (.inr remembers))
  inOrder outside := absurd unrolls.inside (not_lt.2 outside)
  sizes := unrolls.sizes.trans
    (Part.numQubits_eq_of_bare (unrolls.advances.grows.same id old)).symm

/-- What appending the adjoints of steps that are pending comes to. -/
inductive Fills (definitions : Definitions ℝ) (stale : Set PartId) (fuel : Nat)
    (id inverse : PartId) (before : Workshop ℝ) (done pending : List (PartId × List Int)) :
    Except Fault Unit × Workshop ℝ → Prop where
  | failed {fault : Fault} {after : Workshop ℝ}
      (advances : Advances definitions stale (before.OpensBeyond id) before after)
      (hopeless : ¬∀ step ∈ pending, (∃ operation, before.unfolded fuel step.1 = some operation) ∧
        before.Supports step.1) :
      Fills definitions stale fuel id inverse before done pending (.error fault, after)
  | filled {added : List (PartId × List Int)} {after : Workshop ℝ}
      (unrolls : Unrolls definitions stale id inverse before (done ++ pending) added after) :
      Fills definitions stale fuel id inverse before done pending (.ok (), after)

theorem Fills.cons {inverse : PartId} {step : PartId × List Int}
    {pending : List (PartId × List Int)}
    {filled : Except Fault Unit × Workshop ℝ}
    (fills : Fills definitions stale fuel id inverse before (done ++ [step]) pending filled) :
    Fills definitions stale fuel id inverse before done (step :: pending) filled := by
  cases fills with
  | failed advances hopeless =>
    refine .failed advances fun ready => hopeless fun other member => ?_
    exact ready other (List.mem_cons_of_mem step member)
  | filled unrolls =>
    rw [← List.append_cons] at unrolls
    exact .filled unrolls

section

variable {inverse : PartId} {steps : List (PartId × List Int)}
  {call : PartId → WorkshopAction ℝ PartId}
  (sound : before.Sound definitions stale) (shape : (before.part id).shape = .circuit steps)

include sound shape

/-- The adjoint of a step that has been taken is appended. -/
theorem Unrolls.append {step : PartId}
    (unrolls : Unrolls definitions stale id inverse before done added between)
    (listed : (step, qubits) ∈ steps) (settles : before.Settles step)
    (remembers : between.Remembers step undone) :
    addStep inverse undone qubits between =
        (.ok (), between.appended inverse added undone qubits) ∧
      Unrolls definitions stale id inverse before (done ++ [(step, qubits)])
        (added ++ [(undone, qubits)]) (between.appended inverse added undone qubits) := by
  have fits := (sound.inOrder id).fits
  rw [Part.Fits, shape] at fits
  have member : before.IsMember id step := isMember_of_step shape listed
  have oldStep := (sound.inOrder id).members step member
  have arity : (qubits.length : Int) = (between.part undone).numQubits :=
    (fits _ listed).1.trans (unrolls.advances.numQubits_eq oldStep remembers).symm
  have distinct : Operation.areDistinctBelow (between.part inverse).numQubits qubits = true := by
    rw [unrolls.sizes]
    exact (fits _ listed).2
  have referred : between.IsReferred undone := ⟨step, .inr remembers⟩
  have apart : undone ≠ inverse := fun same => unrolls.unreferred (same ▸ referred)
  have here : (between.appended inverse added undone qubits).part inverse = _ :=
    part_appended_self unrolls.inside
  refine ⟨addStep_of_fits unrolls.shape arity distinct, ?_⟩
  constructor
  case advances =>
    exact unrolls.advances.appended unrolls.inside unrolls.shape unrolls.outside unrolls.unlinked
      unrolls.unreferred referred (unrolls.advances.sound.partner_lt _ _ remembers) arity distinct
  case outside => exact unrolls.outside
  case inside => exact unrolls.inside.trans_eq size_appended.symm
  case shape => rw [here]
  case unlinked => rw [here]
  case unreferred =>
    intro isReferred
    rcases isReferred_of_appended unrolls.inside unrolls.shape isReferred with earlier | same
    · exact unrolls.unreferred earlier
    · exact apart same.symm
  case sizes =>
    rw [here]
    exact unrolls.sizes
  case matched =>
    have kept : ∀ step partner, between.Remembers step partner →
        (between.appended inverse added undone qubits).Remembers step partner := by
      intro step partner remembers
      have different : step ≠ inverse := by
        rintro rfl
        cases remembers.symm.trans unrolls.unlinked
      rw [Remembers, part_appended_of_ne different]
      exact remembers
    refine List.rel_append (unrolls.matched.imp fun step other matched => ?_) ?_
    · exact ⟨matched.1, matched.2.1, kept _ _ matched.2.2.1, matched.2.2.2⟩
    · exact .cons ⟨settles, member, kept _ _ remembers, rfl⟩ .nil

section

variable (unremembered : (before.part id).adjoint = none)

include unremembered

theorem fills_addAdjointSteps (takes : TakesAdjoints definitions stale fuel call) :
    ∀ (pending done added : List (PartId × List Int)) (between : Workshop ℝ),
      (∀ step ∈ pending, step ∈ steps) →
      Unrolls definitions stale id inverse before done added between →
      Fills definitions stale fuel id inverse before done pending
        (addAdjointSteps call inverse pending between)
  | [], done, added, between, _, unrolls => by
    rw [← List.append_nil done] at unrolls
    exact .filled unrolls
  | (step, qubits) :: pending, done, added, between, among, unrolls => by
    rcases List.forall_mem_cons.1 among with ⟨listed, amongRest⟩
    have member : before.IsMember id step := isMember_of_step shape listed
    have grows := unrolls.advances.grows
    have oldStep := (sound.inOrder id).members step member
    have taken := takes between unrolls.advances.sound step (oldStep.trans_le grows.size)
    rcases called : call step between with ⟨outcome, after⟩
    rw [called] at taken
    have next := unrolls.called sound member unremembered taken.advances
    cases taken with
    | failed _ hopeless =>
      rw [addAdjointSteps, Action.bind_of_error called]
      refine .failed next.advances fun ready => ?_
      rcases ready _ List.mem_cons_self with ⟨⟨operation, stands⟩, supports⟩
      exact hopeless operation ((sound.unfolded_grow grows oldStep fuel).trans stands)
        (sound.supports_grow grows oldStep supports)
    | taken _ remembers settlesThere =>
      have settles := unrolls.advances.settles_before sound settlesThere oldStep
      rcases next.append sound shape listed settles remembers with ⟨appends, unrollsNext⟩
      have rest := fills_addAdjointSteps takes pending _ _ _ amongRest unrollsNext
      rw [addAdjointSteps, Action.bind_of_ok called, Action.bind_of_ok appends]
      exact rest.cons

theorem makes_circuit (old : id < before.parts.size)
    (takes : TakesAdjoints definitions stale fuel call) :
    Makes definitions stale (fuel + 1) id before (makeAdjoint call id before) := by
  have nonneg := (sound.inOrder id).nonneg
  have filled := fills_addAdjointSteps sound shape unremembered takes steps.reverse [] [] _
    (fun _ => List.mem_reverse.1)
    (unrolls_emptyPart sound id (Operation.adjointName (before.part id).name))
  rcases ends : addAdjointSteps call before.parts.size steps.reverse (before.extended
    (emptyPart (before.part id).numQubits (Operation.adjointName (before.part id).name))) with
    ⟨outcome, after⟩
  rw [ends] at filled
  rw [makeAdjoint_of_circuit shape nonneg]
  cases filled with
  | failed advances hopeless =>
    rw [Action.bind_of_error ends]
    refine .failed advances fun operation stands supports => hopeless fun step member => ?_
    rw [unfolded_of_circuit shape] at stands
    rcases Option.map_eq_some_iff.1 stands with ⟨listed, followed, -⟩
    have among := List.mem_reverse.1 member
    refine ⟨PartShape.exists_of_unfoldedSteps followed step among, fun other inside => ?_⟩
    refine supports other (.head ?_ inside)
    exact isMember_of_step shape among
  | filled unrolls =>
    rw [Action.bind_of_ok ends]
    have prepared := unrolls.prepared shape unremembered old
    apply prepared.makes sound
    intro upToDate
    have unrolled := (Part.shape_eq_of_bare prepared.bare_eq).trans unrolls.shape
    refine counters_circuit (prepared.shape_linked.trans shape) unrolled prepared.sizes_linked ?_
    refine unrolls.matched.imp fun step other matched => ?_
    exact ⟨prepared.counters_member matched.2.1 matched.2.2.1 upToDate, matched.2.2.2⟩

end

end

/-! ## All parts -/

/-- Calls for the adjoints of parts are as they should be. -/
theorem takesAdjoints_adjointWithin (definitions : Definitions ℝ) (stale : Set PartId) :
    ∀ fuel, TakesAdjoints definitions stale fuel (adjointWithin fuel)
  | 0, before, sound, id, old => by
    refine .failed (.refl sound) fun operation stands => ?_
    cases stands
  | fuel + 1, before, sound, id, old => by
    have ih := takesAdjoints_adjointWithin definitions stale fuel
    cases capable : (before.part id).capabilities.adjoint with
    | false => exact takes_of_unsupported sound capable
    | true =>
      cases remembered : (before.part id).adjoint with
      | some partner => exact takes_of_remembers sound capable remembered
      | none =>
        have called : ∀ inner, before.IsMember id inner →
            Takes definitions stale fuel inner before (adjointWithin fuel inner before) :=
          fun inner member => ih before sound inner ((sound.inOrder id).members inner member)
        apply takes_of_makes capable remembered old
        cases shape : (before.part id).shape with
        | gate primitive => exact makes_gate sound old remembered shape _
        | circuit steps => exact makes_circuit sound shape remembered old ih
        | phaseShifted inner angle =>
          exact makes_phaseShifted sound old remembered
            (called inner (isMember_of_members (congrArg PartShape.members shape))) shape
        | controlled inner count =>
          exact makes_controlled sound old remembered
            (called inner (isMember_of_members (congrArg PartShape.members shape))) shape
        | derivedAdjoint inner =>
          cases ((sound.inOrder id).derived inner shape).symm.trans remembered
        | routine body inverse => exact makes_routine sound old remembered shape capable _

end Workshop

end QuantumKata

end
