import QuantumKata.Proofs.AdjointCalls

/-!
# What parts support

The capabilities of a part are settled when it is made, and those of a circuit once more with every
step.  They are the capabilities that the part has from its members, as long as no member changes
after that.  A part is *overtaken* when a part that it is tied to, a member or the adjoint that it
remembers, is changed after the tie has come about.

In a *faithful* workshop a part that is not overtaken supports what its members let it support.  A
part that concerns nothing overtaken agrees with the adjoint that it remembers: both support the
same, and if one of them is free of routines then so is the other.  A workshop stays faithful when
parts are made from what is there, when parts that agree begin to remember each other, and when a
part is changed.
-/

namespace QuantumKata

/-! ## What a part has from its members -/

section

variable {R : Type}

/-- Whether a part is a routine. -/
def PartShape.isRoutine : PartShape R → Bool
  | routine _ _ => true
  | _ => false

/-- What a part supports according to its members. -/
def Part.inherited (workshop : Workshop R) (part : Part R) : Capabilities :=
  match part.shape with
  | .gate _ => .all
  | .circuit steps =>
    ⟨steps.all fun step => (workshop.part step.1).capabilities.adjoint,
      steps.all fun step => (workshop.part step.1).capabilities.controlled⟩
  | .phaseShifted inner _ => (workshop.part inner).capabilities
  | .controlled inner _ => (workshop.part inner).capabilities.withControlled
  | .derivedAdjoint inner => (workshop.part inner).capabilities
  | .routine _ _ => part.capabilities

theorem Part.inherited_congr {before after : Workshop R} {part other : Part R}
    (bare : other.bare = part.bare)
    (same : ∀ inner ∈ part.shape.members,
      (after.part inner).capabilities = (before.part inner).capabilities) :
    other.inherited after = part.inherited before := by
  rcases part with ⟨shape, name, numQubits, capabilities, adjoint⟩
  rcases other with ⟨shape, name, numQubits, capabilities, adjoint⟩
  cases bare
  cases shape with
  | gate primitive => rfl
  | circuit steps =>
    have each : ∀ step ∈ steps, (after.part step.1).capabilities =
        (before.part step.1).capabilities := List.forall_mem_map.1 same
    simp only [inherited, Capabilities.mk.injEq]
    constructor
    · rw [Bool.eq_iff_iff, List.all_eq_true, List.all_eq_true]
      exact forall₂_congr fun step listed => by rw [each step listed]
    · rw [Bool.eq_iff_iff, List.all_eq_true, List.all_eq_true]
      exact forall₂_congr fun step listed => by rw [each step listed]
  | phaseShifted inner angle => exact same inner (List.mem_singleton_self inner)
  | controlled inner count =>
    exact congrArg Capabilities.withControlled (same inner (List.mem_singleton_self inner))
  | derivedAdjoint inner => exact same inner (List.mem_singleton_self inner)
  | routine body inverse => rfl

/-- A part that has the adjoint from its members has members that support it. -/
theorem Part.adjoint_of_inherited {workshop : Workshop R} {part : Part R} {inner : PartId}
    (supports : (part.inherited workshop).adjoint = true) (member : inner ∈ part.shape.members) :
    (workshop.part inner).capabilities.adjoint = true := by
  rw [inherited] at supports
  cases shape : part.shape with
  | gate primitive =>
    rw [shape] at member
    cases member
  | circuit steps =>
    rw [shape] at supports member
    obtain ⟨step, listed, rfl⟩ := List.mem_map.1 member
    exact List.all_eq_true.1 supports step listed
  | phaseShifted inner angle | controlled inner count | derivedAdjoint inner =>
    rw [shape] at supports member
    cases List.mem_singleton.1 member
    exact supports
  | routine body inverse =>
    rw [shape] at member
    cases member

end

namespace Workshop

section

variable {R : Type} {workshop before after : Workshop R} {overtaken : Set PartId}
  {id inner other partner inverse changed : PartId}

/-! ## Parts that are free of routines -/

/-- Nothing inside a part is a routine. -/
def IsRoutineFree (workshop : Workshop R) (id : PartId) : Prop :=
  ∀ inner, workshop.Contains id inner → (workshop.part inner).shape.isRoutine = false

theorem isRoutineFree_iff : workshop.IsRoutineFree id ↔
    (workshop.part id).shape.isRoutine = false ∧
      ∀ inner ∈ (workshop.part id).shape.members, workshop.IsRoutineFree inner := by
  constructor
  · exact fun free => ⟨free id .refl,
      fun inner member other inside => free other (.head member inside)⟩
  · rintro ⟨here, within⟩ other inside
    rcases inside.cases_head with rfl | ⟨inner, member, further⟩
    · exact here
    · exact within inner member other further

theorem isRoutineFree_congr (same : ∀ inner, before.Contains id inner →
    (after.part inner).shape = (before.part inner).shape) :
    after.IsRoutineFree id ↔ before.IsRoutineFree id := by
  have onwards : ∀ {inner}, before.Contains id inner → after.Contains id inner := by
    intro inner inside
    induction inside with
    | refl => exact .refl
    | tail earlier member ih =>
      refine ih.tail ?_
      rw [IsMember, same _ earlier]
      exact member
  have back : ∀ {inner}, after.Contains id inner → before.Contains id inner := by
    intro inner inside
    induction inside with
    | refl => exact .refl
    | tail _ member ih =>
      refine ih.tail ?_
      rwa [IsMember, same _ ih] at member
  constructor
  · intro free inner inside
    rw [← same inner inside]
    exact free inner (onwards inside)
  · intro free inner inside
    rw [same inner (back inside)]
    exact free inner (back inside)

theorem concerns_of_contains (inside : workshop.Contains id inner) : workshop.Concerns id inner :=
  Relation.ReflTransGen.mono (fun _ _ => Or.inl) id inner inside

/-! ## Faithful workshops -/

/-- Two parts support the same, and are free of routines both or not at all. -/
structure Agree (workshop : Workshop R) (id partner : PartId) : Prop where
  capabilities : (workshop.part partner).capabilities = (workshop.part id).capabilities
  routineFree : workshop.IsRoutineFree partner ↔ workshop.IsRoutineFree id

theorem Agree.refl (workshop : Workshop R) (id : PartId) : workshop.Agree id id := ⟨rfl, .rfl⟩

theorem Agree.symm (agree : workshop.Agree id partner) : workshop.Agree partner id :=
  ⟨agree.capabilities.symm, agree.routineFree.symm⟩

/-- Parts agree as long as nothing inside them is changed. -/
theorem Agree.congr (agree : before.Agree id partner)
    (same : ∀ inner, before.Contains id inner ∨ before.Contains partner inner →
      (after.part inner).bare = (before.part inner).bare) : after.Agree id partner where
  capabilities := by
    rw [Part.capabilities_eq_of_bare (same partner (.inr .refl)),
      Part.capabilities_eq_of_bare (same id (.inl .refl))]
    exact agree.capabilities
  routineFree := by
    rw [isRoutineFree_congr fun inner inside => Part.shape_eq_of_bare (same inner (.inr inside)),
      isRoutineFree_congr fun inner inside => Part.shape_eq_of_bare (same inner (.inl inside))]
    exact agree.routineFree

/-- What a part supports is what it has from its members, unless it is overtaken, and a part that
concerns nothing overtaken agrees with the adjoint that it remembers. -/
structure Faithful (overtaken : Set PartId) (workshop : Workshop R) : Prop where
  known : ∀ id ∈ overtaken, id < workshop.parts.size
  inherits : ∀ id ∉ overtaken,
    (workshop.part id).capabilities = (workshop.part id).inherited workshop
  agrees : ∀ id partner, workshop.Remembers id partner → workshop.IsUpToDate overtaken id →
    workshop.Agree id partner

theorem faithful_empty : Faithful ∅ ({} : Workshop R) where
  known _ isOvertaken := absurd isOvertaken (Set.notMem_empty _)
  inherits id _ := by
    rw [part_of_le (Nat.zero_le id)]
    rfl
  agrees id _ remembers := absurd (lt_size_of_remembers remembers) (Nat.not_lt_zero id)

/-- The parts that are overtaken after a part has been changed: those that were, and those that are
tied to the changed part. -/
def overtakenBy (workshop : Workshop R) (changed : PartId) (overtaken : Set PartId) : Set PartId :=
  {id | id ∈ overtaken ∨ workshop.IsTied id changed}

/-- A change of a part that nothing refers to overtakes nothing. -/
theorem overtakenBy_of_not_isReferred (unreferred : ¬workshop.IsReferred changed) :
    workshop.overtakenBy changed overtaken = overtaken := by
  ext id
  exact or_iff_left fun tied => unreferred ⟨id, tied⟩

/-- From a part that is up to date after a change nothing has led to what is changed. -/
theorem concerns_altered {next : Part R → Part R} (apart : id ≠ changed)
    (upToDate : (workshop.altered changed next).IsUpToDate
      (workshop.overtakenBy changed overtaken) id)
    (concerned : workshop.Concerns id other) :
    (workshop.altered changed next).Concerns id other ∧ other ≠ changed := by
  induction concerned with
  | refl => exact ⟨.refl, apart⟩
  | @tail last found _ tied ih =>
    refine ⟨ih.1.tail ?_, ?_⟩
    · rw [IsTied, IsMember, Remembers, part_altered_of_ne ih.2]
      exact tied
    · rintro rfl
      exact upToDate last ih.1 (.inr tied)

end

variable {R : Type} [Scalar R] {workshop before after : Workshop R} {overtaken : Set PartId}
  {id inner other partner inverse changed : PartId} {made : Part R}

/-! ## Growing -/

theorem Tidy.isRoutineFree_grow (tidy : before.Tidy) (grows : before.Grows after)
    (old : id < before.parts.size) : after.IsRoutineFree id ↔ before.IsRoutineFree id :=
  isRoutineFree_congr fun inner inside => Part.shape_eq_of_bare
    (grows.same inner (grows.contains_of_old tidy.member_lt old inside).2)

namespace Faithful

/-- A workshop stays faithful when new parts support what they have from their members, and parts
that begin to remember each other agree. -/
theorem grow (faithful : before.Faithful overtaken) (tidy : before.Tidy)
    (grows : before.Grows after)
    (new : ∀ id, before.parts.size ≤ id → id < after.parts.size →
      (after.part id).capabilities = (after.part id).inherited after)
    (links : ∀ id partner, after.Remembers id partner → before.Remembers id partner ∨
      (after.IsUpToDate overtaken id → after.Agree id partner)) :
    after.Faithful overtaken := by
  constructor
  case known => exact fun id isOvertaken => (faithful.known id isOvertaken).trans_le grows.size
  case inherits =>
    intro id current
    by_cases old : id < before.parts.size
    · have bare := grows.same id old
      rw [Part.capabilities_eq_of_bare bare, faithful.inherits id current]
      refine (Part.inherited_congr bare fun inner member => ?_).symm
      exact Part.capabilities_eq_of_bare (grows.same inner (tidy.member_lt id inner member))
    · by_cases inside : id < after.parts.size
      · exact new id (Nat.le_of_not_lt old) inside
      · rw [part_of_le (Nat.le_of_not_lt inside)]
        rfl
  case agrees =>
    intro id partner remembers upToDate
    rcases links id partner remembers with remembered | agree
    · have old := lt_size_of_remembers remembered
      have wasUpToDate : before.IsUpToDate overtaken id := fun other concerned =>
        upToDate other (grows.concerns_of_old tidy.member_lt tidy.partner_lt old concerned).1
      refine (faithful.agrees id partner remembered wasUpToDate).congr fun inner inside => ?_
      apply grows.same
      rcases inside with insideFirst | insideSecond
      · exact (grows.contains_of_old tidy.member_lt old insideFirst).2
      · have oldPartner := tidy.partner_lt id partner remembered
        exact (grows.contains_of_old tidy.member_lt oldPartner insideSecond).2
    · exact agree upToDate

/-- A part may be made that supports what it has from its members and agrees with what it remembers,
if anything. -/
theorem extended (faithful : workshop.Faithful overtaken) (tidy : workshop.Tidy)
    (members : ∀ inner ∈ made.shape.members, inner < workshop.parts.size)
    (inherits : made.capabilities = made.inherited workshop)
    (links : ∀ partner, made.adjoint = some partner →
      (workshop.extended made).Agree workshop.parts.size partner) :
    (workshop.extended made).Faithful overtaken := by
  refine faithful.grow tidy (grows_extended workshop made) ?_ ?_
  · intro id outside inside
    rw [size_extended] at inside
    obtain rfl := Nat.le_antisymm (Nat.lt_succ_iff.1 inside) outside
    rw [part_extended_size, inherits]
    refine (Part.inherited_congr rfl fun inner member => ?_).symm
    rw [part_extended_of_ne (members inner member).ne]
  · intro id partner remembers
    rcases remembers_extended_iff.1 remembers with ⟨rfl, ofMade⟩ | earlier
    · exact .inr fun _ => links partner ofMade
    · exact .inl earlier

theorem extended_unlinked (faithful : workshop.Faithful overtaken) (tidy : workshop.Tidy)
    (members : ∀ inner ∈ made.shape.members, inner < workshop.parts.size)
    (inherits : made.capabilities = made.inherited workshop) (unlinked : made.adjoint = none) :
    (workshop.extended made).Faithful overtaken :=
  faithful.extended tidy members inherits fun _ remembers =>
    absurd (remembers.symm.trans unlinked) (Option.some_ne_none _)

/-- Parts that agree may begin to remember each other. -/
theorem linked (faithful : workshop.Faithful overtaken) (tidy : workshop.Tidy)
    (known : id < workshop.parts.size) (inside : inverse < workshop.parts.size)
    (own : ∀ partner, workshop.Remembers id partner → partner = inverse)
    (free : ∀ partner, workshop.Remembers inverse partner → partner = id)
    (agree : workshop.IsUpToDate overtaken id → workshop.Agree id inverse) :
    (workshop.linked id inverse).Faithful overtaken := by
  have grows := grows_by_link known inside own free
  have agreeLinked : (workshop.linked id inverse).IsUpToDate overtaken id →
      (workshop.linked id inverse).Agree id inverse := by
    intro upToDate
    refine (agree fun other concerned => ?_).congr fun _ _ => bare_linked known inside
    exact upToDate other (grows.concerns_of_old tidy.member_lt tidy.partner_lt known concerned).1
  refine faithful.grow tidy grows ?_ ?_
  · intro other outside insideLinked
    rw [size_linked] at insideLinked
    exact absurd insideLinked (Nat.not_lt_of_le outside)
  · intro other partner remembers
    rcases remembers_of_linked known inside remembers with ⟨rfl, rfl⟩ | ⟨rfl, rfl⟩ | earlier
    · exact .inr agreeLinked
    · refine .inr fun upToDate => (agreeLinked fun further concerned => ?_).symm
      exact upToDate further (.head (.inr remembers) concerned)
    · exact .inl earlier

/-! ## Changing a part -/

omit [Scalar R] in
/-- A part that is changed forgets its adjoint, and overtakes the parts that are tied to it. -/
theorem altered {next : Part R → Part R} (faithful : workshop.Faithful overtaken)
    (known : id < workshop.parts.size) (unlinked : (next (workshop.part id)).adjoint = none)
    (inherits : id ∉ overtaken → ¬workshop.IsMember id id →
      (next (workshop.part id)).capabilities =
        (next (workshop.part id)).inherited (workshop.altered id next)) :
    (workshop.altered id next).Faithful (workshop.overtakenBy id overtaken) where
  known other isOvertaken := by
    rw [size_altered]
    rcases isOvertaken with earlier | member | remembers
    · exact faithful.known other earlier
    · exact lt_size_of_isMember member
    · exact lt_size_of_remembers remembers
  inherits other current := by
    have free : ¬workshop.IsMember other id := fun member => current (.inr (.inl member))
    have wasCurrent : other ∉ overtaken := fun earlier => current (.inl earlier)
    by_cases same : other = id
    · subst same
      rw [part_altered_self known]
      exact inherits wasCurrent free
    · rw [part_altered_of_ne same, faithful.inherits other wasCurrent]
      refine (Part.inherited_congr rfl fun inner member => ?_).symm
      have apart : inner ≠ id := by
        rintro rfl
        exact free member
      rw [part_altered_of_ne apart]
  agrees other partner remembers upToDate := by
    rcases (remembers_altered_iff known unlinked).1 remembers with ⟨apart, remembered⟩
    have kept : ∀ {further}, workshop.Concerns other further →
        (workshop.altered id next).Concerns other further ∧ further ≠ id :=
      concerns_altered apart upToDate
    have wasUpToDate : workshop.IsUpToDate overtaken other := fun further concerned isOvertaken =>
      upToDate further (kept concerned).1 (.inl isOvertaken)
    refine (faithful.agrees other partner remembered wasUpToDate).congr fun inner inside => ?_
    rw [part_altered_of_ne]
    rcases inside with insideFirst | insideSecond
    · exact (kept (concerns_of_contains insideFirst)).2
    · exact (kept (.head (.inr remembered) (concerns_of_contains insideSecond))).2

omit [Scalar R] in
/-- A circuit supports what its steps support in common, also with a step more. -/
theorem appended {steps : List (PartId × List Int)} {step : PartId} {qubits : List Int}
    (faithful : workshop.Faithful overtaken) (known : id < workshop.parts.size)
    (shape : (workshop.part id).shape = .circuit steps) :
    (workshop.appended id steps step qubits).Faithful (workshop.overtakenBy id overtaken) := by
  refine faithful.altered known rfl fun current free => ?_
  let after := workshop.appended id steps step qubits
  have earlier : (workshop.part id).inherited after = (workshop.part id).capabilities := by
    rw [faithful.inherits id current]
    refine Part.inherited_congr rfl fun inner member => ?_
    have apart : inner ≠ id := by
      rintro rfl
      exact free member
    rw [part_appended_of_ne apart]
  -- A circuit that is appended to itself supports as a step what it supports as a whole.
  have latest : (workshop.part id).capabilities.common (after.part step).capabilities =
      (workshop.part id).capabilities.common (workshop.part step).capabilities := by
    by_cases same : step = id
    · subst same
      rw [part_appended_self known]
      simp [Capabilities.common]
    · rw [part_appended_of_ne same]
  rw [Part.inherited, shape] at earlier
  dsimp only
  rw [← latest, ← earlier]
  simp [Part.inherited, Capabilities.common, after, Workshop.appended]

end Faithful

end Workshop

end QuantumKata
