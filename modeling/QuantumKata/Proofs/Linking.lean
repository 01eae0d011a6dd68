import QuantumKata.Proofs.TakingAdjoints

/-!
# Links between parts

A part and its adjoint are *linked* when each remembers the other.  Taking adjoints only ever adds
links: what was remembered before is remembered still, and whatever begins to be remembered is
remembered on both sides.  At least one of the two parts is new then, or they are the same part, so
no old part comes between two others.

For that it has to be known that a part still remembers nothing by the time its own adjoint has been
made.  Its members are asked for theirs in between, and they would have to come back to the part,
which a part that settles cannot have happen to it.

Nothing is said here about what parts stand for.
-/

namespace QuantumKata

namespace Workshop

variable {R : Type} [Scalar R]

/-! ## Tidy workshops -/

/-- Every part goes with its members and has as many qubits as the adjoint that it remembers, and
these parts are all in the store. -/
structure Tidy (workshop : Workshop R) : Prop where
  fits : ∀ id, (workshop.part id).Fits workshop
  nonneg : ∀ id, 0 ≤ (workshop.part id).numQubits
  member_lt : ∀ id inner, workshop.IsMember id inner → inner < workshop.parts.size
  partner_lt : ∀ id partner, workshop.Remembers id partner → partner < workshop.parts.size
  partner_numQubits : ∀ id partner, workshop.Remembers id partner →
    (workshop.part partner).numQubits = (workshop.part id).numQubits

omit [Scalar R] in
/-- A reversed tape remembers the part that it plays backwards, or what has taken its place. -/
def OwnsTapes (workshop : Workshop R) : Prop :=
  ∀ id, (workshop.part id).shape.isDerivedAdjoint = true → (workshop.part id).adjoint ≠ none

theorem tidy_empty : ({} : Workshop R).Tidy := by
  have nothing : ∀ id, ({} : Workshop R).part id = default := fun _ => part_of_le (Nat.zero_le _)
  constructor
  case fits =>
    intro id
    rw [nothing]
    exact nofun
  case nonneg =>
    intro id
    rw [nothing]
    exact Int.le_refl 0
  case member_lt => exact fun id _ member => absurd (lt_size_of_isMember member) (Nat.not_lt_zero id)
  case partner_lt =>
    exact fun id _ remembers => absurd (lt_size_of_remembers remembers) (Nat.not_lt_zero id)
  case partner_numQubits =>
    exact fun id _ remembers => absurd (lt_size_of_remembers remembers) (Nat.not_lt_zero id)

variable {workshop before between after : Workshop R} {id inner other partner inverse : PartId}

/-- A step that is in the store may be appended to the steps of a circuit. -/
theorem Tidy.members_append {steps : List (PartId × List Int)} {step : PartId} {qubits : List Int}
    (tidy : workshop.Tidy) (shape : (workshop.part id).shape = .circuit steps)
    (known : step < workshop.parts.size) :
    ∀ inner ∈ (PartShape.circuit (R := R) (steps ++ [(step, qubits)])).members,
      inner < workshop.parts.size :=
  List.forall_mem_map.2 (List.forall_mem_append.2
    ⟨fun _ listed => tidy.member_lt _ _ (isMember_of_step shape listed),
      List.forall_mem_singleton.2 known⟩)

/-- A part that goes with what is there may be put into a tidy workshop. -/
theorem Tidy.extended {made : Part R} (tidy : workshop.Tidy) (fits : made.Fits workshop)
    (nonneg : 0 ≤ made.numQubits)
    (members : ∀ inner ∈ made.shape.members, inner < workshop.parts.size)
    (partners : ∀ partner, made.adjoint = some partner → partner < workshop.parts.size ∧
      (workshop.part partner).numQubits = made.numQubits) :
    (workshop.extended made).Tidy := by
  constructor
  case fits =>
    intro id
    by_cases new : id = workshop.parts.size
    · subst new
      rw [part_extended_size]
      exact fits.extended members
    · rw [part_extended_of_ne new]
      exact (tidy.fits id).extended (tidy.member_lt id)
  case nonneg =>
    intro id
    by_cases new : id = workshop.parts.size
    · subst new
      rw [part_extended_size]
      exact nonneg
    · rw [part_extended_of_ne new]
      exact tidy.nonneg id
  case member_lt =>
    intro id inner member
    refine Nat.lt_trans ?_ lt_size_extended
    rcases isMember_extended_iff.1 member with ⟨-, ofMade⟩ | earlier
    · exact members inner ofMade
    · exact tidy.member_lt id inner earlier
  case partner_lt =>
    intro id partner remembers
    refine Nat.lt_trans ?_ lt_size_extended
    rcases remembers_extended_iff.1 remembers with ⟨-, ofMade⟩ | earlier
    · exact (partners partner ofMade).1
    · exact tidy.partner_lt id partner earlier
  case partner_numQubits =>
    intro id partner remembers
    rcases remembers_extended_iff.1 remembers with ⟨rfl, ofMade⟩ | earlier
    · obtain ⟨known, sizes⟩ := partners partner ofMade
      rw [part_extended_size, part_extended_of_ne (Nat.ne_of_lt known)]
      exact sizes
    · rw [part_extended_of_ne (Nat.ne_of_lt (lt_size_of_remembers earlier)),
        part_extended_of_ne (Nat.ne_of_lt (tidy.partner_lt id partner earlier))]
      exact tidy.partner_numQubits id partner earlier

/-- A part may be changed into one of the same size and name that goes with what is there and
remembers nothing. -/
theorem Tidy.altered {next : Part R → Part R} (tidy : workshop.Tidy)
    (known : id < workshop.parts.size)
    (name : (next (workshop.part id)).name = (workshop.part id).name)
    (size : (next (workshop.part id)).numQubits = (workshop.part id).numQubits)
    (fits : (next (workshop.part id)).Fits workshop)
    (members : ∀ inner ∈ (next (workshop.part id)).shape.members, inner < workshop.parts.size)
    (unlinked : (next (workshop.part id)).adjoint = none) :
    (workshop.altered id next).Tidy := by
  have signature := signature_altered known size name
  have remembered : ∀ {other partner}, (workshop.altered id next).Remembers other partner →
      workshop.Remembers other partner :=
    fun remembers => ((remembers_altered_iff known unlinked).1 remembers).2
  constructor
  case fits =>
    intro other
    by_cases same : other = id
    · subst same
      rw [part_altered_self known]
      exact fits.of_same rfl fun inner _ => signature inner
    · rw [part_altered_of_ne same]
      exact (tidy.fits other).of_same rfl fun inner _ => signature inner
  case nonneg =>
    intro other
    rw [(signature other).1]
    exact tidy.nonneg other
  case member_lt =>
    intro other inner member
    rw [size_altered]
    by_cases same : other = id
    · subst same
      rw [IsMember, part_altered_self known] at member
      exact members inner member
    · rw [IsMember, part_altered_of_ne same] at member
      exact tidy.member_lt other inner member
  case partner_lt =>
    intro other partner remembers
    rw [size_altered]
    exact tidy.partner_lt other partner (remembered remembers)
  case partner_numQubits =>
    intro other partner remembers
    rw [(signature partner).1, (signature other).1]
    exact tidy.partner_numQubits other partner (remembered remembers)

/-- Parts of the same size may begin to remember each other. -/
theorem Tidy.linked (tidy : workshop.Tidy) (known : id < workshop.parts.size)
    (inside : inverse < workshop.parts.size)
    (sizes : (workshop.part inverse).numQubits = (workshop.part id).numQubits) :
    (workshop.linked id inverse).Tidy := by
  have bare : ∀ other, ((workshop.linked id inverse).part other).bare = (workshop.part other).bare :=
    fun _ => bare_linked known inside
  have numQubits : ∀ other, ((workshop.linked id inverse).part other).numQubits =
      (workshop.part other).numQubits := fun other => Part.numQubits_eq_of_bare (bare other)
  constructor
  case fits =>
    exact fun other => (tidy.fits other).of_bare (bare other) fun inner _ => bare inner
  case nonneg =>
    intro other
    rw [numQubits]
    exact tidy.nonneg other
  case member_lt =>
    intro other inner member
    rw [IsMember, Part.shape_eq_of_bare (bare other)] at member
    rw [size_linked]
    exact tidy.member_lt other inner member
  case partner_lt =>
    intro other partner remembers
    rw [size_linked]
    rcases remembers_of_linked known inside remembers with ⟨-, rfl⟩ | ⟨-, rfl⟩ | earlier
    · exact inside
    · exact known
    · exact tidy.partner_lt other partner earlier
  case partner_numQubits =>
    intro other partner remembers
    rw [numQubits, numQubits]
    rcases remembers_of_linked known inside remembers with ⟨rfl, rfl⟩ | ⟨rfl, rfl⟩ | earlier
    · exact sizes
    · exact sizes.symm
    · exact tidy.partner_numQubits other partner earlier

/-! ## The parts that are gone through -/

omit [Scalar R] in
/-- Every adjoint that is met on the ways from a part supports the adjoint itself. -/
def LeadsBack (workshop : Workshop R) (id : PartId) : Prop :=
  ∀ other partner, workshop.OpensTo id other → workshop.Remembers other partner →
    (workshop.part partner).capabilities.adjoint = true

/-- Whether a part has an adjoint already or can get one, if parts are nested less than `depth`
deeply on the ways from it. -/
def IsInvertible (workshop : Workshop R) : (depth : Nat) → PartId → Prop
  | 0, _ => False
  | depth + 1, id =>
    (workshop.part id).capabilities.adjoint = true ∧ ((workshop.part id).adjoint = none →
      (∀ primitive, (workshop.part id).shape = .gate primitive → primitive.isSelfAdjoint = false →
        ∃ inverse, primitive.adjoint = .ok inverse) ∧
      ∀ inner, workshop.IsMember id inner → workshop.IsInvertible depth inner)

omit [Scalar R] in
theorem leadsBack_iff_of_remembers (remembers : workshop.Remembers id partner) :
    workshop.LeadsBack id ↔ (workshop.part partner).capabilities.adjoint = true := by
  constructor
  · exact fun leads => leads id partner .refl remembers
  · intro capable other further opens remembersFurther
    rcases opens.cases_head with rfl | ⟨inner, ⟨nothing, -⟩, -⟩
    · cases remembers.symm.trans remembersFurther
      exact capable
    · cases remembers.symm.trans nothing

omit [Scalar R] in
theorem leadsBack_iff_of_unremembered (nothing : (workshop.part id).adjoint = none) :
    workshop.LeadsBack id ↔ ∀ inner, workshop.IsMember id inner → workshop.LeadsBack inner := by
  constructor
  · exact fun leads inner member other partner opens =>
      leads other partner (.head ⟨nothing, member⟩ opens)
  · intro leads other partner opens remembers
    rcases opens.cases_head with rfl | ⟨inner, ⟨-, member⟩, onwards⟩
    · cases remembers.symm.trans nothing
    · exact leads inner member other partner onwards remembers

theorem Tidy.opensTo_lt (tidy : workshop.Tidy) (known : id < workshop.parts.size)
    (opens : workshop.OpensTo id other) : other < workshop.parts.size :=
  ((Grows.refl workshop).opensTo_old tidy.member_lt known opens).2

theorem Tidy.opensTo_of_grows (tidy : before.Tidy) (grows : before.Grows after)
    (old : id < before.parts.size) (opens : after.OpensTo id other) : before.OpensTo id other :=
  (grows.opensTo_old tidy.member_lt old opens).1

omit [Scalar R] in
theorem Grows.capable_iff (grows : before.Grows after) (old : id < before.parts.size) :
    (after.part id).capabilities.adjoint = (before.part id).capabilities.adjoint := by
  rw [Part.capabilities_eq_of_bare (grows.same id old)]

/-- What could get an adjoint can still get one. -/
theorem Tidy.isInvertible_of_grows (tidy : before.Tidy) (grows : before.Grows after) {depth : Nat}
    (old : id < before.parts.size) (invertible : before.IsInvertible depth id) :
    after.IsInvertible depth id := by
  induction depth generalizing id with
  | zero => exact invertible
  | succ depth ih =>
    obtain ⟨capable, inside⟩ := invertible
    refine ⟨(grows.capable_iff old).trans capable, fun nothing => ?_⟩
    obtain ⟨gates, members⟩ := inside (grows.adjoint_eq_none nothing)
    constructor
    · intro primitive shape
      exact gates primitive ((Part.shape_eq_of_bare (grows.same id old)).symm.trans shape)
    · intro inner member
      have wasMember := (grows.isMember_iff old).1 member
      exact ih (tidy.member_lt id inner wasMember) (members inner wasMember)

/-! ## Progress -/

/-- What taking adjoints does to a workshop.  It grows and stays tidy.  The old parts that begin to
remember are among those that are reached, and what they remember supports the adjoint exactly if
they led back. -/
structure Progress (reached : PartId → Prop) (before after : Workshop R) : Prop where
  grows : before.Grows after
  tidy : after.Tidy
  settles : ∀ id < before.parts.size, (before.part id).adjoint = none →
    (after.part id).adjoint ≠ none → reached id ∧ before.Settles id
  /-- New links hold on both sides, and do not lie between two old parts. -/
  answered : ∀ id partner, after.Remembers id partner → before.Remembers id partner ∨
    after.Remembers partner id ∧
      (partner = id ∨ before.parts.size ≤ partner ∨ before.parts.size ≤ id)
  carries : ∀ id < before.parts.size, (before.part id).adjoint = none →
    ∀ partner, after.Remembers id partner →
      ((after.part partner).capabilities.adjoint = true ↔ before.LeadsBack id)

namespace Progress

variable {reached further : PartId → Prop}

theorem refl (tidy : workshop.Tidy) : Progress reached workshop workshop where
  grows := .refl workshop
  tidy := tidy
  settles _ _ nothing something := absurd nothing something
  answered _ _ remembers := .inl remembers
  carries _ _ nothing _ remembers := by cases remembers.symm.trans nothing

theorem mono (progress : Progress reached before after) (implies : ∀ id, reached id → further id) :
    Progress further before after where
  grows := progress.grows
  tidy := progress.tidy
  settles id old nothing something :=
    (progress.settles id old nothing something).imp_left (implies id)
  answered := progress.answered
  carries := progress.carries

/-- Whether a part leads back stays the same. -/
theorem leadsBack_iff (progress : Progress reached before after) (tidy : before.Tidy)
    (old : id < before.parts.size) : after.LeadsBack id ↔ before.LeadsBack id := by
  have grows := progress.grows
  constructor
  · intro leads other partner opens remembers
    induction opens using Relation.ReflTransGen.head_induction_on with
    | refl =>
      have capable := leads other partner .refl (grows.remembers other partner remembers)
      rwa [grows.capable_iff (tidy.partner_lt other partner remembers)] at capable
    | @head id inner opens onwards ih =>
      cases remembered : (after.part id).adjoint with
      | some found =>
        -- The way has been cut short here, by an adjoint that supports the adjoint only if the rest
        -- of the way leads back.
        have capable := leads id found .refl remembered
        have led := (progress.carries id old opens.1 found remembered).1 capable
        exact led other partner (.head opens onwards) remembers
      | none =>
        have member := (grows.isMember_iff old).2 opens.2
        refine ih (tidy.member_lt id inner opens.2) fun last found opensFurther => ?_
        exact leads last found (.head ⟨remembered, member⟩ opensFurther)
  · intro leads other partner opens remembers
    have opened := tidy.opensTo_of_grows grows old opens
    have known := tidy.opensTo_lt old opened
    cases remembered : (before.part other).adjoint with
    | some found =>
      cases (grows.remembers other found remembered).symm.trans remembers
      rw [grows.capable_iff (tidy.partner_lt other partner remembered)]
      exact leads other partner opened remembered
    | none =>
      refine (progress.carries other known remembered partner remembers).2 ?_
      exact fun last found onwards => leads last found (opened.trans onwards)

/-- What a part remembers has not begun to remember the part in return. -/
theorem remembers_back (progress : Progress reached before after) (tidy : before.Tidy)
    (earlier : before.Remembers id partner) (back : after.Remembers partner id) :
    before.Remembers partner id := by
  rcases progress.answered partner id back with remembers | ⟨-, same | outside | outside⟩
  · exact remembers
  · subst same
    exact earlier
  · exact absurd (lt_size_of_remembers earlier) (Nat.not_lt_of_le outside)
  · exact absurd (tidy.partner_lt id partner earlier) (Nat.not_lt_of_le outside)

/-- What settles after some adjoints have been taken settled before. -/
theorem settles_before (progress : Progress reached before after) (tidy : before.Tidy)
    (settles : after.Settles id) (old : id < before.parts.size) : before.Settles id :=
  progress.grows.settles_old tidy.member_lt
    (fun id old nothing something => (progress.settles id old nothing something).2) settles old

theorem trans (first : Progress reached before between) (tidy : before.Tidy)
    (second : Progress further between after) (implies : ∀ id, further id → reached id) :
    Progress reached before after where
  grows := first.grows.trans second.grows
  tidy := second.tidy
  settles id old nothing something := by
    by_cases unremembered : (between.part id).adjoint = none
    · obtain ⟨isReached, settles⟩ :=
        second.settles id (Nat.lt_of_lt_of_le old first.grows.size) unremembered something
      exact ⟨implies id isReached, first.settles_before tidy settles old⟩
    · exact first.settles id old nothing unremembered
  answered id partner remembers := by
    have size := first.grows.size
    rcases second.answered id partner remembers with earlier | ⟨back, new⟩
    · rcases first.answered id partner earlier with before | ⟨back, new⟩
      · exact .inl before
      · exact .inr ⟨second.grows.remembers partner id back, new⟩
    · exact .inr ⟨back, new.imp_right (Or.imp (Nat.le_trans size) (Nat.le_trans size))⟩
  carries id old nothing partner remembers := by
    cases remembered : (between.part id).adjoint with
    | some found =>
      cases (second.grows.remembers id found remembered).symm.trans remembers
      rw [second.grows.capable_iff (first.tidy.partner_lt id partner remembered)]
      exact first.carries id old nothing partner remembered
    | none =>
      rw [← first.leadsBack_iff tidy old]
      exact second.carries id (Nat.lt_of_lt_of_le old first.grows.size) remembered partner remembers

/-- A new part that remembers nothing. -/
theorem extended {made : Part R} (progress : Progress reached before between)
    (fits : made.Fits between) (nonneg : 0 ≤ made.numQubits)
    (members : ∀ inner ∈ made.shape.members, inner < between.parts.size)
    (unlinked : made.adjoint = none) : Progress reached before (between.extended made) := by
  have grows := grows_extended between made
  have kept : ∀ {id}, id < between.parts.size → (between.extended made).part id = between.part id :=
    fun known => part_extended_of_ne (Nat.ne_of_lt known)
  have remembered : ∀ {id partner}, (between.extended made).Remembers id partner →
      between.Remembers id partner := fun remembers => remembers_of_extended unlinked remembers
  constructor
  case grows => exact progress.grows.trans grows
  case tidy =>
    refine progress.tidy.extended fits nonneg members fun partner remembers => ?_
    cases unlinked.symm.trans remembers
  case settles =>
    intro id old nothing something
    rw [kept (Nat.lt_of_lt_of_le old progress.grows.size)] at something
    exact progress.settles id old nothing something
  case answered =>
    intro id partner remembers
    exact (progress.answered id partner (remembered remembers)).imp_right
      (And.imp_left (grows.remembers partner id))
  case carries =>
    intro id old nothing partner remembers
    have earlier := remembered remembers
    rw [kept (progress.tidy.partner_lt id partner earlier)]
    exact progress.carries id old nothing partner earlier

/-- A new part is changed before anything remembers it. -/
theorem altered {next : Part R → Part R} (progress : Progress reached before between)
    (tidy : before.Tidy) (outside : before.parts.size ≤ id) (known : id < between.parts.size)
    (nothing : (between.part id).adjoint = none)
    (name : (next (between.part id)).name = (between.part id).name)
    (size : (next (between.part id)).numQubits = (between.part id).numQubits)
    (fits : (next (between.part id)).Fits between)
    (members : ∀ inner ∈ (next (between.part id)).shape.members, inner < between.parts.size)
    (unlinked : (next (between.part id)).adjoint = none) :
    Progress reached before (between.altered id next) := by
  have apart : ∀ {other}, other < before.parts.size → other ≠ id :=
    fun old => Nat.ne_of_lt (Nat.lt_of_lt_of_le old outside)
  have adjoint : ∀ other,
      ((between.altered id next).part other).adjoint = (between.part other).adjoint := by
    intro other
    by_cases same : other = id
    · subst same
      rw [part_altered_self known, unlinked, nothing]
    · rw [part_altered_of_ne same]
  have remembers_iff : ∀ {other partner}, (between.altered id next).Remembers other partner ↔
      between.Remembers other partner := by
    intro other partner
    rw [Remembers, Remembers, adjoint]
  constructor
  case grows =>
    constructor
    case size => exact Nat.le_trans progress.grows.size (Nat.le_of_eq size_altered.symm)
    case same =>
      intro other old
      rw [part_altered_of_ne (apart old)]
      exact progress.grows.same other old
    case remembers =>
      exact fun other partner remembers =>
        remembers_iff.2 (progress.grows.remembers other partner remembers)
  case tidy => exact progress.tidy.altered known name size fits members unlinked
  case settles =>
    intro other old unremembered something
    rw [adjoint] at something
    exact progress.settles other old unremembered something
  case answered =>
    intro other partner remembers
    rw [remembers_iff] at remembers ⊢
    exact progress.answered other partner remembers
  case carries =>
    intro other old unremembered partner remembers
    rw [remembers_iff] at remembers
    have elsewhere : partner ≠ id := by
      rintro rfl
      rcases progress.answered other partner remembers with earlier | ⟨back, -⟩
      · exact apart (tidy.partner_lt other partner earlier) rfl
      · cases back.symm.trans nothing
    rw [part_altered_of_ne elsewhere]
    exact progress.carries other old unremembered partner remembers

/-- Nothing that was done for the members of a part can have come back to the part itself. -/
theorem still_unremembered (progress : Progress (Relation.TransGen before.Opens id) before between)
    (old : id < before.parts.size) (unremembered : (before.part id).adjoint = none)
    (settles : before.Settles id) : (between.part id).adjoint = none := by
  by_contra something
  obtain ⟨inner, opens, back⟩ := Relation.TransGen.head'_iff.1
    (progress.settles id old unremembered something).1
  exact settles.not_opensTo opens back

/-- A part and what has been made for it begin to remember each other. -/
theorem linked (progress : Progress (Relation.TransGen before.Opens id) before between)
    (old : id < before.parts.size) (unremembered : (before.part id).adjoint = none)
    (settles : before.Settles id) (inside : inverse < between.parts.size)
    (fresh : inverse = id ∨ before.parts.size ≤ inverse)
    (unlinked : (between.part inverse).adjoint = none)
    (sizes : (between.part inverse).numQubits = (between.part id).numQubits)
    (capable : (between.part inverse).capabilities.adjoint = true ↔ before.LeadsBack id) :
    Progress (before.OpensTo id) before (between.linked id inverse) := by
  have known : id < between.parts.size := Nat.lt_of_lt_of_le old progress.grows.size
  have bare : ∀ other, ((between.linked id inverse).part other).bare = (between.part other).bare :=
    fun _ => bare_linked known inside
  have capabilities : ∀ other, ((between.linked id inverse).part other).capabilities =
      (between.part other).capabilities := fun other => Part.capabilities_eq_of_bare (bare other)
  have oldInverse : inverse < before.parts.size → inverse = id := fun inverseOld =>
    fresh.resolve_right (Nat.not_le_of_lt inverseOld)
  have still := progress.still_unremembered old unremembered settles
  have grows : between.Grows (between.linked id inverse) := by
    refine grows_by_link known inside (fun partner remembers => ?_) fun partner remembers => ?_
    · cases remembers.symm.trans still
    · cases remembers.symm.trans unlinked
  constructor
  case grows => exact progress.grows.trans grows
  case tidy => exact progress.tidy.linked known inside sizes
  case settles =>
    intro other otherOld nothing something
    obtain ⟨partner, remembers⟩ := Option.ne_none_iff_exists'.1 something
    rcases remembers_of_linked known inside remembers with ⟨rfl, -⟩ | ⟨rfl, -⟩ | earlier
    · exact ⟨.refl, settles⟩
    · cases oldInverse otherOld
      exact ⟨.refl, settles⟩
    · have before : (between.part other).adjoint ≠ none := by
        rw [earlier]
        exact nofun
      exact (progress.settles other otherOld nothing before).imp_left
        Relation.TransGen.to_reflTransGen
  case answered =>
    intro other partner remembers
    rcases remembers_of_linked known inside remembers with ⟨rfl, rfl⟩ | ⟨rfl, rfl⟩ | earlier
    · exact .inr ⟨remembers_linked_inverse known inside, fresh.imp_right .inl⟩
    · exact .inr ⟨remembers_linked known inside, (fresh.imp_left Eq.symm).imp_right .inr⟩
    · exact (progress.answered other partner earlier).imp_right
        (And.imp_left (grows.remembers partner other))
  case carries =>
    intro other otherOld nothing partner remembers
    rw [capabilities]
    rcases remembers_of_linked known inside remembers with ⟨rfl, rfl⟩ | ⟨rfl, rfl⟩ | earlier
    · exact capable
    · cases oldInverse otherOld
      exact capable
    · exact progress.carries other otherOld nothing partner earlier

end Progress

end Workshop

end QuantumKata
