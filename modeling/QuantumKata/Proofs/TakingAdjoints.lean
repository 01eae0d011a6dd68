import QuantumKata.Proofs.OutOfDate

/-!
# Taking the adjoint of a part

Taking the adjoint of a part asks its members for theirs first, and theirs, down to the parts that
remember one already.  So it goes through the parts that are reached from the part by ways on which
nothing is remembered yet, and these parts are the only ones that begin to remember.

A part that is put together from itself, by a way on which nothing is remembered, is never done
with.  Therefore a part that does get its adjoint has not been given another one on the way.

What is made counters what it is made for, if that is up to date.
-/

noncomputable section

namespace QuantumKata

namespace Workshop

/-! ## The parts that are gone through -/

section

variable {R : Type}

/-- A part without an adjoint is put together from another one. -/
def Opens (workshop : Workshop R) (outer inner : PartId) : Prop :=
  (workshop.part outer).adjoint = none ∧ workshop.IsMember outer inner

/-- A part is reached from another one by a way on which nothing remembers an adjoint. -/
def OpensTo (workshop : Workshop R) : PartId → PartId → Prop :=
  Relation.ReflTransGen workshop.Opens

/-- All ways from a part come to parts that remember their adjoints or have no members. -/
inductive Settles (workshop : Workshop R) : PartId → Prop where
  | intro {id : PartId} (inside : ∀ inner, workshop.Opens id inner → workshop.Settles inner) :
    workshop.Settles id

/-- Another part is put together from a part, or remembers it. -/
def IsReferred (workshop : Workshop R) (id : PartId) : Prop :=
  ∃ other, workshop.IsTied other id

/-- A part supports the adjoint, and so does everything inside it. -/
def Supports (workshop : Workshop R) (id : PartId) : Prop :=
  ∀ inner, workshop.Contains id inner → (workshop.part inner).capabilities.adjoint = true

variable {workshop before after : Workshop R} {id inner other : PartId}

/-- A part that all ways lead away from is not put together from itself. -/
theorem Settles.not_opensTo (settles : workshop.Settles id) (opens : workshop.Opens id inner) :
    ¬workshop.OpensTo inner id := by
  induction settles generalizing inner with
  | @intro id inside ih =>
    intro back
    rcases back.cases_head with rfl | ⟨next, onwards, further⟩
    · exact ih _ opens opens .refl
    · exact ih inner opens onwards (further.tail opens)

/-- A part that remembers its adjoint is not gone through. -/
theorem settles_of_remembers (remembers : workshop.Remembers id other) : workshop.Settles id := by
  constructor
  rintro inner ⟨nothing, -⟩
  cases remembers.symm.trans nothing

/-! ### Parts that nothing refers to -/

section

variable {made : Part R}
  (members : ∀ id inner, workshop.IsMember id inner → inner < workshop.parts.size)
  (partners : ∀ id partner, workshop.Remembers id partner → partner < workshop.parts.size)

include members partners

/-- Nothing refers to a part that is not there yet. -/
theorem not_isReferred_size : ¬workshop.IsReferred workshop.parts.size := by
  rintro ⟨referring, member | remembers⟩
  · exact lt_irrefl _ (members referring _ member)
  · exact lt_irrefl _ (partners referring _ remembers)

theorem not_isReferred_extended (alone : made.shape.members = []) (unlinked : made.adjoint = none) :
    ¬(workshop.extended made).IsReferred workshop.parts.size := by
  rintro ⟨referring, tied⟩
  rcases isTied_extended_iff.1 tied with ⟨-, fresh⟩ | earlier
  · rw [alone, unlinked] at fresh
    rcases fresh with ⟨⟨⟩⟩ | ⟨⟨⟩⟩
  · exact not_isReferred_size members partners ⟨referring, earlier⟩

end

/-! ### Ways through a workshop that grows -/

section

variable (grows : before.Grows after)
  (members : ∀ id inner, before.IsMember id inner → inner < before.parts.size)

include grows members

/-- From an old part only those parts are reached that were reached before. -/
theorem Grows.opensTo_old (old : id < before.parts.size) (opens : after.OpensTo id other) :
    before.OpensTo id other ∧ other < before.parts.size := by
  induction opens with
  | refl => exact ⟨.refl, old⟩
  | tail _ opens ih =>
    have member := (grows.isMember_iff ih.2).1 opens.2
    exact ⟨.tail ih.1 ⟨grows.adjoint_eq_none opens.1, member⟩, members _ _ member⟩

/-- An old part that settles settled before, provided that those did that have begun to remember
something since. -/
theorem Grows.settles_old (begins : ∀ id < before.parts.size, (before.part id).adjoint = none →
    (after.part id).adjoint ≠ none → before.Settles id) (settles : after.Settles id)
    (old : id < before.parts.size) : before.Settles id := by
  induction settles with
  | @intro id inside ih =>
    by_cases nothing : (after.part id).adjoint = none
    · constructor
      rintro inner ⟨-, member⟩
      exact ih inner ⟨nothing, (grows.isMember_iff old).2 member⟩ (members id inner member)
    · by_cases before : (before.part id).adjoint = none
      · exact begins id old before nothing
      · constructor
        rintro inner ⟨unremembered, -⟩
        exact absurd unremembered before

end

/-! ### Two parts that remember each other -/

variable {inverse : PartId}

theorem remembers_linked (old : id < workshop.parts.size)
    (oldInverse : inverse < workshop.parts.size) :
    (workshop.linked id inverse).Remembers id inverse := by
  rw [Remembers, part_linked old oldInverse]
  exact if_pos rfl

theorem remembers_linked_inverse (old : id < workshop.parts.size)
    (oldInverse : inverse < workshop.parts.size) :
    (workshop.linked id inverse).Remembers inverse id := by
  rw [Remembers, part_linked old oldInverse]
  dsimp only
  split
  case isTrue same => rw [same]
  case isFalse => exact if_pos rfl

theorem remembers_of_linked {partner : PartId} (old : id < workshop.parts.size)
    (oldInverse : inverse < workshop.parts.size)
    (remembers : (workshop.linked id inverse).Remembers other partner) :
    other = id ∧ partner = inverse ∨ other = inverse ∧ partner = id ∨
      workshop.Remembers other partner := by
  rw [Remembers, part_linked old oldInverse] at remembers
  dsimp only at remembers
  split at remembers
  case isTrue same => exact .inl ⟨same, (Option.some.inj remembers).symm⟩
  case isFalse =>
    split at remembers
    case isTrue same => exact .inr (.inl ⟨same, (Option.some.inj remembers).symm⟩)
    case isFalse => exact .inr (.inr remembers)

theorem bare_linked (old : id < workshop.parts.size) (oldInverse : inverse < workshop.parts.size) :
    ((workshop.linked id inverse).part other).bare = (workshop.part other).bare := by
  rw [part_linked old oldInverse]
  rfl

/-- A workshop grows by a link between two parts that remember no others. -/
theorem grows_by_link (old : id < workshop.parts.size) (oldInverse : inverse < workshop.parts.size)
    (own : ∀ partner, workshop.Remembers id partner → partner = inverse)
    (free : ∀ partner, workshop.Remembers inverse partner → partner = id) :
    workshop.Grows (workshop.linked id inverse) where
  size := size_linked.ge
  same _ _ := bare_linked old oldInverse
  remembers other partner remembers := by
    by_cases first : other = id
    · subst first
      rw [own partner remembers]
      exact remembers_linked old oldInverse
    by_cases second : other = inverse
    · subst second
      rw [free partner remembers]
      exact remembers_linked_inverse old oldInverse
    rw [Remembers, part_linked old oldInverse]
    dsimp only
    rw [if_neg first, if_neg second]
    exact remembers

end

variable {definitions : Definitions ℝ} {stale : Set PartId}
  {before between after workshop : Workshop ℝ} {id inner other inverse : PartId}

section

variable (sound : before.Sound definitions stale) (grows : before.Grows after)

include sound grows

theorem Sound.opensTo_grow (old : id < before.parts.size) (opens : after.OpensTo id other) :
    before.OpensTo id other ∧ other < before.parts.size :=
  grows.opensTo_old (fun id => (sound.inOrder id).members) old opens

theorem Sound.supports_grow (old : id < before.parts.size) (supports : before.Supports id) :
    after.Supports id := by
  intro inner inside
  rcases sound.contains_grow grows old inside with ⟨wasInside, oldInner⟩
  rw [Part.capabilities_eq_of_bare (grows.same inner oldInner)]
  exact supports inner wasInside

end

/-- What taking adjoints does to a workshop: it grows and stays sound, and nothing gets out of date.
The old parts that begin to remember, and those that begin to be referred to, are among the ones
that are reached. -/
structure Advances (definitions : Definitions ℝ) (stale : Set PartId)
    (reached : PartId → Prop) (before after : Workshop ℝ) : Prop where
  grows : before.Grows after
  sound : after.Sound definitions stale
  settles : ∀ id < before.parts.size, (before.part id).adjoint = none →
    (after.part id).adjoint ≠ none → reached id ∧ before.Settles id
  referred : ∀ id < before.parts.size, after.IsReferred id → before.IsReferred id ∨ reached id
  upToDate : ∀ id < before.parts.size, before.IsUpToDate stale id → after.IsUpToDate stale id

namespace Advances

variable {reached further : PartId → Prop}

theorem refl (sound : workshop.Sound definitions stale) :
    Advances definitions stale reached workshop workshop where
  grows := .refl workshop
  sound := sound
  settles _ _ nothing something := absurd nothing something
  referred _ _ isReferred := .inl isReferred
  upToDate _ _ upToDate := upToDate

theorem mono (advances : Advances definitions stale reached before after)
    (implies : ∀ id, reached id → further id) :
    Advances definitions stale further before after where
  grows := advances.grows
  sound := advances.sound
  settles id old nothing something :=
    (advances.settles id old nothing something).imp_left (implies id)
  referred id old isReferred := (advances.referred id old isReferred).imp_right (implies id)
  upToDate := advances.upToDate

/-- What settles after some adjoints have been taken settled before. -/
theorem settles_before (advances : Advances definitions stale reached before after)
    (sound : before.Sound definitions stale) (settles : after.Settles id)
    (old : id < before.parts.size) : before.Settles id :=
  advances.grows.settles_old (fun id => (sound.inOrder id).members)
    (fun id old nothing something => (advances.settles id old nothing something).2) settles old

theorem trans (first : Advances definitions stale reached before between)
    (sound : before.Sound definitions stale)
    (second : Advances definitions stale further between after)
    (implies : ∀ id, further id → reached id) :
    Advances definitions stale reached before after where
  grows := first.grows.trans second.grows
  sound := second.sound
  settles id old nothing something := by
    by_cases unremembered : (between.part id).adjoint = none
    · rcases second.settles id (old.trans_le first.grows.size) unremembered something with
        ⟨isReached, settles⟩
      exact ⟨implies id isReached, first.settles_before sound settles old⟩
    · exact first.settles id old nothing unremembered
  referred id old isReferred := by
    rcases second.referred id (old.trans_le first.grows.size) isReferred with earlier | isReached
    · exact first.referred id old earlier
    · exact .inr (implies id isReached)
  upToDate id old upToDate :=
    second.upToDate id (old.trans_le first.grows.size) (first.upToDate id old upToDate)

end Advances

/-- The parts that are reached from the members of a part. -/
def OpensBeyond (workshop : Workshop ℝ) (id other : PartId) : Prop :=
  ∃ inner, workshop.Opens id inner ∧ workshop.OpensTo inner other

theorem opensTo_of_opensBeyond (beyond : workshop.OpensBeyond id other) :
    workshop.OpensTo id other := by
  rcases beyond with ⟨inner, opens, onwards⟩
  exact .head opens onwards

/-! ## Remembering what has been made -/

/-- For a part that does not remember its adjoint yet another one has been made, after the adjoints
of the members have been taken: it is there, it is the only new part since, it is not referred to,
and it is put together from parts that are concerned already. -/
structure Prepared (definitions : Definitions ℝ) (stale : Set PartId) (id inverse : PartId)
    (before between made : Workshop ℝ) : Prop where
  advances : Advances definitions stale (before.OpensBeyond id) before between
  settles : before.Settles id
  old : id < before.parts.size
  unremembered : (before.part id).adjoint = none
  grows : between.Grows made
  inside : inverse < made.parts.size
  fresh : inverse = id ∨ before.parts.size ≤ inverse ∧ ¬between.IsReferred inverse
  new : ∀ other, between.parts.size ≤ other → other < made.parts.size → other = inverse
  links : ∀ other partner, made.Remembers other partner →
    between.Remembers other partner ∨ other = inverse ∧ partner = id
  free : ∀ partner, made.Remembers inverse partner → partner = id
  members : ∀ inner, made.IsMember inverse inner → between.Concerns id inner
  inOrder : between.parts.size ≤ inverse → (made.linked id inverse).InOrder definitions inverse
  sizes : (made.part inverse).numQubits = (made.part id).numQubits

namespace Prepared

variable {made : Workshop ℝ} {partner : PartId}
  (prepared : Prepared definitions stale id inverse before between made)

include prepared

theorem old_made : id < made.parts.size :=
  (prepared.old.trans_le prepared.advances.grows.size).trans_le prepared.grows.size

/-- Nothing that was done for the members can have come back to the part itself. -/
theorem still_unremembered : (between.part id).adjoint = none := by
  by_contra something
  rcases (prepared.advances.settles id prepared.old prepared.unremembered something).1 with
    ⟨inner, opens, back⟩
  exact prepared.settles.not_opensTo opens back

theorem bare_eq : ((made.linked id inverse).part other).bare = (made.part other).bare :=
  bare_linked prepared.old_made prepared.inside

theorem remembers_cases (remembers : (made.linked id inverse).Remembers other partner) :
    other = id ∧ partner = inverse ∨ other = inverse ∧ partner = id ∨
      between.Remembers other partner := by
  rcases remembers_of_linked prepared.old_made prepared.inside remembers with
    first | second | earlier
  · exact .inl first
  · exact .inr (.inl second)
  · rcases prepared.links other partner earlier with before | second
    · exact .inr (.inr before)
    · exact .inr (.inl second)

theorem grows_linked : between.Grows (made.linked id inverse) := by
  refine prepared.grows.trans
    (grows_by_link prepared.old_made prepared.inside (fun partner remembers => ?_) prepared.free)
  rcases prepared.links id partner remembers with earlier | ⟨same, rfl⟩
  · cases earlier.symm.trans prepared.still_unremembered
  · exact same

theorem sizes_linked : ((made.linked id inverse).part inverse).numQubits =
    ((made.linked id inverse).part id).numQubits := by
  rw [Part.numQubits_eq_of_bare prepared.bare_eq, Part.numQubits_eq_of_bare prepared.bare_eq]
  exact prepared.sizes

theorem sound (counters : (made.linked id inverse).IsUpToDate stale id →
      (made.linked id inverse).Counters definitions id inverse) :
    (made.linked id inverse).Sound definitions stale := by
  refine prepared.advances.sound.grow prepared.grows_linked ?_ ?_
  · intro other outside inside
    rw [size_linked] at inside
    have same := prepared.new other outside inside
    subst same
    exact prepared.inOrder outside
  · intro other partner remembers
    rcases prepared.remembers_cases remembers with ⟨rfl, rfl⟩ | ⟨rfl, rfl⟩ | earlier
    · exact .inr ⟨prepared.inside.trans_eq size_linked.symm, prepared.sizes_linked, counters⟩
    · refine .inr ⟨prepared.old_made.trans_eq size_linked.symm, prepared.sizes_linked.symm, ?_⟩
      intro upToDate
      refine (counters fun further concerned => ?_).symm
      exact upToDate further (.head (.inr remembers) concerned)
    · exact .inl earlier

/-- The part among the old ones that the new one is, if it is an old one at all. -/
theorem eq_of_old (old : inverse < before.parts.size) : inverse = id :=
  prepared.fresh.resolve_right fun isFresh => not_le.2 old isFresh.1

theorem settles_linked (old : other < before.parts.size)
    (nothing : (before.part other).adjoint = none)
    (something : ((made.linked id inverse).part other).adjoint ≠ none) :
    before.OpensTo id other ∧ before.Settles other := by
  rcases Option.ne_none_iff_exists'.1 something with ⟨partner, remembers⟩
  rcases prepared.remembers_cases remembers with ⟨rfl, -⟩ | ⟨rfl, -⟩ | earlier
  · exact ⟨.refl, prepared.settles⟩
  · rw [prepared.eq_of_old old]
    exact ⟨.refl, prepared.settles⟩
  · have remembered : (between.part other).adjoint ≠ none := by
      rw [earlier]
      exact nofun
    exact (prepared.advances.settles other old nothing remembered).imp_left
      opensTo_of_opensBeyond

theorem referred_linked (old : other < before.parts.size)
    (isReferred : (made.linked id inverse).IsReferred other) :
    before.IsReferred other ∨ before.OpensTo id other := by
  have earlier : between.IsReferred other → before.IsReferred other ∨ before.OpensTo id other :=
    fun referred => (prepared.advances.referred other old referred).imp_right opensTo_of_opensBeyond
  rcases isReferred with ⟨referring, member | remembers⟩
  · have memberMade : made.IsMember referring other := by
      rwa [IsMember, Part.shape_eq_of_bare prepared.bare_eq] at member
    by_cases known : referring < between.parts.size
    · exact earlier ⟨referring, .inl ((prepared.grows.isMember_iff known).1 memberMade)⟩
    · have same := prepared.new referring (not_lt.1 known) (lt_size_of_isMember memberMade)
      subst same
      rcases (prepared.members other memberMade).cases_tail with rfl | ⟨outer, -, tied⟩
      · exact .inr .refl
      · exact earlier ⟨outer, tied⟩
  · rcases prepared.remembers_cases remembers with ⟨-, rfl⟩ | ⟨-, rfl⟩ | remembered
    · rw [prepared.eq_of_old old]
      exact .inr .refl
    · exact .inr .refl
    · exact earlier ⟨referring, .inr remembered⟩

/-- From an old part only those parts become concerned that were before, and the new one. -/
theorem concerns_linked {further : PartId} (old : other < before.parts.size)
    (concerned : (made.linked id inverse).Concerns other further) :
    between.Concerns other further ∨ further = inverse ∧ between.Concerns other id := by
  have oldBetween := old.trans_le prepared.advances.grows.size
  induction concerned with
  | refl => exact .inl .refl
  | @tail last next _ tied ih =>
    rcases ih with earlier | ⟨rfl, reaches⟩
    · rcases tied with member | remembers
      · rw [IsMember, Part.shape_eq_of_bare prepared.bare_eq] at member
        have inside := (prepared.advances.sound.concerns_grow (.refl between) oldBetween earlier).2
        exact .inl (.tail earlier (.inl ((prepared.grows.isMember_iff inside).1 member)))
      · rcases prepared.remembers_cases remembers with ⟨rfl, rfl⟩ | ⟨rfl, rfl⟩ | remembered
        · exact .inr ⟨rfl, earlier⟩
        · rcases prepared.fresh with rfl | ⟨outside, unreferred⟩
          · exact .inl earlier
          · rcases earlier.cases_tail with rfl | ⟨outer, -, refers⟩
            · exact absurd old (not_lt.2 outside)
            · exact absurd ⟨outer, refers⟩ unreferred
        · exact .inl (.tail earlier (.inr remembered))
    · rcases tied with member | remembers
      · rw [IsMember, Part.shape_eq_of_bare prepared.bare_eq] at member
        exact .inl (reaches.trans (prepared.members next member))
      · rcases prepared.remembers_cases remembers with ⟨-, rfl⟩ | ⟨-, rfl⟩ | remembered
        · exact .inr ⟨rfl, reaches⟩
        · exact .inl reaches
        · rw [prepared.free next (prepared.grows.remembers _ _ remembered)]
          exact .inl reaches

theorem upToDate_linked (sound : before.Sound definitions stale) (old : other < before.parts.size)
    (upToDate : before.IsUpToDate stale other) :
    (made.linked id inverse).IsUpToDate stale other := by
  have upToDateBetween := prepared.advances.upToDate other old upToDate
  intro further concerned isStale
  rcases prepared.concerns_linked old concerned with earlier | ⟨rfl, reaches⟩
  · exact upToDateBetween further earlier isStale
  · rcases sound.remembers further isStale with ⟨partner, remembers⟩
    rw [prepared.eq_of_old (lt_size_of_remembers remembers)] at isStale
    exact upToDateBetween id reaches isStale

/-- A part and what has been made to counter it begin to remember each other. -/
theorem linked (sound : before.Sound definitions stale)
    (counters : (made.linked id inverse).IsUpToDate stale id →
      (made.linked id inverse).Counters definitions id inverse) :
    Advances definitions stale (before.OpensTo id) before (made.linked id inverse) where
  grows := prepared.advances.grows.trans prepared.grows_linked
  sound := prepared.sound counters
  settles _ old nothing something := prepared.settles_linked old nothing something
  referred _ old isReferred := prepared.referred_linked old isReferred
  upToDate _ old upToDate := prepared.upToDate_linked sound old upToDate

end Prepared

/-- A new part that is linked to the one that it is made for is in order. -/
theorem inOrder_linked_extended {made : Part ℝ} (old : id < workshop.parts.size)
    (members : ∀ inner ∈ made.shape.members, inner < workshop.parts.size)
    (fits : made.Fits workshop) (nonneg : 0 ≤ made.numQubits)
    (coherent : Part.IsCoherent definitions { made with adjoint := some id })
    (derived : made.shape.isDerivedAdjoint = false ∨ made.shape = .derivedAdjoint id) :
    ((workshop.extended made).linked id workshop.parts.size).InOrder definitions
      workshop.parts.size := by
  refine .of_part workshop (part_linked_extended old) fits nonneg (fun inner member => ?_) coherent
    ?_
  · have known := members inner member
    have same : (((workshop.extended made).linked id workshop.parts.size).part inner).bare =
        (workshop.part inner).bare := by
      rw [bare_linked (old.trans lt_size_extended) lt_size_extended, part_extended_of_ne known.ne]
    exact ⟨(known.trans lt_size_extended).trans_eq size_linked.symm,
      Part.numQubits_eq_of_bare same, Part.name_eq_of_bare same⟩
  · rintro inner (isDerived : made.shape = .derivedAdjoint inner)
    rcases derived with notDerived | ofPart
    · rw [isDerived] at notDerived
      cases notDerived
    · cases isDerived.symm.trans ofPart
      rfl

/-- A part that is made last and is put together from what is concerned already. -/
theorem prepared_extended (made : Part ℝ)
    (advances : Advances definitions stale (before.OpensBeyond id) before between)
    (settles : before.Settles id) (old : id < before.parts.size)
    (unremembered : (before.part id).adjoint = none)
    (unlinked : made.adjoint = none ∨ made.adjoint = some id)
    (members : ∀ inner ∈ made.shape.members,
      inner < between.parts.size ∧ between.Concerns id inner)
    (fits : made.Fits between) (nonneg : 0 ≤ made.numQubits)
    (sizes : made.numQubits = (between.part id).numQubits)
    (coherent : Part.IsCoherent definitions { made with adjoint := some id })
    (derived : made.shape.isDerivedAdjoint = false ∨ made.shape = .derivedAdjoint id) :
    Prepared definitions stale id between.parts.size before between (between.extended made) := by
  have oldBetween : id < between.parts.size := old.trans_le advances.grows.size
  have adjoint : ∀ partner, made.adjoint = some partner → partner = id := by
    intro partner remembers
    rcases unlinked with nothing | ofPart
    · cases remembers.symm.trans nothing
    · cases remembers.symm.trans ofPart
      rfl
  constructor
  case advances => exact advances
  case settles => exact settles
  case old => exact old
  case unremembered => exact unremembered
  case grows => exact grows_extended between made
  case inside => exact lt_size_extended
  case fresh =>
    exact .inr ⟨advances.grows.size, not_isReferred_size
      (fun other => (advances.sound.inOrder other).members) advances.sound.partner_lt⟩
  case new =>
    intro other outside known
    rw [size_extended] at known
    exact le_antisymm (Nat.lt_succ_iff.1 known) outside
  case links =>
    intro other partner remembers
    rcases remembers_extended_iff.1 remembers with ⟨same, ofMade⟩ | earlier
    · exact .inr ⟨same, adjoint partner ofMade⟩
    · exact .inl earlier
  case free =>
    intro partner remembers
    rw [Remembers, part_extended_size] at remembers
    exact adjoint partner remembers
  case members =>
    intro inner member
    rw [IsMember, part_extended_size] at member
    exact (members inner member).2
  case inOrder =>
    exact fun _ => inOrder_linked_extended oldBetween (fun inner member => (members inner member).1)
      fits nonneg coherent derived
  case sizes =>
    rw [part_extended_size, part_extended_of_ne oldBetween.ne]
    exact sizes

end Workshop

end QuantumKata

end
