import QuantumKata.Proofs.TakingAdjoints

/-!
# Regions of a workshop

A *region* is a set of parts out of which no part of it is tied: it holds the parts that its parts
are put together from and the adjoints that they remember.  There is room in it for all parts that
are still to be made.

Asking for an adjoint or a controlled variant stays in every region that has the part: nothing
outside is changed, what is made is tied to parts of the region only, and the answer is one of them.
So what a part concerns stays apart from the rest of the workshop, whatever variants are taken.
-/

namespace QuantumKata

section

variable {R : Type}

/-- A part that is tied to parts of a set only. -/
structure Part.IsWithin (region : Set PartId) (part : Part R) : Prop where
  members : ∀ inner ∈ part.shape.members, inner ∈ region
  adjoint : ∀ partner, part.adjoint = some partner → partner ∈ region

theorem Part.isWithin_of_unlinked {region : Set PartId} {part : Part R}
    (members : ∀ inner ∈ part.shape.members, inner ∈ region) (unlinked : part.adjoint = none) :
    part.IsWithin region where
  members := members
  adjoint _ remembers := absurd (remembers.symm.trans unlinked) (Option.some_ne_none _)

namespace Workshop

variable {workshop : Workshop R} {region : Set PartId} {id inverse other : PartId} {made : Part R}

/-- No part of a set is tied to a part outside of it, and all parts to come belong to it. -/
structure IsRegion (workshop : Workshop R) (region : Set PartId) : Prop where
  within : ∀ id ∈ region, (workshop.part id).IsWithin region
  later : ∀ id, workshop.parts.size ≤ id → id ∈ region

theorem IsRegion.of_tied (isRegion : workshop.IsRegion region) (inside : id ∈ region)
    (tied : workshop.IsTied id other) : other ∈ region := by
  rcases tied with member | remembers
  · exact (isRegion.within id inside).members other member
  · exact (isRegion.within id inside).adjoint other remembers

theorem IsRegion.of_concerns (isRegion : workshop.IsRegion region) (inside : id ∈ region)
    (concerned : workshop.Concerns id other) : other ∈ region := by
  induction concerned with
  | refl => exact inside
  | tail _ tied ih => exact isRegion.of_tied ih tied

theorem isWithin_of_le (outside : workshop.parts.size ≤ id) :
    (workshop.part id).IsWithin region := by
  rw [part_of_le outside]
  exact Part.isWithin_of_unlinked (List.forall_mem_nil _) rfl

/-! ## Regions around and beside a part -/

/-- What a part concerns, and whatever will be made. -/
def surroundings (workshop : Workshop R) (id : PartId) : Set PartId :=
  {other | workshop.Concerns id other ∨ workshop.parts.size ≤ other}

theorem mem_surroundings_self (workshop : Workshop R) (id : PartId) :
    id ∈ workshop.surroundings id :=
  .inl .refl

theorem isRegion_surroundings (workshop : Workshop R) (id : PartId) :
    workshop.IsRegion (workshop.surroundings id) where
  within other := by
    rintro (concerned | outside)
    · exact ⟨fun inner member => .inl (concerned.tail (.inl member)),
        fun partner remembers => .inl (concerned.tail (.inr remembers))⟩
    · exact isWithin_of_le outside
  later _ := .inr

/-- Nothing in a region around a part that is up to date is out of date. -/
theorem IsUpToDate.surroundings_subset {stale : Set PartId}
    (upToDate : workshop.IsUpToDate stale id) (old : ∀ other ∈ stale, other < workshop.parts.size) :
    workshop.surroundings id ⊆ staleᶜ := by
  rintro other (concerned | outside) isStale
  · exact upToDate other concerned isStale
  · exact Nat.not_le_of_lt (old other isStale) outside

theorem IsRegion.isUpToDate {stale : Set PartId} (isRegion : workshop.IsRegion region)
    (apart : region ⊆ staleᶜ) (inside : id ∈ region) : workshop.IsUpToDate stale id :=
  fun _ concerned => apart (isRegion.of_concerns inside concerned)

/-- Everything except for a part that nothing refers to is a region. -/
theorem isRegion_compl_of_not_isReferred (known : id < workshop.parts.size)
    (unreferred : ¬workshop.IsReferred id) : workshop.IsRegion {id}ᶜ where
  within other _ :=
    ⟨fun _ member same => unreferred ⟨other, .inl (Set.mem_singleton_iff.1 same ▸ member)⟩,
      fun _ remembers same => unreferred ⟨other, .inr (Set.mem_singleton_iff.1 same ▸ remembers)⟩⟩
  later _ outside same := Nat.not_le_of_lt known (Set.mem_singleton_iff.1 same ▸ outside)

theorem IsRegion.not_isReferred (isRegion : workshop.IsRegion {id}ᶜ)
    (apart : (workshop.part id).IsWithin {id}ᶜ) : ¬workshop.IsReferred id := by
  rintro ⟨other, tied⟩
  by_cases same : other = id
  · subst same
    rcases tied with member | remembers
    · exact apart.members other member rfl
    · exact apart.adjoint other remembers rfl
  · exact isRegion.of_tied same tied rfl

/-! ## Changes within a region -/

theorem IsRegion.extended (isRegion : workshop.IsRegion region) (within : made.IsWithin region) :
    (workshop.extended made).IsRegion region where
  within id inside := by
    by_cases new : id = workshop.parts.size
    · subst new
      rw [part_extended_size]
      exact within
    · rw [part_extended_of_ne new]
      exact isRegion.within id inside
  later id outside := by
    rw [size_extended] at outside
    exact isRegion.later id (Nat.le_of_succ_le outside)

theorem IsRegion.altered {next : Part R → Part R} (isRegion : workshop.IsRegion region)
    (within : (next (workshop.part id)).IsWithin region) :
    (workshop.altered id next).IsRegion region where
  within other inside := by
    by_cases outside : (workshop.altered id next).parts.size ≤ other
    · exact isWithin_of_le outside
    · rw [size_altered, Nat.not_le] at outside
      by_cases same : other = id
      · subst same
        rw [part_altered_self outside]
        exact within
      · rw [part_altered_of_ne same]
        exact isRegion.within other inside
  later other outside := by
    rw [size_altered] at outside
    exact isRegion.later other outside

/-! ## Work that stays in a region -/

variable {α β : Type} {answers : α → Prop}

/-- Work that changes nothing outside of a region, which remains one, and whose answer is as it
should be. -/
structure StaysIn (region : Set PartId) (answers : α → Prop) (work : WorkshopAction R α) : Prop where
  isRegion : ∀ before, before.IsRegion region → (work before).2.IsRegion region
  outside : ∀ before, before.IsRegion region → ∀ id ∉ region,
    (work before).2.part id = before.part id
  answers : ∀ before, before.IsRegion region → ∀ value, (work before).1 = .ok value → answers value

namespace StaysIn

theorem pure {value : α} (answered : answers value) :
    StaysIn region answers (pure value : WorkshopAction R α) where
  isRegion _ isRegion := isRegion
  outside _ _ _ _ := rfl
  answers _ _ other same := by
    cases same
    exact answered

theorem fail (fault : Fault) : StaysIn region answers (Action.fail fault : WorkshopAction R α) where
  isRegion _ isRegion := isRegion
  outside _ _ _ _ := rfl
  answers _ _ _ answered := nomatch answered

theorem ofExcept (outcome : Except Fault α) :
    StaysIn region (fun _ => True) (Action.ofExcept outcome : WorkshopAction R α) where
  isRegion _ isRegion := isRegion
  outside _ _ _ _ := rfl
  answers _ _ _ _ := trivial

theorem bind {further : β → Prop} {work : WorkshopAction R α} {next : α → WorkshopAction R β}
    (first : StaysIn region answers work)
    (second : ∀ value, answers value → StaysIn region further (next value)) :
    StaysIn region further (work >>= next) := by
  have both : ∀ before, before.IsRegion region → ∀ {outcome between},
      work before = (outcome, between) → between.IsRegion region ∧
        (∀ id ∉ region, between.part id = before.part id) ∧
        ∀ value, outcome = .ok value → answers value := by
    intro before isRegion outcome between worked
    have kept := first.isRegion before isRegion
    have apart := first.outside before isRegion
    have answered := first.answers before isRegion
    rw [worked] at kept apart answered
    exact ⟨kept, apart, answered⟩
  constructor
  case isRegion =>
    intro before isRegion
    rw [Action.bind_apply]
    rcases worked : work before with ⟨fault | value, between⟩
    · exact (both before isRegion worked).1
    · obtain ⟨kept, -, answered⟩ := both before isRegion worked
      exact (second value (answered value rfl)).isRegion between kept
  case outside =>
    intro before isRegion id outside
    rw [Action.bind_apply]
    rcases worked : work before with ⟨fault | value, between⟩
    · exact (both before isRegion worked).2.1 id outside
    · obtain ⟨kept, apart, answered⟩ := both before isRegion worked
      exact ((second value (answered value rfl)).outside between kept id outside).trans
        (apart id outside)
  case answers =>
    intro before isRegion last
    rw [Action.bind_apply]
    rcases worked : work before with ⟨fault | value, between⟩
    · exact nofun
    · obtain ⟨kept, -, answered⟩ := both before isRegion worked
      exact (second value (answered value rfl)).answers between kept last

theorem fail_bind (fault : Fault) (next : α → WorkshopAction R β) {further : β → Prop} :
    StaysIn region further (Action.fail fault >>= next) :=
  bind (fail fault : StaysIn region (fun _ => False) _) fun _ => False.elim

theorem look (inside : id ∈ region) :
    StaysIn region (Part.IsWithin region) (look id : WorkshopAction R (Part R)) where
  isRegion _ isRegion := isRegion
  outside _ _ _ _ := rfl
  answers before isRegion value answered := by
    cases answered
    exact isRegion.within id inside

/-- There is room in a region for what is made of its parts. -/
theorem add (within : made.IsWithin region) : StaysIn region (· ∈ region) (add made) where
  isRegion before isRegion := isRegion.extended within
  outside before isRegion other outside :=
    part_extended_of_ne fun same => outside (isRegion.later other same.ge)
  answers before isRegion value answered := by
    cases answered
    exact isRegion.later _ (Nat.le_refl _)

theorem change {next : Part R → Part R} (inside : id ∈ region)
    (within : ∀ part : Part R, part.IsWithin region → (next part).IsWithin region) :
    StaysIn region (fun _ => True) (change id next) where
  isRegion _ isRegion := isRegion.altered (within _ (isRegion.within id inside))
  outside _ _ _ outside := part_altered_of_ne fun same => outside (same ▸ inside)
  answers _ _ _ _ := trivial

end StaysIn

/-! ## Variants -/

theorem staysIn_controlWrapper (inside : id ∈ region) (count : Int) (name : Option String) :
    StaysIn region (· ∈ region) (controlWrapper (R := R) id count name) := by
  rw [controlWrapper]
  refine .bind (.look inside) fun wrapped _ => ?_
  have wrapper : StaysIn region (· ∈ region) (add (R := R)
      ⟨.controlled id count, name.getD (Operation.controlledName count wrapped.name),
        wrapped.numQubits + count, wrapped.capabilities.withControlled, none⟩) :=
    .add (Part.isWithin_of_unlinked (List.forall_mem_singleton.2 inside) rfl)
  dsimp only
  split
  · exact .fail_bind _ _
  · exact wrapper

/-- Making a controlled variant stays in every region that has the part. -/
theorem staysIn_controlledBy (inside : id ∈ region) (count : Int) :
    StaysIn region (· ∈ region) (controlledBy (R := R) id count) := by
  rw [controlledBy]
  refine .bind (.look inside) fun found within => ?_
  have members := within.members
  cases shape : found.shape with
  | controlled inner already =>
    rw [shape] at members
    dsimp only
    split
    · exact .fail_bind _ _
    · exact staysIn_controlWrapper (List.forall_mem_singleton.1 members) _ _
  | gate _ | circuit _ | phaseShifted _ _ | derivedAdjoint _ | routine _ _ =>
    dsimp only
    split
    · exact .fail_bind _ _
    · split
      · exact .fail_bind _ _
      · exact staysIn_controlWrapper inside _ _

theorem staysIn_emptyCircuit (numQubits : Int) (name : String) :
    StaysIn region (· ∈ region) (emptyCircuit (R := R) numQubits name) := by
  rw [emptyCircuit]
  split
  · exact .fail _
  · exact .add (Part.isWithin_of_unlinked (List.forall_mem_nil _) rfl)

theorem staysIn_addStep {circuit step : PartId} (inside : circuit ∈ region)
    (insideStep : step ∈ region) (qubits : List Int) :
    StaysIn region (fun _ => True) (addStep (R := R) circuit step qubits) := by
  rw [addStep]
  refine .bind (.look inside) fun whole within => .bind (.look insideStep) fun added _ => ?_
  cases shape : whole.shape with
  | circuit steps =>
    have members := within.members
    rw [shape] at members
    dsimp only
    split
    · exact .fail_bind _ _
    · split
      · refine .change inside fun part _ => Part.isWithin_of_unlinked (List.forall_mem_map.2
          (List.forall_mem_append.2 ⟨?_, List.forall_mem_singleton.2 insideStep⟩)) rfl
        exact List.forall_mem_map.1 members
      · exact .fail _
  | gate _ | phaseShifted _ _ | controlled _ _ | derivedAdjoint _ | routine _ _ => exact .fail _

theorem staysIn_phaseShift [Scalar R] (inside : id ∈ region) (angle : PhaseAngle R) :
    StaysIn region (· ∈ region) (phaseShift id angle) := by
  rw [phaseShift]
  exact .bind (.look inside) fun _ _ =>
    .add (Part.isWithin_of_unlinked (List.forall_mem_singleton.2 inside) rfl)

section

variable {call : PartId → WorkshopAction R PartId}
  (calls : ∀ id ∈ region, StaysIn region (· ∈ region) (call id))

include calls

theorem staysIn_addAdjointSteps (inside : inverse ∈ region) :
    ∀ {steps : List (PartId × List Int)}, (∀ step ∈ steps, step.1 ∈ region) →
      StaysIn region (fun _ => True) (addAdjointSteps call inverse steps)
  | [], _ => .pure trivial
  | (step, qubits) :: earlier, among => by
    obtain ⟨insideStep, amongEarlier⟩ := List.forall_mem_cons.1 among
    rw [addAdjointSteps]
    refine .bind (calls step insideStep) fun undone insideUndone => ?_
    exact .bind (staysIn_addStep inside insideUndone qubits) fun _ _ =>
      staysIn_addAdjointSteps inside amongEarlier

variable [Scalar R]

theorem staysIn_makeAdjoint (inside : id ∈ region) :
    StaysIn region (· ∈ region) (makeAdjoint call id) := by
  rw [makeAdjoint]
  refine .bind (.look inside) fun found within => ?_
  have members := within.members
  cases shape : found.shape with
  | gate primitive =>
    dsimp only
    split
    · exact .pure inside
    · exact .bind (.ofExcept _) fun _ _ =>
        .add (Part.isWithin_of_unlinked (List.forall_mem_nil _) rfl)
  | circuit steps =>
    rw [shape] at members
    refine .bind (staysIn_emptyCircuit _ _) fun made insideMade => ?_
    refine .bind (staysIn_addAdjointSteps calls insideMade fun step listed => ?_) fun _ _ =>
      .pure insideMade
    exact members step.1 (List.mem_map_of_mem (List.mem_reverse.1 listed))
  | phaseShifted inner angle =>
    rw [shape] at members
    exact .bind (calls inner (List.forall_mem_singleton.1 members)) fun _ insideUndone =>
      staysIn_phaseShift insideUndone _
  | controlled inner count =>
    rw [shape] at members
    exact .bind (calls inner (List.forall_mem_singleton.1 members)) fun _ insideUndone =>
      staysIn_controlWrapper insideUndone _ _
  | derivedAdjoint inner =>
    rw [shape] at members
    exact .pure (List.forall_mem_singleton.1 members)
  | routine body inverse =>
    cases inverse with
    | absent =>
      refine .add ⟨List.forall_mem_singleton.2 inside, ?_⟩
      rintro partner same
      cases same
      exact inside
    | written written => exact .add (Part.isWithin_of_unlinked (List.forall_mem_nil _) rfl)

end

variable [Scalar R]

/-- By induction on the depth: asking for an adjoint stays in every region that has the part. -/
theorem staysIn_adjointWithin :
    ∀ (fuel : Nat) {id : PartId}, id ∈ region →
      StaysIn region (· ∈ region) (adjointWithin (R := R) fuel id)
  | 0, _, _ => .fail _
  | fuel + 1, id, inside => by
    have remembers : ∀ {whole partner}, whole ∈ region → partner ∈ region →
        StaysIn region (fun _ => True)
          (change (R := R) whole fun part => { part with adjoint := some partner }) := by
      intro whole partner insideWhole insidePartner
      refine .change insideWhole fun part within => ⟨within.members, ?_⟩
      rintro other same
      cases same
      exact insidePartner
    have makes := staysIn_makeAdjoint (fun _ => staysIn_adjointWithin fuel) inside
    rw [adjointWithin]
    refine .bind (.look inside) fun found within => ?_
    dsimp only
    split
    · exact .fail_bind _ _
    · cases remembered : found.adjoint with
      | some known => exact .pure (within.adjoint known remembered)
      | none =>
        refine .bind makes fun inverse insideInverse => ?_
        have answers : StaysIn region (· ∈ region) (do
            change (R := R) id fun part => { part with adjoint := some inverse }
            pure inverse) :=
          (remembers inside insideInverse).bind fun _ _ => .pure insideInverse
        split
        · exact .bind (remembers insideInverse inside) fun _ _ => answers
        · exact answers

end Workshop

end

end QuantumKata
