import QuantumKata.Proofs.Remembrance

/-!
# Adjoints that are out of date

A remembered adjoint gets out of date by a step that changes a part inside the part or inside its
adjoint while the part goes on remembering it.  A part *concerns* the parts inside it and the
adjoints that these remember, the parts inside those, and so on.

A workshop is sound when every part that concerns nothing out of date is countered by the adjoint
that it remembers.  This invariant is kept when new parts are put into the store, when parts begin
to remember adjoints that counter them, and when a step is appended to a circuit.
-/

noncomputable section

namespace QuantumKata

namespace Workshop

section

variable {R : Type}

/-- A part is put together from another one, or remembers it. -/
def IsTied (workshop : Workshop R) (id other : PartId) : Prop :=
  workshop.IsMember id other ∨ workshop.Remembers id other

/-- A part is reached from another one through members and remembered adjoints. -/
def Concerns (workshop : Workshop R) : PartId → PartId → Prop :=
  Relation.ReflTransGen workshop.IsTied

/-- A new part is tied to its members and to what it remembers. -/
theorem isTied_extended_iff {workshop : Workshop R} {made : Part R} {id other : PartId} :
    (workshop.extended made).IsTied id other ↔
      id = workshop.parts.size ∧ (other ∈ made.shape.members ∨ made.adjoint = some other) ∨
        workshop.IsTied id other :=
  part_extended_iff (p := fun part => other ∈ part.shape.members ∨ part.adjoint = some other)
    (not_or_intro nofun nofun)

/-- Nothing that a part concerns is out of date. -/
def IsUpToDate (workshop : Workshop R) (stale : Set PartId) (id : PartId) : Prop :=
  ∀ other, workshop.Concerns id other → other ∉ stale

/-- The parts whose remembered adjoints are out of date after a step: those that were before, and
those inside which, or inside whose adjoints, a part has been changed. -/
def outdated (before after : Workshop R) (stale : Set PartId) : Set PartId :=
  {id | ∃ partner, before.Remembers id partner ∧ after.Remembers id partner ∧
    (id ∈ stale ∨ ∃ changed, (before.Contains id changed ∨ before.Contains partner changed) ∧
      (after.part changed).shape ≠ (before.part changed).shape)}

end

/-- All parts are in order, and a part that is up to date is countered by the adjoint that it
remembers. -/
structure Sound (definitions : Definitions ℝ) (stale : Set PartId) (workshop : Workshop ℝ) :
    Prop where
  inOrder : ∀ id, workshop.InOrder definitions id
  partner_lt : ∀ id partner, workshop.Remembers id partner → partner < workshop.parts.size
  partner_numQubits : ∀ id partner, workshop.Remembers id partner →
    (workshop.part partner).numQubits = (workshop.part id).numQubits
  counters : ∀ id partner, workshop.Remembers id partner → workshop.IsUpToDate stale id →
    workshop.Counters definitions id partner
  remembers : ∀ id ∈ stale, ∃ partner, workshop.Remembers id partner

variable {definitions : Definitions ℝ} {stale : Set PartId} {before after workshop : Workshop ℝ}
  {id inner other partner : PartId}

/-- In the empty workshop nothing is remembered. -/
theorem sound_empty : Sound definitions ∅ ({} : Workshop ℝ) where
  inOrder _ := inOrder_of_le (Nat.zero_le _)
  partner_lt _ _ remembers := absurd (lt_size_of_remembers remembers) (Nat.not_lt_zero _)
  partner_numQubits _ _ remembers := absurd (lt_size_of_remembers remembers) (Nat.not_lt_zero _)
  counters _ _ remembers := absurd (lt_size_of_remembers remembers) (Nat.not_lt_zero _)
  remembers _ isStale := absurd isStale (Set.notMem_empty _)

/-- What is up to date stays so when more is known to be out of date. -/
theorem Sound.mono {more : Set PartId} (sound : workshop.Sound definitions stale)
    (subset : stale ⊆ more) (remembers : ∀ id ∈ more, ∃ partner, workshop.Remembers id partner) :
    workshop.Sound definitions more where
  inOrder := sound.inOrder
  partner_lt := sound.partner_lt
  partner_numQubits := sound.partner_numQubits
  counters id partner remembered upToDate := sound.counters id partner remembered
    fun other concerned isStale => upToDate other concerned (subset isStale)
  remembers := remembers

/-! ## Growing -/

section

variable {R : Type} {before after : Workshop R} (grows : before.Grows after)
  (members : ∀ id inner, before.IsMember id inner → inner < before.parts.size)

include grows members

/-- In an old part there is nothing that was not there before. -/
theorem Grows.contains_old (old : id < before.parts.size) (inside : after.Contains id inner) :
    before.Contains id inner ∧ inner < before.parts.size := by
  induction inside with
  | refl => exact ⟨.refl, old⟩
  | tail _ member ih =>
    have wasMember := (grows.isMember_iff ih.2).1 member
    exact ⟨.tail ih.1 wasMember, members _ _ wasMember⟩

theorem Grows.contains_of_old (old : id < before.parts.size) (inside : before.Contains id inner) :
    after.Contains id inner ∧ inner < before.parts.size := by
  induction inside with
  | refl => exact ⟨.refl, old⟩
  | tail _ member ih =>
    exact ⟨.tail ih.1 ((grows.isMember_iff ih.2).2 member), members _ _ member⟩

/-- An old part goes on concerning what it did. -/
theorem Grows.concerns_of_old
    (partners : ∀ id partner, before.Remembers id partner → partner < before.parts.size)
    (old : id < before.parts.size) (concerned : before.Concerns id other) :
    after.Concerns id other ∧ other < before.parts.size := by
  induction concerned with
  | refl => exact ⟨.refl, old⟩
  | tail _ tied ih =>
    rcases tied with member | remembers
    · exact ⟨.tail ih.1 (.inl ((grows.isMember_iff ih.2).2 member)), members _ _ member⟩
    · exact ⟨.tail ih.1 (.inr (grows.remembers _ _ remembers)), partners _ _ remembers⟩

end

section

variable (sound : before.Sound definitions stale) (grows : before.Grows after)

include sound grows

theorem Sound.contains_grow (old : id < before.parts.size) (inside : after.Contains id inner) :
    before.Contains id inner ∧ inner < before.parts.size :=
  grows.contains_old (fun id => (sound.inOrder id).members) old inside

theorem Sound.contains_of_contains (old : id < before.parts.size)
    (inside : before.Contains id inner) : after.Contains id inner ∧ inner < before.parts.size :=
  grows.contains_of_old (fun id => (sound.inOrder id).members) old inside

theorem Sound.concerns_grow (old : id < before.parts.size) (concerned : before.Concerns id other) :
    after.Concerns id other ∧ other < before.parts.size :=
  grows.concerns_of_old (fun id => (sound.inOrder id).members) sound.partner_lt old concerned

theorem Sound.isUpToDate_of_grow (old : id < before.parts.size)
    (upToDate : after.IsUpToDate stale id) : before.IsUpToDate stale id :=
  fun other concerned => upToDate other (sound.concerns_grow grows old concerned).1

/-- Old parts stand for what they stood for. -/
theorem Sound.unfolded_grow (old : id < before.parts.size) (depth : Nat) :
    after.unfolded depth id = before.unfolded depth id :=
  unfolded_congr fun _ inside =>
    grows.same _ (sound.contains_of_contains grows old inside).2

theorem Sound.counters_grow (old : id < before.parts.size)
    (oldPartner : partner < before.parts.size) (counters : before.Counters definitions id partner) :
    after.Counters definitions id partner where
  forth := counters.forth.congr (sound.unfolded_grow grows old)
    (sound.unfolded_grow grows oldPartner)
  back := counters.back.congr (sound.unfolded_grow grows oldPartner)
    (sound.unfolded_grow grows old)

/-- A workshop stays sound when the new parts are in order and what is newly remembered counters. -/
theorem Sound.grow
    (new : ∀ id, before.parts.size ≤ id → id < after.parts.size → after.InOrder definitions id)
    (links : ∀ id partner, after.Remembers id partner → before.Remembers id partner ∨
      partner < after.parts.size ∧ (after.part partner).numQubits = (after.part id).numQubits ∧
        (after.IsUpToDate stale id → after.Counters definitions id partner)) :
    after.Sound definitions stale := by
  constructor
  case inOrder =>
    intro id
    by_cases old : id < before.parts.size
    · exact (sound.inOrder id).grow grows old
    · by_cases inside : id < after.parts.size
      · exact new id (not_lt.1 old) inside
      · exact inOrder_of_le (not_lt.1 inside)
  case partner_lt =>
    intro id partner remembers
    rcases links id partner remembers with remembered | ⟨inside, -, -⟩
    · exact (sound.partner_lt id partner remembered).trans_le grows.size
    · exact inside
  case partner_numQubits =>
    intro id partner remembers
    rcases links id partner remembers with remembered | ⟨-, sizes, -⟩
    · rw [Part.numQubits_eq_of_bare (grows.same id (lt_size_of_remembers remembered)),
        Part.numQubits_eq_of_bare (grows.same partner (sound.partner_lt id partner remembered))]
      exact sound.partner_numQubits id partner remembered
    · exact sizes
  case counters =>
    intro id partner remembers upToDate
    rcases links id partner remembers with remembered | ⟨-, -, counters⟩
    · have old := lt_size_of_remembers remembered
      have oldPartner := sound.partner_lt id partner remembered
      exact sound.counters_grow grows old oldPartner (sound.counters id partner remembered
        (sound.isUpToDate_of_grow grows old upToDate))
    · exact counters upToDate
  case remembers =>
    intro id isStale
    rcases sound.remembers id isStale with ⟨partner, remembered⟩
    exact ⟨partner, grows.remembers id partner remembered⟩

/-- Growing makes nothing else out of date. -/
theorem Sound.outdated_of_grow (later : after.Sound definitions stale) :
    after.Sound definitions (outdated before after stale) := by
  apply later.mono
  · intro id isStale
    rcases sound.remembers id isStale with ⟨partner, remembered⟩
    exact ⟨partner, remembered, grows.remembers id partner remembered, .inl isStale⟩
  · rintro id ⟨partner, -, remembers, -⟩
    exact ⟨partner, remembers⟩

end

/-- A workshop stays sound when a part is put into it that goes with the parts that are there and
remembers nothing. -/
theorem Sound.extended {made : Part ℝ} (sound : workshop.Sound definitions stale)
    (unlinked : made.adjoint = none)
    (members : ∀ inner ∈ made.shape.members, inner < workshop.parts.size)
    (fits : made.Fits workshop) (nonneg : 0 ≤ made.numQubits)
    (coherent : made.IsCoherent definitions)
    (notDerived : made.shape.isDerivedAdjoint = false) :
    (workshop.extended made).Sound definitions stale := by
  apply sound.grow (grows_extended workshop made)
  · intro id outside inside
    rw [size_extended] at inside
    have same := le_antisymm (Nat.lt_succ_iff.1 inside) outside
    subst same
    refine .of_part workshop part_extended_size fits nonneg (fun inner member => ?_) coherent ?_
    · have old := members inner member
      rw [part_extended_of_ne old.ne]
      exact ⟨old.trans lt_size_extended, rfl, rfl⟩
    · intro inner derived
      rw [derived] at notDerived
      cases notDerived
  · exact fun id partner remembers => .inl (remembers_of_extended unlinked remembers)

/-! ## Appending a step -/

section

variable {R : Type}

/-- The workshop after a step has been appended to a circuit. -/
def appended (workshop : Workshop R) (circuit : PartId) (steps : List (PartId × List Int))
    (step : PartId) (qubits : List Int) : Workshop R :=
  workshop.altered circuit fun part => { part with
    shape := .circuit (steps ++ [(step, qubits)])
    capabilities := part.capabilities.common (workshop.part step).capabilities
    adjoint := none }

variable {workshop : Workshop R} {circuit step other : PartId} {qubits : List Int}
  {steps : List (PartId × List Int)}

@[simp]
theorem size_appended :
    (workshop.appended circuit steps step qubits).parts.size = workshop.parts.size :=
  size_altered

theorem part_appended_of_ne (different : other ≠ circuit) :
    (workshop.appended circuit steps step qubits).part other = workshop.part other :=
  part_altered_of_ne different

theorem part_appended_self (old : circuit < workshop.parts.size) :
    (workshop.appended circuit steps step qubits).part circuit =
      { workshop.part circuit with
        shape := .circuit (steps ++ [(step, qubits)])
        capabilities := (workshop.part circuit).capabilities.common
          (workshop.part step).capabilities
        adjoint := none } :=
  part_altered_self old

/-- Appending a step changes neither the size nor the name of a circuit. -/
theorem signature_appended (old : circuit < workshop.parts.size) (other : PartId) :
    ((workshop.appended circuit steps step qubits).part other).numQubits =
        (workshop.part other).numQubits ∧
      ((workshop.appended circuit steps step qubits).part other).name =
        (workshop.part other).name :=
  signature_altered old rfl rfl other

/-- A step with as many qubits as its part, distinct qubits of the circuit, is appended. -/
theorem addStep_of_fits (shape : (workshop.part circuit).shape = .circuit steps)
    (arity : (qubits.length : Int) = (workshop.part step).numQubits)
    (distinct : Operation.areDistinctBelow (workshop.part circuit).numQubits qubits = true) :
    addStep circuit step qubits workshop =
      (.ok (), workshop.appended circuit steps step qubits) := by
  simp [addStep, shape, arity, distinct, change_apply,
    appended]

/-- A step is appended, or nothing is done. -/
theorem addStep_cases (workshop : Workshop R) (circuit step : PartId) (qubits : List Int) :
    (∃ fault, addStep circuit step qubits workshop = (.error fault, workshop)) ∨
      ∃ steps, (workshop.part circuit).shape = .circuit steps ∧
        (qubits.length : Int) = (workshop.part step).numQubits ∧
        Operation.areDistinctBelow (workshop.part circuit).numQubits qubits = true ∧
        addStep circuit step qubits workshop =
          (.ok (), workshop.appended circuit steps step qubits) := by
  cases shape : (workshop.part circuit).shape with
  | circuit steps =>
    by_cases arity : (qubits.length : Int) = (workshop.part step).numQubits
    · by_cases distinct : Operation.areDistinctBelow (workshop.part circuit).numQubits qubits = true
      · exact .inr ⟨steps, rfl, arity, distinct, addStep_of_fits shape arity distinct⟩
      · refine .inl ⟨.circuitQubits qubits (workshop.part circuit).numQubits, ?_⟩
        simp [addStep, shape, arity, distinct]
    · refine .inl ⟨.operationArity (workshop.part step).name (workshop.part step).numQubits
        qubits.length, ?_⟩
      simp [addStep, shape, arity]
  | gate _ | phaseShifted _ _ | controlled _ _ | derivedAdjoint _ | routine _ _ =>
    refine .inl ⟨.wrongMember "only circuits take steps", ?_⟩
    simp [addStep, shape]

/-- What remembers after a step has been appended is not the circuit, and remembered before. -/
theorem remembers_of_appended {id partner : PartId} (old : circuit < workshop.parts.size)
    (remembers : (workshop.appended circuit steps step qubits).Remembers id partner) :
    id ≠ circuit ∧ workshop.Remembers id partner :=
  (remembers_altered_iff old rfl).1 remembers

theorem shape_appended_ne (old : circuit < workshop.parts.size)
    (shape : (workshop.part circuit).shape = .circuit steps) :
    ((workshop.appended circuit steps step qubits).part circuit).shape ≠
      (workshop.part circuit).shape := by
  rw [part_appended_self old, shape]
  intro same
  have lengths := congrArg List.length (PartShape.circuit.inj same)
  simp at lengths

end

section

variable {circuit step : PartId} {qubits : List Int} {steps : List (PartId × List Int)}

/-- A part that the circuit is not inside of stands for what it stood for. -/
theorem unfolded_appended (outside : ¬workshop.Contains id circuit) (depth : Nat) :
    (workshop.appended circuit steps step qubits).unfolded depth id =
      workshop.unfolded depth id := by
  apply unfolded_congr
  intro inner inside
  have different : inner ≠ circuit := fun same => outside (same ▸ inside)
  rw [part_appended_of_ne different]

section

variable (old : circuit < workshop.parts.size)
  (shape : (workshop.part circuit).shape = .circuit steps)

include old shape

theorem Sound.inOrder_appended (sound : workshop.Sound definitions stale)
    (oldStep : step < workshop.parts.size)
    (arity : (qubits.length : Int) = (workshop.part step).numQubits)
    (distinct : Operation.areDistinctBelow (workshop.part circuit).numQubits qubits = true)
    (id : PartId) : (workshop.appended circuit steps step qubits).InOrder definitions id := by
  have before := sound.inOrder id
  by_cases same : id = circuit
  · subst same
    refine .of_part workshop (part_appended_self old) ?fits before.nonneg ?members trivial nofun
    case fits =>
      have fits := before.fits
      rw [Part.Fits, shape] at fits
      intro taken member
      rcases List.mem_append.1 member with earlier | latest
      · exact fits taken earlier
      · rw [List.mem_singleton.1 latest]
        exact ⟨arity, distinct⟩
    case members =>
      intro inner member
      refine ⟨?_, signature_appended old inner⟩
      rw [size_appended]
      rcases List.mem_map.1 member with ⟨taken, among, rfl⟩
      rcases List.mem_append.1 among with earlier | latest
      · exact before.members _ (isMember_of_step shape earlier)
      · rw [List.mem_singleton.1 latest]
        exact oldStep
  · exact .of_part workshop (part_appended_of_ne same) before.fits before.nonneg
      (fun inner member => ⟨(before.members inner member).trans_eq size_appended.symm,
        signature_appended old inner⟩) before.coherent before.derived

/-- What concerns nothing out of date after a step has been appended has no changed circuit inside
it or inside the adjoint that it remembers. -/
theorem not_contains_of_isUpToDate
    (remembers : (workshop.appended circuit steps step qubits).Remembers id partner)
    (notStale : id ∉ outdated workshop (workshop.appended circuit steps step qubits) stale) :
    ¬workshop.Contains id circuit ∧ ¬workshop.Contains partner circuit := by
  have remembered := (remembers_of_appended old remembers).2
  constructor
  · intro inside
    exact notStale ⟨partner, remembered, remembers, .inr ⟨circuit, .inl inside,
      shape_appended_ne old shape⟩⟩
  · intro inside
    exact notStale ⟨partner, remembered, remembers, .inr ⟨circuit, .inr inside,
      shape_appended_ne old shape⟩⟩

/-- From a part that remembers its adjoint and is up to date the changed circuit is not reached. -/
theorem concerns_appended (outside : ¬workshop.Contains id circuit)
    (upToDate : (workshop.appended circuit steps step qubits).IsUpToDate
      (outdated workshop (workshop.appended circuit steps step qubits) stale) id)
    (concerned : workshop.Concerns id other) :
    (workshop.appended circuit steps step qubits).Concerns id other ∧
      ¬workshop.Contains other circuit := by
  induction concerned with
  | refl => exact ⟨.refl, outside⟩
  | @tail last next _ tied ih =>
    have different : last ≠ circuit := fun same => ih.2 (same ▸ .refl)
    have here : (workshop.appended circuit steps step qubits).part last = workshop.part last :=
      part_appended_of_ne different
    rcases tied with member | remembers
    · refine ⟨.tail ih.1 (.inl ?_), fun inside => ih.2 (.head member inside)⟩
      rw [IsMember, here]
      exact member
    · have remembersAfter : (workshop.appended circuit steps step qubits).Remembers last next := by
        rw [Remembers, here]
        exact remembers
      exact ⟨.tail ih.1 (.inr remembersAfter),
        (not_contains_of_isUpToDate old shape remembersAfter (upToDate last ih.1)).2⟩

end

/-- Appending a step keeps a workshop sound, apart from the adjoints that get out of date by it. -/
theorem Sound.appended (sound : workshop.Sound definitions stale)
    (old : circuit < workshop.parts.size) (oldStep : step < workshop.parts.size)
    (shape : (workshop.part circuit).shape = .circuit steps)
    (arity : (qubits.length : Int) = (workshop.part step).numQubits)
    (distinct : Operation.areDistinctBelow (workshop.part circuit).numQubits qubits = true) :
    (workshop.appended circuit steps step qubits).Sound definitions
      (outdated workshop (workshop.appended circuit steps step qubits) stale) := by
  constructor
  case inOrder => exact sound.inOrder_appended old shape oldStep arity distinct
  case partner_lt =>
    intro id partner remembers
    rw [size_appended]
    exact sound.partner_lt id partner (remembers_of_appended old remembers).2
  case partner_numQubits =>
    intro id partner remembers
    rw [(signature_appended old partner).1, (signature_appended old id).1]
    exact sound.partner_numQubits id partner (remembers_of_appended old remembers).2
  case counters =>
    intro id partner remembers upToDate
    rcases not_contains_of_isUpToDate old shape remembers (upToDate id .refl) with
      ⟨outside, outsidePartner⟩
    have wasUpToDate : workshop.IsUpToDate stale id := by
      intro other concerned isStale
      rcases concerns_appended old shape outside upToDate concerned with ⟨concernedAfter, apart⟩
      rcases sound.remembers other isStale with ⟨otherPartner, remembered⟩
      have different : other ≠ circuit := fun same => apart (same ▸ .refl)
      refine upToDate other concernedAfter ⟨otherPartner, remembered, ?_, .inl isStale⟩
      rw [Remembers, part_appended_of_ne different]
      exact remembered
    have counters := sound.counters id partner (remembers_of_appended old remembers).2 wasUpToDate
    exact ⟨counters.forth.congr (unfolded_appended outside) (unfolded_appended outsidePartner),
      counters.back.congr (unfolded_appended outsidePartner) (unfolded_appended outside)⟩
  case remembers =>
    rintro id ⟨partner, -, remembers, -⟩
    exact ⟨partner, remembers⟩

end

end Workshop

end QuantumKata

end
