import QuantumKata.Proofs.Inverses
import QuantumKata.Proofs.Unfolding

/-!
# What parts remember

A part remembers its adjoint, and the adjoint remembers the part.  Two parts *counter* each other
when the operations that they stand for invert each other.  A workshop is *sound* when every part
counters the one it remembers, unless a part that it concerns is out of date.

A remembered adjoint gets out of date by a step that changes a part inside the part or inside its
adjoint, and lets the part remember.  Nothing else that is done in a workshop makes it unsound:
building further parts does not change what the old ones stand for, and neither does remembering.
-/

noncomputable section

namespace QuantumKata

namespace Workshop

/-! ## The store after a step -/

section

variable {R : Type}

/-- The workshop with a new part. -/
def extended (workshop : Workshop R) (made : Part R) : Workshop R :=
  { workshop with parts := workshop.parts.push made }

/-- The workshop with a part changed. -/
def altered (workshop : Workshop R) (id : PartId) (next : Part R → Part R) : Workshop R :=
  { workshop with parts := workshop.parts.modify id next }

/-- A part remembers another one as its adjoint. -/
def Remembers (workshop : Workshop R) (id partner : PartId) : Prop :=
  (workshop.part id).adjoint = some partner

variable {workshop : Workshop R} {id other : PartId} {made : Part R} {next : Part R → Part R}

theorem add_apply : add made workshop = (.ok workshop.parts.size, workshop.extended made) := rfl

@[simp]
theorem look_bind {α : Type} (next : Part R → WorkshopAction R α) :
    (look id >>= next) workshop = next (workshop.part id) workshop := rfl

theorem change_apply : change id next workshop = (.ok (), workshop.altered id next) := rfl

@[simp]
theorem change_bind {α : Type} (rest : Unit → WorkshopAction R α) :
    (change id next >>= rest) workshop = rest () (workshop.altered id next) := rfl

/-- The phase shift of a part. -/
def shiftOf [Scalar R] (workshop : Workshop R) (inner : PartId) (angle : PhaseAngle R) : Part R :=
  ⟨.phaseShifted inner angle, (workshop.part inner).name ++ "·e^(i" ++ angle.text ++ ")",
    (workshop.part inner).numQubits, (workshop.part inner).capabilities, none⟩

/-- The control wrapper of a part. -/
def wrapperOf (workshop : Workshop R) (inner : PartId) (count : Int) (name : String) : Part R :=
  ⟨.controlled inner count, name, (workshop.part inner).numQubits + count,
    (workshop.part inner).capabilities.withControlled, none⟩

/-- The name of a control wrapper. -/
def wrapperName (workshop : Workshop R) (inner : PartId) (count : Int) (name : Option String) :
    String :=
  name.getD (Operation.controlledName count (workshop.part inner).name)

/-- A circuit without steps. -/
def emptyPart (numQubits : Int) (name : String) : Part R :=
  ⟨.circuit [], name, numQubits, .all, none⟩

theorem phaseShift_apply [Scalar R] {angle : PhaseAngle R} :
    phaseShift id angle workshop =
      (.ok workshop.parts.size, workshop.extended (workshop.shiftOf id angle)) := rfl

theorem controlWrapper_of_negative [Scalar R] {count : Int} {name : Option String}
    (negative : (workshop.part id).numQubits + count < 0) :
    controlWrapper id count name workshop =
      (.error (.negativeArity (workshop.wrapperName id count name)), workshop) := by
  simp [controlWrapper, negative, wrapperName]

theorem controlWrapper_of_nonneg [Scalar R] {count : Int} {name : Option String}
    (nonneg : 0 ≤ (workshop.part id).numQubits + count) :
    controlWrapper id count name workshop = (.ok workshop.parts.size, workshop.extended
      (workshop.wrapperOf id count (workshop.wrapperName id count name))) := by
  simp [controlWrapper, not_lt.2 nonneg, add_apply, wrapperOf, wrapperName]

theorem emptyCircuit_of_nonneg [Scalar R] {numQubits : Int} {name : String}
    (nonneg : 0 ≤ numQubits) :
    emptyCircuit numQubits name workshop =
      (.ok workshop.parts.size, workshop.extended (emptyPart numQubits name)) := by
  rw [emptyCircuit, if_neg (not_lt.2 nonneg), add_apply, emptyPart]

@[simp]
theorem size_extended : (workshop.extended made).parts.size = workshop.parts.size + 1 :=
  Array.size_push made

theorem lt_size_extended : workshop.parts.size < (workshop.extended made).parts.size :=
  Nat.lt_of_lt_of_eq (Nat.lt_succ_self _) size_extended.symm

@[simp]
theorem size_altered : (workshop.altered id next).parts.size = workshop.parts.size :=
  Array.size_modify

@[simp]
theorem part_extended_size : (workshop.extended made).part workshop.parts.size = made := by
  simp [part, extended, Array.getD_eq_getD_getElem?]

theorem part_extended_of_ne (old : id ≠ workshop.parts.size) :
    (workshop.extended made).part id = workshop.part id := by
  simp [part, extended, Array.getD_eq_getD_getElem?, Array.getElem?_push, old]

theorem part_altered_self (old : id < workshop.parts.size) :
    (workshop.altered id next).part id = next (workshop.part id) := by
  simp only [part, altered, Array.getD_eq_getD_getElem?, Array.getElem?_modify]
  simp [old]

theorem part_altered_of_ne (different : other ≠ id) :
    (workshop.altered id next).part other = workshop.part other := by
  simp [part, altered, Array.getD_eq_getD_getElem?, Array.getElem?_modify, different.symm]

/-- A part may be changed without another size or name for any part. -/
theorem signature_altered (known : id < workshop.parts.size)
    (size : (next (workshop.part id)).numQubits = (workshop.part id).numQubits)
    (name : (next (workshop.part id)).name = (workshop.part id).name) (other : PartId) :
    ((workshop.altered id next).part other).numQubits = (workshop.part other).numQubits ∧
      ((workshop.altered id next).part other).name = (workshop.part other).name := by
  by_cases same : other = id
  · subst same
    rw [part_altered_self known]
    exact ⟨size, name⟩
  · rw [part_altered_of_ne same]
    exact ⟨rfl, rfl⟩

/-- Outside of the store there is nothing that would remember or be put together. -/
theorem part_of_le (outside : workshop.parts.size ≤ id) : workshop.part id = default := by
  simp [part, Array.getD_eq_getD_getElem?, outside]

theorem lt_size_of_remembers (remembers : workshop.Remembers id other) :
    id < workshop.parts.size := by
  by_contra outside
  rw [Remembers, part_of_le (not_lt.1 outside)] at remembers
  cases remembers

theorem lt_size_of_isMember (member : workshop.IsMember id other) : id < workshop.parts.size := by
  by_contra outside
  rw [IsMember, part_of_le (not_lt.1 outside)] at member
  cases member

/-- What is so of no part that is not in the store is so of the new part or of an old one. -/
theorem part_extended_iff {p : Part R → Prop} (nothing : ¬p default) :
    p ((workshop.extended made).part id) ↔
      id = workshop.parts.size ∧ p made ∨ p (workshop.part id) := by
  by_cases new : id = workshop.parts.size
  · subst new
    rw [part_extended_size, part_of_le (le_refl _), or_iff_left nothing, and_iff_right rfl]
  · rw [part_extended_of_ne new, or_iff_right fun here => new here.1]

theorem isMember_extended_iff : (workshop.extended made).IsMember id other ↔
    id = workshop.parts.size ∧ other ∈ made.shape.members ∨ workshop.IsMember id other :=
  part_extended_iff (p := fun part => other ∈ part.shape.members) nofun

theorem remembers_extended_iff : (workshop.extended made).Remembers id other ↔
    id = workshop.parts.size ∧ made.adjoint = some other ∨ workshop.Remembers id other :=
  part_extended_iff (p := fun part => part.adjoint = some other) nofun

theorem remembers_of_extended (unlinked : made.adjoint = none)
    (remembers : (workshop.extended made).Remembers id other) : workshop.Remembers id other := by
  rcases remembers_extended_iff.1 remembers with ⟨-, ofMade⟩ | earlier
  · cases unlinked.symm.trans ofMade
  · exact earlier

/-- After a part has forgotten its adjoint the others remember what they did. -/
theorem remembers_altered_iff {partner : PartId} (known : id < workshop.parts.size)
    (unlinked : (next (workshop.part id)).adjoint = none) :
    (workshop.altered id next).Remembers other partner ↔
      other ≠ id ∧ workshop.Remembers other partner := by
  by_cases same : other = id
  · subst same
    rw [Remembers, part_altered_self known, unlinked]
    exact iff_of_false nofun fun either => either.1 rfl
  · rw [Remembers, part_altered_of_ne same]
    exact (and_iff_right same).symm

/-- Two parts that remember each other. -/
def linked (workshop : Workshop R) (id inverse : PartId) : Workshop R :=
  (if inverse = id then workshop
    else workshop.altered inverse fun part => { part with adjoint := some id }).altered id
      fun part => { part with adjoint := some inverse }

@[simp]
theorem size_linked {inverse : PartId} :
    (workshop.linked id inverse).parts.size = workshop.parts.size := by
  rw [linked, size_altered]
  split <;> simp

theorem part_linked {inverse : PartId} (old : id < workshop.parts.size)
    (oldInverse : inverse < workshop.parts.size) :
    (workshop.linked id inverse).part other = { workshop.part other with
      adjoint := if other = id then some inverse else if other = inverse then some id
        else (workshop.part other).adjoint } := by
  rw [linked]
  by_cases first : other = id
  · subst first
    rw [if_pos rfl, part_altered_self (by split <;> simpa using old)]
    split
    case isTrue => rfl
    case isFalse different => rw [part_altered_of_ne (Ne.symm different)]
  · rw [if_neg first, part_altered_of_ne first]
    split
    case isTrue same => rw [same, if_neg first]
    case isFalse different =>
      by_cases second : other = inverse
      · subst second
        rw [if_pos rfl, part_altered_self oldInverse]
      · rw [if_neg second, part_altered_of_ne second]

/-- A new part that is linked to an old one remembers it. -/
theorem part_linked_extended (old : id < workshop.parts.size) :
    ((workshop.extended made).linked id workshop.parts.size).part workshop.parts.size =
      { made with adjoint := some id } := by
  rw [part_linked (old.trans lt_size_extended) lt_size_extended, part_extended_size,
    if_neg old.ne', if_pos rfl]

end

/-! ## Growing -/

section

variable {R : Type}

/-- A workshop has grown: the old parts are what they were, and remember what they remembered. -/
structure Grows (before after : Workshop R) : Prop where
  size : before.parts.size ≤ after.parts.size
  same : ∀ id < before.parts.size, (after.part id).bare = (before.part id).bare
  remembers : ∀ id partner, before.Remembers id partner → after.Remembers id partner

variable {before between after : Workshop R} {id inner partner : PartId}

theorem Grows.refl (workshop : Workshop R) : workshop.Grows workshop :=
  ⟨le_refl _, fun _ _ => rfl, fun _ _ remembers => remembers⟩

theorem Grows.trans (first : before.Grows between) (second : between.Grows after) :
    before.Grows after where
  size := first.size.trans second.size
  same id old := (second.same id (old.trans_le first.size)).trans (first.same id old)
  remembers id partner remembers :=
    second.remembers id partner (first.remembers id partner remembers)

/-- A workshop grows by a new part. -/
theorem grows_extended (workshop : Workshop R) (made : Part R) :
    workshop.Grows (workshop.extended made) where
  size := by
    rw [size_extended]
    exact Nat.le_succ _
  same id old := by rw [part_extended_of_ne old.ne]
  remembers id partner remembers := by
    rw [Remembers, part_extended_of_ne (lt_size_of_remembers remembers).ne]
    exact remembers

theorem Grows.isMember_iff (grows : before.Grows after) (old : id < before.parts.size) :
    after.IsMember id inner ↔ before.IsMember id inner := by
  rw [IsMember, IsMember, Part.shape_eq_of_bare (grows.same id old)]

theorem Grows.adjoint_eq_none (grows : before.Grows after)
    (nothing : (after.part id).adjoint = none) : (before.part id).adjoint = none := by
  cases remembered : (before.part id).adjoint with
  | none => rfl
  | some partner => exact (grows.remembers id partner remembered).symm.trans nothing

end

end Workshop

/-! ## Parts in order -/

section

variable {R : Type} [Scalar R] {part other : Part R} {before after : Workshop R}

theorem Part.Fits.of_same (fits : part.Fits before) (bare : other.bare = part.bare)
    (same : ∀ inner ∈ part.shape.members,
      (after.part inner).numQubits = (before.part inner).numQubits ∧
        (after.part inner).name = (before.part inner).name) : other.Fits after := by
  rcases part with ⟨shape, name, numQubits, capabilities, adjoint⟩
  rcases other with ⟨shape, name, numQubits, capabilities, adjoint⟩
  cases bare
  cases shape with
  | gate primitive => exact fits
  | circuit steps =>
    intro step member
    have fit := fits step member
    rwa [← (same step.1 (List.mem_map_of_mem member)).1] at fit
  | phaseShifted inner angle =>
    rcases same inner (List.mem_singleton_self inner) with ⟨size, named⟩
    exact ⟨fits.1.trans size.symm, by rw [named]; exact fits.2⟩
  | controlled inner count =>
    have size := (same inner (List.mem_singleton_self inner)).1
    exact fits.trans (congrArg (· + count) size.symm)
  | derivedAdjoint inner =>
    rcases same inner (List.mem_singleton_self inner) with ⟨size, named⟩
    exact ⟨fits.1.trans size.symm, by rw [named]; exact fits.2⟩
  | routine body inverse => trivial

theorem Part.Fits.of_bare (fits : part.Fits before) (bare : other.bare = part.bare)
    (same : ∀ inner ∈ part.shape.members, (after.part inner).bare = (before.part inner).bare) :
    other.Fits after :=
  fits.of_same bare fun inner member =>
    ⟨Part.numQubits_eq_of_bare (same inner member), Part.name_eq_of_bare (same inner member)⟩

/-- A part goes with its members after a new one has been put into the store. -/
theorem Part.Fits.extended {made : Part R} (fits : part.Fits before)
    (members : ∀ inner ∈ part.shape.members, inner < before.parts.size) :
    part.Fits (before.extended made) :=
  fits.of_bare rfl fun inner member => (Workshop.grows_extended before made).same inner
    (members inner member)

end

/-- The gates of a part are exactly unitary and do not measure.  A gate that does not remember its
adjoint is not mistaken for a built-in one by its name, and a routine that supports the adjoint has
no inverse that was written by hand. -/
def Part.IsCoherent (definitions : Definitions ℝ) (part : Part ℝ) : Prop :=
  match part.shape with
  | .gate primitive =>
    primitive.IsUnitary ∧ (part.adjoint = none → primitive.HasHonestName)
  | .routine body inverse => part.capabilities.adjoint = true → inverse = .absent ∧
      (body.isPlain = true → (Blueprint.buildBody body).Follows .coherent
        (Conduct.coherent.namedWithin definitions Engine.depthLimit))
  | _ => True

namespace Workshop

/-- A part goes with its members, which are in the store, and its gates are exactly unitary.  The
reversed tape of a part remembers the part. -/
structure InOrder (definitions : Definitions ℝ) (workshop : Workshop ℝ) (id : PartId) : Prop where
  fits : (workshop.part id).Fits workshop
  nonneg : 0 ≤ (workshop.part id).numQubits
  members : ∀ inner, workshop.IsMember id inner → inner < workshop.parts.size
  coherent : (workshop.part id).IsCoherent definitions
  derived : ∀ inner, (workshop.part id).shape = .derivedAdjoint inner → workshop.Remembers id inner

variable {definitions : Definitions ℝ} {workshop before after : Workshop ℝ}
  {id partner inner other : PartId}

theorem inOrder_of_le (outside : workshop.parts.size ≤ id) : workshop.InOrder definitions id := by
  have nothing : workshop.part id = default := part_of_le outside
  constructor
  case fits =>
    rw [nothing]
    exact nofun
  case nonneg =>
    rw [nothing]
    exact le_refl _
  case members =>
    intro inner member
    exact absurd (lt_size_of_isMember member) (not_lt.2 outside)
  case coherent =>
    rw [nothing]
    trivial
  case derived =>
    intro inner shape
    rw [nothing] at shape
    cases shape

/-- A part is in order where it stands, provided that it went with its members before, that these
are there and that it remembers what it is the reversed tape of. -/
theorem InOrder.of_part (before : Workshop ℝ) {made : Part ℝ} (stands : after.part id = made)
    (fits : made.Fits before) (nonneg : 0 ≤ made.numQubits)
    (members : ∀ inner ∈ made.shape.members, inner < after.parts.size ∧
      (after.part inner).numQubits = (before.part inner).numQubits ∧
        (after.part inner).name = (before.part inner).name)
    (coherent : made.IsCoherent definitions)
    (derived : ∀ inner, made.shape = .derivedAdjoint inner → made.adjoint = some inner) :
    after.InOrder definitions id := by
  subst stands
  exact ⟨fits.of_same rfl fun inner member => (members inner member).2, nonneg,
    fun inner member => (members inner member).1, coherent, derived⟩

theorem InOrder.grow (inOrder : before.InOrder definitions id) (grows : before.Grows after)
    (old : id < before.parts.size) : after.InOrder definitions id := by
  have bare := grows.same id old
  have shapes := Part.shape_eq_of_bare bare
  constructor
  case fits =>
    exact inOrder.fits.of_bare bare fun inner member =>
      grows.same inner (inOrder.members inner member)
  case nonneg => exact inOrder.nonneg.trans_eq (Part.numQubits_eq_of_bare bare).symm
  case members =>
    intro inner member
    exact (inOrder.members inner ((grows.isMember_iff old).1 member)).trans_le grows.size
  case coherent =>
    have coherent := inOrder.coherent
    rw [Part.IsCoherent] at coherent ⊢
    rw [shapes, Part.capabilities_eq_of_bare bare]
    cases shape : (before.part id).shape with
    | gate primitive =>
      rw [shape] at coherent
      exact ⟨coherent.1, fun nothing => coherent.2 (grows.adjoint_eq_none nothing)⟩
    | routine body inverse =>
      rw [shape] at coherent
      exact coherent
    | circuit _ | phaseShifted _ _ | controlled _ _ | derivedAdjoint _ => trivial
  case derived =>
    intro inner shape
    exact grows.remembers id inner (inOrder.derived inner (shapes.symm.trans shape))

/-! ## Parts that counter each other -/

/-- Whatever a part stands for is inverted by what another part stands for, which may be nested more
deeply by one. -/
def IsInvertedBy (definitions : Definitions ℝ) (workshop : Workshop ℝ) (id partner : PartId) :
    Prop :=
  ∀ depth operation, workshop.unfolded depth id = some operation →
    ∃ inverse, workshop.unfolded (depth + 1) partner = some inverse ∧
      operation.Inverts definitions inverse

/-- Two parts that stand for operations that invert each other. -/
structure Counters (definitions : Definitions ℝ) (workshop : Workshop ℝ) (id partner : PartId) :
    Prop where
  forth : workshop.IsInvertedBy definitions id partner
  back : workshop.IsInvertedBy definitions partner id

theorem Counters.symm (counters : workshop.Counters definitions id partner) :
    workshop.Counters definitions partner id :=
  ⟨counters.back, counters.forth⟩

theorem IsInvertedBy.congr (inverted : before.IsInvertedBy definitions id partner)
    (first : ∀ depth, after.unfolded depth id = before.unfolded depth id)
    (second : ∀ depth, after.unfolded depth partner = before.unfolded depth partner) :
    after.IsInvertedBy definitions id partner := by
  intro depth operation stands
  rw [second]
  exact inverted depth operation ((first depth).symm.trans stands)

/-! ### Gates -/

theorem unfolded_of_gate {primitive : Gate ℝ} (shape : (workshop.part id).shape = .gate primitive)
    (depth : Nat) :
    workshop.unfolded (depth + 1) id = some (.gate primitive (workshop.part id).name) := by
  rw [unfolded, Part.unfolded, shape]

theorem isInvertedBy_gate {primitive inverse : Gate ℝ}
    (shape : (workshop.part id).shape = .gate primitive)
    (otherShape : (workshop.part partner).shape = .gate inverse)
    (inverts : ∀ name otherName, (Operation.gate primitive name).Inverts definitions
      (.gate inverse otherName)) :
    workshop.IsInvertedBy definitions id partner := by
  rintro (_ | depth) operation stands
  · cases stands
  · rw [unfolded_of_gate shape] at stands
    cases stands
    exact ⟨_, unfolded_of_gate otherShape _, inverts _ _⟩

theorem counters_gate {primitive inverse : Gate ℝ}
    (shape : (workshop.part id).shape = .gate primitive)
    (otherShape : (workshop.part partner).shape = .gate inverse) (unitary : primitive.IsUnitary)
    (built : primitive.adjoint = .ok inverse) : workshop.Counters definitions id partner where
  forth := isInvertedBy_gate shape otherShape (Operation.inverts_gate unitary built)
  back := isInvertedBy_gate otherShape shape fun name otherName =>
    (Operation.inverts_gate unitary built otherName name).symm

/-! ### Phase shifts -/

theorem unfolded_of_phaseShifted {angle : PhaseAngle ℝ}
    (shape : (workshop.part id).shape = .phaseShifted inner angle) (depth : Nat) :
    workshop.unfolded (depth + 1) id =
      (workshop.unfolded depth inner).map fun operation => .phaseShifted operation angle := by
  rw [unfolded, Part.unfolded, shape]

theorem isInvertedBy_phaseShifted {angle opposite : PhaseAngle ℝ}
    (shape : (workshop.part id).shape = .phaseShifted inner angle)
    (otherShape : (workshop.part partner).shape = .phaseShifted other opposite)
    (negated : opposite.value = -angle.value)
    (inverted : workshop.IsInvertedBy definitions inner other) :
    workshop.IsInvertedBy definitions id partner := by
  rintro (_ | depth) operation stands
  · cases stands
  · rw [unfolded_of_phaseShifted shape] at stands
    rcases Option.map_eq_some_iff.1 stands with ⟨found, followed, rfl⟩
    rcases inverted depth found followed with ⟨undone, undoneFollowed, inverts⟩
    refine ⟨_, ?_, Operation.inverts_phaseShifted inverts negated⟩
    rw [unfolded_of_phaseShifted otherShape, undoneFollowed, Option.map_some]

theorem counters_phaseShifted {angle : PhaseAngle ℝ}
    (shape : (workshop.part id).shape = .phaseShifted inner angle)
    (otherShape : (workshop.part partner).shape = .phaseShifted other angle.opposite)
    (counters : workshop.Counters definitions inner other) :
    workshop.Counters definitions id partner where
  forth := isInvertedBy_phaseShifted shape otherShape angle.opposite_value counters.forth
  back := by
    refine isInvertedBy_phaseShifted otherShape shape ?_ counters.back
    rw [angle.opposite_value, neg_neg]

/-! ### Control wrappers -/

theorem unfolded_of_controlled {count : Int}
    (shape : (workshop.part id).shape = .controlled inner count) (depth : Nat) :
    workshop.unfolded (depth + 1) id = (workshop.unfolded depth inner).map fun operation =>
      .controlled operation count (workshop.part id).name := by
  rw [unfolded, Part.unfolded, shape]

theorem isInvertedBy_controlled {count : Int}
    (shape : (workshop.part id).shape = .controlled inner count)
    (otherShape : (workshop.part partner).shape = .controlled other count)
    (inverted : workshop.IsInvertedBy definitions inner other) :
    workshop.IsInvertedBy definitions id partner := by
  rintro (_ | depth) operation stands
  · cases stands
  · rw [unfolded_of_controlled shape] at stands
    rcases Option.map_eq_some_iff.1 stands with ⟨found, followed, rfl⟩
    rcases inverted depth found followed with ⟨undone, undoneFollowed, inverts⟩
    refine ⟨.controlled undone count (workshop.part partner).name, ?_,
      Operation.inverts_controlled inverts count _ _⟩
    rw [unfolded_of_controlled otherShape, undoneFollowed, Option.map_some]

theorem counters_controlled {count : Int}
    (shape : (workshop.part id).shape = .controlled inner count)
    (otherShape : (workshop.part partner).shape = .controlled other count)
    (counters : workshop.Counters definitions inner other) :
    workshop.Counters definitions id partner where
  forth := isInvertedBy_controlled shape otherShape counters.forth
  back := isInvertedBy_controlled otherShape shape counters.back

/-! ### Reversed tapes -/

theorem unfolded_of_derivedAdjoint
    (shape : (workshop.part id).shape = .derivedAdjoint inner) (depth : Nat) :
    workshop.unfolded (depth + 1) id =
      (workshop.unfolded depth inner).map .derivedAdjoint := by
  rw [unfolded, Part.unfolded, shape]

theorem counters_derivedAdjoint
    (shape : (workshop.part partner).shape = .derivedAdjoint id)
    (keeps : ∀ depth operation, workshop.unfolded depth id = some operation →
      operation.Keeps .coherent definitions) :
    workshop.Counters definitions id partner := by
  constructor
  · intro depth operation stands
    refine ⟨_, ?_, Operation.inverts_derivedAdjoint (keeps depth operation stands)⟩
    rw [unfolded_of_derivedAdjoint shape, stands, Option.map_some]
  · rintro (_ | depth) operation stands
    · cases stands
    · rw [unfolded_of_derivedAdjoint shape] at stands
      rcases Option.map_eq_some_iff.1 stands with ⟨found, followed, rfl⟩
      exact ⟨found, unfolded_succ (unfolded_succ followed),
        (Operation.inverts_derivedAdjoint (keeps depth found followed)).symm⟩

/-! ### Circuits -/

theorem unfolded_of_circuit {steps : List (PartId × List Int)}
    (shape : (workshop.part id).shape = .circuit steps) (depth : Nat) :
    workshop.unfolded (depth + 1) id =
      (PartShape.unfoldedSteps (workshop.unfolded depth) steps).map fun listed =>
        .circuit (workshop.part id).numQubits (workshop.part id).name listed := by
  rw [unfolded, Part.unfolded, shape]

/-- Steps on the same places, the parts of which are inverted by the other ones. -/
def StepsMatch (definitions : Definitions ℝ) (workshop : Workshop ℝ) :
    List (PartId × List Int) → List (PartId × List Int) → Prop :=
  List.Forall₂ fun step other =>
    workshop.IsInvertedBy definitions step.1 other.1 ∧ step.2 = other.2

theorem invert_of_stepsMatch {depth : Nat} {steps others : List (PartId × List Int)}
    (matched : workshop.StepsMatch definitions steps others) :
    ∀ listed, PartShape.unfoldedSteps (workshop.unfolded depth) steps = some listed →
      ∃ inverse, PartShape.unfoldedSteps (workshop.unfolded (depth + 1)) others.reverse =
        some inverse ∧ listed.Invert definitions inverse := by
  induction matched with
  | nil =>
    intro listed stands
    cases stands
    exact ⟨.nil, rfl, Steps.invert_nil⟩
  | @cons step other rest later first followed ih =>
    intro listed stands
    rcases step with ⟨step, places⟩
    rcases other with ⟨other, samePlaces⟩
    rcases first with ⟨inverted, rfl⟩
    rw [PartShape.unfoldedSteps, Option.bind_eq_some_iff] at stands
    rcases stands with ⟨operation, found, mapped⟩
    rcases Option.map_eq_some_iff.1 mapped with ⟨further, foundRest, rfl⟩
    rcases inverted depth operation found with ⟨undone, foundOther, inverts⟩
    rcases ih further foundRest with ⟨earlier, foundLater, invert⟩
    refine ⟨_, ?_, Steps.invert_cons inverts invert places⟩
    rw [List.reverse_cons, PartShape.unfoldedSteps_append, foundLater]
    simp [PartShape.unfoldedSteps, foundOther]

theorem isInvertedBy_circuit {steps others : List (PartId × List Int)}
    (shape : (workshop.part id).shape = .circuit steps)
    (otherShape : (workshop.part partner).shape = .circuit others.reverse)
    (sizes : (workshop.part partner).numQubits = (workshop.part id).numQubits)
    (matched : workshop.StepsMatch definitions steps others) :
    workshop.IsInvertedBy definitions id partner := by
  rintro (_ | depth) operation stands
  · cases stands
  · rw [unfolded_of_circuit shape] at stands
    rcases Option.map_eq_some_iff.1 stands with ⟨listed, followed, rfl⟩
    rcases invert_of_stepsMatch matched listed followed with ⟨inverse, found, invert⟩
    refine ⟨.circuit (workshop.part id).numQubits (workshop.part partner).name inverse, ?_,
      Operation.inverts_circuit invert _ _ _⟩
    rw [unfolded_of_circuit otherShape, found, Option.map_some, sizes]

/-- Circuits counter each other when the steps of the one are countered in reverse order by those of
the other. -/
theorem counters_circuit {steps others : List (PartId × List Int)}
    (shape : (workshop.part id).shape = .circuit steps)
    (otherShape : (workshop.part partner).shape = .circuit others)
    (sizes : (workshop.part partner).numQubits = (workshop.part id).numQubits)
    (counter : List.Forall₂ (fun step other =>
      workshop.Counters definitions step.1 other.1 ∧ step.2 = other.2) steps.reverse others) :
    workshop.Counters definitions id partner where
  forth := by
    have matched : workshop.StepsMatch definitions steps others.reverse := by
      have reversed := List.rel_reverse counter
      rw [List.reverse_reverse] at reversed
      exact reversed.imp fun step other counters => ⟨counters.1.forth, counters.2⟩
    apply isInvertedBy_circuit shape _ sizes matched
    rw [otherShape, List.reverse_reverse]
  back := by
    have matched : workshop.StepsMatch definitions others steps.reverse :=
      (counter.imp fun step other counters => ⟨counters.1.back, counters.2.symm⟩).flip
    apply isInvertedBy_circuit otherShape _ sizes.symm matched
    rw [shape, List.reverse_reverse]

end Workshop

end QuantumKata

end
