import QuantumKata.Proofs.AdjointCalls
import QuantumKata.Proofs.Building

/-!
# The adjoint of the adjoint

The adjoint of the adjoint of a part is the part itself, as long as the two are linked.  Taking an
adjoint links a part to it, and no later step of building takes the link away on both sides.  It can
be taken away on one: a circuit to which a step is appended, or a routine whose inverse is written
by hand, forgets its adjoint, and is not forgotten by it.  From then on the former adjoint is
*disowned*.  It still gives the changed part for its adjoint, but the changed part gets another one.
A reversed tape that is put around a part directly is disowned from the start.

It is kept track of the parts that are disowned, through any steps of building in any order.  They
turn out to be exactly those that are not remembered by what they remember.
-/

noncomputable section

namespace QuantumKata

namespace Workshop

/-! ## Building, with inverses written by hand -/

section

variable {R : Type}

/-- A step of building operations in which a routine may also get an inverse that is written by
hand, and a reversed tape be put around a part directly. -/
inductive Crafting (R : Type) where
  | making (making : Making R)
  | writing (id : PartId) (body : InstructionPlans R)
  | reversing (inner : PartId)

/-- A reversed tape around a part. -/
def reversedPart (workshop : Workshop R) (inner : PartId) : Part R :=
  ⟨.derivedAdjoint inner, Operation.adjointName (workshop.part inner).name,
    (workshop.part inner).numQubits, (workshop.part inner).capabilities, some inner⟩

namespace Crafting

/-- The parts that a step refers to. -/
def mentions : Crafting R → List PartId
  | making step => step.mentions
  | writing id _ => [id]
  | reversing inner => [inner]

/-- Carry a step out. -/
def perform [Scalar R] : Crafting R → WorkshopAction R PartId
  | making step => step.perform
  | writing id body => do
    defineAdjoint id body
    return id
  | reversing inner => fun workshop => add (workshop.reversedPart inner) workshop

end Crafting

/-- The parts that are disowned after a part has been changed: the part itself forgets its adjoint,
and whatever remembers the part is not remembered by it any more. -/
def orphaned (workshop : Workshop R) (changed : PartId) (disowned : Set PartId) : Set PartId :=
  {id | id ≠ changed ∧ (id ∈ disowned ∨ workshop.Remembers id changed)}

/-- The parts that are disowned after a step.  A step that fails changes no part. -/
def Crafting.disowns [Scalar R] (crafting : Crafting R) (workshop : Workshop R)
    (disowned : Set PartId) : Set PartId :=
  match crafting, (crafting.perform workshop).1 with
  | .reversing _, _ => insert workshop.parts.size disowned
  | .making (.append changed _ _), .ok _ => workshop.orphaned changed disowned
  | .writing changed _, .ok _ => workshop.orphaned changed disowned
  | _, _ => disowned

section

variable [Scalar R] {workshop after : Workshop R} {disowned : Set PartId}
  {whole step changed made : PartId} {qubits : List Int} {body : InstructionPlans R} {fault : Fault}

theorem disowns_append_of_ok
    (performed : (Making.append whole step qubits).perform workshop = (.ok made, after)) :
    (Crafting.making (.append whole step qubits)).disowns workshop disowned =
      workshop.orphaned whole disowned := by
  have done : ((Crafting.making (.append whole step qubits)).perform workshop).1 = .ok made :=
    congrArg Prod.fst performed
  simp only [Crafting.disowns, done]

/-- A step of building that fails disowns nothing. -/
theorem disowns_making_of_error {making : Making R}
    (performed : making.perform workshop = (.error fault, after)) :
    (Crafting.making making).disowns workshop disowned = disowned := by
  have done : ((Crafting.making making).perform workshop).1 = .error fault :=
    congrArg Prod.fst performed
  cases making with
  | append whole step qubits => simp only [Crafting.disowns, done]
  | _ => rfl

/-- A new part disowns nothing. -/
theorem disowns_of_mayMake {making : Making R} {fresh : Part R}
    (mayMake : making.MayMake workshop fresh) :
    (Crafting.making making).disowns workshop disowned = disowned := by
  cases making with
  | append whole step qubits => exact mayMake.elim
  | _ => rfl

theorem disowns_writing_of_ok
    (performed : (Crafting.writing changed body).perform workshop = (.ok made, after)) :
    (Crafting.writing changed body).disowns workshop disowned =
      workshop.orphaned changed disowned := by
  simp only [Crafting.disowns, performed]

theorem disowns_writing_of_error
    (performed : (Crafting.writing changed body).perform workshop = (.error fault, after)) :
    (Crafting.writing changed body).disowns workshop disowned = disowned := by
  simp only [Crafting.disowns, performed]

end

/-- What workshops come to by building, with the parts that are disowned. -/
inductive Crafted [Scalar R] : Workshop R → Set PartId → Prop where
  | empty : Crafted {} ∅
  | craft {workshop : Workshop R} {disowned : Set PartId} (crafting : Crafting R)
      (earlier : Crafted workshop disowned)
      (known : ∀ id ∈ crafting.mentions, id < workshop.parts.size) :
      Crafted (crafting.perform workshop).2 (crafting.disowns workshop disowned)

end

/-! ## Who is remembered by what it remembers -/

variable {R : Type} [Scalar R] {workshop before after : Workshop R} {disowned : Set PartId}
  {id inner inverse partner : PartId}

/-- A workshop is tidy, and the disowned parts are those that are not remembered by what they
remember. -/
structure Accords (disowned : Set PartId) (workshop : Workshop R) : Prop where
  tidy : workshop.Tidy
  tapes : workshop.OwnsTapes
  remembered_iff : ∀ id partner, workshop.Remembers id partner →
    (workshop.Remembers partner id ↔ id ∉ disowned)
  remembers : ∀ id ∈ disowned, (workshop.part id).adjoint ≠ none

theorem accords_empty : Accords ∅ ({} : Workshop R) where
  tidy := tidy_empty
  tapes id derived := by
    rw [part_of_le (Nat.zero_le id)] at derived
    cases derived
  remembered_iff id _ remembers := absurd (lt_size_of_remembers remembers) (Nat.not_lt_zero id)
  remembers id isDisowned := absurd isDisowned (Set.notMem_empty id)

namespace Accords

/-- Progress adds links only, and so disowns nothing. -/
theorem progress {reached : PartId → Prop} (accords : before.Accords disowned)
    (progress : Progress reached before after) (tapes : after.OwnsTapes) :
    after.Accords disowned where
  tidy := progress.tidy
  tapes := tapes
  remembered_iff id partner remembers := by
    rcases progress.answered id partner remembers with earlier | ⟨back, -⟩
    · rw [← accords.remembered_iff id partner earlier]
      exact ⟨progress.remembers_back accords.tidy earlier,
        progress.grows.remembers partner id⟩
    · refine iff_of_true back fun isDisowned => ?_
      obtain ⟨found, earlier⟩ := Option.ne_none_iff_exists'.1 (accords.remembers id isDisowned)
      cases (progress.grows.remembers id found earlier).symm.trans remembers
      exact (accords.remembered_iff id partner earlier).1
        (progress.remembers_back accords.tidy earlier back) isDisowned
  remembers id isDisowned := by
    obtain ⟨found, earlier⟩ := Option.ne_none_iff_exists'.1 (accords.remembers id isDisowned)
    rw [progress.grows.remembers id found earlier]
    exact Option.some_ne_none _

theorem extended {made : Part R} (accords : workshop.Accords disowned)
    (joins : workshop.Joins made) : (workshop.extended made).Accords disowned := by
  have progress : Progress (fun _ => False) workshop (workshop.extended made) :=
    (Progress.refl accords.tidy).extended joins.fits joins.nonneg joins.members joins.unlinked
  exact accords.progress progress (accords.tapes.extended joins.notDerived)

/-- A reversed tape put around a part remembers the part, which does not remember the tape. -/
theorem reversed (accords : workshop.Accords disowned) (known : inner < workshop.parts.size) :
    (workshop.extended (workshop.reversedPart inner)).Accords
      (insert workshop.parts.size disowned) := by
  have kept : ∀ {id}, id ≠ workshop.parts.size →
      (workshop.extended (workshop.reversedPart inner)).part id = workshop.part id :=
    fun old => part_extended_of_ne old
  have here : (workshop.extended (workshop.reversedPart inner)).part workshop.parts.size =
      workshop.reversedPart inner := part_extended_size
  constructor
  case tidy =>
    refine accords.tidy.extended ⟨rfl, rfl⟩ (accords.tidy.nonneg inner)
      (List.forall_mem_singleton.2 known) fun partner remembers => ?_
    cases remembers
    exact ⟨known, rfl⟩
  case tapes =>
    intro id derived
    by_cases new : id = workshop.parts.size
    · subst new
      rw [here]
      exact Option.some_ne_none _
    · rw [kept new] at derived ⊢
      exact accords.tapes id derived
  case remembered_iff =>
    intro id partner remembers
    rcases remembers_extended_iff.1 remembers with ⟨rfl, ofTape⟩ | earlier
    · cases ofTape
      refine iff_of_false (fun back => ?_) (not_not_intro (Set.mem_insert _ _))
      rw [Remembers, kept known.ne] at back
      exact lt_irrefl _ (accords.tidy.partner_lt inner _ back)
    · have new : id ≠ workshop.parts.size := (lt_size_of_remembers earlier).ne
      rw [Remembers, kept (accords.tidy.partner_lt id partner earlier).ne,
        Set.mem_insert_iff, not_or]
      exact (accords.remembered_iff id partner earlier).trans (and_iff_right new).symm
  case remembers =>
    intro id isDisowned
    rcases Set.mem_insert_iff.1 isDisowned with rfl | earlier
    · rw [here]
      exact Option.some_ne_none _
    · have something := accords.remembers id earlier
      obtain ⟨partner, remembers⟩ := Option.ne_none_iff_exists'.1 something
      rwa [kept (lt_size_of_remembers remembers).ne]

/-- A part that is changed forgets its adjoint, and is not forgotten by it. -/
theorem altered {next : Part R → Part R} (accords : workshop.Accords disowned)
    (known : id < workshop.parts.size)
    (name : (next (workshop.part id)).name = (workshop.part id).name)
    (size : (next (workshop.part id)).numQubits = (workshop.part id).numQubits)
    (fits : (next (workshop.part id)).Fits workshop)
    (members : ∀ inner ∈ (next (workshop.part id)).shape.members, inner < workshop.parts.size)
    (unlinked : (next (workshop.part id)).adjoint = none)
    (notDerived : (next (workshop.part id)).shape.isDerivedAdjoint = false) :
    (workshop.altered id next).Accords (workshop.orphaned id disowned) := by
  have remembers_iff : ∀ {other partner}, (workshop.altered id next).Remembers other partner ↔
      other ≠ id ∧ workshop.Remembers other partner := remembers_altered_iff known unlinked
  constructor
  case tidy => exact accords.tidy.altered known name size fits members unlinked
  case tapes => exact accords.tapes.altered known notDerived
  case remembered_iff =>
    intro other partner remembers
    obtain ⟨apart, earlier⟩ := remembers_iff.1 remembers
    rw [remembers_iff]
    by_cases changed : partner = id
    · subst changed
      exact iff_of_false (fun back => back.1 rfl) (not_not_intro ⟨apart, .inr earlier⟩)
    · have notChanged : ¬workshop.Remembers other id := fun remembersChanged =>
        changed (Option.some.inj (earlier.symm.trans remembersChanged))
      rw [and_iff_right changed, accords.remembered_iff other partner earlier]
      exact not_congr ⟨fun isDisowned => ⟨apart, .inl isDisowned⟩,
        fun orphan => orphan.2.resolve_right notChanged⟩
  case remembers =>
    rintro other ⟨apart, isDisowned | remembers⟩
    · rw [part_altered_of_ne apart]
      exact accords.remembers other isDisowned
    · rw [remembers_iff.2 ⟨apart, remembers⟩]
      exact Option.some_ne_none _

end Accords

/-! ## Every step of building -/

omit [Scalar R] in
/-- An inverse is written for a routine, or nothing is done. -/
theorem defineAdjoint_cases (workshop : Workshop R) (id : PartId) (body : InstructionPlans R) :
    (∃ fault, defineAdjoint id body workshop = (.error fault, workshop)) ∨
      ∃ forward, defineAdjoint id body workshop = (.ok (), workshop.altered id fun part =>
        { part with shape := .routine forward (.written body), adjoint := none }) := by
  cases shape : (workshop.part id).shape with
  | routine forward plan =>
    refine .inr ⟨forward, ?_⟩
    simp [defineAdjoint, shape, change_apply]
  | gate _ | circuit _ | phaseShifted _ _ | controlled _ _ | derivedAdjoint _ =>
    refine .inl ⟨.wrongMember "only routines have hand-written inverses", ?_⟩
    simp [defineAdjoint, shape]

theorem Making.accords (making : Making R) (accords : workshop.Accords disowned)
    (known : ∀ id ∈ making.mentions, id < workshop.parts.size) :
    (making.perform workshop).2.Accords ((Crafting.making making).disowns workshop disowned) := by
  have leads := making.leads accords.tidy.nonneg accords.tidy.member_lt known
  generalize performed : making.perform workshop = result at leads ⊢
  cases leads with
  | refused fault =>
    rw [disowns_making_of_error performed]
    exact accords
  | joined mayMake joins =>
    rw [disowns_of_mayMake mayMake]
    exact accords.extended joins
  | @appended whole step qubits steps old oldStep shape arity distinct =>
    have fits := accords.tidy.fits whole
    rw [Part.Fits, shape] at fits
    rw [disowns_append_of_ok performed]
    refine accords.altered old rfl rfl ?_ (accords.tidy.members_append shape oldStep) rfl rfl
    exact List.forall_mem_append.2 ⟨fits, List.forall_mem_singleton.2 ⟨arity, distinct⟩⟩
  | @adjoint id old =>
    -- Taking an adjoint only adds links.
    have yields := yieldsAdjoints_adjointWithin depthLimit workshop accords.tidy accords.tapes id
      old
    exact accords.progress yields.progress yields.tapes

theorem Crafting.accords (crafting : Crafting R) (accords : workshop.Accords disowned)
    (known : ∀ id ∈ crafting.mentions, id < workshop.parts.size) :
    (crafting.perform workshop).2.Accords (crafting.disowns workshop disowned) := by
  cases crafting with
  | making making => exact making.accords accords known
  | writing id body =>
    have old := known id (List.mem_singleton_self id)
    rcases defineAdjoint_cases workshop id body with ⟨fault, failed⟩ | ⟨forward, written⟩
    · have performed : (writing id body).perform workshop = (.error fault, workshop) := by
        rw [perform, Action.bind_of_error failed]
      rw [performed, disowns_writing_of_error performed]
      exact accords
    · have performed : (writing id body).perform workshop = (.ok id, workshop.altered id fun part =>
          { part with shape := .routine forward (.written body), adjoint := none }) := by
        rw [perform, Action.bind_of_ok written]
        rfl
      rw [performed, disowns_writing_of_ok performed]
      exact accords.altered old rfl rfl trivial (List.forall_mem_nil _) rfl rfl
  | reversing inner => exact accords.reversed (known inner (List.mem_singleton_self inner))

/-- Whatever has been built, the disowned parts are those that are not remembered by what they
remember. -/
theorem Crafted.accords (crafted : Crafted workshop disowned) : workshop.Accords disowned := by
  induction crafted with
  | empty => exact accords_empty
  | craft crafting _ known ih => exact crafting.accords ih known

/-! ## A circuit that is changed after its adjoint has been taken -/

/-- The change disowns the former adjoint of the circuit, and nothing else. -/
theorem crafted_redrafted :
    ∃ disowned, Crafted redrafted disowned ∧ ∀ id, id ∈ disowned ↔ id = 1 := by
  have nothing : Crafted ({} : Workshop ℝ) ∅ := .empty
  have circuit := nothing.craft (.making (.circuit 1 "c")) (List.forall_mem_nil _)
  have taken := circuit.craft (.making (.adjoint 0)) (by decide)
  have same : ((Crafting.making (.adjoint 0)).perform
      ((Crafting.making (.circuit 1 "c")).perform ({} : Workshop ℝ)).2).2 = drafted := rfl
  rw [same] at taken
  have gate := taken.craft (.making (.gate (.fixed .x) "X")) (List.forall_mem_nil _)
  have withGate : ((Crafting.making (.gate (.fixed .x) "X")).perform drafted).2 =
      drafted.extended (gatePart (.fixed .x) "X") := rfl
  rw [withGate] at gate
  have changed := gate.craft (.making (.append 0 2 [0])) (by decide)
  have appends : (Making.append 0 2 [0]).perform (drafted.extended (gatePart (.fixed .x) "X")) =
      (.ok 0, redrafted) := rfl
  have changes : ((Crafting.making (.append 0 2 [0])).perform
      (drafted.extended (gatePart (.fixed .x) "X"))).2 = redrafted := congrArg Prod.snd appends
  rw [changes, disowns_append_of_ok appends] at changed
  refine ⟨_, changed, fun id => ⟨?_, ?_⟩⟩
  · rintro ⟨apart, isDisowned | remembers⟩
    · cases isDisowned
    · match id with
      | 0 => exact absurd rfl apart
      | 1 => rfl
      | 2 => cases remembers
      | _ + 3 => cases remembers
  · rintro rfl
    exact ⟨Nat.one_ne_zero, .inr rfl⟩

/-! ## The adjoint of the adjoint -/

/-- What the adjoint of a part has for its adjoint. -/
theorem Accords.adjoint_of_taken (accords : workshop.Accords disowned)
    (known : id < workshop.parts.size)
    (progress : Progress (workshop.OpensTo id) workshop after) (tapes : after.OwnsTapes)
    (remembers : after.Remembers id inverse) :
    (adjoint inverse after).1 = .ok id ↔ id ∉ disowned ∧ workshop.LeadsBack id := by
  have later := accords.progress progress tapes
  have inside : inverse < after.parts.size := later.tidy.partner_lt id inverse remembers
  have capable_iff : (after.part inverse).capabilities.adjoint = true ↔ workshop.LeadsBack id := by
    rw [← leadsBack_iff_of_remembers remembers, progress.leadsBack_iff accords.tidy known]
  rw [← later.remembered_iff id inverse remembers, ← capable_iff]
  rw [show adjoint inverse after = adjointWithin (depthLimit - 1 + 1) inverse after from rfl]
  constructor
  · intro back
    cases capable : (after.part inverse).capabilities.adjoint with
    | false =>
      rw [adjointWithin_of_unsupported capable] at back
      cases back
    | true =>
      refine ⟨?_, rfl⟩
      cases remembered : (after.part inverse).adjoint with
      | some partner =>
        rw [adjointWithin_of_remembers capable remembered] at back
        cases back
        exact remembered
      | none =>
        -- A part that is about to get a new adjoint cannot get an old one that has its own.
        have yields := yieldsAdjoints_adjointWithin (depthLimit - 1 + 1) after later.tidy tapes
          inverse inside
        rcases again : adjointWithin (depthLimit - 1 + 1) inverse after with ⟨outcome, last⟩
        rw [again] at yields back
        cases back
        cases yields with
        | taken further _ answers _ =>
          rcases further.answered inverse id answers with earlier | ⟨-, rfl | new | new⟩
          · exact earlier
          · exact remembers
          · exact absurd (lt_size_of_remembers remembers) (Nat.not_lt_of_le new)
          · exact absurd inside (Nat.not_lt_of_le new)
  · rintro ⟨back, capable⟩
    rw [adjointWithin_of_remembers capable back]

/-- At any moment of building, a part that can get an adjoint has one, and the adjoint of that is
the part itself if and only if the part is not disowned and every adjoint that is met on the ways
from it supports the adjoint. -/
theorem adjoint_adjoint_iff (crafted : Crafted workshop disowned)
    (known : id < workshop.parts.size) :
    (workshop.IsInvertible depthLimit id →
      ∃ inverse after, adjoint id workshop = (.ok inverse, after)) ∧
    ∀ inverse after, adjoint id workshop = (.ok inverse, after) →
      ((adjoint inverse after).1 = .ok id ↔ id ∉ disowned ∧ workshop.LeadsBack id) := by
  have accords := crafted.accords
  have yields : Yields depthLimit id workshop (adjoint id workshop) :=
    yieldsAdjoints_adjointWithin depthLimit workshop accords.tidy accords.tapes id known
  constructor
  · intro invertible
    rcases taken : adjoint id workshop with ⟨fault | inverse, after⟩
    · rw [taken] at yields
      cases yields with
      | failed _ _ hopeless => exact absurd invertible hopeless
    · exact ⟨inverse, after, rfl⟩
  · intro inverse after taken
    rw [taken] at yields
    cases yields with
    | taken progress tapes remembers _ =>
      exact accords.adjoint_of_taken known progress tapes remembers

/-- The changed circuit itself is the adjoint of its new adjoint. -/
theorem adjoint_adjoint_redrafted :
    ∃ disowned, Crafted redrafted disowned ∧ 0 < redrafted.parts.size ∧
      redrafted.IsInvertible depthLimit 0 ∧
      ∃ inverse after, adjoint 0 redrafted = (.ok inverse, after) ∧
        (adjoint inverse after).1 = .ok 0 := by
  obtain ⟨disowned, crafted, disowned_iff⟩ := crafted_redrafted
  have known : 0 < redrafted.parts.size := by decide
  have invertibleGate : redrafted.IsInvertible (depthLimit - 2 + 1) 2 := by
    refine ⟨rfl, fun _ => ⟨?_, nofun⟩⟩
    intro primitive shape foreign
    cases shape
    cases foreign
  have invertible : redrafted.IsInvertible (depthLimit - 1 + 1) 0 := by
    refine ⟨rfl, fun _ => ⟨nofun, ?_⟩⟩
    intro inner member
    cases List.mem_singleton.1 member
    exact invertibleGate
  have leads : redrafted.LeadsBack 0 :=
    fun _ partner _ _ => supports_redrafted partner partner .refl
  obtain ⟨completes, involutive⟩ := adjoint_adjoint_iff crafted known
  obtain ⟨inverse, after, taken⟩ := completes invertible
  refine ⟨disowned, crafted, known, invertible, inverse, after, taken, ?_⟩
  refine (involutive inverse after taken).2 ⟨fun isDisowned => ?_, leads⟩
  cases (disowned_iff 0).1 isDisowned

/-- The former adjoint of the changed circuit still gives the circuit for its adjoint, but is not
what the circuit gives for its own. -/
theorem adjoint_adjoint_ne :
    (∃ disowned, Crafted redrafted disowned) ∧
    (redrafted.part 1).capabilities.adjoint = true ∧
    adjoint 1 redrafted = (.ok 0, redrafted) ∧
    (adjoint 0 redrafted).1 = .ok 3 := by
  obtain ⟨disowned, crafted, -⟩ := crafted_redrafted
  refine ⟨⟨disowned, crafted⟩, rfl, ?_, rfl⟩
  exact (adjointWithin_of_remembers rfl rfl : adjointWithin (depthLimit - 1 + 1) 1 redrafted = _)

end Workshop

end QuantumKata

end
