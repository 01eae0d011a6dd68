import QuantumKata.Proofs.Applying
import QuantumKata.Proofs.CircuitAdjoint

/-!
# Building with shared parts

Parts are made one after the other: gates, routines, circuits, to which steps are appended at any
time, phase shifts, control wrappers, and the adjoints of parts.  A part can be used in several
others, and adjoints can be asked for in between.  What has been built in this way is *sound*, where
it is kept track of the parts whose remembered adjoints got out of date.

So a part that concerns nothing out of date has an adjoint whenever everything inside it supports
one, and the adjoint takes the part back.

An adjoint does get out of date, because a circuit that is changed forgets its own adjoint only: its
former adjoint still remembers it, and so do the adjoints of the parts around it.
-/

noncomputable section

namespace QuantumKata

namespace Workshop

/-! ## The steps of building -/

section

variable {R : Type}

/-- A step of building operations. -/
inductive Making (R : Type) where
  | gate (primitive : Gate R) (name : String)
  | routine (numQubits : Int) (name : String) (capabilities : Capabilities)
      (body : InstructionPlans R)
  | circuit (numQubits : Int) (name : String)
  | append (whole step : PartId) (qubits : List Int)
  | phaseShift (inner : PartId) (angle : PhaseAngle R)
  | controlWrapper (inner : PartId) (count : Int) (name : Option String)
  | controlledBy (inner : PartId) (count : Int)
  | adjoint (id : PartId)

/-- A gate as a part. -/
def gatePart (primitive : Gate R) (name : String) : Part R :=
  ⟨.gate primitive, name, primitive.numQubits, .all, none⟩

/-- A routine as a part. -/
def routinePart (numQubits : Int) (name : String) (capabilities : Capabilities)
    (body : InstructionPlans R) : Part R :=
  ⟨.routine body .absent, name, numQubits, capabilities, none⟩

namespace Making

/-- The parts that a step refers to. -/
def mentions : Making R → List PartId
  | gate _ _ => []
  | routine _ _ _ _ => []
  | circuit _ _ => []
  | append whole step _ => [whole, step]
  | phaseShift inner _ => [inner]
  | controlWrapper inner _ _ => [inner]
  | controlledBy inner _ => [inner]
  | adjoint id => [id]

/-- Carry a step out. -/
def perform [Scalar R] : Making R → WorkshopAction R PartId
  | gate primitive name => add (gatePart primitive name)
  | routine numQubits name capabilities body =>
    if numQubits < 0 then Action.fail (.negativeArity name)
    else add (routinePart numQubits name capabilities body)
  | circuit numQubits name => emptyCircuit numQubits name
  | append whole step qubits => do
    addStep whole step qubits
    return whole
  | phaseShift inner angle => Workshop.phaseShift inner angle
  | controlWrapper inner count name => Workshop.controlWrapper inner count name
  | controlledBy inner count => Workshop.controlledBy inner count
  | adjoint id => Workshop.adjoint id

/-- The gates of a step are exactly unitary, none is mistaken for a library gate by its name, and a
routine that supports the adjoint does not measure. -/
def IsCoherent (definitions : Definitions ℝ) : Making ℝ → Prop
  | gate primitive name => (gatePart primitive name).IsCoherent definitions
  | routine numQubits name capabilities body =>
    (routinePart numQubits name capabilities body).IsCoherent definitions
  | _ => True

end Making

end

/-- What workshops come to by building, with the parts whose remembered adjoints are out of date.  A
step that fails leaves what it has done before. -/
inductive Built (definitions : Definitions ℝ) : Workshop ℝ → Set PartId → Prop where
  | empty : Built definitions {} ∅
  | make {workshop : Workshop ℝ} {stale : Set PartId} (making : Making ℝ)
      (earlier : Built definitions workshop stale)
      (known : ∀ id ∈ making.mentions, id < workshop.parts.size)
      (coherent : making.IsCoherent definitions) :
      Built definitions (making.perform workshop).2
        (outdated workshop (making.perform workshop).2 stale)

variable {definitions : Definitions ℝ} {stale : Set PartId} {workshop after : Workshop ℝ}
  {id inner : PartId}

/-! ## What a step does -/

section

variable {R : Type} [Scalar R] {workshop : Workshop R} {inner : PartId}

/-- A part goes with those of a workshop, remembers none of them and plays none of them backwards. -/
structure Joins (workshop : Workshop R) (made : Part R) : Prop where
  members : ∀ inner ∈ made.shape.members, inner < workshop.parts.size
  fits : made.Fits workshop
  nonneg : 0 ≤ made.numQubits
  unlinked : made.adjoint = none
  notDerived : made.shape.isDerivedAdjoint = false

theorem joins_gatePart (workshop : Workshop R) (primitive : Gate R) (name : String) :
    workshop.Joins (gatePart primitive name) :=
  ⟨List.forall_mem_nil _, rfl, Int.natCast_nonneg _, rfl, rfl⟩

theorem joins_routinePart {numQubits : Int} (nonneg : 0 ≤ numQubits) (name : String)
    (capabilities : Capabilities) (body : InstructionPlans R) :
    workshop.Joins (routinePart numQubits name capabilities body) :=
  ⟨List.forall_mem_nil _, trivial, nonneg, rfl, rfl⟩

theorem joins_emptyPart {numQubits : Int} (nonneg : 0 ≤ numQubits) (name : String) :
    workshop.Joins (emptyPart numQubits name) :=
  ⟨List.forall_mem_nil _, List.forall_mem_nil _, nonneg, rfl, rfl⟩

theorem joins_shiftOf (old : inner < workshop.parts.size)
    (nonneg : 0 ≤ (workshop.part inner).numQubits) (angle : PhaseAngle R) :
    workshop.Joins (workshop.shiftOf inner angle) :=
  ⟨List.forall_mem_singleton.2 old, ⟨rfl, rfl⟩, nonneg, rfl, rfl⟩

theorem joins_wrapperOf (old : inner < workshop.parts.size) {count : Int}
    (nonneg : 0 ≤ (workshop.part inner).numQubits + count) (name : String) :
    workshop.Joins (workshop.wrapperOf inner count name) :=
  ⟨List.forall_mem_singleton.2 old, rfl, nonneg, rfl, rfl⟩

namespace Making

/-- The parts that a step may put into a workshop. -/
def MayMake (workshop : Workshop R) : Making R → Part R → Prop
  | gate primitive name, made => made = gatePart primitive name
  | routine numQubits name capabilities body, made =>
    made = routinePart numQubits name capabilities body
  | circuit numQubits name, made => made = emptyPart numQubits name
  | append _ _ _, _ => False
  | phaseShift inner angle, made => made = workshop.shiftOf inner angle
  | controlWrapper _ _ _, made => ∃ inner count name, made = workshop.wrapperOf inner count name
  | controlledBy _ _, made => ∃ inner count name, made = workshop.wrapperOf inner count name
  | adjoint _, _ => False

/-- What comes of a step: a fault, and nothing has been done; a part that joins the others; a
circuit with one step more; or what comes of taking an adjoint. -/
inductive Leads (workshop : Workshop R) :
    Making R → Except Fault PartId × Workshop R → Prop where
  | refused {making : Making R} (fault : Fault) : Leads workshop making (.error fault, workshop)
  | joined {making : Making R} {made : Part R} (mayMake : making.MayMake workshop made)
      (joins : workshop.Joins made) :
      Leads workshop making (.ok workshop.parts.size, workshop.extended made)
  | appended {whole step : PartId} {qubits : List Int} {steps : List (PartId × List Int)}
      (old : whole < workshop.parts.size) (oldStep : step < workshop.parts.size)
      (shape : (workshop.part whole).shape = .circuit steps)
      (arity : (qubits.length : Int) = (workshop.part step).numQubits)
      (distinct : Operation.areDistinctBelow (workshop.part whole).numQubits qubits = true) :
      Leads workshop (.append whole step qubits)
        (.ok whole, workshop.appended whole steps step qubits)
  | adjoint {id : PartId} (old : id < workshop.parts.size) :
      Leads workshop (.adjoint id) (Workshop.adjoint id workshop)

theorem leads_controlWrapper {making : Making R} (old : inner < workshop.parts.size) (count : Int)
    (name : Option String)
    (mayMake : ∀ label, making.MayMake workshop (workshop.wrapperOf inner count label)) :
    making.Leads workshop (Workshop.controlWrapper inner count name workshop) := by
  rcases lt_or_ge ((workshop.part inner).numQubits + count) 0 with negative | nonneg
  · rw [controlWrapper_of_negative negative]
    exact .refused _
  · rw [controlWrapper_of_nonneg nonneg]
    exact .joined (mayMake _) (joins_wrapperOf old nonneg _)

end Making

omit [Scalar R] in
/-- The controlled variant is a control wrapper around the part or around what it wraps already. -/
theorem controlledBy_cases (workshop : Workshop R) (id : PartId) (count : Int) :
    (∃ fault, controlledBy id count workshop = (.error fault, workshop)) ∨
      ∃ inner total, (inner = id ∨ workshop.IsMember id inner) ∧
        controlledBy id count workshop = controlWrapper inner total none workshop := by
  by_cases positive : count < 1
  · left
    cases shape : (workshop.part id).shape with
    | controlled inner already =>
      refine ⟨.noControlQubit, ?_⟩
      simp [controlledBy, shape, positive]
    | gate _ | circuit _ | phaseShifted _ _ | derivedAdjoint _ | routine _ _ =>
      cases capable : (workshop.part id).capabilities.controlled with
      | false =>
        refine ⟨.noControlled (workshop.part id).name, ?_⟩
        simp [controlledBy, shape, capable]
      | true =>
        refine ⟨.noControlQubit, ?_⟩
        simp [controlledBy, shape, capable, positive]
  · cases shape : (workshop.part id).shape with
    | controlled inner already =>
      right
      refine ⟨inner, already + count, .inr ?_, ?_⟩
      · rw [IsMember, shape]
        exact List.mem_singleton_self inner
      · simp [controlledBy, shape, positive]
    | gate _ | circuit _ | phaseShifted _ _ | derivedAdjoint _ | routine _ _ =>
      cases capable : (workshop.part id).capabilities.controlled with
      | false =>
        left
        refine ⟨.noControlled (workshop.part id).name, ?_⟩
        simp [controlledBy, shape, capable]
      | true =>
        right
        refine ⟨id, count, .inl rfl, ?_⟩
        simp [controlledBy, shape, capable, positive]

/-- A step on parts that are there does one of these things. -/
theorem Making.leads (making : Making R) (nonneg : ∀ id, 0 ≤ (workshop.part id).numQubits)
    (member_lt : ∀ id inner, workshop.IsMember id inner → inner < workshop.parts.size)
    (known : ∀ id ∈ making.mentions, id < workshop.parts.size) :
    making.Leads workshop (making.perform workshop) := by
  cases making with
  | gate primitive name => exact .joined rfl (joins_gatePart workshop primitive name)
  | routine numQubits name capabilities body =>
    rw [perform]
    split
    case isTrue => exact .refused _
    case isFalse notNegative => exact .joined rfl (joins_routinePart (not_lt.1 notNegative) ..)
  | circuit numQubits name =>
    rw [perform]
    rcases lt_or_ge numQubits 0 with negative | notNegative
    · rw [emptyCircuit, if_pos negative]
      exact .refused _
    · rw [emptyCircuit_of_nonneg notNegative]
      exact .joined rfl (joins_emptyPart notNegative name)
  | append whole step qubits =>
    obtain ⟨old, knownStep⟩ := List.forall_mem_cons.1 known
    rw [perform]
    rcases addStep_cases workshop whole step qubits with
      ⟨fault, failed⟩ | ⟨steps, shape, arity, distinct, appends⟩
    · rw [Action.bind_of_error failed]
      exact .refused fault
    · rw [Action.bind_of_ok appends]
      exact .appended old (knownStep step (List.mem_singleton_self step)) shape arity distinct
  | phaseShift inner angle =>
    have old := known inner (List.mem_singleton_self inner)
    exact .joined rfl (joins_shiftOf old (nonneg inner) angle)
  | controlWrapper inner count name =>
    have old := known inner (List.mem_singleton_self inner)
    exact leads_controlWrapper old count name fun label => ⟨inner, count, label, rfl⟩
  | controlledBy id count =>
    rw [perform]
    rcases controlledBy_cases workshop id count with ⟨fault, failed⟩ | ⟨inner, total, among, made⟩
    · rw [failed]
      exact .refused fault
    · rw [made]
      have old : inner < workshop.parts.size := by
        rcases among with rfl | member
        · exact known inner (List.mem_singleton_self inner)
        · exact member_lt id inner member
      exact leads_controlWrapper old total none fun label => ⟨inner, total, label, rfl⟩
  | adjoint id => exact .adjoint (known id (List.mem_singleton_self id))

end

/-! ## Building keeps a workshop sound -/

theorem Making.MayMake.isCoherent {making : Making ℝ} {made : Part ℝ}
    (mayMake : making.MayMake workshop made) (coherent : making.IsCoherent definitions) :
    made.IsCoherent definitions := by
  cases making with
  | gate _ _ | routine _ _ _ _ =>
    cases mayMake
    exact coherent
  | circuit _ _ | phaseShift _ _ =>
    cases mayMake
    trivial
  | controlWrapper _ _ _ | controlledBy _ _ =>
    obtain ⟨inner, count, name, rfl⟩ := mayMake
    trivial
  | append _ _ _ | adjoint _ => exact mayMake.elim

/-- Each step of building keeps a workshop sound. -/
theorem Making.sound (making : Making ℝ) (sound : workshop.Sound definitions stale)
    (known : ∀ id ∈ making.mentions, id < workshop.parts.size)
    (coherent : making.IsCoherent definitions) :
    (making.perform workshop).2.Sound definitions
      (outdated workshop (making.perform workshop).2 stale) := by
  have leads := making.leads (fun id => (sound.inOrder id).nonneg)
    (fun id => (sound.inOrder id).members) known
  generalize making.perform workshop = result at leads ⊢
  cases leads with
  | refused fault => exact sound.outdated_of_grow (.refl workshop) sound
  | joined mayMake joins =>
    exact sound.outdated_of_grow (grows_extended workshop _) (sound.extended joins.unlinked
      joins.members joins.fits joins.nonneg (mayMake.isCoherent coherent) joins.notDerived)
  | appended old oldStep shape arity distinct =>
    exact sound.appended old oldStep shape arity distinct
  | @adjoint id old =>
    have advances := (takesAdjoints_adjointWithin definitions stale depthLimit workshop sound id
      old).advances
    exact sound.outdated_of_grow advances.grows advances.sound

/-- Whatever has been built is sound. -/
theorem Built.sound (built : Built definitions workshop stale) :
    workshop.Sound definitions stale := by
  induction built with
  | empty => exact sound_empty
  | make making _ known coherent ih => exact making.sound ih known coherent

/-! ## The adjoint takes back -/

theorem follow_of_unfoldedSteps {rule : Conduct ℝ} {named : NamedConduct ℝ}
    {view : PartId → Option (Operation ℝ)} :
    ∀ {steps : List (PartId × List Int)} {listed : Steps ℝ},
      (∀ step ∈ steps, ∀ operation, view step.1 = some operation →
        operation.Follows rule named) →
      PartShape.unfoldedSteps view steps = some listed → listed.Follow rule named
  | [], _, _, stands => by
    cases stands
    trivial
  | (step, places) :: rest, listed, follow, stands => by
    rcases List.forall_mem_cons.1 follow with ⟨first, later⟩
    rw [PartShape.unfoldedSteps, Option.bind_eq_some_iff] at stands
    rcases stands with ⟨operation, found, mapped⟩
    rcases Option.map_eq_some_iff.1 mapped with ⟨further, followed, rfl⟩
    exact ⟨first operation found, follow_of_unfoldedSteps later followed⟩

/-- What a part stands for is coherent if everything inside it supports the adjoint. -/
theorem Sound.keeps (sound : workshop.Sound definitions stale) {depth : Nat}
    {operation : Operation ℝ} (stands : workshop.unfolded depth id = some operation)
    (supports : workshop.Supports id) : operation.Keeps .coherent definitions := by
  induction depth generalizing id operation with
  | zero => cases stands
  | succ depth ih =>
    have coherent := (sound.inOrder id).coherent
    rw [Part.IsCoherent] at coherent
    have inside : ∀ inner, workshop.IsMember id inner → ∀ found,
        workshop.unfolded depth inner = some found → found.Keeps .coherent definitions :=
      fun inner member found followed =>
        ih followed fun other further => supports other (.head member further)
    cases shape : (workshop.part id).shape with
    | gate primitive =>
      rw [shape] at coherent
      rw [unfolded_of_gate shape] at stands
      cases stands
      exact coherent.1
    | circuit steps =>
      rw [unfolded_of_circuit shape] at stands
      rcases Option.map_eq_some_iff.1 stands with ⟨listed, followed, rfl⟩
      refine follow_of_unfoldedSteps (fun step among found stepFollowed => ?_) followed
      exact inside step.1 (isMember_of_step shape among) found stepFollowed
    | phaseShifted inner angle =>
      rw [unfolded_of_phaseShifted shape] at stands
      rcases Option.map_eq_some_iff.1 stands with ⟨found, followed, rfl⟩
      exact ⟨inside inner (isMember_of_members (congrArg PartShape.members shape)) found followed,
        Gate.isUnitary_globalPhase _⟩
    | controlled inner count =>
      rw [unfolded_of_controlled shape] at stands
      rcases Option.map_eq_some_iff.1 stands with ⟨found, followed, rfl⟩
      exact inside inner (isMember_of_members (congrArg PartShape.members shape)) found followed
    | derivedAdjoint inner =>
      rw [unfolded_of_derivedAdjoint shape] at stands
      rcases Option.map_eq_some_iff.1 stands with ⟨found, followed, rfl⟩
      exact inside inner (isMember_of_members (congrArg PartShape.members shape)) found followed
    | routine body inverse =>
      rw [shape] at coherent
      rw [unfolded, Part.unfolded, shape] at stands
      dsimp only at stands
      split at stands
      case isTrue plain =>
        cases stands
        exact (coherent (supports id .refl)).2 plain
      case isFalse => cases stands

theorem Sound.fits (sound : workshop.Sound definitions stale) (id : PartId) :
    (workshop.part id).Fits workshop :=
  (sound.inOrder id).fits

/-- In a sound workshop a part that supports the adjoint throughout and concerns nothing that is out
of date has an adjoint, and what the adjoint stands for inverts what the part stands for. -/
theorem Sound.exists_inverse (sound : workshop.Sound definitions stale)
    (known : id < workshop.parts.size) {operation : Operation ℝ}
    (stands : workshop.unfolded (depthLimit - 1) id = some operation)
    (supports : workshop.Supports id) (upToDate : workshop.IsUpToDate stale id) :
    ∃ inverse after undone, adjoint id workshop = (.ok inverse, after) ∧ workshop.Grows after ∧
      after.Sound definitions stale ∧ after.unfolded depthLimit inverse = some undone ∧
      operation.Inverts definitions undone := by
  have takes := takesAdjoints_adjointWithin definitions stale depthLimit workshop sound id known
  rcases taken : adjointWithin depthLimit id workshop with ⟨outcome, after⟩
  rw [taken] at takes
  rcases takes with ⟨-, hopeless⟩ | ⟨advances, remembers, -⟩
  · exact absurd supports (hopeless operation (unfolded_succ stands))
  have counters := advances.sound.counters id _ remembers (advances.upToDate id known upToDate)
  rcases counters.forth (depthLimit - 1) operation
    ((sound.unfolded_grow advances.grows known _).trans stands) with ⟨undone, undoneStands, inverts⟩
  exact ⟨_, after, undone, taken, advances.grows, advances.sound, undoneStands, inverts⟩

/-- At any moment of building, a part that supports the adjoint throughout and concerns nothing that
is out of date has an adjoint.  Wherever the part can be applied, the adjoint can be applied after
it and takes it back; and a part that is put together from gates can be applied to any distinct
qubits that are not controls already. -/
theorem adjoint_restores (built : Built definitions workshop stale)
    (known : id < workshop.parts.size) {operation : Operation ℝ}
    (stands : workshop.unfolded (depthLimit - 1) id = some operation)
    (supports : workshop.Supports id) (upToDate : workshop.IsUpToDate stale id) :
    ∃ inverse after, adjoint id workshop = (.ok inverse, after) ∧ workshop.Grows after ∧
      ∀ (engine : Engine ℝ) (state : StateVector ℝ) (qubits : List Int),
        engine.definitions = definitions → engine.profile = .unrestricted → engine.tapes = [] →
        engine.memory = .holding state →
        (∀ (last : Engine ℝ) (left : Workshop ℝ),
          apply id qubits (workshop, engine) = (.ok (), left, last) →
          left = workshop ∧ ∃ elapsed, apply inverse qubits (after, last) =
            (.ok (), after, { engine with elapsed := elapsed })) ∧
        (workshop.IsDirect id → (qubits.length : Int) = (workshop.part id).numQubits →
          QubitsFit state.numQubits (qubits ++ engine.controls) →
          ∃ last, apply id qubits (workshop, engine) = (.ok (), workshop, last)) := by
  have sound := built.sound
  have standsFully : workshop.unfolded depthLimit id = some operation := unfolded_succ stands
  rcases sound.exists_inverse known stands supports upToDate with
    ⟨inverse, after, undone, taken, grows, laterSound, undoneStands, inverts⟩
  refine ⟨inverse, after, taken, grows, ?_⟩
  intro engine state qubits definitionsAre unrestricted noTape live
  constructor
  · intro last left completes
    rw [apply_runsAs sound.fits standsFully qubits engine] at completes
    rcases applied : Engine.apply operation qubits engine with ⟨result, reached⟩
    rw [applied] at completes
    cases completes
    rcases inverts.restores (sound.keeps stands supports) definitionsAre unrestricted noTape live
      applied with ⟨elapsed, restored⟩
    refine ⟨rfl, elapsed, ?_⟩
    rw [apply_runsAs laterSound.fits undoneStands qubits reached, restored]
  · intro direct arity qubitsFit
    have nonneg := fun other => (sound.inOrder other).nonneg
    exact direct.completes sound.fits nonneg standsFully unrestricted noTape live arity qubitsFit

/-! ## A circuit that is changed after its adjoint has been taken -/

/-- A circuit without steps and its adjoint, which remember each other. -/
def drafted : Workshop ℝ where
  parts := #[{ (emptyPart 1 "c" : Part ℝ) with adjoint := some 1 },
    { (emptyPart 1 (Operation.adjointName "c") : Part ℝ) with adjoint := some 0 }]

/-- The same after a gate has been appended to the circuit. -/
def redrafted : Workshop ℝ where
  parts := #[{ (emptyPart 1 "c" : Part ℝ) with shape := .circuit [(2, [0])] },
    { (emptyPart 1 (Operation.adjointName "c") : Part ℝ) with adjoint := some 0 },
    gatePart (.fixed .x) "X"]

/-- What the circuit stands for then. -/
def redraftedFlip : Operation ℝ := .circuit 1 "c" (.cons (.gate (.fixed .x) "X") [0] .nil)

theorem built_redrafted : ∃ stale, Built {} redrafted stale := by
  have coherent : (Making.gate (.fixed .x) "X" : Making ℝ).IsCoherent {} :=
    ⟨Gate.isUnitary_fixed .x, fun _ isCustom => by cases isCustom⟩
  have nothing : Built {} {} ∅ := .empty
  have circuit := nothing.make (.circuit 1 "c") (List.forall_mem_nil _) trivial
  have taken := circuit.make (.adjoint 0) (by decide) trivial
  have same : ((Making.adjoint 0).perform
      ((Making.circuit 1 "c").perform ({} : Workshop ℝ)).2).2 = drafted := rfl
  rw [same] at taken
  have gate := taken.make (.gate (.fixed .x) "X") (List.forall_mem_nil _) coherent
  exact ⟨_, gate.make (.append 0 2 [0]) (by decide) trivial⟩

theorem supports_redrafted (id : PartId) : redrafted.Supports id := by
  intro inner _
  match inner with
  | 0 | 1 | 2 | _ + 3 => rfl

theorem eq_of_concerns_redrafted {other : PartId} (concerned : redrafted.Concerns 0 other) :
    other = 0 ∨ other = 2 := by
  induction concerned with
  | refl => exact .inl rfl
  | tail _ tied ih =>
    rcases ih with rfl | rfl
    · rcases tied with member | remembers
      · exact .inr (List.mem_singleton.1 member)
      · cases remembers
    · rcases tied with member | remembers
      · cases member
      · cases remembers

theorem isUpToDate_redrafted (sound : redrafted.Sound definitions stale) :
    redrafted.IsUpToDate stale 0 := by
  intro other concerned isStale
  rcases sound.remembers other isStale with ⟨partner, remembers⟩
  rcases eq_of_concerns_redrafted concerned with rfl | rfl <;> cases remembers

/-- The changed circuit flips its qubit. -/
theorem apply_redrafted :
    let engine : Engine ℝ := Engine.start (.holding (.zero 1)) .unrestricted [] {}
    ∃ elapsed, apply 0 [0] (redrafted, engine) = (.ok (), redrafted, { engine with
      memory := .holding ((StateVector.zero 1).through [] [⟨.fixed .x, [0], []⟩])
      elapsed := elapsed }) := by
  intro engine
  rcases built_redrafted with ⟨stale, built⟩
  have issued : (redraftedFlip.course {} [0] .unrestricted).Issues [⟨.fixed .x, [0], []⟩] () :=
    .issue (.done ())
  have fits : QubitsFit 1 [0] := by decide
  rcases issued.play engine rfl rfl (List.forall_mem_singleton.2 rfl)
    (List.forall_mem_singleton.2 fits) with ⟨elapsed, played⟩
  have applied := (Engine.apply_eq redraftedFlip [0] engine).trans played
  have stands : redrafted.unfolded depthLimit 0 = some redraftedFlip := rfl
  refine ⟨elapsed, ?_⟩
  rw [apply_runsAs built.sound.fits stands [0] engine, applied]
  rfl

/-- The changed circuit gets a new adjoint, which takes it back. -/
theorem adjoint_restores_redrafted :
    let engine : Engine ℝ := Engine.start (.holding (.zero 1)) .unrestricted [] {}
    ∃ (inverse : PartId) (after : Workshop ℝ) (last : Engine ℝ) (elapsed : ℝ),
      adjoint 0 redrafted = (.ok inverse, after) ∧
      apply 0 [0] (redrafted, engine) = (.ok (), redrafted, last) ∧
      apply inverse [0] (after, last) = (.ok (), after, { engine with elapsed := elapsed }) := by
  intro engine
  rcases built_redrafted with ⟨stale, built⟩
  have stands : redrafted.unfolded (depthLimit - 1) 0 = some redraftedFlip := rfl
  have direct : redrafted.IsDirect 0 := by
    intro inner _
    match inner with
    | 0 | 1 | 2 | _ + 3 => rfl
  have fits : QubitsFit 1 [0] := by decide
  rcases adjoint_restores built (by decide) stands (supports_redrafted 0)
    (isUpToDate_redrafted built.sound) with
    ⟨inverse, after, taken, -, restores⟩
  rcases restores engine (.zero 1) [0] rfl rfl rfl rfl with ⟨undoes, applies⟩
  rcases applies direct rfl fits with ⟨last, completes⟩
  rcases undoes last redrafted completes with ⟨-, elapsed, restored⟩
  exact ⟨inverse, after, last, elapsed, taken, completes, restored⟩

/-- The former adjoint of the changed circuit, on which nothing can be seen of the change, does not
take it back, and is not taken back by it either: each still passes for the adjoint of the former
adjoint. -/
theorem not_restored_by_former_adjoint :
    let engine : Engine ℝ := Engine.start (.holding (.zero 1)) .unrestricted [] {}
    ∃ (stale : Set PartId) (last : Engine ℝ) (state : StateVector ℝ),
      Built {} redrafted stale ∧ redrafted.Supports 1 ∧
      adjoint 1 redrafted = (.ok 0, redrafted) ∧
      apply 1 [0] (redrafted, engine) = (.ok (), redrafted, engine) ∧
      apply 0 [0] (redrafted, engine) = (.ok (), redrafted, last) ∧
      last.memory = .holding state ∧ state.amplitude 0 ≠ (StateVector.zero 1).amplitude 0 := by
  intro engine
  rcases built_redrafted with ⟨stale, built⟩
  rcases apply_redrafted with ⟨elapsed, completes⟩
  refine ⟨stale, _, _, built, supports_redrafted 1, ?_, ?_, completes, rfl, ?_⟩
  · exact (adjointWithin_of_remembers rfl rfl : adjointWithin (depthLimit - 1 + 1) 1 redrafted = _)
  · have stands : redrafted.unfolded depthLimit 1 =
        some (.circuit 1 (Operation.adjointName "c") .nil) := rfl
    exact apply_runsAs built.sound.fits stands [0] engine
  · intro same
    have flipped : (Amplitude.sum [0 * 1, 1 * 0] : Amplitude ℝ).toComplex =
        (1 : Amplitude ℝ).toComplex := congrArg Amplitude.toComplex same
    simp at flipped

end Workshop

end QuantumKata

end
