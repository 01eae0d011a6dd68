import QuantumKata.Proofs.Exact
import QuantumKata.Proofs.Slice

/-!
# Attaching controls

An operation can be put under controls in several ways: by a block under controls, by its controlled
variant, by a controlled variant of that, and by controls that are in force already.  The course is
the same in all cases, that of the operation under all of the controls.  So the effect on a register
is the same as well: each slice over the operation's qubits goes through the operation on a register
of its own where all controls read one, and stays as it is elsewhere.

The controlled variant of a control wrapper adds up the control qubits.  This is right for a wrapper
around a number of controls, but a wrapper can be built around a negative number as well; for that
one the new controls are used up to bring the number back to zero, and the variant is not
controlled by them at all.
-/

namespace QuantumKata

/-! ## Controls on courses -/

namespace Course

variable {R α : Type}

/-- Controls around controls are controls one after the other. -/
theorem under_under (course : Course R α) (added more : List Int) :
    (course.under more).under added = course.under (added ++ more) := by
  induction course with
  | done outcome => rfl
  | issue entry rest ih =>
    have entries : (entry.under more).under added = entry.under (added ++ more) := by
      simp [TapeEntry.under]
    simp only [under, ih, entries]
  | pause seconds rest ih => simp only [under, ih]
  | measure qubit rest ih =>
    cases more with
    | nil => simp only [under, List.isEmpty_nil, if_true, List.append_nil, ih]
    | cons control others => cases added <;> simp [under]
  | reset qubit rest ih =>
    cases more with
    | nil => simp only [under, List.isEmpty_nil, if_true, List.append_nil, ih]
    | cons control others => cases added <;> simp [under]
  | refuse what =>
    cases more with
    | nil => simp only [under, List.isEmpty_nil, if_true, List.append_nil]
    | cons control others => cases added <;> simp [under]

@[simp]
theorem under_nil (course : Course R α) : course.under [] = course := by
  induction course with
  | done outcome => rfl
  | issue entry rest ih => simp only [under, ih, TapeEntry.under_nil]
  | pause seconds rest ih => simp only [under, ih]
  | measure qubit rest ih => simp only [under, List.isEmpty_nil, if_true, ih]
  | reset qubit rest ih => simp only [under, List.isEmpty_nil, if_true, ih]
  | refuse what => simp only [under, List.isEmpty_nil, if_true]

end Course

/-! ## Controlled variants -/

namespace Engine

theorem splitAt_length_append (first rest : List Int) :
    splitAt first.length (first ++ rest) = (first, rest) := by
  simp [splitAt]

/-- Further controls in front leave the split of the qubits behind them as it is. -/
theorem splitAt_add {count : Int} (proper : 0 ≤ count) (first rest : List Int) :
    splitAt (count + first.length) (first ++ rest) =
      (first ++ (splitAt count rest).1, (splitAt count rest).2) := by
  have both : 0 ≤ count + first.length := by omega
  have position : (count + (first.length : Int)).toNat = first.length + count.toNat := by omega
  simp only [splitAt, if_pos both, if_pos proper, position, List.take_length_add_append,
    List.drop_length_add_append]

end Engine

namespace Operation

variable {R : Type}

/-- An operation that is no control wrapper around a negative number of controls. -/
def HasProperControls (operation : Operation R) : Prop :=
  match operation.core with
  | .controlled _ count _ => 0 ≤ count
  | _ => True

theorem core_numQubits : ∀ operation : Operation R, operation.core.numQubits = operation.numQubits
  | .linked inner _ => core_numQubits inner
  | .gate _ _ | .circuit _ _ _ | .phaseShifted _ _ | .controlled _ _ _ | .derivedAdjoint _
  | .routine _ _ _ _ _ => rfl

variable [Scalar R]

theorem ofOperation_core (guide : Guide R) :
    ∀ operation : Operation R,
      Course.ofOperation guide operation.core = Course.ofOperation guide operation
  | .linked inner _ => ofOperation_core guide inner
  | .gate _ _ | .circuit _ _ _ | .phaseShifted _ _ | .controlled _ _ _ | .derivedAdjoint _
  | .routine _ _ _ _ _ => rfl

/-- The controlled variant is a control wrapper: one with more controls when the operation is such a
wrapper already, else a new one. -/
theorem controlledBy_cases {operation further : Operation R} {count : Int}
    (built : operation.controlledBy count = .ok further) :
    1 ≤ count ∧
      ((∃ inner already name, operation.core = .controlled inner already name ∧
          further = .controlled inner (already + count)
            (controlledName (already + count) inner.name)) ∨
        operation.HasProperControls ∧
          further = .controlled operation count (controlledName count operation.name)) := by
  rw [controlledBy] at built
  rw [HasProperControls]
  cases core : operation.core with
  | controlled inner already name =>
    simp only [core] at built
    by_cases positive : count < 1
    · simp [positive] at built
    · simp only [positive, if_false, Except.ok.injEq] at built
      exact ⟨by omega, .inl ⟨inner, already, name, rfl, built.symm⟩⟩
  | _ =>
    simp only [core] at built
    split at built
    · by_cases positive : count < 1
      · simp [positive] at built
      · simp only [positive, if_false, Except.ok.injEq] at built
        exact ⟨by omega, .inr ⟨trivial, built.symm⟩⟩
    · cases built

theorem controlledBy_numQubits {operation further : Operation R} {count : Int}
    (built : operation.controlledBy count = .ok further) :
    further.numQubits = operation.numQubits + count := by
  rcases (controlledBy_cases built).2 with ⟨inner, already, name, core, rfl⟩ | ⟨-, rfl⟩
  · rw [← core_numQubits operation, core]
    simp only [numQubits]
    omega
  · rfl

theorem controlledBy_hasProperControls {operation further : Operation R} {count : Int}
    (built : operation.controlledBy count = .ok further) (proper : operation.HasProperControls) :
    further.HasProperControls := by
  rcases controlledBy_cases built with
    ⟨positive, ⟨inner, already, name, core, rfl⟩ | ⟨-, rfl⟩⟩
  · rw [HasProperControls] at proper ⊢
    rw [core] at proper
    simp only [Operation.core] at proper ⊢
    omega
  · rw [HasProperControls]
    simp only [Operation.core]
    omega

/-- The body of the controlled variant is the body of the operation under the first qubits. -/
theorem ofOperation_controlledBy (guide : Guide R) {operation further : Operation R} {count : Int}
    (built : operation.controlledBy count = .ok further) (proper : operation.HasProperControls)
    {controls : List Int} (enough : (controls.length : Int) = count) (qubits : List Int)
    (profile : TargetProfile) :
    Course.ofOperation guide further (controls ++ qubits) profile =
      (Course.ofOperation guide operation qubits profile).under controls := by
  subst enough
  rcases (controlledBy_cases built).2 with ⟨inner, already, name, core, rfl⟩ | ⟨-, rfl⟩
  · rw [HasProperControls] at proper
    rw [core] at proper
    simp only at proper
    rw [← ofOperation_core guide operation, core]
    simp only [Course.ofOperation, Engine.splitAt_add proper, Course.under_under]
  · simp only [Course.ofOperation, Engine.splitAt_length_append]

theorem course_controlledBy (definitions : Definitions R) {operation further : Operation R}
    {count : Int} (built : operation.controlledBy count = .ok further)
    (proper : operation.HasProperControls) {controls qubits : List Int}
    (enough : (controls.length : Int) = count)
    (arity : (qubits.length : Int) = operation.numQubits) (profile : TargetProfile) :
    further.course definitions (controls ++ qubits) profile =
      (operation.course definitions qubits profile).under controls := by
  have inner : Engine.checkArity operation qubits = .ok () := by
    simp [Engine.checkArity, arity]
  have outer : Engine.checkArity further (controls ++ qubits) = .ok () := by
    have together : ((controls ++ qubits).length : Int) = further.numQubits := by
      rw [controlledBy_numQubits built, List.length_append]
      omega
    rw [Engine.checkArity]
    rw [if_neg (not_not_intro together)]
  unfold course
  rw [inner, outer]
  exact ofOperation_controlledBy _ built proper enough qubits profile

/-- An operation with a number of control qubits attached to it, in one or in several steps. -/
inductive Attached (operation : Operation R) : Int → Operation R → Prop where
  | itself : Attached operation 0 operation
  | controlled {count more : Int} {wrapped further : Operation R}
      (earlier : Attached operation count wrapped)
      (built : wrapped.controlledBy more = .ok further) :
      Attached operation (more + count) further

namespace Attached

variable {operation wrapped : Operation R} {count : Int}

theorem nonneg (attached : operation.Attached count wrapped) : 0 ≤ count := by
  induction attached with
  | itself => exact Int.le_refl 0
  | controlled earlier built ih =>
    have positive := (controlledBy_cases built).1
    omega

theorem numQubits_eq (attached : operation.Attached count wrapped) :
    wrapped.numQubits = operation.numQubits + count := by
  induction attached with
  | itself => exact (Int.add_zero _).symm
  | controlled earlier built ih =>
    rw [controlledBy_numQubits built, ih]
    omega

theorem hasProperControls (attached : operation.Attached count wrapped)
    (proper : operation.HasProperControls) : wrapped.HasProperControls := by
  induction attached with
  | itself => exact proper
  | controlled earlier built ih => exact controlledBy_hasProperControls built ih

/-- However the controls were attached, the course is that of the operation under them. -/
theorem course_eq (attached : operation.Attached count wrapped)
    (proper : 0 < count → operation.HasProperControls) (definitions : Definitions R)
    {controls : List Int} (enough : (controls.length : Int) = count) {qubits : List Int}
    (arity : (qubits.length : Int) = operation.numQubits) (profile : TargetProfile) :
    wrapped.course definitions (controls ++ qubits) profile =
      (operation.course definitions qubits profile).under controls := by
  induction attached generalizing controls with
  | itself =>
    have none : controls = [] := List.length_eq_zero_iff.1 (Int.ofNat_eq_zero.1 enough)
    subst none
    simp
  | @controlled count more wrapped further earlier built ih =>
    have positive := (controlledBy_cases built).1
    have before := earlier.nonneg
    have isProper : operation.HasProperControls := proper (by omega)
    -- The controls that were attached last come first.
    have split : controls = controls.take more.toNat ++ controls.drop more.toNat :=
      (List.take_append_drop _ _).symm
    have latest : ((controls.take more.toNat).length : Int) = more := by
      rw [List.length_take]
      omega
    have earliest : ((controls.drop more.toNat).length : Int) = count := by
      rw [List.length_drop]
      omega
    have inner : ((controls.drop more.toNat ++ qubits).length : Int) = wrapped.numQubits := by
      rw [earlier.numQubits_eq, List.length_append]
      omega
    calc
      further.course definitions (controls ++ qubits) profile =
          further.course definitions
            (controls.take more.toNat ++ (controls.drop more.toNat ++ qubits)) profile := by
        rw [← List.append_assoc, ← split]
      _ = (wrapped.course definitions (controls.drop more.toNat ++ qubits) profile).under
            (controls.take more.toNat) :=
        course_controlledBy definitions built (earlier.hasProperControls isProper) latest inner
          profile
      _ = ((operation.course definitions qubits profile).under (controls.drop more.toNat)).under
            (controls.take more.toNat) := by
        rw [ih (fun _ => isProper) earliest]
      _ = (operation.course definitions qubits profile).under controls := by
        rw [Course.under_under, ← split]

end Attached

end Operation

/-! ## The effect on slices -/

namespace Conduct

/-- The conduct of bodies that name the qubits they are given by their places and that neither
measure nor reset. -/
def byPlaces (R : Type) : Conduct R :=
  ⟨fun _ => True, fun reference => ∃ place, reference = .given place, False⟩

end Conduct

namespace Engine

variable {R : Type} [Scalar R]

/-- Applying an operation inside a block under controls is playing its course under them. -/
theorem controlledBy_apply (block : List Int) (operation : Operation R) (qubits : List Int)
    (engine : Engine R) :
    controlledBy block (apply operation qubits) engine =
      ((operation.course engine.definitions qubits engine.profile).under block).play engine := by
  rw [Course.play_under]
  simp only [controlledBy, Action.during, apply_eq]
  rfl

/-- The gates that an operation issues on qubits are those of a register of its own, each on the
qubits at its places. -/
theorem exists_own_gates {operation : Operation R} {definitions : Definitions R}
    (keeps : operation.Keeps (.byPlaces R) definitions) {qubits : List Int}
    {profile : TargetProfile} {entries : List (TapeEntry R)}
    (issued : (operation.course definitions qubits profile).Issues entries ()) :
    ∃ own, (operation.course definitions (ownQubits qubits.length) profile).Issues own () ∧
      entries = own.map (TapeEntry.relabel (placedQubit qubits)) ∧
      ∀ entry ∈ own, ∀ qubit ∈ entry.qubits, 0 ≤ qubit ∧ qubit < qubits.length := by
  have places : ∀ reference, (Conduct.byPlaces R).reference reference →
      ∃ place, reference = .given place := fun _ given => given
  have moved := Operation.course_map (Conduct.admits_of_places (placedQubit qubits) places) keeps
    (ownQubits qubits.length) profile
  rw [map_placedQubit] at moved
  rw [moved] at issued
  rcases Course.issues_relabel issued with ⟨own, value, alone, placed, -⟩
  refine ⟨own, alone, placed, ?_⟩
  intro entry member qubit among
  have given := ((Operation.course_within places keeps (ownQubits qubits.length) profile).issued
    alone).1 entry member qubit among
  exact mem_ownQubits.1 given

/-- What an operation with controls attached does to the memory, by the gates that it issues on a
register of its own. -/
theorem exists_own_gates_of_apply {operation wrapped : Operation R} {count : Int}
    (attached : operation.Attached count wrapped)
    (proper : 0 < count → operation.HasProperControls)
    {engine after : Engine R} {state : StateVector R} {block inner qubits : List Int}
    (keeps : operation.Keeps (.byPlaces R) engine.definitions)
    (arity : (qubits.length : Int) = operation.numQubits)
    (enough : (inner.length : Int) = count)
    (noTape : engine.tapes = []) (live : engine.memory = .holding state)
    (completes : controlledBy block (apply wrapped (inner ++ qubits)) engine = (.ok (), after)) :
    ∃ own, (operation.course engine.definitions (ownQubits qubits.length) engine.profile).Issues
        own () ∧
      (∀ entry ∈ own, entry.IsComplete) ∧ (∀ entry ∈ own, entry.Fits qubits.length []) ∧
      after.memory = .holding (state.through engine.controls
        ((own.map (TapeEntry.relabel (placedQubit qubits))).map
          (TapeEntry.under (block ++ inner)))) := by
  have issuing : controlledBy block (apply wrapped (inner ++ qubits)) engine =
      ((operation.course engine.definitions qubits engine.profile).under (block ++ inner)).play
        engine := by
    rw [controlledBy_apply, attached.course_eq proper _ enough arity, Course.under_under]
  rw [issuing] at completes
  have follows := Operation.course_follows (fun _ _ _ _ => trivial) keeps qubits engine.profile
  have met : ((operation.course engine.definitions qubits engine.profile).under
      (block ++ inner)).Meets TapeEntry.IsComplete False fun _ => True :=
    (Course.under_follows (block ++ inner) follows).mono fun entry kept => kept.2
  rcases Course.issues_of_play met engine noTape live completes with ⟨entries, issued, complete, fit⟩
  rcases issued.play engine noTape live complete fit with ⟨elapsed, played⟩
  rw [completes] at played
  rcases Course.issues_under issued with ⟨onQubits, issuedOnQubits, rfl⟩
  rcases exists_own_gates keeps issuedOnQubits with ⟨own, issuedAlone, rfl, within⟩
  refine ⟨own, issuedAlone, ?_, ?_, congrArg (fun result => result.2.memory) played⟩
  · intro entry member
    have whole := complete ((entry.relabel (placedQubit qubits)).under (block ++ inner))
      (List.mem_map_of_mem (List.mem_map_of_mem member))
    simpa [TapeEntry.IsComplete, TapeEntry.relabel, TapeEntry.under] using whole
  · intro entry member
    have whole := fit ((entry.relabel (placedQubit qubits)).under (block ++ inner))
      (List.mem_map_of_mem (List.mem_map_of_mem member))
    exact (TapeEntry.fits_under.1 whole).of_relabel (within entry member)

/-- On a register of its own an operation applies the gates that it issues there. -/
theorem exists_apply_own {operation : Operation R} {engine : Engine R} {state : StateVector R}
    {own : List (TapeEntry R)} (noTape : engine.tapes = [])
    (live : engine.memory = .holding state) (noControls : engine.controls = [])
    (issued : (operation.course engine.definitions (ownQubits state.numQubits)
      engine.profile).Issues own ())
    (complete : ∀ entry ∈ own, entry.IsComplete)
    (fit : ∀ entry ∈ own, entry.Fits state.numQubits []) :
    ∃ alone : Engine R, apply operation (ownQubits state.numQubits) engine = (.ok (), alone) ∧
      alone.memory = .holding (state.through [] own) := by
  rw [← noControls] at fit
  rcases issued.play engine noTape live complete fit with ⟨elapsed, played⟩
  refine ⟨_, (apply_eq operation _ engine).trans played, ?_⟩
  rw [noControls]

/-- An operation that keeps to the qubits it is given acts on each slice over them by itself,
however the controls were attached: the ones in force, those of a block and those of the controlled
variants.  Where all of them read one the slice becomes what the operation makes of it on a register
of its own; elsewhere it stays as it is. -/
theorem slices_of_apply {operation wrapped : Operation R} {count : Int}
    (attached : operation.Attached count wrapped)
    (proper : 0 < count → operation.HasProperControls)
    {engine after : Engine R} {state : StateVector R} {block inner qubits : List Int}
    (keeps : operation.Keeps (.byPlaces R) engine.definitions)
    (arity : (qubits.length : Int) = operation.numQubits)
    (enough : (inner.length : Int) = count)
    (noTape : engine.tapes = []) (live : engine.memory = .holding state)
    (fits : QubitsFit state.numQubits ((engine.controls ++ block ++ inner) ++ qubits))
    (completes : controlledBy block (apply wrapped (inner ++ qubits)) engine = (.ok (), after)) :
    ∃ last : StateVector R,
      after.memory = .holding last ∧ last.numQubits = state.numQubits ∧
      ∀ index < Basis.count state.numQubits,
        (Basis.allOne ((engine.controls ++ block ++ inner).map Int.toNat) index = true →
          ∃ alone : Engine R,
            apply operation (ownQubits qubits.length)
                { engine with
                  memory := .holding (state.slice (qubits.map Int.toNat) index), controls := [] } =
              (.ok (), alone) ∧
            alone.memory = .holding (last.slice (qubits.map Int.toNat) index)) ∧
        (Basis.allOne ((engine.controls ++ block ++ inner).map Int.toNat) index = false →
          last.slice (qubits.map Int.toNat) index = state.slice (qubits.map Int.toNat) index) := by
  rcases exists_own_gates_of_apply attached proper keeps arity enough noTape live completes with
    ⟨own, issuedAlone, complete, inside, held⟩
  refine ⟨_, held, StateVector.through_numQubits _ _ _, ?_⟩
  intro index inRegister
  have sliced := StateVector.slice_through fits inRegister own inside
  rw [StateVector.through_under, ← List.append_assoc]
  constructor
  · intro allOne
    rw [sliced, if_pos allOne]
    have size : (state.slice (qubits.map Int.toNat) index).numQubits = qubits.length := by
      rw [StateVector.slice_numQubits, List.length_map]
    rw [← size] at issuedAlone inside ⊢
    exact exists_apply_own noTape rfl rfl issuedAlone complete inside
  · intro notAllOne
    rw [sliced, notAllOne]
    rfl

/-- The operation that flips a qubit. -/
def flip (R : Type) : Operation R := .gate (.fixed .x) "X"

/-- The flip of a qubit under one control of a block and one of its controlled variant. -/
theorem slices_of_controlled_flip :
    ∃ (after : Engine ℝ) (last : StateVector ℝ) (alone : Engine ℝ),
      let engine := start (.holding (.basis 3 6)) .unrestricted [] {}
      controlledBy [2]
          (apply (.controlled (flip ℝ) 1 (Operation.controlledName 1 "X")) [1, 0]) engine =
        (.ok (), after) ∧
      after.memory = .holding last ∧
      apply (flip ℝ) [0]
          { engine with memory := .holding ((StateVector.basis 3 6).slice [0] 6) } =
        (.ok (), alone) ∧
      alone.memory = .holding (last.slice [0] 6) := by
  let engine : Engine ℝ := start (.holding (.basis 3 6)) .unrestricted [] {}
  have attached : (flip ℝ).Attached (1 + 0) _ := .controlled .itself rfl
  have issued : ((Operation.controlled (flip ℝ) 1 (Operation.controlledName 1 "X")).course {} [1, 0]
      .unrestricted).Issues [⟨.fixed .x, [0], [1]⟩] () := .issue (.done ())
  have fits : QubitsFit 3 [0, 2, 1] := by decide
  rcases (issued.under [2]).play engine rfl rfl (List.forall_mem_singleton.2 rfl)
    (List.forall_mem_singleton.2 fits) with ⟨elapsed, played⟩
  have completes : controlledBy [2] (apply (.controlled (flip ℝ) 1 (Operation.controlledName 1 "X"))
      ([1] ++ [0])) engine = _ := (controlledBy_apply [2] _ [1, 0] engine).trans played
  have allFit : QubitsFit 3 (([] ++ [2] ++ [1]) ++ [0]) := by decide
  rcases slices_of_apply attached (fun _ => trivial) trivial rfl rfl rfl rfl allFit completes with
    ⟨last, held, -, slices⟩
  rcases (slices 6 (by decide)).1 rfl with ⟨alone, applied, same⟩
  exact ⟨_, last, alone, completes, held, applied, same⟩

/-- A body that flips the qubit at its first place, wrapped into a negative number of controls. -/
def overdrawn (R : Type) : Operation R :=
  .controlled (.routine 2 "body" .all (.cons (.primitive (.fixed .x) [.given 0]) .nil) .derived)
    (-1) "overdrawn"

/-- The controlled variant of a wrapper around a negative number of controls is not controlled: it
changes a slice for which the control reads zero. -/
theorem slice_of_overdrawn :
    ∃ (wrapped : Operation ℝ) (after : Engine ℝ) (last : StateVector ℝ),
      (overdrawn ℝ).Keeps (.byPlaces ℝ) {} ∧ (overdrawn ℝ).numQubits = 1 ∧
      (overdrawn ℝ).controlledBy 1 = .ok wrapped ∧
      apply wrapped [1, 0] (start (.holding (.zero 2)) .unrestricted [] {}) = (.ok (), after) ∧
      after.memory = .holding last ∧
      Basis.allOne [1] 0 = false ∧ last.slice [0] 0 ≠ (StateVector.zero 2).slice [0] 0 := by
  let wrapped : Operation ℝ :=
    .controlled (.routine 2 "body" .all (.cons (.primitive (.fixed .x) [.given 0]) .nil) .derived)
      0 (Operation.controlledName 0 "body")
  have issued : (wrapped.course {} [1, 0] .unrestricted).Issues [⟨.fixed .x, [1], []⟩] () :=
    .issue (.done ())
  have fits : QubitsFit 2 [1] := by decide
  let engine : Engine ℝ := start (.holding (.zero 2)) .unrestricted [] {}
  rcases issued.play engine rfl rfl (List.forall_mem_singleton.2 rfl)
    (List.forall_mem_singleton.2 fits) with ⟨elapsed, played⟩
  refine ⟨wrapped, _, _, ?_, rfl, rfl, (apply_eq wrapped [1, 0] engine).trans played, rfl, rfl, ?_⟩
  · refine ⟨⟨trivial, ?_⟩, trivial⟩
    intro target among
    exact ⟨0, List.mem_singleton.1 among⟩
  · intro same
    have first := congrArg (fun slice => (StateVector.amplitude slice 0).toComplex) same
    have flipped : (Amplitude.sum [0 * 1, 1 * 0] : Amplitude ℝ).toComplex =
        (1 : Amplitude ℝ).toComplex := first
    simp at flipped

end Engine

end QuantumKata
