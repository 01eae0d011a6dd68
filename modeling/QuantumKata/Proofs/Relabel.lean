import QuantumKata.Proofs.Conduct

/-!
# Relabelling qubits

A body that names its qubits by their places in the list it was given does the same on another list,
with the qubits of that list in the places of the first.  So the course on a relabelled list is the
relabelled course, for every way of relabelling that the references of the body go along with: a
body that uses places only goes along with all of them, one that counts on from a given qubit goes
along with moving all qubits by the same distance.

Since a body that uses places only goes along with every relabelling, also with one that moves just
the qubits it was not given, its gates act on given qubits only.
-/

namespace QuantumKata

namespace TapeEntry

variable {R : Type}

/-- The entry on other qubits. -/
def relabel (label : Int → Int) (entry : TapeEntry R) : TapeEntry R :=
  ⟨entry.gate, entry.targets.map label, entry.controls.map label⟩

@[simp]
theorem relabel_gate (label : Int → Int) (entry : TapeEntry R) :
    (entry.relabel label).gate = entry.gate := rfl

theorem relabel_under (label : Int → Int) (added : List Int) (entry : TapeEntry R) :
    (entry.under added).relabel label = (entry.relabel label).under (added.map label) := by
  simp [relabel, under]

/-- The qubits of an entry. -/
def qubits (entry : TapeEntry R) : List Int := entry.targets ++ entry.controls

theorem qubits_relabel (label : Int → Int) (entry : TapeEntry R) :
    (entry.relabel label).qubits = entry.qubits.map label := by
  simp [qubits, relabel]

/-- A relabelling that leaves an entry as it is leaves its qubits as they are. -/
theorem label_eq_of_relabel_eq {label : Int → Int} {entry : TapeEntry R}
    (same : entry.relabel label = entry) {qubit : Int} (member : qubit ∈ entry.qubits) :
    label qubit = qubit := by
  have mapped : entry.qubits.map label = entry.qubits.map id := by
    rw [← qubits_relabel, same, List.map_id]
  exact List.map_inj_left.1 mapped qubit member

end TapeEntry

/-- What an instruction answers on other qubits. -/
def Reading.relabel {R : Type} (label : Int → Int) : Reading R → Reading R
  | .nothing => .nothing
  | .bit value => .bit value
  | .tape entries => .tape (entries.map (TapeEntry.relabel label))

namespace Course

variable {R α β γ δ : Type}

/-- The course on other qubits, with another result. -/
def relabel (label : Int → Int) (result : α → β) : Course R α → Course R β
  | done outcome => done (outcome.map result)
  | issue entry rest => issue (entry.relabel label) (rest.relabel label result)
  | pause seconds rest => pause seconds (rest.relabel label result)
  | measure qubit rest => measure (label qubit) fun bit => (rest bit).relabel label result
  | reset qubit rest => reset (label qubit) (rest.relabel label result)
  | refuse what => refuse what

variable {label : Int → Int}

theorem bind_relabel {course : Course R α} {next : α → Course R β} {next' : γ → Course R δ}
    {result : α → γ} {last : β → δ}
    (follows : ∀ value, next' (result value) = (next value).relabel label last) :
    course.relabel label result >>= next' = (course >>= next).relabel label last := by
  induction course with
  | done outcome =>
    cases outcome with
    | ok value => exact follows value
    | error fault => rfl
  | issue entry rest ih => exact congrArg (issue _) ih
  | pause seconds rest ih => exact congrArg (pause _) ih
  | measure qubit rest ih => exact congrArg (measure _) (funext ih)
  | reset qubit rest ih => exact congrArg (reset _) ih
  | refuse what => rfl

/-- Going on from a relabelled outcome. -/
theorem done_map_bind {outcome : Except Fault α} {next : α → Course R β}
    {next' : γ → Course R δ} {result : α → γ} {last : β → δ}
    (follows : ∀ value, next' (result value) = (next value).relabel label last) :
    (done (outcome.map result) >>= next') =
      ((done outcome : Course R α) >>= next).relabel label last := by
  have along : (done outcome : Course R α).relabel label result >>= next' = _ :=
    bind_relabel follows
  exact along

/-- A course that relabelling leaves as it is has gates that it leaves as they are. -/
theorem meets_of_relabel_eq {course : Course R α} {result : α → α}
    (same : course.relabel label result = course) :
    course.Meets (fun entry => entry.relabel label = entry) True fun _ => True := by
  induction course with
  | done outcome => cases outcome <;> trivial
  | issue entry rest ih =>
    simp only [relabel, issue.injEq] at same
    exact ⟨same.1, ih same.2⟩
  | pause seconds rest ih =>
    simp only [relabel, pause.injEq, true_and] at same
    exact ih same
  | measure qubit rest ih =>
    simp only [relabel, measure.injEq] at same
    exact ⟨trivial, fun bit => ih bit (congrFun same.2 bit)⟩
  | reset qubit rest ih =>
    simp only [relabel, reset.injEq] at same
    exact ⟨trivial, ih same.2⟩
  | refuse what => trivial

theorem relabel_under (course : Course R α) (added : List Int) (result : α → β) :
    (course.under added).relabel label result =
      (course.relabel label result).under (added.map label) := by
  induction course with
  | done outcome => rfl
  | issue entry rest ih => simp only [under, relabel, ih, TapeEntry.relabel_under]
  | pause seconds rest ih => simp only [under, relabel, ih]
  | measure qubit rest ih =>
    simp only [under, relabel, List.isEmpty_map]
    split
    · simp only [relabel, ih]
    · rfl
  | reset qubit rest ih =>
    simp only [under, relabel, List.isEmpty_map]
    split
    · simp only [relabel, ih]
    · rfl
  | refuse what =>
    simp only [under, relabel, List.isEmpty_map]
    split <;> rfl

theorem recordedAfter_relabel (course : Course R α) (collected : List (TapeEntry R))
    (result : α → β) :
    (course.relabel label result).recordedAfter (collected.map (TapeEntry.relabel label)) =
      (course.recordedAfter collected).relabel label (List.map (TapeEntry.relabel label)) := by
  induction course generalizing collected with
  | done outcome => cases outcome <;> rfl
  | issue entry rest ih =>
    simp only [relabel, recordedAfter, ← ih, List.map_append, List.map_cons, List.map_nil]
  | pause seconds rest ih => simp only [relabel, recordedAfter, ih]
  | measure qubit rest ih => rfl
  | reset qubit rest ih => rfl
  | refuse what => rfl

theorem recorded_relabel (course : Course R α) (result : α → β) :
    (course.relabel label result).recorded =
      course.recorded.relabel label (List.map (TapeEntry.relabel label)) :=
  recordedAfter_relabel course [] result

end Course

/-! ## References that go along with a relabelling -/

namespace Frame

/-- The frame with other qubits. -/
def relabel (label : Int → Int) : Frame → Frame
  | register => register
  | given qubits => given (qubits.map label)

theorem at?_given_map (label : Int → Int) (qubits : List Int) (place : Int) :
    (given (qubits.map label)).at? place = ((given qubits).at? place).map label := by
  unfold at?
  simp only [List.length_map]
  cases found : Snapshot.place? place qubits.length with
  | none => rfl
  | some position =>
    have inside : position < qubits.length := by
      rw [Snapshot.place?] at found
      split at found
      · split at found
        · cases found
          omega
        · cases found
      · split at found
        · cases found
          omega
        · cases found
    simp only [Except.map, List.getD_eq_getElem?_getD, List.getElem?_map,
      List.getElem?_eq_getElem inside, Option.map_some, Option.getD_some]

theorem resolveAll_map {label : Int → Int} {before after : Frame} {references : List QubitRef}
    (along : ∀ reference ∈ references,
      after.resolve reference = (before.resolve reference).map label) :
    after.resolveAll references = (before.resolveAll references).map (List.map label) := by
  induction references with
  | nil => rfl
  | cons reference rest ih =>
    have later := ih fun other member => along other (List.mem_cons_of_mem reference member)
    unfold resolveAll at later ⊢
    rw [List.mapM_cons, List.mapM_cons, later, along reference List.mem_cons_self]
    cases before.resolve reference with
    | error fault => rfl
    | ok qubit =>
      cases rest.mapM before.resolve <;> rfl

end Frame

/-- The places of a circuit's step on other qubits. -/
theorem Engine.pick_map (label : Int → Int) (qubits places : List Int) :
    Engine.pick (qubits.map label) places = (Engine.pick qubits places).map (List.map label) := by
  induction places with
  | nil => rfl
  | cons place rest ih =>
    unfold Engine.pick at ih ⊢
    rw [List.mapM_cons, List.mapM_cons, ih, Frame.at?_given_map]
    cases (Frame.given qubits).at? place with
    | error fault => rfl
    | ok qubit =>
      cases rest.mapM (Frame.given qubits).at? <;> rfl

theorem Engine.splitAt_map (label : Int → Int) (count : Int) (qubits : List Int) :
    Engine.splitAt count (qubits.map label) =
      ((Engine.splitAt count qubits).1.map label, (Engine.splitAt count qubits).2.map label) := by
  simp only [Engine.splitAt, List.length_map, List.map_take, List.map_drop]

theorem Engine.checkArity_map {R : Type} [Scalar R] (label : Int → Int) (operation : Operation R)
    (qubits : List Int) :
    Engine.checkArity operation (qubits.map label) = Engine.checkArity operation qubits := by
  simp only [Engine.checkArity, List.length_map]

namespace Conduct

variable {R : Type}

/-- A relabelling that the references of a conduct go along with. -/
def Admits (rule : Conduct R) (label : Int → Int) : Prop :=
  ∀ reference, rule.reference reference → ∀ qubits,
    (Frame.given (qubits.map label)).resolve reference =
      ((Frame.given qubits).resolve reference).map label

theorem Admits.resolveAll {rule : Conduct R} {label : Int → Int} (admits : rule.Admits label)
    {references : List QubitRef} (allowed : ∀ reference ∈ references, rule.reference reference)
    (qubits : List Int) :
    (Frame.given (qubits.map label)).resolveAll references =
      ((Frame.given qubits).resolveAll references).map (List.map label) := by
  apply Frame.resolveAll_map
  intro reference member
  exact admits reference (allowed reference member) qubits

/-- References to places go along with every relabelling. -/
theorem admits_of_places {rule : Conduct R} (label : Int → Int)
    (places : ∀ reference, rule.reference reference → ∃ place, reference = .given place) :
    rule.Admits label := by
  intro reference allowed qubits
  rcases places reference allowed with ⟨place, rfl⟩
  exact Frame.at?_given_map label qubits place

/-- References that count on from a given qubit go along with moving all qubits by the same
distance. -/
theorem admits_of_offsets {rule : Conduct R} (distance : Int)
    (relative : ∀ reference, rule.reference reference → ∀ qubit, reference ≠ .absolute qubit) :
    rule.Admits (· + distance) := by
  intro reference allowed qubits
  cases reference with
  | given place => exact Frame.at?_given_map _ qubits place
  | absolute qubit => exact absurd rfl (relative _ allowed qubit)
  | offset place step =>
    have moved := Frame.at?_given_map (· + distance) qubits place
    simp only [Frame.resolve, moved]
    cases (Frame.given qubits).at? place with
    | error fault => rfl
    | ok qubit =>
      simp only [Except.map, Int.add_right_comm]

end Conduct

/-! ## The course on other qubits -/

/-- What a guide lays out for a name goes along with a relabelling. -/
def Guide.Admits {R : Type} [Scalar R] (named : NamedConduct R) (label : Int → Int)
    (guide : Guide R) : Prop :=
  ∀ variant described count built chosen, named variant described count →
    guide.build described = .ok built → built.variant variant count = .ok chosen →
    ∀ qubits profile,
      guide.course chosen (qubits.map label) profile =
        (guide.course chosen qubits profile).relabel label id

namespace Course

variable {R : Type} {label : Int → Int}

theorem ofMeasure_label (label : Int → Int) (profile : TargetProfile) (qubit : Int) :
    (ofMeasure profile (label qubit) : Course R Bool) =
      (ofMeasure profile qubit).relabel label id := by
  unfold ofMeasure
  split <;> rfl

theorem ofReset_label (label : Int → Int) (profile : TargetProfile) (qubit : Int) :
    (ofReset profile (label qubit) : Course R Unit) =
      (ofReset profile qubit).relabel label id := by
  unfold ofReset
  split <;> rfl

variable [Scalar R]

theorem ofGate_map (label : Int → Int) (profile : TargetProfile) (gate : Gate R)
    (targets : List Int) :
    ofGate profile gate (targets.map label) = (ofGate profile gate targets).relabel label id := by
  unfold ofGate
  rw [List.length_map]
  split
  · rfl
  · split <;> rfl

theorem ofUndoEntry_relabel (label : Int → Int) (profile : TargetProfile)
    (entry : TapeEntry R) :
    ofUndoEntry profile (entry.relabel label) = (ofUndoEntry profile entry).relabel label id := by
  unfold ofUndoEntry
  rw [relabel_under]
  simp only [TapeEntry.relabel]
  cases entry.gate.adjoint with
  | error fault => rfl
  | ok inverse =>
    simp only [done_ok_bind, ofGate_map]

theorem ofUndoEntries_relabel (label : Int → Int) (profile : TargetProfile)
    (entries : List (TapeEntry R)) :
    ofUndoEntries profile (entries.map (TapeEntry.relabel label)) =
      (ofUndoEntries profile entries).relabel label id := by
  induction entries with
  | nil => rfl
  | cons entry rest ih =>
    simp only [List.map_cons, ofUndoEntries, ofUndoEntry_relabel]
    exact bind_relabel fun _ => ih

theorem ofUndoTape_relabel (label : Int → Int) (profile : TargetProfile)
    (entries : List (TapeEntry R)) :
    ofUndoTape profile (entries.map (TapeEntry.relabel label)) =
      (ofUndoTape profile entries).relabel label id := by
  rw [ofUndoTape]
  rw [← List.map_reverse]
  exact ofUndoEntries_relabel label profile entries.reverse

variable {rule : Conduct R} {named : NamedConduct R} {guide : Guide R}

mutual

/-- The course of an operation on relabelled qubits is the relabelled course. -/
theorem ofOperation_map (admits : rule.Admits label) (guided : guide.Admits named label) :
    ∀ (operation : Operation R), operation.Follows rule named →
      ∀ (qubits : List Int) (profile : TargetProfile),
        ofOperation guide operation (qubits.map label) profile =
          (ofOperation guide operation qubits profile).relabel label id
  | .gate primitive _, _, qubits, profile => ofGate_map label profile primitive qubits
  | .circuit _ _ steps, allowed, qubits, profile =>
    ofSteps_map admits guided steps allowed qubits profile
  | .phaseShifted inner angle, allowed, qubits, profile => by
    simp only [ofOperation, ofOperation_map admits guided inner allowed.1 qubits profile]
    exact bind_relabel fun _ => ofGate_map label profile (.globalPhase angle.value) []
  | .controlled inner count _, allowed, qubits, profile => by
    simp only [ofOperation, Engine.splitAt_map, relabel_under,
      ofOperation_map admits guided inner allowed _ profile]
  | .derivedAdjoint inner, allowed, qubits, profile => by
    simp only [ofOperation, ofOperation_map admits guided inner allowed qubits profile,
      recorded_relabel]
    exact bind_relabel fun entries => ofUndoTape_relabel label profile entries
  | .routine _ _ _ body _, allowed, qubits, profile => by
    simp only [ofOperation, ofProgram_map admits guided body allowed qubits profile]
    exact bind_relabel fun _ => rfl
  | .linked core _, allowed, qubits, profile =>
    ofOperation_map admits guided core allowed qubits profile

theorem ofSteps_map (admits : rule.Admits label) (guided : guide.Admits named label) :
    ∀ (steps : Steps R), steps.Follow rule named →
      ∀ (qubits : List Int) (profile : TargetProfile),
        ofSteps guide steps (qubits.map label) profile =
          (ofSteps guide steps qubits profile).relabel label id
  | .nil, _, _, _ => rfl
  | .cons operation places rest, allowed, qubits, profile => by
    simp only [ofSteps, Engine.pick_map]
    refine done_map_bind fun chosen => ?_
    rw [Engine.checkArity_map]
    cases Engine.checkArity operation chosen with
    | error fault => rfl
    | ok fits =>
      simp only [done_ok_bind, ofOperation_map admits guided operation allowed.1 chosen profile]
      exact bind_relabel fun _ => ofSteps_map admits guided rest allowed.2 qubits profile

theorem ofInstruction_map (admits : rule.Admits label) (guided : guide.Admits named label) :
    ∀ (instruction : Instruction R), instruction.Follows rule named →
      ∀ (qubits : List Int) (profile : TargetProfile),
        ofInstruction guide instruction (.given (qubits.map label)) profile =
          (ofInstruction guide instruction (.given qubits) profile).relabel label
            (Reading.relabel label)
  | .primitive primitive targets, allowed, qubits, profile => by
    simp only [ofInstruction, admits.resolveAll allowed.2 qubits]
    refine done_map_bind fun chosen => ?_
    rw [ofGate_map]
    exact bind_relabel fun _ => rfl
  | .unitary tensor name targets, allowed, qubits, profile => by
    simp only [ofInstruction, admits.resolveAll allowed.2 qubits]
    refine done_map_bind fun chosen => ?_
    cases Gate.ofTensor tensor name Scalar.defaultTolerance with
    | error fault => rfl
    | ok primitive =>
      simp only [done_ok_bind, ofGate_map]
      exact bind_relabel fun _ => rfl
  | .apply operation references, allowed, qubits, profile => by
    simp only [ofInstruction, admits.resolveAll allowed.2 qubits]
    refine done_map_bind fun chosen => ?_
    rw [Engine.checkArity_map]
    cases Engine.checkArity operation chosen with
    | error fault => rfl
    | ok fits =>
      simp only [done_ok_bind, ofOperation_map admits guided operation allowed.1 chosen profile]
      exact bind_relabel fun _ => rfl
  | .applyNamed variant described controls references, allowed, qubits, profile => by
    simp only [ofInstruction, admits.resolveAll allowed.2 qubits]
    cases found : guide.build described with
    | error fault => rfl
    | ok built =>
      simp only [done_ok_bind]
      refine done_map_bind fun chosen => ?_
      cases taken : built.variant variant controls.length with
      | error fault => rfl
      | ok operation =>
        simp only [done_ok_bind, Engine.checkArity_map]
        cases Engine.checkArity operation chosen with
        | error fault => rfl
        | ok fits =>
          simp only [done_ok_bind,
            guided variant described controls.length built operation allowed.1 found taken]
          exact bind_relabel fun _ => rfl
  | .refused references fault, allowed, qubits, _ => by
    simp only [ofInstruction, admits.resolveAll allowed qubits]
    exact done_map_bind fun _ => rfl
  | .measure reference, allowed, qubits, profile => by
    simp only [ofInstruction, admits reference allowed.2 qubits]
    refine done_map_bind fun qubit => ?_
    rw [ofMeasure_label]
    exact bind_relabel fun _ => rfl
  | .reset reference, allowed, qubits, profile => by
    simp only [ofInstruction, admits reference allowed.2 qubits]
    refine done_map_bind fun qubit => ?_
    rw [ofReset_label]
    exact bind_relabel fun _ => rfl
  | .controlledBy references block, allowed, qubits, profile => by
    simp only [ofInstruction, admits.resolveAll allowed.1 qubits]
    refine done_map_bind fun chosen => ?_
    rw [relabel_under, ofProgram_map admits guided block allowed.2 qubits profile]
  | .restrictedTo inner block, allowed, qubits, _ =>
    ofProgram_map admits guided block allowed qubits inner
  | .record block, allowed, qubits, profile => by
    simp only [ofInstruction, ofProgram_map admits guided block allowed qubits profile,
      recorded_relabel]
    exact bind_relabel fun _ => rfl
  | .recordAndUndo block, allowed, qubits, profile => by
    simp only [ofInstruction, ofProgram_map admits guided block allowed qubits profile,
      recorded_relabel]
    refine bind_relabel fun entries => ?_
    rw [ofUndoTape_relabel]
    exact bind_relabel fun _ => rfl
  | .ifMeasured reference block, allowed, qubits, profile => by
    simp only [ofInstruction, admits reference allowed.2.1 qubits]
    refine done_map_bind fun qubit => ?_
    rw [ofMeasure_label]
    refine bind_relabel fun bit => ?_
    cases bit with
    | false => rfl
    | true =>
      simp only [id_eq, if_true, ofProgram_map admits guided block allowed.2.2 qubits profile]
      exact bind_relabel fun _ => rfl
  | .sleep _, _, _, _ => rfl

theorem ofProgram_map (admits : rule.Admits label) (guided : guide.Admits named label) :
    ∀ (program : Program R), program.Follows rule named →
      ∀ (qubits : List Int) (profile : TargetProfile),
        ofProgram guide program (.given (qubits.map label)) profile =
          (ofProgram guide program (.given qubits) profile).relabel label (Reading.relabel label)
  | .nil, _, _, _ => rfl
  | .cons instruction .nil, allowed, qubits, profile =>
    ofInstruction_map admits guided instruction allowed.1 qubits profile
  | .cons instruction (.cons next rest), allowed, qubits, profile => by
    simp only [ofProgram, ofInstruction_map admits guided instruction allowed.1 qubits profile]
    exact bind_relabel fun _ =>
      ofProgram_map admits guided (.cons next rest) allowed.2 qubits profile

end

end Course

/-- The guide of definitions goes along with every relabelling that the conduct admits. -/
theorem Guide.within_admits {R : Type} [Scalar R] {rule : Conduct R} {label : Int → Int}
    (admits : rule.Admits label) (definitions : Definitions R) (depth : Nat) :
    (within definitions depth).Admits (rule.namedWithin definitions depth) label := by
  induction depth with
  | zero =>
    intro variant described count built chosen _ _ _ qubits profile
    rfl
  | succ depth ih =>
    intro variant described count built chosen allowed found taken qubits profile
    exact Course.ofOperation_map admits ih chosen (allowed built chosen found taken) qubits
      profile

namespace Operation

variable {R : Type} [Scalar R] {rule : Conduct R} {label : Int → Int}

/-- Applying an operation to relabelled qubits asks for the same on the relabelled qubits. -/
theorem course_map (admits : rule.Admits label) {definitions : Definitions R}
    {operation : Operation R} (keeps : operation.Keeps rule definitions) (qubits : List Int)
    (profile : TargetProfile) :
    operation.course definitions (qubits.map label) profile =
      (operation.course definitions qubits profile).relabel label id := by
  unfold course
  rw [Engine.checkArity_map]
  cases Engine.checkArity operation qubits with
  | error fault => rfl
  | ok fits =>
    exact Course.ofOperation_map admits (Guide.within_admits admits definitions _) operation
      keeps qubits profile

/-- A body that uses places only acts on the qubits that it is given. -/
theorem course_within
    (places : ∀ reference, rule.reference reference → ∃ place, reference = .given place)
    {definitions : Definitions R} {operation : Operation R}
    (keeps : operation.Keeps rule definitions) (qubits : List Int) (profile : TargetProfile) :
    (operation.course definitions qubits profile).Meets
      (fun entry => ∀ qubit ∈ entry.qubits, qubit ∈ qubits) True fun _ => True := by
  -- Moving just the qubits that were not given changes nothing, so no gate is on one of them.
  let elsewhere : Int → Int := fun qubit => if qubit ∈ qubits then qubit else qubit + 1
  have still : qubits.map elsewhere = qubits := by
    calc
      qubits.map elsewhere = qubits.map id := by
        apply List.map_congr_left
        intro qubit member
        simp [elsewhere, member]
      _ = qubits := List.map_id qubits
  have same := course_map (Conduct.admits_of_places elsewhere places) keeps qubits profile
  rw [still] at same
  refine (Course.meets_of_relabel_eq same.symm).mono ?_
  intro entry fixed qubit member
  have moved := TapeEntry.label_eq_of_relabel_eq fixed member
  by_cases inside : qubit ∈ qubits
  · exact inside
  · simp only [elsewhere, inside, if_false] at moved
    omega

end Operation

end QuantumKata
