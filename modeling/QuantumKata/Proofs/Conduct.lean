import QuantumKata.Proofs.Layout

/-!
# Conduct

A statement about operations is made for bodies of a certain conduct: bodies that name their qubits
in certain ways, issue gates of certain kinds, and may or may not measure.  The conduct of an
operation is a property of its tree.  The parts of a tree that do not run when it is applied, such
as a hand-written inverse, are not looked at.

An operation that is called on by name is looked up when the instruction runs, so its conduct is
that of whatever is built then.  Since calls by name are limited in depth, this is a recursion.

What a conduct asks of a tree holds of the course of the tree: the gates that are issued and
recorded are of the kinds allowed, and nothing is measured unless the conduct allows it.
-/

namespace QuantumKata

/-- What the bodies of an operation may do. -/
structure Conduct (R : Type) where
  gate : Gate R → Prop
  reference : QubitRef → Prop
  measuring : Prop

/-- What is asked of a variant, with a number of control qubits, of an operation that is described
and built when an instruction runs. -/
abbrev NamedConduct (R : Type) : Type := Variant → Blueprint R → Nat → Prop

mutual

/-- Whether an operation keeps to a conduct when it is applied. -/
def Operation.Follows {R : Type} [Scalar R] (rule : Conduct R) (named : NamedConduct R) :
    Operation R → Prop
  | .gate primitive _ => rule.gate primitive
  | .circuit _ _ steps => steps.Follow rule named
  | .phaseShifted inner angle => inner.Follows rule named ∧ rule.gate (.globalPhase angle.value)
  | .controlled inner _ _ => inner.Follows rule named
  | .derivedAdjoint inner => inner.Follows rule named
  | .routine _ _ _ body _ => body.Follows rule named
  | .linked core _ => core.Follows rule named

/-- Whether the steps of a circuit keep to a conduct. -/
def Steps.Follow {R : Type} [Scalar R] (rule : Conduct R) (named : NamedConduct R) :
    Steps R → Prop
  | .nil => True
  | .cons operation _ rest => operation.Follows rule named ∧ rest.Follow rule named

/-- Whether an instruction keeps to a conduct. -/
def Instruction.Follows {R : Type} [Scalar R] (rule : Conduct R) (named : NamedConduct R) :
    Instruction R → Prop
  | .primitive primitive targets =>
    rule.gate primitive ∧ ∀ target ∈ targets, rule.reference target
  | .unitary tensor name targets =>
    (∀ primitive, Gate.ofTensor tensor name Scalar.defaultTolerance = .ok primitive →
      rule.gate primitive) ∧ ∀ target ∈ targets, rule.reference target
  | .apply operation qubits =>
    operation.Follows rule named ∧ ∀ qubit ∈ qubits, rule.reference qubit
  | .applyNamed variant described controls qubits =>
    named variant described controls.length ∧ ∀ qubit ∈ controls ++ qubits, rule.reference qubit
  | .refused qubits _ => ∀ qubit ∈ qubits, rule.reference qubit
  | .measure qubit => rule.measuring ∧ rule.reference qubit
  | .reset qubit => rule.measuring ∧ rule.reference qubit
  | .controlledBy controls block =>
    (∀ control ∈ controls, rule.reference control) ∧ block.Follows rule named
  | .restrictedTo _ block => block.Follows rule named
  | .record block => block.Follows rule named
  | .recordAndUndo block => block.Follows rule named
  | .ifMeasured qubit block => rule.measuring ∧ rule.reference qubit ∧ block.Follows rule named
  | .sleep _ => True

/-- Whether the instructions of a program keep to a conduct. -/
def Program.Follows {R : Type} [Scalar R] (rule : Conduct R) (named : NamedConduct R) :
    Program R → Prop
  | .nil => True
  | .cons instruction rest => instruction.Follows rule named ∧ rest.Follows rule named

end

namespace Conduct

variable {R : Type} [Scalar R]

/-- The conduct of what names stand for, down to a depth of calls. -/
def namedWithin (rule : Conduct R) (definitions : Definitions R) : (depth : Nat) → NamedConduct R
  | 0 => fun _ _ _ => True
  | depth + 1 => fun variant described count =>
    ∀ built chosen, described.build definitions = .ok built →
      built.variant variant count = .ok chosen →
      chosen.Follows rule (namedWithin rule definitions depth)

/-- A conduct whose gates stay allowed when they are undone. -/
def Reversible (rule : Conduct R) : Prop :=
  ∀ gate inverse, rule.gate gate → Gate.adjoint gate = .ok inverse → rule.gate inverse

end Conduct

/-- Whether an operation keeps to a conduct when it is applied at an engine with the given
definitions. -/
def Operation.Keeps {R : Type} [Scalar R] (rule : Conduct R) (definitions : Definitions R)
    (operation : Operation R) : Prop :=
  operation.Follows rule (rule.namedWithin definitions Engine.depthLimit)

/-! ## What a course meets -/

namespace Course

variable {R α β : Type}

/-- Whether all gates of a course, its result, and whether it measures, are as wanted. -/
def Meets (entry : TapeEntry R → Prop) (measuring : Prop) (result : α → Prop) :
    Course R α → Prop
  | done (.ok value) => result value
  | done (.error _) => True
  | issue issued rest => entry issued ∧ rest.Meets entry measuring result
  | pause _ rest => rest.Meets entry measuring result
  | measure _ rest => measuring ∧ ∀ bit, (rest bit).Meets entry measuring result
  | reset _ rest => measuring ∧ rest.Meets entry measuring result
  | refuse _ => measuring

variable {entry : TapeEntry R → Prop} {measuring : Prop} {result : α → Prop} {last : β → Prop}

theorem meets_done (outcome : Except Fault α) :
    (done outcome : Course R α).Meets entry measuring fun value => outcome = .ok value := by
  cases outcome with
  | ok value => rfl
  | error fault => trivial

theorem Meets.mono {course : Course R α} {weaker : TapeEntry R → Prop}
    (met : course.Meets entry measuring result)
    (implies : ∀ issued, entry issued → weaker issued) :
    course.Meets weaker measuring result := by
  induction course with
  | done outcome =>
    cases outcome with
    | ok value => exact met
    | error fault => trivial
  | issue issued rest ih => exact ⟨implies issued met.1, ih met.2⟩
  | pause seconds rest ih => exact ih met
  | measure qubit rest ih => exact ⟨met.1, fun bit => ih bit (met.2 bit)⟩
  | reset qubit rest ih => exact ⟨met.1, ih met.2⟩
  | refuse what => exact met

theorem Meets.and {course : Course R α} {other : TapeEntry R → Prop} {alsoMeasuring : Prop}
    {otherResult : α → Prop} (met : course.Meets entry measuring result)
    (alsoMet : course.Meets other alsoMeasuring otherResult) :
    course.Meets (fun issued => entry issued ∧ other issued) (measuring ∧ alsoMeasuring)
      fun value => result value ∧ otherResult value := by
  induction course with
  | done outcome =>
    cases outcome with
    | ok value => exact ⟨met, alsoMet⟩
    | error fault => trivial
  | issue issued rest ih => exact ⟨⟨met.1, alsoMet.1⟩, ih met.2 alsoMet.2⟩
  | pause seconds rest ih => exact ih met alsoMet
  | measure qubit rest ih =>
    exact ⟨⟨met.1, alsoMet.1⟩, fun bit => ih bit (met.2 bit) (alsoMet.2 bit)⟩
  | reset qubit rest ih => exact ⟨⟨met.1, alsoMet.1⟩, ih met.2 alsoMet.2⟩
  | refuse what => exact ⟨met, alsoMet⟩

theorem Meets.bind {course : Course R α} {next : α → Course R β}
    (first : course.Meets entry measuring result)
    (second : ∀ value, result value → (next value).Meets entry measuring last) :
    (course >>= next).Meets entry measuring last := by
  induction course with
  | done outcome =>
    cases outcome with
    | ok value => exact second value first
    | error fault => trivial
  | issue issued rest ih => exact ⟨first.1, ih first.2⟩
  | pause seconds rest ih => exact ih first
  | measure qubit rest ih => exact ⟨first.1, fun bit => ih bit (first.2 bit)⟩
  | reset qubit rest ih => exact ⟨first.1, ih first.2⟩
  | refuse what => exact first

theorem Meets.under {course : Course R α} {added : List Int}
    (stable : ∀ issued, entry issued → entry (issued.under added))
    (met : course.Meets entry measuring result) :
    (course.under added).Meets entry measuring result := by
  induction course with
  | done outcome => exact met
  | issue issued rest ih => exact ⟨stable issued met.1, ih met.2⟩
  | pause seconds rest ih => exact ih met
  | measure qubit rest ih =>
    rw [Course.under]
    split
    · exact ⟨met.1, fun bit => ih bit (met.2 bit)⟩
    · trivial
  | reset qubit rest ih =>
    rw [Course.under]
    split
    · exact ⟨met.1, ih met.2⟩
    · trivial
  | refuse what =>
    rw [Course.under]
    split
    · exact met
    · trivial

/-- Under a control nothing is measured. -/
theorem Meets.under_some {course : Course R α} {added : List Int} (some : added ≠ [])
    (stable : ∀ issued, entry issued → entry (issued.under added))
    (met : course.Meets entry measuring result) :
    (course.under added).Meets entry False result := by
  have notEmpty : ¬added.isEmpty = true := mt List.isEmpty_iff.1 some
  induction course with
  | done outcome => cases outcome <;> exact met
  | issue issued rest ih => exact ⟨stable issued met.1, ih met.2⟩
  | pause seconds rest ih => exact ih met
  | measure qubit rest ih =>
    rw [Course.under]
    rw [if_neg notEmpty]
    trivial
  | reset qubit rest ih =>
    rw [Course.under]
    rw [if_neg notEmpty]
    trivial
  | refuse what =>
    rw [Course.under]
    rw [if_neg notEmpty]
    trivial

theorem Meets.recordedAfter {course : Course R α} {collected : List (TapeEntry R)}
    (before : ∀ issued ∈ collected, entry issued)
    (met : course.Meets entry measuring result) :
    (course.recordedAfter collected).Meets entry measuring
      fun entries => ∀ issued ∈ entries, entry issued := by
  induction course generalizing collected with
  | done outcome =>
    cases outcome with
    | ok value => exact before
    | error fault => trivial
  | issue issued rest ih =>
    refine ih ?_ met.2
    intro other member
    rcases List.mem_append.1 member with earlier | latest
    · exact before other earlier
    · rw [List.mem_singleton.1 latest]
      exact met.1
  | pause seconds rest ih => exact ih before met
  | measure qubit rest ih => exact met.1
  | reset qubit rest ih => exact met.1
  | refuse what => exact met

theorem Meets.recorded {course : Course R α} (met : course.Meets entry measuring result) :
    course.recorded.Meets entry measuring fun entries => ∀ issued ∈ entries, entry issued :=
  met.recordedAfter (by simp)

end Course

/-! ## The conduct of an operation is the conduct of its course -/

/-- A gate that a conduct allows, on as many targets as it has. -/
def TapeEntry.Follows {R : Type} (rule : Conduct R) (entry : TapeEntry R) : Prop :=
  rule.gate entry.gate ∧ entry.targets.length = entry.gate.numQubits

/-- What a guide lays out for a name keeps to a conduct where the conduct of names asks for it. -/
def Guide.Follows {R : Type} [Scalar R] (rule : Conduct R) (named : NamedConduct R)
    (guide : Guide R) : Prop :=
  ∀ variant described count built chosen, named variant described count →
    guide.build described = .ok built → built.variant variant count = .ok chosen →
    ∀ qubits profile, (guide.course chosen qubits profile).Meets (TapeEntry.Follows rule)
      rule.measuring fun _ => True

namespace Course

variable {R α : Type}

/-- A course whose gates are allowed and that measures only if that is allowed. -/
abbrev Follows (rule : Conduct R) (course : Course R α) : Prop :=
  course.Meets (TapeEntry.Follows rule) rule.measuring fun _ => True

variable {rule : Conduct R}

theorem ofMeasure_follows {profile : TargetProfile} {qubit : Int} (allowed : rule.measuring) :
    (ofMeasure profile qubit : Course R Bool).Follows rule := by
  rw [ofMeasure]
  split
  · exact ⟨allowed, fun _ => trivial⟩
  · trivial

theorem ofReset_follows {profile : TargetProfile} {qubit : Int} (allowed : rule.measuring) :
    (ofReset profile qubit : Course R Unit).Follows rule := by
  rw [ofReset]
  split
  · exact ⟨allowed, trivial⟩
  · trivial

theorem under_follows {course : Course R α} (added : List Int) (met : course.Follows rule) :
    (course.under added).Follows rule :=
  met.under fun _ follows => follows

variable [Scalar R]

theorem ofGate_follows {profile : TargetProfile} {gate : Gate R} {targets : List Int}
    (allowed : rule.gate gate) : (ofGate profile gate targets).Follows rule := by
  rw [ofGate]
  by_cases fits : targets.length = gate.numQubits
  · rw [if_neg (not_not_intro fits)]
    split
    · exact ⟨⟨allowed, fits⟩, trivial⟩
    · trivial
  · rw [if_pos fits]
    trivial

theorem ofUndoEntry_follows (reversible : rule.Reversible) {profile : TargetProfile}
    {entry : TapeEntry R} (follows : entry.Follows rule) :
    (ofUndoEntry profile entry).Follows rule := by
  refine under_follows _ ((meets_done _).bind fun inverse found => ?_)
  exact ofGate_follows (reversible _ _ follows.1 found)

theorem ofUndoEntries_follows (reversible : rule.Reversible) {profile : TargetProfile}
    (entries : List (TapeEntry R)) (follow : ∀ entry ∈ entries, entry.Follows rule) :
    (ofUndoEntries profile entries).Follows rule := by
  induction entries with
  | nil => trivial
  | cons entry rest ih =>
    refine (ofUndoEntry_follows reversible (follow entry List.mem_cons_self)).bind
      fun _ _ => ih fun later member => ?_
    exact follow later (List.mem_cons_of_mem entry member)

theorem ofUndoTape_follows (reversible : rule.Reversible) {profile : TargetProfile}
    {entries : List (TapeEntry R)} (follow : ∀ entry ∈ entries, entry.Follows rule) :
    (ofUndoTape profile entries).Follows rule :=
  ofUndoEntries_follows reversible _ fun entry member =>
    follow entry (List.mem_reverse.1 member)

variable {named : NamedConduct R} {guide : Guide R}

mutual

/-- The course of an operation keeps to the conduct that the operation keeps to. -/
theorem ofOperation_follows (reversible : rule.Reversible) (guided : guide.Follows rule named) :
    ∀ (operation : Operation R), operation.Follows rule named →
      ∀ (qubits : List Int) (profile : TargetProfile),
        (ofOperation guide operation qubits profile).Follows rule
  | .gate _ _, allowed, _, _ => ofGate_follows allowed
  | .circuit _ _ steps, allowed, qubits, profile =>
    ofSteps_follow reversible guided steps allowed qubits profile
  | .phaseShifted inner _, allowed, qubits, profile =>
    (ofOperation_follows reversible guided inner allowed.1 qubits profile).bind
      fun _ _ => ofGate_follows allowed.2
  | .controlled inner _ _, allowed, _, profile =>
    under_follows _ (ofOperation_follows reversible guided inner allowed _ profile)
  | .derivedAdjoint inner, allowed, qubits, profile =>
    (ofOperation_follows reversible guided inner allowed qubits profile).recorded.bind
      fun _ follow => ofUndoTape_follows reversible follow
  | .routine _ _ _ body _, allowed, qubits, profile =>
    (ofProgram_follows reversible guided body allowed (.given qubits) profile).bind
      fun _ _ => trivial
  | .linked core _, allowed, qubits, profile =>
    ofOperation_follows reversible guided core allowed qubits profile

theorem ofSteps_follow (reversible : rule.Reversible) (guided : guide.Follows rule named) :
    ∀ (steps : Steps R), steps.Follow rule named →
      ∀ (qubits : List Int) (profile : TargetProfile),
        (ofSteps guide steps qubits profile).Follows rule
  | .nil, _, _, _ => trivial
  | .cons operation _ rest, allowed, qubits, profile =>
    (meets_done _).bind fun chosen _ => (meets_done _).bind fun _ _ =>
      (ofOperation_follows reversible guided operation allowed.1 chosen profile).bind
        fun _ _ => ofSteps_follow reversible guided rest allowed.2 qubits profile

theorem ofInstruction_follows (reversible : rule.Reversible)
    (guided : guide.Follows rule named) :
    ∀ (instruction : Instruction R), instruction.Follows rule named →
      ∀ (frame : Frame) (profile : TargetProfile),
        (ofInstruction guide instruction frame profile).Follows rule
  | .primitive _ _, allowed, _, _ =>
    (meets_done _).bind fun _ _ => (ofGate_follows allowed.1).bind fun _ _ => trivial
  | .unitary _ _ _, allowed, _, _ =>
    (meets_done _).bind fun _ _ => (meets_done _).bind fun primitive found =>
      (ofGate_follows (allowed.1 primitive found)).bind fun _ _ => trivial
  | .apply operation _, allowed, _, profile =>
    (meets_done _).bind fun qubits _ => (meets_done _).bind fun _ _ =>
      (ofOperation_follows reversible guided operation allowed.1 qubits profile).bind
        fun _ _ => trivial
  | .applyNamed variant described controls _, allowed, _, profile =>
    (meets_done _).bind fun built found => (meets_done _).bind fun qubits _ =>
      (meets_done _).bind fun chosen taken => (meets_done _).bind fun _ _ =>
        Meets.bind (guided variant described controls.length built chosen allowed.1 found taken
          qubits profile) fun _ _ => trivial
  | .refused _ _, _, _, _ => (meets_done _).bind fun _ _ => trivial
  | .measure _, allowed, _, _ =>
    (meets_done _).bind fun _ _ => (ofMeasure_follows allowed.1).bind fun _ _ => trivial
  | .reset _, allowed, _, _ =>
    (meets_done _).bind fun _ _ => (ofReset_follows allowed.1).bind fun _ _ => trivial
  | .controlledBy _ block, allowed, frame, profile =>
    (meets_done _).bind fun controls _ =>
      under_follows controls (ofProgram_follows reversible guided block allowed.2 frame profile)
  | .restrictedTo inner block, allowed, frame, _ =>
    ofProgram_follows reversible guided block allowed frame inner
  | .record block, allowed, frame, profile =>
    (ofProgram_follows reversible guided block allowed frame profile).recorded.bind
      fun _ _ => trivial
  | .recordAndUndo block, allowed, frame, profile =>
    (ofProgram_follows reversible guided block allowed frame profile).recorded.bind
      fun _ follow => (ofUndoTape_follows reversible follow).bind fun _ _ => trivial
  | .ifMeasured _ block, allowed, frame, profile =>
    (meets_done _).bind fun _ _ => (ofMeasure_follows allowed.1).bind fun bit _ => by
      cases bit with
      | false => trivial
      | true =>
        exact (ofProgram_follows reversible guided block allowed.2.2 frame profile).bind
          fun _ _ => trivial
  | .sleep _, _, _, _ => trivial

theorem ofProgram_follows (reversible : rule.Reversible) (guided : guide.Follows rule named) :
    ∀ (program : Program R), program.Follows rule named →
      ∀ (frame : Frame) (profile : TargetProfile),
        (ofProgram guide program frame profile).Follows rule
  | .nil, _, _, _ => trivial
  | .cons instruction .nil, allowed, frame, profile =>
    ofInstruction_follows reversible guided instruction allowed.1 frame profile
  | .cons instruction (.cons next rest), allowed, frame, profile =>
    (ofInstruction_follows reversible guided instruction allowed.1 frame profile).bind
      fun _ _ => ofProgram_follows reversible guided (.cons next rest) allowed.2 frame profile

end

end Course

namespace Guide

variable {R : Type} [Scalar R] {rule : Conduct R}

/-- The guide of definitions lays out courses of the conduct that names have. -/
theorem within_follows (reversible : rule.Reversible) (definitions : Definitions R)
    (depth : Nat) :
    (within definitions depth).Follows rule (rule.namedWithin definitions depth) := by
  induction depth with
  | zero =>
    intro variant described count built chosen _ _ _ qubits profile
    trivial
  | succ depth ih =>
    intro variant described count built chosen allowed found taken qubits profile
    exact Course.ofOperation_follows reversible ih chosen
      (allowed built chosen found taken) qubits profile

end Guide

/-! ## The conduct without rules -/

namespace Conduct

/-- The conduct that allows everything. -/
def free (R : Type) : Conduct R := ⟨fun _ => True, fun _ => True, True⟩

end Conduct

section

variable {R : Type} [Scalar R] {named : NamedConduct R}

mutual

/-- Every operation keeps to the conduct without rules. -/
theorem Operation.follows_free (anything : ∀ variant described count, named variant described count) :
    ∀ operation : Operation R, operation.Follows (.free R) named
  | .gate _ _ => trivial
  | .circuit _ _ steps => Steps.follow_free anything steps
  | .phaseShifted inner _ => ⟨Operation.follows_free anything inner, trivial⟩
  | .controlled inner _ _ => Operation.follows_free anything inner
  | .derivedAdjoint inner => Operation.follows_free anything inner
  | .routine _ _ _ body _ => Program.follows_free anything body
  | .linked core _ => Operation.follows_free anything core

theorem Steps.follow_free (anything : ∀ variant described count, named variant described count) :
    ∀ steps : Steps R, steps.Follow (.free R) named
  | .nil => trivial
  | .cons operation _ rest =>
    ⟨Operation.follows_free anything operation, Steps.follow_free anything rest⟩

theorem Instruction.follows_free
    (anything : ∀ variant described count, named variant described count) :
    ∀ instruction : Instruction R, instruction.Follows (.free R) named
  | .primitive _ _ => ⟨trivial, fun _ _ => trivial⟩
  | .unitary _ _ _ => ⟨fun _ _ => trivial, fun _ _ => trivial⟩
  | .apply operation _ => ⟨Operation.follows_free anything operation, fun _ _ => trivial⟩
  | .applyNamed _ _ _ _ => ⟨anything _ _ _, fun _ _ => trivial⟩
  | .refused _ _ => fun _ _ => trivial
  | .measure _ => ⟨trivial, trivial⟩
  | .reset _ => ⟨trivial, trivial⟩
  | .controlledBy _ block => ⟨fun _ _ => trivial, Program.follows_free anything block⟩
  | .restrictedTo _ block => Program.follows_free anything block
  | .record block => Program.follows_free anything block
  | .recordAndUndo block => Program.follows_free anything block
  | .ifMeasured _ block => ⟨trivial, trivial, Program.follows_free anything block⟩
  | .sleep _ => trivial

theorem Program.follows_free (anything : ∀ variant described count, named variant described count) :
    ∀ program : Program R, program.Follows (.free R) named
  | .nil => trivial
  | .cons instruction rest =>
    ⟨Instruction.follows_free anything instruction, Program.follows_free anything rest⟩

end

/-- What names stand for keeps to the conduct without rules, however deep the calls go. -/
theorem Conduct.namedWithin_free (definitions : Definitions R) (depth : Nat) :
    ∀ variant described count, (Conduct.free R).namedWithin definitions depth variant described
      count := by
  induction depth with
  | zero =>
    intro variant described count
    trivial
  | succ depth ih =>
    intro variant described count built chosen _ _
    exact Operation.follows_free ih chosen

end

namespace Operation

variable {R : Type} [Scalar R] {rule : Conduct R}

/-- Applying an operation keeps to the conduct that the operation keeps to. -/
theorem course_follows (reversible : rule.Reversible) {definitions : Definitions R}
    {operation : Operation R} (keeps : operation.Keeps rule definitions) (qubits : List Int)
    (profile : TargetProfile) :
    (operation.course definitions qubits profile).Follows rule :=
  (Course.meets_done _).bind fun _ _ =>
    Course.ofOperation_follows reversible (Guide.within_follows reversible definitions _)
      operation keeps qubits profile

/-- Every gate that an operation issues has as many targets as it acts on. -/
theorem course_complete (definitions : Definitions R) (operation : Operation R)
    (qubits : List Int) (profile : TargetProfile) :
    (operation.course definitions qubits profile).Meets
      (fun entry => entry.targets.length = entry.gate.numQubits) True fun _ => True := by
  have keeps : operation.Keeps (.free R) definitions :=
    follows_free (Conduct.namedWithin_free definitions _) operation
  exact (course_follows (fun _ _ _ _ => trivial) keeps qubits profile).mono
    fun entry follows => follows.2

end Operation

end QuantumKata
