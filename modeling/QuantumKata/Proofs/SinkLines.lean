import QuantumKata.Exercise.Builtin
import QuantumKata.Proofs.LineBreaks
import QuantumKata.Proofs.Wording

/-!
# The lines that a learner reads

An entry point writes one of two words on a line of its own when it has come to a decision, and
neither of them when it has not.  Around these words it writes texts that come from outside: the
hint of the exercise, the names of the candidate and of what takes part in the check, and the texts
of the faults that the bodies raise.  Each of them stands behind words of the reporter's own, so
that its first line is no line of what is written; but nothing is done about line feeds in it, and a
line behind one of them is a line like any other.

So the two words say what has happened exactly if none of these texts has one of them on a line
behind a line feed, and in any case if they have no line feeds.  The numbers and labels in a
diagnosis have none.
-/

namespace QuantumKata

open Text

theorem GradeResult.passed_iff {R : Type} (result : GradeResult R) :
    result.passed = true ↔ result.status = .correct := beq_iff_eq

/-! ## Comparisons -/

theorem Amplitude.oneLine_shown (number : Amplitude Float) : OneLine number.shown :=
  oneLine_append.2 ⟨oneLine_append.2 ⟨Decimal.oneLine_fixedSigned (by decide) 4 number.re,
    Decimal.oneLine_fixedSigned (by decide) 4 number.im⟩, by decide⟩

theorem StateComparison.exists_of_mem_lines {comparison : StateComparison Float} {line : String}
    (member : line ∈ comparison.lines) :
    ∃ rest, OneLine rest ∧ (line = "State fidelity: " ++ rest ∨ line = "  " ++ rest) := by
  rcases List.mem_cons.1 member with rfl | shown
  · exact ⟨_, Decimal.oneLine_fixedSigned (by decide) 4 comparison.fidelity, .inl rfl⟩
  · rcases List.mem_map.1 shown with ⟨⟨label, expected, actual⟩, listed, rfl⟩
    rcases List.mem_filterMap.1 listed with ⟨⟨⟨_, _⟩, index⟩, -, kept⟩
    dsimp only at kept
    split at kept
    · cases kept
      refine ⟨Snapshot.plainLabel comparison.expected.numQubits index ++
        (": expected " ++ expected.shown ++ ", actual " ++ actual.shown), ?_, .inr ?_⟩
      · refine oneLine_append.2 ⟨Snapshot.oneLine_plainLabel _ _, oneLine_append.2
          ⟨oneLine_append.2 ⟨oneLine_append.2 ⟨by decide, expected.oneLine_shown⟩, by decide⟩,
            actual.oneLine_shown⟩⟩
      · simp only [String.append_assoc]
    · cases kept

namespace Reporter

/-- The two words by which an entry point says that it has come to a decision. -/
inductive IsWord : String → Prop where
  | correct : IsWord "Correct."
  | incorrect : IsWord "Incorrect."

/-- The word of an outcome. -/
def ownWord : VerdictStatus → Option String
  | .correct => some "Correct."
  | .incorrect => some "Incorrect."
  | .executionError | .aborted => none

/-- A text from outside has a line of its own. -/
def Forges (exercise : Exercise Float) (result : GradeResult Float) (line : String) : Prop :=
  match result.status with
  | .correct => False
  | .incorrect => Follows exercise.hint line ∨
      ∃ diagnosis ∈ result.diagnosis, ∃ note ∈ diagnosis.notes, HasLine note line
  | .executionError | .aborted => Follows result.verdict.message line

/-- Each word is a line of what is written exactly if it says what has happened. -/
structure IsHonest (written : String) (result : GradeResult Float) : Prop where
  correct : HasLine written "Correct." ↔ result.passed = true
  incorrect : HasLine written "Incorrect." ↔ result.status = .incorrect

/-- What is written for texts that stand on lines of their own. -/
def written (texts : List String) : String := String.join (texts.map (· ++ "\n"))

variable {exercise : Exercise Float} {result : GradeResult Float} {diagnosis : Diagnosis Float}
  {word : String}

theorem IsWord.filled (isWord : IsWord word) : word ≠ "" := by
  cases isWord <;> decide

theorem not_hasLine_comparison (isWord : IsWord word) (comparison : StateComparison Float) :
    ¬ HasLine ("\n".intercalate comparison.lines) word := by
  have single : ∀ line ∈ comparison.lines, OneLine line := by
    intro line member
    rcases StateComparison.exists_of_mem_lines member with ⟨rest, free, rfl | rfl⟩
    · exact oneLine_append.2 ⟨by decide, free⟩
    · exact oneLine_append.2 ⟨by decide, free⟩
  rw [hasLine_intercalate single (List.cons_ne_nil _ _)]
  intro member
  rcases StateComparison.exists_of_mem_lines member with ⟨rest, -, same | same⟩
  · exact ne_append (by cases isWord <;> decide) rest same
  · exact ne_append (by cases isWord <;> decide) rest same

/-- In what is written about a diagnosis only the notes can have a word on a line. -/
theorem hasLine_diagnosisTexts (isWord : IsWord word)
    (described : ∀ found, diagnosis.counterexample = some found → OneLine found.description) :
    (∃ text ∈ diagnosisTexts diagnosis, HasLine text word) ↔
      ∃ note ∈ diagnosis.notes, HasLine note word := by
  constructor
  · rintro ⟨text, member, stands⟩
    rcases List.mem_append.1 member with before | isNote
    · rcases List.mem_append.1 before with differs | compares
      · rcases Option.map_eq_some_iff.1 (Option.mem_toList.1 differs) with ⟨found, isFound, rfl⟩
        have single : OneLine ("Outputs differ for " ++ found.description ++ ".") :=
          oneLine_append.2 ⟨oneLine_append.2 ⟨by decide, described found isFound⟩, by decide⟩
        rw [hasLine_of_oneLine single, String.append_assoc] at stands
        exact absurd stands (ne_append (by cases isWord <;> decide) _)
      · rcases Option.map_eq_some_iff.1 (Option.mem_toList.1 compares) with ⟨comparison, -, rfl⟩
        exact absurd stands (not_hasLine_comparison isWord comparison)
    · exact ⟨text, isNote, stands⟩
  · rintro ⟨note, member, stands⟩
    exact ⟨note, List.mem_append_right _ member, stands⟩

/-- A hint can have a word on a line where it has a line feed in front of it. -/
theorem hasLine_hint (isWord : IsWord word) (hint : String) :
    (∃ text ∈ (if hint.isEmpty then [] else ["Hint: " ++ hint]), HasLine text word) ↔
      Follows hint word := by
  cases empty : hint.isEmpty with
  | true =>
    rw [String.isEmpty_iff.1 empty]
    exact ⟨nofun, fun follows => absurd follows (not_follows_of_oneLine (by decide))⟩
  | false =>
    rw [if_neg Bool.false_ne_true]
    simp only [List.mem_singleton, exists_eq_left]
    exact hasLine_append (by decide) (by cases isWord <;> decide)

theorem hasLine_own {own : String} (isOwn : IsWord own) (word : String) :
    HasLine own word ↔ some own = some word := by
  rw [hasLine_of_oneLine (by cases isOwn <;> decide), Option.some.injEq, eq_comm]

/-- A word is a line of the texts of a result if it is the word of the outcome, or if a text from
outside has it on a line. -/
theorem exists_hasLine_iff (isWord : IsWord word)
    (described : ∀ diagnosis ∈ result.diagnosis, ∀ found,
      diagnosis.counterexample = some found → OneLine found.description) :
    (∃ text ∈ resultTexts true result exercise, HasLine text word) ↔
      ownWord result.status = some word ∨ Forges exercise result word := by
  cases status : result.status with
  | correct =>
    simp only [resultTexts, Forges, status, ownWord, List.mem_singleton, exists_eq_left, or_false]
    exact hasLine_own .correct word
  | incorrect =>
    simp only [resultTexts, Forges, status, ownWord, if_true, List.mem_append, List.mem_cons,
      or_and_right, exists_or, exists_eq_left, or_assoc]
    refine or_congr (hasLine_own .incorrect word) (or_congr (hasLine_hint isWord _) ?_)
    cases diagnosed : result.diagnosis with
    | none => simp
    | some diagnosis =>
      rw [diagnosed] at described
      simp only [Option.mem_def, Option.some.injEq, exists_eq_left']
      exact hasLine_diagnosisTexts isWord (described diagnosis rfl)
  | executionError | aborted =>
    simp only [resultTexts, Forges, status, ownWord, List.mem_singleton, exists_eq_left,
      reduceCtorEq, false_or]
    exact hasLine_append (by decide) (by cases isWord <;> decide)

/-- What is written for a result is honest exactly if nothing from outside has the word of a pass on
a line, nor the word of a rejection where there was none. -/
theorem isHonest_written_iff
    (described : ∀ diagnosis ∈ result.diagnosis, ∀ found,
      diagnosis.counterexample = some found → OneLine found.description) :
    IsHonest (written (resultTexts true result exercise)) result ↔
      ¬ Forges exercise result "Correct." ∧
        (Forges exercise result "Incorrect." → result.status = .incorrect) := by
  have line : ∀ {word}, IsWord word →
      (HasLine (written (resultTexts true result exercise)) word ↔
        ownWord result.status = some word ∨ Forges exercise result word) :=
    fun isWord => (hasLine_join isWord.filled).trans (exists_hasLine_iff isWord described)
  have ownCorrect : ownWord result.status = some "Correct." ↔ result.status = .correct := by
    cases result.status <;> decide
  have ownIncorrect : ownWord result.status = some "Incorrect." ↔ result.status = .incorrect := by
    cases result.status <;> decide
  have notForged : result.status = .correct → ¬ Forges exercise result "Correct." := by
    intro correct
    rw [Forges, correct]
    exact not_false
  constructor
  · intro honest
    refine ⟨fun forged => ?_, fun forged => ?_⟩
    · have passed := honest.correct.1 ((line .correct).2 (.inr forged))
      exact notForged (result.passed_iff.1 passed) forged
    · exact honest.incorrect.1 ((line .incorrect).2 (.inr forged))
  · rintro ⟨noPass, onlyRejection⟩
    constructor
    · rw [line .correct, ownCorrect, result.passed_iff]
      exact or_iff_left noPass
    · rw [line .incorrect, ownIncorrect]
      exact or_iff_left_of_imp onlyRejection

theorem text_writing (before texts : List String) (results : List (GradeResult Float)) :
    ReporterState.text ⟨none, before ++ texts, results⟩ = written before ++ written texts := by
  rw [ReporterState.text, written, written, List.map_append, ← String.toList_inj,
    String.toList_append, String.toList_join, String.toList_join, String.toList_join,
    List.flatMap_append]

end Reporter

namespace Grader

open EquivalenceChecker Reporter

variable {grader : Grader Float} {registry : Registry Float} {exercise : Exercise Float}
  {candidate : Candidate Float} {bench : Bench Float}

/-- The texts that a run takes from outside into what it says: texts of the exercise, the name that
was asked for, the names of the operations that take part, and the texts and classes of the faults
that are met. -/
inductive Heard (grader : Grader Float) (registry : Registry Float) (exercise : Exercise Float)
    (candidate : Candidate Float) (bench : Bench Float) : String → Prop where
  | hint : Heard grader registry exercise candidate bench exercise.hint
  | exercise : Heard grader registry exercise candidate bench exercise.name
  | label : Heard grader registry exercise candidate bench (candidate.label exercise)
  | part {operation : Operation Float} {role : Role} {name : String}
      (chosen : choose (grader.visible registry) exercise candidate = .ok operation)
      (takes : TakesPart operation exercise.reference exercise.preparer role name) :
      Heard grader registry exercise candidate bench name
  | text {operation : Operation Float} {fault : Fault}
      (chosen : choose (grader.visible registry) exercise candidate = .ok operation)
      (meets : grader.Meets exercise operation bench fault) :
      Heard grader registry exercise candidate bench fault.text
  | title {operation : Operation Float} {fault : Fault}
      (chosen : choose (grader.visible registry) exercise candidate = .ok operation)
      (meets : grader.Meets exercise operation bench fault) :
      Heard grader registry exercise candidate bench fault.kind.title

theorem oneLine_typeName (datum : Datum) : OneLine datum.typeName := by
  cases datum with
  | moment value =>
    rw [Datum.typeName]
    split <;> decide
  | _ =>
    rw [Datum.typeName]
    decide

theorem oneLine_word (role : Role) : OneLine role.word := by
  cases role <;> decide

/-- The message of a run without a decision has no line feed if nothing from outside has one. -/
theorem oneLine_of_ending {status : VerdictStatus} {message error : String}
    (quiet : ∀ text, grader.Heard registry exercise candidate bench text → OneLine text)
    (ending : grader.Ending registry exercise candidate bench status message error) :
    OneLine message := by
  have label := quiet _ .label
  cases ending with
  | missing absent => exact oneLine_append.2 ⟨oneLine_append.2 ⟨by decide, label⟩, by decide⟩
  | @noOperation datum found =>
    simp only [oneLine_append]
    exact ⟨⟨⟨⟨by decide, label⟩, by decide⟩, oneLine_typeName datum⟩, by decide⟩
  | arity found differs =>
    simp only [oneLine_append]
    exact ⟨⟨⟨⟨⟨⟨⟨by decide, label⟩, by decide⟩, Decimal.oneLine_integer _⟩, by decide⟩,
      quiet _ .exercise⟩, by decide⟩, Decimal.oneLine_integer _⟩
  | uncontrolled chosen refused =>
    simp only [oneLine_append]
    exact ⟨⟨⟨by decide, quiet _ (.part chosen .candidate)⟩, by decide⟩,
      quiet _ (.text chosen (.control refused))⟩
  | @failed operation failure chosen blamed checked =>
    have meets : grader.Meets exercise operation bench failure.cause := .body blamed checked
    simp only [OperationFailure.text, oneLine_append]
    exact ⟨⟨⟨⟨⟨⟨oneLine_word _, by decide⟩, quiet _ (.part chosen blamed.part)⟩, by decide⟩,
      quiet _ (.title chosen meets)⟩, by decide⟩, quiet _ (.text chosen meets)⟩
  | normLost chosen =>
    simp only [oneLine_append]
    exact ⟨⟨by decide, quiet _ (.part chosen .candidate)⟩, by decide⟩
  | aborted chosen failed =>
    rcases failed with checked | diagnosed
    · exact quiet _ (.text chosen (.check checked))
    · exact quiet _ (.text chosen (.diagnosis diagnosed))

theorem oneLine_relativePhaseNote : OneLine Diagnosis.relativePhaseNote :=
  oneLine_append.2 ⟨by decide, by decide⟩

/-- A note of a diagnosis has no word on a line if nothing from outside has a line feed. -/
theorem not_hasLine_note {word : String} (isWord : IsWord word)
    (quiet : ∀ text, grader.Heard registry exercise candidate bench text → OneLine text)
    {diagnosis : Diagnosis Float}
    (diagnosed : (grader.graded registry exercise candidate bench).diagnosis = some diagnosis)
    {note : String} (member : note ∈ diagnosis.notes) : ¬ HasLine note word := by
  rcases diagnosisFor_of_graded diagnosed with ⟨operation, chosen, gathered⟩
  rcases (DiagnosticRunner.tells_of_diagnose gathered).notes note member with
    rfl | ⟨fault, missed, rfl | rfl⟩
  · rw [hasLine_of_oneLine oneLine_relativePhaseNote]
    exact ne_append (by cases isWord <;> decide) _
  all_goals
    have single := quiet _ (.text chosen (.part missed))
    rw [hasLine_append (by decide) (by cases isWord <;> decide)]
    exact not_follows_of_oneLine single

/-- An input that tells candidate and reference apart is described without line feeds. -/
theorem oneLine_description {diagnosis : Diagnosis Float}
    (diagnosed : (grader.graded registry exercise candidate bench).diagnosis = some diagnosis)
    {found : Counterexample Float} (isFound : diagnosis.counterexample = some found) :
    OneLine found.description := by
  rcases diagnosisFor_of_graded diagnosed with ⟨operation, chosen, gathered⟩
  rcases (DiagnosticRunner.tells_of_diagnose gathered).description found isFound with
    ⟨width, index, described⟩
  rw [described]
  exact oneLine_append.2 ⟨by decide, Snapshot.oneLine_plainLabel width index⟩

/-- Nothing is forged if no text from outside has a line feed. -/
theorem not_forges_of_quiet {word : String} (isWord : IsWord word)
    (quiet : ∀ text, grader.Heard registry exercise candidate bench text → OneLine text) :
    ¬ Forges exercise (grader.graded registry exercise candidate bench) word := by
  have message : (grader.graded registry exercise candidate bench).status ≠ .correct →
      (grader.graded registry exercise candidate bench).status ≠ .incorrect →
      OneLine (grader.graded registry exercise candidate bench).verdict.message := by
    intro notCorrect notIncorrect
    rcases ending_of_graded ⟨notCorrect, notIncorrect⟩ with ⟨error, -, ending⟩
    exact oneLine_of_ending quiet ending
  cases status : (grader.graded registry exercise candidate bench).status with
  | correct =>
    rw [Forges, status]
    exact not_false
  | incorrect =>
    rw [Forges, status]
    rintro (follows | ⟨diagnosis, diagnosed, note, member, stands⟩)
    · exact not_follows_of_oneLine (quiet _ .hint) follows
    · exact not_hasLine_note isWord quiet diagnosed member stands
  | executionError | aborted =>
    rw [Forges, status]
    rw [status] at message
    exact not_follows_of_oneLine (message nofun nofun)

/-- An entry point answers whether the candidate has passed, and writes the texts of the result
behind what has been written before. -/
theorem run_entryPoint (grader : Grader Float) (registry : Registry Float)
    (exercise : Exercise Float) (candidate : Candidate Float) (bench : Bench Float)
    (before : List String) :
    ∃ later after,
      (grader.entryPoint registry exercise candidate).run (bench, { written := before }) =
        (.ok (grader.graded registry exercise candidate bench).passed, (later, after)) ∧
      after.text = ReporterState.text (R := Float) { written := before } ++
        written (resultTexts true (grader.graded registry exercise candidate bench) exercise) := by
  have idle : ReporterState.active (R := Float) { written := before } = none := rfl
  exact ⟨_, _, Action.bind_of_ok (grade_eq (isSound_plain true) idle), text_writing before _ []⟩

/-- A run of an entry point always comes to an answer, and writes its texts behind what has been
written before.  The two words stand on lines of what it writes exactly where they say what has
happened, if and only if no text from outside has the word of a pass on a line, nor the word of a
rejection where there was none.  This is so in any case if no text from outside has a line feed. -/
theorem entryPoint_honest_iff (grader : Grader Float) (registry : Registry Float)
    (exercise : Exercise Float) (candidate : Candidate Float) (bench : Bench Float)
    (before : List String) :
    let result := grader.graded registry exercise candidate bench
    let text := written (resultTexts true result exercise)
    ∃ later after,
      (grader.entryPoint registry exercise candidate).run (bench, { written := before }) =
        (.ok result.passed, (later, after)) ∧
      after.text = ReporterState.text (R := Float) { written := before } ++ text ∧
      (IsHonest text result ↔ ¬ Forges exercise result "Correct." ∧
        (Forges exercise result "Incorrect." → result.status = .incorrect)) ∧
      ((∀ heard, grader.Heard registry exercise candidate bench heard → OneLine heard) →
        IsHonest text result) := by
  intro result text
  rcases run_entryPoint grader registry exercise candidate bench before with
    ⟨later, after, ran, wrote⟩
  have exact : IsHonest text result ↔ ¬ Forges exercise result "Correct." ∧
      (Forges exercise result "Incorrect." → result.status = .incorrect) :=
    isHonest_written_iff fun diagnosis diagnosed found => oneLine_description diagnosed
  refine ⟨later, after, ran, wrote, exact, fun quiet => exact.2 ?_⟩
  exact ⟨not_forges_of_quiet .correct quiet,
    fun forged => absurd forged (not_forges_of_quiet .incorrect quiet)⟩

/-- Where nothing was submitted, what is written for the exercise to flip a qubit is honest. -/
theorem entryPoint_honest_of_missing :
    ∃ grader, ofConfiguration .standard {} {} = .ok grader ∧
      IsHonest (written (resultTexts true
        (grader.graded {} Exercise.flipQubit .byDefault grader.bench) Exercise.flipQubit))
        (grader.graded {} Exercise.flipQubit .byDefault grader.bench) := by
  have made : ∃ grader, ofConfiguration .standard {} {} = .ok grader ∧ grader.visible {} = {} :=
    ⟨_, rfl, rfl⟩
  rcases made with ⟨grader, made, unseen⟩
  have nothing : ∀ {operation}, choose (grader.visible {}) Exercise.flipQubit .byDefault ≠
      .ok operation := by
    rw [unseen]
    exact nofun
  rcases entryPoint_honest_iff grader {} Exercise.flipQubit .byDefault grader.bench [] with
    ⟨_, _, -, -, -, honest⟩
  refine ⟨grader, made, honest fun heard isHeard => ?_⟩
  cases isHeard with
  | hint => decide
  | exercise => decide
  | label => decide
  | part chosen => exact absurd chosen nothing
  | text chosen => exact absurd chosen nothing
  | title chosen => exact absurd chosen nothing

/-- A body with a line feed in its name that raises a fault, in the exercise to flip a qubit.  The
test answers that it has not passed, and the line of a pass stands in what it writes. -/
theorem entryPoint_spoofed :
    let raising : Operation Float :=
      .routine 1 "x\nCorrect.\n" .all
        (.cons (.refused [] (.raised (.other "RuntimeError") [.text "x"])) .nil) .derived
    ∃ grader later after, ofConfiguration .standard {} {} = .ok grader ∧
      (grader.entryPoint {} Exercise.flipQubit (.given (.operation raising))).run
        (grader.bench, {}) = (.ok false, (later, after)) ∧
      after.text =
        "Execution error: candidate operation 'x\nCorrect.\n' failed: RuntimeError: x\n" ∧
      HasLine after.text "Correct." := by
  intro raising
  let failure : OperationFailure :=
    ⟨.candidate, "x\nCorrect.\n", .raised (.other "RuntimeError") [.text "x"]⟩
  have made : ∃ grader, ofConfiguration .standard {} {} = .ok grader ∧
      (grader.checkFor Exercise.flipQubit raising grader.bench).1 =
        .ok (judge .operator "x\nCorrect.\n" "X" (.failed failure)) := ⟨_, rfl, rfl⟩
  rcases made with ⟨grader, made, checked⟩
  have chosen : choose (grader.visible {}) Exercise.flipQubit (.given (.operation raising)) =
      .ok raising := rfl
  have graded := graded_eq_of_ok chosen (Prod.ext checked rfl)
  rcases run_entryPoint grader {} Exercise.flipQubit (.given (.operation raising)) grader.bench []
    with ⟨later, after, ran, wrote⟩
  rw [graded] at ran wrote
  have text : after.text =
      "Execution error: candidate operation 'x\nCorrect.\n' failed: RuntimeError: x\n" := wrote
  refine ⟨grader, later, after, made, ran, text, ?_⟩
  rw [text, HasLine, rows]
  decide

end Grader

end QuantumKata
