import QuantumKata.Diagnosis

/-!
# What a diagnosis consists of

A diagnosis has two parts, the comparison of the outputs and, where no preparer is in play, the
search for a counterexample.  A part that fails leaves a note.  After the search comes the question
whether it has reached all sizes, and a search that has, and has found nothing where nothing failed,
leaves the note about relative phases.

Where the limit of the search cannot be compared with a number, that question is a fault of its own,
the only one of a diagnosis.
-/

namespace QuantumKata

theorem SearchLimit.exists_reaches_eq_ok {limit : SearchLimit}
    (comparable : ∀ typeName, limit ≠ .incomparable typeName) (numQubits : Int) :
    ∃ within, limit.reaches numQubits = .ok within := by
  cases limit with
  | incomparable typeName => exact absurd rfl (comparable typeName)
  | upTo _ | unlimited | undefined => exact ⟨_, rfl⟩

namespace DiagnosticRunner

variable {R : Type}

/-! ## The two parts -/

/-- What the comparison of the outputs contributes to a diagnosis. -/
def ofComparison : Except Fault (StateComparison R) → Diagnosis R
  | .ok comparison => { comparison := some comparison }
  | .error fault => { notes := ["State comparison unavailable: " ++ fault.text] }

/-- What the search for a counterexample adds to it. -/
def withSearch (first : Diagnosis R) : Except Fault (Option (Counterexample R)) → Diagnosis R
  | .ok counterexample => { first with counterexample := counterexample }
  | .error fault =>
    { first with notes := first.notes ++ ["Counterexample search unavailable: " ++ fault.text] }

theorem notes_of_comparison {outcome : Except Fault (StateComparison R)} {note : String}
    (member : note ∈ (ofComparison outcome).notes) :
    ∃ fault, outcome = .error fault ∧ note = "State comparison unavailable: " ++ fault.text := by
  cases outcome with
  | ok comparison => cases member
  | error fault => exact ⟨fault, rfl, List.mem_singleton.1 member⟩

theorem notes_of_search {first : Diagnosis R} {outcome : Except Fault (Option (Counterexample R))}
    {note : String} (member : note ∈ (withSearch first outcome).notes) :
    note ∈ first.notes ∨ ∃ fault, outcome = .error fault ∧
      note = "Counterexample search unavailable: " ++ fault.text := by
  cases outcome with
  | ok counterexample => exact .inl member
  | error fault =>
    rcases List.mem_append.1 member with before | last
    · exact .inl before
    · exact .inr ⟨fault, rfl, List.mem_singleton.1 last⟩

theorem counterexample_ofComparison (outcome : Except Fault (StateComparison R)) :
    (ofComparison outcome).counterexample = none := by
  cases outcome <;> rfl

/-- A search that leaves neither a note nor a counterexample has found nothing. -/
theorem eq_none_of_withSearch {first : Diagnosis R}
    {outcome : Except Fault (Option (Counterexample R))}
    (noNotes : (withSearch first outcome).notes = [])
    (noCounterexample : (withSearch first outcome).counterexample = none) : outcome = .ok none := by
  cases outcome with
  | ok found => exact congrArg Except.ok noCounterexample
  | error fault => cases List.append_eq_nil_iff.1 noNotes |>.2

theorem head_relativePhaseNote : Diagnosis.relativePhaseNote.toList.head? = some 'O' := by
  decide +kernel

/-- A note that begins otherwise is not the note about relative phases. -/
theorem ne_relativePhaseNote {opening : String} (first : Char)
    (opens : opening.toList.head? = some first) (other : first ≠ 'O') (text : String) :
    opening ++ text ≠ Diagnosis.relativePhaseNote := by
  intro same
  have heads := congrArg (fun written : String => written.toList.head?) same
  simp only [head_relativePhaseNote, String.toList_append, List.head?_append, opens,
    Option.some_or, Option.some.injEq] at heads
  exact other heads

theorem ne_note_of_comparison (fault : Fault) :
    "State comparison unavailable: " ++ fault.text ≠ Diagnosis.relativePhaseNote :=
  ne_relativePhaseNote 'S' (by decide +kernel) (by decide) fault.text

theorem ne_note_of_search (fault : Fault) :
    "Counterexample search unavailable: " ++ fault.text ≠ Diagnosis.relativePhaseNote :=
  ne_relativePhaseNote 'C' (by decide +kernel) (by decide) fault.text

/-- The parts of a diagnosis do not leave the note about relative phases. -/
theorem not_noted_ofComparison (outcome : Except Fault (StateComparison R)) :
    Diagnosis.relativePhaseNote ∉ (ofComparison outcome).notes := by
  intro noted
  rcases notes_of_comparison noted with ⟨fault, -, same⟩
  exact ne_note_of_comparison fault same.symm

/-! ## Diagnoses -/

variable [Scalar R] {runner : DiagnosticRunner R} {candidate reference : Operation R}
  {numQubits : Int} {preparer : Option (Operation R)} {bench : Bench R} {diagnosis : Diagnosis R}

/-- What is gathered on a register where no preparer is in play. -/
def gathered (runner : DiagnosticRunner R) (candidate reference : Operation R) (numQubits : Int)
    (bench : Bench R) : Diagnosis R :=
  let compared := runner.compare candidate reference numQubits none bench
  withSearch (ofComparison compared.1)
    (runner.findCounterexample candidate reference numQubits compared.2).1

theorem diagnose_of_preparer (operation : Operation R) :
    (runner.diagnose candidate reference numQubits (some operation) bench).1 =
      .ok (ofComparison (runner.compare candidate reference numQubits (some operation) bench).1) :=
  rfl

theorem diagnose_of_none :
    (runner.diagnose candidate reference numQubits none bench).1 =
      (runner.searchLimit.reaches numQubits).map fun within =>
        let second := runner.gathered candidate reference numQubits bench
        if within && second.notes.isEmpty && second.counterexample.isNone then
          { second with notes := [Diagnosis.relativePhaseNote] }
        else second := by
  cases reached : runner.searchLimit.reaches numQubits with
  | error fault =>
    simp only [diagnose, Action.bind_apply, Action.attempt, reached]
    rfl
  | ok within =>
    simp only [diagnose, Action.bind_apply, Action.attempt, reached]
    change ((if (within && (runner.gathered candidate reference numQubits bench).notes.isEmpty &&
      (runner.gathered candidate reference numQubits bench).counterexample.isNone) = true then
        pure { runner.gathered candidate reference numQubits bench with
          notes := [Diagnosis.relativePhaseNote] }
      else pure (runner.gathered candidate reference numQubits bench) :
        BenchAction R (Diagnosis R)) _).1 = .ok (if _ then _ else _)
    split <;> rfl

/-- A diagnosis succeeds where the question whether the search has reached all sizes has an answer
or is not asked. -/
theorem outcome_diagnose (runner : DiagnosticRunner R) (candidate reference : Operation R)
    (numQubits : Int) (preparer : Option (Operation R))
    (answered : preparer = none → ∃ within, runner.searchLimit.reaches numQubits = .ok within)
    (bench : Bench R) :
    ∃ diagnosis, (runner.diagnose candidate reference numQubits preparer bench).1 =
      .ok diagnosis := by
  cases preparer with
  | some operation => exact ⟨_, diagnose_of_preparer operation⟩
  | none =>
    rcases answered rfl with ⟨within, reached⟩
    rw [diagnose_of_none, reached]
    exact ⟨_, rfl⟩

/-- The two parts of a diagnosis cannot fail, but the question after them can. -/
theorem outcome_diagnose_of_error (runner : DiagnosticRunner R) (candidate reference : Operation R)
    (numQubits : Int) {fault : Fault}
    (asked : runner.searchLimit.reaches numQubits = .error fault) (bench : Bench R) :
    (runner.diagnose candidate reference numQubits none bench).1 = .error fault := by
  rw [diagnose_of_none, asked]
  rfl

/-! ## The note about relative phases -/

theorem not_noted_gathered :
    Diagnosis.relativePhaseNote ∉ (runner.gathered candidate reference numQubits bench).notes := by
  intro noted
  rcases notes_of_search noted with before | ⟨fault, -, same⟩
  · exact not_noted_ofComparison _ before
  · exact ne_note_of_search fault same.symm

/-- The note about relative phases is given only by a search that has reached the size and has found
nothing, and only where there is no preparer. -/
theorem search_of_noted
    (diagnosed : (runner.diagnose candidate reference numQubits preparer bench).1 = .ok diagnosis)
    (noted : Diagnosis.relativePhaseNote ∈ diagnosis.notes) :
    preparer = none ∧ runner.searchLimit.reaches numQubits = .ok true ∧
      (runner.findCounterexample candidate reference numQubits
        (runner.compare candidate reference numQubits preparer bench).2).1 = .ok none := by
  cases preparer with
  | some operation =>
    cases (diagnose_of_preparer operation).symm.trans diagnosed
    exact absurd noted (not_noted_ofComparison _)
  | none =>
    rcases Fault.map_eq_ok_iff.1 (diagnose_of_none.symm.trans diagnosed) with
      ⟨within, reached, rfl⟩
    dsimp only at noted
    split at noted
    · rename_i clean
      rw [Bool.and_eq_true, Bool.and_eq_true, List.isEmpty_iff, Option.isNone_iff_eq_none] at clean
      rcases clean with ⟨⟨rfl, noNotes⟩, noCounterexample⟩
      exact ⟨rfl, reached, eq_none_of_withSearch noNotes noCounterexample⟩
    · exact absurd noted not_noted_gathered

end DiagnosticRunner

end QuantumKata
