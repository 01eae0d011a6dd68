import QuantumKata.Exercise.Builtin
import QuantumKata.Proofs.Wording

/-!
# How a grader finds what was registered

A registry is written into call by call.  The journal of a history of calls lists the registrations
that have gone through, in order; a call that is refused adds those it had made before it was.  By
induction on the calls, a name stands for what the journal registers last under it, and for what it
stood for at first if the journal does not have it.

A grader asks the registry that it was made with, at the time of grading, unless that registry was
empty when the grader was made.  Then the grader keeps to an empty registry of its own, and every
candidate is missing whatever has been registered since.
-/

namespace QuantumKata

/-! ## Histories -/

/-- A call that writes into a registry. -/
inductive RegistryCall (R : Type) where
  | register (name : String) (given : Export R) (replacing : Bool)
  | registerSubmission (exports : Listing (Export R)) (replacing : Bool)

namespace Registry

variable {R : Type} {registry next : Registry R} {name other : String} {given : Export R}
  {replacing : Bool}

/-- A registration goes through exactly if an operation is given and its name is free or may be
taken over. -/
theorem register_eq_ok_iff :
    registry.register name given replacing = .ok next ↔
      given.isOperation = true ∧ (registry.holds name = false ∨ replacing = true) ∧
        next = ⟨registry.listing.put name given⟩ := by
  have taken : registry.holds name = registry.listing.holds name := rfl
  rw [register, taken]
  cases given.isOperation <;> cases registry.listing.holds name <;> cases replacing <;>
    simp [eq_comm]

/-- The registrations that go through when exports are registered one after the other.  The first
that is refused ends it. -/
def entered (replacing : Bool) :
    List (String × Export R) → Registry R → List (String × Operation R)
  | [], _ => []
  | (name, given) :: rest, registry =>
    match registry.register name given replacing with
    | .error _ => []
    | .ok next =>
      match given with
      | .operation operation => (name, operation) :: entered replacing rest next
      | .value _ => []

theorem entered_cons_of_ok {operation : Operation R}
    (registered : registry.register name (.operation operation) replacing = .ok next)
    (rest : List (String × Export R)) :
    entered replacing ((name, .operation operation) :: rest) registry =
      (name, operation) :: entered replacing rest next := by
  rw [entered, registered]

theorem entered_cons_of_error {fault : Fault}
    (refused : registry.register name given replacing = .error fault)
    (rest : List (String × Export R)) :
    entered replacing ((name, given) :: rest) registry = [] := by
  rw [entered, refused]

end Registry

namespace RegistryCall

variable {R : Type}

/-- The registry after a call, whether the call succeeds or not. -/
def perform (registry : Registry R) : RegistryCall R → Registry R
  | register name given replacing =>
    match registry.register name given replacing with
    | .ok next => next
    | .error _ => registry
  | registerSubmission exports replacing => (registry.registerSubmission exports replacing).2

/-- The registrations of a call that go through. -/
def entries (registry : Registry R) : RegistryCall R → List (String × Operation R)
  | register name given replacing => Registry.entered replacing [(name, given)] registry
  | registerSubmission exports replacing =>
    Registry.entered replacing
      (exports.entries.filter fun entry => Registry.isPublic entry.1 entry.2) registry

end RegistryCall

namespace Registry

variable {R : Type}

/-- The registry after calls. -/
def after (registry : Registry R) (calls : List (RegistryCall R)) : Registry R :=
  calls.foldl RegistryCall.perform registry

/-- The registrations of calls that go through, in order. -/
def journal (registry : Registry R) : List (RegistryCall R) → List (String × Operation R)
  | [] => []
  | call :: rest => call.entries registry ++ (call.perform registry).journal rest

theorem after_append (registry : Registry R) (first second : List (RegistryCall R)) :
    registry.after (first ++ second) = (registry.after first).after second :=
  List.foldl_append

/-- The operation that a journal has last under a name. -/
def IsLatest (journal : List (String × Operation R)) (name : String) (operation : Operation R) :
    Prop :=
  ∃ older newer, journal = older ++ (name, operation) :: newer ∧ ∀ entry ∈ newer, entry.1 ≠ name

/-- A registry with the registrations of a journal written into it. -/
def enter (registry : Registry R) (journal : List (String × Operation R)) : Registry R :=
  journal.foldl (fun registry entry => ⟨registry.listing.put entry.1 (.operation entry.2)⟩) registry

variable {registry : Registry R} {journal : List (String × Operation R)} {name : String}
  {operation : Operation R}

/-- A name that is not in a journal stands for what it stood for before. -/
theorem find?_enter_of_absent (absent : ∀ entry ∈ journal, entry.1 ≠ name) :
    (registry.enter journal).listing.find? name = registry.listing.find? name := by
  induction journal generalizing registry with
  | nil => rfl
  | cons entry rest ih =>
    obtain ⟨different, absent⟩ := List.forall_mem_cons.1 absent
    exact (ih absent).trans (Listing.find?_put_of_ne _ different.symm _)

/-- A name stands for what a journal has last under it. -/
theorem find?_enter_of_isLatest (latest : IsLatest journal name operation) :
    (registry.enter journal).listing.find? name = some (.operation operation) := by
  rcases latest with ⟨older, newer, rfl, absent⟩
  rw [enter, List.foldl_append, List.foldl_cons]
  exact (find?_enter_of_absent absent).trans (Listing.find?_put_self _ _ _)

theorem registerAll_eq (replacing : Bool) (count : Nat) (exports : List (String × Export R))
    (registry : Registry R) :
    (registerAll replacing count exports registry).2 =
      registry.enter (entered replacing
        (exports.filter fun entry => isPublic entry.1 entry.2) registry) := by
  induction exports generalizing count registry with
  | nil => rfl
  | cons entry rest ih =>
    rcases entry with ⟨name, given⟩
    by_cases counts : isPublic name given = true
    · simp only [registerAll, List.filter_cons, counts, if_true]
      cases registered : registry.register name given replacing with
      | error fault =>
        rw [entered_cons_of_error registered]
        rfl
      | ok next =>
        rcases register_eq_ok_iff.1 registered with ⟨isOperation, -, rfl⟩
        cases given with
        | value datum => cases isOperation
        | operation operation =>
          rw [entered_cons_of_ok registered]
          exact ih (count + 1) _
    · simp only [registerAll, List.filter_cons, counts, Bool.false_eq_true, if_false]
      exact ih count registry

/-- A call writes exactly its entries. -/
theorem perform_eq (registry : Registry R) (call : RegistryCall R) :
    call.perform registry = registry.enter (call.entries registry) := by
  cases call with
  | registerSubmission exports replacing =>
    exact registerAll_eq replacing 0 exports.entries registry
  | register name given replacing =>
    rw [RegistryCall.perform, RegistryCall.entries]
    cases registered : registry.register name given replacing with
    | error fault =>
      rw [entered_cons_of_error registered]
      rfl
    | ok next =>
      rcases register_eq_ok_iff.1 registered with ⟨isOperation, -, rfl⟩
      cases given with
      | value datum => cases isOperation
      | operation operation =>
        rw [entered_cons_of_ok registered]
        rfl

/-- By induction on the calls: what a history leaves in a registry is what its journal writes. -/
theorem after_eq (registry : Registry R) (calls : List (RegistryCall R)) :
    registry.after calls = registry.enter (registry.journal calls) := by
  induction calls generalizing registry with
  | nil => rfl
  | cons call rest ih =>
    rw [after, List.foldl_cons]
    change (call.perform registry).after rest = _
    rw [ih, journal, perform_eq, enter, enter, enter, List.foldl_append]

theorem not_absent_of_found {item : Export R} (found : registry.listing.find? name = some item) :
    ¬ registry.holds name = false := by
  rw [holds, Listing.holds, found]
  exact nofun

end Registry

/-! ## Grading by name -/

namespace Grader

open EquivalenceChecker

variable {R σ : Type} [Scalar R] {grader : Grader R} {registry : Registry R}
  {exercise : Exercise R} {operation : Operation R} {bench : Bench R}

/-- A result says that there was no candidate. -/
def IsMissing (result : GradeResult R) : Prop :=
  result.status = .executionError ∧ result.verdict.error = some "missing operation"

/-- The refusal of an operation of the wrong size under a label. -/
def arityRefusal (exercise : Exercise R) (label : String) (operation : Operation R) :
    GradeResult R :=
  refusal exercise label
    ("Operation '" ++ label ++ "' acts on " ++ Decimal.integer operation.numQubits ++
      " qubit(s), exercise '" ++ exercise.name ++ "' expects " ++
      Decimal.integer exercise.numQubits) "signature mismatch"

/-- A result is that of an operation, except that it speaks of the candidate by the name that the
exercise has for it; `explicit` is the result when the operation itself is handed in. -/
structure IsOf (exercise : Exercise R) (operation : Operation R)
    (result explicit : GradeResult R) : Prop where
  fitting : operation.numQubits = exercise.numQubits →
    result = { explicit with candidate := exercise.candidateName }
  differing : operation.numQubits ≠ exercise.numQubits →
    result = arityRefusal exercise exercise.candidateName operation ∧
      explicit = arityRefusal exercise operation.name operation

/-- What a run makes of a candidate: its result and the bench afterwards. -/
def outcome (grader : Grader R) (registry : Registry R) (exercise : Exercise R) (bench : Bench R)
    (candidate : Candidate R) : GradeResult R × Bench R :=
  (grader.graded registry exercise candidate bench,
    (grader.assess registry exercise candidate bench).2)

/-- A run without a candidate resolves its name through a registry: the candidate is missing exactly
if the registry does not have the name, and an operation that it has is graded as if it had been
handed in. -/
structure Resolves (grader : Grader R) (registry : Registry R) (exercise : Exercise R)
    (bench : Bench R) : Prop where
  missing : IsMissing (grader.outcome registry exercise bench .byDefault).1 ↔
    registry.holds exercise.candidateName = false
  found : ∀ operation, registry.listing.find? exercise.candidateName = some (.operation operation) →
    IsOf exercise operation (grader.outcome registry exercise bench .byDefault).1
        (grader.outcome registry exercise bench (.given (.operation operation))).1 ∧
      (grader.outcome registry exercise bench .byDefault).2 =
        (grader.outcome registry exercise bench (.given (.operation operation))).2

theorem find_byDefault (registry : Registry R) (exercise : Exercise R) :
    find registry exercise .byDefault = registry.resolve exercise.candidateName := rfl

/-- The label under which an operation is checked shows in the result and nowhere else. -/
theorem checkOperation_label (label other : String) :
    grader.checkOperation exercise label operation bench =
      ((grader.checkOperation exercise other operation bench).1.map fun result =>
          { result with candidate := label },
        (grader.checkOperation exercise other operation bench).2) := by
  rw [checkOperation, checkOperation, Action.bind_apply, Action.bind_apply]
  rcases (grader.checkerFor exercise).check operation exercise.reference exercise.numQubits
    exercise.preparer bench with ⟨fault | verdict, later⟩
  · rfl
  · dsimp only
    split
    · rw [Action.bind_apply, Action.bind_apply]
      rcases grader.diagnostics.diagnose operation exercise.reference exercise.numQubits
        exercise.preparer later with ⟨fault | diagnosis, last⟩ <;> rfl
    · rfl

/-- An operation of the right size is graded under its name in the registry as if it had been handed
in. -/
theorem outcome_of_fitting (bench : Bench R) (sees : grader.visible registry = registry)
    (found : registry.listing.find? exercise.candidateName = some (.operation operation))
    (fits : operation.numQubits = exercise.numQubits) :
    grader.outcome registry exercise bench .byDefault =
      ({ (grader.outcome registry exercise bench (.given (.operation operation))).1 with
          candidate := exercise.candidateName },
        (grader.outcome registry exercise bench (.given (.operation operation))).2) := by
  have named : choose (grader.visible registry) exercise .byDefault = .ok operation := by
    refine choose_eq_ok_iff.2 ⟨?_, fits⟩
    rw [sees, find_byDefault, Registry.resolve, found]
  have handed : choose (grader.visible registry) exercise (.given (.operation operation)) =
      .ok operation := choose_eq_ok_iff.2 ⟨rfl, fits⟩
  simp only [outcome, graded, assess, named, handed, Candidate.label]
  rw [checkOperation_label exercise.candidateName operation.name]
  cases (grader.checkOperation exercise operation.name operation bench).1 <;> rfl

/-- One of the wrong size is refused either way, under the name by which it was asked for. -/
theorem outcome_of_differing (bench : Bench R) (sees : grader.visible registry = registry)
    (found : registry.listing.find? exercise.candidateName = some (.operation operation))
    (differs : operation.numQubits ≠ exercise.numQubits) :
    grader.outcome registry exercise bench .byDefault =
        (arityRefusal exercise exercise.candidateName operation, bench) ∧
      grader.outcome registry exercise bench (.given (.operation operation)) =
        (arityRefusal exercise operation.name operation, bench) := by
  have named : choose (grader.visible registry) exercise .byDefault =
      .error (arityRefusal exercise exercise.candidateName operation) := by
    rw [choose, sees, find_byDefault, Registry.resolve, found]
    exact if_neg differs
  have handed : choose (grader.visible registry) exercise (.given (.operation operation)) =
      .error (arityRefusal exercise operation.name operation) := by
    rw [choose, find]
    exact if_neg differs
  constructor
  · rw [outcome, graded, assess_of_refused named]
  · rw [outcome, graded, assess_of_refused handed]

/-- A name that the registry of a grader does not have is refused as missing. -/
theorem isMissing_of_absent
    (absent : (grader.visible registry).holds exercise.candidateName = false) :
    IsMissing (grader.outcome registry exercise bench .byDefault).1 := by
  have unknown : (grader.visible registry).listing.find? exercise.candidateName = none :=
    Option.isSome_eq_false_iff.1 absent |> Option.isNone_iff_eq_none.1
  have refused : choose (grader.visible registry) exercise .byDefault =
      .error (refusal exercise exercise.candidateName
        (Fault.notSubmitted exercise.candidateName).text "missing operation") := by
    rw [choose, find_byDefault, Registry.resolve, unknown]
    rfl
  rw [outcome, graded, assess_of_refused refused]
  exact ⟨rfl, rfl⟩

/-- A value that is no operation is refused as one. -/
theorem not_isMissing_of_value {datum : Datum}
    (found : (grader.visible registry).listing.find? exercise.candidateName = some (.value datum)) :
    ¬ IsMissing (grader.outcome registry exercise bench .byDefault).1 := by
  have refused : choose (grader.visible registry) exercise .byDefault =
      .error (refusal exercise exercise.candidateName
        ("'" ++ exercise.candidateName ++ "' is a " ++ datum.typeName ++ ", not an operation")
        "not an operation") := by
    rw [choose, find_byDefault, Registry.resolve, found]
    rfl
  rw [outcome, graded, assess_of_refused refused]
  rintro ⟨-, (error : some "not an operation" = some "missing operation")⟩
  exact absurd error (by decide)

theorem kind_of_title_eq {kind : FaultKind} (titled : kind.title = "missing operation") :
    kind = .other "missing operation" := by
  cases kind with
  | other name => exact congrArg FaultKind.other titled
  | _ => exact absurd titled (by decide)

/-- An operation that was handed in is called missing only if a fault of a class of that name comes
out of it or out of what it is compared with. -/
theorem exists_meets_of_isMissing
    (missing : IsMissing (grader.graded registry exercise (.given (.operation operation)) bench)) :
    ∃ fault, grader.Meets exercise operation bench fault ∧
      fault.kind = .other "missing operation" := by
  have undecided : (grader.graded registry exercise (.given (.operation operation)) bench).status ≠
      .correct ∧
      (grader.graded registry exercise (.given (.operation operation)) bench).status ≠
        .incorrect := by
    rw [missing.1]
    exact ⟨nofun, nofun⟩
  have chosenIs : ∀ chosen, choose (grader.visible registry) exercise
      (.given (.operation operation)) = .ok chosen → chosen = operation := by
    intro chosen isChosen
    cases (choose_eq_ok_iff.1 isChosen).1
    rfl
  rcases ending_of_graded undecided with ⟨error, isError, ending⟩
  have named : error = "missing operation" := Option.some.inj (isError.symm.trans missing.2)
  rw [missing.1] at ending
  generalize (grader.graded registry exercise (.given (.operation operation)) bench).verdict.message
    = message at ending
  cases ending with
  | missing absent => cases absent
  | noOperation found => exact absurd named (by decide)
  | arity found differs => exact absurd named (by decide)
  | uncontrolled chosen refused =>
    cases chosenIs _ chosen
    exact ⟨_, .control refused, kind_of_title_eq named⟩
  | failed chosen blamed checked =>
    cases chosenIs _ chosen
    exact ⟨_, .body blamed checked, kind_of_title_eq named⟩
  | normLost chosen => exact absurd named (by decide)

/-- Where a grader sees a registry, an operation that the registry has under the candidate name is
graded as if it had been handed in. -/
theorem isOf_outcome (sees : grader.visible registry = registry)
    (found : registry.listing.find? exercise.candidateName = some (.operation operation)) :
    IsOf exercise operation (grader.outcome registry exercise bench .byDefault).1
        (grader.outcome registry exercise bench (.given (.operation operation))).1 ∧
      (grader.outcome registry exercise bench .byDefault).2 =
        (grader.outcome registry exercise bench (.given (.operation operation))).2 ∧
      (IsMissing (grader.outcome registry exercise bench .byDefault).1 ↔
        IsMissing (grader.outcome registry exercise bench (.given (.operation operation))).1) := by
  by_cases fits : operation.numQubits = exercise.numQubits
  · rw [outcome_of_fitting bench sees found fits]
    exact ⟨⟨fun _ => rfl, fun differs => absurd fits differs⟩, rfl, Iff.rfl⟩
  · rcases outcome_of_differing bench sees found fits with ⟨named, handed⟩
    rw [named, handed]
    exact ⟨⟨fun same => absurd same fits, fun _ => ⟨rfl, rfl⟩⟩, rfl, Iff.rfl⟩

/-- A run resolves the name of its candidate through a registry exactly if its grader sees that
registry or the registry does not have the name, and the operation of the name is not called missing
by itself. -/
theorem resolves_iff_of_sees {sees : Prop} (seen : sees → grader.visible registry = registry)
    (unseen : ¬sees → grader.visible registry = {}) :
    grader.Resolves registry exercise bench ↔
      (sees ∨ registry.holds exercise.candidateName = false) ∧
      ∀ operation,
        registry.listing.find? exercise.candidateName = some (.operation operation) →
          ¬ IsMissing
            (grader.graded registry exercise (.given (.operation operation)) bench) := by
  constructor
  · intro resolves
    have either : sees ∨ registry.holds exercise.candidateName = false := by
      by_cases looks : sees
      · exact .inl looks
      · refine .inr (resolves.missing.1 (isMissing_of_absent ?_))
        rw [unseen looks]
        rfl
    refine ⟨either, fun operation found missing => Registry.not_absent_of_found found ?_⟩
    rcases either with looks | absent
    · exact resolves.missing.1 ((isOf_outcome (seen looks) found).2.2.2 missing)
    · exact absent
  · rintro ⟨either, named⟩
    have looks : ∀ {item}, registry.listing.find? exercise.candidateName = some item → sees :=
      fun found => either.resolve_right (Registry.not_absent_of_found found)
    refine ⟨⟨fun missing => ?_, fun absent => isMissing_of_absent ?_⟩, fun operation found => ?_⟩
    · cases found : registry.listing.find? exercise.candidateName with
      | none =>
        rw [Registry.holds, Listing.holds, found]
        rfl
      | some item =>
        have sees := seen (looks found)
        cases item with
        | operation operation =>
          exact absurd ((isOf_outcome sees found).2.2.1 missing) (named operation found)
        | value datum => exact absurd missing (not_isMissing_of_value (sees.symm ▸ found))
    · by_cases looks : sees
      · rw [seen looks]
        exact absent
      · rw [unseen looks]
        rfl
    · rcases isOf_outcome (seen (looks found)) found with ⟨same, benches, -⟩
      exact ⟨same, benches⟩

/-! ## Graders and the registries they are made with -/

/-- A grader that was made with a registry sees it if it was not empty. -/
theorem visible_of_made {configuration : Configuration} {built : Registry Float}
    {definitions : Definitions Float} {grader : Grader Float}
    (made : ofConfiguration configuration built definitions = .ok grader)
    (registry : Registry Float) :
    (built.size ≠ 0 → grader.visible registry = registry) ∧
      (¬built.size ≠ 0 → grader.visible registry = {}) := by
  rw [ofConfiguration] at made
  rcases Fault.bind_eq_ok_iff.1 made with ⟨profile, -, filledIn⟩
  cases filledIn
  simp only [visible]
  exact ⟨fun filled => if_pos (decide_eq_true filled),
    fun empty => if_neg (by simpa using empty)⟩

/-- A reporter that does not start ends a run before its candidate is looked for. -/
theorem grade_of_busy {reporter : Reporter R σ} {candidate : Candidate R} {state after : σ}
    {fault : Fault} (busy : reporter.start exercise state = (.error fault, after)) :
    grader.grade registry reporter exercise candidate (bench, state) =
      (.error fault, (bench, after)) := by
  refine Action.bind_of_error ?_
  rw [Action.onSecond, busy]

/-- Before and after a grader is made, its registry is written into.  What a name stands for at the
time of grading is what the journal of both histories has last under it, or what it stood for at
first.  A run with an idle reporter always has a result; it resolves the name of its candidate
through the registry exactly if the registry was not empty when the grader was made or does not have
the name now, and no fault of a class that is called like the refusal of a missing candidate comes
out of the operation of that name. -/
theorem resolves_name_iff (initial : Registry Float) (before since : List (RegistryCall Float))
    {configuration : Configuration} {definitions : Definitions Float} {grader : Grader Float}
    (made : ofConfiguration configuration (initial.after before) definitions = .ok grader)
    {reporter : Reporter Float σ} {active : σ → Option String} (sound : reporter.IsSound active)
    (exercise : Exercise Float) (bench : Bench Float) {state : σ} (idle : active state = none) :
    let atHand := (initial.after before).after since
    let journal := initial.journal (before ++ since)
    let name := exercise.candidateName
    (∀ operation, Registry.IsLatest journal name operation →
      atHand.listing.find? name = some (.operation operation)) ∧
    ((∀ entry ∈ journal, entry.1 ≠ name) →
      atHand.listing.find? name = initial.listing.find? name) ∧
    (∀ candidate, ∃ after,
      grader.grade atHand reporter exercise candidate (bench, state) =
        (.ok (grader.outcome atHand exercise bench candidate).1,
          ((grader.outcome atHand exercise bench candidate).2, after))) ∧
    (grader.Resolves atHand exercise bench ↔
      ((initial.after before).size ≠ 0 ∨ atHand.holds name = false) ∧
      ∀ operation, atHand.listing.find? name = some (.operation operation) →
        ¬ IsMissing (grader.graded atHand exercise (.given (.operation operation)) bench)) ∧
    ∀ operation,
      IsMissing (grader.graded atHand exercise (.given (.operation operation)) bench) →
        ∃ fault, grader.Meets exercise operation bench fault ∧
          fault.kind = .other "missing operation" := by
  intro atHand journal name
  have written : atHand = initial.enter journal := by
    rw [← Registry.after_eq, Registry.after_append]
  rcases visible_of_made made atHand with ⟨seen, unseen⟩
  refine ⟨fun operation latest => ?_, fun absent => ?_, fun candidate => ⟨_, grade_eq sound idle⟩,
    resolves_iff_of_sees seen unseen, fun operation => exists_meets_of_isMissing⟩
  · rw [written]
    exact Registry.find?_enter_of_isLatest latest
  · rw [written]
    exact Registry.find?_enter_of_absent absent

/-- A negation that is registered before the grader is made is replaced by an operation on two
qubits afterwards, and the exercise is graded with that one. -/
theorem resolves_name_of_replaced :
    let negation : Operation Float := LibraryConstant.operation (.fixed .x)
    let wider : Operation Float := LibraryConstant.operation .cnot
    let before : List (RegistryCall Float) := [.register "flip_qubit" (.operation negation) false]
    let since : List (RegistryCall Float) := [.register "flip_qubit" (.operation wider) true]
    ∃ grader, ofConfiguration .standard (Registry.after {} before) {} = .ok grader ∧
      grader.Resolves ((Registry.after {} before).after since) Exercise.flipQubit grader.bench ∧
      (grader.outcome ((Registry.after {} before).after since) Exercise.flipQubit grader.bench
        .byDefault).1 = arityRefusal Exercise.flipQubit "flip_qubit" wider := by
  intro negation wider before since
  have made : ∃ grader, ofConfiguration .standard (Registry.after {} before) {} = .ok grader :=
    ⟨_, rfl⟩
  rcases made with ⟨grader, made⟩
  have idle : ReporterState.active ({} : ReporterState Float) = none := rfl
  rcases resolves_name_iff {} before since made Reporter.isSound_collecting Exercise.flipQubit
    grader.bench idle with ⟨latest, -, -, exact, -⟩
  have found := latest wider ⟨[("flip_qubit", negation)], [], rfl, List.forall_mem_nil _⟩
  have resolves := exact.2 ⟨.inl (by decide), fun operation isFound missing => by
    cases found.symm.trans isFound
    have mismatch : some "signature mismatch" = some "missing operation" := missing.2
    exact absurd mismatch (by decide)⟩
  exact ⟨grader, made, resolves, ((resolves.found wider found).1.differing (by decide)).1⟩

/-- A grader that is made with an empty registry does not find what is registered afterwards.  A
reporter that is busy ends the run of a grader without a result. -/
theorem empty_registry_unseen :
    let negation : Operation Float := LibraryConstant.operation (.fixed .x)
    let atHand : Registry Float :=
      Registry.after {} [.register "flip_qubit" (.operation negation) false]
    ∃ grader, ofConfiguration .standard {} {} = .ok grader ∧
      atHand.listing.find? "flip_qubit" = some (.operation negation) ∧
      (∃ result later after,
        grader.grade atHand Reporter.collecting Exercise.flipQubit .byDefault (grader.bench, {}) =
          (.ok result, (later, after)) ∧ IsMissing result) ∧
      ¬ grader.Resolves atHand Exercise.flipQubit grader.bench ∧
      (grader.grade atHand Reporter.collecting Exercise.flipQubit .byDefault
        (grader.bench, { active := some "flip_qubit" })).1 =
          .error (.reporterBusy "flip_qubit" "flip_qubit") := by
  intro negation atHand
  have made : ∃ grader, ofConfiguration .standard {} {} = .ok grader := ⟨_, rfl⟩
  rcases made with ⟨grader, made⟩
  have unseen : grader.visible atHand = {} := (visible_of_made made atHand).2 (by decide)
  have idle : ReporterState.active ({} : ReporterState Float) = none := rfl
  have missing :
      IsMissing (grader.outcome atHand Exercise.flipQubit grader.bench .byDefault).1 := by
    refine isMissing_of_absent ?_
    rw [unseen]
    rfl
  have found : atHand.listing.find? "flip_qubit" = some (.operation negation) := rfl
  have held := Registry.not_absent_of_found found
  refine ⟨grader, made, found, ⟨_, _, _, grade_eq Reporter.isSound_collecting idle, missing⟩,
    fun resolves => held (resolves.missing.1 missing), ?_⟩
  have busy : Reporter.collecting.start (Exercise.flipQubit (R := Float))
      { active := some "flip_qubit" } = (.error (.reporterBusy "flip_qubit" "flip_qubit"),
        ({ active := some "flip_qubit" } : ReporterState Float)) := rfl
  rw [grade_of_busy busy]

end Grader

end QuantumKata
