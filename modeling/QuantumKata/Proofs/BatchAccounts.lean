import QuantumKata.Proofs.BatchRuns

/-!
# What a batch accounts for

A batch is to end with zero, to show one line for each of its submissions, in the order of their
names, and to leave a summary with one entry for each of them.  The place for the summary is made
when the first results are saved.  So if nothing can be loaded, and the place is not there, the
summary cannot be written, and the batch ends with a fault after all lines have been shown.

This is stated for all batches: what a batch is to do comes about exactly if grading can begin, no
name and no text of a fault has a line feed, no two submissions are called the same in the summary,
and there is room for what is written.
-/

namespace QuantumKata.CommandLine

open Text

/-! ## What a batch is to do -/

/-- The name of the summary. -/
def summaryName (stamp : String) : String := "summary_" ++ stamp ++ ".json"

/-- The path of the summary in the place for results. -/
def summaryPath (output stamp : String) : Path := (Path.ofText output).child (summaryName stamp)

/-- The lines that are shown first: how many submissions and exercises there are. -/
def headerLines (order : BatchOrder) (paths : List Path) : List String :=
  ["Grading " ++ Decimal.digits paths.length ++ " submission(s) on " ++
    Decimal.digits (chosenExercises order.tag).length ++ " exercise(s)",
    Console.Table.line '=' 60]

/-- The lines that are shown last: where the summary is. -/
def closingLines (order : BatchOrder) (stamp : String) : List String :=
  match order.output with
  | none => []
  | some output => ["", "Summary saved to " ++ (summaryPath output stamp).text]

/-- The configuration of a batch. -/
def configurationFor (order : BatchOrder) (store : Store) : Except Fault Configuration :=
  configurationAt store (order.configuration.map fun path => (Path.ofText path).text)

/-- A batch has ended with zero, has shown one line for each submission and has left a summary with
one entry for each of them. -/
structure IsAccount (order : BatchOrder) (stamp : String) (store : Store)
    (configuration : Configuration) (paths : List Path) (entries : List BatchEntry)
    (ended : Except Fault Nat × Workspace) : Prop where
  accounted : List.Forall₂ (Accounted order configuration store) paths entries
  ends : ended.1 = .ok 0
  shown : ∀ time, rows (ended.2.shown time) =
    (headerLines order paths ++ List.zipWith lineOf paths entries).map String.toList ++
      (closingLines order stamp).flatMap rows ++ [[]]
  summarized : ∀ output, order.output = some output →
    ended.2.store.read? (summaryPath output stamp) =
      some (.record (.record ((paths.map Path.stem).zip (entries.map BatchEntry.toRecord))))

/-- A batch accounts for its submissions. -/
def Accounts (order : BatchOrder) (stamp : String) (store : Store) (paths : List Path)
    (ended : Except Fault Nat × Workspace) : Prop :=
  ∃ configuration entries, configurationFor order store = .ok configuration ∧
    IsAccount order stamp store configuration paths entries ended

/-- There is room for what is written in the place for results.  If nothing is loaded the place is
not made, and has to be there. -/
structure HasRoom (store : Store) (stamp : String) (paths : List Path) (output : Path) : Prop where
  made : (∃ path ∈ paths, Loads store path) → ∃ made, store.makeDirectory output = .ok made ∧
    made.Hosts output (summaryName stamp) ∧
    ∀ path ∈ paths, Loads store path → made.Hosts output (path.stem ++ ".json")
  found : (∀ path ∈ paths, ¬ Loads store path) → store.Hosts output (summaryName stamp)

/-- Nothing keeps a batch from accounting for its submissions. -/
structure IsAccountable (order : BatchOrder) (stamp : String) (store : Store)
    (configuration : Configuration) (paths : List Path) : Prop where
  canGrade : (∃ path ∈ paths, Loads store path) → CanGrade order configuration
  single : ∀ path ∈ paths, OneLine path.stem ∧
    ∀ fault, Submission.load store path.text = .error fault → OneLine fault.text
  distinct : order.output ≠ none → (paths.map Path.stem).Nodup
  room : ∀ output, order.output = some output → HasRoom store stamp paths (.ofText output)

variable {order : BatchOrder} {configuration : Configuration} {store : Store} {stamp : String}
  {paths : List Path} {entries : List BatchEntry} {workspace : Workspace} {words : List String}

/-! ## The course of a batch -/

/-- The end of a batch. -/
def conclude (order : BatchOrder) (stamp : String) (entries : List (String × BatchEntry)) :
    ProgramAction Nat :=
  match order.output with
  | none => pure 0
  | some output => do
    saveSummary output stamp entries
    return 0

/-- The summary of a batch. -/
def summaryOf (entries : List (String × BatchEntry)) : Datum :=
  .record ((Listing.ofList entries).entries.map fun (name, entry) => (name, entry.toRecord))

/-- The workspace when the first lines have been written. -/
def withHeader (order : BatchOrder) (store : Store) (paths : List Path) : Workspace :=
  ⟨store, (headerLines order paths).map .text⟩

theorem stage_withHeader (order : BatchOrder) (store : Store) (paths : List Path) :
    Stage order store (withHeader order store paths).store False :=
  ⟨fun _ => rfl, fun _ => rfl, False.elim⟩

theorem runOrder_eq (configured : configurationFor order store = .ok configuration)
    (filled : submissionsIn store (.ofText order.directory) ≠ []) :
    runOrder order stamp { store } =
      (do
        let entries ← gradeSubmissions order configuration (chosenExercises order.tag)
          (submissionsIn store (.ofText order.directory))
        conclude order stamp entries : ProgramAction Nat)
        (withHeader order store (submissionsIn store (.ofText order.directory))) := by
  rw [configurationFor] at configured
  rw [runOrder, Action.inspect_bind, configured, Action.ok_bind]
  obtain ⟨first, rest, listed⟩ := List.exists_cons_of_ne_nil filled
  simp only [listed]
  have wrote : writeTexts (headerLines order (first :: rest)) { store } =
      (.ok (), withHeader order store (first :: rest)) := rfl
  refine (Action.bind_of_ok wrote).trans ?_
  refine congrFun (congrArg (gradeSubmissions _ _ _ _ >>= ·) (funext fun entries => ?_)) _
  rw [conclude]
  cases order.output <;> rfl

/-- Where nothing keeps the submissions from being graded, what is left is to write the summary. -/
theorem runOrder_of_gradable (stamp : String) (tidy : store.IsTidy)
    (configured : configurationFor order store = .ok configuration)
    (filled : submissionsIn store (.ofText order.directory) ≠ [])
    (gradable : ∀ path ∈ submissionsIn store (.ofText order.directory),
      IsGradable order configuration store path) :
    let paths := submissionsIn store (.ofText order.directory)
    ∃ entries after, runOrder order stamp { store } =
        conclude order stamp ((paths.map Path.stem).zip entries) after ∧
      List.Forall₂ (Accounted order configuration store) paths entries ∧
      after.output = (headerLines order paths ++ List.zipWith lineOf paths entries).map .text ∧
      Stage order store after.store (∃ path ∈ paths, Loads store path) := by
  intro paths
  obtain ⟨entries, after, graded, accounted, wrote, stage⟩ :=
    gradeSubmissions_of_gradable tidy (fun _ member => member) gradable
      (stage_withHeader order store paths)
  refine ⟨entries, after, ?_, accounted, ?_, stage.of_iff (or_iff_right not_false)⟩
  · rw [runOrder_eq configured filled, Action.bind_of_ok graded]
  · rw [wrote, List.map_append]
    rfl

theorem runOrder_of_not_gradable (stamp : String) (tidy : store.IsTidy)
    (configured : configurationFor order store = .ok configuration)
    (filled : submissionsIn store (.ofText order.directory) ≠ [])
    (hindered : ¬ ∀ path ∈ submissionsIn store (.ofText order.directory),
      IsGradable order configuration store path) :
    ∃ fault after, runOrder order stamp { store } = (.error fault, after) := by
  obtain ⟨fault, after, fails⟩ :=
    gradeSubmissions_of_not_gradable tidy (fun _ member => member) hindered
      (stage_withHeader order store _)
  exact ⟨fault, after, by rw [runOrder_eq configured filled, Action.bind_of_error fails]⟩

/-! ## Lines -/

theorem rows_shown {lines : List String} (time : Nat → String)
    (wrote : workspace.output = lines.map .text) :
    rows (workspace.shown time) = lines.flatMap rows ++ [[]] := by
  rw [Workspace.shown, wrote, List.map_map, ← rows_join]
  rfl

/-- Texts are shown as one line each if none of them has a line feed. -/
theorem flatMap_rows_iff {texts : List String} :
    texts.flatMap rows = texts.map String.toList ↔ ∀ text ∈ texts, OneLine text := by
  constructor
  · intro same text member
    have row : text.toList ∈ texts.flatMap rows := same ▸ List.mem_map_of_mem member
    obtain ⟨other, -, cut⟩ := List.mem_flatMap.1 row
    exact not_mem_of_mem_splitOn cut
  · intro single
    rw [List.map_eq_flatMap]
    exact List.flatMap_congr fun text member => rows_of_oneLine (single text member)

theorem oneLine_headerLines (order : BatchOrder) (paths : List Path) :
    ∀ text ∈ headerLines order paths, OneLine text := by
  have digits := Decimal.oneLine_digits
  refine List.forall_mem_cons.2 ⟨?_, List.forall_mem_singleton.2 ?_⟩
  · simp only [oneLine_append]
    exact ⟨⟨⟨⟨by decide, digits _⟩, by decide⟩, digits _⟩, by decide⟩
  · exact oneLine_ofList fun member => absurd (List.eq_of_mem_replicate member) (by decide)

theorem oneLine_lines_iff
    (accounted : List.Forall₂ (Accounted order configuration store) paths entries) :
    (∀ text ∈ List.zipWith lineOf paths entries, OneLine text) ↔
      ∀ path ∈ paths, OneLine path.stem ∧
        ∀ fault, Submission.load store path.text = .error fault → OneLine fault.text := by
  induction accounted with
  | nil => exact iff_of_true (List.forall_mem_nil _) (List.forall_mem_nil _)
  | cons first rest ih =>
    rw [List.zipWith_cons_cons, List.forall_mem_cons, List.forall_mem_cons, ih,
      oneLine_lineOf first]

/-- What is shown has one line for each submission if none of their lines has a line feed. -/
theorem shown_iff (accounted : List.Forall₂ (Accounted order configuration store) paths entries)
    (wrote : workspace.output = (headerLines order paths ++ List.zipWith lineOf paths entries ++
      closingLines order stamp).map .text) :
    (∀ time, rows (workspace.shown time) =
        (headerLines order paths ++ List.zipWith lineOf paths entries).map String.toList ++
          (closingLines order stamp).flatMap rows ++ [[]]) ↔
      ∀ path ∈ paths, OneLine path.stem ∧
        ∀ fault, Submission.load store path.text = .error fault → OneLine fault.text := by
  rw [← oneLine_lines_iff accounted]
  have split : (∀ text ∈ headerLines order paths ++ List.zipWith lineOf paths entries,
      OneLine text) ↔ ∀ text ∈ List.zipWith lineOf paths entries, OneLine text := by
    rw [List.forall_mem_append, and_iff_right (oneLine_headerLines order paths)]
  rw [← split, ← flatMap_rows_iff]
  simp only [fun time => rows_shown time wrote, List.flatMap_append, List.append_cancel_right_eq]
  exact ⟨fun same => same fun _ => "", fun same _ => same⟩

/-! ## The summary -/

theorem record_injective : Function.Injective Datum.record := by
  intro first second same
  refine List.map_injective_iff.2 ?_ (Datum.mapping.inj same)
  rintro ⟨name, datum⟩ ⟨other, otherDatum⟩ both
  cases both
  rfl

/-- The summary has one entry for each submission if no two of them have one stem. -/
theorem summaryOf_eq_iff {names : List String} (lengths : names.length = entries.length) :
    summaryOf (names.zip entries) = .record (names.zip (entries.map BatchEntry.toRecord)) ↔
      names.Nodup := by
  have firsts : (names.zip entries).map Prod.fst = names := List.map_fst_zip lengths.le
  rw [summaryOf, record_injective.eq_iff]
  constructor
  · intro same
    have written := congrArg (List.map Prod.fst) same
    rw [List.map_map, List.map_fst_zip (by rw [List.length_map, lengths])] at written
    rw [← written]
    exact Listing.nodup_names_ofList _
  · intro distinct
    rw [Listing.entries_ofList (firsts.symm ▸ distinct), List.zip_map_right]
    rfl

theorem summaryName_ne (stamp : String) : summaryName stamp ≠ ".." := by
  intro same
  have first := congrArg (fun name : String => name.toList.head?) same
  simp [summaryName] at first

/-- The place for results has room for the summary when all submissions have been graded. -/
theorem Stage.hosts_iff {now : Store} {loaded : Prop} {output leaf : String}
    (stage : Stage order store now loaded) (placed : order.output = some output) :
    now.Hosts (.ofText output) leaf ↔
      (loaded → ∃ made, store.makeDirectory (.ofText output) = .ok made ∧
        made.Hosts (.ofText output) leaf) ∧
      (¬ loaded → store.Hosts (.ofText output) leaf) := by
  by_cases any : loaded
  · obtain ⟨made, makes, settles⟩ := stage.saved any output placed
    rw [Store.hosts_of_settles settles, makes]
    simp [any]
  · rw [stage.untouched any]
    simp [any]

/-! ## The end of a batch -/

/-- If there is room for the summary, the batch ends with zero, and the summary can be read. -/
theorem conclude_of_hosts {output : String} (placed : order.output = some output)
    (hosts : workspace.store.Hosts (.ofText output) (summaryName stamp))
    (entries : List (String × BatchEntry)) :
    ∃ now, conclude order stamp entries workspace =
        (.ok 0, ⟨now, workspace.output ++ (closingLines order stamp).map .text⟩) ∧
      now.read? (summaryPath output stamp) = some (.record (summaryOf entries)) := by
  obtain ⟨now, written⟩ := (Store.exists_write_iff (summaryName_ne stamp)).2 hosts
  have saves : saveSummary output stamp entries workspace = (.ok (), ⟨now, workspace.output ++
      ["", "Summary saved to " ++ (summaryPath output stamp).text].map .text⟩) := by
    rw [saveSummary]
    exact Action.bind_of_ok (changeStore_of_ok written)
  refine ⟨now, ?_, Store.read?_of_write (summaryName_ne stamp) written⟩
  rw [conclude, closingLines, placed]
  exact Action.bind_of_ok saves

/-- Otherwise it ends with a fault, and nothing else is shown. -/
theorem conclude_of_full {output : String} (placed : order.output = some output)
    (full : ¬ workspace.store.Hosts (.ofText output) (summaryName stamp))
    (entries : List (String × BatchEntry)) :
    ∃ problem, workspace.store.problemAt? (workspace.store.place? (summaryPath output stamp)) =
        some problem ∧
      conclude order stamp entries workspace =
        (.error (.unusablePath problem (summaryPath output stamp).text), workspace) := by
  obtain ⟨problem, occurs, refused⟩ := Store.exists_problem (.record (summaryOf entries))
    (mt (Store.exists_write_iff (summaryName_ne stamp)).1 full)
  have fails : saveSummary output stamp entries workspace =
      (.error (.unusablePath problem (summaryPath output stamp).text), workspace) := by
    rw [saveSummary]
    exact Action.bind_of_error (changeStore_of_error refused)
  refine ⟨problem, occurs, ?_⟩
  rw [conclude, placed]
  exact Action.bind_of_error fails

/-- Where there are entries for all submissions, the batch accounts for them if their lines and
their stems are as they should be and there is room for the summary. -/
theorem isAccount_conclude_iff (stamp : String)
    (accounted : List.Forall₂ (Accounted order configuration store) paths entries)
    (wrote : workspace.output =
      (headerLines order paths ++ List.zipWith lineOf paths entries).map .text) :
    IsAccount order stamp store configuration paths entries
        (conclude order stamp ((paths.map Path.stem).zip entries) workspace) ↔
      (∀ path ∈ paths, OneLine path.stem ∧
        ∀ fault, Submission.load store path.text = .error fault → OneLine fault.text) ∧
      (order.output ≠ none → (paths.map Path.stem).Nodup) ∧
      ∀ output, order.output = some output →
        workspace.store.Hosts (.ofText output) (summaryName stamp) := by
  have lengths : (paths.map Path.stem).length = entries.length := by
    rw [List.length_map, accounted.length_eq]
  cases placed : order.output with
  | none =>
    have ended : conclude order stamp ((paths.map Path.stem).zip entries) workspace =
        (.ok 0, workspace) := by
      rw [conclude, placed]
      rfl
    have closed : workspace.output = (headerLines order paths ++
        List.zipWith lineOf paths entries ++ closingLines order stamp).map .text := by
      rw [closingLines, placed, List.append_nil, wrote]
    rw [ended, ← shown_iff accounted closed]
    constructor
    · exact fun account => ⟨account.shown, nofun, nofun⟩
    · rintro ⟨shown, -, -⟩
      exact ⟨accounted, rfl, shown, fun _ asked => nomatch placed.symm.trans asked⟩
  | some output =>
    simp only [ne_eq, reduceCtorEq, not_false_eq_true, true_implies, Option.some.injEq, forall_eq']
    by_cases hosts : workspace.store.Hosts (.ofText output) (summaryName stamp)
    · obtain ⟨now, ended, read⟩ :=
        conclude_of_hosts placed hosts ((paths.map Path.stem).zip entries)
      have closed :
          (Workspace.mk now (workspace.output ++ (closingLines order stamp).map .text)).output =
          (headerLines order paths ++ List.zipWith lineOf paths entries ++
            closingLines order stamp).map .text := by
        rw [wrote, ← List.map_append]
      have shown := shown_iff accounted closed
      have summary := summaryOf_eq_iff lengths
      rw [ended]
      constructor
      · intro account
        have summarized := account.summarized output placed
        rw [read] at summarized
        exact ⟨shown.1 account.shown,
          summary.1 (FileContent.record.inj (Option.some.inj summarized)), hosts⟩
      · rintro ⟨single, distinct, -⟩
        refine ⟨accounted, rfl, shown.2 single, fun other asked => ?_⟩
        cases placed.symm.trans asked
        rw [read, summary.2 distinct]
    · obtain ⟨problem, -, ended⟩ :=
        conclude_of_full placed hosts ((paths.map Path.stem).zip entries)
      rw [ended]
      refine iff_of_false (fun account => ?_) fun all => hosts all.2.2
      cases account.ends

/-! ## Accounting for all submissions -/

theorem gradable_iff : (∀ path ∈ paths, IsGradable order configuration store path) ↔
    ((∃ path ∈ paths, Loads store path) → CanGrade order configuration) ∧
      ∀ output, order.output = some output → ∀ path ∈ paths, Loads store path →
        ∃ made, store.makeDirectory (.ofText output) = .ok made ∧
          made.Hosts (.ofText output) (path.stem ++ ".json") := by
  constructor
  · intro gradable
    refine ⟨fun ⟨path, member, loads⟩ => (gradable path member loads).1, ?_⟩
    exact fun output placed path member loads => (gradable path member loads).2 output placed
  · rintro ⟨canGrade, place⟩ path member loads
    refine ⟨canGrade ⟨path, member, loads⟩, fun output placed => ?_⟩
    exact place output placed path member loads

/-- There is room in a place if there is room for the summary, given whether the place has been
made, and for the results of every submission that is loaded. -/
theorem hasRoom_iff {output : Path} : HasRoom store stamp paths output ↔
    (((∃ path ∈ paths, Loads store path) → ∃ made, store.makeDirectory output = .ok made ∧
        made.Hosts output (summaryName stamp)) ∧
      (¬ (∃ path ∈ paths, Loads store path) → store.Hosts output (summaryName stamp))) ∧
    ∀ path ∈ paths, Loads store path → ∃ made, store.makeDirectory output = .ok made ∧
      made.Hosts output (path.stem ++ ".json") := by
  constructor
  · rintro ⟨made, found⟩
    refine ⟨⟨fun any => ?_, fun none => ?_⟩, fun path member loads => ?_⟩
    · obtain ⟨made, makes, summary, -⟩ := made any
      exact ⟨made, makes, summary⟩
    · exact found fun path member loads => none ⟨path, member, loads⟩
    · obtain ⟨made, makes, -, each⟩ := made ⟨path, member, loads⟩
      exact ⟨made, makes, each path member loads⟩
  · rintro ⟨⟨whenAny, whenNone⟩, each⟩
    refine ⟨fun any => ?_, fun none => whenNone fun ⟨path, member, loads⟩ => none path member loads⟩
    obtain ⟨made, makes, summary⟩ := whenAny any
    refine ⟨made, makes, summary, fun path member loads => ?_⟩
    obtain ⟨same, makesSame, hosts⟩ := each path member loads
    cases makes.symm.trans makesSame
    exact hosts

/-- A batch whose configuration can be read accounts for its submissions if nothing keeps it from
that. -/
theorem accounts_iff (tidy : store.IsTidy)
    (configured : configurationFor order store = .ok configuration)
    (filled : submissionsIn store (.ofText order.directory) ≠ []) :
    Accounts order stamp store (submissionsIn store (.ofText order.directory))
        (runOrder order stamp { store }) ↔
      IsAccountable order stamp store configuration
        (submissionsIn store (.ofText order.directory)) := by
  by_cases gradable : ∀ path ∈ submissionsIn store (.ofText order.directory),
      IsGradable order configuration store path
  · obtain ⟨entries, after, ran, accounted, wrote, stage⟩ :=
      runOrder_of_gradable stamp tidy configured filled gradable
    obtain ⟨canGrade, place⟩ := gradable_iff.1 gradable
    have concluded := isAccount_conclude_iff stamp accounted wrote
    rw [ran]
    constructor
    · rintro ⟨other, entriesToo, configuredToo, account⟩
      -- There is one entry for each submission, so these are the entries of the run.
      cases configured.symm.trans configuredToo
      have unique : Relator.RightUnique (Accounted order configuration store) :=
        fun _ _ _ => Accounted.unique
      obtain rfl : entriesToo = entries :=
        List.right_unique_forall₂' unique account.accounted accounted
      obtain ⟨single, distinct, hosts⟩ := concluded.1 account
      refine ⟨canGrade, single, distinct, fun output placed => hasRoom_iff.2 ⟨?_, ?_⟩⟩
      · exact (stage.hosts_iff placed).1 (hosts output placed)
      · exact place output placed
    · rintro ⟨-, single, distinct, room⟩
      refine ⟨configuration, entries, configured, concluded.2 ⟨single, distinct, ?_⟩⟩
      intro output placed
      exact (stage.hosts_iff placed).2 (hasRoom_iff.1 (room output placed)).1
  · obtain ⟨fault, after, fails⟩ :=
      runOrder_of_not_gradable stamp tidy configured filled gradable
    rw [fails]
    refine iff_of_false ?_ ?_
    · rintro ⟨other, entries, -, account⟩
      cases account.ends
    · rintro ⟨canGrade, -, -, room⟩
      exact gradable (gradable_iff.2
        ⟨canGrade, fun output placed => (hasRoom_iff.1 (room output placed)).2⟩)

/-- A place that can be made and then has room has it from the beginning on if it is there, or if
something is loaded so that it is made. -/
theorem hasRoom_iff_of_made {output : Path} {made : Store}
    (makes : store.makeDirectory output = .ok made)
    (summary : made.Hosts output (summaryName stamp))
    (each : ∀ path ∈ paths, Loads store path → made.Hosts output (path.stem ++ ".json")) :
    HasRoom store stamp paths output ↔
      (∃ path ∈ paths, Loads store path) ∨ store.leadsToDirectory output = true := by
  constructor
  · intro room
    by_cases any : ∃ path ∈ paths, Loads store path
    · exact .inl any
    · exact .inr (room.found fun path member loads => any ⟨path, member, loads⟩).directory
  · intro either
    refine ⟨fun _ => ⟨made, makes, summary, each⟩, fun none => ⟨?_, ?_⟩⟩
    · exact either.resolve_left fun ⟨path, member, loads⟩ => none path member loads
    · have grows := Store.grows_of_makeDirectory makes
      exact Bool.eq_false_iff.2 fun leads =>
        Bool.eq_false_iff.1 summary.free (Store.leadsToDirectory_of_grows grows leads)

/-- If nothing is loaded and the place for results is not there, the batch ends with a fault, after
a line for each submission has been shown. -/
theorem runOrder_of_unplaced (stamp : String) {output : String} (tidy : store.IsTidy)
    (configured : configurationFor order store = .ok configuration)
    (filled : submissionsIn store (.ofText order.directory) ≠ [])
    (placed : order.output = some output)
    (none : ∀ path ∈ submissionsIn store (.ofText order.directory), ¬ Loads store path)
    (absent : store.leadsToDirectory (.ofText output) = false) :
    let paths := submissionsIn store (.ofText order.directory)
    ∃ entries problem after, List.Forall₂ (Accounted order configuration store) paths entries ∧
      store.problemAt? (store.place? (summaryPath output stamp)) = some problem ∧
      runOrder order stamp { store } =
        (.error (.unusablePath problem (summaryPath output stamp).text), after) ∧
      after.store = store ∧
      ∀ time, rows (after.shown time) =
        (headerLines order paths ++ List.zipWith lineOf paths entries).flatMap rows ++ [[]] := by
  intro paths
  have gradable : ∀ path ∈ paths, IsGradable order configuration store path :=
    fun path member loads => absurd loads (none path member)
  obtain ⟨entries, after, ran, accounted, wrote, stage⟩ :=
    runOrder_of_gradable stamp tidy configured filled gradable
  have untouched : after.store = store :=
    stage.untouched fun ⟨path, member, loads⟩ => none path member loads
  have full : ¬ after.store.Hosts (.ofText output) (summaryName stamp) := by
    rw [untouched]
    exact fun hosts => Bool.eq_false_iff.1 absent hosts.directory
  obtain ⟨problem, occurs, ended⟩ :=
    conclude_of_full placed full ((paths.map Path.stem).zip entries)
  rw [untouched] at occurs
  exact ⟨entries, problem, after, accounted, occurs, ran.trans ended, untouched,
    fun time => rows_shown time wrote⟩

/-- A submission that raises a fault when it is loaded. -/
def refusing : SubmissionPlan := .refusing (.raised (.other "RuntimeError") [.text "boom"])

/-- Grading the submissions in one directory and saving the results in another one. -/
def gradingInto : BatchOrder := { directory := "d", output := some "out" }

private theorem ofWords_gradingInto :
    BatchRequest.ofWords ["d", "--output", "out"] = .grade gradingInto := by
  with_unfolding_all rfl

private theorem ofText_directory : Path.ofText "d" = ⟨"", ["d"]⟩ := by
  rw [Path.ofText, splitOn_slash]
  decide

private theorem ofText_output : Path.ofText "out" = ⟨"", ["out"]⟩ := by
  rw [Path.ofText, splitOn_slash]
  decide

private theorem ofText_first : Path.ofText "d/a.py" = ⟨"", ["d", "a.py"]⟩ := by
  rw [Path.ofText, splitOn_slash]
  decide

private theorem ofText_second : Path.ofText "d/b.py" = ⟨"", ["d", "b.py"]⟩ := by
  rw [Path.ofText, splitOn_slash]
  decide

section Desk

-- A store whose files all stand in the directory of `gradingInto`.
variable {names : List String} {path : Path}
  (files : store.fileParts = names.map fun name => ["d", name])
include files

private theorem mem_submissionsIn_desk (scripts : ∀ name ∈ names, name.endsWith ".py" = true) :
    path ∈ submissionsIn store (.ofText "d") ↔ ∃ name ∈ names, path = ⟨"", ["d", name]⟩ := by
  rw [mem_submissionsIn, ofText_directory, files]
  constructor
  · rintro ⟨place, name, found, listed, -, rfl⟩
    obtain rfl : place = ["d"] := (Option.some.inj found).symm
    obtain ⟨other, member, same⟩ := List.mem_map.1 listed
    cases same
    exact ⟨name, member, rfl⟩
  · rintro ⟨name, member, rfl⟩
    exact ⟨["d"], name, rfl, List.mem_map_of_mem member, scripts name member, rfl⟩

private theorem hasDirectory_out (bare : store.directories = []) (rest : List String) :
    store.hasDirectory ("out" :: rest) = false := by
  rw [Bool.eq_false_iff, ne_eq, Store.hasDirectory_iff, bare, files]
  rintro (empty | ⟨made, member, -⟩ | ⟨file, member, inside, -⟩)
  · cases empty
  · cases member
  · obtain ⟨name, -, rfl⟩ := List.mem_map.1 member
    exact absurd (List.cons_prefix_cons.1 inside).1 (by decide)

/-- The place for results is not there. -/
private theorem leadsToDirectory_out (bare : store.directories = []) :
    store.leadsToDirectory (.ofText "out") = false := by
  rw [ofText_output, Bool.eq_false_iff]
  intro leads
  obtain ⟨place, found, there⟩ := Store.leadsToDirectory_iff.1 leads
  obtain rfl : place = ["out"] := (Option.some.inj found).symm
  exact absurd there (Bool.eq_false_iff.1 (hasDirectory_out files bare []))

/-- It can be made, and has room for everything then. -/
private theorem exists_made_out (bare : store.directories = [])
    (free : store.hasFile ["out"] = false) :
    ∃ made, store.makeDirectory (.ofText "out") = .ok made ∧
      ∀ leaf, leaf ≠ ".." → made.Hosts (.ofText "out") leaf := by
  have trail : Store.Trail [] ["out"] [["out"]] ["out"] := .down (by decide) (.ended ["out"])
  have makes := Store.makeDirectories_of_trail trail (List.forall_mem_singleton.2 free)
  rw [ofText_output]
  refine ⟨_, Store.makeDirectory_eq_ok_iff.2 ⟨rfl, makes⟩, fun leaf named => ?_⟩
  refine (Store.hosts_iff named).2 ⟨["out"], rfl, ?_, ?_⟩
  · exact Store.hasDirectory_made.2 (.inr ⟨["out"], List.mem_singleton.2 rfl, List.prefix_rfl⟩)
  · rw [Bool.eq_false_iff, ne_eq, Store.hasDirectory_made, List.singleton_append,
      hasDirectory_out files bare]
    rintro (there | ⟨visit, member, inside⟩)
    · cases there
    · cases List.mem_singleton.1 member
      exact absurd inside.length_le (Nat.not_succ_le_self 1)

end Desk

end QuantumKata.CommandLine
