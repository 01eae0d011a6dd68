import Mathlib.Data.String.Basic
import QuantumKata.CommandLine.Batch
import QuantumKata.Proofs.StoreGrowth

/-!
# The submissions of a directory

A batch grades the files of a directory whose names end in `.py`, sorted by name.  In a tidy store,
where each file is kept once and under the name that its path has, every such file is one
submission.  Records that are written while the batch is underway do not change what comes of
loading it.

In the summary a submission is called by its stem.  Two submissions have different stems, but for
`.py` and `.py.py`, since a point at the beginning of a name is not taken for that of an ending.
-/

namespace QuantumKata

namespace Store

variable {store : Store} {directory : Path} {name : String} {parts : List String}

/-- Every file is kept once, and under the name that its path has. -/
structure IsTidy (store : Store) : Prop where
  distinct : store.files.names.Nodup
  named : ∀ name ∈ store.files.names, fileName (Path.ofText name).parts = name

theorem mem_listDirectory : name ∈ store.listDirectory directory ↔
    ∃ place, store.place? directory = some place ∧ place ++ [name] ∈ store.fileParts := by
  rw [listDirectory]
  cases store.place? directory with
  | none => simp
  | some place =>
    simp only [List.mem_mergeSort, List.mem_filterMap, Option.some.injEq, exists_eq_left']
    constructor
    · rintro ⟨parts, member, chosen⟩
      split at chosen
      case isTrue inside =>
        obtain ⟨front, rfl⟩ := List.getLast?_eq_some_iff.1 chosen
        rw [List.dropLast_concat] at inside
        exact inside ▸ member
      case isFalse => cases chosen
    · exact fun member => ⟨_, member, by simp⟩

/-- The files of a directory are listed in the order of their names. -/
theorem pairwise_listDirectory (store : Store) (directory : Path) :
    (store.listDirectory directory).Pairwise (· ≤ ·) := by
  rw [listDirectory]
  split
  · exact .nil
  · refine (List.pairwise_mergeSort ?_ ?_ _).imp fun le => of_decide_eq_true le
    · intro first second third le further
      exact decide_eq_true (le_trans (of_decide_eq_true le) (of_decide_eq_true further))
    · intro first second
      simpa using le_total first second

theorem IsTidy.hasFile (tidy : store.IsTidy) (member : parts ∈ store.fileParts) :
    store.hasFile parts = true := by
  obtain ⟨name, listed, rfl⟩ := List.mem_map.1 member
  rw [Store.hasFile, tidy.named name listed]
  exact Listing.mem_names_iff.1 listed

theorem IsTidy.nodup_fileParts (tidy : store.IsTidy) : store.fileParts.Nodup := by
  refine List.Nodup.map_on ?_ tidy.distinct
  intro first member second memberSecond same
  rw [← tidy.named first member, same, tidy.named second memberSecond]

theorem IsTidy.nodup_listDirectory (tidy : store.IsTidy) (directory : Path) :
    (store.listDirectory directory).Nodup := by
  rw [listDirectory]
  split
  · exact .nil
  · refine (List.mergeSort_perm _ _).nodup_iff.2 (tidy.nodup_fileParts.filterMap ?_)
    intro first second name chosen chosenToo
    split at chosen
    · split at chosenToo
      · obtain ⟨front, rfl⟩ := List.getLast?_eq_some_iff.1 chosen
        obtain ⟨frontToo, rfl⟩ := List.getLast?_eq_some_iff.1 chosenToo
        simp_all
      · cases chosenToo
    · cases chosen

end Store

namespace Path

/-- The stem of a name that ends in `.py`. -/
theorem splitName_py (front : String) :
    (splitName (front ++ ".py")).1 = if front = "" then ".py" else front := by
  have backwards : (front ++ ".py").toList.reverse = 'y' :: 'p' :: '.' :: front.toList.reverse := by
    rw [String.toList_append, List.reverse_append]
    rfl
  rw [splitName, backwards]
  cases spelled : front.toList.reverse with
  | nil =>
    have nothing : front = "" := String.toList_eq_nil_iff.1 (List.reverse_eq_nil_iff.1 spelled)
    rw [nothing]
    rfl
  | cons last rest =>
    have filled : front ≠ "" := fun nothing => by simp [nothing] at spelled
    rw [if_neg filled, ← String.ofList_toList (s := front), ← List.reverse_reverse front.toList,
      spelled]
    rfl

end Path

namespace CommandLine

variable {store later : Store} {directory path : Path} {name : String} {front : List Char}

theorem endsWith_iff {text ending : String} :
    text.endsWith ending = true ↔ ending.toList <:+ text.toList := by
  rw [String.endsWith_eq_endsWith_toSlice, String.Slice.endsWith_string_iff, String.copy_toSlice]

/-- A submission is a file of the directory whose name ends in `.py`. -/
theorem mem_submissionsIn : path ∈ submissionsIn store directory ↔
    ∃ place name, store.place? directory = some place ∧ place ++ [name] ∈ store.fileParts ∧
      name.endsWith ".py" = true ∧ path = directory.child name := by
  simp only [submissionsIn, List.mem_map, List.mem_filter, Store.mem_listDirectory]
  constructor
  · rintro ⟨name, ⟨⟨place, found, member⟩, ending⟩, rfl⟩
    exact ⟨place, name, found, member, ending, rfl⟩
  · rintro ⟨place, name, found, member, ending, rfl⟩
    exact ⟨name, ⟨⟨place, found, member⟩, ending⟩, rfl⟩

theorem name_child : (directory.child name).name = name := by
  rw [Path.name, Path.child, List.getLastD_concat]

theorem child_injective (directory : Path) : Function.Injective directory.child := by
  intro first second same
  exact name_child.symm.trans ((congrArg Path.name same).trans name_child)

/-- The submissions are sorted by their names. -/
theorem pairwise_submissionsIn (store : Store) (directory : Path) :
    (submissionsIn store directory).Pairwise fun first second => first.name ≤ second.name := by
  refine List.pairwise_map.2 (((store.pairwise_listDirectory directory).filter _).imp ?_)
  intro first second le
  rw [name_child, name_child]
  exact le

theorem nodup_submissionsIn (tidy : store.IsTidy) (directory : Path) :
    (submissionsIn store directory).Nodup :=
  ((tidy.nodup_listDirectory directory).filter _).map (child_injective directory)

/-! ## Stems -/

/-- The name of a submission is proper and ends in `.py`, and the stem is what stands in front of
the ending, if anything does. -/
theorem exists_front (member : path ∈ submissionsIn store directory) :
    ∃ front, path = directory.child (front ++ ".py") ∧ Path.IsProperName (front ++ ".py") ∧
      path.stem = if front = "" then ".py" else front := by
  obtain ⟨place, name, -, listed, ending, rfl⟩ := mem_submissionsIn.1 member
  obtain ⟨chars, spelled⟩ := endsWith_iff.1 ending
  obtain rfl : name = String.ofList chars ++ ".py" := by
    rw [← String.toList_inj, String.toList_append, String.toList_ofList, spelled]
  obtain ⟨key, -, read⟩ := List.mem_map.1 listed
  refine ⟨_, rfl, Path.isProper_ofText key _ ?_, ?_⟩
  · rw [read]
    exact List.mem_append_right _ (List.mem_singleton_self _)
  · rw [Path.stem, name_child, Path.splitName_py]

/-- The records of submissions have proper names. -/
theorem isRecordName_stem (member : path ∈ submissionsIn store directory) :
    Store.IsRecordName (path.stem ++ ".json") := by
  obtain ⟨front, rfl, proper, stem⟩ := exists_front member
  have uncut : '/' ∉ (directory.child (front ++ ".py")).stem.toList := by
    rw [stem]
    split
    · decide
    · exact fun slash => proper.uncut (by simp [slash])
  have ending : ".json".toList <:+ ((directory.child (front ++ ".py")).stem ++ ".json").toList := by
    rw [String.toList_append]
    exact List.suffix_append _ _
  refine ⟨⟨?_, ?_, ?_⟩, ?_, ending⟩
  · exact fun same => absurd (same ▸ ending) (by decide)
  · exact fun same => absurd (same ▸ ending) (by decide)
  · rw [String.toList_append, List.mem_append, not_or]
    exact ⟨uncut, by decide⟩
  · exact fun same => absurd (same ▸ ending) (by decide)

/-- Of two submissions with one stem one is called `.py` and the other one `.py.py`. -/
theorem nodup_stems_iff (tidy : store.IsTidy) :
    ((submissionsIn store directory).map Path.stem).Nodup ↔
      ¬ (directory.child ".py" ∈ submissionsIn store directory ∧
        directory.child ".py.py" ∈ submissionsIn store directory) := by
  constructor
  · rintro distinct ⟨hidden, doubled⟩
    have same : (directory.child ".py").stem = (directory.child ".py.py").stem := by
      rw [Path.stem, name_child, Path.stem, name_child]
      exact (Path.splitName_py "").trans (Path.splitName_py ".py").symm
    have both := child_injective directory (List.inj_on_of_nodup_map distinct hidden doubled same)
    exact absurd both (by decide)
  · intro apart
    refine (nodup_submissionsIn tidy directory).map_on ?_
    intro first member second memberToo same
    obtain ⟨front, rfl, -, stem⟩ := exists_front member
    obtain ⟨frontToo, rfl, -, stemToo⟩ := exists_front memberToo
    rw [stem, stemToo] at same
    split at same
    case isTrue nothing =>
      subst nothing
      split at same
      case isTrue nothingToo => rw [nothingToo]
      case isFalse =>
        subst same
        exact absurd ⟨member, memberToo⟩ apart
    case isFalse =>
      split at same
      case isTrue nothingToo =>
        subst same nothingToo
        exact absurd ⟨memberToo, member⟩ apart
      case isFalse => rw [same]

/-! ## Loading -/

/-- A submission is loaded from its file. -/
theorem isFile_of_mem (relative : directory.root = "")
    (member : path ∈ submissionsIn store directory) : Submission.isFile path.text = true := by
  obtain ⟨place, name, -, -, ending, rfl⟩ := mem_submissionsIn.1 member
  have ends : ".py".toList <:+ (Store.fileName (directory.child name).parts).toList :=
    (endsWith_iff.1 ending).trans (Store.suffix_fileName _ _)
  have filled : Store.fileName (directory.child name).parts ≠ "" :=
    fun nothing => absurd (nothing ▸ ends) (by decide)
  have spelled : (directory.child name).text = Store.fileName (directory.child name).parts :=
    Path.text_of_filled relative filled
  rw [Submission.isFile, spelled, endsWith_iff.2 ends, Bool.true_or]

theorem load_of_file {text : String} {plan : SubmissionPlan} (reads : Path.ofText text = path)
    (ending : ".py".toList <:+ text.toList) (there : store.read? path = some (.submission plan)) :
    Submission.load store text =
      plan.load.map fun content => ⟨Submission.fileModuleName path, content⟩ := by
  have isFile : Submission.isFile text = true := by
    rw [Submission.isFile, endsWith_iff.2 ending, Bool.true_or]
  rw [Submission.load, if_pos isFile, Submission.loadFile, reads, there]

/-- Where records have been written, what comes of loading a submission is what it has been. -/
theorem load_of_grows (tidy : store.IsTidy) {text : String} (grows : Store.Grows store later)
    (member : path ∈ submissionsIn store (Path.ofText text)) :
    Submission.load later path.text = Submission.load store path.text := by
  obtain ⟨place, name, found, listed, ending, same⟩ := mem_submissionsIn.1 member
  obtain ⟨relative, followed⟩ := Store.place?_eq_some_iff.1 found
  have isFile := isFile_of_mem relative member
  obtain ⟨front, isChild, proper, -⟩ := exists_front member
  have reads : Path.ofText path.text = path := by
    rw [isChild]
    exact Path.ofText_text relative ((Path.isProper_ofText text).child proper)
  have named : name ≠ ".." := by
    rintro rfl
    exact absurd (endsWith_iff.1 ending) (by decide)
  have foundLater : later.place? (Path.ofText text) = some place :=
    Store.place?_eq_some_iff.2 ⟨relative, Store.follow_of_more grows.directories followed⟩
  have other : ¬ ".json".toList <:+ (Store.fileName (place ++ [name])).toList := by
    intro ends
    have both := List.suffix_of_suffix_length_le
      ((endsWith_iff.1 ending).trans (Store.suffix_fileName place name)) ends (by decide)
    exact absurd both (by decide)
  have kept : later.read? path = store.read? path := by
    rw [same, Store.read?, Store.read?, Store.place?_child named, Store.place?_child named, found,
      foundLater]
    exact grows.sources _ other
  obtain ⟨content, there⟩ : ∃ content, store.read? path = some content := by
    rw [same, Store.read?, Store.place?_child named, found]
    exact Option.isSome_iff_exists.1 (tidy.hasFile listed)
  rw [Submission.load, Submission.load, if_pos isFile, if_pos isFile, Submission.loadFile,
    Submission.loadFile, reads, kept, there]
  cases content <;> rfl

end CommandLine

end QuantumKata
