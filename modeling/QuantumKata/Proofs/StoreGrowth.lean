import Mathlib.Data.List.Nodup
import QuantumKata.Proofs.PathTexts

/-!
# Stores that grow

Directories are made and files are written, and nothing is taken away.  What a path leads to stays
where it is when directories are added.  Making the directories of a path takes one trail along its
parts, and comes to an end unless a file stands on the trail; then the path leads to a directory.
A file can be written under a name in a directory if the directory is there and is not to be
replaced itself; it adds no directory.

So records that are saved in one place after the other do not get into each other's way, and files
under other names hold what they have held.
-/

namespace QuantumKata

/-! ## Names in a listing -/

namespace Listing

variable {α : Type} {name : String} {value : α} {listing : Listing α}

theorem mem_names_iff : name ∈ listing.names ↔ listing.holds name = true := by
  rw [names, holds, find?, List.lookup_isSome_iff, List.mem_map]
  exact exists_congr fun entry => and_congr_right fun _ => by rw [beq_iff_eq, eq_comm]

theorem names_putEntry (entries : List (String × α)) :
    (putEntry name value entries).map Prod.fst =
      if name ∈ entries.map Prod.fst then entries.map Prod.fst
      else entries.map Prod.fst ++ [name] := by
  induction entries with
  | nil => rfl
  | cons entry rest ih =>
    obtain ⟨key, old⟩ := entry
    rw [putEntry]
    by_cases same : key = name
    · simp [same]
    · rw [if_neg same, List.map_cons, ih]
      simp only [List.map_cons, List.mem_cons, Ne.symm same, false_or]
      split <;> rfl

/-- A name that is new is written behind the others. -/
theorem names_put : (listing.put name value).names =
    if name ∈ listing.names then listing.names else listing.names ++ [name] :=
  names_putEntry listing.entries

theorem nodup_names_put (distinct : listing.names.Nodup) :
    (listing.put name value).names.Nodup := by
  rw [names_put]
  split
  · exact distinct
  · exact List.nodup_append_comm.1 (List.nodup_cons.2 ⟨‹_›, distinct⟩)

theorem put_of_new (new : name ∉ listing.names) :
    (listing.put name value).entries = listing.entries ++ [(name, value)] := by
  obtain ⟨entries⟩ := listing
  change name ∉ entries.map Prod.fst at new
  change putEntry name value entries = entries ++ [(name, value)]
  induction entries with
  | nil => rfl
  | cons entry rest ih =>
    obtain ⟨other, new⟩ := not_or.1 (List.mem_cons.not.1 new)
    rw [putEntry, if_neg (Ne.symm other), ih new]
    rfl

/-- No name of a listing that has been written in steps is there twice. -/
theorem nodup_names_ofList (entries : List (String × α)) : (ofList entries).names.Nodup := by
  rw [ofList]
  generalize begun : ({} : Listing α) = listing
  have distinct : listing.names.Nodup := begun ▸ List.nodup_nil
  clear begun
  induction entries generalizing listing with
  | nil => exact distinct
  | cons entry rest ih => exact ih _ (nodup_names_put distinct)

/-- Entries under different names are all there, in the order in which they have been written. -/
theorem entries_ofList {entries : List (String × α)} (distinct : (entries.map Prod.fst).Nodup) :
    (ofList entries).entries = entries := by
  have written : ∀ rest front : List (String × α), ((front ++ rest).map Prod.fst).Nodup →
      (rest.foldl (fun listing entry => listing.put entry.1 entry.2)
        (⟨front⟩ : Listing α)).entries = front ++ rest := by
    intro rest
    induction rest with
    | nil => exact fun front _ => (List.append_nil front).symm
    | cons entry rest ih =>
      intro front distinct
      have new : entry.1 ∉ (⟨front⟩ : Listing α).names := by
        rw [List.map_append, List.map_cons] at distinct
        exact fun member => List.disjoint_of_nodup_append distinct member List.mem_cons_self
      have put : (⟨front⟩ : Listing α).put entry.1 entry.2 = ⟨front ++ [entry]⟩ :=
        congrArg Listing.mk (put_of_new new)
      rw [List.foldl_cons, put, ih (front ++ [entry]) (by simpa using distinct)]
      simp
  exact written entries [] distinct

end Listing

namespace Store

variable {store later made : Store} {part : String} {behind outer rest parts place : List String}
  {path : Path}

/-! ## Directories -/

theorem hasDirectory_iff : store.hasDirectory parts = true ↔
    parts = [] ∨ (∃ made ∈ store.directories, parts <+: made) ∨
      ∃ file ∈ store.fileParts, parts <+: file ∧ parts.length < file.length := by
  simp only [hasDirectory, Bool.or_eq_true, List.isEmpty_iff, List.any_eq_true,
    List.isPrefixOf_iff_prefix, Bool.and_eq_true, decide_eq_true_eq, or_assoc]

/-- The directory around a directory is one. -/
theorem hasDirectory_around (inside : outer <+: parts)
    (there : store.hasDirectory parts = true) : store.hasDirectory outer = true := by
  rw [hasDirectory_iff] at there ⊢
  rcases there with rfl | ⟨made, member, inMade⟩ | ⟨file, member, inFile, shorter⟩
  · exact .inl (List.prefix_nil.1 inside)
  · exact .inr (.inl ⟨made, member, inside.trans inMade⟩)
  · exact .inr (.inr ⟨file, member, inside.trans inFile, inside.length_le.trans_lt shorter⟩)

/-! ## Following paths -/

@[simp]
theorem follow_name (named : part ≠ "..") :
    store.follow behind (part :: rest) = store.follow (part :: behind) rest := by
  cases behind with
  | nil => rw [follow, if_neg named]
  | cons last outer => rw [follow, if_neg named]

@[simp]
theorem follow_out : store.follow [] (".." :: rest) = none := by
  rw [follow, if_pos rfl, ite_self]

theorem follow_up (last : String) : store.follow (last :: outer) (".." :: rest) =
    if store.hasDirectory (last :: outer).reverse then store.follow outer rest else none := by
  rw [follow, if_pos rfl]

/-- Where more directories are, a path leads to the same place. -/
theorem follow_of_more (more : ∀ parts, store.hasDirectory parts = true →
      later.hasDirectory parts = true) (found : store.follow behind parts = some place) :
    later.follow behind parts = some place := by
  induction parts generalizing behind with
  | nil => exact found
  | cons part rest ih =>
    by_cases up : part = ".."
    · subst up
      cases behind with
      | nil => simp at found
      | cons last outer =>
        rw [follow_up] at found ⊢
        split at found
        case isTrue there =>
          rw [if_pos (more _ there)]
          exact ih found
        case isFalse => cases found
    · rw [follow_name up] at found ⊢
      exact ih found

theorem follow_append {name : String} (named : name ≠ "..") :
    store.follow behind (parts ++ [name]) = (store.follow behind parts).map (· ++ [name]) := by
  induction parts generalizing behind with
  | nil => simp [follow, named]
  | cons part rest ih =>
    rw [List.cons_append]
    by_cases up : part = ".."
    · subst up
      cases behind with
      | nil => simp
      | cons last outer =>
        rw [follow_up, follow_up]
        split
        · exact ih
        · rfl
    · rw [follow_name up, follow_name up]
      exact ih

theorem isProper_of_follow (proper : Path.IsProper behind) (properParts : Path.IsProper parts)
    (found : store.follow behind parts = some place) : Path.IsProper place := by
  induction parts generalizing behind with
  | nil =>
    cases found
    exact fun part member => proper part (List.mem_reverse.1 member)
  | cons part rest ih =>
    obtain ⟨properPart, properRest⟩ := List.forall_mem_cons.1 properParts
    by_cases up : part = ".."
    · subst up
      cases behind with
      | nil => simp at found
      | cons last outer =>
        rw [follow_up] at found
        split at found
        · exact ih (List.forall_mem_cons.1 proper).2 properRest found
        · cases found
    · rw [follow_name up] at found
      exact ih (List.forall_mem_cons.2 ⟨properPart, proper⟩) properRest found

theorem place?_eq_some_iff : store.place? path = some place ↔
    path.root = "" ∧ store.follow [] path.parts = some place := by
  rw [place?]
  split
  case isTrue relative => simp [String.isEmpty_iff.1 relative]
  case isFalse rooted => simpa using fun relative => absurd (String.isEmpty_iff.2 relative) rooted

/-- A name in a directory leads to what stands there. -/
theorem place?_child {name : String} (named : name ≠ "..") :
    store.place? (path.child name) = (store.place? path).map (· ++ [name]) := by
  rw [place?, place?, Path.child]
  dsimp only
  split
  · exact follow_append named
  · rfl

theorem leadsToDirectory_iff : store.leadsToDirectory path = true ↔
    ∃ place, store.place? path = some place ∧ store.hasDirectory place = true := by
  rw [leadsToDirectory, Option.any_eq_true]

/-! ## Making directories -/

/-- Going along the parts of a path comes through directories, the outermost first, and leads to a
place. -/
inductive Trail : (behind parts : List String) → List (List String) → List String → Prop where
  | ended (behind : List String) : Trail behind [] [] behind.reverse
  | up {last : String} {outer rest : List String} {visits : List (List String)}
      {place : List String} (further : Trail outer rest visits place) :
      Trail (last :: outer) (".." :: rest) visits place
  | down {behind : List String} {part : String} {rest : List String} {visits : List (List String)}
      {place : List String} (named : part ≠ "..")
      (further : Trail (part :: behind) rest visits place) :
      Trail behind (part :: rest) ((part :: behind).reverse :: visits) place

variable {visits : List (List String)}

theorem makeDirectories_name (named : part ≠ "..") :
    store.makeDirectories behind (part :: rest) =
      if store.hasFile (part :: behind).reverse then
        .error (if rest.isEmpty then .occupied else .insideFile)
      else
        makeDirectories
          { store with directories := store.directories ++ [(part :: behind).reverse] }
          (part :: behind) rest := by
  cases behind with
  | nil => rw [makeDirectories, if_neg named]
  | cons last outer => rw [makeDirectories, if_neg named]

theorem makeDirectories_of_trail (trail : Trail behind parts visits place)
    (clear : ∀ visit ∈ visits, store.hasFile visit = false) :
    store.makeDirectories behind parts =
      .ok { store with directories := store.directories ++ visits } := by
  induction trail generalizing store with
  | ended behind => rw [makeDirectories, List.append_nil]
  | up further ih =>
    rw [makeDirectories, if_pos rfl]
    exact ih clear
  | down named further ih =>
    obtain ⟨free, clear⟩ := List.forall_mem_cons.1 clear
    rw [makeDirectories_name named, if_neg (Bool.eq_false_iff.1 free), ih]
    · rw [List.append_assoc, List.singleton_append]
    · exact clear

theorem exists_trail (makes : store.makeDirectories behind parts = .ok made) :
    ∃ visits place, Trail behind parts visits place ∧
      ∀ visit ∈ visits, store.hasFile visit = false := by
  induction parts generalizing store behind with
  | nil => exact ⟨[], _, .ended behind, List.forall_mem_nil _⟩
  | cons part rest ih =>
    by_cases up : part = ".."
    · subst up
      cases behind with
      | nil =>
        rw [makeDirectories, if_pos rfl] at makes
        cases makes
      | cons last outer =>
        rw [makeDirectories, if_pos rfl] at makes
        obtain ⟨visits, place, further, clear⟩ := ih makes
        exact ⟨visits, place, .up further, clear⟩
    · rw [makeDirectories_name up] at makes
      split at makes
      case isTrue => cases makes
      case isFalse free =>
        obtain ⟨visits, place, further, clear⟩ := ih makes
        exact ⟨_, place, .down up further,
          List.forall_mem_cons.2 ⟨Bool.eq_false_iff.2 free, clear⟩⟩

/-- Directories can be made along a trail on which there is no file. -/
theorem makeDirectories_eq_ok_iff : store.makeDirectories behind parts = .ok made ↔
    ∃ visits place, Trail behind parts visits place ∧
      (∀ visit ∈ visits, store.hasFile visit = false) ∧
      made = { store with directories := store.directories ++ visits } := by
  constructor
  · intro makes
    obtain ⟨visits, place, trail, clear⟩ := exists_trail makes
    cases makes.symm.trans (makeDirectories_of_trail trail clear)
    exact ⟨visits, place, trail, clear, rfl⟩
  · rintro ⟨visits, place, trail, clear, rfl⟩
    exact makeDirectories_of_trail trail clear

/-- Where the directories of a trail are, the path leads to its end, and a directory is there. -/
theorem follow_of_trail (trail : Trail behind parts visits place)
    (begins : store.hasDirectory behind.reverse = true)
    (there : ∀ visit ∈ visits, store.hasDirectory visit = true) :
    store.follow behind parts = some place ∧ store.hasDirectory place = true := by
  induction trail with
  | ended behind => exact ⟨rfl, begins⟩
  | up further ih =>
    rw [follow_up, if_pos begins]
    refine ih (hasDirectory_around ?_ begins) there
    rw [List.reverse_cons]
    exact List.prefix_append _ _
  | down named further ih =>
    obtain ⟨first, there⟩ := List.forall_mem_cons.1 there
    rw [follow_name named]
    exact ih first there

theorem isProper_of_trail (trail : Trail behind parts visits place)
    (proper : Path.IsProper behind) (properParts : Path.IsProper parts) :
    ∀ visit ∈ visits, Path.IsProper visit := by
  induction trail with
  | ended => exact List.forall_mem_nil _
  | up further ih =>
    exact ih (List.forall_mem_cons.1 proper).2 (List.forall_mem_cons.1 properParts).2
  | down named further ih =>
    obtain ⟨properPart, properRest⟩ := List.forall_mem_cons.1 properParts
    have through := List.forall_mem_cons.2 ⟨properPart, proper⟩
    refine List.forall_mem_cons.2 ⟨?_, ih through properRest⟩
    exact fun part member => through part (List.mem_reverse.1 member)

theorem makeDirectory_eq_ok_iff : store.makeDirectory path = .ok made ↔
    path.root = "" ∧ store.makeDirectories [] path.parts = .ok made := by
  rw [makeDirectory]
  split
  case isTrue relative =>
    rw [String.isEmpty_iff.1 relative, Except.mapError.eq_def]
    split <;> simp_all
  case isFalse rooted =>
    have absolute : path.root ≠ "" := fun relative => rooted (String.isEmpty_iff.2 relative)
    simp [absolute]

/-! ## Growth -/

/-- A store has grown: it has all the directories, and files whose names are not those of records
hold what they have held. -/
structure Grows (store later : Store) : Prop where
  directories : ∀ parts, store.hasDirectory parts = true → later.hasDirectory parts = true
  sources : ∀ name : String, ¬ ".json".toList <:+ name.toList →
    later.files.find? name = store.files.find? name

/-- A store has grown by nothing but files that do not stand in the way of directories. -/
structure Settles (store later : Store) : Prop extends Grows store later where
  noMore : ∀ parts, later.hasDirectory parts = true → store.hasDirectory parts = true
  clear : ∀ parts, Path.IsProper parts → store.hasDirectory parts = true →
    later.hasFile parts = store.hasFile parts

theorem Grows.refl (store : Store) : Grows store store := ⟨fun _ there => there, fun _ _ => rfl⟩

theorem Grows.trans {last : Store} (first : Grows store later) (second : Grows later last) :
    Grows store last where
  directories parts there := second.directories parts (first.directories parts there)
  sources name other := (second.sources name other).trans (first.sources name other)

theorem Settles.trans {last : Store} (first : Settles store later) (second : Settles later last) :
    Settles store last where
  toGrows := first.toGrows.trans second.toGrows
  noMore parts there := first.noMore parts (second.noMore parts there)
  clear parts proper there :=
    (second.clear parts proper (first.directories parts there)).trans
      (first.clear parts proper there)

theorem leadsToDirectory_of_grows (grows : Grows store later)
    (leads : store.leadsToDirectory path = true) : later.leadsToDirectory path = true := by
  obtain ⟨place, found, there⟩ := leadsToDirectory_iff.1 leads
  obtain ⟨relative, followed⟩ := place?_eq_some_iff.1 found
  exact leadsToDirectory_iff.2 ⟨place,
    place?_eq_some_iff.2 ⟨relative, follow_of_more grows.directories followed⟩,
    grows.directories place there⟩

/-- A path leads to a directory if it has done so. -/
theorem leadsToDirectory_of_settles (settles : Settles store later) :
    later.leadsToDirectory path = store.leadsToDirectory path := by
  rw [Bool.eq_iff_iff]
  refine ⟨fun leads => ?_, leadsToDirectory_of_grows settles.toGrows⟩
  obtain ⟨place, found, there⟩ := leadsToDirectory_iff.1 leads
  obtain ⟨relative, followed⟩ := place?_eq_some_iff.1 found
  exact leadsToDirectory_iff.2 ⟨place,
    place?_eq_some_iff.2 ⟨relative, follow_of_more settles.noMore followed⟩,
    settles.noMore place there⟩

/-! ### Growth by directories -/

theorem hasDirectory_made : hasDirectory { store with directories := store.directories ++ visits }
      parts = true ↔ store.hasDirectory parts = true ∨ ∃ visit ∈ visits, parts <+: visit := by
  rw [hasDirectory_iff, hasDirectory_iff]
  simp only [List.mem_append, or_and_right, exists_or]
  constructor
  · rintro (empty | (known | new) | inFile)
    · exact .inl (.inl empty)
    · exact .inl (.inr (.inl known))
    · exact .inr new
    · exact .inl (.inr (.inr inFile))
  · rintro ((empty | known | inFile) | new)
    · exact .inl empty
    · exact .inr (.inl (.inl known))
    · exact .inr (.inr inFile)
    · exact .inr (.inl (.inr new))

theorem grows_of_makeDirectory (makes : store.makeDirectory path = .ok made) :
    Grows store made := by
  obtain ⟨visits, place, -, -, rfl⟩ :=
    makeDirectories_eq_ok_iff.1 (makeDirectory_eq_ok_iff.1 makes).2
  exact ⟨fun parts there => hasDirectory_made.2 (.inl there), fun _ _ => rfl⟩

/-- A path whose directories have been made leads to a directory. -/
theorem leadsToDirectory_of_makeDirectory (makes : store.makeDirectory path = .ok made) :
    made.leadsToDirectory path = true := by
  obtain ⟨relative, makes⟩ := makeDirectory_eq_ok_iff.1 makes
  obtain ⟨visits, place, trail, -, rfl⟩ := makeDirectories_eq_ok_iff.1 makes
  obtain ⟨followed, there⟩ := follow_of_trail trail (by rfl) fun visit member =>
    hasDirectory_made.2 (.inr ⟨visit, member, List.prefix_rfl⟩)
  exact leadsToDirectory_iff.2 ⟨place, place?_eq_some_iff.2 ⟨relative, followed⟩, there⟩

/-- Directories that have been made once can be made again, and nothing changes. -/
theorem makeDirectory_again (makes : store.makeDirectory path = .ok made)
    (proper : Path.IsProper path.parts) (settles : Settles made later) :
    ∃ again, later.makeDirectory path = .ok again ∧ Settles later again := by
  obtain ⟨relative, makes⟩ := makeDirectory_eq_ok_iff.1 makes
  obtain ⟨visits, place, trail, clear, rfl⟩ := makeDirectories_eq_ok_iff.1 makes
  have there : ∀ visit ∈ visits, later.hasDirectory visit = true := fun visit member =>
    settles.directories visit (hasDirectory_made.2 (.inr ⟨visit, member, List.prefix_rfl⟩))
  have free : ∀ visit ∈ visits, later.hasFile visit = false := by
    intro visit member
    have properVisit := isProper_of_trail trail (List.forall_mem_nil _) proper visit member
    rw [settles.clear visit properVisit
      (hasDirectory_made.2 (.inr ⟨visit, member, List.prefix_rfl⟩))]
    exact clear visit member
  refine ⟨_, makeDirectory_eq_ok_iff.2 ⟨relative, makeDirectories_of_trail trail free⟩, ?_⟩
  refine ⟨⟨fun parts had => hasDirectory_made.2 (.inl had), fun _ _ => rfl⟩, ?_, fun _ _ _ => rfl⟩
  intro parts has
  rcases hasDirectory_made.1 has with had | ⟨visit, member, inside⟩
  · exact had
  · exact hasDirectory_around inside (there visit member)

/-! ### Growth by files -/

variable {leaf : String} {content : FileContent}

/-- A file can be written under a name in the directory that a path leads to. -/
structure Hosts (store : Store) (path : Path) (leaf : String) : Prop where
  directory : store.leadsToDirectory path = true
  free : store.leadsToDirectory (path.child leaf) = false

/-- The store after a file has been written. -/
def withFile (store : Store) (parts : List String) (content : FileContent) : Store :=
  { store with files := store.files.put (fileName parts) content }

theorem problemAt?_eq_none_iff : store.problemAt? (some parts) = none ↔
    store.hasDirectory parts = false ∧ store.hasDirectory parts.dropLast = true := by
  rw [problemAt?]
  cases store.hasDirectory parts with
  | true => simp
  | false =>
    cases store.hasDirectory parts.dropLast with
    | true => simp
    | false =>
      simp only [Bool.false_eq_true, if_false, and_false, iff_false]
      split <;> exact Option.some_ne_none _

theorem write_eq_ok_iff : store.write path content = .ok later ↔
    ∃ place, store.place? path = some place ∧ store.problemAt? (some place) = none ∧
      later = store.withFile place content := by
  rw [write]
  cases store.place? path with
  | none => simp [problemAt?]
  | some place =>
    split
    case h_1 problem occurs => simp [occurs]
    case h_2 clear => simp [clear, withFile, eq_comm]

/-- A file that cannot be written meets with a problem at its place. -/
theorem exists_problem (content : FileContent)
    (refused : ¬ ∃ later, store.write path content = .ok later) :
    ∃ problem, store.problemAt? (store.place? path) = some problem ∧
      store.write path content = .error (.unusablePath problem path.text) := by
  rw [write] at refused ⊢
  split at refused
  case h_1 problem occurs => exact ⟨problem, occurs, by simp⟩
  case h_2 => exact absurd ⟨_, rfl⟩ refused

/-- A file can be written where a directory has room for it. -/
theorem write_child_eq_ok_iff (named : leaf ≠ "..") :
    store.write (path.child leaf) content = .ok later ↔
      ∃ place, store.place? path = some place ∧ store.hasDirectory place = true ∧
        store.hasDirectory (place ++ [leaf]) = false ∧
        later = store.withFile (place ++ [leaf]) content := by
  rw [write_eq_ok_iff, place?_child named]
  cases store.place? path with
  | none => simp
  | some place => simp [problemAt?_eq_none_iff, and_assoc, and_left_comm]

theorem hosts_iff (named : leaf ≠ "..") : store.Hosts path leaf ↔
    ∃ place, store.place? path = some place ∧ store.hasDirectory place = true ∧
      store.hasDirectory (place ++ [leaf]) = false := by
  have both : store.Hosts path leaf ↔
      store.leadsToDirectory path = true ∧ store.leadsToDirectory (path.child leaf) = false :=
    ⟨fun hosts => ⟨hosts.directory, hosts.free⟩, fun ⟨directory, free⟩ => ⟨directory, free⟩⟩
  rw [both, leadsToDirectory, leadsToDirectory, place?_child named]
  cases store.place? path with
  | none => simp
  | some place => simp

theorem exists_write_iff (named : leaf ≠ "..") :
    (∃ later, store.write (path.child leaf) content = .ok later) ↔ store.Hosts path leaf := by
  simp only [hosts_iff named, write_child_eq_ok_iff named]
  constructor
  · rintro ⟨later, place, found, there, free, -⟩
    exact ⟨place, found, there, free⟩
  · rintro ⟨place, found, there, free⟩
    exact ⟨_, place, found, there, free, rfl⟩

theorem hosts_of_settles (settles : Settles store later) :
    later.Hosts path leaf ↔ store.Hosts path leaf := by
  constructor
  · rintro ⟨directory, free⟩
    rw [leadsToDirectory_of_settles settles] at directory free
    exact ⟨directory, free⟩
  · rintro ⟨directory, free⟩
    rw [← leadsToDirectory_of_settles settles] at directory free
    exact ⟨directory, free⟩

theorem mem_fileParts_withFile {file : List String} :
    file ∈ (store.withFile place content).fileParts ↔
      file = (Path.ofText (fileName place)).parts ∨ file ∈ store.fileParts := by
  rw [fileParts, fileParts, List.mem_map, List.mem_map, withFile, Listing.names_put]
  split
  case isTrue held =>
    constructor
    · exact .inr
    · rintro (rfl | there)
      · exact ⟨_, held, rfl⟩
      · exact there
  case isFalse =>
    simp only [List.mem_append, List.mem_singleton, or_and_right, exists_or, exists_eq_left]
    rw [or_comm, eq_comm]

/-- Where a file has been written all directories are there. -/
theorem hasDirectory_withFile (there : store.hasDirectory parts = true) :
    (store.withFile place content).hasDirectory parts = true := by
  rw [hasDirectory_iff] at there ⊢
  rcases there with empty | made | ⟨file, member, inside⟩
  · exact .inl empty
  · exact .inr (.inl made)
  · exact .inr (.inr ⟨file, mem_fileParts_withFile.2 (.inr member), inside⟩)

/-- What has been written is read. -/
theorem read?_of_write (named : leaf ≠ "..")
    (writes : store.write (path.child leaf) content = .ok later) :
    later.read? (path.child leaf) = some content := by
  obtain ⟨place, found, -, -, rfl⟩ := (write_child_eq_ok_iff named).1 writes
  obtain ⟨relative, followed⟩ := place?_eq_some_iff.1 found
  have stays : (store.withFile (place ++ [leaf]) content).place? path = some place :=
    place?_eq_some_iff.2
      ⟨relative, follow_of_more (fun _ there => hasDirectory_withFile there) followed⟩
  rw [read?, place?_child named, stays]
  exact Listing.find?_put_self _ _ _

theorem suffix_fileName (parts : List String) (leaf : String) :
    leaf.toList <:+ (fileName (parts ++ [leaf])).toList := by
  rw [fileName, String.toList_intercalate]
  induction parts with
  | nil => simp
  | cons part rest ih =>
    rw [List.cons_append, List.map_cons, List.intercalate_cons_of_ne_nil (by simp)]
    exact ih.trans (List.suffix_append _ _)

/-- The name of a record. -/
structure IsRecordName (leaf : String) : Prop extends Path.IsProperName leaf where
  notUp : leaf ≠ ".."
  ending : ".json".toList <:+ leaf.toList

/-- Writing a record adds no directory and leaves other files alone. -/
theorem settles_of_write (proper : Path.IsProper path.parts) (named : IsRecordName leaf)
    (writes : store.write (path.child leaf) content = .ok later) : Settles store later := by
  obtain ⟨place, found, there, free, rfl⟩ := (write_child_eq_ok_iff named.notUp).1 writes
  have properPlace : Path.IsProper place := isProper_of_follow (List.forall_mem_nil _) proper
    (place?_eq_some_iff.1 found).2
  have properFile := properPlace.child named.toIsProperName
  refine ⟨⟨fun parts had => hasDirectory_withFile had, ?_⟩, ?_, ?_⟩
  · intro name other
    refine Listing.find?_put_of_ne _ ?_ _
    rintro rfl
    exact other (named.ending.trans (suffix_fileName place leaf))
  · intro parts has
    rw [hasDirectory_iff] at has
    rcases has with empty | made | ⟨file, member, inside, shorter⟩
    · exact hasDirectory_iff.2 (.inl empty)
    · exact hasDirectory_iff.2 (.inr (.inl made))
    · rcases mem_fileParts_withFile.1 member with rfl | known
      · rw [Path.parts_ofText_fileName properFile] at inside shorter
        rcases List.prefix_concat_iff.1 inside with rfl | around
        · exact absurd shorter (lt_irrefl _)
        · exact hasDirectory_around around there
      · exact hasDirectory_iff.2 (.inr (.inr ⟨file, known, inside, shorter⟩))
  · intro parts properParts had
    rw [hasFile, hasFile, Listing.holds, Listing.holds, withFile]
    refine congrArg Option.isSome (Listing.find?_put_of_ne _ ?_ _)
    intro same
    rw [Path.fileName_inj properParts properFile same, free] at had
    cases had

/-! ### Saving in one place -/

theorem parent_child : (path.child leaf).parent = path := by
  rw [Path.parent, Path.child, List.dropLast_concat]

theorem writeMakingDirectory_eq_ok_iff :
    store.writeMakingDirectory (path.child leaf) content = .ok later ↔
      ∃ made, store.makeDirectory path = .ok made ∧
        made.write (path.child leaf) content = .ok later := by
  rw [writeMakingDirectory, parent_child]
  cases store.makeDirectory path with
  | error fault => exact ⟨nofun, nofun⟩
  | ok made =>
    constructor
    · exact fun writes => ⟨made, rfl, writes⟩
    · rintro ⟨_, same, writes⟩
      cases same
      exact writes

/-- What has become of a store while records are saved in a place: nothing yet, or the place has
been made and nothing but records has been written since. -/
def IsUnderway (store : Store) (path : Path) (now : Store) : Prop :=
  now = store ∨ ∃ made, store.makeDirectory path = .ok made ∧ Settles made now

variable {now : Store}

theorem IsUnderway.grows (underway : IsUnderway store path now) : Grows store now := by
  rcases underway with rfl | ⟨made, makes, settles⟩
  · exact .refl _
  · exact (grows_of_makeDirectory makes).trans settles.toGrows

/-- A record can be saved in a place, whatever records have been saved there already, if the place
can be made and has room for it. -/
theorem IsUnderway.exists_save_iff (underway : IsUnderway store path now)
    (proper : Path.IsProper path.parts) (named : IsRecordName leaf) :
    (∃ later, now.writeMakingDirectory (path.child leaf) content = .ok later) ↔
      ∃ made, store.makeDirectory path = .ok made ∧ made.Hosts path leaf := by
  have hosts : (∃ later, now.writeMakingDirectory (path.child leaf) content = .ok later) ↔
      ∃ made, now.makeDirectory path = .ok made ∧ made.Hosts path leaf := by
    simp only [writeMakingDirectory_eq_ok_iff]
    rw [exists_comm]
    simp only [exists_and_left]
    exact exists_congr fun made => and_congr_right fun _ => exists_write_iff named.notUp
  rw [hosts]
  rcases underway with rfl | ⟨made, makes, settles⟩
  · exact Iff.rfl
  · obtain ⟨again, makesAgain, settlesAgain⟩ := makeDirectory_again makes proper settles
    rw [makes, makesAgain]
    simp only [Except.ok.injEq, exists_eq_left']
    rw [hosts_of_settles settlesAgain, hosts_of_settles settles]

theorem IsUnderway.settles (underway : IsUnderway store path now)
    (proper : Path.IsProper path.parts) (named : IsRecordName leaf)
    (saves : now.writeMakingDirectory (path.child leaf) content = .ok later) :
    ∃ made, store.makeDirectory path = .ok made ∧ Settles made later := by
  obtain ⟨again, makesAgain, writes⟩ := writeMakingDirectory_eq_ok_iff.1 saves
  have wrote := settles_of_write proper named writes
  rcases underway with rfl | ⟨made, makes, settles⟩
  · exact ⟨again, makesAgain, wrote⟩
  · obtain ⟨same, makesSame, settlesAgain⟩ := makeDirectory_again makes proper settles
    cases makesAgain.symm.trans makesSame
    exact ⟨made, makes, (settles.trans settlesAgain).trans wrote⟩

end Store

end QuantumKata
