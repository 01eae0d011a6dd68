import Mathlib.Data.String.Basic
import QuantumKata.Submission.Store

/-!
# Paths and their texts

A path is read by cutting its text at slashes.  The names that come of it are proper: none is empty
or a single point, and none holds a slash.  A relative path of proper names is what its text is read
as, so that different paths of this kind have different texts, and files at different places are
kept under different names.
-/

namespace QuantumKata

/-! ## Cutting texts -/

namespace Text

open String (utf8Len)

/-! The library cuts a text by going along it, with the place where the current piece begins.  Below
the text is what lies in front of that place, the piece as far as it has been read, and the rest. -/

section

variable (front piece rest : List Char)

theorem get_behind (char : Char) :
    String.Pos.Raw.get (String.ofList (front ++ piece ++ char :: rest))
      ⟨utf8Len front + utf8Len piece⟩ = char := by
  simpa using String.get_of_valid (front ++ piece) (char :: rest)

theorem not_atEnd_behind (char : Char) :
    ¬ String.Pos.Raw.atEnd (String.ofList (front ++ piece ++ char :: rest))
      ⟨utf8Len front + utf8Len piece⟩ = true := by
  simpa using (String.atEnd_of_valid (front ++ piece) (char :: rest)).not

theorem next_behind (char : Char) :
    String.Pos.Raw.next (String.ofList (front ++ piece ++ char :: rest))
      ⟨utf8Len front + utf8Len piece⟩ = ⟨utf8Len front + utf8Len piece + char.utf8Size⟩ := by
  simpa using String.next_of_valid (front ++ piece) char rest

/-- A slash ends the piece. -/
theorem splitOnAux_at_slash (pieces : List String) :
    (String.ofList (front ++ piece ++ '/' :: rest)).splitOnAux "/" ⟨utf8Len front⟩
        ⟨utf8Len front + utf8Len piece⟩ 0 pieces =
      (String.ofList (front ++ piece ++ '/' :: rest)).splitOnAux "/"
        ⟨utf8Len front + utf8Len piece + 1⟩ ⟨utf8Len front + utf8Len piece + 1⟩ 0
        (String.ofList piece :: pieces) := by
  have found : (String.Pos.Raw.get (String.ofList (front ++ piece ++ '/' :: rest))
      ⟨utf8Len front + utf8Len piece⟩ == String.Pos.Raw.get "/" 0) = true := by
    rw [get_behind]
    rfl
  have back : (⟨utf8Len front + utf8Len piece + 1⟩ : String.Pos.Raw).unoffsetBy
      (String.Pos.Raw.next "/" 0) = ⟨utf8Len front + utf8Len piece⟩ := rfl
  rw [String.splitOnAux, if_neg (not_atEnd_behind _ _ _ _), if_pos found]
  dsimp only
  rw [if_pos (by decide), next_behind]
  change String.splitOnAux _ _ _ _ _ (String.Pos.Raw.extract _ _
    ((⟨utf8Len front + utf8Len piece + 1⟩ : String.Pos.Raw).unoffsetBy _) :: _) = _
  rw [back, String.extract_of_valid]
  rfl

/-- Another character goes on with the piece. -/
theorem splitOnAux_at_other {char : Char} (other : char ≠ '/') (pieces : List String) :
    (String.ofList (front ++ piece ++ char :: rest)).splitOnAux "/" ⟨utf8Len front⟩
        ⟨utf8Len front + utf8Len piece⟩ 0 pieces =
      (String.ofList (front ++ piece ++ char :: rest)).splitOnAux "/" ⟨utf8Len front⟩
        ⟨utf8Len front + utf8Len piece + char.utf8Size⟩ 0 pieces := by
  have different : ¬ (String.Pos.Raw.get (String.ofList (front ++ piece ++ char :: rest))
      ⟨utf8Len front + utf8Len piece⟩ == String.Pos.Raw.get "/" 0) = true := by
    rw [get_behind]
    exact fun same => other (beq_iff_eq.1 same)
  have stays : (⟨utf8Len front + utf8Len piece⟩ : String.Pos.Raw).unoffsetBy 0 =
      ⟨utf8Len front + utf8Len piece⟩ := rfl
  rw [String.splitOnAux, if_neg (not_atEnd_behind _ _ _ _), if_neg different, stays, next_behind]

end

/-- By induction on the rest: a slash makes it begin a new piece. -/
theorem splitOnAux_slash (front piece rest : List Char) (pieces : List String) :
    (String.ofList (front ++ piece ++ rest)).splitOnAux "/" ⟨utf8Len front⟩
        ⟨utf8Len front + utf8Len piece⟩ 0 pieces =
      pieces.reverse ++ (rest.splitOnPPrepend (· == '/') piece.reverse).map String.ofList := by
  induction rest generalizing front piece pieces with
  | nil =>
    have ended : String.Pos.Raw.atEnd (String.ofList (front ++ piece ++ []))
        ⟨utf8Len front + utf8Len piece⟩ = true := by
      simpa using (String.atEnd_of_valid (front ++ piece) []).2 rfl
    rw [String.splitOnAux, if_pos ended]
    simp only [String.extract_of_valid front piece [], List.splitOnPPrepend_nil, List.reverse_cons,
      List.reverse_reverse, List.map_cons, List.map_nil]
  | cons char rest ih =>
    by_cases slash : char = '/'
    · have later := ih (front ++ piece ++ ['/']) [] (String.ofList piece :: pieces)
      have width : '/'.utf8Size = 1 := rfl
      subst slash
      rw [splitOnAux_at_slash, List.splitOnPPrepend_cons_pos (by rfl)]
      simpa [width, Nat.add_assoc] using later
    · have later := ih front (piece ++ [char]) pieces
      rw [splitOnAux_at_other _ _ _ slash, List.splitOnPPrepend_cons_neg (by simpa using slash)]
      simpa [Nat.add_assoc] using later

/-- Cutting a text at slashes is cutting its characters at slashes. -/
theorem splitOn_slash (text : String) :
    text.splitOn "/" = (text.toList.splitOn '/').map String.ofList := by
  have cut := splitOnAux_slash [] [] text.toList []
  rw [String.splitOn, if_neg (by decide), List.splitOn_eq_splitOnP]
  simpa using cut

/-- No piece of a text holds what the text is cut at. -/
theorem not_mem_of_mem_splitOn {separator : Char} {chars piece : List Char}
    (cut : piece ∈ chars.splitOn separator) : separator ∉ piece := by
  induction chars generalizing piece with
  | nil =>
    rw [List.splitOn_nil, List.mem_singleton] at cut
    rw [cut]
    exact List.not_mem_nil
  | cons char chars ih =>
    rw [List.splitOn_cons_eq_if_modifyHead] at cut
    split at cut
    case isTrue =>
      rcases List.mem_cons.1 cut with rfl | later
      · exact List.not_mem_nil
      · exact ih later
    case isFalse other =>
      rcases pieces : chars.splitOn separator with _ | ⟨head, tail⟩
      · exact absurd pieces (List.splitOn_ne_nil _ _)
      · rw [pieces, List.modifyHead_cons] at cut
        rw [pieces] at ih
        rcases List.mem_cons.1 cut with rfl | later
        · rw [List.mem_cons, not_or]
          exact ⟨fun same => other (beq_iff_eq.2 same.symm), ih List.mem_cons_self⟩
        · exact ih (List.mem_cons_of_mem _ later)

end Text

/-! ## Proper names -/

namespace Path

/-- A name that can stand in a path that has been read. -/
structure IsProperName (name : String) : Prop where
  filled : name ≠ ""
  notPoint : name ≠ "."
  uncut : '/' ∉ name.toList

/-- Names that a path can be read as. -/
def IsProper (parts : List String) : Prop := ∀ part ∈ parts, IsProperName part

variable {parts : List String}

theorem IsProper.append {others : List String} (proper : IsProper parts)
    (properOthers : IsProper others) : IsProper (parts ++ others) :=
  List.forall_mem_append.2 ⟨proper, properOthers⟩

theorem IsProper.child {name : String} (proper : IsProper parts) (named : IsProperName name) :
    IsProper (parts ++ [name]) :=
  proper.append (List.forall_mem_singleton.2 named)

/-- A path is read as proper names. -/
theorem isProper_ofText (text : String) : IsProper (ofText text).parts := by
  intro part member
  rw [ofText, Text.splitOn_slash, List.mem_filter, List.mem_map] at member
  obtain ⟨⟨piece, cut, rfl⟩, kept⟩ := member
  rw [Bool.and_eq_true, Bool.not_eq_true', bne_iff_ne] at kept
  refine ⟨?_, kept.2, ?_⟩
  · exact fun empty => by simp [empty] at kept
  · rw [String.toList_ofList]
    exact Text.not_mem_of_mem_splitOn cut

/-- Proper names that are put together with slashes are read again. -/
theorem parts_ofText_fileName (proper : IsProper parts) :
    (ofText (Store.fileName parts)).parts = parts := by
  by_cases nothing : parts = []
  · rw [nothing, ofText, Text.splitOn_slash]
    rfl
  · have uncut : ∀ chars ∈ parts.map String.toList, '/' ∉ chars :=
      List.forall_mem_map.2 fun part member => (proper part member).uncut
    have pieces : (Store.fileName parts).toList.splitOn '/' = parts.map String.toList := by
      rw [Store.fileName, String.toList_intercalate]
      exact List.splitOn_intercalate '/' uncut (by simpa using nothing)
    have texts : (parts.map String.toList).map String.ofList = parts := by
      simp only [List.map_map, Function.comp_def, String.ofList_toList, List.map_id']
    rw [ofText, Text.splitOn_slash, pieces, texts, List.filter_eq_self]
    intro part member
    obtain ⟨filled, notPoint, -⟩ := proper part member
    simp [filled, notPoint]

/-- Files at different places are kept under different names. -/
theorem fileName_inj {others : List String} (proper : IsProper parts)
    (properOthers : IsProper others) (same : Store.fileName parts = Store.fileName others) :
    parts = others := by
  rw [← parts_ofText_fileName proper, same, parts_ofText_fileName properOthers]

/-- Proper names do not make the path begin at the root. -/
theorem root_ofText_fileName (proper : IsProper parts) :
    (ofText (Store.fileName parts)).root = "" := by
  cases parts with
  | nil => rfl
  | cons part rest =>
    obtain ⟨filled, -, uncut⟩ := proper part List.mem_cons_self
    obtain ⟨char, chars, spelled⟩ :=
      List.exists_cons_of_ne_nil (mt String.toList_eq_nil_iff.1 filled)
    have other : ¬ (char == '/') = true := by
      rw [spelled] at uncut
      exact fun same => uncut (beq_iff_eq.1 same ▸ List.mem_cons_self)
    obtain ⟨behind, begins⟩ :
        ∃ behind, (Store.fileName (part :: rest)).toList = char :: behind := by
      rw [Store.fileName, String.toList_intercalate, List.map_cons, spelled]
      cases rest with
      | nil => exact ⟨chars, by simp⟩
      | cons next rest => exact ⟨_, by rw [List.map_cons, List.intercalate_cons_cons]; rfl⟩
    have rootless : (char :: behind).takeWhile (· == '/') = [] := List.takeWhile_cons_of_neg other
    rw [ofText, rootOf, begins, rootless]
    rfl

/-- The text of a relative path that leads anywhere is the name under which a file is kept there. -/
theorem text_of_filled {path : Path} (relative : path.root = "")
    (filled : Store.fileName path.parts ≠ "") : path.text = Store.fileName path.parts := by
  rw [text, relative, String.empty_append]
  exact if_neg (mt String.isEmpty_iff.1 filled)

/-- A relative path of proper names is what its text is read as. -/
theorem ofText_text {path : Path} (relative : path.root = "") (proper : IsProper path.parts) :
    ofText path.text = path := by
  by_cases nothing : Store.fileName path.parts = ""
  · obtain ⟨root, parts⟩ := path
    replace proper : IsProper parts := proper
    replace nothing : Store.fileName parts = "" := nothing
    have none : parts = [] := by
      rw [← parts_ofText_fileName proper, nothing, ofText, Text.splitOn_slash]
      rfl
    subst relative
    rw [none, ofText, Text.splitOn_slash]
    rfl
  · rw [text_of_filled relative nothing]
    exact (congrArg₂ Path.mk (root_ofText_fileName proper) (parts_ofText_fileName proper)).trans
      (congrArg₂ Path.mk relative.symm rfl)

end Path

end QuantumKata
