import Mathlib.Data.List.Basic
import QuantumKata.Decimal.Fixed
import QuantumKata.Snapshot

/-!
# Line breaks

A text without a line feed is a line by itself.  A text that is written behind another one goes on
with its last line, so that of the lines of the second text all but the first are lines of the
whole.  The decimal texts of numbers and the labels of basis states have no line feeds.
-/

namespace QuantumKata.Text

/-- A text without a line feed. -/
def OneLine (text : String) : Prop := '\n' ∉ text.toList

instance (text : String) : Decidable (OneLine text) :=
  inferInstanceAs (Decidable ('\n' ∉ text.toList))

/-- The lines of a text, as the lists of their characters. -/
def rows (text : String) : List (List Char) := text.toList.splitOn '\n'

/-- A line stands in a text. -/
def HasLine (text line : String) : Prop := line.toList ∈ rows text

/-- A line stands in a text behind a line feed. -/
def Follows (text line : String) : Prop := line.toList ∈ (rows text).tail

variable {first second text line : String}

/-! ## Texts without line feeds -/

theorem oneLine_append : OneLine (first ++ second) ↔ OneLine first ∧ OneLine second := by
  simp only [OneLine, String.toList_append, List.mem_append, not_or]

theorem oneLine_ofList {chars : List Char} (free : '\n' ∉ chars) :
    OneLine (String.ofList chars) := by
  rw [OneLine, String.toList_ofList]
  exact free

theorem rows_of_oneLine (single : OneLine text) : rows text = [text.toList] :=
  List.splitOn_eq_singleton single

theorem hasLine_of_oneLine (single : OneLine text) : HasLine text line ↔ line = text := by
  rw [HasLine, rows_of_oneLine single, List.mem_singleton, String.toList_inj]

theorem not_follows_of_oneLine (single : OneLine text) : ¬ Follows text line := by
  rw [Follows, rows_of_oneLine single]
  exact List.not_mem_nil

/-! ## Texts behind each other -/

/-- By induction on the first text: its characters are put in front of the first line of the
second. -/
theorem splitOn_append {front : List Char} (free : '\n' ∉ front) (rest : List Char) :
    (front ++ rest).splitOn '\n' = (rest.splitOn '\n').modifyHead (front ++ ·) := by
  induction front with
  | nil =>
    rw [List.nil_append]
    cases rest.splitOn '\n' <;> rfl
  | cons char front ih =>
    obtain ⟨other, free⟩ := not_or.1 (List.mem_cons.not.1 free)
    rw [List.cons_append, List.splitOn_cons_eq_if_modifyHead, if_neg (by simpa using Ne.symm other),
      ih free, List.modifyHead_modifyHead]
    rfl

theorem ne_append (apart : ¬ first.toList <+: line.toList) (second : String) :
    line ≠ first ++ second := by
  rintro rfl
  rw [String.toList_append] at apart
  exact apart (List.prefix_append _ _)

/-- Behind a text without line feeds, which is no beginning of the line, the line stands where it
follows a line feed. -/
theorem hasLine_append (single : OneLine first) (apart : ¬ first.toList <+: line.toList) :
    HasLine (first ++ second) line ↔ Follows second line := by
  rw [HasLine, Follows, rows, rows, String.toList_append, splitOn_append single]
  rcases second.toList.splitOn '\n' with _ | ⟨head, tail⟩
  · exact Iff.rfl
  · rw [List.modifyHead_cons, List.mem_cons, List.tail_cons]
    constructor
    · rintro (same | later)
      · exact absurd ⟨head, same.symm⟩ apart
      · exact later
    · exact .inr

/-- The lines of texts each of which is ended by a line feed. -/
theorem rows_join (texts : List String) :
    rows (String.join (texts.map (· ++ "\n"))) = texts.flatMap rows ++ [[]] := by
  induction texts with
  | nil => rfl
  | cons text rest ih =>
    rw [List.map_cons, List.flatMap_cons, List.append_assoc, ← ih]
    simp only [rows, String.toList_join, List.flatMap_cons, String.toList_append]
    rw [List.append_assoc]
    exact List.splitOn_append_cons_self _ _

/-- A line that is not empty stands in texts that are written one after the other if it stands in
one of them. -/
theorem hasLine_join {texts : List String} (filled : line ≠ "") :
    HasLine (String.join (texts.map (· ++ "\n"))) line ↔ ∃ text ∈ texts, HasLine text line := by
  rw [HasLine, rows_join, List.mem_append, List.mem_flatMap, List.mem_singleton]
  have notEmpty : line.toList ≠ [] := fun empty => filled (String.toList_eq_nil_iff.1 empty)
  exact ⟨fun either => either.resolve_right notEmpty, .inl⟩

/-- The lines of texts without line feeds that are put together with line feeds. -/
theorem hasLine_intercalate {lines : List String} (single : ∀ line ∈ lines, OneLine line)
    (filled : lines ≠ []) : HasLine ("\n".intercalate lines) line ↔ line ∈ lines := by
  have free : ∀ row ∈ lines.map String.toList, '\n' ∉ row := by
    rintro row member
    rcases List.mem_map.1 member with ⟨line, listed, rfl⟩
    exact single line listed
  have cut : rows ("\n".intercalate lines) = lines.map String.toList := by
    rw [rows, String.toList_intercalate]
    exact List.splitOn_intercalate '\n' free (by simpa using filled)
  rw [HasLine, cut, List.mem_map]
  constructor
  · rintro ⟨other, listed, same⟩
    rw [← String.toList_inj.1 same]
    exact listed
  · exact fun listed => ⟨line, listed, rfl⟩

end QuantumKata.Text

/-! ## Numbers and labels -/

namespace QuantumKata.Decimal

open Text

theorem newline_not_mem_toDigits {base : Nat} (positive : 0 < base) (small : base ≤ 10)
    (number : Nat) : '\n' ∉ Nat.toDigits base number := by
  intro member
  exact absurd (Nat.isDigit_of_mem_toDigits positive small member) (by decide)

theorem oneLine_digits (number : Nat) : OneLine (digits number) :=
  oneLine_ofList (newline_not_mem_toDigits (by decide) (by decide) number)

theorem oneLine_integer (number : Int) : OneLine (integer number) := by
  cases number with
  | ofNat number => exact oneLine_digits number
  | negSucc number => exact oneLine_append.2 ⟨by decide, oneLine_digits (number + 1)⟩

theorem newline_not_mem_padded {base : Nat} (positive : 0 < base) (small : base ≤ 10)
    (count number : Nat) : '\n' ∉ List.replicate count '0' ++ Nat.toDigits base number := by
  rw [List.mem_append, not_or]
  refine ⟨fun member => ?_, newline_not_mem_toDigits positive small number⟩
  exact absurd (List.eq_of_mem_replicate member) (by decide)

theorem oneLine_withPoint (places number : Nat) : OneLine (withPoint places number) := by
  rw [withPoint]
  split
  · exact oneLine_digits number
  · have free : '\n' ∉ (paddedDigits (places + 1) number).toList := by
      rw [paddedDigits, String.toList_ofList]
      exact newline_not_mem_padded (by decide) (by decide) _ number
    refine oneLine_append.2 ⟨oneLine_append.2 ⟨oneLine_ofList ?_, by decide⟩, oneLine_ofList ?_⟩
    · exact fun member => free (List.mem_of_mem_take member)
    · exact fun member => free (List.mem_of_mem_drop member)

theorem oneLine_fixedSigned {plus : String} (single : OneLine plus) (places : Nat)
    (number : Float) : OneLine (fixedSigned plus places number) := by
  have sign : ∀ negative : Bool, OneLine (if negative then "-" else plus) := by
    intro negative
    cases negative
    · exact single
    · exact show OneLine "-" by decide
  rw [fixedSigned]
  split
  · exact oneLine_append.2 ⟨single, by decide⟩
  · exact oneLine_append.2 ⟨sign _, by decide⟩
  · exact oneLine_append.2 ⟨sign _, oneLine_withPoint _ _⟩

end QuantumKata.Decimal

namespace QuantumKata.Snapshot

open Text

theorem oneLine_plainLabel (numQubits index : Int) : OneLine (plainLabel numQubits index) := by
  have bits : ∀ width number, OneLine (bitsText width number) := fun width number =>
    oneLine_ofList (Decimal.newline_not_mem_padded (by decide) (by decide) _ number)
  rw [plainLabel]
  split
  · decide
  · split
    · exact oneLine_append.2 ⟨oneLine_append.2 ⟨by decide, bits _ _⟩, by decide⟩
    · exact oneLine_append.2 ⟨oneLine_append.2 ⟨by decide, bits _ _⟩, by decide⟩

end QuantumKata.Snapshot
