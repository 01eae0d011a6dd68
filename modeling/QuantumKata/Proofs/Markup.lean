import Mathlib.Data.List.TakeWhile
import QuantumKata.Grading.Reporter

/-!
# Text that the console can show

Marked-up text cannot be shown when a tag closes what is not open, or when the name of a style calls
a colour by numbers that cannot be read.  So text without brackets is always shown, and so is such
text between the tags of a style whose name holds no numbers: reading the text cuts it into the
opening tag, the words and the closing tag, and both tags have the same name.
-/

namespace QuantumKata.Console

/-- Whether a marked-up text can be shown. -/
def IsVisible (text : String) : Prop := ∃ seen, visible text = .ok seen

theorem IsVisible.exists_render {text : String} (isVisible : IsVisible text) :
    ∃ lines, render text = .ok lines := by
  rcases isVisible with ⟨seen, sees⟩
  exact ⟨wrap screenWidth true seen, by rw [render, sees]; rfl⟩

theorem IsVisible.of_render {text : String} {lines : List String}
    (rendered : render text = .ok lines) : IsVisible text := by
  rw [render] at rendered
  rcases Fault.map_eq_ok_iff.1 rendered with ⟨seen, sees, -⟩
  exact ⟨seen, sees⟩

/-! ## Names of styles -/

/-- A word that does not call a colour by numbers. -/
def IsSimple (word : String) : Prop :=
  ∀ form ∈ [word, Text.lower word], (Text.lower form).startsWith "color(" = false ∧
    (Text.lower form).startsWith "rgb(" = false

instance (word : String) : Decidable (IsSimple word) :=
  inferInstanceAs (Decidable (∀ form ∈ [word, Text.lower word], _ ∧ _))

theorem exists_isColour {word : String}
    (noNumber : (Text.lower word).startsWith "color(" = false)
    (noShares : (Text.lower word).startsWith "rgb(" = false) :
    ∃ holds, isColour word = .ok holds := by
  have number : argument? "color(" (Text.lower word) = none := by
    rw [argument?, noNumber]
    rfl
  have shares : argument? "rgb(" (Text.lower word) = none := by
    rw [argument?, noShares]
    rfl
  rw [isColour]
  simp only [number, shares]
  split
  · exact ⟨true, rfl⟩
  · split <;> exact ⟨_, rfl⟩

namespace Style

theorem exists_addWord {word : String} (simple : IsSimple word) (style : Style) :
    ∃ changed, style.addWord (Text.lower word) = .ok changed := by
  rcases simple (Text.lower word) (by simp) with ⟨noNumber, noShares⟩
  rcases exists_isColour noNumber noShares with ⟨holds, isIt⟩
  rw [addWord]
  split
  · exact ⟨_, rfl⟩
  · rw [isIt]
    exact ⟨_, rfl⟩

theorem exists_ofWords (words : List String) (simple : ∀ word ∈ words, IsSimple word)
    (style : Style) : ∃ read, style.ofWords words = .ok read := by
  match words with
  | [] => exact ⟨_, rfl⟩
  | [word] =>
    rw [ofWords]
    split
    · exact ⟨none, rfl⟩
    · exact exists_addWord (simple word List.mem_cons_self) style
  | word :: next :: rest =>
    rcases List.forall_mem_cons.1 simple with ⟨simpleWord, simpleNext⟩
    rcases List.forall_mem_cons.1 simpleNext with ⟨nextIs, simpleRest⟩
    rw [ofWords]
    split
    · rcases nextIs next List.mem_cons_self with ⟨noNumber, noShares⟩
      rcases exists_isColour noNumber noShares with ⟨holds, isIt⟩
      rw [isIt]
      cases holds with
      | true => exact exists_ofWords rest simpleRest _
      | false => exact ⟨none, rfl⟩
    · split
      · split
        · exact exists_ofWords rest simpleRest _
        · exact ⟨none, rfl⟩
      · split
        · exact exists_ofWords rest simpleRest _
        · rcases exists_addWord simpleWord style with ⟨changed, adds⟩
          rw [adds]
          cases changed with
          | some changed => exact exists_ofWords (next :: rest) simpleNext changed
          | none => exact ⟨none, rfl⟩

theorem exists_normalName {name : String} (simple : ∀ word ∈ Text.words name, IsSimple word) :
    ∃ normal, normalName name = .ok normal := by
  rcases exists_ofWords _ simple {} with ⟨read, reads⟩
  rw [normalName, reads]
  split
  · exact ⟨_, rfl⟩
  · exact ⟨_, rfl⟩

end Style

/-! ## Pieces of a text -/

section Pieces

variable {text rest pending : List Char} {fuel position : Nat}

/-- The backslashes at the beginning, and what follows them. -/
theorem replicate_slashes_append (text : List Char) :
    List.replicate (text.takeWhile (· == '\\')).length '\\' ++
      text.drop (text.takeWhile (· == '\\')).length = text := by
  induction text with
  | nil => rfl
  | cons char text ih =>
    by_cases slash : char = '\\'
    · subst slash
      rw [List.takeWhile_cons_of_pos rfl, List.length_cons, List.replicate_succ,
        List.drop_succ_cons, List.cons_append, ih]
    · rw [List.takeWhile_cons_of_neg (by simpa using slash)]
      rfl

/-- Text without brackets is made of words. -/
theorem piecesFrom_of_plain (plain : '[' ∉ rest) :
    piecesFrom fuel position pending rest = consWords (pending.reverse ++ rest) [] := by
  induction fuel generalizing position pending rest with
  | zero => rw [piecesFrom]
  | succ fuel ih =>
    cases rest with
    | nil => rw [piecesFrom, List.append_nil]
    | cons char rest =>
      have apart := replicate_slashes_append (char :: rest)
      rw [piecesFrom]
      split
      case h_1 inner dropped =>
        have bracket : '[' ∈ (char :: rest).drop ((char :: rest).takeWhile (· == '\\')).length := by
          rw [dropped]
          exact List.mem_cons_self
        exact absurd (List.mem_of_mem_drop bracket) plain
      case h_2 =>
        split
        · rw [ih (mt (List.mem_cons_of_mem char) plain)]
          simp
        · rw [ih (mt List.mem_of_mem_drop plain), List.reverse_append, List.reverse_replicate,
            List.append_assoc, apart]

/-- A character that is neither a bracket nor a backslash is held back. -/
theorem piecesFrom_cons {char : Char} (noBracket : char ≠ '[') (noSlash : char ≠ '\\') :
    piecesFrom (fuel + 1) position pending (char :: rest) =
      piecesFrom fuel (position + 1) (char :: pending) rest := by
  have none : (char :: rest).takeWhile (· == '\\') = [] :=
    List.takeWhile_cons_of_neg (by simpa using noSlash)
  rw [piecesFrom, none]
  dsimp only [List.length_nil, List.drop_zero]
  split
  case h_1 inner same => exact absurd (List.cons.inj same).1 noBracket
  case h_2 => rw [if_pos rfl]

/-- Words without brackets and backslashes are held back. -/
theorem piecesFrom_append (noBracket : '[' ∉ text) (noSlash : '\\' ∉ text) :
    piecesFrom (text.length + fuel) position pending (text ++ rest) =
      piecesFrom fuel (position + text.length) (text.reverse ++ pending) rest := by
  induction text generalizing position pending with
  | nil => simp
  | cons char text ih =>
    rw [List.mem_cons, not_or] at noBracket noSlash
    rw [List.length_cons, Nat.add_right_comm, List.cons_append,
      piecesFrom_cons (Ne.symm noBracket.1) (Ne.symm noSlash.1), ih noBracket.2 noSlash.2,
      List.reverse_cons, List.append_assoc]
    congr 1
    omega

/-- What can stand in a tag. -/
structure IsTag (text : List Char) : Prop where
  begins : text.head?.any beginsTag = true
  noOpening : '[' ∉ text
  noClosing : ']' ∉ text
  noEquals : '=' ∉ text

instance (text : List Char) : Decidable (IsTag text) :=
  decidable_of_iff
    (text.head?.any beginsTag = true ∧ '[' ∉ text ∧ ']' ∉ text ∧ '=' ∉ text)
    ⟨fun ⟨begins, noOpening, noClosing, noEquals⟩ => ⟨begins, noOpening, noClosing, noEquals⟩,
      fun ⟨begins, noOpening, noClosing, noEquals⟩ => ⟨begins, noOpening, noClosing, noEquals⟩⟩

theorem IsTag.exists_cons (isTag : IsTag text) :
    ∃ first rest, text = first :: rest ∧ beginsTag first = true := by
  cases text with
  | nil => cases isTag.begins
  | cons first rest => exact ⟨first, rest, rfl, isTag.begins⟩

theorem IsTag.tagText?_eq (isTag : IsTag text) :
    tagText? (text ++ ']' :: rest) = some (text, rest) := by
  rcases isTag.exists_cons with ⟨first, inner, rfl, begins⟩
  have inside : ∀ char ∈ inner, (char != ']' && char != '[') = true := by
    intro char member
    have notClosing := ne_of_mem_of_not_mem (List.mem_cons_of_mem first member) isTag.noClosing
    have notOpening := ne_of_mem_of_not_mem (List.mem_cons_of_mem first member) isTag.noOpening
    simp [notClosing, notOpening]
  have taken :
      (inner ++ ']' :: rest).takeWhile (fun char => char != ']' && char != '[') = inner := by
    rw [List.takeWhile_append_of_pos inside, List.takeWhile_cons_of_neg (by simp), List.append_nil]
  rw [List.cons_append, tagText?]
  simp only [taken, List.drop_left, begins, if_true]

theorem IsTag.tagOf_eq (isTag : IsTag text) :
    tagOf position text = .tag position (String.ofList text) none := by
  have taken : text.takeWhile (· != '=') = text :=
    List.takeWhile_eq_self_iff.2 fun char member =>
      bne_iff_ne.2 (ne_of_mem_of_not_mem member isTag.noEquals)
  rw [tagOf]
  simp only [taken, List.drop_length]

/-- A tag ends the words before it. -/
theorem IsTag.piecesFrom_eq (isTag : IsTag text) :
    piecesFrom (fuel + 1) position pending ('[' :: (text ++ ']' :: rest)) =
      consWords pending.reverse (.tag position (String.ofList text) none ::
        piecesFrom fuel (position + text.length + 2) [] rest) := by
  have none : ('[' :: (text ++ ']' :: rest)).takeWhile (· == '\\') = [] :=
    List.takeWhile_cons_of_neg (by simp)
  rw [piecesFrom, none]
  simp only [List.length_nil, List.drop_zero, isTag.tagText?_eq]
  rw [if_neg (by decide), isTag.tagOf_eq]
  rfl

end Pieces

/-! ## Text between tags -/

/-- The name of a style that can stand in a tag and can be read. -/
structure IsStyleName (name : String) : Prop where
  isTag : IsTag name.toList
  opens : name.toList.head? ≠ some '/'
  trimmed : Text.strip name = name
  simple : ∀ word ∈ Text.words name, IsSimple word

instance (name : String) : Decidable (IsStyleName name) :=
  decidable_of_iff (IsTag name.toList ∧ name.toList.head? ≠ some '/' ∧ Text.strip name = name ∧
      ∀ word ∈ Text.words name, IsSimple word)
    ⟨fun ⟨isTag, opens, trimmed, simple⟩ => ⟨isTag, opens, trimmed, simple⟩,
      fun ⟨isTag, opens, trimmed, simple⟩ => ⟨isTag, opens, trimmed, simple⟩⟩

theorem shown_nil (isOpen : List String) : shown isOpen [] = .ok [] := rfl

theorem shown_words (isOpen : List String) (text : List Char) (rest : List Piece) :
    shown isOpen (.words text :: rest) = (shown isOpen rest).map (wordsShown text ++ ·) := rfl

-- Sealed, the name is not read while the two sides are compared.
seal Style.normalName in
theorem shown_opening {name : String} (opens : name.toList.head? ≠ some '/') (isOpen : List String)
    (position : Nat) (rest : List Piece) :
    shown isOpen (.tag position name none :: rest) =
      match Style.normalName name with
      | .error fault => .error fault
      | .ok style => shown (style :: isOpen) rest :=
  if_neg opens

theorem closeTag_self (name : String) (outer : List String) :
    closeTag name (name :: outer) = some outer := by
  rw [closeTag, if_pos rfl]

seal Style.normalName in
theorem shown_closing {name : String} (closed : Text.strip name = name) (nonempty : name ≠ "")
    {style : String} (isStyle : Style.normalName name = .ok style) (outer : List String)
    (position : Nat) (rest : List Piece) :
    shown (style :: outer) (.tag position (String.ofList ('/' :: name.toList)) none :: rest) =
      shown outer rest := by
  have slash : (String.ofList ('/' :: name.toList)).toList.head? = some '/' := by
    rw [String.toList_ofList]
    rfl
  have bare : Text.strip (String.ofList ((String.ofList ('/' :: name.toList)).toList.drop 1)) =
      name := by
    rw [String.toList_ofList, List.drop_succ_cons, List.drop_zero, String.ofList_toList, closed]
  have notEmpty : ¬name.isEmpty = true := mt String.isEmpty_iff.1 nonempty
  refine (if_pos slash).trans ?_
  simp only [bare, if_neg notEmpty, isStyle, closeTag_self]

theorem exists_shown_consWords {isOpen : List String} {pieces : List Piece} (text : List Char)
    (shows : ∃ seen, shown isOpen pieces = .ok seen) :
    ∃ seen, shown isOpen (consWords text pieces) = .ok seen := by
  rw [consWords]
  split
  · exact shows
  · rcases shows with ⟨seen, sees⟩
    rw [shown_words, sees]
    exact ⟨wordsShown text ++ seen, rfl⟩

theorem isVisible_of_plain {text : String} (plain : '[' ∉ text.toList) : IsVisible text := by
  have cut : pieces text = consWords text.toList [] := piecesFrom_of_plain plain
  rcases exists_shown_consWords text.toList ⟨[], shown_nil []⟩ with ⟨seen, sees⟩
  rw [IsVisible, visible, cut, sees]
  exact ⟨_, rfl⟩

/-- What a style opens, it can close again. -/
theorem IsStyleName.shown_tags {style : String} (isStyle : IsStyleName style)
    (position later : Nat) (text behind : List Char) :
    ∃ seen, shown [] (.tag position style none ::
      consWords text (.tag later (String.ofList ('/' :: style.toList)) none ::
        consWords behind [])) = .ok seen := by
  rcases Style.exists_normalName isStyle.simple with ⟨normal, isNormal⟩
  have some : style ≠ "" := by
    rintro rfl
    cases isStyle.isTag.begins
  rw [shown_opening isStyle.opens, isNormal]
  apply exists_shown_consWords
  rw [shown_closing isStyle.trimmed some isNormal]
  exact exists_shown_consWords behind ⟨[], shown_nil []⟩

theorem IsStyleName.isTag_closing {style : String} (isStyle : IsStyleName style) :
    IsTag ('/' :: style.toList) := by
  have isTag := isStyle.isTag
  exact ⟨by rfl, List.not_mem_cons_of_ne_of_not_mem (by decide) isTag.noOpening,
    List.not_mem_cons_of_ne_of_not_mem (by decide) isTag.noClosing,
    List.not_mem_cons_of_ne_of_not_mem (by decide) isTag.noEquals⟩

/-- A text between the tags of a style can be shown, and so can text behind it. -/
theorem IsStyleName.isVisible {style : String} (isStyle : IsStyleName style) {text behind : String}
    (plain : '[' ∉ text.toList ∧ '\\' ∉ text.toList) (plainBehind : '[' ∉ behind.toList) :
    IsVisible (Reporter.styled style text ++ behind) := by
  have letters : (Reporter.styled style text ++ behind).toList =
      '[' :: (style.toList ++ ']' ::
        (text.toList ++ '[' :: ('/' :: style.toList ++ ']' :: behind.toList))) := by
    simp [Reporter.styled]
  obtain ⟨fuel, enough⟩ : ∃ fuel, (Reporter.styled style text ++ behind).length + 1 =
      text.toList.length + (fuel + 1) + 1 := by
    have longer : text.toList.length + 1 ≤ (Reporter.styled style text ++ behind).length := by
      rw [← String.length_toList, letters]
      simp only [List.length_cons, List.length_append]
      omega
    rcases Nat.exists_eq_add_of_le longer with ⟨fuel, enough⟩
    exact ⟨fuel, by omega⟩
  have cut : pieces (Reporter.styled style text ++ behind) =
      .tag 0 style none :: consWords text.toList
        (.tag (0 + style.toList.length + 2 + text.toList.length)
          (String.ofList ('/' :: style.toList)) none :: consWords behind.toList []) := by
    rw [pieces, letters, enough, isStyle.isTag.piecesFrom_eq, piecesFrom_append plain.1 plain.2,
      isStyle.isTag_closing.piecesFrom_eq, piecesFrom_of_plain plainBehind, String.ofList_toList,
      List.append_nil, List.reverse_reverse]
    rfl
  rcases isStyle.shown_tags 0 (0 + style.toList.length + 2 + text.toList.length) text.toList
    behind.toList with ⟨seen, sees⟩
  rw [IsVisible, visible, cut, sees]
  exact ⟨_, rfl⟩

/-! ## Tables -/

theorem exists_mapM {α β : Type} {action : α → Except Fault β} {values : List α}
    (each : ∀ value ∈ values, ∃ result, action value = .ok result) :
    ∃ results, values.mapM action = .ok results := by
  induction values with
  | nil => exact ⟨[], rfl⟩
  | cons value rest ih =>
    rcases List.forall_mem_cons.1 each with ⟨⟨result, done⟩, each⟩
    rcases ih each with ⟨results, finished⟩
    refine ⟨result :: results, ?_⟩
    rw [List.mapM_cons, done, finished]
    rfl

/-- A table can be shown if all its texts can. -/
theorem Table.exists_render {table : Table} (title : IsVisible table.title)
    (headers : ∀ header ∈ table.headers, IsVisible header)
    (rows : ∀ row ∈ table.rows, ∀ cell ∈ row, IsVisible cell) :
    ∃ lines, table.render = .ok lines := by
  rcases title with ⟨titleSeen, seesTitle⟩
  rcases exists_mapM headers with ⟨headersSeen, seesHeaders⟩
  rcases exists_mapM fun row member => exists_mapM (rows row member) with ⟨rowsSeen, seesRows⟩
  rw [render, seesTitle, seesHeaders, seesRows]
  exact ⟨_, rfl⟩

theorem Table.exists_render_of_plain {table : Table}
    (headings : ∀ text ∈ table.title :: table.headers, '[' ∉ text.toList)
    (rows : ∀ row ∈ table.rows, ∀ cell ∈ row, '[' ∉ cell.toList) :
    ∃ lines, table.render = .ok lines := by
  rcases List.forall_mem_cons.1 headings with ⟨title, headers⟩
  exact Table.exists_render (isVisible_of_plain title)
    (fun header member => isVisible_of_plain (headers header member))
    fun row rowMember cell cellMember => isVisible_of_plain (rows row rowMember cell cellMember)

/-! ## The styles of reports -/

theorem isStyleName_reported :
    ∀ style ∈ ["green", "bold green", "bold blue", "bold red"], IsStyleName style := by
  decide +kernel

end QuantumKata.Console
