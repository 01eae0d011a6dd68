import QuantumKata.Yaml.Words

/-!
# The text of scalars

A scalar is written without quotes, between quotes, or as a block of lines.  Inside a scalar one end
of a line counts as a blank, and further ends of lines are kept; ends of lines of the rarer kinds
are always kept.  A block may also keep all its lines as they are, and says what becomes of the ends
of lines behind its last line.
-/

namespace QuantumKata.Yaml

/-- What the ends of lines between two words count as: the first one and those that follow. -/
def folded (lineBreak breaks : List Char) : List Char :=
  if lineBreak = ['\n'] then (if breaks.isEmpty then [' '] else breaks) else lineBreak ++ breaks

/-- What a character that ends a line is kept as. -/
def keptBreak (char : Char) : Char := if char = '\u0085' then '\n' else char

/-! ## Scalars without quotes -/

/-- Whether a plain scalar ends before a character, given the next one. -/
def endsPlain (inFlow : Bool) (char next : Char) : Bool :=
  endsMark char || (char == ':' && (endsMark next || (inFlow && ",[]\x7b\x7d".contains next))) ||
    (inFlow && ",?[]\x7b\x7d".contains char)

/-- How many characters of a text belong to a word of a plain scalar. -/
def plainLength (inFlow : Bool) : List Char → Nat
  | [] => 0
  | char :: rest =>
    if endsPlain inFlow char (first rest) then 0 else plainLength inFlow rest + 1

/-- Read the ends of lines and blanks behind the end of a line inside a plain scalar.  Nothing is
read where a document ends. -/
def plainBreaks (mark : Mark) : List Char → Option (List Char) × Cursor
  | [] => (some [], ⟨mark, []⟩)
  | char :: rest =>
    let next := mark.past char
    if char = ' ' then plainBreaks next rest
    else if isBreak char then
      if dividesDocuments rest then (none, ⟨next, rest⟩)
      else
        let (breaks, after) := plainBreaks next rest
        (breaks.map (keptBreak char :: ·), after)
    else (some [], ⟨mark, char :: rest⟩)

/-- What stands between the words of a plain scalar. -/
structure PlainGap where
  /-- What the gap counts as, unless the document ends here. -/
  text : Option (List Char)
  after : Cursor
  /-- Whether the gap reaches over the end of a line. -/
  crossesLine : Bool

/-- Read the gap behind a word of a plain scalar. -/
def plainGap (cursor : Cursor) : PlainGap :=
  let (blanks, behind) := cursor.span (· == ' ')
  if isBreak behind.char then
    let (lineBreak, below) := behind.lineBreak
    if below.isAtDivision then ⟨none, below, true⟩
    else
      let (breaks, after) := plainBreaks below.mark below.rest
      ⟨breaks.map (folded lineBreak), after, true⟩
  else ⟨some blanks, behind, false⟩

/-- A plain scalar, the place behind it, the place behind the gap that follows, and whether the gap
reaches over the end of a line. -/
structure PlainScalar where
  text : List Char
  finish : Mark
  after : Cursor
  crossesLine : Bool

/-- Read the words of a plain scalar that follow a gap; the fuel bounds their number. -/
def plainWords (inFlow : Bool) (indent : Int) :
    (fuel : Nat) → (before : List Char) → (sofar : PlainScalar) → PlainScalar
  | 0, _, sofar => sofar
  | fuel + 1, before, sofar =>
    let cursor := sofar.after
    let length := plainLength inFlow cursor.rest
    if cursor.char = '#' || length = 0 then sofar
    else
      let behind := cursor.skip length
      let gap := plainGap behind
      let next : PlainScalar :=
        ⟨sofar.text ++ before ++ cursor.rest.take length, behind.mark, gap.after, gap.crossesLine⟩
      match gap.text with
      | none | some [] => next
      | some text =>
        if gap.after.char = '#' || (!inFlow && (gap.after.mark.column : Int) < indent) then next
        else plainWords inFlow indent fuel text next

/-- Read a plain scalar, whose further lines have to be indented as far as given. -/
def readPlain (inFlow : Bool) (indent : Int) (cursor : Cursor) : PlainScalar :=
  plainWords inFlow indent (cursor.rest.length + 1) [] ⟨[], cursor.mark, cursor, false⟩

/-! ## Scalars between quotes -/

/-- What a letter behind a backslash stands for. -/
def escaped? : Char → Option Char
  | '0' => some '\x00'
  | 'a' => some '\x07'
  | 'b' => some '\x08'
  | 't' | '\t' => some '\t'
  | 'n' => some '\n'
  | 'v' => some '\x0b'
  | 'f' => some '\x0c'
  | 'r' => some '\r'
  | 'e' => some '\x1b'
  | ' ' => some ' '
  | '\x22' => some '\x22'
  | '\\' => some '\\'
  | '/' => some '/'
  | 'N' => some '\u0085'
  | '_' => some '\u00a0'
  | 'L' => some '\u2028'
  | 'P' => some '\u2029'
  | _ => none

/-- How many digits follow the letter of a numeric escape. -/
def escapeDigits? : Char → Option Nat
  | 'x' => some 2
  | 'u' => some 4
  | 'U' => some 8
  | _ => none

/-- A scalar between quotes while it is read: its kind and the place where it began. -/
structure Quotation where
  isDouble : Bool
  since : Mark

/-- The quote of a quotation. -/
def Quotation.quote (quotation : Quotation) : Char :=
  if quotation.isDouble then '\x22' else '\x27'

/-- A complaint about a place inside a quotation. -/
def Quotation.complain (quotation : Quotation) (cursor : Cursor) (problem : String) : Complaint :=
  cursor.complain "while scanning a quoted scalar" quotation.since problem

/-- Read ends of lines and blanks behind the end of a line inside quotes; the fuel bounds them. -/
def quotedBreaks (quotation : Quotation) :
    (fuel : Nat) → Cursor → Except Complaint (List Char × Cursor)
  | 0, cursor => .ok ([], cursor)
  | fuel + 1, cursor =>
    if cursor.isAtDivision then
      .error (quotation.complain cursor "found unexpected document separator")
    else
      let behind := cursor.skipWhile isGap
      if isBreak behind.char then
        let (lineBreak, below) := behind.lineBreak
        (quotedBreaks quotation fuel below).map fun (breaks, after) => (lineBreak ++ breaks, after)
      else .ok ([], behind)

/-- What a numeric escape stands for. -/
def escapedCode (code : Nat) : Except Fault Char :=
  if Nat.pow 2 31 ≤ code then
    .error (.raised (.other "OverflowError") [.text "Python int too large to convert to C int"])
  else if 0x110000 ≤ code then
    .error (.raised .value [.text "chr() arg not in range(0x110000)"])
  else .ok (Char.ofNat code)

/-- Why a document cannot be read: a complaint about its text, or a fault of a conversion. -/
inductive Refusal where
  | complaint (reason : Complaint)
  | fault (reason : Fault)

/-- What went wrong with the named document. -/
def Refusal.toFault (name : String) : Refusal → Fault
  | complaint reason => reason.fault name
  | fault reason => reason

/-- What an escape behind a backslash stands for, and the place behind it. -/
def readEscape (quotation : Quotation) (cursor : Cursor) :
    Except Refusal (List Char × Cursor) := do
  let context := "while scanning a double-quoted scalar"
  let letter := cursor.char
  match (if cursor.rest.isEmpty then none else escaped? letter), escapeDigits? letter with
  | some meaning, _ => return ([meaning], cursor.step)
  | none, some count =>
    let digits := cursor.step
    match (List.range count).find? fun place => !isHexDigit (digits.charAt place) with
    | some place =>
      throw (.complaint (digits.complain context quotation.since
        ("expected escape sequence of " ++ Decimal.digits count ++
          " hexadecimal numbers, but found " ++
          Text.quoted (String.singleton (digits.charAt place)))))
    | none =>
      match escapedCode (hexValue (digits.rest.take count)) with
      | .ok char => return ([char], digits.skip count)
      | .error fault => throw (.fault fault)
  | none, none =>
    if isBreak letter then
      let below := cursor.lineBreak.2
      match quotedBreaks quotation (below.rest.length + 1) below with
      | .ok found => return found
      | .error complaint => throw (.complaint complaint)
    else
      throw (.complaint (cursor.complain context quotation.since
        ("found unknown escape character " ++ Text.quoted (String.singleton letter))))

/-- Read blanks or the end of a line inside quotes: what they count as, and the place behind. -/
def readQuotedGap (quotation : Quotation) (cursor : Cursor) :
    Except Complaint (List Char × Cursor) :=
  let (blanks, behind) := cursor.span isGap
  if behind.char = endChar then
    .error (quotation.complain behind "found unexpected end of stream")
  else if isBreak behind.char then
    let (lineBreak, below) := behind.lineBreak
    (quotedBreaks quotation (below.rest.length + 1) below).map fun (breaks, after) =>
      (folded lineBreak breaks, after)
  else .ok (blanks, behind)

/-- Read the text between quotes behind the opening quote, and move behind the closing one; the
fuel bounds the characters. -/
def quotedText (quotation : Quotation) :
    (fuel : Nat) → Cursor → Except Refusal (List Char × Cursor)
  | 0, cursor => throw (.complaint (quotation.complain cursor "found unexpected end of stream"))
  | fuel + 1, cursor => do
    if cursor.char = quotation.quote then
      if quotation.isDouble || cursor.charAt 1 ≠ quotation.quote then return ([], cursor.step)
      else
        let (text, after) ← quotedText quotation fuel (cursor.skip 2)
        return (quotation.quote :: text, after)
    else
      let (piece, behind) ←
        if quotation.isDouble && cursor.char = '\\' then readEscape quotation cursor.step
        else if endsMark cursor.char then
          match readQuotedGap quotation cursor with
          | .ok found => .ok found
          | .error complaint => throw (.complaint complaint)
        else .ok ([cursor.char], cursor.step)
      let (text, after) ← quotedText quotation fuel behind
      return (piece ++ text, after)

/-- Read a scalar between quotes. -/
def readQuoted (cursor : Cursor) : Except Refusal (Token × Cursor) := do
  let quotation : Quotation := ⟨cursor.char == '\x22', cursor.mark⟩
  let (text, after) ← quotedText quotation (cursor.rest.length + 1) cursor.step
  return (⟨.scalar (String.ofList text) false, cursor.mark, after.mark⟩, after)

/-! ## Scalars in blocks -/

/-- What becomes of the ends of lines at the end of a block. -/
inductive Chomping where
  | strip
  | clip
  | keep
  deriving DecidableEq, Repr

/-- What is being read while a block is read. -/
def blockContext : String := "while scanning a block scalar"

/-- Read the sign for the end of a block, if it is here. -/
def readChomping (cursor : Cursor) : Option Chomping × Cursor :=
  match cursor.char with
  | '+' => (some .keep, cursor.step)
  | '-' => (some .strip, cursor.step)
  | _ => (none, cursor)

/-- Read the digit for the indentation of a block, if it is here. -/
def readIndentation (since : Mark) (cursor : Cursor) : Except Complaint (Option Nat × Cursor) :=
  if cursor.char = '0' then
    .error (cursor.complain blockContext since
      "expected indentation indicator in the range 1-9, but found 0")
  else .ok (if cursor.char.isDigit then
    (some (cursor.char.toNat - '0'.toNat), cursor.step) else (none, cursor))

/-- Read the signs behind the mark of a block, in either order. -/
def readIndicators (since : Mark) (cursor : Cursor) :
    Except Complaint (Chomping × Option Nat × Cursor) := do
  let (chomping, indentation, after) ← match readChomping cursor with
    | (some chomping, behind) => do
      let (indentation, after) ← readIndentation since behind
      .ok (chomping, indentation, after)
    | (none, _) => do
      let (indentation, behind) ← readIndentation since cursor
      let (chomping, after) :=
        if indentation.isSome then readChomping behind else (none, behind)
      .ok (chomping.getD .clip, indentation, after)
  if endsWord after.char then return (chomping, indentation, after)
  else
    .error (after.unexpected blockContext since "chomping or indentation indicators" after.char)

/-- Read empty lines and blanks before the first line of a block: the ends of lines and the greatest
column that was reached. -/
def leadingBreaks (mark : Mark) : List Char → (List Char × Nat) × Cursor
  | [] => (([], 0), ⟨mark, []⟩)
  | char :: rest =>
    let next := mark.past char
    if char = ' ' then
      let ((breaks, column), after) := leadingBreaks next rest
      ((breaks, max next.column column), after)
    else if isBreak char then
      let ((breaks, column), after) := leadingBreaks next rest
      ((keptBreak char :: breaks, column), after)
    else (([], 0), ⟨mark, char :: rest⟩)

/-- Read empty lines in a block, and the indentation of the line behind them. -/
def innerBreaks (indent : Nat) (mark : Mark) : List Char → List Char × Cursor
  | [] => ([], ⟨mark, []⟩)
  | char :: rest =>
    let next := mark.past char
    if char = ' ' ∧ mark.column < indent then innerBreaks indent next rest
    else if isBreak char then
      let (breaks, after) := innerBreaks indent next rest
      (keptBreak char :: breaks, after)
    else ([], ⟨mark, char :: rest⟩)

/-- Read the lines of a block.  `breaks` holds the empty lines before the first one; the fuel bounds
the lines.  The result also holds the last end of a line and the empty lines behind the block. -/
def blockLines (isFolded : Bool) (indent : Nat) :
    (fuel : Nat) → (breaks lineBreak : List Char) → Cursor →
      List Char × List Char × List Char × Cursor
  | 0, breaks, lineBreak, cursor => ([], lineBreak, breaks, cursor)
  | fuel + 1, breaks, lineBreak, cursor =>
    if cursor.mark.column = indent ∧ cursor.char ≠ endChar then
      let startsWord := !isGap cursor.char
      let (line, behind) := cursor.span fun char => !endsLine char
      let (ending, below) := behind.lineBreak
      let (further, next) := innerBreaks indent below.mark below.rest
      let joint :=
        if next.mark.column = indent ∧ next.char ≠ endChar then
          if isFolded && ending == ['\n'] && startsWord && !isGap next.char then
            if further.isEmpty then [' '] else []
          else ending
        else []
      let (text, last, trailing, after) := blockLines isFolded indent fuel further ending next
      (breaks ++ line ++ joint ++ text, last, trailing, after)
    else ([], lineBreak, breaks, cursor)

/-- Read a block that stands inside a collection of the given indentation. -/
def readBlock (outer : Int) (cursor : Cursor) : Except Complaint (Token × Cursor) := do
  let since := cursor.mark
  let (chomping, given, behind) ← readIndicators since cursor.step
  let below ← skipEmptyEnd blockContext since behind
  let least := max (outer + 1).toNat 1
  let (indent, breaks, start) := match given with
    | some count =>
      let indent := least + count - 1
      let (breaks, start) := innerBreaks indent below.mark below.rest
      (indent, breaks, start)
    | none =>
      let ((breaks, column), start) := leadingBreaks below.mark below.rest
      (max least column, breaks, start)
  let (text, lineBreak, trailing, after) :=
    blockLines (cursor.char == '>') indent (start.rest.length + 1) breaks [] start
  let ending := match chomping with
    | .strip => []
    | .clip => lineBreak
    | .keep => lineBreak ++ trailing
  return (⟨.scalar (String.ofList (text ++ ending)) false, since, after.mark⟩, after)

end QuantumKata.Yaml
