import QuantumKata.Yaml.Text

/-!
# Cutting a document into tokens

Two things about tokens cannot be seen where they stand.  A token may turn out to be a key when a
colon follows on the same line, so a token that may be a key is held back until that is known.  And
a block collection begins where a key or an entry stands further right than the collection around
it, and ends where something stands further left.  Inside brackets indentation does not matter.
-/

namespace QuantumKata.Yaml

/-- A token that may turn out to be a key: its number among all tokens, its place, and whether it
can be nothing else. -/
structure PossibleKey where
  number : Nat
  isRequired : Bool
  mark : Mark

/-- How far a document has been cut into tokens. -/
structure Layout where
  cursor : Cursor
  /-- How many brackets are open. -/
  flowLevel : Int := 0
  /-- The indentation of the block collection at hand, and of those around it. -/
  indent : Int := -1
  outer : List Int := []
  /-- Whether a key may stand here. -/
  allowsKey : Bool := true
  /-- The token that may be a key, for every level of brackets. -/
  keys : List (Int × PossibleKey) := []
  /-- The tokens that are held back, and how many stand before them. -/
  queue : List Token := []
  taken : Nat := 0
  isDone : Bool := false

namespace Layout

/-- Whether the place at hand lies between brackets. -/
def inFlow (layout : Layout) : Bool := layout.flowLevel != 0

/-- The column of the place at hand. -/
def column (layout : Layout) : Int := layout.cursor.mark.column

/-- Put a token behind the others. -/
def push (layout : Layout) (token : Token) : Layout :=
  { layout with queue := layout.queue ++ [token] }

/-- Put a token that takes no room in front of the token of the given number. -/
def insertAt (layout : Layout) (number : Nat) (kind : TokenKind) (mark : Mark) : Layout :=
  let place := number - layout.taken
  { layout with queue := layout.queue.take place ++ ⟨kind, mark, mark⟩ :: layout.queue.drop place }

/-- Put a token that takes no room behind the others. -/
def pushHere (layout : Layout) (kind : TokenKind) : Layout :=
  layout.push ⟨kind, layout.cursor.mark, layout.cursor.mark⟩

/-- Put a token of the given length behind the others and move over it. -/
def pushMarks (layout : Layout) (kind : TokenKind) (length : Nat) : Layout :=
  let after := layout.cursor.skip length
  { layout.push ⟨kind, layout.cursor.mark, after.mark⟩ with cursor := after }

/-- The complaint about a key that is not followed by a colon. -/
def missingColon (layout : Layout) (key : PossibleKey) : Complaint :=
  layout.cursor.complain "while scanning a simple key" key.mark "could not find expected ':'"

/-- A complaint about a mark that may not stand here. -/
def misplaced (layout : Layout) (problem : String) : Complaint :=
  { stage := .scanner, problem, mark := layout.cursor.mark }

/-- How far behind its beginning a key may have its colon. -/
def keyLimit : Nat := 1024

/-- Whether a possible key cannot be a key any more. -/
def isStale (layout : Layout) (key : PossibleKey) : Bool :=
  key.mark.line != layout.cursor.mark.line ||
    decide (key.mark.index + keyLimit < layout.cursor.mark.index)

/-- Give up the possible keys that cannot be keys any more. -/
def dropStale (layout : Layout) : Except Complaint Layout :=
  match layout.keys.find? fun (_, key) => layout.isStale key && key.isRequired with
  | some (_, key) => .error (layout.missingColon key)
  | none => .ok { layout with keys := layout.keys.filter fun (_, key) => !layout.isStale key }

/-- The possible key at the level at hand. -/
def keyHere? (layout : Layout) : Option PossibleKey := layout.keys.lookup layout.flowLevel

/-- Forget the possible key at the level at hand. -/
def forgetKey (layout : Layout) : Layout :=
  { layout with keys := layout.keys.filter fun (level, _) => level != layout.flowLevel }

/-- Give up the possible key at the level at hand. -/
def dropKey (layout : Layout) : Except Complaint Layout :=
  match layout.keyHere?.filter PossibleKey.isRequired with
  | some key => .error (layout.missingColon key)
  | none => .ok layout.forgetKey

/-- Note that the next token may be a key. -/
def noteKey (layout : Layout) : Except Complaint Layout :=
  if layout.allowsKey then do
    let free ← layout.dropKey
    let key : PossibleKey :=
      { number := layout.taken + layout.queue.length,
        isRequired := !layout.inFlow && layout.indent == layout.column,
        mark := layout.cursor.mark }
    return { free with keys := free.keys ++ [(layout.flowLevel, key)] }
  else .ok layout

/-- End the block collections that stand further right than the given column, which are among the
given ones. -/
def unwindFrom (column : Int) (layout : Layout) : List Int → Layout
  | [] => layout
  | around :: further =>
    if column < layout.indent then
      unwindFrom column
        { layout.pushHere .blockEnd with indent := around, outer := further } further
    else layout

/-- End the block collections that stand further right than the given column. -/
def unwind (layout : Layout) (column : Int) : Layout :=
  if layout.inFlow then layout else unwindFrom column layout layout.outer

/-- Begin a block collection in a column, unless one is there. -/
def indentTo (layout : Layout) (column : Int) : Option Layout :=
  if layout.indent < column then
    some { layout with indent := column, outer := layout.indent :: layout.outer }
  else none

/-- Begin a block collection here, unless one is there. -/
def beginBlock (layout : Layout) (kind : TokenKind) : Layout :=
  match layout.indentTo layout.column with
  | some deeper => deeper.pushHere kind
  | none => layout

/-- Move over blanks, comments and ends of lines; the fuel bounds the lines.  Keys may stand at the
beginning of a line. -/
def skipGap : (fuel : Nat) → Layout → Layout
  | 0, layout => layout
  | fuel + 1, layout =>
    let behind := layout.cursor.skipBlanks.skipComment
    if isBreak behind.char then
      skipGap fuel { layout with
        cursor := behind.lineBreak.2, allowsKey := layout.allowsKey || !layout.inFlow }
    else { layout with cursor := behind }

/-- Move to the next token. -/
def skipToToken (layout : Layout) : Layout :=
  let start :=
    if layout.cursor.mark.index = 0 ∧ layout.cursor.char = '\ufeff' then
      { layout with cursor := layout.cursor.step }
    else layout
  start.skipGap (start.cursor.rest.length + 1)

/-! ## The tokens -/

/-- End everything at the end of the text. -/
def fetchEnd (layout : Layout) : Except Complaint Layout := do
  let flat ← (layout.unwind (-1)).dropKey
  return { flat.pushHere .streamEnd with allowsKey := false, keys := [], isDone := true }

/-- Read a directive. -/
def fetchDirective (layout : Layout) : Except Complaint Layout := do
  let flat ← (layout.unwind (-1)).dropKey
  let (token, after) ← readDirective flat.cursor
  return { flat.push token with allowsKey := false, cursor := after }

/-- Read a mark between documents. -/
def fetchDivision (layout : Layout) (kind : TokenKind) : Except Complaint Layout := do
  let flat ← (layout.unwind (-1)).dropKey
  return { flat.pushMarks kind 3 with allowsKey := false }

/-- Read an opening bracket. -/
def fetchOpening (layout : Layout) (kind : TokenKind) : Except Complaint Layout := do
  let noted ← layout.noteKey
  return { noted.pushMarks kind 1 with flowLevel := noted.flowLevel + 1, allowsKey := true }

/-- Read a closing bracket. -/
def fetchClosing (layout : Layout) (kind : TokenKind) : Except Complaint Layout := do
  let free ← layout.dropKey
  return { free.pushMarks kind 1 with flowLevel := free.flowLevel - 1, allowsKey := false }

/-- Read a comma between brackets. -/
def fetchComma (layout : Layout) : Except Complaint Layout := do
  let free ← layout.dropKey
  return { free.pushMarks .flowEntry 1 with allowsKey := true }

/-- Read the dash of an entry. -/
def fetchDash (layout : Layout) : Except Complaint Layout :=
  if !layout.inFlow && !layout.allowsKey then
    .error (layout.misplaced "sequence entries are not allowed here")
  else do
    let inside := if layout.inFlow then layout else layout.beginBlock .blockSequenceStart
    let free ← inside.dropKey
    return { free.pushMarks .blockEntry 1 with allowsKey := true }

/-- Read the question mark in front of a key. -/
def fetchKey (layout : Layout) : Except Complaint Layout :=
  if !layout.inFlow && !layout.allowsKey then
    .error (layout.misplaced "mapping keys are not allowed here")
  else do
    let inside := if layout.inFlow then layout else layout.beginBlock .blockMappingStart
    let free ← inside.dropKey
    return { free.pushMarks .key 1 with allowsKey := !layout.inFlow }

/-- Read the colon in front of a value.  What stands before it on the line is the key; a block
mapping may begin with that key. -/
def fetchColon (layout : Layout) : Except Complaint Layout :=
  match layout.keyHere? with
  | some key =>
    let keyed := layout.forgetKey.insertAt key.number .key key.mark
    let inside :=
      if layout.inFlow then keyed
      else match keyed.indentTo key.mark.column with
        | some deeper => deeper.insertAt key.number .blockMappingStart key.mark
        | none => keyed
    .ok { inside.pushMarks .value 1 with allowsKey := false }
  | none =>
    if !layout.inFlow && !layout.allowsKey then
      .error (layout.misplaced "mapping values are not allowed here")
    else do
      let inside := if layout.inFlow then layout else layout.beginBlock .blockMappingStart
      let free ← inside.dropKey
      return { free.pushMarks .value 1 with allowsKey := !layout.inFlow }

/-- Read a token that may be a key. -/
def fetchWord (layout : Layout) (token : Token) (after : Cursor) (allowsKey : Bool) :
    Except Complaint Layout := do
  let noted ← layout.noteKey
  return { noted.push token with cursor := after, allowsKey }

/-- Read a block of lines. -/
def fetchBlock (layout : Layout) : Except Complaint Layout := do
  let free ← layout.dropKey
  let (token, after) ← readBlock free.indent free.cursor
  return { free.push token with cursor := after, allowsKey := true }

/-- A result without conversions is a result. -/
def plainly (outcome : Except Complaint Layout) : Except Refusal Layout :=
  outcome.mapError .complaint

/-- Read a token that may be a key, which is noted before the token is read. -/
def fetchNoted (layout : Layout) (read : Cursor → Except Complaint (Token × Cursor)) :
    Except Refusal Layout := plainly do
  let noted ← layout.noteKey
  let (token, after) ← read noted.cursor
  return { noted.push token with cursor := after, allowsKey := false }

/-- Read a scalar between quotes. -/
def fetchQuoted (layout : Layout) : Except Refusal Layout := do
  let noted ← plainly layout.noteKey
  let (token, after) ← readQuoted noted.cursor
  return { noted.push token with cursor := after, allowsKey := false }

/-- Read a scalar without quotes. -/
def fetchPlain (layout : Layout) : Except Complaint Layout := do
  let noted ← layout.noteKey
  let scalar := readPlain noted.inFlow (noted.indent + 1) noted.cursor
  return { noted.push ⟨.scalar (String.ofList scalar.text) true, noted.cursor.mark, scalar.finish⟩
    with cursor := scalar.after, allowsKey := scalar.crossesLine }

/-- Whether a scalar without quotes may begin here. -/
def beginsPlain (layout : Layout) : Bool :=
  let char := layout.cursor.char
  !(endsMark char || "-?:,[]\x7b\x7d#&*!|>'\"%@\x60".contains char) ||
    (!endsMark (layout.cursor.charAt 1) &&
      (char == '-' || (!layout.inFlow && (char == '?' || char == ':'))))

/-- The complaint about a character that begins nothing. -/
def noToken (layout : Layout) : Complaint :=
  { stage := .scanner, context := "while scanning for the next token",
    problem := "found character " ++ Text.quoted (String.singleton layout.cursor.char) ++
      " that cannot start any token",
    mark := layout.cursor.mark }

/-- Whether a mark that stands for itself is here. -/
def isMark (layout : Layout) : Bool := endsMark (layout.cursor.charAt 1)

/-- Read the token that begins here. -/
def fetchHere (layout : Layout) : Except Refusal Layout :=
  let cursor := layout.cursor
  let atMargin := cursor.mark.column == 0
  match cursor.char with
  | '\x00' => plainly layout.fetchEnd
  | '[' => plainly (layout.fetchOpening .flowSequenceStart)
  | '\x7b' => plainly (layout.fetchOpening .flowMappingStart)
  | ']' => plainly (layout.fetchClosing .flowSequenceEnd)
  | '\x7d' => plainly (layout.fetchClosing .flowMappingEnd)
  | ',' => plainly layout.fetchComma
  | '*' => layout.fetchNoted readAnchor
  | '&' => layout.fetchNoted readAnchor
  | '!' => layout.fetchNoted readTag
  | '\x27' => layout.fetchQuoted
  | '\x22' => layout.fetchQuoted
  | char =>
    if char = '%' && atMargin then plainly layout.fetchDirective
    else if char = '-' && atMargin && cursor.isAtDivision then
      plainly (layout.fetchDivision .documentStart)
    else if char = '.' && atMargin && cursor.isAtDivision then
      plainly (layout.fetchDivision .documentEnd)
    else if char = '-' && layout.isMark then plainly layout.fetchDash
    else if char = '?' && (layout.inFlow || layout.isMark) then plainly layout.fetchKey
    else if char = ':' && (layout.inFlow || layout.isMark) then plainly layout.fetchColon
    else if (char = '|' || char = '>') && !layout.inFlow then plainly layout.fetchBlock
    else if layout.beginsPlain then plainly layout.fetchPlain
    else .error (.complaint layout.noToken)

/-- Read the next token of the text. -/
def fetch (layout : Layout) : Except Refusal Layout := do
  let fresh ← plainly layout.skipToToken.dropStale
  (fresh.unwind fresh.column).fetchHere

/-- Whether the first token that is held back may still turn out to be a key. -/
def isWaiting (layout : Layout) : Bool :=
  layout.keys.any fun (_, key) => key.number == layout.taken

/-- Read on until the first token that is held back is known; the fuel bounds the tokens. -/
def settle : (fuel : Nat) → Layout → Except Refusal Layout
  | 0, layout => .ok layout
  | fuel + 1, layout =>
    if layout.isDone then .ok layout
    else if layout.queue.isEmpty then do
      let next ← layout.fetch
      settle fuel next
    else do
      let fresh ← plainly layout.dropStale
      if fresh.isWaiting then do
        let next ← fresh.fetch
        settle fuel next
      else .ok fresh

/-- The tokens from here on, and why they end before the text does; the fuel bounds them. -/
def tokensFrom : (fuel : Nat) → Layout → List Token × Option Refusal
  | 0, _ => ([], none)
  | fuel + 1, layout =>
    match layout.settle (layout.cursor.rest.length + 2) with
    | .error refusal => ([], some refusal)
    | .ok settled =>
      match settled.queue with
      | [] => ([], none)
      | token :: held =>
        let (tokens, refusal) :=
          tokensFrom fuel { settled with queue := held, taken := settled.taken + 1 }
        (token :: tokens, refusal)

end Layout

/-- The tokens of a text, and why they end before the text does, if they do. -/
def tokensOf (text : List Char) : List Token × Option Refusal :=
  let start : Layout := { cursor := ⟨{}, text⟩ }
  Layout.tokensFrom (6 * text.length + 16) (start.pushHere .streamStart)

end QuantumKata.Yaml
