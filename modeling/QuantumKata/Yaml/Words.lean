import QuantumKata.Text.Numeral
import QuantumKata.Yaml.Cursor
import QuantumKata.Yaml.Token

/-!
# Anchors, tags and directives

These tokens are single words that begin with a character of their own.  A tag may hold escaped
bytes, which have to make up characters.
-/

namespace QuantumKata.Yaml

/-- Whether a character may stand in a name. -/
def isNameChar (char : Char) : Bool := char.isAlphanum || char == '-' || char == '_'

/-- The complaint about a character where a name is expected. -/
def Cursor.expectedName (cursor : Cursor) (context : String) (since : Mark) : Complaint :=
  cursor.unexpected context since "alphabetic or numeric character" cursor.char

/-- Read an anchor or an alias. -/
def readAnchor (cursor : Cursor) : Except Complaint (Token × Cursor) :=
  let isAlias := cursor.char == '*'
  let context := if isAlias then "while scanning an alias" else "while scanning an anchor"
  let (name, after) := cursor.step.span isNameChar
  if name.isEmpty then .error (after.expectedName context cursor.mark)
  else if endsMark after.char || "?:,]\x7d%@\x60".contains after.char then
    let kind := if isAlias then TokenKind.nodeName (String.ofList name)
      else .anchor (String.ofList name)
    .ok (⟨kind, cursor.mark, after.mark⟩, after)
  else .error (after.expectedName context cursor.mark)

/-! ## Tags -/

/-- Whether a character may stand in the address of a tag. -/
def isAddressChar (char : Char) : Bool :=
  char.isAlphanum || "-;/?:@&=+$,_.!~*'()[]%".contains char

/-- Whether a character is a hexadecimal digit. -/
def isHexDigit (char : Char) : Bool := (Text.digitIn? 16 char).isSome

/-- The number that hexadecimal digits stand for. -/
def hexValue (digits : List Char) : Nat := (Text.digitsValue? 16 0 false digits).getD 0

/-- Read the escaped bytes that stand here; the fuel bounds their number. -/
def readBytes (context : String) (since : Mark) :
    (fuel : Nat) → Cursor → Except Complaint (List UInt8 × Cursor)
  | 0, cursor => .ok ([], cursor)
  | fuel + 1, cursor =>
    if cursor.char = '%' then
      let digits := cursor.step
      match (List.range 2).find? fun place => !isHexDigit (digits.charAt place) with
      | some place =>
        .error (digits.unexpected context since "URI escape sequence of 2 hexadecimal numbers"
          (digits.charAt place))
      | none => do
        let (bytes, after) ← readBytes context since fuel (digits.skip 2)
        .ok ((hexValue (digits.rest.take 2)).toUInt8 :: bytes, after)
    else .ok ([], cursor)

/-- The first byte at which bytes stop making up characters: its value, its place and the reason. -/
structure BadByte where
  value : UInt8
  place : Nat
  count : Nat
  reason : String

/-- How many further bytes the first byte of a character asks for, and the range of the next one. -/
def byteDemand? (byte : UInt8) : Option (Nat × Nat × Nat) :=
  let code := byte.toNat
  if code < 0x80 then some (0, 0x80, 0xbf)
  else if code < 0xc2 then none
  else if code < 0xe0 then some (1, 0x80, 0xbf)
  else if code = 0xe0 then some (2, 0xa0, 0xbf)
  else if code = 0xed then some (2, 0x80, 0x9f)
  else if code < 0xf0 then some (2, 0x80, 0xbf)
  else if code = 0xf0 then some (3, 0x90, 0xbf)
  else if code < 0xf4 then some (3, 0x80, 0xbf)
  else if code = 0xf4 then some (3, 0x80, 0x8f)
  else none

/-- How many of the following bytes continue a character. -/
def continuing (count least greatest : Nat) : List UInt8 → Nat
  | [] => 0
  | byte :: rest =>
    match count with
    | 0 => 0
    | count + 1 =>
      if least ≤ byte.toNat && byte.toNat ≤ greatest then continuing count 0x80 0xbf rest + 1 else 0

/-- The first byte that does not fit; the fuel bounds the bytes. -/
def badByte? : (fuel place : Nat) → List UInt8 → Option BadByte
  | 0, _, _ => none
  | _ + 1, _, [] => none
  | fuel + 1, place, byte :: rest =>
    match byteDemand? byte with
    | none => some ⟨byte, place, 1, "invalid start byte"⟩
    | some (count, least, greatest) =>
      let found := continuing count least greatest rest
      if found = count then badByte? fuel (place + count + 1) (rest.drop count)
      else if found = rest.length then some ⟨byte, place, found + 1, "unexpected end of data"⟩
      else some ⟨byte, place, found + 1, "invalid continuation byte"⟩

/-- A bad byte in words. -/
def BadByte.text (bad : BadByte) : String :=
  let place := if bad.count = 1 then
      "byte 0x" ++ String.ofList (Text.hexDigits 2 bad.value.toNat) ++ " in position " ++
        Decimal.digits bad.place
    else "bytes in position " ++ Decimal.digits bad.place ++ "-" ++
      Decimal.digits (bad.place + bad.count - 1)
  "'utf-8' codec can't decode " ++ place ++ ": " ++ bad.reason

/-- Read the address of a tag; the fuel bounds its parts. -/
def readAddress (name : String) (since : Mark) :
    (fuel : Nat) → Cursor → Except Complaint (List Char × Cursor)
  | 0, cursor => .ok ([], cursor)
  | fuel + 1, cursor => do
    let (plain, behind) := cursor.span fun char => isAddressChar char && char != '%'
    if behind.char = '%' then
      let context := "while scanning a " ++ name
      let (bytes, after) ← readBytes context since (behind.rest.length + 1) behind
      match badByte? (bytes.length + 1) 0 bytes with
      | some bad => .error (behind.complain context since bad.text)
      | none =>
        let chars := (String.fromUTF8? ⟨bytes.toArray⟩).getD ""
        let (more, last) ← readAddress name since fuel after
        return (plain ++ chars.toList ++ more, last)
    else return (plain, behind)

/-- Read the address of a tag, which may not be empty. -/
def readWholeAddress (name : String) (since : Mark) (cursor : Cursor) :
    Except Complaint (String × Cursor) := do
  let (text, after) ← readAddress name since (cursor.rest.length + 1) cursor
  if text.isEmpty then .error (after.unexpected ("while parsing a " ++ name) since "URI" after.char)
  else return (String.ofList text, after)

/-- Read the handle that shortens a tag. -/
def readHandle (name : String) (since : Mark) (cursor : Cursor) :
    Except Complaint (String × Cursor) :=
  let context := "while scanning a " ++ name
  if cursor.char ≠ '!' then .error (cursor.unexpected context since "'!'" cursor.char)
  else if cursor.charAt 1 = ' ' then .ok ("!", cursor.step)
  else
    let (letters, behind) := cursor.step.span isNameChar
    if behind.char ≠ '!' then .error (behind.unexpected context since "'!'" behind.char)
    else .ok (String.ofList ('!' :: letters ++ ['!']), behind.step)

/-- Read a tag. -/
def readTag (cursor : Cursor) : Except Complaint (Token × Cursor) := do
  let since := cursor.mark
  let (kind, after) ←
    if cursor.charAt 1 = '<' then do
      let (address, behind) ← readWholeAddress "tag" since (cursor.skip 2)
      if behind.char ≠ '>' then
        .error (behind.unexpected "while parsing a tag" since "'>'" behind.char)
      else .ok (TokenKind.tag none address, behind.step)
    else if endsMark (cursor.charAt 1) then .ok (TokenKind.tag none "!", cursor.step)
    else do
      let word := cursor.step.rest.takeWhile fun char => !endsWord char
      let (handle, behind) ←
        if word.contains '!' then readHandle "tag" since cursor else .ok ("!", cursor.step)
      let (address, last) ← readWholeAddress "tag" since behind
      .ok (TokenKind.tag (some handle) address, last)
  if endsWord after.char then .ok (⟨kind, since, after.mark⟩, after)
  else .error (after.unexpected "while scanning a tag" since "' '" after.char)

/-! ## Directives -/

/-- What is being read while a directive is read. -/
def directiveContext : String := "while scanning a directive"

/-- Read a number of a version. -/
def readNumber (since : Mark) (cursor : Cursor) : Except Complaint (Nat × Cursor) :=
  let (digits, after) := cursor.span Char.isDigit
  if digits.isEmpty then .error (cursor.unexpected directiveContext since "a digit" cursor.char)
  else .ok ((Text.digitsValue? 10 0 false digits).getD 0, after)

/-- Read a version. -/
def readVersion (since : Mark) (cursor : Cursor) : Except Complaint (Directive × Cursor) := do
  let (major, behind) ← readNumber since cursor.skipBlanks
  if behind.char ≠ '.' then
    .error (behind.unexpected directiveContext since "a digit or '.'" behind.char)
  else
    let (minor, after) ← readNumber since behind.step
    if endsWord after.char then .ok (.version major minor, after)
    else .error (after.unexpected directiveContext since "a digit or ' '" after.char)

/-- Read what a handle stands for. -/
def readTagPrefix (since : Mark) (cursor : Cursor) : Except Complaint (Directive × Cursor) := do
  let (handle, behind) ← readHandle "directive" since cursor.skipBlanks
  if behind.char ≠ ' ' then .error (behind.unexpected directiveContext since "' '" behind.char)
  else
    let (expansion, after) ← readWholeAddress "directive" since behind.skipBlanks
    if endsWord after.char then .ok (.tagPrefix handle expansion, after)
    else .error (after.unexpected directiveContext since "' '" after.char)

/-- Move to the next line, over nothing but blanks and a comment. -/
def skipEmptyEnd (context : String) (since : Mark) (cursor : Cursor) : Except Complaint Cursor :=
  let behind := cursor.skipBlanks.skipComment
  if endsLine behind.char then .ok behind.lineBreak.2
  else .error (behind.unexpected context since "a comment or a line break" behind.char)

/-- Read a directive. -/
def readDirective (cursor : Cursor) : Except Complaint (Token × Cursor) := do
  let since := cursor.mark
  let (name, behind) := cursor.step.span isNameChar
  if name.isEmpty || !endsWord behind.char then
    .error (behind.expectedName directiveContext since)
  else
    let (content, after, last) ←
      if name = "YAML".toList then do
        let (content, after) ← readVersion since behind
        .ok (content, after, after)
      else if name = "TAG".toList then do
        let (content, after) ← readTagPrefix since behind
        .ok (content, after, after)
      else .ok (Directive.other, behind, behind.skipWhile fun char => !endsLine char)
    let next ← skipEmptyEnd directiveContext since last
    return (⟨.directive content, since, after.mark⟩, next)

end QuantumKata.Yaml
