import QuantumKata.Console.Pictograph
import QuantumKata.Console.Style
import QuantumKata.Console.Wrap

/-!
# Console markup

Text for the console may hold tags in brackets, which set a style and are not shown.  A tag begins
with a small letter or one of `#`, `/` and `@`; what else stands in brackets is text.  A closing tag
has to close a tag that is open.  A backslash in front of a tag makes it text.  The name of a
pictograph between colons stands for the pictograph.
-/

namespace QuantumKata.Console

/-- A piece of marked-up text. -/
inductive Piece where
  | words (text : List Char)
  /-- A tag, where it stands, its name and what follows an equals sign. -/
  | tag (position : Nat) (name : String) (parameters : Option String)

/-- Whether a character may begin a tag. -/
def beginsTag (char : Char) : Bool :=
  ('a' ≤ char && char ≤ 'z') || char == '#' || char == '/' || char == '@'

/-- The text of a tag behind its opening bracket, and what follows its closing bracket. -/
def tagText? : List Char → Option (List Char × List Char)
  | [] => none
  | first :: rest =>
    let inner := rest.takeWhile fun char => char != ']' && char != '['
    match rest.drop inner.length with
    | ']' :: after => if beginsTag first then some (first :: inner, after) else none
    | _ => none

/-- A tag of a text. -/
def tagOf (position : Nat) (text : List Char) : Piece :=
  let name := text.takeWhile (· != '=')
  match text.drop name.length with
  | _ :: parameters => .tag position (String.ofList name) (some (String.ofList parameters))
  | [] => .tag position (String.ofList name) none

/-- Words in front of other pieces. -/
def consWords (text : List Char) (pieces : List Piece) : List Piece :=
  if text.isEmpty then pieces else .words text :: pieces

/-- Cut a text into pieces.  `pending` holds the words read so far, the latest first; the fuel
bounds the characters. -/
def piecesFrom : (fuel position : Nat) → (pending : List Char) → List Char → List Piece
  | 0, _, pending, rest => consWords (pending.reverse ++ rest) []
  | _ + 1, _, pending, [] => consWords pending.reverse []
  | fuel + 1, position, pending, char :: rest =>
    let slashes := ((char :: rest).takeWhile (· == '\\')).length
    match (char :: rest).drop slashes with
    | '[' :: inner =>
      match tagText? inner with
      | none =>
        piecesFrom fuel (position + slashes + 1)
          ('[' :: (List.replicate slashes '\\' ++ pending)) inner
      | some (text, after) =>
        let shown := List.replicate (slashes / 2) '\\'
        let next := position + slashes + text.length + 2
        if slashes % 2 = 1 then
          consWords pending.reverse
            (consWords shown
              (.words ('[' :: text ++ [']']) :: piecesFrom fuel next [] after))
        else
          consWords pending.reverse
            (consWords shown
              (tagOf (position + 2 * (slashes / 2)) text :: piecesFrom fuel next [] after))
    | others =>
      if slashes = 0 then piecesFrom fuel (position + 1) (char :: pending) rest
      else piecesFrom fuel (position + slashes) (List.replicate slashes '\\' ++ pending) others

/-- Cut a text into pieces. -/
def pieces (text : String) : List Piece :=
  piecesFrom (text.length + 1) 0 [] text.toList

/-- The fault of a closing tag that closes nothing. -/
def unopened (text : String) : Fault := .malformedDocument "MarkupError" text

/-- Close the innermost open tag of a name. -/
def closeTag (name : String) : List String → Option (List String)
  | [] => none
  | inner :: outer =>
    if inner = name then some outer else (closeTag name outer).map (inner :: ·)

/-- Leave a backslash in front of a bracket out. -/
def unescaped : List Char → List Char
  | '\\' :: '[' :: rest => '[' :: unescaped rest
  | char :: rest => char :: unescaped rest
  | [] => []

/-- The text of words: brackets lose the backslash in front of them, and named pictographs stand
in place of their names. -/
def wordsShown (text : List Char) : List Char := withPictographs (unescaped text)

/-- The tag of a closing tag that closes nothing, as it was written. -/
def tagShown (name : String) : Option String → String
  | some parameters => "[" ++ name ++ "=" ++ parameters ++ "]"
  | none => "[" ++ name ++ "]"

/-- The text of pieces, given the tags that are open, the innermost first. -/
def shown (isOpen : List String) : List Piece → Except Fault (List Char)
  | [] => .ok []
  | .words text :: rest => (shown isOpen rest).map (wordsShown text ++ ·)
  | .tag position name parameters :: rest =>
    if name.toList.head? = some '/' then
      let closed := Text.strip (String.ofList (name.toList.drop 1))
      if closed.isEmpty then
        match isOpen with
        | _ :: outer => shown outer rest
        | [] => .error (unopened ("closing tag '[/]' at position " ++ Decimal.digits position ++
            " has nothing to close"))
      else
        match Style.normalName closed with
        | .error fault => .error fault
        | .ok style =>
          match closeTag style isOpen with
          | some outer => shown outer rest
          | none =>
            .error (unopened ("closing tag '" ++ tagShown name parameters ++ "' at position " ++
              Decimal.digits position ++ " doesn't match any open tag"))
    else
      match Style.normalName name with
      | .error fault => .error fault
      | .ok style => shown (style :: isOpen) rest

/-- Whether a character moves the cursor of a console instead of being shown. -/
def isControl (char : Char) : Bool := [7, 8, 11, 12, 13].contains char.toNat

/-- What a marked-up text shows. -/
def visible (text : String) : Except Fault String :=
  (shown [] (pieces text)).map fun chars =>
    String.ofList (chars.filter fun char => !isControl char)

/-- The lines that a marked-up text shows on the console. -/
def render (text : String) : Except Fault (List String) :=
  (visible text).map (wrap screenWidth true)

end QuantumKata.Console
