import QuantumKata.Yaml.Node

/-!
# What scalars stand for

A scalar is turned into a datum as its tag says.  Underscores between digits do not count, and parts
divided by colons are digits in base sixty.  A scalar whose text does not fit its tag leads to the
fault of the conversion.
-/

namespace QuantumKata.Yaml

/-- A complaint of the constructor. -/
def unfit (problem : String) (mark : Mark) : Refusal :=
  .complaint { stage := .constructor, problem, mark }

/-- A result of a conversion. -/
def converted {α : Type} (outcome : Except Fault α) : Except Refusal α := outcome.mapError .fault

/-- The fault of a text that is too short. -/
def shortText : Fault := .raised .index [.text "string index out of range"]

/-- Parts in base sixty, the greatest first. -/
def sixtiethsOf (parts : List Int) : Int :=
  parts.foldl (fun number part => 60 * number + part) 0

/-- Parts in base sixty with fractions, summed from the smallest on. -/
def realSixtiethsOf (parts : List Float) : Float :=
  (parts.reverse.foldl (fun (number, unit) part =>
    (number + part * unit, unit * 60)) ((0 : Float), (1 : Float))).1

/-- The parts of a text between its colons. -/
def colonParts (text : List Char) : List String := (splitColons text).map String.ofList

/-- The absolute value of an integer. -/
def magnitudeOf (text : List Char) : Except Fault Int :=
  match text with
  | [] => .error shortText
  | ['0'] => .ok 0
  | '0' :: 'b' :: digits => Text.integerIn 2 (String.ofList digits)
  | '0' :: 'x' :: digits => Text.integerIn 16 (String.ofList digits)
  | '0' :: _ => Text.integerIn 8 (String.ofList text)
  | _ =>
    if text.contains ':' then do
      let parts ← (colonParts text).mapM Text.integer
      return sixtiethsOf parts
    else Text.integer (String.ofList text)

/-- A text without underscores. -/
def withoutUnderscores (text : String) : List Char := text.toList.filter (· != '_')

/-- The integer that a scalar stands for. -/
def integerOf (text : String) : Except Fault Int := do
  let plain := withoutUnderscores text
  if plain.isEmpty then throw shortText
  let (isNegative, digits) := Text.takeSign plain
  let size ← magnitudeOf digits
  return if isNegative then -size else size

/-- The real number that a scalar stands for. -/
def realOf (text : String) : Except Fault Float := do
  let plain := (Text.lower (String.ofList (withoutUnderscores text))).toList
  if plain.isEmpty then throw shortText
  let (isNegative, digits) := Text.takeSign plain
  let word := String.ofList digits
  if word = ".nan" then return 0.0 / 0.0
  let size ←
    if word = ".inf" then .ok (1.0 / 0.0)
    else if digits.contains ':' then do
      let parts ← (colonParts digits).mapM Text.real
      .ok (realSixtiethsOf parts)
    else Text.real word
  return if isNegative then -1 * size else size

/-- The truth value that a scalar stands for. -/
def truthOf (text : String) : Except Fault Bool :=
  let word := Text.lower text
  if ["yes", "true", "on"].contains word then .ok true
  else if ["no", "false", "off"].contains word then .ok false
  else .error (.raised .key [.text word])

/-- The moment that a scalar stands for. -/
def momentOf (text : String) : Except Fault Moment :=
  let chars := text.toList
  let line := if chars.getLast? == some '\n' then chars.dropLast else chars
  match writtenMoment? line with
  | some written => written.toMoment
  | none => .error (.wrongMember "'NoneType' object has no attribute 'groupdict'")

/-! ## Bytes -/

/-- The value of a sign that stands for six bits. -/
def sixBits? (char : Char) : Option Nat :=
  let code := char.toNat
  if 'A' ≤ char ∧ char ≤ 'Z' then some (code - 65)
  else if 'a' ≤ char ∧ char ≤ 'z' then some (code - 97 + 26)
  else if char.isDigit then some (code - 48 + 52)
  else if char = '+' then some 62
  else if char = '/' then some 63
  else none

/-- How far signs of six bits have been read: the place in the group of four, the bits that are
left over, and how many signs fill the group up. -/
structure SixBitState where
  place : Nat := 0
  left : Nat := 0
  fillers : Nat := 0

/-- Read signs of six bits; signs that stand for nothing are passed over.  The result is nothing if
the last group is not complete. -/
def sixBitBytes (state : SixBitState) : List Char → Option (List UInt8)
  | [] => if state.place = 0 then some [] else none
  | char :: rest =>
    if char = '=' then
      if 2 ≤ state.place ∧ 4 ≤ state.place + (state.fillers + 1) then some []
      else sixBitBytes { state with
        fillers := if 2 ≤ state.place then state.fillers + 1 else state.fillers } rest
    else
      match sixBits? char with
      | none => sixBitBytes state rest
      | some value =>
        match state.place with
        | 0 => sixBitBytes ⟨1, value, 0⟩ rest
        | 1 => (sixBitBytes ⟨2, value % 16, 0⟩ rest).map
            ((state.left * 4 + value / 16).toUInt8 :: ·)
        | 2 => (sixBitBytes ⟨3, value % 4, 0⟩ rest).map
            ((state.left * 16 + value / 4).toUInt8 :: ·)
        | _ => (sixBitBytes ⟨0, 0, 0⟩ rest).map
            ((state.left * 64 + value).toUInt8 :: ·)

/-- The number of signs of six bits in a text. -/
def signCount (text : List Char) : Nat := text.countP fun char => (sixBits? char).isSome

/-- The bytes that a scalar stands for. -/
def bytesOf (mark : Mark) (text : String) : Except Refusal (List UInt8) :=
  let chars := text.toList
  match chars.zipIdx.find? fun (char, _) => 128 ≤ char.toNat with
  | some (char, place) =>
    let run := (chars.drop place).takeWhile fun char => 128 ≤ char.toNat
    let what := if run.length = 1 then
        "character " ++ String.ofList ('\'' ::
          (if char.toNat < 0x100 then '\\' :: 'x' :: Text.hexDigits 2 char.toNat
            else if char.toNat < 0x10000 then '\\' :: 'u' :: Text.hexDigits 4 char.toNat
            else '\\' :: 'U' :: Text.hexDigits 8 char.toNat) ++ ['\'']) ++
          " in position " ++ Decimal.digits place
      else "characters in position " ++ Decimal.digits place ++ "-" ++
        Decimal.digits (place + run.length - 1)
    .error (unfit ("failed to convert base64 data into ascii: 'ascii' codec can't encode " ++
      what ++ ": ordinal not in range(128)") mark)
  | none =>
    match sixBitBytes {} chars with
    | some bytes => .ok bytes
    | none =>
      let count := signCount chars
      let reason := if count % 4 = 1 then
          "Invalid base64-encoded string: number of data characters (" ++ Decimal.digits count ++
            ") cannot be 1 more than a multiple of 4"
        else "Incorrect padding"
      .error (unfit ("failed to decode base64 data: " ++ reason) mark)

/-! ## Nodes that stand for scalars -/

mutual

/-- The text of a node that stands for a scalar.  A mapping may mark one of its values as such. -/
def scalarText : Node → Except Refusal String
  | .scalar _ text => .ok text
  | .mapping head entries => markedText head entries
  | .sequence head _ => .error (unfit "expected a scalar node, but found sequence" head.start)
  | .cycle head kind =>
    .error (unfit ("expected a scalar node, but found " ++ kind.name) head.start)

/-- The text of the marked value among the entries of a mapping. -/
def markedText (head : NodeHead) : List (Node × Node) → Except Refusal String
  | [] => .error (unfit "expected a scalar node, but found mapping" head.start)
  | (key, value) :: rest =>
    if key.head.tag = valueTag then scalarText value else markedText head rest

end

/-- The tags of collections. -/
def collectionTags : List String :=
  ["seq", "map", "set", "omap", "pairs"].map standardTag

/-- Whether a node stands for a collection. -/
def Node.isCollection (node : Node) : Bool := collectionTags.contains node.head.tag

/-- The datum of a node that does not stand for a collection. -/
def Node.scalarDatum (node : Node) : Except Refusal Datum :=
  let tag := node.head.tag
  if tag = standardTag "null" then (scalarText node).map fun _ => .null
  else if tag = standardTag "bool" then do
    let truth ← converted (truthOf (← scalarText node))
    return .truth truth
  else if tag = standardTag "int" then do
    let number ← converted (integerOf (← scalarText node))
    return .integer number
  else if tag = standardTag "float" then do
    let number ← converted (realOf (← scalarText node))
    return .real number
  else if tag = standardTag "binary" then do
    let bytes ← bytesOf node.head.start (← scalarText node)
    return .bytes bytes
  else if tag = standardTag "timestamp" then do
    let moment ← converted (momentOf (← scalarText node))
    return .moment moment
  else if tag = textTag then do
    let text ← scalarText node
    return .text text
  else
    .error (unfit ("could not determine a constructor for the tag " ++ Text.quoted tag)
      node.head.start)

end QuantumKata.Yaml
