import QuantumKata.Decimal.Shortest
import QuantumKata.Moment

/-!
# Plain data

Settings, values that a submission exports besides its operations, and the arguments of an error
are plain data: nothing, truth values, integers, real numbers, texts, bytes, moments, lists, tuples,
sets and mappings.  A datum has a type name, a truth value and two texts: the *quoted* one in which
texts stand between quotes, and the *plain* one in which a text stands for itself.
-/

namespace QuantumKata

/-- A plain datum.  A mapping keeps the order in which its keys were first written, and a set that
of its members. -/
inductive Datum where
  | null
  | truth (value : Bool)
  | integer (value : Int)
  | real (value : Float)
  | text (value : String)
  | bytes (value : List UInt8)
  | moment (value : Moment)
  | list (items : List Datum)
  | tuple (items : List Datum)
  | set (members : List Datum)
  | mapping (entries : List (Datum × Datum))
  deriving Inhabited

namespace Datum

/-- The name of a datum's type. -/
def typeName : Datum → String
  | null => "NoneType"
  | truth _ => "bool"
  | integer _ => "int"
  | real _ => "float"
  | text _ => "str"
  | bytes _ => "bytes"
  | moment value => if value.time.isSome then "datetime.datetime" else "datetime.date"
  | list _ => "list"
  | tuple _ => "tuple"
  | set _ => "set"
  | mapping _ => "dict"

/-- Whether a datum counts as true: everything but nothing, zero and the empty collections. -/
def isTruthy : Datum → Bool
  | null => false
  | truth value => value
  | integer value => value != 0
  | real value => value != 0
  | text value => !value.isEmpty
  | bytes value => !value.isEmpty
  | moment _ => true
  | list items | tuple items | set items => !items.isEmpty
  | mapping entries => !entries.isEmpty

/-- Whether a datum is nothing. -/
def isNull : Datum → Bool
  | null => true
  | _ => false

/-- Whether an integer fits into a word of sixty-four bits. -/
def fitsWord (value : Int) : Bool :=
  decide (-9223372036854775808 ≤ value) && decide (value < 9223372036854775808)

/-- A byte between quotes. -/
def quotedByte (quote : Char) (byte : UInt8) : List Char :=
  if 0x20 ≤ byte ∧ byte < 0x7f then Text.quotedChar quote (Char.ofNat byte.toNat)
  else if byte = 9 ∨ byte = 10 ∨ byte = 13 then Text.quotedChar quote (Char.ofNat byte.toNat)
  else '\\' :: 'x' :: Text.hexDigits 2 byte.toNat

/-- Bytes between quotes. -/
def quotedBytes (value : List UInt8) : String :=
  let quote := Text.quoteFor (String.ofList (value.map fun byte => Char.ofNat byte.toNat))
  String.ofList ('b' :: quote :: value.flatMap (quotedByte quote) ++ [quote])

mutual

/-- The text of a datum with texts between quotes. -/
def quoted : Datum → String
  | null => "None"
  | truth value => if value then "True" else "False"
  | integer value => Decimal.integer value
  | real value => Decimal.shortest value
  | text value => Text.quoted value
  | bytes value => quotedBytes value
  | moment value => value.quoted
  | list items => "[" ++ ", ".intercalate (quotedItems items) ++ "]"
  | tuple items => Text.tupled (quotedItems items)
  | set [] => "set()"
  | set members => "\x7b" ++ ", ".intercalate (quotedItems members) ++ "\x7d"
  | mapping entries => "\x7b" ++ ", ".intercalate (quotedEntries entries) ++ "\x7d"

/-- The quoted texts of a list's items. -/
def quotedItems : List Datum → List String
  | [] => []
  | item :: rest => quoted item :: quotedItems rest

/-- The quoted texts of a mapping's entries. -/
def quotedEntries : List (Datum × Datum) → List String
  | [] => []
  | (key, value) :: rest => (quoted key ++ ": " ++ quoted value) :: quotedEntries rest

end

/-- The text of a datum in which a text and a moment stand for themselves. -/
def plain : Datum → String
  | text value => value
  | moment value => value.plain
  | other => quoted other

/-- The number a datum stands for: truth values count as one and zero. -/
def number? : Datum → Option Float
  | truth value => some (if value then 1 else 0)
  | integer value => some (Float.ofInt value)
  | real value => some value
  | _ => none

/-- The value under a text key. -/
def find? (entries : List (Datum × Datum)) (key : String) : Option Datum :=
  entries.findSome? fun
    | (text name, value) => if name = key then some value else none
    | _ => none

/-- The mapping of named fields. -/
def record (fields : List (String × Datum)) : Datum :=
  mapping (fields.map fun (name, value) => (text name, value))

/-- The entries of a mapping; other data have none. -/
def entries : Datum → List (Datum × Datum)
  | mapping entries => entries
  | _ => []

/-- The entries of a mapping whose keys are texts. -/
def fields (datum : Datum) : List (String × Datum) :=
  datum.entries.filterMap fun
    | (text name, value) => some (name, value)
    | _ => none

/-- A field of a mapping. -/
def field? (datum : Datum) (name : String) : Option Datum := find? datum.entries name

/-- A field of a mapping unless it is missing or nothing. -/
def given? (datum : Datum) (name : String) : Option Datum :=
  (datum.field? name).filter fun value => !value.isNull

/-- A field of a mapping; a missing one is nothing. -/
def field (datum : Datum) (name : String) : Datum := (datum.field? name).getD null

/-- The data that a datum is made of, if it can be gone through: items, members, keys, characters
or the numbers of bytes. -/
def parts? : Datum → Option (List Datum)
  | list items | tuple items | set items => some items
  | mapping entries => some (entries.map Prod.fst)
  | text value => some (value.toList.map fun char => text (String.ofList [char]))
  | bytes value => some (value.map fun byte => integer byte.toNat)
  | _ => none

/-- The items of a list; other data have none. -/
def items : Datum → List Datum
  | list items => items
  | _ => []

/-- The text of a datum that is a text. -/
def toText : Datum → String
  | text value => value
  | _ => ""

/-- A datum as an integer; what follows the point of a real number is left out. -/
def toInteger : Datum → Int
  | integer value => value
  | truth value => if value then 1 else 0
  | real value =>
    if value < 0 then -((-value).toUInt64.toNat : Int) else value.toUInt64.toNat
  | _ => 0

/-- A datum as a real number; infinite and undefined numbers may be given by name. -/
def toReal (datum : Datum) : Float :=
  match datum with
  | text "nan" => 0.0 / 0.0
  | text "inf" => 1.0 / 0.0
  | text "-inf" => -1.0 / 0.0
  | other => other.number?.getD 0

mutual

/-- How deep lists and mappings stand inside each other. -/
def depth : Datum → Nat
  | list items | tuple items | set items => depthOfItems items + 1
  | mapping entries => depthOfEntries entries + 1
  | _ => 1

/-- The greatest depth among items. -/
def depthOfItems : List Datum → Nat
  | [] => 0
  | item :: rest => max (depth item) (depthOfItems rest)

/-- The greatest depth among the values of entries. -/
def depthOfEntries : List (Datum × Datum) → Nat
  | [] => 0
  | (_, value) :: rest => max (depth value) (depthOfEntries rest)

end

end Datum

end QuantumKata
