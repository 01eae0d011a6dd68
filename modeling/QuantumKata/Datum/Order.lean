import QuantumKata.Fault

/-!
# Comparing data

Two data are the same if they are equal numbers, whatever their types, or equal texts, bytes,
moments or tuples.  Numbers, texts, bytes, tuples and moments of one sort are ordered; data of two
of these kinds are not, and neither is anything else.  Data can be told apart as keys unless they
can be changed: lists, sets and mappings, and tuples that hold such, are no keys.
-/

namespace QuantumKata.Datum

mutual

/-- Whether two keys are the same. -/
def isSame : Datum → Datum → Bool
  | integer first, integer second => first == second
  | text first, text second => first == second
  | moment first, moment second => first.isSame second
  | tuple first, tuple second => areSame first second
  | left, right =>
    match left.number?, right.number? with
    | some first, some second => first == second || (first.isNaN && second.isNaN)
    | none, none => left.quoted == right.quoted
    | _, _ => false

/-- Whether the items of two tuples are the same. -/
def areSame : List Datum → List Datum → Bool
  | [], [] => true
  | first :: left, second :: right => isSame first second && areSame left right
  | _, _ => false

end

mutual

/-- The first part of a datum that cannot be part of a key. -/
def changeable? : Datum → Option Datum
  | list items => some (list items)
  | set members => some (set members)
  | mapping entries => some (mapping entries)
  | tuple items => changeableItem? items
  | _ => none

/-- The first part of some items that cannot be part of a key. -/
def changeableItem? : List Datum → Option Datum
  | [] => none
  | item :: rest => (changeable? item).or (changeableItem? rest)

end

/-- Refuse a datum that is no key. -/
def checkKey (datum : Datum) : Except Fault Unit :=
  match datum.changeable? with
  | some part => .error (.wrongType ("unhashable type: '" ++ part.typeName ++ "'"))
  | none => .ok ()

/-- The different data among some, each at its first place. -/
def distinct (data : List Datum) : List Datum :=
  data.foldl (fun found datum =>
    if found.any fun other => other.isSame datum then found else found ++ [datum]) []

/-- The fault of two data that are not ordered. -/
def unordered (left right : Datum) : Fault :=
  .wrongType ("'<' not supported between instances of '" ++ left.typeName ++ "' and '" ++
    right.typeName ++ "'")

mutual

/-- Whether a datum comes before another one. -/
def isBefore : Datum → Datum → Except Fault Bool
  | integer first, integer second => .ok (decide (first < second))
  | text first, text second => .ok (decide (first < second))
  | bytes first, bytes second => .ok (decide (first < second))
  | tuple first, tuple second => areBefore first second
  | moment first, moment second =>
    if first.sort = second.sort then .ok (decide (first.microseconds < second.microseconds))
    else .error (unordered (moment first) (moment second))
  | left, right =>
    match left.number?, right.number? with
    | some first, some second => .ok (decide (first < second))
    | _, _ => .error (unordered left right)

/-- Whether the items of a tuple come before those of another one: the first ones that are not the
same decide. -/
def areBefore : List Datum → List Datum → Except Fault Bool
  | [], rest => .ok (!rest.isEmpty)
  | _, [] => .ok false
  | first :: left, second :: right =>
    if isSame first second then areBefore left right else isBefore first second

end

/-- Put a datum in front of the first one that comes after it.  It has to be comparable with all. -/
def insertSorted (datum : Datum) : List Datum → Except Fault (List Datum)
  | [] => .ok [datum]
  | other :: rest => do
    let isFirst ← isBefore datum other
    let others ← insertSorted datum rest
    return if isFirst then datum :: other :: rest else other :: others

/-- Data in ascending order. -/
def sorted : List Datum → Except Fault (List Datum)
  | [] => .ok []
  | datum :: rest => do
    let others ← sorted rest
    insertSorted datum others

end QuantumKata.Datum
