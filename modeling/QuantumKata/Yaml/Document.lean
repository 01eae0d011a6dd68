import QuantumKata.Datum.Order
import QuantumKata.Yaml.Scalar

/-!
# YAML documents

A document is read as a datum.  Its nodes are looked through from the root downwards, level by
level, and the first one that does not fit its tag is complained about.  Keys of mappings have to be
data that can be compared; of several entries with one key the last value counts, at the first
place.  The entries of a mapping under the key for merging come before the entries of its own.
-/

namespace QuantumKata.Yaml

/-! ## Entries -/

/-- A complaint about a mapping. -/
def badMapping (since : Mark) (problem : String) (mark : Mark) : Refusal :=
  .complaint {
    stage := .constructor, context := "while constructing a mapping", since := some since,
    problem, mark }

/-- A key that is an equals sign stands for itself. -/
def plainKey : Node → Node
  | .scalar head text =>
    .scalar (if head.tag = valueTag then { head with tag := textTag } else head) text
  | other => other

mutual

/-- The entries of a mapping with the merged ones in front.  Other nodes have none. -/
def mergedEntries : Node → Except Refusal (List (Node × Node))
  | .mapping head entries => do
    let (merged, own) ← splitEntries head.start entries
    return merged ++ own
  | _ => .ok []

/-- The merged entries and the other ones. -/
def splitEntries (since : Mark) :
    List (Node × Node) → Except Refusal (List (Node × Node) × List (Node × Node))
  | [] => .ok ([], [])
  | (key, value) :: rest =>
    if key.head.tag = mergeTag then do
      let first ← match value with
        | .mapping head entries => mergedEntries (.mapping head entries)
        | .sequence _ items => mergedItems since items
        | .cycle _ .mapping => .ok []
        | other => .error (badMapping since
            ("expected a mapping or list of mappings for merging, but found " ++ other.kind.name)
            other.head.start)
      let (merged, own) ← splitEntries since rest
      return (first ++ merged, own)
    else do
      let (merged, own) ← splitEntries since rest
      return (merged, (plainKey key, value) :: own)

/-- The entries of several mappings, those of the last one first. -/
def mergedItems (since : Mark) : List Node → Except Refusal (List (Node × Node))
  | [] => .ok []
  | item :: rest => do
    let entries ←
      if item.kind = .mapping then mergedEntries item
      else .error (badMapping since
        ("expected a mapping for merging, but found " ++ item.kind.name) item.head.start)
    let others ← mergedItems since rest
    return others ++ entries

end

/-! ## Looking through a document -/

/-- Refuse a node that stands for no datum, unless it is a collection. -/
def checkScalar (node : Node) : Except Refusal Unit :=
  if node.isCollection then .ok () else node.scalarDatum.map fun _ => ()

/-- Refuse keys that are no data that can be compared, and values that are no data. -/
def checkEntries (since : Mark) : List (Node × Node) → Except Refusal Unit
  | [] => .ok ()
  | (key, value) :: rest => do
    checkScalar key
    if key.isCollection then throw (badMapping since "found unhashable key" key.head.start)
    checkScalar value
    checkEntries since rest

/-- A complaint about a list of pairs. -/
def badPairs (context : String) (since : Mark) (problem : String) (mark : Mark) : Refusal :=
  .complaint { stage := .constructor, context, since := some since, problem, mark }

/-- The pairs that items stand for, each being a mapping with one entry. -/
def pairsOf (context : String) (since : Mark) : List Node → Except Refusal (List (Node × Node))
  | [] => .ok []
  | item :: rest => do
    if item.kind ≠ .mapping then
      throw (badPairs context since
        ("expected a mapping of length 1, but found " ++ item.kind.name) item.head.start)
    match item.entries with
    | [pair] => do
      checkScalar pair.1
      checkScalar pair.2
      let others ← pairsOf context since rest
      return pair :: others
    | entries =>
      throw (badPairs context since
        ("expected a single mapping item, but found " ++ Decimal.digits entries.length ++ " items")
        item.head.start)

/-- What is being read while a list of pairs is read. -/
def pairsContext (tag : String) : String :=
  if tag = standardTag "omap" then "while constructing an ordered map"
  else "while constructing pairs"

/-- The parts of a collection, in order: items, or keys and values one after the other. -/
def partsOf (node : Node) : Except Refusal (List Node) :=
  let head := node.head
  let paired (entries : List (Node × Node)) : List Node :=
    entries.flatMap fun (key, value) => [key, value]
  if !node.isCollection then .ok []
  else if head.tag = sequenceTag then
    match node with
    | .sequence _ items => do
      items.forM checkScalar
      return items
    | .cycle _ .sequence => .ok []
    | _ => .error (unfit ("expected a sequence node, but found " ++ node.kind.name) head.start)
  else if head.tag = mappingTag ∨ head.tag = standardTag "set" then
    match node with
    | .mapping _ _ => do
      let entries ← mergedEntries node
      checkEntries head.start entries
      return paired entries
    | .cycle _ .mapping => .ok []
    | _ => .error (unfit ("expected a mapping node, but found " ++ node.kind.name) head.start)
  else
    let context := pairsContext head.tag
    match node with
    | .sequence _ items => do
      let pairs ← pairsOf context head.start items
      return paired pairs
    | .cycle _ .sequence => .ok []
    | _ => .error (badPairs context head.start
        ("expected a sequence, but found " ++ node.kind.name) head.start)

/-- Whether a node stands inside itself. -/
def Node.isCycle : Node → Bool
  | .cycle .. => true
  | _ => false

/-- Look through nodes level by level, each of them once; the fuel bounds the nodes. -/
def checkNodes : (fuel : Nat) → (seen : List Nat) → List Node → Except Refusal Unit
  | 0, _, _ => .ok ()
  | _ + 1, _, [] => .ok ()
  | fuel + 1, seen, node :: rest =>
    if node.isCycle || !node.isCollection || seen.contains node.head.number then
      checkNodes fuel seen rest
    else do
      let parts ← partsOf node
      checkNodes fuel (node.head.number :: seen) (rest ++ parts.filter Node.isCollection)

/-! ## Data -/

/-- Put an entry into a mapping; a key that is there keeps its place. -/
def putEntry (entries : List (Datum × Datum)) (key value : Datum) : List (Datum × Datum) :=
  match entries with
  | [] => [(key, value)]
  | (name, old) :: rest =>
    if name.isSame key then (name, value) :: rest else (name, old) :: putEntry rest key value

/-- Two entries of two next to each other. -/
def pairUp : List Datum → List (Datum × Datum)
  | key :: value :: rest => (key, value) :: pairUp rest
  | _ => []

/-- The collection of a tag that has the given parts. -/
def collectionOf (tag : String) (parts : List Datum) : Datum :=
  let entries := pairUp parts
  let mapping := entries.foldl (fun mapping entry => putEntry mapping entry.1 entry.2) []
  if tag = sequenceTag then .list parts
  else if tag = mappingTag then .mapping mapping
  else if tag = standardTag "set" then .set (mapping.map Prod.fst)
  else .list (entries.map fun (key, value) => .tuple [key, value])

/-- The data of nodes that were turned into data, by their numbers. -/
abbrev KnownData : Type := List (Nat × Datum)

mutual

/-- The datum of a node that was looked through; a node inside itself is left empty.  The depth
bounds how far nodes stand inside each other. -/
def datumOf : (depth : Nat) → Node → KnownData → Datum × KnownData
  | 0, _, known => (.null, known)
  | depth + 1, node, known =>
    if node.isCollection then
      match known.lookup node.head.number with
      | some datum => (datum, known)
      | none =>
        let parts := if node.isCycle then [] else (partsOf node).toOption.getD []
        let (data, after) := dataOf depth parts known
        let datum := collectionOf node.head.tag data
        (datum, if node.isCycle then after else (node.head.number, datum) :: after)
    else (node.scalarDatum.toOption.getD .null, known)

/-- The data of nodes. -/
def dataOf : (depth : Nat) → List Node → KnownData → List Datum × KnownData
  | 0, _, known => ([], known)
  | _ + 1, [], known => ([], known)
  | depth + 1, node :: rest, known =>
    let (datum, between) := datumOf depth node known
    let (data, after) := dataOf depth rest between
    (datum :: data, after)

end

/-- The datum of the root of a document. -/
def Node.toDatum (bound : Nat) (node : Node) : Except Refusal Datum := do
  checkScalar node
  checkNodes bound [] [node]
  return (datumOf bound node []).1

/-- The datum of the only document of a text; a text without documents holds nothing. -/
def datumOfText (text : List Char) : Except Refusal Datum := do
  let root ← Node.ofText text
  match root with
  | none => return .null
  | some node => node.toDatum (4 * text.length + 16)

/-- Read a document from the text of the named file. -/
def readDocument (name text : String) : Except Fault Datum :=
  let chars := plainLines text
  match unreadable? chars with
  | some (index, char) => .error (unreadableFault name index char)
  | none => (datumOfText chars).mapError fun refusal => refusal.toFault name

end QuantumKata.Yaml
