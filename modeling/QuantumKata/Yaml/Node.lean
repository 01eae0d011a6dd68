import QuantumKata.Yaml.Layout
import QuantumKata.Yaml.Tag

/-!
# The structure of a document

A document is a tree of nodes: scalars, sequences and mappings, each with a tag and a number of its
own.  An alias stands for the node of its anchor; where the node is not complete yet, the alias is
kept as a cycle.  The tree is read from the tokens, and the first token that does not fit ends the
reading.
-/

namespace QuantumKata.Yaml

/-- The kinds of nodes. -/
inductive NodeKind where
  | scalar
  | sequence
  | mapping
  deriving DecidableEq, Repr

/-- The name of a kind. -/
def NodeKind.name : NodeKind → String
  | scalar => "scalar"
  | sequence => "sequence"
  | mapping => "mapping"

/-- What all nodes have: a number, a tag and the place where they begin. -/
structure NodeHead where
  number : Nat
  tag : String
  start : Mark
  deriving Inhabited

/-- A node of a document. -/
inductive Node where
  | scalar (head : NodeHead) (text : String)
  | sequence (head : NodeHead) (items : List Node)
  | mapping (head : NodeHead) (entries : List (Node × Node))
  /-- A node inside itself. -/
  | cycle (head : NodeHead) (kind : NodeKind)
  deriving Inhabited

namespace Node

/-- What a node has whatever its kind. -/
def head : Node → NodeHead
  | scalar head _ | sequence head _ | mapping head _ | cycle head _ => head

/-- The kind of a node. -/
def kind : Node → NodeKind
  | scalar .. => .scalar
  | sequence .. => .sequence
  | mapping .. => .mapping
  | cycle _ kind => kind

/-- The entries of a mapping; other nodes have none. -/
def entries : Node → List (Node × Node)
  | mapping _ entries => entries
  | _ => []

end Node

/-- What is left to be read of a document, and what is known about what was read. -/
structure Outline where
  tokens : List Token
  /-- Why there are no more tokens. -/
  refusal : Option Refusal
  /-- What the handles of tags stand for. -/
  handles : List (String × String) := standardHandles
  anchors : List (String × Node) := []
  /-- How many nodes were read. -/
  count : Nat := 0

namespace Outline

/-- A complaint of the parser. -/
def complain (context : Option String) (since : Option Mark) (problem : String) (mark : Mark) :
    Refusal :=
  .complaint { stage := .parser, context, since, problem, mark }

/-- The next token. -/
def peek (outline : Outline) : Except Refusal Token :=
  match outline.tokens, outline.refusal with
  | token :: _, _ => .ok token
  | [], some refusal => .error refusal
  | [], none => .ok ⟨.streamEnd, {}, {}⟩

/-- What is left behind the next token. -/
def behind (outline : Outline) : Outline := { outline with tokens := outline.tokens.drop 1 }

/-- A new node number. -/
def grown (outline : Outline) : Outline := { outline with count := outline.count + 1 }

/-- Name a node by its anchor. -/
def name (outline : Outline) (anchor : Option String) (node : Node) : Outline :=
  match anchor with
  | some anchor =>
    { outline with anchors := (anchor, node) :: outline.anchors.filter (·.1 != anchor) }
  | none => outline

/-- A node without content. -/
def empty (outline : Outline) (mark : Mark) : Node × Outline :=
  (.scalar ⟨outline.count, implicitTag "", mark⟩ "", outline.grown)

/-! ## Properties of nodes -/

/-- What is written in front of a node: its anchor and its tag, and the places of both. -/
structure Properties where
  anchor : Option String := none
  tag : Option (Option String × String) := none
  start : Option Mark := none
  tagMark : Mark := {}
  finish : Mark := {}

/-- Read what is written in front of a node: at most one anchor and one tag, in either order. -/
def readProperties (outline : Outline) : Except Refusal (Properties × Outline) := do
  let token ← outline.peek
  match token.kind with
  | .anchor anchor =>
    let after := outline.behind
    let next ← after.peek
    match next.kind with
    | .tag handle suffix =>
      return (⟨some anchor, some (handle, suffix), some token.start, next.start, next.finish⟩,
        after.behind)
    | _ => return (⟨some anchor, none, some token.start, {}, token.finish⟩, after)
  | .tag handle suffix =>
    let after := outline.behind
    let next ← after.peek
    match next.kind with
    | .anchor anchor =>
      return (⟨some anchor, some (handle, suffix), some token.start, token.start, next.finish⟩,
        after.behind)
    | _ =>
      return (⟨none, some (handle, suffix), some token.start, token.start, token.finish⟩, after)
  | _ => return ({}, outline)

/-- The tag that is written in front of a node, in full. -/
def fullTag? (outline : Outline) (properties : Properties) : Except Refusal (Option String) :=
  match properties.tag with
  | none => .ok none
  | some (none, suffix) => .ok (some suffix)
  | some (some handle, suffix) =>
    match outline.handles.lookup handle with
    | some expansion => .ok (some (expansion ++ suffix))
    | none => .error (complain "while parsing a node" properties.start
        ("found undefined tag handle " ++ Text.quoted handle) properties.tagMark)

/-- The complaint about an anchor that is used twice. -/
def duplicateAnchor (anchor : String) (earlier later : Mark) : Refusal :=
  .complaint {
    stage := .composer, since := some earlier, mark := later,
    context := "found duplicate anchor " ++ Text.quoted anchor ++ "; first occurrence",
    problem := "second occurrence" }

/-- Refuse an anchor that is in use. -/
def checkAnchor (outline : Outline) (anchor : Option String) (start : Mark) :
    Except Refusal Unit :=
  match anchor with
  | none => .ok ()
  | some name =>
    match outline.anchors.lookup name with
    | some node => .error (duplicateAnchor name node.head.start start)
    | none => .ok ()

/-- Whether a tag leaves the choice to the content. -/
def isOpen (tag : Option String) : Bool := tag.isNone || tag == some "!"

/-! ## Nodes -/

/-- How a node may be written. -/
inductive Setting where
  /-- Between brackets. -/
  | flow
  | block
  /-- As a block whose entries may stand in the column of the key they belong to. -/
  | blockOrEntries
  deriving DecidableEq

/-- The name of a way to write nodes. -/
def Setting.name : Setting → String
  | flow => "flow"
  | block | blockOrEntries => "block"

mutual

/-- Read a node; the fuel bounds the tokens. -/
def readNode (setting : Setting) : (fuel : Nat) → Outline → Except Refusal (Node × Outline)
  | 0, outline => return outline.empty {}
  | fuel + 1, outline => do
    let token ← outline.peek
    match token.kind with
    | .nodeName name =>
      match outline.anchors.lookup name with
      | some node => return (node, outline.behind)
      | none =>
        throw (.complaint {
          stage := .composer, mark := token.start,
          problem := "found undefined alias " ++ Text.quoted name })
    | _ =>
      let (properties, inner) ← outline.readProperties
      let tag ← inner.fullTag? properties
      let content ← inner.peek
      let start := properties.start.getD content.start
      let anchor := properties.anchor
      let outer := inner.grown
      let head (other : String) : NodeHead :=
        ⟨inner.count, if isOpen tag then other else tag.getD other, start⟩
      let scalarTag (isPlain : Bool) (text : String) : String :=
        if (isPlain && tag.isNone) || tag == some "!" then implicitTag text else textTag
      let sequence (items : Outline → Except Refusal (List Node × Outline)) :
          Except Refusal (Node × Outline) := do
        inner.checkAnchor anchor start
        let head := head sequenceTag
        let (items, after) ← items (outer.name anchor (.cycle head .sequence))
        let node := Node.sequence head items
        return (node, after.name anchor node)
      let mapping (entries : Outline → Except Refusal (List (Node × Node) × Outline)) :
          Except Refusal (Node × Outline) := do
        inner.checkAnchor anchor start
        let head := head mappingTag
        let (entries, after) ← entries (outer.name anchor (.cycle head .mapping))
        let node := Node.mapping head entries
        return (node, after.name anchor node)
      let scalar (isPlain : Bool) (text : String) (after : Outline) :
          Except Refusal (Node × Outline) := do
        inner.checkAnchor anchor start
        let node := Node.scalar (head (scalarTag isPlain text)) text
        return (node, after.name anchor node)
      match content.kind, setting with
      | .blockEntry, .blockOrEntries => sequence fun start => readEntries fuel start
      | .scalar text isPlain, _ => scalar isPlain text outer.behind
      | .flowSequenceStart, _ =>
        sequence fun start => readFlowSequence content.start true fuel start.behind
      | .flowMappingStart, _ =>
        mapping fun start => readFlowMapping content.start true fuel start.behind
      | .blockSequenceStart, .block | .blockSequenceStart, .blockOrEntries =>
        sequence fun start => readBlockSequence content.start fuel start.behind
      | .blockMappingStart, .block | .blockMappingStart, .blockOrEntries =>
        mapping fun start => readBlockMapping content.start fuel start.behind
      | kind, _ =>
        if anchor.isSome || tag.isSome then scalar true "" outer
        else
          throw (complain ("while parsing a " ++ setting.name ++ " node") start
            ("expected the node content, but found " ++ Text.quoted kind.name) content.start)

/-- Read the entries of a block sequence. -/
def readBlockSequence (since : Mark) :
    (fuel : Nat) → Outline → Except Refusal (List Node × Outline)
  | 0, outline => return ([], outline)
  | fuel + 1, outline => do
    let token ← outline.peek
    match token.kind with
    | .blockEntry =>
      let after := outline.behind
      let next ← after.peek
      let (item, rest) ← match next.kind with
        | .blockEntry | .blockEnd => .ok (after.empty token.finish)
        | _ => readNode .block fuel after
      let (items, last) ← readBlockSequence since fuel rest
      return (item :: items, last)
    | .blockEnd => return ([], outline.behind)
    | kind =>
      throw (complain "while parsing a block collection" since
        ("expected <block end>, but found " ++ Text.quoted kind.name) token.start)

/-- Read entries that stand in the column of the key they belong to. -/
def readEntries : (fuel : Nat) → Outline → Except Refusal (List Node × Outline)
  | 0, outline => return ([], outline)
  | fuel + 1, outline => do
    let token ← outline.peek
    match token.kind with
    | .blockEntry =>
      let after := outline.behind
      let next ← after.peek
      let (item, rest) ← match next.kind with
        | .blockEntry | .key | .value | .blockEnd => .ok (after.empty token.finish)
        | _ => readNode .block fuel after
      let (items, last) ← readEntries fuel rest
      return (item :: items, last)
    | _ => return ([], outline)

/-- Read what stands behind the mark of a key or of a value in a block mapping. -/
def readBlockPart (mark : Token) :
    (fuel : Nat) → Outline → Except Refusal (Node × Outline)
  | 0, outline => return outline.empty mark.finish
  | fuel + 1, outline => do
    let next ← outline.peek
    match next.kind with
    | .key | .value | .blockEnd => return outline.empty mark.finish
    | _ => readNode .blockOrEntries fuel outline

/-- Read the entries of a block mapping. -/
def readBlockMapping (since : Mark) :
    (fuel : Nat) → Outline → Except Refusal (List (Node × Node) × Outline)
  | 0, outline => return ([], outline)
  | fuel + 1, outline => do
    let token ← outline.peek
    match token.kind with
    | .key =>
      let (key, between) ← readBlockPart token fuel outline.behind
      let mark ← between.peek
      let (value, rest) ← match mark.kind with
        | .value => readBlockPart mark fuel between.behind
        | _ => .ok (between.empty mark.start)
      let (entries, last) ← readBlockMapping since fuel rest
      return ((key, value) :: entries, last)
    | .blockEnd => return ([], outline.behind)
    | kind =>
      throw (complain "while parsing a block mapping" since
        ("expected <block end>, but found " ++ Text.quoted kind.name) token.start)

/-- Read the items of a sequence between brackets. -/
def readFlowSequence (since : Mark) (isFirst : Bool) :
    (fuel : Nat) → Outline → Except Refusal (List Node × Outline)
  | 0, outline => return ([], outline)
  | fuel + 1, outline => do
    let token ← outline.peek
    match token.kind, isFirst with
    | .flowSequenceEnd, _ => return ([], outline.behind)
    | .flowEntry, false => readFlowItem since fuel outline.behind
    | kind, false =>
      throw (complain "while parsing a flow sequence" since
        ("expected ',' or ']', but got " ++ Text.quoted kind.name) token.start)
    | _, true => readFlowItem since fuel outline

/-- Read an item of a sequence between brackets, which may be an entry of a mapping, and the items
that follow. -/
def readFlowItem (since : Mark) :
    (fuel : Nat) → Outline → Except Refusal (List Node × Outline)
  | 0, outline => return ([], outline)
  | fuel + 1, outline => do
    let token ← outline.peek
    match token.kind with
    | .flowSequenceEnd => return ([], outline.behind)
    | .key =>
      let head : NodeHead := ⟨outline.count, mappingTag, token.start⟩
      let (key, between) ← readFlowPart token .flowSequenceEnd fuel outline.grown.behind
      let mark ← between.peek
      let (value, rest) ← match mark.kind with
        | .value => readFlowPart mark .flowSequenceEnd fuel between.behind
        | _ => .ok (between.empty mark.start)
      let (items, last) ← readFlowSequence since false fuel rest
      return (.mapping head [(key, value)] :: items, last)
    | _ =>
      let (item, rest) ← readNode .flow fuel outline
      let (items, last) ← readFlowSequence since false fuel rest
      return (item :: items, last)

/-- Read what stands behind the mark of a key or of a value between brackets. -/
def readFlowPart (mark : Token) (closing : TokenKind) :
    (fuel : Nat) → Outline → Except Refusal (Node × Outline)
  | 0, outline => return outline.empty mark.finish
  | fuel + 1, outline => do
    let next ← outline.peek
    match next.kind, mark.kind, closing with
    | .flowEntry, _, _ => return outline.empty mark.finish
    | .value, .key, _ => return outline.empty mark.finish
    | .flowSequenceEnd, _, .flowSequenceEnd => return outline.empty mark.finish
    | .flowMappingEnd, _, .flowMappingEnd => return outline.empty mark.finish
    | _, _, _ => readNode .flow fuel outline

/-- Read the entries of a mapping between brackets. -/
def readFlowMapping (since : Mark) (isFirst : Bool) :
    (fuel : Nat) → Outline → Except Refusal (List (Node × Node) × Outline)
  | 0, outline => return ([], outline)
  | fuel + 1, outline => do
    let token ← outline.peek
    match token.kind, isFirst with
    | .flowMappingEnd, _ => return ([], outline.behind)
    | .flowEntry, false => readFlowEntry since fuel outline.behind
    | kind, false =>
      throw (complain "while parsing a flow mapping" since
        ("expected ',' or '\x7d', but got " ++ Text.quoted kind.name) token.start)
    | _, true => readFlowEntry since fuel outline

/-- Read an entry of a mapping between brackets, and the entries that follow. -/
def readFlowEntry (since : Mark) :
    (fuel : Nat) → Outline → Except Refusal (List (Node × Node) × Outline)
  | 0, outline => return ([], outline)
  | fuel + 1, outline => do
    let token ← outline.peek
    match token.kind with
    | .flowMappingEnd => return ([], outline.behind)
    | .key =>
      let (key, between) ← readFlowPart token .flowMappingEnd fuel outline.behind
      let mark ← between.peek
      let (value, rest) ← match mark.kind with
        | .value => readFlowPart mark .flowMappingEnd fuel between.behind
        | _ => .ok (between.empty mark.start)
      let (entries, last) ← readFlowMapping since false fuel rest
      return ((key, value) :: entries, last)
    | _ =>
      let (key, between) ← readNode .flow fuel outline
      let mark ← between.peek
      let (value, rest) := between.empty mark.start
      let (entries, last) ← readFlowMapping since false fuel rest
      return ((key, value) :: entries, last)

end

/-! ## Documents -/

/-- Read the directives in front of a document: whether a version was given, and the handles. -/
def readDirectives : (fuel : Nat) → (hasVersion : Bool) → (handles : List (String × String)) →
    Outline → Except Refusal Outline
  | 0, _, _, outline => .ok outline
  | fuel + 1, hasVersion, handles, outline => do
    let token ← outline.peek
    match token.kind with
    | .directive (.version major _) =>
      if hasVersion then
        throw (complain none none "found duplicate YAML directive" token.start)
      else if major ≠ 1 then
        throw (complain none none "found incompatible YAML document (version 1.* is required)"
          token.start)
      else readDirectives fuel true handles outline.behind
    | .directive (.tagPrefix handle expansion) =>
      if (handles.lookup handle).isSome then
        throw (complain none none ("duplicate tag handle " ++ Text.quoted handle) token.start)
      else readDirectives fuel hasVersion ((handle, expansion) :: handles) outline.behind
    | .directive .other => readDirectives fuel hasVersion handles outline.behind
    | _ => return { outline with handles := handles ++ standardHandles }

/-- Move over the ends of documents; the fuel bounds the tokens. -/
def skipEnds : (fuel : Nat) → Outline → Except Refusal Outline
  | 0, outline => .ok outline
  | fuel + 1, outline => do
    let token ← outline.peek
    match token.kind with
    | .documentEnd => skipEnds fuel outline.behind
    | _ => return outline

/-- A bound on the steps that reading takes. -/
def fuel (outline : Outline) : Nat := 3 * outline.tokens.length + 8

/-- Read the beginning of a document that is marked, if there is a further document: where it
begins, and its content. -/
def readStart (outline : Outline) : Except Refusal (Option Mark × Outline) := do
  let next ← skipEnds outline.fuel outline
  let token ← next.peek
  match token.kind with
  | .streamEnd => return (none, next)
  | _ =>
    let inner ← readDirectives next.fuel false [] next
    let mark ← inner.peek
    match mark.kind with
    | .documentStart => return (some token.start, inner.behind)
    | kind =>
      throw (complain none none
        ("expected '<document start>', but found " ++ Text.quoted kind.name) mark.start)

/-- Read the content of a document that is marked. -/
def readContent (outline : Outline) : Except Refusal (Node × Outline) := do
  let token ← outline.peek
  match token.kind with
  | .directive _ | .documentStart | .documentEnd | .streamEnd => return outline.empty token.start
  | _ => readNode .block outline.fuel outline

/-- Read the root of the first document, if there is one. -/
def readFirst (outline : Outline) : Except Refusal (Option (Node × Outline)) := do
  let token ← outline.peek
  match token.kind with
  | .directive _ | .documentStart | .streamEnd =>
    let (start, inner) ← outline.readStart
    if start.isNone then return none
    else
      let found ← inner.readContent
      return some found
  | _ =>
    let found ← readNode .block outline.fuel outline
    return some found

/-- Move over the mark at the end of a document. -/
def skipEnd (outline : Outline) : Except Refusal Outline := do
  let token ← outline.peek
  match token.kind with
  | .documentEnd => return outline.behind
  | _ => return outline

/-- The root of the only document. -/
def readOnly (outline : Outline) : Except Refusal (Option Node) := do
  let found ← outline.behind.readFirst
  match found with
  | none => return none
  | some (node, after) =>
    let rest ← after.skipEnd
    let (further, _) ← rest.readStart
    match further with
    | none => return some node
    | some mark =>
      throw (.complaint {
        stage := .composer, since := some node.head.start, mark,
        context := "expected a single document in the stream",
        problem := "but found another document" })

end Outline

/-- The root of the only document of a text. -/
def Node.ofText (text : List Char) : Except Refusal (Option Node) :=
  let (tokens, refusal) := tokensOf text
  Outline.readOnly { tokens, refusal }

end QuantumKata.Yaml
