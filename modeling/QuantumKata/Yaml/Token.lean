import QuantumKata.Yaml.Mark

/-!
# Tokens of a document

A document is first cut into tokens.  Besides what is written in the text there are tokens for the
beginning and the end of block collections, which show in the text as indentation only, and for the
keys of mappings, which show only when a colon follows.
-/

namespace QuantumKata.Yaml

/-- What a directive says. -/
inductive Directive where
  | version (major minor : Nat)
  | tagPrefix (handle expansion : String)
  | other
  deriving Inhabited

/-- What a token is. -/
inductive TokenKind where
  | streamStart
  | streamEnd
  | directive (content : Directive)
  | documentStart
  | documentEnd
  | blockSequenceStart
  | blockMappingStart
  | blockEnd
  | flowSequenceStart
  | flowSequenceEnd
  | flowMappingStart
  | flowMappingEnd
  | blockEntry
  | flowEntry
  | key
  | value
  /-- The use of the node with the anchor of that name. -/
  | nodeName (name : String)
  | anchor (name : String)
  /-- A tag with the handle it is shortened by, if any. -/
  | tag (handle : Option String) (suffix : String)
  | scalar (text : String) (isPlain : Bool)
  deriving Inhabited

/-- The name of a token in complaints. -/
def TokenKind.name : TokenKind → String
  | streamStart => "<stream start>"
  | streamEnd => "<stream end>"
  | directive _ => "<directive>"
  | documentStart => "<document start>"
  | documentEnd => "<document end>"
  | blockSequenceStart => "<block sequence start>"
  | blockMappingStart => "<block mapping start>"
  | blockEnd => "<block end>"
  | flowSequenceStart => "["
  | flowSequenceEnd => "]"
  | flowMappingStart => "\x7b"
  | flowMappingEnd => "\x7d"
  | blockEntry => "-"
  | flowEntry => ","
  | key => "?"
  | value => ":"
  | nodeName _ => "<alias>"
  | anchor _ => "<anchor>"
  | tag .. => "<tag>"
  | scalar .. => "<scalar>"

/-- A token with the places where it begins and ends. -/
structure Token where
  kind : TokenKind
  start : Mark
  finish : Mark
  deriving Inhabited

end QuantumKata.Yaml
