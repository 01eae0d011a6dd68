/-!
# Paths

A path is a list of names, relative or absolute.  Empty names and names that are a single point are
left out when a path is read; two points are kept, since what they lead to depends on the
directories that exist.
-/

namespace QuantumKata

/-- A path; `root` holds the slashes that it begins with. -/
structure Path where
  root : String
  parts : List String
  deriving DecidableEq, Repr, Inhabited

namespace Path

/-- The slashes that a path keeps in front: none, one, or exactly two. -/
def rootOf (text : List Char) : String :=
  match (text.takeWhile (· == '/')).length with
  | 0 => ""
  | 2 => "//"
  | _ => "/"

/-- Read a path. -/
def ofText (text : String) : Path :=
  ⟨rootOf text.toList, (text.splitOn "/").filter fun part => !part.isEmpty && part != "."⟩

/-- The text of a path; the empty path is a point. -/
def text (path : Path) : String :=
  let joined := path.root ++ "/".intercalate path.parts
  if joined.isEmpty then "." else joined

/-- The last name of a path. -/
def name (path : Path) : String := path.parts.getLastD ""

/-- A name cut before its last point, unless the point is its first or last character. -/
def splitName (name : String) : String × String :=
  let reversed := name.toList.reverse
  let ending := reversed.takeWhile (· != '.')
  match reversed.drop ending.length with
  | _ :: stem =>
    if stem.isEmpty || ending.isEmpty then (name, "")
    else (String.ofList stem.reverse, String.ofList ('.' :: ending.reverse))
  | [] => (name, "")

/-- The last name without its ending. -/
def stem (path : Path) : String := (splitName path.name).1

/-- The ending of the last name, with its point. -/
def ending (path : Path) : String := (splitName path.name).2

/-- The path of the directory that holds what the path leads to. -/
def parent (path : Path) : Path := ⟨path.root, path.parts.dropLast⟩

/-- The path to something in a directory. -/
def child (path : Path) (name : String) : Path := ⟨path.root, path.parts ++ [name]⟩

end Path

end QuantumKata
