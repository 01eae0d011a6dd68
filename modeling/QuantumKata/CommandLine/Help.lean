import QuantumKata.CommandLine.Command
import QuantumKata.Text.Width

/-!
# Help

A page of help says how a command is called and what it is for, and lists its options and commands.
What they are for stands in a column of its own, broken into lines; the column starts behind the
longest entry, but not farther to the right than long entries allow, which get a line of their own.
-/

namespace QuantumKata.CommandLine

/-- A page of help. -/
structure HelpPage where
  call : String
  purpose : String
  options : List OptionSpec
  commands : List CommandName := []

namespace HelpPage

/-- The width of a page. -/
def width : Nat := 78

/-- The widest entry that has its explanation on the same line. -/
def entryLimit : Nat := 30

/-- Break words into lines of at most the given width.  A line is held back until a word does not
fit on it any more. -/
def wrapWords (width : Nat) : (held : String) → List String → List String
  | held, [] => [held]
  | held, word :: rest =>
    if held.isEmpty then wrapWords width word rest
    else if held.length + 1 + word.length ≤ width then
      wrapWords width (held ++ " " ++ word) rest
    else held :: wrapWords width word rest

/-- An option as it is called: short names first, or two long names as alternatives, and what its
value is called. -/
def entryOf (option : OptionSpec) : String :=
  let (long, short) := option.names.partition OptionSpec.isLong
  let names := if short.isEmpty then " / ".intercalate long else ", ".intercalate (short ++ long)
  names ++ (option.value.map fun value => " " ++ value).getD ""

/-- What an option is for. -/
def explanationOf (option : OptionSpec) : String :=
  option.purpose ++ (if option.isRequired then "  [required]" else "")

/-- An entry and its explanation in two columns. -/
def entryLines (column : Nat) (entry explanation : String) : List String :=
  let lines := wrapWords (width - column - 2) "" (explanation.splitOn " ")
  let indented := lines.map fun line => Text.padRight (column + 2) "" ++ line
  if entry.length + 2 ≤ column then
    match lines with
    | first :: _ => ("  " ++ Text.padRight column entry ++ first) :: indented.drop 1
    | [] => ["  " ++ entry]
  else ("  " ++ entry) :: indented

/-- A list of entries under a title. -/
def sectionLines (title : String) (entries : List (String × String)) : List String :=
  let widest := (entries.map fun entry => entry.1.length).foldl max 0
  let column := min widest entryLimit + 2
  ["", title ++ ":"] ++ entries.flatMap fun (entry, explanation) =>
    entryLines column entry explanation

/-- The lines of a page. -/
def lines (page : HelpPage) : List String :=
  ["Usage: " ++ page.call, "", "  " ++ page.purpose] ++
    sectionLines "Options"
      (page.options.map fun option => (entryOf option, explanationOf option)) ++
    (if page.commands.isEmpty then []
      else sectionLines "Commands" (page.commands.map fun name => (name.word, name.purpose)))

/-- The page about a program. -/
def ofProgram (program : String) : HelpPage where
  call := program ++ " [OPTIONS] COMMAND [ARGS]..."
  purpose := Invocation.purpose
  options := Invocation.options
  commands := CommandName.all

/-- The page about a command of a program. -/
def ofCommand (program : String) (name : CommandName) : HelpPage where
  call := program ++ " " ++ name.word ++ " [OPTIONS]" ++
    (if name = .check then " EXERCISE" else "")
  purpose := name.purpose
  options := Command.options name

end HelpPage

end QuantumKata.CommandLine
