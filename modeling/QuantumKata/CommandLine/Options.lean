import QuantumKata.Text.Numeral
import QuantumKata.Text.Quoted
import QuantumKata.Text.Similarity

/-!
# Options and arguments

A command takes options, which have names, and arguments, which have places.  A long option may have
its value behind an equals sign, a short one right behind its letter, and letters of options without
values may be joined.  Two dashes end the options.  Words are read from left to right, and what was
wrong first is reported first.
-/

namespace QuantumKata.CommandLine

/-- What is wrong with a command line. -/
inductive UsageError where
  | noCommand
  | unknownCommand (name : String)
  | unknownOption (name : String) (similar : List String)
  | valueMissing (option : String)
  | valueUnwanted (option : String)
  | argumentMissing (name : String)
  | optionMissing (label : String)
  | superfluous (arguments : List String)
  | notAnInteger (label value : String)
  | notAReal (label value : String)
  | notAChoice (label value : String) (choices : List String)
  | noFile (label path : String)
  | directoryGiven (label path : String)
  | unknownExercise (name : String)
  | badConfiguration (reason : String)
  deriving DecidableEq, Repr

namespace UsageError

/-- The text of a value that is refused. -/
def refused (label reason : String) : String := "Invalid value for " ++ label ++ ": " ++ reason

/-- The hint at options with similar names. -/
def hint : List String → String
  | [] => ""
  | [only] => " Did you mean " ++ only ++ "?"
  | several => " (Possible options: " ++
      ", ".intercalate (several.mergeSort fun left right => decide (left ≤ right)) ++ ")"

/-- The text of an error. -/
def text : UsageError → String
  | noCommand => "Missing command."
  | unknownCommand name => "No such command " ++ Text.quoted name ++ "."
  | unknownOption name similar => "No such option: " ++ name ++ hint similar
  | valueMissing option => "Option " ++ Text.quoted option ++ " requires an argument."
  | valueUnwanted option => "Option " ++ Text.quoted option ++ " does not take a value."
  | argumentMissing name => "Missing argument '" ++ name ++ "'."
  | optionMissing label => "Missing option " ++ label ++ "."
  | superfluous [only] => "Got unexpected extra argument (" ++ only ++ ")"
  | superfluous several => "Got unexpected extra arguments (" ++ " ".intercalate several ++ ")"
  | notAnInteger label value => refused label (Text.quoted value ++ " is not a valid integer.")
  | notAReal label value => refused label (Text.quoted value ++ " is not a valid float.")
  | notAChoice label value choices =>
    refused label (Text.quoted value ++ " is not one of " ++
      ", ".intercalate (choices.map Text.quoted) ++ ".")
  | noFile label path => refused label ("File " ++ Text.quoted path ++ " does not exist.")
  | directoryGiven label path => refused label ("File " ++ Text.quoted path ++ " is a directory.")
  | unknownExercise name => refused "EXERCISE" ("Unknown exercise '" ++ name ++ "'")
  | badConfiguration reason => "Invalid configuration: " ++ reason

end UsageError

/-- An option: its names, what its value is called if it takes one, and what it is for.  The key
says which setting it changes. -/
structure OptionSpec where
  key : String
  names : List String
  value : Option String := none
  purpose : String
  isRequired : Bool := false

namespace OptionSpec

/-- Whether a value goes with an option. -/
def takesValue (option : OptionSpec) : Bool := option.value.isSome

/-- Whether a name is a long one. -/
def isLong (name : String) : Bool := 2 < name.length

/-- The names of an option as they are shown. -/
def label (option : OptionSpec) : String :=
  " / ".intercalate (option.names.map fun name => "'" ++ name ++ "'")

/-- The option that asks what a command is for. -/
def help : OptionSpec where
  key := "help"
  names := ["--help"]
  purpose := "Show this message and exit."

end OptionSpec

/-- An option that was given, by its name and with its value; an option without value has none. -/
structure Given where
  option : OptionSpec
  name : String
  value : Option String

/-- The words of a command line, told apart. -/
structure Words where
  options : List Given := []
  arguments : List String := []

namespace Words

/-- Add an option. -/
def withOption (option : OptionSpec) (name : String) (value : Option String) (words : Words) :
    Words :=
  { words with options := ⟨option, name, value⟩ :: words.options }

/-- Add an argument. -/
def withArgument (argument : String) (words : Words) : Words :=
  { words with arguments := argument :: words.arguments }

/-- The option of a name. -/
def find? (options : List OptionSpec) (name : String) : Option OptionSpec :=
  options.find? fun option => option.names.contains name

/-- The long names of options. -/
def longNames (options : List OptionSpec) : List String :=
  (options.flatMap OptionSpec.names).filter OptionSpec.isLong

/-- A word as a name and a value behind an equals sign. -/
def splitEquals (word : String) : String × Option String :=
  let name := word.toList.takeWhile (· != '=')
  match word.toList.drop name.length with
  | _ :: value => (String.ofList name, some (String.ofList value))
  | [] => (word, none)

/-- What joined letters come to: options without values, and at the end perhaps one that wants a
value, with the rest of the word. -/
def readLetters (options : List OptionSpec) : List Char →
    Except UsageError (List Given × Option (OptionSpec × String × List Char))
  | [] => .ok ([], none)
  | letter :: rest =>
    let name := String.ofList ['-', letter]
    match find? options name with
    | none => .error (.unknownOption name [])
    | some option =>
      if option.takesValue then .ok ([], some (option, name, rest))
      else (readLetters options rest).map fun (others, last) =>
        (⟨option, name, none⟩ :: others, last)

/-- Tell the words apart.  `interspersed` says whether options may follow arguments. -/
def read (options : List OptionSpec) (interspersed : Bool) : List String →
    Except UsageError Words
  | [] => .ok {}
  | "--" :: rest => .ok { arguments := rest }
  | word :: rest =>
    if word.toList.head? != some '-' || word.length < 2 then
      if interspersed then (read options interspersed rest).map (withArgument word)
      else .ok { arguments := word :: rest }
    else
      let (name, attached) := splitEquals word
      match (if OptionSpec.isLong name then find? options name else none), attached, rest with
      | some option, none, [] =>
        if option.takesValue then .error (.valueMissing name)
        else .ok (withOption option name none {})
      | some option, none, value :: more =>
        if option.takesValue then
          (read options interspersed more).map (withOption option name (some value))
        else (read options interspersed (value :: more)).map (withOption option name none)
      | some option, some value, more =>
        if option.takesValue then
          (read options interspersed more).map (withOption option name (some value))
        else .error (.valueUnwanted name)
      | none, _, more =>
        if word.startsWith "--" then
          .error (.unknownOption name (Text.similarTo name (longNames options)))
        else
          match readLetters options (word.toList.drop 1) with
          | .error problem => .error problem
          | .ok (flags, none) =>
            (read options interspersed more).map fun words =>
              { words with options := flags ++ words.options }
          | .ok (flags, some (option, letter, [])) =>
            match more with
            | value :: others =>
              (read options interspersed others).map fun words =>
                { words with options := flags ++ ⟨option, letter, some value⟩ :: words.options }
            | [] => .error (.valueMissing letter)
          | .ok (flags, some (option, letter, value)) =>
            (read options interspersed more).map fun words =>
              { words with
                options := flags ++
                  ⟨option, letter, some (String.ofList value)⟩ :: words.options }

/-- The option of a key that was given last. -/
def last? (words : Words) (key : String) : Option Given :=
  words.options.reverse.find? fun given => given.option.key == key

/-- The value of an option. -/
def value? (words : Words) (key : String) : Option String :=
  (words.last? key).bind fun given => given.value

/-- Whether an option was given. -/
def has (words : Words) (key : String) : Bool := (words.last? key).isSome

/-- The keys that were given, in the order in which they were given first. -/
def keys (words : Words) : List String :=
  (words.options.map fun given => given.option.key).eraseDups

end Words

end QuantumKata.CommandLine
