import QuantumKata.Arena
import QuantumKata.Datum.Order
import QuantumKata.Decimal.Binary64
import QuantumKata.Diagnosis
import QuantumKata.Profile
import QuantumKata.Seed
import QuantumKata.Text.Case
import QuantumKata.Text.Numeral
import QuantumKata.Yaml.Document

/-!
# Configuration

A configuration gives every setting a datum.  It is made from the entries of a section, which may
leave settings out but may not name unknown ones, and it is accepted when the settings that are
checked are in range; the checks are made in a fixed order and the first one that fails decides.
Settings are kept as they were given, so that a configuration can be shown as it was written.
-/

namespace QuantumKata

/-- The settings. -/
inductive Setting where
  | targetProfile
  | enableAdaptiveProfile
  | tolerance
  | maxQubits
  | timeoutSeconds
  | maxWorkers
  | diagnostics
  | counterexampleMaxQubits
  | seed
  | logLevel
  deriving DecidableEq, Repr

namespace Setting

/-- All settings. -/
def all : List Setting :=
  [targetProfile, enableAdaptiveProfile, tolerance, maxQubits, timeoutSeconds, maxWorkers,
    diagnostics, counterexampleMaxQubits, seed, logLevel]

/-- The key of a setting. -/
def key : Setting → String
  | targetProfile => "target_profile"
  | enableAdaptiveProfile => "enable_adaptive_profile"
  | tolerance => "tolerance"
  | maxQubits => "max_qubits"
  | timeoutSeconds => "timeout_seconds"
  | maxWorkers => "max_workers"
  | diagnostics => "diagnostics"
  | counterexampleMaxQubits => "counterexample_max_qubits"
  | seed => "seed"
  | logLevel => "log_level"

/-- The setting of a key. -/
def ofKey? (key : Datum) : Option Setting :=
  match key with
  | .text name => all.find? fun setting => setting.key == name
  | _ => none

/-- What a setting is when it is left out. -/
def fallback : Setting → Datum
  | targetProfile => .text "unrestricted"
  | enableAdaptiveProfile => .truth false
  | tolerance => .real 1e-9
  | maxQubits => .integer 16
  | timeoutSeconds => .real 30
  | maxWorkers => .integer 4
  | diagnostics => .truth true
  | counterexampleMaxQubits => .integer 6
  | seed => .null
  | logLevel => .text "WARNING"

end Setting

namespace Datum

/-- Whether a number has a property; other data cannot be compared with numbers, which is a fault. -/
def compared (value : Datum) (integers : Int → Bool) (reals : Float → Bool) (fault : Fault) :
    Except Fault Bool :=
  match value with
  | truth holds => .ok (integers (if holds then 1 else 0))
  | integer number => .ok (integers number)
  | real number => .ok (reals number)
  | _ => .error fault

/-- Whether a number is below a whole number. -/
def isBelow (value : Datum) (bound : Int) : Except Fault Bool :=
  value.compared (fun number => decide (number < bound))
    (fun number => decide (number < Float.ofInt bound)) (unordered value (integer bound))

/-- Whether a number is above a whole number. -/
def isAbove (value : Datum) (bound : Int) : Except Fault Bool :=
  value.compared (fun number => decide (bound < number))
    (fun number => decide (Float.ofInt bound < number)) (unordered (integer bound) value)

/-- Whether a number is a whole number or below it. -/
def isAtMost (value : Datum) (bound : Int) : Except Fault Bool :=
  value.compared (fun number => decide (number ≤ bound))
    (fun number => decide (number ≤ Float.ofInt bound))
    (.wrongType ("'<=' not supported between instances of '" ++ value.typeName ++ "' and 'int'"))

/-- Whether a setting can be shown in a message.  An integer of too many digits cannot. -/
def isShowable : Datum → Bool
  | integer number => decide (number.natAbs < Nat.pow 10 Text.digitLimit)
  | _ => true

end Datum

/-- What every setting is. -/
structure Configuration where
  value : Setting → Datum

instance : Inhabited Configuration := ⟨⟨Setting.fallback⟩⟩

namespace Configuration

/-- The configuration in which everything was left out. -/
def standard : Configuration := ⟨Setting.fallback⟩

/-- Change a setting. -/
def set (configuration : Configuration) (setting : Setting) (value : Datum) : Configuration :=
  ⟨fun other => if other = setting then value else configuration.value other⟩

/-- The settings with their keys. -/
def entries (configuration : Configuration) : List (String × Datum) :=
  Setting.all.map fun setting => (setting.key, configuration.value setting)

/-! ## Acceptance -/

/-- The known log levels. -/
def logLevels : List String := ["TRACE", "DEBUG", "INFO", "WARNING", "ERROR", "CRITICAL"]

/-- The fault of a setting that is out of range, unless showing the setting is a fault by itself. -/
def outOfRange (configuration : Configuration) (setting : Setting) (rule : String) : Fault :=
  let value := configuration.value setting
  if value.isShowable then .outOfRange setting.key rule value.plain else .tooManyDigits none

/-- The tolerance lies strictly between zero and one. -/
def checkTolerance (configuration : Configuration) : Except Fault Unit := do
  let value := configuration.value .tolerance
  let above ← value.isAbove 0
  let within ← if above then value.isBelow 1 else .ok false
  if within then .ok () else .error (configuration.outOfRange .tolerance "in (0, 1)")

/-- A count is at least one.  What is not comparable with one passes if it is a number. -/
def checkCount (configuration : Configuration) (setting : Setting) : Except Fault Unit := do
  let below ← (configuration.value setting).isBelow 1
  if below then .error (configuration.outOfRange setting "positive") else .ok ()

/-- The time allowed is positive.  What is not comparable with zero passes if it is a number. -/
def checkTimeout (configuration : Configuration) : Except Fault Unit := do
  let rejected ← (configuration.value .timeoutSeconds).isAtMost 0
  if rejected then .error (configuration.outOfRange .timeoutSeconds "positive") else .ok ()

/-- The log level is a known one, in whatever case. -/
def checkLogLevel (configuration : Configuration) : Except Fault Unit :=
  match configuration.value .logLevel with
  | .text level =>
    if logLevels.contains (Text.upper level) then .ok () else .error (.unknownLogLevel level)
  | .bytes level => .error (.unknownLogLevel (Datum.bytes level).plain)
  | other => .error (.wrongMember ("'" ++ other.typeName ++ "' object has no attribute 'upper'"))

/-- Accept a configuration or say what is wrong with it. -/
def check (configuration : Configuration) : Except Fault Configuration := do
  configuration.checkTolerance
  configuration.checkCount .maxQubits
  configuration.checkTimeout
  configuration.checkCount .maxWorkers
  configuration.checkLogLevel
  return configuration

/-! ## Reading -/

/-- Refuse keys that no setting has. -/
def checkKeys (keys : List Datum) : Except Fault Unit :=
  match keys.filter fun key => (Setting.ofKey? key).isNone with
  | [] => .ok ()
  | unknown => do
    let sorted ← Datum.sorted unknown
    .error (.unknownKeys sorted)

/-- Put entries in place. -/
def withEntries (configuration : Configuration) (entries : List (Datum × Datum)) : Configuration :=
  entries.foldl (fun changed entry =>
    match Setting.ofKey? entry.1 with
    | some setting => changed.set setting entry.2
    | none => changed) configuration

/-- The configuration of a section.  Unknown keys are looked for in everything that can be gone
through, but only a mapping has values for its keys. -/
def ofSection (content : Datum) : Except Fault Configuration :=
  match content.parts? with
  | none => .error (.wrongType ("'" ++ content.typeName ++ "' object is not iterable"))
  | some parts => do
    parts.forM Datum.checkKey
    checkKeys (Datum.distinct parts)
    match content with
    | .mapping entries => (standard.withEntries entries).check
    | _ => .error (.wrongType "argument after ** must be a mapping")

/-- The key of the section that holds the settings of the program. -/
def sectionKey : String := "qgrade"

/-- The configuration of a document, whose section may be missing; a document that counts as false
holds no sections. -/
def ofDocument (document : Datum) : Except Fault Configuration :=
  if !document.isTruthy then ofSection (.mapping [])
  else
    match document with
    | .mapping _ => ofSection ((document.field? sectionKey).getD (.mapping []))
    | other => .error (.wrongMember ("'" ++ other.typeName ++ "' object has no attribute 'get'"))

/-- The configuration of the YAML text of the named file. -/
def ofText (name text : String) : Except Fault Configuration := do
  let document ← Yaml.readDocument name text
  ofDocument document

/-- The name of the configuration itself among the settings to change, which is no setting. -/
def ownKey : String := "self"

/-- Change settings; what is nothing changes nothing. -/
def withOverrides (configuration : Configuration) (overrides : List (String × Datum)) :
    Except Fault Configuration := do
  if overrides.any fun entry => entry.1 == ownKey then
    throw (.wrongType ("multiple values for argument '" ++ ownKey ++ "'"))
  let entries := (overrides.filter fun entry => !entry.2.isNull).map fun (key, value) =>
    (Datum.text key, value)
  checkKeys (entries.map Prod.fst)
  (configuration.withEntries entries).check

/-! ## Meaning -/

/-- The target profile.  The adaptive one has to be enabled. -/
def profile (configuration : Configuration) : Except Fault TargetProfile := do
  let named ← match configuration.value .targetProfile with
    | .text name => .ok (TargetProfile.ofSetting name)
    | .bytes _ => .ok .unrestricted
    | other =>
      if other.isTruthy then
        .error (.wrongMember ("'" ++ other.typeName ++ "' object has no attribute 'strip'"))
      else .ok .unrestricted
  if named = .adaptive ∧ (configuration.value .enableAdaptiveProfile).isTruthy = false then
    .error .adaptiveDisabled
  else .ok named

/-- The tolerance as a number. -/
def tolerance (configuration : Configuration) : Float :=
  ((configuration.value .tolerance).number?).getD 0

/-- The time allowed for a run, in seconds. -/
def timeout (configuration : Configuration) : Float :=
  ((configuration.value .timeoutSeconds).number?).getD 0

/-- Whether there is a generator of measurement outcomes, or why there is none. -/
def generator (configuration : Configuration) : Except Fault Unit :=
  Seed.check (configuration.value .seed)

/-- Whether diagnoses are wanted. -/
def wantsDiagnoses (configuration : Configuration) : Bool :=
  (configuration.value .diagnostics).isTruthy

/-- The greatest whole number that is not above a number; infinite and undefined numbers have
none. -/
def floor? : Decimal.Binary64 → Option Int
  | .finite negative mantissa exponent =>
    let fraction := Decimal.Quotient.ofBinary mantissa exponent
    let signed : Int := if negative then -(fraction.numerator : Int) else fraction.numerator
    some (signed / fraction.denominator)
  | _ => none

/-- The limit on the size of registers. -/
def sizeLimit (configuration : Configuration) : SizeLimit :=
  let value := configuration.value .maxQubits
  let largest := match value with
    | .truth holds => some (if holds then 1 else 0)
    | .integer number => some number
    | .real number => floor? (.ofFloat number)
    | _ => none
  ⟨largest, value.plain⟩

/-- The limit on the search for counterexamples.  No size is negative, so a limit below all numbers
is as good as minus one. -/
def searchLimit (configuration : Configuration) : SearchLimit :=
  match configuration.value .counterexampleMaxQubits with
  | .truth holds => .upTo (if holds then 1 else 0)
  | .integer number => .upTo number
  | .real number =>
    match Decimal.Binary64.ofFloat number with
    | .nan => .undefined
    | .infinite negative => if negative then .upTo (-1) else .unlimited
    | finite => .upTo ((floor? finite).getD 0)
  | other => .incomparable other.typeName

end Configuration

end QuantumKata
