import QuantumKata.Text.Blank
import QuantumKata.Text.Case

/-!
# Target profiles

A target profile names the instructions that an operation body may issue.  Profiles only ever
refuse instructions; what an allowed instruction does is the same under all of them.
-/

namespace QuantumKata

/-- The families of instructions. -/
inductive InstructionKind where
  | gate
  | globalPhase
  | measure
  | reset
  | customUnitary
  deriving DecidableEq, Repr

namespace InstructionKind

/-- All families of instructions. -/
def all : List InstructionKind := [gate, globalPhase, measure, reset, customUnitary]

/-- The word for a family of instructions. -/
def word : InstructionKind → String
  | gate => "gate"
  | globalPhase => "global_phase"
  | measure => "measure"
  | reset => "reset"
  | customUnitary => "custom_unitary"

end InstructionKind

/-- The profiles. -/
inductive TargetProfile where
  | base
  | adaptive
  | unrestricted
  deriving DecidableEq, Repr, Inhabited

namespace TargetProfile

/-- All profiles. -/
def all : List TargetProfile := [base, adaptive, unrestricted]

/-- The setting that stands for a profile. -/
def setting : TargetProfile → String
  | base => "base"
  | adaptive => "adaptive"
  | unrestricted => "unrestricted"

/-- The name of a profile as it is shown. -/
def friendlyName : TargetProfile → String
  | base => "QIR base"
  | adaptive => "QIR Adaptive"
  | unrestricted => "unrestricted"

/-- Whether a profile has an instruction. -/
def allows : TargetProfile → InstructionKind → Bool
  | unrestricted, _ => true
  | _, .gate | _, .globalPhase | _, .measure => true
  | adaptive, .reset => true
  | _, _ => false

/-- The words for the instructions of a profile, sorted. -/
def instructionWords (profile : TargetProfile) : List String :=
  ((InstructionKind.all.filter profile.allows).map InstructionKind.word).mergeSort
    fun left right => decide (left ≤ right)

/-- Settings that mean the same as another setting. -/
def canonicalSetting (text : String) : String :=
  if text = "quantinuum" ∨ text = "adaptive_ri" then "adaptive" else text

/-- The profile of a setting: blanks at the ends and letter case do not matter, and an unknown
setting means the unrestricted profile. -/
def ofSetting (text : String) : TargetProfile :=
  let key := canonicalSetting (Text.lower (Text.strip text))
  (all.find? fun profile => profile.setting == key).getD unrestricted

/-- The profile of a shown name; an unknown name means the unrestricted profile. -/
def ofFriendlyName (text : String) : TargetProfile :=
  (all.find? fun profile => profile.friendlyName == text).getD unrestricted

/-- The profiles on offer. -/
def available (withAdaptive : Bool) : List TargetProfile :=
  all.filter fun profile => withAdaptive || profile != adaptive

end TargetProfile

end QuantumKata
