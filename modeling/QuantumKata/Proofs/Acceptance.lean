import QuantumKata.Configuration

/-!
# Acceptance of a configuration

A configuration should be accepted if its settings are in range and be refused, as a configuration,
if they are not.  Five settings are checked, one after the other, and the first check that fails
decides; so what comes out is known from how each check ends on its own.

The checks compare what they are given with numbers, whatever it is, and show it in their message.  A
datum that is no number ends a check with a fault of its type, an integer of too many digits with one
of its value, and what is neither a text nor bytes has no cases, as a log level has.  The tolerance
is asked to be in range, the other numbers are asked not to be out of range, and a number that is
undefined is neither: it is refused as a tolerance and accepted otherwise.

So a configuration is accepted or refused as it should be exactly if all settings are in range, or
the first check that does not let its setting pass can say so.
-/

namespace QuantumKata

/-! ## Comparing real numbers -/

namespace RealNumber

open Float.Model

theorem isSome_compare (left right : UnpackedFloat) :
    (left.compare right).isSome = (!left.isNaN && !right.isNaN) := by
  rcases left with (_ | _) | _ | (_ | _) | ⟨_ | _, leftMantissa, leftExponent, leftPositive⟩ <;>
    rcases right with (_ | _) | _ | (_ | _) | ⟨_ | _, rightMantissa, rightExponent, rightPositive⟩ <;>
      rfl

/-- When numbers change places, their order is reversed. -/
theorem compare_swap (left right : UnpackedFloat) :
    right.compare left = (left.compare right).map Ordering.swap := by
  have digits : ∀ (leftExponent rightExponent : Int) (leftMantissa rightMantissa : Nat),
      (compare rightExponent leftExponent).then (compare rightMantissa leftMantissa) =
        ((compare leftExponent rightExponent).then (compare leftMantissa rightMantissa)).swap := by
    intro leftExponent rightExponent leftMantissa rightMantissa
    rw [Ordering.swap_then, ← Std.OrientedOrd.eq_swap, ← Std.OrientedOrd.eq_swap]
  rcases left with (_ | _) | _ | (_ | _) | ⟨_ | _, leftMantissa, leftExponent, leftPositive⟩ <;>
    rcases right with (_ | _) | _ | (_ | _) | ⟨_ | _, rightMantissa, rightExponent, rightPositive⟩
  case finite.negative.finite.negative =>
    exact congrArg (fun order => some order.swap)
      (digits leftExponent rightExponent leftMantissa rightMantissa)
  case finite.positive.finite.positive =>
    exact congrArg some (digits leftExponent rightExponent leftMantissa rightMantissa)
  all_goals rfl

/-- How two numbers are ordered, if they can be compared. -/
def order? (left right : Float) : Option Ordering :=
  left.toModel.unpack.compare right.toModel.unpack

variable {left right : Float}

theorem order?_swap (left right : Float) :
    order? right left = (order? left right).map Ordering.swap :=
  compare_swap left.toModel.unpack right.toModel.unpack

theorem lt_iff : left < right ↔ order? left right = some .lt := by
  change decide _ = true ↔ _
  rw [decide_eq_true_iff]
  exact beq_iff_eq

theorem le_iff : left ≤ right ↔ ∃ order, order? left right = some order ∧ order.isLE = true := by
  change decide _ = true ↔ _
  rw [decide_eq_true_iff]
  exact Option.any_eq_true _ _

theorem isNaN_eq_false_iff (defined : right.isNaN = false) :
    left.isNaN = false ↔ ∃ order, order? left right = some order := by
  have comparable := isSome_compare left.toModel.unpack right.toModel.unpack
  have rightDefined : right.toModel.unpack.isNaN = false := defined
  rw [rightDefined, Bool.not_false, Bool.and_true] at comparable
  rw [← Option.isSome_iff_exists]
  change _ ↔ (left.toModel.unpack.compare right.toModel.unpack).isSome = true
  rw [comparable, Bool.not_eq_true']
  rfl

/-- What is not below a number is at least that number, or undefined. -/
theorem not_lt_iff (defined : right.isNaN = false) :
    ¬left < right ↔ right ≤ left ∨ left.isNaN = true := by
  rw [lt_iff, le_iff, order?_swap left right, ← Bool.not_eq_false, isNaN_eq_false_iff defined]
  rcases order? left right with _ | order
  · simp
  · cases order <;> simp

/-- What is not at most a number is above that number, or undefined. -/
theorem not_le_iff (defined : right.isNaN = false) :
    ¬left ≤ right ↔ right < left ∨ left.isNaN = true := by
  rw [le_iff, lt_iff, order?_swap left right, ← Bool.not_eq_false, isNaN_eq_false_iff defined]
  rcases order? left right with _ | order
  · simp
  · cases order <;> simp

end RealNumber

/-! ## Numbers among data -/

namespace Datum

/-- A number, an integer or a real one, with a property.  Truth values count as one and zero. -/
def IsNumber (value : Datum) (integers : Int → Prop) (reals : Float → Prop) : Prop :=
  match value with
  | truth holds => integers (if holds then 1 else 0)
  | integer number => integers number
  | real number => reals number
  | _ => False

section

variable {value : Datum} {integers otherIntegers : Int → Prop} {reals otherReals : Float → Prop}

theorem IsNumber.mono (isNumber : value.IsNumber integers reals)
    (ofIntegers : ∀ number, integers number → otherIntegers number)
    (ofReals : ∀ number, reals number → otherReals number) :
    value.IsNumber otherIntegers otherReals := by
  cases value with
  | truth holds => exact ofIntegers _ isNumber
  | integer number => exact ofIntegers _ isNumber
  | real number => exact ofReals _ isNumber
  | _ => exact isNumber

theorem isNumber_congr (sameIntegers : ∀ number, integers number ↔ otherIntegers number)
    (sameReals : ∀ number, reals number ↔ otherReals number) :
    value.IsNumber integers reals ↔ value.IsNumber otherIntegers otherReals :=
  ⟨fun isNumber => isNumber.mono (fun number => (sameIntegers number).1)
      fun number => (sameReals number).1,
    fun isNumber => isNumber.mono (fun number => (sameIntegers number).2)
      fun number => (sameReals number).2⟩

theorem isNumber_and : value.IsNumber (fun number => integers number ∧ otherIntegers number)
    (fun number => reals number ∧ otherReals number) ↔
      value.IsNumber integers reals ∧ value.IsNumber otherIntegers otherReals := by
  cases value <;> simp [IsNumber]

theorem isNumber_or : value.IsNumber (fun number => integers number ∨ otherIntegers number)
    (fun number => reals number ∨ otherReals number) ↔
      value.IsNumber integers reals ∨ value.IsNumber otherIntegers otherReals := by
  cases value <;> simp [IsNumber]

theorem not_isNumber_false : ¬value.IsNumber (fun _ => False) fun _ => False := by
  cases value <;> simp [IsNumber]

end

/-- A number that can be shown in a message. -/
def IsShowableNumber (value : Datum) : Prop :=
  value.IsNumber (fun number => number.natAbs < Nat.pow 10 Text.digitLimit) fun _ => True

/-- An undefined number. -/
def IsUndefined (value : Datum) : Prop := value.IsNumber (fun _ => False) fun number =>
  number.isNaN = true

theorem isShowableNumber_iff {value : Datum} : value.IsShowableNumber ↔
    value.IsNumber (fun _ => True) (fun _ => True) ∧ value.isShowable = true := by
  have small : ∀ holds : Bool,
      (if holds then (1 : Int) else 0).natAbs < 10 ^ Text.digitLimit := by
    intro holds
    refine Nat.lt_of_le_of_lt ?_ (Nat.one_lt_pow (by decide) (by decide : 1 < 10))
    cases holds <;> decide
  cases value <;> simp [IsShowableNumber, IsNumber, isShowable, small]

/-- How a comparison can end: a number has the property, or it has not, or there is no number. -/
inductive Compares (value : Datum) (integers : Int → Prop) (reals : Float → Prop) :
    Except Fault Bool → Prop where
  | holds (isNumber : value.IsNumber integers reals) :
      Compares value integers reals (.ok true)
  | fails (isNumber : value.IsNumber (fun number => ¬integers number) fun number => ¬reals number) :
      Compares value integers reals (.ok false)
  | broken {fault : Fault} (noNumber : ¬value.IsNumber (fun _ => True) fun _ => True)
      (kind : fault.kind = .type) : Compares value integers reals (.error fault)

section

variable (value : Datum)

theorem compares_compared {integers : Int → Prop} {reals : Float → Prop}
    [DecidablePred integers] [DecidablePred reals] {fault : Fault} (kind : fault.kind = .type) :
    value.Compares integers reals (value.compared (fun number => decide (integers number))
      (fun number => decide (reals number)) fault) := by
  have settled : ∀ (property : Prop) [Decidable property],
      (property → value.IsNumber integers reals) →
      (¬property → value.IsNumber (fun number => ¬integers number) fun number => ¬reals number) →
      value.Compares integers reals (.ok (decide property)) := by
    intro property _ holds fails
    by_cases has : property
    · rw [decide_eq_true has]
      exact .holds (holds has)
    · rw [decide_eq_false has]
      exact .fails (fails has)
  cases value with
  | truth holds => exact settled _ id id
  | integer number => exact settled _ id id
  | real number => exact settled _ id id
  | _ => exact .broken id kind

theorem compares_isBelow (bound : Int) :
    value.Compares (· < bound) (· < Float.ofInt bound) (value.isBelow bound) :=
  value.compares_compared rfl

theorem compares_isAbove (bound : Int) :
    value.Compares (bound < ·) (Float.ofInt bound < ·) (value.isAbove bound) :=
  value.compares_compared rfl

theorem compares_isAtMost (bound : Int) :
    value.Compares (· ≤ bound) (· ≤ Float.ofInt bound) (value.isAtMost bound) :=
  value.compares_compared rfl

end

end Datum

/-! ## What a check should find -/

namespace Setting

/-- The settings that are checked, in this order. -/
def checked : List Setting := [tolerance, maxQubits, timeoutSeconds, maxWorkers, logLevel]

/-- The values that a setting should have. -/
def Allows : Setting → Datum → Prop
  | tolerance, value => value.IsNumber (fun number => 0 < number ∧ number < 1)
      fun number => 0 < number ∧ number < 1
  | maxQubits, value | maxWorkers, value => value.IsNumber (1 ≤ ·) (1 ≤ ·)
  | timeoutSeconds, value => value.IsNumber (0 < ·) (0 < ·)
  | logLevel, value => ∃ level, value = .text level ∧ Text.upper level ∈ Configuration.logLevels
  | _, _ => True

/-- The values that a check lets pass although the setting should not have them. -/
def Overlooks : Setting → Datum → Prop
  | maxQubits, value | maxWorkers, value | timeoutSeconds, value => value.IsUndefined
  | _, _ => False

/-- The values that a check lets pass. -/
def LetsPass (setting : Setting) (value : Datum) : Prop :=
  setting.Allows value ∨ setting.Overlooks value

/-- The values that a check can refuse as it should. -/
def CanRefuse : Setting → Datum → Prop
  | logLevel, value => (∃ level, value = .text level) ∨ ∃ level, value = .bytes level
  | _, value => value.IsShowableNumber

/-- The values that a check refuses as it should. -/
def Refuses (setting : Setting) (value : Datum) : Prop :=
  ¬setting.LetsPass value ∧ setting.CanRefuse value

/-- The settings that should be numbers. -/
def IsNumeric : Setting → Prop
  | tolerance | maxQubits | timeoutSeconds | maxWorkers => True
  | _ => False

/-- How the check of a setting ends: the value passes, or it is refused, or the check comes to grief
with it. -/
inductive Ends (setting : Setting) (value : Datum) : Except Fault Unit → Prop where
  | passed (passes : setting.LetsPass value) : Ends setting value (.ok ())
  | refused {fault : Fault} (refuses : setting.Refuses value)
      (kind : fault.kind = .configuration) : Ends setting value (.error fault)
  | broken {fault : Fault} (notPassed : ¬setting.LetsPass value)
      (cannotRefuse : ¬setting.CanRefuse value)
      (kind : fault.kind = .value ∨ fault.kind = .type ∨ fault.kind = .member) :
      Ends setting value (.error fault)

section

variable {setting : Setting} {value : Datum}

theorem canRefuse_iff (numeric : setting.IsNumeric) :
    setting.CanRefuse value ↔ value.IsShowableNumber := by
  cases setting with
  | logLevel => cases numeric
  | _ => exact Iff.rfl

theorem isNumber_of_letsPass (numeric : setting.IsNumeric) (passes : setting.LetsPass value) :
    value.IsNumber (fun _ => True) fun _ => True := by
  rcases passes with allows | overlooks
  · cases setting with
    | tolerance | maxQubits | timeoutSeconds | maxWorkers =>
      rw [Allows] at allows
      exact allows.mono (fun _ _ => trivial) fun _ _ => trivial
    | _ => cases numeric
  · cases setting with
    | maxQubits | timeoutSeconds | maxWorkers =>
      rw [Overlooks] at overlooks
      exact Datum.IsNumber.mono overlooks (fun _ _ => trivial) fun _ _ => trivial
    | _ => cases overlooks

end

end Setting

/-! ## What a check does -/

namespace Configuration

open Setting

section

variable {configuration : Configuration} {setting : Setting}

/-- The fault of a number out of range can be shown or is one of its value. -/
theorem kind_outOfRange (configuration : Configuration) (setting : Setting) (rule : String) :
    (configuration.outOfRange setting rule).kind =
      if (configuration.value setting).isShowable then .configuration else .value := by
  rw [outOfRange]
  split <;> rfl

/-- A number that does not pass is refused if it can be shown. -/
theorem ends_of_number (numeric : setting.IsNumeric) (rule : String)
    (isNumber : (configuration.value setting).IsNumber (fun _ => True) fun _ => True)
    (notPassed : ¬setting.LetsPass (configuration.value setting)) :
    setting.Ends (configuration.value setting) (.error (configuration.outOfRange setting rule)) := by
  have kind := kind_outOfRange configuration setting rule
  by_cases showable : (configuration.value setting).isShowable = true
  · rw [if_pos showable] at kind
    exact .refused ⟨notPassed, (canRefuse_iff numeric).2
      (Datum.isShowableNumber_iff.2 ⟨isNumber, showable⟩)⟩ kind
  · rw [if_neg showable] at kind
    refine .broken notPassed (fun canRefuse => showable ?_) (.inl kind)
    exact (Datum.isShowableNumber_iff.1 ((canRefuse_iff numeric).1 canRefuse)).2

/-- Where there is no number, the check comes to grief. -/
theorem ends_of_no_number (numeric : setting.IsNumeric) {fault : Fault}
    (kind : fault.kind = .type)
    (noNumber : ¬(configuration.value setting).IsNumber (fun _ => True) fun _ => True) :
    setting.Ends (configuration.value setting) (.error fault) := by
  refine .broken (fun passes => noNumber (isNumber_of_letsPass numeric passes))
    (fun canRefuse => noNumber ?_) (.inr (.inl kind))
  exact (Datum.isShowableNumber_iff.1 ((canRefuse_iff numeric).1 canRefuse)).1

/-- A check that asks for the opposite lets pass what does not have the property. -/
theorem ends_of_opposite (numeric : setting.IsNumeric) (rule : String) {integers : Int → Prop}
    {reals : Float → Prop} {rejected : Except Fault Bool}
    (compares : (configuration.value setting).Compares integers reals rejected)
    (letsPass : setting.LetsPass (configuration.value setting) ↔
      (configuration.value setting).IsNumber (fun number => ¬integers number)
        fun number => ¬reals number) :
    setting.Ends (configuration.value setting) (do
      let rejected ← rejected
      if rejected then .error (configuration.outOfRange setting rule) else .ok ()) := by
  cases compares with
  | holds isNumber =>
    refine ends_of_number numeric rule
      (isNumber.mono (fun _ _ => trivial) fun _ _ => trivial) fun passes => ?_
    exact Datum.not_isNumber_false ((Datum.isNumber_and.2 ⟨isNumber, letsPass.1 passes⟩).mono
      (fun _ both => both.2 both.1) fun _ both => both.2 both.1)
  | fails isNumber => exact .passed (letsPass.2 isNumber)
  | broken noNumber kind => exact ends_of_no_number numeric kind noNumber

/-- A number that cannot be in range is refused as a tolerance. -/
theorem ends_tolerance_of_number {integers : Int → Prop} {reals : Float → Prop}
    (isNumber : (configuration.value .tolerance).IsNumber integers reals)
    (noInteger : ∀ number, integers number → ¬(0 < number ∧ number < 1))
    (noReal : ∀ number, reals number → ¬(0 < number ∧ number < 1)) :
    Setting.tolerance.Ends (configuration.value .tolerance)
      (.error (configuration.outOfRange .tolerance "in (0, 1)")) := by
  have numeric : Setting.tolerance.IsNumeric := trivial
  refine ends_of_number numeric _ (isNumber.mono (fun _ _ => trivial) fun _ _ => trivial) ?_
  rintro (allows | ⟨⟨⟩⟩)
  rw [Allows] at allows
  exact Datum.not_isNumber_false ((Datum.isNumber_and.2 ⟨isNumber, allows⟩).mono
    (fun number both => noInteger number both.1 both.2)
    fun number both => noReal number both.1 both.2)

end

section

variable (configuration : Configuration)

/-- The tolerance is asked to be in range. -/
theorem ends_checkTolerance :
    Setting.tolerance.Ends (configuration.value .tolerance) configuration.checkTolerance := by
  have numeric : Setting.tolerance.IsNumeric := trivial
  have below := (configuration.value .tolerance).compares_isBelow 1
  have above := (configuration.value .tolerance).compares_isAbove 0
  rw [checkTolerance.eq_def]
  dsimp only
  generalize (configuration.value .tolerance).isBelow 1 = isBelow at below ⊢
  generalize (configuration.value .tolerance).isAbove 0 = isAbove at above ⊢
  cases above with
  | holds isAbove =>
    cases below with
    | holds isBelow => exact .passed (.inl (Datum.isNumber_and.2 ⟨isAbove, isBelow⟩))
    | fails notBelow =>
      exact ends_tolerance_of_number notBelow (fun _ not both => not both.2)
        fun _ not both => not both.2
    | broken noNumber kind => exact ends_of_no_number numeric kind noNumber
  | fails notAbove =>
    exact ends_tolerance_of_number notAbove (fun _ not both => not both.1)
      fun _ not both => not both.1
  | broken noNumber kind => exact ends_of_no_number numeric kind noNumber

theorem letsPass_count_iff {setting : Setting}
    (isCount : setting = .maxQubits ∨ setting = .maxWorkers) (value : Datum) : setting.LetsPass value ↔
      value.IsNumber (fun number => ¬number < 1) fun number => ¬number < Float.ofInt 1 := by
  have one : (Float.ofInt 1).isNaN = false := by decide
  have both : setting.LetsPass value ↔ value.IsNumber (1 ≤ ·) (1 ≤ ·) ∨ value.IsUndefined := by
    rcases isCount with rfl | rfl <;> rfl
  rw [both, Datum.IsUndefined, ← Datum.isNumber_or]
  refine Datum.isNumber_congr (fun number => ?_) fun number => ?_
  · rw [Int.not_lt, or_false]
  · rw [RealNumber.not_lt_iff one]
    rfl

theorem letsPass_timeout_iff (value : Datum) : timeoutSeconds.LetsPass value ↔
    value.IsNumber (fun number => ¬number ≤ 0) fun number => ¬number ≤ Float.ofInt 0 := by
  have zero : (Float.ofInt 0).isNaN = false := by decide
  have both : timeoutSeconds.LetsPass value ↔
      value.IsNumber (0 < ·) (0 < ·) ∨ value.IsUndefined := Iff.rfl
  rw [both, Datum.IsUndefined, ← Datum.isNumber_or]
  refine Datum.isNumber_congr (fun number => ?_) fun number => ?_
  · rw [Int.not_le, or_false]
  · rw [RealNumber.not_le_iff zero]
    rfl

/-- A count is asked not to be below one. -/
theorem ends_checkCount {setting : Setting} (isCount : setting = .maxQubits ∨ setting = .maxWorkers) :
    setting.Ends (configuration.value setting) (configuration.checkCount setting) := by
  have numeric : setting.IsNumeric := by
    rcases isCount with rfl | rfl <;> trivial
  exact ends_of_opposite numeric "positive" (Datum.compares_isBelow _ 1)
    (letsPass_count_iff isCount _)

/-- The time allowed is asked not to be zero or below. -/
theorem ends_checkTimeout :
    timeoutSeconds.Ends (configuration.value .timeoutSeconds) configuration.checkTimeout := by
  have numeric : timeoutSeconds.IsNumeric := trivial
  exact ends_of_opposite numeric "positive" (Datum.compares_isAtMost _ 0) (letsPass_timeout_iff _)

/-- The log level is asked to be a known one, which only texts can be. -/
theorem ends_checkLogLevel :
    logLevel.Ends (configuration.value .logLevel) configuration.checkLogLevel := by
  rw [checkLogLevel]
  generalize configuration.value .logLevel = value
  have isKnown : ∀ level, logLevel.LetsPass (.text level) → Text.upper level ∈ logLevels := by
    rintro level (⟨_, ⟨⟩, known⟩ | ⟨⟨⟩⟩)
    exact known
  have noText : (∀ level, value ≠ .text level) → ¬logLevel.LetsPass value := by
    rintro other (⟨level, isText, -⟩ | ⟨⟨⟩⟩)
    exact other level isText
  cases value with
  | text level =>
    dsimp only
    split
    · rename_i known
      exact .passed (.inl ⟨level, rfl, List.contains_iff_mem.1 known⟩)
    · rename_i unknown
      exact .refused ⟨fun passes => unknown (List.contains_iff_mem.2 (isKnown level passes)),
        .inl ⟨level, rfl⟩⟩ rfl
  | bytes level => exact .refused ⟨noText nofun, .inr ⟨level, rfl⟩⟩ rfl
  | _ => exact .broken (noText nofun) nofun (.inr (.inr rfl))

/-- The check of a setting; the settings that are not checked pass. -/
def checkOf : Setting → Except Fault Unit
  | .tolerance => configuration.checkTolerance
  | .maxQubits => configuration.checkCount .maxQubits
  | .timeoutSeconds => configuration.checkTimeout
  | .maxWorkers => configuration.checkCount .maxWorkers
  | .logLevel => configuration.checkLogLevel
  | _ => .ok ()

theorem ends_checkOf (setting : Setting) :
    setting.Ends (configuration.value setting) (configuration.checkOf setting) := by
  cases setting with
  | tolerance => exact configuration.ends_checkTolerance
  | maxQubits => exact configuration.ends_checkCount (.inl rfl)
  | timeoutSeconds => exact configuration.ends_checkTimeout
  | maxWorkers => exact configuration.ends_checkCount (.inr rfl)
  | logLevel => exact configuration.ends_checkLogLevel
  | _ => exact .passed (.inl trivial)

/-- The checks are made one after the other. -/
theorem check_eq :
    configuration.check = (checked.forM configuration.checkOf).map fun _ => configuration := by
  change (do
    configuration.checkTolerance
    configuration.checkCount .maxQubits
    configuration.checkTimeout
    configuration.checkCount .maxWorkers
    configuration.checkLogLevel
    return configuration) = Except.map _ (do
    configuration.checkTolerance
    configuration.checkCount .maxQubits
    configuration.checkTimeout
    configuration.checkCount .maxWorkers
    configuration.checkLogLevel
    return ())
  cases configuration.checkTolerance <;> try rfl
  cases configuration.checkCount .maxQubits <;> try rfl
  cases configuration.checkTimeout <;> try rfl
  cases configuration.checkCount .maxWorkers <;> try rfl
  cases configuration.checkLogLevel <;> rfl

end

/-! ## One check after the other -/

section

variable {α : Type} {next : α → Except Fault Unit}

theorem forM_cons (next : α → Except Fault Unit) (first : α) (rest : List α) :
    (first :: rest).forM next = (next first).bind fun _ => rest.forM next := rfl

/-- The first fault is the fault of all. -/
theorem forM_of_first {before after : List α} {item : α} {fault : Fault}
    (passed : ∀ earlier ∈ before, next earlier = .ok ()) (failed : next item = .error fault) :
    (before ++ item :: after).forM next = .error fault := by
  induction before with
  | nil =>
    rw [List.nil_append, forM_cons, failed]
    rfl
  | cons first rest ih =>
    rcases List.forall_mem_cons.1 passed with ⟨firstPassed, passed⟩
    rw [List.cons_append, forM_cons, firstPassed]
    exact ih passed

/-- Either nothing fails, or there is a first item that does. -/
theorem forM_cases (next : α → Except Fault Unit) (items : List α) :
    (items.forM next = .ok () ∧ ∀ item ∈ items, next item = .ok ()) ∨
      ∃ before item after fault, items = before ++ item :: after ∧
        (∀ earlier ∈ before, next earlier = .ok ()) ∧ next item = .error fault := by
  induction items with
  | nil => exact .inl ⟨rfl, List.forall_mem_nil _⟩
  | cons first rest ih =>
    rcases outcome : next first with fault | _
    · exact .inr ⟨[], first, rest, fault, rfl, List.forall_mem_nil _, outcome⟩
    · rcases ih with ⟨passed, each⟩ | ⟨before, item, after, fault, rfl, passed, failed⟩
      · refine .inl ⟨?_, List.forall_mem_cons.2 ⟨outcome, each⟩⟩
        rw [forM_cons, outcome]
        exact passed
      · exact .inr ⟨first :: before, item, after, fault, rfl,
          List.forall_mem_cons.2 ⟨outcome, passed⟩, failed⟩

end

/-! ## Acceptance as a whole -/

/-- All settings have values that they should have. -/
def IsInRange (configuration : Configuration) : Prop :=
  ∀ setting : Setting, setting.Allows (configuration.value setting)

/-- An outcome as it should be: a configuration in range, or a refusal as a configuration. -/
def IsAirtight : Except Fault Configuration → Prop
  | .ok configuration => configuration.IsInRange
  | .error fault => fault.kind = .configuration

/-- The first setting that its check does not let pass is refused by it as it should be. -/
def IsRefused (configuration : Configuration) : Prop :=
  ∃ before setting after, checked = before ++ setting :: after ∧
    (∀ earlier ∈ before, earlier.LetsPass (configuration.value earlier)) ∧
    setting.Refuses (configuration.value setting)

section

variable {configuration : Configuration} {setting : Setting}

theorem checkOf_eq_ok_iff :
    configuration.checkOf setting = .ok () ↔ setting.LetsPass (configuration.value setting) := by
  have ends := configuration.ends_checkOf setting
  generalize configuration.checkOf setting = outcome at ends ⊢
  cases ends with
  | passed passes => exact iff_of_true rfl passes
  | refused refuses kind => exact iff_of_false nofun refuses.1
  | broken notPassed cannotRefuse kind => exact iff_of_false nofun notPassed

theorem kind_of_checkOf {fault : Fault} (failed : configuration.checkOf setting = .error fault) :
    fault.kind = .configuration ↔ setting.Refuses (configuration.value setting) := by
  have ends := configuration.ends_checkOf setting
  rw [failed] at ends
  cases ends with
  | refused refuses kind => exact iff_of_true kind refuses
  | broken notPassed cannotRefuse kind =>
    refine iff_of_false (fun isConfiguration => ?_) fun refuses => cannotRefuse refuses.2
    rw [isConfiguration] at kind
    rcases kind with ⟨⟨⟩⟩ | ⟨⟨⟩⟩ | ⟨⟨⟩⟩

/-- A configuration is accepted or refused as it should be exactly if it is in range, or the first
check that does not let its setting pass can say so. -/
theorem isAirtight_check_iff (configuration : Configuration) :
    IsAirtight configuration.check ↔ configuration.IsInRange ∨ configuration.IsRefused := by
  rw [check_eq]
  constructor
  · rcases forM_cases configuration.checkOf checked with
      ⟨passed, -⟩ | ⟨before, setting, after, fault, isFirst, passed, failed⟩
    · rw [passed]
      exact .inl
    · rw [isFirst, forM_of_first passed failed]
      intro kind
      exact .inr ⟨before, setting, after, isFirst,
        fun earlier member => checkOf_eq_ok_iff.1 (passed earlier member),
        (kind_of_checkOf failed).1 kind⟩
  · rintro (inRange | ⟨before, setting, after, isFirst, passed, refuses⟩)
    · rcases forM_cases configuration.checkOf checked with
        ⟨passed, -⟩ | ⟨before, setting, after, fault, -, -, failed⟩
      · rw [passed]
        exact inRange
      · rw [checkOf_eq_ok_iff.2 (.inl (inRange setting))] at failed
        cases failed
    · rcases outcome : configuration.checkOf setting with fault | _
      · rw [isFirst, forM_of_first (fun earlier member =>
          checkOf_eq_ok_iff.2 (passed earlier member)) outcome]
        exact (kind_of_checkOf outcome).2 refuses
      · exact absurd (checkOf_eq_ok_iff.1 outcome) refuses.1

/-- Where every check can tell, acceptance is as it should be: each checked setting has a value that
it should have, or one that can be refused and is not undefined. -/
theorem isAirtight_check_of_tellable
    (tellable : ∀ setting ∈ checked, setting.Allows (configuration.value setting) ∨
      (¬setting.Overlooks (configuration.value setting) ∧
        setting.CanRefuse (configuration.value setting))) :
    IsAirtight configuration.check := by
  rw [isAirtight_check_iff]
  rcases forM_cases configuration.checkOf checked with
    ⟨-, passed⟩ | ⟨before, setting, after, fault, isFirst, passed, failed⟩
  · have allows : ∀ setting ∈ checked, setting.Allows (configuration.value setting) := by
      intro setting member
      rcases tellable setting member with allows | ⟨notOverlooked, -⟩
      · exact allows
      · exact (checkOf_eq_ok_iff.1 (passed setting member)).resolve_right notOverlooked
    refine .inl fun setting => ?_
    cases setting with
    | tolerance | maxQubits | timeoutSeconds | maxWorkers | logLevel =>
      exact allows _ (by decide)
    | _ => trivial
  · have notPassed : ¬setting.LetsPass (configuration.value setting) := by
      intro passes
      rw [checkOf_eq_ok_iff.2 passes] at failed
      cases failed
    have member : setting ∈ checked := isFirst ▸ List.mem_append_right before List.mem_cons_self
    refine .inr ⟨before, setting, after, isFirst,
      fun earlier isEarlier => checkOf_eq_ok_iff.1 (passed earlier isEarlier), notPassed, ?_⟩
    rcases tellable setting member with allows | ⟨-, canRefuse⟩
    · exact absurd (.inl allows) notPassed
    · exact canRefuse

end

/-! ## Keys -/

/-- Names that are keys of settings. -/
def IsKnown (name : String) : Prop := ∃ setting : Setting, setting.key = name

theorem ofKey?_eq_none_iff {name : String} :
    Setting.ofKey? (.text name) = none ↔ ¬IsKnown name := by
  rw [ofKey?, List.find?_eq_none]
  constructor
  · rintro different ⟨setting, isKey⟩
    have member : setting ∈ Setting.all := by cases setting <;> decide
    exact different setting member (beq_iff_eq.2 isKey)
  · intro unknown setting _ isKey
    exact unknown ⟨setting, beq_iff_eq.1 isKey⟩

theorem exists_insertSorted (name : String) (names : List String) :
    ∃ inserted : List String, Datum.insertSorted (.text name) (names.map .text) =
      .ok (inserted.map .text) := by
  induction names with
  | nil => exact ⟨[name], rfl⟩
  | cons first rest ih =>
    rcases ih with ⟨inserted, isInserted⟩
    rw [List.map_cons, Datum.insertSorted, isInserted, Datum.isBefore]
    by_cases isFirst : name < first
    · exact ⟨name :: first :: rest, by simp [bind, Except.bind, pure, Except.pure, isFirst]⟩
    · exact ⟨first :: inserted, by simp [bind, Except.bind, pure, Except.pure, isFirst]⟩

/-- Texts can be put in order. -/
theorem exists_sorted (names : List String) :
    ∃ inOrder : List String, Datum.sorted (names.map .text) = .ok (inOrder.map .text) := by
  induction names with
  | nil => exact ⟨[], rfl⟩
  | cons first rest ih =>
    rcases ih with ⟨inOrder, isInOrder⟩
    rcases exists_insertSorted first inOrder with ⟨inserted, isInserted⟩
    refine ⟨inserted, ?_⟩
    rw [List.map_cons, Datum.sorted, isInOrder]
    exact isInserted

/-- Unknown names are refused as a configuration, and nothing else is. -/
theorem checkKeys_cases (names : List String) :
    (checkKeys (names.map .text) = .ok () ∧ ∀ name ∈ names, IsKnown name) ∨
      (∃ name ∈ names, ¬IsKnown name) ∧ ∃ fault, checkKeys (names.map .text) = .error fault ∧
        fault.kind = .configuration := by
  have unknown : (names.map Datum.text).filter (fun key => (Setting.ofKey? key).isNone) =
      (names.filter fun name => (Setting.ofKey? (.text name)).isNone).map .text :=
    List.filter_map
  have member : ∀ name, name ∈ names.filter (fun name => (Setting.ofKey? (.text name)).isNone) ↔
      name ∈ names ∧ ¬IsKnown name := by
    intro name
    rw [List.mem_filter, Option.isNone_iff_eq_none, ofKey?_eq_none_iff]
  rw [checkKeys, unknown]
  cases found : names.filter fun name => (Setting.ofKey? (.text name)).isNone with
  | nil =>
    refine .inl ⟨rfl, fun name isName => ?_⟩
    refine Classical.byContradiction fun isUnknown => ?_
    have listed := (member name).2 ⟨isName, isUnknown⟩
    rw [found] at listed
    cases listed
  | cons first rest =>
    rcases exists_sorted (first :: rest) with ⟨inOrder, isInOrder⟩
    have listed := (member first).1 (found ▸ List.mem_cons_self)
    refine .inr ⟨⟨first, listed⟩, .unknownKeys (inOrder.map .text), ?_, rfl⟩
    rw [List.map_cons] at isInOrder ⊢
    dsimp only
    rw [isInOrder]
    rfl

/-- Among texts, those that are kept once are all of them. -/
theorem exists_distinct (names : List String) :
    ∃ kept : List String, Datum.distinct (names.map .text) = kept.map .text ∧
      ∀ name, name ∈ kept ↔ name ∈ names := by
  have general : ∀ found : List String, ∃ kept : List String,
      (names.map Datum.text).foldl (fun found datum =>
        if found.any fun other => other.isSame datum then found else found ++ [datum])
        (found.map .text) = kept.map .text ∧ ∀ name, name ∈ kept ↔ name ∈ found ∨ name ∈ names := by
    induction names with
    | nil => exact fun found => ⟨found, rfl, fun name => by simp⟩
    | cons first rest ih =>
      intro found
      have isThere : ((found.map Datum.text).any fun other => other.isSame (.text first)) = true ↔
          first ∈ found := by
        simp [Datum.isSame]
      rw [List.map_cons, List.foldl_cons]
      split
      · rename_i same
        rcases ih found with ⟨kept, isKept, member⟩
        refine ⟨kept, isKept, fun name => ?_⟩
        have there := isThere.1 same
        rw [member, List.mem_cons]
        constructor
        · rintro (old | later)
          · exact .inl old
          · exact .inr (.inr later)
        · rintro (old | rfl | later)
          · exact .inl old
          · exact .inl there
          · exact .inr later
      · rcases ih (found ++ [first]) with ⟨kept, isKept, member⟩
        refine ⟨kept, by simpa using isKept, fun name => ?_⟩
        rw [member, List.mem_append, List.mem_singleton, List.mem_cons, or_assoc]
  rcases general [] with ⟨kept, isKept, member⟩
  exact ⟨kept, isKept, fun name => (member name).trans (by simp)⟩

/-! ## Sections and changes -/

/-- Put named values in place; unknown names are passed over. -/
def changed (configuration : Configuration) (entries : List (String × Datum)) : Configuration :=
  configuration.withEntries (entries.map fun (name, value) => (.text name, value))

/-- What is not nothing among the changes. -/
def given (overrides : List (String × Datum)) : List (String × Datum) :=
  overrides.filter fun entry => !entry.2.isNull

theorem isAirtight_of_keys (names : List String) (configuration : Configuration) :
    IsAirtight ((checkKeys (names.map .text)).bind fun _ => configuration.check) ↔
      (∃ name ∈ names, ¬IsKnown name) ∨ configuration.IsInRange ∨ configuration.IsRefused := by
  rcases checkKeys_cases names with ⟨passed, known⟩ | ⟨unknown, fault, failed, kind⟩
  · rw [passed, ← isAirtight_check_iff]
    refine ⟨.inr, ?_⟩
    rintro (⟨name, isName, isUnknown⟩ | airtight)
    · exact absurd (known name isName) isUnknown
    · exact airtight
  · rw [failed]
    exact iff_of_true kind (.inl unknown)

theorem ofSection_record (entries : List (String × Datum)) :
    ofSection (.record entries) =
      (checkKeys (Datum.distinct ((entries.map Prod.fst).map .text))).bind fun _ =>
        (standard.changed entries).check := by
  let content := entries.map fun (name, value) => (Datum.text name, value)
  have parts : (Datum.mapping content).parts? = some ((entries.map Prod.fst).map .text) := by
    simp [content, Datum.parts?]
  have keys : ((entries.map Prod.fst).map Datum.text).forM Datum.checkKey = .ok () := by
    rcases forM_cases Datum.checkKey ((entries.map Prod.fst).map Datum.text) with
      ⟨passed, -⟩ | ⟨before, key, after, fault, isFirst, -, failed⟩
    · exact passed
    · have member : key ∈ (entries.map Prod.fst).map Datum.text := by
        rw [isFirst]
        exact List.mem_append_right _ List.mem_cons_self
      rcases List.mem_map.1 member with ⟨name, -, rfl⟩
      cases failed
  change ofSection (.mapping content) = _
  rw [ofSection, parts]
  dsimp only
  rw [keys]
  rfl

theorem withOverrides_eq (configuration : Configuration) {overrides : List (String × Datum)}
    (noOwn : ∀ entry ∈ overrides, entry.1 ≠ ownKey) :
    configuration.withOverrides overrides =
      (checkKeys (((given overrides).map Prod.fst).map .text)).bind fun _ =>
        (configuration.changed (given overrides)).check := by
  have none : (overrides.any fun entry => entry.1 == ownKey) = false := by
    simpa using noOwn
  have names : ((given overrides).map fun (name, value) => (Datum.text name, value)).map Prod.fst =
      ((given overrides).map Prod.fst).map .text := by
    simp
  rw [withOverrides, none, ← names]
  rfl

theorem withOverrides_own (configuration : Configuration) {overrides : List (String × Datum)}
    {entry : String × Datum} (member : entry ∈ overrides) (isOwn : entry.1 = ownKey) :
    ∃ fault, configuration.withOverrides overrides = .error fault ∧ fault.kind = .type := by
  have some : (overrides.any fun entry => entry.1 == ownKey) = true :=
    List.any_eq_true.2 ⟨entry, member, beq_iff_eq.2 isOwn⟩
  rw [withOverrides, some]
  exact ⟨_, rfl, rfl⟩

/-- How far the acceptance of configurations is airtight.  A section is accepted with all settings in
range or refused as a configuration exactly if it has an unknown name, or all settings are in range,
or the first setting that is not let pass can be refused.  The same is so for changes of any
configuration, unless the configuration itself is among their names. -/
theorem isAirtight_iff (configuration : Configuration) (entries : List (String × Datum)) :
    (IsAirtight (ofSection (.record entries)) ↔
      (∃ name ∈ entries.map Prod.fst, ¬IsKnown name) ∨
        (standard.changed entries).IsInRange ∨ (standard.changed entries).IsRefused) ∧
    (IsAirtight (configuration.withOverrides entries) ↔
      (∀ entry ∈ entries, entry.1 ≠ ownKey) ∧
        ((∃ name ∈ (given entries).map Prod.fst, ¬IsKnown name) ∨
          (configuration.changed (given entries)).IsInRange ∨
          (configuration.changed (given entries)).IsRefused)) := by
  constructor
  · rcases exists_distinct (entries.map Prod.fst) with ⟨kept, isKept, member⟩
    rw [ofSection_record, isKept, isAirtight_of_keys]
    simp only [member]
  · by_cases noOwn : ∀ entry ∈ entries, entry.1 ≠ ownKey
    · rw [withOverrides_eq configuration noOwn, isAirtight_of_keys]
      exact (and_iff_right noOwn).symm
    · refine iff_of_false (fun airtight => ?_) fun both => noOwn both.1
      simp only [Classical.not_forall, Classical.not_not] at noOwn
      rcases noOwn with ⟨entry, member, isOwn⟩
      rcases configuration.withOverrides_own member isOwn with ⟨fault, failed, kind⟩
      rw [failed] at airtight
      exact nomatch airtight.symm.trans kind

/-- An undefined time is accepted, and a number of qubits that is no number is refused for its
type. -/
theorem undefined_time_accepted :
    (∃ accepted, ofSection (.record [("timeout_seconds", .real (0.0 / 0.0))]) = .ok accepted ∧
      ¬accepted.IsInRange) ∧
    ∃ fault, ofSection (.record [("max_qubits", .text "many")]) = .error fault ∧
      fault.kind = .type := by
  have outside : ¬(0 : Float) < 0.0 / 0.0 := by decide
  refine ⟨⟨standard.changed [("timeout_seconds", .real (0.0 / 0.0))], ?_, fun inRange => ?_⟩, ?_⟩
  · rfl
  · exact outside (inRange .timeoutSeconds)
  · exact ⟨_, rfl, rfl⟩

end Configuration

end QuantumKata
