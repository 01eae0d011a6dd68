import Mathlib.Analysis.InnerProductSpace.PiL2
import QuantumKata.Proofs.BasisInputs
import QuantumKata.Proofs.Exact

/-!
# Equality up to a phase

A ray is a vector up to a factor of magnitude one.  Exact amplitudes are the coordinates of a vector
of a Euclidean space; the inner product of two lists of amplitudes is the inner product of their
vectors, and the product of the norms under one root is the product of the norms.  So two states are
equal up to a phase when the inequality of Cauchy and Schwarz misses equality by no more than the
tolerance.  Both sides of it depend on the rays alone.

Where nothing is tolerated this is the case of equality, in which one vector is a multiple of the
other; of vectors of the same norm the multiple has magnitude one.  For vectors of norm one the
missing part is what the root of the fidelity lacks to one.

States of different sizes cannot be compared.  Two runs on registers of one size show states of one
size, so a diagnosis never finds this out.
-/

noncomputable section

namespace QuantumKata

open Matrix

/-- The amplitudes multiplied by a factor. -/
def turned (factor : Amplitude ℝ) (amplitudes : Array (Amplitude ℝ)) : Array (Amplitude ℝ) :=
  amplitudes.map (factor * ·)

/-- The sum of the probabilities of all basis states: the square of the norm. -/
def totalProbability (amplitudes : Array (Amplitude ℝ)) : ℝ :=
  Scalar.sum (amplitudes.toList.map Amplitude.probability)

/-- The amplitudes as the vector of a Euclidean space. -/
def vectorOf (size : ℕ) (amplitudes : Array (Amplitude ℝ)) : EuclideanSpace ℂ (Fin size) :=
  WithLp.toLp _ fun index : Fin size => (amplitudes.getD index 0).toComplex

theorem size_turned (factor : Amplitude ℝ) (amplitudes : Array (Amplitude ℝ)) :
    (turned factor amplitudes).size = amplitudes.size :=
  Array.size_map

section

variable {size : ℕ} {left right amplitudes : Array (Amplitude ℝ)}

theorem vectorOf_turned (sameSize : amplitudes.size = size) (factor : Amplitude ℝ) :
    vectorOf size (turned factor amplitudes) = factor.toComplex • vectorOf size amplitudes := by
  ext index
  have inside : (index : ℕ) < amplitudes.size := sameSize ▸ index.isLt
  simp [vectorOf, turned, inside]

theorem vectorOf_injective (leftSize : left.size = size) (rightSize : right.size = size)
    (same : vectorOf size left = vectorOf size right) : left = right := by
  refine Array.ext (leftSize.trans rightSize.symm) fun index insideLeft insideRight => ?_
  have entry := congrFun (congrArg WithLp.ofLp same) ⟨index, leftSize ▸ insideLeft⟩
  simpa [vectorOf, insideLeft, insideRight, Amplitude.toComplex_injective.eq_iff] using entry

/-- The inner product of amplitudes is that of their vectors. -/
theorem toComplex_innerProduct (leftSize : left.size = size) (rightSize : right.size = size) :
    (innerProduct left right).toComplex =
      (vectorOf size right).ofLp ⬝ᵥ star (vectorOf size left).ofLp := by
  have terms : (List.zipWith (fun first second => first.conj * second) left.toList
      right.toList).map Amplitude.toComplex = List.ofFn fun index : Fin size =>
        vectorOf size right index * star (vectorOf size left index) := by
    refine List.ext_getElem (by simp [leftSize, rightSize]) fun index inside _ => ?_
    have within : index < left.size ∧ index < right.size := by simpa using inside
    simpa [vectorOf, within] using mul_comm _ _
  rw [innerProduct, Amplitude.toComplex_sum, terms, List.sum_ofFn]
  rfl

theorem magnitude_innerProduct (leftSize : left.size = size) (rightSize : right.size = size) :
    (innerProduct left right).magnitude =
      ‖(vectorOf size right).ofLp ⬝ᵥ star (vectorOf size left).ofLp‖ := by
  rw [Amplitude.magnitude_eq, toComplex_innerProduct leftSize rightSize]

theorem re_innerProduct_self (sameSize : amplitudes.size = size) :
    (innerProduct amplitudes amplitudes).re = ‖vectorOf size amplitudes‖ ^ 2 := by
  rw [← Amplitude.toComplex_re, toComplex_innerProduct sameSize sameSize,
    ← EuclideanSpace.inner_eq_star_dotProduct, inner_self_eq_norm_sq_to_K]
  norm_cast

theorem totalProbability_eq (sameSize : amplitudes.size = size) :
    totalProbability amplitudes = ‖vectorOf size amplitudes‖ ^ 2 := by
  have terms : amplitudes.toList.map Amplitude.probability = List.ofFn fun index : Fin size =>
      ‖vectorOf size amplitudes index‖ ^ 2 := by
    refine List.ext_getElem (by simp [sameSize]) fun index inside _ => ?_
    have within : index < amplitudes.size := by simpa using inside
    simp [vectorOf, within, Amplitude.probability_eq, Complex.normSq_eq_norm_sq]
  rw [totalProbability, Scalar.sum_eq, terms, List.sum_ofFn, EuclideanSpace.norm_sq_eq]

/-- Two states are equal up to a phase when the inequality of Cauchy and Schwarz is nearly an
equality. -/
theorem equalUpToPhase_iff_norm (leftSize : left.size = size) (rightSize : right.size = size)
    (tolerance : ℝ) : equalUpToPhase left right tolerance = true ↔
      ‖vectorOf size left‖ * ‖vectorOf size right‖ -
        ‖(vectorOf size right).ofLp ⬝ᵥ star (vectorOf size left).ofLp‖ ≤ tolerance := by
  have norms : Scalar.sqrt ((innerProduct left left).re * (innerProduct right right).re) =
      ‖vectorOf size left‖ * ‖vectorOf size right‖ := by
    rw [re_innerProduct_self leftSize, re_innerProduct_self rightSize, ← mul_pow]
    exact Real.sqrt_sq (by positivity)
  rw [equalUpToPhase, Scalar.atMost_iff, norms, magnitude_innerProduct leftSize rightSize]

theorem fidelity_eq (leftSize : left.size = size) (rightSize : right.size = size) :
    fidelity left right =
      ‖(vectorOf size right).ofLp ⬝ᵥ star (vectorOf size left).ofLp‖ ^ 2 := by
  rw [fidelity, magnitude_innerProduct leftSize rightSize, sq]

/-! ## Rays -/

theorem equalUpToPhase_symm (leftSize : left.size = size) (rightSize : right.size = size)
    (tolerance : ℝ) : equalUpToPhase right left tolerance = equalUpToPhase left right tolerance := by
  rw [Bool.eq_iff_iff, equalUpToPhase_iff_norm rightSize leftSize,
    equalUpToPhase_iff_norm leftSize rightSize, ← EuclideanSpace.inner_eq_star_dotProduct,
    ← EuclideanSpace.inner_eq_star_dotProduct, norm_inner_symm, mul_comm]

/-- A factor of magnitude one makes no difference. -/
theorem equalUpToPhase_turned (leftSize : left.size = size) (rightSize : right.size = size)
    {factor : Amplitude ℝ} (unit : factor.magnitude = 1) (tolerance : ℝ) :
    equalUpToPhase left (turned factor right) tolerance = equalUpToPhase left right tolerance := by
  have norm : ‖factor.toComplex‖ = 1 := unit
  rw [Bool.eq_iff_iff, equalUpToPhase_iff_norm leftSize ((size_turned factor right).trans rightSize),
    equalUpToPhase_iff_norm leftSize rightSize, vectorOf_turned rightSize, norm_smul,
    WithLp.ofLp_smul, smul_dotProduct, norm_smul, norm, one_mul, one_mul]

/-- Vectors of the same norm for which Cauchy and Schwarz have an equality differ by a factor of
magnitude one. -/
theorem norm_mul_norm_le_iff {first second : EuclideanSpace ℂ (Fin size)}
    (sameNorm : ‖first‖ = ‖second‖) (nonzero : first ≠ 0) :
    ‖first‖ * ‖second‖ ≤ ‖second.ofLp ⬝ᵥ star first.ofLp‖ ↔ ∃ factor : ℂ, ‖factor‖ = 1 ∧
      second = factor • first := by
  have positive : 0 < ‖first‖ := norm_pos_iff.2 nonzero
  rw [← EuclideanSpace.inner_eq_star_dotProduct, (norm_inner_le_norm first second).ge_iff_eq,
    norm_inner_eq_norm_iff nonzero (norm_pos_iff.1 (sameNorm ▸ positive))]
  refine exists_congr fun factor => ⟨?_, ?_⟩
  · rintro ⟨-, rfl⟩
    rw [norm_smul] at sameNorm
    exact ⟨(mul_eq_right₀ positive.ne').1 sameNorm.symm, rfl⟩
  · rintro ⟨norm, rfl⟩
    exact ⟨norm_ne_zero_iff.1 (norm.trans_ne one_ne_zero), rfl⟩

/-- Where nothing is tolerated, states of the same norm are equal up to a phase when one is the
other times a factor of magnitude one. -/
theorem equalUpToPhase_zero_iff (leftSize : left.size = size) (rightSize : right.size = size)
    (sameNorm : totalProbability left = totalProbability right)
    (nonzero : totalProbability left ≠ 0) :
    equalUpToPhase left right 0 = true ↔
      ∃ factor : Amplitude ℝ, factor.magnitude = 1 ∧ right = turned factor left := by
  rw [totalProbability_eq leftSize, totalProbability_eq rightSize] at sameNorm
  rw [totalProbability_eq leftSize] at nonzero
  rw [equalUpToPhase_iff_norm leftSize rightSize, sub_nonpos, norm_mul_norm_le_iff
    ((sq_eq_sq₀ (norm_nonneg _) (norm_nonneg _)).1 sameNorm)
    (norm_ne_zero_iff.1 (pow_ne_zero_iff two_ne_zero |>.1 nonzero))]
  constructor
  · rintro ⟨factor, norm, multiple⟩
    refine ⟨⟨factor.re, factor.im⟩, norm, vectorOf_injective rightSize
      ((size_turned _ left).trans leftSize) ?_⟩
    rw [multiple, vectorOf_turned leftSize]
    rfl
  · rintro ⟨factor, norm, rfl⟩
    exact ⟨factor.toComplex, norm, vectorOf_turned leftSize factor⟩

/-- States of norm one are equal up to a phase when their fidelity is near one. -/
theorem equalUpToPhase_iff_fidelity (leftSize : left.size = size) (rightSize : right.size = size)
    (leftUnit : totalProbability left = 1) (rightUnit : totalProbability right = 1)
    {tolerance : ℝ} (small : tolerance ≤ 1) :
    equalUpToPhase left right tolerance = true ↔ (1 - tolerance) ^ 2 ≤ fidelity left right := by
  have norm_eq_one : ∀ {amplitudes : Array (Amplitude ℝ)}, amplitudes.size = size →
      totalProbability amplitudes = 1 → ‖vectorOf size amplitudes‖ = 1 := by
    intro amplitudes sameSize total
    rw [totalProbability_eq sameSize] at total
    exact (pow_eq_one_iff_of_nonneg (norm_nonneg _) two_ne_zero).1 total
  rw [equalUpToPhase_iff_norm leftSize rightSize, fidelity_eq leftSize rightSize,
    norm_eq_one leftSize leftUnit, norm_eq_one rightSize rightUnit,
    sq_le_sq₀ (sub_nonneg.2 small) (norm_nonneg _), one_mul, sub_le_comm]

end

/-! ## Comparisons -/

/-- What a comparison of two states of one size is worth: it has an answer, which depends on their
rays alone and does not change when they change places; with no tolerance it tells the rays of
states of the same norm apart; and of states of norm one it bounds the fidelity. -/
structure ComparesRays (left right : Array (Amplitude ℝ)) (tolerance : ℝ) : Prop where
  answers : ∃ answer, matchUpToPhase left right tolerance = .ok answer
  symmetric : matchUpToPhase right left tolerance = matchUpToPhase left right tolerance
  turned_left : ∀ factor : Amplitude ℝ, factor.magnitude = 1 →
    matchUpToPhase (turned factor left) right tolerance = matchUpToPhase left right tolerance
  turned_right : ∀ factor : Amplitude ℝ, factor.magnitude = 1 →
    matchUpToPhase left (turned factor right) tolerance = matchUpToPhase left right tolerance
  same_ray_iff : tolerance = 0 → totalProbability left = totalProbability right →
    totalProbability left ≠ 0 → (matchUpToPhase left right tolerance = .ok true ↔
      ∃ factor : Amplitude ℝ, factor.magnitude = 1 ∧ right = turned factor left)
  fidelity_iff : totalProbability left = 1 → totalProbability right = 1 → tolerance ≤ 1 →
    (matchUpToPhase left right tolerance = .ok true ↔ (1 - tolerance) ^ 2 ≤ fidelity left right)

variable {left right : Array (Amplitude ℝ)}

theorem matchUpToPhase_of_size (same : left.size = right.size) (tolerance : ℝ) :
    matchUpToPhase left right tolerance = .ok (equalUpToPhase left right tolerance) :=
  if_pos same

theorem matchUpToPhase_eq_true_iff (same : left.size = right.size) (tolerance : ℝ) :
    matchUpToPhase left right tolerance = .ok true ↔
      equalUpToPhase left right tolerance = true := by
  rw [matchUpToPhase_of_size same, Except.ok.injEq]

theorem comparesRays_of_size (same : left.size = right.size) (tolerance : ℝ) :
    ComparesRays left right tolerance := by
  have turnedRight : ∀ {left right : Array (Amplitude ℝ)} (factor : Amplitude ℝ),
      left.size = right.size → factor.magnitude = 1 →
        matchUpToPhase left (turned factor right) tolerance =
          matchUpToPhase left right tolerance := by
    intro left right factor same unit
    rw [matchUpToPhase_of_size same,
      matchUpToPhase_of_size (same.trans (size_turned factor right).symm),
      equalUpToPhase_turned same rfl unit]
  have symmetric : ∀ {left right : Array (Amplitude ℝ)}, left.size = right.size →
      matchUpToPhase right left tolerance = matchUpToPhase left right tolerance := by
    intro left right same
    rw [matchUpToPhase_of_size same, matchUpToPhase_of_size same.symm, equalUpToPhase_symm same rfl]
  constructor
  case answers => exact ⟨_, matchUpToPhase_of_size same tolerance⟩
  case symmetric => exact symmetric same
  case turned_left =>
    intro factor unit
    rw [← symmetric (same ▸ size_turned factor left), turnedRight factor same.symm unit,
      symmetric same]
  case turned_right => exact fun factor => turnedRight factor same
  case same_ray_iff =>
    rintro rfl sameNorm nonzero
    rw [matchUpToPhase_eq_true_iff same, equalUpToPhase_zero_iff same rfl sameNorm nonzero]
  case fidelity_iff =>
    intro leftUnit rightUnit small
    rw [matchUpToPhase_eq_true_iff same, equalUpToPhase_iff_fidelity same rfl leftUnit rightUnit
      small]

/-- A comparison of states decides equality of rays; states of different sizes cannot be compared,
in either order and with any tolerance. -/
theorem matchUpToPhase_decides_rays (left right : Array (Amplitude ℝ)) (tolerance : ℝ) :
    (left.size = right.size → ComparesRays left right tolerance) ∧
      (left.size ≠ right.size → ∃ fault, matchUpToPhase left right tolerance = .error fault ∧
        fault.kind = .dimensionMismatch) := by
  refine ⟨fun same => comparesRays_of_size same tolerance, fun apart => ?_⟩
  exact ⟨.statesDiffer [left.size] [right.size], if_neg apart, rfl⟩

/-- A basis state is on the ray of its quarter turn, and cannot be compared with a state of no
qubits. -/
theorem matchUpToPhase_quarter_turn :
    matchUpToPhase #[1, 0] #[.imaginary, 0] (0 : ℝ) = .ok true ∧
      ∃ fault, matchUpToPhase #[1, 0] #[1] (0 : ℝ) = .error fault ∧
        fault.kind = .dimensionMismatch := by
  have norm : (Amplitude.imaginary : Amplitude ℝ).magnitude = 1 := by
    rw [Amplitude.magnitude_eq, Amplitude.toComplex_imaginary, Complex.norm_I]
  have leftTotal : totalProbability #[1, 0] = 1 := by
    simp [totalProbability, Scalar.sum_eq, Amplitude.probability_eq]
  have rightTotal : totalProbability #[.imaginary, 0] = 1 := by
    simp [totalProbability, Scalar.sum_eq, Amplitude.probability_eq]
  have turn : #[.imaginary, 0] = turned .imaginary #[1, 0] := by
    simp [turned, ← Amplitude.toComplex_injective.eq_iff]
  have compares := (matchUpToPhase_decides_rays #[1, 0] #[.imaginary, 0] 0).1 rfl
  refine ⟨(compares.same_ray_iff rfl (leftTotal.trans rightTotal.symm)
    (leftTotal.trans_ne one_ne_zero)).2 ⟨.imaginary, norm, turn⟩, ?_⟩
  exact (matchUpToPhase_decides_rays #[1, 0] #[1] 0).2 (by decide)

/-! ## What a diagnosis compares -/

namespace DiagnosticRunner

open Engine

variable {R : Type} [Scalar R]

theorem flip_keeps_outline (qubits : List Int) : Action.Keeps (outline (R := R)) (flip qubits) := by
  induction qubits with
  | nil => exact fun _ => rfl
  | cons qubit rest ih => exact (apply_keeps_outline _ _).bind fun _ => ih

omit [Scalar R] in
theorem extent_of_keeps {α : Type} {action : EngineAction R α} {engine after : Engine R}
    {outcome : Except Fault α} (kept : Action.Keeps outline action)
    (ran : action engine = (outcome, after)) : after.memory.extent = engine.memory.extent := by
  have same := kept engine
  rw [ran] at same
  exact congrArg (fun outlined => outlined.2.1) same

omit [Scalar R] in
theorem size_of_snapshot {memory : Memory R} {size : Nat} {shown : Snapshot R}
    (extent : memory.extent = (size, false)) (taken : memory.snapshot = .ok shown) :
    shown.amplitudes.size = Basis.count size := by
  rcases Memory.exists_state_of_extent extent with ⟨state, rfl, rfl⟩
  cases taken
  exact state.amplitudes.size_toArray

/-- The states before and after an operation have as many amplitudes as the register has basis
states. -/
theorem sizes_of_observed {operation : Operation R} {size : Nat} {profile : TargetProfile}
    {engine after : Engine R} {input output : Snapshot R}
    (extent : engine.memory.extent = (size, false))
    (done : observed operation size profile engine = (.ok (input, output), after)) :
    input.amplitudes.size = Basis.count size ∧ output.amplitudes.size = Basis.count size := by
  have kept := restrictedTo_keeps_outline profile
    (apply_keeps_outline operation ((List.range size).map Int.ofNat))
  rw [observed] at done
  rcases Action.bind_eq_ok_iff.1 done with ⟨_, _, ⟨⟩, done⟩
  rcases Action.bind_eq_ok_iff.1 done with ⟨_, _, taken, done⟩
  rcases Action.ofExcept_eq_ok_iff.1 taken with ⟨copied, rfl⟩
  rcases Action.bind_eq_ok_iff.1 done with ⟨⟨⟩, _, applies, done⟩
  rcases Action.bind_eq_ok_iff.1 done with ⟨_, _, ⟨⟩, done⟩
  rcases Action.bind_eq_ok_iff.1 done with ⟨_, _, takenAfter, done⟩
  rcases Action.ofExcept_eq_ok_iff.1 takenAfter with ⟨copiedAfter, rfl⟩
  cases done
  exact ⟨size_of_snapshot extent copied,
    size_of_snapshot ((extent_of_keeps kept applies).trans extent) copiedAfter⟩

/-- A run shows as many amplitudes as its register has basis states. -/
theorem sizes_of_runOn {operation : Operation R} {numQubits index : Int}
    {preparer : Option (Operation R)} {profile : TargetProfile} {input output : Snapshot R}
    {bench later : Bench R}
    (ran : runOn operation numQubits preparer index profile bench = (.ok (input, output), later)) :
    input.amplitudes.size = Basis.count numQubits.toNat ∧
      output.amplitudes.size = Basis.count numQubits.toNat := by
  rw [runOn] at ran
  rcases Bench.ok_of_withRegister ran with ⟨-, -, after, done⟩
  rcases Action.bind_eq_ok_iff.1 done with ⟨⟨⟩, flipped, flips, done⟩
  have extent : flipped.memory.extent = (numQubits.toNat, false) :=
    extent_of_keeps (flip_keeps_outline _) flips
  cases preparer with
  | none => exact sizes_of_observed extent done
  | some prepare =>
    rcases Action.bind_eq_ok_iff.1 done with ⟨⟨⟩, prepared, prepares, done⟩
    exact sizes_of_observed
      ((extent_of_keeps (apply_keeps_outline prepare _) prepares).trans extent) done

/-- What two runs on registers of one size show can be compared. -/
theorem matchUpToPhase_of_runs {first second : Operation R} {numQubits index otherIndex : Int}
    {preparer otherPreparer : Option (Operation R)} {profile otherProfile : TargetProfile}
    {input otherInput expected actual : Snapshot R} {bench otherBench between later : Bench R}
    (ranFirst : runOn first numQubits preparer index profile bench =
      (.ok (input, expected), between))
    (ranSecond : runOn second numQubits otherPreparer otherIndex otherProfile otherBench =
      (.ok (otherInput, actual), later)) (tolerance : R) :
    matchUpToPhase expected.amplitudes actual.amplitudes tolerance =
      .ok (equalUpToPhase expected.amplitudes actual.amplitudes tolerance) :=
  if_pos ((sizes_of_runOn ranFirst).2.trans (sizes_of_runOn ranSecond).2.symm)

/-- The comparison of a diagnosis has an answer. -/
theorem matchUpToPhase_of_compare {runner : DiagnosticRunner R} {candidate reference : Operation R}
    {numQubits : Int} {preparer : Option (Operation R)} {comparison : StateComparison R}
    {bench later : Bench R}
    (compared : runner.compare candidate reference numQubits preparer bench =
      (.ok comparison, later)) :
    matchUpToPhase comparison.expected.amplitudes comparison.actual.amplitudes
      comparison.tolerance = .ok comparison.isMatch := by
  rw [compare] at compared
  rcases Action.bind_eq_ok_iff.1 compared with ⟨⟨input, expected⟩, between, ranExpected, compared⟩
  rcases Action.bind_eq_ok_iff.1 compared with ⟨⟨_, actual⟩, last, ranActual, compared⟩
  cases compared
  exact matchUpToPhase_of_runs ranExpected ranActual runner.tolerance

end DiagnosticRunner

end QuantumKata

end
