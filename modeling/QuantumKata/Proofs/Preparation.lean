import QuantumKata.Proofs.Overlaps

/-!
# The input state of a check

In operator mode the targets start out entangled with as many ancillas; in state mode they start in
the state that the preparer makes of all zeros.  What is left at zero when the preparation has been
undone depends on the product of the matrices of the operations in between: it is the normalized
trace of the product in operator mode, and the first entry of the product behind the preparer and
before its adjoint in state mode.

Where the adjoints take back what the operations do, this is the overlap of the prepared state with
what the operations have made of it.
-/

noncomputable section

namespace QuantumKata

open Complex Matrix

/-! ## Operations behind the probe -/

namespace EquivalenceChecker

open Engine

theorem targets_eq (size : ℕ) : targets size = (ownQubits size).map (· + 1) := by
  rw [targets, ownQubits]
  rw [List.map_map]
  apply List.map_congr_left
  intro qubit _
  exact Int.add_comm 1 qubit

section Performing

variable {definitions : Definitions ℝ} {numQubits size : ℕ} {entries : List (TapeEntry ℝ)}
  {operation variant : Operation ℝ}

theorem performs_applyAs_within (role : Role) (name : String) {profile : TargetProfile}
    {qubits : List Int}
    (performs : Performs definitions numQubits
      (restrictedTo profile (Engine.apply variant qubits)) () entries) :
    Performs definitions numQubits (applyAs role name profile variant qubits) none entries := by
  constructor
  case exact => exact performs.exact
  case fit => exact performs.fit
  case completes =>
    intro engine amplitudes holds
    rcases performs.completes engine amplitudes holds with ⟨after, done, holdsAfter⟩
    exact ⟨after, applyAs_eq_ok_none_iff.2 done, holdsAfter⟩

theorem performs_applyAs (role : Role) (name : String) {qubits : List Int}
    (performs : Performs definitions numQubits (Engine.apply variant qubits) () entries) :
    Performs definitions numQubits (applyAs role name .unrestricted variant qubits) none
      entries :=
  performs_applyAs_within role name performs.restrictedTo

theorem issued_onTargets (acts : operation.ActsOn definitions size)
    (realizes : operation.Realizes definitions size entries) :
    (operation.course definitions (targets size) .unrestricted).Issues (behindProbe entries) () := by
  rw [targets_eq]
  exact realizes.issued_behindProbe acts.keeps

/-- An operation on the targets. -/
theorem performs_onTargets (acts : operation.ActsOn definitions size)
    (realizes : operation.Realizes definitions size entries) (enough : size ≤ numQubits) :
    Performs definitions (1 + numQubits) (Engine.apply operation (targets size)) ()
      (behindProbe entries) := by
  apply performs_apply (issued_onTargets acts realizes)
  · exact exact_behindProbe realizes.exact
  · exact fits_behindProbe_free fun entry member => (realizes.fit entry member).of_le enough

/-- The controlled variant of an operation on the probe and the targets performs the gates of the
operation under the control of the probe, as long as the profile in force lets them through. -/
theorem performs_controlled (realizes : operation.Realizes definitions size entries)
    (enough : size ≤ numQubits) {profile : TargetProfile} (arity : operation.numQubits = size)
    (issued : (operation.course definitions (targets size) profile).Issues
      (behindProbe entries) ())
    (proper : operation.HasProperControls) (built : operation.controlledBy 1 = .ok variant) :
    Performs definitions (1 + numQubits)
      (restrictedTo profile (Engine.apply variant (probe :: targets size))) ()
      (underProbe entries) := by
  have length : ((targets size).length : Int) = operation.numQubits := by
    rw [arity, targets_eq]
    simp [ownQubits]
  have laidOut := Operation.course_controlledBy definitions built proper
    (show (([probe] : List Int).length : Int) = 1 from rfl) length profile
  have controlled := issued.under [probe]
  rw [← laidOut] at controlled
  apply performs_restrictedTo_apply controlled
  · exact Cancel.exact_under (exact_behindProbe realizes.exact) [probe]
  · exact (Cancel.fit_under [probe]).2
      (fits_behindProbe fun entry member => (realizes.fit entry member).of_le enough)

end Performing

end EquivalenceChecker

/-! ## What a check asks of operations -/

/-- An operation whose adjoint is there and takes back what it does. -/
structure Operation.IsUndoneBy (definitions : Definitions ℝ) (size : ℕ)
    (operation inverse : Operation ℝ) : Prop where
  acts : operation.ActsOn definitions size
  inverseActs : inverse.ActsOn definitions size
  built : operation.adjoint = .ok inverse
  takesBack : inverse.matrix definitions size * operation.matrix definitions size = 1

/-- The state that a preparer makes of all zeros, or all zeros without a preparer. -/
def preparedState (definitions : Definitions ℝ) (size : ℕ) :
    Option (Operation ℝ) → Fin (2 ^ size) → ℂ
  | none => Pi.single 0 1
  | some preparer => fun index => (preparer.resultOn definitions (.zero size)).value index

/-- How much of the reference there is in the candidate. -/
def agreement (definitions : Definitions ℝ) (size : ℕ) (mode : EquivalenceMode)
    (candidate reference : Operation ℝ) (preparer : Option (Operation ℝ)) : ℂ :=
  let product := (reference.matrix definitions size)ᴴ * candidate.matrix definitions size
  match mode with
  | .operator => product.trace / 2 ^ size
  | .state =>
    let prepared := preparedState definitions size preparer
    star prepared ⬝ᵥ (product *ᵥ prepared)

/-! ## The preparation in both modes -/

namespace EquivalenceChecker

open Engine

/-- What is left at zero when the preparation has been undone after the blocks have been multiplied
by a matrix.  The preparer comes with what undoes it. -/
def leftAtZero (definitions : Definitions ℝ) (size : ℕ) (mode : EquivalenceMode)
    (pair : Option (Operation ℝ × Operation ℝ))
    (matrix : Matrix (Fin (2 ^ size)) (Fin (2 ^ size)) ℂ) : ℂ :=
  match mode, pair with
  | .operator, _ => matrix.trace / 2 ^ size
  | .state, none => matrix 0 0
  | .state, some (preparer, undo) =>
    (undo.matrix definitions size * (matrix * preparer.matrix definitions size)) 0 0

/-- The gates of a preparation and those that undo it in a trial. -/
structure Staging (definitions : Definitions ℝ) (mode : EquivalenceMode) (size : ℕ)
    (pair : Option (Operation ℝ × Operation ℝ)) (numQubits : ℕ)
    (prepared unprepared : List (TapeEntry ℝ)) : Prop where
  prepares : Performs definitions (1 + numQubits) (prepare mode size (pair.map Prod.fst)) none
    (behindProbe prepared)
  unprepares : Performs definitions (1 + numQubits) (unprepare mode size pair) none
    (behindProbe unprepared)
  preparedExact : ∀ entry ∈ prepared, entry.IsExact
  unpreparedExact : ∀ entry ∈ unprepared, entry.IsExact
  preparedFit : ∀ entry ∈ prepared, entry.Fits numQubits []
  unpreparedFit : ∀ entry ∈ unprepared, entry.Fits numQubits []
  enough : size ≤ numQubits
  register : registerSize mode size = 1 + numQubits
  leaves : ∀ {entries : List (TapeEntry ℝ)} {matrix : Matrix (Fin (2 ^ size)) (Fin (2 ^ size)) ℂ},
    Multiplies size entries matrix →
    actAll [] unprepared (actAll [] entries (actAll [] prepared origin)) 0 =
      leftAtZero definitions size mode pair matrix

/-- A preparation that is undone by what comes with it. -/
structure Preparation (definitions : Definitions ℝ) (mode : EquivalenceMode) (size : ℕ)
    (preparer : Option (Operation ℝ)) (pair : Option (Operation ℝ × Operation ℝ))
    (numQubits : ℕ) (prepared unprepared : List (TapeEntry ℝ)) : Prop
    extends Staging definitions mode size pair numQubits prepared unprepared where
  normal : star (preparedState definitions size preparer) ⬝ᵥ
    preparedState definitions size preparer = 1
  restored : leftAtZero definitions size mode pair 1 = 1
  agreed : ∀ {candidate reference inverse : Operation ℝ},
    inverse.matrix definitions size = (reference.matrix definitions size)ᴴ →
    leftAtZero definitions size mode pair
        (inverse.matrix definitions size * candidate.matrix definitions size) =
      agreement definitions size mode candidate reference preparer

variable {definitions : Definitions ℝ} {size : ℕ}

theorem star_preparedState_none :
    star (preparedState definitions size none) = preparedState definitions size none := by
  rw [preparedState]
  rw [← Pi.single_star, star_one]

theorem dotProduct_preparedState_none (state : Fin (2 ^ size) → ℂ) :
    star (preparedState definitions size none) ⬝ᵥ state = state 0 := by
  rw [star_preparedState_none]
  exact single_one_dotProduct _ _

theorem isPaired_ownPairs (size : ℕ) :
    IsPaired (ownPairs size) (actAll [] (entanglers (ownPairs size)) origin) :=
  isPaired_entanglers (ownPairs size) (ownPairs_fit size).distinct isPaired_origin

/-- The order in which the pairs are entangled does not matter. -/
theorem entanglers_reverse (size : ℕ) :
    actAll [] (entanglers (ownPairs size).reverse) origin =
      actAll [] (entanglers (ownPairs size)) origin := by
  have isPaired : IsPaired (ownPairs size).reverse
      (actAll [] (entanglers (ownPairs size).reverse) origin) :=
    isPaired_entanglers (ownPairs size).reverse (ownPairs_fit size).reverse.distinct isPaired_origin
  exact isPaired.reverse.unique (isPaired_ownPairs size)

theorem staging_operator (pair : Option (Operation ℝ × Operation ℝ)) :
    Staging definitions .operator size pair (size + size) (entanglers (ownPairs size))
      (disentanglers (ownPairs size)) := by
  have fit := ownPairs_fit size
  constructor
  case prepares =>
    have entangled : Performs definitions (1 + (size + size)) (entangle (pairs size)) ()
        (behindProbe (entanglers (ownPairs size))) := by
      rw [pairs_eq_ownPairs]
      exact performs_entangle fit
    exact entangled.answering none
  case unprepares =>
    have disentangled : Performs definitions (1 + (size + size)) (disentangle (pairs size)) ()
        (behindProbe (disentanglers (ownPairs size))) := by
      rw [pairs_eq_ownPairs]
      exact performs_disentangle fit
    exact disentangled.answering none
  case preparedExact => exact entanglers_exact _
  case unpreparedExact => exact (cancel_entanglers (ownPairs size)).secondExact
  case preparedFit => exact entanglers_fit fit
  case unpreparedFit => exact disentanglers_fit fit
  case enough => omega
  case register =>
    change 1 + (size : Int) + size = 1 + ((size + size : ℕ) : Int)
    omega
  case leaves =>
    intro entries matrix multiplies
    rw [disentanglers_zero fit, entanglers_reverse,
      overlap_of_isPaired multiplies (isPaired_ownPairs size)]
    rfl

theorem preparation_operator :
    Preparation definitions .operator size none none (size + size) (entanglers (ownPairs size))
      (disentanglers (ownPairs size)) := by
  refine { staging_operator none with normal := ?normal, restored := ?restored, agreed := ?agreed }
  case normal =>
    rw [dotProduct_preparedState_none]
    exact Pi.single_eq_same 0 1
  case restored =>
    have power : (2 : ℂ) ^ size ≠ 0 := pow_ne_zero size two_ne_zero
    simp only [leftAtZero, Matrix.trace_one, Fintype.card_fin, Nat.cast_pow, Nat.cast_ofNat]
    field_simp
  case agreed =>
    intro candidate reference inverse adjoint
    rw [adjoint]
    rfl

/-- Without a preparer the targets start from all zeros. -/
theorem staging_state_none : Staging definitions .state size none size [] [] := by
  constructor
  case prepares => exact performs_pure none
  case unprepares => exact performs_pure none
  case preparedExact => simp
  case unpreparedExact => simp
  case preparedFit => simp
  case unpreparedFit => simp
  case enough => exact le_refl size
  case register => rfl
  case leaves =>
    intro entries matrix multiplies
    refine (apply_zero_eq_block size _).trans ?_
    rw [actAll_nil, actAll_nil, multiplies, block_origin, mulVec_single_one]
    rfl

theorem preparation_state_none : Preparation definitions .state size none none size [] [] := by
  refine { staging_state_none with normal := ?normal, restored := ?restored, agreed := ?agreed }
  case normal =>
    rw [dotProduct_preparedState_none]
    exact Pi.single_eq_same 0 1
  case restored => exact Matrix.one_apply_eq 0
  case agreed =>
    intro candidate reference inverse adjoint
    change _ = star (preparedState definitions size none) ⬝ᵥ _
    rw [dotProduct_preparedState_none, adjoint, preparedState, mulVec_single_one]
    rfl

/-- A preparer and its adjoint, which need not take back what the preparer does. -/
theorem staging_state_some {preparer undo : Operation ℝ}
    (acts : preparer.ActsOn definitions size) (undoActs : undo.ActsOn definitions size) :
    ∃ prepared unprepared,
      Staging definitions .state size (some (preparer, undo)) size prepared unprepared := by
  rcases acts.exists_gates with ⟨prepared, realizes⟩
  rcases undoActs.exists_gates with ⟨unprepared, realizesUndo⟩
  refine ⟨prepared, unprepared, ?_⟩
  constructor
  case prepares =>
    exact performs_applyAs .preparer preparer.name
      (performs_onTargets acts realizes (le_refl size))
  case unprepares =>
    exact performs_applyAs .preparer preparer.name
      (performs_onTargets undoActs realizesUndo (le_refl size))
  case preparedExact => exact realizes.exact
  case unpreparedExact => exact realizesUndo.exact
  case preparedFit => exact realizes.fit
  case unpreparedFit => exact realizesUndo.fit
  case enough => exact le_refl size
  case register => rfl
  case leaves =>
    intro entries matrix multiplies
    refine (apply_zero_eq_block size _).trans ?_
    rw [realizesUndo.multiplies, multiplies, realizes.multiplies, block_origin, mulVec_mulVec,
      mulVec_mulVec, mulVec_single_one, Matrix.mul_assoc]
    rfl

/-- A preparer whose adjoint takes back what it does. -/
theorem preparation_state_some {preparer undone : Operation ℝ}
    (isUndone : preparer.IsUndoneBy definitions size undone) :
    ∃ prepared unprepared, Preparation definitions .state size (some preparer)
      (some (preparer, undone)) size prepared unprepared := by
  rcases staging_state_some isUndone.acts isUndone.inverseActs with
    ⟨prepared, unprepared, staging⟩
  rcases isUndone.acts.exists_gates with ⟨gates, realizes⟩
  have adjoint := realizes.matrix_eq_of_mul isUndone.takesBack
  refine ⟨prepared, unprepared,
    { staging with normal := ?normal, restored := ?restored, agreed := ?agreed }⟩
  case normal =>
    have entry := congrFun (congrFun realizes.matrix_unitary 0) 0
    rw [Matrix.one_apply_eq] at entry
    exact entry
  case restored =>
    rw [leftAtZero, Matrix.one_mul, isUndone.takesBack, Matrix.one_apply_eq]
  case agreed =>
    intro candidate reference inverse inverseAdjoint
    rw [leftAtZero, inverseAdjoint, adjoint]
    rfl

section

variable {mode : EquivalenceMode} {preparer : Option (Operation ℝ)}
  {pair : Option (Operation ℝ × Operation ℝ)} {numQubits : ℕ}
  {prepared unprepared : List (TapeEntry ℝ)}

theorem Preparation.restores
    (preparation : Preparation definitions mode size preparer pair numQubits prepared unprepared) :
    actAll [] unprepared (actAll [] prepared origin) 0 = 1 :=
  (preparation.leaves (multiplies_nil size)).trans preparation.restored

theorem Staging.leavesBetween
    (staging : Staging definitions mode size pair numQubits prepared unprepared)
    {candidate inverse : Operation ℝ} {forward backward : List (TapeEntry ℝ)}
    (advances : candidate.Realizes definitions size forward)
    (returns : inverse.Realizes definitions size backward) :
    actAll [] unprepared (actAll [] backward (actAll [] forward (actAll [] prepared origin))) 0 =
      leftAtZero definitions size mode pair
        (inverse.matrix definitions size * candidate.matrix definitions size) := by
  have both := staging.leaves (advances.multiplies.append returns.multiplies)
  rwa [actAll_append] at both

/-- What is left at zero is an amplitude of a state of norm one. -/
theorem Staging.norm_leaves_le_one
    (staging : Staging definitions mode size pair numQubits prepared unprepared)
    {entries : List (TapeEntry ℝ)} {matrix : Matrix (Fin (2 ^ size)) (Fin (2 ^ size)) ℂ}
    (multiplies : Multiplies size entries matrix) (exact : ∀ entry ∈ entries, entry.IsExact)
    (fit : ∀ entry ∈ entries, entry.Fits size []) :
    ‖leftAtZero definitions size mode pair matrix‖ ≤ 1 := by
  have fitBetween := fun entry member => (fit entry member).of_le staging.enough
  rw [← staging.leaves multiplies]
  refine norm_le_one_of_normal ?_ (Nat.two_pow_pos numQubits)
  rw [overlap_actAll staging.unpreparedExact staging.unpreparedFit, overlap_actAll exact fitBetween,
    overlap_actAll staging.preparedExact staging.preparedFit,
    overlap_basisAmplitudes (Nat.two_pow_pos numQubits)]
  rfl

theorem Preparation.overlaps
    (preparation : Preparation definitions mode size preparer pair numQubits prepared unprepared)
    {candidate reference inverse : Operation ℝ} {forward backward : List (TapeEntry ℝ)}
    (advances : candidate.Realizes definitions size forward)
    (returns : inverse.Realizes definitions size backward)
    (adjoint : inverse.matrix definitions size = (reference.matrix definitions size)ᴴ) :
    actAll [] unprepared (actAll [] backward (actAll [] forward (actAll [] prepared origin))) 0 =
      agreement definitions size mode candidate reference preparer :=
  (preparation.leavesBetween advances returns).trans (preparation.agreed adjoint)

end

/-! ## Operations that differ by a factor -/

theorem leftAtZero_smul (mode : EquivalenceMode) (pair : Option (Operation ℝ × Operation ℝ))
    (factor : ℂ) (matrix : Matrix (Fin (2 ^ size)) (Fin (2 ^ size)) ℂ) :
    leftAtZero definitions size mode pair (factor • matrix) =
      factor * leftAtZero definitions size mode pair matrix := by
  cases mode with
  | operator => simp only [leftAtZero, Matrix.trace_smul, smul_eq_mul, mul_div_assoc]
  | state =>
    cases pair with
    | none => rfl
    | some both => simp only [leftAtZero, Matrix.smul_mul, Matrix.mul_smul, Matrix.smul_apply,
        smul_eq_mul]

theorem agreement_of_smul {first second reference : Operation ℝ} {factor : ℂ}
    (scaled : first.matrix definitions size = factor • second.matrix definitions size)
    (mode : EquivalenceMode) (preparer : Option (Operation ℝ)) :
    agreement definitions size mode first reference preparer =
      factor * agreement definitions size mode second reference preparer := by
  have product : (reference.matrix definitions size)ᴴ * first.matrix definitions size =
      factor • ((reference.matrix definitions size)ᴴ * second.matrix definitions size) := by
    rw [scaled, Matrix.mul_smul]
  unfold agreement
  rw [product]
  cases mode with
  | operator => simp only [Matrix.trace_smul, smul_eq_mul, mul_div_assoc]
  | state => simp only [Matrix.smul_mulVec, dotProduct_smul, smul_eq_mul]

theorem agreement_self {reference : Operation ℝ} {mode : EquivalenceMode}
    {preparer : Option (Operation ℝ)}
    (unitary : (reference.matrix definitions size)ᴴ * reference.matrix definitions size = 1)
    (normal : star (preparedState definitions size preparer) ⬝ᵥ
      preparedState definitions size preparer = 1) :
    agreement definitions size mode reference reference preparer = 1 := by
  unfold agreement
  rw [unitary]
  cases mode with
  | operator =>
    have power : (2 : ℂ) ^ size ≠ 0 := pow_ne_zero size two_ne_zero
    simp only [Matrix.trace_one, Fintype.card_fin, Nat.cast_pow, Nat.cast_ofNat]
    field_simp
  | state => simp only [Matrix.one_mulVec, normal]

theorem agreement_of_phase {candidate reference : Operation ℝ} {mode : EquivalenceMode}
    {preparer : Option (Operation ℝ)} {angle : ℝ}
    (unitary : (reference.matrix definitions size)ᴴ * reference.matrix definitions size = 1)
    (normal : star (preparedState definitions size preparer) ⬝ᵥ
      preparedState definitions size preparer = 1)
    (same : candidate.matrix definitions size =
      exp (angle * I) • reference.matrix definitions size) :
    agreement definitions size mode candidate reference preparer = exp (angle * I) := by
  rw [agreement_of_smul same, agreement_self unitary normal, mul_one]

/-- A preparer is only taken in state mode, and its adjoint takes back what it does. -/
def PreparerFits (definitions : Definitions ℝ) (size : ℕ) (mode : EquivalenceMode)
    (preparer : Option (Operation ℝ)) : Prop :=
  ∀ operation, preparer = some operation →
    mode = .state ∧ ∃ undone, operation.IsUndoneBy definitions size undone

theorem preparerFits_none {mode : EquivalenceMode} : PreparerFits definitions size mode none :=
  nofun

/-- Where the adjoint of the preparer takes back what it does, there is a preparation. -/
theorem exists_preparation {mode : EquivalenceMode} {preparer : Option (Operation ℝ)}
    (fits : PreparerFits definitions size mode preparer) :
    ∃ pair numQubits prepared unprepared, preparerPair preparer = .ok pair ∧
      Preparation definitions mode size preparer pair numQubits prepared unprepared ∧
      ∀ operation undo, pair = some (operation, undo) → mode = .state ∧
        operation.ActsOn definitions size ∧ undo.ActsOn definitions size := by
  cases preparer with
  | none =>
    cases mode with
    | operator => exact ⟨none, _, _, _, rfl, preparation_operator, nofun⟩
    | state => exact ⟨none, _, _, _, rfl, preparation_state_none, nofun⟩
  | some operation =>
    rcases fits operation rfl with ⟨rfl, undone, isUndone⟩
    rcases preparation_state_some isUndone with ⟨prepared, unprepared, preparation⟩
    refine ⟨some (operation, undone), size, prepared, unprepared, ?_, preparation, ?_⟩
    · exact congrArg (Except.map fun inverse => some (operation, inverse)) isUndone.built
    · rintro _ _ ⟨⟩
      exact ⟨rfl, isUndone.acts, isUndone.inverseActs⟩

end EquivalenceChecker

end QuantumKata

end
