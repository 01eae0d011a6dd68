import QuantumKata.Proofs.EquivalenceCheck
import QuantumKata.Proofs.Outline

/-!
# Which qubits a candidate reaches

A check applies the candidate on a register that holds more than the targets.  A gate on the probe
collides with the control by the probe, and a gate beyond the register is out of range, so neither
is carried out: whenever a check accepts or rejects, the candidate has issued gates on its targets
only, but for the ancillas in operator mode.  Nothing keeps a candidate off the ancillas, and since
they are entangled with the targets, a gate there can pass for one on the targets.

A candidate that has kept to its targets, and that names its qubits by their distance from those it
is given, issues the same gates on a register of its own.
-/

noncomputable section

namespace QuantumKata

namespace EquivalenceChecker

open Engine

variable {R : Type}

/-- A gate that fits into a register under the control of the probe is behind the probe. -/
theorem behind_of_fits {entry : TapeEntry R} {numQubits : ℕ} (fits : entry.Fits numQubits [probe]) :
    entry.qubits.Nodup ∧ ∀ qubit ∈ entry.qubits, 1 ≤ qubit ∧ qubit < numQubits := by
  have apart : (probe :: entry.qubits).Nodup := by
    refine List.Perm.nodup ?_ fits.1
    exact List.perm_middle
  rcases List.nodup_cons.1 apart with ⟨offProbe, distinct⟩
  refine ⟨distinct, ?_⟩
  intro qubit among
  have bound : 0 ≤ qubit ∧ qubit < numQubits := by
    apply fits.2
    rcases List.mem_append.1 among with target | control
    · exact List.mem_append_left _ target
    · exact List.mem_append_right _ (List.mem_append_right _ control)
  have notProbe : qubit ≠ 0 := by
    rintro rfl
    exact offProbe among
  omega

variable [Scalar R]

theorem applyAs_keeps_outline (role : Role) (name : String) (profile : TargetProfile)
    (variant : Operation R) (qubits : List Int) :
    Action.Keeps outline (applyAs role name profile variant qubits) := by
  intro engine
  have kept := restrictedTo_keeps_outline profile (apply_keeps_outline variant qubits) engine
  rw [applyAs]
  rcases result : restrictedTo profile (apply variant qubits) engine with ⟨outcome, after⟩
  rw [result] at kept
  cases outcome with
  | ok value => exact kept
  | error fault =>
    dsimp only
    split <;> exact kept

theorem entangle_keeps_outline (pairs : List (Int × Int)) :
    Action.Keeps (outline (R := R)) (entangle pairs) := by
  induction pairs with
  | nil => exact fun _ => rfl
  | cons pair rest ih =>
    rcases pair with ⟨target, ancilla⟩
    exact (apply_keeps_outline _ _).bind fun _ => (apply_keeps_outline _ _).bind fun _ => ih

theorem prepare_keeps_outline (mode : EquivalenceMode) (size : ℕ)
    (preparer : Option (Operation R)) : Action.Keeps outline (prepare mode size preparer) := by
  cases mode with
  | operator => exact (entangle_keeps_outline _).bind fun _ _ => rfl
  | state =>
    cases preparer with
    | none => exact fun _ => rfl
    | some operation => exact applyAs_keeps_outline _ _ _ _ _

variable {checker : EquivalenceChecker R} {candidate reference : Operation R} {size : ℕ}

/-- What goes before the candidate leaves the stacks and the size of the register as they were, and
the candidate is applied with the profile of the check in force. -/
theorem entered_of_trial {variant inverse : Operation R}
    {pair : Option (Operation R × Operation R)} {engine last : Engine R} {equivalent : Bool}
    {phase : Option R}
    (tried : checker.trial size candidate variant reference inverse pair engine =
      (.ok (.decided equivalent phase), last)) :
    ∃ entered after, entered.frame = (engine.controls, checker.profile, engine.definitions) ∧
      entered.layout = engine.layout ∧
      apply variant (probe :: targets size) entered = (.ok (), after) := by
  rcases applied_of_trial tried with ⟨prepared, superposed, after, prepares, superposes, applies⟩
  have first := prepare_keeps_outline checker.mode size (pair.map Prod.fst) engine
  have second := apply_keeps_outline (LibraryConstant.operation (.fixed .h)) [probe] prepared
  change (applyConstant (.fixed .h) [probe] prepared).2.outline = prepared.outline at second
  rw [prepares] at first
  rw [superposes] at second
  have outlined := second.trans first
  simp only [outline, frame, Prod.mk.injEq] at outlined
  rcases outlined with ⟨⟨controls, -, known⟩, kept⟩
  have done := applyAs_eq_ok_none_iff.1 applies
  have ended : (apply variant (probe :: targets size)
      (enterProfile checker.profile superposed)).1 = .ok () := congrArg Prod.fst done
  refine ⟨enterProfile checker.profile superposed, _, ?_, kept, Prod.ext ended rfl⟩
  simp only [frame, enterProfile, controls, known]

/-! ## Where the gates of a candidate are -/

/-- The qubits that a check entangles with the targets. -/
def ancillas (mode : EquivalenceMode) (size : ℕ) : List Int :=
  match mode with
  | .operator => (pairs size).map Prod.snd
  | .state => []

theorem mem_targets {size : ℕ} {qubit : Int} : qubit ∈ targets size ↔ 1 ≤ qubit ∧ qubit ≤ size := by
  rw [targets]
  constructor
  · intro member
    rcases List.mem_map.1 member with ⟨position, among, rfl⟩
    have bound := List.mem_range.1 among
    omega
  · rintro ⟨some, bound⟩
    refine List.mem_map.2 ⟨(qubit - 1).toNat, List.mem_range.2 ?_, ?_⟩
    · omega
    · omega

/-- Behind the probe the register of a check holds the targets and the ancillas. -/
theorem mem_targets_or_ancillas {mode : EquivalenceMode} {size : ℕ} {qubit : Int}
    (behind : 1 ≤ qubit) (inside : qubit < registerSize mode size) :
    qubit ∈ targets size ∨ qubit ∈ ancillas mode size := by
  by_cases own : qubit ≤ size
  · exact .inl (mem_targets.2 ⟨behind, own⟩)
  · right
    cases mode with
    | state =>
      simp only [registerSize] at inside
      omega
    | operator =>
      simp only [registerSize] at inside
      refine List.mem_map.2 ⟨(qubit - size, qubit), List.mem_map.2 ?_, rfl⟩
      refine ⟨(qubit - size - 1).toNat, List.mem_range.2 ?_, Prod.ext ?_ ?_⟩
      · omega
      · simp only
        omega
      · simp only
        omega

variable {preparer : Option (Operation R)} {bench later : Bench R} {verdict : Verdict R}

/-- A candidate that has been graded has issued gates on its targets and the ancillas only. -/
theorem issued_of_graded (proper : candidate.HasProperControls)
    (checked : checker.check candidate reference size preparer bench = (.ok verdict, later))
    (graded : verdict.status ≠ .executionError) :
    ∃ entries,
      (candidate.course bench.definitions (targets size) checker.profile).Issues entries () ∧
      ∀ entry ∈ entries, entry.IsComplete ∧ entry.qubits.Nodup ∧
        ∀ qubit ∈ entry.qubits, qubit ∈ targets size ∨ qubit ∈ ancillas checker.mode size := by
  have agrees := agrees_of_graded checked graded
  rcases trial_of_graded checked graded with
    ⟨-, some, -, variant, inverse, pair, equivalent, phase, last, builds, tried, -⟩
  rcases entered_of_trial tried with ⟨entered, after, framed, kept, applied⟩
  simp only [frame, layout, start, Prod.mk.injEq, List.map_nil, List.map_eq_nil_iff] at framed kept
  rcases framed with ⟨controls, inForce, known⟩
  rcases kept with ⟨extent, noTape⟩
  rcases Memory.exists_state_of_extent extent with ⟨state, live, stateSize⟩
  have stateSize : state.numQubits = (registerSize checker.mode size).toNat := stateSize
  -- The variant is the candidate under the control of the probe.
  have arity : ((targets size).length : Int) = candidate.numQubits := by
    rw [agrees.candidate]
    simp [targets]
  have laidOut := Operation.course_controlledBy bench.definitions builds.candidate proper
    (show (([probe] : List Int).length : Int) = 1 from rfl) arity checker.profile
  have played : ((candidate.course bench.definitions (targets size) checker.profile).under
      [probe]).play entered = (.ok (), after) := by
    rw [← laidOut, ← known, ← inForce]
    exact (apply_eq variant _ entered).symm.trans applied
  have met : ((candidate.course bench.definitions (targets size) checker.profile).under
      [probe]).Meets TapeEntry.IsComplete False fun _ => True :=
    (Operation.course_complete bench.definitions candidate _ _).under_some (by simp)
      fun _ complete => complete
  rcases Course.issues_of_play met entered noTape live played with
    ⟨probed, issued, complete, fit⟩
  rcases Course.issues_under issued with ⟨entries, issuedInside, rfl⟩
  refine ⟨entries, issuedInside, ?_⟩
  intro entry member
  have inside : entry.under [probe] ∈ entries.map (TapeEntry.under [probe]) :=
    List.mem_map_of_mem member
  have whole : entry.IsComplete := complete (entry.under [probe]) inside
  have fits := TapeEntry.fits_under.1 (fit (entry.under [probe]) inside)
  rw [controls, stateSize] at fits
  rcases behind_of_fits fits with ⟨distinct, behind⟩
  refine ⟨whole, distinct, ?_⟩
  intro qubit among
  rcases behind qubit among with ⟨first, last⟩
  apply mem_targets_or_ancillas
  · exact first
  · omega

/-! ## The candidate on a register of its own -/

/-- An operation whose gates on the targets stay there completes on a register of its own. -/
theorem completes_alone {rule : Conduct R} (moves : rule.Admits (· + 1))
    {definitions : Definitions R} {profile : TargetProfile} {entries : List (TapeEntry R)}
    (keeps : candidate.Keeps rule definitions)
    (issued : (candidate.course definitions (targets size) profile).Issues entries ())
    (complete : ∀ entry ∈ entries, entry.IsComplete)
    (distinct : ∀ entry ∈ entries, entry.qubits.Nodup)
    (inside : ∀ entry ∈ entries, ∀ qubit ∈ entry.qubits, qubit ∈ targets size)
    {state : StateVector R} (sizeIs : state.numQubits = size) :
    ∃ after, apply candidate (ownQubits size)
      (start (.holding state) profile [] definitions) = (.ok (), after) := by
  rw [targets_eq, Operation.course_map moves keeps] at issued
  rcases Course.issues_relabel issued with ⟨own, value, issuedAlone, rfl, -⟩
  have fit : ∀ entry ∈ own, entry.Fits state.numQubits [] := by
    intro entry member
    have moved : entry.relabel (· + 1) ∈ own.map (TapeEntry.relabel (· + 1)) :=
      List.mem_map_of_mem member
    constructor
    · have apart := distinct _ moved
      rw [TapeEntry.qubits_relabel] at apart
      exact apart.of_map _
    · intro qubit among
      have target : qubit + 1 ∈ targets size := by
        apply inside _ moved
        rw [TapeEntry.qubits_relabel]
        exact List.mem_map_of_mem among
      have bound := mem_targets.1 target
      omega
  have completeAlone : ∀ entry ∈ own, entry.IsComplete := by
    intro entry member
    have whole := complete _ (List.mem_map_of_mem member)
    simpa [TapeEntry.IsComplete, TapeEntry.relabel] using whole
  rcases issuedAlone.play (start (.holding state) profile [] definitions) rfl rfl completeAlone fit
    with ⟨elapsed, played⟩
  exact ⟨_, (apply_eq candidate _ _).trans played⟩

end EquivalenceChecker

/-- The conduct of bodies that name no qubit of the register by its number. -/
def Conduct.relative (R : Type) : Conduct R :=
  ⟨fun _ => True, fun reference => ∀ qubit, reference ≠ .absolute qubit, True⟩

namespace EquivalenceChecker

open Engine

/-! ## The candidate on the register of a check -/

variable {checker : EquivalenceChecker ℝ} {candidate reference : Operation ℝ} {size : ℕ}
  {preparer : Option (Operation ℝ)} {bench later : Bench ℝ} {verdict : Verdict ℝ}

/-- An accepted candidate that acts on its qubits by itself agrees with the reference. -/
theorem agreement_of_correct {inverse : Operation ℝ}
    (checked : checker.check candidate reference size preparer bench = (.ok verdict, later))
    (correct : verdict.status = .correct)
    (positive : 0 < checker.tolerance) (quarter : checker.tolerance ≤ 1 / 4)
    (unrestricted : checker.profile = .unrestricted)
    (candidateActs : candidate.ActsOn bench.definitions size)
    (candidateProper : candidate.HasProperControls)
    (referenceIsUndone : reference.IsUndoneBy bench.definitions size inverse)
    (inverseProper : inverse.HasProperControls)
    (preparerFits : PreparerFits bench.definitions size checker.mode preparer) :
    1 - checker.tolerance ≤
      ((1 + ‖agreement bench.definitions size checker.mode candidate reference preparer‖) / 2)
        ^ 2 := by
  have graded : verdict.status ≠ .executionError := by
    rw [correct]
    exact nofun
  rcases trial_of_graded checked graded with
    ⟨generated, -, roomy, variant, inverseVariant, pair, -, -, -, builds, -, -⟩
  rcases builds.inverse with ⟨other, otherIs, otherVariant⟩
  have same : other = inverse := by
    have both := otherIs.symm.trans referenceIsUndone.built
    cases both
    rfl
  rw [same] at otherVariant
  rcases check_decides positive quarter unrestricted generated candidateActs candidateProper
    builds.candidate referenceIsUndone inverseProper otherVariant preparerFits rfl roomy with
    ⟨equivalent, phase, last, decided, decides, -⟩
  rw [checked] at decided
  cases decided
  apply decides.1
  rw [judge_status] at correct
  by_contra refused
  rw [if_neg refused] at correct
  cases correct

/-- Whenever a check accepts or rejects, the candidate has issued gates on its targets and, in
operator mode, on the ancillas, but nowhere else.  A candidate that has kept off the ancillas and
names its qubits by their distance from those it is given completes on a register of its own, and if
it acts there by itself and has been accepted, it agrees with the reference. -/
theorem graded_keeps_to_targets (proper : candidate.HasProperControls)
    (checked : checker.check candidate reference size preparer bench = (.ok verdict, later))
    (graded : verdict.status ≠ .executionError) :
    ∃ entries,
      (candidate.course bench.definitions (targets size) checker.profile).Issues entries () ∧
      (∀ entry ∈ entries, ∀ qubit ∈ entry.qubits,
        qubit ∈ targets size ∨ qubit ∈ ancillas checker.mode size) ∧
      ((∀ entry ∈ entries, ∀ qubit ∈ entry.qubits, qubit ∉ ancillas checker.mode size) →
        (candidate.Keeps (.relative ℝ) bench.definitions →
          ∀ state : StateVector ℝ, state.numQubits = size → ∃ after,
            apply candidate (ownQubits size)
              (start (.holding state) checker.profile [] bench.definitions) = (.ok (), after)) ∧
        (candidate.Keeps .confined bench.definitions → verdict.status = .correct →
          checker.profile = .unrestricted → 0 < checker.tolerance → checker.tolerance ≤ 1 / 4 →
          PreparerFits bench.definitions size checker.mode preparer →
          ∀ inverse, reference.IsUndoneBy bench.definitions size inverse →
            inverse.HasProperControls →
              1 - checker.tolerance ≤ ((1 +
                ‖agreement bench.definitions size checker.mode candidate reference preparer‖) / 2)
                  ^ 2)) := by
  rcases issued_of_graded proper checked graded with ⟨entries, issued, placed⟩
  refine ⟨entries, issued, fun entry member => (placed entry member).2.2, ?_⟩
  intro offAncillas
  have complete : ∀ entry ∈ entries, entry.IsComplete := fun entry member => (placed entry member).1
  have distinct : ∀ entry ∈ entries, entry.qubits.Nodup :=
    fun entry member => (placed entry member).2.1
  have inside : ∀ entry ∈ entries, ∀ qubit ∈ entry.qubits, qubit ∈ targets size := by
    intro entry member qubit among
    exact ((placed entry member).2.2 qubit among).resolve_right
      (offAncillas entry member qubit among)
  constructor
  · intro keeps state sizeIs
    have moves : (Conduct.relative ℝ).Admits (· + 1) :=
      Conduct.admits_of_offsets 1 fun _ relative => relative
    exact completes_alone moves keeps issued complete distinct inside sizeIs
  · intro keeps correct unrestricted positive quarter preparerFits inverse isUndone inverseProper
    have moves : Conduct.confined.Admits (· + 1) :=
      Conduct.admits_of_offsets 1 fun _ relative => relative
    have alone := completes_alone moves keeps issued complete distinct inside
      (show (StateVector.zero size : StateVector ℝ).numQubits = size from rfl)
    rw [unrestricted] at alone
    have acts : candidate.ActsOn bench.definitions size :=
      ⟨(agrees_of_graded checked graded).candidate, keeps, alone⟩
    exact agreement_of_correct checked correct positive quarter unrestricted acts proper isUndone
      inverseProper preparerFits

/-- A flip that is checked against itself keeps to its target. -/
theorem flip_keeps_to_targets :
    let checker : EquivalenceChecker ℝ :=
      { tolerance := 1 / 4, mode := .operator, profile := .unrestricted }
    ∃ verdict later after,
      checker.check (flip ℝ) (flip ℝ) (1 : ℕ) none (.ofLimit .standard {}) = (.ok verdict, later) ∧
      verdict.status ≠ .executionError ∧
      apply (flip ℝ) (ownQubits 1) (start (.holding (.zero 1)) .unrestricted [] {}) =
        (.ok (), after) := by
  intro checker
  have noPreparer : PreparerFits {} 1 checker.mode none := fun _ isPreparer => nomatch isPreparer
  have roomy : (Bench.ofLimit .standard {} : Bench ℝ).arena.limit.isExceededBy
      (registerSize checker.mode (1 : ℕ)) = false := rfl
  rcases check_decides (one_div_pos.2 four_pos) (le_refl _) rfl rfl flip_acts trivial rfl
    flip_isUndone trivial rfl noPreparer rfl roomy with ⟨equivalent, phase, later, checked, -⟩
  have graded : (judge checker.mode (flip ℝ).name (flip ℝ).name
      (.decided equivalent phase)).status ≠ .executionError := by
    rw [judge_status]
    cases equivalent <;> exact nofun
  have proper : (flip ℝ).HasProperControls := trivial
  rcases graded_keeps_to_targets proper checked graded with ⟨entries, issued, -, alone⟩
  have here : ((flip ℝ).course {} (targets 1) .unrestricted).Issues [⟨.fixed .x, [1], []⟩] () :=
    .issue (.done ())
  rcases issued.unique here with ⟨rfl, -⟩
  have offAncillas : (1 : Int) ∉ ancillas .operator 1 := by decide
  have kept := alone (by
    intro entry member qubit among
    rw [List.mem_singleton.1 member] at among
    rw [List.mem_singleton.1 among]
    exact offAncillas)
  rcases kept.1 trivial (.zero 1) rfl with ⟨after, completes⟩
  exact ⟨_, later, after, checked, graded, completes⟩

/-! ## Candidates that reach the ancillas -/

/-- A body that flips the qubit behind the one it is given. -/
def stray : Operation ℝ :=
  .routine 1 "body" .all (.cons (.primitive (.fixed .x) [.offset 0 1]) .nil) .derived

theorem arePaired_iff (index : ℕ) :
    ArePaired [(0, 1)] index ↔
      (∀ qubit, 2 ≤ qubit → index.testBit qubit = false) ∧ index.testBit 0 = index.testBit 1 := by
  constructor
  · rintro ⟨ones, agree⟩
    refine ⟨?_, agree (0, 1) (List.mem_singleton.2 rfl)⟩
    intro qubit beyond
    by_contra one
    have among : qubit = 0 ∨ qubit = 1 := by
      simpa [pairedQubits] using ones qubit (Bool.not_eq_false _ ▸ one)
    omega
  · rintro ⟨zeros, agree⟩
    constructor
    · intro qubit one
      have near : qubit < 2 := by
        by_contra beyond
        rw [zeros qubit (not_lt.1 beyond)] at one
        cases one
      have among : qubit = 0 ∨ qubit = 1 := by omega
      simpa [pairedQubits] using among
    · intro pair member
      rw [List.mem_singleton.1 member]
      exact agree

/-- A flip of both qubits of an entangled pair does nothing. -/
theorem flip_pair {amplitudes : ℕ → ℂ} (isPaired : IsPaired [(0, 1)] amplitudes) :
    actAll [] [⟨.fixed .x, [0], []⟩] (actAll [] [⟨.fixed .x, [1], []⟩] amplitudes) =
      amplitudes := by
  have flipped : ∀ index, ∃ other,
      actAll [] [⟨.fixed .x, [0], []⟩] (actAll [] [⟨.fixed .x, [1], []⟩] amplitudes) index =
        amplitudes other ∧
      ∀ qubit, other.testBit qubit =
        if qubit < 2 then !(index.testBit qubit) else index.testBit qubit := by
    intro index
    have outer := act_flip 0 [] (actAll [] [⟨.fixed .x, [1], []⟩] amplitudes) index
    have inner := act_flip 1 [] amplitudes (Basis.setBit index 0 !(index.testBit 0))
    refine ⟨_, (outer.trans (if_pos rfl)).trans (inner.trans (if_pos rfl)), ?_⟩
    intro qubit
    rw [Basis.testBit_setBit, Basis.testBit_setBit, Basis.testBit_setBit]
    by_cases isOne : qubit = 1
    · simp [isOne]
    · by_cases isZero : qubit = 0
      · simp [isZero]
      · have beyond : ¬qubit < 2 := by omega
        simp [isOne, isZero, beyond]
  funext index
  rcases flipped index with ⟨other, value, bits⟩
  have same : ArePaired [(0, 1)] other ↔ ArePaired [(0, 1)] index := by
    have far : ∀ qubit, 2 ≤ qubit → other.testBit qubit = index.testBit qubit := by
      intro qubit beyond
      rw [bits, if_neg (not_lt.2 beyond)]
    have near : other.testBit 0 = other.testBit 1 ↔ index.testBit 0 = index.testBit 1 := by
      simp [bits]
    rw [arePaired_iff, arePaired_iff, near]
    constructor
    · rintro ⟨zeros, agree⟩
      exact ⟨fun qubit beyond => (far qubit beyond).symm.trans (zeros qubit beyond), agree⟩
    · rintro ⟨zeros, agree⟩
      exact ⟨fun qubit beyond => (far qubit beyond).trans (zeros qubit beyond), agree⟩
  rw [value]
  by_cases paired : ArePaired [(0, 1)] index
  · rw [isPaired.weight index paired, isPaired.weight other (same.2 paired)]
  · rw [isPaired.elsewhere index paired, isPaired.elsewhere other (mt same.1 paired)]

/-- A flip of the ancilla passes for a flip of the target, though the body fails on a register of
its own. -/
theorem correct_of_stray :
    let checker : EquivalenceChecker ℝ :=
      { tolerance := 1 / 4, mode := .operator, profile := .unrestricted }
    stray.HasProperControls ∧ (flip ℝ).IsUndoneBy {} 1 (flip ℝ) ∧
      (stray.course {} (targets 1) .unrestricted).Issues [⟨.fixed .x, [2], []⟩] () ∧
      (2 : Int) ∉ targets 1 ∧
      (∃ fault after, apply stray (ownQubits 1)
        (start (.holding (.zero 1)) .unrestricted [] ({} : Definitions ℝ)) =
          (.error fault, after) ∧ fault.kind = .qubitIndex) ∧
      ∃ verdict later,
        checker.check stray (flip ℝ) (1 : ℕ) none (.ofLimit .standard {}) = (.ok verdict, later) ∧
        verdict.status = .correct := by
  intro checker
  have preparation : Preparation {} .operator 1 none none (1 + 1) _ _ := preparation_operator
  let wrapped : Operation ℝ := .controlled stray 1 (Operation.controlledName 1 "body")
  have issued : (wrapped.course {} (probe :: targets 1) .unrestricted).Issues
      (underProbe [⟨.fixed .x, [1], []⟩]) () := .issue (.done ())
  have fits : QubitsFit (1 + (1 + 1)) [2, 0] := by decide
  have advances : Performs {} (1 + (1 + 1)) (applyAs .candidate stray.name .unrestricted wrapped
      (probe :: targets 1)) none (underProbe [⟨.fixed .x, [1], []⟩]) := by
    apply performs_applyAs .candidate stray.name (performs_apply issued ?_ ?_)
    · exact List.forall_mem_singleton.2 (isExact_single (Gate.isUnitary_fixed .x) rfl 2 [probe])
    · exact List.forall_mem_singleton.2 fits
  have isPaired : IsPaired [(0, 1)] (actAll [] (entanglers (ownPairs 1)) origin) :=
    isPaired_ownPairs 1
  have low : branch false (trialAmplitudes (behindProbe (entanglers (ownPairs 1)))
      (underProbe [⟨.fixed .x, [1], []⟩]) (underProbe [⟨.fixed .x, [0], []⟩])
      (behindProbe (disentanglers (ownPairs 1)))) 0 = evenWeight := by
    rw [branch_false_trial preparation.preparedFit preparation.unpreparedFit, Pi.smul_apply,
      preparation.restores, smul_eq_mul, mul_one]
  have high : branch true (trialAmplitudes (behindProbe (entanglers (ownPairs 1)))
      (underProbe [⟨.fixed .x, [1], []⟩]) (underProbe [⟨.fixed .x, [0], []⟩])
      (behindProbe (disentanglers (ownPairs 1)))) 0 = evenWeight * 1 := by
    have forwardFit : ∀ entry ∈ [(⟨.fixed .x, [1], []⟩ : TapeEntry ℝ)], entry.Fits (1 + 1) [] :=
      List.forall_mem_singleton.2 (show QubitsFit (1 + 1) [1] by decide)
    have backwardFit : ∀ entry ∈ [(⟨.fixed .x, [0], []⟩ : TapeEntry ℝ)], entry.Fits (1 + 1) [] :=
      List.forall_mem_singleton.2 (show QubitsFit (1 + 1) [0] by decide)
    rw [branch_true_trial preparation.preparedFit forwardFit backwardFit preparation.unpreparedFit,
      flip_pair isPaired, Pi.smul_apply, preparation.restores, smul_eq_mul]
  rcases check_flip_decides preparation rfl rfl advances low high with
    ⟨equivalent, phase, later, checked, decides⟩
  have accepted : equivalent = true := by
    rw [decides, norm_one]
    norm_num
  refine ⟨trivial, flip_isUndone, .issue (.done ()), by decide, ⟨_, _, rfl, rfl⟩, _, later, checked,
    ?_⟩
  rw [judge_status, if_pos accepted]

end EquivalenceChecker

end QuantumKata

end
