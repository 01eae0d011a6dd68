import QuantumKata.Proofs.Interference
import QuantumKata.Proofs.Reversal

/-!
# Entangled pairs

In operator mode every target is entangled with an ancilla.  Entangling pairs of distinct qubits one
after the other leaves the state in which the qubits of each pair agree and all values of the pairs
have the same weight, whatever the order is.

Undoing the pairs in the same order cancels entangling them in the reverse order.  So the amplitude
of zero after undoing them is the overlap with the entangled state.
-/

noncomputable section

namespace QuantumKata

open Complex

/-! ## The gates -/

/-- The gates that entangle pairs of qubits. -/
def entanglers : List (ℕ × ℕ) → List (TapeEntry ℝ)
  | [] => []
  | (target, ancilla) :: rest =>
    ⟨.fixed .h, [(ancilla : Int)], []⟩ :: ⟨.fixed .x, [(target : Int)], [(ancilla : Int)]⟩ ::
      entanglers rest

/-- The gates that undo the entanglement of pairs of qubits. -/
def disentanglers : List (ℕ × ℕ) → List (TapeEntry ℝ)
  | [] => []
  | (target, ancilla) :: rest =>
    ⟨.fixed .x, [(target : Int)], [(ancilla : Int)]⟩ :: ⟨.fixed .h, [(ancilla : Int)], []⟩ ::
      disentanglers rest

/-- The qubits of pairs. -/
def pairedQubits (pairs : List (ℕ × ℕ)) : List ℕ := pairs.flatMap fun pair => [pair.1, pair.2]

/-- Pairs of distinct qubits of a register. -/
structure PairsFit (numQubits : ℕ) (pairs : List (ℕ × ℕ)) : Prop where
  distinct : (pairedQubits pairs).Nodup
  bounded : ∀ qubit ∈ pairedQubits pairs, qubit < numQubits

theorem entanglers_append (first second : List (ℕ × ℕ)) :
    entanglers (first ++ second) = entanglers first ++ entanglers second := by
  induction first with
  | nil => rfl
  | cons pair rest ih => simp only [List.cons_append, entanglers, ih]

theorem mem_pairedQubits {pairs : List (ℕ × ℕ)} {qubit : ℕ} :
    qubit ∈ pairedQubits pairs ↔ ∃ pair ∈ pairs, qubit = pair.1 ∨ qubit = pair.2 := by
  simp [pairedQubits]

theorem mem_pairedQubits_concat {pairs : List (ℕ × ℕ)} {target ancilla qubit : ℕ} :
    qubit ∈ pairedQubits (pairs ++ [(target, ancilla)]) ↔
      qubit ∈ pairedQubits pairs ∨ qubit = target ∨ qubit = ancilla := by
  simp [pairedQubits]

/-! ## The entangled state -/

/-- Whether the ones of an index are in pairs whose qubits agree. -/
def ArePaired (pairs : List (ℕ × ℕ)) (index : ℕ) : Prop :=
  (∀ qubit, index.testBit qubit = true → qubit ∈ pairedQubits pairs) ∧
    ∀ pair ∈ pairs, index.testBit pair.1 = index.testBit pair.2

/-- The amplitudes of entangled pairs: all values of the pairs have the same weight. -/
structure IsPaired (pairs : List (ℕ × ℕ)) (amplitudes : ℕ → ℂ) : Prop where
  weight : ∀ index, ArePaired pairs index → amplitudes index = evenWeight ^ pairs.length
  elsewhere : ∀ index, ¬ArePaired pairs index → amplitudes index = 0

theorem isPaired_origin : IsPaired [] origin := by
  constructor
  · intro index paired
    have zero : index = 0 := by
      by_contra nonzero
      rcases Nat.exists_testBit_of_ne_zero nonzero with ⟨qubit, one⟩
      have member := paired.1 qubit one
      cases member
    simp [zero, basisAmplitudes]
  · intro index unpaired
    have nonzero : index ≠ 0 := by
      rintro rfl
      apply unpaired
      constructor
      · intro qubit one
        simp at one
      · intro pair member
        cases member
    simp [basisAmplitudes, nonzero]

theorem IsPaired.unique {pairs : List (ℕ × ℕ)} {first second : ℕ → ℂ}
    (isPaired : IsPaired pairs first) (alsoPaired : IsPaired pairs second) : first = second := by
  funext index
  by_cases paired : ArePaired pairs index
  · rw [isPaired.weight index paired, alsoPaired.weight index paired]
  · rw [isPaired.elsewhere index paired, alsoPaired.elsewhere index paired]

theorem mem_pairedQubits_reverse {pairs : List (ℕ × ℕ)} {qubit : ℕ} :
    qubit ∈ pairedQubits pairs.reverse ↔ qubit ∈ pairedQubits pairs := by
  simp only [mem_pairedQubits, List.mem_reverse]

/-- The order of the pairs does not matter. -/
theorem IsPaired.reverse {pairs : List (ℕ × ℕ)} {amplitudes : ℕ → ℂ}
    (isPaired : IsPaired pairs.reverse amplitudes) : IsPaired pairs amplitudes := by
  have same : ∀ index, ArePaired pairs.reverse index ↔ ArePaired pairs index := by
    intro index
    unfold ArePaired
    simp only [mem_pairedQubits_reverse, List.mem_reverse]
  constructor
  · intro index paired
    rw [isPaired.weight index ((same index).2 paired), List.length_reverse]
  · intro index unpaired
    exact isPaired.elsewhere index (mt (same index).1 unpaired)

section OnePair

variable {pairs : List (ℕ × ℕ)} {target ancilla : ℕ} {amplitudes : ℕ → ℂ}

/-- The index before a pair is entangled: the target is flipped back where the ancilla reads one,
and the ancilla is cleared. -/
def beforePair (target ancilla index : ℕ) : ℕ :=
  Basis.setBit (if index.testBit ancilla then Basis.setBit index target !(index.testBit target)
    else index) ancilla false

theorem testBit_beforePair (target ancilla index qubit : ℕ) :
    (beforePair target ancilla index).testBit qubit =
      if qubit = ancilla then false
      else if qubit = target then index.testBit target != index.testBit ancilla
      else index.testBit qubit := by
  rw [beforePair]
  rw [Basis.testBit_setBit]
  by_cases isAncilla : qubit = ancilla
  · rw [if_pos isAncilla, if_pos isAncilla]
  · rw [if_neg isAncilla, if_neg isAncilla]
    cases one : index.testBit ancilla with
    | false =>
      by_cases isTarget : qubit = target
      · simp [isTarget]
      · simp [isTarget]
    | true =>
      rw [if_pos rfl, Basis.testBit_setBit]
      by_cases isTarget : qubit = target
      · simp [isTarget]
      · simp [isTarget]

/-- An index is paired exactly if it was paired before and the qubits of the new pair agree. -/
theorem arePaired_append (apart : target ≠ ancilla)
    (freshTarget : target ∉ pairedQubits pairs)
    (freshAncilla : ancilla ∉ pairedQubits pairs) (index : ℕ) :
    ArePaired (pairs ++ [(target, ancilla)]) index ↔
      ArePaired pairs (beforePair target ancilla index) := by
  have bits := testBit_beforePair target ancilla index
  have unchanged : ∀ qubit ∈ pairedQubits pairs,
      (beforePair target ancilla index).testBit qubit = index.testBit qubit := by
    intro qubit among
    have notAncilla : qubit ≠ ancilla := fun same => freshAncilla (same ▸ among)
    have notTarget : qubit ≠ target := fun same => freshTarget (same ▸ among)
    rw [bits, if_neg notAncilla, if_neg notTarget]
  have agree_iff : (∀ pair ∈ pairs, (beforePair target ancilla index).testBit pair.1 =
      (beforePair target ancilla index).testBit pair.2) ↔
        ∀ pair ∈ pairs, index.testBit pair.1 = index.testBit pair.2 := by
    refine forall₂_congr fun pair member => ?_
    rw [unchanged _ (mem_pairedQubits.2 ⟨pair, member, .inl rfl⟩),
      unchanged _ (mem_pairedQubits.2 ⟨pair, member, .inr rfl⟩)]
  rw [ArePaired, ArePaired, agree_iff, List.forall_mem_append, List.forall_mem_singleton]
  constructor
  · rintro ⟨ones, agree, last⟩
    refine ⟨fun qubit one => ?_, agree⟩
    rw [bits] at one
    by_cases isAncilla : qubit = ancilla
    · rw [if_pos isAncilla] at one
      cases one
    by_cases isTarget : qubit = target
    · simp [isTarget, last] at one
    rw [if_neg isAncilla, if_neg isTarget] at one
    exact (mem_pairedQubits_concat.1 (ones qubit one)).resolve_right
      (not_or_intro isTarget isAncilla)
  · rintro ⟨ones, agree⟩
    refine ⟨fun qubit one => mem_pairedQubits_concat.2 ?_, agree, ?_⟩
    · by_cases isNew : qubit = target ∨ qubit = ancilla
      · exact .inr isNew
      · rcases not_or.1 isNew with ⟨notTarget, notAncilla⟩
        refine .inl (ones qubit ?_)
        rw [bits, if_neg notAncilla, if_neg notTarget, one]
    · by_contra different
      refine freshTarget (ones target ?_)
      rw [bits, if_neg apart, if_pos rfl]
      simpa using different

/-- Entangling a further pair multiplies the weight. -/
theorem act_entanglers (freshAncilla : ancilla ∉ pairedQubits pairs)
    (isPaired : IsPaired pairs amplitudes) (index : ℕ) :
    actAll [] (entanglers [(target, ancilla)]) amplitudes index =
      evenWeight * amplitudes (beforePair target ancilla index) := by
  have unpaired : ∀ other, amplitudes (Basis.setBit other ancilla true) = 0 := by
    intro other
    apply isPaired.elsewhere
    rintro ⟨ones, -⟩
    apply freshAncilla
    apply ones
    rw [Basis.testBit_setBit, if_pos rfl]
  have superposed : ∀ other, (⟨.fixed .h, [(ancilla : Int)], []⟩ : TapeEntry ℝ).act [] amplitudes
      other = evenWeight * amplitudes (Basis.setBit other ancilla false) := by
    intro other
    rw [act_hadamard, unpaired, mul_zero, add_zero]
  change (⟨.fixed .x, [(target : Int)], [(ancilla : Int)]⟩ : TapeEntry ℝ).act [] _ index = _
  rw [act_flip, superposed, superposed]
  rw [beforePair]
  cases one : index.testBit ancilla with
  | false => simp [Basis.allOne, one]
  | true => simp [Basis.allOne, one]

theorem isPaired_step (apart : target ≠ ancilla) (freshTarget : target ∉ pairedQubits pairs)
    (freshAncilla : ancilla ∉ pairedQubits pairs) (isPaired : IsPaired pairs amplitudes) :
    IsPaired (pairs ++ [(target, ancilla)])
      (actAll [] (entanglers [(target, ancilla)]) amplitudes) := by
  constructor
  · intro index paired
    rw [act_entanglers freshAncilla isPaired,
      isPaired.weight _ ((arePaired_append apart freshTarget freshAncilla index).1 paired),
      List.length_append, List.length_singleton, pow_succ']
  · intro index unpaired
    rw [act_entanglers freshAncilla isPaired, isPaired.elsewhere _
      (mt (arePaired_append apart freshTarget freshAncilla index).2 unpaired), mul_zero]

end OnePair

/-- Entangling further pairs of distinct qubits. -/
theorem isPaired_entanglers (rest : List (ℕ × ℕ)) {pairs : List (ℕ × ℕ)} {amplitudes : ℕ → ℂ}
    (distinct : (pairedQubits (pairs ++ rest)).Nodup) (isPaired : IsPaired pairs amplitudes) :
    IsPaired (pairs ++ rest) (actAll [] (entanglers rest) amplitudes) := by
  induction rest generalizing pairs amplitudes with
  | nil => rwa [List.append_nil]
  | cons pair rest ih =>
    rcases pair with ⟨target, ancilla⟩
    have split : pairs ++ (target, ancilla) :: rest = (pairs ++ [(target, ancilla)]) ++ rest := by
      simp
    have here : (pairedQubits pairs ++ [target, ancilla]).Nodup := by
      have whole := distinct
      rw [split] at whole
      rw [pairedQubits] at whole ⊢
      rw [List.flatMap_append, List.flatMap_append] at whole
      simpa using whole.of_append_left
    rcases List.nodup_append.1 here with ⟨-, two, fresh⟩
    have apart : target ≠ ancilla := by simpa using two
    have step := isPaired_step apart
      (fun member => fresh target member target (by simp) rfl)
      (fun member => fresh ancilla member ancilla (by simp) rfl) isPaired
    rw [split] at distinct ⊢
    exact ih distinct step

/-! ## Pairs of a register -/

section Fitting

variable {numQubits : ℕ} {pairs : List (ℕ × ℕ)}

theorem PairsFit.pair {pair : ℕ × ℕ} (fit : PairsFit numQubits pairs) (member : pair ∈ pairs) :
    QubitsFit numQubits [(pair.1 : Int), (pair.2 : Int)] := by
  have apart := (List.nodup_flatMap.1 fit.distinct).1 pair member
  have first := fit.bounded pair.1 (mem_pairedQubits.2 ⟨pair, member, .inl rfl⟩)
  have second := fit.bounded pair.2 (mem_pairedQubits.2 ⟨pair, member, .inr rfl⟩)
  constructor
  · simpa using apart
  · intro qubit isQubit
    rcases List.mem_cons.1 isQubit with rfl | isSecond
    · omega
    · rw [List.mem_singleton.1 isSecond]
      omega

theorem PairsFit.tail {pair : ℕ × ℕ} (fit : PairsFit numQubits (pair :: pairs)) :
    PairsFit numQubits pairs := by
  have split : pairedQubits (pair :: pairs) = [pair.1, pair.2] ++ pairedQubits pairs := rfl
  constructor
  · have distinct := fit.distinct
    rw [split] at distinct
    exact distinct.of_append_right
  · intro qubit member
    apply fit.bounded
    rw [split]
    exact List.mem_append_right _ member

theorem PairsFit.reverse (fit : PairsFit numQubits pairs) : PairsFit numQubits pairs.reverse := by
  constructor
  · have same : (pairedQubits pairs.reverse).Perm (pairedQubits pairs) :=
      pairs.reverse_perm.flatMap_right _
    exact same.nodup_iff.2 fit.distinct
  · intro qubit member
    exact fit.bounded qubit (mem_pairedQubits_reverse.1 member)

theorem entanglers_exact (pairs : List (ℕ × ℕ)) : ∀ entry ∈ entanglers pairs, entry.IsExact := by
  induction pairs with
  | nil => simp [entanglers]
  | cons pair rest ih =>
    refine List.forall_mem_cons.2 ⟨?_, List.forall_mem_cons.2 ⟨?_, ih⟩⟩
    · exact Engine.isExact_single (Gate.isUnitary_fixed .h) rfl _ _
    · exact Engine.isExact_single (Gate.isUnitary_fixed .x) rfl _ _

theorem entanglers_fit (fit : PairsFit numQubits pairs) :
    ∀ entry ∈ entanglers pairs, entry.Fits numQubits [] := by
  induction pairs with
  | nil => simp [entanglers]
  | cons pair rest ih =>
    have here := fit.pair List.mem_cons_self
    refine List.forall_mem_cons.2 ⟨?_, List.forall_mem_cons.2 ⟨here, ih fit.tail⟩⟩
    have both : QubitsFit numQubits ([(pair.1 : Int)] ++ [(pair.2 : Int)]) := here
    exact both.right

/-- Undoing pairs cancels entangling them in the reverse order. -/
theorem cancel_entanglers (pairs : List (ℕ × ℕ)) :
    Cancel (entanglers pairs.reverse) (disentanglers pairs) := by
  induction pairs with
  | nil => exact .nil
  | cons pair rest ih =>
    have superposed : Cancel [⟨.fixed .h, [(pair.2 : Int)], []⟩]
        [⟨.fixed .h, [(pair.2 : Int)], []⟩] :=
      .singleton (Engine.isExact_single (Gate.isUnitary_fixed .h) rfl _ _) rfl
    have flipped : Cancel [⟨.fixed .x, [(pair.1 : Int)], [(pair.2 : Int)]⟩]
        [⟨.fixed .x, [(pair.1 : Int)], [(pair.2 : Int)]⟩] :=
      .singleton (Engine.isExact_single (Gate.isUnitary_fixed .x) rfl _ _) rfl
    rw [List.reverse_cons, entanglers_append]
    exact ih.append (superposed.append flipped)

theorem disentanglers_fit (fit : PairsFit numQubits pairs) :
    ∀ entry ∈ disentanglers pairs, entry.Fits numQubits [] :=
  ((cancel_entanglers pairs).fits_iff numQubits []).1 (entanglers_fit fit.reverse)

/-- The amplitude of zero after undoing pairs is the overlap with the entangled state. -/
theorem disentanglers_zero (fit : PairsFit numQubits pairs) (amplitudes : ℕ → ℂ) :
    actAll [] (disentanglers pairs) amplitudes 0 =
      overlap numQubits (actAll [] (entanglers pairs.reverse) origin) amplitudes := by
  have fits := entanglers_fit fit.reverse
  have cancels := (cancel_entanglers pairs).forth numQubits [] fits amplitudes
  have kept := overlap_actAll (cancel_entanglers pairs).firstExact fits origin
    (actAll [] (disentanglers pairs) amplitudes)
  rw [cancels, overlap_basisAmplitudes (Nat.two_pow_pos _)] at kept
  exact kept.symm

end Fitting

/-! ## Entangling on an engine -/

namespace EquivalenceChecker

open Engine

/-- A pair of qubits behind the probe. -/
def pairBehindProbe (pair : ℕ × ℕ) : Int × Int := ((pair.1 : Int) + 1, (pair.2 : Int) + 1)

section Performing

variable {definitions : Definitions ℝ} {numQubits : ℕ} {pairs : List (ℕ × ℕ)}

theorem fits_pairBehindProbe {pair : ℕ × ℕ}
    (fits : QubitsFit numQubits [(pair.1 : Int), (pair.2 : Int)]) :
    QubitsFit (1 + numQubits) [(pairBehindProbe pair).1, (pairBehindProbe pair).2] := by
  rcases fits with ⟨distinct, bounded⟩
  have apart : pair.1 ≠ pair.2 := by simpa using distinct
  have first := bounded pair.1 (by simp)
  have second := bounded pair.2 (by simp)
  constructor
  · simpa [pairBehindProbe] using apart
  · intro qubit isQubit
    rcases List.mem_cons.1 isQubit with rfl | isSecond
    · rw [pairBehindProbe]
      omega
    · rw [List.mem_singleton.1 isSecond]
      rw [pairBehindProbe]
      omega

theorem performs_entangle (fit : PairsFit numQubits pairs) :
    Performs definitions (1 + numQubits) (entangle (pairs.map pairBehindProbe)) ()
      (behindProbe (entanglers pairs)) := by
  induction pairs with
  | nil => exact performs_pure ()
  | cons pair rest ih =>
    have fits := fits_pairBehindProbe (fit.pair List.mem_cons_self)
    have ancillaFits : QubitsFit (1 + numQubits) [(pairBehindProbe pair).2] :=
      @QubitsFit.right (1 + numQubits) [(pairBehindProbe pair).1] _ fits
    exact (performs_hadamard ancillaFits).bind ((performs_cnot fits).bind (ih fit.tail))

theorem performs_disentangle (fit : PairsFit numQubits pairs) :
    Performs definitions (1 + numQubits) (disentangle (pairs.map pairBehindProbe)) ()
      (behindProbe (disentanglers pairs)) := by
  induction pairs with
  | nil => exact performs_pure ()
  | cons pair rest ih =>
    have fits := fits_pairBehindProbe (fit.pair List.mem_cons_self)
    have ancillaFits : QubitsFit (1 + numQubits) [(pairBehindProbe pair).2] :=
      @QubitsFit.right (1 + numQubits) [(pairBehindProbe pair).1] _ fits
    exact (performs_cnot fits).bind ((performs_hadamard ancillaFits).bind (ih fit.tail))

end Performing

end EquivalenceChecker

end QuantumKata

end
