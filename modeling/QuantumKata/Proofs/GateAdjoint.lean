import QuantumKata.Proofs.Adjoint
import QuantumKata.Proofs.SingleQubit

/-!
# The two adjoints of a gate

A gate has an adjoint of its own, which a tape that is played backwards issues, and the operation of
the gate has an adjoint that is built from it.  The two are chosen by different questions: the gate
asks for its kind first, the operation asks for its name first.  The questions agree for all gates
but the custom ones that bear the name of a fixed gate that is its own partner.  Apart from these
the adjoint operation consists of the adjoint gate, so it does the same on every engine, and either
of them is missing exactly if the other is.

Such a custom gate has an adjoint too, which undoes it; but the adjoint of its operation is that
operation itself.
-/

noncomputable section

namespace QuantumKata

/-! ## Operations of a single gate -/

namespace Operation

/-- An operation that consists of a gate. -/
inductive Wraps {R : Type} (primitive : Gate R) : Operation R → Prop where
  | gate (name : String) : Wraps primitive (.gate primitive name)
  | linked {core : Operation R} (partner : Operation R) (wraps : Wraps primitive core) :
    Wraps primitive (.linked core partner)

section Generic

variable {R : Type} [Scalar R] {primitive : Gate R} {operation : Operation R}

omit [Scalar R] in
theorem Wraps.numQubits_eq (wraps : operation.Wraps primitive) :
    operation.numQubits = primitive.numQubits := by
  induction wraps with
  | gate name => rfl
  | linked partner wraps ih => exact ih

theorem Wraps.runBody_eq (wraps : operation.Wraps primitive) (scope : Scope R)
    (qubits : List Int) :
    Engine.runBody scope operation qubits = Engine.gate primitive qubits := by
  induction wraps with
  | gate name => rw [Engine.runBody]
  | linked partner wraps ih => rw [Engine.runBody, ih]

/-- On as many qubits as the gate acts on, the operation is the gate. -/
theorem Wraps.apply_eq (wraps : operation.Wraps primitive) {qubits : List Int}
    (complete : qubits.length = primitive.numQubits) :
    Engine.apply operation qubits = Engine.gate primitive qubits := by
  have checked : Engine.checkArity operation qubits = .ok () := by
    rw [Engine.checkArity, wraps.numQubits_eq, complete]
    simp
  funext engine
  rw [Engine.apply, checked]
  exact congrFun (wraps.runBody_eq engine.scope qubits) engine

/-- A gate with the name of a fixed gate that is its own partner has an operation that is its own
adjoint, whatever the gate does. -/
theorem adjoint_of_isSelfAdjoint (selfAdjoint : primitive.isSelfAdjoint = true) (name : String) :
    (gate primitive name).adjoint = .ok (gate primitive name) := by
  rw [adjoint, if_pos selfAdjoint]

/-- A gate that its name does not give away has the adjoint of its operation built from its own. -/
theorem adjoint_eq_map (honest : primitive.HasHonestName) (name : String) :
    (gate primitive name).adjoint = primitive.adjoint.map fun undone =>
      if primitive.isSelfAdjoint then gate primitive name
      else linked (gate undone undone.text) (gate primitive name) := by
  rw [adjoint]
  cases selfAdjoint : primitive.isSelfAdjoint with
  | true =>
    rw [Gate.adjoint_of_isSelfAdjoint honest selfAdjoint]
    rfl
  | false => rfl

theorem wraps_adjoint (honest : primitive.HasHonestName) {name : String} {undone : Gate R}
    {inverse : Operation R} (undoneBuilt : primitive.adjoint = .ok undone)
    (built : (gate primitive name).adjoint = .ok inverse) : inverse.Wraps undone := by
  rcases adjoint_gate built with ⟨selfAdjoint, rfl⟩ | ⟨other, otherBuilt, rfl⟩
  · rw [Gate.adjoint_of_isSelfAdjoint honest selfAdjoint] at undoneBuilt
    cases undoneBuilt
    exact .gate name
  · rw [otherBuilt] at undoneBuilt
    cases undoneBuilt
    exact .linked _ (.gate _)

end Generic

end Operation

/-! ## Gates that end well -/

namespace Engine

section Generic

variable {R : Type} [Scalar R]

theorem gate_of_length_ne {primitive : Gate R} {qubits : List Int}
    (wrong : qubits.length ≠ primitive.numQubits) (engine : Engine R) :
    gate primitive qubits engine =
      (.error (.gateArity primitive.text primitive.numQubits qubits.length), engine) := by
  rw [gate, if_pos wrong]
  rfl

theorem apply_of_length_ne {operation : Operation R} {qubits : List Int}
    (wrong : (qubits.length : Int) ≠ operation.numQubits) (engine : Engine R) :
    apply operation qubits engine =
      (.error (.operationArity operation.name operation.numQubits qubits.length), engine) := by
  rw [apply, checkArity, if_pos wrong]
  rfl

/-- Playing the tape of a single gate backwards issues the adjoint of the gate. -/
theorem undoTape_singleton {primitive undone : Gate R} (built : primitive.adjoint = .ok undone)
    (qubits : List Int) : undoTape [⟨primitive, qubits, []⟩] = gate undone qubits := by
  have bare : undoEntry (⟨primitive, qubits, []⟩ : TapeEntry R) = gate undone qubits := by
    rw [undoEntry, built]
    change controlledBy [] (gate undone qubits) = gate undone qubits
    rw [Course.gate_eq]
    exact controlledBy_nil (fun engine => Course.play_keeps_frame _ engine)
  change (undoEntry _ >>= fun _ => pure ()) = _
  rw [bare]
  exact bind_pure _

/-- A gate ends well without a tape exactly if the profile in force has it and it fits into a live
register, and then it has acted on the state. -/
theorem gate_eq_ok_iff {primitive : Gate R} {qubits : List Int} {engine after : Engine R}
    (noTape : engine.tapes = []) :
    gate primitive qubits engine = (.ok (), after) ↔
      (TapeEntry.mk primitive qubits []).IsComplete ∧
        engine.profile.allows (instructionKind primitive) = true ∧
        ∃ state, engine.memory = .holding state ∧
          (TapeEntry.mk primitive qubits []).Fits state.numQubits engine.controls ∧
          after = { engine with
            memory := .holding
              ((TapeEntry.mk primitive qubits []).onState engine.controls state) } := by
  by_cases complete : (TapeEntry.mk primitive qubits []).IsComplete
  · rw [and_iff_right complete]
    have arity : qubits.length = primitive.numQubits := complete
    cases allowed : engine.profile.allows (instructionKind primitive) with
    | false => simp [gate, arity, Action.bind_apply, require, allowed]
    | true =>
      have reached : gate primitive qubits engine =
          Engine.carryOutEntry ⟨primitive, qubits, []⟩ engine := by
        rw [carryOutEntry, controlledBy_nil (carryOut_keeps_frame primitive qubits)]
        simp [gate, arity, Action.bind_apply, require, allowed]
      rw [reached, carryOutEntry_onMemory _ noTape]
      cases live : engine.memory with
      | released size =>
        cases primitive <;> simp [TapeEntry.onMemory, Memory.applyPhase, Memory.applyMatrix,
          Memory.live, bind, Except.bind]
      | holding state =>
        have onMemory := TapeEntry.onMemory_holding complete engine.controls state
        cases acted : (TapeEntry.mk primitive qubits []).onMemory engine.controls
            (.holding state) with
        | error fault =>
          constructor
          · intro ended
            cases ended
          · rintro ⟨-, other, same, fits, -⟩
            cases same
            rw [(onMemory _).2 ⟨fits, rfl⟩] at acted
            cases acted
        | ok memory =>
          rcases (onMemory memory).1 acted with ⟨fits, rfl⟩
          constructor
          · intro ended
            exact ⟨rfl, state, rfl, fits, (congrArg Prod.snd ended).symm⟩
          · rintro ⟨-, other, same, -, rfl⟩
            cases same
            rfl
  · have arity : qubits.length ≠ primitive.numQubits := complete
    rw [gate_of_length_ne arity]
    simp [complete]

end Generic

end Engine

/-! ## The adjoint of a gate undoes it -/

namespace Engine

/-- Work after which other work ends well and leaves everything as it was, whenever it ends well
itself and no tape is recording. -/
def IsTakenBackBy (work other : EngineAction ℝ Unit) : Prop :=
  ∀ engine after, engine.tapes = [] → work engine = (.ok (), after) → other after = (.ok (), engine)

/-- Of two gates that cancel, and are allowed by the same profiles, each takes the other back. -/
theorem isTakenBackBy_of_cancel {first second : Gate ℝ} {qubits : List Int}
    (cancel : (TapeEntry.mk first qubits []).IsComplete →
      Cancel [⟨first, qubits, []⟩] [⟨second, qubits, []⟩])
    (kinds : instructionKind second = instructionKind first) :
    IsTakenBackBy (gate first qubits) (gate second qubits) := by
  intro engine after noTape ended
  rcases (gate_eq_ok_iff noTape).1 ended with ⟨complete, allowed, state, live, fits, rfl⟩
  have cancel := cancel complete
  have firstExact := List.forall_mem_singleton.1 cancel.firstExact
  have secondExact := List.forall_mem_singleton.1 cancel.secondExact
  have fit := List.forall_mem_singleton.2 fits
  have secondFits := List.forall_mem_singleton.1 ((cancel.fits_iff _ _).1 fit)
  have back : (TapeEntry.mk second qubits []).onState engine.controls
      ((TapeEntry.mk first qubits []).onState engine.controls state) = state := by
    apply StateVector.ext_value
    · rw [TapeEntry.onState_numQubits, TapeEntry.onState_numQubits]
    · rw [TapeEntry.value_onState secondExact (by rwa [TapeEntry.onState_numQubits]),
        TapeEntry.value_onState firstExact fits]
      exact cancel.back _ _ fit _
  refine (gate_eq_ok_iff (by exact noTape)).2 ⟨secondExact.2, ?_, _, rfl, ?_, ?_⟩
  · rw [kinds]
    exact allowed
  · rwa [TapeEntry.onState_numQubits]
  · simp only [back, ← live]

end Engine

namespace Gate

theorem instructionKind_adjoint {R : Type} [Scalar R] {primitive undone : Gate R}
    (built : primitive.adjoint = .ok undone) :
    Engine.instructionKind undone = Engine.instructionKind primitive := by
  cases primitive with
  | custom primitive =>
    rcases adjoint_custom.1 built with ⟨matrix, found, rfl⟩
    rfl
  | _ =>
    cases built
    rfl

/-- A unitary gate and its adjoint take each other back. -/
theorem isTakenBackBy_adjoint {primitive undone : Gate ℝ} (unitary : primitive.IsUnitary)
    (built : primitive.adjoint = .ok undone) (qubits : List Int) :
    Engine.IsTakenBackBy (Engine.gate primitive qubits) (Engine.gate undone qubits) ∧
      Engine.IsTakenBackBy (Engine.gate undone qubits) (Engine.gate primitive qubits) := by
  have kinds := instructionKind_adjoint built
  have sizes := adjoint_numQubits built
  have single : (TapeEntry.mk primitive qubits []).IsComplete →
      Cancel [⟨primitive, qubits, []⟩] [⟨undone, qubits, []⟩] := fun complete =>
    @Cancel.singleton ⟨primitive, qubits, []⟩ undone ⟨unitary, complete⟩ built
  constructor
  · exact Engine.isTakenBackBy_of_cancel single kinds
  · exact Engine.isTakenBackBy_of_cancel (fun complete => (single (complete.trans sizes)).symm)
      kinds.symm

/-- The adjoint of the operation of a gate and the adjoint of the gate are missing together, do the
same on every engine, and are what playing a tape backwards issues, for every gate that its name
does not make its own adjoint against its kind.  Exactly computed, the adjoint of a unitary gate
undoes it whatever its name is, and so does the adjoint of the operation for the names in
question. -/
theorem adjoints_agree (name : String) :
    (∀ {R : Type} [Scalar R] (primitive : Gate R), primitive.HasHonestName →
      (∀ fault, (Operation.gate primitive name).adjoint = .error fault ↔
        primitive.adjoint = .error fault) ∧
      ∀ inverse undone, (Operation.gate primitive name).adjoint = .ok inverse →
        primitive.adjoint = .ok undone → ∀ qubits,
          Engine.undoTape [⟨primitive, qubits, []⟩] = Engine.gate undone qubits ∧
          (qubits.length = primitive.numQubits →
            Engine.apply inverse qubits = Engine.gate undone qubits) ∧
          (qubits.length ≠ primitive.numQubits → ∀ engine, ∃ fault other,
            Engine.apply inverse qubits engine = (.error fault, engine) ∧
            Engine.gate undone qubits engine = (.error other, engine) ∧
            fault.kind = .dimensionMismatch ∧ other.kind = .dimensionMismatch)) ∧
    ∀ primitive : Gate ℝ, primitive.IsUnitary →
      ∃ undone, primitive.adjoint = .ok undone ∧
        (∀ qubits,
          Engine.IsTakenBackBy (Engine.gate primitive qubits) (Engine.gate undone qubits) ∧
          Engine.IsTakenBackBy (Engine.gate undone qubits) (Engine.gate primitive qubits)) ∧
        (primitive.HasHonestName →
          ∃ inverse, (Operation.gate primitive name).adjoint = .ok inverse ∧ ∀ qubits,
            Engine.IsTakenBackBy (Engine.apply (.gate primitive name) qubits)
              (Engine.apply inverse qubits) ∧
            Engine.IsTakenBackBy (Engine.apply inverse qubits)
              (Engine.apply (.gate primitive name) qubits)) := by
  constructor
  · intro R _ primitive honest
    have built_eq := Operation.adjoint_eq_map honest name
    refine ⟨fun fault => ?_, fun inverse undone built undoneBuilt qubits => ⟨?_, ?_, ?_⟩⟩
    · rw [built_eq]
      cases primitive.adjoint <;> simp [Except.map]
    · exact Engine.undoTape_singleton undoneBuilt qubits
    · intro complete
      have wraps := Operation.wraps_adjoint honest undoneBuilt built
      exact wraps.apply_eq (complete.trans (adjoint_numQubits undoneBuilt).symm)
    · intro wrong engine
      have wraps := Operation.wraps_adjoint honest undoneBuilt built
      have sizes := adjoint_numQubits undoneBuilt
      refine ⟨_, _, Engine.apply_of_length_ne ?_ engine, Engine.gate_of_length_ne ?_ engine,
        rfl, rfl⟩
      · rw [wraps.numQubits_eq, sizes]
        exact fun same => wrong (Int.ofNat.inj same)
      · rwa [sizes]
  · intro primitive unitary
    rcases exists_adjoint unitary with ⟨undone, undoneBuilt⟩
    refine ⟨undone, undoneBuilt, isTakenBackBy_adjoint unitary undoneBuilt, fun honest => ?_⟩
    have built := Operation.adjoint_eq_map honest name
    rw [undoneBuilt] at built
    refine ⟨_, built, fun qubits => ?_⟩
    have wraps := Operation.wraps_adjoint honest undoneBuilt built
    have sizes := adjoint_numQubits undoneBuilt
    by_cases complete : qubits.length = primitive.numQubits
    · rw [wraps.apply_eq (complete.trans sizes.symm),
        (Operation.Wraps.gate name).apply_eq complete]
      exact isTakenBackBy_adjoint unitary undoneBuilt qubits
    · constructor
      · intro engine after _ ended
        rw [Engine.apply_of_length_ne (fun same => complete (Int.ofNat.inj same))] at ended
        cases ended
      · intro engine after _ ended
        rw [Engine.apply_of_length_ne] at ended
        · cases ended
        · rw [wraps.numQubits_eq, sizes]
          exact fun same => complete (Int.ofNat.inj same)

/-- A turn by the angle whose cosine is three fifths, under a name. -/
def turnNamed (name : String) : Gate ℝ :=
  .custom ⟨name, 1, .ofRows (.ofReal 0.6) (.ofReal (-0.8)) (.ofReal 0.8) (.ofReal 0.6), rfl⟩

theorem isUnitary_turnNamed (name : String) : (turnNamed name).IsUnitary := by
  apply SquareMatrix.ofRows_unitary <;> simp <;> norm_num [map_ofNat]

theorem adjoints_agree_of_turn :
    (turnNamed "U").HasHonestName ∧ ∃ inverse undone,
      (Operation.gate (turnNamed "U") "U").adjoint = .ok inverse ∧
      (turnNamed "U").adjoint = .ok undone ∧
      Engine.apply inverse [0] = Engine.gate undone [0] ∧
      Engine.IsTakenBackBy (Engine.apply (.gate (turnNamed "U") "U") [0])
        (Engine.apply inverse [0]) := by
  have honest : (turnNamed "U").HasHonestName := by
    intro _
    rw [isSelfAdjoint]
    have unknown : FixedGate.ofName? "U" = none := by decide
    exact congrArg (Option.any FixedGate.isSelfAdjoint) unknown
  rcases (adjoints_agree "U").2 (turnNamed "U") (isUnitary_turnNamed "U") with
    ⟨undone, undoneBuilt, -, restores⟩
  rcases restores honest with ⟨inverse, built, takenBack⟩
  refine ⟨honest, inverse, undone, built, undoneBuilt, ?_, (takenBack [0]).1⟩
  have agrees := ((adjoints_agree "U").1 (turnNamed "U") honest).2 inverse undone built undoneBuilt
  exact (agrees [0]).2.1 rfl

theorem act_turnNamed (name : String) (amplitudes : ℕ → ℂ) (index : ℕ) :
    (⟨turnNamed name, [0], []⟩ : TapeEntry ℝ).act [] amplitudes index =
      (if index.testBit 0 then 0.8 else 0.6) * amplitudes (Basis.setBit index 0 false) +
        (if index.testBit 0 then 0.6 else -0.8) * amplitudes (Basis.setBit index 0 true) := by
  have first : ∀ bit : Bool, (turnNamed name).matrix.entry bit.toNat 0 =
      .ofReal (if bit then 0.8 else 0.6) := by
    intro bit
    cases bit <;> rfl
  have second : ∀ bit : Bool, (turnNamed name).matrix.entry bit.toNat 1 =
      .ofReal (if bit then 0.6 else -0.8) := by
    intro bit
    cases bit <;> rfl
  have acted := @TapeEntry.act_single (turnNamed name) rfl 0 [] amplitudes index
  rw [first, second] at acted
  refine Eq.trans acted ?_
  cases index.testBit 0 <;> simp [Basis.allOne]

/-- After a turn and the same turn once more the first amplitude is not what it was. -/
theorem value_turned_twice :
    ((TapeEntry.mk (turnNamed "X") [0] []).onState []
      ((TapeEntry.mk (turnNamed "X") [0] []).onState [] (.zero 1))).value 0 = -(7 / 25) := by
  have exact : (TapeEntry.mk (turnNamed "X") [0] []).IsExact := ⟨isUnitary_turnNamed "X", rfl⟩
  have fits : (TapeEntry.mk (turnNamed "X") [0] []).Fits 1 [] := by
    change QubitsFit 1 [0]
    decide
  have start : (StateVector.zero 1 : StateVector ℝ).value = basisAmplitudes 0 :=
    StateVector.value_basis (by decide)
  rw [TapeEntry.value_onState exact (by rwa [TapeEntry.onState_numQubits]),
    TapeEntry.value_onState exact fits, start, act_turnNamed, act_turnNamed, act_turnNamed]
  simp [basisAmplitudes, Basis.setBit, Basis.count]
  norm_num

/-- A custom gate that bears the name of a flip: the adjoint of its operation is the operation
itself, which is not what the adjoint of the gate does. -/
theorem adjoints_disagree :
    (turnNamed "X").IsUnitary ∧ ∃ inverse undone,
      (Operation.gate (turnNamed "X") "X").adjoint = .ok inverse ∧
      (turnNamed "X").adjoint = .ok undone ∧
      Engine.apply inverse [0] (Engine.start (.holding (.zero 1)) .unrestricted [] {}) ≠
        Engine.gate undone [0] (Engine.start (.holding (.zero 1)) .unrestricted [] {}) := by
  have unitary := isUnitary_turnNamed "X"
  have selfAdjoint : (turnNamed "X").isSelfAdjoint = true := by
    have known : FixedGate.ofName? "X" = some .x := FixedGate.ofName?_name .x
    exact congrArg (Option.any FixedGate.isSelfAdjoint) known
  have built := Operation.adjoint_of_isSelfAdjoint selfAdjoint "X"
  rcases exists_adjoint unitary with ⟨undone, undoneBuilt⟩
  refine ⟨unitary, _, undone, built, undoneBuilt, fun same => ?_⟩
  rw [(Operation.Wraps.gate "X").apply_eq rfl] at same
  have fits : (TapeEntry.mk (turnNamed "X") [0] []).Fits 1 [] := by
    change QubitsFit 1 [0]
    decide
  have ended : Engine.gate (turnNamed "X") [0]
      (Engine.start (.holding (.zero 1)) .unrestricted [] {}) = (.ok (), _) :=
    (Engine.gate_eq_ok_iff rfl).2 ⟨rfl, rfl, .zero 1, rfl, fits, rfl⟩
  have again := (isTakenBackBy_adjoint unitary undoneBuilt [0]).2 _ _ rfl (same.symm.trans ended)
  rcases (Engine.gate_eq_ok_iff rfl).1 again with ⟨-, -, state, live, -, back⟩
  cases live
  have memories := congrArg Engine.memory back
  have values := congrArg (fun state : StateVector ℝ => state.value 0) (Memory.holding.inj memories)
  have start : (StateVector.zero 1 : StateVector ℝ).value 0 = 1 := by
    rw [StateVector.zero, StateVector.value_basis (by decide)]
    rfl
  have turned := start.symm.trans (values.trans value_turned_twice)
  norm_num at turned

end Gate

end QuantumKata

end
