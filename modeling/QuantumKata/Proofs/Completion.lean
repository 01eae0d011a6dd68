import QuantumKata.Proofs.Checking
import QuantumKata.Proofs.Outline

/-!
# What a check does by itself

Around the bodies that it is given a check applies gates of its own and looks at the register.  All
of this ends well: the register is live and large enough, and no controls, tape or profile are in
force, whatever the bodies before have done.  So a trial that does not come to a decision owes this
to a body, or to a norm that was lost.
-/

namespace QuantumKata

namespace Engine

variable {R α β : Type} {size : Nat}

/-- The register is live and of a size, and nothing is in force. -/
structure IsReady (size : Nat) (engine : Engine R) : Prop where
  noControls : engine.controls = []
  unrestricted : engine.profile = .unrestricted
  noTape : engine.tapes = []
  extent : engine.memory.extent = (size, false)

theorem IsReady.of_outline {before after : Engine R} (ready : before.IsReady size)
    (same : after.outline = before.outline) : after.IsReady size := by
  simp only [outline, frame, layout, Prod.mk.injEq] at same
  rcases same with ⟨⟨controls, profile, -⟩, extent, tapes⟩
  rw [ready.noTape] at tapes
  constructor
  case noControls => exact controls.trans ready.noControls
  case unrestricted => exact profile.trans ready.unrestricted
  case noTape => exact List.map_eq_nil_iff.1 tapes
  case extent => exact extent.trans ready.extent

theorem isReady_start (size : Nat) [Scalar R] (definitions : Definitions R) :
    (start (.holding (.zero size)) .unrestricted [] definitions).IsReady size :=
  ⟨rfl, rfl, rfl, rfl⟩

/-- Work that ends well on every engine that is ready, and leaves it ready. -/
def EndsWell (size : Nat) (action : EngineAction R α) : Prop :=
  ∀ engine, engine.IsReady size →
    ∃ value after, action engine = (.ok value, after) ∧ after.IsReady size

theorem endsWell_pure (value : α) : EndsWell (R := R) size (pure value) :=
  fun engine ready => ⟨value, engine, rfl, ready⟩

theorem EndsWell.bind {action : EngineAction R α} {next : α → EngineAction R β}
    (first : EndsWell size action) (second : ∀ value, EndsWell size (next value)) :
    EndsWell size (action >>= next) := by
  intro engine ready
  rcases first engine ready with ⟨value, between, done, readyBetween⟩
  rw [Action.bind_of_ok done]
  exact second value between readyBetween

variable [Scalar R]

theorem endsWell_apply {operation : Operation R} {qubits : List Int}
    {entries : List (TapeEntry R)}
    (issued : ∀ definitions, (operation.course definitions qubits .unrestricted).Issues entries ())
    (complete : ∀ entry ∈ entries, entry.IsComplete)
    (fit : ∀ entry ∈ entries, entry.Fits size []) : EndsWell size (apply operation qubits) := by
  intro engine ready
  rcases Memory.exists_state_of_extent ready.extent with ⟨state, live, numQubits⟩
  have kept := apply_keeps_outline operation qubits engine
  have fitHere : ∀ entry ∈ entries, entry.Fits state.numQubits engine.controls := by
    rw [numQubits, ready.noControls]
    exact fit
  rcases (issued engine.definitions).play engine ready.noTape live complete fitHere with
    ⟨elapsed, played⟩
  have applied := apply_eq operation qubits engine
  rw [ready.unrestricted, played] at applied
  rw [applied] at kept
  exact ⟨(), _, applied, ready.of_outline kept⟩

end Engine

namespace EquivalenceChecker

open Engine

variable {R : Type} [Scalar R] {size : Nat}

/-! ## The gates of a check -/

theorem endsWell_hadamard {qubit : Int} (fits : QubitsFit size [qubit]) :
    EndsWell (R := R) size (applyConstant (.fixed .h) [qubit]) := by
  apply endsWell_apply
  · exact fun _ => .issue (.done ())
  · exact List.forall_mem_singleton.2 rfl
  · exact List.forall_mem_singleton.2 fits

theorem endsWell_cnot {control target : Int} (fits : QubitsFit size [target, control]) :
    EndsWell (R := R) size (applyConstant .cnot [control, target]) := by
  apply endsWell_apply
  · exact fun _ => .issue (.done ())
  · exact List.forall_mem_singleton.2 rfl
  · exact List.forall_mem_singleton.2 fits

theorem endsWell_turn (angle : R) {qubit : Int} (fits : QubitsFit size [qubit]) :
    EndsWell size (apply (.rotation .r1 angle) [qubit]) := by
  apply endsWell_apply
  · exact fun _ => .issue (.done ())
  · exact List.forall_mem_singleton.2 rfl
  · exact List.forall_mem_singleton.2 fits

theorem fits_ancilla {target ancilla : Int} (fits : QubitsFit size [target, ancilla]) :
    QubitsFit size [ancilla] :=
  ⟨(List.nodup_cons.1 fits.1).2, fun qubit member => fits.2 qubit (List.mem_cons_of_mem _ member)⟩

theorem endsWell_entangle {pairs : List (Int × Int)}
    (fit : ∀ pair ∈ pairs, QubitsFit size [pair.1, pair.2]) :
    EndsWell (R := R) size (entangle pairs) := by
  induction pairs with
  | nil => exact endsWell_pure ()
  | cons pair rest ih =>
    rcases pair with ⟨target, ancilla⟩
    rcases List.forall_mem_cons.1 fit with ⟨fits, fit⟩
    exact (endsWell_hadamard (fits_ancilla fits)).bind fun _ =>
      (endsWell_cnot fits).bind fun _ => ih fit

theorem endsWell_disentangle {pairs : List (Int × Int)}
    (fit : ∀ pair ∈ pairs, QubitsFit size [pair.1, pair.2]) :
    EndsWell (R := R) size (disentangle pairs) := by
  induction pairs with
  | nil => exact endsWell_pure ()
  | cons pair rest ih =>
    rcases pair with ⟨target, ancilla⟩
    rcases List.forall_mem_cons.1 fit with ⟨fits, fit⟩
    exact (endsWell_cnot fits).bind fun _ =>
      (endsWell_hadamard (fits_ancilla fits)).bind fun _ => ih fit

/-- The pairs of a check lie in its register. -/
theorem fit_pairs (numQubits : Nat) : ∀ pair ∈ pairs numQubits,
    QubitsFit (registerSize .operator numQubits).toNat [pair.1, pair.2] := by
  intro pair member
  rcases List.mem_map.1 member with ⟨position, among, rfl⟩
  have bound := List.mem_range.1 among
  constructor
  · simp only [List.nodup_cons, List.mem_singleton, List.not_mem_nil, not_false_eq_true,
      List.nodup_nil, and_true]
    omega
  · intro qubit isOne
    simp only [List.mem_cons, List.not_mem_nil, or_false] at isOne
    simp only [registerSize]
    omega

/-! ## What a check looks at -/

theorem exists_amplitude {engine : Engine R} {index : Int} (ready : engine.IsReady size)
    (inside : 0 ≤ index ∧ index < Basis.count size) :
    ∃ amplitude, engine.memory.amplitude index = .ok amplitude := by
  rcases Memory.exists_state_of_extent ready.extent with ⟨state, live, rfl⟩
  refine ⟨state.amplitude index.toNat, ?_⟩
  rw [live]
  exact if_pos inside

theorem exists_isNormalized {engine : Engine R} (ready : engine.IsReady size) (tolerance : R) :
    ∃ isNormal, engine.memory.isNormalized tolerance = .ok isNormal := by
  rcases Memory.exists_state_of_extent ready.extent with ⟨state, live, rfl⟩
  exact ⟨state.isNormalized tolerance, by rw [live]; rfl⟩

theorem exists_isZero {engine : Engine R} (ready : engine.IsReady size) (tolerance : R) :
    ∃ isZero, engine.memory.isZero none tolerance = .ok isZero := by
  rcases Memory.exists_state_of_extent ready.extent with ⟨state, live, rfl⟩
  refine ⟨state.isZeroOn (List.range state.numQubits) tolerance, ?_⟩
  rw [live, Memory.isZero]
  simp only [Memory.numQubits, Option.getD_none, QubitIndex.resolve_range]
  rfl

theorem endsWell_alignPhase (some : 1 ≤ size) (tolerance : R) :
    EndsWell size (alignPhase tolerance) := by
  intro engine ready
  have two : 1 < Basis.count size := Nat.one_lt_two_pow (by omega)
  have probeFits : QubitsFit size [probe] := by
    refine ⟨by decide, List.forall_mem_singleton.2 ⟨Int.le_refl 0, ?_⟩⟩
    exact Int.natCast_pos.2 some
  rcases @exists_amplitude _ _ _ engine 0 ready (by omega) with ⟨low, lowIs⟩
  rcases @exists_amplitude _ _ _ engine 1 ready (by omega) with ⟨high, highIs⟩
  simp only [alignPhase, Action.bind_apply, Action.inspect, Action.ofExcept, lowIs, highIs]
  split
  · exact endsWell_pure none engine ready
  · split
    · exact ((endsWell_turn _ probeFits).bind fun _ => endsWell_pure _) engine ready
    · exact endsWell_pure _ engine ready

end EquivalenceChecker

end QuantumKata
