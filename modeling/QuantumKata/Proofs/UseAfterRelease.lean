import QuantumKata.Proofs.Issuing

/-!
# Use after release

A memory that has been released stays released: nothing that can be asked of it brings its state
back, and every access fails.  All accesses but two look for the state before they look at their
arguments, so they fail for the release alone.  Reading the probability of a single qubit and testing
qubits for zero resolve the qubits first; a list that does not stand for distinct qubits of the
register is refused for the qubits there, and the release goes unnoticed.

A memory that holds a state is never taken for a released one.
-/

namespace QuantumKata

namespace QubitIndex

/-- Indices that stand for distinct qubits of a register. -/
def AreQubits (numQubits : Nat) (indices : List QubitIndex) : Prop :=
  ∃ qubits : List Nat, StandFor indices qubits ∧ qubits.Nodup ∧ ∀ qubit ∈ qubits, qubit < numQubits

variable {word : String} {numQubits : Nat} {indices : List QubitIndex}

theorem areQubits_iff (word : String) : AreQubits numQubits indices ↔
    ∃ qubits, resolve word numQubits indices = .ok qubits :=
  exists_congr fun _ => resolve_eq_ok_iff.symm

theorem areQubits_nil : AreQubits numQubits [] :=
  ⟨[], standFor_nil.2 rfl, .nil, List.forall_mem_nil _⟩

/-- Indices are refused for their qubits and for nothing else. -/
theorem kind_of_resolveFrom_error {seen : List Nat} {fault : Fault}
    (refused : resolveFrom word numQubits seen indices = .error fault) :
    fault.kind = .qubitIndex := by
  induction indices generalizing seen with
  | nil => cases refused
  | cons index rest ih =>
    rw [resolveFrom] at refused
    split at refused
    · cases refused
      rfl
    · split at refused
      · split at refused
        · cases refused
          rfl
        · rcases later : resolveFrom word numQubits _ rest with found | qubits
          · rw [later] at refused
            cases refused
            exact ih later
          · rw [later] at refused
            cases refused
      · cases refused
        rfl

end QubitIndex

namespace Memory

open QubitIndex

variable {R : Type}

/-- What can be asked of a memory: all that reads or writes amplitudes, with any arguments. -/
inductive Access (R : Type) where
  | applyTensor (tensor : Tensor R) (targets controls : List QubitIndex)
  | applyMatrix (matrix : SquareMatrix R) (targets controls : List QubitIndex)
  | applyPhase (angle : R) (controls : List QubitIndex)
  | probabilities
  | qubitProbabilities
  | probabilityOfOne (qubit : QubitIndex)
  | amplitude (index : Int)
  | amplitudes
  | squaredNorm
  | isNormalized (tolerance : R)
  | isZero (indices : Option (List QubitIndex)) (tolerance : R)
  | measure (indices : List QubitIndex) (draws : Draws R)
  | reset (index : QubitIndex) (draws : Draws R)
  | snapshot
  | release

/-- The qubits that an access looks at before it looks for the state.  All qubits of the register
are never refused, so they need not be listed. -/
def Access.lookedAtFirst : Access R → List QubitIndex
  | probabilityOfOne qubit => [qubit]
  | isZero indices _ => indices.getD []
  | _ => []

variable [Scalar R]

/-- The memory after an access, or the fault that the access ends with.  Reading leaves the memory
as it is. -/
def perform (memory : Memory R) : Access R → Except Fault (Memory R)
  | .applyTensor tensor targets controls => memory.applyTensor tensor targets controls
  | .applyMatrix matrix targets controls => memory.applyMatrix matrix targets controls
  | .applyPhase angle controls => memory.applyPhase angle controls
  | .probabilities => memory.probabilities.map fun _ => memory
  | .qubitProbabilities => memory.qubitProbabilities.map fun _ => memory
  | .probabilityOfOne qubit => (memory.probabilityOfOne qubit).map fun _ => memory
  | .amplitude index => (memory.amplitude index).map fun _ => memory
  | .amplitudes => memory.live.map fun _ => memory
  | .squaredNorm => memory.squaredNorm.map fun _ => memory
  | .isNormalized tolerance => (memory.isNormalized tolerance).map fun _ => memory
  | .isZero indices tolerance => (memory.isZero indices tolerance).map fun _ => memory
  | .measure indices draws => (memory.measure indices draws).map fun (_, after, _) => after
  | .reset index draws => (memory.reset index draws).map fun (after, _) => after
  | .snapshot => memory.snapshot.map fun _ => memory
  | .release => memory.release

/-- The memory after an access has been tried; one that fails leaves it as it was. -/
def tried (memory : Memory R) (access : Access R) : Memory R :=
  (memory.perform access).toOption.getD memory

/-! ## A single access -/

/-- A released memory refuses an access for the qubits that it looks at first, or for the release. -/
theorem perform_released (numQubits : Nat) (access : Access R) :
    (released numQubits).perform access =
      (resolve qubitWord numQubits access.lookedAtFirst).bind fun _ => .error .stateReleased := by
  cases access with
  | probabilityOfOne qubit =>
    rw [perform, probabilityOfOne]
    simp only [Access.lookedAtFirst, Memory.numQubits]
    cases resolve qubitWord numQubits [qubit] <;> rfl
  | isZero indices tolerance =>
    rw [perform, isZero]
    cases indices with
    | none =>
      simp only [Memory.numQubits, Option.getD_none, resolve_range]
      rfl
    | some indices =>
      simp only [Access.lookedAtFirst, Memory.numQubits, Option.getD_some]
      cases resolve qubitWord numQubits indices <;> rfl
  | _ => rfl

/-- Once qubits have been looked at, a fault is one of the qubits or of what comes after. -/
theorem kind_of_resolve_bind {α : Type} {indices : List QubitIndex} {word : String}
    {numQubits : Nat} {next : List Nat → Except Fault α} {fault : Fault}
    (failed : (resolve word numQubits indices >>= next) = .error fault)
    (later : ∀ qubits, next qubits = .error fault → fault.kind ≠ .releasedRegister) :
    fault.kind ≠ .releasedRegister := by
  rcases looked : resolve word numQubits indices with refused | qubits
  · rw [looked] at failed
    cases failed
    rw [kind_of_resolveFrom_error looked]
    exact nofun
  · rw [looked] at failed
    exact later qubits failed

theorem error_of_map {α β : Type} {outcome : Except Fault α} {value : α → β} {fault : Fault}
    (failed : outcome.map value = .error fault) : outcome = .error fault := by
  cases outcome with
  | error =>
    cases failed
    rfl
  | ok => cases failed

/-- A memory that holds a state is not taken for a released one. -/
theorem kind_of_perform_holding {state : StateVector R} {access : Access R} {fault : Fault}
    (failed : (holding state).perform access = .error fault) : fault.kind ≠ .releasedRegister := by
  cases access with
  | applyTensor tensor targets controls =>
    refine kind_of_resolve_bind failed fun qubits refused => ?_
    split at refused
    · split at refused
      · split at refused <;> cases refused
      · cases refused
        exact nofun
    · cases refused
      exact nofun
  | applyMatrix matrix targets controls =>
    refine kind_of_resolve_bind failed fun qubits refused => ?_
    split at refused
    · split at refused <;> cases refused
    · cases refused
      exact nofun
  | applyPhase angle controls => exact kind_of_resolve_bind failed fun _ => nofun
  | probabilityOfOne qubit => exact kind_of_resolve_bind (error_of_map failed) fun _ => nofun
  | isZero indices tolerance => exact kind_of_resolve_bind (error_of_map failed) fun _ => nofun
  | amplitude index =>
    have refused : (if 0 ≤ index ∧ index < state.dimension then
        Except.ok (state.amplitude index.toNat) else .error (.basisIndexOutOfRange index)) =
          .error fault := error_of_map failed
    split at refused
    · cases refused
    · cases refused
      exact nofun
  | measure indices draws =>
    refine kind_of_resolve_bind (error_of_map failed) fun qubits refused => ?_
    dsimp only at refused
    split at refused
    · cases refused
      exact nofun
    · cases refused
  | reset index draws =>
    refine kind_of_resolve_bind (error_of_map failed) fun qubits refused => ?_
    dsimp only at refused
    split at refused
    · cases refused
      exact nofun
    · split at refused <;> cases refused
  | _ => cases failed

/-- An access is refused for the release exactly if the memory has been released and the qubits that
the access looks at first are qubits of the register. -/
theorem perform_eq_stateReleased_iff (memory : Memory R) (access : Access R) :
    memory.perform access = .error .stateReleased ↔
      memory.isReleased = true ∧ AreQubits memory.numQubits access.lookedAtFirst := by
  cases memory with
  | holding state =>
    refine ⟨fun failed => absurd rfl (kind_of_perform_holding failed), ?_⟩
    rintro ⟨⟨⟩, -⟩
  | released numQubits =>
    rw [perform_released, areQubits_iff qubitWord]
    refine ⟨fun failed => ⟨rfl, ?_⟩, ?_⟩
    · rcases looked : resolve qubitWord numQubits access.lookedAtFirst with refused | qubits
      · rw [looked] at failed
        cases failed
        exact nomatch kind_of_resolveFrom_error looked
      · exact ⟨qubits, looked⟩
    · rintro ⟨-, qubits, looked⟩
      have looked : resolve qubitWord numQubits access.lookedAtFirst = .ok qubits := looked
      rw [looked]
      rfl

/-- No access of a released memory succeeds. -/
theorem exists_perform_released (numQubits : Nat) (access : Access R) :
    ∃ fault, (released numQubits).perform access = .error fault ∧
      (fault.kind = .releasedRegister ∨ fault.kind = .qubitIndex) := by
  rw [perform_released]
  rcases looked : resolve qubitWord numQubits access.lookedAtFirst with fault | qubits
  · exact ⟨fault, rfl, .inr (kind_of_resolveFrom_error looked)⟩
  · exact ⟨.stateReleased, rfl, .inl rfl⟩

/-! ## Any number of accesses -/

theorem tried_released (numQubits : Nat) (access : Access R) :
    (released numQubits).tried access = .released numQubits := by
  rcases exists_perform_released numQubits access with ⟨fault, failed, -⟩
  rw [tried, failed]
  rfl

/-- Whatever is tried on a released memory, it stays released. -/
theorem foldl_tried_released (numQubits : Nat) (accesses : List (Access R)) :
    accesses.foldl tried (released numQubits) = .released numQubits := by
  induction accesses with
  | nil => rfl
  | cons access rest ih => rw [List.foldl_cons, tried_released, ih]

omit [Scalar R] in
/-- Only a memory that holds a state can be released, and the register keeps its size. -/
theorem release_eq_ok {memory after : Memory R} (given : memory.release = .ok after) :
    memory.isReleased = false ∧ after = .released memory.numQubits := by
  cases memory with
  | holding state =>
    cases given
    exact ⟨rfl, rfl⟩
  | released numQubits => cases given

/-- Use after release is recognised.  From the moment a memory is released every access fails,
whatever has been tried in between, and nothing brings the state back.  The fault is that of a
released state exactly if the qubits that the access looks at first are qubits of the register;
otherwise it is a fault of the qubits.  Before that moment no access has the fault of a released
state. -/
theorem released_recognised_iff {memory after : Memory R} (given : memory.release = .ok after)
    (between : List (Access R)) (access : Access R) :
    let now := between.foldl tried after
    now = after ∧
      (∃ fault, now.perform access = .error fault ∧
        (fault.kind = .releasedRegister ∨ fault.kind = .qubitIndex)) ∧
      (now.perform access = .error .stateReleased ↔
        AreQubits memory.numQubits access.lookedAtFirst) ∧
      ∀ fault, memory.perform access = .error fault → fault.kind ≠ .releasedRegister := by
  rcases release_eq_ok given with ⟨holds, rfl⟩
  dsimp only
  rw [foldl_tried_released]
  refine ⟨rfl, exists_perform_released _ access, ?_, ?_⟩
  · rw [perform_eq_stateReleased_iff]
    exact and_iff_right rfl
  · intro fault failed
    cases memory with
    | holding state => exact kind_of_perform_holding failed
    | released numQubits => cases holds

/-- A register of one qubit whose norm is asked for after a second release has been tried. -/
theorem released_recognised_of_norm :
    (holding (.zero 1) : Memory Float).release = .ok (.released 1) ∧
      ([Access.release].foldl tried (released 1 : Memory Float)).perform .squaredNorm =
        .error .stateReleased :=
  ⟨rfl, ((released_recognised_iff (rfl : (holding (.zero 1) : Memory Float).release = _)
    [.release] .squaredNorm).2.2.1).2 areQubits_nil⟩

/-- A qubit that the register does not have hides the release. -/
theorem released_hidden_by_stray_qubit :
    ∃ fault, (holding (.zero 1) : Memory Float).release = .ok (.released 1) ∧
      (released 1 : Memory Float).perform (.probabilityOfOne (.number 5)) = .error fault ∧
      (released 1 : Memory Float).perform (.isZero (some [.number 5]) 0) = .error fault ∧
      fault.kind = .qubitIndex :=
  ⟨.qubitOutOfRange qubitWord (QubitIndex.number 5).text 1, rfl, rfl, rfl, rfl⟩

end Memory

end QuantumKata
