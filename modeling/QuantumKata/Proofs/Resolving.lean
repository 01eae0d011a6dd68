import Mathlib.Data.List.Nodup
import QuantumKata.Memory

/-!
# Which lists of indices are accepted

A list of indices from outside is accepted exactly if each of them stands for a qubit of the
register and no qubit is named twice, and then the answer is the list of these qubits.  The word for
what the qubits are called turns up in faults only.
-/

namespace QuantumKata

namespace QubitIndex

/-- The qubits that indices from outside are numbers of. -/
def StandFor (indices : List QubitIndex) (qubits : List Nat) : Prop :=
  indices.map value? = qubits.map fun (qubit : Nat) => some (qubit : Int)

variable {word : String} {numQubits : Nat} {indices : List QubitIndex} {seen qubits : List Nat}

theorem standFor_nil : StandFor [] qubits ↔ qubits = [] := by
  rw [StandFor, List.map_nil, eq_comm, List.map_eq_nil_iff]

theorem standFor_cons {index : QubitIndex} :
    StandFor (index :: indices) qubits ↔
      ∃ qubit rest, qubits = qubit :: rest ∧ index.value? = some (qubit : Int) ∧
        StandFor indices rest := by
  cases qubits with
  | nil => simp [StandFor]
  | cons qubit rest => simp [StandFor]

theorem resolveFrom_cons_of_fits {index : QubitIndex} {qubit : Nat}
    (stands : index.value? = some (qubit : Int)) (inside : qubit < numQubits)
    (fresh : qubit ∉ seen) (indices : List QubitIndex) :
    resolveFrom word numQubits seen (index :: indices) =
      (resolveFrom word numQubits (qubit :: seen) indices).map (qubit :: ·) := by
  rw [resolveFrom, stands]
  simp [inside, fresh]

/-- The first of accepted indices stands for a qubit that is not among those seen before. -/
theorem exists_of_resolveFrom_cons {index : QubitIndex}
    (accepted : resolveFrom word numQubits seen (index :: indices) = .ok qubits) :
    ∃ qubit : Nat, index.value? = some (qubit : Int) ∧ qubit < numQubits ∧ qubit ∉ seen := by
  rw [resolveFrom] at accepted
  split at accepted
  case h_1 => cases accepted
  case h_2 value stands =>
    split at accepted
    case isFalse => cases accepted
    case isTrue bounds =>
      split at accepted
      case isTrue => cases accepted
      case isFalse fresh =>
        obtain ⟨qubit, rfl⟩ := Int.eq_ofNat_of_zero_le bounds.1
        exact ⟨qubit, stands, Int.ofNat_lt.1 bounds.2, by simpa using fresh⟩

theorem resolveFrom_eq_ok_iff :
    resolveFrom word numQubits seen indices = .ok qubits ↔
      StandFor indices qubits ∧ qubits.Nodup ∧ ∀ qubit ∈ qubits, qubit < numQubits ∧ qubit ∉ seen
      := by
  induction indices generalizing seen qubits with
  | nil =>
    rw [resolveFrom, standFor_nil]
    constructor
    · intro accepted
      cases accepted
      exact ⟨rfl, .nil, fun _ member => nomatch member⟩
    · rintro ⟨rfl, -⟩
      rfl
  | cons index indices ih =>
    constructor
    · intro accepted
      obtain ⟨qubit, stands, inside, fresh⟩ := exists_of_resolveFrom_cons accepted
      rw [resolveFrom_cons_of_fits stands inside fresh] at accepted
      obtain ⟨rest, later, rfl⟩ := Fault.map_eq_ok_iff.1 accepted
      obtain ⟨others, distinct, within⟩ := ih.1 later
      refine ⟨standFor_cons.2 ⟨qubit, rest, rfl, stands, others⟩, ?_, ?_⟩
      · exact List.nodup_cons.2 ⟨fun member => (within qubit member).2 List.mem_cons_self, distinct⟩
      · refine List.forall_mem_cons.2 ⟨⟨inside, fresh⟩, fun other member => ?_⟩
        exact ⟨(within other member).1, fun before =>
          (within other member).2 (List.mem_cons_of_mem qubit before)⟩
    · rintro ⟨stand, distinct, within⟩
      obtain ⟨qubit, rest, rfl, stands, others⟩ := standFor_cons.1 stand
      obtain ⟨apart, distinct⟩ := List.nodup_cons.1 distinct
      obtain ⟨⟨inside, fresh⟩, within⟩ := List.forall_mem_cons.1 within
      have later : resolveFrom word numQubits (qubit :: seen) indices = .ok rest := by
        refine ih.2 ⟨others, distinct, fun other member => ⟨(within other member).1, ?_⟩⟩
        rintro (_ | ⟨_, before⟩)
        · exact apart member
        · exact (within other member).2 before
      rw [resolveFrom_cons_of_fits stands inside fresh, later]
      rfl

/-- Indices are accepted exactly if they stand for distinct qubits of the register. -/
theorem resolve_eq_ok_iff :
    resolve word numQubits indices = .ok qubits ↔
      StandFor indices qubits ∧ qubits.Nodup ∧ ∀ qubit ∈ qubits, qubit < numQubits := by
  rw [resolve, resolveFrom_eq_ok_iff]
  simp

/-- What is accepted under one word is accepted under every other. -/
theorem resolve_congr_word {other : String} (accepted : resolve word numQubits indices = .ok qubits) :
    resolve other numQubits indices = .ok qubits :=
  resolve_eq_ok_iff.2 (resolve_eq_ok_iff.1 accepted)

end QubitIndex

end QuantumKata
