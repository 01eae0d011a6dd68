import Mathlib.Data.List.Nodup
import Mathlib.Tactic.Ring
import QuantumKata.Basis

/-!
# Bits of an index

A gate reads the bits of its targets as a number and writes such a number back.  Writing puts the
bits of the number into the targets and leaves all other bits as they are; reading undoes writing,
and of two numbers that are written only the last one counts.

The bits of a list of qubits are the index of a basis state of a register of their own.  Reading and
writing in the part is the same as reading and writing in the whole.
-/

namespace QuantumKata

/-! ## Reading and writing bits -/

namespace Basis

theorem testBit_scatter_of_notMem {qubits : List Nat} {qubit : Nat} (absent : qubit ∉ qubits)
    (number index : Nat) : (scatter qubits number index).testBit qubit = index.testBit qubit := by
  induction qubits generalizing index with
  | nil => rfl
  | cons first rest ih =>
    rcases not_or.1 (mt List.mem_cons.2 absent) with ⟨apart, absent⟩
    rw [scatter, ih absent, testBit_setBit, if_neg apart]

/-- Writing a number into qubits puts its bits there, the first qubit most significant. -/
theorem testBit_scatter_getElem {qubits : List Nat} (distinct : qubits.Nodup)
    (number index : Nat) {position : Nat} (inside : position < qubits.length) :
    (scatter qubits number index).testBit qubits[position] =
      number.testBit (qubits.length - 1 - position) := by
  induction qubits generalizing index position with
  | nil => cases inside
  | cons first rest ih =>
    rcases List.nodup_cons.1 distinct with ⟨apart, distinct⟩
    cases position with
    | zero =>
      simp only [scatter, List.getElem_cons_zero]
      rw [testBit_scatter_of_notMem apart, testBit_setBit, if_pos rfl]
      rfl
    | succ position =>
      have within : position < rest.length := Nat.lt_of_succ_lt_succ inside
      simp only [scatter, List.getElem_cons_succ]
      rw [ih distinct _ within]
      congr 1
      simp only [List.length_cons]
      omega

theorem scatter_lt {qubits : List Nat} {numQubits index : Nat}
    (inRegister : index < count numQubits) (areQubits : ∀ qubit ∈ qubits, qubit < numQubits)
    (number : Nat) : scatter qubits number index < count numQubits := by
  induction qubits generalizing index with
  | nil => exact inRegister
  | cons first rest ih =>
    rcases List.forall_mem_cons.1 areQubits with ⟨isQubit, areQubits⟩
    exact ih (setBit_lt _ inRegister isQubit) areQubits

/-- Reading the bits of one more qubit. -/
theorem gather_cons (qubit : Nat) (rest : List Nat) (index : Nat) :
    gather (qubit :: rest) index =
      (index.testBit qubit).toNat * 2 ^ rest.length + gather rest index := by
  have general : ∀ (qubits : List Nat) (start : Nat),
      qubits.foldl (fun number qubit => 2 * number + (index.testBit qubit).toNat) start =
        start * 2 ^ qubits.length + gather qubits index := by
    intro qubits
    induction qubits with
    | nil => simp [gather]
    | cons first others ih =>
      intro start
      have here := ih (2 * start + (index.testBit first).toNat)
      have zero := ih (2 * 0 + (index.testBit first).toNat)
      rw [List.foldl_cons, here]
      unfold gather at zero ⊢
      rw [List.foldl_cons, zero, List.length_cons, Nat.pow_succ]
      ring
  rw [gather]
  rw [List.foldl_cons, general]
  simp [gather]

theorem gather_lt (qubits : List Nat) (index : Nat) :
    gather qubits index < 2 ^ qubits.length := by
  induction qubits with
  | nil => simp [gather]
  | cons first rest ih =>
    have bit := Bool.toNat_le (index.testBit first)
    have leading : (index.testBit first).toNat * 2 ^ rest.length ≤ 1 * 2 ^ rest.length :=
      Nat.mul_le_mul_right _ bit
    rw [gather_cons, List.length_cons, Nat.pow_succ]
    omega

/-- Reading undoes writing. -/
theorem gather_scatter {qubits : List Nat} (distinct : qubits.Nodup) (number index : Nat) :
    gather qubits (scatter qubits number index) = number % 2 ^ qubits.length := by
  induction qubits generalizing index with
  | nil => simp [gather, Nat.mod_one]
  | cons first rest ih =>
    rcases List.nodup_cons.1 distinct with ⟨apart, distinct⟩
    rw [scatter, gather_cons, ih distinct, testBit_scatter_of_notMem apart, testBit_setBit,
      if_pos rfl, List.length_cons, Nat.mod_pow_succ, Nat.toNat_testBit]
    ring

/-- Only as many bits of a number are written as there are qubits. -/
theorem scatter_mod (qubits : List Nat) (number index : Nat) {width : Nat}
    (enough : qubits.length ≤ width) :
    scatter qubits (number % 2 ^ width) index = scatter qubits number index := by
  induction qubits generalizing index with
  | nil => rfl
  | cons first rest ih =>
    have inside : rest.length < width := enough
    rw [scatter, scatter, ih _ inside.le, Nat.testBit_mod_two_pow]
    simp [inside]

/-- Writing back what has been read changes nothing. -/
theorem scatter_gather (qubits : List Nat) (index : Nat) :
    scatter qubits (gather qubits index) index = index := by
  induction qubits with
  | nil => rfl
  | cons first rest ih =>
    have small := gather_lt rest index
    have leading : (gather (first :: rest) index).testBit rest.length = index.testBit first := by
      rw [gather_cons, Nat.mul_comm, Nat.testBit_two_pow_mul_add _ small]
      cases index.testBit first <;> simp
    have lower : gather (first :: rest) index % 2 ^ rest.length = gather rest index := by
      rw [gather_cons, Nat.mul_comm, Nat.mul_add_mod, Nat.mod_eq_of_lt small]
    rw [scatter, leading, ← scatter_mod rest _ _ (le_refl _), lower]
    have same : setBit index first (index.testBit first) = index := by
      simp [setBit]
    rw [same, ih]

/-- Of two numbers that are written the last one counts. -/
theorem scatter_scatter {qubits : List Nat} (distinct : qubits.Nodup)
    (number earlier index : Nat) :
    scatter qubits number (scatter qubits earlier index) = scatter qubits number index := by
  apply Nat.eq_of_testBit_eq
  intro qubit
  by_cases member : qubit ∈ qubits
  · rcases List.mem_iff_getElem.1 member with ⟨position, inside, rfl⟩
    rw [testBit_scatter_getElem distinct number _ inside,
      testBit_scatter_getElem distinct number _ inside]
  · rw [testBit_scatter_of_notMem member, testBit_scatter_of_notMem member,
      testBit_scatter_of_notMem member]

/-- Writing into qubits of a register leaves an index outside the register outside. -/
theorem le_scatter {qubits : List Nat} (distinct : qubits.Nodup) {numQubits index : Nat}
    (areQubits : ∀ qubit ∈ qubits, qubit < numQubits) (number : Nat)
    (outside : count numQubits ≤ index) : count numQubits ≤ scatter qubits number index := by
  by_contra inside
  have back := scatter_lt (not_le.1 inside) areQubits (gather qubits index)
  rw [scatter_scatter distinct, scatter_gather] at back
  exact absurd outside (not_le.2 back)

end Basis

/-! ## Indices of a part of a register -/

namespace Basis

/-- The index with the bits of a part of the register replaced; bit `i` of the part is the bit of
the qubit at place `i`. -/
def embed (qubits : List Nat) (part index : Nat) : Nat := scatter qubits.reverse part index

/-- The qubit at a place. -/
def placed (qubits : List Nat) (place : Nat) : Nat := qubits.getD place 0

theorem placed_mem {qubits : List Nat} {place : Nat} (inside : place < qubits.length) :
    placed qubits place ∈ qubits := by
  rw [placed]
  rw [List.getD_eq_getElem?_getD, List.getElem?_eq_getElem inside]
  exact List.getElem_mem inside

theorem exists_placed {qubits : List Nat} {qubit : Nat} (member : qubit ∈ qubits) :
    ∃ place < qubits.length, placed qubits place = qubit := by
  rcases List.mem_iff_getElem.1 member with ⟨place, inside, rfl⟩
  refine ⟨place, inside, ?_⟩
  rw [placed]
  rw [List.getD_eq_getElem?_getD, List.getElem?_eq_getElem inside]
  rfl

theorem placed_inj {qubits : List Nat} (distinct : qubits.Nodup) {first second : Nat}
    (firstInside : first < qubits.length) (secondInside : second < qubits.length)
    (same : placed qubits first = placed qubits second) : first = second := by
  unfold placed at same
  simp only [List.getD_eq_getElem?_getD, List.getElem?_eq_getElem firstInside,
    List.getElem?_eq_getElem secondInside, Option.getD_some] at same
  exact (List.Nodup.getElem_inj_iff distinct).1 same

theorem testBit_embed_placed {qubits : List Nat} (distinct : qubits.Nodup) (part index : Nat)
    {place : Nat} (inside : place < qubits.length) :
    (embed qubits part index).testBit (placed qubits place) = part.testBit place := by
  have reversed : qubits.reverse.Nodup := List.nodup_reverse.2 distinct
  have position : qubits.length - 1 - place < qubits.reverse.length := by
    rw [List.length_reverse]
    omega
  have found : placed qubits place = qubits.reverse[qubits.length - 1 - place] := by
    rw [placed]
    rw [List.getD_eq_getElem?_getD, List.getElem?_eq_getElem inside, List.getElem_reverse]
    simp only [Option.getD_some]
    congr 1
    omega
  rw [embed, found, testBit_scatter_getElem reversed part index position, List.length_reverse]
  congr 1
  omega

theorem testBit_embed_of_notMem {qubits : List Nat} {qubit : Nat} (absent : qubit ∉ qubits)
    (part index : Nat) : (embed qubits part index).testBit qubit = index.testBit qubit :=
  testBit_scatter_of_notMem (mt List.mem_reverse.1 absent) part index

theorem embed_lt {qubits : List Nat} {numQubits index : Nat}
    (inRegister : index < count numQubits) (areQubits : ∀ qubit ∈ qubits, qubit < numQubits)
    (part : Nat) : embed qubits part index < count numQubits :=
  scatter_lt inRegister (fun qubit member => areQubits qubit (List.mem_reverse.1 member)) part

theorem allOne_append (first second : List Nat) (index : Nat) :
    allOne (first ++ second) index = (allOne first index && allOne second index) :=
  List.all_append

theorem allOne_congr {qubits : List Nat} {left right : Nat}
    (same : ∀ qubit ∈ qubits, left.testBit qubit = right.testBit qubit) :
    allOne qubits left = allOne qubits right := by
  unfold allOne
  induction qubits with
  | nil => rfl
  | cons first rest ih =>
    rcases List.forall_mem_cons.1 same with ⟨here, same⟩
    rw [List.all_cons, List.all_cons, here, ih same]

/-! A label that carries the bits of one index to those of another carries along what gates do with
the indices. -/

section Labels

variable {label : Nat → Nat} {whole part : Nat}

theorem allOne_map {qubits : List Nat}
    (along : ∀ qubit ∈ qubits, whole.testBit (label qubit) = part.testBit qubit) :
    allOne (qubits.map label) whole = allOne qubits part := by
  unfold allOne
  induction qubits with
  | nil => rfl
  | cons first rest ih =>
    rcases List.forall_mem_cons.1 along with ⟨here, along⟩
    rw [List.map_cons, List.all_cons, List.all_cons, here, ih along]

theorem gather_map {qubits : List Nat}
    (along : ∀ qubit ∈ qubits, whole.testBit (label qubit) = part.testBit qubit) :
    gather (qubits.map label) whole = gather qubits part := by
  unfold gather
  generalize (0 : Nat) = start
  induction qubits generalizing start with
  | nil => rfl
  | cons first rest ih =>
    rcases List.forall_mem_cons.1 along with ⟨here, along⟩
    rw [List.map_cons, List.foldl_cons, List.foldl_cons, here, ih along]

theorem testBit_scatter_map {qubits : List Nat} {qubit : Nat}
    (apart : ∀ other ∈ qubits, label other = label qubit → other = qubit)
    (along : whole.testBit (label qubit) = part.testBit qubit) (number : Nat) :
    (scatter (qubits.map label) number whole).testBit (label qubit) =
      (scatter qubits number part).testBit qubit := by
  induction qubits generalizing whole part with
  | nil => exact along
  | cons first rest ih =>
    rcases List.forall_mem_cons.1 apart with ⟨here, apart⟩
    rw [List.map_cons, scatter, scatter, List.length_map]
    apply ih apart
    rw [testBit_setBit, testBit_setBit, along]
    by_cases same : qubit = first
    · rw [if_pos same, if_pos (congrArg label same)]
    · rw [if_neg same, if_neg]
      intro equal
      exact same (here equal.symm).symm

end Labels

/-- Writing into qubits of a part is writing into the part. -/
theorem scatter_embed {qubits targets : List Nat} (distinct : qubits.Nodup)
    (areTargets : ∀ target ∈ targets, target < qubits.length) (number part index : Nat) :
    scatter (targets.map (placed qubits)) number (embed qubits part index) =
      embed qubits (scatter targets number part) index := by
  apply Nat.eq_of_testBit_eq
  intro qubit
  by_cases member : qubit ∈ qubits
  · rcases exists_placed member with ⟨place, inside, rfl⟩
    rw [testBit_embed_placed distinct _ index inside]
    apply testBit_scatter_map
    · intro other among same
      exact placed_inj distinct (areTargets other among) inside same
    · exact testBit_embed_placed distinct part index inside
  · have notTarget : qubit ∉ targets.map (placed qubits) := by
      intro among
      rcases List.mem_map.1 among with ⟨target, isTarget, rfl⟩
      exact member (placed_mem (areTargets target isTarget))
    rw [testBit_scatter_of_notMem notTarget, testBit_embed_of_notMem member,
      testBit_embed_of_notMem member]

end Basis

end QuantumKata
