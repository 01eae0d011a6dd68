import Mathlib.Algebra.Order.BigOperators.Group.List
import Mathlib.Algebra.Ring.Int.Defs
import Mathlib.Algebra.Ring.Nat
import Mathlib.Data.List.Nodup
import Mathlib.Data.List.Perm.Subperm
import QuantumKata.Equivalence

/-!
# Splitting a register

A register is split into groups of given sizes if the sizes add up to the number of its qubits, and
each group begins where the sizes before it add up to.  Nothing else is asked of the sizes.  As long
as none of them is negative every group begins where the one before it ends, and the groups are the
qubits of the register cut into pieces.

A negative size makes an empty group and takes the start of the next one back.  The other sizes then
add up to more than the register has, so that the groups together are longer than the register:
a qubit is in two of them, or a number in one of them is no qubit.
-/

namespace QuantumKata

namespace Register

/-! ## Runs of qubits -/

/-- So many numbers in order, from a starting one on. -/
def runFrom (start : Int) (count : Nat) : List Int :=
  (List.range count).map fun (offset : Nat) => start + offset

@[simp]
theorem length_runFrom (start : Int) (count : Nat) : (runFrom start count).length = count := by
  rw [runFrom, List.length_map, List.length_range]

theorem mem_runFrom {start number : Int} {count : Nat} :
    number ∈ runFrom start count ↔ start ≤ number ∧ number < start + count := by
  rw [runFrom, List.mem_map]
  constructor
  · rintro ⟨offset, inside, rfl⟩
    have := List.mem_range.1 inside
    omega
  · rintro ⟨atLeast, below⟩
    refine ⟨(number - start).toNat, List.mem_range.2 (by omega), by omega⟩

theorem nodup_runFrom (start : Int) (count : Nat) : (runFrom start count).Nodup := by
  refine List.Nodup.map (fun left right same => ?_) List.nodup_range
  have : start + (left : Int) = start + right := same
  omega

/-- A run goes on where another one ends. -/
theorem runFrom_add (start : Int) (first second : Nat) :
    runFrom start (first + second) = runFrom start first ++ runFrom (start + first) second := by
  rw [runFrom, List.range_add, List.map_append, List.map_map]
  congr 1
  refine List.map_congr_left fun offset _ => ?_
  simp only [Function.comp_apply, Int.natCast_add]
  omega

variable {R : Type}

theorem qubits_eq (register : Register R) :
    register.qubits = runFrom 0 register.numQubits.toNat := by
  refine List.map_congr_left fun offset _ => ?_
  exact (Int.zero_add _).symm

/-! ## Groups -/

theorem groupsFrom_cons (start size : Int) (rest : List Int) :
    groupsFrom start (size :: rest) =
      runFrom start size.toNat :: groupsFrom (start + size) rest := rfl

theorem map_length_groupsFrom (start : Int) (sizes : List Int) :
    (groupsFrom start sizes).map List.length = sizes.map Int.toNat := by
  induction sizes generalizing start with
  | nil => rfl
  | cons size rest ih =>
    rw [groupsFrom_cons, List.map_cons, List.map_cons, length_runFrom, ih]

theorem length_flatten_groupsFrom (start : Int) (sizes : List Int) :
    (groupsFrom start sizes).flatten.length = (sizes.map Int.toNat).sum := by
  rw [List.length_flatten, map_length_groupsFrom]

/-- Each group by itself names no qubit twice. -/
theorem nodup_of_mem_groupsFrom {start : Int} {sizes group : List Int}
    (member : group ∈ groupsFrom start sizes) : group.Nodup := by
  induction sizes generalizing start with
  | nil => cases member
  | cons size rest ih =>
    rw [groupsFrom_cons] at member
    rcases List.mem_cons.1 member with rfl | later
    · exact nodup_runFrom _ _
    · exact ih later

/-- By induction on the sizes: a group that is not of negative size ends where the next one
begins. -/
theorem flatten_groupsFrom (start : Int) {sizes : List Int} (proper : ∀ size ∈ sizes, 0 ≤ size) :
    (groupsFrom start sizes).flatten = runFrom start sizes.sum.toNat := by
  induction sizes generalizing start with
  | nil => rfl
  | cons size rest ih =>
    obtain ⟨here, later⟩ := List.forall_mem_cons.1 proper
    have positive : 0 ≤ rest.sum := List.sum_nonneg later
    have start_eq : start + size = start + (size.toNat : Int) := by omega
    have sum_eq : (size :: rest).sum.toNat = size.toNat + rest.sum.toNat := by
      rw [List.sum_cons]
      omega
    rw [groupsFrom_cons, List.flatten_cons, ih _ later, sum_eq, runFrom_add, start_eq]

/-! ## Sizes -/

/-- Sizes add up to at most what they add up to without the negative ones. -/
theorem sum_le_sum_toNat (sizes : List Int) : sizes.sum ≤ ((sizes.map Int.toNat).sum : Int) := by
  induction sizes with
  | nil => exact Int.le_refl _
  | cons size rest ih =>
    rw [List.sum_cons, List.map_cons, List.sum_cons, Int.natCast_add]
    omega

/-- They add up to the same only if none is negative. -/
theorem nonneg_of_sum_toNat_le {sizes : List Int}
    (fits : ((sizes.map Int.toNat).sum : Int) ≤ sizes.sum) : ∀ size ∈ sizes, 0 ≤ size := by
  induction sizes with
  | nil => exact List.forall_mem_nil _
  | cons size rest ih =>
    rw [List.sum_cons, List.map_cons, List.sum_cons, Int.natCast_add] at fits
    have bound := sum_le_sum_toNat rest
    exact List.forall_mem_cons.2 ⟨by omega, ih (by omega)⟩

/-- The groups have the sizes that were asked for exactly if none of them is negative. -/
theorem lengths_eq_iff (start : Int) (sizes : List Int) :
    (groupsFrom start sizes).map (fun group => (group.length : Int)) = sizes ↔
      ∀ size ∈ sizes, 0 ≤ size := by
  have each : (groupsFrom start sizes).map (fun group => (group.length : Int)) =
      sizes.map fun size => (size.toNat : Int) := by
    have counted := congrArg (List.map Int.ofNat) (map_length_groupsFrom start sizes)
    rwa [List.map_map, List.map_map] at counted
  have alike : sizes.map (fun size => (size.toNat : Int)) = sizes ↔
      ∀ size ∈ sizes, (size.toNat : Int) = size := by
    conv_lhs => rw [← List.map_id sizes, List.map_map, List.map_inj_left]
    rfl
  rw [each, alike]
  exact forall₂_congr fun size _ => by omega

/-! ## Partitions -/

/-- Groups have the given sizes and are, one after the other, the qubits of a register. -/
structure IsPartition (register : Register R) (sizes : List Int) (groups : List (List Int)) :
    Prop where
  sizes : groups.map (fun group => (group.length : Int)) = sizes
  qubits : groups.flatten = register.qubits

theorem split_eq_ok_iff {register : Register R} {sizes : List Int} {groups : List (List Int)} :
    register.split sizes = .ok groups ↔
      sizes.sum = register.numQubits ∧ groups = groupsFrom 0 sizes := by
  have sum_eq : sumOfSizes sizes = sizes.sum := rfl
  rw [split, sum_eq]
  by_cases agree : sizes.sum = register.numQubits
  · rw [if_pos agree, Except.ok.injEq]
    exact ⟨fun same => ⟨agree, same.symm⟩, fun both => both.2.symm⟩
  · rw [if_neg agree]
    exact ⟨nofun, fun both => absurd both.1 agree⟩

/-- The groups of sizes that add up to the size of a register are its qubits if none of the sizes is
negative. -/
theorem flatten_eq_qubits {register : Register R} {sizes : List Int}
    (agree : sizes.sum = register.numQubits) (proper : ∀ size ∈ sizes, 0 ≤ size) :
    (groupsFrom 0 sizes).flatten = register.qubits := by
  rw [flatten_groupsFrom 0 proper, agree, qubits_eq]

/-- Groups that hold no more qubits than the register come from sizes of which none is negative. -/
theorem nonneg_of_length_le {register : Register R} {sizes : List Int}
    (agree : sizes.sum = register.numQubits)
    (fits : ((groupsFrom 0 sizes).flatten.length : Int) ≤ register.numQubits) :
    ∀ size ∈ sizes, 0 ≤ size := by
  rw [length_flatten_groupsFrom, ← agree] at fits
  exact nonneg_of_sum_toNat_le fits

/-- Distinct qubits of a register are not more than the register has. -/
theorem length_le_of_qubits {register : Register R} (sized : 0 ≤ register.numQubits)
    {listed : List Int} (distinct : listed.Nodup)
    (within : ∀ qubit ∈ listed, 0 ≤ qubit ∧ qubit < register.numQubits) :
    (listed.length : Int) ≤ register.numQubits := by
  have inside : listed ⊆ runFrom 0 register.numQubits.toNat := by
    intro qubit member
    have := within qubit member
    exact mem_runFrom.2 (by omega)
  have shorter := (List.Nodup.subperm distinct inside).length_le
  rw [length_runFrom] at shorter
  omega

/-- A register is split exactly by the sizes that add up to the number of its qubits.  The groups
partition the qubits exactly if none of the sizes is negative; this can be told from their sizes,
from what they are one after the other, and from whether they are disjoint and hold qubits of the
register only. -/
theorem split_partitions_iff (register : Register R) (sizes : List Int) :
    ((∃ groups, register.split sizes = .ok groups) ↔ sizes.sum = register.numQubits) ∧
      ∀ groups, register.split sizes = .ok groups →
        (register.IsPartition sizes groups ↔ ∀ size ∈ sizes, 0 ≤ size) ∧
        (groups.map (fun group => (group.length : Int)) = sizes ↔ ∀ size ∈ sizes, 0 ≤ size) ∧
        (0 ≤ register.numQubits →
          (groups.flatten = register.qubits ↔ ∀ size ∈ sizes, 0 ≤ size) ∧
          ((groups.Pairwise List.Disjoint ∧ ∀ group ∈ groups, ∀ qubit ∈ group,
              0 ≤ qubit ∧ qubit < register.numQubits) ↔ ∀ size ∈ sizes, 0 ≤ size)) := by
  constructor
  · simp only [split_eq_ok_iff, exists_and_left, exists_eq, and_true]
  intro groups accepted
  obtain ⟨agree, rfl⟩ := split_eq_ok_iff.1 accepted
  have lengths := lengths_eq_iff 0 sizes
  have joined : (∀ size ∈ sizes, 0 ≤ size) →
      (groupsFrom 0 sizes).flatten = register.qubits := flatten_eq_qubits agree
  refine ⟨⟨fun parts => lengths.1 parts.sizes, fun proper => ⟨lengths.2 proper, joined proper⟩⟩,
    lengths, fun sized => ⟨⟨fun whole => ?_, joined⟩, ?_, ?_⟩⟩
  · refine nonneg_of_length_le agree ?_
    rw [whole, qubits_eq, length_runFrom]
    omega
  · rintro ⟨disjoint, within⟩
    have distinct : (groupsFrom 0 sizes).flatten.Nodup :=
      List.nodup_flatten.2 ⟨fun _ => nodup_of_mem_groupsFrom, disjoint⟩
    refine nonneg_of_length_le agree (length_le_of_qubits sized distinct fun qubit member => ?_)
    obtain ⟨group, listed, member⟩ := List.mem_flatten.1 member
    exact within group listed qubit member
  · intro proper
    have whole := joined proper
    rw [qubits_eq] at whole
    have distinct := nodup_runFrom 0 register.numQubits.toNat
    rw [← whole] at distinct
    refine ⟨(List.nodup_flatten.1 distinct).2, fun group listed qubit member => ?_⟩
    have among := List.mem_flatten.2 ⟨group, listed, member⟩
    rw [whole] at among
    have := mem_runFrom.1 among
    omega

/-- Five qubits are split into one, none, and four. -/
theorem split_partitions_five :
    let register : Register Float := ⟨1, 5, true, .holding (.zero 5)⟩
    register.split [1, 0, 4] = .ok [[0], [], [1, 2, 3, 4]] ∧
      register.IsPartition [1, 0, 4] [[0], [], [1, 2, 3, 4]] := by
  intro register
  have accepted : register.split [1, 0, 4] = .ok [[0], [], [1, 2, 3, 4]] := rfl
  exact ⟨accepted, ((register.split_partitions_iff [1, 0, 4]).2 _ accepted).1.2 (by decide)⟩

/-- A register that the arena has handed out is split into three qubits and minus one although it
has two, and the third is none of its qubits; split into one, minus one and two it has a qubit in
two groups. -/
theorem split_beyond_register :
    ∃ (register : Register Float) (arena : Arena), (Arena.empty .standard).acquire 2 =
        .ok (register, arena) ∧
      register.split [3, -1] = .ok [[0, 1, 2], []] ∧
      ¬ register.IsPartition [3, -1] [[0, 1, 2], []] ∧
      register.split [1, -1, 2] = .ok [[0], [], [0, 1]] ∧
      ¬ List.Pairwise List.Disjoint [[0], [], [(0 : Int), 1]] := by
  refine ⟨⟨1, 2, true, .holding (.zero 2)⟩, _, rfl, rfl, ?_, rfl, ?_⟩
  · rintro ⟨-, whole⟩
    exact absurd (congrArg List.length whole) (by decide)
  · intro disjoint
    have later : [0, 1] ∈ [[], [(0 : Int), 1]] := by simp
    have apart := List.rel_of_pairwise_cons disjoint later
    exact apart List.mem_cons_self List.mem_cons_self

end Register

/-! ## The register of a check -/

namespace EquivalenceChecker

open Register

variable {R : Type} {register : Register R}

/-- The register of a check in operator mode is split into the probe, the targets and their
ancillas. -/
theorem split_operator (size : Nat) (sized : register.numQubits = registerSize .operator size) :
    register.split [1, size, size] =
      .ok [[probe], targets size, (pairs size).map Prod.snd] ∧
    (pairs size).map Prod.fst = targets size := by
  have ancillas : (pairs size).map Prod.snd = runFrom (0 + 1 + size) size := by
    rw [pairs, List.map_map]
    refine List.map_congr_left fun offset _ => ?_
    simp only [Function.comp_apply, Int.zero_add]
  constructor
  · refine split_eq_ok_iff.2 ⟨?_, ?_⟩
    · simp only [List.sum_cons, List.sum_nil, sized, registerSize]
      omega
    · rw [ancillas]
      rfl
  · rw [pairs, List.map_map]
    rfl

/-- In state mode there are no ancillas. -/
theorem split_state (size : Nat) (sized : register.numQubits = registerSize .state size) :
    register.split [1, size, 0] = .ok [[probe], targets size, []] := by
  refine split_eq_ok_iff.2 ⟨?_, rfl⟩
  simp only [List.sum_cons, List.sum_nil, sized, registerSize]
  omega

end EquivalenceChecker

end QuantumKata
