import QuantumKata.Proofs.Linear

/-!
# Parts of an index

A gate looks at some of the bits of an index and passes over the others.  So it acts on the
amplitudes along any map of indices that carries the bits it looks at and what it writes to them.

Two such maps matter here.  One puts the value of a probe in front of the bits of the other qubits:
the amplitudes of a register with a probe are two *branches*, one for each value of the probe, and a
gate on the other qubits acts on both of them, or on the second one only if the probe controls it.
The other map puts the bits of further qubits behind those of a register, so that a gate on the
register acts on each *block* of amplitudes for fixed further bits.
-/

noncomputable section

namespace QuantumKata

open Complex

/-! ## Maps of indices -/

namespace Basis

theorem scatter_bit (targets : List ℕ) (number : ℕ) (value : Bool) (part : ℕ) :
    scatter (targets.map (· + 1)) number (Nat.bit value part) =
      Nat.bit value (scatter targets number part) := by
  apply Nat.eq_of_testBit_eq
  intro qubit
  cases qubit with
  | zero =>
    have absent : 0 ∉ targets.map (· + 1) := by simp
    rw [testBit_scatter_of_notMem absent, Nat.testBit_bit_zero, Nat.testBit_bit_zero]
  | succ qubit =>
    rw [Nat.testBit_bit_succ]
    apply testBit_scatter_map
    · intro other _ same
      exact Nat.succ.inj same
    · exact Nat.testBit_bit_succ qubit value part

theorem setBit_bit_zero (value old : Bool) (part : ℕ) :
    setBit (Nat.bit old part) 0 value = Nat.bit value part := by
  apply Nat.eq_of_testBit_eq
  intro qubit
  rw [testBit_setBit]
  cases qubit with
  | zero => simp
  | succ qubit =>
    rw [if_neg (Nat.succ_ne_zero qubit)]
    exact (Nat.testBit_bit_succ _ _ _).trans (Nat.testBit_bit_succ _ _ _).symm

/-- The index with the bits of one index in a register and those of another one behind it. -/
def joined (numQubits high low : ℕ) : ℕ := 2 ^ numQubits * high + low % 2 ^ numQubits

theorem testBit_joined (numQubits high low qubit : ℕ) :
    (joined numQubits high low).testBit qubit =
      if qubit < numQubits then low.testBit qubit else high.testBit (qubit - numQubits) := by
  have small : low % 2 ^ numQubits < 2 ^ numQubits := Nat.mod_lt _ (Nat.two_pow_pos _)
  rw [joined]
  rw [Nat.testBit_two_pow_mul_add high small]
  split
  · rename_i inside
    rw [Nat.testBit_mod_two_pow]
    simp [inside]
  · rfl

theorem joined_of_lt {numQubits low : ℕ} (high : ℕ) (inRegister : low < count numQubits) :
    joined numQubits high low = 2 ^ numQubits * high + low := by
  rw [joined]
  rw [Nat.mod_eq_of_lt (show low < 2 ^ numQubits from inRegister)]

theorem scatter_joined {numQubits : ℕ} {targets : List ℕ}
    (areTargets : ∀ target ∈ targets, target < numQubits) (number high low : ℕ) :
    scatter targets number (joined numQubits high low) =
      joined numQubits high (scatter targets number low) := by
  apply Nat.eq_of_testBit_eq
  intro qubit
  rw [testBit_joined]
  split
  · rename_i inside
    have same := @testBit_scatter_map id (joined numQubits high low) low targets qubit
      (fun _ _ equal => equal) ((testBit_joined numQubits high low qubit).trans (if_pos inside))
      number
    rwa [List.map_id] at same
  · rename_i outside
    have absent : qubit ∉ targets := fun member => outside (areTargets qubit member)
    rw [testBit_scatter_of_notMem absent, testBit_joined, if_neg outside]

end Basis

/-! ## Gates along a map of indices -/

namespace TapeEntry

variable {entry : TapeEntry ℝ} {ambient : List Int}

/-- A gate on relabelled qubits acts along every map of indices that carries the bits of its qubits
and what it writes, as long as the controls in force read one. -/
theorem act_along (label : Int → Int) (place : ℕ → ℕ) (carry : ℕ → ℕ)
    (placed : ∀ qubit ∈ entry.qubits, (label qubit).toNat = place qubit.toNat)
    (reads : ∀ qubit ∈ entry.qubits, ∀ index,
      (carry index).testBit (place qubit.toNat) = index.testBit qubit.toNat)
    (writes : ∀ number index, Basis.scatter (entry.targetQubits.map place) number (carry index) =
      carry (Basis.scatter entry.targetQubits number index))
    (inForce : ∀ index, Basis.allOne (ambient.map Int.toNat) (carry index) = true)
    (amplitudes : ℕ → ℂ) (index : ℕ) :
    (entry.relabel label).act ambient amplitudes (carry index) =
      entry.act [] (fun part => amplitudes (carry part)) index := by
  have targets_eq : (entry.relabel label).targetQubits = entry.targetQubits.map place := by
    simp only [targetQubits, relabel, List.map_map]
    apply List.map_congr_left
    intro target member
    exact placed target (List.mem_append_left _ member)
  have controls_eq : (entry.controls.map label).map Int.toNat =
      (entry.controls.map Int.toNat).map place := by
    simp only [List.map_map]
    apply List.map_congr_left
    intro control member
    exact placed control (List.mem_append_right _ member)
  have controlled : Basis.allOne ((entry.relabel label).allControls ambient) (carry index) =
      Basis.allOne (entry.allControls []) index := by
    have here : Basis.allOne ((entry.controls.map Int.toNat).map place) (carry index) =
        Basis.allOne (entry.controls.map Int.toNat) index := by
      apply Basis.allOne_map
      intro control member
      rcases List.mem_map.1 member with ⟨original, among, rfl⟩
      exact reads original (List.mem_append_right _ among) index
    unfold allControls
    rw [List.map_append, Basis.allOne_append, inForce, Bool.true_and, List.nil_append]
    exact (congrArg (Basis.allOne · (carry index)) controls_eq).trans here
  have gathered : Basis.gather (entry.targetQubits.map place) (carry index) =
      Basis.gather entry.targetQubits index := by
    apply Basis.gather_map
    intro target member
    rcases List.mem_map.1 member with ⟨original, among, rfl⟩
    exact reads original (List.mem_append_left _ among) index
  rw [act_apply, act_apply, controlled, targets_eq, gathered]
  simp only [writes, relabel_gate]

end TapeEntry

/-! ## Branches -/

/-- The branch of a vector for a value of the probe. -/
def branch (value : Bool) (amplitudes : ℕ → ℂ) (part : ℕ) : ℂ := amplitudes (Nat.bit value part)

/-- Gates on the qubits behind the probe. -/
def behindProbe (entries : List (TapeEntry ℝ)) : List (TapeEntry ℝ) :=
  entries.map (TapeEntry.relabel (· + 1))

section Probe

variable {entries : List (TapeEntry ℝ)} {numQubits : ℕ}

theorem act_branch {entry : TapeEntry ℝ} (fits : entry.Fits numQubits []) {ambient : List Int}
    {value : Bool} (inForce : ∀ part, Basis.allOne (ambient.map Int.toNat) (Nat.bit value part))
    (amplitudes : ℕ → ℂ) :
    branch value ((entry.relabel (· + 1)).act ambient amplitudes) =
      entry.act [] (branch value amplitudes) := by
  funext part
  apply TapeEntry.act_along (· + 1) (· + 1) (Nat.bit value)
  · intro qubit member
    have bound := fits.2 qubit member
    omega
  · intro qubit _ index
    exact Nat.testBit_bit_succ _ value index
  · intro number index
    exact Basis.scatter_bit _ number value index
  · exact inForce

/-- Gates behind the probe act on both branches. -/
theorem branch_actAll (fit : ∀ entry ∈ entries, entry.Fits numQubits []) (value : Bool)
    (amplitudes : ℕ → ℂ) :
    branch value (actAll [] (behindProbe entries) amplitudes) =
      actAll [] entries (branch value amplitudes) := by
  induction entries generalizing amplitudes with
  | nil => rfl
  | cons entry rest ih =>
    rcases List.forall_mem_cons.1 fit with ⟨fits, fit⟩
    change branch value (actAll [] (behindProbe rest) _) = actAll [] rest _
    rw [ih fit, act_branch fits (fun _ => rfl)]

/-- Gates behind the probe and controlled by it act on the branch for one. -/
theorem branch_one_actAll (fit : ∀ entry ∈ entries, entry.Fits numQubits [])
    (amplitudes : ℕ → ℂ) :
    branch true (actAll [0] (behindProbe entries) amplitudes) =
      actAll [] entries (branch true amplitudes) := by
  induction entries generalizing amplitudes with
  | nil => rfl
  | cons entry rest ih =>
    rcases List.forall_mem_cons.1 fit with ⟨fits, fit⟩
    have inForce : ∀ part, Basis.allOne (([0] : List Int).map Int.toNat) (Nat.bit true part) := by
      intro part
      simp [Basis.allOne]
    change branch true (actAll [0] (behindProbe rest) _) = actAll [] rest _
    rw [ih fit, act_branch fits inForce]

/-- Gates controlled by the probe leave the branch for zero as it is. -/
theorem branch_zero_actAll (entries : List (TapeEntry ℝ)) (amplitudes : ℕ → ℂ) :
    branch false (actAll [0] entries amplitudes) = branch false amplitudes := by
  induction entries generalizing amplitudes with
  | nil => rfl
  | cons entry rest ih =>
    rw [actAll_cons, ih]
    funext part
    have notInForce : Basis.allOne (entry.allControls [0]) (Nat.bit false part) = false := by
      simp [TapeEntry.allControls, Basis.allOne]
    rw [branch]
    rw [TapeEntry.act_apply, notInForce]
    rfl

/-- Gates that fit into a register fit behind a probe, even if the probe controls them. -/
theorem fits_behindProbe (fit : ∀ entry ∈ entries, entry.Fits numQubits []) :
    ∀ entry ∈ behindProbe entries, entry.Fits (1 + numQubits) [0] := by
  intro entry member
  rcases List.mem_map.1 member with ⟨inner, among, rfl⟩
  rcases fit inner among with ⟨distinct, bounded⟩
  have qubits_eq : ((inner.relabel (· + 1)).targets ++ ([0] ++ (inner.relabel (· + 1)).controls)).Perm
      (0 :: (inner.targets ++ inner.controls).map (· + 1)) := by
    rw [List.map_append]
    exact List.perm_middle
  constructor
  · rw [qubits_eq.nodup_iff, List.nodup_cons]
    constructor
    · intro isProbe
      rcases List.mem_map.1 isProbe with ⟨qubit, isQubit, zero⟩
      have bound := bounded qubit isQubit
      omega
    · exact distinct.map (fun first second same => by simpa using same)
  · intro qubit isQubit
    rcases List.mem_cons.1 (qubits_eq.mem_iff.1 isQubit) with rfl | behind
    · omega
    · rcases List.mem_map.1 behind with ⟨original, isOriginal, rfl⟩
      have bound := bounded original isOriginal
      omega

/-- Gates that fit into a register fit behind a probe that does not control them. -/
theorem fits_behindProbe_free (fit : ∀ entry ∈ entries, entry.Fits numQubits []) :
    ∀ entry ∈ behindProbe entries, entry.Fits (1 + numQubits) [] := by
  intro entry member
  rcases fits_behindProbe fit entry member with ⟨distinct, bounded⟩
  have fewer : (entry.targets ++ ([] ++ entry.controls)).Sublist
      (entry.targets ++ ([0] ++ entry.controls)) :=
    List.Sublist.append_left (List.sublist_append_right [0] entry.controls) entry.targets
  exact ⟨distinct.sublist fewer, fun qubit among => bounded qubit (fewer.subset among)⟩

theorem exact_behindProbe (exact : ∀ entry ∈ entries, entry.IsExact) :
    ∀ entry ∈ behindProbe entries, entry.IsExact := by
  intro entry member
  rcases List.mem_map.1 member with ⟨inner, among, rfl⟩
  exact ⟨(exact inner among).1, (List.length_map _).trans (exact inner among).2⟩

end Probe

/-! ## Blocks -/

section Blocks

variable {entries : List (TapeEntry ℝ)} {numQubits : ℕ}

/-- Gates on a register act on each block of amplitudes for fixed further bits. -/
theorem actAll_joined (fit : ∀ entry ∈ entries, entry.Fits numQubits []) (amplitudes : ℕ → ℂ)
    (high low : ℕ) :
    actAll [] entries amplitudes (Basis.joined numQubits high low) =
      actAll [] entries (fun part => amplitudes (Basis.joined numQubits high part)) low := by
  induction entries generalizing amplitudes with
  | nil => rfl
  | cons entry rest ih =>
    rcases List.forall_mem_cons.1 fit with ⟨fits, fit⟩
    have same : entry.relabel id = entry := by
      simp [TapeEntry.relabel]
    have along : ∀ part, entry.act [] amplitudes (Basis.joined numQubits high part) =
        entry.act [] (fun part => amplitudes (Basis.joined numQubits high part)) part := by
      intro part
      have general : (entry.relabel id).act [] amplitudes (Basis.joined numQubits high part) =
          entry.act [] (fun part => amplitudes (Basis.joined numQubits high part)) part := by
        apply TapeEntry.act_along id id (Basis.joined numQubits high)
        · intro qubit _
          rfl
        · intro qubit member index
          have bound := fits.toNat_lt qubit.toNat (List.mem_map_of_mem member)
          exact (Basis.testBit_joined _ _ _ _).trans (if_pos bound)
        · intro number index
          rw [List.map_id]
          exact Basis.scatter_joined fits.targets_lt number high index
        · intro index
          rfl
      rwa [same] at general
    rw [actAll_cons, actAll_cons, ih fit, funext along]

/-- What gates on a register make of its amplitudes depends on these only. -/
theorem actAll_congr (fit : ∀ entry ∈ entries, entry.Fits numQubits []) {first second : ℕ → ℂ}
    (same : ∀ index < Basis.count numQubits, first index = second index) :
    ∀ index < Basis.count numQubits,
      actAll [] entries first index = actAll [] entries second index := by
  induction entries generalizing first second with
  | nil => exact same
  | cons entry rest ih =>
    rcases List.forall_mem_cons.1 fit with ⟨fits, fit⟩
    apply ih fit
    intro index inRegister
    have written : ∀ column, first (Basis.scatter entry.targetQubits column index) =
        second (Basis.scatter entry.targetQubits column index) := by
      intro column
      exact same _ (Basis.scatter_lt inRegister fits.targets_lt column)
    simp only [TapeEntry.act_apply, written, same index inRegister]

end Blocks

end QuantumKata

end
