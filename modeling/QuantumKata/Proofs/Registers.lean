import QuantumKata.Proofs.Checking
import QuantumKata.Proofs.Outline

/-!
# Registers that are given back

An arena numbers its handles upwards, so the handle of a register that it hands out is not among the
live ones.  Once a register has been given back, the live registers are what they were before it was
taken.

A block that leaves the memory of its register live decides the outcome: giving the register back
adds no fault of its own.
-/

namespace QuantumKata

namespace Arena

/-- All live handles have been handed out before. -/
def IsFresh (arena : Arena) : Prop := ∀ entry ∈ arena.live, entry.1 < arena.nextHandle

theorem isFresh_empty (limit : SizeLimit) : (empty limit).IsFresh :=
  fun _ member => nomatch member

variable {R : Type} {arena later : Arena} {numQubits : Int} {register : Register R}

/-- A release takes the handle off and nothing else, also when the memory has been released
before. -/
theorem arena_release (arena : Arena) (register : Register R) :
    (arena.release register).2.1 = { arena with
      live := arena.live.filter fun entry => entry.1 != register.handle } := by
  rw [release]
  split
  · dsimp only
    cases register.memory.release <;> rfl
  · rename_i absent
    have others : arena.live.filter (fun entry => entry.1 != register.handle) = arena.live := by
      apply List.filter_eq_self.2
      intro entry member
      have apart : ¬(entry.1 == register.handle) = true := by
        intro same
        exact absent (List.any_eq_true.2 ⟨entry, member, same⟩)
      simpa using apart
    rw [others]

theorem live_release (arena : Arena) (register : Register R) :
    (arena.release register).2.1.live =
      arena.live.filter fun entry => entry.1 != register.handle := by
  rw [arena_release]

theorem nextHandle_release (arena : Arena) (register : Register R) :
    (arena.release register).2.1.nextHandle = arena.nextHandle := by
  rw [arena_release]

theorem IsFresh.release (fresh : arena.IsFresh) (register : Register R) :
    (arena.release register).2.1.IsFresh := by
  intro entry member
  rw [live_release] at member
  rw [nextHandle_release]
  exact fresh entry (List.mem_filter.1 member).1

variable [Scalar R]

/-- A register that is handed out comes with the next handle, and every qubit reads zero. -/
theorem acquire_eq_ok (acquired : arena.acquire numQubits = .ok (register, later)) :
    register = ⟨arena.nextHandle, numQubits, true, .holding (.zero numQubits.toNat)⟩ ∧
      later = { arena with
        nextHandle := arena.nextHandle + 1
        live := arena.live ++ [(arena.nextHandle, numQubits)] } := by
  rw [acquire] at acquired
  split at acquired
  · cases acquired
  · split at acquired
    · cases acquired
    · cases acquired
      exact ⟨rfl, rfl⟩

theorem IsFresh.acquire (fresh : arena.IsFresh)
    (acquired : arena.acquire numQubits = .ok (register, later)) : later.IsFresh := by
  rcases acquire_eq_ok acquired with ⟨-, rfl⟩
  intro entry member
  rcases List.mem_append.1 member with before | new
  · have earlier := fresh entry before
    dsimp only
    omega
  · rw [List.mem_singleton.1 new]
    dsimp only
    omega

/-- What is live after a register has been handed out and taken back is what was live before. -/
theorem live_release_of_acquire (fresh : arena.IsFresh)
    (acquired : arena.acquire numQubits = .ok (register, later)) {used : Register R}
    (same : used.handle = register.handle) : (later.release used).2.1.live = arena.live := by
  rcases acquire_eq_ok acquired with ⟨isNext, rfl⟩
  have handle : register.handle = arena.nextHandle := congrArg Register.handle isNext
  -- The handle that is taken off is the new one, and no register that was live before has it.
  rw [live_release, same, handle, List.filter_append]
  have others : arena.live.filter (fun entry => entry.1 != arena.nextHandle) = arena.live := by
    apply List.filter_eq_self.2
    intro entry member
    have earlier := fresh entry member
    have apart : entry.1 ≠ arena.nextHandle := by omega
    simpa using apart
  rw [others]
  simp

end Arena

namespace Bench

variable {R α : Type}

/-- Work after which the same registers are live as before. -/
def GivesBack (action : BenchAction R α) : Prop :=
  ∀ bench, bench.arena.IsFresh →
    (action bench).2.arena.live = bench.arena.live ∧ (action bench).2.arena.IsFresh

theorem givesBack_ofExcept (outcome : Except Fault α) :
    GivesBack (Action.ofExcept outcome : BenchAction R α) :=
  fun _ fresh => ⟨rfl, fresh⟩

variable [Scalar R]

theorem outcome_withRegister {register : Int} {block : EngineAction R α} {bench : Bench R}
    (kept : Action.Keeps Engine.outline block) (some : 1 ≤ register)
    (roomy : bench.arena.limit.isExceededBy register = false) :
    (withRegister register block bench).1 =
      (block (Engine.start (.holding (.zero register.toNat)) .unrestricted [] bench.definitions)).1
      := by
  have keptHere := kept (Engine.start (.holding (.zero register.toNat)) .unrestricted []
    bench.definitions)
  rcases result : block (Engine.start (.holding (.zero register.toNat)) .unrestricted []
    bench.definitions) with ⟨outcome, after⟩
  rw [result] at keptHere
  have extent : after.memory.extent = (register.toNat, false) :=
    congrArg (fun outlined => outlined.2.1) keptHere
  rcases Memory.exists_state_of_extent extent with ⟨state, live, -⟩
  exact outcome_withRegister_of_live some roomy result live

end Bench

end QuantumKata
