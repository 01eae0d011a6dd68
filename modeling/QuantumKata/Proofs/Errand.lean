import Mathlib.Tactic.Choose
import QuantumKata.Grading.Grader
import QuantumKata.Proofs.Checking
import QuantumKata.Proofs.Registers

/-!
# Errands at the arena

Of a bench, work changes nothing but the arena and the time that has passed, and it asks the arena
for one thing only: a register for a while.  An *errand* is what work asks for, register after
register, up to its result or fault; what happens to a register in between concerns nobody else.
Checks, diagnoses and whole runs of the grader are errands.

The arena answers by the size of the register alone.  So the outcome of an errand depends on the
limit of the arena and on nothing else: not on the registers that are live, not on the handles that
have been used up, and not on the time.  Afterwards the same registers are live as before.
-/

namespace QuantumKata

namespace Action

variable {σ α β : Type}

/-- Go on with the outcome of an action, a result or a fault. -/
def goOn (action : Action σ α) (next : Except Fault α → Action σ β) : Action σ β := fun state =>
  next (action state).1 (action state).2

/-- Go on with a result and hand a fault on. -/
def orFault (next : α → Action σ β) : Except Fault α → Action σ β
  | .ok value => next value
  | .error fault => ofExcept (.error fault)

theorem bind_eq_goOn (action : Action σ α) (next : α → Action σ β) :
    action >>= next = action.goOn (orFault next) := by
  funext state
  rw [bind_apply, goOn]
  rcases action state with ⟨fault | value, after⟩ <;> rfl

end Action

/-! ## What the arena answers -/

namespace Arena

variable {R : Type} {arena later other : Arena} {numQubits : Int} {register : Register R}

theorem limit_release (arena : Arena) (register : Register R) :
    (arena.release register).2.1.limit = arena.limit := by
  rw [arena_release]

variable [Scalar R]

theorem limit_acquire (acquired : arena.acquire numQubits = .ok (register, later)) :
    later.limit = arena.limit := by
  rcases acquire_eq_ok acquired with ⟨-, rfl⟩
  rfl

/-- Arenas with the same limit refuse the same registers, with the same fault. -/
theorem acquire_eq_error (same : arena.limit = other.limit) {fault : Fault}
    (refused : arena.acquire (R := R) numQubits = .error fault) :
    other.acquire (R := R) numQubits = .error fault := by
  rw [acquire] at refused ⊢
  split at refused
  · rename_i empty
    rw [if_pos empty]
    exact refused
  · rename_i some
    rw [if_neg some]
    rw [same] at refused
    split at refused
    · rename_i exceeded
      rw [if_pos exceeded]
      exact refused
    · cases refused

/-- A register that has been handed out can be given back, unless its memory has been released. -/
theorem release_of_acquire (acquired : arena.acquire numQubits = .ok (register, later))
    (used : Memory R) :
    (later.release { register with memory := used }).1 = used.release.map fun _ => () := by
  rcases acquire_eq_ok acquired with ⟨rfl, rfl⟩
  rw [release, if_pos (by simp)]
  dsimp only
  cases used.release <;> rfl

end Arena

/-! ## Errands -/

/-- What work asks of an arena, up to a result or a fault. -/
inductive Errand (R α : Type) where
  | done (outcome : Except Fault α)
  /-- A register is taken and given back with the memory that its use has left and after the time
  that the use has taken.  The work goes on after a refusal and after the return. -/
  | visit (numQubits : Int) (used : Memory R) (seconds : R) (refused : Fault → Errand R α)
      (next : Except Fault Unit → Errand R α)

namespace Errand

variable {R α β : Type}

/-- Go on with the outcome of an errand. -/
def andThen : Errand R α → (Except Fault α → Errand R β) → Errand R β
  | done outcome, last => last outcome
  | visit numQubits used seconds refused next, last =>
    visit numQubits used seconds (fun fault => (refused fault).andThen last)
      fun returned => (next returned).andThen last

variable [Scalar R]

/-- Do an errand without a break. -/
def play : Errand R α → BenchAction R α
  | done outcome => Action.ofExcept outcome
  | visit numQubits used seconds refused next => fun bench =>
    match bench.arena.acquire (R := R) numQubits with
    | .error fault => (refused fault).play bench
    | .ok (register, arena) =>
      let (returned, remaining, _) := arena.release { register with memory := used }
      (next returned).play
        { bench with arena := remaining, elapsed := bench.elapsed + seconds }

theorem play_andThen (errand : Errand R α) (last : Except Fault α → Errand R β) :
    ∀ bench : Bench R, (errand.andThen last).play bench =
      (last (errand.play bench).1).play (errand.play bench).2 := by
  induction errand with
  | done outcome => exact fun _ => rfl
  | visit numQubits used seconds refused next refusedIH nextIH =>
    intro bench
    simp only [andThen, play]
    rcases bench.arena.acquire (R := R) numQubits with fault | ⟨register, arena⟩
    · exact refusedIH fault bench
    · exact nextIH _ _

/-- An errand leaves the limit of the arena and the definitions as they are. -/
theorem play_keeps (errand : Errand R α) :
    Action.Keeps (fun bench : Bench R => (bench.arena.limit, bench.definitions)) errand.play := by
  induction errand with
  | done outcome => exact Action.keeps_ofExcept outcome
  | visit numQubits used seconds refused next refusedIH nextIH =>
    intro bench
    simp only [play]
    rcases acquired : bench.arena.acquire (R := R) numQubits with fault | ⟨register, arena⟩
    · exact refusedIH fault bench
    · refine (nextIH _ _).trans ?_
      dsimp only
      rw [Arena.limit_release, Arena.limit_acquire acquired]

/-- The outcome of an errand depends on the limit of the arena only, and so does the time that it
takes. -/
theorem play_congr (errand : Errand R α) :
    ∀ {first second : Bench R}, first.arena.limit = second.arena.limit →
      (errand.play first).1 = (errand.play second).1 ∧
        (first.elapsed = second.elapsed →
          (errand.play first).2.elapsed = (errand.play second).2.elapsed) := by
  induction errand with
  | done outcome => exact fun _ => ⟨rfl, id⟩
  | visit numQubits used seconds refused next refusedIH nextIH =>
    intro first second same
    simp only [play]
    rcases acquired : first.arena.acquire (R := R) numQubits with fault | ⟨register, later⟩
    · rw [Arena.acquire_eq_error same acquired]
      exact refusedIH fault same
    · rcases alsoAcquired : second.arena.acquire (R := R) numQubits with fault | ⟨other, last⟩
      · rw [Arena.acquire_eq_error same.symm alsoAcquired] at acquired
        cases acquired
      · dsimp only
        rw [Arena.release_of_acquire acquired, Arena.release_of_acquire alsoAcquired]
        have limits : (later.release { register with memory := used }).2.1.limit =
            (last.release { other with memory := used }).2.1.limit := by
          rw [Arena.limit_release, Arena.limit_release, Arena.limit_acquire acquired,
            Arena.limit_acquire alsoAcquired, same]
        rcases @nextIH (used.release.map fun _ => ())
          { first with
            arena := (later.release { register with memory := used }).2.1
            elapsed := first.elapsed + seconds }
          { second with
            arena := (last.release { other with memory := used }).2.1
            elapsed := second.elapsed + seconds } limits with ⟨outcomes, times⟩
        exact ⟨outcomes, fun start => times (congrArg (· + seconds) start)⟩

/-- An errand gives back every register that it takes. -/
theorem givesBack_play (errand : Errand R α) : Bench.GivesBack errand.play := by
  induction errand with
  | done outcome => exact Bench.givesBack_ofExcept outcome
  | visit numQubits used seconds refused next refusedIH nextIH =>
    intro bench fresh
    simp only [play]
    rcases acquired : bench.arena.acquire (R := R) numQubits with fault | ⟨register, later⟩
    · exact refusedIH fault bench fresh
    · rcases nextIH (later.release { register with memory := used }).1
          { bench with
            arena := (later.release { register with memory := used }).2.1
            elapsed := bench.elapsed + seconds }
          ((fresh.acquire acquired).release { register with memory := used }) with
        ⟨live, freshAfter⟩
      exact ⟨live.trans (Arena.live_release_of_acquire fresh acquired rfl), freshAfter⟩

end Errand

/-! ## Work that is an errand -/

namespace Bench

variable {R α β : Type} [Scalar R] {definitions : Definitions R}

/-- Work does an errand, as long as names have a certain meaning. -/
def Does (definitions : Definitions R) (action : BenchAction R α) (errand : Errand R α) : Prop :=
  ∀ bench, bench.definitions = definitions → action bench = errand.play bench

/-- Work that asks the arena for registers only. -/
def IsErrand (action : BenchAction R α) : Prop :=
  ∀ definitions, ∃ errand, Does definitions action errand

theorem isErrand_ofExcept (outcome : Except Fault α) :
    IsErrand (Action.ofExcept outcome : BenchAction R α) :=
  fun _ => ⟨.done outcome, fun _ _ => rfl⟩

/-- Work after work goes on with the outcome of the first errand. -/
theorem Does.goOn {action : BenchAction R α} {errand : Errand R α}
    (first : Does definitions action errand)
    {next : Except Fault α → BenchAction R β} {last : Except Fault α → Errand R β}
    (second : ∀ outcome, Does definitions (next outcome) (last outcome)) :
    Does definitions (action.goOn next) (errand.andThen last) := by
  intro bench known
  have kept := congrArg Prod.snd (errand.play_keeps bench)
  rw [Action.goOn, first bench known, Errand.play_andThen]
  exact second _ _ (kept.trans known)

theorem IsErrand.goOn {action : BenchAction R α} (first : IsErrand action)
    {next : Except Fault α → BenchAction R β} (second : ∀ outcome, IsErrand (next outcome)) :
    IsErrand (action.goOn next) := by
  intro definitions
  rcases first definitions with ⟨errand, does⟩
  choose last doesNext using fun outcome => second outcome definitions
  exact ⟨errand.andThen last, does.goOn doesNext⟩

theorem IsErrand.bind {action : BenchAction R α} {next : α → BenchAction R β}
    (first : IsErrand action) (second : ∀ value, IsErrand (next value)) :
    IsErrand (action >>= next) := by
  rw [Action.bind_eq_goOn]
  refine first.goOn ?_
  rintro (fault | value)
  · exact isErrand_ofExcept _
  · exact second value

theorem IsErrand.attempt {action : BenchAction R α} (isErrand : IsErrand action) :
    IsErrand (Action.attempt action) :=
  isErrand.goOn fun outcome => isErrand_ofExcept (.ok outcome)

theorem IsErrand.ite {condition : Prop} [Decidable condition] {first second : BenchAction R α}
    (whenTrue : IsErrand first) (whenFalse : IsErrand second) :
    IsErrand (if condition then first else second) := by
  split
  · exact whenTrue
  · exact whenFalse

/-- A block on a register is one visit: the register is handed out with all qubits reading zero, so
what the block leaves of it is known beforehand. -/
theorem isErrand_withRegister (numQubits : Int) (block : EngineAction R α) :
    IsErrand (withRegister numQubits block) := by
  intro definitions
  rcases ended : block (Engine.start (.holding (.zero numQubits.toNat)) .unrestricted []
    definitions) with ⟨outcome, after⟩
  refine ⟨.visit numQubits after.memory after.elapsed (fun fault => .done (.error fault))
    fun returned => .done (returned.bind fun _ => outcome), ?_⟩
  intro bench known
  rw [withRegister]
  simp only [Errand.play]
  rcases acquired : bench.arena.acquire (R := R) numQubits with fault | ⟨register, later⟩
  · rfl
  · dsimp only
    have zeros : register.memory = .holding (.zero numQubits.toNat) :=
      congrArg Register.memory (Arena.acquire_eq_ok acquired).1
    rw [zeros, known, ended]
    dsimp only
    rcases later.release { register with memory := after.memory } with
      ⟨fault | ⟨⟩, remaining, released⟩
    · rfl
    · rfl

theorem IsErrand.givesBack {action : BenchAction R α} (isErrand : IsErrand action) :
    GivesBack action := by
  intro bench fresh
  rcases isErrand bench.definitions with ⟨errand, does⟩
  rw [does bench rfl]
  exact errand.givesBack_play bench fresh

/-- Work at benches with the same limit and the same definitions has the same outcome and takes the
same time. -/
theorem IsErrand.congr {action : BenchAction R α} (isErrand : IsErrand action)
    {first second : Bench R} (limits : first.arena.limit = second.arena.limit)
    (known : first.definitions = second.definitions) :
    (action first).1 = (action second).1 ∧
      (first.elapsed = second.elapsed →
        (action first).2.elapsed = (action second).2.elapsed) := by
  rcases isErrand second.definitions with ⟨errand, does⟩
  rw [does first known, does second rfl]
  exact errand.play_congr limits

theorem IsErrand.keeps {action : BenchAction R α} (isErrand : IsErrand action) :
    Action.Keeps (fun bench : Bench R => (bench.arena.limit, bench.definitions)) action := by
  intro bench
  rcases isErrand bench.definitions with ⟨errand, does⟩
  rw [does bench rfl]
  exact errand.play_keeps bench

end Bench

/-! ## Checks, diagnoses and runs of the grader -/

namespace EquivalenceChecker

open Bench

variable {R : Type} [Scalar R]

theorem isErrand_buildAndJudge (checker : EquivalenceChecker R) (candidate reference : Operation R)
    (size : Nat) (preparer : Option (Operation R)) (register : Int) :
    IsErrand (checker.buildAndJudge candidate reference size preparer register) := by
  refine (isErrand_ofExcept _).bind fun inverse => ?_
  refine (isErrand_ofExcept _).bind fun controlledInverse => ?_
  refine (isErrand_ofExcept _).bind fun pair => ?_
  cases candidate.controlledBy 1 with
  | error fault => exact isErrand_ofExcept (.ok _)
  | ok variant => exact (isErrand_withRegister _ _).bind fun _ => isErrand_ofExcept (.ok _)

theorem isErrand_check (checker : EquivalenceChecker R) (candidate reference : Operation R)
    (numQubits : Int) (preparer : Option (Operation R)) :
    IsErrand (checker.check candidate reference numQubits preparer) := by
  rw [check_eq]
  cases sizeOutcome? checker.mode candidate reference numQubits preparer with
  | some outcome => exact isErrand_ofExcept outcome
  | none => exact isErrand_buildAndJudge checker candidate reference _ preparer _

end EquivalenceChecker

namespace DiagnosticRunner

open Bench

variable {R : Type} [Scalar R]

theorem isErrand_runOn (operation : Operation R) (numQubits : Int)
    (preparer : Option (Operation R)) (basisIndex : Int) (profile : TargetProfile) :
    IsErrand (runOn operation numQubits preparer basisIndex profile) := by
  rw [runOn]
  exact isErrand_withRegister _ _

variable (runner : DiagnosticRunner R) (candidate reference : Operation R) (numQubits : Int)
  (preparer : Option (Operation R))

theorem isErrand_compare :
    IsErrand (runner.compare candidate reference numQubits preparer) := by
  refine (isErrand_runOn _ _ _ _ _).bind ?_
  rintro ⟨input, expected⟩
  refine (isErrand_runOn _ _ _ _ _).bind ?_
  rintro ⟨same, actual⟩
  exact isErrand_ofExcept (.ok _)

theorem isErrand_searchFrom (fuel : Nat) :
    ∀ index, IsErrand (runner.searchFrom candidate reference numQubits fuel index) := by
  induction fuel with
  | zero => exact fun _ => isErrand_ofExcept (.ok none)
  | succ fuel ih =>
    intro index
    refine (isErrand_runOn _ _ _ _ _).bind ?_
    rintro ⟨input, expected⟩
    refine (isErrand_runOn _ _ _ _ _).bind ?_
    rintro ⟨same, actual⟩
    exact .ite (ih _) (isErrand_ofExcept (.ok _))

theorem isErrand_findCounterexample :
    IsErrand (runner.findCounterexample candidate reference numQubits) := by
  refine (isErrand_ofExcept _).bind fun exceeded => ?_
  exact .ite (isErrand_ofExcept (.ok none)) (.ite (isErrand_ofExcept (.error _))
    (isErrand_searchFrom runner candidate reference numQubits _ 0))

theorem isErrand_diagnose :
    IsErrand (runner.diagnose candidate reference numQubits preparer) := by
  refine (isErrand_compare runner candidate reference numQubits preparer).attempt.bind
    fun compared => ?_
  cases preparer with
  | some operation => exact isErrand_ofExcept (.ok _)
  | none =>
    refine (isErrand_findCounterexample runner candidate reference numQubits).attempt.bind
      fun found => (isErrand_ofExcept _).bind fun within => ?_
    exact .ite (isErrand_ofExcept (.ok _)) (isErrand_ofExcept (.ok _))

end DiagnosticRunner

namespace Grader

open Bench

variable {R : Type} [Scalar R]

theorem isErrand_assess (grader : Grader R) (registry : Registry R) (exercise : Exercise R)
    (candidate : Candidate R) : IsErrand (grader.assess registry exercise candidate) := by
  rw [assess]
  cases choose (grader.visible registry) exercise candidate with
  | error refused => exact isErrand_ofExcept (.ok refused)
  | ok operation =>
    refine (EquivalenceChecker.isErrand_check _ _ _ _ _).bind fun verdict => ?_
    exact .ite ((DiagnosticRunner.isErrand_diagnose _ _ _ _ _).bind fun _ =>
      isErrand_ofExcept (.ok _)) (isErrand_ofExcept (.ok _))

theorem isErrand_result (grader : Grader R) (registry : Registry R) (exercise : Exercise R)
    (candidate : Candidate R) : IsErrand (grader.result registry exercise candidate) := by
  refine (isErrand_assess grader registry exercise candidate).attempt.bind ?_
  rintro (fault | result)
  · exact isErrand_ofExcept (.ok _)
  · exact isErrand_ofExcept (.ok _)

end Grader

end QuantumKata
