import QuantumKata.Arena
import QuantumKata.Engine

/-!
# The bench

Checks and diagnostics run operations on registers of a shared arena.  The bench holds the arena,
the time that has been spent asleep and the definitions that the names in bodies stand for.  A
register that is taken for a block is given back when the block ends, whether it ends well or with a
fault.
-/

namespace QuantumKata

/-- The arena in use, the time spent and the definitions at hand. -/
structure Bench (R : Type) where
  arena : Arena
  elapsed : R
  definitions : Definitions R := {}

/-- Work at a bench. -/
abbrev BenchAction (R α : Type) : Type := Action (Bench R) α

namespace Bench

variable {R : Type} [Scalar R]

/-- A bench with an arena that has handed out nothing. -/
def ofLimit (limit : SizeLimit) (definitions : Definitions R) : Bench R :=
  ⟨.empty limit, 0, definitions⟩

/-- Run an engine, without a profile, on a register that is taken for the purpose and given back
afterwards. -/
def withRegister {α : Type} (numQubits : Int) (block : EngineAction R α) : BenchAction R α :=
  fun bench =>
    match bench.arena.acquire (R := R) numQubits with
    | .error fault => (.error fault, bench)
    | .ok (register, arena) =>
      let (outcome, engine) := block
        (Engine.start register.memory .unrestricted [] bench.definitions)
      let (released, remaining, _) := arena.release { register with memory := engine.memory }
      let after : Bench R :=
        { bench with arena := remaining, elapsed := bench.elapsed + engine.elapsed }
      match released with
      | .ok () => (outcome, after)
      | .error fault => (.error fault, after)

end Bench

end QuantumKata
