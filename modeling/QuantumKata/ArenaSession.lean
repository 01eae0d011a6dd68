import QuantumKata.Action
import QuantumKata.Arena
import QuantumKata.Engine

/-!
# Arena sessions

A session works on the registers of one arena: it acquires and releases them, shows them, runs
instructions on them and opens scopes, in which a register lives for the duration of some inner
steps.  At the end of a scope its register is released, whatever the inner steps did.

Registers are kept as objects with a place in a store that only grows.  Steps name them by their
handle; a name means the object that got it last, so a register outside the arena can take over the
name of one inside.
-/

namespace QuantumKata

/-- A step of a session. -/
inductive ArenaStep (R : Type) where
  | acquire (numQubits : Int)
  /-- Make a register that no arena has handed out, under a given handle. -/
  | orphan (handle : Int) (numQubits : Int)
  | release (handle : Int)
  /-- Release through the arena, whoever has handed the register out. -/
  | arenaRelease (handle : Int)
  /-- Release the memory alone. -/
  | memoryRelease (handle : Int)
  | split (handle : Int) (sizes : List Int)
  | describe (handle : Int)
  | run (handle : Int) (body : InstructionPlans R)
  /-- Inner steps with a register of their own, and a fault to end with. -/
  | scoped (numQubits : Int) (inner : List (ArenaStep R)) (ending : Option Fault)

instance {R : Type} : Inhabited (ArenaStep R) := ⟨.describe 0⟩

/-- What a step answers. -/
inductive ArenaAnswer (R : Type) where
  | nothing
  | handle (value : Int)
  | groups (qubits : List (List Int))
  | register (shown : Register R)
  | state (vector : StateVector R)
  | scope (handle : Int) (inner : List (Except Fault (ArenaAnswer R)))

/-- The arena, the registers that exist, what the handles mean, and the definitions that the names
in instructions stand for. -/
structure ArenaSession (R : Type) where
  arena : Arena
  registers : Array (Register R) := #[]
  names : List (Int × Nat) := []
  definitions : Definitions R := {}

/-- Work in a session. -/
abbrev SessionAction (R α : Type) : Type := Action (ArenaSession R) α

namespace ArenaSession

variable {R : Type} [Scalar R]

/-- Keep a new register under its handle. -/
def keep (register : Register R) : SessionAction R Nat := fun session =>
  let place := session.registers.size
  (.ok place,
    { session with
      registers := session.registers.push register
      names := (register.handle, place) :: session.names })

/-- The register at a place. -/
def registerAt (place : Nat) : SessionAction R (Register R) := fun session =>
  match session.registers[place]? with
  | some register => (.ok register, session)
  | none => (.error (.listIndexOutOfRange place), session)

/-- The place of the register that a handle means. -/
def find (handle : Int) : SessionAction R Nat := fun session =>
  match session.names.lookup handle with
  | some place => (.ok place, session)
  | none => (.error (.raised .key [.integer handle]), session)

/-- Put a register back at its place. -/
def store (place : Nat) (register : Register R) : SessionAction R Unit :=
  Action.update fun session =>
    { session with registers := session.registers.modify place fun _ => register }

/-- Acquire a register. -/
def acquire (numQubits : Int) : SessionAction R Nat := do
  let outcome ← Action.inspect fun session => session.arena.acquire numQubits
  let (register, arena) ← Action.ofExcept outcome
  Action.update fun session => { session with arena := arena }
  keep register

/-- Release a register in one of the ways to do so. -/
def releaseBy (how : Arena → Register R → Except Fault Unit × Arena × Register R) (place : Nat) :
    SessionAction R Unit := do
  let register ← registerAt place
  let arena ← Action.inspect fun session => session.arena
  let (outcome, remaining, left) := how arena register
  Action.update fun session => { session with arena := remaining }
  store place left
  Action.ofExcept outcome

/-- Release the memory of a register and leave the arena alone. -/
def releaseMemory (arena : Arena) (register : Register R) :
    Except Fault Unit × Arena × Register R :=
  match register.memory.release with
  | .ok memory => (.ok (), arena, { register with memory := memory })
  | .error fault => (.error fault, arena, register)

/-- Run instructions on a register. -/
def runOn (place : Nat) (body : InstructionPlans R) : SessionAction R (StateVector R) := do
  let register ← registerAt place
  let definitions ← Action.inspect ArenaSession.definitions
  let engine := Engine.start register.memory .unrestricted [] definitions
  let (outcome, after) := (Engine.execute (Blueprint.buildBody body) .register).run engine
  store place { register with memory := after.memory }
  let _ ← Action.ofExcept outcome
  Action.ofExcept after.memory.live

mutual

/-- Take one step. -/
def step : ArenaStep R → SessionAction R (ArenaAnswer R)
  | .acquire numQubits => do
    let place ← acquire numQubits
    let register ← registerAt place
    return .handle register.handle
  | .orphan handle numQubits => do
    let memory ← Action.ofExcept (Memory.allocate numQubits)
    let _ ← keep ⟨handle, numQubits, false, memory⟩
    return .handle handle
  | .release handle => do
    let place ← find handle
    releaseBy (fun arena register => register.release arena) place
    return .nothing
  | .arenaRelease handle => do
    let place ← find handle
    releaseBy (fun arena register => arena.release register) place
    return .nothing
  | .memoryRelease handle => do
    let place ← find handle
    releaseBy releaseMemory place
    return .nothing
  | .split handle sizes => do
    let place ← find handle
    let register ← registerAt place
    let groups ← Action.ofExcept (register.split sizes)
    return .groups groups
  | .describe handle => do
    let place ← find handle
    let register ← registerAt place
    return .register register
  | .run handle body => do
    let place ← find handle
    let state ← runOn place body
    return .state state
  | .scoped numQubits inner ending => do
    let place ← acquire numQubits
    let register ← registerAt place
    let answers ← steps inner
    releaseBy (fun arena register => arena.release register) place
    match ending with
    | some fault => Action.fail fault
    | none => return .scope register.handle answers

/-- Take steps one after the other; a step that fails does not keep the later ones from being
taken. -/
def steps : List (ArenaStep R) → SessionAction R (List (Except Fault (ArenaAnswer R)))
  | [] => return []
  | first :: rest => do
    let answer ← Action.attempt (step first)
    let answers ← steps rest
    return answer :: answers

end

attribute [grind =] step steps

end ArenaSession

end QuantumKata
