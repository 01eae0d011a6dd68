import QuantumKata.Memory

/-!
# Registers and the arena

An arena hands out registers and remembers which of them are live.  Handles are numbered from one
and never used again.  The limit of an arena applies to each register on its own.

A release looks the register up by its handle and forgets it, and only then releases the memory of
the register at hand; a register that no arena has handed out is released by itself.
-/

namespace QuantumKata

/-- The size up to which an arena hands out registers, with the text that shows it.  Without a
largest size every register is handed out. -/
structure SizeLimit where
  largest : Option Int
  label : String
  deriving Repr, DecidableEq

namespace SizeLimit

/-- The limit that is a whole number. -/
def ofInt (largest : Int) : SizeLimit := ⟨some largest, Decimal.integer largest⟩

/-- The limit of an arena for which no other is given. -/
def standard : SizeLimit := ofInt 16

/-- Whether a register is too large. -/
def isExceededBy (limit : SizeLimit) (numQubits : Int) : Bool :=
  match limit.largest with
  | some largest => largest < numQubits
  | none => false

end SizeLimit

/-- What sizes add up to. -/
def sumOfSizes (sizes : List Int) : Int := sizes.foldr (· + ·) 0

/-- A handle to the memory of a register; `managed` tells whether an arena has handed it out. -/
structure Register (R : Type) where
  handle : Int
  numQubits : Int
  managed : Bool
  memory : Memory R

namespace Register

variable {R : Type}

/-- The qubits of a register. -/
def qubits (register : Register R) : List Int :=
  (List.range register.numQubits.toNat).map Int.ofNat

/-- The text that shows a register. -/
def text (register : Register R) : String :=
  "Register(handle=" ++ Decimal.integer register.handle ++ ", num_qubits=" ++
    Decimal.integer register.numQubits ++ ")"

/-- Consecutive groups of qubits of the given sizes from a starting qubit on.  The next group starts
where the sizes so far add up to, whatever their signs; a group of negative size is empty. -/
def groupsFrom : (start : Int) → List Int → List (List Int)
  | _, [] => []
  | start, size :: rest =>
    ((List.range size.toNat).map fun (offset : Nat) => start + offset) ::
      groupsFrom (start + size) rest

/-- Partition the qubits into consecutive groups whose sizes add up to the size of the register. -/
def split (register : Register R) (sizes : List Int) : Except Fault (List (List Int)) :=
  if sumOfSizes sizes = register.numQubits then .ok (groupsFrom 0 sizes)
  else .error (.splitMismatch register.numQubits sizes)

end Register

/-- The bookkeeping for live registers: their handles and sizes. -/
structure Arena where
  limit : SizeLimit
  nextHandle : Int := 1
  live : List (Int × Int) := []

namespace Arena

/-- An arena that has handed out nothing. -/
def empty (limit : SizeLimit) : Arena := ⟨limit, 1, []⟩

/-- The number of live registers. -/
def liveRegisters (arena : Arena) : Nat := arena.live.length

/-- The sum of the sizes of the live registers. -/
def liveQubits (arena : Arena) : Int := sumOfSizes (arena.live.map Prod.snd)

variable {R : Type} [Scalar R]

/-- Hand out a register in which every qubit reads zero. -/
def acquire (arena : Arena) (numQubits : Int) : Except Fault (Register R × Arena) :=
  if numQubits < 1 then .error (.emptyRegister numQubits)
  else if arena.limit.isExceededBy numQubits then
    .error (.registerTooLarge numQubits arena.limit.label)
  else
    .ok (⟨arena.nextHandle, numQubits, true, .holding (.zero numQubits.toNat)⟩,
      { arena with
        nextHandle := arena.nextHandle + 1
        live := arena.live ++ [(arena.nextHandle, numQubits)] })

/-- What is left of the arena and the register when a register is released, and whether that
succeeded.  The arena forgets the handle before the memory is released. -/
def release (arena : Arena) (register : Register R) :
    Except Fault Unit × Arena × Register R :=
  if arena.live.any fun (handle, _) => handle == register.handle then
    let remaining :=
      { arena with live := arena.live.filter fun (handle, _) => handle != register.handle }
    match register.memory.release with
    | .ok memory => (.ok (), remaining, { register with memory := memory })
    | .error fault => (.error fault, remaining, register)
  else (.error (.handleNotLive register.handle), arena, register)

end Arena

namespace Register

variable {R : Type} [Scalar R]

/-- Release a register through the arena that has handed it out, or by itself. -/
def release (arena : Arena) (register : Register R) :
    Except Fault Unit × Arena × Register R :=
  if register.managed then arena.release register
  else
    match register.memory.release with
    | .ok memory => (.ok (), arena, { register with memory := memory })
    | .error fault => (.error fault, arena, register)

end Register

end QuantumKata
