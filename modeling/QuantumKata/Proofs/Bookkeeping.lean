import QuantumKata.ArenaSession
import QuantumKata.Proofs.Errand

/-!
# The books of an arena

What is done with the registers of an arena is noted in a log, every step with its outcome and with
the session afterwards.  From the log it can be told which registers have been granted and which
handles have been returned.

The books are kept if they agree with the log.  The live registers are those that were granted and
have not been returned, handles are granted in increasing order, no register is returned twice, and
the memory of a register has been given up exactly if the register is not live.  Granting a
register, taking one back and using one are the three ways in which the books go on.
-/

namespace QuantumKata

variable {R : Type}

/-! ## The arena and what has been granted and returned -/

namespace Arena

/-- The books of an arena that has granted some registers and taken some handles back. -/
structure IsKept (arena : Arena) (granted : List (Int × Int)) (returned : List Int) : Prop where
  increasing : (granted.map Prod.fst).Pairwise (· < ·)
  earlier : ∀ entry ∈ granted, entry.1 < arena.nextHandle
  sizes : ∀ entry ∈ granted, 1 ≤ entry.2 ∧ arena.limit.isExceededBy entry.2 = false
  once : returned.Nodup
  outstanding : ∀ handle ∈ returned, handle ∈ granted.map Prod.fst
  live : arena.live = granted.filter fun entry => !returned.contains entry.1

/-- Whether a register of some handle is live. -/
def holds (arena : Arena) (handle : Int) : Bool := arena.live.any fun entry => entry.1 == handle

/-- The arena without the register of a handle. -/
def without (arena : Arena) (handle : Int) : Arena :=
  { arena with live := arena.live.filter fun entry => entry.1 != handle }

/-- The arena after it has granted a register. -/
def granting (arena : Arena) (numQubits : Int) : Arena :=
  { arena with
    nextHandle := arena.nextHandle + 1
    live := arena.live ++ [(arena.nextHandle, numQubits)] }

variable {arena : Arena} {granted : List (Int × Int)} {returned : List Int}
  {handle numQubits : Int}

theorem holds_eq_true_iff : arena.holds handle = true ↔ ∃ size, (handle, size) ∈ arena.live := by
  rw [holds, List.any_eq_true]
  constructor
  · rintro ⟨⟨other, size⟩, member, same⟩
    cases beq_iff_eq.1 same
    exact ⟨size, member⟩
  · rintro ⟨size, member⟩
    exact ⟨_, member, beq_self_eq_true handle⟩

@[simp]
theorem holds_without (arena : Arena) (handle : Int) :
    (arena.without handle).holds handle = false := by
  rw [holds, List.any_eq_false]
  intro entry member
  simpa [without] using (List.mem_filter.1 member).2

theorem holds_without_of_ne {other : Int} (apart : other ≠ handle) :
    (arena.without handle).holds other = arena.holds other := by
  rw [Bool.eq_iff_iff, holds_eq_true_iff, holds_eq_true_iff]
  refine exists_congr fun size => ?_
  simp [without, apart]

theorem without_eq_self (gone : arena.holds handle = false) : arena.without handle = arena := by
  have same : (arena.live.filter fun entry => entry.1 != handle) = arena.live := by
    refine List.filter_eq_self.2 fun entry member => ?_
    rw [holds, List.any_eq_false] at gone
    simpa using gone entry member
  rw [without, same]

namespace IsKept

/-- The live registers are those that have been granted and not returned. -/
theorem holds_iff (kept : arena.IsKept granted returned) :
    arena.holds handle = true ↔ handle ∈ granted.map Prod.fst ∧ handle ∉ returned := by
  rw [holds_eq_true_iff, kept.live]
  constructor
  · rintro ⟨size, member⟩
    obtain ⟨among, out⟩ := List.mem_filter.1 member
    exact ⟨List.mem_map.2 ⟨_, among, rfl⟩, by simpa using out⟩
  · rintro ⟨among, out⟩
    obtain ⟨⟨_, size⟩, listed, rfl⟩ := List.mem_map.1 among
    exact ⟨size, List.mem_filter.2 ⟨listed, by simpa using out⟩⟩

/-- No register has got the handle that comes next. -/
theorem next_not_mem (kept : arena.IsKept granted returned) :
    arena.nextHandle ∉ granted.map Prod.fst := by
  intro member
  obtain ⟨entry, among, same⟩ := List.mem_map.1 member
  have earlier := kept.earlier entry among
  omega

theorem granting (kept : arena.IsKept granted returned) (some : 1 ≤ numQubits)
    (roomy : arena.limit.isExceededBy numQubits = false) :
    (arena.granting numQubits).IsKept (granted ++ [(arena.nextHandle, numQubits)]) returned where
  increasing := by
    rw [List.map_append, List.pairwise_append]
    refine ⟨kept.increasing, List.pairwise_singleton _ _, ?_⟩
    intro handle before next new
    obtain ⟨entry, among, rfl⟩ := List.mem_map.1 before
    cases List.mem_singleton.1 new
    exact kept.earlier entry among
  earlier := by
    intro entry member
    rcases List.mem_append.1 member with before | new
    · exact Int.lt_add_one_of_le (Int.le_of_lt (kept.earlier entry before))
    · cases List.mem_singleton.1 new
      exact Int.lt_succ arena.nextHandle
  sizes := by
    intro entry member
    rcases List.mem_append.1 member with before | new
    · exact kept.sizes entry before
    · cases List.mem_singleton.1 new
      exact ⟨some, roomy⟩
  once := kept.once
  outstanding := by
    intro handle member
    rw [List.map_append]
    exact List.mem_append_left _ (kept.outstanding handle member)
  live := by
    have out : arena.nextHandle ∉ returned := fun member =>
      kept.next_not_mem (kept.outstanding _ member)
    simp [Arena.granting, kept.live, List.filter_append, out]

theorem without (kept : arena.IsKept granted returned) (held : arena.holds handle = true) :
    (arena.without handle).IsKept granted (returned ++ [handle]) where
  increasing := kept.increasing
  earlier := kept.earlier
  sizes := kept.sizes
  once := by
    refine List.nodup_append.2 ⟨kept.once, List.pairwise_singleton _ _, ?_⟩
    rintro other before _ new rfl
    cases List.mem_singleton.1 new
    exact (kept.holds_iff.1 held).2 before
  outstanding := by
    intro other member
    rcases List.mem_append.1 member with before | new
    · exact kept.outstanding other before
    · cases List.mem_singleton.1 new
      exact (kept.holds_iff.1 held).1
  live := by
    simp only [Arena.without, kept.live, List.filter_filter]
    refine List.filter_congr fun entry _ => ?_
    rw [Bool.eq_iff_iff]
    simp [and_comm]

end IsKept

theorem isKept_empty (limit : SizeLimit) : (empty limit).IsKept [] [] where
  increasing := .nil
  earlier := fun _ member => nomatch member
  sizes := fun _ member => nomatch member
  once := .nil
  outstanding := fun _ member => nomatch member
  live := rfl

variable [Scalar R]

theorem acquire_of_roomy (some : 1 ≤ numQubits)
    (roomy : arena.limit.isExceededBy numQubits = false) :
    arena.acquire numQubits =
      .ok ((⟨arena.nextHandle, numQubits, true, .holding (.zero numQubits.toNat)⟩ : Register R),
        arena.granting numQubits) := by
  rw [acquire, if_neg (by omega), if_neg (by simp [roomy])]
  rfl

theorem exists_acquire_eq_error
    (refused : numQubits < 1 ∨ arena.limit.isExceededBy numQubits = true) :
    ∃ fault, arena.acquire (R := R) numQubits = .error fault := by
  rw [acquire]
  split
  · exact ⟨_, rfl⟩
  · rcases refused with empty | exceeded
    · contradiction
    · exact ⟨_, if_pos exceeded⟩

omit [Scalar R] in
theorem release_of_holds {register : Register R} {memory : Memory R}
    (held : arena.holds register.handle = true) (given : register.memory.release = .ok memory) :
    arena.release register =
      (.ok (), arena.without register.handle, { register with memory := memory }) := by
  rw [release]
  split
  case isTrue =>
    rw [given]
    rfl
  case isFalse missing => exact absurd held missing

omit [Scalar R] in
theorem release_of_not_holds {register : Register R} (gone : arena.holds register.handle = false) :
    arena.release register = (.error (.handleNotLive register.handle), arena, register) := by
  rw [release]
  split
  case isTrue held => exact absurd (gone.symm.trans held) Bool.false_ne_true
  case isFalse => rfl

end Arena

/-! ## Steps and their notes -/

namespace ArenaStep

mutual

/-- Whether a step leaves the registers to the arena: it makes no register on its own and does not
give up the memory of one without telling the arena. -/
def isProper : ArenaStep R → Bool
  | .orphan _ _ | .memoryRelease _ => false
  | .scoped _ inner _ => areProper inner
  | _ => true

def areProper : List (ArenaStep R) → Bool
  | [] => true
  | first :: rest => first.isProper && areProper rest

end

/-- Whether a step is one thing done to one register. -/
def isSingle : ArenaStep R → Bool
  | .scoped _ _ _ => false
  | _ => true

end ArenaStep

namespace ArenaSession

/-- A step that has been taken, its outcome and the session afterwards. -/
structure Note (R : Type) where
  taken : ArenaStep R
  outcome : Except Fault (ArenaAnswer R)
  after : ArenaSession R

namespace Note

/-- The handle and the size of a register that has been granted. -/
def granted? : Note R → Option (Int × Int)
  | ⟨.acquire numQubits, .ok (.handle handle), _⟩ => some (handle, numQubits)
  | _ => none

/-- The handle of a register that has been returned. -/
def returned? : Note R → Option Int
  | ⟨.release handle, .ok _, _⟩ => some handle
  | ⟨.arenaRelease handle, .ok _, _⟩ => some handle
  | _ => none

end Note

/-- The registers granted in a log. -/
def granted (log : List (Note R)) : List (Int × Int) := log.filterMap Note.granted?

/-- The handles returned in a log. -/
def returned (log : List (Note R)) : List Int := log.filterMap Note.returned?

/-- The session at the end of a log. -/
def last (start : ArenaSession R) (log : List (Note R)) : ArenaSession R :=
  log.foldl (fun _ note => note.after) start

@[simp]
theorem last_nil (start : ArenaSession R) : last start [] = start := rfl

@[simp]
theorem last_cons (start : ArenaSession R) (note : Note R) (rest : List (Note R)) :
    last start (note :: rest) = last note.after rest := rfl

theorem last_append (start : ArenaSession R) (log more : List (Note R)) :
    last start (log ++ more) = last (last start log) more :=
  List.foldl_append

@[simp]
theorem granted_append (log : List (Note R)) (note : Note R) :
    granted (log ++ [note]) = granted log ++ note.granted?.toList := by
  cases found : note.granted? <;> simp [granted, found]

@[simp]
theorem returned_append (log : List (Note R)) (note : Note R) :
    returned (log ++ [note]) = returned log ++ note.returned?.toList := by
  cases found : note.returned? <;> simp [returned, found]

/-! ## The account of a session -/

/-- The books of a session agree with its log.  The registers that exist are those that have been
granted, in this order, and each is found under its own handle. -/
structure Account (limit : SizeLimit) (log : List (Note R)) (session : ArenaSession R) : Prop where
  limit : session.arena.limit = limit
  books : session.arena.IsKept (granted log) (returned log)
  registers : (session.registers.toList.map fun register => (register.handle, register.numQubits)) =
    granted log
  managed : ∀ (place : Nat) (register : Register R), session.registers[place]? = some register →
    register.managed = true
  memory : ∀ (place : Nat) (register : Register R), session.registers[place]? = some register →
    register.memory.isReleased = !session.arena.holds register.handle
  named : ∀ (handle : Int) (place : Nat), session.names.lookup handle = some place ↔
    ∃ register, session.registers[place]? = some register ∧ register.handle = handle

/-- The session with another register at a place. -/
def replacing (session : ArenaSession R) (place : Nat) (register : Register R) : ArenaSession R :=
  { session with registers := session.registers.modify place fun _ => register }

variable {session : ArenaSession R} {handle numQubits : Int} {place other : Nat}
  {register left second : Register R}

theorem replacing_getElem?_self (found : session.registers[place]? = some register) :
    (session.replacing place left).registers[place]? = some left := by
  rw [replacing, Array.getElem?_modify, if_pos rfl, found]
  rfl

theorem replacing_getElem?_of_ne (apart : other ≠ place) :
    (session.replacing place left).registers[other]? = session.registers[other]? := by
  rw [replacing, Array.getElem?_modify, if_neg apart.symm]

/-- At the place stands the other register, and everywhere else what was there before. -/
theorem replacing_cases (found : session.registers[place]? = some register)
    (stands : (session.replacing place left).registers[other]? = some second) :
    other = place ∧ second = left ∨ other ≠ place ∧ session.registers[other]? = some second := by
  by_cases here : other = place
  · subst here
    rw [replacing_getElem?_self found] at stands
    exact .inl ⟨rfl, (Option.some.inj stands).symm⟩
  · rw [replacing_getElem?_of_ne here] at stands
    exact .inr ⟨here, stands⟩

theorem replacing_self (found : session.registers[place]? = some register) :
    session.replacing place register = session := by
  have same : (session.replacing place register).registers = session.registers := by
    refine Array.ext_getElem? fun other => ?_
    by_cases here : other = place
    · subst here
      rw [replacing_getElem?_self found, found]
    · exact replacing_getElem?_of_ne here
  exact congrArg (fun registers => { session with registers := registers }) same

namespace Account

variable {limit : SizeLimit} {log : List (Note R)}

theorem start (limit : SizeLimit) (definitions : Definitions R) :
    Account limit [] ({ arena := .empty limit, definitions := definitions } : ArenaSession R) where
  limit := rfl
  books := Arena.isKept_empty limit
  registers := rfl
  managed := by simp
  memory := by simp
  named := by simp

theorem getElem?_granted (account : Account limit log session) (place : Nat) :
    (granted log)[place]? =
      session.registers[place]?.map fun register => (register.handle, register.numQubits) := by
  rw [← account.registers, List.getElem?_map, Array.getElem?_toList]

theorem handle_mem (account : Account limit log session)
    (found : session.registers[place]? = some register) :
    register.handle ∈ (granted log).map Prod.fst := by
  have entry := account.getElem?_granted place
  rw [found] at entry
  exact List.mem_map.2 ⟨_, List.mem_of_getElem? entry, rfl⟩

/-- Registers at different places have different handles. -/
theorem place_eq (account : Account limit log session)
    (found : session.registers[place]? = some register)
    (also : session.registers[other]? = some second) (same : register.handle = second.handle) :
    place = other := by
  have first := (account.named register.handle place).2 ⟨register, found, rfl⟩
  have again := (account.named register.handle other).2 ⟨second, also, same.symm⟩
  exact Option.some.inj (first.symm.trans again)

/-- The place and the register of a handle that has been granted. -/
theorem exists_register (account : Account limit log session)
    (member : handle ∈ (granted log).map Prod.fst) :
    ∃ place register, session.registers[place]? = some register ∧ register.handle = handle ∧
      session.names.lookup handle = some place := by
  rw [← account.registers, List.map_map] at member
  obtain ⟨register, among, rfl⟩ := List.mem_map.1 member
  obtain ⟨place, found⟩ := List.getElem?_of_mem among
  rw [Array.getElem?_toList] at found
  exact ⟨place, register, found, rfl, (account.named _ place).2 ⟨register, found, rfl⟩⟩

/-- A note of nothing granted or returned leaves the account as it is. -/
theorem noting (account : Account limit log session) {note : Note R}
    (nothing : note.granted? = none) (neither : note.returned? = none) :
    Account limit (log ++ [note]) session := by
  have granted : granted (log ++ [note]) = granted log := by simp [nothing]
  have returned : returned (log ++ [note]) = returned log := by simp [neither]
  exact ⟨account.limit, granted ▸ returned ▸ account.books, granted ▸ account.registers,
    account.managed, account.memory, account.named⟩

/-- A register at a place gives way to another that has the same entry in the books, and the arena
has changed as far as that entry goes. -/
theorem replacing (account : Account limit log session)
    (found : session.registers[place]? = some register) {arena : Arena} {more : List (Note R)}
    (same : (left.handle, left.numQubits, left.managed) =
      (register.handle, register.numQubits, register.managed))
    (nothing : granted more = granted log)
    (limit' : arena.limit = limit) (books : arena.IsKept (granted log) (returned more))
    (memory : left.memory.isReleased = !arena.holds left.handle)
    (others : ∀ other, other ≠ register.handle → arena.holds other = session.arena.holds other) :
    Account limit more (({ session with arena := arena } : ArenaSession R).replacing place left) := by
  simp only [Prod.mk.injEq] at same
  obtain ⟨sameHandle, sameSize, sameManaged⟩ := same
  have here : (({ session with arena := arena } : ArenaSession R).replacing place left).registers[
      place]? = some left := replacing_getElem?_self found
  have there : ∀ other, other ≠ place →
      (({ session with arena := arena } : ArenaSession R).replacing place left).registers[other]? =
        session.registers[other]? :=
    fun _ apart => replacing_getElem?_of_ne apart
  constructor
  case limit => exact limit'
  case books =>
    rw [nothing]
    exact books
  case registers =>
    rw [nothing, ← account.registers]
    refine List.ext_getElem? fun other => ?_
    rw [List.getElem?_map, List.getElem?_map, Array.getElem?_toList, Array.getElem?_toList]
    by_cases same : other = place
    · subst same
      rw [here, found]
      simp only [Option.map_some, sameHandle, sameSize]
    · rw [there other same]
  case managed =>
    intro other second stands
    rcases replacing_cases found stands with ⟨-, rfl⟩ | ⟨-, before⟩
    · exact sameManaged.trans (account.managed place register found)
    · exact account.managed other second before
  case memory =>
    intro other second stands
    rcases replacing_cases found stands with ⟨-, rfl⟩ | ⟨apart, before⟩
    · exact memory
    · have distinct : second.handle ≠ register.handle := fun same =>
        apart (account.place_eq before found same)
      exact (account.memory other second before).trans
        (congrArg not (others second.handle distinct).symm)
  case named =>
    intro handle other
    refine (account.named handle other).trans ?_
    by_cases same : other = place
    · subst same
      rw [here, found]
      simp only [Option.some.injEq, exists_eq_left', sameHandle]
    · rw [there other same]

/-- A register that has been returned. -/
theorem returning (account : Account limit log session)
    (found : session.registers[place]? = some register)
    (held : session.arena.holds register.handle = true) {memory : Memory R}
    (released : memory.isReleased = true) {note : Note R} (nothing : note.granted? = none)
    (back : note.returned? = some register.handle) :
    Account limit (log ++ [note])
      (({ session with arena := session.arena.without register.handle } : ArenaSession R).replacing
        place { register with memory := memory }) := by
  refine account.replacing found rfl (by simp [nothing]) account.limit ?_ ?_ ?_
  · rw [returned_append, back]
    exact account.books.without held
  · simp [released]
  · exact fun other apart => Arena.holds_without_of_ne apart

/-- A register that has been used is what it was in the books. -/
theorem used (account : Account limit log session)
    (found : session.registers[place]? = some register) {memory : Memory R}
    (same : memory.isReleased = register.memory.isReleased) :
    Account limit log (session.replacing place { register with memory := memory }) :=
  account.replacing found rfl rfl account.limit account.books
    (same.trans (account.memory place register found)) fun _ _ => rfl

end Account

end ArenaSession

end QuantumKata
