import QuantumKata.Proofs.ArenaRuns

/-!
# Which register an arena takes back

An arena knows its live registers by their handles, and what is given back to it is a register,
which may have been made by another arena or by none.  So two things can come apart.  The handle of
a register from elsewhere may be that of a live one, and then the arena gives up the live register
while the memory of the other is released.  The memory of a live register may have been released
without the arena, and then the arena refuses the register but has already forgotten it.

A session is reached if its arena started empty and has since granted registers, met others and been
handed either kind, while memories were used or released on their own.  In a reached session, giving
a register back is all or nothing exactly if neither of the two happens.  What carries the proof is
that the live handles are those of registers the arena has granted, one register for each.
-/

namespace QuantumKata

variable {R : Type}

/-- A live register whose memory cannot be released is refused, but its handle has been given up. -/
theorem Arena.release_of_holds_of_error {arena : Arena} {register : Register R} {fault : Fault}
    (held : arena.holds register.handle = true) (refused : register.memory.release = .error fault) :
    arena.release register = (.error fault, arena.without register.handle, register) := by
  rw [release]
  split
  case isTrue =>
    rw [refused]
    rfl
  case isFalse missing => exact absurd held missing

/-- The memory that can be released is the one that has not been. -/
theorem Memory.isReleased_eq_false_iff {memory : Memory R} :
    memory.isReleased = false ↔ ∃ left, memory.release = .ok left := by
  cases memory with
  | holding state => exact ⟨fun _ => ⟨_, rfl⟩, fun _ => rfl⟩
  | released size => exact ⟨nofun, nofun⟩

namespace ArenaSession

variable {session after : ArenaSession R} {own : Set Nat} {place other : Nat}
  {register left second : Register R} {numQubits : Int}

/-! ## Live registers and what is done to them -/

/-- Whether the register at a place is one of the live registers of the arena: the arena has granted
it, which the set of places tells, and its handle has not been given up. -/
def IsLive (session : ArenaSession R) (own : Set Nat) (place : Nat) : Prop :=
  place ∈ own ∧
    ∃ register, session.registers[place]? = some register ∧
      session.arena.holds register.handle = true

theorem isLive_iff (member : place ∈ own)
    (found : session.registers[place]? = some register) :
    session.IsLive own place ↔ session.arena.holds register.handle = true := by
  constructor
  · rintro ⟨-, known, stands, held⟩
    rw [found] at stands
    cases stands
    exact held
  · exact fun held => ⟨member, register, found, held⟩

/-- Giving back the register at a place is all or nothing.  Either it is refused, and the arena and
all registers are what they were, or the register was live, it alone is not any more, and its memory
alone has been released. -/
inductive AllOrNothing (own : Set Nat) (place : Nat) (before : ArenaSession R) :
    Except Fault Unit × ArenaSession R → Prop where
  | nothing (fault : Fault) {after : ArenaSession R} (arena : after.arena = before.arena)
      (registers : after.registers = before.registers) :
      AllOrNothing own place before (.error fault, after)
  | all {after : ArenaSession R} {register : Register R} {memory : Memory R}
      (live : before.IsLive own place) (gone : ¬ after.IsLive own place)
      (others : ∀ other, other ≠ place → (after.IsLive own other ↔ before.IsLive own other))
      (fewer : after.arena.liveRegisters + 1 = before.arena.liveRegisters)
      (found : before.registers[place]? = some register)
      (given : register.memory.release = .ok memory)
      (stands : after.registers[place]? = some { register with memory := memory })
      (untouched : ∀ other, other ≠ place → after.registers[other]? = before.registers[other]?) :
      AllOrNothing own place before (.ok (), after)

variable [Scalar R]

/-- The sessions that can come about, each with the places of the registers its arena has granted.
A visiting register has been made by another arena or without one, under any handle. -/
inductive Reaches (limit : SizeLimit) : ArenaSession R → Set Nat → Prop where
  | start (definitions : Definitions R) :
      Reaches limit { arena := .empty limit, definitions := definitions } ∅
  | acquire {session after : ArenaSession R} {own : Set Nat} {numQubits : Int} {place : Nat}
      (before : Reaches limit session own)
      (granted : ArenaSession.acquire numQubits session = (.ok place, after)) :
      Reaches limit after (insert place own)
  | visit {session : ArenaSession R} {own : Set Nat} (before : Reaches limit session own)
      (register : Register R) : Reaches limit (keep register session).2 own
  | release {session : ArenaSession R} {own : Set Nat} (before : Reaches limit session own)
      (place : Nat) :
      Reaches limit (releaseBy (fun arena register => arena.release register) place session).2 own
  | releaseMemory {session : ArenaSession R} {own : Set Nat} (before : Reaches limit session own)
      (place : Nat) : Reaches limit (releaseBy ArenaSession.releaseMemory place session).2 own
  | use {session : ArenaSession R} {own : Set Nat} (before : Reaches limit session own)
      (place : Nat) (body : InstructionPlans R) : Reaches limit (runOn place body session).2 own

/-! ## One granted register for each live handle -/

omit [Scalar R] in
/-- The registers that an arena has granted stand at their places under handles of their own, all
below the handle that comes next, and each live handle is that of one of them. -/
structure Custody (session : ArenaSession R) (own : Set Nat) : Prop where
  stands : ∀ place ∈ own, ∃ register, session.registers[place]? = some register ∧
    register.handle < session.arena.nextHandle
  apart : ∀ place ∈ own, ∀ other ∈ own, ∀ register second : Register R,
    session.registers[place]? = some register → session.registers[other]? = some second →
      register.handle = second.handle → place = other
  owned : ∀ handle, session.arena.holds handle = true →
    ∃ place ∈ own, ∃ register, session.registers[place]? = some register ∧ register.handle = handle
  once : (session.arena.live.map Prod.fst).Nodup

namespace Custody

omit [Scalar R]

/-- The register that comes next has a handle of its own. -/
theorem next_not_held (custody : Custody session own) :
    session.arena.holds session.arena.nextHandle = false := by
  rw [Bool.eq_false_iff]
  intro held
  obtain ⟨place, member, register, found, same⟩ := custody.owned _ held
  obtain ⟨known, stands, below⟩ := custody.stands place member
  rw [found] at stands
  cases stands
  omega

theorem next_not_mem (custody : Custody session own) :
    session.arena.nextHandle ∉ session.arena.live.map Prod.fst := by
  intro listed
  obtain ⟨⟨_, size⟩, among, rfl⟩ := List.mem_map.1 listed
  have held := Arena.holds_eq_true_iff.2 ⟨size, among⟩
  exact Bool.false_ne_true (custody.next_not_held.symm.trans held)

theorem start (limit : SizeLimit) (definitions : Definitions R) :
    Custody ({ arena := .empty limit, definitions := definitions } : ArenaSession R) ∅ where
  stands := fun _ member => member.elim
  apart := fun _ member => member.elim
  owned := fun _ held => nomatch held
  once := .nil

/-- A register that visits is none of those that have been granted. -/
theorem visit (custody : Custody session own) (register : Register R) :
    Custody (keep register session).2 own := by
  have stays : ∀ place ∈ own,
      (session.registers.push register)[place]? = session.registers[place]? := by
    intro place member
    obtain ⟨known, found, -⟩ := custody.stands place member
    exact Array.getElem?_push.trans (if_neg (Array.getElem?_eq_some_iff.1 found).1.ne)
  constructor
  case stands =>
    intro place member
    obtain ⟨known, found, below⟩ := custody.stands place member
    exact ⟨known, (stays place member).trans found, below⟩
  case apart =>
    intro place member other also known second found stands
    exact custody.apart place member other also known second
      ((stays place member).symm.trans found) ((stays other also).symm.trans stands)
  case owned =>
    intro handle held
    obtain ⟨place, member, known, found, same⟩ := custody.owned handle held
    exact ⟨place, member, known, (stays place member).trans found, same⟩
  case once => exact custody.once

/-- A register gives way to another of the same handle, and the arena may have given up handles. -/
theorem replacing (custody : Custody session own)
    (found : session.registers[place]? = some register) (same : left.handle = register.handle)
    (arena : Arena) (next : arena.nextHandle = session.arena.nextHandle)
    (fewer : arena.live.Sublist session.arena.live) :
    Custody (({ session with arena := arena } : ArenaSession R).replacing place left) own := by
  -- What stands at a place afterwards has the handle of what stood there before.
  have before : ∀ {other : Nat} {second : Register R},
      (({ session with arena := arena } : ArenaSession R).replacing place left).registers[other]? =
        some second → ∃ known, session.registers[other]? = some known ∧
          known.handle = second.handle := by
    intro other second stands
    rcases replacing_cases found stands with ⟨rfl, rfl⟩ | ⟨-, earlier⟩
    · exact ⟨register, found, same.symm⟩
    · exact ⟨second, earlier, rfl⟩
  have later : ∀ {other : Nat} {known : Register R}, session.registers[other]? = some known →
      ∃ second, (({ session with arena := arena } : ArenaSession R).replacing
        place left).registers[other]? = some second ∧ second.handle = known.handle := by
    intro other known earlier
    by_cases here : other = place
    · subst here
      rw [found] at earlier
      cases earlier
      exact ⟨left, replacing_getElem?_self found, same⟩
    · exact ⟨known, (replacing_getElem?_of_ne here).trans earlier, rfl⟩
  constructor
  case stands =>
    intro other member
    obtain ⟨known, earlier, below⟩ := custody.stands other member
    obtain ⟨second, stands, sameHandle⟩ := later earlier
    refine ⟨second, stands, ?_⟩
    rw [sameHandle]
    exact below.trans_eq next.symm
  case apart =>
    intro first member other also one two standsOne standsTwo sameHandle
    obtain ⟨knownOne, foundOne, handleOne⟩ := before standsOne
    obtain ⟨knownTwo, foundTwo, handleTwo⟩ := before standsTwo
    exact custody.apart first member other also knownOne knownTwo foundOne foundTwo
      (handleOne.trans (sameHandle.trans handleTwo.symm))
  case owned =>
    intro handle held
    obtain ⟨size, among⟩ := Arena.holds_eq_true_iff.1 held
    obtain ⟨other, member, known, earlier, rfl⟩ :=
      custody.owned handle (Arena.holds_eq_true_iff.2 ⟨size, fewer.subset among⟩)
    obtain ⟨second, stands, sameHandle⟩ := later earlier
    exact ⟨other, member, second, stands, sameHandle⟩
  case once => exact custody.once.sublist (fewer.map _)

/-- Whatever becomes of its memory, a register keeps its handle. -/
theorem replacing_memory (custody : Custody session own)
    (found : session.registers[place]? = some register) (memory : Memory R) :
    Custody (session.replacing place { register with memory := memory }) own := by
  have same : ({ register with memory := memory } : Register R).handle = register.handle := rfl
  exact custody.replacing found same session.arena rfl (.refl session.arena.live)

end Custody

/-! ## Reached sessions -/

omit [Scalar R] in
/-- The three ways in which giving a register back to the arena goes.  If its handle is live, the
arena forgets the handle, whether or not the memory can be released. -/
theorem releaseBy_arena_cases (found : session.registers[place]? = some register) :
    (∃ memory, session.arena.holds register.handle = true ∧
        register.memory.release = .ok memory ∧
          releaseBy (fun arena register => arena.release register) place session =
            (.ok (), ({ session with arena := session.arena.without register.handle } :
              ArenaSession R).replacing place { register with memory := memory })) ∨
      (∃ fault, session.arena.holds register.handle = true ∧
        register.memory.release = .error fault ∧
          releaseBy (fun arena register => arena.release register) place session =
            (.error fault, { session with arena := session.arena.without register.handle })) ∨
      session.arena.holds register.handle = false ∧
        releaseBy (fun arena register => arena.release register) place session =
          (.error (.handleNotLive register.handle), session) := by
  rw [releaseBy_eq found]
  cases held : session.arena.holds register.handle with
  | false =>
    refine .inr (.inr ⟨rfl, ?_⟩)
    rw [Arena.release_of_not_holds held]
    exact congrArg (Prod.mk _) (replacing_self found)
  | true =>
    cases given : register.memory.release with
    | ok memory =>
      refine .inl ⟨memory, rfl, rfl, ?_⟩
      rw [Arena.release_of_holds held given]
    | error fault =>
      refine .inr (.inl ⟨fault, rfl, rfl, ?_⟩)
      rw [Arena.release_of_holds_of_error held given]
      exact congrArg (Prod.mk _) (replacing_self found)

omit [Scalar R] in
theorem releaseBy_releaseMemory (found : session.registers[place]? = some register) :
    ∃ memory, (releaseBy releaseMemory place session).2 =
      session.replacing place { register with memory := memory } := by
  rw [releaseBy_eq found, releaseMemory]
  cases register.memory.release with
  | ok memory => exact ⟨memory, rfl⟩
  | error fault => exact ⟨register.memory, rfl⟩

omit [Scalar R] in
/-- At a place where no register stands nothing can be done. -/
theorem registerAt_eq_error (missing : session.registers[place]? = none) :
    registerAt place session = (.error (.listIndexOutOfRange place), session) := by
  rw [registerAt, missing]

omit [Scalar R] in
theorem releaseBy_of_missing (how : Arena → Register R → Except Fault Unit × Arena × Register R)
    (missing : session.registers[place]? = none) : (releaseBy how place session).2 = session := by
  rw [releaseBy, Action.bind_of_error (registerAt_eq_error missing)]

theorem runOn_of_missing (body : InstructionPlans R) (missing : session.registers[place]? = none) :
    (runOn place body session).2 = session := by
  rw [runOn, Action.bind_of_error (registerAt_eq_error missing)]

/-- A register that has been granted stands at the next place under the next handle. -/
theorem acquire_eq_ok (granted : acquire numQubits session = (.ok place, after)) :
    place = session.registers.size ∧ after = session.granting numQubits := by
  by_cases refused : numQubits < 1 ∨ session.arena.limit.isExceededBy numQubits = true
  · obtain ⟨fault, refusal⟩ := exists_acquire_eq_error refused
    rw [refusal] at granted
    cases granted
  · rw [not_or, Int.not_lt, Bool.not_eq_true] at refused
    rw [acquire_of_roomy refused.1 refused.2] at granted
    cases granted
    exact ⟨rfl, rfl⟩

namespace Custody

/-- A register that is granted has the handle that no register had so far. -/
theorem granting (custody : Custody session own) (numQubits : Int) :
    Custody (session.granting numQubits) (insert session.registers.size own) := by
  have below : ∀ place ∈ own, ∀ register : Register R,
      session.registers[place]? = some register → register.handle < session.arena.nextHandle := by
    intro place member register found
    obtain ⟨known, stands, below⟩ := custody.stands place member
    cases found.symm.trans stands
    exact below
  -- A register from before stands at a place that was granted before.
  have earlier : ∀ {place : Nat} {register : Register R},
      place ∈ insert session.registers.size own → session.registers[place]? = some register →
        place ∈ own :=
    fun member found => member.resolve_left (Array.getElem?_eq_some_iff.1 found).1.ne
  constructor
  case stands =>
    rintro place (rfl | member)
    · exact ⟨_, granting_getElem?_eq_some_iff.2 (.inl ⟨rfl, rfl⟩),
        Int.lt_succ session.arena.nextHandle⟩
    · obtain ⟨register, found, below⟩ := custody.stands place member
      exact ⟨register, granting_getElem?_eq_some_iff.2 (.inr found),
        below.trans (Int.lt_succ session.arena.nextHandle)⟩
  case apart =>
    intro place member other also register second found stands same
    rcases granting_getElem?_eq_some_iff.1 found with ⟨rfl, rfl⟩ | before
    · rcases granting_getElem?_eq_some_iff.1 stands with ⟨rfl, -⟩ | after
      · rfl
      · exact absurd same (below other (earlier also after) second after).ne'
    · rcases granting_getElem?_eq_some_iff.1 stands with ⟨rfl, rfl⟩ | after
      · exact absurd same (below place (earlier member before) register before).ne
      · exact custody.apart place (earlier member before) other (earlier also after) register
          second before after same
  case owned =>
    intro handle held
    obtain ⟨size, among⟩ := Arena.holds_eq_true_iff.1 held
    rcases List.mem_append.1 among with before | new
    · obtain ⟨place, member, register, found, same⟩ :=
        custody.owned handle (Arena.holds_eq_true_iff.2 ⟨size, before⟩)
      exact ⟨place, .inr member, register, granting_getElem?_eq_some_iff.2 (.inr found), same⟩
    · cases List.mem_singleton.1 new
      exact ⟨_, .inl rfl, _, granting_getElem?_eq_some_iff.2 (.inl ⟨rfl, rfl⟩), rfl⟩
  case once =>
    rw [ArenaSession.granting, Arena.granting, List.map_append]
    exact List.nodup_append.2 ⟨custody.once, List.nodup_singleton _, by
      rintro handle listed _ new rfl
      cases List.mem_singleton.1 new
      exact custody.next_not_mem listed⟩

omit [Scalar R] in
/-- Forgetting the handle of a register is the only change to the arena when it is given back. -/
theorem release (custody : Custody session own) (place : Nat) :
    Custody (releaseBy (fun arena register => arena.release register) place session).2 own := by
  cases found : session.registers[place]? with
  | none =>
    rw [releaseBy_of_missing _ found]
    exact custody
  | some register =>
    have fewer : (session.arena.without register.handle).live.Sublist session.arena.live :=
      List.filter_sublist
    rcases releaseBy_arena_cases found with ⟨memory, -, -, given⟩ | ⟨fault, -, -, given⟩ | ⟨-, given⟩
    · rw [given]
      have same : ({ register with memory := memory } : Register R).handle = register.handle := rfl
      exact custody.replacing found same _ rfl fewer
    · have forgotten := custody.replacing found rfl (session.arena.without register.handle) rfl fewer
      have still : ({ session with arena := session.arena.without register.handle } :
          ArenaSession R).registers[place]? = some register := found
      rw [replacing_self still] at forgotten
      rw [given]
      exact forgotten
    · rw [given]
      exact custody

/-- The granted registers of a reached session are in custody. -/
theorem of_reaches {limit : SizeLimit} (reached : Reaches limit session own) :
    Custody session own := by
  induction reached with
  | start definitions => exact .start limit definitions
  | acquire before granted custody =>
    obtain ⟨rfl, rfl⟩ := acquire_eq_ok granted
    exact custody.granting _
  | visit before register custody => exact custody.visit register
  | release before place custody => exact custody.release place
  | @releaseMemory session own before place custody =>
    cases found : session.registers[place]? with
    | none =>
      rw [releaseBy_of_missing _ found]
      exact custody
    | some register =>
      obtain ⟨memory, left⟩ := releaseBy_releaseMemory found
      rw [left]
      exact custody.replacing_memory found memory
  | @use session own before place body custody =>
    cases found : session.registers[place]? with
    | none =>
      rw [runOn_of_missing body found]
      exact custody
    | some register =>
      obtain ⟨memory, -, ran⟩ := exists_runOn_eq body found
      rw [ran]
      exact custody.replacing_memory found memory

end Custody

/-! ## Every session is reached -/

/-- Whether an action leads from reached sessions to reached ones. -/
def Leads {α : Type} (limit : SizeLimit) (action : SessionAction R α) : Prop :=
  ∀ session own, Reaches limit session own → ∃ later, Reaches limit (action session).2 later

namespace Leads

variable {α β : Type} {limit : SizeLimit}

theorem bind {action : SessionAction R α} {next : α → SessionAction R β}
    (first : Leads limit action) (rest : ∀ value, Leads limit (next value)) :
    Leads limit (action >>= next) := by
  intro session own reached
  obtain ⟨later, between⟩ := first session own reached
  rw [Action.bind_apply]
  rcases result : action session with ⟨_ | value, after⟩
  · rw [result] at between
    exact ⟨later, between⟩
  · rw [result] at between
    exact rest value after later between

theorem of_keeps {action : SessionAction R α} (kept : Action.Keeps id action) :
    Leads limit action := by
  intro session own reached
  have same : (action session).2 = session := kept session
  rw [same]
  exact ⟨own, reached⟩

theorem acquire (numQubits : Int) : Leads (R := R) limit (ArenaSession.acquire numQubits) := by
  intro session own reached
  by_cases refused : numQubits < 1 ∨ session.arena.limit.isExceededBy numQubits = true
  · obtain ⟨fault, refusal⟩ := exists_acquire_eq_error refused
    rw [refusal]
    exact ⟨own, reached⟩
  · rw [not_or, Int.not_lt, Bool.not_eq_true] at refused
    have granted := acquire_of_roomy refused.1 refused.2
    rw [granted]
    exact ⟨_, reached.acquire granted⟩

theorem release (place : Nat) : Leads (R := R) limit
    (releaseBy (fun arena register => arena.release register) place) :=
  fun _ own reached => ⟨own, reached.release place⟩

theorem releaseMemory (place : Nat) :
    Leads (R := R) limit (releaseBy ArenaSession.releaseMemory place) :=
  fun _ own reached => ⟨own, reached.releaseMemory place⟩

/-- A register that is given back by itself goes to the arena, or only its memory is released. -/
theorem releaseItself (place : Nat) : Leads (R := R) limit
    (releaseBy (fun arena register => register.release arena) place) := by
  intro session own reached
  cases found : session.registers[place]? with
  | none =>
    rw [releaseBy_of_missing _ found]
    exact ⟨own, reached⟩
  | some register =>
    cases managed : register.managed with
    | true =>
      have through : register.release session.arena = session.arena.release register := by
        rw [Register.release, if_pos managed]
      have given := reached.release place
      rw [releaseBy_eq found] at given ⊢
      rw [through]
      exact ⟨own, given⟩
    | false =>
      have alone : register.release session.arena =
          ArenaSession.releaseMemory session.arena register := by
        rw [Register.release, if_neg (by simp [managed])]
        rfl
      have given := reached.releaseMemory place
      rw [releaseBy_eq found] at given ⊢
      rw [alone]
      exact ⟨own, given⟩

end Leads

mutual

theorem leads_step (limit : SizeLimit) : ∀ taken : ArenaStep R, Leads limit (step taken)
  | .acquire numQubits => by
    rw [step]
    exact (Leads.acquire numQubits).bind fun place =>
      (Leads.of_keeps (keeps_registerAt place)).bind fun _ => .of_keeps fun _ => rfl
  | .orphan handle numQubits => by
    rw [step]
    exact (Leads.of_keeps (Action.keeps_ofExcept _)).bind fun memory =>
      Leads.bind (fun _ own reached => ⟨own, reached.visit _⟩) fun _ => .of_keeps fun _ => rfl
  | .release handle => by
    rw [step]
    exact (Leads.of_keeps (keeps_find handle)).bind fun place =>
      (Leads.releaseItself place).bind fun _ => .of_keeps fun _ => rfl
  | .arenaRelease handle => by
    rw [step]
    exact (Leads.of_keeps (keeps_find handle)).bind fun place =>
      (Leads.release place).bind fun _ => .of_keeps fun _ => rfl
  | .memoryRelease handle => by
    rw [step]
    exact (Leads.of_keeps (keeps_find handle)).bind fun place =>
      (Leads.releaseMemory place).bind fun _ => .of_keeps fun _ => rfl
  | .split handle sizes => .of_keeps fun session => after_split handle sizes session
  | .describe handle => .of_keeps fun session => after_describe handle session
  | .run handle body => by
    rw [step]
    exact (Leads.of_keeps (keeps_find handle)).bind fun place =>
      Leads.bind (fun _ own reached => ⟨own, reached.use place body⟩) fun _ => .of_keeps fun _ => rfl
  | .scoped numQubits inner ending => by
    rw [step]
    refine (Leads.acquire numQubits).bind fun place =>
      (Leads.of_keeps (keeps_registerAt place)).bind fun register =>
        (leads_steps limit inner).bind fun answers => (Leads.release place).bind fun _ => ?_
    cases ending <;> exact .of_keeps fun _ => rfl

/-- Whatever steps are taken, the session stays reached. -/
theorem leads_steps (limit : SizeLimit) : ∀ program : List (ArenaStep R),
    Leads limit (steps program)
  | [] => by
    rw [steps]
    exact .of_keeps fun _ => rfl
  | first :: rest => by
    have attempted : Leads limit (Action.attempt (step first)) := leads_step limit first
    rw [steps]
    exact attempted.bind fun _ => (leads_steps limit rest).bind fun _ => .of_keeps fun _ => rfl

end

/-! ## All or nothing -/

omit [Scalar R] in
/-- Each live handle stands for one live register. -/
theorem liveRegisters_without {arena : Arena} {handle : Int}
    (once : (arena.live.map Prod.fst).Nodup) (held : arena.holds handle = true) :
    (arena.without handle).liveRegisters + 1 = arena.liveRegisters := by
  obtain ⟨size, among⟩ := Arena.holds_eq_true_iff.1 held
  have one : arena.live.countP (fun entry => entry.1 == handle) = 1 := by
    have counted := List.count_eq_one_of_mem once (List.mem_map.2 ⟨_, among, rfl⟩)
    rwa [List.count, List.countP_map] at counted
  have all := arena.live.length_eq_length_filter_add fun entry => entry.1 == handle
  rw [← List.countP_eq_length_filter, one] at all
  exact (all.trans (Nat.add_comm _ _)).symm

namespace Custody

omit [Scalar R] in
/-- A register that is live and holds its memory is taken back, and no other. -/
theorem all (custody : Custody session own) (member : place ∈ own)
    (found : session.registers[place]? = some register)
    (held : session.arena.holds register.handle = true) {memory : Memory R}
    (given : register.memory.release = .ok memory) :
    AllOrNothing own place session
      (.ok (), ({ session with arena := session.arena.without register.handle } :
        ArenaSession R).replacing place { register with memory := memory }) := by
  have stands : (({ session with arena := session.arena.without register.handle } :
      ArenaSession R).replacing place { register with memory := memory }).registers[place]? =
        some { register with memory := memory } := replacing_getElem?_self found
  have untouched : ∀ other, other ≠ place →
      (({ session with arena := session.arena.without register.handle } :
        ArenaSession R).replacing place { register with memory := memory }).registers[other]? =
          session.registers[other]? := fun _ apart => replacing_getElem?_of_ne apart
  refine .all ⟨member, register, found, held⟩ ?_ ?_ (liveRegisters_without custody.once held) found
    given stands untouched
  · rw [isLive_iff member stands, Bool.not_eq_true]
    exact Arena.holds_without session.arena register.handle
  · intro other elsewhere
    refine and_congr_right fun also => exists_congr fun second => ?_
    rw [untouched other elsewhere]
    refine and_congr_right fun there => ?_
    have distinct : second.handle ≠ register.handle := fun same =>
      elsewhere (custody.apart other also place member second register there found same)
    exact Bool.eq_iff_iff.1 (Arena.holds_without_of_ne distinct)

omit [Scalar R] in
/-- Giving a register back is all or nothing exactly if its handle is not live, or is its own and
its memory has not been released. -/
theorem allOrNothing_iff (custody : Custody session own)
    (found : session.registers[place]? = some register) :
    AllOrNothing own place session
        (releaseBy (fun arena register => arena.release register) place session) ↔
      (session.arena.holds register.handle = true →
        place ∈ own ∧ register.memory.isReleased = false) := by
  rcases releaseBy_arena_cases found with
    ⟨memory, held, given, result⟩ | ⟨fault, held, refused, result⟩ | ⟨gone, result⟩
  · rw [result]
    constructor
    · rintro (_ | ⟨live⟩) -
      exact ⟨live.1, Memory.isReleased_eq_false_iff.2 ⟨memory, given⟩⟩
    · exact fun proper => custody.all (proper held).1 found held given
  · rw [result]
    constructor
    · rintro (⟨-, arena, -⟩) -
      have lost : session.arena.holds register.handle = false := by
        rw [← arena]
        exact Arena.holds_without session.arena register.handle
      exact absurd (lost.symm.trans held) Bool.false_ne_true
    · intro proper
      obtain ⟨memory, given⟩ := Memory.isReleased_eq_false_iff.1 (proper held).2
      rw [refused] at given
      cases given
  · rw [result, gone]
    exact ⟨fun _ => nofun, fun _ => .nothing _ rfl rfl⟩

end Custody

/-- Every session is reached, whatever steps are taken in it, and in a reached session giving a
register back to the arena is all or nothing exactly if the handle of the register is not live, or
is live and its own and the memory has not been released without the arena. -/
theorem release_allOrNothing_iff (limit : SizeLimit) :
    (∀ (definitions : Definitions R) (program : List (ArenaStep R)), ∃ own, Reaches limit
      (steps program { arena := .empty limit, definitions := definitions }).2 own) ∧
      ∀ (session : ArenaSession R) (own : Set Nat), Reaches limit session own →
        ∀ (place : Nat) (register : Register R), session.registers[place]? = some register →
          (AllOrNothing own place session
              (releaseBy (fun arena register => arena.release register) place session) ↔
            (session.arena.holds register.handle = true →
              place ∈ own ∧ register.memory.isReleased = false)) := by
  constructor
  · exact fun definitions program => leads_steps limit program _ ∅ (.start definitions)
  · exact fun session own reached place register found =>
      (Custody.of_reaches reached).allOrNothing_iff found

/-- A register is refused and has still changed the arena if its memory was released without it, and
is taken for a live one if it was made under that handle without the arena. -/
theorem release_takes_another :
    let start : ArenaSession ℝ := { arena := .empty .standard, definitions := {} }
    let giveBack := releaseBy (R := ℝ) fun arena register => arena.release register
    (∃ own, Reaches .standard (steps [.acquire 1, .orphan 1 1] start).2 own ∧
      ¬ AllOrNothing own 1 (steps [.acquire 1, .orphan 1 1] start).2
        (giveBack 1 (steps [.acquire 1, .orphan 1 1] start).2)) ∧
      ∃ own, Reaches .standard (steps [.acquire 1, .memoryRelease 1] start).2 own ∧
        ¬ AllOrNothing own 0 (steps [.acquire 1, .memoryRelease 1] start).2
          (giveBack 0 (steps [.acquire 1, .memoryRelease 1] start).2) := by
  intro start giveBack
  have granted : acquire 1 start = (.ok 0, start.granting 1) :=
    acquire_of_roomy (Int.le_refl 1) rfl
  have entered : Reaches .standard (start.granting 1) (insert 0 ∅) :=
    (Reaches.start {}).acquire granted
  constructor
  · have reached : Reaches .standard (steps [.acquire 1, .orphan 1 1] start).2 (insert 0 ∅) :=
      entered.visit ⟨1, 1, false, .holding (.zero 1)⟩
    refine ⟨_, reached, ?_⟩
    have found : (steps [.acquire 1, .orphan 1 1] start).2.registers[1]? =
        some ⟨1, 1, false, .holding (.zero 1)⟩ := rfl
    rw [(Custody.of_reaches reached).allOrNothing_iff found]
    intro proper
    exact absurd (proper rfl).1 (by simp)
  · have reached : Reaches .standard (steps [.acquire 1, .memoryRelease 1] start).2 (insert 0 ∅) :=
      entered.releaseMemory 0
    refine ⟨_, reached, ?_⟩
    have found : (steps [.acquire 1, .memoryRelease 1] start).2.registers[0]? =
        some ⟨1, 1, true, .released 1⟩ := rfl
    rw [(Custody.of_reaches reached).allOrNothing_iff found]
    intro proper
    exact absurd (proper rfl).2 (by simp [Memory.isReleased])

/-- A register that was granted and still holds its memory is given back, and no other, while one
of another arena visits under another handle. -/
theorem release_allOrNothing_iff_of_granted :
    let start : ArenaSession ℝ := { arena := .empty .standard, definitions := {} }
    let visited := (keep ⟨7, 1, true, .released 1⟩ (start.granting 2)).2
    Reaches .standard visited {0} ∧
      AllOrNothing {0} 0 visited
        (releaseBy (fun arena register => arena.release register) 0 visited) ∧
      AllOrNothing {0} 1 visited
        (releaseBy (fun arena register => arena.release register) 1 visited) := by
  intro start visited
  have granted : acquire 2 start = (.ok 0, start.granting 2) := acquire_of_roomy (by decide) rfl
  have reached : Reaches .standard visited {0} := by
    rw [← insert_empty_eq]
    exact ((Reaches.start {}).acquire granted).visit _
  have each := (release_allOrNothing_iff .standard).2 visited {0} reached
  exact ⟨reached, (each 0 _ rfl).2 fun _ => ⟨rfl, rfl⟩, (each 1 _ rfl).2 nofun⟩

end ArenaSession

end QuantumKata
