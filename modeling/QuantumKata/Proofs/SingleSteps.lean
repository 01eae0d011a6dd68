import QuantumKata.Proofs.Bookkeeping

/-!
# Single steps of a session

Everything a session does with a register, apart from opening a scope, is one step of one kind: a
register is asked for, given back by itself or through the arena, looked at or run on.  Each kind
either changes the session in one place or is refused and leaves it as it is, and each keeps the
books.
-/

namespace QuantumKata

namespace ArenaSession

variable {R : Type} {session : ArenaSession R} {handle numQubits : Int} {place : Nat}
  {register : Register R}

/-! ## What single steps do -/

theorem registerAt_eq (found : session.registers[place]? = some register) :
    registerAt place session = (.ok register, session) := by
  rw [registerAt, found]

theorem find_eq (named : session.names.lookup handle = some place) :
    find handle session = (.ok place, session) := by
  rw [find, named]

theorem find_eq_error (unnamed : session.names.lookup handle = none) :
    find handle session = (.error (.raised .key [.integer handle]), session) := by
  rw [find, unnamed]

theorem releaseBy_eq {how : Arena → Register R → Except Fault Unit × Arena × Register R}
    (found : session.registers[place]? = some register) :
    releaseBy how place session =
      ((how session.arena register).1,
        ({ session with arena := (how session.arena register).2.1 } : ArenaSession R).replacing
          place (how session.arena register).2.2) := by
  rw [releaseBy, Action.bind_of_ok (registerAt_eq found)]
  rfl

variable [Scalar R]

/-- The session after a register has been granted. -/
def granting (session : ArenaSession R) (numQubits : Int) : ArenaSession R :=
  { session with
    arena := session.arena.granting numQubits
    registers := session.registers.push
      ⟨session.arena.nextHandle, numQubits, true, .holding (.zero numQubits.toNat)⟩
    names := (session.arena.nextHandle, session.registers.size) :: session.names }

theorem acquire_of_roomy (some : 1 ≤ numQubits)
    (roomy : session.arena.limit.isExceededBy numQubits = false) :
    acquire numQubits session = (.ok session.registers.size, session.granting numQubits) := by
  simp only [acquire, Action.bind_apply, Action.inspect, Action.ofExcept, Action.update, keep,
    Arena.acquire_of_roomy some roomy]
  rfl

theorem exists_acquire_eq_error
    (refused : numQubits < 1 ∨ session.arena.limit.isExceededBy numQubits = true) :
    ∃ fault, acquire numQubits session = (.error fault, session) := by
  obtain ⟨fault, refused⟩ := Arena.exists_acquire_eq_error (R := R) refused
  refine ⟨fault, ?_⟩
  simp only [acquire, Action.bind_apply, Action.inspect, Action.ofExcept, refused]

theorem registerAt_granting (session : ArenaSession R) (numQubits : Int) :
    registerAt session.registers.size (session.granting numQubits) =
      (.ok ⟨session.arena.nextHandle, numQubits, true, .holding (.zero numQubits.toNat)⟩,
        session.granting numQubits) :=
  registerAt_eq Array.getElem?_push_size

theorem step_acquire_of_roomy (some : 1 ≤ numQubits)
    (roomy : session.arena.limit.isExceededBy numQubits = false) :
    step (.acquire numQubits) session =
      (.ok (.handle session.arena.nextHandle), session.granting numQubits) := by
  rw [step, Action.bind_of_ok (acquire_of_roomy some roomy),
    Action.bind_of_ok (registerAt_granting session numQubits)]
  rfl

theorem exists_step_acquire_eq_error
    (refused : numQubits < 1 ∨ session.arena.limit.isExceededBy numQubits = true) :
    ∃ fault, step (.acquire numQubits) session = (.error fault, session) := by
  obtain ⟨fault, refused⟩ := exists_acquire_eq_error refused
  refine ⟨fault, ?_⟩
  rw [step, Action.bind_of_error refused]

theorem exists_step_scoped_eq_error
    (refused : numQubits < 1 ∨ session.arena.limit.isExceededBy numQubits = true)
    (inner : List (ArenaStep R)) (ending : Option Fault) :
    ∃ fault, step (.scoped numQubits inner ending) session = (.error fault, session) := by
  obtain ⟨fault, refused⟩ := exists_acquire_eq_error refused
  refine ⟨fault, ?_⟩
  rw [step, Action.bind_of_error refused]

/-- The two ways to give a register back: by itself and through the arena. -/
def ways : List (Int → ArenaStep R) := [.release, .arenaRelease]

/-- A register that an arena has granted goes back to the arena in either way. -/
theorem step_way {way : Int → ArenaStep R} (among : way ∈ ways)
    (named : session.names.lookup handle = some place)
    (found : session.registers[place]? = some register) (managed : register.managed = true) :
    step (way handle) session =
      ((session.arena.release register).1.map fun _ => .nothing,
        ({ session with arena := (session.arena.release register).2.1 } :
          ArenaSession R).replacing place (session.arena.release register).2.2) := by
  have through : register.release session.arena = session.arena.release register := by
    rw [Register.release, if_pos managed]
  simp only [ways, List.mem_cons, List.not_mem_nil, or_false] at among
  rcases among with rfl | rfl
  · rw [step, Action.bind_of_ok (find_eq named), Action.bind_apply, releaseBy_eq found, through]
    rcases session.arena.release register with ⟨_ | _, remaining, left⟩ <;> rfl
  · rw [step, Action.bind_of_ok (find_eq named), Action.bind_apply, releaseBy_eq found]
    rcases session.arena.release register with ⟨_ | _, remaining, left⟩ <;> rfl

/-- A handle that means no register cannot be given back. -/
theorem step_way_of_unnamed {way : Int → ArenaStep R} (among : way ∈ ways)
    (unnamed : session.names.lookup handle = none) :
    step (way handle) session = (.error (.raised .key [.integer handle]), session) := by
  simp only [ways, List.mem_cons, List.not_mem_nil, or_false] at among
  rcases among with rfl | rfl
  · rw [step, Action.bind_of_error (find_eq_error unnamed)]
  · rw [step, Action.bind_of_error (find_eq_error unnamed)]

/-- Running instructions on a register changes what is in its memory, and nothing else. -/
theorem exists_runOn_eq (body : InstructionPlans R)
    (found : session.registers[place]? = some register) :
    ∃ memory : Memory R, memory.isReleased = register.memory.isReleased ∧
      (runOn place body session).2 = session.replacing place { register with memory := memory } := by
  have kept : (Engine.execute (Blueprint.buildBody body) .register
      (.start register.memory .unrestricted [] session.definitions)).2.layout =
        (Engine.start register.memory .unrestricted [] session.definitions).layout := by
    rw [Engine.execute_eq]
    exact Engine.play_keeps_layout _ _
  rw [runOn, Action.bind_of_ok (registerAt_eq found)]
  simp only [Action.bind_apply, Action.inspect, Action.run, store, Action.update, Action.ofExcept]
  rcases result : Engine.execute (Blueprint.buildBody body) .register
    (.start register.memory .unrestricted [] session.definitions) with ⟨outcome, after⟩
  rw [result] at kept
  refine ⟨after.memory, congrArg (fun layout => layout.1.2) kept, ?_⟩
  cases outcome <;> rfl

omit [Scalar R] in
theorem keeps_find (handle : Int) : Action.Keeps (id : ArenaSession R → _) (find handle) := by
  intro session
  rw [find]
  split <;> rfl

omit [Scalar R] in
theorem keeps_registerAt (place : Nat) :
    Action.Keeps (id : ArenaSession R → _) (registerAt place) := by
  intro session
  rw [registerAt]
  split <;> rfl

theorem after_split (handle : Int) (sizes : List Int) (session : ArenaSession R) :
    (step (.split handle sizes) session).2 = session := by
  have kept : Action.Keeps id (step (R := R) (.split handle sizes)) := by
    rw [step]
    exact (keeps_find handle).bind fun place => (keeps_registerAt place).bind fun _ =>
      (Action.keeps_ofExcept _).bind fun _ _ => rfl
  exact kept session

theorem after_describe (handle : Int) (session : ArenaSession R) :
    (step (.describe handle) session).2 = session := by
  have kept : Action.Keeps id (step (R := R) (.describe handle)) := by
    rw [step]
    exact (keeps_find handle).bind fun place => (keeps_registerAt place).bind fun _ _ => rfl
  exact kept session

/-! ## Single steps keep the books -/

/-- The note of a step. -/
def note (taken : ArenaStep R) (session : ArenaSession R) : Note R :=
  ⟨taken, (step taken session).1, (step taken session).2⟩

@[simp]
theorem after_note (taken : ArenaStep R) (session : ArenaSession R) :
    (note taken session).after = (step taken session).2 := rfl

/-- At the next place stands the register that has been granted, elsewhere what stood there. -/
theorem granting_getElem?_eq_some_iff :
    (session.granting numQubits).registers[place]? = some register ↔
      place = session.registers.size ∧
          register = ⟨session.arena.nextHandle, numQubits, true, .holding (.zero numQubits.toNat)⟩ ∨
        session.registers[place]? = some register := by
  rw [granting, Array.getElem?_push]
  split
  case isTrue new =>
    subst new
    simp [eq_comm]
  case isFalse elsewhere => simp [elsewhere]

namespace Account

variable {limit : SizeLimit} {log : List (Note R)}

/-- The register that has been granted is found under its handle, and the others as before. -/
theorem named_granting (account : Account limit log session) (numQubits handle : Int)
    (place : Nat) :
    (session.granting numQubits).names.lookup handle = some place ↔
      ∃ register, (session.granting numQubits).registers[place]? = some register ∧
        register.handle = handle := by
  by_cases same : handle = session.arena.nextHandle
  · subst same
    constructor
    · intro found
      rw [ArenaSession.granting, List.lookup_cons_self] at found
      cases found
      exact ⟨_, Array.getElem?_push_size, rfl⟩
    · rintro ⟨register, stands, same⟩
      rcases granting_getElem?_eq_some_iff.1 stands with ⟨rfl, -⟩ | before
      · exact List.lookup_cons_self
      · exact absurd (same ▸ account.handle_mem before) account.books.next_not_mem
  · have apart : (handle == session.arena.nextHandle) = false := by simpa using same
    rw [ArenaSession.granting, List.lookup_cons, apart, account.named]
    refine exists_congr fun register => and_congr_left fun here => ?_
    constructor
    · exact fun before => granting_getElem?_eq_some_iff.2 (.inr before)
    · intro stands
      rcases granting_getElem?_eq_some_iff.1 stands with ⟨-, rfl⟩ | before
      · exact absurd here.symm same
      · exact before

theorem granting (account : Account limit log session) (nonempty : 1 ≤ numQubits)
    (roomy : session.arena.limit.isExceededBy numQubits = false) {note : Note R}
    (new : note.granted? = some (session.arena.nextHandle, numQubits))
    (nothing : note.returned? = none) :
    Account limit (log ++ [note]) (session.granting numQubits) := by
  constructor
  case limit => exact account.limit
  case books =>
    rw [granted_append, returned_append, new, nothing, Option.toList_none, List.append_nil]
    exact account.books.granting nonempty roomy
  case registers =>
    rw [granted_append, new, ← account.registers]
    simp [ArenaSession.granting]
  case managed =>
    intro place register stands
    rcases granting_getElem?_eq_some_iff.1 stands with ⟨-, rfl⟩ | before
    · rfl
    · exact account.managed place register before
  case memory =>
    intro place register stands
    rcases granting_getElem?_eq_some_iff.1 stands with ⟨-, rfl⟩ | before
    · simp [ArenaSession.granting, Arena.granting, Arena.holds, Memory.isReleased]
    · have apart : register.handle ≠ session.arena.nextHandle := fun same =>
        account.books.next_not_mem (same ▸ account.handle_mem before)
      rw [account.memory place register before]
      simp [ArenaSession.granting, Arena.granting, Arena.holds, apart.symm]
  case named => exact account.named_granting numQubits

omit [Scalar R] in
/-- The memory of a live register can be given up. -/
theorem exists_release (account : Account limit log session)
    (found : session.registers[place]? = some register)
    (held : session.arena.holds register.handle = true) :
    ∃ memory, register.memory.release = .ok memory ∧ memory.isReleased = true := by
  have live := account.memory place register found
  rw [held] at live
  cases memory : register.memory with
  | holding state => exact ⟨.released state.numQubits, rfl, rfl⟩
  | released size =>
    rw [memory] at live
    cases live

/-- What giving a register back does.  A register that is live is given back, and of the others none
is touched; any other handle is refused, and nothing changes. -/
theorem step_way (account : Account limit log session) {way : Int → ArenaStep R}
    (among : way ∈ ways) (handle : Int) :
    (session.arena.holds handle = true ∧ ∃ place register memory,
        session.registers[place]? = some register ∧ register.handle = handle ∧
          memory.isReleased = true ∧
          step (way handle) session = (.ok .nothing,
            ({ session with arena := session.arena.without handle } : ArenaSession R).replacing
              place { register with memory := memory })) ∨
      session.arena.holds handle = false ∧
        step (way handle) session =
          (.error (if handle ∈ (granted log).map Prod.fst then .handleNotLive handle
            else .raised .key [.integer handle]), session) := by
  by_cases known : handle ∈ (granted log).map Prod.fst
  · obtain ⟨place, register, found, rfl, named⟩ := account.exists_register known
    have managed := account.managed place register found
    cases held : session.arena.holds register.handle with
    | true =>
      obtain ⟨memory, given, released⟩ := account.exists_release found held
      refine .inl ⟨rfl, place, register, memory, found, rfl, released, ?_⟩
      rw [ArenaSession.step_way among named found managed, Arena.release_of_holds held given]
      rfl
    | false =>
      refine .inr ⟨rfl, ?_⟩
      rw [ArenaSession.step_way among named found managed, Arena.release_of_not_holds held,
        if_pos known]
      exact congrArg _ (replacing_self found)
  · have gone : session.arena.holds handle = false := by
      rw [Bool.eq_false_iff]
      exact fun held => known (account.books.holds_iff.1 held).1
    have unnamed : session.names.lookup handle = none := by
      rw [Option.eq_none_iff_forall_ne_some]
      intro place named
      obtain ⟨register, found, rfl⟩ := (account.named handle place).1 named
      exact known (account.handle_mem found)
    refine .inr ⟨gone, ?_⟩
    rw [step_way_of_unnamed among unnamed, if_neg known]

/-- Giving a register back keeps the books, whether it is accepted or not. -/
theorem way (account : Account limit log session) {way : Int → ArenaStep R} (among : way ∈ ways)
    (handle : Int) :
    Account limit (log ++ [note (way handle) session]) (step (way handle) session).2 := by
  have nothing : ∀ outcome after, Note.granted? (R := R) ⟨way handle, outcome, after⟩ = none := by
    simp only [ways, List.mem_cons, List.not_mem_nil, or_false] at among
    rcases among with rfl | rfl <;> intros <;> rfl
  rw [note]
  rcases account.step_way among handle with
    ⟨held, place, register, memory, found, rfl, released, given⟩ | ⟨-, refused⟩
  · rw [given]
    refine account.returning found held released (nothing _ _) ?_
    simp only [ways, List.mem_cons, List.not_mem_nil, or_false] at among
    rcases among with rfl | rfl <;> rfl
  · rw [refused]
    refine account.noting (nothing _ _) ?_
    simp only [ways, List.mem_cons, List.not_mem_nil, or_false] at among
    rcases among with rfl | rfl <;> rfl

theorem acquire (account : Account limit log session) (numQubits : Int) :
    Account limit (log ++ [note (.acquire numQubits) session])
      (step (.acquire numQubits) session).2 := by
  rw [note]
  by_cases refused : numQubits < 1 ∨ session.arena.limit.isExceededBy numQubits = true
  · obtain ⟨fault, refused⟩ := exists_step_acquire_eq_error refused
    rw [refused]
    exact account.noting rfl rfl
  · rw [not_or, Int.not_lt, Bool.not_eq_true] at refused
    rw [step_acquire_of_roomy refused.1 refused.2]
    exact account.granting refused.1 refused.2 rfl rfl

/-- A step that is no scope keeps the books. -/
theorem single (account : Account limit log session) : ∀ {taken : ArenaStep R},
    taken.isSingle = true → taken.isProper = true →
      Account limit (log ++ [note taken session]) (step taken session).2
  | .acquire numQubits, _, _ => account.acquire numQubits
  | .release handle, _, _ => account.way (by simp [ways]) handle
  | .arenaRelease handle, _, _ => account.way (by simp [ways]) handle
  | .split handle sizes, _, _ => by
    rw [after_split]
    exact account.noting rfl rfl
  | .describe handle, _, _ => by
    rw [after_describe]
    exact account.noting rfl rfl
  | .run handle body, _, _ => by
    suffices used : Account limit log (step (.run handle body) session).2 from used.noting rfl rfl
    rw [step]
    cases named : session.names.lookup handle with
    | none =>
      rw [Action.bind_of_error (find_eq_error named)]
      exact account
    | some place =>
      obtain ⟨register, found, -⟩ := (account.named handle place).1 named
      obtain ⟨memory, same, ran⟩ := exists_runOn_eq body found
      rw [Action.bind_of_ok (find_eq named), Action.bind_apply]
      have left := account.used found same
      rw [← ran] at left
      rcases result : runOn place body session with ⟨outcome, after⟩
      rw [result] at left
      cases outcome <;> exact left

end Account

end ArenaSession

end QuantumKata
