import QuantumKata.Proofs.Exact
import QuantumKata.Proofs.SingleSteps

/-!
# Runs of a session

A run is single steps one after the other, once a scope is read as what it amounts to: the acquire
of its register, its inner steps, whatever they do, and the release of its register through the
arena.  The notes of a run are those of these steps, and they lead to where the run ends.  Since
single steps keep the books, the books are kept at every moment of the run, inside scopes as well.

At every such moment a session grants what fits, takes back what is live and refuses everything else
without a trace.  At the end of a scope its register is off the arena, and no other register has
been touched by closing the scope.
-/

namespace QuantumKata

namespace ArenaSession

variable {R : Type} [Scalar R] {session : ArenaSession R} {handle numQubits : Int} {place : Nat}
  {register : Register R}

/-! ## Whole runs keep the books -/

mutual

/-- The notes of a step.  A scope is an acquire, its inner steps and a release. -/
def notesOf : ArenaStep R → ArenaSession R → List (Note R)
  | .scoped numQubits inner _, session =>
    let entrance := note (.acquire numQubits) session
    match entrance.outcome with
    | .ok (.handle handle) =>
      entrance :: (notes inner entrance.after ++
        [note (.arenaRelease handle) (steps inner entrance.after).2])
    | _ => [entrance]
  | other, session => [note other session]

/-- The notes of steps one after the other. -/
def notes : List (ArenaStep R) → ArenaSession R → List (Note R)
  | [], _ => []
  | first :: rest, session => notesOf first session ++ notes rest (step first session).2

end

/-- What is noted after a log: every note is that of a single step taken from the session so far,
and the books are kept at every moment. -/
inductive Chronicle (limit : SizeLimit) : List (Note R) → ArenaSession R → List (Note R) → Prop where
  | nil {log session} (account : Account limit log session) : Chronicle limit log session []
  | cons {log session rest} (taken : ArenaStep R) (account : Account limit log session)
      (single : taken.isSingle = true)
      (next : Chronicle limit (log ++ [note taken session]) (step taken session).2 rest) :
      Chronicle limit log session (note taken session :: rest)

namespace Chronicle

variable {limit : SizeLimit} {log first second : List (Note R)}

theorem account (chronicle : Chronicle limit log session first) : Account limit log session := by
  cases chronicle with
  | nil account => exact account
  | cons taken account single next => exact account

theorem append (chronicle : Chronicle limit log session first)
    (goesOn : Chronicle limit (log ++ first) (last session first) second) :
    Chronicle limit log session (first ++ second) := by
  induction chronicle with
  | nil account => simpa using goesOn
  | cons taken account single next ih =>
    refine .cons taken account single (ih ?_)
    simpa using goesOn

theorem of_single (account : Account limit log session) {taken : ArenaStep R}
    (single : taken.isSingle = true) (proper : taken.isProper = true) :
    Chronicle limit log session [note taken session] :=
  .cons taken account single (.nil (account.single single proper))

/-- A chronicle goes on from each of its moments. -/
theorem split (chronicle : Chronicle limit log session (first ++ second)) :
    Chronicle limit (log ++ first) (last session first) second := by
  induction first generalizing log session with
  | nil => simpa using chronicle
  | cons note rest ih =>
    cases chronicle with
    | cons taken account single next => simpa using ih next

/-- The account at the end of a chronicle. -/
theorem final (chronicle : Chronicle limit log session first) :
    Account limit (log ++ first) (last session first) := by
  rw [← List.append_nil first] at chronicle
  exact chronicle.split.account

end Chronicle

theorem steps_cons (first : ArenaStep R) (rest : List (ArenaStep R)) (session : ArenaSession R) :
    steps (first :: rest) session =
      ((steps rest (step first session).2).1.map ((step first session).1 :: ·),
        (steps rest (step first session).2).2) := by
  have attempted : Action.attempt (step first) session =
      (.ok (step first session).1, (step first session).2) := rfl
  rw [steps, Action.bind_of_ok attempted, Action.bind_apply]
  rcases steps rest (step first session).2 with ⟨_ | answers, after⟩ <;> rfl

/-- Steps are taken to the end, whether they succeed or not. -/
theorem exists_steps_eq (program : List (ArenaStep R)) (session : ArenaSession R) :
    ∃ answers, steps program session = (.ok answers, (steps program session).2) := by
  induction program generalizing session with
  | nil =>
    rw [steps]
    exact ⟨[], rfl⟩
  | cons first rest ih =>
    obtain ⟨answers, known⟩ := ih (step first session).2
    rw [steps_cons, known]
    exact ⟨(step first session).1 :: answers, rfl⟩

/-- How a scope ends whose register has been given back, or has not. -/
def ended (handle : Int) (answers : List (Except Fault (ArenaAnswer R))) (ending : Option Fault) :
    Except Fault (ArenaAnswer R) → Except Fault (ArenaAnswer R)
  | .error fault => .error fault
  | .ok _ =>
    match ending with
    | some fault => .error fault
    | none => .ok (.scope handle answers)

namespace Account

variable {limit : SizeLimit} {log more : List (Note R)} {later : ArenaSession R}

omit [Scalar R] in
/-- A register stays at its place, with the handle it was granted under. -/
theorem stays (account : Account limit log session) (goesOn : Account limit (log ++ more) later)
    (found : session.registers[place]? = some register) :
    ∃ left, later.registers[place]? = some left ∧ left.handle = register.handle := by
  have before := account.getElem?_granted place
  have after := goesOn.getElem?_granted place
  rw [found] at before
  have listed : (granted (log ++ more))[place]? = (granted log)[place]? := by
    rw [granted, List.filterMap_append, List.getElem?_append_left]
    · rfl
    · exact (List.getElem?_eq_some_iff.1 before).1
  rw [listed, before] at after
  cases stands : later.registers[place]? with
  | none =>
    rw [stands] at after
    cases after
  | some left =>
    rw [stands] at after
    exact ⟨left, rfl, (congrArg Prod.fst (Option.some.inj after)).symm⟩

/-- A scope is an acquire, its inner steps and a release through the arena. -/
theorem step_scoped (account : Account limit log session) (nonempty : 1 ≤ numQubits)
    (roomy : session.arena.limit.isExceededBy numQubits = false) {inner : List (ArenaStep R)}
    {answers : List (Except Fault (ArenaAnswer R))} {inside : ArenaSession R}
    (taken : steps inner (session.granting numQubits) = (.ok answers, inside))
    (goesOn : Account limit (log ++ note (.acquire numQubits) session :: more) inside)
    (ending : Option Fault) :
    step (.scoped numQubits inner ending) session =
      (ended session.arena.nextHandle answers ending
          (step (.arenaRelease session.arena.nextHandle) inside).1,
        (step (.arenaRelease session.arena.nextHandle) inside).2) := by
  have entered := account.acquire numQubits
  rw [step_acquire_of_roomy nonempty roomy] at entered
  rw [List.append_cons] at goesOn
  obtain ⟨left, stands, same⟩ := entered.stays goesOn
    (Array.getElem?_push_size : (session.granting numQubits).registers[session.registers.size]? = _)
  have named := (goesOn.named session.arena.nextHandle session.registers.size).2 ⟨left, stands, same⟩
  have closing : step (.arenaRelease session.arena.nextHandle) inside =
      (releaseBy (fun arena register => arena.release register) session.registers.size >>= fun _ =>
        pure .nothing) inside := by
    rw [step, Action.bind_of_ok (find_eq named)]
  rw [closing, step, Action.bind_of_ok (acquire_of_roomy nonempty roomy),
    Action.bind_of_ok (registerAt_granting session numQubits), Action.bind_of_ok taken,
    Action.bind_apply, Action.bind_apply]
  rcases releaseBy (fun arena register => arena.release register) session.registers.size inside with
    ⟨fault | ⟨⟩, after⟩
  · rfl
  · cases ending <;> rfl

end Account

mutual

/-- A step keeps the books at every moment, and its notes lead to where it ends. -/
theorem chronicle_notesOf {limit : SizeLimit} : ∀ (taken : ArenaStep R) {log : List (Note R)}
    {session : ArenaSession R}, taken.isProper = true → Account limit log session →
      Chronicle limit log session (notesOf taken session) ∧
        last session (notesOf taken session) = (step taken session).2
  | .scoped numQubits inner ending, log, session, proper, account => by
    have opening : Chronicle limit log session [note (.acquire numQubits) session] :=
      .of_single account rfl rfl
    by_cases refused : numQubits < 1 ∨ session.arena.limit.isExceededBy numQubits = true
    · obtain ⟨fault, refusal⟩ := exists_step_acquire_eq_error refused
      obtain ⟨reason, scopeRefusal⟩ := exists_step_scoped_eq_error refused inner ending
      have noted : notesOf (.scoped numQubits inner ending) session =
          [note (.acquire numQubits) session] := by
        simp only [notesOf, note, refusal]
      rw [noted, scopeRefusal]
      refine ⟨opening, ?_⟩
      rw [last_cons, last_nil, after_note, refusal]
    · rw [not_or, Int.not_lt, Bool.not_eq_true] at refused
      obtain ⟨nonempty, roomy⟩ := refused
      have entrance : step (.acquire numQubits) session =
          (.ok (.handle session.arena.nextHandle), session.granting numQubits) :=
        step_acquire_of_roomy nonempty roomy
      have entered : Account limit (log ++ [note (.acquire numQubits) session])
          (session.granting numQubits) := by
        have granted := account.acquire numQubits
        rwa [entrance] at granted
      obtain ⟨within, reached⟩ := chronicle_notes inner proper entered
      obtain ⟨answers, taken⟩ := exists_steps_eq inner (session.granting numQubits)
      have inside := within.final
      rw [reached] at inside
      have noted : notesOf (.scoped numQubits inner ending) session =
          [note (.acquire numQubits) session] ++ (notes inner (session.granting numQubits) ++
            [note (.arenaRelease session.arena.nextHandle)
              (steps inner (session.granting numQubits)).2]) := by
        simp only [notesOf, note, entrance, List.singleton_append]
      have whole := account.step_scoped nonempty roomy taken (by simpa using inside) ending
      rw [noted, whole]
      constructor
      · refine opening.append ?_
        simp only [last_cons, last_nil, after_note, entrance]
        refine within.append ?_
        rw [reached]
        exact .of_single inside rfl rfl
      · simp only [last_append, last_cons, last_nil, after_note, entrance, reached]
  | .acquire numQubits, _, _, proper, account => ⟨.of_single account rfl proper, rfl⟩
  | .release handle, _, _, proper, account => ⟨.of_single account rfl proper, rfl⟩
  | .arenaRelease handle, _, _, proper, account => ⟨.of_single account rfl proper, rfl⟩
  | .split handle sizes, _, _, proper, account => ⟨.of_single account rfl proper, rfl⟩
  | .describe handle, _, _, proper, account => ⟨.of_single account rfl proper, rfl⟩
  | .run handle body, _, _, proper, account => ⟨.of_single account rfl proper, rfl⟩

theorem chronicle_notes {limit : SizeLimit} : ∀ (program : List (ArenaStep R)) {log : List (Note R)}
    {session : ArenaSession R}, ArenaStep.areProper program = true → Account limit log session →
      Chronicle limit log session (notes program session) ∧
        last session (notes program session) = (steps program session).2
  | [], _, _, _, account => ⟨.nil account, rfl⟩
  | first :: rest, log, session, proper, account => by
    rw [ArenaStep.areProper, Bool.and_eq_true] at proper
    obtain ⟨chronicle, reached⟩ := chronicle_notesOf first proper.1 account
    have between := chronicle.final
    rw [reached] at between
    obtain ⟨goesOn, ends⟩ := chronicle_notes rest proper.2 between
    rw [notes]
    constructor
    · refine chronicle.append ?_
      rw [reached]
      exact goesOn
    · rw [last_append, reached, ends, steps_cons]

end

/-! ## What a session answers at every moment -/

omit [Scalar R] in
/-- After a register has been taken off the arena: its handle is not live, and of the others none is
touched. -/
structure TakesOff (handle : Int) (before after : ArenaSession R) : Prop where
  arena : after.arena = before.arena.without handle
  others : ∀ (place : Nat) (register : Register R), before.registers[place]? = some register →
    register.handle ≠ handle → after.registers[place]? = some register

/-- What a session answers to whoever wants a register, gives one back or opens a scope.  What is
refused has changed nothing. -/
structure Serves (limit : SizeLimit) (log : List (Note R)) (session : ArenaSession R) : Prop where
  grants : ∀ numQubits, 1 ≤ numQubits → limit.isExceededBy numQubits = false →
    (step (.acquire numQubits) session).1 = .ok (.handle session.arena.nextHandle)
  refuses : ∀ numQubits, numQubits < 1 ∨ limit.isExceededBy numQubits = true →
    ∃ fault, step (.acquire numQubits) session = (.error fault, session)
  takes : ∀ way ∈ ways, ∀ handle, session.arena.holds handle = true →
    (step (way handle) session).1 = .ok .nothing ∧
      TakesOff handle session (step (way handle) session).2
  takesOnce : ∀ way ∈ ways, ∀ handle ∈ returned log,
    step (way handle) session = (.error (.handleNotLive handle), session)
  /-- However a scope ends, its register has been taken off, and nothing else at its end.  If that
  was done inside already, the scope ends with the fault of giving it back twice. -/
  closes : ∀ numQubits inner ending, ArenaStep.areProper inner = true →
    1 ≤ numQubits → limit.isExceededBy numQubits = false →
      ∃ answers inside, steps inner (step (.acquire numQubits) session).2 = (.ok answers, inside) ∧
        TakesOff session.arena.nextHandle inside
          (step (.scoped numQubits inner ending) session).2 ∧
        (step (.scoped numQubits inner ending) session).1 =
          ended session.arena.nextHandle answers ending
            (if inside.arena.holds session.arena.nextHandle then .ok .nothing
              else .error (.handleNotLive session.arena.nextHandle))
  staysShut : ∀ numQubits inner ending, numQubits < 1 ∨ limit.isExceededBy numQubits = true →
    ∃ fault, step (.scoped numQubits inner ending) session = (.error fault, session)

omit [Scalar R] in
theorem TakesOff.of_gone (gone : session.arena.holds handle = false) :
    TakesOff handle session session where
  arena := (Arena.without_eq_self gone).symm
  others := fun _ _ found _ => found

namespace Account

variable {limit : SizeLimit} {log : List (Note R)}

theorem takesOff (account : Account limit log session) {way : Int → ArenaStep R}
    (among : way ∈ ways) (handle : Int) :
    TakesOff handle session (step (way handle) session).2 := by
  rcases account.step_way among handle with
    ⟨-, place, register, memory, found, rfl, -, given⟩ | ⟨gone, refused⟩
  · rw [given]
    refine ⟨rfl, fun other second stands apart => ?_⟩
    have elsewhere : other ≠ place := by
      rintro rfl
      rw [found] at stands
      cases stands
      exact apart rfl
    exact (replacing_getElem?_of_ne elsewhere).trans stands
  · rw [refused]
    exact .of_gone gone

/-- A register that has been granted is given back once. -/
theorem outcome_step_way (account : Account limit log session) {way : Int → ArenaStep R}
    (among : way ∈ ways) (known : handle ∈ (granted log).map Prod.fst) :
    (step (way handle) session).1 =
      if session.arena.holds handle then .ok .nothing else .error (.handleNotLive handle) := by
  rcases account.step_way among handle with
    ⟨held, _, _, _, -, -, -, given⟩ | ⟨gone, refused⟩
  · rw [given, if_pos held]
  · rw [refused, if_pos known, gone]
    rfl

/-- While the books are kept, the session serves. -/
theorem serves (account : Account limit log session) : Serves limit log session := by
  obtain rfl := account.limit
  constructor
  case grants =>
    intro numQubits nonempty roomy
    rw [step_acquire_of_roomy nonempty roomy]
  case refuses => exact fun numQubits refused => exists_step_acquire_eq_error refused
  case takes =>
    intro way among handle held
    refine ⟨?_, account.takesOff among handle⟩
    rw [account.outcome_step_way among (account.books.holds_iff.1 held).1, if_pos held]
  case takesOnce =>
    intro way among handle back
    have known := account.books.outstanding handle back
    rcases account.step_way among handle with ⟨held, -⟩ | ⟨-, refused⟩
    · exact absurd back (account.books.holds_iff.1 held).2
    · rw [refused, if_pos known]
  case closes =>
    intro numQubits inner ending proper nonempty roomy
    obtain ⟨answers, taken⟩ := exists_steps_eq inner (session.granting numQubits)
    have entered := account.acquire numQubits
    rw [step_acquire_of_roomy nonempty roomy] at entered
    have inside : Account session.arena.limit
        (log ++ note (.acquire numQubits) session :: notes inner (session.granting numQubits))
        (steps inner (session.granting numQubits)).2 := by
      obtain ⟨within, reached⟩ := chronicle_notes inner proper entered
      have final := within.final
      rw [reached] at final
      simpa using final
    rw [step_acquire_of_roomy nonempty roomy, account.step_scoped nonempty roomy taken inside]
    refine ⟨answers, _, taken, inside.takesOff (by simp [ways]) _, ?_⟩
    have known : session.arena.nextHandle ∈
        (granted (log ++ note (.acquire numQubits) session ::
          notes inner (session.granting numQubits))).map Prod.fst := by
      have new : (note (.acquire numQubits) session).granted? =
          some (session.arena.nextHandle, numQubits) := by
        rw [note, step_acquire_of_roomy nonempty roomy]
        rfl
      exact List.mem_map.2 ⟨_, List.mem_filterMap.2 ⟨_, by simp, new⟩, rfl⟩
    have among : ArenaStep.arenaRelease ∈ (ways : List (Int → ArenaStep R)) := by simp [ways]
    rw [← inside.outcome_step_way among known]
  case staysShut =>
    exact fun numQubits inner ending refused => exists_step_scoped_eq_error refused inner ending

end Account

/-- The books are kept at every moment of every run that leaves its registers to the arena.  The
notes of the run lead to where the run ends, each is that of a single step taken from the session so
far, and in between the session serves. -/
theorem keeps_books (limit : SizeLimit) (definitions : Definitions R) (program : List (ArenaStep R))
    (proper : ArenaStep.areProper program = true) :
    let start : ArenaSession R := { arena := .empty limit, definitions := definitions }
    last start (notes program start) = (steps program start).2 ∧
      ∀ past later, notes program start = past ++ later →
        Account limit past (last start past) ∧
          (last start past).arena.liveQubits =
            sumOfSizes (((granted past).filter fun entry =>
              !(returned past).contains entry.1).map Prod.snd) ∧
          Serves limit past (last start past) ∧
          ∀ next ∈ later.head?, next.taken.isSingle = true ∧
            (next.outcome, next.after) = step next.taken (last start past) := by
  intro start
  have opening : Account limit [] start := .start limit definitions
  obtain ⟨chronicle, reached⟩ := chronicle_notes program proper opening
  refine ⟨reached, fun past later split => ?_⟩
  rw [split] at chronicle
  have rest := chronicle.split
  have account := rest.account
  refine ⟨account, ?_, account.serves, ?_⟩
  · rw [Arena.liveQubits, account.books.live]
    rfl
  · intro next first
    cases rest with
    | nil _ => cases first
    | cons taken _ single _ =>
      cases first
      exact ⟨single, rfl⟩

/-- A run with a scope inside a scope, in which the inner scope raises, the outer one gives its own
register back, one register is refused and one is given back twice. -/
theorem keeps_books_of_scopes :
    let inner : ArenaStep ℝ := .scoped 2 [] (some .stateReleased)
    let outer : ArenaStep ℝ := .scoped 1 [inner, .release 2] none
    let program : List (ArenaStep ℝ) := [.acquire 2, outer, .acquire 0, .release 1, .arenaRelease 1]
    let start : ArenaSession ℝ := { arena := .empty .standard, definitions := {} }
    granted (notes program start) = [(1, 2), (2, 1), (3, 2)] ∧
      returned (notes program start) = [3, 2, 1] ∧
      ∃ session, (steps program start).2 = session ∧
        Account .standard (notes program start) session ∧
        Serves .standard (notes program start) session := by
  intro inner outer program start
  obtain ⟨reached, moments⟩ := keeps_books .standard {} program rfl
  obtain ⟨account, -, serves, -⟩ := moments (notes program start) [] (List.append_nil _).symm
  refine ⟨by decide +kernel, by decide +kernel, _, rfl, ?_, ?_⟩
  · rwa [reached] at account
  · rwa [reached] at serves

end ArenaSession

end QuantumKata
