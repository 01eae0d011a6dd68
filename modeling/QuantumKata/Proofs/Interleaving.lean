import Mathlib.Data.Fintype.Sets
import Mathlib.Logic.Relation
import QuantumKata.Listing
import QuantumKata.Proofs.Errand

/-!
# Jobs at one arena

Jobs that run beside each other share an arena, each on an errand of its own.  The arena serves one
request at a time; between two requests of a job any others may be served, and the outcome of a job
that is done may be collected at any time.

No job notices the others.  The arena answers by the size of a register, and a register that a job
holds stays live until the job itself gives it back.  So in whatever order things happen, every job
ends with the outcome that its errand has by itself, its result is collected under its name, and in
the end the live registers are those from the start.
-/

namespace QuantumKata

namespace Arena

variable {R : Type}

/-- A live register is given back, unless its memory has been released. -/
theorem outcome_release_of_live {arena : Arena} {register : Register R}
    (live : ∃ size, (register.handle, size) ∈ arena.live) :
    (arena.release register).1 = register.memory.release.map fun _ => () := by
  rcases live with ⟨size, member⟩
  rw [release]
  split
  · dsimp only
    cases register.memory.release <;> rfl
  · rename_i missing
    exact (missing (List.any_eq_true.2 ⟨_, member, beq_self_eq_true _⟩)).elim

end Arena

/-! ## Pools -/

/-- What a job is at: an errand from its next request on, or the use of a register, which it will
give back before its errand goes on, or nothing any more. -/
inductive Stage (R α : Type) where
  | ready (errand : Errand R α)
  | holding (register : Register R) (next : Except Fault Unit → Errand R α)
  | collected

/-- The handle of the register that is held at a stage. -/
def Stage.handle? {R α : Type} : Stage R α → Option Int
  | holding register _ => some register.handle
  | ready _ | collected => none

/-- What jobs have to do, the names that their results are collected under, and what results their
outcomes become. -/
structure Jobs (ι R α : Type) where
  errand : ι → Errand R α
  name : ι → String
  settle : ι → Except Fault α → α

/-- Jobs on their way, and what has been collected. -/
structure Pool (ι R α : Type) where
  arena : Arena
  stage : ι → Stage R α
  results : Listing α := {}

/-- Jobs before their first requests. -/
def Jobs.start {ι R α : Type} (jobs : Jobs ι R α) (arena : Arena) : Pool ι R α where
  arena
  stage job := .ready (jobs.errand job)

namespace Pool

variable {ι R α : Type}

/-- All outcomes have been collected. -/
def IsOver (pool : Pool ι R α) : Prop := ∀ job, pool.stage job = .collected

/-! ## Registers that are held -/

section Registers

variable [Fintype ι] {start : Arena} {jobs : Jobs ι R α} {pool later : Pool ι R α} {job : ι}

/-- Some job holds the register with a handle. -/
def IsHeld (pool : Pool ι R α) (handle : Int) : Prop :=
  ∃ job, (pool.stage job).handle? = some handle

instance (pool : Pool ι R α) (handle : Int) : Decidable (pool.IsHeld handle) :=
  inferInstanceAs (Decidable (∃ job, (pool.stage job).handle? = some handle))

/-- The registers that jobs hold are live, each is held by one job, and the other live registers are
those from the start. -/
structure IsOrderly (start : Arena) (pool : Pool ι R α) : Prop where
  limit : pool.arena.limit = start.limit
  fresh : pool.arena.IsFresh
  live : ∀ job handle, (pool.stage job).handle? = some handle →
    ∃ size, (handle, size) ∈ pool.arena.live
  apart : ∀ first second handle, (pool.stage first).handle? = some handle →
    (pool.stage second).handle? = some handle → first = second
  others : (pool.arena.live.filter fun entry => ¬pool.IsHeld entry.1) = start.live

theorem isOrderly_start (jobs : Jobs ι R α) (fresh : start.IsFresh) :
    (jobs.start start).IsOrderly start := by
  constructor
  case limit => rfl
  case fresh => exact fresh
  case live => exact nofun
  case apart => exact nofun
  case others =>
    have free : ∀ handle, ¬(jobs.start start).IsHeld handle := fun _ => nofun
    exact List.filter_eq_self.2 fun entry _ => decide_eq_true (free entry.1)

/-- In the end no job holds a register. -/
theorem IsOrderly.live_of_isOver (orderly : pool.IsOrderly start) (isOver : pool.IsOver) :
    pool.arena.live = start.live := by
  have free : ∀ handle, ¬pool.IsHeld handle := by
    rintro handle ⟨job, has⟩
    rw [isOver job] at has
    cases has
  have others := orderly.others
  rwa [List.filter_eq_self.2 fun entry _ => decide_eq_true (free entry.1)] at others

end Registers

variable [DecidableEq ι]

/-- One job comes to another stage, and the arena to another state. -/
def move (pool : Pool ι R α) (arena : Arena) (job : ι) (stage : Stage R α) : Pool ι R α :=
  { pool with arena, stage := Function.update pool.stage job stage }

@[simp]
theorem stage_move_self (pool : Pool ι R α) (arena : Arena) (job : ι) (stage : Stage R α) :
    (pool.move arena job stage).stage job = stage := by
  simp only [move, Function.update_self]

theorem stage_move_of_ne (pool : Pool ι R α) (arena : Arena) {job other : ι} (apart : other ≠ job)
    (stage : Stage R α) : (pool.move arena job stage).stage other = pool.stage other := by
  simp only [move, Function.update_of_ne apart]

/-- Where a job comes to hold a register, its handle is all that is new among those held. -/
theorem has_taken_iff {pool : Pool ι R α} {job : ι} (free : (pool.stage job).handle? = none)
    {stage : Stage R α} {taken : Int} (holds : stage.handle? = some taken) (arena : Arena)
    (other : ι) (handle : Int) :
    ((pool.move arena job stage).stage other).handle? = some handle ↔
      (other = job ∧ handle = taken) ∨ (pool.stage other).handle? = some handle := by
  by_cases own : other = job
  · rw [own, stage_move_self, holds, free]
    simp [eq_comm]
  · rw [stage_move_of_ne _ _ own]
    simp [own]

theorem isHeld_taken_iff {pool : Pool ι R α} {job : ι} (free : (pool.stage job).handle? = none)
    {stage : Stage R α} {taken : Int} (holds : stage.handle? = some taken) (arena : Arena)
    (handle : Int) :
    (pool.move arena job stage).IsHeld handle ↔ handle = taken ∨ pool.IsHeld handle := by
  simp only [IsHeld, has_taken_iff free holds, exists_or, exists_and_right, exists_eq, true_and]

/-- Where a job comes to hold no register, the others hold what they held. -/
theorem has_given_iff (pool : Pool ι R α) (job : ι) {stage : Stage R α}
    (free : stage.handle? = none) (arena : Arena) (other : ι) (handle : Int) :
    ((pool.move arena job stage).stage other).handle? = some handle ↔
      other ≠ job ∧ (pool.stage other).handle? = some handle := by
  by_cases own : other = job
  · rw [own, stage_move_self, free]
    simp
  · rw [stage_move_of_ne _ _ own]
    simp [own]

section Moves

variable [Fintype ι] {start : Arena} {pool : Pool ι R α} {job : ι}

/-- A job goes on without asking the arena. -/
theorem IsOrderly.goOn (orderly : pool.IsOrderly start) {stage : Stage R α}
    (same : stage.handle? = (pool.stage job).handle?) :
    (pool.move pool.arena job stage).IsOrderly start := by
  have unchanged : ∀ other, ((pool.move pool.arena job stage).stage other).handle? =
      (pool.stage other).handle? := by
    intro other
    by_cases own : other = job
    · rw [own, stage_move_self, same]
    · rw [stage_move_of_ne _ _ own]
  have held : ∀ handle, (pool.move pool.arena job stage).IsHeld handle ↔ pool.IsHeld handle := by
    intro handle
    simp only [IsHeld, unchanged]
  constructor
  case limit => exact orderly.limit
  case fresh => exact orderly.fresh
  case live =>
    intro other handle has
    rw [unchanged] at has
    exact orderly.live other handle has
  case apart =>
    intro first second handle has alsoHas
    rw [unchanged] at has alsoHas
    exact orderly.apart first second handle has alsoHas
  case others =>
    simp only [held]
    exact orderly.others

/-- The register that a job held was held by no other one. -/
theorem IsOrderly.isHeld_given_iff (orderly : pool.IsOrderly start) {given : Int}
    (holds : (pool.stage job).handle? = some given) {stage : Stage R α}
    (free : stage.handle? = none) (arena : Arena) (handle : Int) :
    (pool.move arena job stage).IsHeld handle ↔ handle ≠ given ∧ pool.IsHeld handle := by
  constructor
  · rintro ⟨other, has⟩
    rcases (has_given_iff pool job free arena other handle).1 has with ⟨apart, had⟩
    refine ⟨?_, other, had⟩
    rintro rfl
    exact apart (orderly.apart other job _ had holds)
  · rintro ⟨apart, other, had⟩
    refine ⟨other, (has_given_iff pool job free arena other handle).2 ⟨?_, had⟩⟩
    rintro rfl
    exact apart (Option.some.inj (had.symm.trans holds))

/-- A job that holds no register takes one, with a handle that no other job can hold. -/
theorem IsOrderly.take [Scalar R] (orderly : pool.IsOrderly start)
    (free : (pool.stage job).handle? = none) {numQubits : Int} {register : Register R}
    {arena : Arena} (granted : pool.arena.acquire numQubits = .ok (register, arena))
    {stage : Stage R α} (holds : stage.handle? = some register.handle) :
    (pool.move arena job stage).IsOrderly start := by
  rcases Arena.acquire_eq_ok granted with ⟨isRegister, arenaIs⟩
  have isNext : register.handle = pool.arena.nextHandle := congrArg Register.handle isRegister
  -- Handles that are held are live, and the new one is above all live ones.
  have older : ∀ other handle, (pool.stage other).handle? = some handle →
      handle < register.handle := by
    intro other handle has
    rcases orderly.live other handle has with ⟨size, member⟩
    rw [isNext]
    exact orderly.fresh _ member
  have has_iff := has_taken_iff free holds arena
  have held := isHeld_taken_iff free holds arena
  constructor
  case limit => exact (Arena.limit_acquire granted).trans orderly.limit
  case fresh => exact orderly.fresh.acquire granted
  case live =>
    intro other handle has
    rw [arenaIs]
    rcases (has_iff other handle).1 has with ⟨-, rfl⟩ | had
    · exact ⟨numQubits, List.mem_append_right _ (by rw [isNext]; exact List.mem_singleton_self _)⟩
    · rcases orderly.live other handle had with ⟨size, member⟩
      exact ⟨size, List.mem_append_left _ member⟩
  case apart =>
    intro first second handle has alsoHas
    rcases (has_iff first handle).1 has with ⟨rfl, rfl⟩ | had
    · rcases (has_iff second _).1 alsoHas with ⟨rfl, -⟩ | alsoHad
      · rfl
      · exact absurd (older second _ alsoHad) (lt_irrefl _)
    · rcases (has_iff second handle).1 alsoHas with ⟨-, rfl⟩ | alsoHad
      · exact absurd (older first _ had) (lt_irrefl _)
      · exact orderly.apart first second handle had alsoHad
  case others =>
    have before : arena.live = pool.arena.live ++ [(register.handle, numQubits)] := by
      rw [arenaIs, isNext]
    have unchanged : ∀ entry ∈ pool.arena.live,
        decide (¬(pool.move arena job stage).IsHeld entry.1) = decide (¬pool.IsHeld entry.1) := by
      intro entry member
      have earlier := orderly.fresh entry member
      have other : entry.1 ≠ register.handle := by
        rw [isNext]
        exact ne_of_lt earlier
      simp only [held, other, false_or]
    change arena.live.filter _ = _
    rw [before, List.filter_append, List.filter_congr unchanged, orderly.others]
    simp [held]

/-- A job gives back the register that it holds, and holds none. -/
theorem IsOrderly.give (orderly : pool.IsOrderly start) {register : Register R}
    (holds : (pool.stage job).handle? = some register.handle) {stage : Stage R α}
    (free : stage.handle? = none) :
    (pool.move (pool.arena.release register).2.1 job stage).IsOrderly start := by
  have has_iff := has_given_iff pool job free (pool.arena.release register).2.1
  have held := orderly.isHeld_given_iff holds free (pool.arena.release register).2.1
  have remaining := Arena.live_release pool.arena register
  constructor
  case limit => exact (Arena.limit_release _ _).trans orderly.limit
  case fresh => exact orderly.fresh.release register
  case live =>
    intro other handle has
    rcases (has_iff other handle).1 has with ⟨apart, had⟩
    rcases orderly.live other handle had with ⟨size, member⟩
    refine ⟨size, ?_⟩
    change (handle, size) ∈ (pool.arena.release register).2.1.live
    rw [remaining]
    refine List.mem_filter.2 ⟨member, bne_iff_ne.2 ?_⟩
    rintro rfl
    exact apart (orderly.apart other job _ had holds)
  case apart =>
    intro first second handle has alsoHas
    exact orderly.apart first second handle ((has_iff first handle).1 has).2
      ((has_iff second handle).1 alsoHas).2
  case others =>
    change (pool.arena.release register).2.1.live.filter _ = _
    rw [remaining, List.filter_filter, ← orderly.others]
    apply List.filter_congr
    intro entry _
    by_cases same : entry.1 = register.handle
    · have isHeld : pool.IsHeld register.handle := ⟨job, holds⟩
      simp [same, isHeld]
    · simp [held, same]

end Moves

/-! ## What can happen -/

variable [Scalar R]

/-- What can happen next: a job is refused a register, takes one, or gives it back, or the outcome
of a job is collected. -/
inductive Step (jobs : Jobs ι R α) : Pool ι R α → Pool ι R α → Prop where
  | refuse {pool : Pool ι R α} (job : ι) {numQubits : Int} {used : Memory R} {seconds : R}
      {refused : Fault → Errand R α} {next : Except Fault Unit → Errand R α} {fault : Fault}
      (stage : pool.stage job = .ready (.visit numQubits used seconds refused next))
      (denied : pool.arena.acquire (R := R) numQubits = .error fault) :
      Step jobs pool (pool.move pool.arena job (.ready (refused fault)))
  | take {pool : Pool ι R α} (job : ι) {numQubits : Int} {used : Memory R} {seconds : R}
      {refused : Fault → Errand R α} {next : Except Fault Unit → Errand R α}
      {register : Register R} {arena : Arena}
      (stage : pool.stage job = .ready (.visit numQubits used seconds refused next))
      (granted : pool.arena.acquire numQubits = .ok (register, arena)) :
      Step jobs pool (pool.move arena job (.holding { register with memory := used } next))
  | give {pool : Pool ι R α} (job : ι) {register : Register R}
      {next : Except Fault Unit → Errand R α}
      (stage : pool.stage job = .holding register next) :
      Step jobs pool (pool.move (pool.arena.release register).2.1 job
        (.ready (next (pool.arena.release register).1)))
  | collect {pool : Pool ι R α} (job : ι) {outcome : Except Fault α}
      (stage : pool.stage job = .ready (.done outcome)) :
      Step jobs pool { pool.move pool.arena job .collected with
        results := pool.results.put (jobs.name job) (jobs.settle job outcome) }

/-- What can happen in the course of time. -/
def Reaches (jobs : Jobs ι R α) : Pool ι R α → Pool ι R α → Prop :=
  Relation.ReflTransGen (Step jobs)

section

variable {start : Arena} {jobs : Jobs ι R α} {pool later : Pool ι R α}

/-- Whatever happens next, things stay in order. -/
theorem Step.isOrderly [Fintype ι] (step : Step jobs pool later) (orderly : pool.IsOrderly start) :
    later.IsOrderly start := by
  cases step with
  | refuse job stage denied => exact orderly.goOn (by rw [stage]; rfl)
  | take job stage granted => exact orderly.take (by rw [stage]; rfl) granted rfl
  | give job stage => exact orderly.give (by rw [stage]; rfl) rfl
  | collect job stage =>
    have same : (Stage.collected : Stage R α).handle? = (pool.stage job).handle? := by
      rw [stage]
      rfl
    have moved := orderly.goOn same
    exact ⟨moved.limit, moved.fresh, moved.live, moved.apart, moved.others⟩

theorem Reaches.isOrderly [Fintype ι] (reaches : Reaches jobs pool later)
    (orderly : pool.IsOrderly start) : later.IsOrderly start := by
  induction reaches with
  | refl => exact orderly
  | tail _ step ih => exact step.isOrderly ih

end

end Pool

/-! ## Outcomes -/

/-- What is left to do at a stage comes to the given outcome, wherever it is done. -/
def Stage.Owes {R α : Type} [Scalar R] (limit : SizeLimit) (outcome : Except Fault α) :
    Stage R α → Prop
  | ready errand => ∀ bench : Bench R, bench.arena.limit = limit → (errand.play bench).1 = outcome
  | holding register next => ∀ bench : Bench R, bench.arena.limit = limit →
    ((next (register.memory.release.map fun _ => ())).play bench).1 = outcome
  | collected => True

namespace Stage

variable {R α : Type} [Scalar R] {arena later : Arena} {outcome : Except Fault α} {numQubits : Int}
  {used : Memory R} {seconds : R} {refused : Fault → Errand R α}
  {next : Except Fault Unit → Errand R α} {register : Register R}

theorem Owes.refuse {fault : Fault}
    (owes : (ready (.visit numQubits used seconds refused next)).Owes arena.limit outcome)
    (denied : arena.acquire (R := R) numQubits = .error fault) :
    (ready (refused fault)).Owes arena.limit outcome := by
  intro bench same
  have whole := owes bench same
  simp only [Errand.play] at whole
  rwa [Arena.acquire_eq_error same.symm denied] at whole

theorem Owes.take
    (owes : (ready (.visit numQubits used seconds refused next)).Owes arena.limit outcome)
    (granted : arena.acquire numQubits = .ok (register, later)) :
    (holding { register with memory := used } next).Owes arena.limit outcome := by
  intro bench same
  have whole := owes bench same
  simp only [Errand.play] at whole
  rcases acquired : bench.arena.acquire (R := R) numQubits with fault | ⟨other, last⟩
  · cases (Arena.acquire_eq_error same acquired).symm.trans granted
  · rw [acquired] at whole
    dsimp only at whole
    rw [Arena.release_of_acquire acquired] at whole
    rw [← whole]
    apply (Errand.play_congr _ _).1
    exact ((Arena.limit_release _ _).trans (Arena.limit_acquire acquired)).symm

theorem Owes.give {limit : SizeLimit} (owes : (holding register next).Owes limit outcome)
    (live : ∃ size, (register.handle, size) ∈ arena.live) :
    (ready (next (arena.release register).1)).Owes limit outcome := by
  intro bench same
  rw [Arena.outcome_release_of_live live]
  exact owes bench same

theorem Owes.eq_outcome {limit : SizeLimit} {own : Except Fault α}
    (owes : (ready (.done own) : Stage R α).Owes limit outcome) : own = outcome :=
  owes (.ofLimit limit {}) rfl

end Stage

namespace Pool

variable {ι R α : Type} [DecidableEq ι] [Scalar R]

/-- Every job comes to its own outcome, and what has been collected of a job is what its outcome has
become. -/
structure IsFaithful (jobs : Jobs ι R α) (limit : SizeLimit) (outcome : ι → Except Fault α)
    (pool : Pool ι R α) : Prop where
  owes : ∀ job, (pool.stage job).Owes limit (outcome job)
  collected : ∀ job, pool.stage job = .collected →
    pool.results.find? (jobs.name job) = some (jobs.settle job (outcome job))

section Outcomes

variable [Fintype ι] {start : Arena} {jobs : Jobs ι R α} {outcome : ι → Except Fault α}
  {pool later : Pool ι R α} {job : ι}

omit [Fintype ι] in
/-- One job comes to a stage from which it has the same outcome. -/
theorem owes_move {limit : SizeLimit} (arena : Arena) (stage : Stage R α)
    (owes : ∀ job, (pool.stage job).Owes limit (outcome job))
    (owesHere : stage.Owes limit (outcome job)) :
    ∀ other, ((pool.move arena job stage).stage other).Owes limit (outcome other) := by
  intro other
  by_cases own : other = job
  · rw [own, stage_move_self]
    exact owesHere
  · rw [stage_move_of_ne _ _ own]
    exact owes other

/-- What happens next changes no outcome.  A job that gives a register back holds a live one. -/
theorem Step.owes (step : Step jobs pool later) (orderly : pool.IsOrderly start)
    (owes : ∀ job, (pool.stage job).Owes start.limit (outcome job)) :
    ∀ job, (later.stage job).Owes start.limit (outcome job) := by
  cases step with
  | refuse job stage denied =>
    have owesHere := owes job
    rw [stage, ← orderly.limit] at owesHere
    have owesRest := owesHere.refuse denied
    rw [orderly.limit] at owesRest
    exact owes_move _ _ owes owesRest
  | take job stage granted =>
    have owesHere := owes job
    rw [stage, ← orderly.limit] at owesHere
    have owesRest := owesHere.take granted
    rw [orderly.limit] at owesRest
    exact owes_move _ _ owes owesRest
  | give job stage =>
    have owesHere := owes job
    rw [stage] at owesHere
    exact owes_move _ _ owes (owesHere.give (orderly.live job _ (by rw [stage]; rfl)))
  | collect job stage => exact owes_move pool.arena .collected owes trivial

omit [Fintype ι] in
/-- A job that goes on has not been collected, and collects nothing. -/
theorem IsFaithful.collected_move {limit : SizeLimit}
    (faithful : pool.IsFaithful jobs limit outcome) (arena : Arena) {stage : Stage R α}
    (going : stage ≠ .collected) : ∀ other, (pool.move arena job stage).stage other = .collected →
      (pool.move arena job stage).results.find? (jobs.name other) =
        some (jobs.settle other (outcome other)) := by
  intro other ended
  by_cases own : other = job
  · rw [own, stage_move_self] at ended
    exact absurd ended going
  · rw [stage_move_of_ne _ _ own] at ended
    exact faithful.collected other ended

theorem Step.isFaithful (step : Step jobs pool later) (names : Function.Injective jobs.name)
    (orderly : pool.IsOrderly start) (faithful : pool.IsFaithful jobs start.limit outcome) :
    later.IsFaithful jobs start.limit outcome := by
  refine ⟨step.owes orderly faithful.owes, ?_⟩
  cases step with
  | refuse job stage denied =>
    apply faithful.collected_move
    exact nofun
  | take job stage granted =>
    apply faithful.collected_move
    exact nofun
  | give job stage =>
    apply faithful.collected_move
    exact nofun
  | @collect job own stage =>
    have owes := faithful.owes job
    rw [stage] at owes
    have ownIs : own = outcome job := owes.eq_outcome
    intro other ended
    change (pool.move pool.arena job .collected).stage other = .collected at ended
    by_cases same : other = job
    · rw [same, ownIs]
      exact Listing.find?_put_self _ _ _
    · rw [stage_move_of_ne _ _ same] at ended
      exact (Listing.find?_put_of_ne _ (names.ne same) _).trans (faithful.collected other ended)

theorem Reaches.isFaithful (reaches : Reaches jobs pool later)
    (names : Function.Injective jobs.name) (orderly : pool.IsOrderly start)
    (faithful : pool.IsFaithful jobs start.limit outcome) :
    later.IsFaithful jobs start.limit outcome := by
  induction reaches with
  | refl => exact faithful
  | tail before step ih => exact step.isFaithful names (Reaches.isOrderly before orderly) ih

end Outcomes

/-! ## Going on to the end -/

section Progress

variable {jobs : Jobs ι R α} {pool : Pool ι R α} {job : ι}

/-- A job can be taken to its end while the others wait. -/
theorem exists_collected_of_ready (jobs : Jobs ι R α) (errand : Errand R α) :
    ∀ {pool : Pool ι R α}, pool.stage job = .ready errand →
      ∃ ending, Reaches jobs pool ending ∧ ending.stage job = .collected ∧
        ∀ other, other ≠ job → ending.stage other = pool.stage other := by
  induction errand with
  | done outcome =>
    intro pool stage
    exact ⟨_, .single (.collect job stage), stage_move_self pool pool.arena job _,
      fun other apart => stage_move_of_ne pool pool.arena apart _⟩
  | visit numQubits used seconds refused next refusedIH nextIH =>
    intro pool stage
    rcases acquired : pool.arena.acquire (R := R) numQubits with fault | ⟨register, arena⟩
    · rcases refusedIH fault (stage_move_self _ pool.arena _ _) with
        ⟨ending, reaches, ended, others⟩
      refine ⟨ending, .head (.refuse job stage acquired) reaches, ended, ?_⟩
      intro other apart
      rw [others other apart, stage_move_of_ne _ _ apart]
    · have holding := stage_move_self pool arena job
        (.holding { register with memory := used } next)
      rcases nextIH _ (stage_move_self _ _ _ _) with ⟨ending, reaches, ended, others⟩
      refine ⟨ending, .head (.take job stage acquired) (.head (.give job holding) reaches), ended,
        ?_⟩
      intro other apart
      rw [others other apart, stage_move_of_ne _ _ apart, stage_move_of_ne _ _ apart]

theorem exists_collected (jobs : Jobs ι R α) (pool : Pool ι R α) (job : ι) :
    ∃ ending, Reaches jobs pool ending ∧ ending.stage job = .collected ∧
      ∀ other, other ≠ job → ending.stage other = pool.stage other := by
  cases stage : pool.stage job with
  | ready errand => exact exists_collected_of_ready jobs errand stage
  | holding register next =>
    rcases exists_collected_of_ready jobs _ (stage_move_self pool _ job _) with
      ⟨ending, reaches, ended, others⟩
    refine ⟨ending, .head (.give job stage) reaches, ended, ?_⟩
    intro other apart
    rw [others other apart, stage_move_of_ne _ _ apart]
  | collected => exact ⟨pool, .refl, stage, fun _ _ => rfl⟩

/-- Whatever has happened, all jobs can be taken to their ends. -/
theorem exists_isOver [Fintype ι] (jobs : Jobs ι R α) (pool : Pool ι R α) :
    ∃ ending, Reaches jobs pool ending ∧ ending.IsOver := by
  -- One job after the other: a job that has come to its end stays there while the next one runs.
  have some : ∀ several : Finset ι, ∃ ending, Reaches jobs pool ending ∧
      ∀ job ∈ several, ending.stage job = .collected := by
    intro several
    induction several using Finset.induction_on with
    | empty => exact ⟨pool, .refl, by simp⟩
    | insert job several _ ih =>
      rcases ih with ⟨between, reaches, ended⟩
      rcases exists_collected jobs between job with ⟨ending, goesOn, endedToo, others⟩
      refine ⟨ending, reaches.trans goesOn, ?_⟩
      intro other member
      by_cases own : other = job
      · rw [own, endedToo]
      · rw [others other own]
        exact ended other ((Finset.mem_insert.1 member).resolve_left own)
  rcases some Finset.univ with ⟨ending, reaches, ended⟩
  exact ⟨ending, reaches, fun job => ended job (Finset.mem_univ job)⟩

end Progress

/-- Jobs whose results are collected under different names do not interfere at an arena.  Whatever
has happened, all of them can still be taken to their ends; and when they have come there, the
result of each is what the outcome of its errand by itself becomes, and the live registers are those
from the start. -/
theorem Reaches.independent [Fintype ι] {jobs : Jobs ι R α} {start : Arena} {pool : Pool ι R α}
    (reaches : Reaches jobs (jobs.start start) pool) (fresh : start.IsFresh)
    (names : Function.Injective jobs.name) {outcome : ι → Except Fault α}
    (alone : ∀ job (bench : Bench R), bench.arena.limit = start.limit →
      ((jobs.errand job).play bench).1 = outcome job) :
    (∃ ending, Reaches jobs pool ending ∧ ending.IsOver) ∧
      (pool.IsOver → pool.arena.live = start.live ∧
        ∀ job, pool.results.find? (jobs.name job) = some (jobs.settle job (outcome job))) := by
  have orderly := isOrderly_start jobs fresh
  have faithful : (jobs.start start).IsFaithful jobs start.limit outcome :=
    ⟨alone, fun _ ended => nomatch ended⟩
  refine ⟨exists_isOver jobs pool, fun isOver => ⟨?_, fun job => ?_⟩⟩
  · exact (reaches.isOrderly orderly).live_of_isOver isOver
  · exact (reaches.isFaithful names orderly faithful).collected job (isOver job)

end Pool

end QuantumKata
