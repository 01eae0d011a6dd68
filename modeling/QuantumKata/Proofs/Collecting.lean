import QuantumKata.Proofs.Interleaving

/-!
# Waiting for the outcomes of jobs

A host waits for jobs that run beside each other.  It is done with a job when it has collected the
outcome of the job or has given the job up, whichever comes first.  A job that has been given up
goes on working, but its outcome is not collected any more.  Either way a value is written under the
name of the job: what its outcome has become, or what stands for a lapse.

Jobs may have one name.  Under every name there stands in the end what the host has written last for
a job of that name.  So each job finds its own value under its name exactly if jobs of one name have
come to the same.
-/

namespace QuantumKata

/-- What has been written under names is right for all jobs exactly if jobs of one name have come to
the same, provided that every job finds what some job of its name has come to. -/
theorem Listing.find?_eq_own_iff {ι α : Type} {name : ι → String} {own : ι → α}
    {results : Listing α}
    (stands : ∀ job, ∃ other, name other = name job ∧
      results.find? (name job) = some (own other)) :
    (∀ job, results.find? (name job) = some (own job)) ↔
      ∀ first second, name first = name second → own first = own second := by
  constructor
  · intro right first second same
    have found := right first
    rw [same, right second] at found
    exact (Option.some.inj found).symm
  · intro agree job
    obtain ⟨other, same, found⟩ := stands job
    rw [found, agree other job same]

/-- Jobs on their way, and the values that have been written for them, the latest first. -/
structure Host (ι R α : Type) where
  pool : Pool ι R α
  concluded : List (ι × α) := []

/-- A host before the first requests of its jobs. -/
def Jobs.host {ι R α : Type} (jobs : Jobs ι R α) (arena : Arena) : Host ι R α :=
  { pool := jobs.start arena }

namespace Host

variable {ι R α : Type}

/-- The host waits for a job. -/
def Awaits (host : Host ι R α) (job : ι) : Prop := job ∉ host.concluded.map Prod.fst

/-- The host waits for no job any more. -/
def IsOver (host : Host ι R α) : Prop := ∀ job, ¬host.Awaits job

variable [DecidableEq ι]

/-- A value is written for a job, which comes to a stage. -/
def conclude (host : Host ι R α) (jobs : Jobs ι R α) (job : ι) (value : α) (stage : Stage R α) :
    Host ι R α where
  pool := { host.pool.move host.pool.arena job stage with
    results := host.pool.results.put (jobs.name job) value }
  concluded := (job, value) :: host.concluded

/-- What can happen next: a job goes on, the outcome of a job that is waited for is collected, or
the job is given up. -/
inductive Step [Scalar R] (jobs : Jobs ι R α) (lapse : ι → α) : Host ι R α → Host ι R α → Prop where
  | work {host : Host ι R α} {later : Pool ι R α} (step : Pool.Step jobs host.pool later)
      (going : ∀ job, later.stage job = .collected → host.pool.stage job = .collected) :
      Step jobs lapse host { host with pool := later }
  | collect {host : Host ι R α} (job : ι) {outcome : Except Fault α} (awaited : host.Awaits job)
      (stage : host.pool.stage job = .ready (.done outcome)) :
      Step jobs lapse host (host.conclude jobs job (jobs.settle job outcome) .collected)
  | giveUp {host : Host ι R α} (job : ι) (awaited : host.Awaits job) :
      Step jobs lapse host (host.conclude jobs job (lapse job) (host.pool.stage job))

/-- What can happen in the course of time. -/
def Reaches [Scalar R] (jobs : Jobs ι R α) (lapse : ι → α) : Host ι R α → Host ι R α → Prop :=
  Relation.ReflTransGen (Step jobs lapse)

/-- Every job comes to its own outcome, a value has been written once for each job that is not
waited for, and the latest of each name stands under the name. -/
structure IsFaithful [Scalar R] (jobs : Jobs ι R α) (lapse : ι → α) (limit : SizeLimit)
    (outcome : ι → Except Fault α) (host : Host ι R α) : Prop where
  owes : ∀ job, (host.pool.stage job).Owes limit (outcome job)
  awaited : ∀ job, host.Awaits job → host.pool.stage job ≠ .collected
  once : (host.concluded.map Prod.fst).Nodup
  own : ∀ entry ∈ host.concluded,
    entry.2 = jobs.settle entry.1 (outcome entry.1) ∨ entry.2 = lapse entry.1
  stands : ∀ name, host.pool.results.find? name =
    (host.concluded.find? fun entry => jobs.name entry.1 == name).map Prod.snd

/-- A value has been written for each job, that of its own outcome or the one for a lapse, and under
the name of the job stands the latest for a job of that name. -/
structure Concludes (jobs : Jobs ι R α) (lapse : ι → α) (outcome : ι → Except Fault α)
    (host : Host ι R α) (conclusion : ι → α) (latest : ι → ι) : Prop where
  written : ∀ job, (job, conclusion job) ∈ host.concluded
  own : ∀ job, conclusion job = jobs.settle job (outcome job) ∨ conclusion job = lapse job
  name_latest : ∀ job, jobs.name (latest job) = jobs.name job
  find_latest : ∀ job, (host.concluded.find? fun entry => jobs.name entry.1 == jobs.name job) =
    some (latest job, conclusion (latest job))
  stands : ∀ job, host.pool.results.find? (jobs.name job) = some (conclusion (latest job))

section

variable {jobs : Jobs ι R α} {lapse : ι → α} {start : Arena} {outcome : ι → Except Fault α}
  {host later : Host ι R α} {job other : ι} {value : α} {stage : Stage R α}

theorem concluded_conclude :
    (host.conclude jobs job value stage).concluded = (job, value) :: host.concluded := rfl

theorem awaits_conclude :
    (host.conclude jobs job value stage).Awaits other ↔ other ≠ job ∧ host.Awaits other := by
  rw [Awaits, Awaits, concluded_conclude, List.map_cons, List.mem_cons, not_or]

variable [Scalar R]

/-! ## What is preserved -/

omit [DecidableEq ι] in
theorem isFaithful_start {limit : SizeLimit} {arena : Arena}
    (owes : ∀ job (bench : Bench R), bench.arena.limit = limit →
      ((jobs.errand job).play bench).1 = outcome job) :
    (jobs.host arena).IsFaithful jobs lapse limit outcome where
  owes := owes
  awaited _ _ := nofun
  once := List.nodup_nil
  own := List.forall_mem_nil _
  stands _ := rfl

/-- A value that a job may come to is written for it. -/
theorem IsFaithful.conclude {limit : SizeLimit}
    (faithful : host.IsFaithful jobs lapse limit outcome) (awaited : host.Awaits job)
    (owes : stage.Owes limit (outcome job))
    (own : value = jobs.settle job (outcome job) ∨ value = lapse job) :
    (host.conclude jobs job value stage).IsFaithful jobs lapse limit outcome := by
  constructor
  case owes => exact Pool.owes_move host.pool.arena stage faithful.owes owes
  case awaited =>
    intro other waits
    obtain ⟨apart, waited⟩ := awaits_conclude.1 waits
    have same : (host.conclude jobs job value stage).pool.stage other = host.pool.stage other :=
      Pool.stage_move_of_ne host.pool host.pool.arena apart stage
    rw [same]
    exact faithful.awaited other waited
  case once => exact List.nodup_cons.2 ⟨awaited, faithful.once⟩
  case own => exact List.forall_mem_cons.2 ⟨own, faithful.own⟩
  case stands =>
    intro name
    change (host.pool.results.put (jobs.name job) value).find? name = _
    rw [concluded_conclude, List.find?_cons]
    by_cases same : jobs.name job = name
    · rw [← same, Listing.find?_put_self, beq_self_eq_true]
      rfl
    · rw [Listing.find?_put_of_ne _ (Ne.symm same), faithful.stands, beq_false_of_ne same]

/-- What the host is done with it stays done with. -/
theorem Step.awaits (step : Step jobs lapse host later) (waits : later.Awaits job) :
    host.Awaits job := by
  cases step with
  | work _ _ => exact waits
  | collect _ _ _ | giveUp _ _ => exact (awaits_conclude.1 waits).2

theorem Reaches.awaits (reaches : Reaches jobs lapse host later) (waits : later.Awaits job) :
    host.Awaits job := by
  induction reaches with
  | refl => exact waits
  | tail _ step ih => exact ih (step.awaits waits)

/-! ## Going on to the end -/

/-- One job comes to another stage, and the arena to another state. -/
def move (host : Host ι R α) (arena : Arena) (job : ι) (stage : Stage R α) : Host ι R α :=
  { host with pool := host.pool.move arena job stage }

omit [Scalar R] in
theorem stage_move_self (host : Host ι R α) (arena : Arena) (job : ι) (stage : Stage R α) :
    (host.move arena job stage).pool.stage job = stage :=
  Pool.stage_move_self host.pool arena job stage

/-- A job that goes on is not collected. -/
theorem Step.move {arena : Arena} (going : stage ≠ .collected)
    (step : Pool.Step jobs host.pool (host.pool.move arena job stage)) :
    Step jobs lapse host (host.move arena job stage) := by
  refine .work step fun other ended => ?_
  by_cases own : other = job
  · rw [own, Pool.stage_move_self] at ended
    exact absurd ended going
  · rwa [Pool.stage_move_of_ne _ _ own] at ended

/-- A job that is waited for can be taken to its end while the others wait. -/
theorem exists_concluded_of_ready (jobs : Jobs ι R α) (lapse : ι → α) (errand : Errand R α) :
    ∀ {host : Host ι R α}, host.pool.stage job = .ready errand → host.Awaits job →
      ∃ ending, Reaches jobs lapse host ending ∧ ¬ending.Awaits job := by
  induction errand with
  | done outcome =>
    intro host stage awaited
    exact ⟨_, .single (.collect job awaited stage), fun waits => (awaits_conclude.1 waits).1 rfl⟩
  | visit numQubits used seconds refused next refusedIH nextIH =>
    intro host stage awaited
    rcases acquired : host.pool.arena.acquire (R := R) numQubits with fault | ⟨register, arena⟩
    · obtain ⟨ending, reaches, ended⟩ :=
        refusedIH fault (host.stage_move_self host.pool.arena job _) awaited
      exact ⟨ending, .head (.move (by nofun) (.refuse job stage acquired)) reaches, ended⟩
    · let between := host.move arena job (.holding { register with memory := used } next)
      have holding : between.pool.stage job = .holding { register with memory := used } next :=
        host.stage_move_self arena job _
      obtain ⟨ending, reaches, ended⟩ := nextIH _ (between.stage_move_self _ job _) awaited
      exact ⟨ending, .head (.move (by nofun) (.take job stage acquired))
        (.head (.move (by nofun) (.give job holding)) reaches), ended⟩

theorem exists_concluded (jobs : Jobs ι R α) (lapse : ι → α) (awaited : host.Awaits job)
    (going : host.pool.stage job ≠ .collected) :
    ∃ ending, Reaches jobs lapse host ending ∧ ¬ending.Awaits job := by
  cases stage : host.pool.stage job with
  | ready errand => exact exists_concluded_of_ready jobs lapse errand stage awaited
  | holding register next =>
    obtain ⟨ending, reaches, ended⟩ :=
      exists_concluded_of_ready jobs lapse _ (host.stage_move_self _ job _) awaited
    exact ⟨ending, .head (.move (by nofun) (.give job stage)) reaches, ended⟩
  | collected => exact absurd stage going

variable [Fintype ι]

theorem Step.isOrderly (step : Step jobs lapse host later) (orderly : host.pool.IsOrderly start) :
    later.pool.IsOrderly start := by
  cases step with
  | work step _ => exact step.isOrderly orderly
  | collect job _ stage => exact (Pool.Step.collect job stage).isOrderly orderly
  | giveUp job _ =>
    have same := orderly.goOn (rfl : (host.pool.stage job).handle? = _)
    exact ⟨same.limit, same.fresh, same.live, same.apart, same.others⟩

/-- Whatever happens next, the host stays faithful. -/
theorem Step.isFaithful (step : Step jobs lapse host later) (orderly : host.pool.IsOrderly start)
    (faithful : host.IsFaithful jobs lapse start.limit outcome) :
    later.IsFaithful jobs lapse start.limit outcome := by
  cases step with
  | @work after step going =>
    refine ⟨step.owes orderly faithful.owes, ?_, faithful.once, faithful.own, ?_⟩
    · exact fun job waits ended => faithful.awaited job waits (going job ended)
    · cases step with
      | refuse | take | give => exact faithful.stands
      | collect job stage =>
        -- A job whose outcome is collected was not collected before.
        have ended := going job (Pool.stage_move_self host.pool host.pool.arena job .collected)
        cases stage.symm.trans ended
  | @collect job own awaited stage =>
    have owes := faithful.owes job
    rw [stage] at owes
    rw [show own = outcome job from owes.eq_outcome]
    exact faithful.conclude awaited trivial (.inl rfl)
  | giveUp job awaited => exact faithful.conclude awaited (faithful.owes job) (.inr rfl)

theorem Reaches.isFaithful (reaches : Reaches jobs lapse host later)
    (orderly : host.pool.IsOrderly start)
    (faithful : host.IsFaithful jobs lapse start.limit outcome) :
    later.pool.IsOrderly start ∧ later.IsFaithful jobs lapse start.limit outcome := by
  induction reaches with
  | refl => exact ⟨orderly, faithful⟩
  | tail _ step ih => exact ⟨step.isOrderly ih.1, step.isFaithful ih.1 ih.2⟩

/-- Whatever has happened, the host can still be done with all jobs. -/
theorem exists_isOver (orderly : host.pool.IsOrderly start)
    (faithful : host.IsFaithful jobs lapse start.limit outcome) :
    ∃ ending, Reaches jobs lapse host ending ∧ ending.IsOver := by
  have some : ∀ several : Finset ι, ∃ ending, Reaches jobs lapse host ending ∧
      ∀ job ∈ several, ¬ending.Awaits job := by
    intro several
    induction several using Finset.induction_on with
    | empty => exact ⟨host, .refl, by simp⟩
    | insert job several _ ih =>
      obtain ⟨between, reaches, done⟩ := ih
      obtain ⟨-, faithfulThere⟩ := reaches.isFaithful orderly faithful
      by_cases waits : between.Awaits job
      · obtain ⟨ending, goesOn, ended⟩ :=
          exists_concluded jobs lapse waits (faithfulThere.awaited job waits)
        refine ⟨ending, reaches.trans goesOn, fun other member => ?_⟩
        rcases Finset.mem_insert.1 member with rfl | earlier
        · exact ended
        · exact fun stillWaits => done other earlier (goesOn.awaits stillWaits)
      · refine ⟨between, reaches, fun other member => ?_⟩
        rcases Finset.mem_insert.1 member with rfl | earlier
        · exact waits
        · exact done other earlier
  obtain ⟨ending, reaches, done⟩ := some Finset.univ
  exact ⟨ending, reaches, fun job => done job (Finset.mem_univ job)⟩

/-! ## What stands in the end -/

omit [DecidableEq ι] [Fintype ι] in
theorem IsFaithful.exists_concludes {limit : SizeLimit}
    (faithful : host.IsFaithful jobs lapse limit outcome) (isOver : host.IsOver) :
    ∃ conclusion latest, host.Concludes jobs lapse outcome conclusion latest := by
  have written : ∀ job, ∃ value, (job, value) ∈ host.concluded := by
    intro job
    obtain ⟨⟨_, value⟩, member, rfl⟩ := List.mem_map.1 (not_not.1 (isOver job))
    exact ⟨value, member⟩
  choose conclusion member using written
  have found : ∀ job, ∃ entry,
      (host.concluded.find? fun entry => jobs.name entry.1 == jobs.name job) = some entry := by
    intro job
    refine Option.isSome_iff_exists.1 (List.find?_isSome.2 ⟨_, member job, ?_⟩)
    exact beq_self_eq_true _
  choose entry finds using found
  -- No job has two values.
  have values : ∀ job, entry job = ((entry job).1, conclusion (entry job).1) := fun job =>
    List.inj_on_of_nodup_map faithful.once (List.mem_of_find?_eq_some (finds job)) (member _) rfl
  refine ⟨conclusion, fun job => (entry job).1, member, fun job => faithful.own _ (member job),
    fun job => beq_iff_eq.1 (List.find?_some (finds job) :), fun job => ?_, fun job => ?_⟩
  · rw [finds, ← values]
  · rw [faithful.stands, finds, Option.map_some, values]

/-- Whatever has happened, the host can be done with all jobs, and when it is, each job has come to
its own outcome or has been given up. -/
theorem Reaches.concludes (reaches : Reaches jobs lapse (jobs.host start) host)
    (fresh : start.IsFresh)
    (alone : ∀ job (bench : Bench R), bench.arena.limit = start.limit →
      ((jobs.errand job).play bench).1 = outcome job) :
    (∃ ending, Reaches jobs lapse host ending ∧ ending.IsOver) ∧
      (host.IsOver → ∃ conclusion latest, host.Concludes jobs lapse outcome conclusion latest) := by
  obtain ⟨orderly, faithful⟩ :=
    reaches.isFaithful (Pool.isOrderly_start jobs fresh) (isFaithful_start alone)
  exact ⟨exists_isOver orderly faithful, faithful.exists_concludes⟩

end

end Host

end QuantumKata
