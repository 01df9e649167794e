import TurningGood.Proactive.CronRunDue

/-!
# The snapshot of a cron manager over whole runs

The jobs are stored under their ids, and the snapshot on disk is the one of
the jobs in memory.  Every operation keeps this unless it stops in the middle
of its loop, which only an expression without a firing in the horizon can
cause.
-/

namespace TurningGood.Proactive

open TurningGood.Foundation

namespace CronManager

variable {zones : ZoneDatabase}

variable {manager target final : CronManager} {now : Nat}
  {persist changed : Bool} {jobs : List CronJob} {jobId : String}

/-! ## Rebuilding the index -/

/-- Only the jobs and the index of their firings may differ. -/
def Reindexed (before after : CronManager) : Prop := ∃ jobs nextFire,
    after = { before with jobs := jobs, nextFire := nextFire }

theorem Reindexed.trans
    {first second third : CronManager}
    (earlier : Reindexed first second) (later : Reindexed second third) :
    Reindexed first third := by
  rcases earlier with ⟨_, _, rfl⟩
  rcases later with ⟨jobs, nextFire, rfl⟩
  exact ⟨jobs, nextFire, rfl⟩

theorem Keyed.insert (keyed : manager.Keyed) (job : CronJob)
    (inserted : target.jobs = manager.jobs.insert job.id job) :
    target.Keyed := by
  intro jobId found present
  rw [inserted, Dict.get?_insert] at present
  split_ifs at present with same
  · rw [Option.some.injEq] at present
    rw [← present, same]
  · exact keyed jobId found present

theorem Keyed.erase (keyed : manager.Keyed) (jobId : String)
    (erased : target.jobs = manager.jobs.erase jobId) : target.Keyed := by
  intro other found present
  rw [erased, Dict.get?_erase] at present
  split_ifs at present
  exact keyed other found present

theorem Keyed.of_jobs_eq (keyed : manager.Keyed)
    (same : target.jobs = manager.jobs) : target.Keyed := by
  intro jobId job present
  exact keyed jobId job (same ▸ present)

theorem rebuildJob_effect {job : CronJob} (rebuilt :
      manager.rebuildJob zones now persist job = .ok (target, changed)) :
    Reindexed manager target ∧ (manager.Keyed → target.Keyed) ∧ (persist = false ∨ changed = false →
        target.jobs = manager.jobs) := by
  unfold rebuildJob at rebuilt
  cases search : nextJobFire job now (zones.localTime manager.timezone) with
  | error error =>
    rw [search] at rebuilt
    cases rebuilt
  | ok fire =>
    rw [search] at rebuilt
    simp only [bind, Except.bind] at rebuilt
    cases fire with
    | none =>
      dsimp only at rebuilt
      split_ifs at rebuilt with persists
      · cases rebuilt
        refine ⟨⟨_, _, rfl⟩, fun keyed => keyed.erase job.id rfl, ?_⟩
        simp [persists]
      · cases rebuilt
        exact ⟨⟨_, _, rfl⟩, id, fun _ => rfl⟩
    | some deadline =>
      dsimp only at rebuilt
      split_ifs at rebuilt with both
      · cases replaced : (manager.indexFire job.id deadline).replaceJob job (some deadline) now with
        | error error =>
          rw [replaced] at rebuilt
          cases rebuilt
        | ok written =>
          rw [replaced] at rebuilt
          cases rebuilt
          rcases replaceJob_eq_ok replaced with ⟨updated, sameId, _, rfl⟩
          rw [Bool.and_eq_true] at both
          refine ⟨⟨_, _, rfl⟩, fun keyed => ?_, by simp [both.2]⟩
          exact keyed.insert updated (by rw [sameId]; rfl)
      · cases rebuilt
        exact ⟨⟨_, _, rfl⟩, fun keyed => keyed.of_jobs_eq rfl, fun _ => rfl⟩

theorem rebuildJob_isOk (persist : Bool) {job : CronJob} (fires : Fires zones manager now job) :
    ∃ result, manager.rebuildJob zones now persist job = .ok result := by
  rcases nextJobFire_isOk_iff.mpr fires with ⟨fire, search⟩
  unfold rebuildJob
  rw [search]
  simp only [bind, Except.bind]
  cases fire with
  | none =>
    dsimp only
    split_ifs <;> exact ⟨_, rfl⟩
  | some deadline =>
    dsimp only
    split_ifs
    · have possible :
          job.recurring = true → some deadline ≠ none := by simp
      rcases replaceJob_isOk possible with ⟨target, replaced⟩
      exact ⟨_, by rw [replaced]; rfl⟩
    · exact ⟨_, rfl⟩

theorem rebuildLoop_effect {result : Except String Bool} (loop :
      rebuildLoop zones now persist jobs manager changed = (final, result)) :
    Reindexed manager final ∧ (manager.Keyed → final.Keyed) := by
  induction jobs generalizing manager changed with
  | nil =>
    cases loop
    exact ⟨⟨_, _, rfl⟩, id⟩
  | cons job rest induction =>
    simp only [rebuildLoop] at loop
    cases rebuilt : manager.rebuildJob zones now persist job with
    | error error =>
      rw [rebuilt] at loop
      cases loop
      exact ⟨⟨_, _, rfl⟩, id⟩
    | ok next =>
      rcases next with ⟨next, jobChanged⟩
      rw [rebuilt] at loop
      have first := rebuildJob_effect rebuilt
      have others := induction loop
      exact ⟨first.1.trans others.1, fun keyed =>
        others.2 (first.2.1 keyed)⟩

theorem rebuildLoop_reports {changedAfter : Bool} (loop :
      rebuildLoop zones now persist jobs manager changed =
        (final, .ok changedAfter)) (unchanged : changedAfter = false) :
    changed = false := by
  induction jobs generalizing manager changed with
  | nil =>
    cases loop
    exact unchanged
  | cons job rest induction =>
    simp only [rebuildLoop] at loop
    cases rebuilt : manager.rebuildJob zones now persist job with
    | error error =>
      rw [rebuilt] at loop
      cases loop
    | ok next =>
      rw [rebuilt] at loop
      exact (Bool.or_eq_false_iff.mp (induction loop)).1

theorem rebuildLoop_unchanged {changedAfter : Bool} (loop :
      rebuildLoop zones now persist jobs manager changed = (final, .ok changedAfter))
    (unchanged : persist = false ∨ changedAfter = false) :
    final.jobs = manager.jobs := by
  induction jobs generalizing manager changed with
  | nil =>
    cases loop
    rfl
  | cons job rest induction =>
    simp only [rebuildLoop] at loop
    cases rebuilt : manager.rebuildJob zones now persist job with
    | error error =>
      rw [rebuilt] at loop
      cases loop
    | ok next =>
      rcases next with ⟨next, jobChanged⟩
      rw [rebuilt] at loop
      have first := (rebuildJob_effect rebuilt).2.2
      rw [induction loop]
      refine first (unchanged.imp_right fun same => ?_)
      exact (Bool.or_eq_false_iff.mp (rebuildLoop_reports loop same)).2

theorem rebuildDeadlines_effect {result : Except String Unit} (rebuilt :
      manager.rebuildDeadlines zones now persist = (target, result)) :
    (∃ jobs nextFire file, target =
          { manager with
            jobs := jobs, nextFire := nextFire, file := file }) ∧
      (manager.Keyed → target.Keyed) ∧
      (result = .ok () → manager.Saved → target.Saved) := by
  unfold rebuildDeadlines at rebuilt
  rcases loop : rebuildLoop zones now persist manager.jobs.values
        { manager with nextFire := Dict.empty } false with
    ⟨final, outcome⟩
  rcases rebuildLoop_effect loop with ⟨⟨jobs, nextFire, rfl⟩, keyed⟩
  rw [loop] at rebuilt
  cases outcome with
  | error error =>
    cases rebuilt
    refine ⟨⟨jobs, nextFire, _, rfl⟩, keyed, fun finished => ?_⟩
    cases finished
  | ok changed =>
    cases rebuilt
    split_ifs with both
    · exact ⟨⟨jobs, nextFire, _, rfl⟩, keyed, fun _ _ => rfl⟩
    · refine ⟨⟨jobs, nextFire, _, rfl⟩, keyed, fun _ saved => ?_⟩
      have kept : jobs = manager.jobs := rebuildLoop_unchanged loop (by
        rw [Bool.and_eq_true, not_and_or] at both
        simpa using both)
      rw [kept]
      exact saved

/-- Every recurring job of a list has a firing in the horizon. -/
def JobsFire (zones : ZoneDatabase) (timezone : String) (now : Nat) (jobs : List CronJob) : Prop :=
  ∀ job ∈ jobs, PlanFires (zones.localTime timezone) now job.plan

theorem rebuildLoop_isOk (persist changed : Bool)
    (fires : JobsFire zones manager.timezone now jobs) :
    ∃ final changedAfter, rebuildLoop zones now persist jobs manager changed =
        (final, .ok changedAfter) := by
  induction jobs generalizing manager changed with
  | nil => exact ⟨_, _, rfl⟩
  | cons job rest induction =>
    have first : Fires zones manager now job :=
      fires job List.mem_cons_self
    rcases rebuildJob_isOk persist first with
      ⟨⟨next, jobChanged⟩, rebuilt⟩
    rcases (rebuildJob_effect rebuilt).1 with ⟨_, _, rfl⟩
    simp only [rebuildLoop, rebuilt]
    exact induction _ fun other member =>
      fires other (List.mem_cons_of_mem job member)

theorem rebuildDeadlines_isOk (fires : JobsFire zones manager.timezone now manager.jobs.values) :
    (manager.rebuildDeadlines zones now persist).2 = .ok () := by
  have cleared :
      JobsFire zones ({ manager with nextFire := Dict.empty }).timezone
        now manager.jobs.values := fires
  rcases rebuildLoop_isOk persist false cleared with ⟨final, changedAfter, loop⟩
  simp only [rebuildDeadlines, loop]

theorem jobsOfRows_eq_some
    {rows : List CronJob} {jobs : Dict String CronJob}
    (loaded : jobsOfRows rows = some jobs) :
    jobs.values = rows ∧ ∀ jobId job, jobs.get? jobId = some job → job.id = jobId := by
  unfold jobsOfRows at loaded
  split_ifs at loaded with unique
  cases loaded
  refine ⟨?_, fun jobId job present => ?_⟩
  · simp [Dict.values, List.map_map, Function.comp_def]
  · rw [← Dict.mem_entries_iff] at present
    rcases List.mem_map.mp present with ⟨row, _, same⟩
    cases same
    rfl

theorem loadState_effect {loaded : CronManager} (loads : manager.loadState = .ok loaded) :
    (∃ jobs, loaded =
            { manager with jobs := jobs, usage := manager.file.usage } ∧
          jobs.values = manager.file.jobs) ∧
      loaded.Keyed ∧ (manager.Saved → loaded.Saved) := by
  unfold loadState at loads
  split at loads
  case h_2 => cases loads
  case h_1 jobs rows =>
    cases loads
    have spec := jobsOfRows_eq_some rows
    refine ⟨⟨jobs, rfl, spec.1⟩, spec.2, fun saved => ?_⟩
    unfold Saved snapshot listJobs at saved ⊢
    rw [spec.1]
    nth_rewrite 1 [saved]
    rw [saved]
    have sorted :=
      (List.pairwise_insertionSort CronJob.Before manager.jobs.values).insertionSort_eq
    rw [sorted]

/-! ## One step -/

theorem taskAt_eq_some {stages : List TaskStage} {task : CronTask}
    (found : manager.taskAt jobId stages = some task) :
    manager.tasks.get? jobId = some task ∧ task.stage ∈ stages := by
  rw [taskAt, Option.filter_eq_some_iff, decide_eq_true_iff] at found
  exact found

/-- The jobs are under their ids, and the snapshot is theirs. -/
structure Consistent (manager : CronManager) : Prop where
  keyed : manager.Keyed
  saved : manager.Saved

theorem Consistent.congr (consistent : manager.Consistent)
    (jobs : target.jobs = manager.jobs) (usage : target.usage = manager.usage)
    (file : target.file = manager.file) : target.Consistent := by
  refine ⟨consistent.keyed.of_jobs_eq jobs, ?_⟩
  have saved := consistent.saved
  simp only [Saved, snapshot, listJobs] at saved ⊢
  rw [file, jobs, usage, saved]

theorem Keyed.saveState (keyed : manager.Keyed) :
    manager.saveState.Consistent :=
  ⟨keyed, rfl⟩

theorem createJob_consistent {request : JobRequest} (consistent : manager.Consistent)
    (created : manager.createJob zones request jobId now = .ok target) :
    target.Consistent := by
  unfold createJob at created
  split_ifs at created
  cases first : manager.firstDeadline zones request now with
  | error error =>
    rw [first] at created
    cases created
  | ok deadline =>
    rw [first] at created
    cases requested : requestedJob request jobId deadline now with
    | error error =>
      simp only [bind, Except.bind, requested] at created
      cases created
    | ok job =>
      simp only [bind, Except.bind, requested] at created
      cases created
      have sameId : job.id = jobId := by
        unfold requestedJob at requested
        cases planned : CronPlan.make request.recurring request.cron (some deadline) with
        | error error =>
          rw [planned] at requested
          cases requested
        | ok plan =>
          rw [planned] at requested
          cases requested
          rfl
      refine Keyed.saveState (consistent.keyed.insert job ?_)
      rw [sameId]
      rfl

theorem cancelJob_consistent (consistent : manager.Consistent)
    (jobId : String) : (manager.cancelJob jobId).Consistent := by
  unfold cancelJob
  split_ifs
  · exact consistent
  · split
    · exact consistent
    · split_ifs
      · exact consistent
      · exact Keyed.saveState (consistent.keyed.erase jobId rfl)

theorem clearTask_consistent (consistent : manager.Consistent)
    (jobId : String) : (manager.clearTask jobId).Consistent :=
  consistent.congr rfl rfl rfl

theorem retireJob_keyed (keyed : manager.Keyed) (jobId : String)
    (job : CronJob) : (manager.retireJob jobId job).Keyed := by
  unfold retireJob
  split_ifs
  · exact keyed
  · exact keyed.erase jobId rfl

theorem executorReturned_consistent (consistent : manager.Consistent)
    (jobId : String) (task : CronTask) (result : ExecutionResult) :
    (manager.executorReturned jobId task result).Consistent := by
  have recorded : (manager.recordReturn task result).Consistent :=
    consistent.congr rfl rfl rfl
  unfold executorReturned finishJob
  split_ifs
  · exact clearTask_consistent recorded jobId
  · split
    · exact clearTask_consistent recorded jobId
    · have counted :
          ((manager.recordReturn task result).addUsage task result).Keyed :=
        recorded.keyed.of_jobs_eq rfl
      exact Consistent.congr (retireJob_keyed counted jobId _).saveState rfl rfl rfl

theorem taskEvent_consistent (consistent : manager.Consistent) (jobId : String) (task : CronTask) :
    (manager.stepTask jobId task).Consistent ∧ (manager.markRunning jobId task).Consistent ∧
      (manager.cancelTask jobId task).Consistent := by
  refine ⟨?_, ?_, ?_⟩
  · unfold stepTask
    split_ifs
    · exact consistent.congr rfl rfl rfl
    · exact consistent.congr rfl rfl rfl
  · unfold markRunning
    split_ifs
    · exact clearTask_consistent (cancelJob_consistent consistent jobId) jobId
    · exact consistent.congr rfl rfl rfl
  · unfold cancelTask
    split_ifs
    · exact consistent.congr rfl rfl rfl
    · exact clearTask_consistent (cancelJob_consistent consistent jobId) jobId

theorem rebuildDeadlines_consistent (consistent : manager.Consistent)
    (finished : (manager.rebuildDeadlines zones now persist).2 = .ok ()) :
    (manager.rebuildDeadlines zones now persist).1.Consistent := by
  rcases rebuilt : manager.rebuildDeadlines zones now persist with ⟨target, result⟩
  rw [rebuilt] at finished
  have effect := rebuildDeadlines_effect rebuilt
  exact ⟨effect.2.1 consistent.keyed, effect.2.2 finished consistent.saved⟩

theorem deletion_consistent {deletion : Deletion} (consistent : manager.Consistent) (stepped :
      manager.purgeDelete deletion = some target ∨ manager.finishDelete deletion = some target ∨
          manager.abortDelete deletion = some target) : target.Consistent := by
  rcases stepped with stepped | stepped | stepped
  · unfold purgeDelete at stepped
    split_ifs at stepped
    cases stepped
    exact consistent.congr rfl rfl rfl
  · unfold finishDelete at stepped
    split_ifs at stepped
    cases stepped
    have removed :
        ({ (manager.dropJob deletion.jobId).dropFire deletion.jobId with
            tasks := manager.tasks.erase deletion.jobId
            runningIds := manager.runningIds.filter (· ≠ deletion.jobId) } :
          CronManager).Keyed :=
      consistent.keyed.erase deletion.jobId rfl
    exact removed.saveState.congr rfl rfl rfl
  · unfold abortDelete at stepped
    split_ifs at stepped
    cases stepped
    exact consistent.congr rfl rfl rfl

theorem beginDelete_consistent (consistent : manager.Consistent)
    (deleted : manager.beginDelete jobId = .ok target) : target.Consistent := by
  unfold beginDelete at deleted
  split_ifs at deleted
  cases deleted
  exact consistent.congr rfl rfl rfl

variable (zones) in
/--
The pass, the change of timezone, or the initialization meets no expression
that has no firing in the search horizon.
-/
def KeepsSchedule (manager : CronManager) : CronEvent → Prop
  | .runDue moment _ => DueJobsFire zones manager moment
  | .updateTimezone name now =>
    zones.known name = true → JobsFire zones name now manager.jobs.values
  | .initializeSchedule now =>
    JobsFire zones manager.timezone now manager.file.jobs
  | _ => True

instance (manager : CronManager) (event : CronEvent) :
    Decidable (manager.KeepsSchedule zones event) :=
  match event with
  | .runDue _ _ => inferInstanceAs (Decidable (DueJobsFire _ _ _))
  | .updateTimezone _ _ =>
    inferInstanceAs (Decidable (_ = true → ∀ job ∈ _, PlanFires _ _ _))
  | .initializeSchedule _ =>
    inferInstanceAs (Decidable (∀ job ∈ _, PlanFires _ _ _))
  | .createJob _ _ _ | .reload _ | .close | .stepTask _ | .markRunning _
  | .cancelTask _ | .executorReturned _ _ | .delivered _ | .beginDelete _
  | .purgeDelete _ | .finishDelete _ | .abortDelete _ =>
    inferInstanceAs (Decidable True)

theorem step_consistent {event : CronEvent} (consistent : manager.Consistent)
    (keeps : manager.KeepsSchedule zones event)
    (stepped : manager.step zones event = some target) : target.Consistent := by
  cases event with
  | createJob request jobId now =>
    simp only [step] at stepped
    split_ifs at stepped
    cases created : manager.createJob zones request jobId now with
    | error error =>
      rw [created] at stepped
      cases stepped
      exact consistent
    | ok after =>
      rw [created] at stepped
      cases stepped
      exact createJob_consistent consistent created
  | runDue moment now =>
    cases stepped
    exact ⟨(runDue_taken consistent.keyed now keeps).2.2,
      runDue_saved consistent.keyed consistent.saved now keeps⟩
  | updateTimezone name now =>
    simp only [step, updateTimezone] at stepped
    split_ifs at stepped with known
    · cases stepped
      exact rebuildDeadlines_consistent (consistent.congr rfl rfl rfl)
        (rebuildDeadlines_isOk (keeps known))
    · cases stepped
      exact consistent
  | initializeSchedule now =>
    simp only [step, initializeSchedule] at stepped
    cases loads : manager.loadState with
    | error error =>
      rw [loads] at stepped
      cases stepped
      exact consistent
    | ok loaded =>
      rw [loads] at stepped
      cases stepped
      rcases loadState_effect loads with ⟨⟨jobs, rfl, rows⟩, keyed, saved⟩
      refine rebuildDeadlines_consistent ⟨keyed, saved consistent.saved⟩ (rebuildDeadlines_isOk ?_)
      rw [rows]
      exact keeps
  | reload now =>
    simp only [step, reload] at stepped
    cases loads : manager.loadState with
    | error error =>
      rw [loads] at stepped
      cases stepped
    | ok loaded =>
      rw [loads] at stepped
      have effect := loadState_effect loads
      have restarted :
          ({ loaded with
              tasks := Dict.empty
              runningIds := []
              deleting := []
              deletions := [] } : CronManager).Consistent :=
        Consistent.congr ⟨effect.2.1, effect.2.2 consistent.saved⟩ rfl rfl rfl
      dsimp only at stepped
      split at stepped
      case h_1 rebuilt equal =>
        cases stepped
        have after :=
          rebuildDeadlines_consistent restarted (by rw [equal])
        rw [equal] at after
        exact after
      case h_2 => cases stepped
  | close =>
    cases stepped
    exact consistent.congr rfl rfl rfl
  | stepTask jobId =>
    rcases Option.map_eq_some_iff.mp stepped with ⟨task, _, rfl⟩
    exact (taskEvent_consistent consistent jobId task).1
  | markRunning jobId =>
    rcases Option.map_eq_some_iff.mp stepped with ⟨task, _, rfl⟩
    exact (taskEvent_consistent consistent jobId task).2.1
  | cancelTask jobId =>
    rcases Option.map_eq_some_iff.mp stepped with ⟨task, _, rfl⟩
    exact (taskEvent_consistent consistent jobId task).2.2
  | executorReturned jobId result =>
    rcases Option.map_eq_some_iff.mp stepped with ⟨task, _, rfl⟩
    exact executorReturned_consistent consistent jobId task result
  | delivered jobId =>
    rcases Option.map_eq_some_iff.mp stepped with ⟨task, _, rfl⟩
    exact clearTask_consistent consistent jobId
  | beginDelete jobId =>
    simp only [step] at stepped
    cases deleted : manager.beginDelete jobId with
    | error error =>
      rw [deleted] at stepped
      cases stepped
      exact consistent
    | ok after =>
      rw [deleted] at stepped
      cases stepped
      exact beginDelete_consistent consistent deleted
  | purgeDelete deletion =>
    exact deletion_consistent consistent (.inl stepped)
  | finishDelete deletion =>
    exact deletion_consistent consistent (.inr (.inl stepped))
  | abortDelete deletion =>
    exact deletion_consistent consistent (.inr (.inr stepped))

theorem cronRuns_consistent (reached : (cronMachine zones).Reaches (KeepsSchedule zones) manager) :
    manager.Consistent := by
  refine reached.invariant ?_ ?_
  · rintro _ ⟨timezone, _, rfl⟩
    refine ⟨?_, rfl⟩
    rintro jobId job ⟨⟩
  · intro earlier event target _ consistent keeps stepped
    exact step_consistent consistent keeps stepped

/--
In every state of a run in which no pass and no rebuild met an expression
without a firing in the horizon, a pass at any moment returns, moves the
deadline of every due job, starts exactly the missing tasks and leaves the
snapshot of the jobs on disk, if and only if every due recurring job has a
firing in the horizon after its deadline and no due job is held back by a
task that was cancelled before it ran.
-/
theorem cronRuns_runDueSucceeds_iff
    {manager : CronManager}
    (reached : (cronMachine zones).Reaches (KeepsSchedule zones) manager)
    (moment now : Nat) :
    RunDueSucceeds zones manager moment now ↔
      DueJobsFire zones manager moment ∧ manager.NoEndedTask moment := by
  have consistent := cronRuns_consistent reached
  exact runDueSucceeds_iff consistent.keyed consistent.saved moment now

/-! ## A leap day -/

/-- A database with the one zone of UTC. -/
def onlyUtc : ZoneDatabase where
  known name := name == "UTC"
  localTime _ := utc

/-- The days from 0001-01-01 to 2028-02-29. -/
def leapDay : Nat := 740405

/-- The microseconds of a minute of that day, or of the day before. -/
def leapMoment (minutes : Nat) : Nat := (leapDay * 1440 + minutes - 1440) * minuteMicros

/-- A daily job on the leap day, and a reminder, set just before it. -/
def leapJobs : List CronEvent :=
  [.createJob ⟨"yearly", true, some "0 0 29 2 *", none, none⟩ "a" (leapMoment 1438),
    .createJob ⟨"once", false, none, some (.aware (leapMoment 1439)), none⟩ "b" (leapMoment 1438)]

/-- The expression of the leap day, parsed. -/
def leapSpec : CronSpec where
  minute := [0]
  hour := [0]
  dayOfMonth := [29]
  month := [2]
  dayOfWeek := [0, 1, 2, 3, 4, 5, 6, 0]
  dayOfMonthUnconstrained := false
  dayOfWeekUnconstrained := true

theorem leapSpec_matches
    {minute : Nat} (hit : leapSpec.matches (utc minute) = true) :
    minute % 1440 = 0 ∧ calendarDay (minute / 1440) = (2, 29) := by
  simp only [CronSpec.matches, leapSpec, utc, List.mem_singleton,
    Bool.false_and, Bool.false_eq_true, if_false, if_true] at hit
  split_ifs at hit with other
  rw [not_or, not_or, not_not, not_not, not_not] at other
  rw [decide_eq_true_iff] at hit
  exact ⟨by omega, Prod.ext other.2.2 hit⟩

theorem leapDay_not_firesWithinHorizon :
    ¬ FiresWithinHorizon "0 0 29 2 *" (leapMoment 1440) utc := by
  rintro ⟨spec, minute, parsed, low, high, hit⟩
  have expected : parseCron "0 0 29 2 *" = .ok leapSpec := by rfl
  rw [expected, Except.ok.injEq] at parsed
  subst spec
  have noLeapDay : ∀ later < 732,
      calendarDay (leapDay + 1 + later) ≠ (2, 29) := by
    decide +kernel
  have start : leapMoment 1440 / minuteMicros = leapDay * 1440 := by
    decide
  have horizon : searchHorizon = 732 * 1440 := by decide
  rw [start] at low high
  rw [horizon] at high
  rcases leapSpec_matches hit with ⟨whole, day⟩
  have later : leapDay + 1 + (minute / 1440 - (leapDay + 1)) =
      minute / 1440 := by omega
  refine noLeapDay (minute / 1440 - (leapDay + 1)) (by omega) ?_
  rw [later]
  exact day

/-- On the leap day the reminder is due and the yearly job stops the pass. -/
theorem leapDay_stops_runDue : ∃ manager,
      (cronMachine onlyUtc).run (.fresh "UTC") leapJobs = some manager ∧
        manager.Due (leapMoment 1440) "b" (leapMoment 1439) ∧
        ¬ RunDueSucceeds onlyUtc manager (leapMoment 1440) (leapMoment 1440) := by
  refine ⟨_, rfl, ⟨by decide, by decide, by decide, by decide⟩, ?_⟩
  intro succeeds
  have evaluated :
      (cronMachine onlyUtc).runGuarded (KeepsSchedule onlyUtc)
        (.fresh "UTC") leapJobs = some _ := rfl
  have consistent :=
    cronRuns_consistent (.runGuarded (.start ⟨"UTC", rfl, rfl⟩) evaluated)
  have fires :=
    (runDue_returns_iff consistent.keyed (leapMoment 1440) (leapMoment 1440)).mp succeeds.returns
  exact leapDay_not_firesWithinHorizon
    (fires ("a", leapMoment 1440) (by decide) (by decide) _ rfl (by decide))

/-- A job that fires every minute. -/
def everyMinute : List CronEvent :=
  [.createJob ⟨"often", true, some "* * * * *", none, none⟩ "a" (leapMoment 0),
    .runDue (leapMoment 1) (leapMoment 1), .stepTask "a", .markRunning "a",
    .executorReturned "a" ⟨true, "done", ⟨1, 1, 2⟩⟩, .delivered "a"]

/-- After its first firing such a job is taken by the next pass. -/
theorem everyMinute_runDueSucceeds : ∃ manager,
      (cronMachine onlyUtc).run (.fresh "UTC") everyMinute = some manager ∧
        manager.Due (leapMoment 2) "a" (leapMoment 2) ∧
        RunDueSucceeds onlyUtc manager (leapMoment 2) (leapMoment 2) := by
  refine ⟨_, rfl, ⟨by decide, by decide, by decide, by decide⟩, ?_⟩
  have evaluated :
      (cronMachine onlyUtc).runGuarded (KeepsSchedule onlyUtc)
        (.fresh "UTC") everyMinute = some _ := rfl
  refine (cronRuns_runDueSucceeds_iff (.runGuarded (.start ⟨"UTC", rfl, rfl⟩) evaluated) _ _).mpr
      ⟨by decide, ?_⟩
  intro jobId scheduledAt due held
  have noTask : Dict.contains (Dict.empty : Dict String CronTask) jobId =
      true := held
  cases noTask

end CronManager
end TurningGood.Proactive
