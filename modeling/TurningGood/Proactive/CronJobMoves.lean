import TurningGood.Proactive.CronSnapshot

/-!
# What one event does to one job

The manager keeps what belongs to a job in several maps.  A view collects all
of it for one id, and every event other than a rebuild of the index is a move
of each view.  The moves say everything that the event can do to the job, so
that an invariant about jobs is a case split over them.
-/

namespace TurningGood.Proactive

open TurningGood.Foundation

/-! ## Views and moves -/

/-- What a manager holds under one job id. -/
@[ext]
structure JobView where
  job : Option CronJob
  fire : Option Nat
  task : Option CronTask
  deleting : Bool
  running : Bool
  used : Bool

/-- A first deadline, computed or given at `now`, and the plan it is kept in. -/
def FirstPlan (timezone : Timezone) (now deadline : Nat) : CronPlan → Prop
  | .recurring cron nextRunAt =>
    nextCronFire cron.val now timezone = .ok deadline ∧ nextRunAt = wholeSeconds deadline
  | .oneShot nextRunAt =>
    now < deadline ∧ nextRunAt = some (wholeSeconds deadline)

/-- The plan and the deadline of a job behind a consumed deadline. -/
def NextPlan (timezone : Timezone) (scheduledAt : Nat) : CronPlan → CronPlan → Option Nat → Prop
  | .recurring cron _, plan, fire =>
    ∃ deadline, nextCronFire cron.val scheduledAt timezone = .ok deadline ∧
        plan = .recurring cron (wholeSeconds deadline) ∧
        fire = some deadline
  | .oneShot _, plan, fire => plan = .oneShot none ∧ fire = none

/-- A task before its first step, for a job of the given kind. -/
structure CronTask.IsNew (task : CronTask) (job : CronJob) : Prop where
  stage : task.stage = .created
  oneShot : task.oneShot = !job.recurring

/-- The event is a step of the task of a job. -/
def CronEvent.OfTask (jobId : String) : CronEvent → Prop
  | .stepTask taskId | .markRunning taskId | .cancelTask taskId
  | .executorReturned taskId _ | .delivered taskId => taskId = jobId
  | _ => False

/-- What an event can do to the job with the id `jobId`. -/
inductive JobMove (timezone : Timezone) (jobId : String) :
    CronEvent → JobView → JobView → Prop where
  | stay (event : CronEvent) (view : JobView) :
      JobMove timezone jobId event view view
  | create
      {request : JobRequest} {now deadline : Nat} {view : JobView}
      {job : CronJob}
      (unused : view.used = false)
      (named : job.id = jobId)
      (planned : FirstPlan timezone now deadline job.plan) :
      JobMove timezone jobId (.createJob request jobId now) view
        { view with job := some job, fire := some deadline, used := true }
  | forget
      {moment now : Nat} {view : JobView} (missing : view.job = none) :
      JobMove timezone jobId (.runDue moment now) view
        { view with fire := none }
  | advance
      {moment now scheduledAt : Nat} {view : JobView}
      {job updated : CronJob} {fire : Option Nat} {task : CronTask}
      (present : view.job = some job)
      (kept : view.deleting = false)
      (due : view.fire = some scheduledAt)
      (early : scheduledAt ≤ moment)
      (sameId : updated.id = job.id)
      (next : NextPlan timezone scheduledAt job.plan updated.plan fire)
      (given : view.task = some task ∨ view.task = none ∧ task.IsNew job) :
      JobMove timezone jobId (.runDue moment now) view
        { view with job := some updated, fire := fire, task := some task }
  | callExecutor
      {view : JobView} {task : CronTask}
      (present : view.job.isSome = true)
      (found : view.task = some task) (stage : task.stage = .created) :
      JobMove timezone jobId (.stepTask jobId) view
        { view with task := some { task with stage := .waiting } }
  | run
      {view : JobView} {task : CronTask}
      (present : view.job.isSome = true) (kept : view.deleting = false)
      (found : view.task = some task) (stage : task.stage = .waiting) :
      JobMove timezone jobId (.markRunning jobId) view
        { view with
          task := some { task with stage := .running }, running := true }
  | endUnstarted
      {view : JobView} {task : CronTask}
      (found : view.task = some task) (stage : task.stage = .created) :
      JobMove timezone jobId (.cancelTask jobId) view
        { view with task := some { task with stage := .ended } }
  | requestCancel {view : JobView} {task : CronTask}
      (found : view.task = some task) :
      JobMove timezone jobId .close view
        { view with task := some task.cancel }
  | clear
      {event : CronEvent} {view : JobView} (ofTask : event.OfTask jobId)
      (free : ∀ job, view.job = some job → job.recurring = false → view.deleting = true ∨
            ∃ task, view.task = some task ∧ task.stage = .delivering) :
      JobMove timezone jobId event view
        { view with task := none, running := false }
  | cancelOneShot
      {event : CronEvent} {view : JobView} (ofTask : event.OfTask jobId) :
      JobMove timezone jobId event view
        { view with
          job := none, fire := none, task := none, running := false }
  | settleRecurring
      {result : ExecutionResult} {view : JobView} {job : CronJob}
      {task : CronTask}
      (present : view.job = some job) (recurring : job.recurring = true)
      (found : view.task = some task) :
      JobMove timezone jobId (.executorReturned jobId result) view
        { view with task := some { task with stage := .delivering } }
  | settleOneShot
      {result : ExecutionResult} {view : JobView} {job : CronJob}
      {task : CronTask}
      (present : view.job = some job) (oneShot : job.recurring = false)
      (found : view.task = some task) :
      JobMove timezone jobId (.executorReturned jobId result) view
        { view with
          job := none, fire := none,
          task := some { task with stage := .delivering } }
  | beginDelete {view : JobView}
      (present : view.job.isSome = true) :
      JobMove timezone jobId (.beginDelete jobId) view
        { view with
          deleting := true, task := view.task.map CronTask.cancel }
  | finishDelete {deletion : Deletion} {view : JobView}
      (named : deletion.jobId = jobId) :
      JobMove timezone jobId (.finishDelete deletion) view
        { view with
          job := none, fire := none, task := none
          running := false, deleting := false }
  | abortDelete {deletion : Deletion} {view : JobView}
      (named : deletion.jobId = jobId) :
      JobMove timezone jobId (.abortDelete deletion) view
        { view with deleting := false }

namespace CronManager

variable {zones : ZoneDatabase}

variable {manager target : CronManager} {now moment : Nat} {jobId : String}
  {request : JobRequest} {event : CronEvent} {deletion : Deletion}

/-- What the manager holds under an id. -/
def view (manager : CronManager) (jobId : String) : JobView where
  job := manager.jobs.get? jobId
  fire := manager.nextFire.get? jobId
  task := manager.tasks.get? jobId
  deleting := manager.deleting.contains jobId
  running := manager.runningIds.contains jobId
  used := manager.usedIds.contains jobId

@[simp]
theorem view_saveState (manager : CronManager) (jobId : String) :
    manager.saveState.view jobId = manager.view jobId := rfl

theorem view_indexFire (manager : CronManager) (jobId other : String) (moment : Nat) :
    (manager.indexFire jobId moment).view other =
      if other = jobId then
        { manager.view other with fire := some moment }
      else
        manager.view other := by
  split_ifs with same
  · ext1 <;> simp [view, indexFire, same]
  · ext1 <;> simp [view, indexFire, Dict.get?_insert_of_ne _ _ same]

theorem view_dropFire (manager : CronManager) (jobId other : String) :
    (manager.dropFire jobId).view other =
      if other = jobId then { manager.view other with fire := none }
      else manager.view other := by
  split_ifs with same
  · ext1 <;> simp [view, dropFire, same]
  · ext1 <;> simp [view, dropFire, Dict.get?_erase_of_ne _ same]

theorem view_dropJob (manager : CronManager) (jobId other : String) :
    (manager.dropJob jobId).view other =
      if other = jobId then { manager.view other with job := none }
      else manager.view other := by
  split_ifs with same
  · ext1 <;> simp [view, dropJob, same]
  · ext1 <;> simp [view, dropJob, Dict.get?_erase_of_ne _ same]

theorem view_setStage (manager : CronManager) (jobId other : String) (task : CronTask)
    (stage : TaskStage) :
    (manager.setStage jobId task stage).view other =
      if other = jobId then
        { manager.view other with task := some { task with stage := stage } }
      else
        manager.view other := by
  split_ifs with same
  · ext1 <;> simp [view, setStage, same]
  · ext1 <;> simp [view, setStage, Dict.get?_insert_of_ne _ _ same]

theorem view_startTask (manager : CronManager) (jobId other : String) (job : CronJob)
    (scheduledAt : Nat) :
    (manager.startTask jobId job scheduledAt).view other =
      if other = jobId then
        { manager.view other with
          task := some (manager.newTask job scheduledAt) }
      else
        manager.view other := by
  split_ifs with same
  · ext1 <;> simp [view, startTask, same]
  · ext1 <;> simp [view, startTask, Dict.get?_insert_of_ne _ _ same]

theorem view_clearTask (manager : CronManager) (jobId other : String) :
    (manager.clearTask jobId).view other =
      if other = jobId then
        { manager.view other with task := none, running := false }
      else
        manager.view other := by
  split_ifs with same
  · ext1 <;> simp [view, clearTask, same]
  · ext1 <;> simp [view, clearTask, Dict.get?_erase_of_ne _ same, same]

@[simp]
theorem view_addUsage (manager : CronManager) (task : CronTask) (result : ExecutionResult)
    (jobId : String) :
    (manager.addUsage task result).view jobId = manager.view jobId :=
  rfl

@[simp]
theorem view_announce (manager : CronManager) (task : CronTask) (result : ExecutionResult)
    (jobId : String) :
    (manager.announce task result).view jobId = manager.view jobId :=
  rfl

variable {job : CronJob}

theorem view_replaceJob {nextRunAt : Option Nat}
    (replaced : manager.replaceJob job nextRunAt now = .ok target) :
    ∃ updated, job.plan.withNextRunAt nextRunAt = .ok updated.plan ∧ updated.id = job.id ∧
        ∀ other, target.view other =
            if other = job.id then
              { manager.view other with job := some updated }
            else
              manager.view other := by
  unfold replaceJob at replaced
  cases planned : job.plan.withNextRunAt nextRunAt with
  | error error =>
    rw [planned] at replaced
    cases replaced
  | ok plan =>
    rw [planned] at replaced
    cases replaced
    refine ⟨{ job with plan := plan, updatedAt := now }, rfl, rfl, ?_⟩
    intro other
    split_ifs with same
    · ext1 <;> simp [view, same]
    · ext1 <;> simp [view, Dict.get?_insert_of_ne _ _ same]

theorem view_advanceDeadline {scheduledAt : Nat} (advanced :
      manager.advanceDeadline zones job scheduledAt now = .ok target) :
    ∃ updated fire, NextPlan (zones.localTime manager.timezone) scheduledAt job.plan
          updated.plan fire ∧
        updated.id = job.id ∧
        ∀ other, target.view other =
            if other = job.id then
              { manager.view other with job := some updated, fire := fire }
            else
              manager.view other := by
  unfold advanceDeadline at advanced
  cases planned : job.plan with
  | recurring cron nextRunAt =>
    have recurring : job.recurring = true := by
      rw [CronJob.recurring, planned]
      rfl
    rw [if_pos recurring] at advanced
    cases search : nextJobFire job scheduledAt (zones.localTime manager.timezone) with
    | error error =>
      rw [search] at advanced
      cases advanced
    | ok fire =>
      have found := search
      unfold nextJobFire at found
      rw [planned] at found
      rcases eq_ok_of_map found with ⟨deadline, next, rfl⟩
      rw [search] at advanced
      rcases view_replaceJob advanced with ⟨updated, replaced, sameId, views⟩
      rw [planned] at replaced
      refine ⟨updated, some deadline, ⟨deadline, next, ?_, rfl⟩, sameId, ?_⟩
      · exact (Except.ok.inj replaced).symm
      · intro other
        rw [views other, view_indexFire]
        split_ifs <;> rfl
  | oneShot nextRunAt =>
    have once : ¬ job.recurring = true := by
      rw [CronJob.recurring, planned]
      exact Bool.false_ne_true
    rw [if_neg once] at advanced
    rcases view_replaceJob advanced with ⟨updated, replaced, sameId, views⟩
    rw [planned] at replaced
    refine ⟨updated, none, ⟨(Except.ok.inj replaced).symm, rfl⟩, sameId, ?_⟩
    intro other
    rw [views other, view_dropFire]
    split_ifs <;> rfl

theorem view_runDueEntry {run next : DueRun} {entry : Nat × String} (keyed : run.manager.Keyed)
    (due : run.manager.nextFire.get? entry.2 = some entry.1)
    (early : entry.1 ≤ moment)
    (taken : runDueEntry zones now run entry = .ok next) :
    JobMove (zones.localTime run.manager.timezone) entry.2
        (.runDue moment now) (run.manager.view entry.2)
        (next.manager.view entry.2) ∧
      ∀ other, other ≠ entry.2 →
        next.manager.view other = run.manager.view other := by
  unfold runDueEntry at taken
  cases found : run.manager.jobs.get? entry.2 with
  | none =>
    rw [found] at taken
    cases taken
    refine ⟨?_, fun other different => ?_⟩
    · rw [view_dropFire, if_pos rfl]
      exact .forget found
    · rw [view_dropFire, if_neg different]
  | some job =>
    have sameId := keyed _ _ found
    rw [found] at taken
    dsimp only at taken
    split_ifs at taken with deleting
    · cases taken
      exact ⟨.stay _ _, fun _ _ => rfl⟩
    · have kept : (run.manager.view entry.2).deleting = false := by
        simpa [view] using deleting
      cases advance : run.manager.advanceDeadline zones job entry.1 now with
      | error error =>
        rw [advance] at taken
        cases taken
      | ok target =>
        rcases view_advanceDeadline advance with ⟨updated, fire, next, sameJob, views⟩
        rw [sameId] at views
        have tasks : target.tasks = run.manager.tasks :=
          (advanceDeadline_advanced advance).self.2.1
        rw [advance] at taken
        simp only [bind, Except.bind] at taken
        split_ifs at taken with live
        · cases taken
          rw [Dict.contains_iff, tasks] at live
          rcases live with ⟨task, held⟩
          refine ⟨?_, fun other different => ?_⟩
          · rw [views, if_pos rfl]
            have moved :
                JobMove (zones.localTime run.manager.timezone) entry.2
                  (.runDue moment now) (run.manager.view entry.2)
                  { run.manager.view entry.2 with
                    job := some updated, fire := fire,
                    task := some task } :=
              .advance found kept due early sameJob next (.inl held)
            rw [← held] at moved
            exact moved
          · rw [views, if_neg different]
        · cases taken
          rw [Dict.contains, tasks, Option.not_isSome_iff_eq_none] at live
          refine ⟨?_, fun other different => ?_⟩
          · rw [view_startTask, if_pos rfl, views, if_pos rfl]
            exact .advance found kept due early sameJob next (.inr ⟨live, rfl, rfl⟩)
          · rw [view_startTask, if_neg different, views, if_neg different]

theorem view_runDueLoop {entries : List (Nat × String)} {run final : DueRun}
    {result : Except String Unit} (keyed : run.manager.Keyed)
    (distinct : (entries.map Prod.snd).Nodup) (due : ∀ entry ∈ entries,
        run.manager.nextFire.get? entry.2 = some entry.1 ∧ entry.1 ≤ moment)
    (loop : runDueLoop zones now entries run = (final, result)) :
    final.manager.Keyed ∧ (∀ jobId, JobMove (zones.localTime run.manager.timezone) jobId
          (.runDue moment now) (run.manager.view jobId)
          (final.manager.view jobId)) ∧
      ∀ other, other ∉ entries.map Prod.snd →
        final.manager.view other = run.manager.view other := by
  induction entries generalizing run with
  | nil =>
    cases loop
    exact ⟨keyed, fun _ => .stay _ _, fun _ _ => rfl⟩
  | cons entry rest induction =>
    simp only [runDueLoop] at loop
    cases taken : runDueEntry zones now run entry with
    | error error =>
      rw [taken] at loop
      cases loop
      exact ⟨keyed, fun _ => .stay _ _, fun _ _ => rfl⟩
    | ok next =>
      rw [taken] at loop
      rw [List.map_cons, List.nodup_cons] at distinct
      rcases due entry List.mem_cons_self with ⟨indexed, early⟩
      rcases view_runDueEntry keyed indexed early taken with ⟨moved, others⟩
      have effect := runDueEntry_effect keyed taken
      have later := induction effect.2.2.2 distinct.2
        (by
          intro item member
          have different : item.2 ≠ entry.2 := by
            intro same
            exact distinct.1 (same ▸ List.mem_map_of_mem member)
          rw [(effect.2.1 item.2 different).fire]
          exact due item (List.mem_cons_of_mem entry member))
        loop
      rw [effect.2.2.1.timezone] at later
      refine ⟨later.1, ?_, ?_⟩
      · intro jobId
        by_cases same : jobId = entry.2
        · subst same
          rw [later.2.2 entry.2 distinct.1]
          exact moved
        · rw [← others jobId same]
          exact later.2.1 jobId
      · intro other absent
        rw [List.map_cons, List.mem_cons, not_or] at absent
        rw [later.2.2 other absent.2, others other absent.1]

variable (zones) in
/-- A pass moves every view once at most, also when it raises. -/
theorem view_runDue
    {manager : CronManager} (keyed : manager.Keyed) (moment now : Nat) :
    (manager.runDue zones moment now).1.Keyed ∧ ∀ jobId,
        JobMove (zones.localTime manager.timezone) jobId (.runDue moment now) (manager.view jobId)
          ((manager.runDue zones moment now).1.view jobId) := by
  rcases loop : runDueLoop zones now (manager.dueEntries moment) ⟨manager, 0, false⟩
    with ⟨final, result⟩
  have due : ∀ entry ∈ manager.dueEntries moment,
      manager.nextFire.get? entry.2 = some entry.1 ∧ entry.1 ≤ moment :=
    fun entry member => mem_dueEntries_iff.mp member
  have effect :=
    view_runDueLoop keyed (dueEntries_distinct manager moment) due loop
  cases result with
  | ok done =>
    rw [runDue_of_finished loop]
    dsimp only
    split_ifs
    · exact ⟨effect.1, effect.2.1⟩
    · exact ⟨effect.1, effect.2.1⟩
  | error error =>
    rw [runDue_of_stopped loop]
    exact ⟨effect.1, effect.2.1⟩

theorem runDue_move_cases {timezone : Timezone} {before after : JobView}
    (moved : JobMove timezone jobId (.runDue moment now) before after) :
    after.job = before.job ∧ (after.fire = before.fire ∨ before.job = none) ∨
      ∃ scheduledAt job updated fire, before.job = some job ∧ before.fire = some scheduledAt ∧
          NextPlan timezone scheduledAt job.plan updated.plan fire ∧
          scheduledAt ≤ moment ∧ before.deleting = false ∧
          after.job = some updated ∧ after.fire = fire := by
  cases moved with
  | stay => exact .inl ⟨rfl, .inl rfl⟩
  | forget missing => exact .inl ⟨rfl, .inr missing⟩
  | advance present kept due early sameId next given =>
    exact .inr ⟨_, _, _, _, present, due, next, early, kept, rfl, rfl⟩
  | clear ofTask => exact ofTask.elim
  | cancelOneShot ofTask => exact ofTask.elim

theorem firstDeadline_firstPlan {deadline : Nat}
    (first : manager.firstDeadline zones request now = .ok deadline)
    (requested : requestedJob request jobId deadline now = .ok job) :
    FirstPlan (zones.localTime manager.timezone) now deadline job.plan ∧
      job.id = jobId := by
  unfold requestedJob at requested
  cases planned : CronPlan.make request.recurring request.cron (some deadline) with
  | error error =>
    rw [planned] at requested
    cases requested
  | ok plan =>
    rw [planned] at requested
    cases requested
    refine ⟨?_, rfl⟩
    unfold firstDeadline at first
    unfold CronPlan.make at planned
    cases recurring : request.recurring with
    | true =>
      simp only [recurring, if_true] at first planned
      cases given : request.cron with
      | none =>
        rw [given] at first
        cases first
      | some cron =>
        simp only [given] at first planned
        split at first
        · cases first
        · split_ifs at first planned
          cases planned
          refine ⟨?_, rfl⟩
          rw [nextCronFire_strip]
          exact first
    | false =>
      simp only [recurring, Bool.false_eq_true, if_false] at first planned
      split_ifs at planned
      cases planned
      split at first
      · cases first
      · cases first
      · cases first
      · split_ifs at first with late
        cases first
        exact ⟨Nat.lt_of_not_le late, rfl⟩

theorem createJob_eq_ok (created : manager.createJob zones request jobId now = .ok target) :
    ∃ deadline job, FirstPlan (zones.localTime manager.timezone) now deadline job.plan ∧
        job.id = jobId ∧
        target = (({ manager with
              jobs := manager.jobs.insert jobId job
              usedIds := jobId :: manager.usedIds } :
            CronManager).indexFire jobId deadline).saveState := by
  unfold createJob at created
  split_ifs at created
  cases first : manager.firstDeadline zones request now with
  | error error =>
    rw [first] at created
    cases created
  | ok deadline =>
    rw [first] at created
    cases requested : requestedJob request jobId deadline now with
    | error error =>
      simp only [bind, Except.bind, requested] at created
      cases created
    | ok job =>
      simp only [bind, Except.bind, requested] at created
      cases created
      have planned := firstDeadline_firstPlan first requested
      exact ⟨deadline, job, planned.1, planned.2, rfl⟩

theorem view_createJob (unused : jobId ∉ manager.usedIds)
    (created : manager.createJob zones request jobId now = .ok target)
    (other : String) :
    JobMove (zones.localTime manager.timezone) other
      (.createJob request jobId now) (manager.view other)
      (target.view other) := by
  rcases createJob_eq_ok created with ⟨deadline, job, planned, named, rfl⟩
  rw [view_saveState, view_indexFire]
  by_cases same : other = jobId
  · subst same
    have fresh : (manager.view other).used = false := by
      simpa [view] using unused
    have moved :
        JobMove (zones.localTime manager.timezone) other
          (.createJob request other now) (manager.view other)
          { manager.view other with
            job := some job, fire := some deadline, used := true } :=
      .create fresh named planned
    rw [if_pos rfl]
    convert moved using 1
    ext1 <;> simp [view]
  · rw [if_neg same]
    convert JobMove.stay _ (manager.view other) using 1
    ext1 <;> simp [view, Dict.get?_insert_of_ne _ _ same, same]

/-! ## The steps of a task -/

variable {timezone : Timezone}

theorem move_of_self (jobId : String) (self :
      JobMove timezone jobId event (manager.view jobId) (target.view jobId)) (others :
      ∀ other, other ≠ jobId → target.view other = manager.view other)
    (other : String) :
    JobMove timezone other event (manager.view other) (target.view other) := by
  by_cases same : other = jobId
  · subst same
    exact self
  · rw [others other same]
    exact .stay event _

theorem view_clearTask_of_ne (manager : CronManager) {other : String} (different : other ≠ jobId) :
    (manager.clearTask jobId).view other = manager.view other := by
  rw [view_clearTask, if_neg different]

theorem clearTask_move (manager : CronManager) (ofTask : event.OfTask jobId)
    (free : ∀ job, manager.jobs.get? jobId = some job → job.recurring = false →
        jobId ∈ manager.deleting ∨ ∃ task, manager.tasks.get? jobId = some task ∧
            task.stage = .delivering) (other : String) :
    JobMove timezone other event (manager.view other) ((manager.clearTask jobId).view other) := by
  refine move_of_self jobId ?_ (fun _ => view_clearTask_of_ne manager) other
  rw [view_clearTask, if_pos rfl]
  refine .clear ofTask fun job present oneShot => ?_
  rcases free job present oneShot with deleting | delivering
  · exact .inl (by simpa [view] using deleting)
  · exact .inr delivering

theorem cancelJob_clearTask_move (manager : CronManager)
    (ofTask : event.OfTask jobId) (other : String) :
    JobMove timezone other event (manager.view other)
      (((manager.cancelJob jobId).clearTask jobId).view other) := by
  unfold cancelJob
  split_ifs with deleting
  · exact clearTask_move manager ofTask (fun _ _ _ => .inl deleting) other
  · split
    case h_1 missing =>
      refine clearTask_move manager ofTask (fun job present => ?_) other
      rw [missing] at present
      cases present
    case h_2 job present =>
      split_ifs with recurring
      · refine clearTask_move manager ofTask (fun found other oneShot => ?_) _
        rw [present] at other
        cases other
        rw [recurring] at oneShot
        cases oneShot
      · refine move_of_self jobId ?_ (fun item different => ?_) other
        · rw [view_clearTask, if_pos rfl, view_saveState, view_dropFire,
            if_pos rfl, view_dropJob, if_pos rfl]
          exact .cancelOneShot ofTask
        · rw [view_clearTask_of_ne _ different, view_saveState,
            view_dropFire, if_neg different, view_dropJob,
            if_neg different]

theorem view_setStage_of_ne (manager : CronManager) {other : String}
    (task : CronTask) (stage : TaskStage) (different : other ≠ jobId) :
    (manager.setStage jobId task stage).view other = manager.view other := by
  rw [view_setStage, if_neg different]

variable {task : CronTask}

theorem stepTask_move (found : manager.tasks.get? jobId = some task)
    (stage : task.stage = .created) (other : String) :
    JobMove timezone other (.stepTask jobId) (manager.view other)
      ((manager.stepTask jobId task).view other) := by
  have ofTask : (CronEvent.stepTask jobId).OfTask jobId := rfl
  unfold stepTask
  split_ifs with present
  · refine move_of_self jobId ?_ (fun _ => view_setStage_of_ne manager task .waiting) other
    rw [view_setStage, if_pos rfl]
    exact .callExecutor present found stage
  · refine clearTask_move manager ofTask (fun job held => ?_) other
    rw [Dict.contains, held] at present
    exact absurd rfl present

theorem markRunning_move (found : manager.tasks.get? jobId = some task)
    (stage : task.stage = .waiting) (other : String) :
    JobMove timezone other (.markRunning jobId) (manager.view other)
      ((manager.markRunning jobId task).view other) := by
  have ofTask : (CronEvent.markRunning jobId).OfTask jobId := rfl
  unfold markRunning
  split_ifs with gone
  · exact cancelJob_clearTask_move manager ofTask other
  · rw [not_or, Bool.not_eq_false] at gone
    have kept : (manager.view jobId).deleting = false := by
      simpa [view] using gone.1
    refine move_of_self jobId ?_ (fun item different => ?_) other
    · have moved :
          JobMove timezone jobId (.markRunning jobId) (manager.view jobId)
            { manager.view jobId with
              task := some { task with stage := .running },
              running := true } :=
        .run gone.2 kept found stage
      convert moved using 1
      ext1 <;> simp [view, setStage]
    · ext1 <;> simp [view, setStage, Dict.get?_insert_of_ne _ _ different, different]

theorem cancelTask_move (found : manager.tasks.get? jobId = some task) (other : String) :
    JobMove timezone other (.cancelTask jobId) (manager.view other)
      ((manager.cancelTask jobId task).view other) := by
  have ofTask : (CronEvent.cancelTask jobId).OfTask jobId := rfl
  unfold cancelTask
  split_ifs with created
  · refine move_of_self jobId ?_ (fun _ => view_setStage_of_ne manager task .ended) other
    rw [view_setStage, if_pos rfl]
    exact .endUnstarted found created
  · exact cancelJob_clearTask_move manager ofTask other

theorem view_settleJob (manager : CronManager) (jobId other : String) (task : CronTask)
    (result : ExecutionResult) (job : CronJob) :
    (manager.settleJob jobId task result job).view other =
      if other = jobId then
        if job.recurring then
          { manager.view other with
            task := some { task with stage := .delivering } }
        else
          { manager.view other with
            job := none, fire := none,
            task := some { task with stage := .delivering } }
      else
        manager.view other := by
  unfold settleJob retireJob
  rw [view_setStage, view_announce, view_saveState]
  split_ifs with same recurring recurring
  · rw [view_addUsage]
  · rw [view_dropFire, if_pos same, view_dropJob, if_pos same, view_addUsage]
  · rw [view_addUsage]
  · rw [view_dropFire, if_neg same, view_dropJob, if_neg same, view_addUsage]

theorem executorReturned_move (result : ExecutionResult)
    (found : manager.tasks.get? jobId = some task) (other : String) :
    JobMove timezone other (.executorReturned jobId result) (manager.view other)
      ((manager.executorReturned jobId task result).view other) := by
  have ofTask : (CronEvent.executorReturned jobId result).OfTask jobId := rfl
  have recorded :
      (manager.recordReturn task result).view = manager.view := rfl
  unfold executorReturned finishJob
  split_ifs with deleting
  · exact clearTask_move (manager.recordReturn task result) ofTask
      (fun _ _ _ => .inl deleting) other
  · split
    case h_1 missing =>
      refine clearTask_move (manager.recordReturn task result) ofTask (fun job present => ?_) other
      rw [missing] at present
      cases present
    case h_2 job present =>
      have held : (manager.view jobId).job = some job := present
      refine move_of_self jobId ?_ (fun item different => ?_) other
      · rw [view_settleJob, if_pos rfl, recorded]
        split_ifs with recurring
        · exact .settleRecurring held recurring found
        · exact .settleOneShot held (eq_false_of_ne_true recurring) found
      · rw [view_settleJob, if_neg different, recorded]

theorem delivered_move (found : manager.tasks.get? jobId = some task)
    (stage : task.stage = .delivering) (other : String) :
    JobMove timezone other (.delivered jobId) (manager.view other)
      ((manager.clearTask jobId).view other) := by
  have ofTask : (CronEvent.delivered jobId).OfTask jobId := rfl
  exact clearTask_move manager ofTask (fun _ _ _ => .inr ⟨task, found, stage⟩) other

theorem close_tasks (manager : CronManager) (jobId : String) :
    manager.close.tasks.get? jobId = (manager.tasks.get? jobId).map CronTask.cancel :=
  Dict.get?_mapValues manager.tasks CronTask.cancel jobId

theorem close_move (manager : CronManager) (jobId : String) :
    JobMove timezone jobId .close (manager.view jobId) (manager.close.view jobId) := by
  have closed := close_tasks manager jobId
  cases found : manager.tasks.get? jobId with
  | none =>
    rw [found] at closed
    convert JobMove.stay _ (manager.view jobId) using 1
    ext1
    · rfl
    · rfl
    · exact closed.trans found.symm
    · rfl
    · rfl
    · rfl
  | some task =>
    rw [found] at closed
    have moved :
        JobMove timezone jobId .close (manager.view jobId)
          { manager.view jobId with task := some task.cancel } :=
      .requestCancel found
    convert moved using 1
    ext1
    · rfl
    · rfl
    · exact closed
    · rfl
    · rfl
    · rfl

theorem get?_cancelTask (tasks : Dict String CronTask) (jobId item : String) :
    (match tasks.get? jobId with
      | some task => tasks.insert jobId task.cancel
      | none => tasks).get? item =
        if item = jobId then (tasks.get? jobId).map CronTask.cancel
        else tasks.get? item := by
  cases found : tasks.get? jobId with
  | none =>
    split_ifs with same
    · rw [same]
      exact found
    · rfl
  | some task =>
    dsimp only
    rw [Dict.get?_insert]
    rfl

theorem view_beginDelete (deleted : manager.beginDelete jobId = .ok target) (other : String) :
    JobMove timezone other (.beginDelete jobId) (manager.view other) (target.view other) := by
  unfold beginDelete at deleted
  split_ifs at deleted with present
  cases deleted
  have tasks := get?_cancelTask manager.tasks jobId
  refine move_of_self jobId ?_ (fun item different => ?_) other
  · have moved :
        JobMove timezone jobId (.beginDelete jobId) (manager.view jobId)
          { manager.view jobId with
            deleting := true,
            task := (manager.view jobId).task.map CronTask.cancel } :=
      .beginDelete present
    convert moved using 1
    ext1
    · rfl
    · rfl
    · exact (tasks jobId).trans (if_pos rfl)
    · simp [view]
    · rfl
    · rfl
  · ext1
    · rfl
    · rfl
    · exact (tasks item).trans (if_neg different)
    · simp [view, different]
    · rfl
    · rfl

theorem view_purgeDelete (purged : manager.purgeDelete deletion = some target)
    (jobId : String) : target.view jobId = manager.view jobId := by
  unfold purgeDelete at purged
  split_ifs at purged
  cases purged
  rfl

theorem view_finishDelete
    (finished : manager.finishDelete deletion = some target) (other : String) :
    JobMove timezone other (.finishDelete deletion) (manager.view other) (target.view other) := by
  unfold finishDelete at finished
  split_ifs at finished
  cases finished
  refine move_of_self deletion.jobId ?_ (fun item different => ?_) other
  · have moved :
        JobMove timezone deletion.jobId (.finishDelete deletion) (manager.view deletion.jobId)
          { manager.view deletion.jobId with
            job := none, fire := none, task := none
            running := false, deleting := false } :=
      .finishDelete rfl
    convert moved using 1
    ext1 <;> simp [view, saveState, dropJob, dropFire]
  · ext1 <;> simp [view, saveState, dropJob, dropFire, Dict.get?_erase_of_ne _ different, different]

theorem view_abortDelete (aborted : manager.abortDelete deletion = some target) (other : String) :
    JobMove timezone other (.abortDelete deletion) (manager.view other) (target.view other) := by
  unfold abortDelete at aborted
  split_ifs at aborted
  cases aborted
  refine move_of_self deletion.jobId ?_ (fun item different => ?_) other
  · have moved :
        JobMove timezone deletion.jobId (.abortDelete deletion) (manager.view deletion.jobId)
          { manager.view deletion.jobId with deleting := false } :=
      .abortDelete rfl
    convert moved using 1
    ext1 <;> simp [view]
  · ext1 <;> simp [view, different]

/-- The events that rebuild the index of the deadlines. -/
def Rebuilds : CronEvent → Prop
  | .updateTimezone _ _ | .initializeSchedule _ | .reload _ => True
  | _ => False

theorem step_move (keyed : manager.Keyed) (ordinary : ¬ Rebuilds event)
    (stepped : manager.step zones event = some target) (jobId : String) :
    JobMove (zones.localTime manager.timezone) jobId event
      (manager.view jobId) (target.view jobId) := by
  cases event with
  | createJob request newId now =>
    simp only [step] at stepped
    split_ifs at stepped with unused
    cases created : manager.createJob zones request newId now with
    | error error =>
      rw [created] at stepped
      cases stepped
      exact .stay _ _
    | ok after =>
      rw [created] at stepped
      cases stepped
      exact view_createJob unused created jobId
  | runDue moment now =>
    cases stepped
    exact (view_runDue zones keyed moment now).2 jobId
  | updateTimezone name now => exact absurd trivial ordinary
  | initializeSchedule now => exact absurd trivial ordinary
  | reload now => exact absurd trivial ordinary
  | close =>
    cases stepped
    exact close_move manager jobId
  | stepTask taskId =>
    rcases Option.map_eq_some_iff.mp stepped with ⟨task, found, rfl⟩
    rcases taskAt_eq_some found with ⟨present, stage⟩
    exact stepTask_move present (List.mem_singleton.mp stage) jobId
  | markRunning taskId =>
    rcases Option.map_eq_some_iff.mp stepped with ⟨task, found, rfl⟩
    rcases taskAt_eq_some found with ⟨present, stage⟩
    exact markRunning_move present (List.mem_singleton.mp stage) jobId
  | cancelTask taskId =>
    rcases Option.map_eq_some_iff.mp stepped with ⟨task, found, rfl⟩
    exact cancelTask_move (taskAt_eq_some found).1 jobId
  | executorReturned taskId result =>
    rcases Option.map_eq_some_iff.mp stepped with ⟨task, found, rfl⟩
    exact executorReturned_move result (taskAt_eq_some found).1 jobId
  | delivered taskId =>
    rcases Option.map_eq_some_iff.mp stepped with ⟨task, found, rfl⟩
    rcases taskAt_eq_some found with ⟨present, stage⟩
    exact delivered_move present (List.mem_singleton.mp stage) jobId
  | beginDelete deletedId =>
    simp only [step] at stepped
    cases deleted : manager.beginDelete deletedId with
    | error error =>
      rw [deleted] at stepped
      cases stepped
      exact .stay _ _
    | ok after =>
      rw [deleted] at stepped
      cases stepped
      exact view_beginDelete deleted jobId
  | purgeDelete deletion =>
    rw [view_purgeDelete stepped jobId]
    exact .stay _ _
  | finishDelete deletion => exact view_finishDelete stepped jobId
  | abortDelete deletion => exact view_abortDelete stepped jobId

theorem keyed_of_move {before after : JobView} (moved : JobMove timezone jobId event before after)
    (keyed : ∀ job, before.job = some job → job.id = jobId) :
    ∀ job, after.job = some job → job.id = jobId := by
  intro job present
  cases moved with
  | create _ named _ =>
    cases present
    exact named
  | advance held _ _ _ sameId _ _ =>
    cases present
    rw [sameId]
    exact keyed _ held
  | cancelOneShot => cases present
  | settleOneShot => cases present
  | finishDelete => cases present
  | stay | forget | callExecutor | run | endUnstarted | requestCancel | clear
  | settleRecurring | beginDelete | abortDelete => exact keyed job present

theorem step_keyed (keyed : manager.Keyed)
    (stepped : manager.step zones event = some target) : target.Keyed := by
  by_cases ordinary : Rebuilds event
  · cases event with
    | updateTimezone name now =>
      simp only [step, updateTimezone] at stepped
      split_ifs at stepped
      · cases stepped
        have renamed :
            ({ manager with timezone := name } : CronManager).Keyed :=
          keyed
        exact (rebuildDeadlines_effect rfl).2.1 renamed
      · cases stepped
        exact keyed
    | initializeSchedule now =>
      simp only [step, initializeSchedule] at stepped
      cases loads : manager.loadState with
      | error error =>
        rw [loads] at stepped
        cases stepped
        exact keyed
      | ok loaded =>
        rw [loads] at stepped
        cases stepped
        exact (rebuildDeadlines_effect rfl).2.1 (loadState_effect loads).2.1
    | reload now =>
      simp only [step, reload] at stepped
      cases loads : manager.loadState with
      | error error =>
        rw [loads] at stepped
        cases stepped
      | ok loaded =>
        rw [loads] at stepped
        dsimp only at stepped
        split at stepped
        case h_1 rebuilt equal =>
          cases stepped
          have fresh :
              ({ loaded with
                  tasks := Dict.empty
                  runningIds := []
                  deleting := []
                  deletions := [] } : CronManager).Keyed :=
            (loadState_effect loads).2.1
          exact (rebuildDeadlines_effect equal).2.1 fresh
        case h_2 => cases stepped
    | _ => exact ordinary.elim
  · intro jobId job present
    exact keyed_of_move (step_move keyed ordinary stepped jobId)
      (fun held found => keyed jobId held found) job present

theorem cronRuns_keyed {guard : CronManager → CronEvent → Prop}
    (reached : (cronMachine zones).Reaches guard manager) : manager.Keyed := by
  refine reached.invariant ?_ ?_
  · rintro _ ⟨timezone, _, rfl⟩ jobId job ⟨⟩
  · intro earlier event target _ keyed _ stepped
    exact step_keyed keyed stepped

end CronManager
end TurningGood.Proactive
