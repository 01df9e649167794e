import TurningGood.Foundation.Dict
import TurningGood.Foundation.Machine
import TurningGood.Foundation.Positions
import TurningGood.Proactive.Scheduler

/-!
# The cron manager

The manager holds the jobs, the index of their next firings, the tasks that
execute them, and the snapshot on disk.  Its lock protects sections without
an await, so each of these sections is one step.  A task is created before
it runs, calls the executor, is marked as running when the executor has
capacity, and finishes the job when the executor returns.

The executions, and the executions that were accounted, published and
reported, are recorded beside the program's own state.
-/

namespace TurningGood.Proactive

open TurningGood.Foundation

/-! ## Jobs -/

/-- The model usage of one background run. -/
structure LLMUsage where
  inputTokens : Nat
  outputTokens : Nat
  totalTokens : Nat
  deriving DecidableEq, Repr

/-- `UsageTotals`. -/
structure UsageTotals where
  calls : Nat
  inputTokens : Nat
  outputTokens : Nat
  totalTokens : Nat
  deriving DecidableEq, Repr

/-- `UsageTotals.add` for one call with its own total. -/
def UsageTotals.add (totals : UsageTotals) (usage : LLMUsage) : UsageTotals where
  calls := totals.calls + 1
  inputTokens := totals.inputTokens + usage.inputTokens
  outputTokens := totals.outputTokens + usage.outputTokens
  totalTokens := totals.totalTokens + usage.totalTokens

/-- `ProactiveExecutionResult`. -/
structure ExecutionResult where
  success : Bool
  content : String
  usage : LLMUsage
  deriving DecidableEq, Repr

/-- A stripped expression that is not blank. -/
abbrev CronText :=
  { text : String // Text.strip text = text ∧ text ≠ "" }

/-- What a job is scheduled by; a recurring job always has a next run. -/
inductive CronPlan where
  | recurring (cron : CronText) (nextRunAt : Nat)
  | oneShot (nextRunAt : Option Nat)
  deriving DecidableEq

/-- `CronJob`. -/
structure CronJob where
  id : String
  createdAt : Nat
  prompt : String
  deliveryChannels : List String
  updatedAt : Nat
  plan : CronPlan
  deriving DecidableEq

/-- `isoformat(timespec="seconds")` drops the fraction of a second. -/
def wholeSeconds (moment : Nat) : Nat := moment / 1000000 * 1000000

namespace CronPlan

/-- `CronJob.__post_init__`: the plan of a job, or its error. -/
def make (recurring : Bool) (cron : Option String)
    (nextRunAt : Option Nat) : Except String CronPlan :=
  if recurring then
    match cron, nextRunAt with
    | some cron, some nextRunAt =>
      if nonblank : Text.strip cron ≠ "" then
        .ok (.recurring ⟨Text.strip cron, Text.strip_strip cron, nonblank⟩ (wholeSeconds nextRunAt))
      else
        .error "周期 Cron Job 必须设置 cron 与 next_run_at"
    | _, _ => .error "周期 Cron Job 必须设置 cron 与 next_run_at"
  else if cron ≠ none then
    .error "一次性 Cron Job 不能设置 cron"
  else
    .ok (.oneShot (nextRunAt.map wholeSeconds))

/-- `replace(job, next_run_at=...)` on the plan of a job. -/
def withNextRunAt : CronPlan → Option Nat → Except String CronPlan
  | .recurring cron _, some nextRunAt =>
    .ok (.recurring cron (wholeSeconds nextRunAt))
  | .recurring _ _, none =>
    .error "周期 Cron Job 必须设置 cron 与 next_run_at"
  | .oneShot _, nextRunAt => .ok (.oneShot (nextRunAt.map wholeSeconds))

/-- The field `recurring` of a job with this plan. -/
def isRecurring : CronPlan → Bool
  | .recurring _ _ => true
  | .oneShot _ => false

/-- The field `next_run_at` of a job with this plan. -/
def nextRunAt : CronPlan → Option Nat
  | .recurring _ nextRunAt => some nextRunAt
  | .oneShot nextRunAt => nextRunAt

theorem withNextRunAt_isRecurring
    {plan target : CronPlan} {nextRunAt : Option Nat}
    (replaced : plan.withNextRunAt nextRunAt = .ok target) :
    target.isRecurring = plan.isRecurring := by
  cases plan with
  | recurring cron old =>
    cases nextRunAt with
    | none => cases replaced
    | some moment =>
      cases replaced
      rfl
  | oneShot old =>
    cases replaced
    rfl

theorem withNextRunAt_isOk
    {plan : CronPlan} {nextRunAt : Option Nat}
    (possible : plan.isRecurring = true → nextRunAt ≠ none) :
    ∃ target, plan.withNextRunAt nextRunAt = .ok target := by
  cases plan with
  | recurring cron old =>
    cases nextRunAt with
    | none => exact absurd rfl (possible rfl)
    | some moment => exact ⟨_, rfl⟩
  | oneShot old => exact ⟨_, rfl⟩

end CronPlan

/-- The field `recurring`. -/
def CronJob.recurring (job : CronJob) : Bool := job.plan.isRecurring

/-- `next_job_fire`. -/
def nextJobFire (job : CronJob) (after : Nat) (timezone : Timezone) :
    Except String (Option Nat) :=
  match job.plan with
  | .recurring cron _ => some <$> nextCronFire cron.val after timezone
  | .oneShot none => .ok none
  | .oneShot (some scheduled) =>
    .ok (if after < scheduled then some scheduled else none)

/-- `list_jobs` orders the jobs by creation and then by id. -/
def CronJob.Before (left right : CronJob) : Prop :=
  Precedes (left.createdAt, left.id) (right.createdAt, right.id)

instance : DecidableRel CronJob.Before := fun _ _ => inferInstanceAs (Decidable (Precedes _ _))

instance : Std.Total CronJob.Before := ⟨fun left right =>
    (inferInstance : Std.Total Precedes).total
      (left.createdAt, left.id) (right.createdAt, right.id)⟩

instance : IsTrans CronJob CronJob.Before := ⟨fun left middle right =>
    (inferInstance : IsTrans (Nat × String) Precedes).trans
      (left.createdAt, left.id) (middle.createdAt, middle.id)
      (right.createdAt, right.id)⟩

/-- The argument `next_run_at` as `datetime.fromisoformat` reads it. -/
inductive IsoMoment where
  | malformed
  | naive
  | aware (moment : Nat)
  deriving DecidableEq, Repr

/-- The arguments of `create_job`. -/
structure JobRequest where
  prompt : String
  recurring : Bool
  cron : Option String
  nextRunAt : Option IsoMoment
  deliveryChannels : Option (List String)
  deriving DecidableEq, Repr

/-- The channels of a request, `all` if there are none. -/
def JobRequest.channels (request : JobRequest) : List String :=
  let given := request.deliveryChannels.getD []
  (if given = [] then ["all"] else given).map Text.strip

/-! ## The state of a manager -/

/-- Where the task of a job stands; `ended` was cancelled before it ran. -/
inductive TaskStage where
  | created
  | waiting
  | running
  | delivering
  | ended
  deriving DecidableEq, Repr

/-- An entry of `_tasks`, with the number of its execution. -/
structure CronTask where
  serial : Nat
  scheduledAt : Nat
  oneShot : Bool
  stage : TaskStage
  cancelRequested : Bool
  deriving DecidableEq, Repr

/-- Ask for the cancellation of a task. -/
def CronTask.cancel (task : CronTask) : CronTask :=
  { task with cancelRequested := true }

/-- The snapshot in `cron.json`. -/
structure CronFile where
  jobs : List CronJob
  usage : UsageTotals
  deriving DecidableEq

/-- A task that was created for a firing of a job. -/
structure Execution where
  jobId : String
  scheduledAt : Nat
  deriving DecidableEq, Repr

/-- An executor that returned, and whether its task had been cancelled. -/
structure ReturnedExecution where
  serial : Nat
  oneShot : Bool
  cancelRequested : Bool
  result : ExecutionResult
  deriving DecidableEq, Repr

/-- What has been done for the executions, which are numbered in order. -/
structure CronLog where
  started : List Execution
  returned : List ReturnedExecution
  accounted : List (Nat × LLMUsage)
  published : List Nat
  reported : List Nat
  deriving DecidableEq, Repr

/-- A call of `delete_job` in progress, with the task that it awaits. -/
structure Deletion where
  jobId : String
  awaited : Option Nat
  purging : Bool
  deriving DecidableEq, Repr

/-- `CronManager` and its snapshot on disk. -/
structure CronManager where
  timezone : String
  jobs : Dict String CronJob
  usage : UsageTotals
  tasks : Dict String CronTask
  runningIds : List String
  nextFire : Dict String Nat
  deleting : List String
  file : CronFile
  deletions : List Deletion
  usedIds : List String
  log : CronLog
  deriving DecidableEq

/-- The zones that `ZoneInfo` knows. -/
structure ZoneDatabase where
  known : String → Bool
  localTime : String → Timezone

namespace CronManager

variable (zones : ZoneDatabase) (manager : CronManager)

/-- `list_jobs`. -/
def listJobs : List CronJob := manager.jobs.values.insertionSort CronJob.Before

/-- What `_save_state` writes. -/
def snapshot : CronFile where
  jobs := manager.listJobs
  usage := manager.usage

/-- `_save_state`. -/
def saveState : CronManager :=
  { manager with file := manager.snapshot }

/-- The rows of a snapshot by id; repeated ids are refused. -/
def jobsOfRows (rows : List CronJob) : Option (Dict String CronJob) :=
  if unique : ((rows.map fun job => (job.id, job)).map Prod.fst).Nodup then
    some ⟨rows.map fun job => (job.id, job), unique⟩
  else
    none

/-- `_load_state`. -/
def loadState : Except String CronManager :=
  match jobsOfRows manager.file.jobs with
  | some jobs =>
    .ok { manager with jobs := jobs, usage := manager.file.usage }
  | none => .error "cron.json 包含重复 Cron Job ID"

/-- `_replace_job`. -/
def replaceJob (job : CronJob) (nextRunAt : Option Nat) (now : Nat) :
    Except String CronManager := do
  let plan ← job.plan.withNextRunAt nextRunAt
  return { manager with
    jobs := manager.jobs.insert job.id
      { job with plan := plan, updatedAt := now } }

/-- Enter the next firing of a job. -/
def indexFire (jobId : String) (moment : Nat) : CronManager :=
  { manager with nextFire := manager.nextFire.insert jobId moment }

/-- Remove the next firing of a job. -/
def dropFire (jobId : String) : CronManager :=
  { manager with nextFire := manager.nextFire.erase jobId }

/-- Remove a job. -/
def dropJob (jobId : String) : CronManager :=
  { manager with jobs := manager.jobs.erase jobId }

/-- `_advance_deadline`. -/
def advanceDeadline (job : CronJob) (scheduledAt now : Nat) :
    Except String CronManager :=
  if job.recurring then do
    match ← nextJobFire job scheduledAt (zones.localTime manager.timezone)
    with
    | none => (manager.dropFire job.id).replaceJob job none now
    | some nextFire =>
      (manager.indexFire job.id nextFire).replaceJob job (some nextFire) now
  else
    (manager.dropFire job.id).replaceJob job none now

/-- One job of the loop of `_rebuild_deadlines`, and whether it changed. -/
def rebuildJob (now : Nat) (persist : Bool) (job : CronJob) :
    Except String (CronManager × Bool) := do
  match ← nextJobFire job now (zones.localTime manager.timezone) with
  | none =>
    if persist then
      return (manager.dropJob job.id, true)
    else
      return (manager, false)
  | some deadline =>
    let indexed := manager.indexFire job.id deadline
    if job.recurring && persist then
      return (← indexed.replaceJob job (some deadline) now, true)
    else
      return (indexed, false)

/-- The loop of `_rebuild_deadlines`; an error stops it where it stands. -/
def rebuildLoop (now : Nat) (persist : Bool) :
    List CronJob → CronManager → Bool → CronManager × Except String Bool
  | [], manager, changed => (manager, .ok changed)
  | job :: rest, manager, changed =>
    match manager.rebuildJob zones now persist job with
    | .ok (rebuilt, jobChanged) =>
      rebuildLoop now persist rest rebuilt (changed || jobChanged)
    | .error error => (manager, .error error)

/-- `_rebuild_deadlines`. -/
def rebuildDeadlines (now : Nat) (persist : Bool) :
    CronManager × Except String Unit :=
  match rebuildLoop zones now persist manager.jobs.values
      { manager with nextFire := Dict.empty } false with
  | (rebuilt, .ok changed) =>
    (if persist && changed then rebuilt.saveState else rebuilt, .ok ())
  | (rebuilt, .error error) => (rebuilt, .error error)

/-- `update_timezone`; an unknown zone changes nothing. -/
def updateTimezone (name : String) (now : Nat) :
    CronManager × Except String Unit :=
  if zones.known name then
    ({ manager with timezone := name } : CronManager).rebuildDeadlines
      zones now true
  else
    (manager, .error ("No time zone found with key " ++ name))

/-- `initialize_schedule`. -/
def initializeSchedule (now : Nat) : CronManager × Except String Unit :=
  match manager.loadState with
  | .ok loaded => loaded.rebuildDeadlines zones now true
  | .error error => (manager, .error error)

/-- The first deadline of a request. -/
def firstDeadline (request : JobRequest) (now : Nat) : Except String Nat :=
  if request.recurring then
    match request.cron with
    | none => .error "周期 Cron Job 必须设置 cron"
    | some cron =>
      match validateCron cron with
      | some error => .error error
      | none =>
        if request.nextRunAt ≠ none then
          .error "周期 Cron Job 不能设置 next_run_at"
        else
          nextCronFire cron now (zones.localTime manager.timezone)
  else
    match request.nextRunAt with
    | none => .error "一次性 Cron Job 必须设置 next_run_at"
    | some .malformed => .error "Invalid isoformat string"
    | some .naive => .error "next_run_at 必须包含 UTC offset"
    | some (.aware moment) =>
      if moment ≤ now then
        .error "next_run_at 必须晚于当前时间"
      else
        .ok moment

/-- The job of a request with its first deadline. -/
def requestedJob (request : JobRequest) (jobId : String) (deadline now : Nat) :
    Except String CronJob := do
  let plan ← CronPlan.make request.recurring request.cron (some deadline)
  return {
    id := jobId
    createdAt := now
    prompt := Text.strip request.prompt
    deliveryChannels := request.channels
    updatedAt := now
    plan := plan }

/-- `create_job`, with the new id. -/
def createJob (request : JobRequest) (jobId : String) (now : Nat) :
    Except String CronManager :=
  if Text.strip request.prompt = "" then
    .error "prompt 不能为空"
  else if "" ∈ request.channels then
    .error "delivery_channels 至少需要一个非空 channel"
  else do
    let deadline ← manager.firstDeadline zones request now
    let job ← requestedJob request jobId deadline now
    let created :=
      { manager with
        jobs := manager.jobs.insert jobId job
        usedIds := jobId :: manager.usedIds }
    return (created.indexFire jobId deadline).saveState

/-- `delete_job` up to its first await. -/
def beginDelete (jobId : String) : Except String CronManager :=
  if manager.jobs.contains jobId then
    let task := manager.tasks.get? jobId
    .ok { manager with
      deleting := jobId :: manager.deleting
      tasks :=
        match task with
        | some task => manager.tasks.insert jobId task.cancel
        | none => manager.tasks
      deletions := ⟨jobId, task.map CronTask.serial, false⟩ :: manager.deletions }
  else
    .error ("Cron Job 不存在：" ++ jobId)

/-- The task that a deletion awaits has ended. -/
def taskEnded (deletion : Deletion) : Bool :=
  match manager.tasks.get? deletion.jobId with
  | some task =>
    deletion.awaited != some task.serial || task.stage == .ended
  | none => true

/-- The awaited task has ended; the records of the job are purged next. -/
def purgeDelete (deletion : Deletion) : Option CronManager :=
  if deletion ∈ manager.deletions ∧ deletion.purging = false ∧
      manager.taskEnded deletion then
    some { manager with
      deletions :=
        { deletion with purging := true } ::
          manager.deletions.erase deletion }
  else
    none

/-- The records are purged; the job is removed and the rest is saved. -/
def finishDelete (deletion : Deletion) : Option CronManager :=
  if deletion ∈ manager.deletions ∧ deletion.purging then
    let jobId := deletion.jobId
    let removed :=
      { (manager.dropJob jobId).dropFire jobId with
        tasks := manager.tasks.erase jobId
        runningIds := manager.runningIds.filter (· ≠ jobId) }
    some { removed.saveState with
      deleting := manager.deleting.filter (· ≠ jobId)
      deletions := manager.deletions.erase deletion }
  else
    none

/-- A deletion that raises leaves the job. -/
def abortDelete (deletion : Deletion) : Option CronManager :=
  if deletion ∈ manager.deletions then
    some { manager with
      deleting := manager.deleting.filter (· ≠ deletion.jobId)
      deletions := manager.deletions.erase deletion }
  else
    none

/-- The due entries of the index, by deadline and then by id. -/
def dueEntries (moment : Nat) : List (Nat × String) :=
  ((manager.nextFire.entries.map fun entry => (entry.2, entry.1)).filter
    fun entry => entry.1 ≤ moment).insertionSort Precedes

/-- A task for a firing of a job, before its first step. -/
def newTask (job : CronJob) (scheduledAt : Nat) : CronTask where
  serial := manager.log.started.length
  scheduledAt := scheduledAt
  oneShot := !job.recurring
  stage := .created
  cancelRequested := false

/-- Create the task for a firing of a job. -/
def startTask (jobId : String) (job : CronJob) (scheduledAt : Nat) :
    CronManager :=
  { manager with
    tasks := manager.tasks.insert jobId (manager.newTask job scheduledAt)
    log := { manager.log with
      started := manager.log.started ++ [⟨jobId, scheduledAt⟩] } }

/-- What the loop of `run_due` works on. -/
structure DueRun where
  manager : CronManager
  created : Nat
  changed : Bool

/-- One due entry in the loop of `run_due`. -/
def runDueEntry (now : Nat) (run : DueRun) (entry : Nat × String) :
    Except String DueRun :=
  match run.manager.jobs.get? entry.2 with
  | none => .ok ⟨run.manager.dropFire entry.2, run.created, true⟩
  | some job =>
    if entry.2 ∈ run.manager.deleting then
      .ok run
    else do
      let advanced ← run.manager.advanceDeadline zones job entry.1 now
      if advanced.tasks.contains entry.2 then
        return ⟨advanced, run.created, true⟩
      else
        return ⟨advanced.startTask entry.2 job entry.1, run.created + 1, true⟩

/-- The loop of `run_due`; an error stops it where it stands. -/
def runDueLoop (now : Nat) : List (Nat × String) → DueRun → DueRun × Except String Unit
  | [], run => (run, .ok ())
  | entry :: rest, run =>
    match runDueEntry zones now run entry with
    | .ok next => runDueLoop now rest next
    | .error error => (run, .error error)

/-- `run_due`. -/
def runDue (moment now : Nat) : CronManager × Except String Nat :=
  match runDueLoop zones now (manager.dueEntries moment)
      ⟨manager, 0, false⟩ with
  | (run, .ok ()) =>
    (if run.changed then run.manager.saveState else run.manager,
      .ok run.created)
  | (run, .error error) => (run.manager, .error error)

/-- Move a task to another stage. -/
def setStage (jobId : String) (task : CronTask) (stage : TaskStage) :
    CronManager :=
  { manager with
    tasks := manager.tasks.insert jobId { task with stage := stage } }

/-- The `finally` of `_run_job`. -/
def clearTask (jobId : String) : CronManager :=
  { manager with
    tasks := manager.tasks.erase jobId
    runningIds := manager.runningIds.filter (· ≠ jobId) }

/-- `_cancel_job`. -/
def cancelJob (jobId : String) : CronManager :=
  if jobId ∈ manager.deleting then
    manager
  else
    match manager.jobs.get? jobId with
    | none => manager
    | some job =>
      if job.recurring then
        manager
      else
        ((manager.dropJob jobId).dropFire jobId).saveState

/-- The first step of `_run_job`, up to the call of the executor. -/
def stepTask (jobId : String) (task : CronTask) : CronManager :=
  if manager.jobs.contains jobId then
    manager.setStage jobId task .waiting
  else
    manager.clearTask jobId

/-- `_mark_running`; it cancels the task of a job that is gone. -/
def markRunning (jobId : String) (task : CronTask) : CronManager :=
  if jobId ∈ manager.deleting ∨ manager.jobs.contains jobId = false then
    (manager.cancelJob jobId).clearTask jobId
  else
    { manager.setStage jobId task .running with
      runningIds := jobId :: manager.runningIds }

/-- A cancellation is delivered to a task. -/
def cancelTask (jobId : String) (task : CronTask) : CronManager :=
  if task.stage = .created then
    manager.setStage jobId task .ended
  else
    (manager.cancelJob jobId).clearTask jobId

/-- `_add_usage`, for the execution of a task. -/
def addUsage (task : CronTask) (result : ExecutionResult) : CronManager :=
  { manager with
    usage := manager.usage.add result.usage
    log := { manager.log with
      accounted := manager.log.accounted ++ [(task.serial, result.usage)] } }

/-- A finished one-shot job is removed. -/
def retireJob (jobId : String) (job : CronJob) : CronManager :=
  if job.recurring then
    manager
  else
    (manager.dropJob jobId).dropFire jobId

/-- Publish a success or report the incident of a failure. -/
def announce (task : CronTask) (result : ExecutionResult) : CronManager :=
  { manager with
    log :=
      if result.success then
        { manager.log with
          published := manager.log.published ++ [task.serial] }
      else
        { manager.log with
          reported := manager.log.reported ++ [task.serial] } }

/-- `_finish_job` for a job that is there: account, remove, save, announce. -/
def settleJob (jobId : String) (task : CronTask) (result : ExecutionResult)
    (job : CronJob) : CronManager :=
  let saved := ((manager.addUsage task result).retireJob jobId job).saveState
  (saved.announce task result).setStage jobId task .delivering

/-- `_finish_job` up to its first await outside the lock. -/
def finishJob (jobId : String) (task : CronTask) (result : ExecutionResult) :
    CronManager :=
  if jobId ∈ manager.deleting then
    manager.clearTask jobId
  else
    match manager.jobs.get? jobId with
    | none => manager.clearTask jobId
    | some job => manager.settleJob jobId task result job

/-- The executor has returned. -/
def recordReturn (task : CronTask) (result : ExecutionResult) :
    CronManager :=
  { manager with
    log := { manager.log with
      returned := manager.log.returned ++
          [⟨task.serial, task.oneShot, task.cancelRequested, result⟩] } }

/-- The executor returns, or raises, which counts as a failed result. -/
def executorReturned (jobId : String) (task : CronTask) (result : ExecutionResult) :
    CronManager :=
  (manager.recordReturn task result).finishJob jobId task result

/-- `close`: all tasks are asked to cancel. -/
def close : CronManager :=
  { manager with
    tasks := ⟨manager.tasks.entries.map fun entry => (entry.1, entry.2.cancel), by
          rw [List.map_map]
          exact manager.tasks.nodupKeys⟩ }

/-- A crash, and a new manager that loads the snapshot. -/
def reload (now : Nat) : Option CronManager :=
  match manager.loadState with
  | .ok loaded =>
    let fresh :=
      { loaded with
        tasks := Dict.empty
        runningIds := []
        deleting := []
        deletions := [] }
    match fresh.rebuildDeadlines zones now false with
    | (rebuilt, .ok ()) => some rebuilt
    | (_, .error _) => none
  | .error _ => none

end CronManager

/-- What can happen to a manager next. -/
inductive CronEvent where
  | createJob (request : JobRequest) (jobId : String) (now : Nat)
  | runDue (moment now : Nat)
  | updateTimezone (name : String) (now : Nat)
  | initializeSchedule (now : Nat)
  | reload (now : Nat)
  | close
  | stepTask (jobId : String)
  | markRunning (jobId : String)
  | cancelTask (jobId : String)
  | executorReturned (jobId : String) (result : ExecutionResult)
  | delivered (jobId : String)
  | beginDelete (jobId : String)
  | purgeDelete (deletion : Deletion)
  | finishDelete (deletion : Deletion)
  | abortDelete (deletion : Deletion)
  deriving DecidableEq, Repr

namespace CronManager

variable (zones : ZoneDatabase) (manager : CronManager)

/-- The task of a job, if it stands at one of the given stages. -/
def taskAt (jobId : String) (stages : List TaskStage) : Option CronTask :=
  (manager.tasks.get? jobId).filter fun task => task.stage ∈ stages

/-- The state after a call that either succeeds or changes nothing. -/
def orUnchanged (result : Except String CronManager) : CronManager :=
  match result with
  | .ok changed => changed
  | .error _ => manager

/-- One step of a manager; a new id is never one that was used before. -/
def step : CronEvent → Option CronManager
  | .createJob request jobId now =>
    if jobId ∈ manager.usedIds then
      none
    else
      some (manager.orUnchanged (manager.createJob zones request jobId now))
  | .runDue moment now => some (manager.runDue zones moment now).1
  | .updateTimezone name now => some (manager.updateTimezone zones name now).1
  | .initializeSchedule now => some (manager.initializeSchedule zones now).1
  | .reload now => manager.reload zones now
  | .close => some manager.close
  | .stepTask jobId =>
    (manager.taskAt jobId [.created]).map (manager.stepTask jobId)
  | .markRunning jobId =>
    (manager.taskAt jobId [.waiting]).map (manager.markRunning jobId)
  | .cancelTask jobId =>
    (manager.taskAt jobId [.created, .waiting, .running, .delivering]).map
      (manager.cancelTask jobId)
  | .executorReturned jobId result =>
    (manager.taskAt jobId [.waiting, .running]).map fun task =>
      manager.executorReturned jobId task result
  | .delivered jobId =>
    (manager.taskAt jobId [.delivering]).map fun _ =>
      manager.clearTask jobId
  | .beginDelete jobId =>
    some (manager.orUnchanged (manager.beginDelete jobId))
  | .purgeDelete deletion => manager.purgeDelete deletion
  | .finishDelete deletion => manager.finishDelete deletion
  | .abortDelete deletion => manager.abortDelete deletion

/-- A new manager without a snapshot. -/
def fresh (timezone : String) : CronManager where
  timezone := timezone
  jobs := Dict.empty
  usage := ⟨0, 0, 0, 0⟩
  tasks := Dict.empty
  runningIds := []
  nextFire := Dict.empty
  deleting := []
  file := ⟨[], ⟨0, 0, 0, 0⟩⟩
  deletions := []
  usedIds := []
  log := ⟨[], [], [], [], []⟩

end CronManager

/-- The runs of a manager from an empty store. -/
def cronMachine (zones : ZoneDatabase) : Machine CronManager CronEvent where
  initial manager := ∃ timezone, zones.known timezone = true ∧ manager = CronManager.fresh timezone
  step := CronManager.step zones

end TurningGood.Proactive
