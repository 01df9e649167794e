import TurningGood.Proactive.CronSnapshot

/-!
# What becomes of the executions of one-shot jobs

A pass consumes the deadline of a one-shot job before its task runs, and a
rebuild of the index removes every one-shot job without a deadline.  When the
executor of such a task returns, its job is gone and nothing is accounted.
In runs without a rebuild beside a live task of a one-shot job, every
execution that was neither deleted nor cancelled is accounted and announced
exactly once when its executor returns.
-/

namespace TurningGood.Proactive

open TurningGood.Foundation

/-! ## The records of the executions -/

/-- The executor of a task has not returned yet. -/
def CronTask.pending (task : CronTask) : Bool :=
  task.stage == .created || task.stage == .waiting || task.stage == .running

/-- The task of a one-shot job that nobody has cancelled. -/
def CronTask.Owed (task : CronTask) : Prop :=
  task.pending = true ∧ task.oneShot = true ∧ task.cancelRequested = false

instance (task : CronTask) : Decidable task.Owed := inferInstanceAs (Decidable (_ ∧ _))

/-- The number of an execution in the lists of what was done for it. -/
def CronLog.serials (log : CronLog) : List Nat := log.returned.map ReturnedExecution.serial ++
    (log.accounted.map Prod.fst ++ (log.published ++ log.reported))

/-- A returned execution is accounted once, and announced once. -/
structure CronLog.AccountedOnce
    (log : CronLog) (entry : ReturnedExecution) : Prop where
  usage : (entry.serial, entry.result.usage) ∈ log.accounted
  once : (log.accounted.map Prod.fst).count entry.serial = 1
  published : log.published.count entry.serial =
      if entry.result.success then 1 else 0
  reported : log.reported.count entry.serial =
      if entry.result.success then 0 else 1

/-- The totals of all accounted executions. -/
def CronLog.totals (log : CronLog) : UsageTotals :=
  (log.accounted.map Prod.snd).foldl UsageTotals.add ⟨0, 0, 0, 0⟩

namespace CronManager

variable {zones : ZoneDatabase}

variable {before after manager target : CronManager} {jobId : String}
  {task : CronTask} {now : Nat}

/--
Every execution of a one-shot job that returned without having been deleted
or cancelled is accounted and announced exactly once, the totals are those of
the accounted executions, and a job whose execution is owed still exists.
-/
structure AccountsOneShots (manager : CronManager) : Prop where
  returned : ∀ entry ∈ manager.log.returned, entry.oneShot = true →
      entry.cancelRequested = false → manager.log.AccountedOnce entry
  totals : manager.usage = manager.log.totals
  owed : ∀ jobId task, manager.tasks.get? jobId = some task → task.Owed → manager.Active jobId

/-- The executions are numbered apart, and a pending one is not recorded. -/
structure Numbered (manager : CronManager) : Prop where
  bounded : ∀ jobId task, manager.tasks.get? jobId = some task →
      task.serial < manager.log.started.length
  apart : ∀ jobId other task otherTask, manager.tasks.get? jobId = some task →
      manager.tasks.get? other = some otherTask →
      task.serial = otherTask.serial → jobId = other
  recorded : ∀ serial ∈ manager.log.serials, serial < manager.log.started.length
  unrecorded : ∀ jobId task, manager.tasks.get? jobId = some task →
      task.pending = true → task.serial ∉ manager.log.serials

/-- What holds of the executions in every state. -/
structure OneShotSound (manager : CronManager) : Prop where
  numbered : manager.Numbered
  accounts : manager.AccountsOneShots
  stored : manager.file.usage = manager.usage

/-- Every task of the target comes from a task that was not less pending. -/
def TasksFrom (before after : CronManager) : Prop :=
  ∀ jobId task, after.tasks.get? jobId = some task →
    ∃ earlier, before.tasks.get? jobId = some earlier ∧ task.serial = earlier.serial ∧
      (task.pending = true → earlier.pending = true) ∧
      (task.Owed → earlier.Owed)

theorem TasksFrom.of_eq (same : after.tasks = before.tasks) :
    TasksFrom before after := by
  intro jobId task found
  exact ⟨task, same ▸ found, rfl, id, id⟩

theorem TasksFrom.of_erase (erased : after.tasks = before.tasks.erase jobId) :
    TasksFrom before after := by
  intro other task found
  rw [erased, Dict.get?_erase] at found
  split_ifs at found
  exact ⟨task, found, rfl, id, id⟩

theorem TasksFrom.of_insert {changed : CronTask} (found : before.tasks.get? jobId = some task)
    (inserted : after.tasks = before.tasks.insert jobId changed)
    (serial : changed.serial = task.serial)
    (less : changed.pending = true → task.pending = true)
    (owed : changed.Owed → task.Owed) : TasksFrom before after := by
  intro other result present
  rw [inserted, Dict.get?_insert] at present
  split_ifs at present with same
  · cases present
    exact ⟨task, same ▸ found, serial, less, owed⟩
  · exact ⟨result, present, rfl, id, id⟩

theorem Numbered.of_tasks (numbered : before.Numbered)
    (tasks : TasksFrom before after) (log : after.log = before.log) :
    after.Numbered := by
  refine ⟨?_, ?_, ?_, ?_⟩
  · intro jobId task found
    rcases tasks jobId task found with ⟨earlier, present, serial, _⟩
    rw [serial, log]
    exact numbered.bounded jobId earlier present
  · intro jobId other task otherTask found otherFound same
    rcases tasks jobId task found with ⟨earlier, present, serial, _⟩
    rcases tasks other otherTask otherFound with ⟨otherEarlier, otherPresent, otherSerial, _⟩
    refine numbered.apart jobId other earlier otherEarlier present otherPresent ?_
    rw [← serial, ← otherSerial, same]
  · rw [log]
    exact numbered.recorded
  · intro jobId task found pending
    rcases tasks jobId task found with ⟨earlier, present, serial, less, _⟩
    rw [serial, log]
    exact numbered.unrecorded jobId earlier present (less pending)

theorem OneShotSound.of_tasks (sound : before.OneShotSound)
    (tasks : TasksFrom before after) (log : after.log = before.log)
    (usage : after.usage = before.usage)
    (stored : after.file.usage = before.usage) (kept :
      ∀ jobId task, after.tasks.get? jobId = some task → task.Owed →
        before.Active jobId → after.Active jobId) : after.OneShotSound := by
  refine ⟨sound.numbered.of_tasks tasks log, ⟨?_, ?_, ?_⟩, stored.trans usage.symm⟩
  · rw [log]
    exact sound.accounts.returned
  · rw [usage, log]
    exact sound.accounts.totals
  · intro jobId task found owed
    rcases tasks jobId task found with ⟨earlier, present, _, _, owedBefore⟩
    exact kept jobId task found owed (sound.accounts.owed jobId earlier present (owedBefore owed))

/-! ## The return of an executor -/

theorem Numbered.record {number : Nat} (numbered : before.Numbered) (tasks : TasksFrom before after)
    (started : after.log.started = before.log.started) (recorded :
      ∀ serial ∈ after.log.serials, serial ∈ before.log.serials ∨ serial = number)
    (within : number < before.log.started.length) (other :
      ∀ jobId task, after.tasks.get? jobId = some task →
        task.pending = true → task.serial ≠ number) : after.Numbered := by
  refine ⟨?_, ?_, ?_, ?_⟩
  · intro jobId task found
    rcases tasks jobId task found with ⟨earlier, present, serial, _⟩
    rw [serial, started]
    exact numbered.bounded jobId earlier present
  · intro jobId second task secondTask found secondFound same
    rcases tasks jobId task found with ⟨earlier, present, serial, _⟩
    rcases tasks second secondTask secondFound with ⟨secondEarlier, secondPresent, secondSerial, _⟩
    refine numbered.apart jobId second earlier secondEarlier present secondPresent ?_
    rw [← serial, ← secondSerial, same]
  · intro serial member
    rw [started]
    rcases recorded serial member with old | rfl
    · exact numbered.recorded serial old
    · exact within
  · intro jobId task found pending member
    rcases tasks jobId task found with ⟨earlier, present, serial, less, _⟩
    rcases recorded task.serial member with old | same
    · rw [serial] at old
      exact numbered.unrecorded jobId earlier present (less pending) old
    · exact other jobId task found pending same

theorem Numbered.other (numbered : manager.Numbered) (found : manager.tasks.get? jobId = some task)
    (tasks : TasksFrom manager after) (gone :
      ∀ left, after.tasks.get? jobId = some left → left.pending = false) :
    ∀ other left, after.tasks.get? other = some left →
      left.pending = true → left.serial ≠ task.serial := by
  intro other left present pending same
  rcases tasks other left present with ⟨earlier, original, serial, _⟩
  have sameJob := numbered.apart other jobId earlier task original found
    (serial ▸ same)
  subst other
  rw [gone left present] at pending
  cases pending

theorem accountedOnce_of_append
    {log after : CronLog} {entry : ReturnedExecution}
    {accounted : List (Nat × LLMUsage)} {published reported : List Nat}
    (once : log.AccountedOnce entry)
    (accountedAfter : after.accounted = log.accounted ++ accounted)
    (publishedAfter : after.published = log.published ++ published)
    (reportedAfter : after.reported = log.reported ++ reported)
    (unaccounted : entry.serial ∉ accounted.map Prod.fst)
    (unpublished : entry.serial ∉ published)
    (unreported : entry.serial ∉ reported) :
    after.AccountedOnce entry := by
  refine ⟨?_, ?_, ?_, ?_⟩
  · rw [accountedAfter]
    exact List.mem_append_left _ once.usage
  · rw [accountedAfter, List.map_append, List.count_append, once.once,
      List.count_eq_zero_of_not_mem unaccounted]
  · rw [publishedAfter, List.count_append, once.published,
      List.count_eq_zero_of_not_mem unpublished, Nat.add_zero]
  · rw [reportedAfter, List.count_append, once.reported,
      List.count_eq_zero_of_not_mem unreported, Nat.add_zero]

theorem OneShotSound.not_owed (sound : manager.OneShotSound)
    (found : manager.tasks.get? jobId = some task)
    (inactive : ¬ manager.Active jobId) : ¬ task.Owed :=
  fun owed => inactive (sound.accounts.owed jobId task found owed)

theorem recordReturn_clearTask_sound (sound : manager.OneShotSound)
    (result : ExecutionResult) (found : manager.tasks.get? jobId = some task)
    (pending : task.pending = true) (free : ¬ task.Owed) :
    ((manager.recordReturn task result).clearTask jobId).OneShotSound := by
  have tasks :
      TasksFrom manager ((manager.recordReturn task result).clearTask jobId) :=
    TasksFrom.of_erase rfl
  have gone : ∀ left,
      ((manager.recordReturn task result).clearTask jobId).tasks.get? jobId =
        some left → left.pending = false := by
    intro left present
    have erased : (manager.tasks.erase jobId).get? jobId = some left :=
      present
    rw [Dict.get?_erase_self] at erased
    cases erased
  refine ⟨?_, ⟨?_, sound.accounts.totals, ?_⟩, sound.stored⟩
  · refine sound.numbered.record tasks rfl ?_ (sound.numbered.bounded jobId task found)
      (sound.numbered.other found tasks gone)
    intro serial member
    simp only [CronLog.serials, clearTask, recordReturn, List.map_append,
      List.map_cons, List.map_nil, List.mem_append, List.mem_singleton]
      at member ⊢
    tauto
  · intro entry member oneShot kept
    rcases List.mem_append.mp member with old | new
    · have once := sound.accounts.returned entry old oneShot kept
      exact ⟨once.usage, once.once, once.published, once.reported⟩
    · rw [List.mem_singleton] at new
      subst entry
      exact absurd ⟨pending, oneShot, kept⟩ free
  · intro other left present owed
    rcases tasks other left present with ⟨earlier, original, _, _, before⟩
    exact sound.accounts.owed other earlier original (before owed)

theorem settleJob_log (manager : CronManager) (jobId : String) (task : CronTask)
    (result : ExecutionResult) (job : CronJob) :
    (manager.settleJob jobId task result job).log =
      { manager.log with
        accounted := manager.log.accounted ++ [(task.serial, result.usage)]
        published := manager.log.published ++
            if result.success then [task.serial] else []
        reported := manager.log.reported ++
            if result.success then [] else [task.serial] } := by
  unfold settleJob announce retireJob
  split_ifs <;> simp [setStage, saveState, addUsage, dropJob, dropFire]

theorem settleJob_usage (manager : CronManager) (jobId : String) (task : CronTask)
    (result : ExecutionResult) (job : CronJob) :
    (manager.settleJob jobId task result job).usage = manager.usage.add result.usage ∧
      (manager.settleJob jobId task result job).file.usage =
        manager.usage.add result.usage := by
  unfold settleJob retireJob
  split_ifs <;> exact ⟨rfl, rfl⟩

theorem settleJob_frame (manager : CronManager) (jobId : String) (task : CronTask)
    (result : ExecutionResult) (job : CronJob) :
    (manager.settleJob jobId task result job).tasks =
        manager.tasks.insert jobId { task with stage := .delivering } ∧
      ∀ other, other ≠ jobId → manager.Active other →
        (manager.settleJob jobId task result job).Active other := by
  unfold settleJob retireJob
  split_ifs
  · exact ⟨rfl, fun other _ active => active⟩
  · exact ⟨rfl, fun other different active =>
      ⟨Dict.contains_erase_of_ne different active.1, active.2⟩⟩

theorem recordReturn_settleJob_sound (sound : manager.OneShotSound)
    (result : ExecutionResult) (job : CronJob)
    (found : manager.tasks.get? jobId = some task)
    (pending : task.pending = true) :
    ((manager.recordReturn task result).settleJob jobId task result job).OneShotSound := by
  have log := settleJob_log (manager.recordReturn task result) jobId task
    result job
  have usage := settleJob_usage (manager.recordReturn task result) jobId task
    result job
  have frame := settleJob_frame (manager.recordReturn task result) jobId task
    result job
  generalize (manager.recordReturn task result).settleJob jobId task result
    job = target at log usage frame ⊢
  have settled : CronTask.pending { task with stage := .delivering } =
      false := rfl
  have tasks : TasksFrom manager target :=
    TasksFrom.of_insert found frame.1 rfl
      (fun again => by rw [settled] at again; cases again)
      (fun owed => by have again := owed.1; rw [settled] at again; cases again)
  have gone : ∀ left, target.tasks.get? jobId = some left →
      left.pending = false := by
    intro left present
    rw [frame.1, Dict.get?_insert_self] at present
    cases present
    rfl
  have fresh := sound.numbered.unrecorded jobId task found pending
  simp only [CronLog.serials, List.mem_append, not_or] at fresh
  refine ⟨?_, ⟨?_, ?_, ?_⟩, usage.2.trans usage.1.symm⟩
  · refine sound.numbered.record tasks (by rw [log]; rfl) ?_
      (sound.numbered.bounded jobId task found)
      (sound.numbered.other found tasks gone)
    intro serial member
    rw [log] at member
    simp only [CronLog.serials, recordReturn, List.map_append, List.map_cons,
      List.map_nil, List.mem_append, List.mem_singleton] at member ⊢
    split_ifs at member <;> simp only [List.mem_singleton, List.not_mem_nil] at member <;> tauto
  · intro entry member oneShot kept
    rw [log] at member
    rcases List.mem_append.mp member with old | new
    · have once := sound.accounts.returned entry old oneShot kept
      have different : entry.serial ≠ task.serial := by
        intro same
        exact fresh.1 (same ▸ List.mem_map_of_mem old)
      refine accountedOnce_of_append once (by rw [log]; rfl) (by rw [log]; rfl)
        (by rw [log]; rfl) (by simpa using different) ?_ ?_
      · split_ifs <;> simp [different]
      · split_ifs <;> simp [different]
    · rw [List.mem_singleton] at new
      subst entry
      refine ⟨?_, ?_, ?_, ?_⟩
      · rw [log]
        exact List.mem_append_right _ List.mem_cons_self
      · rw [log]
        simp [recordReturn, List.count_eq_zero_of_not_mem fresh.2.1]
      · rw [log]
        simp only [recordReturn, List.count_append, List.count_eq_zero_of_not_mem fresh.2.2.1]
        split_ifs <;> simp
      · rw [log]
        simp only [recordReturn, List.count_append, List.count_eq_zero_of_not_mem fresh.2.2.2]
        split_ifs <;> simp
  · rw [usage.1, log]
    simp only [CronLog.totals, recordReturn, List.map_append, List.map_cons,
      List.map_nil, List.foldl_append, List.foldl_cons, List.foldl_nil]
    rw [sound.accounts.totals]
    rfl
  · intro other left present owed
    have different : other ≠ jobId := by
      rintro rfl
      have again := owed.1
      rw [gone left present] at again
      cases again
    rcases tasks other left present with ⟨earlier, original, _, _, before⟩
    exact frame.2 other different (sound.accounts.owed other earlier original (before owed))

theorem executorReturned_sound (sound : manager.OneShotSound)
    (result : ExecutionResult) (found : manager.tasks.get? jobId = some task)
    (pending : task.pending = true) :
    (manager.executorReturned jobId task result).OneShotSound := by
  unfold executorReturned finishJob
  split_ifs with deleting
  · refine recordReturn_clearTask_sound sound result found pending
      (sound.not_owed found fun active => active.2 deleting)
  · split
    case h_1 missing =>
      refine recordReturn_clearTask_sound sound result found pending
        (sound.not_owed found fun active => ?_)
      have none : manager.jobs.get? jobId = none := missing
      rw [Active, Dict.contains, none] at active
      cases active.1
    case h_2 job present =>
      exact recordReturn_settleJob_sound sound result job found pending

/-! ## The steps of a task -/

theorem cancelJob_frame (manager : CronManager) (jobId : String) :
    (manager.cancelJob jobId).tasks = manager.tasks ∧ (manager.cancelJob jobId).log = manager.log ∧
      (manager.cancelJob jobId).usage = manager.usage ∧
      (manager.file.usage = manager.usage → (manager.cancelJob jobId).file.usage = manager.usage) ∧
      ∀ other, other ≠ jobId → manager.Active other → (manager.cancelJob jobId).Active other := by
  unfold cancelJob
  split_ifs
  · exact ⟨rfl, rfl, rfl, id, fun _ _ => id⟩
  · split
    · exact ⟨rfl, rfl, rfl, id, fun _ _ => id⟩
    · split_ifs
      · exact ⟨rfl, rfl, rfl, id, fun _ _ => id⟩
      · refine ⟨rfl, rfl, rfl, fun _ => rfl, fun other different active => ?_⟩
        exact ⟨Dict.contains_erase_of_ne different active.1, active.2⟩

theorem clearTask_sound (sound : manager.OneShotSound) (jobId : String) :
    (manager.clearTask jobId).OneShotSound :=
  sound.of_tasks (TasksFrom.of_erase rfl) rfl rfl sound.stored fun _ _ _ _ => id

theorem cancelJob_clearTask_sound (sound : manager.OneShotSound) (jobId : String) :
    ((manager.cancelJob jobId).clearTask jobId).OneShotSound := by
  rcases cancelJob_frame manager jobId with ⟨tasks, log, usage, stored, active⟩
  have erased :
      ((manager.cancelJob jobId).clearTask jobId).tasks =
        manager.tasks.erase jobId := by
    rw [← tasks]
    rfl
  refine sound.of_tasks (TasksFrom.of_erase erased) log usage (stored sound.stored) ?_
  intro other task present _ before
  have different : other ≠ jobId := by
    rintro rfl
    rw [erased, Dict.get?_erase_self] at present
    cases present
  exact active other different before

theorem setStage_sound (sound : manager.OneShotSound) {stage : TaskStage}
    (found : manager.tasks.get? jobId = some task)
    (pending : task.pending = true) (moved : ∃ runningIds, target =
          { manager.setStage jobId task stage with
            runningIds := runningIds }) : target.OneShotSound := by
  rcases moved with ⟨runningIds, rfl⟩
  exact sound.of_tasks (TasksFrom.of_insert found rfl rfl (fun _ => pending)
      fun owed => ⟨pending, owed.2⟩)
    rfl rfl sound.stored fun _ _ _ _ => id

theorem stepTask_sound (sound : manager.OneShotSound) (found : manager.tasks.get? jobId = some task)
    (pending : task.pending = true) :
    (manager.stepTask jobId task).OneShotSound := by
  unfold stepTask
  split_ifs
  · exact setStage_sound sound found pending ⟨_, rfl⟩
  · exact clearTask_sound sound jobId

theorem markRunning_sound (sound : manager.OneShotSound)
    (found : manager.tasks.get? jobId = some task)
    (pending : task.pending = true) :
    (manager.markRunning jobId task).OneShotSound := by
  unfold markRunning
  split_ifs
  · exact cancelJob_clearTask_sound sound jobId
  · exact setStage_sound sound found pending ⟨_, rfl⟩

theorem cancelTask_sound (sound : manager.OneShotSound)
    (found : manager.tasks.get? jobId = some task) :
    (manager.cancelTask jobId task).OneShotSound := by
  unfold cancelTask
  split_ifs with created
  · refine setStage_sound sound found ?_ ⟨_, rfl⟩
    rw [CronTask.pending, created]
    rfl
  · exact cancelJob_clearTask_sound sound jobId

/-! ## One pass -/

theorem Advanced.sound {job : CronJob} {scheduledAt : Nat}
    (advanced : Advanced manager job scheduledAt target)
    (sound : manager.OneShotSound) :
    target.OneShotSound ∧ ∀ jobId, manager.Active jobId → target.Active jobId := by
  rcases advanced with ⟨updated, nextFire, _, _, rfl, _⟩
  have kept : ∀ jobId, manager.Active jobId →
      ({ manager with
          jobs := manager.jobs.insert job.id updated
          nextFire := nextFire } : CronManager).Active jobId :=
    fun jobId active => ⟨Dict.contains_insert _ _ active.1, active.2⟩
  exact ⟨sound.of_tasks (TasksFrom.of_eq rfl) rfl rfl sound.stored
    fun jobId _ _ _ => kept jobId, kept⟩

theorem Numbered.startTask (numbered : manager.Numbered) (jobId : String)
    (job : CronJob) (scheduledAt : Nat) :
    (manager.startTask jobId job scheduledAt).Numbered := by
  have length :
      (manager.startTask jobId job scheduledAt).log.started.length =
        manager.log.started.length + 1 := by
    simp [CronManager.startTask]
  have found : ∀ other task,
      (manager.startTask jobId job scheduledAt).tasks.get? other = some task →
      (other = jobId ∧ task = manager.newTask job scheduledAt) ∨
        manager.tasks.get? other = some task := by
    intro other task present
    have inserted :
        (manager.tasks.insert jobId (manager.newTask job scheduledAt)).get? other = some task :=
      present
    rw [Dict.get?_insert] at inserted
    split_ifs at inserted with same
    · exact .inl ⟨same, (Option.some.inj inserted).symm⟩
    · exact .inr inserted
  refine ⟨?_, ?_, ?_, ?_⟩
  · intro other task present
    rw [length]
    rcases found other task present with ⟨_, rfl⟩ | earlier
    · exact Nat.lt_succ_self _
    · exact Nat.lt_succ_of_lt (numbered.bounded other task earlier)
  · intro other second task secondTask present secondPresent same
    rcases found other task present with ⟨rfl, rfl⟩ | earlier
    · rcases found second secondTask secondPresent with ⟨rfl, rfl⟩ | secondEarlier
      · rfl
      · have less := numbered.bounded second secondTask secondEarlier
        rw [← same] at less
        exact absurd less (Nat.lt_irrefl _)
    · rcases found second secondTask secondPresent with ⟨rfl, rfl⟩ | secondEarlier
      · have less := numbered.bounded other task earlier
        rw [same] at less
        exact absurd less (Nat.lt_irrefl _)
      · exact numbered.apart other second task secondTask earlier secondEarlier same
  · intro serial member
    rw [length]
    exact Nat.lt_succ_of_lt (numbered.recorded serial member)
  · intro other task present pending
    rcases found other task present with ⟨_, rfl⟩ | earlier
    · intro member
      exact absurd (numbered.recorded _ member) (Nat.lt_irrefl _)
    · exact numbered.unrecorded other task earlier pending

theorem startTask_sound (sound : manager.OneShotSound)
    (active : manager.Active jobId) (job : CronJob) (scheduledAt : Nat) :
    (manager.startTask jobId job scheduledAt).OneShotSound := by
  refine ⟨sound.numbered.startTask jobId job scheduledAt,
    ⟨?_, sound.accounts.totals, ?_⟩, sound.stored⟩
  · intro entry member oneShot kept
    have once := sound.accounts.returned entry member oneShot kept
    exact ⟨once.usage, once.once, once.published, once.reported⟩
  · intro other task present owed
    have inserted :
        (manager.tasks.insert jobId (manager.newTask job scheduledAt)).get? other = some task :=
      present
    rw [Dict.get?_insert] at inserted
    split_ifs at inserted with same
    · rw [same]
      exact active
    · exact sound.accounts.owed other task inserted owed

theorem runDueEntry_sound {run next : DueRun} {entry : Nat × String}
    (sound : run.manager.OneShotSound)
    (taken : runDueEntry zones now run entry = .ok next) :
    next.manager.OneShotSound := by
  unfold runDueEntry at taken
  cases found : run.manager.jobs.get? entry.2 with
  | none =>
    rw [found] at taken
    cases taken
    exact sound.of_tasks (TasksFrom.of_eq rfl) rfl rfl sound.stored fun _ _ _ _ => id
  | some job =>
    rw [found] at taken
    dsimp only at taken
    split_ifs at taken with deleting
    · cases taken
      exact sound
    · cases advance : run.manager.advanceDeadline zones job entry.1 now with
      | error error =>
        rw [advance] at taken
        cases taken
      | ok target =>
        have advanced :=
          (advanceDeadline_advanced advance).sound sound
        have active : run.manager.Active entry.2 :=
          ⟨by rw [Dict.contains, found]; rfl, deleting⟩
        rw [advance] at taken
        simp only [bind, Except.bind] at taken
        split_ifs at taken
        · cases taken
          exact advanced.1
        · cases taken
          exact startTask_sound advanced.1 (advanced.2 entry.2 active) job entry.1

theorem runDueLoop_sound {entries : List (Nat × String)} {run final : DueRun}
    {result : Except String Unit} (sound : run.manager.OneShotSound)
    (loop : runDueLoop zones now entries run = (final, result)) :
    final.manager.OneShotSound := by
  induction entries generalizing run with
  | nil =>
    cases loop
    exact sound
  | cons entry rest induction =>
    simp only [runDueLoop] at loop
    cases taken : runDueEntry zones now run entry with
    | error error =>
      rw [taken] at loop
      cases loop
      exact sound
    | ok next =>
      rw [taken] at loop
      exact induction (runDueEntry_sound sound taken) loop

theorem saveState_sound (sound : manager.OneShotSound) :
    manager.saveState.OneShotSound :=
  sound.of_tasks (TasksFrom.of_eq rfl) rfl rfl rfl fun _ _ _ _ => id

theorem runDue_sound (sound : manager.OneShotSound) (moment now : Nat) :
    (manager.runDue zones moment now).1.OneShotSound := by
  rcases loop : runDueLoop zones now (manager.dueEntries moment) ⟨manager, 0, false⟩
    with ⟨final, result⟩
  have after := runDueLoop_sound sound loop
  cases result with
  | ok done =>
    rw [runDue_of_finished loop]
    dsimp only
    split_ifs
    · exact saveState_sound after
    · exact after
  | error error =>
    rw [runDue_of_stopped loop]
    exact after

/-! ## Rebuilds and a new process -/

/-- No task of a one-shot job has an executor that is still to return. -/
def NothingOwed (manager : CronManager) : Prop := ∀ entry ∈ manager.tasks.entries, ¬ entry.2.Owed

instance (manager : CronManager) : Decidable manager.NothingOwed :=
  inferInstanceAs (Decidable (∀ entry ∈ manager.tasks.entries, ¬ _))

theorem NothingOwed.sound (free : before.NothingOwed)
    (sound : before.OneShotSound) (tasks : after.tasks = before.tasks)
    (log : after.log = before.log) (usage : after.usage = before.usage)
    (stored : after.file.usage = before.usage) : after.OneShotSound := by
  refine sound.of_tasks (TasksFrom.of_eq tasks) log usage stored ?_
  intro jobId task found owed
  rw [tasks, ← Dict.mem_entries_iff] at found
  exact absurd owed (free _ found)

theorem rebuildDeadlines_frame (manager : CronManager) (now : Nat) (persist : Bool) :
    ∃ jobs nextFire file, (manager.rebuildDeadlines zones now persist).1 =
          { manager with
            jobs := jobs, nextFire := nextFire, file := file } ∧
        (file = manager.file ∨ file.usage = manager.usage) := by
  unfold rebuildDeadlines
  rcases loop : rebuildLoop zones now persist manager.jobs.values
        { manager with nextFire := Dict.empty } false with
    ⟨final, result⟩
  rcases (rebuildLoop_effect loop).1 with ⟨jobs, nextFire, rfl⟩
  cases result with
  | error error => exact ⟨jobs, nextFire, _, rfl, .inl rfl⟩
  | ok changed =>
    dsimp only
    split_ifs
    · exact ⟨jobs, nextFire, _, rfl, .inr rfl⟩
    · exact ⟨jobs, nextFire, _, rfl, .inl rfl⟩

variable (zones) in
theorem rebuildDeadlines_sound
    {manager : CronManager} (sound : manager.OneShotSound)
    (free : manager.NothingOwed) (now : Nat) (persist : Bool) :
    (manager.rebuildDeadlines zones now persist).1.OneShotSound := by
  rcases rebuildDeadlines_frame manager now persist with ⟨jobs, nextFire, file, rebuilt, saved⟩
  rw [rebuilt]
  refine free.sound sound rfl rfl rfl ?_
  rcases saved with rfl | saved
  · exact sound.stored
  · exact saved

theorem loadState_sound {loaded : CronManager} (free : manager.NothingOwed)
    (sound : manager.OneShotSound) (loads : manager.loadState = .ok loaded) :
    loaded.NothingOwed ∧ loaded.OneShotSound := by
  rcases (loadState_effect loads).1 with ⟨jobs, rfl, _⟩
  exact ⟨free, free.sound sound rfl rfl sound.stored sound.stored⟩

theorem reload_sound (sound : manager.OneShotSound)
    (reloaded : manager.reload zones now = some target) :
    target.OneShotSound := by
  unfold reload at reloaded
  cases loads : manager.loadState with
  | error error =>
    rw [loads] at reloaded
    cases reloaded
  | ok loaded =>
    rw [loads] at reloaded
    rcases (loadState_effect loads).1 with ⟨jobs, rfl, _⟩
    have tasks : TasksFrom manager
        ({ manager with
            jobs := jobs
            usage := manager.file.usage
            tasks := Dict.empty
            runningIds := []
            deleting := []
            deletions := [] } : CronManager) := by
      rintro jobId task ⟨⟩
    have restarted := sound.of_tasks tasks rfl sound.stored sound.stored
      (by rintro jobId task ⟨⟩)
    have after := rebuildDeadlines_sound zones restarted
      (by rintro entry ⟨⟩) now false
    dsimp only at reloaded
    split at reloaded
    case h_1 rebuilt equal =>
      cases reloaded
      rw [equal] at after
      exact after
    case h_2 => cases reloaded

theorem createJob_sound {request : JobRequest} (sound : manager.OneShotSound)
    (created : manager.createJob zones request jobId now = .ok target) :
    target.OneShotSound := by
  unfold createJob at created
  split_ifs at created
  cases first : manager.firstDeadline zones request now with
  | error error =>
    rw [first] at created
    cases created
  | ok deadline =>
    rw [first] at created
    cases requested : requestedJob request jobId deadline now with
    | error error =>
      simp only [bind, Except.bind, requested] at created
      cases created
    | ok job =>
      simp only [bind, Except.bind, requested] at created
      cases created
      exact sound.of_tasks (TasksFrom.of_eq rfl) rfl rfl rfl fun other _ _ _ active =>
          ⟨Dict.contains_insert _ _ active.1, active.2⟩

theorem not_owed_cancel (task : CronTask) : ¬ task.cancel.Owed := by
  rintro ⟨_, _, cancelled⟩
  cases cancelled

theorem beginDelete_sound (sound : manager.OneShotSound)
    (deleted : manager.beginDelete jobId = .ok target) :
    target.OneShotSound := by
  unfold beginDelete at deleted
  split_ifs at deleted
  cases deleted
  cases found : manager.tasks.get? jobId with
  | none =>
    refine sound.of_tasks (TasksFrom.of_eq rfl) rfl rfl sound.stored ?_
    intro other task present _ active
    refine ⟨active.1, ?_⟩
    have different : other ≠ jobId := by
      rintro rfl
      have missing : manager.tasks.get? other = some task := present
      rw [found] at missing
      cases missing
    exact List.not_mem_cons_of_ne_of_not_mem different active.2
  | some task =>
    refine sound.of_tasks (TasksFrom.of_insert found rfl rfl id
        fun owed => absurd owed (not_owed_cancel task))
      rfl rfl sound.stored ?_
    intro other left present owed active
    refine ⟨active.1, ?_⟩
    have different : other ≠ jobId := by
      rintro rfl
      have inserted :
          (manager.tasks.insert other task.cancel).get? other =
            some left := present
      rw [Dict.get?_insert_self] at inserted
      cases inserted
      exact not_owed_cancel task owed
    exact List.not_mem_cons_of_ne_of_not_mem different active.2

theorem deletion_sound {deletion : Deletion} (sound : manager.OneShotSound)
    (stepped : manager.purgeDelete deletion = some target ∨
        manager.finishDelete deletion = some target ∨ manager.abortDelete deletion = some target) :
    target.OneShotSound := by
  have fewer : ∀ other, other ∉ manager.deleting →
      other ∉ manager.deleting.filter (· ≠ deletion.jobId) :=
    fun other absent member => absent (List.mem_of_mem_filter member)
  rcases stepped with stepped | stepped | stepped
  · unfold purgeDelete at stepped
    split_ifs at stepped
    cases stepped
    exact sound.of_tasks (TasksFrom.of_eq rfl) rfl rfl sound.stored fun _ _ _ _ => id
  · unfold finishDelete at stepped
    split_ifs at stepped
    cases stepped
    refine sound.of_tasks (TasksFrom.of_erase rfl) rfl rfl rfl ?_
    intro other task present _ active
    have different : other ≠ deletion.jobId := by
      rintro rfl
      have erased :
          (manager.tasks.erase deletion.jobId).get? deletion.jobId =
            some task := present
      rw [Dict.get?_erase_self] at erased
      cases erased
    exact ⟨Dict.contains_erase_of_ne different active.1, fewer other active.2⟩
  · unfold abortDelete at stepped
    split_ifs at stepped
    cases stepped
    exact sound.of_tasks (TasksFrom.of_eq rfl) rfl rfl sound.stored
      fun other _ _ _ active => ⟨active.1, fewer other active.2⟩

theorem close_sound (sound : manager.OneShotSound) :
    manager.close.OneShotSound := by
  have cancelled : ∀ jobId task,
      manager.close.tasks.get? jobId = some task →
      ∃ earlier, manager.tasks.get? jobId = some earlier ∧
        task = earlier.cancel := by
    intro jobId task found
    rw [← Dict.mem_entries_iff] at found
    rcases List.mem_map.mp found with ⟨entry, member, same⟩
    cases same
    exact ⟨entry.2, (Dict.mem_entries_iff _ _ _).mp member, rfl⟩
  refine sound.of_tasks ?_ rfl rfl sound.stored ?_
  · intro jobId task found
    rcases cancelled jobId task found with ⟨earlier, present, rfl⟩
    exact ⟨earlier, present, rfl, id, fun owed => absurd owed (not_owed_cancel earlier)⟩
  · intro jobId task found owed
    rcases cancelled jobId task found with ⟨earlier, _, rfl⟩
    exact absurd owed (not_owed_cancel earlier)

/--
A change of timezone and an initialization of the schedule happen while no
task of a one-shot job is owed anything.
-/
def RebuildsSafely (zones : ZoneDatabase) (manager : CronManager) : CronEvent → Prop
  | .updateTimezone name _ => zones.known name = true → manager.NothingOwed
  | .initializeSchedule _ => manager.NothingOwed
  | _ => True

instance (manager : CronManager) (event : CronEvent) :
    Decidable (manager.RebuildsSafely zones event) :=
  match event with
  | .updateTimezone _ _ =>
    inferInstanceAs (Decidable (_ = true → NothingOwed _))
  | .initializeSchedule _ => inferInstanceAs (Decidable (NothingOwed _))
  | .createJob _ _ _ | .runDue _ _ | .reload _ | .close | .stepTask _
  | .markRunning _ | .cancelTask _ | .executorReturned _ _ | .delivered _
  | .beginDelete _ | .purgeDelete _ | .finishDelete _ | .abortDelete _ =>
    inferInstanceAs (Decidable True)

theorem step_sound {event : CronEvent} (sound : manager.OneShotSound)
    (safe : manager.RebuildsSafely zones event)
    (stepped : manager.step zones event = some target) :
    target.OneShotSound := by
  cases event with
  | createJob request jobId now =>
    simp only [step] at stepped
    split_ifs at stepped
    cases created : manager.createJob zones request jobId now with
    | error error =>
      rw [created] at stepped
      cases stepped
      exact sound
    | ok after =>
      rw [created] at stepped
      cases stepped
      exact createJob_sound sound created
  | runDue moment now =>
    cases stepped
    exact runDue_sound sound moment now
  | updateTimezone name now =>
    simp only [step, updateTimezone] at stepped
    split_ifs at stepped with known
    · cases stepped
      have free := safe known
      have renamed :
          ({ manager with timezone := name } : CronManager).OneShotSound :=
        free.sound sound rfl rfl rfl sound.stored
      exact rebuildDeadlines_sound zones renamed free now true
    · cases stepped
      exact sound
  | initializeSchedule now =>
    simp only [step, initializeSchedule] at stepped
    cases loads : manager.loadState with
    | error error =>
      rw [loads] at stepped
      cases stepped
      exact sound
    | ok loaded =>
      rw [loads] at stepped
      cases stepped
      have after := loadState_sound safe sound loads
      exact rebuildDeadlines_sound zones after.2 after.1 now true
  | reload now => exact reload_sound sound stepped
  | close =>
    cases stepped
    exact close_sound sound
  | stepTask jobId =>
    rcases Option.map_eq_some_iff.mp stepped with ⟨task, found, rfl⟩
    rcases taskAt_eq_some found with ⟨present, stage⟩
    refine stepTask_sound sound present ?_
    rw [List.mem_singleton] at stage
    rw [CronTask.pending, stage]
    rfl
  | markRunning jobId =>
    rcases Option.map_eq_some_iff.mp stepped with ⟨task, found, rfl⟩
    rcases taskAt_eq_some found with ⟨present, stage⟩
    refine markRunning_sound sound present ?_
    rw [List.mem_singleton] at stage
    rw [CronTask.pending, stage]
    rfl
  | cancelTask jobId =>
    rcases Option.map_eq_some_iff.mp stepped with ⟨task, found, rfl⟩
    exact cancelTask_sound sound (taskAt_eq_some found).1
  | executorReturned jobId result =>
    rcases Option.map_eq_some_iff.mp stepped with ⟨task, found, rfl⟩
    rcases taskAt_eq_some found with ⟨present, stage⟩
    refine executorReturned_sound sound result present ?_
    rw [List.mem_pair] at stage
    rcases stage with stage | stage <;> rw [CronTask.pending, stage] <;> rfl
  | delivered jobId =>
    rcases Option.map_eq_some_iff.mp stepped with ⟨task, _, rfl⟩
    exact clearTask_sound sound jobId
  | beginDelete jobId =>
    simp only [step] at stepped
    cases deleted : manager.beginDelete jobId with
    | error error =>
      rw [deleted] at stepped
      cases stepped
      exact sound
    | ok after =>
      rw [deleted] at stepped
      cases stepped
      exact beginDelete_sound sound deleted
  | purgeDelete deletion => exact deletion_sound sound (.inl stepped)
  | finishDelete deletion => exact deletion_sound sound (.inr (.inl stepped))
  | abortDelete deletion => exact deletion_sound sound (.inr (.inr stepped))

theorem fresh_sound (timezone : String) : (fresh timezone).OneShotSound where
  numbered :=
    ⟨by rintro jobId task ⟨⟩, by rintro jobId other task otherTask ⟨⟩,
      by rintro serial ⟨⟩, by rintro jobId task ⟨⟩⟩
  accounts := ⟨by rintro entry ⟨⟩, rfl, by rintro jobId task ⟨⟩⟩
  stored := rfl

/--
In every state of a run whose changes of timezone and initializations happen
beside no live task of a one-shot job, each execution of a one-shot job that
returned without having been deleted or cancelled is accounted and announced
exactly once.
-/
theorem cronRuns_accountOneShots
    {manager : CronManager}
    (reached : (cronMachine zones).Reaches (RebuildsSafely zones) manager) :
    manager.AccountsOneShots := by
  have sound : manager.OneShotSound := by
    refine reached.invariant ?_ ?_
    · rintro _ ⟨timezone, _, rfl⟩
      exact fresh_sound timezone
    · intro earlier event target _ sound safe stepped
      exact step_sound sound safe stepped
  exact sound.accounts

/-- A reminder that is due is started, and its executor is running. -/
def runningReminder : List CronEvent :=
  [.createJob ⟨"once", false, none, some (.aware (leapMoment 1)), none⟩ "a" (leapMoment 0),
    .runDue (leapMoment 1) (leapMoment 1), .stepTask "a", .markRunning "a"]

/-- The timezone is set again beside it, and its result is dropped. -/
theorem timezone_drops_running_reminder : ∃ manager,
      (cronMachine onlyUtc).run (.fresh "UTC") (runningReminder ++
            [.updateTimezone "UTC" (leapMoment 1),
              .executorReturned "a" ⟨true, "done", ⟨1, 1, 2⟩⟩]) =
          some manager ∧
        ¬ manager.AccountsOneShots := by
  refine ⟨_, rfl, fun accounts => ?_⟩
  have once := accounts.returned
    ⟨0, true, false, ⟨true, "done", ⟨1, 1, 2⟩⟩⟩ (by decide) rfl rfl
  exact absurd once.once (by decide)

/-- Set again before and after it, the timezone drops nothing. -/
theorem timezone_beside_no_reminder_accounts : ∃ manager, (cronMachine onlyUtc).run (.fresh "UTC")
          (.updateTimezone "UTC" (leapMoment 0) :: (runningReminder ++
              [.executorReturned "a" ⟨true, "done", ⟨1, 1, 2⟩⟩,
                .updateTimezone "UTC" (leapMoment 1)])) =
          some manager ∧
        manager.log.published = [0] ∧ manager.AccountsOneShots := by
  refine ⟨_, rfl, rfl, ?_⟩
  have evaluated :
      (cronMachine onlyUtc).runGuarded (RebuildsSafely onlyUtc) (.fresh "UTC")
          (.updateTimezone "UTC" (leapMoment 0) :: (runningReminder ++
              [.executorReturned "a" ⟨true, "done", ⟨1, 1, 2⟩⟩,
                .updateTimezone "UTC" (leapMoment 1)])) = some _ := rfl
  exact cronRuns_accountOneShots (.runGuarded (.start ⟨"UTC", rfl, rfl⟩) evaluated)

end CronManager
end TurningGood.Proactive
