import TurningGood.Proactive.CronRebuild

/-!
# One-shot jobs across crashes

A crash loses the memory of the manager and keeps the snapshot on disk.  A
pass creates the task of a one-shot job, consumes the deadline and saves the
jobs before any task takes a step, so that a manager that loads the snapshot
finds no deadline for a job whose executor was called.  A pass that raises
does not save; where it raises behind a one-shot job, the snapshot keeps the
deadline of a job whose task runs.
-/

namespace TurningGood.Proactive

open TurningGood.Foundation

variable {target : CronManager} {event : CronEvent}

/-- A call of the executor by the first step of a task. -/
structure ExecutorCall where
  jobId : String
  oneShot : Bool
  deriving DecidableEq, Repr

namespace CronManager

/-- The calls that an event makes: the first step of a task of a job. -/
def executorCalls (manager : CronManager) : CronEvent → List ExecutorCall
  | .stepTask jobId =>
    if manager.jobs.contains jobId then
      ((manager.taskAt jobId [.created]).map fun task =>
        ExecutorCall.mk jobId task.oneShot).toList
    else
      []
  | _ => []

end CronManager

/-- A manager with the calls of the executor, those before crashes included. -/
structure CronHistory where
  manager : CronManager
  calls : List ExecutorCall

/-- The runs of a manager and its restarts, from an empty store. -/
def callMachine (zones : ZoneDatabase) : Machine CronHistory CronEvent where
  initial history := (cronMachine zones).initial history.manager ∧ history.calls = []
  step history event := (history.manager.step zones event).map fun target =>
      ⟨target, history.calls ++ history.manager.executorCalls event⟩

/--
The executor was called once at most for every one-shot job, and the snapshot
holds no deadline of a one-shot job for which it was called.
-/
structure CronHistory.FiresOnce (history : CronHistory) : Prop where
  once : ∀ jobId, history.calls.count ⟨jobId, true⟩ ≤ 1
  saved : ∀ jobId, ⟨jobId, true⟩ ∈ history.calls →
      ∀ row ∈ history.manager.file.jobs, row.id = jobId → row.plan = .oneShot none

namespace CronManager

variable {zones : ZoneDatabase}

variable {target : CronManager} {event : CronEvent} {now : Nat}

/-! ## What is on disk behind an event -/

variable {manager : CronManager}

theorem Saved.get?_of_mem (saved : manager.Saved) (keyed : manager.Keyed)
    {row : CronJob} (member : row ∈ manager.file.jobs) :
    manager.jobs.get? row.id = some row := by
  rw [saved] at member
  unfold snapshot listJobs at member
  rw [(List.perm_insertionSort _ _).mem_iff] at member
  exact keyed.get?_of_mem_values member

/-- The file, the jobs and their deadlines are the same. -/
structure SameStore (before after : CronManager) : Prop where
  file : after.file = before.file
  jobs : after.jobs = before.jobs
  nextFire : after.nextFire = before.nextFire

theorem SameStore.refl (manager : CronManager) :
    SameStore manager manager :=
  ⟨rfl, rfl, rfl⟩

theorem cancelJob_file (manager : CronManager) (jobId : String) : (manager.cancelJob jobId).Saved ∨
      SameStore manager (manager.cancelJob jobId) := by
  unfold cancelJob
  split_ifs
  · exact .inr (.refl manager)
  · split
    · exact .inr (.refl manager)
    · split_ifs
      · exact .inr (.refl manager)
      · exact .inl rfl

theorem clearTask_file {before : CronManager} (jobId : String)
    (stored : manager.Saved ∨ SameStore before manager) :
    (manager.clearTask jobId).Saved ∨
      SameStore before (manager.clearTask jobId) := by
  rcases stored with saved | same
  · exact .inl saved
  · exact .inr ⟨same.file, same.jobs, same.nextFire⟩

theorem executorReturned_file (manager : CronManager) (jobId : String) (task : CronTask)
    (result : ExecutionResult) :
    (manager.executorReturned jobId task result).Saved ∨
      SameStore manager (manager.executorReturned jobId task result) := by
  unfold executorReturned finishJob
  split_ifs
  · exact .inr ⟨rfl, rfl, rfl⟩
  · split
    · exact .inr ⟨rfl, rfl, rfl⟩
    · exact .inl rfl

variable (zones) in
/-- A rebuild leaves the file, or saves. -/
theorem rebuildDeadlines_file (manager : CronManager) (now : Nat) (persist : Bool) :
    (manager.rebuildDeadlines zones now persist).1.Saved ∨
      (manager.rebuildDeadlines zones now persist).1.file =
        manager.file := by
  unfold rebuildDeadlines
  rcases loop : rebuildLoop zones now persist manager.jobs.values
        { manager with nextFire := Dict.empty } false with
    ⟨final, result⟩
  rcases (rebuildLoop_effect loop).1 with ⟨jobs, nextFire, rfl⟩
  cases result with
  | error error => exact .inr rfl
  | ok changed =>
    dsimp only
    split_ifs
    · exact .inl rfl
    · exact .inr rfl

theorem step_file (ordinary : ¬ Rebuilds event) (noPass : ∀ moment now, event ≠ .runDue moment now)
    (stepped : manager.step zones event = some target) :
    target.Saved ∨ SameStore manager target := by
  cases event with
  | createJob request jobId now =>
    simp only [step] at stepped
    split_ifs at stepped
    cases created : manager.createJob zones request jobId now with
    | error error =>
      rw [created] at stepped
      cases stepped
      exact .inr ⟨rfl, rfl, rfl⟩
    | ok after =>
      rw [created] at stepped
      cases stepped
      rcases createJob_eq_ok created with ⟨_, _, _, _, rfl⟩
      exact .inl rfl
  | runDue moment now => exact absurd rfl (noPass moment now)
  | updateTimezone name now => exact absurd trivial ordinary
  | initializeSchedule now => exact absurd trivial ordinary
  | reload now => exact absurd trivial ordinary
  | close =>
    cases stepped
    exact .inr ⟨rfl, rfl, rfl⟩
  | stepTask jobId =>
    rcases Option.map_eq_some_iff.mp stepped with ⟨task, _, rfl⟩
    unfold stepTask
    split_ifs
    · exact .inr ⟨rfl, rfl, rfl⟩
    · exact .inr ⟨rfl, rfl, rfl⟩
  | markRunning jobId =>
    rcases Option.map_eq_some_iff.mp stepped with ⟨task, _, rfl⟩
    unfold markRunning
    split_ifs
    · exact clearTask_file jobId (cancelJob_file manager jobId)
    · exact .inr ⟨rfl, rfl, rfl⟩
  | cancelTask jobId =>
    rcases Option.map_eq_some_iff.mp stepped with ⟨task, _, rfl⟩
    unfold cancelTask
    split_ifs
    · exact .inr ⟨rfl, rfl, rfl⟩
    · exact clearTask_file jobId (cancelJob_file manager jobId)
  | executorReturned jobId result =>
    rcases Option.map_eq_some_iff.mp stepped with ⟨task, _, rfl⟩
    exact executorReturned_file manager jobId task result
  | delivered jobId =>
    rcases Option.map_eq_some_iff.mp stepped with ⟨task, _, rfl⟩
    exact .inr ⟨rfl, rfl, rfl⟩
  | beginDelete jobId =>
    simp only [step] at stepped
    cases deleted : manager.beginDelete jobId with
    | error error =>
      rw [deleted] at stepped
      cases stepped
      exact .inr ⟨rfl, rfl, rfl⟩
    | ok after =>
      rw [deleted] at stepped
      cases stepped
      unfold beginDelete at deleted
      split_ifs at deleted
      cases deleted
      exact .inr ⟨rfl, rfl, rfl⟩
  | purgeDelete deletion =>
    simp only [step, purgeDelete] at stepped
    split_ifs at stepped
    cases stepped
    exact .inr ⟨rfl, rfl, rfl⟩
  | finishDelete deletion =>
    simp only [step, finishDelete] at stepped
    split_ifs at stepped
    cases stepped
    exact .inl rfl
  | abortDelete deletion =>
    simp only [step, abortDelete] at stepped
    split_ifs at stepped
    cases stepped
    exact .inr ⟨rfl, rfl, rfl⟩

/-- The entries that a pass takes before it raises. -/
def takenEntries (zones : ZoneDatabase) (manager : CronManager) (moment : Nat) :
    List (Nat × String) :=
  (manager.dueEntries moment).takeWhile fun entry =>
    decide (EntryFires zones manager entry)

theorem takeWhile_congr
    {α : Type} {left right : α → Bool} {items : List α}
    (agree : ∀ item ∈ items, left item = right item) :
    items.takeWhile left = items.takeWhile right := by
  induction items with
  | nil => rfl
  | cons item rest induction =>
    rw [List.takeWhile_cons, List.takeWhile_cons, agree item List.mem_cons_self,
      induction fun other member =>
        agree other (List.mem_cons_of_mem item member)]

theorem runDueLoop_stopped {moment : Nat} {entries : List (Nat × String)}
    {run final : DueRun} {error : String} (keyed : run.manager.Keyed)
    (distinct : (entries.map Prod.snd).Nodup) (due : ∀ entry ∈ entries,
        run.manager.nextFire.get? entry.2 = some entry.1 ∧ entry.1 ≤ moment)
    (loop : runDueLoop zones now entries run = (final, .error error)) :
    ∀ other, other ∉ ((entries.takeWhile fun entry =>
        decide (EntryFires zones run.manager entry)).map Prod.snd) →
        final.manager.view other = run.manager.view other := by
  induction entries generalizing run with
  | nil => cases loop
  | cons entry rest induction =>
    simp only [runDueLoop] at loop
    rw [List.map_cons, List.nodup_cons] at distinct
    cases taken : runDueEntry zones now run entry with
    | error error =>
      rw [taken] at loop
      cases loop
      exact fun _ _ => rfl
    | ok next =>
      rw [taken] at loop
      rcases due entry List.mem_cons_self with ⟨indexed, early⟩
      have others := (view_runDueEntry keyed indexed early taken).2
      have effect := runDueEntry_effect keyed taken
      have fires : EntryFires zones run.manager entry :=
        (runDueEntry_isOk_iff now).mp ⟨next, taken⟩
      have different : ∀ item ∈ rest, item.2 ≠ entry.2 := by
        intro item member same
        exact distinct.1 (same ▸ List.mem_map_of_mem member)
      have laterDue : ∀ item ∈ rest,
          next.manager.nextFire.get? item.2 = some item.1 ∧ item.1 ≤ moment := by
        intro item member
        rw [(effect.2.1 item.2 (different item member)).fire]
        exact due item (List.mem_cons_of_mem entry member)
      have sameTest : rest.takeWhile (fun item =>
            decide (EntryFires zones next.manager item)) =
          rest.takeWhile fun item =>
            decide (EntryFires zones run.manager item) := by
        refine takeWhile_congr fun item member => ?_
        rw [decide_eq_decide]
        exact EntryFires.congr effect.2.2.1 (effect.2.1 item.2 (different item member))
      intro other absent
      rw [List.takeWhile_cons, if_pos (by simpa using fires),
        List.map_cons, List.mem_cons, not_or] at absent
      have later := induction effect.2.2.2 distinct.2 laterDue loop other
      rw [sameTest] at later
      rw [later absent.2, others other absent.1]
variable (zones) in
/-- What a pass leaves on disk: it saves, changes nothing, or raises. -/
theorem runDue_file
    {manager : CronManager} (keyed : manager.Keyed) (moment now : Nat) :
    (manager.runDue zones moment now).1.Saved ∨ (manager.runDue zones moment now).1 = manager ∨
      ¬ DueJobsFire zones manager moment ∧ (manager.runDue zones moment now).1.file = manager.file ∧
        ∀ other, other ∉ (takenEntries zones manager moment).map Prod.snd →
            (manager.runDue zones moment now).1.view other =
              manager.view other := by
  rcases loop : runDueLoop zones now (manager.dueEntries moment) ⟨manager, 0, false⟩
    with ⟨final, result⟩
  have due : ∀ entry ∈ manager.dueEntries moment,
      manager.nextFire.get? entry.2 = some entry.1 ∧ entry.1 ≤ moment :=
    fun entry member => mem_dueEntries_iff.mp member
  cases result with
  | ok done =>
    rw [runDue_of_finished loop]
    dsimp only
    split_ifs with changed
    · exact .inl rfl
    · have unchanged :=
        runDueLoop_unchanged loop (eq_false_of_ne_true changed)
      rw [unchanged]
      exact .inr (.inl rfl)
  | error error =>
    have context := (runDueLoop_context loop).file
    have stopped := runDueLoop_stopped keyed
      (dueEntries_distinct manager moment) due loop
    rw [runDue_of_stopped loop]
    refine .inr (.inr ⟨fun fires => ?_, context, stopped⟩)
    have finished :=
      (runDueLoop_isOk_iff_dueJobsFire keyed moment now).mpr fires
    rw [loop] at finished
    cases finished

/-- Neither the memory nor the snapshot holds a deadline of the job. -/
structure Spent (manager : CronManager) (jobId : String) : Prop where
  used : (manager.view jobId).used = true
  fire : (manager.view jobId).fire = none
  job : ∀ job, (manager.view jobId).job = some job → job.plan = .oneShot none
  row : ∀ row ∈ manager.file.jobs, row.id = jobId → row.plan = .oneShot none

/-- The ids of the jobs and of the rows on disk have been used. -/
structure IdsUsed (manager : CronManager) : Prop where
  jobs : ∀ jobId, (manager.view jobId).job ≠ none → (manager.view jobId).used = true
  rows : ∀ row ∈ manager.file.jobs, (manager.view row.id).used = true

section Moves

variable {timezone : Timezone} {jobId : String} {event : CronEvent}
  {before after : JobView}

theorem used_of_move (moved : JobMove timezone jobId event before after) :
    (before.used = true → after.used = true) ∧ ((before.job ≠ none → before.used = true) →
        after.job ≠ none → after.used = true) := by
  cases moved with
  | create => exact ⟨fun _ => rfl, fun _ _ => rfl⟩
  | advance present =>
    exact ⟨id, fun used _ => used (present ▸ Option.some_ne_none _)⟩
  | cancelOneShot => exact ⟨id, fun _ gone => absurd rfl gone⟩
  | settleOneShot => exact ⟨id, fun _ gone => absurd rfl gone⟩
  | finishDelete => exact ⟨id, fun _ gone => absurd rfl gone⟩
  | stay | forget | callExecutor | run | endUnstarted | requestCancel | clear
  | settleRecurring | beginDelete | abortDelete => exact ⟨id, id⟩

theorem task_of_move (moved : JobMove timezone jobId event before after)
    {task : CronTask} (found : after.task = some task) :
    (∃ earlier, before.task = some earlier ∧ task.oneShot = earlier.oneShot ∧
        (task.stage = .created → earlier.stage = .created)) ∨
      ∃ moment now scheduledAt job, event = .runDue moment now ∧ before.job = some job ∧
          before.deleting = false ∧ before.fire = some scheduledAt ∧
          before.task = none ∧ task.oneShot = !job.recurring := by
  cases moved with
  | stay => exact .inl ⟨task, found, rfl, id⟩
  | create => exact .inl ⟨task, found, rfl, id⟩
  | forget => exact .inl ⟨task, found, rfl, id⟩
  | advance present kept due early sameId next given =>
    cases found
    rcases given with held | ⟨missing, new⟩
    · exact .inl ⟨task, held, rfl, id⟩
    · exact .inr ⟨_, _, _, _, rfl, present, kept, due, missing, new.oneShot⟩
  | callExecutor present held stage =>
    cases found
    exact .inl ⟨_, held, rfl, fun impossible => by cases impossible⟩
  | run present kept held stage =>
    cases found
    exact .inl ⟨_, held, rfl, fun impossible => by cases impossible⟩
  | endUnstarted held stage =>
    cases found
    exact .inl ⟨_, held, rfl, fun impossible => by cases impossible⟩
  | requestCancel held =>
    cases found
    exact .inl ⟨_, held, rfl, id⟩
  | clear => cases found
  | cancelOneShot => cases found
  | settleRecurring present recurring held =>
    cases found
    exact .inl ⟨_, held, rfl, fun impossible => by cases impossible⟩
  | settleOneShot present oneShot held =>
    cases found
    exact .inl ⟨_, held, rfl, fun impossible => by cases impossible⟩
  | beginDelete present =>
    rcases Option.map_eq_some_iff.mp found with ⟨earlier, held, rfl⟩
    exact .inl ⟨earlier, held, rfl, id⟩
  | finishDelete => cases found
  | abortDelete => exact .inl ⟨task, found, rfl, id⟩

theorem spent_of_move (moved : JobMove timezone jobId event before after)
    (used : before.used = true) (fire : before.fire = none)
    (job : ∀ job, before.job = some job → job.plan = .oneShot none) :
    after.fire = none ∧ ∀ job, after.job = some job → job.plan = .oneShot none := by
  cases moved with
  | create unused => exact absurd (used.symm.trans unused) (by simp)
  | advance _ _ due => exact absurd (fire.symm.trans due) (by simp)
  | forget => exact ⟨rfl, job⟩
  | cancelOneShot => exact ⟨rfl, fun _ gone => (by cases gone)⟩
  | settleOneShot => exact ⟨rfl, fun _ gone => (by cases gone)⟩
  | finishDelete => exact ⟨rfl, fun _ gone => (by cases gone)⟩
  | stay | callExecutor | run | endUnstarted | requestCancel | clear
  | settleRecurring | beginDelete | abortDelete => exact ⟨fire, job⟩

theorem spent_of_pass
    {moment now : Nat} {job : CronJob}
    (moved : JobMove timezone jobId (.runDue moment now) before after)
    (present : before.job = some job) (oneShot : job.recurring = false)
    (fresh : after.task ≠ before.task) :
    after.fire = none ∧ ∀ job, after.job = some job → job.plan = .oneShot none := by
  cases moved with
  | stay => exact absurd rfl fresh
  | forget missing => exact absurd (missing.symm.trans present) (by simp)
  | advance held kept due early sameId next given =>
    cases held.symm.trans present
    rename_i updated fire task
    unfold CronJob.recurring at oneShot
    cases planned : job.plan with
    | recurring cron nextRunAt =>
      rw [planned] at oneShot
      cases oneShot
    | oneShot nextRunAt =>
      rw [planned] at next
      refine ⟨next.2, ?_⟩
      rintro _ ⟨⟩
      exact next.1
  | clear ofTask => exact ofTask.elim
  | cancelOneShot ofTask => exact ofTask.elim

end Moves

/-! ## Events other than rebuilds -/

theorem ordinary_file (keyed : manager.Keyed) (ordinary : ¬ Rebuilds event)
    (stepped : manager.step zones event = some target) :
    target.Saved ∨ target.file = manager.file := by
  by_cases pass : ∃ moment now, event = .runDue moment now
  · rcases pass with ⟨moment, now, rfl⟩
    cases stepped
    rcases runDue_file zones keyed moment now with saved | same | ⟨_, same, _⟩
    · exact .inl saved
    · exact .inr (congrArg CronManager.file same)
    · exact .inr same
  · rw [not_exists] at pass
    have stored := step_file ordinary
      (fun moment now same => pass moment ⟨now, same⟩) stepped
    exact stored.imp_right SameStore.file

theorem idsUsed_ordinary (keyed : manager.Keyed) (used : manager.IdsUsed)
    (ordinary : ¬ Rebuilds event)
    (stepped : manager.step zones event = some target) : target.IdsUsed := by
  have moves := fun jobId =>
    used_of_move (step_move keyed ordinary stepped jobId)
  have jobs : ∀ jobId, (target.view jobId).job ≠ none →
      (target.view jobId).used = true :=
    fun jobId => (moves jobId).2 (used.jobs jobId)
  refine ⟨jobs, fun row member => ?_⟩
  rcases ordinary_file keyed ordinary stepped with saved | same
  · have found := saved.get?_of_mem (step_keyed keyed stepped) member
    exact jobs row.id (Option.ne_none_iff_exists'.mpr ⟨row, found⟩)
  · rw [same] at member
    exact (moves row.id).1 (used.rows row member)

variable {jobId : String}

theorem spent_ordinary (keyed : manager.Keyed) (spent : manager.Spent jobId)
    (ordinary : ¬ Rebuilds event)
    (stepped : manager.step zones event = some target) :
    target.Spent jobId := by
  have moved := step_move keyed ordinary stepped jobId
  have after := spent_of_move moved spent.used spent.fire spent.job
  refine ⟨(used_of_move moved).1 spent.used, after.1, after.2, ?_⟩
  rintro row member rfl
  rcases ordinary_file keyed ordinary stepped with saved | same
  · exact after.2 row (saved.get?_of_mem (step_keyed keyed stepped) member)
  · rw [same] at member
    exact spent.row row member rfl

variable (zones) in
/--
The pass returns, or it raises before it takes any one-shot job that is not
being deleted.
-/
def SavesOneShots (manager : CronManager) : CronEvent → Prop
  | .runDue moment _ =>
    DueJobsFire zones manager moment ∨ ∀ entry ∈ takenEntries zones manager moment,
        ∀ job ∈ manager.jobs.get? entry.2, job.recurring = true ∨ entry.2 ∈ manager.deleting
  | _ => True

instance (manager : CronManager) (event : CronEvent) :
    Decidable (manager.SavesOneShots zones event) :=
  match event with
  | .runDue _ _ =>
    inferInstanceAs (Decidable (DueJobsFire _ _ _ ∨ ∀ entry ∈ _, _))
  | .createJob _ _ _ | .updateTimezone _ _ | .initializeSchedule _
  | .reload _ | .close | .stepTask _ | .markRunning _ | .cancelTask _
  | .executorReturned _ _ | .delivered _ | .beginDelete _ | .purgeDelete _
  | .finishDelete _ | .abortDelete _ => inferInstanceAs (Decidable True)

theorem spent_of_newTask {moment : Nat} {job : CronJob}
    (keyed : manager.Keyed) (used : manager.IdsUsed)
    (saves : manager.SavesOneShots zones (.runDue moment now))
    (present : manager.jobs.get? jobId = some job)
    (oneShot : job.recurring = false) (kept : jobId ∉ manager.deleting) (fresh :
      ((manager.runDue zones moment now).1.view jobId).task ≠ (manager.view jobId).task) :
    (manager.runDue zones moment now).1.Spent jobId := by
  have pass := view_runDue zones keyed moment now
  have moved := pass.2 jobId
  have after := spent_of_pass moved present oneShot fresh
  have wasUsed : (manager.view jobId).used = true :=
    used.jobs jobId (Option.ne_none_iff_exists'.mpr ⟨job, present⟩)
  refine ⟨(used_of_move moved).1 wasUsed, after.1, after.2, ?_⟩
  rintro row member rfl
  rcases runDue_file zones keyed moment now with saved | same | ⟨raises, _, behind⟩
  · exact after.2 row (saved.get?_of_mem pass.1 member)
  · rw [same] at fresh
    exact absurd rfl fresh
  · rcases saves with fires | early
    · exact absurd fires raises
    · have reached :
          row.id ∈ (takenEntries zones manager moment).map Prod.snd := by
        by_contra absent
        exact fresh (congrArg JobView.task (behind row.id absent))
      rcases List.mem_map.mp reached with ⟨entry, taken, named⟩
      rw [← named] at present kept
      rcases early entry taken job present with recurring | deleting
      · rw [oneShot] at recurring
        cases recurring
      · exact absurd deleting kept

theorem spent_rebuild {persist : Bool} {result : Except String Unit}
    (keyed : manager.Keyed) (spent : manager.Spent jobId) (rebuilt :
      manager.rebuildDeadlines zones now persist = (target, result)) :
    target.Spent jobId := by
  have visits := (view_rebuildDeadlines keyed rebuilt).1 jobId
  have file := rebuildDeadlines_file zones manager now persist
  have after : (target.view jobId).used = true ∧
      (target.view jobId).fire = none ∧
      ∀ job, (target.view jobId).job = some job →
        job.plan = .oneShot none := by
    rcases visits with same | visited
    · rw [same]
      exact ⟨spent.used, rfl, spent.job⟩
    · generalize target.view jobId = after at visited ⊢
      cases visited with
      | missed present passed =>
        refine ⟨spent.used, rfl, fun job found => ?_⟩
        dsimp only at found
        split_ifs at found
        cases found
        exact spent.job _ present
      | indexed present next kept =>
        have plan := spent.job _ present
        unfold nextJobFire at next
        rw [plan] at next
        cases next
      | replaced present planned =>
        have plan := spent.job _ present
        rw [planned] at plan
        cases plan
  rw [rebuilt] at file
  refine ⟨after.1, after.2.1, after.2.2, ?_⟩
  rintro row member rfl
  rcases file with saved | same
  · exact after.2.2 row (saved.get?_of_mem ((rebuildDeadlines_effect rebuilt).2.1 keyed) member)
  · rw [same] at member
    exact spent.row row member rfl

theorem idsUsed_rebuild {persist : Bool} {result : Except String Unit}
    (keyed : manager.Keyed) (used : manager.IdsUsed) (rebuilt :
      manager.rebuildDeadlines zones now persist = (target, result)) :
    target.IdsUsed := by
  have visits := (view_rebuildDeadlines keyed rebuilt).1
  have file := rebuildDeadlines_file zones manager now persist
  rw [rebuilt] at file
  have same : ∀ jobId,
      (target.view jobId).used = (manager.view jobId).used ∧
        ((target.view jobId).job ≠ none → (manager.view jobId).job ≠ none) := by
    intro jobId
    rcases visits jobId with same | visited
    · rw [same]
      exact ⟨rfl, id⟩
    · generalize target.view jobId = after at visited ⊢
      cases visited with
      | missed present passed =>
        exact ⟨rfl, fun _ => present ▸ Option.some_ne_none _⟩
      | indexed present next kept => exact ⟨rfl, id⟩
      | replaced present planned =>
        exact ⟨rfl, fun _ => present ▸ Option.some_ne_none _⟩
  have jobs : ∀ jobId, (target.view jobId).job ≠ none →
      (target.view jobId).used = true := by
    intro jobId present
    rw [(same jobId).1]
    exact used.jobs jobId ((same jobId).2 present)
  refine ⟨jobs, fun row member => ?_⟩
  rcases file with saved | unchanged
  · have found := saved.get?_of_mem
      ((rebuildDeadlines_effect rebuilt).2.1 keyed) member
    exact jobs row.id (Option.ne_none_iff_exists'.mpr ⟨row, found⟩)
  · rw [unchanged] at member
    rw [(same row.id).1]
    exact used.rows row member

theorem spent_loaded {loaded : CronManager} (spent : manager.Spent jobId)
    (loads : manager.loadState = .ok loaded) : loaded.Spent jobId := by
  rcases loadState_effect loads with ⟨⟨jobs, rfl, rows⟩, keyed, _⟩
  refine ⟨spent.used, spent.fire, fun job found => ?_, spent.row⟩
  refine spent.row job ?_ (keyed jobId job found)
  rw [← rows]
  exact (Dict.mem_values_iff jobs job).mpr ⟨jobId, found⟩

theorem idsUsed_loaded {loaded : CronManager} (used : manager.IdsUsed)
    (loads : manager.loadState = .ok loaded) : loaded.IdsUsed := by
  rcases loadState_effect loads with ⟨⟨jobs, rfl, rows⟩, keyed, _⟩
  refine ⟨fun jobId present => ?_, used.rows⟩
  rcases Option.ne_none_iff_exists'.mp present with ⟨job, found⟩
  have member : job ∈ manager.file.jobs := by
    rw [← rows]
    exact (Dict.mem_values_iff jobs job).mpr ⟨jobId, found⟩
  have named : job.id = jobId := keyed jobId job found
  exact named ▸ used.rows job member

theorem rebuild_step (keyed : manager.Keyed) (used : manager.IdsUsed) (rebuilds : Rebuilds event)
    (stepped : manager.step zones event = some target) :
    target.IdsUsed ∧ (∀ jobId, manager.Spent jobId → target.Spent jobId) ∧
      ∀ jobId task, target.tasks.get? jobId = some task →
        manager.tasks.get? jobId = some task := by
  cases event with
  | updateTimezone name now =>
    simp only [step, updateTimezone] at stepped
    split_ifs at stepped
    · cases stepped
      rcases rebuilt : ({ manager with timezone := name } :
            CronManager).rebuildDeadlines zones now true with
        ⟨after, result⟩
      have renamed :
          ({ manager with timezone := name } : CronManager).Keyed := keyed
      have sameUsed :
          ({ manager with timezone := name } : CronManager).IdsUsed :=
        ⟨used.jobs, used.rows⟩
      rcases (rebuildDeadlines_effect rebuilt).1 with ⟨jobs, nextFire, file, frame⟩
      refine ⟨idsUsed_rebuild renamed sameUsed rebuilt, ?_, ?_⟩
      · intro jobId spent
        exact spent_rebuild renamed ⟨spent.used, spent.fire, spent.job, spent.row⟩ rebuilt
      · intro jobId task found
        rw [frame] at found
        exact found
    · cases stepped
      exact ⟨used, fun _ => id, fun _ _ => id⟩
  | initializeSchedule now =>
    simp only [step, initializeSchedule] at stepped
    cases loads : manager.loadState with
    | error error =>
      rw [loads] at stepped
      cases stepped
      exact ⟨used, fun _ => id, fun _ _ => id⟩
    | ok loaded =>
      rw [loads] at stepped
      dsimp only at stepped
      have sound := (loadState_effect loads).2.1
      rcases rebuilt : loaded.rebuildDeadlines zones now true with ⟨after, result⟩
      rw [rebuilt] at stepped
      cases stepped
      rcases (rebuildDeadlines_effect rebuilt).1 with ⟨jobs, nextFire, file, frame⟩
      refine ⟨idsUsed_rebuild sound (idsUsed_loaded used loads) rebuilt, ?_, ?_⟩
      · intro jobId spent
        exact spent_rebuild sound (spent_loaded spent loads) rebuilt
      · intro jobId task found
        rcases (loadState_effect loads).1 with ⟨rows, rfl, _⟩
        rw [frame] at found
        exact found
  | reload now =>
    simp only [step, reload] at stepped
    cases loads : manager.loadState with
    | error error =>
      rw [loads] at stepped
      cases stepped
    | ok loaded =>
      rw [loads] at stepped
      dsimp only at stepped
      split at stepped
      case h_1 rebuilt equal =>
        cases stepped
        have sound :
            ({ loaded with
                tasks := Dict.empty
                runningIds := []
                deleting := []
                deletions := [] } : CronManager).Keyed :=
          (loadState_effect loads).2.1
        have loadedUsed := idsUsed_loaded used loads
        rcases (rebuildDeadlines_effect equal).1 with ⟨jobs, nextFire, file, frame⟩
        refine ⟨idsUsed_rebuild sound ⟨loadedUsed.jobs, loadedUsed.rows⟩ equal, ?_, ?_⟩
        · intro jobId spent
          have kept := spent_loaded spent loads
          exact spent_rebuild sound ⟨kept.used, kept.fire, kept.job, kept.row⟩ equal
        · intro jobId task found
          rw [frame] at found
          cases found
      case h_2 => cases stepped
  | _ => exact rebuilds.elim

theorem executorCalls_cases (manager : CronManager) (event : CronEvent) :
    manager.executorCalls event = [] ∨ ∃ jobId task,
        event = .stepTask jobId ∧ manager.jobs.contains jobId = true ∧
          manager.tasks.get? jobId = some task ∧ task.stage = .created ∧
          manager.executorCalls event = [⟨jobId, task.oneShot⟩] := by
  cases event with
  | stepTask jobId =>
    by_cases present : manager.jobs.contains jobId = true
    · cases found : manager.taskAt jobId [.created] with
      | none => exact .inl (by simp [executorCalls, found])
      | some task =>
        rcases taskAt_eq_some found with ⟨held, stage⟩
        refine .inr ⟨jobId, task, rfl, present, held, List.mem_singleton.mp stage, ?_⟩
        simp only [executorCalls, if_pos present, found, Option.map_some, Option.toList_some]
    · exact .inl (if_neg present)
  | _ => exact .inl rfl

end CronManager

open CronManager

/-- What holds of a manager and the calls of its executor. -/
structure CronHistory.Sound (history : CronHistory) : Prop where
  keyed : history.manager.Keyed
  used : history.manager.IdsUsed
  called : ∀ jobId, ⟨jobId, true⟩ ∈ history.calls → history.manager.Spent jobId
  tasks : ∀ jobId task, history.manager.tasks.get? jobId = some task →
      task.oneShot = true → history.manager.Spent jobId
  uncalled : ∀ jobId task, history.manager.tasks.get? jobId = some task →
      task.oneShot = true → task.stage = .created → ⟨jobId, true⟩ ∉ history.calls
  once : ∀ jobId, history.calls.count ⟨jobId, true⟩ ≤ 1

variable {zones : ZoneDatabase}

variable {history : CronHistory}

theorem CronHistory.Sound.rebuild (sound : history.Sound) (rebuilds : Rebuilds event)
    (stepped : history.manager.step zones event = some target) :
    CronHistory.Sound ⟨target, history.calls⟩ := by
  rcases rebuild_step sound.keyed sound.used rebuilds stepped with ⟨used, spent, tasks⟩
  refine ⟨step_keyed sound.keyed stepped, used, ?_, ?_, ?_, sound.once⟩
  · intro jobId member
    exact spent jobId (sound.called jobId member)
  · intro jobId task found oneShot
    exact spent jobId (sound.tasks jobId task (tasks jobId task found) oneShot)
  · intro jobId task found oneShot stage
    exact sound.uncalled jobId task (tasks jobId task found) oneShot stage

theorem CronHistory.Sound.task_cases (sound : history.Sound) (ordinary : ¬ Rebuilds event)
    (saves : history.manager.SavesOneShots zones event)
    (stepped : history.manager.step zones event = some target)
    {jobId : String} {task : CronTask}
    (found : target.tasks.get? jobId = some task)
    (oneShot : task.oneShot = true) :
    target.Spent jobId ∧ ((∃ earlier, history.manager.tasks.get? jobId = some earlier ∧
          earlier.oneShot = true ∧
          (task.stage = .created → earlier.stage = .created)) ∨
        history.manager.executorCalls event = [] ∧ ⟨jobId, true⟩ ∉ history.calls) := by
  have moved := step_move sound.keyed ordinary stepped jobId
  rcases task_of_move moved found with ⟨earlier, held, kind, stage⟩ |
      ⟨moment, now, scheduledAt, job, rfl, present, kept, due, missing, kind⟩
  · have once : earlier.oneShot = true := kind ▸ oneShot
    have spent := sound.tasks jobId earlier held once
    exact ⟨spent_ordinary sound.keyed spent ordinary stepped, .inl ⟨earlier, held, once, stage⟩⟩
  · cases stepped
    have once : job.recurring = false := by
      rw [oneShot] at kind
      simpa using kind.symm
    have undeleted : jobId ∉ history.manager.deleting := by
      simpa [view] using kept
    have fresh :
        ((history.manager.runDue zones moment now).1.view jobId).task ≠
          (history.manager.view jobId).task := by
      intro same
      have held :
          ((history.manager.runDue zones moment now).1.view jobId).task =
            some task := found
      rw [same, missing] at held
      cases held
    refine ⟨spent_of_newTask sound.keyed sound.used saves present once
      undeleted fresh, .inr ⟨rfl, fun member => ?_⟩⟩
    have unindexed := (sound.called jobId member).fire
    rw [due] at unindexed
    cases unindexed

theorem CronHistory.Sound.ordinary (sound : history.Sound) (ordinary : ¬ Rebuilds event)
    (saves : history.manager.SavesOneShots zones event)
    (stepped : history.manager.step zones event = some target) :
    CronHistory.Sound ⟨target, history.calls ++ history.manager.executorCalls event⟩ := by
  have kept : ∀ jobId, history.manager.Spent jobId → target.Spent jobId :=
    fun jobId spent =>
      spent_ordinary sound.keyed spent ordinary stepped
  have tasks : ∀ jobId task, target.tasks.get? jobId = some task →
      task.oneShot = true → target.Spent jobId :=
    fun jobId task found oneShot =>
      (sound.task_cases ordinary saves stepped found oneShot).1
  have keyed := step_keyed sound.keyed stepped
  have used := idsUsed_ordinary sound.keyed sound.used ordinary stepped
  rcases executorCalls_cases history.manager event with
    silent | ⟨stepId, stepTask, rfl, present, held, stage, calls⟩
  · rw [silent, List.append_nil]
    refine ⟨keyed, used, fun jobId member =>
      kept jobId (sound.called jobId member), tasks, ?_, sound.once⟩
    intro jobId task found oneShot created
    rcases (sound.task_cases ordinary saves stepped found oneShot).2 with
      ⟨earlier, before, once, stages⟩ | ⟨_, uncalled⟩
    · exact sound.uncalled jobId earlier before once (stages created)
    · exact uncalled
  · rw [calls]
    refine ⟨keyed, used, ?_, tasks, ?_, ?_⟩
    · intro jobId member
      rcases List.mem_append.mp member with old | new
      · exact kept jobId (sound.called jobId old)
      · rw [List.mem_singleton, ExecutorCall.mk.injEq] at new
        rcases new with ⟨rfl, once⟩
        exact kept jobId (sound.tasks jobId stepTask held once.symm)
    · intro jobId task found oneShot created member
      have target_eq : target =
          history.manager.setStage stepId stepTask .waiting := by
        have at? : history.manager.taskAt stepId [.created] =
            some stepTask := by
          rw [taskAt, held, Option.filter_some, stage]
          rfl
        simp only [step, at?, Option.map_some, Option.some.injEq,
          CronManager.stepTask, if_pos present] at stepped
        exact stepped.symm
      have different : jobId ≠ stepId := by
        rintro rfl
        rw [target_eq] at found
        have inserted := Dict.get?_insert_self history.manager.tasks jobId
          { stepTask with stage := .waiting }
        have same := inserted.symm.trans found
        cases same
        cases created
      rcases List.mem_append.mp member with old | new
      · rcases (sound.task_cases ordinary saves stepped found oneShot).2
          with ⟨earlier, before, once, stages⟩ | ⟨silent, _⟩
        · exact sound.uncalled jobId earlier before once (stages created) old
        · rw [calls] at silent
          cases silent
      · rw [List.mem_singleton, ExecutorCall.mk.injEq] at new
        exact different new.1
    · intro jobId
      rw [List.count_append, List.count_singleton]
      split_ifs with same
      · rw [beq_iff_eq, ExecutorCall.mk.injEq] at same
        have fresh := sound.uncalled stepId stepTask held same.2 stage
        rw [← same.1, List.count_eq_zero_of_not_mem fresh]
      · exact sound.once jobId

/--
In every state of a run in which no pass raises behind a one-shot job that it
took, the executor was called once at most for every one-shot job, crashes
and restarts at any moment of any clock included, and the snapshot holds no
deadline of a job for which it was called.
-/
theorem callRuns_fireOnce
    {history : CronHistory}
    (reached : (callMachine zones).Reaches
        (fun history event => history.manager.SavesOneShots zones event)
        history) :
    history.FiresOnce := by
  have sound : history.Sound := by
    refine reached.invariant ?_ ?_
    · rintro ⟨_, _⟩ ⟨⟨timezone, _, rfl⟩, rfl⟩
      refine ⟨?_, ⟨?_, ?_⟩, ?_, ?_, ?_, fun _ => Nat.zero_le 1⟩
      · rintro jobId job ⟨⟩
      · exact fun jobId present => absurd rfl present
      · rintro row ⟨⟩
      · rintro jobId ⟨⟩
      · rintro jobId task ⟨⟩
      · rintro jobId task ⟨⟩
    · intro earlier event target _ sound saves stepped
      rcases Option.map_eq_some_iff.mp stepped with ⟨after, moved, rfl⟩
      by_cases rebuilds : Rebuilds event
      · have silent : earlier.manager.executorCalls event = [] := by
          cases event with
          | stepTask => exact rebuilds.elim
          | _ => rfl
        rw [silent, List.append_nil]
        exact sound.rebuild rebuilds moved
      · exact sound.ordinary rebuilds saves moved
  exact ⟨sound.once, fun jobId member row stored named =>
    (sound.called jobId member).row row stored named⟩

/-! ## A crash on the leap day -/

theorem runDue_of_raising
    {manager : CronManager} {moment now : Nat} {next : DueRun}
    {first second : Nat × String}
    (due : manager.dueEntries moment = [first, second])
    (taken : runDueEntry zones now ⟨manager, 0, false⟩ first = .ok next)
    (raises : ¬ EntryFires zones next.manager second) :
    (manager.runDue zones moment now).1 = next.manager := by
  rw [← runDueEntry_isOk_iff now] at raises
  cases failed : runDueEntry zones now next second with
  | ok after => exact absurd ⟨after, failed⟩ raises
  | error error =>
    have loop :
        runDueLoop zones now (manager.dueEntries moment)
          ⟨manager, 0, false⟩ = (next, .error error) := by
      rw [due]
      simp only [runDueLoop, taken, failed]
    rw [runDue_of_stopped loop]

/-- The pass on the leap day takes the reminder and then raises. -/
def leapPass : List CronEvent := leapJobs ++ [.runDue (leapMoment 1440) (leapMoment 1440)]

/-- The reminder runs; after a crash the clock has gone back before it. -/
def leapCrash : List CronEvent := [.stepTask "b", .reload (leapMoment 1438),
    .initializeSchedule (leapMoment 1438),
    .runDue (leapMoment 1439) (leapMoment 1439), .stepTask "b"]

/-- The manager with the two jobs of the leap day. -/
def leapManager : CronManager :=
  ((cronMachine onlyUtc).run (.fresh "UTC") leapJobs).getD (.fresh "UTC")

/-- Where the pass on the leap day stands when it raises. -/
def leapRaised : DueRun :=
  match runDueEntry onlyUtc (leapMoment 1440) ⟨leapManager, 0, false⟩
      (leapMoment 1439, "b") with
  | .ok next => next
  | .error _ => ⟨leapManager, 0, false⟩

theorem leapManager_runDue : (leapManager.runDue onlyUtc (leapMoment 1440) (leapMoment 1440)).1 =
      leapRaised.manager := by
  have taken :
      runDueEntry onlyUtc (leapMoment 1440) ⟨leapManager, 0, false⟩
        (leapMoment 1439, "b") = .ok leapRaised := rfl
  have due : leapManager.dueEntries (leapMoment 1440) =
      [(leapMoment 1439, "b"), (leapMoment 1440, "a")] := by decide
  refine runDue_of_raising due taken fun fires => ?_
  exact leapDay_not_firesWithinHorizon (fires _ rfl (by decide))

/-- Its deadline was not saved, and the executor is called again. -/
theorem leapDay_crash_fires_twice : ∃ history, (callMachine onlyUtc).run ⟨.fresh "UTC", []⟩
          (leapPass ++ leapCrash) = some history ∧
        history.calls = [⟨"b", true⟩, ⟨"b", true⟩] ∧
        ¬ history.FiresOnce := by
  have jobs : (callMachine onlyUtc).run ⟨.fresh "UTC", []⟩ leapJobs =
      some ⟨leapManager, []⟩ := rfl
  have pass :
      (callMachine onlyUtc).run ⟨leapManager, []⟩ [.runDue (leapMoment 1440) (leapMoment 1440)] =
        some ⟨(leapManager.runDue onlyUtc (leapMoment 1440) (leapMoment 1440)).1, []⟩ := rfl
  rw [leapManager_runDue] at pass
  have crash :
      ∃ history, (callMachine onlyUtc).run ⟨leapRaised.manager, []⟩ leapCrash = some history ∧
          history.calls = [⟨"b", true⟩, ⟨"b", true⟩] :=
    ⟨_, rfl, rfl⟩
  rcases crash with ⟨history, evaluated, calls⟩
  refine ⟨history, ?_, calls, fun firesOnce => ?_⟩
  · rw [Machine.run_append, leapPass, Machine.run_append, jobs]
    simp only [Option.bind_some, pass]
    exact evaluated
  · have once := firesOnce.once "b"
    rw [calls] at once
    exact absurd once (by decide)

/-- The reminder alone is due, and the process crashes while it runs. -/
def reminderCrash : List CronEvent := leapJobs ++
    [.runDue (leapMoment 1439) (leapMoment 1439), .stepTask "b",
      .reload (leapMoment 1438), .initializeSchedule (leapMoment 1438),
      .runDue (leapMoment 1439) (leapMoment 1439)]

/-- Its pass has saved, and it does not fire again when the clock is back. -/
theorem saved_reminder_fires_once : ∃ history,
      (callMachine onlyUtc).run ⟨.fresh "UTC", []⟩ reminderCrash = some history ∧
        history.calls = [⟨"b", true⟩] ∧ history.FiresOnce := by
  refine ⟨_, rfl, rfl, ?_⟩
  have evaluated :
      (callMachine onlyUtc).runGuarded (fun history event =>
            history.manager.SavesOneShots onlyUtc event)
          ⟨.fresh "UTC", []⟩ reminderCrash = some _ := rfl
  exact callRuns_fireOnce (.runGuarded (.start ⟨⟨"UTC", rfl, rfl⟩, rfl⟩) evaluated)

end TurningGood.Proactive
