import TurningGood.Proactive.CronOneShot
import TurningGood.Proactive.CronRebuild

/-!
# Every job has somebody who looks after it

A job of a started manager has a deadline in the index, a task that still
takes steps, or a deletion.  The deadlines belong to jobs and the running ids
to live tasks.  The invariant is one about views, and every move of a view
keeps it, except for two: a deletion that fails when the job has nothing left
to run it, and the cancellation of the task of a one-shot job before its
first step.
-/

namespace TurningGood.Proactive

open TurningGood.Foundation

/-! ## The invariant of a view -/

namespace JobView

/-- The job is gone, has a deadline, or has a task that takes steps. -/
def Restored (view : JobView) : Prop := view.job = none ∨ view.fire ≠ none ∨
    ∃ task ∈ view.task, task.stage ≠ .ended

/-- The task of a one-shot job, if it has one, is being deleted with it. -/
def MayEndUnstarted (view : JobView) : Prop := ∀ task ∈ view.task, task.stage = .created →
    ∀ job ∈ view.job, job.recurring = true ∨ view.deleting = true

instance (view : JobView) : Decidable view.Restored :=
  inferInstanceAs (Decidable (_ ∨ _ ∨ ∃ task ∈ view.task, _))

instance (view : JobView) : Decidable view.MayEndUnstarted :=
  inferInstanceAs (Decidable (∀ task ∈ view.task, _ → ∀ job ∈ view.job, _))

/-- What holds of a job of a started manager. -/
structure Owned (view : JobView) : Prop where
  unused : view.used = false → view.job = none ∧ view.fire = none ∧ view.task = none
  indexed : view.fire ≠ none → view.job ≠ none
  recurring : ∀ job, view.job = some job → job.recurring = true → view.fire ≠ none
  oneShot : ∀ job, view.job = some job → job.recurring = false →
      view.fire ≠ none ∧ view.task = none ∨ view.fire = none ∧ (view.deleting = true ∨
            ∃ task, view.task = some task ∧ task.pending = true)
  kind : ∀ task job, view.task = some task → view.job = some job → task.oneShot = !job.recurring
  delivering : ∀ task job, view.task = some task → task.stage = .delivering →
      view.job = some job → job.recurring = true
  running : view.running = true → ∃ task, view.task = some task ∧
        (task.stage = .running ∨ task.stage = .delivering) ∧
        (view.job = none → task.stage = .delivering ∧ task.oneShot = true)

theorem Owned.not_running
    {view : JobView} (owned : view.Owned) {task : CronTask}
    (found : view.task = some task)
    (stage : task.stage = .created ∨ task.stage = .waiting) :
    view.running = false := by
  cases state : view.running with
  | false => rfl
  | true =>
    rcases owned.running state with ⟨other, held, runs, _⟩
    rw [found, Option.some.injEq] at held
    subst other
    rcases stage with stage | stage <;> rcases runs with runs | runs <;>
      · rw [stage] at runs
        cases runs

theorem Owned.not_running_of_none
    {view : JobView} (owned : view.Owned) (missing : view.task = none) :
    view.running = false := by
  cases state : view.running with
  | false => rfl
  | true =>
    rcases owned.running state with ⟨task, held, _⟩
    rw [missing] at held
    cases held

end JobView

theorem NextPlan.recurring_eq
    {timezone : Timezone} {scheduledAt : Nat} {job updated : CronJob}
    {fire : Option Nat}
    (next : NextPlan timezone scheduledAt job.plan updated.plan fire) :
    updated.recurring = job.recurring ∧ (job.recurring = true → fire ≠ none) ∧
      (job.recurring = false → fire = none) := by
  unfold CronJob.recurring
  cases planned : job.plan with
  | recurring cron nextRunAt =>
    rw [planned] at next
    rcases next with ⟨deadline, _, plan, rfl⟩
    rw [plan]
    exact ⟨rfl, fun _ => Option.some_ne_none deadline, fun impossible => by
      cases impossible⟩
  | oneShot nextRunAt =>
    rw [planned] at next
    rcases next with ⟨plan, rfl⟩
    rw [plan]
    exact ⟨rfl, fun impossible => (by cases impossible), fun _ => rfl⟩

/-! ## Each move keeps the invariant -/

section Moves

variable {timezone : Timezone} {jobId : String} {view : JobView}

theorem create_owned (owned : view.Owned) (unused : view.used = false)
    (job : CronJob) (deadline : Nat) :
    ({ view with job := some job, fire := some deadline, used := true } :
      JobView).Owned := by
  rcases owned.unused unused with ⟨_, _, missing⟩
  have stopped := owned.not_running_of_none missing
  constructor
  · rintro ⟨⟩
  · exact fun _ => Option.some_ne_none job
  · exact fun _ _ _ => Option.some_ne_none deadline
  · exact fun _ _ _ => .inl ⟨Option.some_ne_none deadline, missing⟩
  · intro task _ found
    exact absurd (missing.symm.trans found) (by simp)
  · intro task _ found
    exact absurd (missing.symm.trans found) (by simp)
  · intro runs
    exact absurd (stopped.symm.trans runs) Bool.false_ne_true

theorem advance_owned
    {scheduledAt : Nat} {job updated : CronJob} {fire : Option Nat}
    {task : CronTask}
    (owned : view.Owned)
    (present : view.job = some job)
    (due : view.fire = some scheduledAt)
    (next : NextPlan timezone scheduledAt job.plan updated.plan fire)
    (given : view.task = some task ∨ view.task = none ∧ task.IsNew job) :
    ({ view with job := some updated, fire := fire, task := some task } :
      JobView).Owned := by
  rcases next.recurring_eq with ⟨sameKind, later, consumed⟩
  have sound : task.oneShot = !job.recurring ∧
      (job.recurring = false → task.pending = true) ∧
      (task.stage = .delivering → job.recurring = true) ∧
      (view.running = true →
        task.stage = .running ∨ task.stage = .delivering) := by
    rcases given with held | ⟨missing, new⟩
    · refine ⟨owned.kind task job held present, fun once => ?_,
        fun stage => owned.delivering task job held stage present,
        fun runs => ?_⟩
      · rcases owned.oneShot job present once with ⟨_, none⟩ | ⟨none, _⟩
        · rw [held] at none
          cases none
        · rw [due] at none
          cases none
      · rcases owned.running runs with ⟨other, found, stage, _⟩
        rw [held, Option.some.injEq] at found
        rw [found]
        exact stage
    · have stopped := owned.not_running_of_none missing
      refine ⟨new.oneShot, fun _ => ?_, fun stage => ?_, fun runs => ?_⟩
      · rw [CronTask.pending, new.stage]
        rfl
      · rw [new.stage] at stage
        cases stage
      · exact absurd (stopped.symm.trans runs) Bool.false_ne_true
  constructor
  · intro unused
    rw [(owned.unused unused).1] at present
    cases present
  · exact fun _ => Option.some_ne_none updated
  · rintro _ ⟨⟩ recurring
    exact later (sameKind ▸ recurring)
  · rintro _ ⟨⟩ once
    rw [sameKind] at once
    exact .inr ⟨consumed once, .inr ⟨task, rfl, sound.2.1 once⟩⟩
  · rintro _ _ ⟨⟩ ⟨⟩
    rw [sameKind]
    exact sound.1
  · rintro _ _ ⟨⟩ stage ⟨⟩
    rw [sameKind]
    exact sound.2.2.1 stage
  · intro runs
    exact ⟨task, rfl, sound.2.2.2 runs, fun gone => by cases gone⟩

theorem setStage_owned
    {task : CronTask} {stage : TaskStage} {running : Bool}
    (owned : view.Owned) (found : view.task = some task)
    (live :
      CronTask.pending { task with stage := stage } = true ∨
        ∀ job, view.job = some job → job.recurring = true ∨ view.deleting = true)
    (undelivered : stage ≠ .delivering)
    (runs : running = true → stage = .running ∧ view.job ≠ none) :
    ({ view with
        task := some { task with stage := stage }, running := running } :
      JobView).Owned := by
  constructor
  · intro unused
    rw [(owned.unused unused).2.2] at found
    cases found
  · exact owned.indexed
  · exact owned.recurring
  · intro job present once
    rcases owned.oneShot job present once with ⟨_, none⟩ | ⟨none, _⟩
    · rw [found] at none
      cases none
    · refine .inr ⟨none, ?_⟩
      rcases live with pending | deleting
      · exact .inr ⟨_, rfl, pending⟩
      · rcases deleting job present with recurring | deleting
        · rw [once] at recurring
          cases recurring
        · exact .inl deleting
  · rintro _ job ⟨⟩ present
    exact owned.kind task job found present
  · rintro _ job ⟨⟩ delivers
    exact absurd delivers undelivered
  · intro state
    rcases runs state with ⟨rfl, present⟩
    exact ⟨_, rfl, .inl rfl, fun gone => absurd gone present⟩

theorem cancel_owned (owned : view.Owned) (deleting : Bool)
    (kept : view.deleting = true → deleting = true) :
    ({ view with
        task := view.task.map CronTask.cancel, deleting := deleting } :
      JobView).Owned := by
  have origin : ∀ task, view.task.map CronTask.cancel = some task →
      ∃ earlier, view.task = some earlier ∧ task = earlier.cancel := by
    intro task found
    rcases Option.map_eq_some_iff.mp found with ⟨earlier, held, rfl⟩
    exact ⟨earlier, held, rfl⟩
  constructor
  · intro unused
    rcases owned.unused unused with ⟨noJob, noFire, noTask⟩
    exact ⟨noJob, noFire, by rw [noTask]; rfl⟩
  · exact owned.indexed
  · exact owned.recurring
  · intro job present once
    rcases owned.oneShot job present once with ⟨some, none⟩ | ⟨none, held⟩
    · exact .inl ⟨some, by rw [none]; rfl⟩
    · refine .inr ⟨none, ?_⟩
      rcases held with deletes | ⟨task, found, pending⟩
      · exact .inl (kept deletes)
      · exact .inr ⟨task.cancel, by rw [found]; rfl, pending⟩
  · intro task job found present
    rcases origin task found with ⟨earlier, held, rfl⟩
    exact owned.kind earlier job held present
  · intro task job found stage present
    rcases origin task found with ⟨earlier, held, rfl⟩
    exact owned.delivering earlier job held stage present
  · intro runs
    rcases owned.running runs with ⟨task, found, stage, gone⟩
    exact ⟨task.cancel, by rw [found]; rfl, stage, gone⟩

theorem clear_owned (owned : view.Owned) (free :
      ∀ job, view.job = some job → job.recurring = false → view.deleting = true ∨
          ∃ task, view.task = some task ∧ task.stage = .delivering) :
    ({ view with task := none, running := false } : JobView).Owned := by
  constructor
  · intro unused
    rcases owned.unused unused with ⟨noJob, noFire, _⟩
    exact ⟨noJob, noFire, rfl⟩
  · exact owned.indexed
  · exact owned.recurring
  · intro job present once
    rcases owned.oneShot job present once with ⟨some, _⟩ | ⟨none, _⟩
    · exact .inl ⟨some, rfl⟩
    · refine .inr ⟨none, .inl ?_⟩
      rcases free job present once with deletes | ⟨task, found, stage⟩
      · exact deletes
      · have recurring := owned.delivering task job found stage present
        rw [once] at recurring
        cases recurring
  · rintro _ _ ⟨⟩
  · rintro _ _ ⟨⟩
  · rintro ⟨⟩

theorem removed_owned (owned : view.Owned) {task : Option CronTask} {running deleting : Bool}
    (delivers : ∀ left, task = some left →
        view.task ≠ none ∧ left.stage = .delivering ∧ left.oneShot = true)
    (runs : running = true → task ≠ none) :
    ({ view with
        job := none, fire := none, task := task
        running := running, deleting := deleting } : JobView).Owned := by
  constructor
  · intro unused
    refine ⟨rfl, rfl, ?_⟩
    cases left : task with
    | none => rfl
    | some held =>
      exact absurd (owned.unused unused).2.2 (delivers held left).1
  · intro impossible
    exact absurd rfl impossible
  · rintro _ ⟨⟩
  · rintro _ ⟨⟩
  · rintro _ _ _ ⟨⟩
  · rintro _ _ _ _ ⟨⟩
  · intro state
    rcases Option.ne_none_iff_exists'.mp (runs state) with ⟨left, held⟩
    rcases delivers left held with ⟨_, stage, once⟩
    exact ⟨left, held, .inr stage, fun _ => ⟨stage, once⟩⟩

end Moves

namespace CronManager

variable {zones : ZoneDatabase}

variable {manager : CronManager}

/--
The event is no rebuild.  A deletion that fails leaves a job with a deadline
or a live task, and the task of a one-shot job is cancelled before its first
step only when the job is being deleted.
-/
def KeepsOwners (manager : CronManager) : CronEvent → Prop
  | .abortDelete deletion => (manager.view deletion.jobId).Restored
  | .cancelTask jobId => (manager.view jobId).MayEndUnstarted
  | .updateTimezone _ _ | .initializeSchedule _ | .reload _ => False
  | _ => True

instance (manager : CronManager) (event : CronEvent) :
    Decidable (manager.KeepsOwners event) :=
  match event with
  | .abortDelete _ => inferInstanceAs (Decidable (JobView.Restored _))
  | .cancelTask _ => inferInstanceAs (Decidable (JobView.MayEndUnstarted _))
  | .updateTimezone _ _ | .initializeSchedule _ | .reload _ =>
    inferInstanceAs (Decidable False)
  | .createJob _ _ _ | .runDue _ _ | .close | .stepTask _ | .markRunning _
  | .executorReturned _ _ | .delivered _ | .beginDelete _ | .purgeDelete _
  | .finishDelete _ => inferInstanceAs (Decidable True)

theorem owned_of_move {timezone : Timezone} {jobId : String}
    {event : CronEvent} {after : JobView} (keeps : manager.KeepsOwners event)
    (owned : (manager.view jobId).Owned)
    (moved : JobMove timezone jobId event (manager.view jobId) after) :
    after.Owned := by
  cases moved with
  | stay => exact owned
  | create unused named planned => exact create_owned owned unused _ _
  | forget missing =>
    have unindexed : (manager.view jobId).fire = none := by
      by_contra indexed
      exact owned.indexed indexed missing
    convert owned using 1
    exact JobView.ext rfl unindexed.symm rfl rfl rfl rfl
  | advance present kept due early sameId next given =>
    exact advance_owned owned present due next given
  | callExecutor present found stage =>
    have stopped := owned.not_running found (.inl stage)
    refine setStage_owned owned found (.inl rfl) (by simp) ?_
    intro runs
    exact absurd (stopped.symm.trans runs) Bool.false_ne_true
  | run present kept found stage =>
    refine setStage_owned owned found (.inl rfl) (by simp) ?_
    exact fun _ => ⟨rfl, Option.isSome_iff_ne_none.mp present⟩
  | endUnstarted found stage =>
    have stopped := owned.not_running found (.inl stage)
    refine setStage_owned owned found
      (.inr fun job present => keeps _ found stage job present) (by simp) ?_
    intro runs
    exact absurd (stopped.symm.trans runs) Bool.false_ne_true
  | requestCancel found =>
    have cancelled := cancel_owned owned (manager.view jobId).deleting id
    rw [found] at cancelled
    exact cancelled
  | clear ofTask free => exact clear_owned owned free
  | cancelOneShot =>
    exact removed_owned owned (by rintro left ⟨⟩) (by rintro ⟨⟩)
  | settleRecurring present recurring found =>
    rename_i result job task
    have indexed := owned.recurring job present recurring
    constructor
    · intro unused
      rw [(owned.unused unused).1] at present
      cases present
    · exact owned.indexed
    · exact owned.recurring
    · intro other held once
      rw [present, Option.some.injEq] at held
      rw [← held, recurring] at once
      cases once
    · rintro _ other ⟨⟩ held
      exact owned.kind task other found held
    · rintro _ other ⟨⟩ _ held
      rw [present, Option.some.injEq] at held
      rw [← held]
      exact recurring
    · intro _
      refine ⟨_, rfl, .inr rfl, fun gone => ?_⟩
      rw [present] at gone
      cases gone
  | settleOneShot present oneShot found =>
    rename_i result job task
    refine removed_owned owned ?_ fun _ => Option.some_ne_none _
    rintro _ ⟨⟩
    refine ⟨Option.ne_none_iff_exists'.mpr ⟨task, found⟩, rfl, ?_⟩
    have kind := owned.kind task job found present
    rw [oneShot] at kind
    exact kind
  | beginDelete present => exact cancel_owned owned true fun _ => rfl
  | finishDelete named =>
    exact removed_owned owned (by rintro left ⟨⟩) (by rintro ⟨⟩)
  | abortDelete named =>
    rename_i deletion
    have restored : (manager.view jobId).Restored := named ▸ keeps
    refine ⟨owned.unused, owned.indexed, owned.recurring, ?_, owned.kind,
      owned.delivering, owned.running⟩
    intro job present once
    rcases owned.oneShot job present once with kept | ⟨none, _⟩
    · exact .inl kept
    · refine .inr ⟨none, .inr ?_⟩
      rcases restored with gone | indexed | ⟨task, found, live⟩
      · rw [present] at gone
        cases gone
      · exact absurd none indexed
      · refine ⟨task, found, ?_⟩
        cases stage : task.stage with
        | created | waiting | running => rw [CronTask.pending, stage]; rfl
        | ended => exact absurd stage live
        | delivering =>
          have recurring :=
            owned.delivering task job found stage present
          rw [once] at recurring
          cases recurring

/-- The jobs are under their ids, and each of them is owned. -/
structure OwnsJobs (manager : CronManager) : Prop where
  keyed : manager.Keyed
  owned : ∀ jobId, (manager.view jobId).Owned

theorem step_owned {target : CronManager} {event : CronEvent}
    (owns : manager.OwnsJobs) (keeps : manager.KeepsOwners event)
    (stepped : manager.step zones event = some target) : target.OwnsJobs := by
  have ordinary : ¬ Rebuilds event := by
    cases event with
    | updateTimezone | initializeSchedule | reload => exact keeps.elim
    | _ => exact id
  refine ⟨step_keyed owns.keyed stepped, fun jobId => ?_⟩
  exact owned_of_move keeps (owns.owned jobId) (step_move owns.keyed ordinary stepped jobId)

/-- A manager over a snapshot on disk that has not been loaded. -/
def stored (timezone : String) (file : CronFile) : CronManager :=
  { fresh timezone with
    file := file, usedIds := file.jobs.map CronJob.id }

/-- The runs of a manager from the initialization of its schedule. -/
def startedMachine (zones : ZoneDatabase) : Machine CronManager CronEvent where
  initial manager := ∃ timezone file now, zones.known timezone = true ∧
      (stored timezone file).initializeSchedule zones now = (manager, .ok ())
  step := CronManager.step zones

theorem rebuilt_owned
    {timezone : Timezone} {now : Nat} {before after : JobView}
    (noTask : before.task = none) (noFire : before.fire = none)
    (stopped : before.running = false) (used : before.used = true)
    (rebuilt : Rebuilt timezone now true before after) : after.Owned := by
  have free : ∀ (job : Option CronJob) (fire : Option Nat),
      (fire ≠ none ↔ job ≠ none) →
      ({ before with job := job, fire := fire } : JobView).Owned := by
    intro job fire same
    constructor
    · intro unused
      exact absurd (used.symm.trans unused) Bool.true_eq_false.mp
    · exact same.mp
    · intro held present _
      have found : job = some held := present
      exact same.mpr (found ▸ Option.some_ne_none held)
    · intro held present _
      have found : job = some held := present
      exact .inl ⟨same.mpr (found ▸ Option.some_ne_none held), noTask⟩
    · intro task _ found
      exact absurd (noTask.symm.trans found) (by simp)
    · intro task _ found
      exact absurd (noTask.symm.trans found) (by simp)
    · intro runs
      exact absurd (stopped.symm.trans runs) Bool.false_ne_true
  cases rebuilt with
  | missed present passed =>
    convert free none none (by simp) using 1
    exact JobView.ext rfl noFire rfl rfl rfl rfl
  | indexed present next kept =>
    rename_i job deadline
    convert free (some job) (some deadline) (by simp) using 1
    exact JobView.ext present rfl rfl rfl rfl rfl
  | replaced present planned next sameId plan persists =>
    exact free _ _ (by simp)

theorem started_owned {timezone : String} {file : CronFile} {now : Nat}
    (started : (stored timezone file).initializeSchedule zones now =
        (manager, .ok ())) : manager.OwnsJobs := by
  unfold initializeSchedule at started
  cases loads : (stored timezone file).loadState with
  | error error =>
    rw [loads] at started
    cases started
  | ok loaded =>
    rw [loads] at started
    dsimp only at started
    rcases loadState_effect loads with ⟨⟨jobs, rfl, rows⟩, keyed, _⟩
    have views := view_rebuildDeadlines keyed started
    refine ⟨(rebuildDeadlines_effect started).2.1 keyed, fun jobId => ?_⟩
    cases found : jobs.get? jobId with
    | none =>
      rw [views.2.1 jobId found]
      refine ⟨fun _ => ⟨found, rfl, rfl⟩, ?_, ?_, ?_, ?_, ?_, ?_⟩
      · intro impossible
        exact absurd rfl impossible
      · intro job present
        exact absurd (found.symm.trans present) (by simp)
      · intro job present
        exact absurd (found.symm.trans present) (by simp)
      · rintro _ _ ⟨⟩
      · rintro _ _ ⟨⟩
      · rintro ⟨⟩
    | some job =>
      refine rebuilt_owned ?_ ?_ ?_ ?_ (views.2.2 rfl jobId job found)
      · rfl
      · rfl
      · rfl
      · have member : job ∈ file.jobs := by
          have valued : job ∈ jobs.values :=
            (Dict.mem_values_iff jobs job).mpr ⟨jobId, found⟩
          rw [rows] at valued
          exact valued
        have named := keyed jobId job found
        subst named
        have used : job.id ∈ file.jobs.map CronJob.id :=
          List.mem_map_of_mem member
        simpa [cleared, view, stored] using used

/--
Every job has a deadline, a live task or a deletion; every deadline belongs
to a job; every running id has a live task, and belongs to a job unless the
task has finished its one-shot job and delivers the result.
-/
structure LooksAfterJobs (manager : CronManager) : Prop where
  jobs : ∀ jobId, manager.jobs.contains jobId = true → manager.nextFire.contains jobId = true ∨
        manager.HasLiveTask jobId ∨ jobId ∈ manager.deleting
  deadlines : ∀ jobId, manager.nextFire.contains jobId = true → manager.jobs.contains jobId = true
  running : ∀ jobId ∈ manager.runningIds,
      ∃ task, manager.tasks.get? jobId = some task ∧ task.stage ≠ .ended ∧
        (manager.jobs.contains jobId = true ∨ task.oneShot = true ∧ task.stage = .delivering)

theorem looksAfterJobs_of_owned (owns : manager.OwnsJobs) :
    manager.LooksAfterJobs := by
  have owned := owns.owned
  constructor
  · intro jobId present
    rcases (Dict.contains_iff _ _).mp present with ⟨job, found⟩
    cases kind : job.recurring with
    | true =>
      exact .inl (Option.isSome_iff_ne_none.mpr ((owned jobId).recurring job found kind))
    | false =>
      rcases (owned jobId).oneShot job found kind with
        ⟨indexed, _⟩ | ⟨_, deletes | ⟨task, held, pending⟩⟩
      · exact .inl (Option.isSome_iff_ne_none.mpr indexed)
      · exact .inr (.inr (by simpa [view] using deletes))
      · refine .inr (.inl ⟨task, held, fun ended => ?_⟩)
        rw [CronTask.pending, ended] at pending
        cases pending
  · intro jobId indexed
    exact Option.isSome_iff_ne_none.mpr
      ((owned jobId).indexed (Option.isSome_iff_ne_none.mp indexed))
  · intro jobId member
    have runs : (manager.view jobId).running = true := by
      simpa [view] using member
    rcases (owned jobId).running runs with ⟨task, held, stage, gone⟩
    refine ⟨task, held, ?_, ?_⟩
    · rcases stage with stage | stage <;> rw [stage] <;> decide
    · cases found : manager.jobs.get? jobId with
      | none =>
        have delivers := gone found
        exact .inr ⟨delivers.2, delivers.1⟩
      | some job => exact .inl (by rw [Dict.contains, found]; rfl)

/--
In every state of a run of a started manager without rebuilds, in which no
deletion fails when its job has neither a deadline nor a live task, and no
task of a one-shot job is cancelled before its first step unless the job is
being deleted, every job is looked after.
-/
theorem startedRuns_lookAfterJobs
    {manager : CronManager}
    (reached : (startedMachine zones).Reaches KeepsOwners manager) :
    manager.LooksAfterJobs := by
  have owns : manager.OwnsJobs := by
    refine reached.invariant ?_ ?_
    · rintro _ ⟨timezone, file, now, _, started⟩
      exact started_owned started
    · intro earlier event target _ owns keeps stepped
      exact step_owned owns keeps stepped
  exact looksAfterJobs_of_owned owns

theorem fresh_started : (startedMachine onlyUtc).initial (fresh "UTC") :=
  ⟨"UTC", ⟨[], ⟨0, 0, 0, 0⟩⟩, 0, rfl, rfl⟩

/-- While the result is delivered, the running id belongs to no job. -/
theorem delivered_reminder_runs_without_job : ∃ manager,
      (startedMachine onlyUtc).run (fresh "UTC") (runningReminder ++
            [.executorReturned "a" ⟨true, "done", ⟨1, 1, 2⟩⟩]) =
          some manager ∧
        "a" ∈ manager.runningIds ∧
        manager.jobs.contains "a" = false :=
  ⟨_, rfl, by decide, rfl⟩

/-- A running reminder, and a deletion of another job that fails. -/
theorem failed_deletion_looksAfterJobs : ∃ manager,
      (startedMachine onlyUtc).run (fresh "UTC") (leapJobs ++
            [.beginDelete "a", .purgeDelete ⟨"a", none, false⟩,
              .runDue (leapMoment 1439) (leapMoment 1439), .stepTask "b",
              .markRunning "b", .abortDelete ⟨"a", none, true⟩]) =
          some manager ∧
        "b" ∈ manager.runningIds ∧ manager.LooksAfterJobs := by
  refine ⟨_, rfl, by decide, ?_⟩
  have evaluated :
      (startedMachine onlyUtc).runGuarded KeepsOwners (fresh "UTC") (leapJobs ++
            [.beginDelete "a", .purgeDelete ⟨"a", none, false⟩,
              .runDue (leapMoment 1439) (leapMoment 1439), .stepTask "b",
              .markRunning "b", .abortDelete ⟨"a", none, true⟩]) =
        some _ := rfl
  exact startedRuns_lookAfterJobs (.runGuarded (.start fresh_started) evaluated)

end CronManager
end TurningGood.Proactive
