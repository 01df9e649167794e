import TurningGood.Proactive.CronManager

/-!
# One pass over the due jobs

`run_due` advances every due job and starts the missing tasks in one loop,
and saves after the loop.  An expression without a firing in the search
horizon stops the loop with an error.  In runs in which no rebuild and no
earlier pass met such an expression, a pass does all it should exactly when
every due expression has a firing in the horizon and no due job is held back
by a task that was cancelled before it ran.
-/

namespace TurningGood.Proactive

open TurningGood.Foundation

namespace CronManager

variable {zones : ZoneDatabase}

variable {manager target before after : CronManager}
  {now scheduledAt moment : Nat} {jobId : String} {run next final : DueRun}
  {entry : Nat × String} {entries : List (Nat × String)}

/-! ## Advancing one job -/

theorem eq_ok_of_map
    {α β : Type} {map : α → β} {result : Except String α} {value : β}
    (mapped : map <$> result = .ok value) :
    ∃ original, result = .ok original ∧ map original = value := by
  cases result with
  | error error => cases mapped
  | ok original => exact ⟨original, rfl, Except.ok.inj mapped⟩

/-- The plan, if it is recurring, has a firing in the horizon. -/
def PlanFires (timezone : Timezone) (after : Nat) : CronPlan → Prop
  | .recurring cron _ => FiresWithinHorizon cron.val after timezone
  | .oneShot _ => True

instance (timezone : Timezone) (after : Nat) (plan : CronPlan) :
    Decidable (PlanFires timezone after plan) :=
  match plan with
  | .recurring _ _ => inferInstanceAs (Decidable (FiresWithinHorizon _ _ _))
  | .oneShot _ => inferInstanceAs (Decidable True)

/-- The job has a firing in the horizon, in the timezone of the manager. -/
def Fires (zones : ZoneDatabase) (manager : CronManager) (after : Nat) (job : CronJob) : Prop :=
  PlanFires (zones.localTime manager.timezone) after job.plan

instance (manager : CronManager) (after : Nat) (job : CronJob) :
    Decidable (Fires zones manager after job) :=
  inferInstanceAs (Decidable (PlanFires _ _ _))

theorem nextJobFire_isOk_iff {after : Nat} {job : CronJob} :
    (∃ fire, nextJobFire job after (zones.localTime manager.timezone) = .ok fire) ↔
      Fires zones manager after job := by
  unfold nextJobFire Fires
  cases job.plan with
  | recurring cron nextRunAt =>
    dsimp only [PlanFires]
    rw [← nextCronFire_isOk_iff]
    constructor
    · rintro ⟨fire, found⟩
      rcases eq_ok_of_map found with ⟨moment, search, _⟩
      exact ⟨moment, search⟩
    · rintro ⟨moment, search⟩
      exact ⟨some moment, by rw [search]; rfl⟩
  | oneShot nextRunAt =>
    cases nextRunAt with
    | none => exact ⟨fun _ => trivial, fun _ => ⟨none, rfl⟩⟩
    | some scheduled => exact ⟨fun _ => trivial, fun _ => ⟨_, rfl⟩⟩

theorem nextJobFire_recurring
    {job : CronJob} {after : Nat} {timezone : Timezone}
    {fire : Option Nat} (recurring : job.recurring = true)
    (found : nextJobFire job after timezone = .ok fire) :
    ∃ moment, fire = some moment ∧ after < moment := by
  unfold CronJob.recurring at recurring
  unfold nextJobFire at found
  cases planned : job.plan with
  | oneShot nextRunAt =>
    rw [planned] at recurring
    cases recurring
  | recurring cron nextRunAt =>
    rw [planned] at found
    rcases eq_ok_of_map found with ⟨moment, search, rfl⟩
    exact ⟨moment, rfl, nextCronFire_later search⟩

/-- The job is replaced and its firing is dropped or moved to later. -/
structure Advanced
    (manager : CronManager) (job : CronJob) (scheduledAt : Nat)
    (target : CronManager) : Prop where
  replaced : ∃ updated nextFire, updated.id = job.id ∧ updated.recurring = job.recurring ∧ target =
          { manager with
            jobs := manager.jobs.insert job.id updated
            nextFire := nextFire } ∧
        (nextFire = manager.nextFire.erase job.id ∨ ∃ fire, scheduledAt < fire ∧
            nextFire = manager.nextFire.insert job.id fire)

theorem replaceJob_eq_ok {job : CronJob} {nextRunAt : Option Nat}
    (replaced : manager.replaceJob job nextRunAt now = .ok target) :
    ∃ updated, updated.id = job.id ∧ updated.recurring = job.recurring ∧ target =
          { manager with jobs := manager.jobs.insert job.id updated } := by
  unfold replaceJob at replaced
  cases planned : job.plan.withNextRunAt nextRunAt with
  | error error =>
    rw [planned] at replaced
    cases replaced
  | ok plan =>
    rw [planned] at replaced
    cases replaced
    exact ⟨{ job with plan := plan, updatedAt := now }, rfl,
      CronPlan.withNextRunAt_isRecurring planned, rfl⟩

theorem replaceJob_isOk {job : CronJob} {nextRunAt : Option Nat}
    (possible : job.recurring = true → nextRunAt ≠ none) :
    ∃ target, manager.replaceJob job nextRunAt now = .ok target := by
  rcases CronPlan.withNextRunAt_isOk possible with ⟨plan, planned⟩
  exact ⟨_, by rw [replaceJob, planned]; rfl⟩

theorem advanceDeadline_advanced {job : CronJob} (advanced :
      manager.advanceDeadline zones job scheduledAt now = .ok target) :
    Advanced manager job scheduledAt target := by
  unfold advanceDeadline at advanced
  split_ifs at advanced with recurring
  · cases search : nextJobFire job scheduledAt (zones.localTime manager.timezone) with
    | error error =>
      rw [search] at advanced
      cases advanced
    | ok fire =>
      rw [search] at advanced
      rcases nextJobFire_recurring recurring search with ⟨moment, rfl, later⟩
      rcases replaceJob_eq_ok advanced with ⟨updated, sameId, kind, rfl⟩
      exact ⟨updated, _, sameId, kind, rfl, .inr ⟨moment, later, rfl⟩⟩
  · rcases replaceJob_eq_ok advanced with ⟨updated, sameId, kind, rfl⟩
    exact ⟨updated, _, sameId, kind, rfl, .inl rfl⟩

theorem advanceDeadline_isOk_iff {job : CronJob} (now : Nat) : (∃ target,
        manager.advanceDeadline zones job scheduledAt now = .ok target) ↔
      Fires zones manager scheduledAt job := by
  rw [← nextJobFire_isOk_iff]
  unfold advanceDeadline
  split_ifs with recurring
  · cases search : nextJobFire job scheduledAt (zones.localTime manager.timezone) with
    | error error =>
      constructor
      · rintro ⟨target, ⟨⟩⟩
      · rintro ⟨fire, ⟨⟩⟩
    | ok fire =>
      rcases nextJobFire_recurring recurring search with ⟨moment, rfl, _⟩
      refine ⟨fun _ => ⟨_, rfl⟩, fun _ => ?_⟩
      exact replaceJob_isOk fun _ missing => by cases missing
  · refine ⟨fun _ => ?_, fun _ => ?_⟩
    · rw [nextJobFire_isOk_iff]
      unfold Fires
      unfold CronJob.recurring at recurring
      cases planned : job.plan with
      | recurring cron nextRunAt =>
        rw [planned] at recurring
        exact absurd rfl recurring
      | oneShot nextRunAt => trivial
    · exact replaceJob_isOk fun isRecurring => absurd isRecurring recurring

/-! ## One due entry -/

/-- The jobs are stored under their ids. -/
def Keyed (manager : CronManager) : Prop :=
  ∀ jobId job, manager.jobs.get? jobId = some job → job.id = jobId

/-- A job exists and is not being deleted. -/
def Active (manager : CronManager) (jobId : String) : Prop :=
  manager.jobs.contains jobId = true ∧ jobId ∉ manager.deleting

/-- The executions of a job. -/
def startedOf (manager : CronManager) (jobId : String) : List Execution :=
  manager.log.started.filter fun execution => execution.jobId = jobId

/-- Nothing about a job has changed. -/
structure SameJob (before after : CronManager) (jobId : String) : Prop where
  job : after.jobs.get? jobId = before.jobs.get? jobId
  fire : after.nextFire.get? jobId = before.nextFire.get? jobId
  task : after.tasks.get? jobId = before.tasks.get? jobId
  started : after.startedOf jobId = before.startedOf jobId

/-- What the loop of `run_due` never changes. -/
structure SameContext (before after : CronManager) : Prop where
  deleting : after.deleting = before.deleting
  timezone : after.timezone = before.timezone
  usage : after.usage = before.usage
  file : after.file = before.file

/-- A due entry was taken: its deadline is gone and its task exists. -/
structure Taken
    (before after : CronManager) (scheduledAt : Nat) (jobId : String) :
    Prop where
  consumed : before.Active jobId → after.nextFire.get? jobId ≠ some scheduledAt
  held : (before.Active jobId → before.tasks.contains jobId = true) →
      after.tasks.get? jobId = before.tasks.get? jobId ∧
        after.startedOf jobId = before.startedOf jobId
  begun : before.Active jobId → before.tasks.contains jobId = false →
      after.startedOf jobId = before.startedOf jobId ++ [⟨jobId, scheduledAt⟩] ∧
        ∃ task, after.tasks.get? jobId = some task ∧
          task.stage = .created ∧ task.scheduledAt = scheduledAt

theorem SameJob.refl (manager : CronManager) (jobId : String) :
    SameJob manager manager jobId :=
  ⟨rfl, rfl, rfl, rfl⟩

theorem SameJob.trans {first second third : CronManager}
    (earlier : SameJob first second jobId)
    (later : SameJob second third jobId) : SameJob first third jobId :=
  ⟨later.job.trans earlier.job, later.fire.trans earlier.fire,
    later.task.trans earlier.task, later.started.trans earlier.started⟩

theorem SameContext.refl (manager : CronManager) :
    SameContext manager manager :=
  ⟨rfl, rfl, rfl, rfl⟩

theorem SameContext.trans
    {first second third : CronManager}
    (earlier : SameContext first second)
    (later : SameContext second third) : SameContext first third :=
  ⟨later.deleting.trans earlier.deleting, later.timezone.trans earlier.timezone,
    later.usage.trans earlier.usage, later.file.trans earlier.file⟩

theorem Taken.congr_left {same : CronManager} (taken : Taken same after scheduledAt jobId)
    (sameJob : SameJob before same jobId)
    (deleting : same.deleting = before.deleting) :
    Taken before after scheduledAt jobId := by
  have active : before.Active jobId ↔ same.Active jobId := by
    rw [Active, Active, Dict.contains_congr sameJob.job, deleting]
  have tasks := Dict.contains_congr sameJob.task
  rcases taken with ⟨consumed, held, begun⟩
  rw [← active, tasks, sameJob.task, sameJob.started] at held
  rw [← active, tasks, sameJob.started] at begun
  rw [← active] at consumed
  exact ⟨consumed, held, begun⟩

theorem Taken.congr_right {same : CronManager} (taken : Taken before after scheduledAt jobId)
    (sameJob : SameJob after same jobId) :
    Taken before same scheduledAt jobId := by
  rcases taken with ⟨consumed, held, begun⟩
  rw [← sameJob.fire] at consumed
  rw [← sameJob.task, ← sameJob.started] at held
  rw [← sameJob.task, ← sameJob.started] at begun
  exact ⟨consumed, held, begun⟩

/-- The entry can be advanced, if its job is there to be advanced. -/
def EntryFires (zones : ZoneDatabase) (manager : CronManager) (entry : Nat × String) :
    Prop :=
  ∀ job ∈ manager.jobs.get? entry.2, entry.2 ∉ manager.deleting → Fires zones manager entry.1 job

instance (manager : CronManager) (entry : Nat × String) :
    Decidable (EntryFires zones manager entry) :=
  inferInstanceAs (Decidable (∀ job ∈ manager.jobs.get? entry.2, _ → Fires _ _ _ _))

theorem runDueEntry_isOk_iff (now : Nat) : (∃ next, runDueEntry zones now run entry = .ok next) ↔
      EntryFires zones run.manager entry := by
  unfold runDueEntry EntryFires
  cases found : run.manager.jobs.get? entry.2 with
  | none =>
    refine ⟨fun _ => ?_, fun _ => ⟨_, rfl⟩⟩
    rintro job ⟨⟩
  | some job =>
    simp only [Option.mem_def, Option.some.injEq, forall_eq']
    split_ifs with deleting
    · exact ⟨fun _ active => absurd deleting active, fun _ => ⟨_, rfl⟩⟩
    · rw [← advanceDeadline_isOk_iff now]
      cases advanced : run.manager.advanceDeadline zones job entry.1 now with
      | error error =>
        constructor
        · rintro ⟨next, ⟨⟩⟩
        · intro possible
          rcases possible deleting with ⟨target, impossible⟩
          cases impossible
      | ok target =>
        refine ⟨fun _ _ => ⟨target, rfl⟩, fun _ => ?_⟩
        simp only [bind, Except.bind]
        split_ifs
        · exact ⟨_, rfl⟩
        · exact ⟨_, rfl⟩

theorem Advanced.frame {job : CronJob} (advanced : Advanced manager job scheduledAt target) :
    SameContext manager target ∧ ∀ other, other ≠ job.id → SameJob manager target other := by
  rcases advanced with ⟨updated, nextFire, _, _, rfl, index⟩
  refine ⟨⟨rfl, rfl, rfl, rfl⟩, fun other different => ?_⟩
  refine ⟨Dict.get?_insert_of_ne _ _ different, ?_, rfl, rfl⟩
  rcases index with rfl | ⟨fire, _, rfl⟩
  · exact Dict.get?_erase_of_ne _ different
  · exact Dict.get?_insert_of_ne _ _ different

theorem Advanced.self {job : CronJob} (advanced : Advanced manager job scheduledAt target) :
    target.nextFire.get? job.id ≠ some scheduledAt ∧
      target.tasks = manager.tasks ∧ target.log = manager.log := by
  rcases advanced with ⟨updated, nextFire, _, _, rfl, index⟩
  refine ⟨?_, rfl, rfl⟩
  rcases index with rfl | ⟨fire, later, rfl⟩
  · simp
  · rw [Dict.get?_insert_self]
    exact fun same => absurd (Option.some.inj same) (Nat.ne_of_gt later)

theorem Advanced.keyed {job : CronJob} (advanced : Advanced manager job scheduledAt target)
    (keyed : manager.Keyed) : target.Keyed := by
  rcases advanced with ⟨updated, nextFire, sameId, _, rfl, _⟩
  intro jobId found present
  rw [Dict.get?_insert] at present
  split_ifs at present with same
  · rw [Option.some.injEq] at present
    rw [← present, sameId, same]
  · exact keyed jobId found present

theorem startTask_frame (manager : CronManager) (jobId : String) (job : CronJob)
    (scheduledAt : Nat) :
    SameContext manager (manager.startTask jobId job scheduledAt) ∧ ∀ other, other ≠ jobId →
        SameJob manager (manager.startTask jobId job scheduledAt) other := by
  refine ⟨⟨rfl, rfl, rfl, rfl⟩, fun other different => ?_⟩
  refine ⟨rfl, rfl, Dict.get?_insert_of_ne _ _ different, ?_⟩
  simp only [startedOf, startTask, List.filter_append]
  rw [List.filter_singleton]
  simp [different.symm]

theorem runDueEntry_effect (keyed : run.manager.Keyed)
    (taken : runDueEntry zones now run entry = .ok next) :
    Taken run.manager next.manager entry.1 entry.2 ∧ (∀ other, other ≠ entry.2 →
        SameJob run.manager next.manager other) ∧
      SameContext run.manager next.manager ∧
      next.manager.Keyed := by
  unfold runDueEntry at taken
  cases found : run.manager.jobs.get? entry.2 with
  | none =>
    rw [found] at taken
    cases taken
    have inactive : ¬ run.manager.Active entry.2 := by
      intro active
      rw [Active, Dict.contains, found] at active
      cases active.1
    refine ⟨⟨fun active => absurd active inactive, fun _ => ⟨rfl, rfl⟩,
      fun active => absurd active inactive⟩, ?_, ⟨rfl, rfl, rfl, rfl⟩,
      keyed⟩
    intro other different
    exact ⟨rfl, Dict.get?_erase_of_ne _ different, rfl, rfl⟩
  | some job =>
    have sameId := keyed _ _ found
    rw [found] at taken
    dsimp only at taken
    split_ifs at taken with deleting
    · cases taken
      have inactive : ¬ run.manager.Active entry.2 :=
        fun active => active.2 deleting
      exact ⟨⟨fun active => absurd active inactive, fun _ => ⟨rfl, rfl⟩,
          fun active => absurd active inactive⟩,
        fun other _ => SameJob.refl _ other, SameContext.refl _, keyed⟩
    · cases advance : run.manager.advanceDeadline zones job entry.1 now with
      | error error =>
        rw [advance] at taken
        cases taken
      | ok target =>
        have advanced := advanceDeadline_advanced advance
        have moved := advanced.self
        have frame := advanced.frame
        have present : run.manager.Active entry.2 :=
          ⟨by rw [Dict.contains, found]; rfl, deleting⟩
        rw [advance] at taken
        simp only [bind, Except.bind] at taken
        rw [sameId] at moved frame
        split_ifs at taken with live
        · cases taken
          rw [moved.2.1] at live
          refine ⟨⟨fun _ => moved.1, fun _ => ?_, fun _ idle => ?_⟩,
            frame.2, frame.1, advanced.keyed keyed⟩
          · exact ⟨by rw [moved.2.1], by simp [startedOf, moved.2.2]⟩
          · rw [live] at idle
            cases idle
        · cases taken
          have started := startTask_frame target entry.2 job entry.1
          refine ⟨⟨fun _ => moved.1, fun held => ?_, fun _ _ => ?_⟩, fun other different =>
              (frame.2 other different).trans (started.2 other different),
            frame.1.trans started.1, advanced.keyed keyed⟩
          · rw [moved.2.1] at live
            exact absurd (held present) live
          · refine ⟨?_, target.newTask job entry.1, Dict.get?_insert_self _ _ _, rfl, rfl⟩
            simp [startedOf, startTask, moved.2.2]

theorem runDueEntry_unchanged (taken : runDueEntry zones now run entry = .ok next)
    (unchanged : next.changed = false) : next = run := by
  unfold runDueEntry at taken
  split at taken
  · cases taken
    cases unchanged
  · split_ifs at taken
    · cases taken
      rfl
    · cases advance : run.manager.advanceDeadline zones _ entry.1 now with
      | error error =>
        rw [advance] at taken
        cases taken
      | ok target =>
        rw [advance] at taken
        simp only [bind, Except.bind] at taken
        split_ifs at taken
        · cases taken
          cases unchanged
        · cases taken
          cases unchanged

theorem EntryFires.congr (context : SameContext before after)
    (sameJob : SameJob before after entry.2) :
    EntryFires zones after entry ↔ EntryFires zones before entry := by
  unfold EntryFires Fires
  rw [sameJob.job, context.deleting, context.timezone]

theorem runDueLoop_effect (keyed : run.manager.Keyed)
    (distinct : (entries.map Prod.snd).Nodup) (finished :
      runDueLoop zones now entries run = (final, .ok ())) :
    (∀ entry ∈ entries, Taken run.manager final.manager entry.1 entry.2) ∧
      (∀ other, other ∉ entries.map Prod.snd → SameJob run.manager final.manager other) ∧
      SameContext run.manager final.manager ∧
      final.manager.Keyed := by
  induction entries generalizing run with
  | nil =>
    cases finished
    exact ⟨by simp, fun other _ => SameJob.refl _ other,
      SameContext.refl _, keyed⟩
  | cons entry rest induction =>
    simp only [runDueLoop] at finished
    cases taken : runDueEntry zones now run entry with
    | error error =>
      rw [taken] at finished
      cases finished
    | ok next =>
      rw [taken] at finished
      have first := runDueEntry_effect keyed taken
      rw [List.map_cons, List.nodup_cons] at distinct
      have others := induction first.2.2.2 distinct.2 finished
      refine ⟨?_, ?_, first.2.2.1.trans others.2.2.1, others.2.2.2⟩
      · intro item member
        rcases List.mem_cons.mp member with rfl | later
        · exact first.1.congr_right (others.2.1 _ distinct.1)
        · have different : item.2 ≠ entry.2 := by
            intro same
            exact distinct.1 (same ▸ List.mem_map_of_mem later)
          exact (others.1 item later).congr_left
            (first.2.1 _ different) first.2.2.1.deleting
      · intro other absent
        rw [List.map_cons, List.mem_cons, not_or] at absent
        exact (first.2.1 other absent.1).trans
          (others.2.1 other absent.2)

theorem runDueEntry_context (taken : runDueEntry zones now run entry = .ok next) :
    SameContext run.manager next.manager := by
  unfold runDueEntry at taken
  split at taken
  · cases taken
    exact ⟨rfl, rfl, rfl, rfl⟩
  · split_ifs at taken
    · cases taken
      exact SameContext.refl _
    · cases advance : run.manager.advanceDeadline zones _ entry.1 now with
      | error error =>
        rw [advance] at taken
        cases taken
      | ok target =>
        have frame := (advanceDeadline_advanced advance).frame
        rw [advance] at taken
        simp only [bind, Except.bind] at taken
        split_ifs at taken
        · cases taken
          exact frame.1
        · cases taken
          exact frame.1.trans (startTask_frame target _ _ _).1

theorem runDueLoop_context {result : Except String Unit}
    (loop : runDueLoop zones now entries run = (final, result)) :
    SameContext run.manager final.manager := by
  induction entries generalizing run with
  | nil =>
    cases loop
    exact SameContext.refl _
  | cons entry rest induction =>
    simp only [runDueLoop] at loop
    cases taken : runDueEntry zones now run entry with
    | error error =>
      rw [taken] at loop
      cases loop
      exact SameContext.refl _
    | ok next =>
      rw [taken] at loop
      exact (runDueEntry_context taken).trans (induction loop)

theorem runDueLoop_isOk_iff (now : Nat) (keyed : run.manager.Keyed)
    (distinct : (entries.map Prod.snd).Nodup) :
    (runDueLoop zones now entries run).2 = .ok () ↔
      ∀ entry ∈ entries, EntryFires zones run.manager entry := by
  induction entries generalizing run with
  | nil => simp [runDueLoop]
  | cons entry rest induction =>
    simp only [runDueLoop, List.forall_mem_cons]
    rw [List.map_cons, List.nodup_cons] at distinct
    cases taken : runDueEntry zones now run entry with
    | error error =>
      have fails : ¬ EntryFires zones run.manager entry := by
        rw [← runDueEntry_isOk_iff now, taken]
        rintro ⟨next, ⟨⟩⟩
      constructor
      · intro finished
        cases finished
      · intro both
        exact absurd both.1 fails
    | ok next =>
      have fires : EntryFires zones run.manager entry :=
        (runDueEntry_isOk_iff now).mp ⟨next, taken⟩
      have first := runDueEntry_effect keyed taken
      rw [and_iff_right fires, induction first.2.2.2 distinct.2]
      refine forall₂_congr fun item later => ?_
      have different : item.2 ≠ entry.2 := by
        intro same
        exact distinct.1 (same ▸ List.mem_map_of_mem later)
      exact EntryFires.congr first.2.2.1 (first.2.1 _ different)

theorem runDueLoop_unchanged (finished : runDueLoop zones now entries run = (final, .ok ()))
    (unchanged : final.changed = false) : final = run := by
  induction entries generalizing run with
  | nil =>
    cases finished
    rfl
  | cons entry rest induction =>
    simp only [runDueLoop] at finished
    cases taken : runDueEntry zones now run entry with
    | error error =>
      rw [taken] at finished
      cases finished
    | ok next =>
      rw [taken] at finished
      have same := induction finished
      rw [same] at unchanged ⊢
      exact runDueEntry_unchanged taken unchanged

/-! ## The pass -/

theorem mem_dueEntries_iff : (scheduledAt, jobId) ∈ manager.dueEntries moment ↔
      manager.nextFire.get? jobId = some scheduledAt ∧
        scheduledAt ≤ moment := by
  unfold dueEntries
  rw [(List.perm_insertionSort _ _).mem_iff, List.mem_filter, ← Dict.mem_entries_iff]
  simp

theorem dueEntries_distinct (manager : CronManager) (moment : Nat) :
    ((manager.dueEntries moment).map Prod.snd).Nodup := by
  unfold dueEntries
  have sorted := (List.perm_insertionSort Precedes
    ((manager.nextFire.entries.map fun entry => (entry.2, entry.1)).filter
        fun entry => entry.1 ≤ moment)).map Prod.snd
  rw [sorted.nodup_iff]
  refine List.Nodup.sublist (List.filter_sublist.map _) ?_
  rw [List.map_map]
  exact manager.nextFire.nodupKeys

/-- A job is due, exists and is not being deleted. -/
def Due (manager : CronManager) (moment : Nat) (jobId : String) (scheduledAt : Nat) : Prop :=
  manager.nextFire.get? jobId = some scheduledAt ∧ scheduledAt ≤ moment ∧ manager.Active jobId

/-- A task of the job will still take a step. -/
def HasLiveTask (manager : CronManager) (jobId : String) : Prop :=
  ∃ task, manager.tasks.get? jobId = some task ∧ task.stage ≠ .ended

/--
A pass at `moment` returns, no due job keeps its deadline, exactly the due
jobs without a live task get one new task each, and the snapshot on disk is
the one of the jobs in memory.
-/
structure RunDueSucceeds
    (zones : ZoneDatabase) (manager : CronManager) (moment now : Nat) :
    Prop where
  returns : ∃ created, (manager.runDue zones moment now).2 = .ok created
  consumed : ∀ jobId scheduledAt, manager.Due moment jobId scheduledAt →
      (manager.runDue zones moment now).1.nextFire.get? jobId ≠ some scheduledAt
  begun : ∀ jobId scheduledAt, manager.Due moment jobId scheduledAt →
      ¬ manager.HasLiveTask jobId → (manager.runDue zones moment now).1.startedOf jobId =
            manager.startedOf jobId ++ [⟨jobId, scheduledAt⟩] ∧
          (manager.runDue zones moment now).1.HasLiveTask jobId
  held : ∀ jobId, ((∃ scheduledAt, manager.Due moment jobId scheduledAt) →
        manager.HasLiveTask jobId) →
      (manager.runDue zones moment now).1.startedOf jobId = manager.startedOf jobId ∧
        (manager.runDue zones moment now).1.tasks.get? jobId = manager.tasks.get? jobId
  saved : (manager.runDue zones moment now).1.file = (manager.runDue zones moment now).1.snapshot

/-- Every due recurring job that is not being deleted fires again. -/
def DueJobsFire (zones : ZoneDatabase) (manager : CronManager) (moment : Nat) : Prop :=
  ∀ entry ∈ manager.nextFire.entries, entry.2 ≤ moment → EntryFires zones manager (entry.2, entry.1)

instance (manager : CronManager) (moment : Nat) :
    Decidable (DueJobsFire zones manager moment) :=
  inferInstanceAs (Decidable (∀ entry ∈ manager.nextFire.entries, _ → _))

/-- No due job is held back by a task that was cancelled before it ran. -/
def NoEndedTask (manager : CronManager) (moment : Nat) : Prop :=
  ∀ jobId scheduledAt, manager.Due moment jobId scheduledAt →
    manager.tasks.contains jobId = true → manager.HasLiveTask jobId

/-- The snapshot on disk is the one of the jobs in memory. -/
def Saved (manager : CronManager) : Prop := manager.file = manager.snapshot

theorem runDueLoop_isOk_iff_dueJobsFire (keyed : manager.Keyed) (moment now : Nat) :
    (runDueLoop zones now (manager.dueEntries moment) ⟨manager, 0, false⟩).2 = .ok () ↔
      DueJobsFire zones manager moment := by
  have loop :
      (runDueLoop zones now (manager.dueEntries moment) ⟨manager, 0, false⟩).2 = .ok () ↔
        ∀ entry ∈ manager.dueEntries moment,
          EntryFires zones manager entry :=
    runDueLoop_isOk_iff now keyed (dueEntries_distinct manager moment)
  rw [loop]
  constructor
  · rintro fires ⟨jobId, scheduledAt⟩ member due
    rw [Dict.mem_entries_iff] at member
    exact fires _ (mem_dueEntries_iff.mpr ⟨member, due⟩)
  · rintro fires ⟨scheduledAt, jobId⟩ member
    rw [mem_dueEntries_iff, ← Dict.mem_entries_iff] at member
    exact fires _ member.1 member.2

theorem runDue_of_finished (loop :
      runDueLoop zones now (manager.dueEntries moment) ⟨manager, 0, false⟩ = (final, .ok ())) :
    manager.runDue zones moment now =
      (if final.changed then final.manager.saveState else final.manager,
        .ok final.created) := by
  unfold runDue
  rw [loop]

theorem runDue_of_stopped {error : String} (loop :
      runDueLoop zones now (manager.dueEntries moment) ⟨manager, 0, false⟩ =
        (final, .error error)) :
    manager.runDue zones moment now = (final.manager, .error error) := by
  unfold runDue
  rw [loop]

variable (zones) in
/-- A pass changes neither the deletions nor the timezone. -/
theorem runDue_context (manager : CronManager) (moment now : Nat) :
    (manager.runDue zones moment now).1.deleting = manager.deleting ∧
      (manager.runDue zones moment now).1.timezone = manager.timezone := by
  rcases loop : runDueLoop zones now (manager.dueEntries moment) ⟨manager, 0, false⟩
    with ⟨final, result⟩
  have context := runDueLoop_context loop
  cases result with
  | ok done =>
    rw [runDue_of_finished loop]
    dsimp only
    split_ifs
    · exact ⟨context.deleting, context.timezone⟩
    · exact ⟨context.deleting, context.timezone⟩
  | error error =>
    rw [runDue_of_stopped loop]
    exact ⟨context.deleting, context.timezone⟩

theorem runDue_returns_iff (keyed : manager.Keyed) (moment now : Nat) :
    (∃ created, (manager.runDue zones moment now).2 = .ok created) ↔
      DueJobsFire zones manager moment := by
  rw [← runDueLoop_isOk_iff_dueJobsFire keyed moment now]
  rcases loop : runDueLoop zones now (manager.dueEntries moment) ⟨manager, 0, false⟩
    with ⟨final, result⟩
  cases result with
  | ok done =>
    rw [runDue_of_finished loop]
    exact ⟨fun _ => rfl, fun _ => ⟨final.created, rfl⟩⟩
  | error error =>
    rw [runDue_of_stopped loop]
    constructor
    · rintro ⟨created, ⟨⟩⟩
    · intro finished
      cases finished

theorem runDue_taken (keyed : manager.Keyed) (now : Nat)
    (fires : DueJobsFire zones manager moment) :
    (∀ jobId scheduledAt, manager.nextFire.get? jobId = some scheduledAt →
        scheduledAt ≤ moment → Taken manager (manager.runDue zones moment now).1
            scheduledAt jobId) ∧
      (∀ jobId, (∀ scheduledAt, manager.nextFire.get? jobId = some scheduledAt →
          ¬ scheduledAt ≤ moment) →
        SameJob manager (manager.runDue zones moment now).1 jobId) ∧
      (manager.runDue zones moment now).1.Keyed := by
  rcases loop : runDueLoop zones now (manager.dueEntries moment) ⟨manager, 0, false⟩
    with ⟨final, result⟩
  have finished :=
    (runDueLoop_isOk_iff_dueJobsFire keyed moment now).mpr fires
  rw [loop] at finished
  dsimp only at finished
  subst result
  have effect :=
    runDueLoop_effect keyed (dueEntries_distinct manager moment) loop
  have same : ∀ jobId,
      SameJob final.manager (manager.runDue zones moment now).1 jobId := by
    intro jobId
    rw [runDue_of_finished loop]
    dsimp only
    split_ifs
    · exact ⟨rfl, rfl, rfl, rfl⟩
    · exact SameJob.refl _ _
  refine ⟨?_, ?_, ?_⟩
  · intro jobId scheduledAt found due
    have taken := effect.1 (scheduledAt, jobId)
      (mem_dueEntries_iff.mpr ⟨found, due⟩)
    exact taken.congr_right (same jobId)
  · intro jobId absent
    refine (effect.2.1 jobId ?_).trans (same jobId)
    intro member
    rcases List.mem_map.mp member with ⟨⟨scheduledAt, _⟩, due, rfl⟩
    rw [mem_dueEntries_iff] at due
    exact absent scheduledAt due.1 due.2
  · intro jobId job present
    rw [(same jobId).job] at present
    exact effect.2.2.2 jobId job present

theorem runDue_saved (keyed : manager.Keyed) (saved : manager.Saved)
    (now : Nat) (fires : DueJobsFire zones manager moment) :
    (manager.runDue zones moment now).1.Saved := by
  rcases loop : runDueLoop zones now (manager.dueEntries moment) ⟨manager, 0, false⟩
    with ⟨final, result⟩
  have finished :=
    (runDueLoop_isOk_iff_dueJobsFire keyed moment now).mpr fires
  rw [loop] at finished
  dsimp only at finished
  subst result
  rw [runDue_of_finished loop]
  dsimp only
  split_ifs with changed
  · rfl
  · have unchanged := runDueLoop_unchanged loop
      (eq_false_of_ne_true changed)
    rw [unchanged]
    exact saved

theorem runDueSucceeds_iff (keyed : manager.Keyed) (saved : manager.Saved) (moment now : Nat) :
    RunDueSucceeds zones manager moment now ↔
      DueJobsFire zones manager moment ∧ manager.NoEndedTask moment := by
  constructor
  · intro succeeds
    have fires := (runDue_returns_iff keyed moment now).mp succeeds.returns
    refine ⟨fires, ?_⟩
    intro jobId scheduledAt due held
    by_contra ended
    have taken :=
      (runDue_taken keyed now fires).1 jobId scheduledAt due.1 due.2.1
    have begun := (succeeds.begun jobId scheduledAt due ended).1
    rw [(taken.held fun _ => held).2] at begun
    exact absurd begun (by simp)
  · rintro ⟨fires, live⟩
    rcases runDue_taken keyed now fires with ⟨taken, same, _⟩
    refine ⟨(runDue_returns_iff keyed moment now).mpr fires, ?_, ?_, ?_,
      runDue_saved keyed saved now fires⟩
    · intro jobId scheduledAt due
      exact (taken jobId scheduledAt due.1 due.2.1).consumed due.2.2
    · intro jobId scheduledAt due missing
      have idle : manager.tasks.contains jobId = false := by
        by_contra held
        exact missing
          (live jobId scheduledAt due (by simpa using held))
      have begun :=
        (taken jobId scheduledAt due.1 due.2.1).begun due.2.2 idle
      rcases begun with ⟨started, task, found, stage, _⟩
      exact ⟨started, task, found, by rw [stage]; decide⟩
    · intro jobId held
      by_cases due : ∃ scheduledAt, manager.nextFire.get? jobId = some scheduledAt ∧
            scheduledAt ≤ moment
      · rcases due with ⟨scheduledAt, found, due⟩
        have kept := (taken jobId scheduledAt found due).held ?_
        · exact ⟨kept.2, kept.1⟩
        · intro active
          rcases held ⟨scheduledAt, found, due, active⟩ with ⟨task, present, _⟩
          rw [Dict.contains, present]
          rfl
      · have sameJob := same jobId fun scheduledAt found early =>
          due ⟨scheduledAt, found, early⟩
        exact ⟨sameJob.started, sameJob.task⟩

end CronManager
end TurningGood.Proactive
