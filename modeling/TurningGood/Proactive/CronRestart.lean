import TurningGood.Proactive.CronCrashes
import TurningGood.Proactive.CronOwnership

/-!
# The index of a restarted manager

A manager keeps the deadlines in memory, and a new manager computes them
again from the snapshot on disk.  The snapshot keeps a one-shot deadline in
whole seconds, and the firing of an expression after a moment is the same for
all moments between the previous firing and the next one.  A new manager
therefore has the same index exactly when every one-shot deadline in the
index is a whole second.
-/

namespace TurningGood.Proactive

open TurningGood.Foundation

variable {later : Nat} {timezone : Timezone} {view : JobView} {row : CronJob}

theorem nextCronFire_of_later {expression : String} {base deadline : Nat}
    (found : nextCronFire expression base timezone = .ok deadline)
    (notBefore : base ≤ later) (upTo : later < deadline) :
    nextCronFire expression later timezone = .ok deadline := by
  rcases nextCronFire_eq_ok_iff.mp found with ⟨spec, minute, accepted, search, rfl⟩
  refine nextCronFire_eq_ok_iff.mpr ⟨spec, minute, accepted, ?_, rfl⟩
  refine firstFrom_of_later search ?_ ?_
  · exact Nat.succ_le_succ (Nat.div_le_div_right notBefore)
  · exact Nat.div_lt_of_lt_mul (Nat.mul_comm minute minuteMicros ▸ upTo)

/-! ## What memory and disk hold of a job -/

/-- What memory holds of a job whose deadlines are known up to `latest`. -/
inductive Scheduled (timezone : Timezone) (latest : Nat) :
    JobView → Prop where
  | absent {view : JobView}
      (missing : view.job = none) (unindexed : view.fire = none) :
      Scheduled timezone latest view
  | recurring {view : JobView} {job : CronJob} {cron : CronText}
      {nextRunAt base deadline : Nat}
      (present : view.job = some job)
      (planned : job.plan = .recurring cron nextRunAt)
      (indexed : view.fire = some deadline)
      (next : nextCronFire cron.val base timezone = .ok deadline)
      (known : base ≤ latest) :
      Scheduled timezone latest view
  | oneShot {view : JobView} {job : CronJob} {deadline : Nat}
      (present : view.job = some job)
      (planned : job.plan = .oneShot (some (wholeSeconds deadline)))
      (indexed : view.fire = some deadline) :
      Scheduled timezone latest view
  | spent {view : JobView} {job : CronJob}
      (present : view.job = some job)
      (planned : job.plan = .oneShot none) (unindexed : view.fire = none) :
      Scheduled timezone latest view

/-- What the row of a job on disk holds, given what memory holds. -/
inductive RowAgrees (latest : Nat) (view : JobView) (row : CronJob) :
    Prop where
  | recurring {job : CronJob} {cron : CronText} {nextRunAt rowRunAt : Nat}
      (present : view.job = some job)
      (planned : job.plan = .recurring cron nextRunAt)
      (stored : row.plan = .recurring cron rowRunAt)
  | oneShot {job : CronJob} {deadline : Nat}
      (present : view.job = some job) (once : job.recurring = false)
      (indexed : view.fire = some deadline)
      (stored : row.plan = .oneShot (some (wholeSeconds deadline)))
  | spent {job : CronJob} {rowRunAt : Option Nat}
      (present : view.job = some job) (once : job.recurring = false)
      (unindexed : view.fire = none)
      (stored : row.plan = .oneShot rowRunAt)
      (past : ∀ moment, rowRunAt = some moment → moment ≤ latest)

theorem Scheduled.mono {latest : Nat}
    (scheduled : Scheduled timezone latest view) (grows : latest ≤ later) :
    Scheduled timezone later view := by
  cases scheduled with
  | absent missing unindexed => exact .absent missing unindexed
  | recurring present planned indexed next known =>
    exact .recurring present planned indexed next (known.trans grows)
  | oneShot present planned indexed => exact .oneShot present planned indexed
  | spent present planned unindexed => exact .spent present planned unindexed

theorem RowAgrees.mono {latest : Nat} (agrees : RowAgrees latest view row)
    (grows : latest ≤ later) : RowAgrees later view row := by
  cases agrees with
  | recurring present planned stored =>
    exact .recurring present planned stored
  | oneShot present once indexed stored =>
    exact .oneShot present once indexed stored
  | spent present once unindexed stored past =>
    exact .spent present once unindexed stored fun moment found => (past moment found).trans grows

theorem Scheduled.congr {latest : Nat} {other : JobView}
    (scheduled : Scheduled timezone latest view) (job : other.job = view.job)
    (fire : other.fire = view.fire) : Scheduled timezone latest other := by
  cases scheduled with
  | absent missing unindexed =>
    exact .absent (job.trans missing) (fire.trans unindexed)
  | recurring present planned indexed next known =>
    exact .recurring (job.trans present) planned (fire.trans indexed) next known
  | oneShot present planned indexed =>
    exact .oneShot (job.trans present) planned (fire.trans indexed)
  | spent present planned unindexed =>
    exact .spent (job.trans present) planned (fire.trans unindexed)

theorem RowAgrees.congr {latest : Nat} {other : JobView}
    (agrees : RowAgrees latest view row) (job : other.job = view.job)
    (fire : other.fire = view.fire) : RowAgrees latest other row := by
  cases agrees with
  | recurring present planned stored =>
    exact .recurring (job.trans present) planned stored
  | oneShot present once indexed stored =>
    exact .oneShot (job.trans present) once (fire.trans indexed) stored
  | spent present once unindexed stored past =>
    exact .spent (job.trans present) once (fire.trans unindexed) stored past

theorem Scheduled.rowAgrees {latest : Nat}
    (scheduled : Scheduled timezone latest view) (saved : view.job = some row) :
    RowAgrees latest view row := by
  cases scheduled with
  | absent missing => exact absurd (missing.symm.trans saved) (by simp)
  | recurring present planned indexed next known =>
    cases saved.symm.trans present
    exact .recurring saved planned planned
  | oneShot present planned indexed =>
    cases saved.symm.trans present
    exact .oneShot saved (by rw [CronJob.recurring, planned]; rfl) indexed
      planned
  | spent present planned unindexed =>
    cases saved.symm.trans present
    refine .spent saved (by rw [CronJob.recurring, planned]; rfl) unindexed
      planned ?_
    rintro moment ⟨⟩

/-- The clock readings that an event may not fall behind. -/
structure Covers
    (jobId : String) (event : CronEvent) (before after : JobView)
    (latest : Nat) : Prop where
  created : ∀ request now, event = .createJob request jobId now → now ≤ latest
  consumed : ∀ moment now scheduledAt, event = .runDue moment now →
      before.fire = some scheduledAt → after.fire ≠ some scheduledAt → scheduledAt ≤ latest

theorem scheduled_of_move {jobId : String} {event : CronEvent}
    {before after : JobView} {latest : Nat}
    (moved : JobMove timezone jobId event before after)
    (covers : Covers jobId event before after latest)
    (scheduled : Scheduled timezone latest before) :
    Scheduled timezone latest after := by
  cases moved with
  | create unused named planned =>
    rename_i request now deadline job
    have known := covers.created request now rfl
    cases plan : job.plan with
    | recurring cron nextRunAt =>
      rw [plan] at planned
      exact .recurring rfl plan rfl planned.1 known
    | oneShot nextRunAt =>
      rw [plan] at planned
      exact .oneShot rfl (by rw [plan, planned.2]) rfl
  | forget missing => exact .absent missing rfl
  | advance present kept due early sameId next given =>
    rename_i moment now scheduledAt job updated fire task
    cases plan : job.plan with
    | recurring cron nextRunAt =>
      rw [plan] at next
      rcases next with ⟨deadline, search, updatedPlan, rfl⟩
      have later := nextCronFire_later search
      refine .recurring rfl updatedPlan rfl search
        (covers.consumed moment now scheduledAt rfl due ?_)
      exact fun same =>
        absurd (Option.some.inj same) (Nat.ne_of_gt later)
    | oneShot nextRunAt =>
      rw [plan] at next
      exact .spent rfl next.1 next.2
  | cancelOneShot => exact .absent rfl rfl
  | settleOneShot => exact .absent rfl rfl
  | finishDelete => exact .absent rfl rfl
  | stay | callExecutor | run | endUnstarted | requestCancel | clear
  | settleRecurring | beginDelete | abortDelete =>
    exact scheduled.congr rfl rfl

theorem rowAgrees_of_pass {jobId : String} {moment now : Nat}
    {before after : JobView} {latest : Nat}
    (moved : JobMove timezone jobId (.runDue moment now) before after)
    (covers : Covers jobId (.runDue moment now) before after latest)
    (agrees : RowAgrees latest before row) : RowAgrees latest after row := by
  cases moved with
  | stay => exact agrees
  | forget missing =>
    cases agrees with
    | recurring present =>
      exact absurd (missing.symm.trans present) (by simp)
    | oneShot present =>
      exact absurd (missing.symm.trans present) (by simp)
    | spent present =>
      exact absurd (missing.symm.trans present) (by simp)
  | advance held kept due early sameId next given =>
    rename_i scheduledAt job updated fire task
    cases agrees with
    | recurring present planned stored =>
      cases held.symm.trans present
      rw [planned] at next
      rcases next with ⟨deadline, _, updatedPlan, _⟩
      exact .recurring rfl updatedPlan stored
    | oneShot present once indexed stored =>
      cases held.symm.trans present
      cases due.symm.trans indexed
      unfold CronJob.recurring at once
      cases planned : job.plan with
      | recurring cron nextRunAt =>
        rw [planned] at once
        cases once
      | oneShot nextRunAt =>
        rw [planned] at next
        have past := covers.consumed moment now scheduledAt rfl due
          (by rw [next.2]; simp)
        refine .spent rfl ?_ next.2 stored ?_
        · rw [CronJob.recurring, next.1]
          rfl
        · rintro _ ⟨⟩
          exact (Nat.div_mul_le_self scheduledAt 1000000).trans past
    | spent present once unindexed =>
      exact absurd (due.symm.trans unindexed) (by simp)
  | clear ofTask => exact ofTask.elim
  | cancelOneShot ofTask => exact ofTask.elim

/-! ## Runs with a clock -/

/--
A manager with the latest instant at which a job was created, or that was a
consumed deadline.
-/
structure TimedManager where
  manager : CronManager
  latest : Nat

namespace CronManager

variable {zones : ZoneDatabase}

/-- The latest deadline that a step took out of the index. -/
def lastConsumed (before after : CronManager) : Nat := ((before.nextFire.entries.filter fun entry =>
    after.nextFire.get? entry.1 ≠ some entry.2).map Prod.snd).foldr max 0

/-- The instant that an event adds to the known ones. -/
def eventInstant (before after : CronManager) : CronEvent → Nat
  | .createJob _ _ now => now
  | .runDue _ _ => lastConsumed before after
  | _ => 0

/-- The one-shot rows of a stored snapshot are in whole seconds. -/
def WholeRows (file : CronFile) : Prop :=
  ∀ row ∈ file.jobs, ∀ moment, row.plan = .oneShot (some moment) → wholeSeconds moment = moment

end CronManager

/-- The runs of a started manager, with the instants that are known. -/
def timedMachine (zones : ZoneDatabase) : Machine TimedManager CronEvent where
  initial timed := ∃ timezone file, zones.known timezone = true ∧ CronManager.WholeRows file ∧
      (CronManager.stored timezone file).initializeSchedule zones
        timed.latest = (timed.manager, .ok ())
  step timed event := (timed.manager.step zones event).map fun target =>
      ⟨target, max timed.latest (timed.manager.eventInstant target event)⟩

namespace CronManager

variable {zones : ZoneDatabase}

variable {target : CronManager} {timezone : Timezone} {now : Nat}

theorem le_foldr_max {numbers : List Nat} {number : Nat}
    (member : number ∈ numbers) : number ≤ numbers.foldr max 0 := by
  induction numbers with
  | nil => cases member
  | cons head rest induction =>
    rw [List.foldr_cons]
    rcases List.mem_cons.mp member with rfl | later
    · exact Nat.le_max_left _ _
    · exact (induction later).trans (Nat.le_max_right _ _)

theorem le_lastConsumed
    {before after : CronManager} {jobId : String} {scheduledAt : Nat}
    (due : before.nextFire.get? jobId = some scheduledAt)
    (gone : after.nextFire.get? jobId ≠ some scheduledAt) :
    scheduledAt ≤ lastConsumed before after := by
  refine le_foldr_max (List.mem_map.mpr ⟨(jobId, scheduledAt), ?_, rfl⟩)
  rw [List.mem_filter]
  exact ⟨(Dict.mem_entries_iff _ _ _).mpr due, by simpa using gone⟩

theorem covers_of_step (before after : CronManager) (event : CronEvent) (latest : Nat)
    (jobId : String) :
    Covers jobId event (before.view jobId) (after.view jobId)
      (max latest (eventInstant before after event)) := by
  constructor
  · rintro request now rfl
    exact Nat.le_max_right _ _
  · rintro moment now scheduledAt rfl due gone
    exact (le_lastConsumed due gone).trans (Nat.le_max_right _ _)

/-- Memory and disk hold the same jobs, and their deadlines fit. -/
structure Restartable (manager : CronManager) (latest : Nat)
    (zones : ZoneDatabase) : Prop where
  keyed : manager.Keyed
  scheduled : ∀ jobId, Scheduled (zones.localTime manager.timezone) latest (manager.view jobId)
  distinct : (manager.file.jobs.map CronJob.id).Nodup
  rows : ∀ row ∈ manager.file.jobs, RowAgrees latest (manager.view row.id) row
  stored : ∀ jobId, (manager.view jobId).job ≠ none → jobId ∈ manager.file.jobs.map CronJob.id

variable {manager : CronManager} {latest : Nat}

theorem restartable_of_perm (rows : manager.file.jobs.Perm manager.jobs.values)
    (keyed : manager.Keyed) (scheduled : ∀ jobId,
        Scheduled (zones.localTime manager.timezone) latest
          (manager.view jobId)) : manager.Restartable latest zones := by
  refine ⟨keyed, scheduled, ?_, ?_, ?_⟩
  · rw [(rows.map _).nodup_iff]
    exact keyed.values_ids_nodup
  · intro row member
    rw [rows.mem_iff] at member
    exact (scheduled row.id).rowAgrees (keyed.get?_of_mem_values member)
  · intro jobId present
    rcases Option.ne_none_iff_exists'.mp present with ⟨job, found⟩
    rw [(rows.map _).mem_iff]
    refine List.mem_map.mpr ⟨job, ?_, keyed jobId job found⟩
    exact (Dict.mem_values_iff _ _).mpr ⟨jobId, found⟩

theorem Saved.rows_perm (saved : manager.Saved) :
    manager.file.jobs.Perm manager.jobs.values := by
  rw [saved]
  exact List.perm_insertionSort _ _

theorem cancelJob_timezone (manager : CronManager) (jobId : String) :
    (manager.cancelJob jobId).timezone = manager.timezone := by
  unfold cancelJob
  split_ifs
  · rfl
  · split
    · rfl
    · split_ifs <;> rfl

theorem step_timezone {event : CronEvent} (ordinary : ¬ Rebuilds event)
    (stepped : manager.step zones event = some target) :
    target.timezone = manager.timezone := by
  cases event with
  | createJob request jobId now =>
    simp only [step] at stepped
    split_ifs at stepped
    cases created : manager.createJob zones request jobId now with
    | error error =>
      rw [created] at stepped
      cases stepped
      rfl
    | ok after =>
      rw [created] at stepped
      cases stepped
      rcases createJob_eq_ok created with ⟨_, _, _, _, rfl⟩
      rfl
  | runDue moment now =>
    cases stepped
    exact (runDue_context zones manager moment now).2
  | updateTimezone name now => exact absurd trivial ordinary
  | initializeSchedule now => exact absurd trivial ordinary
  | reload now => exact absurd trivial ordinary
  | close =>
    cases stepped
    rfl
  | stepTask jobId =>
    rcases Option.map_eq_some_iff.mp stepped with ⟨task, _, rfl⟩
    unfold stepTask
    split_ifs <;> rfl
  | markRunning jobId =>
    rcases Option.map_eq_some_iff.mp stepped with ⟨task, _, rfl⟩
    unfold markRunning
    split_ifs
    · exact cancelJob_timezone manager jobId
    · rfl
  | cancelTask jobId =>
    rcases Option.map_eq_some_iff.mp stepped with ⟨task, _, rfl⟩
    unfold cancelTask
    split_ifs
    · rfl
    · exact cancelJob_timezone manager jobId
  | executorReturned jobId result =>
    rcases Option.map_eq_some_iff.mp stepped with ⟨task, _, rfl⟩
    unfold executorReturned finishJob
    split_ifs
    · rfl
    · split
      · rfl
      · unfold settleJob retireJob
        split_ifs <;> rfl
  | delivered jobId =>
    rcases Option.map_eq_some_iff.mp stepped with ⟨task, _, rfl⟩
    rfl
  | beginDelete jobId =>
    simp only [step] at stepped
    cases deleted : manager.beginDelete jobId with
    | error error =>
      rw [deleted] at stepped
      cases stepped
      rfl
    | ok after =>
      rw [deleted] at stepped
      cases stepped
      unfold beginDelete at deleted
      split_ifs at deleted
      cases deleted
      rfl
  | purgeDelete deletion =>
    simp only [step, purgeDelete] at stepped
    split_ifs at stepped
    cases stepped
    rfl
  | finishDelete deletion =>
    simp only [step, finishDelete] at stepped
    split_ifs at stepped
    cases stepped
    rfl
  | abortDelete deletion =>
    simp only [step, abortDelete] at stepped
    split_ifs at stepped
    cases stepped
    rfl

theorem step_restartable {event : CronEvent} (restartable : manager.Restartable latest zones)
    (ordinary : ¬ Rebuilds event)
    (stepped : manager.step zones event = some target) :
    target.Restartable (max latest (eventInstant manager target event))
      zones := by
  have keyed := step_keyed restartable.keyed stepped
  have timezone := step_timezone ordinary stepped
  have moves := step_move restartable.keyed ordinary stepped
  have grows := Nat.le_max_left latest (eventInstant manager target event)
  have covers := covers_of_step manager target event latest
  have scheduled : ∀ jobId,
      Scheduled (zones.localTime target.timezone) (max latest (eventInstant manager target event))
        (target.view jobId) := by
    intro jobId
    rw [timezone]
    exact scheduled_of_move (moves jobId) (covers jobId) ((restartable.scheduled jobId).mono grows)
  by_cases pass : ∃ moment now, event = .runDue moment now
  · rcases pass with ⟨moment, now, rfl⟩
    cases stepped
    rcases runDue_file zones restartable.keyed moment now with saved | same | ⟨_, same, _⟩
    · exact restartable_of_perm saved.rows_perm keyed scheduled
    · refine ⟨keyed, scheduled, ?_, ?_, ?_⟩
      · rw [same]
        exact restartable.distinct
      · rw [same]
        exact fun row member => (restartable.rows row member).mono (by
          rw [same] at grows
          exact grows)
      · rw [same]
        exact restartable.stored
    · refine ⟨keyed, scheduled, ?_, ?_, ?_⟩
      · rw [same]
        exact restartable.distinct
      · intro row member
        rw [same] at member
        exact rowAgrees_of_pass (moves row.id) (covers row.id)
          ((restartable.rows row member).mono grows)
      · intro jobId present
        rw [same]
        refine restartable.stored jobId fun missing => ?_
        rcases runDue_move_cases (moves jobId) with ⟨sameJob, _⟩ | ⟨_, _, _, _, held, _⟩
        · exact present (sameJob.trans missing)
        · exact absurd (missing.symm.trans held) (by simp)
  · rw [not_exists] at pass
    have stored := step_file ordinary
      (fun moment now same => pass moment ⟨now, same⟩) stepped
    rcases stored with saved | same
    · exact restartable_of_perm saved.rows_perm keyed scheduled
    · have job : ∀ jobId,
          (target.view jobId).job = (manager.view jobId).job := by
        intro jobId
        rw [view, view, same.jobs]
      have fire : ∀ jobId,
          (target.view jobId).fire = (manager.view jobId).fire := by
        intro jobId
        rw [view, view, same.nextFire]
      refine ⟨keyed, scheduled, ?_, ?_, ?_⟩
      · rw [same.file]
        exact restartable.distinct
      · intro row member
        rw [same.file] at member
        exact ((restartable.rows row member).mono grows).congr (job row.id) (fire row.id)
      · intro jobId present
        rw [same.file]
        rw [job jobId] at present
        exact restartable.stored jobId present

theorem scheduled_of_rebuilt {before after : JobView}
    (rebuilt : Rebuilt timezone now true before after)
    (noFire : before.fire = none) (whole : ∀ job moment, before.job = some job →
        job.plan = .oneShot (some moment) → wholeSeconds moment = moment) :
    Scheduled timezone now after := by
  cases rebuilt with
  | missed present passed => exact .absent rfl noFire
  | indexed present next kept =>
    rename_i job deadline
    unfold nextJobFire at next
    cases planned : job.plan with
    | recurring cron nextRunAt =>
      rw [CronJob.recurring, planned] at kept
      cases kept
    | oneShot nextRunAt =>
      rw [planned] at next
      cases nextRunAt with
      | none => cases next
      | some moment =>
        dsimp only at next
        rw [Except.ok.injEq] at next
        split_ifs at next
        have same : moment = deadline := Option.some.inj next
        subst same
        refine .oneShot present ?_ rfl
        rw [planned, whole job moment present planned]
  | replaced present planned next sameId plan persists =>
    exact .recurring rfl plan rfl next le_rfl

theorem rebuildDeadlines_rows (rows : manager.file.jobs.Perm manager.jobs.values) (rebuilt :
      manager.rebuildDeadlines zones now true = (target, .ok ())) :
    target.file.jobs.Perm target.jobs.values := by
  unfold rebuildDeadlines at rebuilt
  rcases loop : rebuildLoop zones now true manager.jobs.values
        { manager with nextFire := Dict.empty } false with
    ⟨final, outcome⟩
  rw [loop] at rebuilt
  cases outcome with
  | error error => cases rebuilt
  | ok changed =>
    cases rebuilt
    split_ifs with saves
    · exact Saved.rows_perm rfl
    · have same : final.jobs =
          ({ manager with nextFire := Dict.empty } : CronManager).jobs :=
        rebuildLoop_unchanged loop (.inr (by simpa using saves))
      rcases (rebuildLoop_effect loop).1 with ⟨jobs, nextFire, rfl⟩
      rw [same]
      exact rows

theorem started_restartable {timezone : String} {file : CronFile}
    (whole : WholeRows file) (started : (stored timezone file).initializeSchedule zones now =
        (manager, .ok ())) : manager.Restartable now zones := by
  unfold initializeSchedule at started
  cases loads : (stored timezone file).loadState with
  | error error =>
    rw [loads] at started
    cases started
  | ok loaded =>
    rw [loads] at started
    dsimp only at started
    rcases loadState_effect loads with ⟨⟨jobs, rfl, rows⟩, keyed, _⟩
    have views := view_rebuildDeadlines keyed started
    have zone : manager.timezone = timezone := by
      rcases (rebuildDeadlines_effect started).1 with ⟨_, _, _, rfl⟩
      rfl
    refine restartable_of_perm (rebuildDeadlines_rows ?_ started)
      ((rebuildDeadlines_effect started).2.1 keyed) fun jobId => ?_
    · rw [rows]
    · rw [zone]
      cases found : jobs.get? jobId with
      | none =>
        rw [views.2.1 jobId found]
        exact .absent found rfl
      | some job =>
        refine scheduled_of_rebuilt (views.2.2 rfl jobId job found) rfl ?_
        intro held moment present planned
        have valued : held ∈ jobs.values :=
          (Dict.mem_values_iff jobs held).mpr ⟨jobId, present⟩
        rw [rows] at valued
        exact whole held valued moment planned

/-- The one-shot deadline of a view, if it has one, is a whole second. -/
def WholeDeadline (view : JobView) : Prop :=
  ∀ job deadline, view.job = some job → job.recurring = false →
    view.fire = some deadline → wholeSeconds deadline = deadline

theorem nextJobFire_of_rowAgrees {moment : Nat} {view : JobView}
    {row : CronJob} (agrees : RowAgrees latest view row)
    (scheduled : Scheduled timezone latest view) (after : latest ≤ moment)
    (before : ∀ deadline, view.fire = some deadline → moment < deadline) :
    ∃ fire, nextJobFire row moment timezone = .ok fire ∧
      (fire = view.fire ↔ WholeDeadline view) := by
  cases agrees with
  | recurring present planned stored =>
    rename_i job cron nextRunAt rowRunAt
    have recurs : job.recurring = true := by
      rw [CronJob.recurring, planned]
      rfl
    cases scheduled with
    | absent missing => exact absurd (missing.symm.trans present) (by simp)
    | oneShot other plan =>
      cases present.symm.trans other
      exact absurd (planned.symm.trans plan) (by simp)
    | spent other plan =>
      cases present.symm.trans other
      exact absurd (planned.symm.trans plan) (by simp)
    | recurring other plan indexed next known =>
      rename_i otherCron otherRunAt base deadline
      cases present.symm.trans other
      cases planned.symm.trans plan
      have again := nextCronFire_of_later next (known.trans after)
        (before deadline indexed)
      refine ⟨some deadline, ?_, fun _ => ?_, fun _ => indexed.symm⟩
      · rw [nextJobFire, stored]
        simp only [again]
        rfl
      · intro found _ held once
        cases present.symm.trans held
        rw [recurs] at once
        cases once
  | oneShot present once indexed stored =>
    rename_i job deadline
    refine ⟨_, by rw [nextJobFire, stored], ?_⟩
    rw [indexed]
    constructor
    · intro same found other held _ due
      cases indexed.symm.trans due
      split_ifs at same
      exact Option.some.inj same
    · intro whole
      have same := whole job deadline present once indexed
      rw [same, if_pos (before deadline indexed)]
  | spent present once unindexed stored past =>
    rename_i job rowRunAt
    have none : nextJobFire row moment timezone = .ok none := by
      rw [nextJobFire, stored]
      cases rowRunAt with
      | none => rfl
      | some passed =>
        have early := (past passed rfl).trans after
        dsimp only
        rw [if_neg (Nat.not_lt.mpr early)]
    refine ⟨_, none, fun _ => ?_, fun _ => unindexed.symm⟩
    intro found deadline _ _ due
    exact absurd (unindexed.symm.trans due) (by simp)

theorem nextJobFire_of_rebuilt {before after : JobView} {job : CronJob}
    (rebuilt : Rebuilt timezone now false before after)
    (present : before.job = some job) (noFire : before.fire = none) :
    nextJobFire job now timezone = .ok after.fire := by
  cases rebuilt with
  | missed held passed =>
    cases present.symm.trans held
    rw [passed]
    exact congrArg Except.ok noFire.symm
  | indexed held next kept =>
    cases present.symm.trans held
    exact next
  | replaced held planned next sameId plan persists => cases persists

theorem reload_index {moment : Nat}
    (distinct : (manager.file.jobs.map CronJob.id).Nodup) (computed :
      ∀ row ∈ manager.file.jobs, ∃ fire,
        nextJobFire row moment (zones.localTime manager.timezone) = .ok fire) :
    ∃ reloaded, manager.reload zones moment = some reloaded ∧ (∀ row ∈ manager.file.jobs,
        nextJobFire row moment (zones.localTime manager.timezone) =
          .ok (reloaded.nextFire.get? row.id)) ∧
      ∀ jobId, jobId ∉ manager.file.jobs.map CronJob.id →
        reloaded.nextFire.get? jobId = none := by
  have unique :
      ((manager.file.jobs.map fun job => (job.id, job)).map Prod.fst).Nodup := by
    rw [List.map_map]
    exact distinct
  obtain ⟨loaded, loads⟩ : ∃ loaded, manager.loadState = .ok loaded := by
    unfold loadState jobsOfRows
    rw [dif_pos unique]
    exact ⟨_, rfl⟩
  rcases loadState_effect loads with ⟨⟨jobs, rfl, rows⟩, keyed, _⟩
  let fresh : CronManager :=
    { manager with
      jobs := jobs, usage := manager.file.usage, tasks := Dict.empty
      runningIds := [], deleting := [], deletions := [] }
  have freshKeyed : fresh.Keyed := keyed
  have fires : JobsFire zones fresh.timezone moment fresh.jobs.values := by
    intro job member
    have row : job ∈ manager.file.jobs := by
      rw [← rows]
      exact member
    have found : ∃ fire, nextJobFire job moment
        (zones.localTime fresh.timezone) = .ok fire := computed job row
    exact nextJobFire_isOk_iff.mp found
  have finished :
      (fresh.rebuildDeadlines zones moment false).2 = .ok () :=
    rebuildDeadlines_isOk fires
  cases rebuilt : fresh.rebuildDeadlines zones moment false with
  | mk target result =>
    rw [rebuilt] at finished
    have done : result = .ok () := finished
    subst done
    have views := view_rebuildDeadlines freshKeyed rebuilt
    refine ⟨target, ?_, ?_, ?_⟩
    · unfold reload
      rw [loads]
      dsimp only
      rw [rebuilt]
    · intro row member
      have held : fresh.jobs.get? row.id = some row := by
        refine freshKeyed.get?_of_mem_values ?_
        rw [← rows] at member
        exact member
      exact nextJobFire_of_rebuilt (views.2.2 rfl row.id row held) held rfl
    · intro jobId absent
      have missing : fresh.jobs.get? jobId = none := by
        cases found : fresh.jobs.get? jobId with
        | none => rfl
        | some job =>
          have named := freshKeyed jobId job found
          have valued : job ∈ jobs.values :=
            (Dict.mem_values_iff _ _).mpr ⟨jobId, found⟩
          rw [rows] at valued
          exact absurd (named ▸ List.mem_map_of_mem valued) absent
      exact congrArg JobView.fire (views.2.1 jobId missing)

end CronManager

/-! ## Whole runs -/

/-- The manager can be restarted after the instants that are known. -/
def TimedManager.Restartable (zones : ZoneDatabase) (timed : TimedManager) : Prop :=
  timed.manager.Restartable timed.latest zones

namespace CronManager

variable {zones : ZoneDatabase}

instance : DecidablePred Rebuilds := fun event =>
  match event with
  | .updateTimezone _ _ | .initializeSchedule _ | .reload _ =>
    inferInstanceAs (Decidable True)
  | .createJob _ _ _ | .runDue _ _ | .close | .stepTask _ | .markRunning _
  | .cancelTask _ | .executorReturned _ _ | .delivered _ | .beginDelete _
  | .purgeDelete _ | .finishDelete _ | .abortDelete _ =>
    inferInstanceAs (Decidable False)

/-- A new manager that loads the snapshot has the same deadlines. -/
def RestartsWithSameIndex (zones : ZoneDatabase) (manager : CronManager) (moment : Nat) : Prop :=
  ∃ reloaded, manager.reload zones moment = some reloaded ∧
    ∀ jobId, reloaded.nextFire.get? jobId = manager.nextFire.get? jobId

/-- Every deadline of a one-shot job is a whole second. -/
def OneShotsWhole (manager : CronManager) : Prop := ∀ jobId, WholeDeadline (manager.view jobId)

theorem Restartable.restartsWithSameIndex_iff
    {manager : CronManager} {latest moment : Nat}
    (restartable : manager.Restartable latest zones)
    (after : latest ≤ moment)
    (before : ∀ jobId deadline, manager.nextFire.get? jobId = some deadline → moment < deadline) :
    RestartsWithSameIndex zones manager moment ↔ manager.OneShotsWhole := by
  have computed : ∀ row ∈ manager.file.jobs, ∃ fire,
      nextJobFire row moment (zones.localTime manager.timezone) = .ok fire ∧
        (fire = (manager.view row.id).fire ↔
          WholeDeadline (manager.view row.id)) :=
    fun row member =>
      nextJobFire_of_rowAgrees (restartable.rows row member)
        (restartable.scheduled row.id) after (before row.id)
  rcases reload_index restartable.distinct
      (fun row member => (computed row member).imp fun _ => And.left) with
    ⟨reloaded, reloads, indexed, unindexed⟩
  have same : ∀ row ∈ manager.file.jobs,
      (reloaded.nextFire.get? row.id = manager.nextFire.get? row.id ↔
        WholeDeadline (manager.view row.id)) := by
    intro row member
    rcases computed row member with ⟨fire, found, whole⟩
    rw [indexed row member, Except.ok.injEq] at found
    rw [found]
    exact whole
  constructor
  · rintro ⟨other, again, equal⟩ jobId job deadline present
    cases reloads.symm.trans again
    have stored := restartable.stored jobId (by rw [present]; simp)
    rcases List.mem_map.mp stored with ⟨row, member, rfl⟩
    exact (same row member).mp (equal row.id) job deadline present
  · intro whole
    refine ⟨reloaded, reloads, fun jobId => ?_⟩
    by_cases stored : jobId ∈ manager.file.jobs.map CronJob.id
    · rcases List.mem_map.mp stored with ⟨row, member, rfl⟩
      exact (same row member).mpr (whole row.id)
    · rw [unindexed jobId stored]
      cases restartable.scheduled jobId with
      | absent missing noFire => exact noFire.symm
      | spent present planned noFire => exact noFire.symm
      | recurring present =>
        exact absurd (restartable.stored jobId (by rw [present]; simp))
          stored
      | oneShot present =>
        exact absurd (restartable.stored jobId (by rw [present]; simp))
          stored

/--
In every state of a run without rebuilds, a new manager that starts after
the known instants and before the deadlines has the same index exactly when
the deadlines of the one-shot jobs are whole seconds.
-/
theorem timedRuns_restartWithSameIndex_iff
    {timed : TimedManager}
    (reached : (timedMachine zones).Reaches (fun _ event => ¬ Rebuilds event) timed)
    {moment : Nat} (after : timed.latest ≤ moment)
    (before : ∀ jobId deadline, timed.manager.nextFire.get? jobId = some deadline →
        moment < deadline) :
    RestartsWithSameIndex zones timed.manager moment ↔
      timed.manager.OneShotsWhole := by
  have restartable : timed.Restartable zones := by
    refine reached.invariant ?_ ?_
    · rintro state ⟨timezone, file, _, whole, started⟩
      exact started_restartable whole started
    · intro earlier event target _ restartable ordinary stepped
      rcases Option.map_eq_some_iff.mp stepped with ⟨manager, moved, rfl⟩
      exact step_restartable restartable ordinary moved
  exact restartable.restartsWithSameIndex_iff after before

/-- A reminder half a second behind a minute. -/
def unevenReminder : List CronEvent := [.createJob
    ⟨"once", false, none, some (.aware (leapMoment 1 + 500000)), none⟩ "a"
    (leapMoment 0)]

/-- Its deadline in memory has the fraction, and the one on disk has not. -/
theorem uneven_reminder_restarts_earlier : ∃ timed reloaded,
      (timedMachine onlyUtc).run ⟨fresh "UTC", 0⟩ unevenReminder = some timed ∧
        timed.latest ≤ leapMoment 0 ∧
        timed.manager.tasks = Dict.empty ∧
        timed.manager.nextFire.get? "a" = some (leapMoment 1 + 500000) ∧
        timed.manager.reload onlyUtc (leapMoment 0) = some reloaded ∧
        reloaded.nextFire.get? "a" = some (leapMoment 1) ∧
        ¬ RestartsWithSameIndex onlyUtc timed.manager (leapMoment 0) := by
  refine ⟨_, _, rfl, by decide, rfl, rfl, rfl, rfl, ?_⟩
  rintro ⟨other, reloads, same⟩
  cases reloads
  exact absurd (same "a") (by decide)

/-- A reminder on the minute, and a job for every minute. -/
def evenReminder : List CronEvent :=
  [.createJob ⟨"once", false, none, some (.aware (leapMoment 2)), none⟩ "a" (leapMoment 0),
    .createJob ⟨"often", true, some "* * * * *", none, none⟩ "b" (leapMoment 0)]

/-- Half a minute later a new manager has the same two deadlines. -/
theorem even_reminder_restarts_with_same_index : ∃ timed,
      (timedMachine onlyUtc).run ⟨fresh "UTC", 0⟩ evenReminder = some timed ∧
        timed.manager.nextFire.get? "a" = some (leapMoment 2) ∧
        timed.manager.nextFire.get? "b" = some (leapMoment 1) ∧
        RestartsWithSameIndex onlyUtc timed.manager (leapMoment 0 + 30000000) := by
  refine ⟨_, rfl, rfl, rfl, ?_⟩
  have evaluated :
      (timedMachine onlyUtc).runGuarded (fun _ event => ¬ Rebuilds event)
          ⟨fresh "UTC", 0⟩ evenReminder = some _ := rfl
  have started : (timedMachine onlyUtc).initial ⟨fresh "UTC", 0⟩ :=
    ⟨"UTC", ⟨[], ⟨0, 0, 0, 0⟩⟩, rfl, by rintro row ⟨⟩, rfl⟩
  have known : ∀ timed, (timedMachine onlyUtc).run ⟨fresh "UTC", 0⟩
      evenReminder = some timed → ∀ entry ∈ timed.manager.nextFire.entries,
          leapMoment 0 + 30000000 < entry.2 ∧
            wholeSeconds entry.2 = entry.2 := by
    rintro timed ⟨⟩
    decide
  refine (timedRuns_restartWithSameIndex_iff
    (.runGuarded (.start started) evaluated) (by decide) ?_).mpr ?_
  · intro jobId deadline found
    exact (known _ rfl _ ((Dict.mem_entries_iff _ _ _).mpr found)).1
  · intro jobId job deadline _ _ found
    exact (known _ rfl _ ((Dict.mem_entries_iff _ _ _).mpr found)).2

end CronManager
end TurningGood.Proactive
