import TurningGood.Proactive.CronJobMoves

/-!
# Missed firings

A pass computes the next deadline of a job from the deadline that it
consumes and not from the moment of the pass.  The new deadline is therefore
still due whenever the expression has another schedule point up to the
moment, and a further pass at the same moment starts the job again.  Where no
due job has such a point, a pass leaves no recurring job due.
-/

namespace TurningGood.Proactive

open TurningGood.Foundation

/-- No schedule point of the expression lies after `after`, up to `moment`. -/
def NoPointUpTo (expression : String) (timezone : Timezone) (after moment : Nat) :
    Prop :=
  ∀ spec, parseCron expression = .ok spec →
    ∀ minute, after / minuteMicros < minute → minute * minuteMicros ≤ moment →
        spec.matches (timezone minute) = false

theorem nextCronFire_gt_iff
    {expression : String} {after fire : Nat} {timezone : Timezone}
    (found : nextCronFire expression after timezone = .ok fire)
    (moment : Nat) :
    moment < fire ↔ NoPointUpTo expression timezone after moment := by
  rcases nextCronFire_eq_ok_iff.mp found with ⟨spec, minute, accepted, search, rfl⟩
  rcases firstFrom_eq_some search with ⟨low, _, hit, first⟩
  constructor
  · intro later other parsed candidate above upTo
    rw [accepted, Except.ok.injEq] at parsed
    subst other
    refine first candidate above ?_
    exact Nat.lt_of_mul_lt_mul_right (Nat.lt_of_le_of_lt upTo later)
  · intro none
    by_contra early
    have misses := none spec accepted minute low (Nat.le_of_not_lt early)
    rw [hit] at misses
    cases misses

namespace CronManager

variable {zones : ZoneDatabase}

variable {manager : CronManager} {moment now : Nat} {jobId : String}

/--
No recurring job that is due at `moment` and not being deleted has a schedule
point after its deadline, up to the moment.
-/
def NoPointMissed (zones : ZoneDatabase) (manager : CronManager) (moment : Nat) : Prop :=
  ∀ jobId scheduledAt job cron nextRunAt, manager.nextFire.get? jobId = some scheduledAt →
    scheduledAt ≤ moment →
    manager.jobs.get? jobId = some job →
    jobId ∉ manager.deleting →
    job.plan = .recurring cron nextRunAt →
    NoPointUpTo cron.val (zones.localTime manager.timezone) scheduledAt moment

/--
After a pass at `moment` the deadline of every recurring job that is not
being deleted is later; the pass started every job once at most, and no
further pass up to the moment starts a job that is not being deleted.
-/
structure SkipsMissedFirings
    (zones : ZoneDatabase) (manager : CronManager) (moment now : Nat) :
    Prop where
  later : ∀ jobId job deadline, (manager.runDue zones moment now).1.jobs.get? jobId = some job →
      job.recurring = true →
      jobId ∉ (manager.runDue zones moment now).1.deleting →
      (manager.runDue zones moment now).1.nextFire.get? jobId = some deadline →
      moment < deadline
  single : ∀ jobId, (manager.runDue zones moment now).1.startedOf jobId = manager.startedOf jobId ∨
        ∃ scheduledAt, (manager.runDue zones moment now).1.startedOf jobId =
            manager.startedOf jobId ++ [⟨jobId, scheduledAt⟩]
  once : ∀ again later, again ≤ moment → ∀ jobId, jobId ∉ manager.deleting →
      (((manager.runDue zones moment now).1.runDue zones again later).1).startedOf jobId =
        (manager.runDue zones moment now).1.startedOf jobId

theorem runDue_later (keyed : manager.Keyed) (fires : DueJobsFire zones manager moment)
    (none : NoPointMissed zones manager moment) {job : CronJob}
    {deadline : Nat} (present :
      (manager.runDue zones moment now).1.jobs.get? jobId = some job)
    (kept : jobId ∉ manager.deleting) (indexed :
      (manager.runDue zones moment now).1.nextFire.get? jobId =
        some deadline) : moment < deadline := by
  have moved := (view_runDue zones keyed moment now).2 jobId
  rcases runDue_move_cases moved with ⟨sameJob, sameFire | missing⟩ |
      ⟨scheduledAt, old, updated, fire, held, due, next, early, _, after, nextFire⟩
  · by_contra notLater
    have before : manager.nextFire.get? jobId = some deadline :=
      sameFire.symm.trans indexed
    have found : manager.jobs.get? jobId = some job :=
      sameJob.symm.trans present
    have active : manager.Active jobId :=
      ⟨by rw [Dict.contains, found]; rfl, kept⟩
    exact ((runDue_taken keyed now fires).1 jobId deadline before
      (Nat.le_of_not_lt notLater)).consumed active indexed
  · have gone := sameJob.symm.trans present
    rw [missing] at gone
    cases gone
  · cases planned : old.plan with
    | oneShot nextRunAt =>
      rw [planned] at next
      rw [next.2] at nextFire
      exact absurd (nextFire.symm.trans indexed) (by simp)
    | recurring cron nextRunAt =>
      rw [planned] at next
      rcases next with ⟨found, search, _, rfl⟩
      have same : found = deadline :=
        Option.some.inj (nextFire.symm.trans indexed)
      subst same
      rw [nextCronFire_gt_iff search]
      exact none jobId scheduledAt old cron nextRunAt due early held kept planned

theorem noPointMissed_of_later (keyed : manager.Keyed)
    (fires : DueJobsFire zones manager moment) (later : ∀ jobId job deadline,
        (manager.runDue zones moment now).1.jobs.get? jobId = some job →
        job.recurring = true →
        jobId ∉ (manager.runDue zones moment now).1.deleting →
        (manager.runDue zones moment now).1.nextFire.get? jobId = some deadline →
        moment < deadline) : NoPointMissed zones manager moment := by
  intro jobId scheduledAt job cron nextRunAt due early present kept planned
  have active : manager.Active jobId :=
    ⟨by rw [Dict.contains, present]; rfl, kept⟩
  have consumed :=
    ((runDue_taken keyed now fires).1 jobId scheduledAt due early).consumed active
  have moved := (view_runDue zones keyed moment now).2 jobId
  rcases runDue_move_cases moved with ⟨_, sameFire | missing⟩ |
      ⟨consumedAt, old, updated, fire, held, indexed, next, _, _, after, nextFire⟩
  · exact absurd (sameFire.trans due) consumed
  · exact absurd (missing.symm.trans present) (by simp)
  · have sameJob : old = job := Option.some.inj (held.symm.trans present)
    have sameFire : consumedAt = scheduledAt :=
      Option.some.inj (indexed.symm.trans due)
    subst sameJob sameFire
    rw [planned] at next
    rcases next with ⟨deadline, search, plan, rfl⟩
    rw [← nextCronFire_gt_iff search]
    refine later jobId updated deadline after ?_ ?_ nextFire
    · rw [CronJob.recurring, plan]
      rfl
    · rw [(runDue_context zones manager moment now).1]
      exact kept

theorem runDue_startsOnce (keyed : manager.Keyed)
    (fires : DueJobsFire zones manager moment) (jobId : String) :
    (manager.runDue zones moment now).1.startedOf jobId = manager.startedOf jobId ∨
      ∃ scheduledAt, (manager.runDue zones moment now).1.startedOf jobId =
          manager.startedOf jobId ++ [⟨jobId, scheduledAt⟩] := by
  have effect := runDue_taken keyed now fires
  by_cases due : ∃ scheduledAt, manager.nextFire.get? jobId = some scheduledAt ∧
        scheduledAt ≤ moment
  · rcases due with ⟨scheduledAt, indexed, early⟩
    have taken := effect.1 jobId scheduledAt indexed early
    by_cases active : manager.Active jobId
    · cases held : manager.tasks.contains jobId with
      | true => exact .inl (taken.held fun _ => held).2
      | false => exact .inr ⟨scheduledAt, (taken.begun active held).1⟩
    · exact .inl (taken.held fun present => absurd present active).2
  · have same := effect.2.1 jobId fun scheduledAt indexed early =>
      due ⟨scheduledAt, indexed, early⟩
    exact .inl same.started

theorem runDue_startsNothing (keyed : manager.Keyed) (now : Nat) (idle :
      ∀ jobId scheduledAt, manager.nextFire.get? jobId = some scheduledAt →
        manager.Active jobId → moment < scheduledAt) :
    (manager.runDue zones moment now).1.startedOf jobId =
      manager.startedOf jobId := by
  have fires : DueJobsFire zones manager moment := by
    rintro ⟨other, scheduledAt⟩ member early job present kept
    rw [Dict.mem_entries_iff] at member
    have active : manager.Active other :=
      ⟨by rw [Dict.contains, Option.mem_def.mp present]; rfl, kept⟩
    exact absurd early (Nat.not_le.mpr (idle other scheduledAt member active))
  have effect := runDue_taken keyed now fires
  by_cases due : ∃ scheduledAt, manager.nextFire.get? jobId = some scheduledAt ∧
        scheduledAt ≤ moment
  · rcases due with ⟨scheduledAt, indexed, early⟩
    refine ((effect.1 jobId scheduledAt indexed early).held ?_).2
    intro active
    exact absurd early (Nat.not_le.mpr (idle jobId scheduledAt indexed active))
  · exact (effect.2.1 jobId fun scheduledAt indexed early =>
      due ⟨scheduledAt, indexed, early⟩).started

/--
A pass that returns skips the missed firings exactly when no recurring job
that is due and not being deleted has a schedule point between its deadline
and the moment of the pass.
-/
theorem runDue_skipsMissedFirings_iff
    {guard : CronManager → CronEvent → Prop} {manager : CronManager}
    (reached : (cronMachine zones).Reaches guard manager)
    {moment now created : Nat}
    (returns : (manager.runDue zones moment now).2 = .ok created) :
    SkipsMissedFirings zones manager moment now ↔
      NoPointMissed zones manager moment := by
  have keyed := cronRuns_keyed reached
  have fires := (runDue_returns_iff keyed moment now).mp ⟨created, returns⟩
  constructor
  · intro skips
    exact noPointMissed_of_later keyed fires skips.later
  · intro none
    have context := runDue_context zones manager moment now
    refine ⟨?_, runDue_startsOnce keyed fires, ?_⟩
    · intro jobId job deadline present _ kept indexed
      rw [context.1] at kept
      exact runDue_later keyed fires none present kept indexed
    · intro again later early jobId _
      refine runDue_startsNothing (runDue_taken keyed now fires).2.2 later ?_
      intro other deadline indexed active
      rw [Active, context.1, Dict.contains_iff] at active
      rcases active with ⟨⟨job, present⟩, kept⟩
      exact Nat.lt_of_le_of_lt early (runDue_later keyed fires none present kept indexed)
/-- A job that fires every minute, set at the start of a day. -/
def minutely : List CronEvent :=
  [.createJob ⟨"often", true, some "* * * * *", none, none⟩ "a" (leapMoment 0)]

/-- An hour later it is due, and it is due again behind the pass. -/
theorem suspended_host_replays : ∃ manager,
      (cronMachine onlyUtc).run (.fresh "UTC") minutely = some manager ∧
        (manager.runDue onlyUtc (leapMoment 60) (leapMoment 60)).2 = .ok 1 ∧
        ¬ SkipsMissedFirings onlyUtc manager (leapMoment 60) (leapMoment 60) := by
  refine ⟨_, rfl, rfl, fun skips => ?_⟩
  have later := skips.later "a" _ (leapMoment 2) rfl rfl (by decide) rfl
  exact absurd later (by decide)

theorem noPointMissed_of_single {scheduledAt : Nat} {job : CronJob}
    {cron : CronText} {nextRunAt : Nat} (fire : Nat)
    (single : manager.nextFire.entries = [(jobId, scheduledAt)])
    (present : manager.jobs.get? jobId = some job)
    (planned : job.plan = .recurring cron nextRunAt) (next : nextCronFire cron.val scheduledAt
        (zones.localTime manager.timezone) = .ok fire) (later : moment < fire) :
    NoPointMissed zones manager moment := by
  intro other otherAt otherJob otherCron otherNext due _ held _ plan
  rw [← Dict.mem_entries_iff, single, List.mem_singleton] at due
  rw [Prod.mk.injEq] at due
  rcases due with ⟨rfl, rfl⟩
  rw [present, Option.some.injEq] at held
  subst held
  rw [planned, CronPlan.recurring.injEq] at plan
  rw [← plan.1]
  exact (nextCronFire_gt_iff next moment).mp later

/-- A minute later it is not. -/
theorem punctual_host_skips : ∃ manager,
      (cronMachine onlyUtc).run (.fresh "UTC") minutely = some manager ∧
        manager.Due (leapMoment 1) "a" (leapMoment 1) ∧
        SkipsMissedFirings onlyUtc manager (leapMoment 1) (leapMoment 1) := by
  refine ⟨_, rfl, ⟨by decide, by decide, by decide, by decide⟩, ?_⟩
  have evaluated :
      (cronMachine onlyUtc).runGuarded (fun _ _ => True) (.fresh "UTC") minutely = some _ := rfl
  have start :
      (cronMachine onlyUtc).Reaches (fun _ _ => True) (.fresh "UTC") :=
    .start ⟨"UTC", rfl, rfl⟩
  refine (runDue_skipsMissedFirings_iff (start.runGuarded evaluated) rfl).mpr ?_
  exact noPointMissed_of_single (leapMoment 2) rfl rfl rfl rfl (by decide)

end CronManager
end TurningGood.Proactive
