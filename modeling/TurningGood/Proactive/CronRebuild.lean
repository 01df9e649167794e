import TurningGood.Proactive.CronJobMoves

/-!
# What a rebuild of the index does to one job

A rebuild clears the index and visits the jobs one after another.  It enters
the deadline of a job that has one, and a persisting rebuild removes the jobs
that have none.  A rebuild that raises has visited a first part of the jobs.
-/

namespace TurningGood.Proactive

open TurningGood.Foundation

/-- What the visit of a job does to the view of its id. -/
inductive Rebuilt (timezone : Timezone) (now : Nat) (persist : Bool) :
    JobView → JobView → Prop where
  | missed {view : JobView} {job : CronJob}
      (present : view.job = some job)
      (passed : nextJobFire job now timezone = .ok none) :
      Rebuilt timezone now persist view
        { view with job := if persist then none else some job }
  | indexed {view : JobView} {job : CronJob} {deadline : Nat}
      (present : view.job = some job)
      (next : nextJobFire job now timezone = .ok (some deadline))
      (kept : (job.recurring && persist) = false) :
      Rebuilt timezone now persist view
        { view with fire := some deadline }
  | replaced {view : JobView} {job updated : CronJob} {cron : CronText}
      {nextRunAt deadline : Nat}
      (present : view.job = some job)
      (planned : job.plan = .recurring cron nextRunAt)
      (next : nextCronFire cron.val now timezone = .ok deadline)
      (sameId : updated.id = job.id)
      (plan : updated.plan = .recurring cron (wholeSeconds deadline))
      (persists : persist = true) :
      Rebuilt timezone now persist view
        { view with job := some updated, fire := some deadline }

namespace CronManager

variable {zones : ZoneDatabase}

variable {manager : CronManager} {job : CronJob} {now : Nat} {persist : Bool}

theorem Keyed.get?_of_mem_values (keyed : manager.Keyed) (member : job ∈ manager.jobs.values) :
    manager.jobs.get? job.id = some job := by
  rcases (Dict.mem_values_iff manager.jobs job).mp member with ⟨jobId, found⟩
  rw [keyed jobId job found]
  exact found

theorem Keyed.values_ids_nodup (keyed : manager.Keyed) :
    (manager.jobs.values.map CronJob.id).Nodup := by
  have keys : manager.jobs.values.map CronJob.id =
      manager.jobs.entries.map Prod.fst := by
    rw [Dict.values, List.map_map]
    apply List.map_congr_left
    intro entry member
    exact keyed entry.1 entry.2 ((Dict.mem_entries_iff _ _ _).mp member)
  rw [keys]
  exact manager.jobs.nodupKeys

theorem nextJobFire_of_recurring {after : Nat} {timezone : Timezone}
    {fire : Option Nat} (recurring : job.recurring = true)
    (found : nextJobFire job after timezone = .ok fire) :
    ∃ cron nextRunAt deadline, job.plan = .recurring cron nextRunAt ∧
        nextCronFire cron.val after timezone = .ok deadline ∧
        fire = some deadline := by
  unfold CronJob.recurring at recurring
  unfold nextJobFire at found
  cases planned : job.plan with
  | oneShot nextRunAt =>
    rw [planned] at recurring
    cases recurring
  | recurring cron nextRunAt =>
    rw [planned] at found
    rcases eq_ok_of_map found with ⟨deadline, next, rfl⟩
    exact ⟨cron, nextRunAt, deadline, rfl, next, rfl⟩

theorem view_rebuildJob {target : CronManager} {changed : Bool}
    (present : manager.jobs.get? job.id = some job) (rebuilt :
      manager.rebuildJob zones now persist job = .ok (target, changed)) :
    Rebuilt (zones.localTime manager.timezone) now persist
        (manager.view job.id) (target.view job.id) ∧
      ∀ other, other ≠ job.id →
        target.view other = manager.view other := by
  unfold rebuildJob at rebuilt
  have held : (manager.view job.id).job = some job := present
  cases search : nextJobFire job now (zones.localTime manager.timezone) with
  | error error =>
    rw [search] at rebuilt
    cases rebuilt
  | ok fire =>
    rw [search] at rebuilt
    simp only [bind, Except.bind] at rebuilt
    cases fire with
    | none =>
      dsimp only at rebuilt
      split_ifs at rebuilt with persists
      · cases rebuilt
        refine ⟨?_, fun other different => ?_⟩
        · have missed :
              Rebuilt (zones.localTime manager.timezone) now persist (manager.view job.id)
                { manager.view job.id with
                  job := if persist then none else some job } :=
            .missed held search
          rw [view_dropJob, if_pos rfl]
          rwa [if_pos persists] at missed
        · rw [view_dropJob, if_neg different]
      · cases rebuilt
        have missed :
            Rebuilt (zones.localTime manager.timezone) now persist (manager.view job.id)
              { manager.view job.id with
                job := if persist then none else some job } :=
          .missed held search
        rw [if_neg persists, ← held] at missed
        exact ⟨missed, fun _ _ => rfl⟩
    | some deadline =>
      dsimp only at rebuilt
      split_ifs at rebuilt with both
      · rw [Bool.and_eq_true] at both
        rcases nextJobFire_of_recurring both.1 search with ⟨cron, nextRunAt, _, planned, next, ⟨⟩⟩
        cases replaced : (manager.indexFire job.id deadline).replaceJob job (some deadline) now with
        | error error =>
          rw [replaced] at rebuilt
          cases rebuilt
        | ok written =>
          rw [replaced] at rebuilt
          cases rebuilt
          rcases view_replaceJob replaced with ⟨updated, plan, sameId, views⟩
          rw [planned] at plan
          refine ⟨?_, fun other different => ?_⟩
          · rw [views, if_pos rfl, view_indexFire, if_pos rfl]
            exact .replaced held planned next sameId (Except.ok.inj plan).symm both.2
          · rw [views, if_neg different, view_indexFire, if_neg different]
      · cases rebuilt
        refine ⟨?_, fun other different => ?_⟩
        · rw [view_indexFire, if_pos rfl]
          exact .indexed held search (eq_false_of_ne_true both)
        · rw [view_indexFire, if_neg different]

theorem view_rebuildLoop {jobs : List CronJob} {final : CronManager}
    {changed : Bool} {result : Except String Bool}
    (distinct : (jobs.map CronJob.id).Nodup)
    (present : ∀ job ∈ jobs, manager.jobs.get? job.id = some job) (loop :
      rebuildLoop zones now persist jobs manager changed = (final, result)) :
    (∀ jobId, final.view jobId = manager.view jobId ∨
          Rebuilt (zones.localTime manager.timezone) now persist
            (manager.view jobId) (final.view jobId)) ∧
      (∀ other, other ∉ jobs.map CronJob.id → final.view other = manager.view other) ∧
      ∀ changedAfter, result = .ok changedAfter → ∀ job ∈ jobs,
        Rebuilt (zones.localTime manager.timezone) now persist
          (manager.view job.id) (final.view job.id) := by
  induction jobs generalizing manager changed with
  | nil =>
    cases loop
    exact ⟨fun _ => .inl rfl, fun _ _ => rfl, by simp⟩
  | cons job rest induction =>
    simp only [rebuildLoop] at loop
    rw [List.map_cons, List.nodup_cons] at distinct
    cases rebuilt : manager.rebuildJob zones now persist job with
    | error error =>
      rw [rebuilt] at loop
      cases loop
      refine ⟨fun _ => .inl rfl, fun _ _ => rfl, ?_⟩
      rintro changedAfter ⟨⟩
    | ok next =>
      rcases next with ⟨next, jobChanged⟩
      rw [rebuilt] at loop
      have visited :=
        view_rebuildJob (present job List.mem_cons_self) rebuilt
      rcases (rebuildJob_effect rebuilt).1 with ⟨_, _, context⟩
      have timezone : next.timezone = manager.timezone := by
        rw [context]
      have other : ∀ item ∈ rest, item.id ≠ job.id := by
        intro item member same
        exact distinct.1 (same ▸ List.mem_map_of_mem member)
      have later := induction distinct.2
        (by
          intro item member
          have view := visited.2 item.id (other item member)
          have found := congrArg JobView.job view
          exact found.trans (present item (List.mem_cons_of_mem job member)))
        loop
      rw [timezone] at later
      refine ⟨?_, ?_, ?_⟩
      · intro jobId
        by_cases same : jobId = job.id
        · subst same
          rw [later.2.1 job.id distinct.1]
          exact .inr visited.1
        · rw [← visited.2 jobId same]
          exact later.1 jobId
      · intro item absent
        rw [List.map_cons, List.mem_cons, not_or] at absent
        rw [later.2.1 item absent.2, visited.2 item absent.1]
      · intro changedAfter finished item member
        rcases List.mem_cons.mp member with rfl | tail
        · rw [later.2.1 item.id distinct.1]
          exact visited.1
        · rw [← visited.2 item.id (other item tail)]
          exact later.2.2 changedAfter finished item tail

/-- The view without a deadline, with which the visits of a rebuild begin. -/
def cleared (manager : CronManager) (jobId : String) : JobView :=
  { manager.view jobId with fire := none }

theorem view_rebuildDeadlines {target : CronManager}
    {result : Except String Unit} (keyed : manager.Keyed) (rebuilt :
      manager.rebuildDeadlines zones now persist = (target, result)) :
    (∀ jobId, target.view jobId = manager.cleared jobId ∨
          Rebuilt (zones.localTime manager.timezone) now persist
            (manager.cleared jobId) (target.view jobId)) ∧
      (∀ jobId, manager.jobs.get? jobId = none → target.view jobId = manager.cleared jobId) ∧
      (result = .ok () → ∀ jobId job, manager.jobs.get? jobId = some job →
          Rebuilt (zones.localTime manager.timezone) now persist
            (manager.cleared jobId) (target.view jobId)) := by
  unfold rebuildDeadlines at rebuilt
  have present : ∀ job ∈ manager.jobs.values,
      ({ manager with nextFire := Dict.empty } : CronManager).jobs.get?
        job.id = some job :=
    fun _ => keyed.get?_of_mem_values
  rcases loop : rebuildLoop zones now persist manager.jobs.values
        { manager with nextFire := Dict.empty } false with
    ⟨final, outcome⟩
  have visits := view_rebuildLoop keyed.values_ids_nodup present loop
  have absent : ∀ jobId, manager.jobs.get? jobId = none →
      jobId ∉ manager.jobs.values.map CronJob.id := by
    intro jobId missing member
    rcases List.mem_map.mp member with ⟨job, held, rfl⟩
    rw [keyed.get?_of_mem_values held] at missing
    cases missing
  rw [loop] at rebuilt
  cases outcome with
  | error error =>
    cases rebuilt
    refine ⟨visits.1, fun jobId missing =>
      visits.2.1 jobId (absent jobId missing), ?_⟩
    rintro ⟨⟩
  | ok changed =>
    cases rebuilt
    have saved : ∀ jobId,
        (if (persist && changed) = true then final.saveState
          else final).view jobId = final.view jobId := by
      intro jobId
      split_ifs <;> rfl
    refine ⟨?_, ?_, ?_⟩
    · intro jobId
      rw [saved jobId]
      exact visits.1 jobId
    · intro jobId missing
      rw [saved jobId]
      exact visits.2.1 jobId (absent jobId missing)
    · intro _ jobId job found
      rw [saved jobId]
      have named := keyed jobId job found
      subst named
      exact visits.2.2 changed rfl job ((Dict.mem_values_iff _ _).mpr ⟨_, found⟩)

end CronManager
end TurningGood.Proactive
