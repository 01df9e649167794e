import TurningGood.Proactive.ProactiveService

/-!
# The pace of the scheduler loop

A check of a workspace consumes its due deadlines or gives their reviewing
services a task, and every other change of a deadline sets the wake event.
The loop then waits for an instant that is still to come.  It does not when
a pass raises, when a due reviewing service is held by a manual run or an
observation, or when a snapshot cannot be read.
-/

namespace TurningGood.Proactive

open TurningGood.Foundation

/-! ## The deadlines of a workspace -/

namespace ProactiveWorkspace

variable {workspace : ProactiveWorkspace}

/-- The workspace has this deadline, and nobody works on it. -/
def Awaits (workspace : ProactiveWorkspace) (deadline : Nat) : Prop :=
  (∃ jobId, workspace.cron.nextFire.get? jobId = some deadline ∧ jobId ∉ workspace.cron.deleting) ∨
    ∃ service, (workspace.reviewer service).taskActive = false ∧
      workspace.reviewDeadline service = .ok (some deadline)

/-- Two workspaces that differ only in what has been cached. -/
structure Same (before after : ProactiveWorkspace) : Prop where
  cron : after.cron = before.cron
  reported : ∀ service, after.reviewDeadline service = before.reviewDeadline service
  running : ∀ service, (after.reviewer service).running = (before.reviewer service).running
  taskActive : ∀ service, (after.reviewer service).taskActive = (before.reviewer service).taskActive

theorem Same.refl (workspace : ProactiveWorkspace) :
    Same workspace workspace :=
  ⟨rfl, fun _ => rfl, fun _ => rfl, fun _ => rfl⟩

theorem Same.trans
    {first second third : ProactiveWorkspace}
    (earlier : Same first second) (later : Same second third) :
    Same first third where
  cron := later.cron.trans earlier.cron
  reported service := (later.reported service).trans (earlier.reported service)
  running service := (later.running service).trans (earlier.running service)
  taskActive service := (later.taskActive service).trans (earlier.taskActive service)

theorem Same.awaits_iff
    {before after : ProactiveWorkspace} (same : Same before after)
    (deadline : Nat) : after.Awaits deadline ↔ before.Awaits deadline := by
  unfold Awaits
  rw [same.cron]
  simp only [same.reported, same.taskActive]

theorem reviewer_setReviewer (workspace : ProactiveWorkspace) (service other : ReviewService)
    (state : ReviewerState) :
    (workspace.setReviewer service state).reviewer other =
      if other = service then state else workspace.reviewer other :=
  rfl

theorem readDeadline_fst (workspace : ProactiveWorkspace) (service : ReviewService) :
    (workspace.readDeadline service).1 = workspace.reviewDeadline service :=
  rfl

theorem same_readDeadline (workspace : ProactiveWorkspace) (service : ReviewService) :
    Same workspace (workspace.readDeadline service).2 := by
  have state : ∀ other,
      ((workspace.readDeadline service).2.reviewer other) =
        if other = service then
          { workspace.reviewer service with
            schedule := (ReviewSchedule.nextRunAt service (workspace.reviewer service).schedule).2 }
        else
          workspace.reviewer other :=
    fun _ => rfl
  constructor
  · rfl
  · intro other
    unfold reviewDeadline
    rw [state]
    split_ifs with self
    · rw [self]
      exact ReviewSchedule.reported_nextRunAt service _
    · rfl
  · intro other
    rw [state]
    split_ifs with self
    · rw [self]
    · rfl
  · intro other
    rw [state]
    split_ifs with self
    · rw [self]
    · rfl

/-- The reviewing service can be read, and nobody else holds it when due. -/
def Checkable (workspace : ProactiveWorkspace) (now : Nat) (service : ReviewService) :
    Prop :=
  ∃ deadline, workspace.reviewDeadline service = .ok deadline ∧
    (ReviewSchedule.due deadline now = true → (workspace.reviewer service).running = false ∨
        (workspace.reviewer service).taskActive = true)

/-- Nothing of the reviewing service is due without a task. -/
def ReviewLater (workspace : ProactiveWorkspace) (now : Nat) (service : ReviewService) :
    Prop :=
  (workspace.reviewer service).taskActive = false →
    ∀ deadline, workspace.reviewDeadline service = .ok (some deadline) → now < deadline

theorem checkReviewer_later {now : Nat} {service : ReviewService}
    (checkable : workspace.Checkable now service) :
    ∃ checked, workspace.checkReviewer now service = (checked, .ok ()) ∧
      checked.cron = workspace.cron ∧ checked.ReviewLater now service ∧
      ∀ other, other ≠ service → (checked.reviewer other) = workspace.reviewer other := by
  rcases checkable with ⟨deadline, found, free⟩
  have same := same_readDeadline workspace service
  have first := readDeadline_fst workspace service
  rw [found] at first
  have others : ∀ other, other ≠ service →
      (workspace.readDeadline service).2.reviewer other =
        workspace.reviewer other :=
    fun other different => if_neg different
  rcases read : workspace.readDeadline service with ⟨result, next⟩
  rw [read] at first same others
  dsimp only at first same others
  subst first
  unfold checkReviewer
  rw [read]
  dsimp only
  split_ifs with starts
  · refine ⟨_, rfl, same.cron, ?_, fun other different => ?_⟩
    · intro inactive
      rw [reviewer_setReviewer, if_pos rfl] at inactive
      cases inactive
    · rw [reviewer_setReviewer, if_neg different]
      exact others other different
  · refine ⟨_, rfl, same.cron, ?_, others⟩
    intro inactive moment pending
    rw [same.reported, found, Except.ok.injEq] at pending
    subst pending
    by_contra early
    have isDue : ReviewSchedule.due (some moment) now = true := by
      simpa [ReviewSchedule.due] using early
    rw [same.running, same.taskActive] at starts
    rw [same.taskActive] at inactive
    rcases free isDue with idle | active
    · exact starts ⟨isDue, idle, inactive⟩
    · rw [active] at inactive
      cases inactive

theorem checkReviewers_later {now : Nat} {services : List ReviewService} (distinct : services.Nodup)
    (checkable : ∀ service ∈ services, workspace.Checkable now service) :
    ∃ checked, checkReviewers now services workspace = (checked, .ok ()) ∧
      checked.cron = workspace.cron ∧
      (∀ service ∈ services, checked.ReviewLater now service) ∧
      ∀ other, other ∉ services →
        checked.reviewer other = workspace.reviewer other := by
  induction services generalizing workspace with
  | nil => exact ⟨workspace, rfl, rfl, nofun, fun _ _ => rfl⟩
  | cons service rest induction =>
    rw [List.nodup_cons] at distinct
    rcases checkReviewer_later (checkable service List.mem_cons_self) with
      ⟨next, check, cron, later, others⟩
    have apart : ∀ other ∈ rest, other ≠ service := by
      rintro other member rfl
      exact distinct.1 member
    have remain : ∀ other ∈ rest, next.Checkable now other := by
      intro other member
      have before := checkable other (List.mem_cons_of_mem service member)
      unfold Checkable reviewDeadline at before ⊢
      rw [others other (apart other member)]
      exact before
    rcases induction distinct.2 remain with ⟨final, rests, cronRest, laterRest, othersRest⟩
    refine ⟨final, ?_, cronRest.trans cron, ?_, ?_⟩
    · simp only [checkReviewers, check]
      exact rests
    · intro other member
      rcases List.mem_cons.mp member with rfl | tail
      · unfold ReviewLater reviewDeadline at later ⊢
        rw [othersRest other distinct.1]
        exact later
      · exact laterRest other tail
    · intro other absent
      rw [List.mem_cons, not_or] at absent
      rw [othersRest other absent.2]
      exact others other absent.1

theorem checkReviewers_cron (now : Nat) (services : List ReviewService)
    (workspace : ProactiveWorkspace) :
    (checkReviewers now services workspace).1.cron = workspace.cron := by
  induction services generalizing workspace with
  | nil => rfl
  | cons service rest induction =>
    have first : (workspace.checkReviewer now service).1.cron =
        workspace.cron := by
      unfold checkReviewer
      rcases read : workspace.readDeadline service with ⟨result, next⟩
      have same := same_readDeadline workspace service
      rw [read] at same
      cases result with
      | error error => exact same.cron
      | ok deadline =>
        dsimp only
        split_ifs
        · exact same.cron
        · exact same.cron
    simp only [checkReviewers]
    rcases check : workspace.checkReviewer now service with ⟨next, error | ⟨⟩⟩
    · rw [check] at first
      exact first
    · rw [check] at first
      exact (induction next).trans first

/-! ## The deadline of a workspace -/

/-- The deadline can be read, or need not be. -/
def Readable (workspace : ProactiveWorkspace) : Prop :=
  ∀ service, (workspace.reviewer service).taskActive = false →
    ∃ deadline, workspace.reviewDeadline service = .ok deadline

theorem Same.readable
    {before after : ProactiveWorkspace} (same : Same before after)
    (readable : before.Readable) : after.Readable := by
  intro service inactive
  rw [same.taskActive] at inactive
  rw [same.reported]
  exact readable service inactive

theorem pendingDeadline_spec (readable : workspace.Readable) (service : ReviewService) :
    ∃ deadline read, workspace.pendingDeadline service = (.ok deadline, read) ∧
        Same workspace read ∧
        ∀ moment, deadline = some moment ↔ (workspace.reviewer service).taskActive = false ∧
            workspace.reviewDeadline service = .ok (some moment) := by
  unfold pendingDeadline
  split_ifs with active
  · refine ⟨none, workspace, rfl, .refl workspace, fun moment => ?_⟩
    simp [active]
  · rw [Bool.not_eq_true] at active
    rcases readable service active with ⟨deadline, found⟩
    have first := readDeadline_fst workspace service
    have same := same_readDeadline workspace service
    rcases read : workspace.readDeadline service with ⟨result, next⟩
    rw [read] at first same
    dsimp only at first same
    rw [found] at first
    subst first
    refine ⟨deadline, next, rfl, same, fun moment => ?_⟩
    simp [active, found]

theorem pendingDeadlines_spec (services : List ReviewService) (readable : workspace.Readable) :
    ∃ deadlines read, pendingDeadlines services workspace = (.ok deadlines, read) ∧
        Same workspace read ∧
        ∀ moment, some moment ∈ deadlines ↔ ∃ service ∈ services,
            (workspace.reviewer service).taskActive = false ∧
              workspace.reviewDeadline service = .ok (some moment) := by
  induction services generalizing workspace with
  | nil => exact ⟨[], workspace, rfl, .refl workspace, fun _ => by simp⟩
  | cons service rest induction =>
    rcases pendingDeadline_spec readable service with
      ⟨deadline, next, first, same, holds⟩
    rcases induction (same.readable readable) with ⟨deadlines, read, others, sameRest, holdsRest⟩
    refine ⟨deadline :: deadlines, read, ?_, same.trans sameRest, ?_⟩
    · simp only [pendingDeadlines, first, others]
    · intro moment
      simp only [List.mem_cons, exists_eq_or_imp, holdsRest, same.taskActive, same.reported]
      rw [eq_comm, holds]

theorem earliestDeadline_spec (deadlines : List (Option Nat)) :
    (∀ moment, earliestDeadline deadlines = some moment → some moment ∈ deadlines) ∧
      ∀ moment, some moment ∈ deadlines → ∃ earliest, earliestDeadline deadlines = some earliest ∧
          earliest ≤ moment := by
  have member : ∀ moment,
      moment ∈ deadlines.filterMap id ↔ some moment ∈ deadlines := by
    intro moment
    simp
  constructor
  · intro moment found
    rw [← member]
    exact (List.min?_eq_some_iff.mp found).1
  · intro moment listed
    rw [← member] at listed
    cases found : earliestDeadline deadlines with
    | none =>
      rw [earliestDeadline, List.min?_eq_none_iff] at found
      rw [found] at listed
      cases listed
    | some earliest =>
      exact ⟨earliest, rfl, (List.min?_eq_some_iff.mp found).2 moment listed⟩

theorem nextDeadline_spec (manager : CronManager) : (∀ moment, manager.nextDeadline = some moment →
        ∃ jobId, manager.nextFire.get? jobId = some moment ∧ jobId ∉ manager.deleting) ∧
      ∀ jobId moment, manager.nextFire.get? jobId = some moment →
        jobId ∉ manager.deleting → ∃ earliest, manager.nextDeadline = some earliest ∧
            earliest ≤ moment := by
  have member : ∀ moment,
      moment ∈ (manager.nextFire.entries.filter fun entry =>
        entry.1 ∉ manager.deleting).map Prod.snd ↔
      ∃ jobId, manager.nextFire.get? jobId = some moment ∧
        jobId ∉ manager.deleting := by
    intro moment
    simp only [List.mem_map, List.mem_filter, decide_eq_true_eq,
      Prod.exists, exists_eq_right, Dict.mem_entries_iff]
  constructor
  · intro moment found
    rw [← member]
    exact (List.min?_eq_some_iff.mp found).1
  · intro jobId moment due kept
    have listed := (member moment).mpr ⟨jobId, due, kept⟩
    cases found : manager.nextDeadline with
    | none =>
      rw [CronManager.nextDeadline, List.min?_eq_none_iff] at found
      rw [found] at listed
      cases listed
    | some earliest =>
      exact ⟨earliest, rfl, (List.min?_eq_some_iff.mp found).2 moment listed⟩

theorem deadlines_spec (readable : workspace.Readable) :
    ∃ deadline read, workspace.deadlines = (.ok deadline, read) ∧ Same workspace read ∧
      (∀ moment, deadline = some moment → workspace.Awaits moment) ∧
      ∀ moment, workspace.Awaits moment →
        ∃ earliest, deadline = some earliest ∧ earliest ≤ moment := by
  rcases pendingDeadlines_spec ReviewService.all readable with ⟨reviews, read, pending, same, holds⟩
  have earliest :=
    earliestDeadline_spec (workspace.cron.nextDeadline :: reviews)
  have cron := nextDeadline_spec workspace.cron
  have all : ∀ service, service ∈ ReviewService.all := by
    rintro (_ | _ | _) <;> decide
  refine ⟨earliestDeadline (workspace.cron.nextDeadline :: reviews), read,
    by simp only [deadlines, pending], same, ?_, ?_⟩
  · intro moment found
    rcases List.mem_cons.mp (earliest.1 moment found) with next | listed
    · exact .inl (cron.1 moment next.symm)
    · rcases (holds moment).mp listed with ⟨service, _, waits⟩
      exact .inr ⟨service, waits⟩
  · rintro moment (⟨jobId, due, kept⟩ | ⟨service, waits⟩)
    · rcases cron.2 jobId moment due kept with ⟨next, found, least⟩
      rcases earliest.2 next (List.mem_cons.mpr (.inl found.symm)) with
        ⟨first, shown, early⟩
      exact ⟨first, shown, early.trans least⟩
    · exact earliest.2 moment (List.mem_cons.mpr
        (.inr ((holds moment).mpr ⟨service, all service, waits⟩)))

end ProactiveWorkspace

namespace CronManager

variable {zones : ZoneDatabase}

variable {now : Nat}

theorem runDueEntry_skips {entry : Nat × String} {run next : DueRun}
    (taken : runDueEntry zones now run entry = .ok next)
    (unchanged : next.changed = false) : entry.2 ∈ run.manager.deleting := by
  by_contra kept
  unfold runDueEntry at taken
  split at taken
  · cases taken
    cases unchanged
  · rename_i job _
    rw [if_neg kept] at taken
    cases advanced : run.manager.advanceDeadline zones job entry.1 now with
    | error error =>
      rw [advanced] at taken
      cases taken
    | ok manager =>
      rw [advanced] at taken
      simp only [bind, Except.bind] at taken
      split_ifs at taken
      · cases taken
        cases unchanged
      · cases taken
        cases unchanged

theorem runDueLoop_skips {entries : List (Nat × String)} {run final : DueRun}
    (loop : runDueLoop zones now entries run = (final, .ok ()))
    (unchanged : final.changed = false) :
    ∀ entry ∈ entries, entry.2 ∈ run.manager.deleting := by
  induction entries generalizing run with
  | nil => exact nofun
  | cons entry rest induction =>
    simp only [runDueLoop] at loop
    cases taken : runDueEntry zones now run entry with
    | error error =>
      rw [taken] at loop
      cases loop
    | ok next =>
      rw [taken] at loop
      have quiet : next.changed = false := by
        rw [← runDueLoop_unchanged loop unchanged]
        exact unchanged
      have same := runDueEntry_unchanged taken quiet
      rw [List.forall_mem_cons]
      refine ⟨runDueEntry_skips taken quiet, ?_⟩
      rw [← same]
      exact induction loop

theorem runDue_quiet {manager : CronManager} {moment created : Nat}
    (returns : (manager.runDue zones moment now).2 = .ok created)
    (quiet : manager.runDueNotifies zones moment now = false) :
    created = 0 ∧ (manager.runDue zones moment now).1 = manager ∧
      ∀ jobId deadline, manager.nextFire.get? jobId = some deadline →
        jobId ∉ manager.deleting → moment < deadline := by
  unfold runDue at returns ⊢
  unfold runDueNotifies at quiet
  rcases loop : runDueLoop zones now (manager.dueEntries moment)
        ⟨manager, 0, false⟩ with ⟨final, error | ⟨⟩⟩
  · rw [loop] at returns
    cases returns
  · rw [loop] at returns quiet
    dsimp only at returns quiet ⊢
    have same := runDueLoop_unchanged loop quiet
    rw [same] at returns ⊢
    cases returns
    refine ⟨rfl, rfl, fun jobId deadline due kept => ?_⟩
    by_contra early
    exact kept (runDueLoop_skips loop quiet (deadline, jobId)
      (mem_dueEntries_iff.mpr ⟨due, Nat.le_of_not_lt early⟩))

theorem fire_of_quiet_step
    {manager target : CronManager} {event : CronEvent}
    (keyed : manager.Keyed) (ordinary : ¬ Rebuilds event)
    (noPass : ∀ moment now, event ≠ .runDue moment now)
    (stepped : manager.step zones event = some target)
    (quiet : manager.notifies zones event = false)
    {jobId : String} {deadline : Nat}
    (due : target.nextFire.get? jobId = some deadline)
    (kept : jobId ∉ target.deleting) :
    manager.nextFire.get? jobId = some deadline ∧
      jobId ∉ manager.deleting := by
  by_cases creates : ∃ request newId now, event = .createJob request newId now
  · rcases creates with ⟨request, newId, now, rfl⟩
    simp only [step] at stepped
    split_ifs at stepped
    cases created : manager.createJob zones request newId now with
    | error error =>
      rw [created] at stepped
      cases stepped
      exact ⟨due, kept⟩
    | ok after =>
      rw [notifies, created] at quiet
      cases quiet
  have moved := step_move keyed ordinary stepped jobId
  have fire : (target.view jobId).fire = some deadline := due
  have free : (target.view jobId).deleting = false := by
    simpa [view] using kept
  suffices held : (manager.view jobId).fire = some deadline ∧
      (manager.view jobId).deleting = false by
    exact ⟨held.1, by simpa [view] using held.2⟩
  generalize target.view jobId = after at moved fire free
  cases moved with
  | create => exact absurd ⟨_, _, _, rfl⟩ creates
  | advance => exact absurd rfl (noPass _ _)
  | forget => exact absurd rfl (noPass _ _)
  | abortDelete => cases quiet
  | finishDelete => cases quiet
  | beginDelete => cases free
  | cancelOneShot => cases fire
  | settleOneShot => cases fire
  | stay | callExecutor | run | endUnstarted | requestCancel | clear
  | settleRecurring => exact ⟨fire, free⟩

end CronManager

namespace ProactiveService

variable {zones : ZoneDatabase} {settings : RefreshSettings}

variable {principalId : String} {service target : ProactiveService}
  {before : ProactiveWorkspace} {now : Nat}

/-- The workspaces have been read, and nothing else. -/
def SameWorkspaces (before after : Dict String ProactiveWorkspace) : Prop :=
  (∀ principalId read, after.get? principalId = some read →
      ∃ workspace, before.get? principalId = some workspace ∧ workspace.Same read) ∧
    ∀ principalId workspace, before.get? principalId = some workspace →
      ∃ read, after.get? principalId = some read ∧ workspace.Same read

theorem sameWorkspaces_insert {workspaces : Dict String ProactiveWorkspace}
    {workspace read : ProactiveWorkspace}
    (found : workspaces.get? principalId = some workspace)
    (same : workspace.Same read) :
    SameWorkspaces workspaces (workspaces.insert principalId read) := by
  constructor
  · intro other final held
    rw [Dict.get?_insert] at held
    split_ifs at held with self
    · cases held
      exact ⟨workspace, self ▸ found, same⟩
    · exact ⟨final, held, .refl final⟩
  · intro other initial held
    rw [Dict.get?_insert]
    split_ifs with self
    · subst self
      cases found.symm.trans held
      exact ⟨read, rfl, same⟩
    · exact ⟨initial, held, .refl initial⟩

theorem SameWorkspaces.trans
    {first second third : Dict String ProactiveWorkspace}
    (earlier : SameWorkspaces first second)
    (later : SameWorkspaces second third) : SameWorkspaces first third := by
  constructor
  · intro principalId final held
    rcases later.1 principalId final held with ⟨middle, found, read⟩
    rcases earlier.1 principalId middle found with ⟨initial, origin, same⟩
    exact ⟨initial, origin, same.trans read⟩
  · intro principalId initial held
    rcases earlier.2 principalId initial held with ⟨middle, found, same⟩
    rcases later.2 principalId middle found with ⟨final, reached, read⟩
    exact ⟨final, reached, same.trans read⟩

theorem readWorkspaces_spec (principalIds : List String)
    {workspaces : Dict String ProactiveWorkspace}
    (readable : ∀ principalId workspace,
        workspaces.get? principalId = some workspace → workspace.Readable) :
    ∃ deadlines final, readWorkspaces principalIds workspaces = (.ok deadlines, final) ∧
        SameWorkspaces workspaces final ∧
        (∀ moment, some moment ∈ deadlines → ∃ principalId workspace,
            workspaces.get? principalId = some workspace ∧ workspace.Awaits moment) ∧
        ∀ principalId ∈ principalIds, ∀ workspace, workspaces.get? principalId = some workspace →
            ∀ moment, workspace.Awaits moment → ∃ earliest, some earliest ∈ deadlines ∧
                earliest ≤ moment := by
  induction principalIds generalizing workspaces with
  | nil =>
    exact ⟨[], workspaces, rfl, ⟨fun _ read held => ⟨read, held, .refl read⟩,
        fun _ read held => ⟨read, held, .refl read⟩⟩,
      nofun, nofun⟩
  | cons principalId rest induction =>
    simp only [readWorkspaces]
    cases found : workspaces.get? principalId with
    | none =>
      rcases induction readable with ⟨deadlines, final, read, same, sound, complete⟩
      refine ⟨deadlines, final, read, same, sound, ?_⟩
      intro other member workspace held
      rcases List.mem_cons.mp member with rfl | tail
      · exact absurd (found.symm.trans held) (by simp)
      · exact complete other tail workspace held
    | some workspace =>
      rcases ProactiveWorkspace.deadlines_spec (readable principalId workspace found) with
        ⟨deadline, read, first, same, awaited, least⟩
      have inserted := sameWorkspaces_insert found same
      have remain : ∀ other held,
          (workspaces.insert principalId read).get? other = some held →
            held.Readable := by
        intro other held present
        rcases inserted.1 other held present with ⟨before, origin, kept⟩
        exact kept.readable (readable other before origin)
      rcases induction remain with ⟨deadlines, final, others, sameRest, sound, complete⟩
      dsimp only
      rw [first]
      dsimp only
      rw [others]
      refine ⟨deadline :: deadlines, final, rfl, inserted.trans sameRest, ?_, ?_⟩
      · intro moment member
        rcases List.mem_cons.mp member with head | tail
        · exact ⟨principalId, workspace, found, awaited moment head.symm⟩
        · rcases sound moment tail with ⟨other, held, present, waits⟩
          rcases inserted.1 other held present with ⟨before, origin, kept⟩
          exact ⟨other, before, origin, (kept.awaits_iff moment).mp waits⟩
      · intro other member before held moment waits
        by_cases self : other = principalId
        · subst self
          cases found.symm.trans held
          rcases least moment waits with ⟨earliest, rfl, early⟩
          exact ⟨earliest, List.mem_cons_self, early⟩
        · have tail := (List.mem_cons.mp member).resolve_left self
          rcases inserted.2 other before held with ⟨after, present, kept⟩
          rcases complete other tail after present moment ((kept.awaits_iff moment).mpr waits) with
            ⟨earliest, listed, early⟩
          exact ⟨earliest, List.mem_cons_of_mem deadline listed, early⟩

/-! ## The invariant of the loop -/

/-- Every deadline that the workspace awaits is still to come. -/
def Later (workspace : ProactiveWorkspace) (now : Nat) : Prop :=
  ∀ deadline, workspace.Awaits deadline → now < deadline

/-- The deadline of the wait is to come, and none is earlier. -/
structure WaitSound
    (service : ProactiveService) (now : Nat) (deadline : Option Nat) :
    Prop where
  ahead : ∀ moment, deadline = some moment → now < moment
  earliest : ∀ principalId workspace, service.workspaces.get? principalId = some workspace →
        ∀ moment, workspace.Awaits moment →
          ∃ first, deadline = some first ∧ first ≤ moment

/-- What has been achieved at a stage without a wake. -/
def StageSound (service : ProactiveService) : LoopStage → Prop
  | .checking now remaining =>
    ∀ principalId workspace, principalId ∉ remaining →
      service.workspaces.get? principalId = some workspace → Later workspace now
  | .waiting now deadline => service.WaitSound now deadline
  | .announcing _ _ _ | .reporting _ _ | .stopped => False
  | .top | .refreshing _ | .paused => True

/-- The loop is alive and keeps its pace. -/
structure Paced (service : ProactiveService) : Prop where
  wellFormed : service.WellFormed
  alive : service.loop ≠ .stopped
  stage : service.scheduleEvent = false → service.StageSound service.loop

theorem Paced.beside (paced : service.Paced)
    (loop : target.loop = service.loop) (wellFormed : target.WellFormed)
    (fewer : target.scheduleEvent = false → service.scheduleEvent = false ∧ ∀ principalId workspace,
            target.workspaces.get? principalId = some workspace → ∃ earlier,
                service.workspaces.get? principalId = some earlier ∧
                  ∀ moment, workspace.Awaits moment →
                    earlier.Awaits moment) : target.Paced := by
  refine ⟨wellFormed, fun stopped => paced.alive (loop.symm.trans stopped), fun asleep => ?_⟩
  rcases fewer asleep with ⟨before, waits⟩
  have sound := paced.stage before
  rw [loop]
  cases stage : service.loop with
  | checking now remaining =>
    rw [stage] at sound
    intro principalId workspace passed held moment awaited
    rcases waits principalId workspace held with ⟨earlier, found, kept⟩
    exact sound principalId earlier passed found moment (kept moment awaited)
  | waiting now deadline =>
    rw [stage] at sound
    refine ⟨sound.ahead, fun principalId workspace held moment awaited => ?_⟩
    rcases waits principalId workspace held with ⟨earlier, found, kept⟩
    exact sound.earliest principalId earlier found moment (kept moment awaited)
  | announcing now principalId remaining =>
    rw [stage] at sound
    exact sound.elim
  | reporting now remaining =>
    rw [stage] at sound
    exact sound.elim
  | stopped => exact absurd stage paced.alive
  | top => trivial
  | refreshing now => trivial
  | paused => trivial

theorem WellFormed.setWorkspace (wellFormed : service.WellFormed)
    {after : ProactiveWorkspace}
    (found : service.workspaces.get? principalId = some before)
    (keyed : after.cron.Keyed) :
    (service.setWorkspace principalId after).WellFormed := by
  constructor
  · intro other workspace held
    rw [ProactiveService.setWorkspace, Dict.get?_insert] at held
    split_ifs at held with self
    · cases held
      exact keyed
    · exact wellFormed.keyed other workspace held
  · intro other retired
    have missing := wellFormed.gone other retired
    rw [ProactiveService.setWorkspace, Dict.get?_insert]
    split_ifs with self
    · rw [self, found] at missing
      cases missing
    · exact missing

theorem WellFormed.congr (wellFormed : service.WellFormed)
    (workspaces : target.workspaces = service.workspaces)
    (retired : target.retired = service.retired) : target.WellFormed := by
  constructor
  · rw [workspaces]
    exact wellFormed.keyed
  · rw [workspaces, retired]
    exact wellFormed.gone

theorem Paced.setWorkspace (paced : service.Paced)
    {after : ProactiveWorkspace} {wakes : Bool}
    (found : service.workspaces.get? principalId = some before)
    (keyed : after.cron.Keyed) (fewer :
      wakes = false → ∀ moment, after.Awaits moment → before.Awaits moment) :
    ((service.setWorkspace principalId after).wakeIf wakes).Paced := by
  refine paced.beside rfl ((paced.wellFormed.setWorkspace found keyed).congr rfl rfl) ?_
  intro asleep
  rw [wakeIf, Bool.or_eq_false_iff] at asleep
  refine ⟨asleep.1, fun other workspace held => ?_⟩
  rw [wakeIf, ProactiveService.setWorkspace, Dict.get?_insert] at held
  split_ifs at held with self
  · cases held
    exact ⟨before, self ▸ found, fewer asleep.2⟩
  · exact ⟨workspace, held, fun _ => id⟩

theorem paced_of_woken (wellFormed : service.WellFormed)
    (woken : service.scheduleEvent = true) (alive : service.loop ≠ .stopped) :
    service.Paced :=
  ⟨wellFormed, alive, fun asleep => by rw [woken] at asleep; cases asleep⟩

theorem Paced.onReviewer (paced : service.Paced) {kind : ReviewService}
    {change : ReviewerState → Option (ReviewerState × Bool)}
    (stepped : service.onReviewer principalId kind change = some target)
    (quiet : ∀ before after, change before = some (after, false) →
        after.taskActive = before.taskActive ∧
          after.schedule = before.schedule) : target.Paced := by
  unfold ProactiveService.onReviewer at stepped
  rcases Option.bind_eq_some_iff.mp stepped with ⟨workspace, found, rest⟩
  rcases Option.bind_eq_some_iff.mp rest with ⟨⟨state, wakes⟩, changed, finished⟩
  cases finished
  refine paced.setWorkspace found (paced.wellFormed.keyed principalId workspace found) ?_
  rintro rfl moment awaited
  have same := quiet _ _ changed
  rcases awaited with cron | ⟨other, inactive, shown⟩
  · exact .inl cron
  · refine .inr ⟨other, ?_⟩
    unfold ProactiveWorkspace.reviewDeadline at shown ⊢
    rw [ProactiveWorkspace.reviewer_setReviewer] at inactive shown
    split_ifs at inactive shown with self
    · subst self
      rw [same.1] at inactive
      rw [same.2] at shown
      exact ⟨inactive, shown⟩
    · exact ⟨inactive, shown⟩

theorem Paced.cronStep (paced : service.Paced) {event : CronEvent} (rebuilds :
      CronManager.Rebuilds event → ∀ workspace ∈ service.workspaces.get? principalId,
          workspace.cron.notifies zones event = true)
    (stepped : service.cronStep zones principalId event = some target) :
    target.Paced := by
  unfold ProactiveService.cronStep at stepped
  rcases Option.bind_eq_some_iff.mp stepped with ⟨workspace, found, rest⟩
  have keyed := paced.wellFormed.keyed principalId workspace found
  have noPass : ∀ moment now, event ≠ .runDue moment now := by
    rintro moment now rfl
    cases rest
  obtain ⟨cron, moved, rfl⟩ : ∃ cron, workspace.cron.step zones event = some cron ∧
        (service.setWorkspace principalId
          { workspace with cron := cron }).wakeIf
            (workspace.cron.notifies zones event) = target := by
    cases event with
    | runDue moment now => cases rest
    | reload now => cases rest
    | _ =>
      rcases Option.bind_eq_some_iff.mp rest with ⟨cron, moved, finished⟩
      exact ⟨cron, moved, Option.some.inj finished⟩
  refine paced.setWorkspace found (CronManager.step_keyed keyed moved) ?_
  intro quiet moment awaited
  have ordinary : ¬ CronManager.Rebuilds event := by
    intro rebuild
    rw [rebuilds rebuild workspace found] at quiet
    cases quiet
  rcases awaited with ⟨jobId, due, kept⟩ | reviews
  · exact .inl ⟨jobId, CronManager.fire_of_quiet_step keyed ordinary noPass moved quiet due kept⟩
  · exact .inr reviews

/-! ## The loop -/

/--
The pass of the workspace returns, and no reviewing service that is due is
held by a run or an observation without a task of its own.
-/
def PassesCheck (zones : ZoneDatabase) (workspace : ProactiveWorkspace) (now : Nat) :
    Prop :=
  CronManager.DueJobsFire zones workspace.cron now ∧ ∀ kind, workspace.Checkable now kind

theorem checkReviews_spec (service : ProactiveService) (principalId : String)
    {workspace : ProactiveWorkspace} (remaining : List String)
    (checkable : ∀ kind, workspace.Checkable now kind) :
    ∃ checked, service.checkReviews now principalId workspace remaining =
          (service.setWorkspace principalId checked).atStage (.checking now remaining) ∧
        checked.cron = workspace.cron ∧
        ∀ kind, checked.ReviewLater now kind := by
  have distinct : ReviewService.all.Nodup := by decide
  have all : ∀ kind, kind ∈ ReviewService.all := by
    rintro (_ | _ | _) <;> decide
  rcases ProactiveWorkspace.checkReviewers_later distinct
      (fun kind _ => checkable kind) with ⟨checked, check, cron, later, _⟩
  refine ⟨checked, ?_, cron, fun kind => later kind (all kind)⟩
  unfold checkReviews
  rw [check]

theorem checkReviews_frame (wellFormed : service.WellFormed) (now : Nat)
    (workspace : ProactiveWorkspace) (remaining : List String)
    (found : service.workspaces.get? principalId = some before)
    (keyed : workspace.cron.Keyed) :
    (service.checkReviews now principalId workspace remaining).WellFormed ∧
      (service.checkReviews now principalId workspace
          remaining).scheduleEvent = service.scheduleEvent ∧
      (service.checkReviews now principalId workspace remaining).loop ≠
        .stopped := by
  have cron := ProactiveWorkspace.checkReviewers_cron now ReviewService.all
    workspace
  unfold checkReviews
  rcases check : ProactiveWorkspace.checkReviewers now ReviewService.all workspace with
    ⟨checked, error | ⟨⟩⟩ <;>
  · rw [check] at cron
    have kept : checked.cron.Keyed := by
      rw [show checked.cron = workspace.cron from cron]
      exact keyed
    refine ⟨(wellFormed.setWorkspace found kept).congr rfl rfl, rfl, ?_⟩
    intro stopped
    cases stopped

variable (zones) in
theorem runWorkspaceDue_frame
    {service : ProactiveService} (wellFormed : service.WellFormed)
    (now clock : Nat) (principalId : String) (remaining : List String) :
    (service.runWorkspaceDue zones now clock principalId remaining).WellFormed ∧
      (service.scheduleEvent = true → (service.runWorkspaceDue zones now clock principalId
          remaining).scheduleEvent = true) ∧
      (service.runWorkspaceDue zones now clock principalId remaining).loop ≠
        .stopped := by
  unfold runWorkspaceDue
  split_ifs with retired
  · exact ⟨wellFormed.congr rfl rfl, id, (by rintro ⟨⟩)⟩
  · cases found : service.workspaces.get? principalId with
    | none => exact ⟨wellFormed.congr rfl rfl, id, (by rintro ⟨⟩)⟩
    | some workspace =>
      have keyed := wellFormed.keyed principalId workspace found
      have pass := (CronManager.view_runDue zones keyed now clock).1
      rcases run : workspace.cron.runDue zones now clock with ⟨cron, result⟩
      rw [run] at pass
      have woken :
          (service.wakeIf (workspace.cron.runDueNotifies zones now clock)).WellFormed :=
        wellFormed.congr rfl rfl
      have kept : service.scheduleEvent = true →
          (service.wakeIf (workspace.cron.runDueNotifies zones now
            clock)).scheduleEvent = true := by
        intro event
        rw [wakeIf, event, Bool.true_or]
      dsimp only
      rw [run]
      dsimp only
      cases result with
      | error error =>
        exact ⟨(woken.setWorkspace found pass).congr rfl rfl, kept, (by rintro ⟨⟩)⟩
      | ok created =>
        cases created with
        | zero =>
          have frame := checkReviews_frame woken now
            { workspace with cron := cron } remaining found pass
          refine ⟨frame.1, fun event => ?_, frame.2.2⟩
          rw [frame.2.1]
          exact kept event
        | succ more =>
          exact ⟨(woken.setWorkspace found pass).congr rfl rfl, kept, (by rintro ⟨⟩)⟩

theorem Paced.check (paced : service.Paced) (clock : Nat)
    {remaining : List String}
    (stage : service.loop = .checking now (principalId :: remaining)) (passes :
      service.scheduleEvent = true ∨ principalId ∈ service.retired ∨
        ∀ workspace ∈ service.workspaces.get? principalId, PassesCheck zones workspace now) :
    (service.runWorkspaceDue zones now clock principalId remaining).Paced := by
  have frame := runWorkspaceDue_frame zones paced.wellFormed now clock
    principalId remaining
  by_cases woken : service.scheduleEvent = true
  · exact paced_of_woken frame.1 (frame.2.1 woken) frame.2.2
  have sound := paced.stage (eq_false_of_ne_true woken)
  rw [stage] at sound
  -- the workspaces that were checked before stay as they are
  have others : ∀ other workspace, other ∉ remaining →
      other ≠ principalId →
      service.workspaces.get? other = some workspace → Later workspace now := by
    intro other workspace absent different found
    exact sound other workspace (by simp [absent, different]) found
  refine ⟨frame.1, frame.2.2, fun asleep => ?_⟩
  revert asleep
  unfold runWorkspaceDue
  split_ifs with retired
  · intro _ other workspace absent found
    refine others other workspace absent ?_ found
    rintro rfl
    exact absurd (found.symm.trans (paced.wellFormed.gone other retired))
      (by simp)
  · cases found : service.workspaces.get? principalId with
    | none =>
      intro _ other workspace absent held
      refine others other workspace absent ?_ held
      rintro rfl
      exact absurd (held.symm.trans found) (by simp)
    | some workspace =>
      have keyed := paced.wellFormed.keyed principalId workspace found
      rcases (passes.resolve_left woken).resolve_left retired workspace
        found with ⟨fires, checkable⟩
      rcases (CronManager.runDue_returns_iff keyed now clock).mpr fires with ⟨created, returns⟩
      rcases run : workspace.cron.runDue zones now clock with ⟨cron, result⟩
      rw [run] at returns
      dsimp only at returns ⊢
      rw [run]
      subst returns
      dsimp only
      cases quiet : workspace.cron.runDueNotifies zones now clock with
      | true =>
        intro asleep
        cases created with
        | zero =>
          have event := (checkReviews_frame
            ((paced.wellFormed.congr rfl rfl : (service.wakeIf true).WellFormed)) now
            { workspace with cron := cron } remaining found
            (by
              have pass := (CronManager.view_runDue zones keyed now
                clock).1
              rw [run] at pass
              exact pass)).2.1
          rw [event, wakeIf, Bool.or_true] at asleep
          cases asleep
        | succ more =>
          rw [atStage, ProactiveService.setWorkspace, wakeIf, Bool.or_true] at asleep
          cases asleep
      | false =>
        have pass := CronManager.runDue_quiet
          (by rw [run] : (workspace.cron.runDue zones now clock).2 = _)
          quiet
        rw [run] at pass
        rcases pass with ⟨rfl, rfl, later⟩
        dsimp only
        rcases checkReviews_spec (service.wakeIf false) principalId remaining checkable with
          ⟨checked, result, sameCron, reviews⟩
        intro _
        rw [result]
        intro other held absent present
        rw [atStage, ProactiveService.setWorkspace, wakeIf, Dict.get?_insert] at present
        split_ifs at present with self
        · cases present
          rintro moment (⟨jobId, due, kept⟩ | ⟨kind, inactive, shown⟩)
          · rw [sameCron] at due kept
            exact later jobId moment due kept
          · exact reviews kind inactive moment shown
        · exact others other held absent self present

theorem Paced.domainChanged (paced : service.Paced) {remaining : List String}
    (stage : service.loop = .announcing now principalId remaining)
    (published : Bool) :
    (service.domainChanged now principalId remaining published).Paced := by
  have woken : service.scheduleEvent = true := by
    by_contra asleep
    have sound := paced.stage (eq_false_of_ne_true asleep)
    rw [stage] at sound
    exact sound
  unfold ProactiveService.domainChanged
  cases published with
  | false =>
    cases service.workspaces.get? principalId with
    | none => exact paced_of_woken (paced.wellFormed.congr rfl rfl) woken nofun
    | some workspace =>
      exact paced_of_woken (paced.wellFormed.congr rfl rfl) woken nofun
  | true =>
    cases found : service.workspaces.get? principalId with
    | none => exact paced_of_woken (paced.wellFormed.congr rfl rfl) woken nofun
    | some workspace =>
      have frame := checkReviews_frame paced.wellFormed now workspace
        remaining found
        (paced.wellFormed.keyed principalId workspace found)
      exact paced_of_woken frame.1 (frame.2.1.trans woken) frame.2.2

theorem Paced.settle (paced : service.Paced)
    (stage : service.loop = .checking now []) (readable : ∀ principalId workspace,
        service.workspaces.get? principalId = some workspace →
          workspace.Readable) : (service.settle now).Paced := by
  rcases readWorkspaces_spec service.workspaces.keys readable with
    ⟨deadlines, final, read, same, sound, complete⟩
  have wellFormed : ({ service with workspaces := final } :
      ProactiveService).WellFormed := by
    constructor
    · intro principalId workspace held
      rcases same.1 principalId workspace held with ⟨before, found, kept⟩
      rw [kept.cron]
      exact paced.wellFormed.keyed principalId before found
    · intro principalId retired
      have missing := paced.wellFormed.gone principalId retired
      rw [Option.eq_none_iff_forall_ne_some]
      intro workspace held
      rcases same.1 principalId workspace held with ⟨before, found, _⟩
      exact absurd (found.symm.trans missing) (by simp)
  unfold ProactiveService.settle
  rw [read]
  dsimp only
  split_ifs with woken
  · exact paced_of_woken (wellFormed.congr rfl rfl) woken nofun
  · refine ⟨wellFormed.congr rfl rfl, nofun, fun _ => ?_⟩
    have before := paced.stage (eq_false_of_ne_true woken)
    rw [stage] at before
    have earliest := ProactiveWorkspace.earliestDeadline_spec deadlines
    constructor
    · intro moment found
      rcases sound moment (earliest.1 moment found) with ⟨principalId, workspace, held, waits⟩
      exact before principalId workspace (by simp) held moment waits
    · intro principalId workspace held moment waits
      rcases same.1 principalId workspace held with ⟨origin, found, kept⟩
      rcases complete principalId
          ((Dict.mem_keys_iff _ _).mpr (by rw [found]; simp)) origin found
          moment ((kept.awaits_iff moment).mp waits) with
        ⟨listed, member, early⟩
      rcases earliest.2 listed member with ⟨first, shown, least⟩
      exact ⟨first, shown, least.trans early⟩

theorem Paced.workspaceFor (paced : service.Paced) {timezone : String}
    {file : CronFile} {reviewer : ReviewService → ReviewSchedule}
    (initialized : (initializeReviews settings now reviewer).2 = true)
    (stepped : service.workspaceFor zones settings principalId timezone file now reviewer =
        some target) : target.Paced := by
  unfold ProactiveService.workspaceFor at stepped
  split_ifs at stepped with refused
  rcases started : (CronManager.stored timezone file).initializeSchedule zones now with
    ⟨cron, error | ⟨⟩⟩
  · rw [started] at stepped
    cases stepped
  · rw [started] at stepped
    dsimp only at stepped
    rw [initialized] at stepped
    cases stepped
    have owns := CronManager.started_owned started
    refine paced_of_woken ⟨?_, ?_⟩ (Bool.or_true _) paced.alive
    · intro other workspace held
      rw [wakeIf, ProactiveService.setWorkspace, Dict.get?_insert] at held
      split_ifs at held
      · cases held
        exact owns.keyed
      · exact paced.wellFormed.keyed other workspace held
    · intro other retired
      rw [not_or] at refused
      rw [wakeIf, ProactiveService.setWorkspace, Dict.get?_insert, if_neg]
      · exact paced.wellFormed.gone other retired
      · rintro rfl
        exact refused.1 retired

/--
A check is behind a wake, or passes; the snapshots can be read at the end of
an iteration; no known principal is refused; and no rebuild of a schedule and
no initialization raises.
-/
def KeepsPace (zones : ZoneDatabase) (settings : RefreshSettings)
    (service : ProactiveService) : ServiceEvent → Prop
  | .check _ =>
    ∀ now principalId remaining, service.loop = .checking now (principalId :: remaining) →
        service.scheduleEvent = true ∨ principalId ∈ service.retired ∨
          ∀ workspace ∈ service.workspaces.get? principalId, PassesCheck zones workspace now
  | .settle =>
    ∀ principalId workspace,
      service.workspaces.get? principalId = some workspace → workspace.Readable
  | .refreshFailed => False
  | .cron principalId event =>
    CronManager.Rebuilds event → ∀ workspace ∈ service.workspaces.get? principalId,
        workspace.cron.notifies zones event = true
  | .workspaceFor _ _ _ now reviewer =>
    (initializeReviews settings now reviewer).2 = true
  | _ => True

theorem step_paced {event : ServiceEvent} (paced : service.Paced)
    (keeps : service.KeepsPace zones settings event)
    (stepped : service.step zones settings event = some target) :
    target.Paced := by
  cases event with
  | begin now =>
    cases stage : service.loop <;> simp only [step, stage] at stepped <;> cases stepped
    refine ⟨paced.wellFormed.congr rfl rfl, ?_, fun _ => ?_⟩
    · rw [begin]
      split_ifs <;> exact nofun
    · rw [begin]
      split_ifs <;> trivial
  | refreshFailed => exact keeps.elim
  | snapshot =>
    cases stage : service.loop <;> simp only [step, stage] at stepped <;> cases stepped
    refine ⟨paced.wellFormed.congr rfl rfl, nofun, fun _ => ?_⟩
    intro principalId workspace absent found
    exact absurd ((Dict.mem_keys_iff _ _).mpr ⟨workspace, found⟩) absent
  | check clock =>
    rcases stage : service.loop with _ | _ | ⟨now, _ | ⟨principalId, remaining⟩⟩ <;>
      simp only [step, stage] at stepped <;> cases stepped
    exact paced.check clock stage (keeps now principalId remaining stage)
  | announced published =>
    cases stage : service.loop <;> simp only [step, stage] at stepped <;> cases stepped
    exact paced.domainChanged stage published
  | reported =>
    cases stage : service.loop <;> simp only [step, stage] at stepped <;> cases stepped
    refine paced_of_woken (paced.wellFormed.congr rfl rfl) ?_ nofun
    by_contra asleep
    have sound := paced.stage (eq_false_of_ne_true asleep)
    rw [stage] at sound
    exact sound
  | settle =>
    rcases stage : service.loop with _ | _ | ⟨now, _ | ⟨principalId, remaining⟩⟩ <;>
      simp only [step, stage] at stepped <;> cases stepped
    exact paced.settle stage keeps
  | wake =>
    have wellFormed : (service.atStage .top).WellFormed :=
      paced.wellFormed.congr rfl rfl
    cases stage : service.loop <;> simp only [step, stage] at stepped <;>
      try cases stepped
    · exact ⟨wellFormed, nofun, fun _ => trivial⟩
    · split_ifs at stepped
      cases stepped
      exact ⟨wellFormed, nofun, fun _ => trivial⟩
  | cron principalId cronEvent =>
    simp only [step] at stepped
    exact paced.cronStep keeps stepped
  | beginReview principalId kind =>
    simp only [step] at stepped
    refine paced.onReviewer stepped fun before after changed => ?_
    split_ifs at changed
    cases changed
    exact ⟨rfl, rfl⟩
  | endReview principalId kind ending =>
    simp only [step] at stepped
    refine paced.onReviewer stepped fun before after changed => ?_
    split_ifs at changed
    cases ending with
    | advanced finishedAt saved => cases changed
    | released =>
      cases changed
      exact ⟨rfl, rfl⟩
  | defer principalId kind now =>
    simp only [step] at stepped
    refine paced.onReviewer stepped fun before after changed => ?_
    split_ifs at changed
    split at changed
    · cases changed
    · cases changed
      exact ⟨rfl, rfl⟩
  | taskDone principalId kind =>
    simp only [step] at stepped
    refine paced.onReviewer stepped fun before after changed => ?_
    split_ifs at changed
    cases changed
  | workspaceFor principalId timezone file now reviewer =>
    simp only [step] at stepped
    exact paced.workspaceFor keeps stepped
  | retire principalId =>
    simp only [step] at stepped
    cases stepped
    refine paced_of_woken ⟨?_, ?_⟩ rfl paced.alive
    · intro other workspace held
      rw [retire, Dict.get?_erase] at held
      split_ifs at held
      exact paced.wellFormed.keyed other workspace held
    · intro other retired
      rw [retire, Dict.get?_erase]
      split_ifs with self
      · rfl
      · exact paced.wellFormed.gone other ((List.mem_cons.mp retired).resolve_left self)
  | restore principalId =>
    simp only [step] at stepped
    cases stepped
    refine paced_of_woken ⟨paced.wellFormed.keyed, ?_⟩ rfl paced.alive
    intro other retired
    exact paced.wellFormed.gone other (List.mem_filter.mp retired).1
  | drain =>
    simp only [step] at stepped
    cases stepped
    exact paced_of_woken (paced.wellFormed.congr rfl rfl) rfl paced.alive

/--
The loop is alive, and a wait without a wake is for a deadline that is still
to come and not later than that of a component without an active task.
-/
structure SleepsUntilNext (service : ProactiveService) : Prop where
  alive : service.loop ≠ .stopped
  waits : ∀ now deadline, service.loop = .waiting now deadline →
      service.scheduleEvent = true ∨ service.WaitSound now deadline

/-- Breakbeat is due in the first minute and Dream in the fifth. -/
def ownerWorkspace : ProactiveWorkspace where
  cron := .fresh "UTC"
  reviewer := fun kind =>
    ⟨⟨none, .ok (match kind with
      | .breakbeat => some minuteMicros
      | .dream => some (5 * minuteMicros)
      | .skillEvolution => none)⟩, false, false⟩

/-- A service with one workspace, at the top of its loop. -/
def ownerService : ProactiveService where
  workspaces := Dict.empty.insert "owner" ownerWorkspace
  retired := []
  accepting := true
  scheduleEvent := false
  loop := .top

/-- One iteration in the second minute. -/
def ownerIteration : List ServiceEvent :=
  [.begin (2 * minuteMicros), .snapshot, .check (2 * minuteMicros), .settle]

theorem ownerService_initial :
    (serviceMachine CronManager.onlyUtc ReviewSchedule.defaultRefresh).initial
      ownerService := by
  refine ⟨rfl, ?_, nofun⟩
  intro principalId workspace found
  rw [ownerService, Dict.get?_insert] at found
  split_ifs at found
  · cases found
    rintro jobId job ⟨⟩
  · cases found

theorem ownerWorkspace_passesCheck :
    PassesCheck CronManager.onlyUtc ownerWorkspace (2 * minuteMicros) := by
  refine ⟨nofun, fun kind => ?_⟩
  cases kind with
  | breakbeat => exact ⟨some minuteMicros, rfl, fun _ => .inl rfl⟩
  | dream => exact ⟨some (5 * minuteMicros), rfl, fun _ => .inl rfl⟩
  | skillEvolution => exact ⟨none, rfl, fun _ => .inl rfl⟩

end ProactiveService
end TurningGood.Proactive
