import TurningGood.Proactive.CronOwnership
import TurningGood.Proactive.ReviewSchedule

/-!
# The scheduler loop of the proactive service

The service keeps a workspace for each principal, with a cron manager and the
three reviewing services.  One loop checks the workspaces one after another
for what is due, and then waits for the earliest deadline or for the wake
event.  Between its awaits the jobs, the reviews, manual runs and
retirements take steps of their own, and most of them set the wake event.
-/

namespace TurningGood.Proactive

open TurningGood.Foundation

/-! ## Workspaces -/

/--
A reviewing service: its deadlines, whether its lock is held (by a scheduled
run, a manual run or an observation), and whether the task that the loop
created for it is active.
-/
structure ReviewerState where
  schedule : ReviewSchedule
  running : Bool
  taskActive : Bool

/-- `ProactiveWorkspace`. -/
structure ProactiveWorkspace where
  cron : CronManager
  reviewer : ReviewService → ReviewerState

/-- The services in the order in which the loop looks at them. -/
def ReviewService.all : List ReviewService := [.breakbeat, .dream, .skillEvolution]

/-- `_earliest_deadline`. -/
def earliestDeadline (deadlines : List (Option Nat)) : Option Nat := (deadlines.filterMap id).min?

/-- `CronManager.next_deadline`. -/
def CronManager.nextDeadline (manager : CronManager) : Option Nat :=
  ((manager.nextFire.entries.filter fun entry =>
    entry.1 ∉ manager.deleting).map Prod.snd).min?

/-- Whether `run_due` announces a change of the schedule. -/
def CronManager.runDueNotifies (zones : ZoneDatabase) (manager : CronManager) (moment now : Nat) :
    Bool :=
  match runDueLoop zones now (manager.dueEntries moment)
      ⟨manager, 0, false⟩ with
  | (run, .ok ()) => run.changed
  | (_, .error _) => false

/-- Whether an operation of the manager announces a change of the schedule. -/
def CronManager.notifies (zones : ZoneDatabase) (manager : CronManager) : CronEvent → Bool
  | .createJob request jobId now =>
    (manager.createJob zones request jobId now).isOk
  | .runDue moment now => manager.runDueNotifies zones moment now
  | .updateTimezone name now =>
    (manager.updateTimezone zones name now).2.isOk
  | .initializeSchedule now => (manager.initializeSchedule zones now).2.isOk
  | .stepTask jobId => !manager.jobs.contains jobId
  | .markRunning jobId =>
    decide (jobId ∈ manager.deleting) || !manager.jobs.contains jobId
  | .cancelTask jobId =>
    match manager.tasks.get? jobId with
    | some task => task.stage != .created
    | none => false
  | .executorReturned jobId _ =>
    decide (jobId ∈ manager.deleting) || !manager.jobs.contains jobId
  | .delivered _ | .finishDelete _ | .abortDelete _ => true
  | .reload _ | .close | .beginDelete _ | .purgeDelete _ => false

namespace ProactiveWorkspace

variable (workspace : ProactiveWorkspace)

/-- Replace the state of one reviewing service. -/
def setReviewer (service : ReviewService) (state : ReviewerState) :
    ProactiveWorkspace :=
  { workspace with
    reviewer := fun other =>
      if other = service then state else workspace.reviewer other }

/-- The deadline that a reviewing service reports. -/
def reviewDeadline (service : ReviewService) : Except String (Option Nat) :=
  (workspace.reviewer service).schedule.reported service

/-- Read the property `next_run_at` of a reviewing service. -/
def readDeadline (service : ReviewService) :
    Except String (Option Nat) × ProactiveWorkspace :=
  let state := workspace.reviewer service
  let (deadline, schedule) := ReviewSchedule.nextRunAt service state.schedule
  (deadline, workspace.setReviewer service { state with schedule := schedule })

/-- The check of one reviewing service in `_run_workspace_due`. -/
def checkReviewer (now : Nat) (service : ReviewService) :
    ProactiveWorkspace × Except String Unit :=
  match workspace.readDeadline service with
  | (.error error, read) => (read, .error error)
  | (.ok deadline, read) =>
    let state := read.reviewer service
    if ReviewSchedule.due deadline now ∧ state.running = false ∧
        state.taskActive = false then
      (read.setReviewer service { state with taskActive := true }, .ok ())
    else
      (read, .ok ())

/-- The checks of the reviewing services; an error stops them. -/
def checkReviewers (now : Nat) : List ReviewService → ProactiveWorkspace →
      ProactiveWorkspace × Except String Unit
  | [], workspace => (workspace, .ok ())
  | service :: rest, workspace =>
    match workspace.checkReviewer now service with
    | (checked, .ok ()) => checkReviewers now rest checked
    | (checked, .error error) => (checked, .error error)

/-- The deadline of a reviewing service in `_workspace_deadlines`. -/
def pendingDeadline (service : ReviewService) :
    Except String (Option Nat) × ProactiveWorkspace :=
  if (workspace.reviewer service).taskActive then
    (.ok none, workspace)
  else
    workspace.readDeadline service

/-- The deadlines of the reviewing services; an error stops their reading. -/
def pendingDeadlines : List ReviewService → ProactiveWorkspace →
      Except String (List (Option Nat)) × ProactiveWorkspace
  | [], workspace => (.ok [], workspace)
  | service :: rest, workspace =>
    match workspace.pendingDeadline service with
    | (.error error, read) => (.error error, read)
    | (.ok deadline, read) =>
      match pendingDeadlines rest read with
      | (.error error, final) => (.error error, final)
      | (.ok deadlines, final) => (.ok (deadline :: deadlines), final)

/-- `_workspace_deadlines`. -/
def deadlines : Except String (Option Nat) × ProactiveWorkspace :=
  match pendingDeadlines ReviewService.all workspace with
  | (.error error, read) => (.error error, read)
  | (.ok reviews, read) =>
    (.ok (earliestDeadline (workspace.cron.nextDeadline :: reviews)), read)

end ProactiveWorkspace
/-! ## The service -/

/-- Where the scheduler loop stands. -/
inductive LoopStage where
  | top
  | refreshing (now : Nat)
  | checking (now : Nat) (remaining : List String)
  | announcing (now : Nat) (principalId : String) (remaining : List String)
  | reporting (now : Nat) (remaining : List String)
  | waiting (now : Nat) (deadline : Option Nat)
  | paused
  | stopped

/-- `ProactiveService`, while it is running. -/
structure ProactiveService where
  workspaces : Dict String ProactiveWorkspace
  retired : List String
  accepting : Bool
  scheduleEvent : Bool
  loop : LoopStage

/-- How a run of a reviewing service that holds its lock ends. -/
inductive ReviewEnd where
  /-- The next run is set; `saved` unless the snapshot was not written. -/
  | advanced (finishedAt : Nat) (saved : Bool)
  /-- An observation, a failure or a cancellation leaves the deadline. -/
  | released
  deriving DecidableEq, Repr

/-- Whether the end of a run sets a next run, which wakes the scheduler. -/
def ReviewEnd.advances : ReviewEnd → Bool
  | .advanced _ _ => true
  | .released => false

/-- Only Breakbeat sets a next run that it could not save. -/
def ReviewEnd.possible (kind : ReviewService) : ReviewEnd → Bool
  | .advanced _ saved => saved || kind == .breakbeat
  | .released => true

/-- What can happen to the service next. -/
inductive ServiceEvent where
  | begin (now : Nat)
  | refreshFailed
  | snapshot
  | check (clock : Nat)
  | announced (published : Bool)
  | reported
  | settle
  | wake
  | cron (principalId : String) (event : CronEvent)
  | beginReview (principalId : String) (service : ReviewService)
  | endReview (principalId : String) (service : ReviewService)
      (ending : ReviewEnd)
  | defer (principalId : String) (service : ReviewService) (now : Nat)
  | taskDone (principalId : String) (service : ReviewService)
  | workspaceFor (principalId timezone : String) (file : CronFile) (now : Nat)
      (reviewer : ReviewService → ReviewSchedule)
  | retire (principalId : String)
  | restore (principalId : String)
  | drain

namespace ProactiveService

variable (zones : ZoneDatabase) (settings : RefreshSettings)
variable (service : ProactiveService)

/-- `_wake_scheduler`. -/
def wakeScheduler : ProactiveService :=
  { service with scheduleEvent := true }

/-- Wake the scheduler if something changed. -/
def wakeIf (changed : Bool) : ProactiveService :=
  { service with scheduleEvent := service.scheduleEvent || changed }

/-- Replace a workspace. -/
def setWorkspace (principalId : String) (workspace : ProactiveWorkspace) :
    ProactiveService :=
  { service with
    workspaces := service.workspaces.insert principalId workspace }

def atStage (stage : LoopStage) : ProactiveService :=
  { service with loop := stage }

/-- The top of an iteration. -/
def begin (now : Nat) : ProactiveService :=
  { service with
    scheduleEvent := false
    loop := if service.accepting then .refreshing now else .paused }

/-- The reviewing services of a workspace, behind its cron pass. -/
def checkReviews (now : Nat) (principalId : String) (workspace : ProactiveWorkspace)
    (remaining : List String) : ProactiveService :=
  match ProactiveWorkspace.checkReviewers now ReviewService.all workspace with
  | (checked, .ok ()) =>
    (service.setWorkspace principalId checked).atStage (.checking now remaining)
  | (checked, .error _) =>
    (service.setWorkspace principalId checked).atStage (.reporting now remaining)

/-- `_run_workspace_due`, up to its await of the published change. -/
def runWorkspaceDue (now clock : Nat) (principalId : String) (remaining : List String) :
    ProactiveService :=
  if principalId ∈ service.retired then
    service.atStage (.checking now remaining)
  else
    match service.workspaces.get? principalId with
    | none => service.atStage (.checking now remaining)
    | some workspace =>
      let (cron, result) := workspace.cron.runDue zones now clock
      let passed := { workspace with cron := cron }
      let woken :=
        service.wakeIf (workspace.cron.runDueNotifies zones now clock)
      match result with
      | .error _ =>
        (woken.setWorkspace principalId passed).atStage (.reporting now remaining)
      | .ok 0 => woken.checkReviews now principalId passed remaining
      | .ok (_ + 1) =>
        (woken.setWorkspace principalId passed).atStage (.announcing now principalId remaining)

/-- The published change of a cron pass has returned or raised. -/
def domainChanged (now : Nat) (principalId : String) (remaining : List String)
    (published : Bool) : ProactiveService :=
  match published, service.workspaces.get? principalId with
  | true, some workspace =>
    service.checkReviews now principalId workspace remaining
  | true, none => service.atStage (.checking now remaining)
  | false, _ => service.atStage (.reporting now remaining)

/-- The deadlines of the workspaces; an error stops their reading. -/
def readWorkspaces : List String → Dict String ProactiveWorkspace →
      Except String (List (Option Nat)) × Dict String ProactiveWorkspace
  | [], workspaces => (.ok [], workspaces)
  | principalId :: rest, workspaces =>
    match workspaces.get? principalId with
    | none => readWorkspaces rest workspaces
    | some workspace =>
      match workspace.deadlines with
      | (.error error, read) =>
        (.error error, workspaces.insert principalId read)
      | (.ok deadline, read) =>
        match readWorkspaces rest
            (workspaces.insert principalId read) with
        | (.error error, final) => (.error error, final)
        | (.ok deadlines, final) => (.ok (deadline :: deadlines), final)

/--
The end of an iteration: compute the deadline, and wait for it unless the
wake event is set.  An error leaves the loop.
-/
def settle (now : Nat) : ProactiveService :=
  match readWorkspaces service.workspaces.keys service.workspaces with
  | (.error _, read) => { service with workspaces := read, loop := .stopped }
  | (.ok deadlines, read) =>
    { service with
      workspaces := read
      loop :=
        if service.scheduleEvent then .top
        else .waiting now (earliestDeadline deadlines) }

/-- A run ends, or an observation; Breakbeat remembers a deadline. -/
def endedReview (kind : ReviewService) (state : ReviewerState) : ReviewEnd → ReviewerState
  | .released => { state with running := false }
  | .advanced finishedAt saved =>
    let deadline := finishedAt + settings.refresh kind
    { state with
      running := false
      schedule :=
        { cached :=
            if kind = .breakbeat then some deadline
            else state.schedule.cached
          disk :=
            if saved then .ok (some deadline) else state.schedule.disk } }

/-- `retire_principal` of an idle principal. -/
def retire (principalId : String) : ProactiveService :=
  { service with
    retired := principalId :: service.retired
    workspaces := service.workspaces.erase principalId
    scheduleEvent := true }

/-- `restore_principal`. -/
def restore (principalId : String) : ProactiveService :=
  { service with
    retired := service.retired.filter (· ≠ principalId)
    scheduleEvent := true }

/-- The reviewing services of a new workspace are initialized in order. -/
def initializeReviews (now : Nat) (reviewer : ReviewService → ReviewSchedule) :
    (ReviewService → ReviewSchedule) × Bool :=
  ReviewService.all.foldl (fun (state, initialized) kind =>
      if initialized then
        let (schedule, result) :=
          (state kind).initializeSchedule settings kind now
        (fun other => if other = kind then schedule else state other,
          result.isOk)
      else
        (state, false))
    (reviewer, true)

/--
`workspace_for` creates a workspace and initializes its schedule.  The wake
event is set behind the initialization.
-/
def workspaceFor (principalId timezone : String) (file : CronFile) (now : Nat)
    (reviewer : ReviewService → ReviewSchedule) : Option ProactiveService :=
  if principalId ∈ service.retired ∨
      service.workspaces.contains principalId = true then
    none
  else
    match (CronManager.stored timezone file).initializeSchedule zones now with
    | (_, .error _) => none
    | (cron, .ok ()) =>
      let (schedules, initialized) :=
        initializeReviews settings now reviewer
      some ((service.setWorkspace principalId
        { cron := cron
          reviewer := fun kind => ⟨schedules kind, false, false⟩ }).wakeIf initialized)

/-- Change the state of one reviewing service, if there is one. -/
def onReviewer (principalId : String) (kind : ReviewService)
    (change : ReviewerState → Option (ReviewerState × Bool)) :
    Option ProactiveService := do
  let workspace ← service.workspaces.get? principalId
  let (state, wakes) ← change (workspace.reviewer kind)
  return (service.setWorkspace principalId (workspace.setReviewer kind state)).wakeIf wakes

/-- An operation of a cron manager, other than those of the service. -/
def cronStep (principalId : String) (event : CronEvent) :
    Option ProactiveService := do
  let workspace ← service.workspaces.get? principalId
  match event with
  | .runDue _ _ | .reload _ => none
  | _ =>
    let cron ← workspace.cron.step zones event
    return (service.setWorkspace principalId
      { workspace with cron := cron }).wakeIf
        (workspace.cron.notifies zones event)

/-- One step of the service. -/
def step (event : ServiceEvent) : Option ProactiveService :=
  match event, service.loop with
  | .begin now, .top => some (service.begin now)
  | .refreshFailed, .refreshing _ => some (service.atStage .stopped)
  | .snapshot, .refreshing now =>
    some (service.atStage (.checking now service.workspaces.keys))
  | .check clock, .checking now (principalId :: remaining) =>
    some (service.runWorkspaceDue zones now clock principalId remaining)
  | .announced published, .announcing now principalId remaining =>
    some (service.domainChanged now principalId remaining published)
  | .reported, .reporting now remaining =>
    some (service.atStage (.checking now remaining))
  | .settle, .checking now [] => some (service.settle now)
  | .wake, .waiting _ _ => some (service.atStage .top)
  | .wake, .paused =>
    if service.scheduleEvent then some (service.atStage .top) else none
  | .cron principalId cronEvent, _ =>
    service.cronStep zones principalId cronEvent
  | .beginReview principalId kind, _ =>
    service.onReviewer principalId kind fun state =>
      if state.running then none
      else some ({ state with running := true }, false)
  | .endReview principalId kind ending, _ =>
    service.onReviewer principalId kind fun state =>
      if state.running ∧ ending.possible kind then
        some (endedReview settings kind state ending, ending.advances)
      else none
  | .defer principalId kind now, _ =>
    service.onReviewer principalId kind fun state =>
      if state.running ∨ kind = .breakbeat then none
      else
        match state.schedule.writeNextRunAt
            (now + settings.refresh kind) with
        | .ok schedule => some ({ state with schedule := schedule }, true)
        | .error _ => some (state, false)
  | .taskDone principalId kind, _ =>
    service.onReviewer principalId kind fun state =>
      if state.taskActive then
        some ({ state with taskActive := false }, true)
      else none
  | .workspaceFor principalId timezone file now reviewer, _ =>
    service.workspaceFor zones settings principalId timezone file now reviewer
  | .retire principalId, _ => some (service.retire principalId)
  | .restore principalId, _ => some (service.restore principalId)
  | .drain, _ =>
    some { service with accepting := false, scheduleEvent := true }
  | _, _ => none

end ProactiveService

/--
What a service always holds: the jobs of each manager are stored under their
ids, and a retired principal has no workspace.
-/
structure ProactiveService.WellFormed (service : ProactiveService) :
    Prop where
  keyed : ∀ principalId workspace, service.workspaces.get? principalId = some workspace →
        workspace.cron.Keyed
  gone : ∀ principalId ∈ service.retired, service.workspaces.get? principalId = none

/-- The runs of a service from the top of its loop, whatever it holds. -/
def serviceMachine (zones : ZoneDatabase) (settings : RefreshSettings) :
    Machine ProactiveService ServiceEvent where
  initial service := service.loop = .top ∧ service.WellFormed
  step := ProactiveService.step zones settings

end TurningGood.Proactive
