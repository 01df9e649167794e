import TurningGood.Mcp.ServerWorker

/-!
# Completion of the requests of a worker

The worker is read as a service over a queue of tickets: its commands wait,
one of them is executed, and their futures are the answers.  Every step of
the task is one operation of that service.  Two of these operations abandon
commands, and they are exactly the cancellations that hit a command being
executed, the task before its first step, or the awaits of its shutdown.
-/

namespace TurningGood.Mcp

open TurningGood.Foundation

namespace McpServerWorker

variable {worker target : McpServerWorker} {outcome : Outcome}

/-! ## The worker as a service -/

/-- The queue, the executed command and the futures of a worker. -/
def service (worker : McpServerWorker) : FifoService WorkerCommand Completion where
  waiting := worker.commands
  inService := worker.location.command?
  issued := worker.enqueued
  begun := worker.executed
  answers := worker.completions

theorem service_complete (worker : McpServerWorker) (command : WorkerCommand)
    (completion : Completion) :
    (worker.complete command completion).service =
      worker.service.answer command completion := by
  unfold complete FifoService.answer FifoService.Answered service
  simp only [Ticket.awaited, Ticket.serial]
  split_ifs <;> rfl

@[simp]
theorem complete_location (worker : McpServerWorker) (command : WorkerCommand)
    (completion : Completion) :
    (worker.complete command completion).location =
      worker.location := by
  unfold complete
  split_ifs <;> rfl

theorem service_abandon_of_idle (idle : worker.location.command? = none) :
    worker.service.abandonService = worker.service := by
  simp [service, FifoService.abandonService, idle]

theorem service_beginConnect (worker : McpServerWorker) (index : Nat) :
    (worker.beginConnect index).service =
      worker.service.abandonService := rfl

theorem service_beginLoop (worker : McpServerWorker) :
    worker.beginLoop.service = worker.service.abandonService := by
  unfold beginLoop
  split_ifs <;> rfl

theorem service_beginFinally (worker : McpServerWorker) :
    worker.beginFinally.service = worker.service.abandonService := by
  unfold beginFinally
  split_ifs <;> rfl

theorem service_connectFailed (worker : McpServerWorker) (now index : Nat) (error : ClientError) :
    (worker.connectFailed now index error).service =
      worker.service.abandonService := by
  unfold connectFailed
  split_ifs <;> rfl

theorem beginLoop_live (worker : McpServerWorker) :
    worker.beginLoop.location.Live := by
  unfold beginLoop beginConnect
  split_ifs <;> simp [TaskLocation.Live]

theorem beginFinally_live (worker : McpServerWorker) :
    worker.beginFinally.location.Live := by
  unfold beginFinally publishClosed
  split_ifs <;> simp [TaskLocation.Live]

theorem connectFailed_live (worker : McpServerWorker) (now index : Nat) (error : ClientError) :
    (worker.connectFailed now index error).location.Live := by
  unfold connectFailed
  split_ifs <;> simp [TaskLocation.Live]

theorem service_failQueuedCommands (worker : McpServerWorker) :
    worker.failQueuedCommands.service = worker.service.answerAll
        (.error ("MCP Server 已关闭：" ++ worker.name)) := by
  have general :
      ∀ (commands : List WorkerCommand) (current : McpServerWorker) (message : String),
        (commands.foldl (fun current command => current.reject command message) current).service =
        commands.foldl (fun current command => current.answer command (.error message))
          current.service := by
    intro commands
    induction commands with
    | nil => exact fun _ _ => rfl
    | cons command rest induction =>
      intro current message
      rw [List.foldl_cons, induction, List.foldl_cons, reject, service_complete]
  exact general worker.commands _ _

@[simp]
theorem failQueuedCommands_location (worker : McpServerWorker) :
    worker.failQueuedCommands.location = worker.location := by
  have general :
      ∀ (commands : List WorkerCommand) (current : McpServerWorker) (message : String),
        (commands.foldl (fun current command => current.reject command message)
          current).location = current.location := by
    intro commands
    induction commands with
    | nil => exact fun _ _ => rfl
    | cons command rest induction =>
      intro current message
      rw [List.foldl_cons, induction, reject, complete_location]
  exact general worker.commands _ _

/-! ## What a step of the task does -/

/-- The commands that are lost when the current await ends this way. -/
def commandsAtRisk (worker : McpServerWorker) : Outcome → List WorkerCommand
  | .cancelled =>
    match worker.location with
    | .executing command => [command]
    | .created | .finalClosing | .publishingClosed => worker.commands
    | _ => []
  | _ => []

/-- The step of the task as an operation of the service. -/
inductive TaskEffect
    (worker : McpServerWorker) (outcome : Outcome)
    (target : McpServerWorker) : Prop where
  | moves
      (same : target.service = worker.service)
      (running : target.location.Live)
      (safe : worker.commandsAtRisk outcome = [])
  | answersFront (command : WorkerCommand) (rest : List WorkerCommand)
      (reply : Completion)
      (front : worker.service.waiting = command :: rest)
      (effect : target.service = worker.service.answerFront command rest reply)
      (running : target.location.Live)
      (safe : worker.commandsAtRisk outcome = [])
  | begins (command : WorkerCommand) (rest : List WorkerCommand)
      (front : worker.service.waiting = command :: rest)
      (idle : worker.service.inService = none)
      (effect : target.service = worker.service.beginFront command rest)
      (running : target.location.Live)
      (safe : worker.commandsAtRisk outcome = [])
  | ends (command : WorkerCommand) (reply : Completion)
      (served : worker.service.inService = some command)
      (effect : target.service = worker.service.endService command reply)
      (running : target.location.Live)
      (safe : worker.commandsAtRisk outcome = [])
  | abandons (command : WorkerCommand)
      (served : worker.service.inService = some command)
      (effect : target.service = worker.service.abandonService)
      (running : target.location.Live)
      (risk : worker.commandsAtRisk outcome = [command])
  | stops (reply : Completion)
      (idle : worker.service.inService = none)
      (effect : target.service = worker.service.answerAll reply)
      (stopped : target.location = .done)
      (safe : worker.commandsAtRisk outcome = [])
  | dies
      (idle : worker.service.inService = none)
      (same : target.service = worker.service)
      (stopped : target.location = .done)
      (risk : worker.commandsAtRisk outcome = worker.service.waiting)

theorem TaskEffect.of_idle (idle : worker.location.command? = none)
    (effect : target.service = worker.service.abandonService)
    (running : target.location.Live)
    (safe : worker.commandsAtRisk outcome = []) :
    TaskEffect worker outcome target :=
  .moves (effect.trans (service_abandon_of_idle idle)) running safe

theorem TaskEffect.of_taken {command : WorkerCommand}
    {rest : List WorkerCommand} {reply : Completion}
    (front : worker.commands = command :: rest)
    (idle : worker.location.command? = none) (effect : target.service =
        (worker.service.answerFront command rest reply).abandonService)
    (running : target.location.Live)
    (safe : worker.commandsAtRisk outcome = []) :
    TaskEffect worker outcome target := by
  refine .answersFront command rest reply front ?_ running safe
  rw [effect, FifoService.abandonService]
  have still :
      (worker.service.answerFront command rest reply).inService =
        none := by
    simpa [FifoService.answerFront, service] using idle
  rw [← still]

theorem retryWaitCommand_effect (worker : McpServerWorker) (index : Nat) (command : WorkerCommand) :
    (worker.retryWaitCommand index command).location.Live ∧ ∃ reply,
        (worker.retryWaitCommand index command).service =
          (worker.service.answer command reply).abandonService := by
  unfold retryWaitCommand resolve reject
  cases command.request with
  | close =>
    refine ⟨beginFinally_live _, .result none, ?_⟩
    simp only [service_beginFinally, service_complete]
    rfl
  | reconnect =>
    refine ⟨by simp [beginConnect, TaskLocation.Live],
      .result none, ?_⟩
    simp only [service_beginConnect, service_complete]
  | remote request =>
    refine ⟨by simp [TaskLocation.Live],
      .error worker.unavailableMessage, ?_⟩
    rw [← service_complete]
    rfl

theorem failedWaitCommand_effect (worker : McpServerWorker) (command : WorkerCommand) :
    (worker.failedWaitCommand command).location.Live ∧ ∃ reply,
        (worker.failedWaitCommand command).service =
          (worker.service.answer command reply).abandonService := by
  unfold failedWaitCommand resolve reject
  cases command.request with
  | close =>
    refine ⟨beginFinally_live _, .result none, ?_⟩
    simp only [service_beginFinally, service_complete]
    rfl
  | reconnect =>
    refine ⟨beginLoop_live _, .result none, ?_⟩
    simp only [service_beginLoop, service_complete]
  | remote request =>
    refine ⟨by simp [TaskLocation.Live],
      .error worker.unavailableMessage, ?_⟩
    rw [← service_complete]
    rfl

theorem serveCommand_effect (worker : McpServerWorker) (command : WorkerCommand) :
    (worker.serveCommand command).location.Live ∧ ((∃ reply, (worker.serveCommand command).service =
          (worker.service.answer command reply).abandonService) ∨
      (worker.serveCommand command).service =
        worker.service.beginFront command worker.commands) := by
  unfold serveCommand resolve
  cases command.request with
  | close =>
    refine ⟨beginFinally_live _, Or.inl ⟨.result none, ?_⟩⟩
    simp only [service_beginFinally, service_complete]
    rfl
  | reconnect =>
    refine ⟨beginLoop_live _, Or.inl ⟨.result none, ?_⟩⟩
    simp only [service_beginLoop, service_complete]
  | remote request =>
    exact ⟨by simp [TaskLocation.Live], Or.inr rfl⟩

theorem executeFailed_effect (worker : McpServerWorker) (command : WorkerCommand)
    (error : ClientError) :
    (worker.executeFailed command error).location.Live ∧
      (worker.executeFailed command error).service =
        worker.service.endService command (.error error.message) := by
  unfold executeFailed reject
  rw [← FifoService.abandonService_answer, ← service_complete]
  split_ifs
  · exact ⟨beginLoop_live _, service_beginLoop _⟩
  · exact ⟨by simp [TaskLocation.Live], rfl⟩

theorem resume_effect {now : Nat} {location : TaskLocation} (located : worker.location = location)
    (stepped : worker.resume now location outcome = some target) :
    TaskEffect worker outcome target := by
  cases location with
  | executing command =>
    have served : worker.service.inService = some command := by
      simp [service, located, TaskLocation.command?]
    cases outcome with
    | returned value =>
      simp only [resume, Option.some.injEq] at stepped
      subst target
      refine .ends command (.result value) served ?_
        (by simp [TaskLocation.Live]) rfl
      rw [← FifoService.abandonService_answer, ← service_complete]
      rfl
    | raised error =>
      simp only [resume, Option.some.injEq] at stepped
      subst target
      have effect := executeFailed_effect worker command error
      exact .ends command _ served effect.2 effect.1 rfl
    | cancelled =>
      simp only [resume, Option.some.injEq] at stepped
      subst target
      exact .abandons command served (service_beginFinally worker) (beginFinally_live worker)
        (by simp [commandsAtRisk, located])
    | command => simp [resume] at stepped
    | timeout => simp [resume] at stepped
  | serving =>
    have idle : worker.location.command? = none := by
      simp [located, TaskLocation.command?]
    cases outcome with
    | command =>
      cases front : worker.commands with
      | nil => simp [resume, front] at stepped
      | cons command rest =>
        simp only [resume, front, Option.some.injEq] at stepped
        subst target
        rcases serveCommand_effect
          { worker with commands := rest } command with
          ⟨running, ⟨reply, effect⟩ | effect⟩
        · exact .of_taken front idle effect running rfl
        · exact .begins command rest front idle effect running rfl
    | cancelled =>
      simp only [resume, Option.some.injEq] at stepped
      subst target
      exact .of_idle idle (service_beginFinally worker) (beginFinally_live worker)
        (by simp [commandsAtRisk, located])
    | returned value => simp [resume] at stepped
    | raised error => simp [resume] at stepped
    | timeout => simp [resume] at stepped
  | retryWait index =>
    have idle : worker.location.command? = none := by
      simp [located, TaskLocation.command?]
    cases outcome with
    | command =>
      cases front : worker.commands with
      | nil => simp [resume, front] at stepped
      | cons command rest =>
        simp only [resume, front, Option.some.injEq] at stepped
        subst target
        rcases retryWaitCommand_effect
          { worker with commands := rest } index command with
          ⟨running, reply, effect⟩
        exact .of_taken front idle effect running rfl
    | timeout =>
      simp only [resume, Option.some.injEq] at stepped
      subst target
      exact .of_idle idle rfl
        (by simp [beginConnect, TaskLocation.Live]) rfl
    | cancelled =>
      simp only [resume, Option.some.injEq] at stepped
      subst target
      exact .of_idle idle (service_beginFinally worker) (beginFinally_live worker)
        (by simp [commandsAtRisk, located])
    | returned value => simp [resume] at stepped
    | raised error => simp [resume] at stepped
  | failedWait =>
    have idle : worker.location.command? = none := by
      simp [located, TaskLocation.command?]
    cases outcome with
    | command =>
      cases front : worker.commands with
      | nil => simp [resume, front] at stepped
      | cons command rest =>
        simp only [resume, front, Option.some.injEq] at stepped
        subst target
        rcases failedWaitCommand_effect
          { worker with commands := rest } command with
          ⟨running, reply, effect⟩
        exact .of_taken front idle effect running rfl
    | cancelled =>
      simp only [resume, Option.some.injEq] at stepped
      subst target
      exact .of_idle idle (service_beginFinally worker) (beginFinally_live worker)
        (by simp [commandsAtRisk, located])
    | returned value => simp [resume] at stepped
    | raised error => simp [resume] at stepped
    | timeout => simp [resume] at stepped
  | created =>
    have idle : worker.location.command? = none := by
      simp [located, TaskLocation.command?]
    cases outcome with
    | returned value =>
      simp only [resume, Option.some.injEq] at stepped
      subst target
      exact .of_idle idle (service_beginLoop worker) (beginLoop_live worker) rfl
    | cancelled =>
      simp only [resume, Option.some.injEq] at stepped
      subst target
      exact .dies idle (service_abandon_of_idle idle) rfl
        (by simp [commandsAtRisk, located, service])
    | raised error => simp [resume] at stepped
    | command => simp [resume] at stepped
    | timeout => simp [resume] at stepped
  | finalClosing =>
    have idle : worker.location.command? = none := by
      simp [located, TaskLocation.command?]
    cases outcome with
    | cancelled =>
      simp only [resume, Option.some.injEq] at stepped
      subst target
      exact .dies idle (service_abandon_of_idle idle) rfl
        (by simp [commandsAtRisk, located, service])
    | command => simp [resume] at stepped
    | timeout => simp [resume] at stepped
    | _ =>
      simp only [resume, Option.some.injEq] at stepped
      subst target
      exact .of_idle idle rfl
        (by simp [publishClosed, TaskLocation.Live]) rfl
  | publishingClosed =>
    have idle : worker.location.command? = none := by
      simp [located, TaskLocation.command?]
    cases outcome with
    | returned value =>
      simp only [resume, Option.some.injEq] at stepped
      subst target
      refine .stops (.error ("MCP Server 已关闭：" ++ worker.name))
        idle ?_ (failQueuedCommands_location _) rfl
      rw [service_failQueuedCommands, ← service_abandon_of_idle idle]
      rfl
    | cancelled =>
      simp only [resume, Option.some.injEq] at stepped
      subst target
      exact .dies idle (service_abandon_of_idle idle) rfl
        (by simp [commandsAtRisk, located, service])
    | raised error => simp [resume] at stepped
    | command => simp [resume] at stepped
    | timeout => simp [resume] at stepped
  | _ =>
    -- the awaits of a connection attempt leave the queue alone
    have idle : worker.location.command? = none := by
      simp [located, TaskLocation.command?]
    cases outcome with
    | command => simp [resume] at stepped
    | timeout => simp [resume] at stepped
    | _ =>
      simp only [resume, Option.some.injEq, reduceCtorEq] at stepped
      all_goals try split_ifs at stepped
      all_goals try rw [Option.some.injEq] at stepped
      all_goals subst target
      all_goals
        refine .of_idle idle ?_ ?_
          (by simp [commandsAtRisk, located])
      all_goals
        first
        | exact service_beginFinally worker
        | exact beginFinally_live worker
        | exact service_connectFailed worker now _ _
        | exact connectFailed_live worker now _ _
        | rfl
        | simp [TaskLocation.Live, beginConnect]

/-! ## Completion of every request -/

/--
Every request that was put into the queue has its future completed once,
unless it still waits or is being executed; nothing is left when the task is
done.  Commands are numbered in the order of the puts, and are executed at
most once and in that order.
-/
structure CompletesRequests (worker : McpServerWorker) : Prop where
  numbered : worker.enqueued.map WorkerCommand.serial = List.range worker.enqueued.length
  once : (worker.completions.map Prod.fst).Nodup
  accounted : ∀ command ∈ worker.enqueued, command.future = true →
    command.serial ∈ worker.completions.map Prod.fst ∨ command ∈ worker.commands ∨
      worker.location = .executing command
  done : worker.location = .done → ∀ command ∈ worker.enqueued, command.future = true →
      command.serial ∈ worker.completions.map Prod.fst
  fifo : worker.executed.Pairwise (· < ·)

/--
The cancellation that is delivered by this event leaves no caller behind:
the command being executed, or the queue of a task that has not begun or is
shutting down, holds no future that is still pending.
-/
def LosesNoFuture (worker : McpServerWorker) : WorkerEvent → Prop
  | .resume _ outcome =>
    ∀ command ∈ worker.commandsAtRisk outcome, command.future = true →
        command.serial ∈ worker.completions.map Prod.fst
  | _ => True

instance (worker : McpServerWorker) (event : WorkerEvent) :
    Decidable (worker.LosesNoFuture event) := by
  cases event <;> unfold LosesNoFuture <;> infer_instance

/-- All futures of a task that is done are completed. -/
def SettledWhenDone (worker : McpServerWorker) : Prop := worker.location = .done →
    ∀ command ∈ worker.service.issued, worker.service.Settled command

theorem command?_eq_some_iff (location : TaskLocation) (command : WorkerCommand) :
    location.command? = some command ↔ location = .executing command := by
  cases location <;> simp [TaskLocation.command?]

theorem completesRequests_iff (ordered : worker.service.Ordered) : worker.CompletesRequests ↔
      worker.service.Sound ∧ worker.SettledWhenDone := by
  have readAccounted (command : WorkerCommand) :
      (command.future = true → command.serial ∈ worker.completions.map Prod.fst ∨
          command ∈ worker.commands ∨
          worker.location = .executing command) ↔
      (worker.service.Settled command ∨ command ∈ worker.service.waiting ∨
        worker.service.inService = some command) := by
    rw [← command?_eq_some_iff, ← or_assoc, ← or_assoc]
    simp only [FifoService.Settled, FifoService.Answered, service, Ticket.awaited, Ticket.serial]
    tauto
  constructor
  · intro completes
    exact ⟨⟨completes.once, fun command member =>
            (readAccounted command).mp (completes.accounted command member),
          completes.fifo⟩,
        completes.done⟩
  · rintro ⟨sound, settled⟩
    exact
      { numbered := ordered.serials
        once := sound.once
        accounted := fun command member =>
          (readAccounted command).mpr (sound.accounted command member)
        done := settled
        fifo := sound.fifo }

theorem notLive_idle
    {location : TaskLocation} (notLive : ¬ location.Live) :
    location.command? = none := by
  cases location <;> simp_all [TaskLocation.Live, TaskLocation.command?]

/-- The state of the queue between two events. -/
structure Consistent (worker : McpServerWorker) : Prop where
  sound : worker.service.Sound
  ordered : worker.service.Ordered
  settled : worker.SettledWhenDone

theorem TaskEffect.ordered (effect : TaskEffect worker outcome target)
    (consistent : worker.Consistent) : target.service.Ordered := by
  have ordered := consistent.ordered
  cases effect with
  | moves same => exact same ▸ ordered
  | answersFront command rest reply front effect =>
    exact effect ▸ ordered.answerFront front reply
  | begins command rest front idle effect =>
    exact effect ▸ ordered.beginFront front
  | ends command reply served effect =>
    exact effect ▸ ordered.endService command reply
  | abandons command served effect =>
    exact effect ▸ ordered.abandonService
  | stops reply idle effect =>
    exact effect ▸ (consistent.sound.answerAll ordered idle reply).2.1
  | dies idle same => exact same ▸ ordered

theorem TaskEffect.sound_iff (effect : TaskEffect worker outcome target)
    (consistent : worker.Consistent) :
    (target.service.Sound ∧ target.SettledWhenDone) ↔ ∀ command ∈ worker.commandsAtRisk outcome,
        worker.service.Settled command := by
  have sound := consistent.sound
  have ordered := consistent.ordered
  have running_settled (running : target.location.Live) :
      target.SettledWhenDone :=
    fun stopped => absurd stopped running.2
  have safe_iff (holds : target.service.Sound ∧ target.SettledWhenDone)
      (safe : worker.commandsAtRisk outcome = []) :
      (target.service.Sound ∧ target.SettledWhenDone) ↔ ∀ command ∈ worker.commandsAtRisk outcome,
          worker.service.Settled command := by
    simp [holds, safe]
  cases effect with
  | moves same running safe =>
    exact safe_iff ⟨same ▸ sound, running_settled running⟩ safe
  | answersFront command rest reply front effect running safe =>
    exact safe_iff ⟨effect ▸ sound.answerFront front reply, running_settled running⟩ safe
  | begins command rest front idle effect running safe =>
    exact safe_iff ⟨effect ▸ sound.beginFront ordered front idle, running_settled running⟩ safe
  | ends command reply served effect running safe =>
    exact safe_iff ⟨effect ▸ sound.endService served reply, running_settled running⟩ safe
  | abandons command served effect running risk =>
    rw [risk, effect, sound.abandonService_iff ordered served]
    simp [running_settled running]
  | stops reply idle effect stopped safe =>
    have drained := sound.answerAll ordered idle reply
    refine safe_iff ⟨effect ▸ drained.1, fun _ => ?_⟩ safe
    exact effect ▸ drained.2.2.1
  | dies idle same stopped risk =>
    rw [risk, ← sound.settled_iff ordered idle]
    simp [SettledWhenDone, same, stopped, sound]

theorem putCommand_consistent (consistent : worker.Consistent)
    (live : worker.location.Live) (request : WorkerRequest) (future : Bool) :
    (worker.putCommand request future).Consistent where
  sound := consistent.sound.put _
  ordered := consistent.ordered.put rfl
  settled := fun stopped => absurd stopped live.2

theorem afterCall_consistent (consistent : worker.Consistent)
    (request : WorkerRequest) (requireConnected : Bool) :
    (worker.afterCall (worker.enqueue request requireConnected)).Consistent := by
  unfold enqueue
  split_ifs with live unavailable
  · exact consistent
  · exact putCommand_consistent consistent live _ _
  · exact consistent

theorem step_consistent_of_caller {event : WorkerEvent} (consistent : worker.Consistent)
    (caller : ∀ now outcome, event ≠ .resume now outcome)
    (stepped : worker.step event = some target) : target.Consistent := by
  cases event with
  | request request =>
    simp only [step, Option.some.injEq] at stepped
    exact stepped ▸ afterCall_consistent consistent _ _
  | reconnect =>
    simp only [step, Option.some.injEq] at stepped
    exact stepped ▸ afterCall_consistent consistent _ _
  | listChanged =>
    simp only [step, queueCatalogRefresh, Option.some.injEq] at stepped
    split_ifs at stepped with live
    · exact stepped ▸ putCommand_consistent consistent live _ _
    · exact stepped ▸ consistent
  | callerCancelled command =>
    simp only [step] at stepped
    split_ifs at stepped with member
    rw [Option.some.injEq] at stepped
    subst target
    refine ⟨?_, ?_, ?_⟩
    · exact service_complete worker _ _ ▸ consistent.sound.answer _ _
    · exact service_complete worker _ _ ▸ consistent.ordered.answer _ _
    · intro stopped other member
      rw [complete_location] at stopped
      rw [service_complete] at member ⊢
      rw [FifoService.answer_issued] at member
      exact (consistent.settled stopped other member).answer _ _ _
  | start =>
    simp only [step, start, Option.some.injEq] at stepped
    split_ifs at stepped with live
    · exact stepped ▸ consistent
    · subst target
      have same := service_abandon_of_idle (notLive_idle live)
      refine ⟨?_, ?_, by simp [SettledWhenDone]⟩
      · have sound := consistent.sound
        rw [← same] at sound
        exact sound
      · have ordered := consistent.ordered
        rw [← same] at ordered
        exact ordered
  | close =>
    simp only [step, close, Option.some.injEq] at stepped
    split_ifs at stepped with live
    · subst target
      exact ⟨consistent.sound, consistent.ordered, consistent.settled⟩
    · exact stepped ▸ consistent
  | resume now outcome => exact absurd rfl (caller now outcome)

theorem step_resume_effect {now : Nat} (stepped : worker.step (.resume now outcome) = some target) :
    TaskEffect { worker with cancelRequested := false } outcome target := by
  simp only [step] at stepped
  split_ifs at stepped
  have delivered : { worker with cancelRequested := false }.location =
      worker.location := rfl
  exact resume_effect delivered stepped

theorem step_completesRequests_iff {event : WorkerEvent} (consistent : worker.Consistent)
    (stepped : worker.step event = some target) :
    target.service.Ordered ∧ (target.CompletesRequests ↔ worker.LosesNoFuture event) := by
  by_cases task : ∃ now outcome, event = .resume now outcome
  · rcases task with ⟨now, outcome, rfl⟩
    have effect := step_resume_effect stepped
    have before : { worker with cancelRequested := false }.Consistent :=
      ⟨consistent.sound, consistent.ordered, consistent.settled⟩
    have ordered := effect.ordered before
    refine ⟨ordered, ?_⟩
    rw [completesRequests_iff ordered, effect.sound_iff before]
    rfl
  · have after := step_consistent_of_caller consistent
      (fun now outcome same => task ⟨now, outcome, same⟩) stepped
    refine ⟨after.ordered, ?_⟩
    rw [completesRequests_iff after.ordered]
    have noTask : worker.LosesNoFuture event := by
      cases event with
      | resume now outcome => exact absurd ⟨now, outcome, rfl⟩ task
      | _ => trivial
    exact ⟨fun _ => noTask, fun _ => ⟨after.sound, after.settled⟩⟩

theorem create_consistent (name : String) (settings : RetrySettings) :
    (create name settings).Consistent where
  sound := ⟨List.nodup_nil, by simp [create, service], by simp [create, service]⟩
  ordered :=
    { serials := rfl
      waiting := List.suffix_rfl
      begun := by simp [create, service]
      begunIssued := by simp [create, service]
      inService := by simp [create, service, TaskLocation.command?] }
  settled := by simp [SettledWhenDone, create]

/--
In every run in which no delivered cancellation loses a pending future, every
enqueued request is completed exactly once, still waits, or is executed, none
is left when the task is done, and the executions are in order; and an event
after such a run keeps this if and only if it loses no pending future.
-/
theorem workerRuns_completeRequests
    {worker : McpServerWorker}
    (reached : workerMachine.Reaches LosesNoFuture worker) :
    worker.CompletesRequests ∧ ∀ event target, workerMachine.step worker event = some target →
        (target.CompletesRequests ↔ worker.LosesNoFuture event) := by
  have consistent : worker.Consistent := by
    refine reached.invariant ?_ ?_
    · rintro _ ⟨name, settings, rfl⟩
      exact create_consistent name settings
    · intro state event target _ before safe stepped
      have after := step_completesRequests_iff before stepped
      have completes := (completesRequests_iff after.1).mp
        (after.2.mpr safe)
      exact ⟨completes.1, after.1, completes.2⟩
  exact ⟨(completesRequests_iff consistent.ordered).mpr ⟨consistent.sound, consistent.settled⟩,
      fun _ _ stepped =>
        (step_completesRequests_iff consistent stepped).2⟩

/-- Connect a new worker and let it execute one request. -/
def executeOneRequest : List WorkerEvent :=
  [.start, .resume 0 (.returned none), .resume 0 (.returned none),
    .resume 0 (.returned none), .resume 0 (.returned none),
    .request (.callTool "t" ""), .resume 0 .command]

/-- Close the worker and let its task run to the end. -/
def closeWorker : List WorkerEvent :=
  [.close, .resume 0 .cancelled, .resume 0 (.returned none), .resume 0 (.returned none)]

/-- The future of the executed request is never completed. -/
theorem close_loses_executed_request : ∃ worker, workerMachine.run (create "s" ⟨3, 1000, 8000⟩)
          (executeOneRequest ++ closeWorker) = some worker ∧
        worker.location = .done ∧
        ¬ worker.CompletesRequests := by
  refine ⟨_, rfl, rfl, ?_⟩
  intro completes
  have finished := completes.done rfl ⟨0, .remote (.callTool "t" ""), true⟩
    (by decide) rfl
  exact absurd finished (by decide)

/-- When the request returns before the close, it has its one answer. -/
theorem executed_request_completesRequests : ∃ worker,
      workerMachine.run (create "s" ⟨3, 1000, 8000⟩)
          (executeOneRequest ++ [.resume 0 (.returned (some "ok"))] ++ closeWorker) = some worker ∧
        worker.location = .done ∧
        worker.CompletesRequests := by
  have evaluated :
      workerMachine.runGuarded LosesNoFuture (create "s" ⟨3, 1000, 8000⟩)
          (executeOneRequest ++ [.resume 0 (.returned (some "ok"))] ++ closeWorker) =
        workerMachine.run (create "s" ⟨3, 1000, 8000⟩)
          (executeOneRequest ++ [.resume 0 (.returned (some "ok"))] ++ closeWorker) := by
    decide
  refine ⟨_, rfl, rfl, ?_⟩
  exact (workerRuns_completeRequests (.runGuarded (.start ⟨"s", ⟨3, 1000, 8000⟩, rfl⟩) evaluated)).1

end McpServerWorker
end TurningGood.Mcp
