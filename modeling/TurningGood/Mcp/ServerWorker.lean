import Mathlib.Algebra.Group.Nat.Defs
import TurningGood.Foundation.FifoService
import TurningGood.Foundation.Machine

/-!
# The worker task of one MCP server

`McpServerWorker` runs one task that connects to a server, retries, and
executes the commands that callers put into its queue; a caller waits on the
future of its command.  The task is modelled by the awaits at which it can be
suspended.  A step resumes it with the way in which that await ended, and
between two awaits nothing else runs.

A command is taken from the queue in the connected loop, in the two waiting
loops and in the drain that ends the task.  The results say which
cancellations leave a caller waiting for ever: the one that hits a command
being executed, the one that hits the task before its first step, and the
one that hits the awaits of the shutdown itself.  In all other runs every
future that was put into the queue is completed exactly once.
-/

namespace TurningGood.Mcp

open TurningGood.Foundation

/-! ## Commands and status -/

/-- The remote requests of `_execute`; documents stay texts. -/
inductive RemoteRequest where
  | callTool (name arguments : String)
  | readResource (uri : String)
  | getPrompt (name arguments : String)
  | refreshCatalog
deriving DecidableEq

/-- What a `_WorkerCommand` asks for. -/
inductive WorkerRequest where
  | remote (request : RemoteRequest)
  | reconnect
  | close
deriving DecidableEq

/--
`_WorkerCommand`, numbered in the order of the puts.  `future` tells whether
a caller awaits it; a notification of the server puts a command without one.
-/
structure WorkerCommand where
  serial : Nat
  request : WorkerRequest
  future : Bool
deriving DecidableEq

instance : Ticket WorkerCommand where
  serial := WorkerCommand.serial
  awaited := WorkerCommand.future

/-- How a future was completed. -/
inductive Completion where
  | result (value : Option String)
  | error (message : String)
  | cancelled
deriving DecidableEq

/-- An exception, and whether `is_mcp_connection_error` holds of it. -/
structure ClientError where
  message : String
  isConnectionError : Bool
deriving DecidableEq

/-- The values of `McpServerStatus.state`. -/
inductive ServerState where
  | closed
  | connecting
  | retryWait
  | connected
  | failed
deriving DecidableEq

/-- `McpServerStatus`; times are in milliseconds. -/
structure McpServerStatus where
  name : String
  connected : Bool
  error : Option String
  state : ServerState
  attempt : Nat
  nextRetryAt : Option Nat
deriving DecidableEq

/-- The retry fields of `McpServerSettings`, delays in milliseconds. -/
structure RetrySettings where
  connectRetryAttempts : Nat
  connectRetryDelay : Nat
  connectRetryMaxDelay : Nat
deriving DecidableEq

/-! ## The task -/

/-- The await at which the task is suspended, or why there is none. -/
inductive TaskLocation where
  | notStarted
  /-- the task exists and has not made its first step -/
  | created
  /-- `_close_client` at the head of the loop of `_run` -/
  | closingClient
  | publishingConnecting (retryIndex : Nat)
  /-- `connect`, `discover` and `_on_catalog` -/
  | connecting (retryIndex : Nat)
  | closingCancelledClient
  | closingFailedClient (retryIndex : Nat) (error : ClientError)
  | publishingFailed
  | publishingRetryWait (retryIndex : Nat)
  /-- `_wait_for_retry` -/
  | retryWait (retryIndex : Nat)
  /-- `_wait_when_failed` -/
  | failedWait
  | publishingConnected
  /-- `_serve_connected_commands`, waiting for a command -/
  | serving
  | executing (command : WorkerCommand)
  /-- `_close_client` in the `finally` of `_run` -/
  | finalClosing
  | publishingClosed
  | done
deriving DecidableEq

/-- The command of an executing task. -/
def TaskLocation.command? : TaskLocation → Option WorkerCommand
  | .executing command => some command
  | _ => none

/-- A task that exists and is not done. -/
def TaskLocation.Live (location : TaskLocation) : Prop := location ≠ .notStarted ∧ location ≠ .done

instance (location : TaskLocation) : Decidable location.Live := inferInstanceAs (Decidable (_ ∧ _))

/--
`McpServerWorker`.  `_restart_requested` is absent: it is set and cleared
between the same two awaits.  The last three fields are the history of the queue: the
commands put so far, the completed futures and the executed commands.
-/
structure McpServerWorker where
  name : String
  settings : RetrySettings
  commands : List WorkerCommand
  /-- whether `_client` is set -/
  client : Bool
  location : TaskLocation
  status : McpServerStatus
  closeRequested : Bool
  /-- `task.cancel()` was called and its exception not yet delivered -/
  cancelRequested : Bool
  enqueued : List WorkerCommand
  completions : List (Nat × Completion)
  executed : List Nat
deriving DecidableEq

namespace McpServerWorker

/-- `__init__`. -/
def create (name : String) (settings : RetrySettings) : McpServerWorker where
  name := name
  settings := settings
  commands := []
  client := false
  location := .notStarted
  status :=
    { name := name
      connected := false
      error := none
      state := .closed
      attempt := 0
      nextRetryAt := none }
  closeRequested := false
  cancelRequested := false
  enqueued := []
  completions := []
  executed := []

/-- `_set_status`, up to the await of the callback. -/
def setStatus (worker : McpServerWorker) (state : ServerState)
    (attempt : Nat) (error : Option String) (nextRetryAt : Option Nat) :
    McpServerWorker :=
  { worker with
    status :=
      { name := worker.name
        connected := state = .connected
        error := error
        state := state
        attempt := attempt
        nextRetryAt := nextRetryAt } }

/-- `_unavailable_message`. -/
def unavailableMessage (worker : McpServerWorker) : String :=
  match worker.status.state, worker.status.error with
  | .connecting, _ => "MCP Server 正在连接或重试：" ++ worker.name
  | .retryWait, _ => "MCP Server 正在连接或重试：" ++ worker.name
  | _, some error =>
    if error = "" then "MCP Server 未连接：" ++ worker.name
    else "MCP Server 连接失败：" ++ worker.name ++ "，" ++ error
  | _, none => "MCP Server 未连接：" ++ worker.name

/-- Complete the future of a command unless it is done. -/
def complete (worker : McpServerWorker) (command : WorkerCommand)
    (completion : Completion) : McpServerWorker :=
  if command.future = true ∧
      command.serial ∉ worker.completions.map Prod.fst then
    { worker with
      completions := worker.completions ++ [(command.serial, completion)] }
  else
    worker

/-- `_resolve`. -/
def resolve (worker : McpServerWorker) (command : WorkerCommand)
    (value : Option String) : McpServerWorker :=
  worker.complete command (.result value)

/-- `_reject`. -/
def reject (worker : McpServerWorker) (command : WorkerCommand)
    (message : String) : McpServerWorker :=
  worker.complete command (.error message)

/-- `_fail_queued_commands`. -/
def failQueuedCommands (worker : McpServerWorker) : McpServerWorker :=
  worker.commands.foldl (fun current command =>
      current.reject command ("MCP Server 已关闭：" ++ worker.name))
    { worker with commands := [] }

/-- Put a command into the queue. -/
def putCommand (worker : McpServerWorker) (request : WorkerRequest)
    (future : Bool) : McpServerWorker :=
  let command :=
    { serial := worker.enqueued.length
      request := request
      future := future }
  { worker with
    commands := worker.commands ++ [command]
    enqueued := worker.enqueued ++ [command] }

/-- `_enqueue` up to the await of the future, or the exception it raises. -/
def enqueue (worker : McpServerWorker) (request : WorkerRequest)
    (requireConnected : Bool) : Except String McpServerWorker :=
  if ¬ worker.location.Live then
    .error ("MCP Server 未启动：" ++ worker.name)
  else if requireConnected ∧ worker.status.state ≠ .connected then
    .error worker.unavailableMessage
  else
    .ok (worker.putCommand request true)

/-- `_queue_catalog_refresh`. -/
def queueCatalogRefresh (worker : McpServerWorker) : McpServerWorker :=
  if worker.location.Live then
    worker.putCommand (.remote .refreshCatalog) false
  else
    worker

/-- `start`. -/
def start (worker : McpServerWorker) : McpServerWorker :=
  if worker.location.Live then
    worker
  else
    { worker with
      closeRequested := false
      cancelRequested := false
      location := .created }

/-- `close` up to the await of the task. -/
def close (worker : McpServerWorker) : McpServerWorker :=
  if worker.location.Live then
    { worker with closeRequested := true, cancelRequested := true }
  else
    worker

/-! ## The steps of the task -/

/-- How the await of the task ended. -/
inductive Outcome where
  | returned (value : Option String)
  | raised (error : ClientError)
  | cancelled
  /-- the queue yields its front command -/
  | command
  | timeout
deriving DecidableEq

/-- An iteration of `_connect_with_retries` up to its first await. -/
def beginConnect (worker : McpServerWorker) (retryIndex : Nat) :
    McpServerWorker :=
  { worker.setStatus .connecting (retryIndex + 1) none none with
    location := .publishingConnecting retryIndex }

/-- The head of the loop of `_run`. -/
def beginLoop (worker : McpServerWorker) : McpServerWorker :=
  if worker.client then
    { worker with client := false, location := .closingClient }
  else
    worker.beginConnect 0

/-- `_set_status("closed")` in the `finally` of `_run`. -/
def publishClosed (worker : McpServerWorker) : McpServerWorker :=
  { worker.setStatus .closed 0 none none with
    location := .publishingClosed }

/-- The `finally` of `_run` up to its first await. -/
def beginFinally (worker : McpServerWorker) : McpServerWorker :=
  if worker.client then
    { worker with client := false, location := .finalClosing }
  else
    worker.publishClosed

/-- The `except Exception` of `_connect_with_retries` after the close. -/
def connectFailed (worker : McpServerWorker) (now retryIndex : Nat)
    (error : ClientError) : McpServerWorker :=
  if !error.isConnectionError ||
      worker.settings.connectRetryAttempts ≤ retryIndex then
    { worker.setStatus .failed (retryIndex + 1) (some error.message)
        none with
      location := .publishingFailed }
  else
    let delay :=
      min (worker.settings.connectRetryDelay * 2 ^ retryIndex) worker.settings.connectRetryMaxDelay
    { worker.setStatus .retryWait (retryIndex + 1) (some error.message)
        (some (now + delay)) with
      location := .publishingRetryWait retryIndex }

/-- `_wait_for_retry` and its caller, for a command just taken. -/
def retryWaitCommand (worker : McpServerWorker) (retryIndex : Nat)
    (command : WorkerCommand) : McpServerWorker :=
  match command.request with
  | .close =>
    ({ worker with closeRequested := true }.resolve command
      none).beginFinally
  | .reconnect => (worker.resolve command none).beginConnect 0
  | .remote _ =>
    { worker.reject command worker.unavailableMessage with
      location := .retryWait retryIndex }

/-- `_wait_when_failed` and its caller, for a command just taken. -/
def failedWaitCommand (worker : McpServerWorker) (command : WorkerCommand) : McpServerWorker :=
  match command.request with
  | .close =>
    ({ worker with closeRequested := true }.resolve command
      none).beginFinally
  | .reconnect => (worker.resolve command none).beginLoop
  | .remote _ =>
    { worker.reject command worker.unavailableMessage with
      location := .failedWait }

/-- `_serve_connected_commands` for a command just taken. -/
def serveCommand (worker : McpServerWorker) (command : WorkerCommand) :
    McpServerWorker :=
  match command.request with
  | .close =>
    ({ worker with closeRequested := true }.resolve command
      none).beginFinally
  | .reconnect => (worker.resolve command none).beginLoop
  | .remote _ =>
    { worker with
      executed := worker.executed ++ [command.serial]
      location := .executing command }

/-- `_serve_connected_commands` after `_execute` raised. -/
def executeFailed (worker : McpServerWorker) (command : WorkerCommand)
    (error : ClientError) : McpServerWorker :=
  let rejected := worker.reject command error.message
  if error.isConnectionError then rejected.beginLoop
  else { rejected with location := .serving }

/-- Run the task from the end of one await to the next await. -/
def resume (worker : McpServerWorker) (now : Nat) : TaskLocation → Outcome → Option McpServerWorker
  | .created, .returned _ => some worker.beginLoop
  | .created, .cancelled => some { worker with location := .done }
  | .closingClient, .returned _ => some (worker.beginConnect 0)
  | .closingClient, .raised _ => some (worker.beginConnect 0)
  | .closingClient, .cancelled => some worker.beginFinally
  | .publishingConnecting retryIndex, .returned _ =>
    some { worker with location := .connecting retryIndex }
  | .publishingConnecting _, .cancelled => some worker.beginFinally
  | .connecting retryIndex, .returned _ =>
    some
      { { worker with client := true }.setStatus .connected
          (retryIndex + 1) none none with
        location := .publishingConnected }
  | .connecting retryIndex, .raised error =>
    some
      { worker with
        location := .closingFailedClient retryIndex error }
  | .connecting _, .cancelled =>
    some { worker with location := .closingCancelledClient }
  | .closingCancelledClient, .returned _ => some worker.beginFinally
  | .closingCancelledClient, .raised _ => some worker.beginFinally
  | .closingCancelledClient, .cancelled => some worker.beginFinally
  | .closingFailedClient retryIndex error, .returned _ =>
    some (worker.connectFailed now retryIndex error)
  | .closingFailedClient retryIndex error, .raised _ =>
    some (worker.connectFailed now retryIndex error)
  | .closingFailedClient _ _, .cancelled => some worker.beginFinally
  | .publishingFailed, .returned _ =>
    if worker.closeRequested then some worker.beginFinally
    else some { worker with location := .failedWait }
  | .publishingFailed, .cancelled => some worker.beginFinally
  | .publishingRetryWait retryIndex, .returned _ =>
    some { worker with location := .retryWait (retryIndex + 1) }
  | .publishingRetryWait _, .cancelled => some worker.beginFinally
  | .retryWait retryIndex, .timeout =>
    some (worker.beginConnect retryIndex)
  | .retryWait retryIndex, .command =>
    match worker.commands with
    | [] => none
    | command :: rest =>
      some ({ worker with commands := rest }.retryWaitCommand
        retryIndex command)
  | .retryWait _, .cancelled => some worker.beginFinally
  | .failedWait, .command =>
    match worker.commands with
    | [] => none
    | command :: rest =>
      some ({ worker with commands := rest }.failedWaitCommand
        command)
  | .failedWait, .cancelled => some worker.beginFinally
  | .publishingConnected, .returned _ =>
    some { worker with location := .serving }
  | .publishingConnected, .cancelled => some worker.beginFinally
  | .serving, .command =>
    match worker.commands with
    | [] => none
    | command :: rest =>
      some ({ worker with commands := rest }.serveCommand command)
  | .serving, .cancelled => some worker.beginFinally
  | .executing command, .returned value =>
    some { worker.resolve command value with location := .serving }
  | .executing command, .raised error =>
    some (worker.executeFailed command error)
  | .executing _, .cancelled => some worker.beginFinally
  | .finalClosing, .returned _ => some worker.publishClosed
  | .finalClosing, .raised _ => some worker.publishClosed
  -- a second cancellation leaves the `finally` block half done
  | .finalClosing, .cancelled => some { worker with location := .done }
  | .publishingClosed, .returned _ =>
    some { worker with location := .done }.failQueuedCommands
  | .publishingClosed, .cancelled =>
    some { worker with location := .done }
  | _, _ => none

/-- Everything that can happen to a worker. -/
inductive WorkerEvent where
  /-- `call_tool`, `read_resource`, `get_prompt` or `refresh_catalog` -/
  | request (request : RemoteRequest)
  | reconnect
  | listChanged
  /-- the caller that awaits the future of this command is cancelled -/
  | callerCancelled (command : WorkerCommand)
  | start
  | close
  | resume (now : Nat) (outcome : Outcome)
deriving DecidableEq

/--
How the current await can end.  A requested cancellation reaches the awaits
of the worker itself; a client or a callback may swallow it.
-/
def possible (worker : McpServerWorker) : Outcome → Bool
  | .returned _ =>
    !(worker.cancelRequested && worker.location = .created)
  | .raised _ => true
  | .cancelled => worker.cancelRequested
  | .command => !worker.cancelRequested
  | .timeout => !worker.cancelRequested

/-- The worker after a call of `_enqueue`, also when the call raises. -/
def afterCall (worker : McpServerWorker) : Except String McpServerWorker → McpServerWorker
  | .ok target => target
  | .error _ => worker

/-- One event of a worker. -/
def step (worker : McpServerWorker) : WorkerEvent → Option McpServerWorker
  | .request request =>
    some (worker.afterCall (worker.enqueue (.remote request) true))
  | .reconnect =>
    some (worker.afterCall (worker.enqueue .reconnect false))
  | .listChanged => some worker.queueCatalogRefresh
  | .callerCancelled command =>
    if command ∈ worker.enqueued then
      some (worker.complete command .cancelled)
    else
      none
  | .start => some worker.start
  | .close => some worker.close
  | .resume now outcome =>
    if worker.possible outcome then
      { worker with cancelRequested := false }.resume now
        worker.location outcome
    else
      none

end McpServerWorker

/-- A worker from its construction on. -/
def workerMachine : Machine McpServerWorker McpServerWorker.WorkerEvent where
  initial worker := ∃ name settings, worker = McpServerWorker.create name settings
  step := McpServerWorker.step

end TurningGood.Mcp
