import TurningGood.Gateway.HostReload
import TurningGood.Gateway.Turns

/-!
# Turns and actions beside the replacement of the runtime

A turn of the coordinator and an action of `CatalogActionExecutor` obtain the
runtime from the supervisor and work with it until they end.  The supervisor
replaces the runtime when the gateway is idle, and `GatewayHost.close` closes
it in the end.

Every section between two awaits is one step.  A task that waits for the
event `_ready` goes on some time after the event was set, whatever has become
of the event by then.  The idle state of the other components is left to the
environment, and so is the decision which calls of the supervisor find a
pending request.  What an attempt does to the host are the sections of
`GatewayHost`.
-/

namespace TurningGood.Gateway

open TurningGood.Foundation

/-! ## State -/

/-- A task that works with the runtime. -/
inductive Worker where
  | turn (request : Request)
  | action (id : String)
deriving DecidableEq

/-- Where the call of `_reload` that holds the lock awaits. -/
inductive AttemptStage where
  | building
  | starting
  | activating
  | closingPrevious
  /-- the candidate is closed because it is not wanted any more -/
  | discarding
  /-- the candidate is closed after a failure -/
  | abandoning
deriving DecidableEq, Repr

/-- A call of `_reload` that holds the lock. -/
structure Attempt where
  replacement : Nat
  stage : AttemptStage
deriving DecidableEq, Repr

/-- How far `GatewayHost.close` has come. -/
inductive Shutdown where
  | serving
  /-- `stop_reloads` waits for the replacement lock -/
  | stoppingReloads
  /-- `catalog_actions.close` waits for its tasks -/
  | closingCatalog
  | closingChannels
  | closingTurns
  | closed
deriving DecidableEq, Repr

/-- The gateway around its current runtime. -/
structure LiveGateway where
  host : GatewayHost
  turns : GatewayTurns
  /-- the runtimes that were made so far -/
  made : Nat
  /-- the runtimes whose `close` was called -/
  closed : List Nat
  ready : Bool
  closing : Bool
  attempt : Option Attempt
  /-- calls of `_reload` that wait for the lock -/
  queued : Nat
  /-- IM, Web, CLI and the proactive service are idle -/
  othersIdle : Bool
  /-- calls of `execute` that have passed the check of `_closed` -/
  executing : List String
  /-- the tasks of the actions -/
  actions : List String
  /-- `WebSessionCoordinator._catalog_actions` -/
  registered : List String
  catalogClosed : Bool
  /-- the tasks that `catalog_actions.close` gathers -/
  gathered : List String
  shutdown : Shutdown
  /-- workers that wait for `_ready` -/
  waiting : List Worker
  /-- workers whose wait is over and that have not gone on yet -/
  woken : List Worker
  /-- the runtime that a worker has obtained -/
  held : List (Worker × Nat)
  /-- the runtime of the proactive service that runs an action -/
  serving : List (String × Nat)

namespace LiveGateway

/-- A started gateway with its first runtime. -/
def create (host : GatewayHost) : LiveGateway where
  host := host
  turns := .create
  made := host.runtime
  closed := []
  ready := true
  closing := false
  attempt := none
  queued := 0
  othersIdle := true
  executing := []
  actions := []
  registered := []
  catalogClosed := false
  gathered := []
  shutdown := .serving
  waiting := []
  woken := []
  held := []
  serving := []

/-- The task of a turn is in `_running`. -/
def inRunning (turn : Turn) : Bool := turn.stage = .running ∨ turn.stage = .cancelled

/-- `GatewayTurnCoordinator.is_globally_idle`. -/
def turnsIdle (state : LiveGateway) : Bool :=
  state.turns.coordinator.inflight.isEmpty && ! state.turns.turns.any inRunning

/-- `_is_globally_idle`. -/
def isGloballyIdle (state : LiveGateway) : Bool :=
  state.turnsIdle && state.othersIdle && state.registered.isEmpty

/-! ## Workers -/

/-- The task of a worker has not ended. -/
def Active (state : LiveGateway) : Worker → Prop
  | .turn request =>
    ∃ turn ∈ state.turns.turns, turn.request = request ∧ inRunning turn = true
  | .action id => id ∈ state.actions

instance (state : LiveGateway) (worker : Worker) :
    Decidable (state.Active worker) :=
  match worker with
  | .turn _ => inferInstanceAs (Decidable (∃ turn ∈ _, _ ∧ _))
  | .action _ => inferInstanceAs (Decidable (_ ∈ _))

/-- `acquire_runtime` up to its await, or to its end. -/
def acquire (state : LiveGateway) (worker : Worker) : LiveGateway :=
  if state.ready then
    { state with held := state.held ++ [(worker, state.host.runtime)] }
  else
    { state with waiting := state.waiting ++ [worker] }

/-- `acquire_runtime` after its await. -/
def wake (state : LiveGateway) (worker : Worker) : LiveGateway :=
  { state with
    woken := state.woken.erase worker
    held := state.held ++ [(worker, state.host.runtime)] }

/-- The proactive service runs an action. -/
def takeService (state : LiveGateway) (id : String) : LiveGateway :=
  { state with
    serving := state.serving ++ [(id, state.host.service.runtime)] }

/-- Only some workers go on. -/
def keepWorkers (state : LiveGateway) (keeps : Worker → Bool) :
    LiveGateway :=
  { state with
    waiting := state.waiting.filter keeps
    woken := state.woken.filter keeps
    held := state.held.filter fun entry => keeps entry.1
    serving := state.serving.filter fun entry => keeps (.action entry.1) }

/-- The workers that are left after an event of the coordinator. -/
def survives : GatewayTurns.Event → Worker → Bool
  | .finish request _, .turn other => other ≠ request
  | .endClose, .turn _ => false
  | _, _ => true

/-! ## The supervisor -/

/-- The call of `_reload` that has the lock, up to its first await. -/
def enterReload (state : LiveGateway) : LiveGateway :=
  if state.closing then
    state
  else if state.isGloballyIdle then
    { state with
      made := state.made + 1
      ready := false
      attempt := some ⟨state.made + 1, .building⟩ }
  else
    state

/-- A call of `_reload` of a request or a notification. -/
def callReload (state : LiveGateway) : LiveGateway :=
  if state.attempt.isSome ∨ state.queued ≠ 0 then
    { state with queued := state.queued + 1 }
  else
    state.enterReload

/-- The `finally` of `_reload`, and the release of the lock. -/
def release (state : LiveGateway) : LiveGateway :=
  { state with
    ready := true
    attempt := none
    woken := state.woken ++ state.waiting
    waiting := [] }

/-- The attempt goes on to another await. -/
def await (state : LiveGateway) (replacement : Nat) (stage : AttemptStage) : LiveGateway :=
  { state with attempt := some ⟨replacement, stage⟩ }

/-- The candidate is closed. -/
def closeCandidate (state : LiveGateway) (replacement : Nat) (stage : AttemptStage) : LiveGateway :=
  { state with closed := replacement :: state.closed }.await replacement
    stage

/-- The attempt goes on unless the gateway closes or has work. -/
def ifWanted (state : LiveGateway) (replacement : Nat)
    (proceed : LiveGateway → LiveGateway) : LiveGateway :=
  if state.closing then
    state.closeCandidate replacement .discarding
  else if state.isGloballyIdle then
    proceed state
  else
    state.closeCandidate replacement .discarding

/-- `on_prepare`, which awaits nothing, and the check after it. -/
def prepare (state : LiveGateway) (replacement : Nat) (awaits : ReloadAwaits) : LiveGateway :=
  let (host, ending) :=
    state.host.prepareRuntime { awaits with replacement := replacement }
  let prepared := { state with host := host }
  if ending ≠ .returned then
    prepared.closeCandidate replacement .abandoning
  else if prepared.closing then
    prepared.closeCandidate replacement .discarding
  else
    prepared.await replacement .starting

/-- The candidate becomes the runtime, and the previous one is closed. -/
def commit (state : LiveGateway) (replacement : Nat) : LiveGateway :=
  { state with
    host := { state.host with runtime := replacement }
    closed := state.host.runtime :: state.closed }.await replacement .closingPrevious

/-- The end of `on_activate`. -/
def activate (state : LiveGateway) (replacement : Nat) (awaits : ActivationAwaits) : LiveGateway :=
  let (host, ending) := state.host.activateRuntime replacement awaits
  let activated := { state with host := host }
  if ending ≠ .returned then
    activated.closeCandidate replacement .abandoning
  else if activated.closing then
    activated.closeCandidate replacement .discarding
  else
    activated.commit replacement

/-! ## Steps -/

/-- What can happen next. -/
inductive Event where
  | turns (event : GatewayTurns.Event)
  | setOthersIdle (idle : Bool)
  | execute (id : String)
  /-- the call of `execute` fails -/
  | refuse (id : String)
  /-- the action is registered and its task created -/
  | begin (id : String)
  | acquire (worker : Worker)
  | wake (worker : Worker)
  | takeService (id : String)
  | endAction (id : String)
  /-- `finish_catalog_action` -/
  | unregister (id : String)
  | callReload
  | grant
  | built (ending : Awaited) (awaits : ReloadAwaits)
  | started (ending : Awaited)
  | activated (awaits : ActivationAwaits)
  | closedPrevious
  | closedCandidate (ending : Awaited)
  | stopReloads
  | closeCatalog
  | gatheredCatalog
  | closeWeb
  | closeRuntime

/-- The coordinator is closed when its turn has come. -/
def mayHappen (state : LiveGateway) : GatewayTurns.Event → Bool
  | .beginClose => state.shutdown = .closingTurns
  | _ => true

/-- A step of the turn coordinator. -/
def turnStep (state : LiveGateway) (event : GatewayTurns.Event) :
    Option LiveGateway :=
  if state.mayHappen event then
    (state.turns.step event).map fun turns =>
      { state with turns := turns }.keepWorkers (survives event)
  else
    none

/-- The worker has not called `acquire_runtime` yet. -/
def Acquires (state : LiveGateway) (worker : Worker) : Prop :=
  state.Active worker ∧ worker ∉ state.waiting ∧ worker ∉ state.woken ∧
    worker ∉ state.held.map Prod.fst

instance (state : LiveGateway) (worker : Worker) :
    Decidable (state.Acquires worker) :=
  inferInstanceAs (Decidable (_ ∧ _ ∧ _ ∧ _))

/-- A step of the attempt that holds the lock. -/
def attemptStep (state : LiveGateway) (attempt : Attempt) : Event → Option LiveGateway
  | .built ending awaits =>
    if attempt.stage = .building then
      some
        (if ending = .returned then
          state.ifWanted attempt.replacement fun wanted =>
            wanted.prepare attempt.replacement awaits
        else
          state.release)
    else
      none
  | .started ending =>
    if attempt.stage = .starting then
      some
        (if ending = .returned then
          state.ifWanted attempt.replacement fun wanted =>
            wanted.await attempt.replacement .activating
        else
          state.closeCandidate attempt.replacement .abandoning)
    else
      none
  | .activated awaits =>
    if attempt.stage = .activating then
      some (state.activate attempt.replacement awaits)
    else
      none
  | .closedPrevious =>
    if attempt.stage = .closingPrevious then some state.release else none
  | .closedCandidate ending =>
    if attempt.stage = .discarding ∧ ending = .cancelled then
      some (state.closeCandidate attempt.replacement .abandoning)
    else if attempt.stage = .discarding ∨ attempt.stage = .abandoning then
      some state.release
    else
      none
  | _ => none

/-- A step of `GatewayHost.close`. -/
def shutdownStep (state : LiveGateway) : Event → Option LiveGateway
  | .stopReloads =>
    if state.shutdown = .serving then
      some { state with closing := true, shutdown := .stoppingReloads }
    else
      none
  | .closeCatalog =>
    if state.shutdown = .stoppingReloads ∧ state.attempt = none then
      some
        { state with
          catalogClosed := true
          gathered := state.actions
          shutdown := .closingCatalog }
    else
      none
  | .gatheredCatalog =>
    if state.shutdown = .closingCatalog ∧
        ∀ id ∈ state.gathered, id ∉ state.actions then
      some { state with shutdown := .closingChannels }
    else
      none
  | .closeWeb =>
    if state.shutdown = .closingChannels then
      some { state with registered := [], shutdown := .closingTurns }
    else
      none
  | .closeRuntime =>
    if state.shutdown = .closingTurns ∧ state.turns.phase = .closed ∧
        state.attempt = none then
      some
        { state with
          closed := state.host.runtime :: state.closed
          shutdown := .closed }
    else
      none
  | _ => none

/-- One event of the gateway. -/
def step (state : LiveGateway) : Event → Option LiveGateway
  | .turns event => state.turnStep event
  | .setOthersIdle idle => some { state with othersIdle := idle }
  | .execute id =>
    if state.catalogClosed ∨ id ∈ state.executing ∨ id ∈ state.actions ∨
        id ∈ state.registered then
      none
    else
      some { state with executing := state.executing ++ [id] }
  | .refuse id =>
    some { state with executing := state.executing.erase id }
  | .begin id =>
    if id ∈ state.executing then
      some
        { state with
          executing := state.executing.erase id
          registered := state.registered ++ [id]
          actions := state.actions ++ [id] }
    else
      none
  | .acquire worker =>
    if state.Acquires worker then some (state.acquire worker) else none
  | .wake worker =>
    if worker ∈ state.woken then some (state.wake worker) else none
  | .takeService id =>
    if Worker.action id ∈ state.held.map Prod.fst ∧
        state.host.service.running = true ∧
        state.host.service.acceptingWork = true then
      some (state.takeService id)
    else
      none
  | .endAction id =>
    some ({ state with
        actions := state.actions.filter (· ≠ id) }.keepWorkers
          fun worker => worker ≠ Worker.action id)
  | .unregister id =>
    if id ∈ state.actions then none
    else
      some
        { state with
          registered := state.registered.filter (· ≠ id) }
  | .callReload =>
    if state.closing = false ∧ state.isGloballyIdle = true then
      some state.callReload
    else
      none
  | .grant =>
    match state.attempt, state.queued with
    | none, queued + 1 =>
      some { state with queued := queued }.enterReload
    | _, _ => none
  | event =>
    match state.attempt.bind fun attempt =>
      state.attemptStep attempt event with
    | some target => some target
    | none => state.shutdownStep event

end LiveGateway

/-- The gateway from its start on. -/
def liveMachine : Machine LiveGateway LiveGateway.Event where
  initial state := ∃ host : GatewayHost, host.service.runtime = host.runtime ∧ state = .create host
  step := LiveGateway.step

end TurningGood.Gateway
