import TurningGood.Foundation.Machine

/-!
# The supervised connection of a Feishu bot

`_ProcessWsConnection` runs the client of a bot in a child process.  The
event pump reads what the child tells, the reconnect task starts another
child after an exit, and `start_bot` waits for the first child and then
registers the connection.  A state of the connection reaches the owner as
the result of `start_bot` or, once the connection is registered, through the
state callback.

The steps are those outside `close`: a connection whose start fails is
closed, and nothing is said of it any more.
-/

namespace TurningGood.Channels

open TurningGood.Foundation

/-! ## Coroutines -/

/-- What a child process has told last. -/
inductive Link where
  | starting
  | up
  | down
  | exited
deriving DecidableEq

/-- What the event pump does after a state callback. -/
inductive AfterReport where
  | poll
  /-- the rest of `_handle_process_exit` -/
  | schedule
deriving DecidableEq

/-- Where `_pump_events` waits. -/
inductive Pump where
  | ended
  | polling
  /-- for the state callback -/
  | reporting (next : AfterReport)
deriving DecidableEq

/-- Where `start_bot` waits. -/
inductive Startup where
  /-- for the ready future of the first child -/
  | waiting (future : Option Bool)
  /-- for `close` of the previous connection -/
  | registering
  /-- `FeishuConnectionState(True)` was returned -/
  | registered
  /-- the start has failed, and the connection was closed -/
  | closed
deriving DecidableEq

/-- Where `_reconnect` waits; `later` attempts remain after this one. -/
inductive Reconnect where
  /-- there is no reconnect task -/
  | idle
  | sleeping (later : Nat)
  /-- for `_stop_current_process`, before or after `self._process = None` -/
  | stopping (later : Nat) (joined : Bool)
  /-- for the ready future of the new child -/
  | starting (later : Nat) (future : Option Bool)
  /-- for `_stop_current_process` after a failed start -/
  | cleaning (later : Nat) (joined : Bool)
  /-- for the state callback of `_report_failed_state` -/
  | reporting
deriving DecidableEq

/-- `_PROCESS_RECONNECT_DELAYS_SECONDS` has three entries. -/
def reconnectAttempts : Nat := 3

/-- The connection and its coroutines. -/
structure FeishuConnection where
  /-- `_process`, by what the child has told last -/
  process : Option Link
  pump : Pump
  /-- the pump resolves the future that `start_bot` waits for -/
  pumpForStart : Bool
  startup : Startup
  reconnect : Reconnect
  ready : Bool
  everReady : Bool
  disconnectedReported : Bool
  /-- the last state that was reported to the owner -/
  owner : Option Bool
  /-- the reconnect task has used up its attempts -/
  exhausted : Bool
deriving DecidableEq

namespace FeishuConnection

/-! ## The code of the connection -/

/-- `_report_state`; the callback drops what is not registered. -/
def reportState (state : FeishuConnection) (connected : Bool) :
    FeishuConnection :=
  { state with
    owner :=
      if state.startup = .registered then some connected
      else state.owner }

/-- `ready_future.set_result`, unless it is done. -/
def resolve (state : FeishuConnection) (value : Bool) : FeishuConnection :=
  if state.pumpForStart then
    match state.startup with
    | .waiting none => { state with startup := .waiting (some value) }
    | _ => state
  else
    match state.reconnect with
    | .starting later none =>
      { state with reconnect := .starting later (some value) }
    | _ => state

/-- The child of the pump has told something. -/
def tell (state : FeishuConnection) (link : Link) : FeishuConnection :=
  { state with process := state.process.map fun _ => link }

/-- `_schedule_reconnect`. -/
def scheduleReconnect (state : FeishuConnection) : FeishuConnection :=
  if state.reconnect = .idle then
    { state with
      reconnect := .sleeping (reconnectAttempts - 1)
      exhausted := false }
  else
    state

/-- `_pump_events` at a ready message. -/
def pumpReady (state : FeishuConnection) : FeishuConnection :=
  let wasReady := state.everReady
  let state :=
    { (state.tell .up).resolve true with
      ready := true
      everReady := true }
  if wasReady then
    { { state with disconnectedReported := false }.reportState true with
      pump := .reporting .poll }
  else
    state

/-- `_pump_events` at a disconnected message. -/
def pumpDisconnected (state : FeishuConnection) : FeishuConnection :=
  let wasReady := state.ready
  let state := state.tell .down
  if ¬ wasReady then
    state
  else if state.disconnectedReported then
    { state with ready := false }
  else
    { { state with
        ready := false
        disconnectedReported := true }.reportState false with
      pump := .reporting .poll }

/-- `_handle_process_exit`, with the end of the pump. -/
def handleProcessExit (state : FeishuConnection) : FeishuConnection :=
  if state.process = none then
    { state with pump := .ended }
  else if ¬ state.ready then
    { state with pump := .ended }
  else if state.disconnectedReported then
    { state with ready := false, pump := .ended }.scheduleReconnect
  else
    { { state with
        ready := false
        disconnectedReported := true }.reportState false with
      pump := .reporting .schedule }

/-- `_pump_events` at a failed or stopped message, or at an exit. -/
def pumpExited (state : FeishuConnection) : FeishuConnection :=
  ((state.tell .exited).resolve false).handleProcessExit

/-- The reconnect task goes on after an attempt that has failed. -/
def nextAttempt (state : FeishuConnection) (later : Nat) :
    FeishuConnection :=
  match later with
  | later + 1 => { state with reconnect := .sleeping later }
  | 0 =>
    let state := { state with exhausted := true }
    -- `_report_failed_state`
    if state.disconnectedReported then
      { state with reconnect := .idle }
    else
      { { state with disconnectedReported := true }.reportState
          false with
        reconnect := .reporting }

/-- `_stop_current_process` has come to its end. -/
def stopped (state : FeishuConnection) : FeishuConnection :=
  { state with process := none, pump := .ended, ready := false }

/-- `_reconnect` after a child that became ready. -/
def endReconnect (state : FeishuConnection) : FeishuConnection :=
  let state := { state with reconnect := .idle }
  if ¬ state.ready then state.scheduleReconnect else state

/-- What can happen outside `close`. -/
inductive Label where
  /-- the pump reads a ready message -/
  | readyMessage
  /-- the pump reads a disconnected message -/
  | disconnectedMessage
  /-- the pump reads a failed or stopped message, or sees the exit -/
  | processExit
  /-- the state callback of the pump returns or raises -/
  | callbackEnded
  /-- `start` goes on, or its timeout is over -/
  | startEnded (timedOut : Bool)
  /-- `close` of the previous connection returns or raises -/
  | registerEnded (raised : Bool)
  /-- the delay of the reconnect task is over -/
  | reconnectWoken
  /-- `_stop_current_process` has set `self._process = None` -/
  | processJoined
  /-- `_stop_current_process` returns; the next child is spawned or not -/
  | stopEnded (spawned : Bool)
  /-- `_stop_current_process` raises -/
  | stopRaised
  /-- the reconnect task goes on, or its timeout is over -/
  | attemptEnded (timedOut : Bool)
  /-- the state callback of `_report_failed_state` returns or raises -/
  | failureReported
deriving DecidableEq

/-- A step of the pump, which reads messages one after the other. -/
def whilePolling (state : FeishuConnection) (next : FeishuConnection) :
    Option FeishuConnection :=
  if state.pump = .polling then some next else none

/-- One step. -/
def step (state : FeishuConnection) (label : Label) :
    Option FeishuConnection :=
  if state.startup = .closed then
    none
  else
    match label with
    | .readyMessage => state.whilePolling state.pumpReady
    | .disconnectedMessage => state.whilePolling state.pumpDisconnected
    | .processExit => state.whilePolling state.pumpExited
    | .callbackEnded =>
      match state.pump with
      | .reporting .poll => some { state with pump := .polling }
      | .reporting .schedule =>
        some { state with pump := .ended }.scheduleReconnect
      | _ => none
    | .startEnded timedOut =>
      match state.startup with
      | .waiting (some true) =>
        some { state with startup := .registering }
      | .waiting (some false) => some { state with startup := .closed }
      | .waiting none =>
        if timedOut then some { state with startup := .closed }
        else none
      | _ => none
    | .registerEnded raised =>
      if state.startup = .registering then
        if raised then some { state with startup := .closed }
        else
          some
            { state with startup := .registered, owner := some true }
      else
        none
    | .reconnectWoken =>
      match state.reconnect with
      | .sleeping later =>
        some { state with reconnect := .stopping later false }
      | _ => none
    | .processJoined =>
      match state.reconnect with
      | .stopping later false =>
        some
          { state with
            process := none
            reconnect := .stopping later true }
      | .cleaning later false =>
        some
          { state with
            process := none
            reconnect := .cleaning later true }
      | _ => none
    | .stopEnded spawned =>
      match state.reconnect with
      | .stopping later true =>
        if spawned then
          some
            { state.stopped with
              process := some .starting
              pump := .polling
              pumpForStart := false
              reconnect := .starting later none }
        else
          some
            { state.stopped with reconnect := .cleaning later false }
      | .cleaning later true => some (state.stopped.nextAttempt later)
      | _ => none
    | .stopRaised =>
      match state.reconnect with
      | .stopping later _ | .cleaning later _ =>
        some (state.nextAttempt later)
      | _ => none
    | .attemptEnded timedOut =>
      match state.reconnect with
      | .starting _ (some true) => some state.endReconnect
      | .starting later (some false) =>
        some { state with reconnect := .cleaning later false }
      | .starting later none =>
        if timedOut then
          some { state with reconnect := .cleaning later false }
        else
          none
      | _ => none
    | .failureReported =>
      if state.reconnect = .reporting then
        some { state with reconnect := .idle }
      else
        none

/-- `start` has spawned the first child. -/
def started : FeishuConnection where
  process := some .starting
  pump := .polling
  pumpForStart := true
  startup := .waiting none
  reconnect := .idle
  ready := false
  everReady := false
  disconnectedReported := false
  owner := none
  exhausted := false

end FeishuConnection

/-- A connection from the spawn of its first child on. -/
def feishuConnectionMachine : Machine FeishuConnection FeishuConnection.Label where
  initial state := state = FeishuConnection.started
  step := FeishuConnection.step

end TurningGood.Channels
