import Mathlib.Logic.Function.Basic
import TurningGood.Foundation.Dict
import TurningGood.Foundation.Machine
import TurningGood.Foundation.Text
import TurningGood.Gateway.Turns

/-!
# The events of a Web turn

The coordinator of the Web sessions publishes `task.queued` before it submits
a request to the gateway, publishes what a turn and its user do meanwhile, and
publishes the terminal event when the reply of the turn is delivered.  Every
publication waits for the lock of the hub of its session, which a subscriber
holds while its snapshot is made.  The lock is handed on in the order of the
calls.

A section between two awaits of the hub is one step.  A call of the hub is a
step of its own also where the lock is free, so that the model has the runs in
which a subscriber comes in between and more.  The coordinator of the gateway
is the one of `TurningGood.Gateway.Turns`, with the requests of all channels.
-/

namespace TurningGood.Web

open TurningGood.Foundation
open TurningGood.Foundation.Text
open TurningGood.Gateway

/-! ## Events and hubs -/

/-- The fields of `SessionEvent` that the order of events is about. -/
structure TaskEvent where
  requestId : String
  type : String
deriving DecidableEq

/-- The terminal events of a task. -/
def terminalTypes : List String := ["task.completed", "task.failed", "task.cancelled"]

/-- The types of outbound messages that end a turn. -/
def finalTypes : List String := ["response.completed", "response.error"]

/-- What `WebChannelAdapter` publishes while a turn runs. -/
def adapterTypes : List String := ["response.delta", "task.status", "tool.started", "tool.finished",
    "approval.requested", "approval.resolved", "multi_agent.run.started",
    "multi_agent.node.updated", "multi_agent.run.completed",
    "multi_agent.run.failed", "multi_agent.run.cancelled"]

/-- Who awaits a publication. -/
inductive HubCaller where
  /-- `send`, with the message that it submits next -/
  | sender (message : InboundMessage)
  /-- `send_guidance` or `stop` -/
  | control
  /-- `deliver` -/
  | delivery
deriving DecidableEq

/-- A call that waits for the lock of a session or holds it. -/
inductive HubCall where
  | subscribe
  | publish (caller : HubCaller) (event : TaskEvent)
deriving DecidableEq

/-- The event that a call publishes. -/
def HubCall.event? : HubCall → Option TaskEvent
  | .subscribe => none
  | .publish _ event => some event

/-- The lock of a session with its waiting calls, and the events. -/
structure SessionHub where
  line : List HubCall
  log : List TaskEvent
deriving DecidableEq

/-- A hub before its first call. -/
def SessionHub.create : SessionHub where
  line := []
  log := []

/-! ## The coordinator -/

/-- `WebTurnControl`. -/
structure WebTurnControl where
  guidance : List String
  stopRequested : Bool
deriving DecidableEq

/-- An outbound message of a Web turn, with the request it belongs to. -/
structure WebOutbound where
  request : Request
  eventType : String
  /-- `outcome` in the metadata is `"cancelled"` -/
  cancelled : Bool
deriving DecidableEq

namespace WebOutbound

def requestId (outbound : WebOutbound) : String := outbound.request.message.id

def sessionId (outbound : WebOutbound) : String := outbound.request.message.route.sessionId

/-- `deliver` ends the task with this message. -/
def isFinal (outbound : WebOutbound) : Bool := finalTypes.contains outbound.eventType

/-- The terminal event that `deliver` chooses. -/
def terminalType (outbound : WebOutbound) : String :=
  if outbound.cancelled then "task.cancelled"
  else if outbound.eventType = "response.error" then "task.failed"
  else "task.completed"

end WebOutbound

/-- Which publication `deliver` awaits. -/
inductive DeliveryStage where
  | message
  /-- the terminal event, with the guidance read before -/
  | terminal (pending : List String)
  /-- `guidance.pending` -/
  | guidance
deriving DecidableEq

/-- The outbound message that the channel manager delivers. -/
structure Delivery where
  outbound : WebOutbound
  stage : DeliveryStage
deriving DecidableEq

/-- The event that a delivery waits to publish. -/
def Delivery.event (delivery : Delivery) : TaskEvent where
  requestId := delivery.outbound.requestId
  type :=
    match delivery.stage with
    | .message => delivery.outbound.eventType
    | .terminal _ => delivery.outbound.terminalType
    | .guidance => "guidance.pending"

/-- The principal of the Web sessions, and their conversations. -/
structure WebSessions where
  principalId : String
  conversationOf : String → String

/-- `_route_for_session`. -/
def WebSessions.route (sessions : WebSessions) (sessionId : String) : ChannelRoute where
  principalId := sessions.principalId
  channel := "web"
  conversationId := sessions.conversationOf sessionId
  sessionId := sessionId

/-- The request came from the Web. -/
def isWeb (request : Request) : Bool := request.message.route.channel = "web"

/-- `WebSessionCoordinator`, its hub, the gateway and the outbound bus. -/
structure WebTurns where
  gateway : GatewayTurns
  hubs : String → SessionHub
  /-- the ids drawn so far -/
  requestIds : List String
  /-- the request that the action lock is held for -/
  sending : Option String
  /-- the request whose control a session has -/
  controls : Dict String String
  /-- the controls by request id -/
  turnControls : Dict String WebTurnControl
  /-- the Web messages on the outbound bus, oldest first -/
  outbound : List WebOutbound
  delivering : Option Delivery

namespace WebTurns

/-- A gateway that has just been started. -/
def create : WebTurns where
  gateway := .create
  hubs := fun _ => .create
  requestIds := []
  sending := none
  controls := Dict.empty
  turnControls := Dict.empty
  outbound := []
  delivering := none

/-- What can happen next. -/
inductive Event where
  | subscribe (sessionId : String)
  /-- `send` up to its publication, with the id that it draws -/
  | send (sessionId requestId : String)
  | sendGuidance (sessionId content : String)
  | stop (sessionId : String)
  /-- the first call of a session is done with the lock -/
  | serve (sessionId : String)
  /-- a waiting call of a session is cancelled -/
  | cancelCall (sessionId : String) (position : Nat)
  /-- the adapter of a turn publishes an event -/
  | emit (request : Request) (eventType : String)
  | consumeGuidance (request : Request)
  /-- `run_turn` ends, and its reply goes to the outbound bus -/
  | finish (request : Request)
      (outcome : Except String OutboundMessage) (cancelled : Bool)
  /-- the channel manager delivers the next outbound message -/
  | takeOutbound
  /-- anything else that happens to the coordinator of the gateway -/
  | gateway (event : GatewayTurns.Event)

/-- A call queues up for the lock of its session. -/
def await (state : WebTurns) (sessionId : String) (call : HubCall) :
    WebTurns :=
  { state with
    hubs := Function.update state.hubs sessionId
        { state.hubs sessionId with
          line := (state.hubs sessionId).line ++ [call] } }

/-- Store the control of a session. -/
def setTurnControl (state : WebTurns) (requestId : String) (control : WebTurnControl) : WebTurns :=
  { state with
    turnControls := state.turnControls.insert requestId control }

/-- `controls.pop`. -/
def popControl (state : WebTurns) (sessionId : String) : WebTurns :=
  { state with controls := state.controls.erase sessionId }

/-- Remove the control of a session if it is the one of the request. -/
def popOwnControl (state : WebTurns) (request : Request) : WebTurns :=
  let sessionId := request.message.route.sessionId
  if state.controls.get? sessionId = some request.message.id then
    state.popControl sessionId
  else
    state

/-- `dispatch` makes the control of a Web request. -/
def openControl (state : WebTurns) (request : Request) : WebTurns :=
  if isWeb request then
    { state with
      controls := state.controls.insert request.message.route.sessionId request.message.id
      turnControls := state.turnControls.insert request.message.id ⟨[], false⟩ }
  else
    state

/-- The coordinator of the gateway goes on and may dispatch requests. -/
def adopt (state : WebTurns) (gateway : GatewayTurns) : WebTurns :=
  (gateway.dispatched.drop state.gateway.dispatched.length).foldl
    openControl { state with gateway := gateway }

/-- `send_guidance` up to its publication; an error changes nothing. -/
def sendGuidance (state : WebTurns) (sessionId content : String) :
    WebTurns :=
  match state.controls.get? sessionId with
  | none => state
  | some requestId =>
    if strip content = "" then
      state
    else
      match state.turnControls.get? requestId with
      | none => state
      | some control =>
        (state.setTurnControl requestId
          { control with
            guidance := control.guidance ++ [strip content] }).await
          sessionId (.publish .control ⟨requestId, "task.status"⟩)

/-- `stop` up to its publication. -/
def stop (state : WebTurns) (sessionId : String) : WebTurns :=
  match state.controls.get? sessionId with
  | none => state
  | some requestId =>
    match state.turnControls.get? requestId with
    | none => state
    | some control =>
      (state.setTurnControl requestId
        { control with stopRequested := true }).await sessionId
        (.publish .control ⟨requestId, "task.stopping"⟩)

/-- `send` from its publication up to the await of the dispatch. -/
def submit (state : WebTurns) (message : InboundMessage) : WebTurns :=
  let request : Request := ⟨state.gateway.accepted.length, message⟩
  match state.gateway.coordinator.submit request with
  | .raised _ => { state with sending := none }
  | .refused => { state.popOwnControl request with sending := none }
  | .queued _ =>
    { state.adopt (state.gateway.submit message) with sending := none }
  | .dispatching _ => state.adopt (state.gateway.submit message)

/-- The end of `deliver`. -/
def endDelivery (state : WebTurns) (outbound : WebOutbound) : WebTurns :=
  ({ state with delivering := none }.popControl outbound.sessionId).adopt
    (state.gateway.deliver outbound.request)

/-- `deliver` waits for its next publication. -/
def awaitDelivery (state : WebTurns) (delivery : Delivery) : WebTurns :=
  { state with delivering := some delivery }.await
    delivery.outbound.sessionId (.publish .delivery delivery.event)

/-- `deliver` after one of its publications. -/
def continueDelivery (state : WebTurns) (delivery : Delivery) :
    WebTurns :=
  match delivery.stage with
  | .message =>
    if delivery.outbound.isFinal then
      let control :=
        state.turnControls.get? delivery.outbound.requestId
      state.awaitDelivery
        { delivery with
          stage := .terminal (control.elim [] (·.guidance)) }
    else
      { state with delivering := none }
  | .terminal pending =>
    if pending = [] then
      state.endDelivery delivery.outbound
    else
      state.awaitDelivery { delivery with stage := .guidance }
  | .guidance => state.endDelivery delivery.outbound

/-- The first call of a session leaves the lock. -/
def leaveLock (state : WebTurns) (sessionId : String) (call : HubCall)
    (rest : List HubCall) : WebTurns :=
  { state with
    hubs := Function.update state.hubs sessionId
        { line := rest
          log := (state.hubs sessionId).log ++ call.event?.toList } }

/-- The first call of a session has the lock, and its caller goes on. -/
def serve (state : WebTurns) (sessionId : String) : Option WebTurns :=
  match (state.hubs sessionId).line with
  | [] => none
  | call :: rest =>
    let next := state.leaveLock sessionId call rest
    match call with
    | .subscribe => some next
    | .publish .control _ => some next
    | .publish (.sender message) _ => some (next.submit message)
    | .publish .delivery _ =>
      state.delivering.map next.continueDelivery

/-- A waiting call is cancelled; `send` and `deliver` end with it. -/
def cancelCall (state : WebTurns) (sessionId : String) (position : Nat) :
    Option WebTurns :=
  (state.hubs sessionId).line[position]?.map fun call =>
    let next :=
      { state with
        hubs := Function.update state.hubs sessionId
            { state.hubs sessionId with
              line := (state.hubs sessionId).line.eraseIdx position } }
    match call with
    | .subscribe | .publish .control _ => next
    | .publish (.sender _) _ => { next with sending := none }
    | .publish .delivery _ => { next with delivering := none }

/-- `consume_guidance`. -/
def consumeGuidance (state : WebTurns) (request : Request) : WebTurns :=
  match state.turnControls.get? request.message.id with
  | none => state
  | some control =>
    state.setTurnControl request.message.id
      { control with guidance := [] }

/-- The channel manager takes a message, and `deliver` checks its control. -/
def takeOutbound (state : WebTurns) : Option WebTurns :=
  match state.delivering, state.outbound with
  | none, outbound :: rest =>
    if state.controls.get? outbound.sessionId =
        some outbound.requestId then
      some ({ state with outbound := rest }.awaitDelivery
          ⟨outbound, .message⟩)
    else
      some { state with outbound := rest }
  | _, _ => none

/-- The turn of the request is in the section of `run_turn`. -/
def Runs (state : WebTurns) (request : Request) : Prop :=
  ⟨request, .running⟩ ∈ state.gateway.turns ∧ isWeb request = true

instance (state : WebTurns) (request : Request) :
    Decidable (state.Runs request) :=
  inferInstanceAs (Decidable (_ ∧ _))

/-- `run_turn` of a Web request ends with one of the final types. -/
def finish (state : WebTurns) (request : Request)
    (outcome : Except String OutboundMessage) (cancelled : Bool) :
    Option WebTurns :=
  let reply : WebOutbound :=
    { request := request
      eventType := (GatewayTurnCoordinator.reply request.message outcome).eventType
      cancelled := cancelled }
  if isWeb request ∧ reply.isFinal = true then
    (state.gateway.step (.finish request outcome)).map fun gateway =>
      { state with
        gateway := gateway
        outbound := state.outbound ++ [reply] }
  else
    none

/--
What reaches the coordinator of the gateway by other ways.  Only the command
line discards the waiting requests of a route, and only its own.
-/
def happensElsewhere : GatewayTurns.Event → Bool
  | .submit message => message.route.channel ≠ "web"
  | .finish request _ | .deliver request => !isWeb request
  | .discardPendingRoute route => route.channel ≠ "web"
  | _ => true

/-- `dispatch` and `send` see how a dispatch ends. -/
def noteDispatch (state : WebTurns) : GatewayTurns.Event → WebTurns
  | .dispatchReturned request =>
    { state with
      sending :=
        if state.sending = some request.message.id then none
        else state.sending }
  | .dispatchRaised request | .dispatchCancelled request =>
    { (if isWeb request then state.popOwnControl request else state) with
      sending :=
        if state.sending = some request.message.id then none
        else state.sending }
  | _ => state

/-- One event of the system. -/
def step (sessions : WebSessions) (state : WebTurns) : Event → Option WebTurns
  | .subscribe sessionId => some (state.await sessionId .subscribe)
  | .send sessionId requestId =>
    if state.sending = none ∧ requestId ∉ state.requestIds then
      some ({ state with
          sending := some requestId
          requestIds := state.requestIds ++ [requestId] }.await sessionId
          (.publish (.sender ⟨requestId, sessions.route sessionId, none⟩)
            ⟨requestId, "task.queued"⟩))
    else
      none
  | .sendGuidance sessionId content =>
    some (state.sendGuidance sessionId content)
  | .stop sessionId => some (state.stop sessionId)
  | .serve sessionId => state.serve sessionId
  | .cancelCall sessionId position => state.cancelCall sessionId position
  | .emit request eventType =>
    if state.Runs request ∧ eventType ∈ adapterTypes then
      some
        { state with
          outbound := state.outbound ++ [⟨request, eventType, false⟩] }
    else
      none
  | .consumeGuidance request =>
    if state.Runs request then
      some (state.consumeGuidance request)
    else
      none
  | .finish request outcome cancelled =>
    state.finish request outcome cancelled
  | .takeOutbound => state.takeOutbound
  | .gateway event =>
    if happensElsewhere event then
      (state.gateway.step event).map fun gateway =>
        (state.noteDispatch event).adopt gateway
    else
      none

end WebTurns

/-- The Web sessions of a gateway from its start on. -/
def webTurnMachine (sessions : WebSessions) : Machine WebTurns WebTurns.Event where
  initial state := state = WebTurns.create
  step := WebTurns.step sessions

end TurningGood.Web
