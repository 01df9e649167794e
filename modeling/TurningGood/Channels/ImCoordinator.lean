import TurningGood.Foundation.Text
import TurningGood.Gateway.Turns

/-!
# The coordinator of the instant-message channels

`ImGatewayCoordinator` stands between the transports of WeChat and Feishu and
the turn coordinator of the gateway.  It keeps one control for each session
whose reply has not been delivered, and it reserves routes for a deletion
only while no control is on one of them.

The second part is the system of both coordinators.  A message is first
checked by the channel and then submitted, so that anything can happen
between the two; the dispatch function of an accepted message enters its
control before it puts the message on the bus.  Requests of the other
channels go straight to the turn coordinator.
-/

namespace TurningGood.Channels

open TurningGood.Foundation
open TurningGood.Foundation.Text
open TurningGood.Gateway

/-! ## The coordinator -/

/-- `IM_CHANNELS`. -/
def imChannels : List String := ["feishu", "weixin"]

/-- `ImTurnControl`; the serial number stands for the object. -/
structure ImTurnControl where
  serial : Nat
  requestId : String
  route : ChannelRoute
deriving DecidableEq

/-- `ImTurnControl.recipient`. -/
def ImTurnControl.recipient (control : ImTurnControl) : RouteKey := routeKey control.route

/-- The control that the dispatch function of a request makes. -/
def ImTurnControl.of (request : Request) : ImTurnControl where
  serial := request.serial
  requestId := request.message.id
  route := request.message.route

/-- `ImGatewayCoordinator`. -/
structure ImGatewayCoordinator where
  controls : Dict String ImTurnControl
  closed : Bool
  generation : Nat

namespace ImGatewayCoordinator

/-- A new coordinator. -/
def create : ImGatewayCoordinator where
  controls := Dict.empty
  closed := false
  generation := 0

/-- `start`. -/
def start (coordinator : ImGatewayCoordinator) : ImGatewayCoordinator :=
  { coordinator with
    generation := coordinator.generation + 1
    closed := false }

/-- `close`. -/
def close (coordinator : ImGatewayCoordinator) : ImGatewayCoordinator where
  controls := Dict.empty
  closed := true
  generation := coordinator.generation + 1

/-- `accept` up to the submission, with the generation it captures. -/
def accept (coordinator : ImGatewayCoordinator) (message : InboundMessage)
    (content : String) : Option Nat :=
  if message.route.channel ∉ imChannels then
    none
  else if strip content = "" then
    none
  else if coordinator.closed then
    none
  else
    match coordinator.controls.get? message.route.sessionId with
    | some active =>
      if active.route ≠ message.route then none
      else some coordinator.generation
    | none => some coordinator.generation

/-- The dispatch function of `accept` up to the publication. -/
def enter (coordinator : ImGatewayCoordinator) (generation : Option Nat)
    (inbound : Request) : Except String ImGatewayCoordinator :=
  let session := inbound.message.route.sessionId
  if coordinator.closed ∨ generation ≠ some coordinator.generation then
    .error "Gateway IM 控制器已关闭"
  else
    match coordinator.controls.get? session with
    | some active =>
      if active.route ≠ inbound.message.route then
        .error "当前 IM 会话路由不一致"
      else
        .error "当前 IM 会话已有运行中的任务"
    | none =>
      .ok
        { coordinator with
          controls := coordinator.controls.insert session (.of inbound) }

/-- The `except` branch of the dispatch function. -/
def withdraw (coordinator : ImGatewayCoordinator) (inbound : Request) :
    ImGatewayCoordinator :=
  let session := inbound.message.route.sessionId
  if coordinator.controls.get? session = some (.of inbound) then
    { coordinator with controls := coordinator.controls.erase session }
  else
    coordinator

/--
`on_delivery` of the reply to a request, up to `complete_route_turn`.  The
reply carries the session, the recipient and the id of its request.
-/
def onDelivery (coordinator : ImGatewayCoordinator) (request : Request) :
    Option ImGatewayCoordinator :=
  let session := request.message.route.sessionId
  match coordinator.controls.get? session with
  | none => none
  | some control =>
    if control.recipient ≠ request.route then
      none
    else if control.requestId ≠ request.message.id then
      none
    else
      some
        { coordinator with
          controls := coordinator.controls.erase session }

/-- The first check of `reserve_matching_routes_if_idle`. -/
def holdsMatching (coordinator : ImGatewayCoordinator) (matcher : RouteKey → Bool) : Bool :=
  coordinator.controls.values.any fun control =>
    matcher control.recipient

end ImGatewayCoordinator

/-! ## The system of both coordinators -/

/-- A message that `accept` has checked and not yet submitted. -/
structure Arrival where
  message : InboundMessage
  generation : Nat
deriving DecidableEq

/--
`RouteBlock` while its owner holds it, with the matching requests that had
been accepted and dispatched when it was granted.
-/
structure RouteBlock where
  token : String
  matcher : RouteKey → Bool
  acceptedBefore : List Request
  dispatchedBefore : List Request

/-- Both coordinators and what is under way between them. -/
structure ImGateway where
  coordinator : ImGatewayCoordinator
  gateway : GatewayTurns
  arrivals : List Arrival
  /-- the generation that the dispatch function of a request captured -/
  generations : Dict Nat Nat
  /-- requests whose dispatch function awaits `publish_inbound` -/
  publishing : List Request
  blocks : List RouteBlock

namespace ImGateway

/-- Both coordinators at their start. -/
def create : ImGateway where
  coordinator := .create
  gateway := .create
  arrivals := []
  generations := Dict.empty
  publishing := []
  blocks := []

/-- Whether a request came through this coordinator. -/
def isIm (request : Request) : Prop := request.message.route.channel ∈ imChannels

instance (request : Request) : Decidable (isIm request) :=
  inferInstanceAs (Decidable (_ ∈ imChannels))

/-- The requests of a set of routes. -/
def matching (matcher : RouteKey → Bool) (requests : List Request) :
    List Request :=
  requests.filter fun request => matcher request.route

/--
The events of the turn coordinator that do not pass through the coordinator
of the instant-message channels.
-/
def bypasses : GatewayTurns.Event → Bool
  | .submit message => message.route.channel ∉ imChannels
  | .dispatchReturned request
  | .dispatchRaised request
  | .dispatchCancelled request
  | .deliver request => ¬ isIm request
  | .reserve _ _ => false
  | .release _ => false
  | .consume _ | .finish _ _ | .discardPendingRoute _ | .beginClose
  | .cancelTurn _ | .endClose => true

/-- What can happen next. -/
inductive Event where
  | start
  | close
  | accept (message : InboundMessage) (content : String)
  /-- `accept` submits a message that it has checked -/
  | submit (arrival : Arrival)
  /-- the dispatch function runs up to the publication, or raises -/
  | enter (request : Request)
  /-- the dispatch function is cancelled before it has its control -/
  | cancelled (request : Request)
  | published (request : Request)
  | publishFailed (request : Request) (cancelled : Bool)
  | onDelivery (request : Request)
  | reserve (token : String) (matcher : RouteKey → Bool)
  | release (token : String)
  | other (event : GatewayTurns.Event)

/-- An event of the turn coordinator. -/
def turn (state : ImGateway) (event : GatewayTurns.Event) :
    Option ImGateway :=
  (state.gateway.step event).map fun gateway =>
    { state with gateway := gateway }

/-- `submit` with a dispatch function that has captured the generation. -/
def submit (state : ImGateway) (arrival : Arrival) : Option ImGateway :=
  { state with
    arrivals := state.arrivals.erase arrival
    generations := state.generations.insert state.gateway.accepted.length
        arrival.generation }.turn (.submit arrival.message)

/-- The dispatch function of a request up to the publication. -/
def enter (state : ImGateway) (request : Request) : Option ImGateway :=
  match state.coordinator.enter (state.generations.get? request.serial)
    request with
  | .error _ => state.turn (.dispatchRaised request)
  | .ok coordinator =>
    some
      { state with
        coordinator := coordinator
        publishing := state.publishing ++ [request] }

/-- `publish_inbound` has returned. -/
def published (state : ImGateway) (request : Request) : Option ImGateway :=
  { state with
    publishing := state.publishing.filter (· ≠ request) }.turn (.dispatchReturned request)

/-- `publish_inbound` has raised. -/
def publishFailed (state : ImGateway) (request : Request) (cancelled : Bool) : Option ImGateway :=
  { state with
    coordinator := state.coordinator.withdraw request
    publishing := state.publishing.filter (· ≠ request) }.turn
      (if cancelled then .dispatchCancelled request
       else .dispatchRaised request)

/-- `on_delivery` of the reply to a request. -/
def onDelivery (state : ImGateway) (request : Request) :
    Option ImGateway :=
  match state.coordinator.onDelivery request with
  | none => some state
  | some coordinator =>
    { state with coordinator := coordinator }.turn (.deliver request)

/-- The block that a reservation in this state grants. -/
def blockOf (state : ImGateway) (token : String) (matcher : RouteKey → Bool) : RouteBlock where
  token := token
  matcher := matcher
  acceptedBefore := matching matcher state.gateway.accepted
  dispatchedBefore := matching matcher state.gateway.dispatched

/-- `reserve_matching_routes_if_idle`, under the lock of this coordinator. -/
def reserve (state : ImGateway) (token : String) (matcher : RouteKey → Bool) : ImGateway :=
  if state.coordinator.holdsMatching matcher then
    state
  else
    match state.gateway.coordinator.reserveMatchingRoutesIfIdle token
      matcher with
    | .ok (some coordinator) =>
      { state with
        gateway := { state.gateway with coordinator := coordinator }
        blocks := state.blocks ++ [state.blockOf token matcher] }
    | _ => state

/-- One event of the system; a token is drawn once. -/
def step (state : ImGateway) : Event → Option ImGateway
  | .start => some { state with coordinator := state.coordinator.start }
  | .close => some { state with coordinator := state.coordinator.close }
  | .accept message content =>
    match state.coordinator.accept message content with
    | none => some state
    | some generation =>
      some
        { state with
          arrivals := state.arrivals ++ [⟨message, generation⟩] }
  | .submit arrival =>
    if arrival ∈ state.arrivals then state.submit arrival else none
  | .enter request =>
    if isIm request ∧ request ∉ state.publishing ∧
        ⟨request, .dispatching⟩ ∈ state.gateway.turns then
      state.enter request
    else
      none
  | .cancelled request =>
    if isIm request ∧ request ∉ state.publishing then
      state.turn (.dispatchCancelled request)
    else
      none
  | .published request =>
    if request ∈ state.publishing then state.published request else none
  | .publishFailed request cancelled =>
    if request ∈ state.publishing then
      state.publishFailed request cancelled
    else
      none
  | .onDelivery request =>
    if isIm request ∧ ⟨request, .replied⟩ ∈ state.gateway.turns then
      state.onDelivery request
    else
      none
  | .reserve token matcher =>
    if token ∈ state.blocks.map RouteBlock.token then none
    else some (state.reserve token matcher)
  | .release token =>
    { state with
      blocks := state.blocks.filter fun block => block.token ≠ token }.turn (.release token)
  | .other event => if bypasses event then state.turn event else none

end ImGateway

/-- Both coordinators from their start on. -/
def imMachine : Machine ImGateway ImGateway.Event where
  initial state := state = ImGateway.create
  step := ImGateway.step

end TurningGood.Channels
