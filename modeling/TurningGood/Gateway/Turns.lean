import TurningGood.Foundation.Dict
import TurningGood.Foundation.Machine
import TurningGood.Foundation.WaitingLines

/-!
# The turn coordinator of the gateway

`GatewayTurnCoordinator` accepts the messages of all channels.  A route runs
one request at a time: a message whose route is busy waits in the queue of
the route, and the delivery of a reply, or the failure of a dispatch, starts
the next one.

The first part translates the coordinator.  Its methods only await the
dispatch function of an adapter, so each of them is a function of the state
up to that await.  The second part is the system around it: the requests
that are being dispatched, lie on the bus, run, or wait for the delivery of
their reply.  It covers one life of the coordinator, from `start` to the end
of `close`.
-/

namespace TurningGood.Gateway

open TurningGood.Foundation

/-! ## Messages -/

/-- `ChannelRoute`. -/
structure ChannelRoute where
  principalId : String
  channel : String
  conversationId : String
  sessionId : String
deriving DecidableEq

/-- `RouteKey`. -/
structure RouteKey where
  principalId : String
  channel : String
  conversationId : String
deriving DecidableEq

/-- `_route_key`. -/
def routeKey (route : ChannelRoute) : RouteKey where
  principalId := route.principalId
  channel := route.channel
  conversationId := route.conversationId

/-- The fields of `InboundMessage` that the coordinator reads. -/
structure InboundMessage where
  id : String
  route : ChannelRoute
  bindingEpoch : Option Int
deriving DecidableEq

/-- The fields of `OutboundMessage` that the coordinator writes. -/
structure OutboundMessage where
  content : String
  eventType : String
  eventId : String
  requestId : Option String
  bindingEpoch : Option Int
deriving DecidableEq

/--
An accepted message together with its dispatch function.  The function is
known by the number of the acceptance.
-/
structure Request where
  serial : Nat
  message : InboundMessage
deriving DecidableEq

/-- The route of a request. -/
def Request.route (request : Request) : RouteKey := routeKey request.message.route

instance : Routed Request RouteKey where
  key := Request.route
  serial := Request.serial

/-! ## The coordinator -/

/-- `_TERMINAL_CACHE_LIMIT`. -/
def terminalCacheLimit : Nat := 2048

/-- `GatewayTurnCoordinator`. -/
structure GatewayTurnCoordinator where
  inflight : List String
  /-- the last replies by request id, oldest first -/
  terminal : List (String × OutboundMessage)
  activeRoutes : Dict RouteKey String
  pendingRoutes : Dict RouteKey (List Request)
  routeBlocks : Dict String (RouteKey → Bool)
  closed : Bool

namespace GatewayTurnCoordinator

/-- A new coordinator. -/
def create : GatewayTurnCoordinator where
  inflight := []
  terminal := []
  activeRoutes := Dict.empty
  pendingRoutes := Dict.empty
  routeBlocks := Dict.empty
  closed := false

/-- The requests waiting on a route, first one first. -/
def pending (coordinator : GatewayTurnCoordinator) (route : RouteKey) :
    List Request :=
  (coordinator.pendingRoutes.get? route).getD []

/-- `set.discard` on the ids in flight. -/
def discardInflight (coordinator : GatewayTurnCoordinator) (id : String) :
    GatewayTurnCoordinator :=
  { coordinator with
    inflight := coordinator.inflight.filter (· ≠ id) }

/-- Store the rest of a queue; an empty queue has no entry. -/
def setPending (coordinator : GatewayTurnCoordinator) (route : RouteKey)
    (rest : List Request) : GatewayTurnCoordinator :=
  { coordinator with
    pendingRoutes :=
      if rest.isEmpty then coordinator.pendingRoutes.erase route
      else coordinator.pendingRoutes.insert route rest }

/-- How `submit` ends, up to the dispatch. -/
inductive Submission where
  | raised (message : String)
  /-- `False` is returned and nothing changes -/
  | refused
  /-- the message waits behind the active request of its route -/
  | queued (coordinator : GatewayTurnCoordinator)
  /-- the message is dispatched now -/
  | dispatching (coordinator : GatewayTurnCoordinator)

/-- `submit` up to the await of the dispatch. -/
def submit (coordinator : GatewayTurnCoordinator) (request : Request) :
    Submission :=
  let id := request.message.id
  let route := request.route
  if coordinator.closed then
    .raised "Gateway 已关闭"
  else if coordinator.routeBlocks.values.any (fun matcher => matcher route)
      then
    .refused
  else if coordinator.inflight.contains id ||
      (coordinator.terminal.map Prod.fst).contains id then
    .refused
  else
    let known :=
      { coordinator with inflight := coordinator.inflight ++ [id] }
    if coordinator.activeRoutes.contains route then
      .queued
        { known with
          pendingRoutes := known.pendingRoutes.insert route
              (coordinator.pending route ++ [request]) }
    else
      .dispatching
        { known with
          activeRoutes := known.activeRoutes.insert route id }

/-- `popleft`: the next request of a route becomes its active one. -/
def advance (coordinator : GatewayTurnCoordinator) (request : Request)
    (rest : List Request) : GatewayTurnCoordinator :=
  { coordinator.setPending request.route rest with
    activeRoutes := coordinator.activeRoutes.insert request.route request.message.id }

/-- The route has neither an active request nor a queue. -/
def freeRoute (coordinator : GatewayTurnCoordinator) (route : RouteKey) :
    GatewayTurnCoordinator :=
  { coordinator with
    activeRoutes := coordinator.activeRoutes.erase route
    pendingRoutes := coordinator.pendingRoutes.erase route }

/-- `complete_route_turn`, with the request that is dispatched next. -/
def completeRouteTurn (coordinator : GatewayTurnCoordinator)
    (route : RouteKey) (requestId : String) :
    GatewayTurnCoordinator × Option Request :=
  if coordinator.activeRoutes.get? route ≠ some requestId then
    (coordinator, none)
  else
    match coordinator.pending route with
    | [] => (coordinator.freeRoute route, none)
    | request :: rest => (coordinator.advance request rest, some request)

/-- `_rollback_dispatch`: the request dispatched next, and the dropped ones. -/
def rollbackDispatch (coordinator : GatewayTurnCoordinator) (failed : Request) (advance : Bool) :
    GatewayTurnCoordinator × Option Request × List Request :=
  let route := failed.route
  let discarded := coordinator.discardInflight failed.message.id
  if coordinator.activeRoutes.get? route ≠ some failed.message.id then
    (discarded, none, [])
  else
    match advance, coordinator.pending route with
    | true, request :: rest =>
      (discarded.advance request rest, some request, [])
    | _, pending =>
      (pending.foldl (fun current request =>
            current.discardInflight request.message.id)
          (discarded.freeRoute route),
        none, pending)

/-- `discard_pending_route`, with the dropped requests. -/
def discardPendingRoute (coordinator : GatewayTurnCoordinator)
    (route : RouteKey) : GatewayTurnCoordinator × List Request :=
  let pending := coordinator.pending route
  (pending.foldl (fun current request => current.discardInflight request.message.id)
      { coordinator with
        pendingRoutes := coordinator.pendingRoutes.erase route },
    pending)

/-- `reserve_matching_routes_if_idle` with the token it draws. -/
def reserveMatchingRoutesIfIdle (coordinator : GatewayTurnCoordinator)
    (token : String) (matcher : RouteKey → Bool) :
    Except String (Option GatewayTurnCoordinator) :=
  if coordinator.closed then
    .error "Gateway 已关闭"
  else if (coordinator.activeRoutes.keys ++
      coordinator.pendingRoutes.keys).any matcher then
    .ok none
  else
    .ok (some
      { coordinator with
        routeBlocks := coordinator.routeBlocks.insert token matcher })

/-- `release_route_block`. -/
def releaseRouteBlock (coordinator : GatewayTurnCoordinator)
    (token : String) : GatewayTurnCoordinator :=
  { coordinator with routeBlocks := coordinator.routeBlocks.erase token }

/-- `_terminal[id] = outbound`, moved to the end of a bounded cache. -/
def recordTerminal (coordinator : GatewayTurnCoordinator) (id : String)
    (outbound : OutboundMessage) : GatewayTurnCoordinator :=
  let terminal :=
    coordinator.terminal.filter (fun entry => entry.1 ≠ id) ++ [(id, outbound)]
  { coordinator with
    terminal := terminal.drop (terminal.length - terminalCacheLimit) }

/-- The reply of `_run_message` to what `run_turn` returned or raised. -/
def reply (message : InboundMessage) (outcome : Except String OutboundMessage) : OutboundMessage :=
  let outbound : OutboundMessage :=
    match outcome with
    | .error exception =>
      { content := "请求失败：" ++ exception
        eventType := "response.error"
        eventId := message.id
        requestId := none
        bindingEpoch := none }
    | .ok outbound => { outbound with eventId := message.id }
  { outbound with
    requestId := some message.id
    bindingEpoch :=
      match message.bindingEpoch with
      | some epoch =>
        if 0 ≤ epoch then some epoch else outbound.bindingEpoch
      | none => outbound.bindingEpoch }

/-- `_run_message` from the end of `run_turn` to the publication. -/
def finishTurn (coordinator : GatewayTurnCoordinator)
    (message : InboundMessage) (outcome : Except String OutboundMessage) :
    GatewayTurnCoordinator :=
  (coordinator.discardInflight message.id).recordTerminal message.id (reply message outcome)

/-- The last section of `close`. -/
def clear (coordinator : GatewayTurnCoordinator) :
    GatewayTurnCoordinator :=
  { coordinator with
    inflight := []
    activeRoutes := Dict.empty
    pendingRoutes := Dict.empty
    routeBlocks := Dict.empty }

end GatewayTurnCoordinator

/-! ## The system around the coordinator -/

/-- Where a dispatched request is. -/
inductive TurnStage where
  /-- a caller awaits `dispatch(message)` -/
  | dispatching
  /-- the adapter has put the message on the inbound bus -/
  | published
  | running
  /-- `close` has cancelled the running turn -/
  | cancelled
  /-- the reply is on the outbound bus -/
  | replied
deriving DecidableEq

/-- A dispatched request that has not been completed. -/
structure Turn where
  request : Request
  stage : TurnStage
deriving DecidableEq

/-- Why a waiting request was removed. -/
inductive Removal where
  | discarded
  | closed
  | dispatchRaised (failed : Request)
  | dispatchCancelled (cancelled : Request)
deriving DecidableEq

/-- How far `close` has come. -/
inductive Phase where
  | serving
  | closing
  | closed
deriving DecidableEq

/-- The coordinator, the live tasks, and the history of the requests. -/
structure GatewayTurns where
  coordinator : GatewayTurnCoordinator
  phase : Phase
  turns : List Turn
  accepted : List Request
  dispatched : List Request
  removed : List (Request × Removal)

namespace GatewayTurns

/-- A coordinator that has just been started. -/
def create : GatewayTurns where
  coordinator := .create
  phase := .serving
  turns := []
  accepted := []
  dispatched := []
  removed := []

/-- `_dispatch` up to its await, if there is a request to dispatch. -/
def dispatchNext (state : GatewayTurns) : Option Request → GatewayTurns
  | none => state
  | some request =>
    { state with
      turns := state.turns ++ [⟨request, .dispatching⟩]
      dispatched := state.dispatched ++ [request] }

/-- The turn moves to another stage. -/
def setStage (state : GatewayTurns) (turn : Turn) (stage : TurnStage) :
    GatewayTurns :=
  { state with
    turns := state.turns.map fun other =>
      if other = turn then { other with stage := stage } else other }

/-- The turn is over. -/
def endTurn (state : GatewayTurns) (turn : Turn) : GatewayTurns :=
  { state with turns := state.turns.filter (· ≠ turn) }

/-- Note the requests that a method has dropped. -/
def remove (state : GatewayTurns) (requests : List Request) (reason : Removal) : GatewayTurns :=
  { state with
    removed := state.removed ++ requests.map fun request => (request, reason) }

/-- What can happen next. -/
inductive Event where
  | submit (message : InboundMessage)
  | dispatchReturned (request : Request)
  | dispatchRaised (request : Request)
  | dispatchCancelled (request : Request)
  /-- `_consume_inbound` takes the message from the bus -/
  | consume (request : Request)
  | finish (request : Request) (outcome : Except String OutboundMessage)
  /-- the reply is delivered and `complete_route_turn` is called -/
  | deliver (request : Request)
  | discardPendingRoute (route : ChannelRoute)
  | reserve (token : String) (matcher : RouteKey → Bool)
  | release (token : String)
  | beginClose
  /-- `close` cancels the running turn of a request -/
  | cancelTurn (request : Request)
  | endClose

/-- Accept a message and queue or dispatch it. -/
def submit (state : GatewayTurns) (message : InboundMessage) :
    GatewayTurns :=
  let request : Request := ⟨state.accepted.length, message⟩
  match state.coordinator.submit request with
  | .raised _ => state
  | .refused => state
  | .queued coordinator =>
    { state with
      coordinator := coordinator
      accepted := state.accepted ++ [request] }
  | .dispatching coordinator =>
    { state with
      coordinator := coordinator
      accepted := state.accepted ++ [request] }.dispatchNext (some request)

/-- The `except` branches of `_dispatch`. -/
def rollback (state : GatewayTurns) (request : Request)
    (advance : Bool) (reason : Removal) : GatewayTurns :=
  let result := state.coordinator.rollbackDispatch request advance
  (({ state with coordinator := result.1 }.endTurn
      ⟨request, .dispatching⟩).remove result.2.2 reason).dispatchNext result.2.1

/-- `complete_route_turn` after the delivery of a reply. -/
def deliver (state : GatewayTurns) (request : Request) : GatewayTurns :=
  let result :=
    state.coordinator.completeRouteTurn request.route request.message.id
  ({ state with coordinator := result.1 }.endTurn
    ⟨request, .replied⟩).dispatchNext result.2

/-- One event of the system. -/
def step (state : GatewayTurns) : Event → Option GatewayTurns
  | .submit message => some (state.submit message)
  | .dispatchReturned request =>
    if ⟨request, .dispatching⟩ ∈ state.turns then
      some (state.setStage ⟨request, .dispatching⟩ .published)
    else
      none
  | .dispatchRaised request =>
    if ⟨request, .dispatching⟩ ∈ state.turns then
      some (state.rollback request true (.dispatchRaised request))
    else
      none
  | .dispatchCancelled request =>
    if ⟨request, .dispatching⟩ ∈ state.turns then
      some (state.rollback request false (.dispatchCancelled request))
    else
      none
  | .consume request =>
    if ⟨request, .published⟩ ∈ state.turns ∧ state.phase = .serving then
      some (state.setStage ⟨request, .published⟩ .running)
    else
      none
  | .finish request outcome =>
    if ⟨request, .running⟩ ∈ state.turns then
      some ({ state with
          coordinator := state.coordinator.finishTurn request.message
              outcome }.setStage ⟨request, .running⟩ .replied)
    else
      none
  | .deliver request =>
    if ⟨request, .replied⟩ ∈ state.turns then
      some (state.deliver request)
    else
      none
  | .discardPendingRoute route =>
    let result := state.coordinator.discardPendingRoute (routeKey route)
    some ({ state with coordinator := result.1 }.remove result.2
      .discarded)
  | .reserve token matcher =>
    match state.coordinator.reserveMatchingRoutesIfIdle token matcher with
    | .ok (some coordinator) =>
      some { state with coordinator := coordinator }
    | _ => some state
  | .release token =>
    some
      { state with
        coordinator := state.coordinator.releaseRouteBlock token }
  | .beginClose =>
    if state.phase = .serving then
      some
        { state with
          coordinator := { state.coordinator with closed := true }
          phase := .closing }
    else
      none
  | .cancelTurn request =>
    if ⟨request, .running⟩ ∈ state.turns ∧ state.phase = .closing then
      some (state.setStage ⟨request, .running⟩ .cancelled)
    else
      none
  | .endClose =>
    if state.phase = .closing ∧
        ∀ turn ∈ state.turns, turn.stage ≠ .running then
      some ({ state with
          coordinator := state.coordinator.clear
          phase := .closed
          turns := state.turns.filter fun turn =>
              turn.stage ≠ TurnStage.cancelled }.remove
            state.coordinator.pendingRoutes.values.flatten .closed)
    else
      none

end GatewayTurns

/-- The coordinator from its start on. -/
def turnMachine : Machine GatewayTurns GatewayTurns.Event where
  initial state := state = GatewayTurns.create
  step := GatewayTurns.step

end TurningGood.Gateway
