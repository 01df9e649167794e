import TurningGood.Foundation.ClosedTrace
import TurningGood.Gateway.ChannelFrame
import TurningGood.Web.TurnEvents

/-!
# The event protocol of a Web turn

The events of a request start with `task.queued`, have one terminal event and
nothing of the running turn behind it.  The coordinator publishes more than
that allows: it announces a request before the gateway has accepted it, and
the control of a turn stays in place while its terminal event waits for the
hub, so that a stop or guidance that comes then is announced after the end.

This module states the protocol and the condition on the steps, and an
invariant that says of every Web request where it is and what has been
published for it.
-/

namespace TurningGood.Web

open TurningGood.Foundation
open TurningGood.Gateway

/-- `task.queued`, the terminal events, and what may not follow them. -/
def taskRules : TraceRules TaskEvent where
  opens event := event.type = "task.queued"
  closes event := terminalTypes.contains event.type
  barred event := ["task.status", "task.stopping", "response.delta"].contains event.type

/-- The published events of a hub and those that wait for its lock. -/
def SessionHub.requested (hub : SessionHub) : List TaskEvent :=
  hub.log ++ hub.line.filterMap HubCall.event?

namespace WebTurns

variable {request : Request}

/-- The published events of a request in a session. -/
def published (state : WebTurns) (sessionId requestId : String) :
    List TaskEvent :=
  (state.hubs sessionId).log.filter fun event =>
    event.requestId = requestId

/--
No turn is live and no request is pending: nothing is dispatching or running,
no reply is on its way, and a message that an adapter puts on the bus after
the close stays there.
-/
structure Quiescent (state : WebTurns) : Prop where
  settled : state.gateway.phase ≠ .closing
  noTurn : ∀ turn ∈ state.gateway.turns, turn.stage = .replied ∨
      turn.stage = .published ∧ state.gateway.phase = .closed
  noReply : state.outbound = [] ∧ state.delivering = none
  nonePending : ∀ route, state.gateway.coordinator.pending route = []

/--
The published events of every request are in order, and in a quiescent state
every request that was announced has exactly one terminal event.
-/
structure FollowsProtocol (state : WebTurns) : Prop where
  ordered : ∀ sessionId requestId, taskRules.Ordered (state.published sessionId requestId)
  ended : state.Quiescent → ∀ sessionId requestId,
    ⟨requestId, "task.queued"⟩ ∈ (state.hubs sessionId).log →
      (state.published sessionId requestId).countP taskRules.closes = 1

/-! ## The condition on the steps -/

/-- The terminal event of the request has not been requested. -/
def Unended (state : WebTurns) (sessionId requestId : String) : Prop :=
  ∀ event ∈ (state.hubs sessionId).requested,
    event.requestId = requestId → taskRules.closes event = false

/-- The gateway accepts what the call submits next. -/
def CallAdmitted (coordinator : GatewayTurnCoordinator) : HubCall → Prop
  | .publish (.sender message) _ =>
    GatewayTurns.Admits coordinator message
  | .publish .control _ | .publish .delivery _ | .subscribe => True

/-- A delivery that ends with the call has published its terminal event. -/
def CallSpent (delivering : Option Delivery) : HubCall → Prop
  | .publish .delivery _ =>
    ∀ delivery ∈ delivering, delivery.stage = .guidance ∨
        delivery.stage = .message ∧ delivery.outbound.isFinal = false
  | .publish (.sender _) _ | .publish .control _ | .subscribe => True

/--
A stop or guidance comes before the terminal event of its turn is requested;
the gateway accepts what has been announced and dispatches it without a
failure; no delivery is cancelled before its terminal event is published; and
the gateway begins to close without Web turns.
-/
def KeepsOrder (state : WebTurns) : Event → Prop
  | .sendGuidance sessionId _ | .stop sessionId =>
    ∀ requestId ∈ state.controls.get? sessionId, state.Unended sessionId requestId
  | .serve sessionId =>
    ∀ call ∈ (state.hubs sessionId).line.head?, CallAdmitted state.gateway.coordinator call
  | .cancelCall sessionId position =>
    ∀ call ∈ (state.hubs sessionId).line[position]?, CallSpent state.delivering call
  | .gateway (.dispatchRaised request)
  | .gateway (.dispatchCancelled request) => isWeb request = false
  | .gateway .beginClose =>
    ∀ turn ∈ state.gateway.turns, isWeb turn.request = false
  | _ => True

instance (state : WebTurns) (sessionId requestId : String) :
    Decidable (state.Unended sessionId requestId) :=
  inferInstanceAs (Decidable (∀ _ ∈ _, _))

instance (coordinator : GatewayTurnCoordinator) (call : HubCall) :
    Decidable (CallAdmitted coordinator call) :=
  match call with
  | .publish (.sender _) _ =>
    inferInstanceAs (Decidable (GatewayTurns.Admits _ _))
  | .publish .control _ | .publish .delivery _ | .subscribe =>
    inferInstanceAs (Decidable True)

instance (delivering : Option Delivery) (call : HubCall) :
    Decidable (CallSpent delivering call) :=
  match call with
  | .publish .delivery _ => inferInstanceAs (Decidable (∀ _ ∈ _, _))
  | .publish (.sender _) _ | .publish .control _ | .subscribe =>
    inferInstanceAs (Decidable True)

instance (state : WebTurns) (event : Event) :
    Decidable (state.KeepsOrder event) :=
  match event with
  | .sendGuidance _ _ | .stop _ | .serve _ | .cancelCall _ _ =>
    inferInstanceAs (Decidable (∀ _ ∈ _, _))
  | .gateway (.dispatchRaised _) | .gateway (.dispatchCancelled _) =>
    inferInstanceAs (Decidable (_ = _))
  | .gateway .beginClose => inferInstanceAs (Decidable (∀ _ ∈ _, _))
  | .gateway (.submit _) | .gateway (.dispatchReturned _)
  | .gateway (.consume _) | .gateway (.finish _ _)
  | .gateway (.deliver _) | .gateway (.discardPendingRoute _)
  | .gateway (.reserve _ _) | .gateway (.release _)
  | .gateway (.cancelTurn _) | .gateway .endClose
  | .subscribe _ | .send _ _ | .emit _ _ | .consumeGuidance _
  | .finish _ _ _ | .takeOutbound => inferInstanceAs (Decidable True)

/-! ## Where a request is -/

/-- The session of a request. -/
def sessionOf (request : Request) : String := request.message.route.sessionId

/-- What has been published or waits to be published for a request. -/
def trace (state : WebTurns) (sessionId requestId : String) :
    List TaskEvent :=
  (state.hubs sessionId).requested.filter fun event =>
    event.requestId = requestId

/-- The gateway has accepted the request, which came from the Web. -/
def Accepted (state : WebTurns) (request : Request) : Prop :=
  request ∈ state.gateway.accepted ∧ request.channel = "web"

/-- The request waits, or its turn has not been answered. -/
def Early (state : WebTurns) (request : Request) : Prop := state.gateway.Early request

/-- The turn of the request has been answered. -/
def Answered (state : WebTurns) (request : Request) : Prop :=
  ⟨request, .replied⟩ ∈ state.gateway.turns

/-- The reply of the request is not being delivered. -/
def ReplyUntaken (state : WebTurns) (request : Request) : Prop :=
  ∀ delivery ∈ state.delivering, delivery.outbound.request = request →
    delivery.outbound.isFinal = false

/-- Nothing of the request is on the outbound bus. -/
def NoMail (state : WebTurns) (request : Request) : Prop :=
  ∀ outbound ∈ state.outbound, outbound.request ≠ request

/-- Where an accepted request is, and what has been requested for it. -/
inductive Progress (state : WebTurns) (request : Request) : Prop where
  | coming (early : state.Early request)
      (begun : taskRules.Open (state.trace (sessionOf request) request.message.id))
      (mail : ∀ outbound ∈ state.outbound, outbound.request = request → outbound.isFinal = false)
      (untaken : state.ReplyUntaken request)
  | posted (answered : state.Answered request)
      (begun : taskRules.Open (state.trace (sessionOf request) request.message.id))
      (mail : ∃ before reply after, state.outbound = before ++ reply :: after ∧
          reply.request = request ∧ reply.isFinal = true ∧
          (∀ outbound ∈ before, outbound.request = request → outbound.isFinal = false) ∧
          ∀ outbound ∈ after, outbound.request ≠ request)
      (untaken : state.ReplyUntaken request)
  | delivered (answered : state.Answered request)
      (begun : taskRules.Open (state.trace (sessionOf request) request.message.id))
      (mail : state.NoMail request)
      (taken : ∃ outbound, state.delivering = some ⟨outbound, .message⟩ ∧
        outbound.request = request ∧ outbound.isFinal = true)
  | ended (late : ¬ state.Early request)
      (closed : taskRules.Closed (state.trace (sessionOf request) request.message.id))
      (mail : state.NoMail request)
      (taken : ∀ delivery ∈ state.delivering,
        delivery.outbound.request = request → delivery.stage ≠ .message)

/-! ## Invariant -/

/-- The Web requests in the gateway. -/
structure RequestsSound (sessions : WebSessions) (state : WebTurns) :
    Prop where
  consistent : state.gateway.Consistent
  submitted : ∀ request, state.Accepted request →
    request.message.route = sessions.route (sessionOf request) ∧
      request.message.id ∈ state.requestIds
  apart : ∀ request other, state.Accepted request →
    state.Accepted other → request.message.id = other.message.id → request = other
  kept : ∀ request reason, request.channel = "web" → (request, reason) ∉ state.gateway.removed
  closing : state.gateway.phase ≠ .serving →
    ∀ turn ∈ state.gateway.turns, turn.request.channel ≠ "web"

/-- Every turn has its control, and every control belongs to a request. -/
structure ControlsSound (state : WebTurns) : Prop where
  live : ∀ turn ∈ state.gateway.turns, turn.request.channel = "web" →
    state.controls.get? (sessionOf turn.request) = some turn.request.message.id
  known : ∀ sessionId requestId, state.controls.get? sessionId = some requestId →
      ∃ request, state.Accepted request ∧
        sessionOf request = sessionId ∧ request.message.id = requestId

/-- A message that `send` has announced or is about to announce. -/
structure Unsent (sessions : WebSessions) (state : WebTurns)
    (sessionId : String) (message : InboundMessage) (event : TaskEvent) :
    Prop where
  announces : event = ⟨message.id, "task.queued"⟩
  route : message.route = sessions.route sessionId
  drawn : message.id ∈ state.requestIds
  fresh : ∀ request, state.Accepted request → request.message.id ≠ message.id
  alone : state.trace sessionId message.id = [event]

/-- The calls that wait for the hubs. -/
structure CallsSound (sessions : WebSessions) (state : WebTurns) :
    Prop where
  unsent : ∀ sessionId message event,
    .publish (.sender message) event ∈ (state.hubs sessionId).line →
      state.Unsent sessions sessionId message event
  unsentApart : ∀ sessionId other message second event later,
    .publish (.sender message) event ∈ (state.hubs sessionId).line →
      .publish (.sender second) later ∈ (state.hubs other).line →
      message.id = second.id → sessionId = other
  control : ∀ sessionId event, .publish .control event ∈ (state.hubs sessionId).line →
      event.type = "task.status" ∨ event.type = "task.stopping"
  named : ∀ sessionId, ∀ event ∈ (state.hubs sessionId).requested, (∃ message,
        .publish (.sender message) event ∈ (state.hubs sessionId).line) ∨
      ∃ request, state.Accepted request ∧ sessionOf request = sessionId ∧
        request.message.id = event.requestId

/-- The call that a delivery waits with, by session. -/
def deliveryCalls (delivering : Option Delivery) (sessionId : String) :
    List HubCall :=
  match delivering with
  | none => []
  | some delivery =>
    if delivery.outbound.sessionId = sessionId then
      [.publish .delivery delivery.event]
    else
      []

/-- The call is one of `deliver`. -/
def isDelivery : HubCall → Bool
  | .publish .delivery _ => true
  | .publish (.sender _) _ | .publish .control _ | .subscribe => false

/-- The messages that are on their way, and the delivery that waits. -/
structure MailSound (state : WebTurns) : Prop where
  types : ∀ outbound, (outbound ∈ state.outbound ∨
        ∃ stage, state.delivering = some ⟨outbound, stage⟩) →
      state.Accepted outbound.request ∧
        (outbound.eventType ∈ adapterTypes ∨ outbound.isFinal = true)
  stages : ∀ delivery ∈ state.delivering,
    delivery.stage ≠ .message → delivery.outbound.isFinal = true
  answered : ∀ delivery ∈ state.delivering, delivery.outbound.isFinal = true →
      state.Answered delivery.outbound.request
  calls : ∀ sessionId, (state.hubs sessionId).line.filter isDelivery =
      deliveryCalls state.delivering sessionId

/-- What holds between two events. -/
structure Sound (sessions : WebSessions) (state : WebTurns) : Prop where
  requests : state.RequestsSound sessions
  controls : state.ControlsSound
  calls : state.CallsSound sessions
  mail : state.MailSound
  progress : ∀ request, state.Accepted request → state.Progress request

variable {sessions : WebSessions} {state : WebTurns}

theorem isWeb_iff :
    isWeb request = true ↔ request.channel = "web" := decide_eq_true_iff

theorem RequestsSound.turn_accepted (sound : state.RequestsSound sessions) {turn : Turn}
    (live : turn ∈ state.gateway.turns) :
    turn.request ∈ state.gateway.accepted :=
  sound.consistent.lines.mem_started (sound.consistent.turnsDispatched turn live)

theorem RequestsSound.turn_eq (sound : state.RequestsSound sessions) {turn other : Turn}
    (live : turn ∈ state.gateway.turns)
    (otherLive : other ∈ state.gateway.turns)
    (same : turn.request.route = other.request.route) : turn = other := by
  have slot := sound.consistent.slots other.request.route
  have only := slot.turn_eq (GatewayTurns.mem_turnsOn otherLive)
  have member : turn ∈ state.gateway.turnsOn other.request.route :=
    List.mem_filter.mpr ⟨live, decide_eq_true same⟩
  rw [only] at member
  exact List.mem_singleton.mp member

theorem RequestsSound.route_eq (sound : state.RequestsSound sessions)
    {other : Request} (accepted : state.Accepted request)
    (otherAccepted : state.Accepted other)
    (same : sessionOf request = sessionOf other) :
    request.route = other.route := by
  unfold Request.route
  rw [(sound.submitted request accepted).1, (sound.submitted other otherAccepted).1, same]

theorem RequestsSound.not_early (sound : state.RequestsSound sessions)
    (answered : state.Answered request) : ¬ state.Early request := by
  rintro (waits | ⟨stage, unanswered, live⟩)
  · exact sound.consistent.lines.waiting_not_started waits
      (sound.consistent.turnsDispatched _ answered)
  · have same := sound.turn_eq live answered rfl
    exact unanswered (congrArg Turn.stage same)

theorem RequestsSound.coming_of_inProgress (sound : state.RequestsSound sessions)
    (live : state.gateway.InProgress request)
    (progress : state.Progress request) :
    taskRules.Open (state.trace (sessionOf request) request.message.id) ∧
      (∀ outbound ∈ state.outbound, outbound.request = request → outbound.isFinal = false) ∧
      state.ReplyUntaken request := by
  cases progress with
  | coming _ begun mail untaken => exact ⟨begun, mail, untaken⟩
  | posted answered =>
    exact absurd (Or.inr live) (sound.not_early answered)
  | delivered answered =>
    exact absurd (Or.inr live) (sound.not_early answered)
  | ended late => exact absurd (Or.inr live) late

end WebTurns
end TurningGood.Web
