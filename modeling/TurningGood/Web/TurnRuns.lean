import TurningGood.Web.TurnDeliveries

/-!
# The event protocol in every run

Every event keeps the invariant of the Web turns when it meets the condition
of the protocol.  A stop that comes while the terminal event waits for the hub
shows what the condition excludes.
-/

namespace TurningGood.Web

open TurningGood.Foundation
open TurningGood.Gateway

namespace WebTurns

variable {sessions : WebSessions} {state after : WebTurns}

variable {event : GatewayTurns.Event}

theorem elsewhere_of_keepsOrder (keeps : state.KeepsOrder (.gateway event))
    (allowed : happensElsewhere event = true) :
    GatewayTurns.Event.Elsewhere "web" event := by
  have notWeb {request : Request} (other : isWeb request = false) :
      request.channel ≠ "web" := by
    intro own
    rw [isWeb_iff.mpr own] at other
    cases other
  cases event with
  | submit message =>
    have other : message.route.channel ≠ "web" :=
      of_decide_eq_true allowed
    exact other
  | dispatchRaised request => exact notWeb keeps
  | dispatchCancelled request => exact notWeb keeps
  | finish request outcome =>
    have other : (!isWeb request) = true := allowed
    exact notWeb ((Bool.not_eq_true' _).mp other)
  | deliver request =>
    have other : (!isWeb request) = true := allowed
    exact notWeb ((Bool.not_eq_true' _).mp other)
  | discardPendingRoute route =>
    have other : route.channel ≠ "web" := of_decide_eq_true allowed
    exact other
  | dispatchReturned _ | consume _ | reserve _ _ | release _
  | beginClose | cancelTurn _ | endClose => trivial

theorem noteDispatch_eq (state : WebTurns) (elsewhere : GatewayTurns.Event.Elsewhere "web" event) :
    ∃ sending,
      state.noteDispatch event = { state with sending := sending } := by
  have notWeb {request : Request} (other : request.channel ≠ "web") :
      ¬ isWeb request = true := fun own => other (isWeb_iff.mp own)
  cases event with
  | dispatchReturned request => exact ⟨_, rfl⟩
  | dispatchRaised request | dispatchCancelled request =>
    unfold noteDispatch
    dsimp only
    rw [if_neg (notWeb elsewhere)]
    exact ⟨_, rfl⟩
  | submit _ | finish _ _ | deliver _ | discardPendingRoute _
  | consume _ | reserve _ _ | release _ | beginClose | cancelTurn _
  | endClose => exact ⟨state.sending, rfl⟩

theorem Sound.gateway (sound : state.Sound sessions) {gateway : GatewayTurns}
    (keeps : state.KeepsOrder (.gateway event))
    (allowed : happensElsewhere event = true)
    (moved : state.gateway.step event = some gateway) :
    ((state.noteDispatch event).adopt gateway).Sound sessions := by
  have elsewhere := elsewhere_of_keepsOrder keeps allowed
  have same := GatewayTurns.step_keepsChannel sound.requests.consistent
    sound.requests.closing elsewhere moved
  rcases same.dispatched with ⟨more, dispatched, others⟩
  rcases noteDispatch_eq state elsewhere with ⟨sending, noted⟩
  have adopted := adopt_others { state with sending := sending }
    dispatched others
  rw [noted, adopted]
  have accepted (request : Request) :
      request ∈ gateway.accepted ∧ request.channel = "web" ↔
        state.Accepted request := by
    unfold Accepted
    exact and_congr_left fun own => same.accepted request own
  have turnBefore {turn : Turn} (live : turn ∈ gateway.turns)
      (own : turn.request.channel = "web") :
      ∃ other ∈ state.gateway.turns, other.request = turn.request := by
    by_cases answered : turn.stage = .replied
    · have replied : ⟨turn.request, .replied⟩ ∈ gateway.turns := by
        rw [← answered]
        exact live
      exact ⟨_, (same.replied turn.request own).mp replied, rfl⟩
    · rcases (same.inProgress turn.request own).mp
        ⟨turn.stage, answered, live⟩ with ⟨stage, _, before⟩
      exact ⟨_, before, rfl⟩
  have closing (ceased : gateway.phase ≠ .serving) :
      ∀ turn ∈ gateway.turns, turn.request.channel ≠ "web" := by
    intro turn live own
    rcases turnBefore live own with ⟨other, before, equal⟩
    rw [← equal] at own
    by_cases serving : state.gateway.phase = .serving
    · by_cases begins : event = .beginClose
      · subst event
        have notWeb := keeps other before
        rw [isWeb_iff.mpr own] at notWeb
        cases notWeb
      · by_cases ends : event = .endClose
        · subst event
          simp only [GatewayTurns.step, Option.ite_none_right_eq_some, serving] at moved
          exact absurd moved.1.1 Phase.noConfusion
        · have phase := GatewayTurns.step_phase moved begins ends
          exact ceased (phase.trans serving)
    · exact sound.requests.closing serving other before own
  exact
    { requests :=
        { consistent :=
            GatewayTurns.step_consistent sound.requests.consistent moved
          submitted := fun request present =>
            sound.requests.submitted request ((accepted request).mp present)
          apart := fun left right leftPresent rightPresent equal =>
            sound.requests.apart left right ((accepted left).mp leftPresent)
              ((accepted right).mp rightPresent) equal
          kept := fun request reason own gone =>
            sound.requests.kept request reason own (same.removed request reason own gone)
          closing := closing }
      controls := sound.controls.congr rfl (fun turn live own => turnBefore live own)
        fun request => (accepted request).mpr
      calls := sound.calls.congr rfl (List.Subset.refl _) accepted
      mail := by
        refine sound.mail.congr (List.Subset.refl _) rfl (fun _ => rfl)
          (fun request => (accepted request).mpr) ?_
        intro delivery taken answered
        have known := (sound.mail.types delivery.outbound
          (Or.inr ⟨_, taken⟩)).1
        exact (same.replied _ known.2).mpr answered
      progress := by
        intro request present
        have before := (accepted request).mp present
        refine (sound.progress request before).keep ?_ ?_ rfl rfl rfl
        · unfold Early GatewayTurns.Early
          exact or_congr (same.waits request before.2) (same.inProgress request before.2)
        · exact (same.replied request before.2).mpr }

theorem step_sound
    {event : Event} (sound : state.Sound sessions)
    (keeps : state.KeepsOrder event)
    (stepped : state.step sessions event = some after) :
    after.Sound sessions := by
  cases event with
  | subscribe sessionId =>
    cases stepped
    exact sound.awaitSubscribe sessionId
  | send sessionId requestId =>
    simp only [WebTurns.step, Option.ite_none_right_eq_some, Option.some.injEq] at stepped
    rcases stepped with ⟨⟨_, fresh⟩, rfl⟩
    exact sound.send fresh
  | sendGuidance sessionId content =>
    cases stepped
    exact sound.sendGuidance keeps
  | stop sessionId =>
    cases stepped
    exact sound.stop keeps
  | serve sessionId => exact sound.serve keeps stepped
  | cancelCall sessionId position => exact sound.cancelCall keeps stepped
  | emit request eventType =>
    simp only [WebTurns.step, Option.ite_none_right_eq_some, Option.some.injEq] at stepped
    rcases stepped with ⟨⟨runs, listed⟩, rfl⟩
    exact sound.emit runs listed
  | consumeGuidance request =>
    simp only [WebTurns.step, Option.ite_none_right_eq_some, Option.some.injEq] at stepped
    rcases stepped with ⟨_, rfl⟩
    unfold WebTurns.consumeGuidance
    split
    · exact sound
    · exact sound.setTurnControl _ _
  | finish request outcome cancelled => exact sound.finish stepped
  | takeOutbound => exact sound.takeOutbound stepped
  | gateway event =>
    simp only [WebTurns.step, Option.ite_none_right_eq_some] at stepped
    rcases stepped with ⟨allowed, mapped⟩
    rcases Option.map_eq_some_iff.mp mapped with ⟨gateway, moved, rfl⟩
    exact sound.gateway keeps allowed moved

theorem create_sound (sessions : WebSessions) : create.Sound sessions where
  requests :=
    { consistent := GatewayTurns.create_consistent
      submitted := fun _ absurd => nomatch absurd.1
      apart := fun _ _ absurd => nomatch absurd.1
      kept := fun _ _ _ => List.not_mem_nil
      closing := fun _ _ absurd => nomatch absurd }
  controls :=
    { live := fun _ absurd => nomatch absurd
      known := fun _ _ absurd => nomatch absurd }
  calls :=
    { unsent := fun _ _ _ absurd => nomatch absurd
      unsentApart := fun _ _ _ _ _ _ absurd => nomatch absurd
      control := fun _ _ absurd => nomatch absurd
      named := fun _ _ absurd => nomatch absurd }
  mail :=
    { types := by
        rintro _ (absurd | ⟨_, absurd⟩)
        · cases absurd
        · cases absurd
      stages := fun _ absurd => nomatch absurd
      answered := fun _ absurd => nomatch absurd
      calls := fun _ => rfl }
  progress := fun _ absurd => nomatch absurd.1

theorem trace_eq_published (state : WebTurns) (sessionId requestId : String) :
    state.trace sessionId requestId = state.published sessionId requestId ++
        ((state.hubs sessionId).line.filterMap HubCall.event?).filter
          fun event => event.requestId = requestId :=
  List.filter_append _ _

theorem Sound.trace_ordered (sound : state.Sound sessions) (sessionId requestId : String) :
    taskRules.Ordered (state.trace sessionId requestId) := by
  cases events : state.trace sessionId requestId with
  | nil => exact .nil
  | cons event rest =>
    have listed : event ∈ state.trace sessionId requestId :=
      events ▸ List.mem_cons_self
    rcases List.mem_filter.mp listed with ⟨requested, own⟩
    rw [← events, ← of_decide_eq_true own]
    rcases sound.calls.named sessionId event requested with
      ⟨message, waits⟩ | ⟨request, accepted, rfl, same⟩
    · have unsent :=
        sound.calls.unsent sessionId message event waits
      have alone := unsent.alone
      rw [unsent.announces] at alone ⊢
      rw [alone]
      have isOpen : taskRules.Open
          [(⟨message.id, "task.queued"⟩ : TaskEvent)] :=
        .singleton (opens_queued _) rfl
      exact isOpen.ordered
    · rw [← same]
      cases sound.progress request accepted with
      | coming _ begun => exact begun.ordered
      | posted _ begun => exact begun.ordered
      | delivered _ begun => exact begun.ordered
      | ended _ closed => exact closed.ordered

theorem Sound.line_unclosed (sound : state.Sound sessions) (idle : state.delivering = none)
    (sessionId requestId : String) :
    (((state.hubs sessionId).line.filterMap HubCall.event?).filter
      fun event => event.requestId = requestId).countP
        taskRules.closes = 0 := by
  rw [List.countP_eq_zero]
  intro event listed closes
  rcases List.mem_filterMap.mp (List.mem_of_mem_filter listed) with ⟨call, waits, publishes⟩
  cases call with
  | subscribe => cases publishes
  | publish caller published =>
    cases publishes
    cases caller with
    | sender message =>
      have unsent :=
        sound.calls.unsent sessionId message event waits
      rw [unsent.announces] at closes
      exact absurd closes Bool.false_ne_true
    | control =>
      have type := sound.calls.control sessionId event waits
      rcases event with ⟨id, eventType⟩
      rcases type with rfl | rfl
      · exact absurd closes Bool.false_ne_true
      · exact absurd closes Bool.false_ne_true
    | delivery =>
      rcases sound.mail.taken_of_call waits with ⟨_, taken, _⟩
      rw [idle] at taken
      cases taken

theorem Sound.closed_of_quiescent (sound : state.Sound sessions) (quiescent : state.Quiescent)
    {sessionId requestId : String}
    (announced : ⟨requestId, "task.queued"⟩ ∈ (state.hubs sessionId).log) :
    taskRules.Closed (state.trace sessionId requestId) := by
  have requested : ⟨requestId, "task.queued"⟩ ∈
      (state.hubs sessionId).requested := List.mem_append_left _ announced
  rcases sound.calls.named sessionId _ requested with
    ⟨message, waits⟩ | ⟨request, accepted, rfl, rfl⟩
  · have unsent := sound.calls.unsent sessionId message _ waits
    have same : requestId = message.id :=
      congrArg TaskEvent.requestId unsent.announces
    subst requestId
    have early : (⟨message.id, "task.queued"⟩ : TaskEvent) ∈
        state.published sessionId message.id :=
      List.mem_filter.mpr ⟨announced, decide_eq_true rfl⟩
    have late : (⟨message.id, "task.queued"⟩ : TaskEvent) ∈
        ((state.hubs sessionId).line.filterMap HubCall.event?).filter
          fun event => event.requestId = message.id :=
      List.mem_filter.mpr ⟨List.mem_filterMap.mpr ⟨_, waits, rfl⟩, decide_eq_true rfl⟩
    have lengths := congrArg List.length unsent.alone
    rw [trace_eq_published, List.length_append, List.length_singleton] at lengths
    have first := List.length_pos_of_mem early
    have second := List.length_pos_of_mem late
    omega
  · cases sound.progress request accepted with
    | coming early =>
      rcases early with waits | ⟨stage, unanswered, live⟩
      · unfold GatewayTurns.Waits at waits
        rw [quiescent.nonePending] at waits
        exact absurd waits List.not_mem_nil
      · rcases quiescent.noTurn _ live with replied | ⟨_, closed⟩
        · exact absurd replied unanswered
        · have ceased : state.gateway.phase ≠ .serving := by
            rw [closed]
            exact nofun
          exact absurd accepted.2 (sound.requests.closing ceased _ live)
    | posted _ _ mail =>
      rcases mail with ⟨before, reply, behind, split, _⟩
      rw [quiescent.noReply.1] at split
      exact absurd split (by simp)
    | delivered _ _ _ taken =>
      rcases taken with ⟨_, taken, _⟩
      rw [quiescent.noReply.2] at taken
      cases taken
    | ended _ closed => exact closed

/--
In every run in which each stop and guidance comes before the terminal event
of its turn is requested, each announced request is accepted and dispatched,
no delivery is cancelled before its terminal event is published, and the
gateway closes without Web turns, the events of every request follow the
protocol.
-/
theorem webTurnRuns_followProtocol (reached : (webTurnMachine sessions).Reaches KeepsOrder state) :
    state.FollowsProtocol := by
  have sound : state.Sound sessions := by
    refine reached.invariant ?_ ?_
    · rintro _ rfl
      exact create_sound sessions
    · intro _ _ _ _ before keeps stepped
      exact step_sound before keeps stepped
  constructor
  · intro sessionId requestId
    apply (sound.trace_ordered sessionId requestId).ofBeginning
    rw [trace_eq_published]
    exact List.prefix_append _ _
  · intro quiescent sessionId requestId announced
    have closed := sound.closed_of_quiescent quiescent announced
    have once := closed.countP_eq_one
    rw [trace_eq_published, List.countP_append, sound.line_unclosed quiescent.noReply.2] at once
    exact once

/-- One conversation for each session. -/
def oneToOne : WebSessions where
  principalId := "owner"
  conversationOf := fun sessionId => sessionId

/-- The first request of a session. -/
def firstRequest : Request where
  serial := 0
  message := ⟨"first", oneToOne.route "session", none⟩

/-- What `run_turn` returns for it. -/
def firstReply : OutboundMessage where
  content := "done"
  eventType := "response.completed"
  eventId := "first"
  requestId := none
  bindingEpoch := none

/-- The turn up to the delivery of its reply. -/
def turnUntilDelivery : List Event :=
  [.send "session" "first", .serve "session",
    .gateway (.dispatchReturned firstRequest),
    .gateway (.consume firstRequest),
    .finish firstRequest (.ok firstReply) false]

/-- A stop during the turn is announced before its end. -/
theorem early_stop_followsProtocol : ∃ state,
      (webTurnMachine oneToOne).runGuarded KeepsOrder create (turnUntilDelivery ++
            [.stop "session", .takeOutbound, .serve "session",
              .serve "session", .serve "session"]) = some state ∧
        (state.published "session" "first").map TaskEvent.type =
          ["task.queued", "task.stopping", "response.completed", "task.completed"] ∧
        state.FollowsProtocol := by
  have follows {state : WebTurns}
      (evaluated : (webTurnMachine oneToOne).runGuarded KeepsOrder create
          (turnUntilDelivery ++ [.stop "session", .takeOutbound, .serve "session",
              .serve "session", .serve "session"]) = some state) :
      state.FollowsProtocol :=
    webTurnRuns_followProtocol (Machine.Reaches.runGuarded (.start rfl) evaluated)
  exact ⟨_, rfl, rfl, follows rfl⟩

/--
A subscriber has the lock of the session when the terminal event is
requested, and a stop that comes then is announced behind it.
-/
theorem late_stop_breaks_protocol : ∃ state,
      (webTurnMachine oneToOne).run create (turnUntilDelivery ++
            [.subscribe "session", .takeOutbound, .subscribe "session",
              .serve "session", .serve "session", .stop "session",
              .serve "session", .serve "session", .serve "session"]) =
        some state ∧
        (state.published "session" "first").map TaskEvent.type =
          ["task.queued", "response.completed", "task.completed", "task.stopping"] ∧
        ¬ state.FollowsProtocol := by
  refine ⟨_, rfl, rfl, ?_⟩
  intro follows
  have quiet := (follows.ordered "session" "first").quietAfterEnd
  exact absurd quiet (by decide)

end WebTurns
end TurningGood.Web
