import TurningGood.Web.TurnCalls

/-!
# Announced requests

A call that is cancelled, or that has had the lock, keeps the invariant of the
Web turns.  A request whose announcement has been published and that the
gateway accepts begins its trace.
-/

namespace TurningGood.Web

open TurningGood.Foundation
open TurningGood.Gateway

namespace WebTurns

variable {sessions : WebSessions} {state after : WebTurns}

variable {sessionId : String} {call : HubCall} {message : InboundMessage}
  {event : TaskEvent} {rest : List HubCall} {request : Request}

theorem follows_of_type (requestId : String) {type : String} (follows :
      type ≠ "task.queued" ∧ terminalTypes.contains type = false) :
    taskRules.opens ⟨requestId, type⟩ = false ∧
      taskRules.closes ⟨requestId, type⟩ = false :=
  ⟨decide_eq_false follows.1, follows.2⟩

theorem adapterTypes_follow : ∀ type ∈ adapterTypes,
      type ≠ "task.queued" ∧ terminalTypes.contains type = false := by
  decide

theorem finalTypes_follow : ∀ type ∈ finalTypes,
      type ≠ "task.queued" ∧ terminalTypes.contains type = false := by
  decide

theorem closes_terminalType (outbound : WebOutbound) :
    taskRules.closes ⟨outbound.requestId, outbound.terminalType⟩ =
      true := by
  have listed : terminalTypes.contains outbound.terminalType = true := by
    unfold WebOutbound.terminalType
    split_ifs
    · decide
    · decide
    · decide
  exact listed

theorem guidance_follows : "guidance.pending" ≠ "task.queued" ∧
      terminalTypes.contains "guidance.pending" = false := by
  decide

/-! ## A cancelled call -/

/-- Only the hubs, the action lock and the delivery change. -/
structure KeepsTurns (state after : WebTurns) : Prop where
  gateway : after.gateway = state.gateway
  drawn : after.requestIds = state.requestIds
  controls : after.controls = state.controls
  outbound : after.outbound = state.outbound

namespace KeepsTurns

variable (same : state.KeepsTurns after)

include same

theorem accepted (request : Request) :
    after.Accepted request ↔ state.Accepted request := by
  unfold Accepted
  rw [same.gateway]

theorem early (request : Request) :
    after.Early request ↔ state.Early request := by
  unfold Early
  rw [same.gateway]

theorem answered (request : Request) :
    after.Answered request ↔ state.Answered request := by
  unfold Answered
  rw [same.gateway]

theorem subset : state.requestIds ⊆ after.requestIds := same.drawn ▸ List.Subset.refl _

theorem requestsSound (requests : state.RequestsSound sessions) :
    after.RequestsSound sessions :=
  requests.congr same.gateway same.subset

theorem controlsSound (controls : state.ControlsSound) :
    after.ControlsSound := by
  apply controls.congr same.controls
  · intro turn live _
    exact ⟨turn, same.gateway ▸ live, rfl⟩
  · exact fun request => (same.accepted request).mpr

end KeepsTurns

theorem Sound.dropOther (sound : state.Sound sessions) (same : state.KeepsTurns after)
    (delivering : after.delivering = state.delivering)
    (dropped : state.Dropped sessionId call after)
    (other : isDelivery call = false) (follows : ∀ event ∈ call.event?,
      taskRules.opens event = false ∧ taskRules.closes event = false) :
    after.Sound sessions where
  requests := same.requestsSound sound.requests
  controls := same.controlsSound sound.controls
  calls := sound.calls.drop dropped same.subset same.accepted
    fun event publishes => (follows event publishes).1
  mail := by
    apply sound.mail.congr
    · exact same.outbound ▸ List.Subset.refl _
    · exact delivering
    · exact dropped.filter_line other
    · exact fun request => (same.accepted request).mpr
    · exact fun delivery _ => (same.answered _).mpr
  progress := by
    intro request accepted
    apply (sound.progress request ((same.accepted request).mp accepted)).onward (same.early request)
        (same.answered request).mpr
    · exact dropped.trace_open fun event publishes => (follows event publishes).1
    · exact dropped.trace_closed follows
    · exact same.outbound
    · exact delivering

theorem Sound.dropSender (sound : state.Sound sessions) (same : state.KeepsTurns after)
    (delivering : after.delivering = state.delivering) (dropped :
      state.Dropped sessionId (.publish (.sender message) event) after) :
    after.Sound sessions where
  requests := same.requestsSound sound.requests
  controls := same.controlsSound sound.controls
  calls := sound.calls.dropSender dropped same.subset same.accepted
  mail := by
    apply sound.mail.congr
    · exact same.outbound ▸ List.Subset.refl _
    · exact delivering
    · exact dropped.filter_line rfl
    · exact fun request => (same.accepted request).mpr
    · exact fun delivery _ => (same.answered _).mpr
  progress := by
    intro request accepted
    have present := (same.accepted request).mp accepted
    have unsent := sound.calls.unsent sessionId message event dropped.waited
    refine (sound.progress request present).keep (same.early request)
      (same.answered request).mpr ?_ same.outbound delivering
    apply dropped.trace_of_ne
    rintro _ _ ⟨⟩
    rw [unsent.announces]
    exact (unsent.fresh request present).symm

theorem Sound.dropDelivery (sound : state.Sound sessions)
    (same : state.KeepsTurns after) (delivering : after.delivering = none)
    (dropped : state.Dropped sessionId (.publish .delivery event) after)
    (spent : CallSpent state.delivering (.publish .delivery event)) :
    after.Sound sessions := by
  rcases sound.mail.taken_of_call dropped.waited with ⟨delivery, found, _, rfl⟩
  have follows : taskRules.opens delivery.event = false ∧
      taskRules.closes delivery.event = false := by
    rcases spent delivery found with stage | ⟨stage, unfinished⟩
    · unfold Delivery.event
      rw [stage]
      exact follows_of_type _ guidance_follows
    · unfold Delivery.event
      rw [stage]
      have known := sound.mail.types delivery.outbound
        (Or.inr ⟨_, found⟩)
      rcases known.2 with adapter | final
      · exact follows_of_type _ (adapterTypes_follow _ adapter)
      · rw [unfinished] at final
        cases final
  have eventFollows : ∀ event ∈
      HubCall.event? (.publish .delivery delivery.event),
      taskRules.opens event = false ∧ taskRules.closes event = false := by
    rintro _ ⟨⟩
    exact follows
  exact
    { requests := same.requestsSound sound.requests
      controls := same.controlsSound sound.controls
      calls := sound.calls.drop dropped same.subset same.accepted
        fun event publishes => (eventFollows event publishes).1
      mail := sound.mail.dropDelivery dropped (same.outbound ▸ List.Subset.refl _) delivering
        fun request => (same.accepted request).mpr
      progress := by
        intro request accepted
        apply (sound.progress request ((same.accepted request).mp accepted)).undelivered
            (same.early request) (same.answered request).mpr
        · exact dropped.trace_open fun event publishes => (eventFollows event publishes).1
        · exact dropped.trace_closed eventFollows
        · exact same.outbound
        · exact delivering
        · intro other taken stage
          rw [Option.mem_unique taken found] at stage ⊢
          rcases spent delivery found with wrong | ⟨_, unfinished⟩
          · rw [wrong] at stage
            cases stage
          · exact unfinished }

theorem Sound.cancelCall (sound : state.Sound sessions) {position : Nat}
    (keeps : state.KeepsOrder (.cancelCall sessionId position))
    (stepped : state.cancelCall sessionId position = some after) :
    after.Sound sessions := by
  rcases Option.map_eq_some_iff.mp stepped with ⟨call, found, rfl⟩
  rcases split_eraseIdx found with ⟨front, back, whole, erased⟩
  have dropped (next : WebTurns)
      (hubs : next.hubs = Function.update state.hubs sessionId
          { state.hubs sessionId with
            line := (state.hubs sessionId).line.eraseIdx position }) :
      state.Dropped sessionId call next := by
    constructor
    · intro other different
      rw [hubs, Function.update_of_ne different]
    · rw [hubs, Function.update_self]
    · refine ⟨front, back, whole, ?_⟩
      rw [hubs, Function.update_self]
      exact erased
  cases call with
  | subscribe =>
    exact sound.dropOther ⟨rfl, rfl, rfl, rfl⟩ rfl (dropped _ rfl) rfl
      fun _ absurd => nomatch absurd
  | publish caller event =>
    cases caller with
    | sender message =>
      exact sound.dropSender ⟨rfl, rfl, rfl, rfl⟩ rfl (dropped _ rfl)
    | control =>
      refine sound.dropOther ⟨rfl, rfl, rfl, rfl⟩ rfl (dropped _ rfl) rfl ?_
      rintro _ ⟨⟩
      have waited := sound.calls.control sessionId event
        (List.mem_of_getElem? found)
      rcases event with ⟨requestId, type⟩
      rcases waited with rfl | rfl
      · exact follows_of_type requestId (by decide)
      · exact follows_of_type requestId (by decide)
    | delivery =>
      exact sound.dropDelivery ⟨rfl, rfl, rfl, rfl⟩ rfl (dropped _ rfl) (keeps _ found)

theorem CallsSound.front_apart (calls : state.CallsSound sessions)
    {other : String} {second : InboundMessage} {later : TaskEvent} (front :
      (state.hubs sessionId).line = .publish (.sender message) event :: rest) (waits :
      .publish (.sender second) later ∈
        if other = sessionId then rest else (state.hubs other).line) :
    second.id ≠ message.id := by
  intro same
  have first : HubCall.publish (.sender message) event ∈
      (state.hubs sessionId).line := front ▸ List.mem_cons_self
  have own := calls.unsent sessionId message event first
  split_ifs at waits with here
  · have inLine : HubCall.publish (.sender second) later ∈
        (state.hubs sessionId).line :=
      front ▸ List.mem_cons_of_mem _ waits
    have ownToo := calls.unsent sessionId second later inLine
    have alone := own.alone
    unfold trace SessionHub.requested at alone
    have events : (HubCall.publish (.sender message) event ::
        rest).filterMap HubCall.event? =
          event :: rest.filterMap HubCall.event? := rfl
    rw [front, events, List.filter_append, List.filter_cons_of_pos] at alone
    · have listed : later ∈ (rest.filterMap HubCall.event?).filter
          fun event => event.requestId = message.id := by
        apply List.mem_filter.mpr
        refine ⟨List.mem_filterMap.mpr ⟨_, waits, rfl⟩, ?_⟩
        rw [ownToo.announces]
        exact decide_eq_true same
      have lengths := congrArg List.length alone
      simp only [List.length_append, List.length_cons, List.length_nil] at lengths
      have nothing : (rest.filterMap HubCall.event?).filter
          (fun event => event.requestId = message.id) = [] :=
        List.eq_nil_of_length_eq_zero (by omega)
      rw [nothing] at listed
      exact absurd listed List.not_mem_nil
    · rw [own.announces]
      exact decide_eq_true rfl
  · exact here (calls.unsentApart other sessionId second message later event waits
        first same)

theorem CallsSound.leave (calls : state.CallsSound sessions)
    (front : (state.hubs sessionId).line = call :: rest)
    (hubs : after.hubs = (state.leaveLock sessionId call rest).hubs)
    (drawn : state.requestIds ⊆ after.requestIds) (grows : ∀ request,
      state.Accepted request → after.Accepted request)
    (new : ∀ request, after.Accepted request → state.Accepted request ∨
        ∃ message event, call = .publish (.sender message) event ∧
          request.message.id = message.id) (announced : ∀ message event,
      call = .publish (.sender message) event →
        ∃ request, after.Accepted request ∧ sessionOf request = sessionId ∧
          request.message.id = event.requestId) :
    after.CallsSound sessions := by
  have inRest {other : String} {listed : HubCall}
      (member : listed ∈ (after.hubs other).line) :
      listed ∈
        if other = sessionId then rest else (state.hubs other).line := by
    rw [hubs] at member
    split_ifs with here
    · subst other
      rw [hubs_leaveLock_self] at member
      exact member
    · rwa [hubs_leaveLock_of_ne here] at member
  have old {other : String} {listed : HubCall}
      (member : listed ∈ (after.hubs other).line) :
      listed ∈ (state.hubs other).line := by
    rw [hubs] at member
    exact mem_line_of_leaveLock front member
  exact
    { unsent := by
        intro other message event member
        apply (calls.unsent other message event (old member)).congr drawn
        · intro request present
          rcases new request present with before | found
          · exact Or.inl before
          · rcases found with ⟨first, announcement, rfl, same⟩
            right
            rw [same]
            exact (calls.front_apart front (inRest member)).symm
        · rw [trace_congr hubs, trace_leaveLock front]
      unsentApart := fun _ _ _ _ _ _ member others =>
        calls.unsentApart _ _ _ _ _ _ (old member) (old others)
      control := fun other event member =>
        calls.control other event (old member)
      named := by
        intro other event member
        rw [hubs, requested_leaveLock front] at member
        rcases calls.named other event member with ⟨message, waits⟩ | ⟨request, present, own⟩
        · by_cases here : other = sessionId
          · subst other
            rw [front] at waits
            rcases List.mem_cons.mp waits with same | behind
            · exact Or.inr (announced message event same.symm)
            · refine Or.inl ⟨message, ?_⟩
              rw [hubs, hubs_leaveLock_self]
              exact behind
          · refine Or.inl ⟨message, ?_⟩
            rw [hubs, hubs_leaveLock_of_ne here]
            exact waits
        · exact Or.inr ⟨request, grows request present, own⟩ }

theorem filter_line_leaveLock (front : (state.hubs sessionId).line = call :: rest)
    (notDelivery : isDelivery call = false) (other : String) :
    ((state.leaveLock sessionId call rest).hubs other).line.filter isDelivery =
      (state.hubs other).line.filter isDelivery := by
  by_cases here : other = sessionId
  · subst other
    have skipped : ¬ isDelivery call = true := by
      rw [notDelivery]
      exact Bool.false_ne_true
    rw [hubs_leaveLock_self, front, List.filter_cons_of_neg skipped]
  · rw [hubs_leaveLock_of_ne here]

theorem Sound.leaveOther (sound : state.Sound sessions)
    (front : (state.hubs sessionId).line = call :: rest)
    (notDelivery : isDelivery call = false) (notSender : ∀ message event,
      call ≠ .publish (.sender message) event) :
    (state.leaveLock sessionId call rest).Sound sessions where
  requests := sound.requests.congr rfl (List.Subset.refl _)
  controls := sound.controls.congr rfl
    (fun turn live _ => ⟨turn, live, rfl⟩) (fun _ accepted => accepted)
  calls := sound.calls.leave front rfl (List.Subset.refl _)
    (fun _ accepted => accepted) (fun _ accepted => Or.inl accepted)
    (fun message event same => absurd same (notSender message event))
  mail := sound.mail.congr (List.Subset.refl _) rfl
    (filter_line_leaveLock front notDelivery) (fun _ accepted => accepted)
    (fun _ _ answered => answered)
  progress := fun request accepted =>
    (sound.progress request accepted).keep Iff.rfl
      (fun answered => answered) (trace_leaveLock front _ _) rfl rfl

variable {gateway : GatewayTurns}

theorem adopt_nothing (state : WebTurns)
    (dispatched : gateway.dispatched = state.gateway.dispatched) :
    state.adopt gateway = { state with gateway := gateway } := by
  unfold adopt
  rw [dispatched, List.drop_length]
  rfl

theorem foldl_openControl
    {requests : List Request}
    (others : ∀ request ∈ requests, request.channel ≠ "web")
    (next : WebTurns) : requests.foldl openControl next = next := by
  induction requests with
  | nil => rfl
  | cons request rest induction =>
    have notWeb : ¬ isWeb request = true := fun own =>
      others request List.mem_cons_self (isWeb_iff.mp own)
    have unchanged : next.openControl request = next := if_neg notWeb
    rw [List.foldl_cons, unchanged]
    exact induction fun other listed =>
      others other (List.mem_cons_of_mem _ listed)

theorem adopt_others (state : WebTurns) {more : List Request}
    (dispatched : gateway.dispatched = state.gateway.dispatched ++ more)
    (others : ∀ request ∈ more, request.channel ≠ "web") :
    state.adopt gateway = { state with gateway := gateway } := by
  unfold adopt
  rw [dispatched, List.drop_left]
  exact foldl_openControl others _

theorem adopt_one (state : WebTurns) (dispatched :
      gateway.dispatched = state.gateway.dispatched ++ [request])
    (own : request.channel = "web") :
    state.adopt gateway =
      { state with
        gateway := gateway
        controls := state.controls.insert (sessionOf request) request.message.id
        turnControls :=
          state.turnControls.insert request.message.id ⟨[], false⟩ } := by
  unfold adopt
  rw [dispatched, List.drop_left, List.foldl_cons, List.foldl_nil]
  unfold openControl
  rw [if_pos (isWeb_iff.mpr own)]
  rfl

theorem ControlsSound.dispatch (controls : state.ControlsSound)
    (requests : after.RequestsSound sessions)
    (grows : ∀ other, state.Accepted other → after.Accepted other)
    (accepted : after.Accepted request)
    (live : ⟨request, .dispatching⟩ ∈ after.gateway.turns)
    (turns : ∀ turn ∈ after.gateway.turns,
      turn ∈ state.gateway.turns ∨ turn = ⟨request, .dispatching⟩) (inserted :
      after.controls = state.controls.insert (sessionOf request) request.message.id) :
    after.ControlsSound where
  live := by
    intro turn present own
    rw [inserted, Dict.get?_insert]
    split_ifs with same
    · have turnAccepted : after.Accepted turn.request :=
        ⟨requests.turn_accepted present, own⟩
      have route := requests.route_eq turnAccepted accepted same
      have equal := requests.turn_eq present live route
      rw [equal]
    · rcases turns turn present with old | rfl
      · exact controls.live turn old own
      · exact absurd rfl same
  known := by
    intro sessionId requestId found
    rw [inserted, Dict.get?_insert] at found
    split_ifs at found with same
    · cases found
      exact ⟨request, accepted, same.symm, rfl⟩
    · rcases controls.known sessionId requestId found with ⟨other, present, own⟩
      exact ⟨other, grows other present, own⟩

theorem Sound.accept (sound : state.Sound sessions) (front :
      (state.hubs sessionId).line = .publish (.sender message) event :: rest)
    (submits : request.message = message) (consistent : gateway.Consistent)
    (serving : gateway.phase = .serving)
    (joined : GatewayTurns.Joined state.gateway gateway request)
    (afterGateway : after.gateway = gateway) (hubs : after.hubs =
        (state.leaveLock sessionId (.publish (.sender message) event)
          rest).hubs) (drawn : after.requestIds = state.requestIds)
    (outbound : after.outbound = state.outbound)
    (delivering : after.delivering = state.delivering) (controls : after.RequestsSound sessions →
        (∀ other, state.Accepted other → after.Accepted other) →
        after.Accepted request → after.ControlsSound) :
    after.Sound sessions := by
  have waits : HubCall.publish (.sender message) event ∈
      (state.hubs sessionId).line := front ▸ List.mem_cons_self
  have unsent := sound.calls.unsent sessionId message event waits
  have session : sessionOf request = sessionId := by
    unfold sessionOf
    rw [submits, unsent.route]
    rfl
  have own : request.channel = "web" := by
    unfold Request.channel
    rw [submits, unsent.route]
    rfl
  have acceptedIff (other : Request) :
      after.Accepted other ↔ state.Accepted other ∨ other = request := by
    unfold Accepted
    rw [afterGateway, joined.accepted, List.mem_append, List.mem_singleton]
    constructor
    · rintro ⟨old | rfl, channel⟩
      · exact Or.inl ⟨old, channel⟩
      · exact Or.inr rfl
    · rintro (⟨old, channel⟩ | rfl)
      · exact ⟨Or.inl old, channel⟩
      · exact ⟨Or.inr rfl, own⟩
  have grows (other : Request) (present : state.Accepted other) :
      after.Accepted other := (acceptedIff other).mpr (Or.inl present)
  have isNew : after.Accepted request :=
    (acceptedIff request).mpr (Or.inr rfl)
  have different {other : Request} (present : state.Accepted other) :
      other ≠ request := by
    rintro rfl
    exact unsent.fresh other present (congrArg InboundMessage.id submits)
  have answered (other : Request) :
      state.Answered other → after.Answered other := by
    unfold Answered
    rw [afterGateway]
    exact (joined.replied other).mpr
  have traceSame (other requestId : String) :
      after.trace other requestId = state.trace other requestId := by
    rw [trace_congr hubs, trace_leaveLock front]
  have subset : state.requestIds ⊆ after.requestIds :=
    drawn ▸ List.Subset.refl _
  have requests : after.RequestsSound sessions :=
    { consistent := afterGateway ▸ consistent
      submitted := by
        intro other present
        rcases (acceptedIff other).mp present with old | rfl
        · have before := sound.requests.submitted other old
          exact ⟨before.1, subset before.2⟩
        · rw [submits, session]
          exact ⟨unsent.route, subset unsent.drawn⟩
      apart := by
        intro left right leftPresent rightPresent same
        rcases (acceptedIff left).mp leftPresent with old | rfl
        · rcases (acceptedIff right).mp rightPresent with oldToo | rfl
          · exact sound.requests.apart left right old oldToo same
          · rw [submits] at same
            exact absurd same (unsent.fresh left old)
        · rcases (acceptedIff right).mp rightPresent with oldToo | rfl
          · rw [submits] at same
            exact absurd same.symm (unsent.fresh right oldToo)
          · rfl
      kept := by
        rw [afterGateway, joined.removed]
        exact sound.requests.kept
      closing := by
        rw [afterGateway, serving]
        exact fun absurd => (absurd rfl).elim }
  exact
    { requests := requests
      controls := controls requests grows isNew
      calls := by
        apply sound.calls.leave front hubs subset grows
        · intro other present
          rcases (acceptedIff other).mp present with old | rfl
          · exact Or.inl old
          · exact Or.inr ⟨message, event, rfl, congrArg InboundMessage.id submits⟩
        · rintro _ _ ⟨⟩
          refine ⟨request, isNew, session, ?_⟩
          rw [submits, unsent.announces]
      mail := by
        apply sound.mail.congr
        · exact outbound ▸ List.Subset.refl _
        · exact delivering
        · intro other
          rw [hubs]
          exact filter_line_leaveLock front rfl other
        · exact grows
        · exact fun delivery _ => answered _
      progress := by
        intro other present
        rcases (acceptedIff other).mp present with old | rfl
        · have early : after.Early other ↔ state.Early other := by
            unfold Early
            rw [afterGateway]
            exact joined.others other (different old)
          exact (sound.progress other old).keep early (answered other)
            (traceSame _ _) outbound delivering
        · apply Progress.coming
          · unfold Early
            rw [afterGateway]
            exact joined.early
          · rw [traceSame, session, submits, unsent.alone, unsent.announces]
            exact .singleton (opens_queued _) rfl
          · intro mail listed same
            rw [outbound] at listed
            have known := (sound.mail.types mail (Or.inl listed)).1
            exact absurd same (different known)
          · intro delivery taken same
            rw [delivering] at taken
            have known := (sound.mail.types delivery.outbound
              (Or.inr ⟨_, taken⟩)).1
            exact absurd same (different known) }

theorem Sound.adoptSubmitted (sound : state.Sound sessions) (front :
      (state.hubs sessionId).line = .publish (.sender message) event :: rest)
    (admits : GatewayTurns.Admits state.gateway.coordinator message) :
    ((state.leaveLock sessionId (.publish (.sender message) event)
      rest).adopt (state.gateway.submit message)).Sound sessions := by
  rcases GatewayTurns.submit_joined admits with ⟨phase, joined⟩
  have serving : (state.gateway.submit message).phase = .serving := by
    rw [← phase]
    exact sound.requests.consistent.closedFlag admits.1
  have consistent :=
    GatewayTurns.submit_consistent sound.requests.consistent message
  rcases joined.dispatched with same | ⟨started, live⟩
  · have adopted := adopt_nothing
      (state.leaveLock sessionId (.publish (.sender message) event) rest)
      same
    rw [adopted]
    apply sound.accept front rfl consistent serving joined
    · rfl
    · rfl
    · rfl
    · rfl
    · rfl
    · intro _ grows _
      refine sound.controls.congr rfl ?_ grows
      intro turn present _
      rcases joined.turns turn present with old | ⟨_, started⟩
      · exact ⟨turn, old, rfl⟩
      · rw [same] at started
        exact absurd started (by simp)
  · have waits : HubCall.publish (.sender message) event ∈
        (state.hubs sessionId).line := front ▸ List.mem_cons_self
    have unsent := sound.calls.unsent sessionId message event waits
    have own : Request.channel
        ⟨state.gateway.accepted.length, message⟩ = "web" := by
      unfold Request.channel
      rw [unsent.route]
      rfl
    have adopted := adopt_one
      (state.leaveLock sessionId (.publish (.sender message) event) rest)
      started own
    rw [adopted]
    apply sound.accept front rfl consistent serving joined
    · rfl
    · rfl
    · rfl
    · rfl
    · rfl
    · intro requests grows isNew
      apply sound.controls.dispatch requests grows isNew live
      · exact fun turn present =>
          (joined.turns turn present).imp_right And.left
      · rfl

theorem Sound.submit (sound : state.Sound sessions) (front :
      (state.hubs sessionId).line = .publish (.sender message) event :: rest)
    (admits : GatewayTurns.Admits state.gateway.coordinator message) :
    ((state.leaveLock sessionId (.publish (.sender message) event)
      rest).submit message).Sound sessions := by
  have adopted := sound.adoptSubmitted front admits
  have evaluated : state.gateway.coordinator.submit
        ⟨state.gateway.accepted.length, message⟩ ≠ .refused ∧
      ∀ text, state.gateway.coordinator.submit
        ⟨state.gateway.accepted.length, message⟩ ≠ .raised text :=
    admits.not_refused
  unfold WebTurns.submit
  dsimp only
  split
  · rename_i text result
    exact absurd result (evaluated.2 text)
  · rename_i result
    exact absurd result evaluated.1
  · exact adopted.congr rfl rfl rfl rfl rfl rfl
  · exact adopted

end WebTurns
end TurningGood.Web
