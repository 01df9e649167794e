import TurningGood.Web.TurnSends

/-!
# Running turns and their deliveries

What a running turn publishes goes over the outbound bus in order, so that its
reply comes last.  The delivery of the reply requests the terminal event,
reports the guidance that is left and gives the route to the next request.
-/

namespace TurningGood.Web

open TurningGood.Foundation
open TurningGood.Gateway

namespace WebTurns

variable {sessions : WebSessions} {state after : WebTurns}

variable {sessionId : String} {event : TaskEvent} {rest : List HubCall}
  {delivery : Delivery} {outbound message : WebOutbound} {request : Request}

/-! ## A delivery goes on -/

theorem filter_leaveDelivery (mail : state.MailSound) (front :
      (state.hubs sessionId).line = .publish .delivery event :: rest)
    (other : String) :
    ((state.leaveLock sessionId (.publish .delivery event)
      rest).hubs other).line.filter isDelivery = [] := by
  have line : (state.hubs sessionId).line =
      [] ++ .publish .delivery event :: rest := front
  rcases mail.only_call line with ⟨_, behind, others⟩
  by_cases same : other = sessionId
  · subst other
    rw [hubs_leaveLock_self]
    exact behind
  · rw [hubs_leaveLock_of_ne same]
    exact others other same

theorem Sound.ended_of_taken (sound : state.Sound sessions)
    (found : state.delivering = some delivery)
    (stage : delivery.stage ≠ .message) :
    ¬ state.Early delivery.outbound.request ∧ taskRules.Closed
        (state.trace (sessionOf delivery.outbound.request) delivery.outbound.request.message.id) ∧
      state.NoMail delivery.outbound.request := by
  have final := sound.mail.stages delivery found stage
  have accepted :=
    (sound.mail.types delivery.outbound (Or.inr ⟨_, found⟩)).1
  cases sound.progress delivery.outbound.request accepted with
  | coming _ _ _ untaken =>
    have unfinished := untaken delivery found rfl
    rw [final] at unfinished
    cases unfinished
  | posted _ _ _ untaken =>
    have unfinished := untaken delivery found rfl
    rw [final] at unfinished
    cases unfinished
  | delivered _ _ _ taken =>
    rcases taken with ⟨outbound, present, _, _⟩
    rw [found] at present
    cases present
    exact absurd rfl stage
  | ended late closed mail _ => exact ⟨late, closed, mail⟩

theorem Sound.begun_of_taken (sound : state.Sound sessions)
    (found : state.delivering = some ⟨outbound, .message⟩)
    (final : outbound.isFinal = true) :
    taskRules.Open (state.trace (sessionOf outbound.request) outbound.request.message.id) ∧
      state.NoMail outbound.request := by
  have accepted := (sound.mail.types outbound (Or.inr ⟨_, found⟩)).1
  cases sound.progress outbound.request accepted with
  | coming _ _ _ untaken =>
    have unfinished : outbound.isFinal = false := untaken _ found rfl
    rw [final] at unfinished
    cases unfinished
  | posted _ _ _ untaken =>
    have unfinished : outbound.isFinal = false := untaken _ found rfl
    rw [final] at unfinished
    cases unfinished
  | delivered _ begun mail _ => exact ⟨begun, mail⟩
  | ended _ _ _ taken => exact absurd rfl (taken _ found rfl)

theorem Progress.redelivered {before now : DeliveryStage} (progress : state.Progress request)
    (found : state.delivering = some ⟨outbound, before⟩)
    (delivering : after.delivering = some ⟨outbound, now⟩)
    (different : request ≠ outbound.request)
    (early : after.Early request ↔ state.Early request)
    (answered : state.Answered request → after.Answered request) (trace :
      after.trace (sessionOf request) request.message.id =
        state.trace (sessionOf request) request.message.id)
    (mail : after.outbound = state.outbound) : after.Progress request := by
  have untaken : after.ReplyUntaken request := by
    intro delivery taken same
    rw [delivering] at taken
    cases taken
    exact absurd same.symm different
  cases progress with
  | coming isEarly isOpen listed _ =>
    refine .coming (early.mpr isEarly) (trace ▸ isOpen) ?_ untaken
    rw [mail]
    exact listed
  | posted isAnswered isOpen listed _ =>
    refine .posted (answered isAnswered) (trace ▸ isOpen) ?_ untaken
    rw [mail]
    exact listed
  | delivered _ _ _ taken =>
    rcases taken with ⟨other, present, same, _⟩
    rw [found] at present
    cases present
    exact absurd same.symm different
  | ended late isClosed listed _ =>
    refine .ended (early.not.mpr late) (trace ▸ isClosed) ?_ ?_
    · unfold NoMail
      rw [mail]
      exact listed
    · intro delivery taken same
      rw [delivering] at taken
      cases taken
      exact absurd same.symm different

theorem deliveryCalls_self (delivery : Delivery) :
    deliveryCalls (some delivery) delivery.outbound.sessionId =
      [.publish .delivery delivery.event] := if_pos rfl

theorem deliveryCalls_of_ne {other : String} (different : other ≠ delivery.outbound.sessionId) :
    deliveryCalls (some delivery) other = [] :=
  if_neg different.symm

theorem calls_awaitDelivery (none : ∀ other, (state.hubs other).line.filter isDelivery = [])
    (delivery : Delivery) (other : String) :
    ((state.awaitDelivery delivery).hubs other).line.filter isDelivery =
      deliveryCalls (some delivery) other := by
  unfold WebTurns.awaitDelivery
  by_cases here : other = delivery.outbound.sessionId
  · subst other
    rw [hubs_await_self, List.filter_append, deliveryCalls_self]
    exact congrArg (· ++ _) (none _)
  · rw [hubs_await_of_ne here, deliveryCalls_of_ne here]
    exact none other

theorem trace_awaitDelivery (state : WebTurns) (delivery : Delivery) :
    (state.awaitDelivery delivery).trace delivery.outbound.sessionId delivery.outbound.requestId =
      state.trace delivery.outbound.sessionId
          delivery.outbound.requestId ++ [delivery.event] := by
  unfold WebTurns.awaitDelivery
  exact trace_await_self rfl

theorem Sound.awaitDelivery (sound : state.Sound sessions)
    {before now : DeliveryStage}
    (found : state.delivering = some ⟨outbound, before⟩) (front :
      (state.hubs outbound.sessionId).line =
        .publish .delivery event :: rest) (final : outbound.isFinal = true)
    (own : ∀ next : WebTurns, next = (state.leaveLock outbound.sessionId (.publish .delivery event)
          rest).awaitDelivery ⟨outbound, now⟩ →
      next.trace outbound.sessionId outbound.requestId =
        state.trace outbound.sessionId outbound.requestId ++ [Delivery.event ⟨outbound, now⟩] →
      next.Progress outbound.request) :
    ((state.leaveLock outbound.sessionId (.publish .delivery event)
      rest).awaitDelivery ⟨outbound, now⟩).Sound sessions := by
  have accepted := (sound.mail.types outbound (Or.inr ⟨_, found⟩)).1
  have left : (state.leaveLock outbound.sessionId
      (.publish .delivery event) rest).CallsSound sessions :=
    sound.calls.leave front rfl (List.Subset.refl _)
      (fun _ present => present) (fun _ present => Or.inl present)
      (fun _ _ absurd => nomatch absurd)
  have taken : WebTurns.CallsSound sessions
      { state.leaveLock outbound.sessionId (.publish .delivery event)
          rest with
        delivering := some ⟨outbound, now⟩ } :=
    left.congr rfl (List.Subset.refl _) fun _ => Iff.rfl
  exact
    { requests := sound.requests.congr rfl (List.Subset.refl _)
      controls := sound.controls.congr rfl
        (fun turn live _ => ⟨turn, live, rfl⟩) (fun _ present => present)
      calls := by
        have follows : HubCaller.Follows .delivery
            (Delivery.event ⟨outbound, now⟩) := trivial
        exact taken.awaitKnown follows accepted rfl
      mail :=
        { types := by
            rintro message (listed | ⟨stage, same⟩)
            · exact sound.mail.types message (Or.inl listed)
            · cases same
              exact sound.mail.types outbound (Or.inr ⟨_, found⟩)
          stages := by
            rintro _ ⟨⟩ _
            exact final
          answered := by
            rintro _ ⟨⟩ _
            exact sound.mail.answered ⟨outbound, before⟩ found final
          calls := calls_awaitDelivery (filter_leaveDelivery sound.mail front) ⟨outbound, now⟩ }
      progress := by
        intro request present
        by_cases same : request = outbound.request
        · subst same
          have grown := trace_awaitDelivery
            (state.leaveLock outbound.sessionId (.publish .delivery event) rest) ⟨outbound, now⟩
          apply own _ rfl
          exact grown.trans (congrArg (· ++ _) (trace_leaveLock front _ _))
        · refine (sound.progress request present).redelivered found rfl
            same Iff.rfl (fun answered => answered) ?_ rfl
          have kept := trace_leaveLock front (sessionOf request)
            request.message.id
          unfold WebTurns.awaitDelivery
          rw [← kept]
          apply trace_await_of_ne
          rintro _ _ ⟨⟩ equal
          apply same
          exact sound.requests.apart request outbound.request present accepted equal.symm }

theorem Sound.awaitTerminal (sound : state.Sound sessions)
    {pending : List String}
    (found : state.delivering = some ⟨outbound, .message⟩) (front :
      (state.hubs outbound.sessionId).line =
        .publish .delivery event :: rest) (final : outbound.isFinal = true) :
    ((state.leaveLock outbound.sessionId (.publish .delivery event)
      rest).awaitDelivery ⟨outbound, .terminal pending⟩).Sound
        sessions := by
  rcases sound.begun_of_taken found final with ⟨begun, mail⟩
  have answered := sound.mail.answered _ found final
  apply sound.awaitDelivery found front final
  rintro next rfl grown
  apply Progress.ended
  · exact sound.requests.not_early answered
  · change taskRules.Closed (WebTurns.trace _ outbound.sessionId outbound.requestId)
    rw [grown]
    apply begun.close
    exact closes_terminalType outbound
  · exact mail
  · rintro _ ⟨⟩ _
    exact nofun

theorem Sound.awaitGuidance (sound : state.Sound sessions)
    {pending : List String}
    (found : state.delivering = some ⟨outbound, .terminal pending⟩) (front :
      (state.hubs outbound.sessionId).line = .publish .delivery event :: rest) :
    ((state.leaveLock outbound.sessionId (.publish .delivery event)
      rest).awaitDelivery ⟨outbound, .guidance⟩).Sound sessions := by
  rcases sound.ended_of_taken found nofun with ⟨late, closed, mail⟩
  have final : outbound.isFinal = true :=
    sound.mail.stages _ found nofun
  apply sound.awaitDelivery found front final
  rintro next rfl grown
  apply Progress.ended
  · exact late
  · change taskRules.Closed (WebTurns.trace _ outbound.sessionId outbound.requestId)
    rw [grown]
    apply closed.append
    · exact guidance_follows.2
    · rfl
  · exact mail
  · rintro _ ⟨⟩ _
    exact nofun

theorem Sound.endMessage (sound : state.Sound sessions)
    (found : state.delivering = some ⟨outbound, .message⟩) (front :
      (state.hubs outbound.sessionId).line = .publish .delivery event :: rest)
    (unfinished : outbound.isFinal = false) :
    WebTurns.Sound sessions
      { state.leaveLock outbound.sessionId (.publish .delivery event)
          rest with
        delivering := none } where
  requests := sound.requests.congr rfl (List.Subset.refl _)
  controls := sound.controls.congr rfl
    (fun turn live _ => ⟨turn, live, rfl⟩) (fun _ present => present)
  calls := sound.calls.leave front rfl (List.Subset.refl _)
    (fun _ present => present) (fun _ present => Or.inl present)
    (fun _ _ absurd => nomatch absurd)
  mail := sound.mail.undelivered (List.Subset.refl _) rfl
    (filter_leaveDelivery sound.mail front) (fun _ present => present)
  progress := by
    intro request present
    have same := trace_leaveLock front (sessionOf request)
      request.message.id
    refine (sound.progress request present).undelivered Iff.rfl
      (fun answered => answered) ?_ ?_ rfl rfl ?_
    · exact fun isOpen => same.symm ▸ isOpen
    · exact fun isClosed => same.symm ▸ isClosed
    · intro delivery taken _
      rw [found] at taken
      cases taken
      exact unfinished

theorem ControlsSound.endTurn (controls : state.ControlsSound)
    (requests : state.RequestsSound sessions)
    (accepted : state.Accepted request) (answered : state.Answered request) :
    ({ state with
      gateway := state.gateway.endTurn ⟨request, .replied⟩ }.popControl
        (sessionOf request)).ControlsSound where
  live := by
    intro turn present own
    rcases GatewayTurns.mem_endTurn_iff.mp present with ⟨live, different⟩
    have other : sessionOf turn.request ≠ sessionOf request := by
      intro same
      apply different
      have turnAccepted : state.Accepted turn.request :=
        ⟨requests.turn_accepted live, own⟩
      exact requests.turn_eq live answered (requests.route_eq turnAccepted accepted same)
    change (state.controls.erase (sessionOf request)).get? _ = _
    rw [Dict.get?_erase_of_ne _ other]
    exact controls.live turn live own
  known := by
    intro sessionId requestId found
    have lookup : (state.controls.erase (sessionOf request)).get?
        sessionId = some requestId := found
    rw [Dict.get?_erase] at lookup
    split_ifs at lookup
    exact controls.known sessionId requestId lookup

theorem Sound.handOn (sound : state.Sound sessions) {stage : DeliveryStage}
    {gateway : GatewayTurns}
    (found : state.delivering = some ⟨outbound, stage⟩)
    (later : stage ≠ .message) (front : (state.hubs outbound.sessionId).line =
        .publish .delivery event :: rest) (consistent : gateway.Consistent)
    (handed : GatewayTurns.HandedOn state.gateway gateway outbound.request)
    (afterGateway : after.gateway = gateway) (hubs : after.hubs =
        (state.leaveLock outbound.sessionId (.publish .delivery event)
          rest).hubs) (drawn : after.requestIds = state.requestIds)
    (mail : after.outbound = state.outbound)
    (delivering : after.delivering = none) (controls : after.RequestsSound sessions →
        (∀ other, state.Accepted other → after.Accepted other) →
        after.ControlsSound) : after.Sound sessions := by
  rcases sound.ended_of_taken found later with ⟨late, closed, noMail⟩
  have final : outbound.isFinal = true := sound.mail.stages _ found later
  have answered : state.Answered outbound.request :=
    sound.mail.answered _ found final
  have accepted := (sound.mail.types outbound (Or.inr ⟨_, found⟩)).1
  have acceptedIff (other : Request) :
      after.Accepted other ↔ state.Accepted other := by
    unfold Accepted
    rw [afterGateway, handed.accepted]
  have subset : state.requestIds ⊆ after.requestIds :=
    drawn ▸ List.Subset.refl _
  have early (other : Request) :
      after.Early other ↔ state.Early other := by
    unfold Early
    rw [afterGateway]
    exact handed.early other
  have traceSame (other requestId : String) :
      after.trace other requestId = state.trace other requestId := by
    rw [trace_congr hubs, trace_leaveLock front]
  have serving : state.gateway.phase = .serving := by
    by_contra ceased
    exact sound.requests.closing ceased _ answered accepted.2
  have requests : after.RequestsSound sessions :=
    { consistent := afterGateway ▸ consistent
      submitted := by
        intro other present
        have before := sound.requests.submitted other
          ((acceptedIff other).mp present)
        exact ⟨before.1, subset before.2⟩
      apart := by
        intro left right leftPresent rightPresent same
        exact sound.requests.apart left right ((acceptedIff left).mp leftPresent)
          ((acceptedIff right).mp rightPresent) same
      kept := by
        rw [afterGateway, handed.removed]
        exact sound.requests.kept
      closing := by
        rw [afterGateway, handed.phase, serving]
        exact fun absurd => (absurd rfl).elim }
  exact
    { requests := requests
      controls := controls requests fun other => (acceptedIff other).mpr
      calls := by
        apply sound.calls.leave front hubs subset
        · exact fun other => (acceptedIff other).mpr
        · exact fun other present =>
            Or.inl ((acceptedIff other).mp present)
        · exact fun _ _ absurd => nomatch absurd
      mail := by
        apply sound.mail.undelivered
        · exact mail ▸ List.Subset.refl _
        · exact delivering
        · intro other
          rw [hubs]
          exact filter_leaveDelivery sound.mail front other
        · exact fun other => (acceptedIff other).mpr
      progress := by
        intro other present
        have before := (acceptedIff other).mp present
        by_cases same : other = outbound.request
        · subst other
          apply Progress.ended
          · exact (early _).not.mpr late
          · rw [traceSame]
            exact closed
          · unfold NoMail
            rw [mail]
            exact noMail
          · rw [delivering]
            exact fun _ absurd => nomatch absurd
        · apply (sound.progress other before).undelivered (early other)
          · unfold Answered
            rw [afterGateway]
            exact (handed.replied other same).mpr
          · rw [traceSame]
            exact fun isOpen => isOpen
          · rw [traceSame]
            exact fun isClosed => isClosed
          · exact mail
          · exact delivering
          · intro delivery taken now
            rw [found] at taken
            cases taken
            exact absurd now later }

theorem Sound.endDelivery (sound : state.Sound sessions)
    {stage : DeliveryStage}
    (found : state.delivering = some ⟨outbound, stage⟩)
    (later : stage ≠ .message) (front : (state.hubs outbound.sessionId).line =
        .publish .delivery event :: rest) :
    ((state.leaveLock outbound.sessionId (.publish .delivery event)
      rest).endDelivery outbound).Sound sessions := by
  have final : outbound.isFinal = true := sound.mail.stages _ found later
  have answered : state.Answered outbound.request :=
    sound.mail.answered _ found final
  have accepted := (sound.mail.types outbound (Or.inr ⟨_, found⟩)).1
  have consistent :=
    GatewayTurns.deliver_consistent sound.requests.consistent answered
  have handed := GatewayTurns.deliver_handedOn sound.requests.consistent
    outbound.request
  have popped := sound.controls.endTurn sound.requests accepted answered
  rcases handed.next with ⟨next, dispatched, turns, nextWaits⟩
  unfold WebTurns.endDelivery
  cases next with
  | none =>
    rw [Option.toList_none, List.append_nil] at dispatched
    have adopted := adopt_nothing
      ({ state.leaveLock outbound.sessionId (.publish .delivery event)
          rest with
        delivering := none }.popControl outbound.sessionId) dispatched
    change (WebTurns.adopt _ (state.gateway.deliver outbound.request)).Sound sessions
    rw [adopted]
    apply sound.handOn found later front consistent handed
    · rfl
    · rfl
    · rfl
    · rfl
    · rfl
    · intro _ grows
      refine popped.congr rfl ?_ grows
      intro turn present _
      rcases turns turn present with old | ⟨_, absurd, _⟩
      · exact ⟨turn, GatewayTurns.mem_endTurn_iff.mpr old, rfl⟩
      · cases absurd
  | some other =>
    have waits := nextWaits other rfl
    have own : other.channel = "web" := by
      rw [Request.channel_of_route_eq waits.2.1]
      exact accepted.2
    have otherAccepted : state.Accepted other :=
      ⟨(sound.requests.consistent.lines.mem_waiting waits.1).1, own⟩
    have adopted := adopt_one
      ({ state.leaveLock outbound.sessionId (.publish .delivery event)
          rest with
        delivering := none }.popControl outbound.sessionId) dispatched
      own
    change (WebTurns.adopt _ (state.gateway.deliver outbound.request)).Sound sessions
    rw [adopted]
    apply sound.handOn found later front consistent handed
    · rfl
    · rfl
    · rfl
    · rfl
    · rfl
    · intro requests grows
      apply popped.dispatch requests grows (grows other otherAccepted)
      · exact waits.2.2
      · intro turn present
        rcases turns turn present with old | ⟨_, same, equal⟩
        · exact Or.inl (GatewayTurns.mem_endTurn_iff.mpr old)
        · cases same
          exact Or.inr equal
      · rfl

theorem Sound.serveDelivery (sound : state.Sound sessions) (front :
      (state.hubs sessionId).line = .publish .delivery event :: rest)
    (found : state.delivering = some delivery) :
    ((state.leaveLock sessionId (.publish .delivery event)
      rest).continueDelivery delivery).Sound sessions := by
  have waits : HubCall.publish .delivery event ∈
      (state.hubs sessionId).line := front ▸ List.mem_cons_self
  rcases sound.mail.taken_of_call waits with ⟨other, taken, rfl, _⟩
  rw [found] at taken
  cases taken
  rcases delivery with ⟨outbound, stage⟩
  unfold WebTurns.continueDelivery
  cases stage with
  | message =>
    dsimp only
    split_ifs with final
    · exact sound.awaitTerminal found front final
    · exact sound.endMessage found front (Bool.eq_false_iff.mpr final)
  | terminal pending =>
    dsimp only
    split_ifs with empty
    · exact sound.endDelivery found (by rintro ⟨⟩) front
    · exact sound.awaitGuidance found front
  | guidance => exact sound.endDelivery found (by rintro ⟨⟩) front

theorem Sound.serve (sound : state.Sound sessions) (keeps : state.KeepsOrder (.serve sessionId))
    (stepped : state.serve sessionId = some after) : after.Sound sessions := by
  unfold WebTurns.serve at stepped
  cases front : (state.hubs sessionId).line with
  | nil =>
    rw [front] at stepped
    cases stepped
  | cons call rest =>
    rw [front] at stepped
    have admitted : CallAdmitted state.gateway.coordinator call := by
      apply keeps call
      rw [front]
      rfl
    cases call with
    | subscribe =>
      cases stepped
      exact sound.leaveOther front rfl fun _ _ => nofun
    | publish caller event =>
      cases caller with
      | sender message =>
        cases stepped
        exact sound.submit front admitted
      | control =>
        cases stepped
        exact sound.leaveOther front rfl fun _ _ => nofun
      | delivery =>
        rcases Option.map_eq_some_iff.mp stepped with ⟨delivery, found, rfl⟩
        exact sound.serveDelivery front found

theorem Progress.afterMail (progress : state.Progress request)
    (different : message.request ≠ request)
    (early : after.Early request ↔ state.Early request)
    (answered : state.Answered request → after.Answered request)
    (hubs : after.hubs = state.hubs)
    (outbound : after.outbound = state.outbound ++ [message])
    (delivering : after.delivering = state.delivering) :
    after.Progress request := by
  have trace := trace_congr hubs (sessionOf request) request.message.id
  have noMail (none : state.NoMail request) : after.NoMail request := by
    intro other listed
    rw [outbound] at listed
    rcases List.mem_append.mp listed with old | new
    · exact none other old
    · rw [List.mem_singleton.mp new]
      exact different
  cases progress with
  | coming isEarly isOpen mail untaken =>
    refine .coming (early.mpr isEarly) (trace ▸ isOpen) ?_ ?_
    · intro other listed same
      rw [outbound] at listed
      rcases List.mem_append.mp listed with old | new
      · exact mail other old same
      · rw [List.mem_singleton.mp new] at same
        exact absurd same different
    · unfold ReplyUntaken
      rw [delivering]
      exact untaken
  | posted isAnswered isOpen mail untaken =>
    refine .posted (answered isAnswered) (trace ▸ isOpen) ?_ ?_
    · rcases mail with ⟨before, reply, behind, split, own⟩
      refine ⟨before, reply, behind ++ [message], ?_, own.1, own.2.1, own.2.2.1, ?_⟩
      · rw [outbound, split, List.append_assoc, List.cons_append]
      · intro other listed
        rcases List.mem_append.mp listed with old | new
        · exact own.2.2.2 other old
        · rw [List.mem_singleton.mp new]
          exact different
    · unfold ReplyUntaken
      rw [delivering]
      exact untaken
  | delivered isAnswered isOpen mail taken =>
    refine .delivered (answered isAnswered) (trace ▸ isOpen) (noMail mail) ?_
    rw [delivering]
    exact taken
  | ended late isClosed mail taken =>
    refine .ended (early.not.mpr late) (trace ▸ isClosed) (noMail mail) ?_
    rw [delivering]
    exact taken

theorem MailSound.append (mail : state.MailSound) (accepted : ∀ request,
      state.Accepted request → after.Accepted request) (answered : ∀ request,
      state.Answered request → after.Answered request)
    (hubs : after.hubs = state.hubs)
    (outbound : after.outbound = state.outbound ++ [message])
    (delivering : after.delivering = state.delivering)
    (known : state.Accepted message.request)
    (type : message.eventType ∈ adapterTypes ∨ message.isFinal = true) :
    after.MailSound where
  types := by
    intro other present
    rw [outbound, delivering] at present
    rcases present with listed | taken
    · rcases List.mem_append.mp listed with old | new
      · have before := mail.types other (Or.inl old)
        exact ⟨accepted _ before.1, before.2⟩
      · rw [List.mem_singleton.mp new]
        exact ⟨accepted _ known, type⟩
    · have before := mail.types other (Or.inr taken)
      exact ⟨accepted _ before.1, before.2⟩
  stages := delivering ▸ mail.stages
  answered := by
    rw [delivering]
    exact fun delivery taken final =>
      answered _ (mail.answered delivery taken final)
  calls := by
    rw [hubs, delivering]
    exact mail.calls

theorem Sound.accepted_of_runs (sound : state.Sound sessions)
    (runs : state.Runs request) : state.Accepted request :=
  ⟨sound.requests.turn_accepted runs.1, isWeb_iff.mp runs.2⟩

theorem adapterTypes_unfinished : ∀ type ∈ adapterTypes, finalTypes.contains type = false := by
  decide

theorem Sound.emit (sound : state.Sound sessions) {eventType : String}
    (runs : state.Runs request) (listed : eventType ∈ adapterTypes) :
    WebTurns.Sound sessions
      { state with
        outbound := state.outbound ++ [⟨request, eventType, false⟩] } := by
  have accepted := sound.accepted_of_runs runs
  have live : state.gateway.InProgress request := ⟨.running, nofun, runs.1⟩
  exact
    { requests := sound.requests.congr rfl (List.Subset.refl _)
      controls := sound.controls.congr rfl
        (fun turn live _ => ⟨turn, live, rfl⟩) (fun _ present => present)
      calls := sound.calls.congr rfl (List.Subset.refl _) fun _ => Iff.rfl
      mail := sound.mail.append (fun _ present => present)
        (fun _ answered => answered) rfl rfl rfl accepted (Or.inl listed)
      progress := by
        intro other present
        have progress := sound.progress other present
        by_cases same : request = other
        · subst other
          rcases sound.requests.coming_of_inProgress live progress with ⟨begun, mail, untaken⟩
          refine .coming (Or.inr live) begun ?_ untaken
          intro message member own
          rcases List.mem_append.mp member with old | new
          · exact mail message old own
          · rw [List.mem_singleton.mp new]
            exact adapterTypes_unfinished eventType listed
        · exact progress.afterMail same Iff.rfl (fun answered => answered) rfl rfl rfl }

theorem mem_turns_answer {gateway : GatewayTurns} {other : Request}
    {stage : TurnStage} (different : other ≠ request) :
    ⟨other, stage⟩ ∈ (gateway.setStage ⟨request, .running⟩ .replied).turns ↔
      ⟨other, stage⟩ ∈ gateway.turns := by
  rw [GatewayTurns.mem_setStage_iff]
  constructor
  · rintro (⟨old, _⟩ | ⟨_, same⟩)
    · exact old
    · exact absurd (congrArg Turn.request same) different
  · intro old
    exact Or.inl ⟨old, fun same => different (congrArg Turn.request same)⟩

theorem Sound.finish (sound : state.Sound sessions)
    {outcome : Except String OutboundMessage} {cancelled : Bool}
    (stepped : state.finish request outcome cancelled = some after) :
    after.Sound sessions := by
  unfold WebTurns.finish at stepped
  rw [Option.ite_none_right_eq_some] at stepped
  rcases stepped with ⟨⟨own, final⟩, mapped⟩
  rcases Option.map_eq_some_iff.mp mapped with ⟨gateway, moved, rfl⟩
  have consistent :=
    GatewayTurns.step_consistent sound.requests.consistent moved
  simp only [GatewayTurns.step, Option.ite_none_right_eq_some, Option.some.injEq] at moved
  rcases moved with ⟨live, rfl⟩
  have runs : state.Runs request := ⟨live, own⟩
  have accepted := sound.accepted_of_runs runs
  have inProgress : state.gateway.InProgress request :=
    ⟨.running, (by rintro ⟨⟩), live⟩
  have answered : ⟨request, .replied⟩ ∈
      (state.gateway.setStage ⟨request, .running⟩ .replied).turns :=
    GatewayTurns.mem_setStage_iff.mpr (Or.inr ⟨live, rfl⟩)
  have stays (other : Request) (before : state.Answered other) :
      ⟨other, .replied⟩ ∈ (state.gateway.setStage ⟨request, .running⟩ .replied).turns := by
    by_cases same : other = request
    · subst other
      exact answered
    · exact (mem_turns_answer same).mpr before
  have turnBefore (turn : Turn)
      (present : turn ∈ (state.gateway.setStage ⟨request, .running⟩ .replied).turns) :
      ∃ other ∈ state.gateway.turns, other.request = turn.request := by
    rcases GatewayTurns.mem_setStage_iff.mp present with ⟨old, _⟩ | ⟨_, same⟩
    · exact ⟨turn, old, rfl⟩
    · exact ⟨_, live, same ▸ rfl⟩
  have serving : state.gateway.phase = .serving := by
    by_contra ceased
    exact sound.requests.closing ceased _ live accepted.2
  exact
    { requests :=
        { sound.requests with
          consistent := consistent
          closing := fun ceased => absurd serving ceased }
      controls := sound.controls.congr rfl (fun turn present _ => turnBefore turn present)
        (fun _ present => present)
      calls := sound.calls.congr rfl (List.Subset.refl _) fun _ => Iff.rfl
      mail := sound.mail.append (fun _ present => present) stays rfl rfl rfl accepted (Or.inr final)
      progress := by
        intro other present
        have progress := sound.progress other present
        by_cases same : request = other
        · subst other
          rcases sound.requests.coming_of_inProgress inProgress progress with ⟨begun, mail, untaken⟩
          refine .posted answered begun ?_ untaken
          exact ⟨state.outbound, _, [], rfl, rfl, final, mail,
            fun _ absurd => by cases absurd⟩
        · refine progress.afterMail same ?_ (stays other) rfl rfl rfl
          unfold Early GatewayTurns.Early
          apply or_congr Iff.rfl
          apply exists_congr
          intro stage
          exact and_congr_right fun _ =>
            mem_turns_answer (Ne.symm same) }

theorem Progress.nextMail {rest : List WebOutbound} (progress : state.Progress request)
    (front : state.outbound = message :: rest)
    (untouched : message.request ≠ request ∨ message.isFinal = false)
    (early : after.Early request ↔ state.Early request)
    (answered : state.Answered request → after.Answered request) (begun :
      taskRules.Open (state.trace (sessionOf request) request.message.id) →
        taskRules.Open (after.trace (sessionOf request) request.message.id))
    (closed : message.request ≠ request → after.trace (sessionOf request) request.message.id =
        state.trace (sessionOf request) request.message.id)
    (outbound : after.outbound = rest) (idle : state.delivering = none)
    (delivering : after.delivering = none ∨ after.delivering = some ⟨message, .message⟩) :
    after.Progress request := by
  have untaken : after.ReplyUntaken request := by
    intro delivery taken same
    rcases delivering with none | some
    · rw [none] at taken
      cases taken
    · rw [some] at taken
      cases taken
      rcases untouched with different | unfinished
      · exact absurd same different
      · exact unfinished
  have fewer {other : WebOutbound} (listed : other ∈ after.outbound) :
      other ∈ state.outbound := by
    rw [outbound] at listed
    rw [front]
    exact List.mem_cons_of_mem _ listed
  have different (none : state.NoMail request) :
      message.request ≠ request :=
    none message (front ▸ List.mem_cons_self)
  cases progress with
  | coming isEarly isOpen mail _ =>
    exact .coming (early.mpr isEarly) (begun isOpen)
      (fun other listed => mail other (fewer listed)) untaken
  | posted isAnswered isOpen mail _ =>
    refine .posted (answered isAnswered) (begun isOpen) ?_ untaken
    rcases mail with ⟨before, reply, behind, split, own, final, clear⟩
    cases before with
    | nil =>
      rw [front] at split
      cases split
      rcases untouched with other | unfinished
      · exact absurd own other
      · rw [final] at unfinished
        cases unfinished
    | cons first before =>
      rw [front] at split
      cases split
      refine ⟨before, reply, behind, outbound, own, final, ?_, clear.2⟩
      exact fun other listed =>
        clear.1 other (List.mem_cons_of_mem _ listed)
  | delivered _ _ _ taken =>
    rcases taken with ⟨_, present, _⟩
    rw [idle] at present
    cases present
  | ended late isClosed mail _ =>
    refine .ended (early.not.mpr late) ?_ (fun other listed => mail other (fewer listed)) ?_
    · rw [closed (different mail)]
      exact isClosed
    · intro delivery taken same
      rcases delivering with none | some
      · rw [none] at taken
        cases taken
      · rw [some] at taken
        cases taken
        exact absurd same (different mail)

theorem Sound.front_reply (sound : state.Sound sessions)
    {rest : List WebOutbound} (front : state.outbound = message :: rest)
    (final : message.isFinal = true) :
    state.Answered message.request ∧ taskRules.Open
        (state.trace (sessionOf message.request) message.request.message.id) ∧
      ∀ other ∈ rest, other.request ≠ message.request := by
  have listed : message ∈ state.outbound := front ▸ List.mem_cons_self
  have accepted := (sound.mail.types message (Or.inl listed)).1
  cases sound.progress message.request accepted with
  | coming _ _ mail _ =>
    have unfinished := mail message listed rfl
    rw [final] at unfinished
    cases unfinished
  | posted answered begun mail _ =>
    rcases mail with ⟨before, reply, behind, split, own, _, clear⟩
    rw [front] at split
    cases before with
    | nil =>
      cases split
      exact ⟨answered, begun, clear.2⟩
    | cons first before =>
      cases split
      have unfinished := clear.1 message List.mem_cons_self rfl
      rw [final] at unfinished
      cases unfinished
  | delivered _ _ mail _ => exact absurd rfl (mail message listed)
  | ended _ _ mail _ => exact absurd rfl (mail message listed)

theorem Sound.skipMail (sound : state.Sound sessions)
    {rest : List WebOutbound} (front : state.outbound = message :: rest)
    (idle : state.delivering = none) (unfinished : message.isFinal = false) :
    WebTurns.Sound sessions { state with outbound := rest } where
  requests := sound.requests.congr rfl (List.Subset.refl _)
  controls := sound.controls.congr rfl
    (fun turn live _ => ⟨turn, live, rfl⟩) (fun _ present => present)
  calls := sound.calls.congr rfl (List.Subset.refl _) fun _ => Iff.rfl
  mail := by
    refine sound.mail.congr ?_ rfl (fun _ => rfl)
      (fun _ present => present) (fun _ _ answered => answered)
    rw [front]
    exact List.subset_cons_self _ _
  progress := fun request present =>
    (sound.progress request present).nextMail front (Or.inr unfinished)
      Iff.rfl (fun answered => answered) (fun isOpen => isOpen)
      (fun _ => rfl) rfl idle (Or.inl idle)

theorem Sound.takeMail (sound : state.Sound sessions)
    {rest : List WebOutbound} (front : state.outbound = message :: rest)
    (idle : state.delivering = none) :
    ({ state with outbound := rest }.awaitDelivery
      ⟨message, .message⟩).Sound sessions := by
  have listed : message ∈ state.outbound := front ▸ List.mem_cons_self
  have known := sound.mail.types message (Or.inl listed)
  have taken : WebTurns.CallsSound sessions
      { state with
        outbound := rest, delivering := some ⟨message, .message⟩ } :=
    sound.calls.congr rfl (List.Subset.refl _) fun _ => Iff.rfl
  have unclosed :
      taskRules.closes (Delivery.event ⟨message, .message⟩) = false := by
    rcases known.2 with adapter | final
    · exact (follows_of_type message.requestId (adapterTypes_follow _ adapter)).2
    · have finalType : message.eventType ∈ finalTypes :=
        List.contains_iff_mem.mp final
      exact (follows_of_type message.requestId (finalTypes_follow _ finalType)).2
  have nothing (other : String) :
      (state.hubs other).line.filter isDelivery = [] := by
    rw [sound.mail.calls other, idle]
    rfl
  exact
    { requests := sound.requests.congr rfl (List.Subset.refl _)
      controls := sound.controls.congr rfl
        (fun turn live _ => ⟨turn, live, rfl⟩) (fun _ present => present)
      calls := by
        have follows : HubCaller.Follows .delivery
            (Delivery.event ⟨message, .message⟩) := trivial
        exact taken.awaitKnown follows known.1 rfl
      mail :=
        { types := by
            rintro other (present | ⟨stage, same⟩)
            · apply sound.mail.types other
              left
              rw [front]
              exact List.mem_cons_of_mem _ present
            · cases same
              exact known
          stages := by
            rintro _ ⟨⟩ later
            exact absurd rfl later
          answered := by
            rintro _ ⟨⟩ final
            exact (sound.front_reply front final).1
          calls := calls_awaitDelivery nothing ⟨message, .message⟩ }
      progress := by
        intro request present
        have progress := sound.progress request present
        have grown := trace_awaitDelivery
          { state with outbound := rest } ⟨message, .message⟩
        by_cases same : message.request = request
        · subst request
          have opened
              (isOpen : taskRules.Open (state.trace (sessionOf message.request)
                  message.request.message.id)) :
              taskRules.Open (({ state with outbound := rest }.awaitDelivery
                  ⟨message, .message⟩).trace (sessionOf message.request)
                    message.request.message.id) := by
            change taskRules.Open (WebTurns.trace _ message.sessionId message.requestId)
            rw [grown]
            exact isOpen.append unclosed
          cases final : message.isFinal with
          | true =>
            rcases sound.front_reply front final with ⟨answered, begun, clear⟩
            exact .delivered answered (opened begun) clear ⟨message, rfl, rfl, final⟩
          | false =>
            exact progress.nextMail front (Or.inr final) Iff.rfl (fun answered => answered) opened
              (fun different => absurd rfl different) rfl idle
              (Or.inr rfl)
        · have kept : ({ state with outbound := rest }.awaitDelivery
              ⟨message, .message⟩).trace (sessionOf request) request.message.id =
              state.trace (sessionOf request) request.message.id := by
            unfold WebTurns.awaitDelivery
            apply trace_await_of_ne
            rintro _ _ ⟨⟩ equal
            apply same
            exact sound.requests.apart message.request request known.1 present equal
          exact progress.nextMail front (Or.inl same) Iff.rfl
            (fun answered => answered) (fun isOpen => kept ▸ isOpen)
            (fun _ => kept) rfl idle (Or.inr rfl) }

theorem Sound.takeOutbound (sound : state.Sound sessions)
    (stepped : state.takeOutbound = some after) :
    after.Sound sessions := by
  unfold WebTurns.takeOutbound at stepped
  split at stepped
  · rename_i message rest idle front
    split_ifs at stepped with control
    · cases stepped
      exact sound.takeMail front idle
    · cases stepped
      apply sound.skipMail front idle
      apply Bool.eq_false_iff.mpr
      intro final
      apply control
      have answered := (sound.front_reply front final).1
      have listed : message ∈ state.outbound :=
        front ▸ List.mem_cons_self
      have known := sound.mail.types message (Or.inl listed)
      exact sound.controls.live _ answered known.1.2
  · cases stepped

end WebTurns
end TurningGood.Web
