import TurningGood.Web.TurnProtocol

/-!
# Calls of the hubs and the event protocol

A call that queues up adds its event to the trace of one request, a call that
has had the lock leaves every trace as it is, and a cancelled call takes its
event out of one trace.  Steps that leave the hubs alone keep what is known of
the calls.
-/

namespace TurningGood.Web

open TurningGood.Foundation
open TurningGood.Gateway

namespace WebTurns

variable {sessions : WebSessions} {state : WebTurns}

variable {sessionId other requestId : String} {call : HubCall}
  {event : TaskEvent} {caller : HubCaller} {request : Request}

theorem opens_queued (requestId : String) :
    taskRules.opens ⟨requestId, "task.queued"⟩ = true := by
  simp [taskRules]

/-! ## A call queues up -/

theorem hubs_await_self (sessionId : String) (call : HubCall) :
    (state.await sessionId call).hubs sessionId =
      { state.hubs sessionId with
        line := (state.hubs sessionId).line ++ [call] } :=
  Function.update_self _ _ _

theorem hubs_await_of_ne (different : other ≠ sessionId) (call : HubCall) :
    (state.await sessionId call).hubs other = state.hubs other :=
  Function.update_of_ne different _ _

theorem mem_line_await {listed : HubCall} :
    listed ∈ ((state.await sessionId call).hubs other).line ↔ listed ∈ (state.hubs other).line ∨
        other = sessionId ∧ listed = call := by
  by_cases same : other = sessionId
  · subst other
    rw [hubs_await_self]
    simp
  · rw [hubs_await_of_ne same]
    simp [same]

theorem requested_await (sessionId : String) (call : HubCall) :
    ((state.await sessionId call).hubs sessionId).requested =
      (state.hubs sessionId).requested ++ call.event?.toList := by
  rw [hubs_await_self]
  unfold SessionHub.requested
  rw [List.filterMap_append, ← List.append_assoc]
  cases call with
  | subscribe => rfl
  | publish caller event => rfl

theorem mem_requested_await : event ∈ ((state.await sessionId call).hubs other).requested ↔
      event ∈ (state.hubs other).requested ∨
        other = sessionId ∧ call.event? = some event := by
  by_cases same : other = sessionId
  · subst other
    rw [requested_await, List.mem_append, Option.mem_toList]
    simp
  · rw [hubs_await_of_ne same]
    simp [same]

theorem trace_await_self (own : event.requestId = requestId) :
    (state.await sessionId (.publish caller event)).trace sessionId requestId =
      state.trace sessionId requestId ++ [event] := by
  unfold trace
  rw [requested_await, List.filter_append]
  simp [HubCall.event?, own]

theorem trace_await_of_ne (different : other = sessionId →
      ∀ event ∈ call.event?, event.requestId ≠ requestId) :
    (state.await sessionId call).trace other requestId =
      state.trace other requestId := by
  unfold trace
  by_cases same : other = sessionId
  · subst other
    rw [requested_await, List.filter_append]
    have none : call.event?.toList.filter
        (fun event => event.requestId = requestId) = [] := by
      rw [List.filter_eq_nil_iff]
      intro event listed
      have ne := different rfl event (Option.mem_toList.mp listed)
      simp [ne]
    rw [none, List.append_nil]
  · rw [hubs_await_of_ne same]

variable {sessionId : String} {call : HubCall} {rest : List HubCall}

theorem hubs_leaveLock_of_ne (different : other ≠ sessionId) :
    (state.leaveLock sessionId call rest).hubs other = state.hubs other :=
  Function.update_of_ne different _ _

theorem hubs_leaveLock_self : (state.leaveLock sessionId call rest).hubs sessionId =
      { line := rest
        log := (state.hubs sessionId).log ++ call.event?.toList } :=
  Function.update_self _ _ _

theorem requested_leaveLock (front : (state.hubs sessionId).line = call :: rest) (other : String) :
    ((state.leaveLock sessionId call rest).hubs other).requested =
      (state.hubs other).requested := by
  by_cases same : other = sessionId
  · subst other
    rw [hubs_leaveLock_self]
    unfold SessionHub.requested
    have split : (call :: rest).filterMap HubCall.event? =
        call.event?.toList ++ rest.filterMap HubCall.event? := by
      cases call with
      | subscribe => rfl
      | publish caller event => rfl
    rw [front, split, List.append_assoc]
  · rw [hubs_leaveLock_of_ne same]

theorem trace_leaveLock (front : (state.hubs sessionId).line = call :: rest)
    (other requestId : String) :
    (state.leaveLock sessionId call rest).trace other requestId =
      state.trace other requestId := by
  unfold trace
  rw [requested_leaveLock front]

theorem mem_line_of_leaveLock
    (front : (state.hubs sessionId).line = call :: rest) {listed : HubCall}
    (member : listed ∈ ((state.leaveLock sessionId call rest).hubs other).line) :
    listed ∈ (state.hubs other).line := by
  by_cases same : other = sessionId
  · subst other
    rw [hubs_leaveLock_self] at member
    rw [front]
    exact List.mem_cons_of_mem _ member
  · rwa [hubs_leaveLock_of_ne same] at member

/-! ## What other steps keep -/

variable {after : WebTurns}

theorem Progress.onward (progress : state.Progress request)
    (early : after.Early request ↔ state.Early request)
    (answered : state.Answered request → after.Answered request) (begun :
      taskRules.Open (state.trace (sessionOf request) request.message.id) → taskRules.Open
          (after.trace (sessionOf request) request.message.id)) (closed :
      taskRules.Closed (state.trace (sessionOf request) request.message.id) →
        taskRules.Closed (after.trace (sessionOf request) request.message.id))
    (outbound : after.outbound = state.outbound)
    (delivering : after.delivering = state.delivering) :
    after.Progress request := by
  cases progress with
  | coming isEarly isOpen mail untaken =>
    refine .coming (early.mpr isEarly) (begun isOpen) ?_ ?_
    · rw [outbound]
      exact mail
    · unfold ReplyUntaken
      rw [delivering]
      exact untaken
  | posted isAnswered isOpen mail untaken =>
    refine .posted (answered isAnswered) (begun isOpen) ?_ ?_
    · rw [outbound]
      exact mail
    · unfold ReplyUntaken
      rw [delivering]
      exact untaken
  | delivered isAnswered isOpen mail taken =>
    refine .delivered (answered isAnswered) (begun isOpen) ?_ ?_
    · unfold NoMail
      rw [outbound]
      exact mail
    · rw [delivering]
      exact taken
  | ended late isClosed mail taken =>
    refine .ended (early.not.mpr late) (closed isClosed) ?_ ?_
    · unfold NoMail
      rw [outbound]
      exact mail
    · rw [delivering]
      exact taken

theorem Progress.keep (progress : state.Progress request)
    (early : after.Early request ↔ state.Early request)
    (answered : state.Answered request → after.Answered request) (trace :
      after.trace (sessionOf request) request.message.id =
        state.trace (sessionOf request) request.message.id)
    (outbound : after.outbound = state.outbound)
    (delivering : after.delivering = state.delivering) :
    after.Progress request :=
  progress.onward early answered (fun isOpen => trace ▸ isOpen)
    (fun isClosed => trace ▸ isClosed) outbound delivering

theorem trace_congr (hubs : after.hubs = state.hubs) (sessionId requestId : String) :
    after.trace sessionId requestId = state.trace sessionId requestId := by
  unfold trace
  rw [hubs]

theorem Unsent.congr {message : InboundMessage}
    (unsent : state.Unsent sessions sessionId message event)
    (drawn : state.requestIds ⊆ after.requestIds)
    (accepted : ∀ request, after.Accepted request →
      state.Accepted request ∨ request.message.id ≠ message.id) (alone :
      after.trace sessionId message.id = state.trace sessionId message.id) :
    after.Unsent sessions sessionId message event where
  announces := unsent.announces
  route := unsent.route
  drawn := drawn unsent.drawn
  fresh := by
    intro request present
    rcases accepted request present with old | different
    · exact unsent.fresh request old
    · exact different
  alone := alone.trans unsent.alone

theorem CallsSound.congr (calls : state.CallsSound sessions) (hubs : after.hubs = state.hubs)
    (drawn : state.requestIds ⊆ after.requestIds)
    (accepted : ∀ request, after.Accepted request ↔ state.Accepted request) :
    after.CallsSound sessions where
  unsent := by
    intro sessionId message event member
    rw [hubs] at member
    exact (calls.unsent sessionId message event member).congr drawn
      (fun request present => Or.inl ((accepted request).mp present))
      (trace_congr hubs _ _)
  unsentApart := by
    rw [hubs]
    exact calls.unsentApart
  control := by
    rw [hubs]
    exact calls.control
  named := by
    intro sessionId event member
    rw [hubs] at member ⊢
    rcases calls.named sessionId event member with unsent | known
    · exact Or.inl unsent
    · rcases known with ⟨request, present, own⟩
      exact Or.inr ⟨request, (accepted request).mpr present, own⟩

theorem RequestsSound.congr (requests : state.RequestsSound sessions)
    (gateway : after.gateway = state.gateway)
    (drawn : state.requestIds ⊆ after.requestIds) :
    after.RequestsSound sessions where
  consistent := gateway ▸ requests.consistent
  submitted := by
    intro request accepted
    unfold Accepted at accepted
    rw [gateway] at accepted
    have before := requests.submitted request accepted
    exact ⟨before.1, drawn before.2⟩
  apart := by
    unfold Accepted
    rw [gateway]
    exact requests.apart
  kept := gateway ▸ requests.kept
  closing := gateway ▸ requests.closing

theorem ControlsSound.congr (controls : state.ControlsSound)
    (same : after.controls = state.controls)
    (turns : ∀ turn ∈ after.gateway.turns, turn.request.channel = "web" →
        ∃ other ∈ state.gateway.turns, other.request = turn.request)
    (accepted : ∀ request, state.Accepted request → after.Accepted request) :
    after.ControlsSound where
  live := by
    intro turn live own
    rcases turns turn live own with ⟨other, present, equal⟩
    rw [same, ← equal]
    exact controls.live other present (equal ▸ own)
  known := by
    intro sessionId requestId found
    rw [same] at found
    rcases controls.known sessionId requestId found with ⟨request, present, own⟩
    exact ⟨request, accepted request present, own⟩

theorem MailSound.congr (mail : state.MailSound) (outbound : after.outbound ⊆ state.outbound)
    (delivering : after.delivering = state.delivering)
    (lines : ∀ sessionId, (after.hubs sessionId).line.filter isDelivery =
        (state.hubs sessionId).line.filter isDelivery)
    (accepted : ∀ request, state.Accepted request → after.Accepted request)
    (answered : ∀ delivery ∈ state.delivering, state.Answered delivery.outbound.request →
        after.Answered delivery.outbound.request) :
    after.MailSound where
  types := by
    intro message present
    rw [delivering] at present
    have before :
        message ∈ state.outbound ∨ ∃ stage, state.delivering = some ⟨message, stage⟩ :=
      present.imp_left fun listed => outbound listed
    have known := mail.types message before
    exact ⟨accepted _ known.1, known.2⟩
  stages := delivering ▸ mail.stages
  answered := by
    rw [delivering]
    intro delivery taken final
    exact answered delivery taken (mail.answered delivery taken final)
  calls := by
    intro sessionId
    rw [lines, delivering]
    exact mail.calls sessionId

/-- The caller is not `send`. -/
def HubCaller.Follows (caller : HubCaller) (event : TaskEvent) : Prop :=
  match caller with
  | .sender _ => False
  | .control => event.type = "task.status" ∨ event.type = "task.stopping"
  | .delivery => True

theorem CallsSound.awaitKnown (calls : state.CallsSound sessions)
    (follows : HubCaller.Follows caller event)
    (accepted : state.Accepted request)
    (own : event.requestId = request.message.id) :
    (state.await (sessionOf request) (.publish caller event)).CallsSound sessions := by
  have notNew {message : InboundMessage} {listed : TaskEvent}
      (same : HubCall.publish (.sender message) listed =
        .publish caller event) : False := by
    cases same
    exact follows
  have old {sessionId : String} {message : InboundMessage}
      {listed : TaskEvent}
      (member : .publish (.sender message) listed ∈ ((state.await (sessionOf request)
            (.publish caller event)).hubs sessionId).line) :
      .publish (.sender message) listed ∈ (state.hubs sessionId).line := by
    rcases mem_line_await.mp member with before | ⟨_, new⟩
    · exact before
    · exact absurd new notNew
  exact
    { unsent := by
        intro sessionId message listed member
        have unsent := calls.unsent sessionId message listed (old member)
        apply unsent.congr
        · exact List.Subset.refl _
        · exact fun _ present => Or.inl present
        · apply trace_await_of_ne
          rintro _ _ ⟨⟩
          rw [own]
          exact unsent.fresh request accepted
      unsentApart := by
        intro sessionId other message second first later member others
        exact calls.unsentApart sessionId other message second first later
          (old member) (old others)
      control := by
        intro sessionId listed member
        rcases mem_line_await.mp member with before | ⟨_, new⟩
        · exact calls.control sessionId listed before
        · cases new
          exact follows
      named := by
        intro sessionId listed member
        rcases mem_requested_await.mp member with before | ⟨here, new⟩
        · rcases calls.named sessionId listed before with ⟨message, waits⟩ | known
          · exact Or.inl ⟨message, mem_line_await.mpr (Or.inl waits)⟩
          · exact Or.inr known
        · cases new
          exact Or.inr ⟨request, accepted, here.symm, own.symm⟩ }

theorem trace_await_other (requests : state.RequestsSound sessions)
    {other : Request} (accepted : state.Accepted request)
    (otherAccepted : state.Accepted other)
    (own : event.requestId = request.message.id) (different : other ≠ request) :
    (state.await (sessionOf request) (.publish caller event)).trace
        (sessionOf other) other.message.id =
      state.trace (sessionOf other) other.message.id := by
  apply trace_await_of_ne
  rintro _ _ ⟨⟩ same
  apply different
  exact requests.apart other request otherAccepted accepted (same.symm.trans own)

/-! ## A stop or guidance -/

theorem filter_line_await (other : isDelivery call = false) (query : String) :
    ((state.await sessionId call).hubs query).line.filter isDelivery =
      (state.hubs query).line.filter isDelivery := by
  by_cases same : query = sessionId
  · subst query
    rw [hubs_await_self, List.filter_append, List.filter_singleton, other]
    exact List.append_nil _
  · rw [hubs_await_of_ne same]

theorem Sound.awaitSubscribe (sound : state.Sound sessions) (sessionId : String) :
    (state.await sessionId .subscribe).Sound sessions where
  requests := sound.requests.congr rfl (List.Subset.refl _)
  controls := sound.controls.congr rfl
    (fun turn live _ => ⟨turn, live, rfl⟩) (fun _ accepted => accepted)
  calls := by
    have old {other : String} {caller : HubCaller} {event : TaskEvent}
        (member : .publish caller event ∈ ((state.await sessionId .subscribe).hubs other).line) :
        .publish caller event ∈ (state.hubs other).line := by
      rcases mem_line_await.mp member with before | ⟨_, new⟩
      · exact before
      · cases new
    have same (other requestId : String) :
        (state.await sessionId .subscribe).trace other requestId =
          state.trace other requestId :=
      trace_await_of_ne fun _ _ absurd => nomatch absurd
    exact
      { unsent := fun other message event member =>
          (sound.calls.unsent other message event (old member)).congr
            (List.Subset.refl _) (fun _ present => Or.inl present)
            (same _ _)
        unsentApart := fun _ _ _ _ _ _ member others =>
          sound.calls.unsentApart _ _ _ _ _ _ (old member) (old others)
        control := fun other event member =>
          sound.calls.control other event (old member)
        named := by
          intro other event member
          rcases mem_requested_await.mp member with before | ⟨_, new⟩
          · rcases sound.calls.named other event before with ⟨message, waits⟩ | known
            · exact Or.inl ⟨message, mem_line_await.mpr (Or.inl waits)⟩
            · exact Or.inr known
          · cases new }
  mail := sound.mail.congr (List.Subset.refl _) rfl
    (filter_line_await rfl) (fun _ accepted => accepted)
    (fun _ _ answered => answered)
  progress := fun request accepted =>
    (sound.progress request accepted).keep Iff.rfl (fun answered => answered)
      (trace_await_of_ne fun _ _ absurd => nomatch absurd) rfl rfl

theorem Sound.congr (sound : state.Sound sessions) (gateway : after.gateway = state.gateway)
    (hubs : after.hubs = state.hubs)
    (drawn : after.requestIds = state.requestIds)
    (controls : after.controls = state.controls)
    (outbound : after.outbound = state.outbound)
    (delivering : after.delivering = state.delivering) :
    after.Sound sessions := by
  have subset : state.requestIds ⊆ after.requestIds :=
    drawn ▸ List.Subset.refl _
  have accepted (request : Request) :
      after.Accepted request ↔ state.Accepted request := by
    unfold Accepted
    rw [gateway]
  have answered (request : Request) :
      state.Answered request → after.Answered request := by
    unfold Answered
    rw [gateway]
    exact fun answered => answered
  exact
    { requests := sound.requests.congr gateway subset
      controls := by
        apply sound.controls.congr controls
        · intro turn live _
          exact ⟨turn, gateway ▸ live, rfl⟩
        · exact fun request => (accepted request).mpr
      calls := sound.calls.congr hubs subset accepted
      mail := by
        apply sound.mail.congr
        · exact outbound ▸ List.Subset.refl _
        · exact delivering
        · exact fun _ => hubs ▸ rfl
        · exact fun request => (accepted request).mpr
        · exact fun _ _ => answered _
      progress := by
        intro request present
        have early : after.Early request ↔ state.Early request := by
          unfold Early
          rw [gateway]
        exact (sound.progress request ((accepted request).mp present)).keep
          early (answered request) (trace_congr hubs _ _) outbound
          delivering }

theorem Closed.exists_closes
    {events : List TaskEvent} (closed : taskRules.Closed events) :
    ∃ event ∈ events, taskRules.closes event = true := by
  rcases closed with ⟨before, last, rest, rfl, _, closes, _⟩
  exact ⟨last, List.mem_append_right _ List.mem_cons_self, closes⟩

theorem Sound.awaitControl (sound : state.Sound sessions)
    (accepted : state.Accepted request) {type : String}
    (announces : type = "task.status" ∨ type = "task.stopping") (unended :
      state.Unended (sessionOf request) request.message.id) :
    (state.await (sessionOf request)
      (.publish .control ⟨request.message.id, type⟩)).Sound sessions where
  requests := sound.requests.congr rfl (List.Subset.refl _)
  controls := sound.controls.congr rfl
    (fun turn live _ => ⟨turn, live, rfl⟩) (fun _ accepted => accepted)
  calls := sound.calls.awaitKnown announces accepted rfl
  mail := sound.mail.congr (List.Subset.refl _) rfl
    (filter_line_await rfl) (fun _ accepted => accepted)
    (fun _ _ answered => answered)
  progress := by
    intro other otherAccepted
    have progress := sound.progress other otherAccepted
    by_cases same : other = request
    · subst other
      have grown : (state.await (sessionOf request)
          (.publish .control ⟨request.message.id, type⟩)).trace
            (sessionOf request) request.message.id =
          state.trace (sessionOf request) request.message.id ++
            [⟨request.message.id, type⟩] := trace_await_self rfl
      refine progress.onward Iff.rfl (fun answered => answered) ?_ ?_ rfl rfl
      · intro isOpen
        rw [grown]
        apply isOpen.append
        rcases announces with rfl | rfl
        · rfl
        · rfl
      · intro isClosed
        rcases Closed.exists_closes isClosed with ⟨event, listed, closes⟩
        rcases List.mem_filter.mp listed with ⟨requested, own⟩
        rw [unended event requested (of_decide_eq_true own)] at closes
        cases closes
    · exact progress.keep Iff.rfl (fun answered => answered)
        (trace_await_other sound.requests accepted otherAccepted rfl same)
        rfl rfl

theorem Sound.setTurnControl (sound : state.Sound sessions) (requestId : String)
    (control : WebTurnControl) :
    (state.setTurnControl requestId control).Sound sessions :=
  sound.congr rfl rfl rfl rfl rfl rfl

theorem Sound.sendGuidance (sound : state.Sound sessions) {content : String}
    (keeps : state.KeepsOrder (.sendGuidance sessionId content)) :
    (state.sendGuidance sessionId content).Sound sessions := by
  unfold WebTurns.sendGuidance
  split
  · exact sound
  · rename_i requestId found
    split_ifs with blank
    · exact sound
    · split
      · exact sound
      · rcases sound.controls.known _ _ found with ⟨request, accepted, rfl, rfl⟩
        apply (sound.setTurnControl _ _).awaitControl accepted
        · exact Or.inl rfl
        · exact keeps _ found

theorem Sound.stop (sound : state.Sound sessions) (keeps : state.KeepsOrder (.stop sessionId)) :
    (state.stop sessionId).Sound sessions := by
  unfold WebTurns.stop
  split
  · exact sound
  · rename_i requestId found
    split
    · exact sound
    · rcases sound.controls.known _ _ found with ⟨request, accepted, rfl, rfl⟩
      apply (sound.setTurnControl _ _).awaitControl accepted
      · exact Or.inr rfl
      · exact keeps _ found

theorem Sound.trace_eq_nil (sound : state.Sound sessions)
    (fresh : requestId ∉ state.requestIds) (sessionId : String) :
    state.trace sessionId requestId = [] := by
  unfold trace
  rw [List.filter_eq_nil_iff]
  intro event requested own
  apply fresh
  rw [← of_decide_eq_true own]
  rcases sound.calls.named sessionId event requested with
    ⟨message, waits⟩ | ⟨request, accepted, _, same⟩
  · have unsent := sound.calls.unsent sessionId message event waits
    rw [unsent.announces]
    exact unsent.drawn
  · rw [← same]
    exact (sound.requests.submitted request accepted).2

theorem Sound.send (sound : state.Sound sessions) (fresh : requestId ∉ state.requestIds) :
    ({ state with
      sending := some requestId
      requestIds := state.requestIds ++ [requestId] }.await sessionId
      (.publish (.sender ⟨requestId, sessions.route sessionId, none⟩)
        ⟨requestId, "task.queued"⟩)).Sound sessions := by
  have subset : state.requestIds ⊆ state.requestIds ++ [requestId] :=
    List.subset_append_left _ _
  have unused (request : Request) (accepted : state.Accepted request) :
      request.message.id ≠ requestId := by
    rintro rfl
    exact fresh (sound.requests.submitted request accepted).2
  have drawnBefore {other : String} {message : InboundMessage}
      {event : TaskEvent}
      (member : .publish (.sender message) event ∈ (state.hubs other).line) :
      message.id ≠ requestId := by
    rintro rfl
    exact fresh (sound.calls.unsent other message event member).drawn
  exact
    { requests := sound.requests.congr rfl subset
      controls := sound.controls.congr rfl (fun turn live _ => ⟨turn, live, rfl⟩)
        (fun _ accepted => accepted)
      calls :=
        { unsent := by
            intro other message event member
            rcases mem_line_await.mp member with old | ⟨rfl, new⟩
            · apply (sound.calls.unsent other message event old).congr subset
              · exact fun _ present => Or.inl present
              · apply trace_await_of_ne
                rintro _ _ ⟨⟩
                exact (drawnBefore old).symm
            · cases new
              exact
                { announces := rfl
                  route := rfl
                  drawn := List.mem_append_right _ List.mem_cons_self
                  fresh := unused
                  alone := by
                    rw [trace_await_self rfl]
                    exact congrArg (· ++ _) (sound.trace_eq_nil fresh other) }
          unsentApart := by
            intro left right message second event later member others same
            rcases mem_line_await.mp member with old | ⟨rfl, new⟩
            · rcases mem_line_await.mp others with oldToo | ⟨_, newToo⟩
              · exact sound.calls.unsentApart left right message second event later old oldToo same
              · cases newToo
                exact absurd same (drawnBefore old)
            · cases new
              rcases mem_line_await.mp others with oldToo | ⟨rfl, _⟩
              · exact absurd same.symm (drawnBefore oldToo)
              · rfl
          control := by
            intro other event member
            rcases mem_line_await.mp member with old | ⟨_, new⟩
            · exact sound.calls.control other event old
            · cases new
          named := by
            intro other event member
            rcases mem_requested_await.mp member with old | ⟨rfl, new⟩
            · rcases sound.calls.named other event old with ⟨message, waits⟩ | known
              · exact Or.inl ⟨message, mem_line_await.mpr (Or.inl waits)⟩
              · exact Or.inr known
            · cases new
              exact Or.inl ⟨_, mem_line_await.mpr (Or.inr ⟨rfl, rfl⟩)⟩ }
      mail := sound.mail.congr (List.Subset.refl _) rfl
        (filter_line_await rfl) (fun _ accepted => accepted)
        (fun _ _ answered => answered)
      progress := by
        intro request accepted
        refine (sound.progress request accepted).keep Iff.rfl (fun answered => answered) ?_ rfl rfl
        apply trace_await_of_ne
        rintro _ _ ⟨⟩
        exact (unused request accepted).symm }

/-! ## A call is cancelled -/

theorem split_eraseIdx
    {α : Type} {items : List α} {position : Nat} {item : α}
    (found : items[position]? = some item) :
    ∃ front back, items = front ++ item :: back ∧
      items.eraseIdx position = front ++ back := by
  induction items generalizing position with
  | nil => cases found
  | cons first rest induction =>
    cases position with
    | zero =>
      cases found
      exact ⟨[], rest, rfl, rfl⟩
    | succ position =>
      rcases induction found with ⟨front, back, whole, erased⟩
      refine ⟨first :: front, back, ?_, ?_⟩
      · rw [whole, List.cons_append]
      · rw [List.eraseIdx_cons_succ, erased, List.cons_append]

/-- A call has been taken out of the line of a session. -/
structure Dropped (state : WebTurns) (sessionId : String)
    (call : HubCall) (after : WebTurns) : Prop where
  others : ∀ other, other ≠ sessionId → after.hubs other = state.hubs other
  log : (after.hubs sessionId).log = (state.hubs sessionId).log
  line : ∃ front back, (state.hubs sessionId).line = front ++ call :: back ∧
      (after.hubs sessionId).line = front ++ back

namespace Dropped

variable (dropped : state.Dropped sessionId call after)

variable {other : String}

include dropped

theorem mem_line {listed : HubCall} (member : listed ∈ (after.hubs other).line) :
    listed ∈ (state.hubs other).line := by
  by_cases same : other = sessionId
  · subst other
    rcases dropped.line with ⟨front, back, before, now⟩
    rw [now] at member
    rw [before]
    rcases List.mem_append.mp member with ahead | behind
    · exact List.mem_append_left _ ahead
    · exact List.mem_append_right _ (List.mem_cons_of_mem _ behind)
  · rwa [dropped.others other same] at member

theorem mem_line_or {listed : HubCall} (member : listed ∈ (state.hubs other).line) :
    listed ∈ (after.hubs other).line ∨
      other = sessionId ∧ listed = call := by
  by_cases same : other = sessionId
  · subst other
    rcases dropped.line with ⟨front, back, before, now⟩
    rw [before] at member
    rw [now]
    rcases List.mem_append.mp member with ahead | behind
    · exact Or.inl (List.mem_append_left _ ahead)
    · rcases List.mem_cons.mp behind with here | behind
      · exact Or.inr ⟨rfl, here⟩
      · exact Or.inl (List.mem_append_right _ behind)
  · rw [dropped.others other same]
    exact Or.inl member

theorem trace_split (requestId : String) : ∃ front back,
      state.trace sessionId requestId = front ++ call.event?.toList.filter
              (fun event => event.requestId = requestId) ++ back ∧
        after.trace sessionId requestId = front ++ back := by
  rcases dropped.line with ⟨front, back, before, now⟩
  refine ⟨((state.hubs sessionId).log ++ front.filterMap HubCall.event?).filter
          fun event => event.requestId = requestId,
      (back.filterMap HubCall.event?).filter fun event => event.requestId = requestId, ?_, ?_⟩
  · have split : (call :: back).filterMap HubCall.event? =
        call.event?.toList ++ back.filterMap HubCall.event? := by
      cases call with
      | subscribe => rfl
      | publish caller event => rfl
    unfold trace SessionHub.requested
    rw [before, List.filterMap_append, split]
    simp only [List.filter_append, List.append_assoc]
  · unfold trace SessionHub.requested
    rw [now, dropped.log, List.filterMap_append]
    simp only [List.filter_append, List.append_assoc]

theorem trace_of_ne {requestId : String} (different : other = sessionId →
      ∀ event ∈ call.event?, event.requestId ≠ requestId) :
    after.trace other requestId = state.trace other requestId := by
  by_cases same : other = sessionId
  · subst other
    rcases dropped.trace_split requestId with ⟨front, back, before, now⟩
    have none : call.event?.toList.filter
        (fun event => event.requestId = requestId) = [] := by
      rw [List.filter_eq_nil_iff]
      intro event listed
      have ne := different rfl event (Option.mem_toList.mp listed)
      simp [ne]
    rw [before, now, none, List.append_nil]
  · unfold trace
    rw [dropped.others other same]

theorem mem_requested {event : TaskEvent} (member : event ∈ (after.hubs other).requested) :
    event ∈ (state.hubs other).requested := by
  have own : event ∈ after.trace other event.requestId :=
    List.mem_filter.mpr ⟨member, decide_eq_true rfl⟩
  have before : event ∈ state.trace other event.requestId := by
    by_cases same : other = sessionId
    · subst other
      rcases dropped.trace_split event.requestId with ⟨front, back, before, now⟩
      rw [now] at own
      rw [before]
      rcases List.mem_append.mp own with ahead | behind
      · exact List.mem_append_left _ (List.mem_append_left _ ahead)
      · exact List.mem_append_right _ behind
    · unfold trace at own ⊢
      rwa [dropped.others other same] at own
  exact List.mem_of_mem_filter before

theorem waited : call ∈ (state.hubs sessionId).line := by
  rcases dropped.line with ⟨front, back, before, _⟩
  rw [before]
  exact List.mem_append_right _ List.mem_cons_self

theorem filter_line (notDelivery : isDelivery call = false) (other : String) :
    (after.hubs other).line.filter isDelivery = (state.hubs other).line.filter isDelivery := by
  by_cases same : other = sessionId
  · subst other
    rcases dropped.line with ⟨front, back, before, now⟩
    have skipped : ¬ isDelivery call = true := by
      rw [notDelivery]
      exact Bool.false_ne_true
    rw [before, now, List.filter_append, List.filter_append, List.filter_cons_of_neg skipped]
  · rw [dropped.others other same]

end Dropped

theorem MailSound.taken_of_call (mail : state.MailSound)
    (waits : .publish .delivery event ∈ (state.hubs sessionId).line) :
    ∃ delivery ∈ state.delivering, delivery.outbound.sessionId = sessionId ∧
        event = delivery.event := by
  have listed : HubCall.publish .delivery event ∈
      (state.hubs sessionId).line.filter isDelivery :=
    List.mem_filter.mpr ⟨waits, rfl⟩
  rw [mail.calls sessionId] at listed
  unfold deliveryCalls at listed
  split at listed
  · exact absurd listed List.not_mem_nil
  · rename_i delivery found
    split_ifs at listed with here
    · cases List.mem_singleton.mp listed
      exact ⟨delivery, found, here, rfl⟩
    · exact absurd listed List.not_mem_nil

theorem mem_requested_of_line (waits : .publish caller event ∈ (state.hubs sessionId).line) :
    event ∈ (state.hubs sessionId).requested :=
  List.mem_append_right _ (List.mem_filterMap.mpr ⟨_, waits, rfl⟩)

theorem Dropped.mem_trace (dropped : state.Dropped sessionId call after)
    (publishes : event ∈ call.event?) :
    event ∈ state.trace sessionId event.requestId := by
  rcases dropped.trace_split event.requestId with ⟨front, back, before, _⟩
  rw [before]
  apply List.mem_append_left
  apply List.mem_append_right
  exact List.mem_filter.mpr ⟨Option.mem_toList.mpr publishes, decide_eq_true rfl⟩

theorem CallsSound.drop (calls : state.CallsSound sessions)
    (dropped : state.Dropped sessionId call after)
    (drawn : state.requestIds ⊆ after.requestIds)
    (accepted : ∀ request, after.Accepted request ↔ state.Accepted request)
    (follows : ∀ event ∈ call.event?, taskRules.opens event = false) :
    after.CallsSound sessions where
  unsent := by
    intro other message event member
    have before :=
      calls.unsent other message event (dropped.mem_line member)
    apply before.congr drawn
    · exact fun request present =>
        Or.inl ((accepted request).mp present)
    · apply dropped.trace_of_ne
      rintro rfl publishedEvent publishes same
      have listed := dropped.mem_trace publishes
      rw [same, before.alone, List.mem_singleton] at listed
      have opens := follows publishedEvent publishes
      rw [listed, before.announces, opens_queued] at opens
      cases opens
  unsentApart := fun _ _ _ _ _ _ member others =>
    calls.unsentApart _ _ _ _ _ _ (dropped.mem_line member) (dropped.mem_line others)
  control := fun other event member =>
    calls.control other event (dropped.mem_line member)
  named := by
    intro other event member
    rcases calls.named other event (dropped.mem_requested member) with
      ⟨message, waits⟩ | ⟨request, present, own⟩
    · rcases dropped.mem_line_or waits with still | ⟨_, rfl⟩
      · exact Or.inl ⟨message, still⟩
      · have opens := follows event rfl
        rw [(calls.unsent other message event waits).announces, opens_queued] at opens
        cases opens
    · exact Or.inr ⟨request, (accepted request).mpr present, own⟩

theorem CallsSound.dropSender (calls : state.CallsSound sessions)
    {message : InboundMessage} (dropped :
      state.Dropped sessionId (.publish (.sender message) event) after)
    (drawn : state.requestIds ⊆ after.requestIds) (accepted : ∀ request,
      after.Accepted request ↔ state.Accepted request) :
    after.CallsSound sessions := by
  have waited := dropped.waited
  have own := calls.unsent sessionId message event waited
  have nothingLeft : after.trace sessionId message.id = [] := by
    rcases dropped.trace_split message.id with ⟨front, back, before, now⟩
    have here : ([event] : List TaskEvent).filter
        (fun listed => listed.requestId = message.id) = [event] := by
      rw [own.announces]
      simp
    rw [own.alone] at before
    simp only [HubCall.event?, Option.toList_some, here] at before
    have lengths := congrArg List.length before
    simp only [List.length_append, List.length_singleton] at lengths
    have frontNil : front = [] := List.eq_nil_of_length_eq_zero (by omega)
    have backNil : back = [] := List.eq_nil_of_length_eq_zero (by omega)
    rw [now, frontNil, backNil, List.append_nil]
  have gone {listed : TaskEvent}
      (requested : listed ∈ (after.hubs sessionId).requested) :
      listed.requestId ≠ message.id := by
    intro same
    have member : listed ∈ after.trace sessionId message.id :=
      List.mem_filter.mpr ⟨requested, decide_eq_true same⟩
    rw [nothingLeft] at member
    exact absurd member List.not_mem_nil
  have announced : event.requestId = message.id := by
    rw [own.announces]
  exact
    { unsent := by
        intro other second later member
        have before :=
          calls.unsent other second later (dropped.mem_line member)
        have different : second.id ≠ message.id := by
          intro same
          have here := calls.unsentApart other sessionId second message
            later event (dropped.mem_line member) waited same
          subst other
          apply gone (mem_requested_of_line member)
          rw [before.announces]
          exact same
        apply before.congr drawn
        · exact fun request present =>
            Or.inl ((accepted request).mp present)
        · apply dropped.trace_of_ne
          rintro rfl _ ⟨⟩
          rw [announced]
          exact different.symm
      unsentApart := fun _ _ _ _ _ _ member others =>
        calls.unsentApart _ _ _ _ _ _ (dropped.mem_line member) (dropped.mem_line others)
      control := fun other listed member =>
        calls.control other listed (dropped.mem_line member)
      named := by
        intro other listed member
        rcases calls.named other listed (dropped.mem_requested member) with
          ⟨second, waits⟩ | ⟨request, present, known⟩
        · rcases dropped.mem_line_or waits with still | ⟨rfl, same⟩
          · exact Or.inl ⟨second, still⟩
          · cases same
            exact absurd announced (gone member)
        · exact Or.inr ⟨request, (accepted request).mpr present, known⟩ }

theorem Dropped.trace_open (dropped : state.Dropped sessionId call after)
    (follows : ∀ event ∈ call.event?, taskRules.opens event = false)
    (isOpen : taskRules.Open (state.trace other requestId)) :
    taskRules.Open (after.trace other requestId) := by
  by_cases own : other = sessionId ∧ ∃ event ∈ call.event?, event.requestId = requestId
  · rcases own with ⟨rfl, event, publishes, rfl⟩
    rcases dropped.trace_split event.requestId with ⟨front, back, before, now⟩
    rw [before] at isOpen
    rw [Option.mem_def.mp publishes, Option.toList_some,
      List.filter_singleton, decide_eq_true rfl, cond_true,
      List.append_assoc] at isOpen
    rw [now]
    exact isOpen.remove (follows event publishes)
  · rw [dropped.trace_of_ne]
    · exact isOpen
    · exact fun here event publishes same =>
        own ⟨here, event, publishes, same⟩

theorem Dropped.trace_closed (dropped : state.Dropped sessionId call after)
    (follows : ∀ event ∈ call.event?,
      taskRules.opens event = false ∧ taskRules.closes event = false)
    (closed : taskRules.Closed (state.trace other requestId)) :
    taskRules.Closed (after.trace other requestId) := by
  by_cases own : other = sessionId ∧ ∃ event ∈ call.event?, event.requestId = requestId
  · rcases own with ⟨rfl, event, publishes, rfl⟩
    rcases dropped.trace_split event.requestId with ⟨front, back, before, now⟩
    rw [before] at closed
    rw [Option.mem_def.mp publishes, Option.toList_some,
      List.filter_singleton, decide_eq_true rfl, cond_true,
      List.append_assoc] at closed
    rw [now]
    have trimmed := follows event publishes
    exact closed.remove trimmed.1 trimmed.2
  · rw [dropped.trace_of_ne]
    · exact closed
    · exact fun here event publishes same =>
        own ⟨here, event, publishes, same⟩

theorem Progress.undelivered (progress : state.Progress request)
    (early : after.Early request ↔ state.Early request)
    (answered : state.Answered request → after.Answered request) (begun :
      taskRules.Open (state.trace (sessionOf request) request.message.id) → taskRules.Open
          (after.trace (sessionOf request) request.message.id)) (closed :
      taskRules.Closed (state.trace (sessionOf request) request.message.id) →
        taskRules.Closed (after.trace (sessionOf request) request.message.id))
    (outbound : after.outbound = state.outbound)
    (delivering : after.delivering = none)
    (settled : ∀ delivery ∈ state.delivering,
      delivery.stage = .message → delivery.outbound.isFinal = false) :
    after.Progress request := by
  have untaken : after.ReplyUntaken request := by
    unfold ReplyUntaken
    rw [delivering]
    exact fun _ absurd => nomatch absurd
  cases progress with
  | coming isEarly isOpen mail _ =>
    refine .coming (early.mpr isEarly) (begun isOpen) ?_ untaken
    rw [outbound]
    exact mail
  | posted isAnswered isOpen mail _ =>
    refine .posted (answered isAnswered) (begun isOpen) ?_ untaken
    rw [outbound]
    exact mail
  | delivered _ _ _ taken =>
    rcases taken with ⟨message, found, _, final⟩
    have unfinished : message.isFinal = false := settled _ found rfl
    rw [final] at unfinished
    cases unfinished
  | ended late isClosed mail _ =>
    refine .ended (early.not.mpr late) (closed isClosed) ?_ ?_
    · unfold NoMail
      rw [outbound]
      exact mail
    · rw [delivering]
      exact fun _ absurd => nomatch absurd

theorem MailSound.only_call (mail : state.MailSound)
    {front back : List HubCall} (line :
      (state.hubs sessionId).line = front ++ .publish .delivery event :: back) :
    front.filter isDelivery = [] ∧ back.filter isDelivery = [] ∧
      ∀ other, other ≠ sessionId → (state.hubs other).line.filter isDelivery = [] := by
  have before := mail.calls sessionId
  rw [line, List.filter_append, List.filter_cons_of_pos rfl] at before
  have waits : HubCall.publish .delivery event ∈
      (state.hubs sessionId).line :=
    line ▸ List.mem_append_right _ List.mem_cons_self
  rcases mail.taken_of_call waits with ⟨delivery, found, here, _⟩
  have single (query : String) :
      deliveryCalls state.delivering query =
        if query = sessionId then [.publish .delivery delivery.event]
        else [] := by
    unfold deliveryCalls
    rw [Option.mem_def.mp found]
    simp only [here, eq_comm]
  rw [single, if_pos rfl] at before
  have lengths := congrArg List.length before
  simp only [List.length_append, List.length_cons, List.length_nil] at lengths
  refine ⟨List.eq_nil_of_length_eq_zero (by omega),
    List.eq_nil_of_length_eq_zero (by omega), ?_⟩
  intro other different
  rw [mail.calls, single, if_neg different]

theorem MailSound.undelivered (mail : state.MailSound) (outbound : after.outbound ⊆ state.outbound)
    (delivering : after.delivering = none)
    (lines : ∀ other, (after.hubs other).line.filter isDelivery = [])
    (accepted : ∀ request, state.Accepted request → after.Accepted request) :
    after.MailSound where
  types := by
    intro message present
    rw [delivering] at present
    rcases present with listed | ⟨_, absurd⟩
    · have known := mail.types message (Or.inl (outbound listed))
      exact ⟨accepted _ known.1, known.2⟩
    · cases absurd
  stages := by
    rw [delivering]
    exact fun _ absurd => nomatch absurd
  answered := by
    rw [delivering]
    exact fun _ absurd => nomatch absurd
  calls := by
    intro other
    rw [lines, delivering]
    rfl

theorem MailSound.dropDelivery (mail : state.MailSound) (dropped :
      state.Dropped sessionId (.publish .delivery event) after)
    (outbound : after.outbound ⊆ state.outbound)
    (delivering : after.delivering = none) (accepted : ∀ request,
      state.Accepted request → after.Accepted request) : after.MailSound := by
  rcases dropped.line with ⟨front, back, line, now⟩
  rcases mail.only_call line with ⟨ahead, behind, others⟩
  apply mail.undelivered outbound delivering
  · intro other
    by_cases same : other = sessionId
    · subst other
      rw [now, List.filter_append, ahead, behind]
      rfl
    · rw [dropped.others other same]
      exact others other same
  · exact accepted

end WebTurns
end TurningGood.Web
