import TurningGood.Channels.WeixinTransport

/-!
# Exceptions in the handling of the events of a poll

The second half of `poll_once` writes the cursor and then handles the events
one by one.  Nothing between the handler of an event and the poll task
catches an exception, so the events after it are lost, although the cursor
is behind them, and the poll task ends.
-/

namespace TurningGood.Channels

open TurningGood.Foundation

namespace WeixinPolling

/-- What the callees of the handling of one event do. -/
structure Surroundings where
  now : Nat
  faults : WriteFaults
  /-- `coordinator.accept` raises -/
  acceptRaises : Bool
  /-- the answer to `send_text` of a notice -/
  notice : WeixinBinding.CallAnswer
  /-- the write after a failed notice raises -/
  noticeFault : Bool
  /-- the record after the await, as the other coroutines leave it -/
  meanwhile : Option ChannelAccount → Option ChannelAccount

/-- How the handling of an event has ended. -/
structure HandlingEnd where
  record : Option ChannelAccount
  raised : Bool

/-- The write after a failed notice; a rejected account does not raise. -/
def endNotice (record written : Option ChannelAccount) (fault : Bool) :
    HandlingEnd :=
  if fault ∧ written ≠ record then { record := record, raised := true }
  else { record := written, raised := false }

/-- `_send_notice`. -/
def sendNotice (record : Option ChannelAccount) (around : Surroundings) :
    HandlingEnd :=
  let record := around.meanwhile record
  match around.notice with
  | .accepted => { record := record, raised := false }
  | .failed =>
    endNotice record (markDisconnected record around.now)
      around.noticeFault
  | .expired =>
    endNotice record (expireBinding record around.now)
      around.noticeFault

/-- `_handle_event`. -/
def handleEvent (record : Option ChannelAccount)
    (account : ChannelAccount) (event : WeixinEvent)
    (around : Surroundings) : HandlingEnd :=
  let handled :=
    handleWeixinEvent record account event around.faults around.now
  match handled.2 with
  | .raised _ => { record := handled.1, raised := true }
  | .finished => { record := handled.1, raised := false }
  | .notice _ => sendNotice handled.1 around
  | .accept _ =>
    { record := around.meanwhile handled.1
      raised := around.acceptRaises }

/-! ## The second half of a poll -/

/-- How a round of the poll task has ended. -/
structure PollEnd where
  record : Option ChannelAccount
  /-- how many events were handled, or were being handled -/
  handled : Nat
  raised : Bool

/-- The loop over the events. -/
def handleEvents (record : Option ChannelAccount)
    (account : ChannelAccount) :
    List (WeixinEvent × Surroundings) → PollEnd
  | [] => { record := record, handled := 0, raised := false }
  | (event, around) :: rest =>
    let ended := handleEvent record account event around
    if ended.raised then
      { record := ended.record, handled := 1, raised := true }
    else
      let later :=
        handleEvents ended.record (ended.record.getD account) rest
      { later with handled := later.handled + 1 }

/-- `poll_once` after the answer, where the epoch is as before. -/
def finishPoll (current : ChannelAccount) (cursor : Option String)
    (events : List (WeixinEvent × Surroundings)) (now : Nat) : PollEnd :=
  let result : PollResult :=
    { events := events.map Prod.fst, cursor := cursor }
  match applyPrivateUpdate (some current) current result.privateUpdate
      now with
  | .error _ => { record := some current, handled := 0, raised := true }
  | .ok account => handleEvents (some account) account events

/-- `_poll_loop` goes on with another round. -/
def PollEnd.running (poll : PollEnd) : Bool :=
  !poll.raised && poll.record.any fun account =>
    WeixinBinding.polls account.status

/-- The binding is enabled and active. -/
def enabledActive (record : Option ChannelAccount) : Bool :=
  record.any fun account => account.enabled && account.status = .active

/--
Every event of the result is handled, and the poll task of a binding that is
enabled and active is running.
-/
def Survives (poll : PollEnd)
    (events : List (WeixinEvent × Surroundings)) : Prop :=
  poll.handled = events.length ∧
    (enabledActive poll.record = true → poll.running = true)

/--
The handling of no event raises, except for the last one, and then the
binding is not both enabled and active afterwards.
-/
def QuietUntilLast (record : Option ChannelAccount)
    (account : ChannelAccount) :
    List (WeixinEvent × Surroundings) → Prop
  | [] => True
  | (event, around) :: rest =>
    let ended := handleEvent record account event around
    if ended.raised then
      rest = [] ∧ enabledActive ended.record = false
    else
      QuietUntilLast ended.record (ended.record.getD account) rest

theorem running_of_enabledActive {poll : PollEnd} (quiet : poll.raised = false)
    (active : enabledActive poll.record = true) :
    poll.running = true := by
  simp only [enabledActive, Option.any_eq_true, Bool.and_eq_true, decide_eq_true_eq] at active
  rcases active with ⟨account, stored, _, status⟩
  simp [PollEnd.running, quiet, stored, WeixinBinding.polls, status]

theorem handleEvents_survives (record : Option ChannelAccount) (account : ChannelAccount)
    (events : List (WeixinEvent × Surroundings)) :
    Survives (handleEvents record account events) events ↔
      QuietUntilLast record account events := by
  induction events generalizing record account with
  | nil =>
    constructor
    · exact fun _ => trivial
    · exact fun _ => ⟨rfl, running_of_enabledActive rfl⟩
  | cons head rest induction =>
    rcases head with ⟨event, around⟩
    simp only [handleEvents, QuietUntilLast]
    split
    · constructor
      · rintro ⟨handled, active⟩
        refine ⟨?_, ?_⟩
        · cases rest with
          | nil => rfl
          | cons next later =>
            simp only [List.length_cons] at handled
            omega
        · simpa [PollEnd.running] using active
      · rintro ⟨rfl, inactive⟩
        refine ⟨rfl, ?_⟩
        intro active
        dsimp only at active
        rw [inactive] at active
        cases active
    · rename_i quiet
      rw [← induction]
      constructor
      · rintro ⟨handled, active⟩
        simp only [List.length_cons, Nat.add_right_cancel_iff] at handled
        exact ⟨handled, active⟩
      · rintro ⟨handled, active⟩
        refine ⟨?_, active⟩
        simp only [List.length_cons, handled]

/--
For every poll result whose cursor has been written, with any events and any
exceptions: the other events are handled and the poll task survives exactly
when no handling raises before the last event, and where that one raises the
binding is not left enabled and active.
-/
theorem finishPoll_survives_iff
    {current account : ChannelAccount} {cursor : Option String}
    {events : List (WeixinEvent × Surroundings)} {now : Nat}
    (persisted : applyPrivateUpdate (some current) current (PollResult.privateUpdate
          { events := events.map Prod.fst, cursor := cursor })
        now = .ok account) :
    Survives (finishPoll current cursor events now) events ↔
      QuietUntilLast (some account) account events := by
  simp only [finishPoll, persisted]
  exact handleEvents_survives (some account) account events

/-! ## Two messages, and a coordinator that raises -/

/-- A binding that is locked to a user. -/
def sampleAccount : ChannelAccount :=
  { weixinInvitation "binding" "owner" 0 with
    status := .awaitingFirstDm }.lockedTo "user" "context" 1

/-- A text message of the user. -/
def sampleEvent (messageId : String) : WeixinEvent where
  messageId := some (.text messageId)
  msgId := none
  seq := none
  fromUserId := some (.text "user")
  fromUserIdCamel := none
  messageType := some (.text "text")
  msgType := none
  items :=
    [{ type := some (.text "text")
       itemType := none
       text := some (.text "hello")
       content := none
       nestedText := none }]
  chatType := some (.text "p2p")
  conversationType := none
  contextToken := none

/-- All writes succeed, and the coordinator returns or raises. -/
def sampleSurroundings (acceptRaises : Bool) : Surroundings where
  now := 2
  faults := .none
  acceptRaises := acceptRaises
  notice := .accepted
  noticeFault := false
  meanwhile := id

/-- The account with the cursor of the poll. -/
def polledAccount : ChannelAccount :=
  { sampleAccount with
    updatedAt := 2
    privateState :=
      sampleAccount.privateState.insert "cursor" (.text "next") }

theorem sampleCursor_persisted (events : List (WeixinEvent × Surroundings)) :
    applyPrivateUpdate (some sampleAccount) sampleAccount (PollResult.privateUpdate
        { events := events.map Prod.fst, cursor := some "next" }) 2 =
        .ok polledAccount :=
  rfl

/-- Two messages whose handling does not raise are both handled. -/
theorem quiet_poll_survives : Survives (finishPoll sampleAccount (some "next")
        [(sampleEvent "m1", sampleSurroundings false),
          (sampleEvent "m2", sampleSurroundings false)] 2)
      [(sampleEvent "m1", sampleSurroundings false),
        (sampleEvent "m2", sampleSurroundings false)] :=
  (finishPoll_survives_iff (sampleCursor_persisted _)).mpr trivial

/--
The coordinator raises at the first of two messages: the second one is not
handled, the cursor is behind it, and the poll task of the active binding
has ended.
-/
theorem raising_accept_stops_polling :
    let events :=
      [(sampleEvent "m1", sampleSurroundings true), (sampleEvent "m2", sampleSurroundings false)]
    let poll := finishPoll sampleAccount (some "next") events 2
    poll.handled = 1 ∧ poll.running = false ∧ enabledActive poll.record = true ∧
      (poll.record.bind fun account =>
        account.privateState.get? "cursor") = some (.text "next") ∧
      ¬ Survives poll events := by
  refine ⟨rfl, rfl, rfl, rfl, ?_⟩
  rintro ⟨handled, _⟩
  cases handled

end WeixinPolling
end TurningGood.Channels
