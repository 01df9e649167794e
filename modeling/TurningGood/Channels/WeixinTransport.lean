import TurningGood.Channels.WeixinBinding
import TurningGood.Foundation.Machine

/-!
# The WeChat transport and the record of one binding

The coroutines of `WeixinTransport` that work on one binding: the poll task,
any number of sends, the logins and the rebinds, and the operations of the
control plane.  A step takes one of them from where it waits to its next
await.

The lock of the binding is held by at most one coroutine.  Sends do not take
it, and the poll task does not hold it while it waits for the platform or
while it handles a failed call.
-/

namespace TurningGood.Channels

open TurningGood.Foundation

/-- An inbound message that was handed to the coordinator, and its sender. -/
structure Submission where
  inbound : WeixinInbound
  sender : String
deriving DecidableEq

/-- `OutboundMessage.disposition`. -/
inductive Disposition where
  | chatReply
  | proactiveNotification
  | other
deriving DecidableEq

/-- `OutboundMessage`, as far as `send` reads it. -/
structure WeixinOutbound where
  principalId : String
  conversationId : String
  disposition : Disposition
  eventType : String
  content : String
  /-- `metadata["binding_epoch"]` -/
  bindingEpoch : Option Nat
deriving DecidableEq

/-- Where an outbound message comes from. -/
inductive Origin where
  /-- `_run_message` of the turn of a submitted message -/
  | reply (submission : Submission) (eventType content : String)
  | notification (message : WeixinOutbound)
deriving DecidableEq

/-- The message of a turn or of the proactive service. -/
def Origin.message : Origin → WeixinOutbound
  | .reply submission eventType content =>
    { principalId := submission.inbound.principalId
      conversationId := submission.inbound.conversationId
      disposition := .chatReply
      eventType := eventType
      content := content
      bindingEpoch := some submission.inbound.bindingEpoch }
  | .notification message =>
    { message with disposition := .proactiveNotification }

/-- The checks of `send` that do not read the record. -/
def WeixinOutbound.sendable (message : WeixinOutbound) : Bool :=
  !(["response.delta", "response.status"].contains message.eventType ||
    "tool.".toList.isPrefixOf message.eventType.toList) &&
  match message.disposition with
  | .chatReply =>
    ["response.completed", "response.error"].contains message.eventType
  | .proactiveNotification => true
  | .other => false

/-- `_PendingRebind`. -/
structure PendingRebind where
  attemptId : Nat
  candidate : ChannelAccount
  baselineStatus : AccountStatus
deriving DecidableEq

/-- The account of a call, and how many rebinds were committed before. -/
structure Call where
  account : ChannelAccount
  commits : Nat
deriving DecidableEq

/-- Where a send waits. -/
inductive SendFrame where
  /-- for `send_text`, with the later chunks -/
  | sending (call : Call) (origin : Origin) (rest : List String)
  /-- for `_dismiss_qr` of `_expire_binding` -/
  | expiring (call : Call)
deriving DecidableEq

/-- Where the poll task waits. -/
inductive PollTask where
  /-- there is no poll task -/
  | stopped
  /-- between two rounds, or for the lock at the start of one -/
  | idle
  /-- for `poll` -/
  | calling (call : Call)
  /-- for the lock, with the result -/
  | answered (call : Call) (result : PollResult)
  /-- for `_dismiss_qr` of `_expire_binding` -/
  | expiring (call : Call)
  /-- its round holds the lock -/
  | inside
deriving DecidableEq

/-- What the holder of the lock does after `_dismiss_qr`. -/
inductive Afterwards where
  | release
  /-- `_prepare_binding_locked` after a login -/
  | preparePoll (account : ChannelAccount)
  /-- `disable_account` after the candidate is gone -/
  | stopPoll
  /-- `_commit_rebind_locked` -/
  | switchPoll
  /-- `start_rebind` after an earlier candidate is gone -/
  | newCandidate (current : ChannelAccount)
deriving DecidableEq

/-- Where the holder of the lock waits. -/
inductive Holder where
  /-- the poll task between two events -/
  | events (account : ChannelAccount) (rest : List WeixinEvent)
  /-- for `coordinator.accept` -/
  | accepting (account : ChannelAccount) (rest : List WeixinEvent)
  /-- for `send_text` of `_send_notice` -/
  | noticing (account : ChannelAccount) (rest : List WeixinEvent)
  /-- for `_dismiss_qr` of `_expire_binding` -/
  | noticeExpiring (account : ChannelAccount) (rest : List WeixinEvent)
  /-- for the login of `_progress_login_locked` -/
  | loggingIn (account : ChannelAccount) (continuing : Bool)
      (next : Afterwards)
  /-- for `_present_qr` of `_progress_login_locked` -/
  | presenting (account : ChannelAccount) (cached : Bool)
      (next : Afterwards)
  /-- for the login of `_progress_rebind_locked` -/
  | rebinding (attemptId : Nat) (candidate : ChannelAccount)
      (continuing : Bool)
  /-- for `_present_qr` of `_progress_rebind_locked` -/
  | rebindPresenting (attemptId : Nat) (status : AccountStatus)
      (cached : Bool)
  /-- for `_dismiss_qr` -/
  | dismissing (next : Afterwards)
deriving DecidableEq

/-! ## State -/

/-- A failure that was written, and the record around the write. -/
structure HandledFailure where
  /-- the epoch of the account whose call failed -/
  epoch : Nat
  before : Option ChannelAccount
  after : Option ChannelAccount
deriving DecidableEq

/-- A chunk that was handed to `send_text`, with the account. -/
structure SentChunk where
  origin : Origin
  account : ChannelAccount
  text : String
deriving DecidableEq

/-- One binding and the coroutines that work on it. -/
structure WeixinBinding where
  record : Option ChannelAccount
  started : Bool
  pending : Option PendingRebind
  rebindAttempt : Nat
  sends : Dict Nat SendFrame
  poll : PollTask
  lock : Option Holder
  /-- how many rebinds have been committed -/
  commits : Nat
  failures : List HandledFailure
  submitted : List Submission
  sent : List SentChunk
  /-- the bot tokens, with the epochs that they were issued for -/
  issued : List (Nat × PrivateValue)
deriving DecidableEq

namespace WeixinBinding

/-- The statuses that the poll loop goes on with. -/
def polls (status : AccountStatus) : Bool :=
  status ∈ [.pendingQr, .awaitingFirstDm, .active]

/-- The end of a round of `_poll_loop`. -/
def pollLoopNext (record : Option ChannelAccount) : PollTask :=
  if record.any fun account => polls account.status then .idle
  else .stopped

/-- The holder of the lock returns. -/
def releaseLock (state : WeixinBinding) : WeixinBinding :=
  { state with
    lock := none
    poll :=
      if state.poll = .inside then pollLoopNext state.record
      else state.poll }

/-- The holder of the lock raises. -/
def raiseInLock (state : WeixinBinding) : WeixinBinding :=
  { state with
    lock := none
    poll := if state.poll = .inside then .stopped else state.poll }

/-- `_ensure_poll_task`. -/
def ensurePollTask (state : WeixinBinding) : WeixinBinding :=
  { state with
    poll := if state.poll = .stopped then .idle else state.poll }

/-- The failure of a call is written, unless the write raises. -/
def writeFailure (state : WeixinBinding) (account : ChannelAccount)
    (written : Option ChannelAccount) (fault : Bool) : WeixinBinding :=
  let after := if fault then state.record else written
  { state with
    record := after
    failures :=
      state.failures ++
        [{ epoch := account.bindingEpoch
           before := state.record
           after := after }] }

/-- The bot token that an update brings, issued for an epoch. -/
def issuedBy (epoch : Nat) (privateUpdate : Dict String PrivateValue) :
    List (Nat × PrivateValue) :=
  (privateUpdate.get? "bot_token").toList.map (epoch, ·)

/-- The holder of the lock is done with a login. -/
def finishLogin (state : WeixinBinding) : Afterwards → WeixinBinding
  | .preparePoll account =>
    let state := state.releaseLock
    if polls (state.record.getD account).status then
      state.ensurePollTask
    else
      state
  | _ => state.releaseLock

/-- An operation of `ChannelControlService` on the record. -/
def changeRecord (state : WeixinBinding) (control : WeixinControl)
    (now : Nat) : WeixinBinding :=
  match state.record with
  | none => state
  | some account =>
    match controlCandidate control account with
    | none => state
    | some candidate =>
      match writeAccount [] state.record candidate true none now with
      | .error _ => state
      | .ok updated => { state with record := some updated }

/-- `revoke`. -/
def revokeRecord (state : WeixinBinding) (now : Nat) : WeixinBinding :=
  match Channels.revoke [] state.record now with
  | .error _ => state
  | .ok updated => { state with record := some updated }

/-- `_progress_login_locked` up to the login, or nothing to do. -/
def beginLoginCall (state : WeixinBinding) (account : ChannelAccount)
    (qrAvailable : Bool) (next : Afterwards) : WeixinBinding :=
  { state with
    lock :=
      some
        (.loggingIn account
          (account.fieldTruthy "qrcode" && qrAvailable) next) }

/-- `_fail_pending_qr`, and then `_dismiss_qr` or the return. -/
def failLogin (state : WeixinBinding) (account : ChannelAccount)
    (credentialState : String) (dismisses : Bool) (next : Afterwards)
    (fault : Bool) (now : Nat) : WeixinBinding :=
  match failPendingQr state.record account credentialState now with
  | .error _ => state.raiseInLock
  | .ok updated =>
    if fault then
      state.raiseInLock
    else if dismisses then
      { state with
        record := some updated
        lock := some (.dismissing next) }
    else
      { state with record := some updated }.finishLogin next

/-- `_progress_login_locked` after the login. -/
def endLoginCall (state : WeixinBinding) (account : ChannelAccount)
    (result : Option LoginResult) (cached shown : Bool)
    (next : Afterwards) (fault laterFault : Bool) (now : Nat) :
    WeixinBinding :=
  match result with
  | none => state.failLogin account "invalid" true next fault now
  | some result =>
    match updateAccount state.record account (some result.status)
        result.privateUpdate now with
    | .error _ => state.raiseInLock
    | .ok updated =>
      if fault then
        state.raiseInLock
      else
        let state :=
          { state with
            record := some updated
            issued :=
              state.issued ++
                issuedBy updated.bindingEpoch result.privateUpdate }
        if result.qrContent.isSome then
          { state with lock := some (.presenting updated cached next) }
        else if updated.status ≠ .pendingQr then
          { state with lock := some (.dismissing next) }
        else if cached ∨ shown then
          state.finishLogin next
        else
          state.failLogin updated "local_qr_unavailable" false next
            laterFault now

/-! ## Rebinds -/

/-- `_discard_rebind_locked`, and then what is left to do. -/
def discardRebind (state : WeixinBinding) (attemptId : Nat) :
    WeixinBinding :=
  match state.pending with
  | none => state.releaseLock
  | some pending =>
    if pending.attemptId ≠ attemptId then
      state.releaseLock
    else
      { state with
        pending := none
        lock := some (.dismissing .release) }

/-- `_progress_rebind_locked` up to the login. -/
def progressRebind (state : WeixinBinding) (attemptId : Nat)
    (qrAvailable : Bool) : WeixinBinding :=
  match state.pending, state.record with
  | none, _ => state.releaseLock
  | some pending, record =>
    if pending.attemptId ≠ attemptId then
      state.releaseLock
    else
      match record with
      | none => state.discardRebind attemptId
      | some _ =>
        { state with
          lock :=
            some
              (.rebinding attemptId pending.candidate
                (pending.candidate.fieldTruthy "qrcode" &&
                  qrAvailable)) }

/-- The private state that `start_rebind` gives to a candidate. -/
def candidatePrivate (current : ChannelAccount) :
    Dict String PrivateValue :=
  let privateState :=
    (Dict.empty.insert "credential_state" (.text "pending")).insert
      "inbound_ids" (.texts [])
  match (current.textField? "base_url").filter (· ≠ "") with
  | some baseUrl => privateState.insert "base_url" (.text baseUrl)
  | none => privateState

/-- `start_rebind` after an earlier candidate is gone. -/
def beginCandidate (state : WeixinBinding) (current : ChannelAccount)
    (qrAvailable : Bool) : WeixinBinding :=
  let attemptId := state.rebindAttempt + 1
  progressRebind
    { state with
      rebindAttempt := attemptId
      pending :=
        some
          { attemptId := attemptId
            candidate :=
              { current with
                status := .pendingQr
                enabled := true
                privateState := candidatePrivate current }
            baselineStatus := current.status } }
    attemptId qrAvailable

/-- `start_rebind` in the lock. -/
def startRebind (state : WeixinBinding) (current : ChannelAccount)
    (qrAvailable : Bool) : WeixinBinding :=
  if state.pending.isSome then
    { state with
      pending := none
      lock := some (.dismissing (.newCandidate current)) }
  else
    state.beginCandidate current qrAvailable

/-- `_commit_rebind_locked` up to its await. -/
def commitRebind (state : WeixinBinding) (attemptId : Nat) (fault : Bool)
    (now : Nat) : WeixinBinding :=
  match state.pending, state.record with
  | some pending, some current =>
    if pending.attemptId ≠ attemptId ∨ current.status = .disabled ∨
        (current.status = .revoked ∧
          pending.baselineStatus ≠ .revoked) then
      state.discardRebind attemptId
    else
      match writeAccount [] state.record
          (committedCandidate current pending.candidate) false none
          now with
      | .error _ => state.raiseInLock
      | .ok updated =>
        if fault then
          state.raiseInLock
        else
          { state with
            record := some updated
            pending := none
            commits := state.commits + 1
            issued :=
              state.issued ++
                issuedBy updated.bindingEpoch
                  pending.candidate.privateState
            lock := some (.dismissing .switchPoll) }
  | _, _ => state.discardRebind attemptId

/-- `_progress_rebind_locked` after the QR code is shown or there is none. -/
def concludeRebind (state : WeixinBinding) (attemptId : Nat)
    (status : AccountStatus) (qrAvailable fault : Bool) (now : Nat) :
    WeixinBinding :=
  if status = .pendingQr then
    if qrAvailable then state.releaseLock
    else state.discardRebind attemptId
  else if status ≠ .awaitingFirstDm then
    state.discardRebind attemptId
  else
    state.commitRebind attemptId fault now

/-- `_progress_rebind_locked` after the login. -/
def endRebindCall (state : WeixinBinding) (attemptId : Nat)
    (candidate : ChannelAccount) (result : Option LoginResult)
    (cached shown fault : Bool) (now : Nat) : WeixinBinding :=
  match result, state.pending with
  | none, _ => state.discardRebind attemptId
  | some _, none => state.releaseLock
  | some result, some pending =>
    if pending.attemptId ≠ attemptId then
      state.releaseLock
    else
      let state :=
        { state with
          pending :=
            some
              { pending with
                candidate :=
                  { candidate with
                    status := result.status
                    privateState :=
                      candidate.privateState.update
                        result.privateUpdate } } }
      if result.qrContent.isSome then
        { state with
          lock :=
            some (.rebindPresenting attemptId result.status cached) }
      else
        state.concludeRebind attemptId result.status (cached || shown)
          fault now

/-! ## Polls -/

/-- What a call of the platform comes to. -/
inductive CallAnswer where
  | accepted
  /-- `False`, or an exception -/
  | failed
  /-- `IlinkCredentialExpiredError` -/
  | expired
deriving DecidableEq

/-- What `poll` comes to. -/
inductive PollAnswer where
  | result (result : PollResult)
  | failed
  | expired
deriving DecidableEq

/-- `poll_once` up to its first await. -/
def beginPoll (state : WeixinBinding) (qrAvailable : Bool) :
    WeixinBinding :=
  match state.record with
  | none => { state with poll := .stopped }
  | some account =>
    if account.enabled ∧ account.status = .pendingQr then
      { state with poll := .inside }.beginLoginCall account qrAvailable
        .release
    else if ¬ account.enabled ∨
        (account.status ≠ .awaitingFirstDm ∧
          account.status ≠ .active) then
      { state with poll := pollLoopNext state.record }
    else
      { state with
        poll :=
          .calling { account := account, commits := state.commits } }

/-- The poll task after the write of a failure. -/
def endFailedPoll (state : WeixinBinding) (fault : Bool) : WeixinBinding :=
  { state with
    poll := if fault then .stopped else pollLoopNext state.record }

/-- `poll_once` after the answer of the platform. -/
def endPoll (state : WeixinBinding) (call : Call) (answer : PollAnswer)
    (fault : Bool) (now : Nat) : WeixinBinding :=
  match answer with
  | .result result => { state with poll := .answered call result }
  | .failed =>
    (state.writeFailure call.account
      (markDisconnected state.record now) fault).endFailedPoll fault
  | .expired =>
    if state.pending.isSome then
      (state.writeFailure call.account
        (expireBinding state.record now) fault).endFailedPoll fault
    else
      { state with poll := .expiring call }

/-- `poll_once` from the second lock to the first event. -/
def beginEvents (state : WeixinBinding) (call : Call)
    (result : PollResult) (fault : Bool) (now : Nat) : WeixinBinding :=
  match state.record with
  | none => { state with poll := pollLoopNext state.record }
  | some current =>
    if current.bindingEpoch ≠ call.account.bindingEpoch then
      { state with poll := pollLoopNext state.record }
    else
      match applyPrivateUpdate state.record current result.privateUpdate
          now with
      | .error _ => { state with poll := .stopped }
      | .ok account =>
        if fault ∧ result.privateUpdate.entries ≠ [] then
          { state with poll := .stopped }
        else
          { state with
            record := some account
            poll := .inside
            lock := some (.events account result.events) }

/-- The loop over the events, up to the first await of the next event. -/
def handleNext (state : WeixinBinding) (account : ChannelAccount)
    (events : List WeixinEvent) (faults : WriteFaults) (now : Nat) :
    WeixinBinding :=
  match events with
  | [] => state.releaseLock
  | event :: rest =>
    let account := state.record.getD account
    let handled := handleWeixinEvent state.record account event faults now
    let state := { state with record := handled.1 }
    match handled.2 with
    | .raised _ => state.raiseInLock
    | .finished => { state with lock := some (.events account rest) }
    | .notice account =>
      { state with lock := some (.noticing account rest) }
    | .accept inbound =>
      { state with
        submitted :=
          state.submitted ++
            (event.sender?.map fun sender =>
              { inbound := inbound, sender := sender }).toList
        lock := some (.accepting account rest) }

/-- `_send_notice` after the answer of the platform. -/
def endNotice (state : WeixinBinding) (account : ChannelAccount)
    (rest : List WeixinEvent) (answer : CallAnswer) (fault : Bool)
    (now : Nat) : WeixinBinding :=
  let afterwards (state : WeixinBinding) : WeixinBinding :=
    if fault then state.raiseInLock
    else { state with lock := some (.events account rest) }
  match answer with
  | .accepted => { state with lock := some (.events account rest) }
  | .failed =>
    afterwards
      (state.writeFailure account (markDisconnected state.record now)
        fault)
  | .expired =>
    if state.pending.isSome then
      afterwards
        (state.writeFailure account (expireBinding state.record now)
          fault)
    else
      { state with lock := some (.noticeExpiring account rest) }

/-- `_expire_binding` of a notice after its await. -/
def endNoticeExpiry (state : WeixinBinding) (account : ChannelAccount)
    (rest : List WeixinEvent) (fault : Bool) (now : Nat) :
    WeixinBinding :=
  let state :=
    state.writeFailure account (expireBinding state.record now) fault
  if fault then state.raiseInLock
  else { state with lock := some (.events account rest) }

/-- The next chunk is handed to the platform. -/
def sendChunks (state : WeixinBinding) (number : Nat) (call : Call)
    (origin : Origin) : List String → WeixinBinding
  | [] => { state with sends := state.sends.erase number }
  | text :: rest =>
    { state with
      sends := state.sends.insert number (.sending call origin rest)
      sent :=
        state.sent ++
          [{ origin := origin, account := call.account, text := text }] }

/-- `send` up to its first await. -/
def beginSend (maxBytes : Nat) (state : WeixinBinding) (number : Nat)
    (origin : Origin) (fault : Bool) (now : Nat) : WeixinBinding :=
  let message := origin.message
  match state.record with
  | none => state
  | some account =>
    if ¬ message.sendable ∨ account.id ≠ message.conversationId ∨
        account.principalId ≠ message.principalId then
      state
    else if message.disposition = .chatReply ∧
        message.bindingEpoch.any (· ≠ account.bindingEpoch) then
      state
    else if account.enabled ∧ account.status = .active ∧
        (account.textField? "context_token").filter (· ≠ "") = none then
      state.writeFailure account (markDisconnected state.record now) fault
    else if ¬ account.isActive then
      state
    else
      match splitUtf8Chunks message.content maxBytes with
      | none => state
      | some chunks =>
        state.sendChunks number
          { account := account, commits := state.commits } origin
          chunks

/-- `send` after the answer of the platform. -/
def endSend (state : WeixinBinding) (number : Nat) (call : Call)
    (origin : Origin) (rest : List String) (answer : CallAnswer)
    (fault : Bool) (now : Nat) : WeixinBinding :=
  let finished (state : WeixinBinding) : WeixinBinding :=
    { state with sends := state.sends.erase number }
  match answer with
  | .accepted => state.sendChunks number call origin rest
  | .failed =>
    finished
      (state.writeFailure call.account
        (markDisconnected state.record now) fault)
  | .expired =>
    if state.pending.isSome then
      finished
        (state.writeFailure call.account (expireBinding state.record now)
          fault)
    else
      { state with
        sends := state.sends.insert number (.expiring call) }

/-- What can happen to a binding. -/
inductive Label where
  | start
  /-- the process ends; only the record is kept -/
  | restart
  | control (control : WeixinControl) (now : Nat)
  | revoke (now : Nat)
  | delete
  /-- `enable_account`, or `start` for this binding -/
  | enableAccount (qrAvailable : Bool)
  /-- `disable_account`, or `detach_account` -/
  | disableAccount
  | startRebind (qrAvailable : Bool)
  /-- a round of `_rebind_loop` -/
  | rebindRound (qrAvailable : Bool)
  /-- `_on_qr_presentation_closed` -/
  | presentationClosed (generation : Option Nat) (now : Nat)
  | pollRound (qrAvailable : Bool)
  | pollAnswered (answer : PollAnswer) (fault : Bool) (now : Nat)
  | pollExpired (fault : Bool) (now : Nat)
  | pollLocked (fault : Bool) (now : Nat)
  | nextEvent (faults : WriteFaults) (now : Nat)
  /-- `accept` returns, or raises -/
  | acceptEnded (raised : Bool)
  | noticeAnswered (answer : CallAnswer) (fault : Bool) (now : Nat)
  | noticeExpired (fault : Bool) (now : Nat)
  | loginAnswered (answer : Option LoginAnswer)
      (cached shown fault laterFault : Bool) (now : Nat)
  | presented (shown fault : Bool) (now : Nat)
  | rebindAnswered (answer : Option LoginAnswer)
      (cached shown fault : Bool) (now : Nat)
  | rebindPresented (shown fault : Bool) (now : Nat)
  | dismissed (qrAvailable : Bool)
  | send (number : Nat) (origin : Origin) (fault : Bool) (now : Nat)
  | sendAnswered (number : Nat) (answer : CallAnswer) (fault : Bool)
      (now : Nat)
  | sendExpired (number : Nat) (fault : Bool) (now : Nat)
  | sendCancelled (number : Nat)
deriving DecidableEq

/-- `_on_qr_presentation_closed`. -/
def closePresentation (state : WeixinBinding) (generation : Option Nat)
    (now : Nat) : Option WeixinBinding :=
  match state.pending with
  | some pending =>
    if generation.any (· ≠ pending.attemptId) then
      some state
    else if state.lock.isSome then
      none
    else
      some (state.discardRebind pending.attemptId)
  | none =>
    match state.record with
    | none => some state
    | some account =>
      if account.status ≠ .pendingQr then
        some state
      else
        match failPendingQr state.record account
            "local_qr_unavailable" now with
        | .error _ => some state
        | .ok updated => some { state with record := some updated }

/-- A coroutine takes the free lock. -/
def takeLock (state : WeixinBinding) : Label → Option WeixinBinding
  | .enableAccount qrAvailable =>
    match state.record with
    | none => some state
    | some account =>
      if ¬ state.started ∨ ¬ account.enabled then
        some state
      else if account.status = .pendingQr then
        some
          (state.beginLoginCall account qrAvailable
            (.preparePoll account))
      else if polls account.status then
        some state.ensurePollTask
      else
        some state
  | .disableAccount =>
    if state.pending.isSome then
      some
        { state with
          pending := none
          lock := some (.dismissing .stopPoll) }
    else
      some
        { state with
          poll := .stopped
          lock := some (.dismissing .release) }
  | .startRebind qrAvailable =>
    match state.record with
    | none => some state
    | some current =>
      if current.status ∈
          [AccountStatus.active, .expired, .revoked] then
        some (state.startRebind current qrAvailable)
      else
        some state
  | .rebindRound qrAvailable =>
    state.pending.map fun pending =>
      state.progressRebind pending.attemptId qrAvailable
  | .pollRound qrAvailable =>
    if state.poll = .idle then some (state.beginPoll qrAvailable)
    else none
  | .pollLocked fault now =>
    match state.poll with
    | .answered call result =>
      some (state.beginEvents call result fault now)
    | _ => none
  | _ => none

/-- The holder of the lock goes on. -/
def resumeHolder (state : WeixinBinding) :
    Holder → Label → Option WeixinBinding
  | .events account rest, .nextEvent faults now =>
    some (state.handleNext account rest faults now)
  | .accepting account rest, .acceptEnded raised =>
    if raised then some state.raiseInLock
    else some { state with lock := some (.events account rest) }
  | .noticing account rest, .noticeAnswered answer fault now =>
    some (state.endNotice account rest answer fault now)
  | .noticeExpiring account rest, .noticeExpired fault now =>
    some (state.endNoticeExpiry account rest fault now)
  | .loggingIn account continuing next,
      .loginAnswered answer cached shown fault laterFault now =>
      some
        (state.endLoginCall account
          (answer.map (loginResult account continuing)) cached shown next
          fault laterFault now)
  | .presenting account cached next, .presented shown fault now =>
    if ¬ shown ∧ ¬ cached then
      some
        (state.failLogin account "local_qr_unavailable" true next fault
          now)
    else
      some (state.finishLogin next)
  | .rebinding attemptId candidate continuing,
      .rebindAnswered answer cached shown fault now =>
      some
        (state.endRebindCall attemptId candidate
          (answer.map (loginResult candidate continuing)) cached shown
          fault now)
  | .rebindPresenting attemptId status cached,
      .rebindPresented shown fault now =>
      if ¬ cached ∧ ¬ shown then
        some (state.discardRebind attemptId)
      else
        some
          (state.concludeRebind attemptId status (cached || shown) fault
            now)
  | .dismissing next, .dismissed qrAvailable =>
    match next with
    | .release | .preparePoll _ => some (state.finishLogin next)
    | .stopPoll =>
      some
        { state with
          poll := .stopped
          lock := some (.dismissing .release) }
    | .switchPoll =>
      some
        { state with
          poll := if state.started then .idle else .stopped
          lock := none }
    | .newCandidate current =>
      some (state.beginCandidate current qrAvailable)
  | _, _ => none

/-- One step. -/
def step (maxBytes : Nat) (state : WeixinBinding) :
    Label → Option WeixinBinding
  | .start => some { state with started := true }
  | .restart =>
    some
      { state with
        started := false
        pending := none
        rebindAttempt := 0
        sends := Dict.empty
        poll := .stopped
        lock := none }
  | .control control now => some (state.changeRecord control now)
  | .revoke now => some (state.revokeRecord now)
  | .delete => some { state with record := none }
  | .presentationClosed generation now =>
    state.closePresentation generation now
  | .pollAnswered answer fault now =>
    match state.poll with
    | .calling call => some (state.endPoll call answer fault now)
    | _ => none
  | .pollExpired fault now =>
    match state.poll with
    | .expiring call =>
      some
        ((state.writeFailure call.account
          (expireBinding state.record now) fault).endFailedPoll fault)
    | _ => none
  | .send number origin fault now =>
    if state.sends.contains number then none
    else
      match origin with
      | .reply submission _ _ =>
        if submission ∈ state.submitted then
          some (state.beginSend maxBytes number origin fault now)
        else
          none
      | .notification _ =>
        some (state.beginSend maxBytes number origin fault now)
  | .sendAnswered number answer fault now =>
    match state.sends.get? number with
    | some (.sending call origin rest) =>
      some (state.endSend number call origin rest answer fault now)
    | _ => none
  | .sendExpired number fault now =>
    match state.sends.get? number with
    | some (.expiring call) =>
      some
        { state.writeFailure call.account
            (expireBinding state.record now) fault with
          sends := state.sends.erase number }
    | _ => none
  | .sendCancelled number =>
    some { state with sends := state.sends.erase number }
  | label =>
    match state.lock with
    | none => state.takeLock label
    | some holder => state.resumeHolder holder label

end WeixinBinding

/-- A binding from its invitation on. -/
def weixinMachine (maxBytes : Nat) :
    Machine WeixinBinding WeixinBinding.Label where
  initial state :=
    (∃ id principalId now,
      state.record = some (weixinInvitation id principalId now)) ∧
      state.started = false ∧ state.pending = none ∧
      state.sends = Dict.empty ∧ state.poll = .stopped ∧
      state.lock = none ∧ state.commits = 0 ∧ state.failures = [] ∧
      state.submitted = [] ∧ state.sent = [] ∧ state.issued = []
  step := WeixinBinding.step maxBytes

end TurningGood.Channels
