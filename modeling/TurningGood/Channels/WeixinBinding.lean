import TurningGood.Channels.WeixinEvents

/-!
# The record of a WeChat binding

What `WeixinTransport` writes to the record of one binding: the results of
logins and polls, the failures of calls, the commit of a new login, and the
handling of an event up to its first await.  The epoch of a binding counts
the logins that have been committed in place of an earlier one.
-/

namespace TurningGood.Channels

open TurningGood.Foundation
open TurningGood.Foundation.Text

namespace ChannelAccount

/-- `bool(account.private.get(name))`. -/
def fieldTruthy (account : ChannelAccount) (name : String) : Bool :=
  (account.privateState.get? name).any PrivateValue.truthy

/-- `_binding_epoch`. -/
def bindingEpoch (account : ChannelAccount) : Nat :=
  match account.privateState.get? "binding_epoch" with
  | some (.number value) => value.toNat
  | some (.flag true) => 1
  | _ => 0

/-- `_is_active_account`. -/
def isActive (account : ChannelAccount) : Bool :=
  account.enabled && account.status = .active && account.fieldTruthy "context_token" &&
    account.fieldTruthy "from_user_id" &&
    ((account.privateState.get? "connected").getD (.flag true)).truthy

end ChannelAccount

/-! ## Answers of the platform -/

/-- `IlinkLoginResult`. -/
structure LoginResult where
  status : AccountStatus
  privateUpdate : Dict String PrivateValue
  qrContent : Option String
deriving DecidableEq

/-- What the platform answers to the request for a QR code. -/
inductive QrCodeAnswer where
  | code (qrcode : String) (content : Option String)
  | invalid
deriving DecidableEq

/-- What the platform answers to the request for the state of a QR code. -/
inductive QrStatusAnswer where
  | waiting (scanned : Bool)
  | expired
  | confirmed (botToken botId baseUrl : String) (userId : Option String)
  | invalid
deriving DecidableEq

/-- The result of a login that failed. -/
def LoginResult.failed : LoginResult where
  status := .failed
  privateUpdate := Dict.empty.insert "credential_state" (.text "invalid")
  qrContent := none

/-- `begin_login`. -/
def beginLogin (binding : ChannelAccount) (answer : QrCodeAnswer) :
    LoginResult :=
  if binding.fieldTruthy "bot_token" ∧ binding.fieldTruthy "ilink_bot_id" then
    { status := .awaitingFirstDm
      privateUpdate := Dict.empty.insert "credential_state" (.text "configured")
      qrContent := none }
  else
    match answer with
    | .invalid => .failed
    | .code qrcode content =>
      if qrcode = "" then
        .failed
      else
        { status := .pendingQr
          privateUpdate := (Dict.empty.insert "qrcode" (.text qrcode)).insert
              "credential_state" (.text "pending")
          qrContent := content.filter (· ≠ "") }

/-- `continue_login`. -/
def continueLogin (binding : ChannelAccount) (answer : QrStatusAnswer) :
    LoginResult :=
  if (binding.textField? "qrcode").filter (· ≠ "") = none then
    .failed
  else
    match answer with
    | .waiting scanned =>
      { status := .pendingQr
        privateUpdate := Dict.empty.insert "qr_status"
            (.text (if scanned then "scaned" else "wait"))
        qrContent := none }
    | .expired =>
      { status := .expired
        privateUpdate := (Dict.empty.insert "credential_state" (.text "expired")).insert
            "qr_status" (.text "expired")
        qrContent := none }
    | .invalid => .failed
    | .confirmed botToken botId baseUrl userId =>
      if botToken = "" ∨ botId = "" ∨ baseUrl = "" then
        .failed
      else
        let update :=
          ((((Dict.empty.insert "bot_token" (.text botToken)).insert
            "ilink_bot_id" (.text botId)).insert "base_url"
            (.text baseUrl)).insert "credential_state"
            (.text "configured")).insert "qr_status" (.text "confirmed")
        { status := .awaitingFirstDm
          privateUpdate :=
            match userId.filter (· ≠ "") with
            | some id => update.insert "ilink_user_id" (.text id)
            | none => update
          qrContent := none }

/-- What the platform answers to a login, begun or continued. -/
structure LoginAnswer where
  qrCode : QrCodeAnswer
  qrStatus : QrStatusAnswer
deriving DecidableEq

/-- `continue_login` or `begin_login`. -/
def loginResult (binding : ChannelAccount) (continuing : Bool)
    (answer : LoginAnswer) : LoginResult :=
  if continuing then continueLogin binding answer.qrStatus
  else beginLogin binding answer.qrCode

/-- `IlinkPollResult`; the private update is the cursor. -/
structure PollResult where
  events : List WeixinEvent
  cursor : Option String
deriving DecidableEq

/-- `private_update` of a poll. -/
def PollResult.privateUpdate (result : PollResult) :
    Dict String PrivateValue :=
  match result.cursor with
  | some cursor => Dict.empty.insert "cursor" (.text cursor)
  | none => Dict.empty

/-! ## Writes of the record -/

/-- `_update_account`. -/
def updateAccount (record : Option ChannelAccount)
    (account : ChannelAccount) (status : Option AccountStatus)
    (privateUpdate : Dict String PrivateValue) (now : Nat) :
    Except String ChannelAccount :=
  let current := record.getD account
  writeAccount [] record
    { current with
      status := status.getD current.status
      privateState := current.privateState.update privateUpdate }
    true none now

/-- `_apply_private_update`. -/
def applyPrivateUpdate (record : Option ChannelAccount)
    (current : ChannelAccount) (update : Dict String PrivateValue)
    (now : Nat) : Except String ChannelAccount :=
  if update.entries = [] then .ok current
  else updateAccount record current none update now

/-- The account that `_mark_disconnected` writes. -/
def disconnectedCandidate (current : ChannelAccount) : ChannelAccount :=
  { current with
    privateState := current.privateState.insert "connected" (.flag false) }

/-- `_mark_disconnected`; a rejected write leaves the record. -/
def markDisconnected (record : Option ChannelAccount) (now : Nat) :
    Option ChannelAccount :=
  match record with
  | none => none
  | some current =>
    if current.status = .revoked then
      record
    else
      match writeAccount [] record (disconnectedCandidate current) true
          none now with
      | .ok updated => some updated
      | .error _ => record

/-- The private fields that an expiry removes. -/
def expiredFields : List String := ["bot_token", "ilink_bot_id", "ilink_user_id", "from_user_id",
    "context_token", "cursor", "qrcode", "qr_status"]

/-- The account that `_expire_binding` writes. -/
def expiredCandidate (current : ChannelAccount) : ChannelAccount :=
  { current with
    status := .expired
    enabled := false
    privateState := ((expiredFields.foldl Dict.erase current.privateState).insert
        "credential_state" (.text "expired")).insert "connected"
        (.flag false) }

/-- `_expire_binding` after its await; a rejected write leaves the record. -/
def expireBinding (record : Option ChannelAccount) (now : Nat) :
    Option ChannelAccount :=
  match record with
  | none => none
  | some current =>
    if current.status = .revoked then
      record
    else
      match writeAccount [] record (expiredCandidate current) false none
          now with
      | .ok updated => some updated
      | .error _ => record

/-- `_fail_pending_qr`. -/
def failPendingQr (record : Option ChannelAccount)
    (account : ChannelAccount) (credentialState : String) (now : Nat) :
    Except String ChannelAccount :=
  let current := record.getD account
  writeAccount [] record
    { current with
      status := .failed
      privateState := (((current.privateState.insert "credential_state"
          (.text credentialState)).insert "connected"
          (.flag false)).insert "qrcode" (.other "null")).insert
          "qr_status" (.other "null") }
    true none now

/-- The private fields of a candidate that a commit drops. -/
def candidateFields : List String :=
  ["from_user_id", "context_token", "cursor", "conversation_id", "qrcode",
    "qr_status"]

/-- The account that `_commit_rebind_locked` writes. -/
def committedCandidate (current candidate : ChannelAccount) :
    ChannelAccount :=
  { current with
    status := .awaitingFirstDm
    enabled := true
    privateState := (((candidateFields.foldl Dict.erase candidate.privateState).insert
        "inbound_ids" (.texts [])).insert "connected" (.flag false)).insert
        "binding_epoch" (.number (current.bindingEpoch + 1)) }

/-- The account operations of `ChannelControlService` on a binding. -/
inductive WeixinControl where
  | subscribe
  | unsubscribe
  | enable
  | disable
deriving DecidableEq

/-- The status that `enable` gives to a binding. -/
def enabledStatus (account : ChannelAccount) : AccountStatus :=
  if account.fieldTruthy "from_user_id" then
    .active
  else if account.fieldTruthy "bot_token" ∧
      account.fieldTruthy "ilink_bot_id" then
    .awaitingFirstDm
  else
    .pendingQr

/-- The account that a control operation writes, if it is allowed. -/
def controlCandidate (control : WeixinControl) (account : ChannelAccount) :
    Option ChannelAccount :=
  match control with
  | .subscribe =>
    if account.status = .revoked then none
    else some { account with subscribed := true }
  | .unsubscribe => some { account with subscribed := false }
  | .enable =>
    if account.status = .revoked ∨ account.status = .expired then none
    else
      some
        { account with
          enabled := true
          status := enabledStatus account }
  | .disable =>
    if account.status = .revoked then none
    else some { account with enabled := false, status := .disabled }

/-! ## Events -/

/-- Which writes of one handling raise. -/
structure WriteFaults where
  firstSender : Bool
  inbound : Bool
  context : Bool
deriving DecidableEq

/-- No write raises. -/
def WriteFaults.none : WriteFaults where
  firstSender := false
  inbound := false
  context := false

/-- A message for the coordinator; the route is that of the binding. -/
structure WeixinInbound where
  id : String
  principalId : String
  conversationId : String
  content : String
  bindingEpoch : Nat
deriving DecidableEq

/-- Where the handling of an event has come to at its first await. -/
inductive Handled where
  | raised (message : String)
  /-- `False`, without an await -/
  | finished
  /-- awaits `_send_notice` -/
  | notice (account : ChannelAccount)
  /-- awaits `coordinator.accept` -/
  | accept (inbound : WeixinInbound)
deriving DecidableEq

/--
The sender lock of `_handle_event`: the record and the account afterwards, or
`none` where the event is refused.
-/
def lockSender (record : Option ChannelAccount) (account : ChannelAccount)
    (event : WeixinEvent) (parsed : ParsedWeixinEvent)
    (faults : WriteFaults) (now : Nat) :
    Except String (Option (Option ChannelAccount × ChannelAccount)) :=
  match account.lockedSender? with
  | some locked =>
    .ok (if parsed.sender = locked then some (record, account) else none)
  | none =>
    match event.contextToken? with
    | none => .ok none
    | some contextToken =>
      if ¬ parsed.isText ∨ strip parsed.content = "" then
        .ok none
      else
        match claimWeixinFirstSender record parsed.sender contextToken
            now with
        | .error message => .error message
        | .ok (_, false) => .ok none
        | .ok (updated, true) =>
          if faults.firstSender ∧
              record.bind ChannelAccount.lockedSender? = none then
            .error "OSError"
          else
            .ok (some (some updated, updated))

/-- The record and the account after the context token of an event. -/
def refreshContext (claimed account : ChannelAccount)
    (event : WeixinEvent) (faults : WriteFaults) (now : Nat) :
    Except String (ChannelAccount × ChannelAccount) :=
  match event.contextToken? with
  | none => .ok (claimed, account)
  | some contextToken =>
    match updateAccount (some claimed) account none
        ((Dict.empty.insert "context_token" (.text contextToken)).insert
          "connected" (.flag true)) now with
    | .error message => .error message
    | .ok updated =>
      if faults.context then .error "OSError"
      else .ok (updated, updated)

/-- `_handle_event` after the claim of the message. -/
def handleClaimed (claimed account : ChannelAccount) (event : WeixinEvent)
    (parsed : ParsedWeixinEvent) (inboundId : String)
    (faults : WriteFaults) (now : Nat) : ChannelAccount × Handled :=
  match refreshContext claimed account event faults now with
  | .error message => (claimed, .raised message)
  | .ok (stored, account) =>
    if ¬ parsed.isText then
      (stored, .notice account)
    else if strip parsed.content = "" then
      (stored, .finished)
    else
      (stored, .accept
          { id := inboundId
            principalId := account.principalId
            conversationId := account.id
            content := strip parsed.content
            bindingEpoch := account.bindingEpoch })

/-- `_handle_event` up to its first await. -/
def handleWeixinEvent (record : Option ChannelAccount)
    (account : ChannelAccount) (event : WeixinEvent)
    (faults : WriteFaults) (now : Nat) :
    Option ChannelAccount × Handled :=
  match parseWeixinEvent event with
  | none => (record, .finished)
  | some parsed =>
    if ¬ isPrivateChat event then
      (record, .finished)
    else
      match lockSender record account event parsed faults now with
      | .error message => (record, .raised message)
      | .ok none => (record, .finished)
      | .ok (some (record, account)) =>
        let inboundId :=
          "weixin:" ++ account.id ++ ":" ++ parsed.messageKey
        match claimInbounds record [inboundId] now with
        | .error message => (record, .raised message)
        | .ok none => (record, .finished)
        | .ok (some claimed) =>
          if faults.inbound then
            (record, .raised "OSError")
          else
            let result :=
              handleClaimed claimed account event parsed inboundId faults now
            (some result.1, result.2)

end TurningGood.Channels
