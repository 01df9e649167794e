import TurningGood.Channels.Registry
import TurningGood.Foundation.Machine

/-!
# The Feishu transport and the record of one account

`FeishuTransport` handles the events of a bot account and keeps the life
cycle of its connection.  The handling of an event does not await anything
before the message is handed to the coordinator, so it is one step.  It
reads the account, claims the ids of the message, and may then write the
account back: to lock the owner, or to remember the conversation.

A start of the connection awaits the client between reading and writing, so
it is several steps; the copy it writes may have been read even earlier.
-/

namespace TurningGood.Channels

open TurningGood.Foundation
open TurningGood.Foundation.Text

/-- The fields of an event payload that `_parse_event` reads. -/
structure FeishuEvent where
  eventId : Option String
  messageId : Option String
  senderOpenId : Option String
  chatId : Option String
  chatType : String
  messageType : String
  /-- the text of the decoded content -/
  text : Option String
deriving DecidableEq

/-- The result of `_parse_event`, without the metadata for the turn. -/
structure ParsedEvent where
  eventKey : String
  dedupeKeys : List String
  sender : String
  chatId : String
  chatType : String
  isText : Bool
  content : String
deriving DecidableEq

/-- `_parse_event`. -/
def parseEvent (event : FeishuEvent) : Option ParsedEvent :=
  match event.senderOpenId, event.chatId, event.text with
  | some sender, some chatId, some content =>
    let eventId := event.eventId.getD ""
    let messageId := event.messageId.getD ""
    if sender = "" ∨ chatId = "" ∨
        (event.eventId = none ∧ event.messageId = none) then
      none
    else
      some
        { eventKey := if messageId ≠ "" then messageId else eventId
          dedupeKeys := distinctIds ([messageId, eventId].filter (· ≠ ""))
          sender := sender
          chatId := chatId
          chatType := lower event.chatType
          isText := lower event.messageType = "text"
          content := content }
  | _, _, _ => none

/-! ## Owner codes -/

/-- What `datetime.fromisoformat` makes of a text. -/
inductive IsoTime where
  | invalid
  | naive
  | aware (instant : Nat)
deriving DecidableEq

/-- The digest and the time format that the owner codes rely on. -/
structure OwnerCodes where
  hashOwnerCode : String → String
  fromIsoformat : String → IsoTime
  isoformat : Nat → String

/-- `_OWNER_CODE_TTL_SECONDS`, in microseconds. -/
def ownerCodeTtl : Nat := 10 * 60 * 1000000

/-- `owner_open_id` if it is a nonempty text. -/
def ChannelAccount.ownerOpenId? (account : ChannelAccount) :
    Option String :=
  (account.textField? "owner_open_id").filter (· ≠ "")

/-- `_verify_owner_code`; comparing with a naive time raises. -/
def verifyOwnerCode (codes : OwnerCodes) (account : ChannelAccount)
    (content : String) (now : Nat) : Except String Bool :=
  match account.textField? "owner_code_hash",
      account.textField? "owner_code_expires_at" with
  | some codeHash, some expiresAt =>
    match codes.fromIsoformat expiresAt with
    | .invalid => .ok false
    | .naive =>
      .error "can't compare offset-naive and offset-aware datetimes"
    | .aware instant =>
      if instant < now then .ok false
      else .ok (codeHash = codes.hashOwnerCode (strip content))
  | _, _ => .ok false

/-- `_owner_reverification_pending`. -/
def ownerReverificationPending (account : ChannelAccount) : Bool :=
  (account.textField? "owner_code_hash").isSome &&
    (account.textField? "owner_code_expires_at").isSome

/-- `_looks_like_owner_code`. -/
def looksLikeOwnerCode (content : String) : Bool :=
  isAsciiDecimal (strip content) && (strip content).length == 6

/-- `_clean_private`. -/
def cleanPrivate (privateState : Dict String PrivateValue) :
    Dict String PrivateValue :=
  privateState.erase "cardkit_enabled"

/-- Whether a legacy field is stored. -/
def hasLegacyField (account : ChannelAccount) : Bool :=
  account.privateState.contains "cardkit_enabled"

/-- The account that `_lock_owner` writes. -/
def lockOwnerCandidate (account : ChannelAccount) (sender chatId : String) : ChannelAccount :=
  { account with
    status := .active
    privateState := (((((cleanPrivate account.privateState).insert "owner_open_id"
          (.text sender)).insert "conversation_id"
          (.text (account.id ++ ":" ++ chatId))).erase
          "owner_code_hash").erase "owner_code_expires_at").insert
          "connected" (.flag true) }

/-- The account that `_remember_conversation` writes. -/
def rememberCandidate (account : ChannelAccount) (chatId : String) :
    ChannelAccount :=
  { account with
    privateState := (cleanPrivate account.privateState).insert "conversation_id"
        (.text (account.id ++ ":" ++ chatId)) }

/-- `_persist_private_state`, where `current` is the copy that was read. -/
def persistPrivateState (otherAppIds : List String)
    (stored : Option ChannelAccount) (current candidate : ChannelAccount)
    (now : Nat) : Except String ChannelAccount :=
  writeAccount otherAppIds stored candidate (!hasLegacyField current) none now

/-- What `_handle_event` does after an accepted claim. -/
inductive AfterClaim where
  | ignored
  | raised (message : String)
  /-- `_lock_owner` or `_remember_conversation` writes the copy back -/
  | writeBack (candidate : ChannelAccount)
  /-- `_complete_owner_reverification` -/
  | removeOwnerCode
  /-- the message goes to the coordinator -/
  | accept
deriving DecidableEq

/-- `_handle_event` from the accepted claim on, for the copy it has read. -/
def afterClaim (codes : OwnerCodes) (account : ChannelAccount)
    (parsed : ParsedEvent) (now : Nat) : AfterClaim :=
  match account.ownerOpenId? with
  | none =>
    match verifyOwnerCode codes account parsed.content now with
    | .error message => .raised message
    | .ok false => .ignored
    | .ok true =>
      .writeBack (lockOwnerCandidate account parsed.sender parsed.chatId)
  | some owner =>
    if parsed.sender ≠ owner then
      .ignored
    else
      let verified :=
        if ownerReverificationPending account then
          verifyOwnerCode codes account parsed.content now
        else
          .ok false
      match verified with
      | .error message => .raised message
      | .ok true => .removeOwnerCode
      | .ok false =>
        if ownerReverificationPending account ∧
            looksLikeOwnerCode parsed.content then
          .ignored
        else if strip parsed.content = "" then
          .ignored
        else if account.privateState.get? "conversation_id" =
            some (.text (account.id ++ ":" ++ parsed.chatId)) then
          .accept
        else
          .writeBack (rememberCandidate account parsed.chatId)

/-- `_on_event` in the middle: a copy, its event and the claimed record. -/
structure ClaimedEvent where
  account : ChannelAccount
  parsed : ParsedEvent
  claimed : ChannelAccount
  inboundIds : List String
deriving DecidableEq

/-- `_handle_event` up to an accepted claim. -/
def claimEvent (stored : Option ChannelAccount) (event : FeishuEvent)
    (now : Nat) : Option ClaimedEvent :=
  match stored, parseEvent event with
  | some account, some parsed =>
    let inboundIds :=
      parsed.dedupeKeys.map fun key =>
        "feishu:" ++ account.id ++ ":" ++ key
    if account.enabled ∧ parsed.chatType = "p2p" ∧ parsed.isText then
      match claimInbounds stored inboundIds now with
      | .ok (some claimed) =>
        some ⟨account, parsed, claimed, distinctIds inboundIds⟩
      | _ => none
    else
      none
  | _, _ => none

/-! ## The system around one account -/

/-- A start of the connection that awaits its client. -/
structure StartAttempt where
  account : ChannelAccount
  previous : ChannelAccount
  expectedRevision : Nat
  replacePrivate : Bool
  /-- `updated_at` of the written record, once it is written -/
  committed : Option Nat
deriving DecidableEq

/--
The stored record of one account, the ids of the other bots, and the start
that holds the life cycle lock.  `accepted` is the history of the accepted
claims, oldest first.
-/
structure FeishuAccount where
  record : Option ChannelAccount
  ownerPrincipalId : String
  otherAppIds : List String
  start : Option StartAttempt
  accepted : List String

namespace FeishuAccount

/-- The record after a write that succeeded; a failed write changes nothing. -/
def store (state : FeishuAccount) : Except String ChannelAccount → FeishuAccount
  | .ok updated => { state with record := some updated }
  | .error _ => state

/-- `_handle_event`, up to the hand-over to the coordinator. -/
def handleEvent (codes : OwnerCodes) (state : FeishuAccount)
    (event : FeishuEvent) (now : Nat) : FeishuAccount :=
  match claimEvent state.record event now with
  | none => state
  | some claim =>
    let claimed :=
      { state with
        record := some claim.claimed
        accepted := state.accepted ++ claim.inboundIds }
    match afterClaim codes claim.account claim.parsed now with
    | .writeBack candidate =>
      claimed.store (persistPrivateState state.otherAppIds claimed.record
          claim.account candidate now)
    | .removeOwnerCode =>
      claimed.store (removePrivateFields claimed.record
          ["owner_code_hash", "owner_code_expires_at"] now)
    | _ => claimed

/-- `claim_inbounds` on its own. -/
def claim (state : FeishuAccount) (inboundIds : List String) (now : Nat) : FeishuAccount :=
  match claimInbounds state.record inboundIds now with
  | .ok (some claimed) =>
    { state with
      record := some claimed
      accepted := state.accepted ++ distinctIds inboundIds }
  | _ => state

/-- Read the record, change the copy and write it back in one step. -/
def rewrite (state : FeishuAccount) (change : ChannelAccount → Option ChannelAccount) (now : Nat) :
    FeishuAccount :=
  match state.record with
  | none => state
  | some current =>
    match change current with
    | none => state
    | some candidate =>
      state.store (persistPrivateState state.otherAppIds state.record current candidate now)

/-- `_mark_disconnected_by_id_locked`. -/
def markDisconnected (current : ChannelAccount) : Option ChannelAccount :=
  if current.status = .revoked then
    none
  else
    some
      { current with
        status :=
          if current.status ≠ .disabled then .failed else current.status
        privateState := (cleanPrivate current.privateState).insert "connected" (.flag false) }

/-- `on_state_change` for a connection that is back. -/
def connectionRestored (current : ChannelAccount) :
    Option ChannelAccount :=
  if ¬ current.enabled ∨ current.status ≠ .failed then
    none
  else
    some
      { current with
        status :=
          if current.ownerOpenId?.isSome then .active
          else .awaitingOwnerCode
        privateState := (cleanPrivate current.privateState).insert "connected" (.flag true) }

/-- `issue_owner_code`. -/
def issueOwnerCode (codes : OwnerCodes) (ownerPrincipalId code : String)
    (now : Nat) (current : ChannelAccount) : Option ChannelAccount :=
  if current.principalId ≠ ownerPrincipalId ∨
      ¬ (isAsciiDecimal code ∧ code.length = 6) then
    none
  else
    let ownerLocked := current.ownerOpenId?.isSome
    some
      { current with
        status :=
          if ownerLocked then current.status else .awaitingOwnerCode
        enabled := if ownerLocked then current.enabled else true
        privateState := ((cleanPrivate current.privateState).insert "owner_code_hash"
            (.text (codes.hashOwnerCode code))).insert
            "owner_code_expires_at"
            (.text (codes.isoformat (now + ownerCodeTtl))) }

/-- The account operations of the control plane. -/
inductive ControlChange where
  | subscribe
  | unsubscribe
  | enable
  | disable
deriving DecidableEq

/-- `ChannelControlService`: the changed copy, if the operation is allowed. -/
def controlChange (change : ControlChange) (account : ChannelAccount) :
    Option ChannelAccount :=
  match change with
  | .subscribe =>
    if account.status = .revoked then none
    else some { account with subscribed := true }
  | .unsubscribe => some { account with subscribed := false }
  | .enable =>
    if account.status = .revoked then none
    else
      some
        { account with
          enabled := true
          status :=
            if account.ownerOpenId?.isSome then .active
            else .awaitingOwnerCode }
  | .disable =>
    if account.status = .revoked then none
    else some { account with enabled := false, status := .disabled }

/-- `_start_account_locked` up to the await of `start_bot`. -/
def beginStart (state : FeishuAccount) (account : ChannelAccount)
    (replacePrivate : Bool) (expectedUpdatedAt : Option Nat) :
    FeishuAccount :=
  match state.record with
  | none => state
  | some previous =>
    let expectedRevision :=
      expectedUpdatedAt.getD previous.updatedAt
    if previous.updatedAt ≠ expectedRevision then
      state
    else
      { state with
        start := some
          { account :=
              { account with
                privateState := cleanPrivate account.privateState }
            previous := previous
            expectedRevision := expectedRevision
            replacePrivate := replacePrivate
            committed := none } }

/-- `reload_account` up to the await of `start_bot`. -/
def beginReload (state : FeishuAccount) (candidate : Option ChannelAccount) : FeishuAccount :=
  match state.record with
  | none => state
  | some current =>
    let selected := candidate.getD current
    if selected.id ≠ current.id ∨
        selected.principalId ≠ current.principalId then
      state
    else
      match validatedPrivateForUpdate state.otherAppIds current selected
          true with
      | .error _ => state
      | .ok _ =>
        if selected.privateState.get? "app_id" ≠
            current.privateState.get? "app_id" then
          state.beginStart
            { selected with
              status := .awaitingOwnerCode
              privateState := ["owner_open_id", "conversation_id",
                  "owner_code_hash", "owner_code_expires_at"].foldl
                  Dict.erase selected.privateState }
            true (some current.updatedAt)
        else
          state.beginStart selected false (some current.updatedAt)

/-- The account that a successful start writes. -/
def startedCandidate (attempt : StartAttempt) : ChannelAccount :=
  { attempt.account with
    status :=
      if attempt.account.ownerOpenId?.isSome then .active
      else .awaitingOwnerCode
    privateState := ((cleanPrivate attempt.account.privateState).insert "connected"
        (.flag true)).insert "instance_id" (.text attempt.account.id) }

/-- `_start_account_locked` after `start_bot`, up to its last await. -/
def commitStart (state : FeishuAccount) (attempt : StartAttempt)
    (connected : Bool) (now : Nat) : FeishuAccount :=
  if ¬ connected then
    { state with start := none }
  else
    let written :=
      writeAccount state.otherAppIds state.record (startedCandidate attempt)
        (!(attempt.replacePrivate || hasLegacyField attempt.previous))
        (some attempt.expectedRevision) now
    match written with
    | .error _ => { state with start := none }
    | .ok updated =>
      { state with
        record := some updated
        start := some { attempt with committed := some now } }

/-- `_restore_registry`, when the previous client could not be stopped. -/
def restoreStart (state : FeishuAccount) (attempt : StartAttempt)
    (committed now : Nat) : FeishuAccount :=
  { state with start := none }.store
    (writeAccount state.otherAppIds state.record
      { attempt.previous with
        privateState := cleanPrivate attempt.previous.privateState }
      false (some committed) now)

/-- What can happen to the account. -/
inductive Event where
  | event (event : FeishuEvent) (now : Nat)
  | claim (inboundIds : List String) (now : Nat)
  | disconnected (now : Nat)
  | connectionRestored (now : Nat)
  | issueOwnerCode (code : String) (now : Nat)
  | control (change : ControlChange) (now : Nat)
  | revoke (now : Nat)
  /-- `start` or `enable_account`, with the copy that was read before -/
  | beginStart (account : ChannelAccount)
  | beginReload (candidate : Option ChannelAccount)
  | commitStart (connected : Bool) (now : Nat)
  | restoreStart (now : Nat)
  | endStart
  | otherAccounts (appIds : List String)
  | delete
  | restart

/-- One event; a start holds the life cycle lock of the account. -/
def step (codes : OwnerCodes) (state : FeishuAccount) : Event → Option FeishuAccount
  | .event event now => some (state.handleEvent codes event now)
  | .claim inboundIds now => some (state.claim inboundIds now)
  | .disconnected now => some (state.rewrite markDisconnected now)
  | .connectionRestored now =>
    some (state.rewrite FeishuAccount.connectionRestored now)
  | .issueOwnerCode code now =>
    some (state.rewrite (FeishuAccount.issueOwnerCode codes state.ownerPrincipalId code now) now)
  | .control change now =>
    match state.record with
    | none => some state
    | some account =>
      match controlChange change account with
      | none => some state
      | some candidate =>
        some (state.store (writeAccount state.otherAppIds state.record candidate true none now))
  | .revoke now =>
    some (state.store (Channels.revoke state.otherAppIds state.record now))
  | .beginStart account =>
    if state.start = none then
      some (state.beginStart account false none)
    else
      none
  | .beginReload candidate =>
    if state.start = none then some (state.beginReload candidate)
    else none
  | .commitStart connected now =>
    match state.start with
    | some attempt =>
      if attempt.committed = none then
        some (state.commitStart attempt connected now)
      else
        none
    | none => none
  | .restoreStart now =>
    match state.start with
    | some attempt =>
      attempt.committed.map fun committed =>
        state.restoreStart attempt committed now
    | none => none
  | .endStart => some { state with start := none }
  | .otherAccounts appIds => some { state with otherAppIds := appIds }
  | .delete => some { state with record := none, start := none }
  | .restart => some { state with start := none }

end FeishuAccount

/-- `register_feishu_bot`: the record of a new account. -/
def registerFeishuBot (id ownerPrincipalId appId appSecret domain : String)
    (now : Nat) : ChannelAccount where
  id := id
  platform := .feishu
  principalId := ownerPrincipalId
  status := .awaitingOwnerCode
  enabled := true
  subscribed := false
  createdAt := now
  updatedAt := now
  privateState := ((((Dict.empty.insert "app_id" (.text appId)).insert "app_secret"
      (.text appSecret)).insert "domain" (.text domain)).insert
      "credential_state" (.text "configured")).insert "inbound_ids"
      (.texts [])

/-- An account from its registration on. -/
def feishuMachine (codes : OwnerCodes) : Machine FeishuAccount FeishuAccount.Event where
  initial state := (∃ id ownerPrincipalId appId appSecret domain now, state.record =
        some (registerFeishuBot id ownerPrincipalId appId appSecret domain now)) ∧
      state.start = none ∧ state.accepted = []
  step := FeishuAccount.step codes

end TurningGood.Channels
