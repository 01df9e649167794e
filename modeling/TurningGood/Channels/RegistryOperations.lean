import TurningGood.Channels.Registry
import TurningGood.Foundation.Machine

/-!
# Concurrent operations on the account directory

Each account is a file of the directory.  An operation that changes the set
of accounts, or the fields that must differ between accounts, holds the lock
of the directory; every operation on one account holds the lock of its
record.  The claims hold only the latter.  Between two steps of an operation
the other threads run.

The locks are reentrant, but only `revoke` uses that, for its `update`; the
locks are held by the operation, and the update of a revoke is a part of it.
The random ids are drawn when the new record is written.
-/

namespace TurningGood.Channels

open TurningGood.Foundation

/-! ## The directory -/

/-- The platform and the id in the path of a record. -/
abbrev RecordKey := Platform × String

/-- What a file of the directory holds. -/
inductive RecordFile where
  | account (account : ChannelAccount)
  /-- no object of the record version, or one with a field of a wrong type -/
  | invalid
deriving DecidableEq

/-- The digits of `uuid4().hex`. -/
def isHexDigit (char : Char) : Bool := ('0' ≤ char && char ≤ '9') || ('a' ≤ char && char ≤ 'f')

/-- `_validate_account_id`: the canonical text of a UUID. -/
def validAccountId (id : String) : Bool := id.toList.length = 36 &&
    id.toList.zipIdx.all fun (char, index) =>
      if index ∈ [8, 13, 18, 23] then char = '-' else isHexDigit char

/-- `_validate_principal_id`. -/
def validPrincipalId (id : String) : Bool := id ≠ "" && id.length ≤ 256

/-- `_account_from_payload`, for a payload whose fields have their types. -/
def accountFromPayload (key : RecordKey) (account : ChannelAccount) :
    Except String ChannelAccount :=
  if ¬ validAccountId account.id ∨ ¬ validPrincipalId account.principalId then
    .error "账号记录无效"
  else
    match validatePrivate account.privateState with
    | .error _ => .error "账号记录无效"
    | .ok _ =>
      if account.platform ≠ key.1 ∨ account.id ≠ key.2 then
        .error "账号记录无效"
      else
        .ok account

/-- `_read_account`. -/
def readAccount (files : Dict RecordKey RecordFile) (key : RecordKey) :
    Except String (Option ChannelAccount) :=
  match files.get? key with
  | none => .ok none
  | some .invalid => .error "账号记录无效"
  | some (.account account) => (accountFromPayload key account).map some

/-- The paths that `list_accounts` goes through. -/
def recordKeys (files : Dict RecordKey RecordFile) (platform : Platform) :
    List RecordKey :=
  files.keys.filter fun key => key.1 = platform ∧ validAccountId key.2

/-- What `list_accounts` takes from one path. -/
def listedAccount (files : Dict RecordKey RecordFile) (key : RecordKey) :
    List ChannelAccount :=
  match readAccount files key with
  | .ok (some account) => [account]
  | .ok none => []
  | .error _ => []

/-! ## Operations -/

/-- The locks of `_directory_lock` and `_record_lock`. -/
inductive RegistryLock where
  | directory
  | record (key : RecordKey)
deriving DecidableEq

/-- A call of the registry. -/
inductive RegistryOperation where
  | createWeixinInvitation (principalId : Option String)
  | registerFeishuBot (appId appSecret domain : String)
  | update (account : ChannelAccount) (expectedUpdatedAt : Option Nat)
  | replacePrivateState (account : ChannelAccount)
      (expectedUpdatedAt : Option Nat)
  | removePrivateFields (key : RecordKey) (fieldNames : List String)
  | revoke (key : RecordKey)
  | claimWeixinFirstSender (accountId sender contextToken : String)
  | claimInbounds (key : RecordKey) (inboundIds : List String)
  | delete (key : RecordKey)
deriving DecidableEq

/-- What a call returns. -/
inductive RegistryAnswer where
  | account (account : ChannelAccount)
  /-- of `claim_weixin_first_sender` -/
  | sender (account : ChannelAccount) (isSender : Bool)
  /-- of `claim_inbounds` -/
  | claimed (isNew : Bool)
deriving DecidableEq

/-- Where a call stands. -/
inductive RegistryStage where
  /-- it waits for these locks; with none of them left it reads -/
  | entering (locks : List RegistryLock)
  /-- `list_accounts`, before the write of an update or of a new account -/
  | listing (update : Option (ChannelAccount × ChannelAccount))
      (seen : List ChannelAccount) (rest : List RecordKey)
  /-- `_write_account` of a new account -/
  | creating
  /-- `_write_account` over the record that was read -/
  | writing (current updated : ChannelAccount) (answer : RegistryAnswer)
  | unlinking (current : ChannelAccount)
  /-- it gives these locks back, and returns or raises -/
  | leaving (locks : List RegistryLock)
      (outcome : Except String RegistryAnswer)

/-- `register_feishu_bot`: the record of a new bot. -/
def feishuBot (id ownerPrincipalId appId appSecret domain : String)
    (now : Nat) : ChannelAccount where
  id := id
  platform := .feishu
  principalId := ownerPrincipalId
  status := .awaitingOwnerCode
  enabled := true
  subscribed := false
  createdAt := now
  updatedAt := now
  privateState := ((((Dict.empty.insert "app_id" (.text appId)).insert "app_secret"
      (.text appSecret)).insert "domain" (.text domain)).insert
      "credential_state" (.text "configured")).insert "inbound_ids"
      (.texts [])

namespace RegistryOperation

/-- The record of an operation on one account. -/
def key? : RegistryOperation → Option RecordKey
  | .createWeixinInvitation _ | .registerFeishuBot _ _ _ => none
  | .update account _ | .replacePrivateState account _ =>
    some (account.platform, account.id)
  | .removePrivateFields key _ | .revoke key | .claimInbounds key _
  | .delete key => some key
  | .claimWeixinFirstSender accountId _ _ => some (.weixin, accountId)

/-- The locks in the order of the `with` statements. -/
def locks (operation : RegistryOperation) : List RegistryLock :=
  match operation with
  | .createWeixinInvitation _ | .registerFeishuBot _ _ _ => [.directory]
  | .update account _ | .replacePrivateState account _ =>
    [.directory, .record (account.platform, account.id)]
  | .removePrivateFields key _ | .revoke key | .delete key =>
    [.directory, .record key]
  | .claimWeixinFirstSender accountId _ _ =>
    [.record (.weixin, accountId)]
  | .claimInbounds key _ => [.record key]

/-- `_validate_account`. -/
def checkAccount (account : ChannelAccount) : Except String Unit :=
  if ¬ validAccountId account.id then .error "account id 无效"
  else if ¬ validPrincipalId account.principalId then
    .error "principal id 无效"
  else (validatePrivate account.privateState).map fun _ => ()

/-- What is checked before the locks are taken. -/
def check : RegistryOperation → Except String Unit
  | .createWeixinInvitation principalId =>
    if principalId.all validPrincipalId then .ok ()
    else .error "principal id 无效"
  | .registerFeishuBot appId appSecret domain =>
    if ¬ validProtocolValue appId then .error "app_id 无效"
    else if ¬ validProtocolValue appSecret then
      .error "app_secret 无效"
    else if ¬ validProtocolValue domain then .error "domain 无效"
    else .ok ()
  | .update account _ | .replacePrivateState account _ =>
    checkAccount account
  | .removePrivateFields key fieldNames =>
    if ¬ validAccountId key.2 then .error "account id 无效"
    else if fieldNames.isEmpty ∨ fieldNames.contains "" then
      .error "私有字段无效"
    else .ok ()
  | .revoke key | .delete key =>
    if validAccountId key.2 then .ok () else .error "account id 无效"
  | .claimWeixinFirstSender accountId sender contextToken =>
    if ¬ validAccountId accountId then .error "account id 无效"
    else if ¬ validProtocolValue sender then .error "sender 无效"
    else if ¬ validProtocolValue contextToken then
      .error "context_token 无效"
    else .ok ()
  | .claimInbounds key inboundIds =>
    if ¬ validAccountId key.2 then .error "account id 无效"
    else if ¬ inboundIds.all validInboundId ∨ inboundIds.isEmpty then
      .error "入站消息 ID 无效"
    else .ok ()

/-- The operation leaves its `with` statements. -/
def leave (operation : RegistryOperation)
    (outcome : Except String RegistryAnswer) : RegistryStage :=
  .leaving operation.locks.reverse outcome

/--
An update whose fields are in order.  `_validated_private_for_update` lists
the accounts only for the text of an application id.
-/
def checkedUpdate (operation : RegistryOperation)
    (files : Dict RecordKey RecordFile) (current : ChannelAccount)
    (written : Except String ChannelAccount) : RegistryStage :=
  match written with
  | .error message => operation.leave (.error message)
  | .ok updated =>
    if updated.platform = .feishu ∧
        (updated.textField? "app_id").isSome then
      .listing (some (current, updated)) [] (recordKeys files .feishu)
    else
      .writing current updated (.account updated)

/-- The operation has read its record. -/
def afterRead (operation : RegistryOperation)
    (files : Dict RecordKey RecordFile) (current : ChannelAccount)
    (now : Nat) : RegistryStage :=
  match operation with
  | .update account expectedUpdatedAt =>
    operation.checkedUpdate files current
      (writeAccount [] (some current) account true expectedUpdatedAt now)
  | .replacePrivateState account expectedUpdatedAt =>
    operation.checkedUpdate files current
      (writeAccount [] (some current) account false expectedUpdatedAt now)
  | .revoke _ =>
    if current.status = .revoked then
      operation.leave (.ok (.account current))
    else
      operation.checkedUpdate files current (Channels.revoke [] (some current) now)
  | .removePrivateFields _ fieldNames =>
    match Channels.removePrivateFields (some current) fieldNames now with
    | .error message => operation.leave (.error message)
    | .ok updated => .writing current updated (.account updated)
  | .claimWeixinFirstSender _ sender contextToken =>
    match Channels.claimWeixinFirstSender (some current) sender
        contextToken now with
    | .error message => operation.leave (.error message)
    | .ok (updated, isSender) =>
      if updated = current then
        operation.leave (.ok (.sender current isSender))
      else
        .writing current updated (.sender updated isSender)
  | .claimInbounds _ inboundIds =>
    match Channels.claimInbounds (some current) inboundIds now with
    | .error message => operation.leave (.error message)
    | .ok none => operation.leave (.ok (.claimed false))
    | .ok (some updated) => .writing current updated (.claimed true)
  | .delete _ => .unlinking current
  | .createWeixinInvitation _ | .registerFeishuBot _ _ _ => .creating

/-- The operation has its locks. -/
def begin (operation : RegistryOperation)
    (files : Dict RecordKey RecordFile) (now : Nat) : RegistryStage :=
  match operation.key? with
  | none =>
    match operation with
    | .registerFeishuBot _ _ _ =>
      .listing none [] (recordKeys files .feishu)
    | _ => .listing none [] (recordKeys files .weixin)
  | some key =>
    match readAccount files key with
    | .error message => operation.leave (.error message)
    | .ok none => operation.leave (.error "账号不存在")
    | .ok (some current) => operation.afterRead files current now

/-- The account has the application id. -/
def hasAppId (account : ChannelAccount) (appId : String) : Bool :=
  account.textField? "app_id" = some appId

/-- `list_accounts` has returned. -/
def afterListing (operation : RegistryOperation) (ownerPrincipalId : String)
    (update : Option (ChannelAccount × ChannelAccount))
    (seen : List ChannelAccount) : RegistryStage :=
  match update, operation with
  | some (current, updated), _ =>
    if (updated.textField? "app_id").any fun appId =>
        seen.any fun other =>
          other.id ≠ current.id && hasAppId other appId then
      operation.leave (.error "feishu app_id 已登记")
    else
      .writing current updated (.account updated)
  | none, .createWeixinInvitation (some principalId) =>
    if seen.any fun other => other.principalId = principalId then
      operation.leave (.error
          (if principalId = ownerPrincipalId then
            "owner_binding_exists"
          else "principal_binding_exists"))
    else
      .creating
  | none, .registerFeishuBot appId _ _ =>
    if seen.any fun other => hasAppId other appId then
      operation.leave (.error "feishu app_id 已登记")
    else
      .creating
  | none, _ => .creating

/-- The record of a new account, with the ids that are drawn for it. -/
def newAccount (operation : RegistryOperation) (ownerPrincipalId id hex : String) (now : Nat) :
    Option ChannelAccount :=
  match operation with
  | .createWeixinInvitation principalId =>
    some (weixinInvitation id (principalId.getD ("principal-" ++ hex)) now)
  | .registerFeishuBot appId appSecret domain =>
    some (feishuBot id ownerPrincipalId appId appSecret domain now)
  | _ => none

end RegistryOperation

/-! ## The state -/

/-- The owner principal, which the constructor of the registry validates. -/
structure OwnerPrincipal where
  id : String
  valid : validPrincipalId id = true

/-- A call in progress. -/
structure RegistryCall where
  operation : RegistryOperation
  stage : RegistryStage

/-- The directory, the locks and the calls of all threads. -/
structure AccountDirectory where
  files : Dict RecordKey RecordFile
  /-- the call that holds a lock -/
  locks : Dict RegistryLock Nat
  active : Dict Nat RegistryCall
  /-- how many calls were made -/
  calls : Nat
  /-- the calls that have changed a record -/
  changed : List Nat
  /-- the calls that have raised -/
  raised : List Nat

namespace AccountDirectory

/-- What can happen next. -/
inductive Label where
  | call (operation : RegistryOperation)
  /-- a call takes the next lock -/
  | enter (call : Nat)
  /-- a call with its locks reads its record or the paths to list -/
  | read (call : Nat) (now : Nat)
  /-- `list_accounts` goes on to the next path, or returns -/
  | list (call : Nat)
  /-- a write or a removal; `fault` is the text of its exception -/
  | write (call : Nat) (id hex : String) (now : Nat)
      (fault : Option String)
  /-- a call gives a lock back, or has come to its end -/
  | leave (call : Nat)

/-- The call that takes the step. -/
def Label.call? : Label → Option Nat
  | .call _ => none
  | .enter number | .read number _ | .list number
  | .write number _ _ _ _ | .leave number => some number

/-- The call goes on to a stage. -/
def goTo (state : AccountDirectory) (number : Nat)
    (operation : RegistryOperation) (stage : RegistryStage) :
    AccountDirectory :=
  { state with
    active := state.active.insert number
      { operation := operation, stage := stage } }

/-- The lock is free, or the call holds it. -/
def mayTake (state : AccountDirectory) (number : Nat) (lock : RegistryLock) : Bool :=
  (state.locks.get? lock).all fun holder => holder = number

/-- The drawn ids are new, as those of `uuid4` are. -/
def drawnFresh (state : AccountDirectory) (account : ChannelAccount) (hex : String) : Bool :=
  validAccountId account.id && hex.length = 32 &&
    state.files.get? (account.platform, account.id) = none &&
    state.files.values.all fun file =>
      match file with
      | .account other =>
        other.platform = .feishu || other.principalId ≠ "principal-" ++ hex
      | .invalid => true

/-- The write of a call, as the files are afterwards. -/
def written (state : AccountDirectory) (number : Nat)
    (operation : RegistryOperation) (files : Dict RecordKey RecordFile)
    (answer : RegistryAnswer) : AccountDirectory :=
  { state.goTo number operation (operation.leave (.ok answer)) with
    files := files
    changed := number :: state.changed }

/-- The call has come to its end. -/
def ended (state : AccountDirectory) (number : Nat)
    (outcome : Except String RegistryAnswer) : AccountDirectory :=
  { state with
    active := state.active.erase number
    raised :=
      match outcome with
      | .error _ => number :: state.raised
      | .ok _ => state.raised }

/-- The last step of a call before it leaves. -/
def write (owner : OwnerPrincipal) (state : AccountDirectory)
    (number : Nat) (call : RegistryCall) (id hex : String) (now : Nat) :
    Option AccountDirectory :=
  match call.stage with
  | .creating =>
    match call.operation.newAccount owner.id id hex now with
    | none => none
    | some account =>
      if state.drawnFresh account hex then
        some (state.written number call.operation
            (state.files.insert (account.platform, account.id) (.account account))
            (.account account))
      else
        none
  | .writing current updated answer =>
    some (state.written number call.operation
        (state.files.insert (current.platform, current.id) (.account updated))
        answer)
  | .unlinking current =>
    some (state.written number call.operation (state.files.erase (current.platform, current.id))
        (.account current))
  | _ => none

/-- Whether the call is before a write or a removal. -/
def writes : RegistryStage → Bool
  | .creating | .writing _ _ _ | .unlinking _ => true
  | .entering _ | .listing _ _ _ | .leaving _ _ => false

/-- One step of a call. -/
def stepCall (owner : OwnerPrincipal) (state : AccountDirectory)
    (number : Nat) (call : RegistryCall) (label : Label) :
    Option AccountDirectory :=
  match label, call.stage with
  | .enter _, .entering (lock :: rest) =>
    if state.mayTake number lock then
      some
        { state.goTo number call.operation (.entering rest) with
          locks := state.locks.insert lock number }
    else
      none
  | .read _ now, .entering [] =>
    some (state.goTo number call.operation (call.operation.begin state.files now))
  | .list _, .listing update seen (key :: rest) =>
    if state.mayTake number (.record key) then
      some (state.goTo number call.operation
          (.listing update (seen ++ listedAccount state.files key) rest))
    else
      none
  | .list _, .listing update seen [] =>
    some (state.goTo number call.operation (call.operation.afterListing owner.id update seen))
  | .write _ id hex now none, _ => state.write owner number call id hex now
  | .write _ _ _ _ (some message), stage =>
    if writes stage then
      some (state.goTo number call.operation (call.operation.leave (.error message)))
    else
      none
  | .leave _, .leaving (lock :: rest) outcome =>
    some
      { state.goTo number call.operation (.leaving rest outcome) with
        locks := state.locks.erase lock }
  | .leave _, .leaving [] outcome => some (state.ended number outcome)
  | _, _ => none

/-- One step. -/
def step (owner : OwnerPrincipal) (state : AccountDirectory)
    (label : Label) : Option AccountDirectory :=
  match label with
  | .call operation =>
    some
      { state.goTo state.calls operation
          (match operation.check with
          | .ok () => .entering operation.locks
          | .error message => .leaving [] (.error message)) with
        calls := state.calls + 1 }
  | .enter number | .read number _ | .list number
  | .write number _ _ _ _ | .leave number =>
    match state.active.get? number with
    | none => none
    | some call => state.stepCall owner number call label

/-- No call is in progress. -/
def atRest (files : Dict RecordKey RecordFile) : AccountDirectory where
  files := files
  locks := Dict.empty
  active := Dict.empty
  calls := 0
  changed := []
  raised := []

end AccountDirectory

end TurningGood.Channels
