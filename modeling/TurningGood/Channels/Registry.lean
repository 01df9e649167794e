import TurningGood.Foundation.Dict
import TurningGood.Foundation.Text

/-!
# The records of the channel accounts

`ChannelAccountRegistry` stores one record for each account of a platform.
The private part of a record is a dictionary that several writers share: the
claims of inbound messages, the life cycle of the connection and the control
plane.  A writer hands over a whole account, and its private fields replace
the stored ones.
-/

namespace TurningGood.Channels

open TurningGood.Foundation
open TurningGood.Foundation.Text

variable {now : Nat} {otherAppIds : List String} {mergePrivate : Bool}
  {expectedUpdatedAt : Option Nat}

/-! ## Records -/

/-- The platforms of `_PLATFORMS`. -/
inductive Platform where
  | feishu
  | weixin
deriving DecidableEq

/-- The statuses of `_STATUSES`. -/
inductive AccountStatus where
  | pendingQr
  | awaitingFirstDm
  | awaitingOwnerCode
  | connecting
  | active
  | disabled
  | expired
  | failed
  | revoked
deriving DecidableEq

/-- A value of a private field; other JSON values stay texts. -/
inductive PrivateValue where
  | text (value : String)
  | flag (value : Bool)
  | number (value : Int)
  | texts (values : List String)
  | other (json : String)
deriving DecidableEq

/-- The text of a field that holds one. -/
def PrivateValue.text? : PrivateValue → Option String
  | .text value => some value
  | _ => none

/-- `bool(value)`; the other values are `null`, floats and objects. -/
def PrivateValue.truthy : PrivateValue → Bool
  | .text value => value ≠ ""
  | .flag value => value
  | .number value => value ≠ 0
  | .texts values => !values.isEmpty
  | .other json => json ∉ ["null", "0.0", "-0.0", "{}"]

/-- `ChannelAccount`; times are instants counted in microseconds. -/
structure ChannelAccount where
  id : String
  platform : Platform
  principalId : String
  status : AccountStatus
  enabled : Bool
  subscribed : Bool
  createdAt : Nat
  updatedAt : Nat
  privateState : Dict String PrivateValue
deriving DecidableEq

/-- `_MAX_INBOUND_IDS`. -/
def maxInboundIds : Nat := 2048

/-- `_validate_private`. -/
def validatePrivate (privateState : Dict String PrivateValue) :
    Except String (Dict String PrivateValue) :=
  match privateState.get? "inbound_ids" with
  | none => .ok privateState
  | some (.texts inboundIds) =>
    if inboundIds.contains "" ∨ maxInboundIds < inboundIds.length then
      .error "账号私有状态无效"
    else
      .ok privateState
  | some _ => .error "账号私有状态无效"

/-- `private.get("inbound_ids", [])`. -/
def ChannelAccount.inboundIds (account : ChannelAccount) : List String :=
  match account.privateState.get? "inbound_ids" with
  | some (.texts inboundIds) => inboundIds
  | _ => []

/-- `_validate_transition`. -/
def validTransition : AccountStatus → AccountStatus → Bool
  | .pendingQr, target =>
    target ∈ [.pendingQr, .awaitingFirstDm, .expired, .failed, .disabled, .revoked]
  | .awaitingFirstDm, target =>
    target ∈ [.awaitingFirstDm, .active, .expired, .failed, .disabled, .revoked]
  | .awaitingOwnerCode, target =>
    target ∈ [.awaitingOwnerCode, .connecting, .active, .failed, .disabled, .revoked]
  | .connecting, target =>
    target ∈ [.awaitingOwnerCode, .connecting, .active, .failed, .disabled, .revoked]
  | .active, target =>
    target ∈ [.active, .connecting, .awaitingOwnerCode,
      .awaitingFirstDm, .disabled, .expired, .failed, .revoked]
  | .disabled, _ => true
  | .expired, target =>
    target ∈ [.pendingQr, .awaitingFirstDm, .expired, .failed, .disabled, .revoked]
  | .failed, _ => true
  | .revoked, target =>
    target ∈ [.revoked, .pendingQr, .awaitingFirstDm, .awaitingOwnerCode]

/--
`_validated_private_for_update`.  `otherAppIds` are the application ids of
the other Feishu accounts.
-/
def validatedPrivateForUpdate (otherAppIds : List String)
    (current normalized : ChannelAccount) (mergePrivate : Bool) :
    Except String (Dict String PrivateValue) :=
  if normalized.platform ≠ current.platform ∨
      normalized.id ≠ current.id ∨
      normalized.principalId ≠ current.principalId ∨
      normalized.createdAt ≠ current.createdAt then
    .error "账号身份不可变"
  else if ¬ validTransition current.status normalized.status then
    .error "账号状态转换无效"
  else if normalized.status = .revoked ∧
      (normalized.enabled ∨ normalized.subscribed) then
    .error "已撤销账号不能启用或订阅"
  else if normalized.status = .disabled ∧ normalized.enabled then
    .error "已禁用账号不能启用"
  else
    match validatePrivate
        ((if mergePrivate then current.privateState
          else Dict.empty).update normalized.privateState) with
    | .error message => .error message
    | .ok privateState =>
      if normalized.platform = .feishu ∧
          (((privateState.get? "app_id").bind PrivateValue.text?).any otherAppIds.contains) then
        .error "feishu app_id 已登记"
      else
        .ok privateState

/--
`update` and `replace_private_state` on the stored record; the former merges
the private fields, the latter replaces them.
-/
def writeAccount (otherAppIds : List String)
    (stored : Option ChannelAccount) (account : ChannelAccount)
    (mergePrivate : Bool) (expectedUpdatedAt : Option Nat) (now : Nat) :
    Except String ChannelAccount :=
  match validatePrivate account.privateState, stored with
  | .error message, _ => .error message
  | .ok _, none => .error "账号不存在"
  | .ok _, some current =>
    if expectedUpdatedAt.any (· ≠ current.updatedAt) then
      .error "账号状态已更新"
    else
      match validatedPrivateForUpdate otherAppIds current account
          mergePrivate with
      | .error message => .error message
      | .ok privateState =>
        .ok
          { current with
            status := account.status
            enabled := account.enabled
            subscribed := account.subscribed
            updatedAt := now
            privateState := privateState }

/-- `remove_private_fields`. -/
def removePrivateFields (stored : Option ChannelAccount) (fieldNames : List String) (now : Nat) :
    Except String ChannelAccount :=
  if fieldNames.isEmpty ∨ fieldNames.contains "" then
    .error "私有字段无效"
  else
    match stored with
    | none => .error "账号不存在"
    | some current =>
      match validatePrivate
          (fieldNames.foldl Dict.erase current.privateState) with
      | .error message => .error message
      | .ok privateState =>
        .ok
          { current with
            updatedAt := now
            privateState := privateState }

/-- `revoke`. -/
def revoke (otherAppIds : List String) (stored : Option ChannelAccount)
    (now : Nat) : Except String ChannelAccount :=
  match stored with
  | none => .error "账号不存在"
  | some account =>
    if account.status = .revoked then
      .ok account
    else
      writeAccount otherAppIds stored
        { account with
          status := .revoked
          enabled := false
          subscribed := false }
        true none now

/-- `_validate_inbound_id`. -/
def validInboundId (inboundId : String) : Bool := inboundId ≠ "" && inboundId.length ≤ 4096

/-- The ids without repetitions, first occurrences first. -/
def distinctIds (inboundIds : List String) : List String := inboundIds.foldl (fun known inboundId =>
      if known.contains inboundId then known else known ++ [inboundId])
    []

/-- The record after the claim of new ids. -/
def ChannelAccount.withInbound (account : ChannelAccount)
    (inboundIds : List String) (now : Nat) : ChannelAccount :=
  { account with
    updatedAt := now
    privateState := account.privateState.insert "inbound_ids"
        (.texts (lastItems maxInboundIds (account.inboundIds ++ inboundIds))) }

/-- `claim_inbounds`: the record with the claimed ids, or `False`. -/
def claimInbounds (stored : Option ChannelAccount) (inboundIds : List String) (now : Nat) :
    Except String (Option ChannelAccount) :=
  if ¬ inboundIds.all validInboundId ∨ inboundIds.isEmpty then
    .error "入站消息 ID 无效"
  else
    match stored with
    | none => .error "账号不存在"
    | some account =>
      if (distinctIds inboundIds).any account.inboundIds.contains then
        .ok none
      else
        .ok (some (account.withInbound (distinctIds inboundIds) now))

/-! ## The first sender of a WeChat binding -/

/-- `_validate_protocol_value`. -/
def validProtocolValue (value : String) : Bool := value ≠ "" && value.length ≤ 4096

/-- A private field that holds a text. -/
def ChannelAccount.textField? (account : ChannelAccount) (name : String) :
    Option String :=
  (account.privateState.get? name).bind PrivateValue.text?

/-- The sender that a binding is locked to. -/
def ChannelAccount.lockedSender? (account : ChannelAccount) :
    Option String :=
  (account.textField? "from_user_id").filter (· ≠ "")

/-- The record of a binding that its first sender has locked. -/
def ChannelAccount.lockedTo (account : ChannelAccount)
    (sender contextToken : String) (now : Nat) : ChannelAccount :=
  { account with
    status := .active
    updatedAt := now
    privateState := (((account.privateState.insert "from_user_id" (.text sender)).insert
        "context_token" (.text contextToken)).insert "conversation_id"
        (.text account.id)).insert "connected" (.flag true) }

/--
`claim_weixin_first_sender`: the record afterwards, and whether the binding
is locked to the sender.
-/
def claimWeixinFirstSender (stored : Option ChannelAccount)
    (sender contextToken : String) (now : Nat) :
    Except String (ChannelAccount × Bool) :=
  if ¬ validProtocolValue sender then
    .error "sender 无效"
  else if ¬ validProtocolValue contextToken then
    .error "context_token 无效"
  else
    match stored with
    | none => .error "账号不存在"
    | some current =>
      match current.lockedSender? with
      | some locked => .ok (current, locked = sender)
      | none =>
        if current.status ≠ .awaitingFirstDm then
          .ok (current, false)
        else
          .ok (current.lockedTo sender contextToken now, true)

/-- `create_weixin_invitation`: the record of a new binding. -/
def weixinInvitation (id principalId : String) (now : Nat) : ChannelAccount where
  id := id
  platform := .weixin
  principalId := principalId
  status := .pendingQr
  enabled := true
  subscribed := false
  createdAt := now
  updatedAt := now
  privateState := (Dict.empty.insert "credential_state" (.text "pending")).insert
      "inbound_ids" (.texts [])

theorem mem_distinctIds_iff (inboundIds : List String) (id : String) :
    id ∈ distinctIds inboundIds ↔ id ∈ inboundIds := by
  have general :
      ∀ (ids known : List String), id ∈ ids.foldl (fun known inboundId =>
              if known.contains inboundId then known
              else known ++ [inboundId])
            known ↔
          id ∈ known ∨ id ∈ ids := by
    intro ids
    induction ids with
    | nil => simp
    | cons head rest induction =>
      intro known
      rw [List.foldl_cons, induction]
      by_cases seen : head ∈ known
      · rw [if_pos (by simpa using seen), List.mem_cons]
        constructor
        · rintro (old | later)
          · exact Or.inl old
          · exact Or.inr (Or.inr later)
        · rintro (old | rfl | later)
          · exact Or.inl old
          · exact Or.inl seen
          · exact Or.inr later
      · rw [if_neg (by simpa using seen), List.mem_append,
          List.mem_singleton, List.mem_cons, or_assoc]
  simpa [distinctIds] using general inboundIds []

variable {stored : Option ChannelAccount} {updated : ChannelAccount}

theorem claimInbounds_accepted {inboundIds : List String}
    (accepted : claimInbounds stored inboundIds now = .ok (some updated)) :
    ∃ account, stored = some account ∧ inboundIds ≠ [] ∧
        (∀ id ∈ inboundIds, validInboundId id = true) ∧
        (∀ id ∈ inboundIds, id ∉ account.inboundIds) ∧
        updated = account.withInbound (distinctIds inboundIds) now := by
  unfold claimInbounds at accepted
  split_ifs at accepted with invalid
  rw [not_or, not_not, List.all_eq_true, List.isEmpty_iff] at invalid
  cases stored with
  | none => simp at accepted
  | some account =>
    dsimp only at accepted
    split_ifs at accepted with known
    · simp at accepted
    · simp only [Except.ok.injEq, Option.some.injEq] at accepted
      refine ⟨account, rfl, invalid.2, invalid.1, ?_, accepted.symm⟩
      intro id member seen
      apply known
      rw [List.any_eq_true]
      exact ⟨id, (mem_distinctIds_iff inboundIds id).mpr member,
        by simpa using seen⟩

variable {account : ChannelAccount}

theorem claimInbounds_of_known {inboundIds : List String} {id : String}
    (member : id ∈ inboundIds) (known : id ∈ account.inboundIds)
    (updated : ChannelAccount) :
    claimInbounds (some account) inboundIds now ≠ .ok (some updated) := by
  intro accepted
  rcases claimInbounds_accepted accepted with ⟨_, same, _, _, unknown, _⟩
  cases same
  exact unknown id member known

theorem claimInbounds_of_unknown {id : String}
    (valid : validInboundId id = true) (unknown : id ∉ account.inboundIds)
    (now : Nat) :
    ∃ updated,
      claimInbounds (some account) [id] now = .ok (some updated) := by
  refine ⟨account.withInbound [id] now, ?_⟩
  simp [claimInbounds, valid, distinctIds, unknown]

theorem validatePrivate_ok
    {privateState validated : Dict String PrivateValue}
    (valid : validatePrivate privateState = .ok validated) :
    validated = privateState := by
  unfold validatePrivate at valid
  split at valid
  · cases valid
    rfl
  · split_ifs at valid
    cases valid
    rfl
  · cases valid

/-- The private fields that a write leads to. -/
def writtenPrivate (current account : ChannelAccount)
    (mergePrivate : Bool) : Dict String PrivateValue :=
  (if mergePrivate then current.privateState
    else Dict.empty).update account.privateState

/-- What the checks of an accepted write have established. -/
structure AcceptedWrite (otherAppIds : List String)
    (current account : ChannelAccount) (mergePrivate : Bool) : Prop where
  platform : account.platform = current.platform
  id : account.id = current.id
  principalId : account.principalId = current.principalId
  createdAt : account.createdAt = current.createdAt
  transition : validTransition current.status account.status = true
  revoked : account.status = .revoked → account.enabled = false ∧ account.subscribed = false
  disabled : account.status = .disabled → account.enabled = false
  inbound : validatePrivate (writtenPrivate current account mergePrivate) =
      .ok (writtenPrivate current account mergePrivate)
  appId : account.platform = .feishu → ∀ appId, ((writtenPrivate current account mergePrivate).get?
            "app_id").bind PrivateValue.text? = some appId →
          appId ∉ otherAppIds

theorem validatedPrivateForUpdate_ok {current normalized : ChannelAccount}
    {privateState : Dict String PrivateValue} (validated :
      validatedPrivateForUpdate otherAppIds current normalized mergePrivate = .ok privateState) :
    privateState = writtenPrivate current normalized mergePrivate ∧
      AcceptedWrite otherAppIds current normalized mergePrivate := by
  unfold validatedPrivateForUpdate at validated
  generalize same : (if mergePrivate then current.privateState
    else Dict.empty).update normalized.privateState = merged at validated
  split_ifs at validated with identity transition revoked disabled
  simp only [not_or, not_not] at identity transition
  simp only [not_and, not_or, Bool.not_eq_true] at revoked disabled
  split at validated
  · cases validated
  · rename_i valid
    cases validatePrivate_ok valid
    split_ifs at validated with taken
    cases validated
    refine ⟨same.symm, ?_⟩
    exact
      { platform := identity.1
        id := identity.2.1
        principalId := identity.2.2.1
        createdAt := identity.2.2.2
        transition := transition
        revoked := revoked
        disabled := disabled
        inbound := by
          rw [writtenPrivate, same]
          exact valid
        appId := by
          intro isFeishu appId present member
          apply taken
          refine ⟨isFeishu, ?_⟩
          rw [writtenPrivate, same] at present
          rw [present]
          simpa using member }

theorem writeAccount_eq (written : writeAccount otherAppIds stored account mergePrivate
        expectedUpdatedAt now = .ok updated) :
    ∃ current, stored = some current ∧ updated =
          { current with
            status := account.status
            enabled := account.enabled
            subscribed := account.subscribed
            updatedAt := now
            privateState := writtenPrivate current account mergePrivate } ∧
        AcceptedWrite otherAppIds current account mergePrivate := by
  unfold writeAccount at written
  split at written
  · cases written
  · cases written
  · rename_i current _
    split_ifs at written with stale
    refine ⟨current, rfl, ?_⟩
    split at written
    · cases written
    · rename_i validated
      cases written
      rcases validatedPrivateForUpdate_ok validated with ⟨rfl, accepted⟩
      exact ⟨rfl, accepted⟩

theorem writeAccount_ok (written : writeAccount otherAppIds stored account mergePrivate
        expectedUpdatedAt now = .ok updated) :
    ∃ current, stored = some current ∧ updated.privateState =
          (if mergePrivate then current.privateState
            else Dict.empty).update account.privateState := by
  rcases writeAccount_eq written with ⟨current, stored, rfl, _⟩
  exact ⟨current, stored, rfl⟩

theorem writeAccount_inbound {value : PrivateValue} (written :
      writeAccount otherAppIds stored account mergePrivate expectedUpdatedAt now = .ok updated)
    (listed : account.privateState.get? "inbound_ids" = some value) :
    updated.privateState.get? "inbound_ids" = some value := by
  rcases writeAccount_ok written with ⟨current, _, privateEqual⟩
  rw [privateEqual, Dict.get?_update, listed, Option.some_or]

theorem get?_foldl_erase (fieldNames : List String) (dict : Dict String PrivateValue)
    {query : String} (other : query ∉ fieldNames) :
    (fieldNames.foldl Dict.erase dict).get? query = dict.get? query := by
  induction fieldNames generalizing dict with
  | nil => rfl
  | cons head rest induction =>
    rw [List.mem_cons, not_or] at other
    rw [List.foldl_cons, induction _ other.2, Dict.get?_erase_of_ne dict other.1]

theorem removePrivateFields_inbound {fieldNames : List String}
    (removed : removePrivateFields stored fieldNames now = .ok updated)
    (other : "inbound_ids" ∉ fieldNames) :
    ∃ current, stored = some current ∧ updated.privateState.get? "inbound_ids" =
          current.privateState.get? "inbound_ids" := by
  unfold removePrivateFields at removed
  split_ifs at removed
  cases stored with
  | none => simp at removed
  | some current =>
    dsimp only at removed
    split at removed
    · cases removed
    · rename_i valid
      cases removed
      refine ⟨current, rfl, ?_⟩
      rw [validatePrivate_ok valid]
      exact get?_foldl_erase fieldNames current.privateState other

end TurningGood.Channels
