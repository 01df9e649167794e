import TurningGood.Channels.RegistryOperations

/-!
# What the operations on the account directory rely on

An account has at most one mark that no other account may have: a bot its
application id, a binding its principal.  An operation that gives a record a
mark has listed the other records under the lock of the directory; what
happens meanwhile are claims, and a claim gives no record a new mark.

The records that a call has read and not yet written are the stored ones, as
the call holds the lock of the record.
-/

namespace TurningGood.Channels

open TurningGood.Foundation
open TurningGood.Foundation.Text

variable {key : RecordKey} {account current updated : ChannelAccount}
  {now : Nat}

/-! ## Valid directories -/

/-- What no two accounts of a platform share. -/
inductive AccountMark where
  | appId (appId : String)
  | principal (principalId : String)
deriving DecidableEq

/-- The mark of an account. -/
def ChannelAccount.mark? (account : ChannelAccount) : Option AccountMark :=
  match account.platform with
  | .feishu => (account.textField? "app_id").map .appId
  | .weixin => some (.principal account.principalId)

/-- The account of a key. -/
def StoredAccount (files : Dict RecordKey RecordFile) (key : RecordKey)
    (account : ChannelAccount) : Prop :=
  files.get? key = some (.account account)

/-- A record that can be read, with the flags of its status. -/
structure RecordValid (key : RecordKey) (account : ChannelAccount) :
    Prop where
  readable : accountFromPayload key account = .ok account
  revoked : account.status = .revoked → account.enabled = false ∧ account.subscribed = false
  disabled : account.status = .disabled → account.enabled = false

/-- A directory of valid records with different marks. -/
structure ValidDirectory (files : Dict RecordKey RecordFile) : Prop where
  stored : ∀ key file, files.get? key = some file →
      ∃ account, file = .account account ∧ RecordValid key account
  distinct : ∀ key other account another mark, StoredAccount files key account →
      StoredAccount files other another →
      account.mark? = some mark →
      another.mark? = some mark →
      key = other

/-- What a readable record has. -/
structure ReadableFacts (key : RecordKey) (account : ChannelAccount) :
    Prop where
  platform : account.platform = key.1
  id : account.id = key.2
  validId : validAccountId account.id = true
  validPrincipal : validPrincipalId account.principalId = true
  validPrivate : validatePrivate account.privateState = .ok account.privateState

theorem accountFromPayload_ok {result : ChannelAccount}
    (readable : accountFromPayload key account = .ok result) :
    result = account ∧ ReadableFacts key account := by
  unfold accountFromPayload at readable
  split at readable
  · cases readable
  · next valid =>
      split at readable
      · cases readable
      · next validated validPrivate =>
          split at readable
          · cases readable
          · next here =>
              cases readable
              cases validatePrivate_ok validPrivate
              simp only [not_or, not_not] at valid here
              exact ⟨rfl, here.1, here.2, valid.1, valid.2, validPrivate⟩

theorem accountFromPayload_iff (key : RecordKey) (account : ChannelAccount) :
    accountFromPayload key account = .ok account ↔
      ReadableFacts key account := by
  constructor
  · intro readable
    exact (accountFromPayload_ok readable).2
  · rintro ⟨platform, id, validId, validPrincipal, validPrivate⟩
    unfold accountFromPayload
    rw [if_neg (by simp [validId, validPrincipal]), validPrivate]
    exact if_neg (by simp [platform, id])

namespace RecordValid

variable {key : RecordKey} {account : ChannelAccount}

theorem facts (valid : RecordValid key account) :
    ReadableFacts key account :=
  (accountFromPayload_iff key account).mp valid.readable

theorem inboundIds_length (valid : RecordValid key account) :
    account.inboundIds.length ≤ maxInboundIds := by
  have validPrivate := valid.facts.validPrivate
  unfold validatePrivate at validPrivate
  unfold ChannelAccount.inboundIds
  split at validPrivate
  · next absent =>
      rw [absent]
      exact Nat.zero_le _
  · next inboundIds present =>
      split_ifs at validPrivate with invalid
      rw [not_or, not_lt] at invalid
      rw [present]
      exact invalid.2
  · cases validPrivate

end RecordValid

theorem ValidDirectory.readAccount {files : Dict RecordKey RecordFile}
    (valid : ValidDirectory files) (stored : StoredAccount files key account) :
    RecordValid key account ∧
      Channels.readAccount files key = .ok (some account) := by
  rcases valid.stored key _ stored with ⟨same, equal, recordValid⟩
  cases equal
  refine ⟨recordValid, ?_⟩
  unfold Channels.readAccount
  rw [stored]
  simp only [recordValid.readable]
  rfl

theorem readAccount_stored {files : Dict RecordKey RecordFile}
    (read : readAccount files key = .ok (some account)) :
    StoredAccount files key account := by
  unfold readAccount at read
  split at read
  · cases read
  · cases read
  · next stored present =>
      cases readable : accountFromPayload key stored with
      | error message =>
        rw [readable] at read
        cases read
      | ok result =>
        rw [readable] at read
        cases read
        rw [(accountFromPayload_ok readable).1]
        exact present

/-! ## Edits of one record -/

/-- The edit of a record: its identity stays, its status obeys the table. -/
structure AccountEdit (key : RecordKey) (current updated : ChannelAccount) :
    Prop where
  id : updated.id = current.id
  platform : updated.platform = current.platform
  principalId : updated.principalId = current.principalId
  createdAt : updated.createdAt = current.createdAt
  transition : validTransition current.status updated.status = true
  valid : RecordValid key updated

/-- The edit gives the record no mark that it did not have. -/
def KeepsMark (current updated : ChannelAccount) : Prop :=
  ∀ mark, updated.mark? = some mark → current.mark? = some mark

theorem validTransition_self (status : AccountStatus) :
    validTransition status status = true := by
  cases status <;> rfl

theorem RecordValid.edited (valid : RecordValid key current) (id : updated.id = current.id)
    (platform : updated.platform = current.platform)
    (principalId : updated.principalId = current.principalId) (validPrivate :
      validatePrivate updated.privateState = .ok updated.privateState)
    (revoked : updated.status = .revoked → updated.enabled = false ∧ updated.subscribed = false)
    (disabled : updated.status = .disabled → updated.enabled = false) :
    RecordValid key updated where
  readable := by
    rw [accountFromPayload_iff]
    rcases valid.facts with ⟨samePlatform, sameId, validId, principal, -⟩
    constructor
    · exact platform.trans samePlatform
    · exact id.trans sameId
    · rw [id]
      exact validId
    · rw [principalId]
      exact principal
    · exact validPrivate
  revoked := revoked
  disabled := disabled

theorem writeAccount_edit {otherAppIds : List String} {mergePrivate : Bool}
    {expectedUpdatedAt : Option Nat} (valid : RecordValid key current)
    (written : writeAccount otherAppIds (some current) account mergePrivate
        expectedUpdatedAt now = .ok updated) :
    AccountEdit key current updated := by
  rcases writeAccount_eq written with ⟨_, same, rfl, accepted⟩
  cases same
  constructor
  · rfl
  · rfl
  · rfl
  · rfl
  · exact accepted.transition
  · apply valid.edited
    · rfl
    · rfl
    · rfl
    · exact accepted.inbound
    · exact accepted.revoked
    · exact accepted.disabled

theorem revoke_edit {otherAppIds : List String}
    (valid : RecordValid key current) (standing : current.status ≠ .revoked)
    (revoked : revoke otherAppIds (some current) now = .ok updated) :
    AccountEdit key current updated := by
  unfold revoke at revoked
  dsimp only at revoked
  rw [if_neg standing] at revoked
  exact writeAccount_edit valid revoked

theorem get?_foldl_erase_of_mem (fieldNames : List String) (dict : Dict String PrivateValue)
    {query : String} (erased : query ∈ fieldNames) :
    (fieldNames.foldl Dict.erase dict).get? query = none := by
  induction fieldNames generalizing dict with
  | nil => cases erased
  | cons head rest induction =>
    rw [List.foldl_cons]
    by_cases later : query ∈ rest
    · exact induction _ later
    · rcases List.mem_cons.mp erased with rfl | later
      · rw [get?_foldl_erase rest _ later]
        exact Dict.get?_erase_self dict query
      · contradiction

theorem removePrivateFields_eq {fieldNames : List String} (removed :
      removePrivateFields (some current) fieldNames now = .ok updated) :
    updated =
        { current with
          updatedAt := now
          privateState := fieldNames.foldl Dict.erase current.privateState } ∧
      validatePrivate updated.privateState = .ok updated.privateState := by
  unfold removePrivateFields at removed
  split at removed
  · cases removed
  · dsimp only at removed
    split at removed
    · cases removed
    · next validPrivate =>
        cases removed
        cases validatePrivate_ok validPrivate
        exact ⟨rfl, validPrivate⟩

theorem removePrivateFields_edit {fieldNames : List String}
    (valid : RecordValid key current) (removed :
      removePrivateFields (some current) fieldNames now = .ok updated) :
    AccountEdit key current updated ∧ KeepsMark current updated := by
  rcases removePrivateFields_eq removed with ⟨rfl, validPrivate⟩
  constructor
  · constructor
    · rfl
    · rfl
    · rfl
    · rfl
    · exact validTransition_self current.status
    · apply valid.edited
      · rfl
      · rfl
      · rfl
      · exact validPrivate
      · exact valid.revoked
      · exact valid.disabled
  · intro mark marked
    by_cases erased : "app_id" ∈ fieldNames
    · simp only [ChannelAccount.mark?, ChannelAccount.textField?,
        get?_foldl_erase_of_mem _ _ erased] at marked ⊢
      split at marked
      · cases marked
      · exact marked
    · simpa only [ChannelAccount.mark?, ChannelAccount.textField?,
        get?_foldl_erase _ _ erased] using marked

theorem validatePrivate_withInbound {inboundIds : List String} (valid :
      validatePrivate account.privateState = .ok account.privateState)
    (nonempty : "" ∉ inboundIds) :
    validatePrivate (account.withInbound inboundIds now).privateState =
      .ok (account.withInbound inboundIds now).privateState := by
  have kept : "" ∉ account.inboundIds := by
    unfold validatePrivate at valid
    unfold ChannelAccount.inboundIds
    split at valid
    · next absent =>
        rw [absent]
        exact List.not_mem_nil
    · next stored present =>
        split at valid
        · cases valid
        · next sound =>
            rw [present]
            simp only [not_or, List.contains_iff_mem] at sound
            exact sound.1
    · cases valid
  unfold validatePrivate ChannelAccount.withInbound
  simp only [Dict.get?_insert_self]
  apply if_neg
  rw [not_or]
  constructor
  · rw [List.contains_iff_mem]
    intro member
    rcases List.mem_append.mp (lastItems_subset _ _ member) with old | new
    · exact kept old
    · exact nonempty new
  · exact Nat.not_lt.mpr (lastItems_length_le _ _)

theorem claimInbounds_edit {inboundIds : List String} (valid : RecordValid key current) (claimed :
      claimInbounds (some current) inboundIds now = .ok (some updated)) :
    AccountEdit key current updated ∧ KeepsMark current updated := by
  rcases claimInbounds_accepted claimed with ⟨_, same, -, validIds, -, rfl⟩
  cases same
  constructor
  · constructor
    · rfl
    · rfl
    · rfl
    · rfl
    · exact validTransition_self current.status
    · apply valid.edited
      · rfl
      · rfl
      · rfl
      · apply validatePrivate_withInbound valid.facts.validPrivate
        intro member
        have validId := validIds _ ((mem_distinctIds_iff _ _).mp member)
        simp [validInboundId] at validId
      · exact valid.revoked
      · exact valid.disabled
  · intro mark marked
    have kept :
        ((current.withInbound (distinctIds inboundIds) now).textField?
            "app_id") = current.textField? "app_id" := by
      unfold ChannelAccount.textField? ChannelAccount.withInbound
      rw [Dict.get?_insert_of_ne _ _ (by decide)]
    unfold ChannelAccount.mark? at marked ⊢
    rw [kept] at marked
    exact marked

theorem validatePrivate_congr
    {privateState other : Dict String PrivateValue}
    (valid : validatePrivate privateState = .ok privateState)
    (same : other.get? "inbound_ids" = privateState.get? "inbound_ids") :
    validatePrivate other = .ok other := by
  unfold validatePrivate at valid ⊢
  rw [same]
  split at valid
  · rfl
  · split at valid
    · cases valid
    · next sound => exact if_neg sound
  · cases valid

theorem lockedTo_inbound_ids (account : ChannelAccount) (sender contextToken : String) (now : Nat) :
    (account.lockedTo sender contextToken now).privateState.get? "inbound_ids" =
      account.privateState.get? "inbound_ids" := by
  unfold ChannelAccount.lockedTo
  rw [Dict.get?_insert_of_ne _ _ (by decide),
    Dict.get?_insert_of_ne _ _ (by decide),
    Dict.get?_insert_of_ne _ _ (by decide),
    Dict.get?_insert_of_ne _ _ (by decide)]

theorem claimWeixinFirstSender_edit {accountId sender contextToken : String}
    {isSender : Bool} (valid : RecordValid (.weixin, accountId) current)
    (claimed : claimWeixinFirstSender (some current) sender contextToken now =
        .ok (updated, isSender)) (changed : updated ≠ current) :
    AccountEdit (.weixin, accountId) current updated ∧
      KeepsMark current updated := by
  unfold claimWeixinFirstSender at claimed
  split at claimed
  · cases claimed
  · split at claimed
    · cases claimed
    · dsimp only at claimed
      split at claimed
      · cases claimed
        exact absurd rfl changed
      · split at claimed
        · cases claimed
          exact absurd rfl changed
        · next awaiting =>
            cases claimed
            rw [not_not] at awaiting
            have weixin : current.platform = .weixin :=
              valid.facts.platform
            constructor
            · constructor
              · rfl
              · rfl
              · rfl
              · rfl
              · rw [awaiting]
                rfl
              · apply valid.edited
                · rfl
                · rfl
                · rfl
                · apply validatePrivate_congr valid.facts.validPrivate
                  exact lockedTo_inbound_ids current sender contextToken now
                · intro revoked
                  cases revoked
                · intro disabled
                  cases disabled
            · intro mark marked
              unfold ChannelAccount.mark? at marked ⊢
              have same :
                  (current.lockedTo sender contextToken now).platform =
                    .weixin := weixin
              simp only [same] at marked
              simp only [weixin]
              exact marked

end TurningGood.Channels
