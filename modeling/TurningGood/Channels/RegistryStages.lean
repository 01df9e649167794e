import Mathlib.Tactic.ByContra
import TurningGood.Channels.RegistryInvariant

/-!
# The stages of an operation on the account directory

What a call knows at each of its stages, as long as it holds its locks.  A
call that holds the lock of the directory knows the marks of all accounts,
since the other calls give no record a new one; a call that holds the lock
of a record knows the record.
-/

namespace TurningGood.Channels

open TurningGood.Foundation

variable {files : Dict RecordKey RecordFile} {operation : RegistryOperation}
  {key : RecordKey} {current account : ChannelAccount} {now : Nat}
  {seen : List ChannelAccount} {hex : String}

namespace RegistryOperation

/-- The mark of the account that an operation creates, if it is given. -/
def newMark? : RegistryOperation → Option AccountMark
  | .createWeixinInvitation principalId => principalId.map .principal
  | .registerFeishuBot appId _ _ => some (.appId appId)
  | .update _ _ | .replacePrivateState _ _ | .removePrivateFields _ _
  | .revoke _ | .claimWeixinFirstSender _ _ _ | .claimInbounds _ _
  | .delete _ => none

/-- The accounts that an operation lists. -/
def listedPlatform : RegistryOperation → Platform
  | .createWeixinInvitation _ => .weixin
  | .registerFeishuBot _ _ _ | .update _ _ | .replacePrivateState _ _
  | .removePrivateFields _ _ | .revoke _ | .claimWeixinFirstSender _ _ _
  | .claimInbounds _ _ | .delete _ => .feishu

theorem record_mem_locks
    {operation : RegistryOperation} {key : RecordKey}
    (own : operation.key? = some key) :
    RegistryLock.record key ∈ operation.locks := by
  cases operation <;> simp_all [key?, locks]

theorem locks_nodup (operation : RegistryOperation) :
    operation.locks.Nodup := by
  cases operation <;> simp [locks]

end RegistryOperation

/-! ## What is known at a stage -/

/-- The listing has taken, or will take, every account of the platform. -/
def Listed (files : Dict RecordKey RecordFile) (platform : Platform)
    (seen : List ChannelAccount) (rest : List RecordKey) : Prop :=
  ∀ key account, StoredAccount files key account → key.1 = platform →
    key ∈ rest ∨ ∃ other ∈ seen, other.id = key.2 ∧ KeepsMark other account

/-- No other account has the mark of this one. -/
def UniqueMark (files : Dict RecordKey RecordFile) (key : RecordKey)
    (account : ChannelAccount) : Prop :=
  ∀ other another mark, other ≠ key → StoredAccount files other another →
    account.mark? = some mark →
    another.mark? ≠ some mark

/-- The new account gets no mark that is taken. -/
def MarkFree (files : Dict RecordKey RecordFile) (operation : RegistryOperation) : Prop :=
  ∀ mark, operation.newMark? = some mark → ∀ key account,
      StoredAccount files key account → account.mark? ≠ some mark

/-- What an operation knows of the files at a stage. -/
def StageSound (files : Dict RecordKey RecordFile)
    (operation : RegistryOperation) : RegistryStage → Prop
  | .entering _ => operation.check = .ok ()
  | .listing update seen rest =>
    operation.check = .ok () ∧ .directory ∈ operation.locks ∧
      Listed files operation.listedPlatform seen rest ∧
      match update with
      | none => operation.key? = none
      | some (current, updated) =>
        ∃ key, operation.key? = some key ∧ operation.listedPlatform = .feishu ∧
            StoredAccount files key current ∧
            AccountEdit key current updated ∧
            updated.platform = .feishu
  | .creating =>
    operation.check = .ok () ∧ .directory ∈ operation.locks ∧
      operation.key? = none ∧ MarkFree files operation
  | .writing current updated _ =>
    ∃ key, operation.key? = some key ∧ StoredAccount files key current ∧
        AccountEdit key current updated ∧
        (KeepsMark current updated ∨ .directory ∈ operation.locks ∧ UniqueMark files key updated)
  | .unlinking current =>
    ∃ key, operation.key? = some key ∧ .directory ∈ operation.locks ∧
        StoredAccount files key current
  | .leaving _ _ => True

/-- Every record has come from one with the same mark. -/
def NoNewMarks (files later : Dict RecordKey RecordFile) : Prop :=
  ∀ key account, StoredAccount later key account →
    ∃ earlier, StoredAccount files key earlier ∧ KeepsMark earlier account

theorem StageSound.frame {later : Dict RecordKey RecordFile}
    {stage : RegistryStage} (sound : StageSound files operation stage) (kept :
      ∀ key account, operation.key? = some key → StoredAccount files key account →
        StoredAccount later key account) (noNewMarks :
      .directory ∈ operation.locks → NoNewMarks files later) :
    StageSound later operation stage := by
  cases stage with
  | entering _ => exact sound
  | listing update seen rest =>
    rcases sound with ⟨checked, directory, listed, about⟩
    refine ⟨checked, directory, ?_, ?_⟩
    · intro key account stored platform
      rcases noNewMarks directory key account stored with ⟨earlier, storedEarlier, keeps⟩
      rcases listed key earlier storedEarlier platform with ahead | ⟨other, member, sameId, others⟩
      · exact .inl ahead
      · exact .inr ⟨other, member, sameId, fun mark marked => others mark (keeps mark marked)⟩
    · cases update with
      | none => exact about
      | some update =>
        rcases about with ⟨key, own, platform, stored, edit⟩
        exact ⟨key, own, platform, kept key _ own stored, edit⟩
  | creating =>
    rcases sound with ⟨checked, directory, own, free⟩
    refine ⟨checked, directory, own, ?_⟩
    intro mark given key account stored marked
    rcases noNewMarks directory key account stored with ⟨earlier, storedEarlier, keeps⟩
    exact free mark given key earlier storedEarlier (keeps mark marked)
  | writing current updated answer =>
    rcases sound with ⟨key, own, stored, edit, unique⟩
    refine ⟨key, own, kept key _ own stored, edit, ?_⟩
    rcases unique with keepsMark | ⟨directory, unique⟩
    · exact .inl keepsMark
    · refine .inr ⟨directory, ?_⟩
      intro other another mark elsewhere storedOther marked markedOther
      rcases noNewMarks directory other another storedOther with ⟨earlier, storedEarlier, keeps⟩
      exact unique other earlier mark elsewhere storedEarlier marked (keeps mark markedOther)
  | unlinking current =>
    rcases sound with ⟨key, own, directory, stored⟩
    exact ⟨key, own, directory, kept key _ own stored⟩
  | leaving _ _ => trivial

theorem ValidDirectory.listed_recordKeys (valid : ValidDirectory files) (platform : Platform) :
    Listed files platform [] (recordKeys files platform) := by
  intro key account stored samePlatform
  left
  have recordValid := (valid.readAccount stored).1
  have validId : validAccountId key.2 = true := by
    rw [← recordValid.facts.id]
    exact recordValid.facts.validId
  unfold recordKeys
  rw [List.mem_filter, decide_eq_true_iff]
  refine ⟨?_, samePlatform, validId⟩
  rw [Dict.mem_keys_iff]
  exact ⟨_, stored⟩

theorem checkedUpdate_sound {written : Except String ChannelAccount}
    (valid : ValidDirectory files) (checked : operation.check = .ok ())
    (directory : .directory ∈ operation.locks)
    (own : operation.key? = some key)
    (feishu : operation.listedPlatform = .feishu)
    (stored : StoredAccount files key current) (edits :
      ∀ updated, written = .ok updated → AccountEdit key current updated) :
    StageSound files operation (operation.checkedUpdate files current written) := by
  unfold RegistryOperation.checkedUpdate
  cases written with
  | error message => exact trivial
  | ok updated =>
    have edit := edits updated rfl
    dsimp only
    split
    · next bot =>
        refine ⟨checked, directory, ?_, key, own, feishu, stored, edit, bot.1⟩
        rw [feishu]
        exact valid.listed_recordKeys .feishu
    · next noAppId =>
        refine ⟨key, own, stored, edit, .inl ?_⟩
        intro mark marked
        unfold ChannelAccount.mark? at marked ⊢
        rw [edit.platform] at marked noAppId
        cases platform : current.platform with
        | weixin =>
          simp only [platform, edit.principalId] at marked ⊢
          exact marked
        | feishu =>
          simp only [platform] at marked
          cases appId : updated.textField? "app_id" with
          | none =>
            rw [appId] at marked
            cases marked
          | some text =>
            exact absurd ⟨platform, by rw [appId]; rfl⟩ noAppId

theorem afterRead_sound (valid : ValidDirectory files)
    (checked : operation.check = .ok ()) (own : operation.key? = some key)
    (stored : StoredAccount files key current) :
    StageSound files operation (operation.afterRead files current now) := by
  have recordValid := (valid.readAccount stored).1
  cases operation with
  | createWeixinInvitation principalId => cases own
  | registerFeishuBot appId appSecret domain => cases own
  | update account expectedUpdatedAt =>
    apply checkedUpdate_sound valid checked (by simp [RegistryOperation.locks])
      own rfl stored
    intro updated written
    exact writeAccount_edit recordValid written
  | replacePrivateState account expectedUpdatedAt =>
    apply checkedUpdate_sound valid checked (by simp [RegistryOperation.locks])
      own rfl stored
    intro updated written
    exact writeAccount_edit recordValid written
  | removePrivateFields _ fieldNames =>
    simp only [RegistryOperation.afterRead]
    split
    · exact trivial
    · next removed =>
        rcases removePrivateFields_edit recordValid removed with ⟨edit, keepsMark⟩
        exact ⟨key, own, stored, edit, .inl keepsMark⟩
  | revoke _ =>
    simp only [RegistryOperation.afterRead]
    split
    · exact trivial
    · next standing =>
        apply checkedUpdate_sound valid checked
          (by simp [RegistryOperation.locks]) own rfl stored
        intro updated revoked
        exact revoke_edit recordValid standing revoked
  | claimWeixinFirstSender accountId sender contextToken =>
    simp only [RegistryOperation.afterRead]
    split
    · exact trivial
    · next claimed =>
        split
        · exact trivial
        · next changed =>
            cases own
            rcases claimWeixinFirstSender_edit recordValid claimed changed with ⟨edit, keepsMark⟩
            exact ⟨_, rfl, stored, edit, .inl keepsMark⟩
  | claimInbounds _ inboundIds =>
    simp only [RegistryOperation.afterRead]
    split
    · exact trivial
    · exact trivial
    · next claimed =>
        rcases claimInbounds_edit recordValid claimed with ⟨edit, keepsMark⟩
        exact ⟨key, own, stored, edit, .inl keepsMark⟩
  | delete _ => exact ⟨key, own, by simp [RegistryOperation.locks], stored⟩

theorem begin_sound (valid : ValidDirectory files)
    (checked : operation.check = .ok ()) (now : Nat) :
    StageSound files operation (operation.begin files now) := by
  unfold RegistryOperation.begin
  split
  · next own =>
      split
      · exact
          ⟨checked, by simp [RegistryOperation.locks],
            valid.listed_recordKeys .feishu, own⟩
      · next other =>
          cases operation with
          | createWeixinInvitation principalId =>
            exact
              ⟨checked, by simp [RegistryOperation.locks],
                valid.listed_recordKeys .weixin, own⟩
          | registerFeishuBot appId appSecret domain =>
            exact absurd rfl (other appId appSecret domain)
          | _ => cases own
  · next key own =>
      split
      · exact trivial
      · exact trivial
      · next current read =>
          exact afterRead_sound valid checked own (readAccount_stored read)

/-! ## An operation lists the accounts -/

theorem ValidDirectory.mem_listedAccount (valid : ValidDirectory files)
    (stored : StoredAccount files key account) :
    account ∈ listedAccount files key := by
  unfold listedAccount
  rw [(valid.readAccount stored).2]
  exact List.mem_singleton_self account

theorem Listed.next {platform : Platform} {rest : List RecordKey} (valid : ValidDirectory files)
    (listed : Listed files platform seen (key :: rest)) :
    Listed files platform (seen ++ listedAccount files key) rest := by
  intro other account stored samePlatform
  rcases listed other account stored samePlatform with ahead | ⟨another, member, facts⟩
  · rcases List.mem_cons.mp ahead with rfl | later
    · right
      refine ⟨account, List.mem_append_right _ (valid.mem_listedAccount stored),
          ?_, fun mark marked => marked⟩
      exact (valid.readAccount stored).1.facts.id
    · exact .inl later
  · exact .inr ⟨another, List.mem_append_left _ member, facts⟩

theorem mark?_appId {appId : String} (marked : account.mark? = some (.appId appId)) :
    account.platform = .feishu ∧
      account.textField? "app_id" = some appId := by
  unfold ChannelAccount.mark? at marked
  cases platform : account.platform with
  | feishu =>
    rw [platform] at marked
    simpa using marked
  | weixin =>
    rw [platform] at marked
    cases marked

theorem mark?_principal {principalId : String}
    (marked : account.mark? = some (.principal principalId)) :
    account.platform = .weixin ∧ account.principalId = principalId := by
  unfold ChannelAccount.mark? at marked
  cases platform : account.platform with
  | feishu =>
    rw [platform] at marked
    simp at marked
  | weixin =>
    rw [platform] at marked
    simpa using marked

theorem ValidDirectory.platform_eq (valid : ValidDirectory files)
    (stored : StoredAccount files key account) : key.1 = account.platform :=
  (valid.readAccount stored).1.facts.platform.symm

theorem Listed.markFree (valid : ValidDirectory files)
    (listed : Listed files operation.listedPlatform seen []) (platform :
      ∀ (mark : AccountMark) (account : ChannelAccount), operation.newMark? = some mark →
        account.mark? = some mark →
        account.platform = operation.listedPlatform) (noConflict :
      ∀ mark, operation.newMark? = some mark → ∀ other ∈ seen, other.mark? ≠ some mark) :
    MarkFree files operation := by
  intro mark given key account stored marked
  have samePlatform : key.1 = operation.listedPlatform := by
    rw [valid.platform_eq stored]
    exact platform mark account given marked
  rcases listed key account stored samePlatform with ahead | ⟨other, member, -, keeps⟩
  · cases ahead
  · exact noConflict mark given other member (keeps mark marked)

theorem afterListing_sound {update : Option (ChannelAccount × ChannelAccount)}
    (ownerPrincipalId : String) (valid : ValidDirectory files)
    (sound : StageSound files operation (.listing update seen [])) :
    StageSound files operation (operation.afterListing ownerPrincipalId update seen) := by
  rcases sound with ⟨checked, directory, listed, about⟩
  cases update with
  | some update =>
    rcases update with ⟨current, updated⟩
    rcases about with ⟨key, own, feishu, stored, edit, bot⟩
    simp only [RegistryOperation.afterListing]
    split
    · exact trivial
    · next noConflict =>
        refine ⟨key, own, stored, edit, .inr ⟨directory, ?_⟩⟩
        intro other another mark elsewhere storedOther marked markedOther
        have currentFacts := (valid.readAccount stored).1.facts
        cases mark with
        | principal principalId =>
          rw [(mark?_principal marked).1] at bot
          cases bot
        | appId appId =>
          have samePlatform : other.1 = .feishu := by
            rw [valid.platform_eq storedOther]
            exact (mark?_appId markedOther).1
          rw [feishu] at listed
          rcases listed other another storedOther samePlatform with
            ahead | ⟨listedOther, member, sameId, keeps⟩
          · cases ahead
          · apply noConflict
            rw [(mark?_appId marked).2, Option.any_some, List.any_eq_true]
            refine ⟨listedOther, member, ?_⟩
            have otherId : listedOther.id ≠ current.id := by
              intro same
              apply elsewhere
              apply Prod.ext
              · rw [samePlatform, ← currentFacts.platform, ← edit.platform, bot]
              · rw [← sameId, same, currentFacts.id]
            have hasAppId :=
              (mark?_appId (keeps _ markedOther)).2
            simp [otherId, RegistryOperation.hasAppId, hasAppId]
  | none =>
    cases operation with
    | createWeixinInvitation principalId =>
      cases principalId with
      | none =>
        refine ⟨checked, directory, about, ?_⟩
        intro mark given
        cases given
      | some principalId =>
        simp only [RegistryOperation.afterListing]
        split
        · exact trivial
        · next noConflict =>
            refine ⟨checked, directory, about, ?_⟩
            apply listed.markFree valid
            · intro mark account given marked
              cases given
              exact (mark?_principal marked).1
            · intro mark given other member marked
              cases given
              apply noConflict
              rw [List.any_eq_true]
              exact ⟨other, member, decide_eq_true (mark?_principal marked).2⟩
    | registerFeishuBot appId appSecret domain =>
      simp only [RegistryOperation.afterListing]
      split
      · exact trivial
      · next noConflict =>
          refine ⟨checked, directory, about, ?_⟩
          apply listed.markFree valid
          · intro mark account given marked
            cases given
            exact (mark?_appId marked).1
          · intro mark given other member marked
            cases given
            apply noConflict
            rw [List.any_eq_true]
            exact ⟨other, member, decide_eq_true (mark?_appId marked).2⟩
    | _ => cases about

/-! ## An operation changes the files -/

/-- What the write of an operation does to the files. -/
structure FilesChange (operation : RegistryOperation)
    (files later : Dict RecordKey RecordFile) : Prop where
  valid : ValidDirectory later
  edits : ∀ key current updated, StoredAccount files key current → StoredAccount later key updated →
      updated = current ∨ AccountEdit key current updated
  /-- a record that is changed or removed is the operation's own -/
  own : ∀ key account, StoredAccount files key account → ¬ StoredAccount later key account →
      operation.key? = some key
  noNewMarks : .directory ∉ operation.locks → NoNewMarks files later

theorem storedAccount_insert {other : RecordKey} {another : ChannelAccount} :
    StoredAccount (files.insert key (.account account)) other another ↔
      (other = key ∧ another = account) ∨ (other ≠ key ∧ StoredAccount files other another) := by
  unfold StoredAccount
  rw [Dict.get?_insert]
  by_cases same : other = key
  · simp [same, eq_comm]
  · simp [same]

theorem ValidDirectory.insert (valid : ValidDirectory files) (recordValid : RecordValid key account)
    (unique : UniqueMark files key account) :
    ValidDirectory (files.insert key (.account account)) where
  stored := by
    intro other file present
    rw [Dict.get?_insert] at present
    split at present
    · next same =>
        cases present
        exact ⟨account, rfl, same ▸ recordValid⟩
    · exact valid.stored other file present
  distinct := by
    intro left right one another mark storedLeft storedRight
    rw [storedAccount_insert] at storedLeft storedRight
    rcases storedLeft with ⟨rfl, rfl⟩ | ⟨otherLeft, storedLeft⟩
    · rcases storedRight with ⟨rfl, rfl⟩ | ⟨otherRight, storedRight⟩
      · intro _ _
        rfl
      · intro marked markedOther
        exact absurd markedOther (unique right another mark otherRight storedRight marked)
    · rcases storedRight with ⟨rfl, rfl⟩ | ⟨otherRight, storedRight⟩
      · intro markedOther marked
        exact absurd markedOther (unique left one mark otherLeft storedLeft marked)
      · exact valid.distinct left right one another mark storedLeft storedRight

theorem ValidDirectory.uniqueMark_of_keeps (valid : ValidDirectory files)
    {updated : ChannelAccount} (stored : StoredAccount files key current)
    (keepsMark : KeepsMark current updated) : UniqueMark files key updated := by
  intro other another mark elsewhere storedOther marked markedOther
  exact elsewhere (valid.distinct other key another current mark storedOther stored
        markedOther (keepsMark mark marked))

theorem writing_change {updated : ChannelAccount} {answer : RegistryAnswer}
    (valid : ValidDirectory files)
    (sound : StageSound files operation (.writing current updated answer)) :
    FilesChange operation files (files.insert (current.platform, current.id)
        (.account updated)) := by
  rcases sound with ⟨key, own, stored, edit, unique⟩
  have sameKey : (current.platform, current.id) = key := by
    have facts := (valid.readAccount stored).1.facts
    exact Prod.ext facts.platform facts.id
  rw [sameKey]
  have uniqueMark : UniqueMark files key updated := by
    rcases unique with keepsMark | ⟨-, uniqueMark⟩
    · exact valid.uniqueMark_of_keeps stored keepsMark
    · exact uniqueMark
  constructor
  · exact valid.insert edit.valid uniqueMark
  · intro other before after storedBefore storedAfter
    rw [storedAccount_insert] at storedAfter
    rcases storedAfter with ⟨rfl, rfl⟩ | ⟨-, storedAfter⟩
    · right
      unfold StoredAccount at stored storedBefore
      rw [stored] at storedBefore
      cases storedBefore
      exact edit
    · left
      unfold StoredAccount at storedAfter storedBefore
      rw [storedAfter] at storedBefore
      cases storedBefore
      rfl
  · intro other account storedBefore gone
    rw [storedAccount_insert, not_or] at gone
    by_contra foreign
    have elsewhere : other ≠ key := by
      rintro rfl
      exact foreign own
    exact gone.2 ⟨elsewhere, storedBefore⟩
  · intro noDirectory other account storedAfter
    have keepsMark : KeepsMark current updated := by
      rcases unique with keepsMark | ⟨directory, -⟩
      · exact keepsMark
      · exact absurd directory noDirectory
    rw [storedAccount_insert] at storedAfter
    rcases storedAfter with ⟨rfl, rfl⟩ | ⟨-, storedAfter⟩
    · exact ⟨current, stored, keepsMark⟩
    · exact ⟨account, storedAfter, fun mark marked => marked⟩

theorem unlinking_change (valid : ValidDirectory files)
    (sound : StageSound files operation (.unlinking current)) :
    FilesChange operation files (files.erase (current.platform, current.id)) := by
  rcases sound with ⟨key, own, directory, stored⟩
  have sameKey : (current.platform, current.id) = key := by
    have facts := (valid.readAccount stored).1.facts
    exact Prod.ext facts.platform facts.id
  rw [sameKey]
  have earlier {other : RecordKey} {file : RecordFile}
      (present : (files.erase key).get? other = some file) :
      files.get? other = some file := by
    rw [Dict.get?_erase] at present
    split at present
    · cases present
    · exact present
  constructor
  · constructor
    · intro other file present
      exact valid.stored other file (earlier present)
    · intro left right one another mark storedLeft storedRight
      exact valid.distinct left right one another mark (earlier storedLeft) (earlier storedRight)
  · intro other before after storedBefore storedAfter
    left
    have same := earlier storedAfter
    unfold StoredAccount at storedBefore
    rw [storedBefore] at same
    cases same
    rfl
  · intro other account storedBefore gone
    by_contra foreign
    apply gone
    unfold StoredAccount
    rw [Dict.get?_erase_of_ne]
    · exact storedBefore
    · rintro rfl
      exact foreign own
  · intro noDirectory
    exact absurd directory noDirectory

theorem validatePrivate_insert_none (privateState : Dict String PrivateValue) :
    validatePrivate (privateState.insert "inbound_ids" (.texts [])) =
      .ok (privateState.insert "inbound_ids" (.texts [])) := by
  unfold validatePrivate
  rw [Dict.get?_insert_self]
  rfl

theorem validPrincipalId_drawn (drawn : hex.length = 32) :
    validPrincipalId ("principal-" ++ hex) = true := by
  have length : ("principal-" ++ hex).length = 42 := by
    rw [String.length_append, drawn]
    rfl
  have nonempty : "principal-" ++ hex ≠ "" := by
    intro empty
    rw [empty] at length
    cases length
  simp [validPrincipalId, length, nonempty]

theorem newAccount_valid {id : String} (owner : OwnerPrincipal)
    (checked : operation.check = .ok ()) (drawnId : validAccountId id = true)
    (drawnHex : hex.length = 32)
    (created : operation.newAccount owner.id id hex now = some account) :
    RecordValid (account.platform, account.id) account := by
  cases operation with
  | createWeixinInvitation principalId =>
    cases created
    constructor
    · rw [accountFromPayload_iff]
      constructor
      · rfl
      · rfl
      · exact drawnId
      · cases principalId with
        | none => exact validPrincipalId_drawn drawnHex
        | some principalId =>
          simp only [RegistryOperation.check, Option.all_some] at checked
          split at checked
          · next valid => exact valid
          · cases checked
      · exact validatePrivate_insert_none _
    · intro revoked
      cases revoked
    · intro disabled
      cases disabled
  | registerFeishuBot appId appSecret domain =>
    cases created
    constructor
    · rw [accountFromPayload_iff]
      constructor
      · rfl
      · rfl
      · exact drawnId
      · exact owner.valid
      · exact validatePrivate_insert_none _
    · intro revoked
      cases revoked
    · intro disabled
      cases disabled
  | _ => cases created

theorem newAccount_mark {ownerPrincipalId id : String} {mark : AccountMark}
    (created : operation.newAccount ownerPrincipalId id hex now = some account)
    (marked : account.mark? = some mark) :
    operation.newMark? = some mark ∨
      mark = .principal ("principal-" ++ hex) := by
  cases operation with
  | createWeixinInvitation principalId =>
    cases created
    cases marked
    cases principalId with
    | none => exact .inr rfl
    | some principalId => exact .inl rfl
  | registerFeishuBot appId appSecret domain =>
    cases created
    left
    rw [← marked]
    rfl
  | _ => cases created

namespace AccountDirectory

theorem drawnFresh_facts
    {state : AccountDirectory} {account : ChannelAccount} {hex : String}
    (fresh : state.drawnFresh account hex = true) :
    validAccountId account.id = true ∧ hex.length = 32 ∧
      state.files.get? (account.platform, account.id) = none ∧
      ∀ key other, StoredAccount state.files key other →
        other.mark? ≠ some (.principal ("principal-" ++ hex)) := by
  unfold drawnFresh at fresh
  simp only [Bool.and_eq_true, decide_eq_true_iff, List.all_eq_true] at fresh
  rcases fresh with ⟨⟨⟨validId, drawn⟩, absent⟩, others⟩
  refine ⟨validId, drawn, absent, ?_⟩
  intro key other stored marked
  have unequal :=
    others _ ((Dict.mem_values_iff _ _).mpr ⟨key, stored⟩)
  rcases mark?_principal marked with ⟨weixin, samePrincipal⟩
  simp [weixin, samePrincipal] at unequal

theorem creating_change
    {state : AccountDirectory} {operation : RegistryOperation}
    {account : ChannelAccount} {id hex : String} {now : Nat}
    (owner : OwnerPrincipal)
    (valid : ValidDirectory state.files)
    (sound : StageSound state.files operation .creating)
    (created : operation.newAccount owner.id id hex now = some account)
    (fresh : state.drawnFresh account hex = true) :
    FilesChange operation state.files (state.files.insert (account.platform, account.id)
        (.account account)) := by
  rcases sound with ⟨checked, directory, -, free⟩
  rcases drawnFresh_facts fresh with ⟨validId, drawn, absent, others⟩
  have sameId : account.id = id := by
    cases operation <;> cases created <;> rfl
  have newKey {key : RecordKey} {other : ChannelAccount}
      (stored : StoredAccount state.files key other) :
      key ≠ (account.platform, account.id) := by
    rintro rfl
    unfold StoredAccount at stored
    rw [absent] at stored
    cases stored
  constructor
  · apply valid.insert
    · exact newAccount_valid owner checked (sameId ▸ validId) drawn created
    · intro other another mark elsewhere stored marked
      rcases newAccount_mark created marked with given | rfl
      · exact free mark given other another stored
      · exact others other another stored
  · intro key before after storedBefore storedAfter
    left
    rw [storedAccount_insert] at storedAfter
    rcases storedAfter with ⟨same, -⟩ | ⟨-, storedAfter⟩
    · exact absurd same (newKey storedBefore)
    · unfold StoredAccount at storedBefore storedAfter
      rw [storedBefore] at storedAfter
      cases storedAfter
      rfl
  · intro key other stored gone
    rw [storedAccount_insert, not_or] at gone
    exact absurd ⟨newKey stored, stored⟩ gone.2
  · intro noDirectory
    exact absurd directory noDirectory

end AccountDirectory

end TurningGood.Channels
