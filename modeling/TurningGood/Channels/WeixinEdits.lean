import TurningGood.Channels.WeixinBinding

/-!
# What the writes do to the record of a binding

Three private fields say whose binding it is: the epoch, the sender that it
is locked to, and the bot token.  Most writes keep all three; an expiry
removes the sender and the token, the first message of an epoch locks the
sender, and only the commit of a rebind changes the epoch.
-/

namespace TurningGood.Channels

open TurningGood.Foundation
open TurningGood.Foundation.Text

variable {before after current account updated : ChannelAccount} {name : String}
  {now : Nat} {record : Option ChannelAccount} {event : WeixinEvent}
  {parsed : ParsedWeixinEvent}

/-! ## Kept fields -/

/-- The epoch, the sender and the bot token are as before. -/
structure SameBinding (before after : ChannelAccount) : Prop where
  epoch :
    after.privateState.get? "binding_epoch" =
      before.privateState.get? "binding_epoch"
  sender :
    after.privateState.get? "from_user_id" =
      before.privateState.get? "from_user_id"
  token :
    after.privateState.get? "bot_token" =
      before.privateState.get? "bot_token"

namespace SameBinding

theorem refl (account : ChannelAccount) : SameBinding account account where
  epoch := rfl
  sender := rfl
  token := rfl

theorem trans {first second third : ChannelAccount}
    (front : SameBinding first second) (back : SameBinding second third) :
    SameBinding first third where
  epoch := back.epoch.trans front.epoch
  sender := back.sender.trans front.sender
  token := back.token.trans front.token

end SameBinding

theorem bindingEpoch_congr (same :
      after.privateState.get? "binding_epoch" =
        before.privateState.get? "binding_epoch") :
    after.bindingEpoch = before.bindingEpoch := by
  simp [ChannelAccount.bindingEpoch, same]

theorem lockedSender_congr (same :
      after.privateState.get? "from_user_id" =
        before.privateState.get? "from_user_id") :
    after.lockedSender? = before.lockedSender? := by
  simp [ChannelAccount.lockedSender?, ChannelAccount.textField?, same]

theorem merged_field (same :
      account.privateState.get? name = current.privateState.get? name) :
    (writtenPrivate current account true).get? name =
      current.privateState.get? name := by
  rw [writtenPrivate, if_pos rfl, Dict.get?_update, same]
  cases current.privateState.get? name <;> rfl

theorem replaced_field
    (current account : ChannelAccount) (name : String) :
    (writtenPrivate current account false).get? name =
      account.privateState.get? name := by
  rw [writtenPrivate, if_neg (by simp), Dict.get?_update, Dict.get?_empty,
    Option.or_none]

theorem update_field {privateState update : Dict String PrivateValue}
    (missing : update.get? name = none) :
    (privateState.update update).get? name = privateState.get? name := by
  rw [Dict.get?_update, missing, Option.none_or]

/-! ## Edits -/

/--
What a write other than the commit of a rebind does to a record.  Only the
handling of an event may lock a sender.
-/
inductive RecordEdit (mayLock : Bool) (before after : ChannelAccount) :
    Prop where
  | kept
      (same : SameBinding before after)
      (status : after.status = before.status)
  | stopped
      (same : SameBinding before after)
      (status : after.status = .disabled ∨ after.status = .revoked)
  | expired
      (epoch :
        after.privateState.get? "binding_epoch" =
          before.privateState.get? "binding_epoch")
      (sender : after.privateState.get? "from_user_id" = none)
      (token : after.privateState.get? "bot_token" = none)
      (status : after.status = .expired)
  | locked
      (allowed : mayLock = true)
      (epoch :
        after.privateState.get? "binding_epoch" =
          before.privateState.get? "binding_epoch")
      (token :
        after.privateState.get? "bot_token" =
          before.privateState.get? "bot_token")
      (unlocked : before.lockedSender? = none)
      (waiting : before.status = .awaitingFirstDm)
      (sender : String)
      (nonempty : sender ≠ "")
      (lock :
        after.privateState.get? "from_user_id" = some (.text sender))
      (status : after.status = .active)

namespace RecordEdit

variable {mayLock : Bool}

theorem refl (account : ChannelAccount) :
    RecordEdit mayLock account account :=
  .kept (.refl account) rfl

theorem then_same {before middle after : ChannelAccount}
    (edit : RecordEdit mayLock before middle)
    (same : SameBinding middle after)
    (status : after.status = middle.status) :
    RecordEdit mayLock before after := by
  cases edit with
  | kept front unchanged =>
    exact .kept (front.trans same) (status.trans unchanged)
  | stopped front ended =>
    exact .stopped (front.trans same) (status ▸ ended)
  | expired epoch sender token ended =>
    exact .expired (same.epoch.trans epoch) (same.sender.trans sender)
      (same.token.trans token) (status.trans ended)
  | locked allowed epoch token unlocked waiting sender nonempty lock
      active =>
      exact .locked allowed (same.epoch.trans epoch)
        (same.token.trans token) unlocked waiting sender nonempty (same.sender.trans lock)
        (status.trans active)

theorem epoch_eq {before after : ChannelAccount}
    (edit : RecordEdit mayLock before after) :
    after.bindingEpoch = before.bindingEpoch := by
  cases edit with
  | kept same | stopped same => exact bindingEpoch_congr same.epoch
  | expired epoch => exact bindingEpoch_congr epoch
  | locked _ epoch => exact bindingEpoch_congr epoch

end RecordEdit

/-- The record as it was, or after an edit. -/
def Edited (mayLock : Bool) (before after : Option ChannelAccount) :
    Prop :=
  after = before ∨
    ∃ current updated,
      before = some current ∧ after = some updated ∧
        RecordEdit mayLock current updated

theorem Edited.refl {mayLock : Bool} (record : Option ChannelAccount) :
    Edited mayLock record record :=
  Or.inl rfl

theorem Edited.of_some {mayLock : Bool} {before : Option ChannelAccount}
    (edited : Edited mayLock before (some updated)) :
    ∃ current,
      before = some current ∧ RecordEdit mayLock current updated := by
  rcases edited with same | ⟨current, _, stored, present, edit⟩
  · exact ⟨updated, same.symm, .refl updated⟩
  · cases present
    exact ⟨current, stored, edit⟩

theorem disconnectedCandidate_same (current : ChannelAccount) :
    SameBinding current (disconnectedCandidate current) where
  epoch := Dict.get?_insert_of_ne _ _ (by decide)
  sender := Dict.get?_insert_of_ne _ _ (by decide)
  token := Dict.get?_insert_of_ne _ _ (by decide)

theorem markDisconnected_edited
    (record : Option ChannelAccount) (now : Nat) :
    Edited false record (markDisconnected record now) := by
  cases record with
  | none => exact .refl none
  | some current =>
    rw [markDisconnected]
    split_ifs
    · exact .refl _
    · split
      · rename_i updated written
        rcases writeAccount_eq written with ⟨_, same, rfl, _⟩
        cases same
        have fields := disconnectedCandidate_same current
        exact Or.inr ⟨_, _, rfl, rfl,
          .kept
            { epoch := merged_field fields.epoch
              sender := merged_field fields.sender
              token := merged_field fields.token }
            rfl⟩
      · exact .refl _

theorem get?_foldl_erase_self
    {fieldNames : List String} {query : String}
    (member : query ∈ fieldNames) (dict : Dict String PrivateValue) :
    (fieldNames.foldl Dict.erase dict).get? query = none := by
  induction fieldNames generalizing dict with
  | nil => cases member
  | cons head rest induction =>
    rw [List.foldl_cons]
    by_cases later : query ∈ rest
    · exact induction later _
    · rw [get?_foldl_erase rest _ later]
      rcases List.mem_cons.mp member with rfl | impossible
      · exact Dict.get?_erase_self dict query
      · exact absurd impossible later

theorem expiredCandidate_field (current : ChannelAccount)
    (notState : name ≠ "credential_state") (notFlag : name ≠ "connected") :
    (expiredCandidate current).privateState.get? name =
      if name ∈ expiredFields then none
      else current.privateState.get? name := by
  simp only [expiredCandidate, Dict.get?_insert, notState, notFlag,
    if_false]
  split_ifs with removed
  · exact get?_foldl_erase_self removed _
  · exact get?_foldl_erase _ _ removed

theorem expireBinding_edited
    (record : Option ChannelAccount) (now : Nat) :
    Edited false record (expireBinding record now) := by
  cases record with
  | none => exact .refl none
  | some current =>
    rw [expireBinding]
    split_ifs
    · exact .refl _
    · split
      · rename_i updated written
        rcases writeAccount_eq written with ⟨_, same, rfl, _⟩
        cases same
        refine Or.inr ⟨_, _, rfl, rfl, .expired ?_ ?_ ?_ rfl⟩
        · exact (replaced_field _ _ _).trans
            (expiredCandidate_field current (by decide) (by decide))
        · exact (replaced_field _ _ _).trans
            (expiredCandidate_field current (by decide) (by decide))
        · exact (replaced_field _ _ _).trans
            (expiredCandidate_field current (by decide) (by decide))
      · exact .refl _

theorem writeAccount_same (written :
      writeAccount [] (some current) account true none now = .ok updated)
    (same : SameBinding current account) :
    SameBinding current updated ∧ updated.status = account.status := by
  rcases writeAccount_eq written with ⟨_, stored, rfl, _⟩
  cases stored
  exact
    ⟨{ epoch := merged_field same.epoch
       sender := merged_field same.sender
       token := merged_field same.token }, rfl⟩

theorem controlCandidate_private {control : WeixinControl}
    {candidate : ChannelAccount}
    (allowed : controlCandidate control account = some candidate) :
    candidate.privateState = account.privateState := by
  cases control <;>
    simp only [controlCandidate, Option.ite_none_left_eq_some,
      Option.some.injEq] at allowed
  · exact allowed.2 ▸ rfl
  · exact allowed ▸ rfl
  · exact allowed.2 ▸ rfl
  · exact allowed.2 ▸ rfl

theorem SameBinding.of_private
    (same : after.privateState = before.privateState) :
    SameBinding before after where
  epoch := by rw [same]
  sender := by rw [same]
  token := by rw [same]

theorem revoke_edited (revoked : revoke [] (some current) now = .ok updated) :
    RecordEdit false current updated := by
  unfold revoke at revoked
  dsimp only at revoked
  split_ifs at revoked
  · cases revoked
    exact .refl _
  · rcases writeAccount_same revoked (.of_private rfl) with
      ⟨same, status⟩
    exact .stopped same (Or.inr status)

theorem updateAccount_same {status : Option AccountStatus}
    {update : Dict String PrivateValue} (written :
      updateAccount (some current) account status update now = .ok updated)
    (epoch : update.get? "binding_epoch" = none)
    (sender : update.get? "from_user_id" = none)
    (token : update.get? "bot_token" = none) :
    SameBinding current updated ∧
      updated.status = status.getD current.status :=
  writeAccount_same written
    { epoch := update_field epoch
      sender := update_field sender
      token := update_field token }

theorem failPendingQr_same {credentialState : String} (written :
      failPendingQr (some current) account credentialState now =
        .ok updated) : SameBinding current updated ∧ updated.status = .failed :=
  writeAccount_same written
    { epoch := by simp [Dict.get?_insert]
      sender := by simp [Dict.get?_insert]
      token := by simp [Dict.get?_insert] }

theorem pollUpdate_field (result : PollResult) (other : name ≠ "cursor") :
    result.privateUpdate.get? name = none := by
  unfold PollResult.privateUpdate
  split
  · rw [Dict.get?_insert_of_ne _ _ other, Dict.get?_empty]
  · exact Dict.get?_empty name

theorem applyPrivateUpdate_edited {result : PollResult} (written :
      applyPrivateUpdate (some current) current result.privateUpdate now =
        .ok updated) : RecordEdit false current updated := by
  unfold applyPrivateUpdate at written
  split_ifs at written
  · cases written
    exact .refl _
  · rcases updateAccount_same written (pollUpdate_field result (by decide))
      (pollUpdate_field result (by decide))
      (pollUpdate_field result (by decide)) with ⟨same, status⟩
    exact .kept same status

theorem loginResult_field (binding : ChannelAccount) (continuing : Bool)
    (answer : LoginAnswer)
    (other : name = "binding_epoch" ∨ name = "from_user_id") :
    (loginResult binding continuing answer).privateUpdate.get? name =
      none := by
  rcases other with rfl | rfl <;>
    cases continuing <;>
    simp only [loginResult, beginLogin, continueLogin, LoginResult.failed,
      Bool.false_eq_true, if_true, if_false] <;>
    repeat' split
  all_goals simp [Dict.get?_insert]

/-! ## Events -/

variable {sender : String}

theorem lockedTo_edit {contextToken : String}
    (unlocked : current.lockedSender? = none)
    (waiting : current.status = .awaitingFirstDm) (nonempty : sender ≠ "") :
    RecordEdit true current (current.lockedTo sender contextToken now) :=
  .locked rfl (by simp [ChannelAccount.lockedTo, Dict.get?_insert])
    (by simp [ChannelAccount.lockedTo, Dict.get?_insert]) unlocked waiting
    sender nonempty (by simp [ChannelAccount.lockedTo, Dict.get?_insert])
    rfl

theorem lockedSender_of_field (field :
      account.privateState.get? "from_user_id" = some (.text sender))
    (nonempty : sender ≠ "") : account.lockedSender? = some sender := by
  simp [ChannelAccount.lockedSender?, ChannelAccount.textField?, field,
    PrivateValue.text?, nonempty]

theorem claimWeixinFirstSender_accepted {contextToken : String} (claimed :
      claimWeixinFirstSender record sender contextToken now =
        .ok (updated, true)) :
    ∃ current,
      record = some current ∧ RecordEdit true current updated ∧
        updated.lockedSender? = some sender := by
  unfold claimWeixinFirstSender at claimed
  split_ifs at claimed with senderValid tokenValid
  cases record with
  | none => cases claimed
  | some current =>
    refine ⟨current, rfl, ?_⟩
    dsimp only at claimed
    split at claimed
    · rename_i locked present
      simp only [Except.ok.injEq, Prod.mk.injEq,
        decide_eq_true_eq] at claimed
      rcases claimed with ⟨rfl, rfl⟩
      exact ⟨.refl _, present⟩
    · rename_i unlocked
      split_ifs at claimed with waiting
      · cases claimed
      · cases claimed
        rw [not_not] at waiting
        have nonempty : sender ≠ "" := by
          simp only [validProtocolValue, Bool.and_eq_true,
            decide_eq_true_eq] at senderValid
          exact senderValid.1
        refine ⟨lockedTo_edit unlocked waiting nonempty, ?_⟩
        exact lockedSender_of_field
          (by simp [ChannelAccount.lockedTo, Dict.get?_insert]) nonempty

theorem lockSender_passed {faults : WriteFaults}
    {stored : Option ChannelAccount} {locked : ChannelAccount}
    (fresh : ∀ current, record = some current → account = current) (passed :
      lockSender record account event parsed faults now =
        .ok (some (stored, locked))) :
    Edited true record stored ∧ locked.lockedSender? = some parsed.sender ∧
      ∀ current, stored = some current → locked = current := by
  unfold lockSender at passed
  split at passed
  · rename_i sender present
    simp only [Except.ok.injEq, Option.ite_none_right_eq_some,
      Option.some.injEq, Prod.mk.injEq] at passed
    rcases passed with ⟨rfl, rfl, rfl⟩
    exact ⟨.refl _, present, fresh⟩
  · split at passed
    · cases passed
    · split at passed
      · cases passed
      split at passed
      · cases passed
      · cases passed
      · rename_i updated claimed
        split at passed
        · cases passed
        simp only [Except.ok.injEq, Option.some.injEq,
          Prod.mk.injEq] at passed
        rcases passed with ⟨rfl, rfl⟩
        rcases claimWeixinFirstSender_accepted claimed with
          ⟨current, rfl, edit, lock⟩
        refine ⟨Or.inr ⟨current, updated, rfl, rfl, edit⟩, lock, ?_⟩
        intro other same
        exact Option.some.inj same

theorem withInbound_same
    (account : ChannelAccount) (inboundIds : List String) (now : Nat) :
    SameBinding account (account.withInbound inboundIds now) where
  epoch := Dict.get?_insert_of_ne _ _ (by decide)
  sender := Dict.get?_insert_of_ne _ _ (by decide)
  token := Dict.get?_insert_of_ne _ _ (by decide)

theorem refreshContext_same {claimed stored refreshed : ChannelAccount}
    {faults : WriteFaults} (same : SameBinding account claimed) (refresh :
      refreshContext claimed account event faults now =
        .ok (stored, refreshed)) :
    SameBinding claimed stored ∧ stored.status = claimed.status ∧
      SameBinding refreshed stored := by
  unfold refreshContext at refresh
  split at refresh
  · cases refresh
    exact ⟨.refl _, rfl, same⟩
  · split at refresh
    · cases refresh
    · rename_i updated written
      split_ifs at refresh
      cases refresh
      rcases updateAccount_same written (by simp [Dict.get?_insert])
        (by simp [Dict.get?_insert]) (by simp [Dict.get?_insert]) with
        ⟨kept, status⟩
      exact ⟨kept, status, .refl _⟩

/-- What an awaiting handling has to do with the stored record. -/
def Handled.Matches (event : WeixinEvent) (stored : ChannelAccount) :
    Handled → Prop
  | .raised _ | .finished => True
  | .notice account => account.bindingEpoch = stored.bindingEpoch
  | .accept inbound =>
    inbound.bindingEpoch = stored.bindingEpoch ∧
      ∃ sender,
        event.sender? = some sender ∧
          stored.lockedSender? = some sender

theorem handleClaimed_spec {claimed : ChannelAccount} (inboundId : String)
    (faults : WriteFaults) (now : Nat) (same : SameBinding account claimed)
    (sender : event.sender? = some parsed.sender)
    (locked : account.lockedSender? = some parsed.sender) :
    let result :=
      handleClaimed claimed account event parsed inboundId faults now
    SameBinding claimed result.1 ∧ result.1.status = claimed.status ∧
      result.2.Matches event result.1 := by
  dsimp only
  unfold handleClaimed
  split
  · exact ⟨.refl _, rfl, trivial⟩
  · rename_i stored refreshed refresh
    rcases refreshContext_same same refresh with ⟨kept, status, matching⟩
    have epoch := (bindingEpoch_congr matching.epoch).symm
    split
    · exact ⟨kept, status, epoch⟩
    · split
      · exact ⟨kept, status, trivial⟩
      · refine ⟨kept, status, epoch, parsed.sender, sender, ?_⟩
        exact (lockedSender_congr (same.trans kept).sender).trans locked

theorem parseWeixinEvent_sender
    (parses : parseWeixinEvent event = some parsed) :
    event.sender? = some parsed.sender := by
  unfold parseWeixinEvent at parses
  split at parses
  · rename_i present _
    split at parses
    · cases parses
    · cases parses
      exact present
  · cases parses

theorem handleWeixinEvent_spec (event : WeixinEvent) (faults : WriteFaults)
    (now : Nat) (fresh : ∀ current, record = some current → account = current) :
    let result := handleWeixinEvent record account event faults now
    Edited true record result.1 ∧
      (∀ stored, result.1 = some stored → result.2.Matches event stored) ∧
      (result.1 = none →
        ∃ message,
          result.2 = .finished ∨ result.2 = .raised message) := by
  dsimp only
  unfold handleWeixinEvent
  split
  · exact ⟨.refl _, fun _ _ => trivial, fun _ => ⟨"", Or.inl rfl⟩⟩
  · rename_i parsed parses
    split
    · exact ⟨.refl _, fun _ _ => trivial, fun _ => ⟨"", Or.inl rfl⟩⟩
    · split
      · exact ⟨.refl _, fun _ _ => trivial, fun _ => ⟨_, Or.inr rfl⟩⟩
      · exact ⟨.refl _, fun _ _ => trivial, fun _ => ⟨"", Or.inl rfl⟩⟩
      · rename_i stored locked passed
        rcases lockSender_passed fresh passed with ⟨edited, lock, same⟩
        dsimp only
        split
        · exact ⟨edited, fun _ _ => trivial, fun _ => ⟨_, Or.inr rfl⟩⟩
        · exact ⟨edited, fun _ _ => trivial, fun _ => ⟨"", Or.inl rfl⟩⟩
        · rename_i claimed accepted
          split
          · exact ⟨edited, fun _ _ => trivial, fun _ => ⟨_, Or.inr rfl⟩⟩
          · rcases claimInbounds_accepted accepted with
              ⟨current, rfl, _, _, _, rfl⟩
            rcases same current rfl with rfl
            have kept := withInbound_same locked
              (distinctIds
                ["weixin:" ++ locked.id ++ ":" ++ parsed.messageKey]) now
            rcases handleClaimed_spec
              ("weixin:" ++ locked.id ++ ":" ++ parsed.messageKey) faults
              now kept (parseWeixinEvent_sender parses) lock with
              ⟨later, status, matching⟩
            refine ⟨?_, ?_, ?_⟩
            · rcases edited.of_some with ⟨first, rfl, edit⟩
              exact Or.inr ⟨first, _, rfl, rfl,
                (edit.then_same kept rfl).then_same later status⟩
            · intro final present
              cases present
              exact matching
            · intro impossible
              cases impossible

end TurningGood.Channels
