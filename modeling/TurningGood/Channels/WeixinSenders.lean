import TurningGood.Channels.WeixinEpochs

/-!
# One sender and one peer for each epoch

The first accepted message of an epoch locks the sender, and a reply is sent
only while the record is at the epoch of the message that it answers.  The
lock is lost within an epoch when the credentials expire.  A binding that has
expired stays silent until it is scanned again, which starts another epoch,
unless it is disabled and enabled: then it asks for a login of the same
epoch, and another user may become the sender.
-/

namespace TurningGood.Channels

open TurningGood.Foundation

namespace WeixinBinding

variable {account : ChannelAccount} {state : WeixinBinding}

/--
An account answers a submitted message: it is of the epoch of the message,
its peer is the sender, and its bot token was issued for that epoch.
-/
def AnswersFrom (state : WeixinBinding) (account : ChannelAccount)
    (submission : Submission) : Prop :=
  account.bindingEpoch = submission.inbound.bindingEpoch ∧
    account.lockedSender? = some submission.sender ∧
    ∀ token, account.privateState.get? "bot_token" = some token →
        (submission.inbound.bindingEpoch, token) ∈ state.issued

/-- Every chunk of a reply was sent within the epoch of its message. -/
def IsolatesReplies (state : WeixinBinding) : Prop := ∀ chunk ∈ state.sent,
    ∀ submission eventType content, chunk.origin = .reply submission eventType content →
        state.AnswersFrom chunk.account submission

/-- The messages of an epoch come from one sender. -/
def OneSenderPerEpoch (state : WeixinBinding) : Prop :=
  ∀ first ∈ state.submitted, ∀ second ∈ state.submitted,
    first.inbound.bindingEpoch = second.inbound.bindingEpoch →
      first.sender = second.sender

/--
`enable` puts a binding without sender and credentials back to the login
though it has accepted messages in the epoch it is at.
-/
def reopensEpoch (state : WeixinBinding) : Label → Bool
  | .control .enable _ =>
    state.record.any fun account =>
      account.status ≠ .revoked && account.status ≠ .expired &&
        enabledStatus account = .pendingQr &&
        state.submitted.any fun submission =>
          submission.inbound.bindingEpoch = account.bindingEpoch
  | _ => false

/-- The step does not take an epoch up again. -/
def KeepsEpochClosed (state : WeixinBinding) (label : Label) : Prop :=
  state.reopensEpoch label = false

instance (state : WeixinBinding) (label : Label) :
    Decidable (state.KeepsEpochClosed label) :=
  inferInstanceAs (Decidable (_ = false))

/-- No message has been accepted in the current epoch. -/
def Fresh (state : WeixinBinding) : Prop := ∀ submission ∈ state.submitted,
    submission.inbound.bindingEpoch ≠ state.commits

/-- All messages of the current epoch come from one sender. -/
def LockedTo (state : WeixinBinding) (sender : String) : Prop := ∀ submission ∈ state.submitted,
    submission.inbound.bindingEpoch = state.commits → submission.sender = sender

/-- The sender and the credentials are gone, and the binding is stopped. -/
structure Spent (account : ChannelAccount) : Prop where
  sender : account.privateState.get? "from_user_id" = none
  token : account.privateState.get? "bot_token" = none
  status : account.status = .expired ∨ account.status = .disabled ∨ account.status = .revoked

/-- Where the current epoch has come to. -/
inductive EpochPhase (state : WeixinBinding) (account : ChannelAccount) :
    Prop where
  | fresh (fresh : state.Fresh)
  | locked (sender : String)
      (lock : account.lockedSender? = some sender)
      (one : state.LockedTo sender)
  | spent (spent : Spent account)

/-- What holds of the stored record. -/
structure RecordSound (state : WeixinBinding)
    (account : ChannelAccount) : Prop where
  sender : account.privateState.get? "from_user_id" = none ∨
      ∃ sender, account.lockedSender? = some sender
  waiting : account.status = .pendingQr → account.privateState.get? "from_user_id" = none
  phase : state.EpochPhase account
  login : state.lock.any Holder.isLogin = true →
      account.privateState.get? "from_user_id" = none ∧ state.Fresh
  token : ∀ token, account.privateState.get? "bot_token" = some token →
        (state.commits, token) ∈ state.issued

/-- The invariant of the senders and the replies. -/
structure SendersSound (state : WeixinBinding) : Prop where
  past : ∀ submission ∈ state.submitted, submission.inbound.bindingEpoch ≤ state.commits
  one : state.OneSenderPerEpoch
  record : ∀ account, state.record = some account → state.RecordSound account
  sends : ∀ number call submission eventType content rest, state.sends.get? number = some
            (.sending call (.reply submission eventType content) rest) →
        state.AnswersFrom call.account submission
  sent : state.IsolatesReplies

/-! ## Records -/

theorem lockedSender_of_none (absent : account.privateState.get? "from_user_id" = none) :
    account.lockedSender? = none := by
  simp [ChannelAccount.lockedSender?, ChannelAccount.textField?, absent]

theorem fieldTruthy_of_none {name : String} (absent : account.privateState.get? name = none) :
    account.fieldTruthy name = false := by
  simp [ChannelAccount.fieldTruthy, absent]

theorem fieldTruthy_of_locked {sender : String} (lock : account.lockedSender? = some sender) :
    account.fieldTruthy "from_user_id" = true := by
  simp only [ChannelAccount.lockedSender?, ChannelAccount.textField?,
    Option.filter_eq_some_iff, Option.bind_eq_some_iff] at lock
  rcases lock with ⟨⟨value, present, text⟩, nonempty⟩
  cases value with
  | text value =>
    cases text
    simpa [ChannelAccount.fieldTruthy, present, PrivateValue.truthy] using nonempty
  | flag | number | texts | other => cases text

section Records

variable {state : WeixinBinding} {current updated : ChannelAccount}

theorem RecordSound.fresh_of_waiting (sound : state.RecordSound current)
    (waiting : current.status = .pendingQr) : state.Fresh := by
  cases sound.phase with
  | fresh fresh => exact fresh
  | locked sender lock one =>
    rw [lockedSender_of_none (sound.waiting waiting)] at lock
    cases lock
  | spent spent =>
    rcases spent.status with status | status | status
    all_goals
      rw [waiting] at status
      cases status

theorem RecordSound.withStatus (sound : state.RecordSound current)
    (same : SameBinding current updated)
    (waiting : updated.status = .pendingQr → current.privateState.get? "from_user_id" = none)
    (phase : Spent current → state.EpochPhase updated) :
    state.RecordSound updated where
  sender := by
    rcases sound.sender with absent | ⟨sender, lock⟩
    · exact Or.inl (same.sender.trans absent)
    · exact Or.inr ⟨sender, (lockedSender_congr same.sender).trans lock⟩
  waiting := fun status => same.sender.trans (waiting status)
  phase := by
    cases sound.phase with
    | fresh fresh => exact .fresh fresh
    | locked sender lock one =>
      exact .locked sender ((lockedSender_congr same.sender).trans lock) one
    | spent spent => exact phase spent
  login := by
    intro isLogin
    rcases sound.login isLogin with ⟨absent, fresh⟩
    exact ⟨same.sender.trans absent, fresh⟩
  token := fun token present =>
    sound.token token (same.token.symm.trans present)

theorem RecordSound.edit {mayLock : Bool} (sound : state.RecordSound current)
    (edit : RecordEdit mayLock current updated)
    (handles : mayLock = true → state.lock.any Holder.isLogin = false) :
    state.RecordSound updated := by
  cases edit with
  | kept same status =>
    refine sound.withStatus same ?_ ?_
    · exact fun waiting => sound.waiting (status.symm.trans waiting)
    · intro spent
      exact .spent
        { sender := same.sender.trans spent.sender
          token := same.token.trans spent.token
          status := status ▸ spent.status }
  | stopped same status =>
    refine sound.withStatus same ?_ ?_
    · intro waiting
      rw [waiting] at status
      rcases status with impossible | impossible
      · cases impossible
      · cases impossible
    · intro spent
      exact .spent
        { sender := same.sender.trans spent.sender
          token := same.token.trans spent.token
          status := Or.inr status }
  | expired epoch sender token status =>
    exact
      { sender := Or.inl sender
        waiting := fun _ => sender
        phase := .spent
            { sender := sender, token := token
              status := Or.inl status }
        login := fun isLogin => ⟨sender, (sound.login isLogin).2⟩
        token := fun _ present => by
          rw [token] at present
          cases present }
  | locked allowed epoch token unlocked waiting sender nonempty lock
      active =>
      have locked := lockedSender_of_field lock nonempty
      refine
        { sender := Or.inr ⟨sender, locked⟩
          waiting := ?_
          phase := ?_
          login := ?_
          token := fun found present =>
            sound.token found (token.symm.trans present) }
      · intro status
        rw [active] at status
        cases status
      · cases sound.phase with
        | fresh fresh => exact .fresh fresh
        | locked other lockOther one =>
          rw [unlocked] at lockOther
          cases lockOther
        | spent spent =>
          rcases spent.status with status | status | status
          all_goals
            rw [waiting] at status
            cases status
      · intro isLogin
        rw [handles allowed] at isLogin
        cases isLogin

theorem RecordSound.transfer {target : WeixinBinding} (sound : state.RecordSound current)
    (submitted : target.submitted = state.submitted)
    (commits : target.commits = state.commits)
    (issued : state.issued ⊆ target.issued)
    (lock : target.lock.any Holder.isLogin = true → state.lock.any Holder.isLogin = true) :
    target.RecordSound current where
  sender := sound.sender
  waiting := sound.waiting
  phase := by
    cases sound.phase with
    | fresh fresh =>
      refine .fresh ?_
      rw [Fresh, submitted, commits]
      exact fresh
    | locked sender lock one =>
      refine .locked sender lock ?_
      rw [LockedTo, submitted, commits]
      exact one
    | spent spent => exact .spent spent
  login := by
    intro isLogin
    rcases sound.login (lock isLogin) with ⟨absent, fresh⟩
    refine ⟨absent, ?_⟩
    rw [Fresh, submitted, commits]
    exact fresh
  token := by
    intro token present
    rw [commits]
    exact issued (sound.token token present)

end Records

theorem AnswersFrom.withIssued {target : WeixinBinding}
    {submission : Submission} (answers : state.AnswersFrom account submission)
    (issued : state.issued ⊆ target.issued) :
    target.AnswersFrom account submission :=
  ⟨answers.1, answers.2.1, fun token present => issued (answers.2.2 token present)⟩

theorem RecordSound.answers {submission : Submission} (sound : state.RecordSound account)
    (commits : account.bindingEpoch = state.commits)
    (active : account.isActive = true) (member : submission ∈ state.submitted)
    (epoch : submission.inbound.bindingEpoch = account.bindingEpoch) :
    state.AnswersFrom account submission := by
  have current : submission.inbound.bindingEpoch = state.commits :=
    epoch.trans commits
  refine ⟨epoch.symm, ?_, ?_⟩
  · cases sound.phase with
    | fresh fresh => exact absurd current (fresh submission member)
    | locked sender lock one =>
      rw [one submission member current]
      exact lock
    | spent spent =>
      have truthy : account.fieldTruthy "from_user_id" = true := by
        simp only [ChannelAccount.isActive, Bool.and_eq_true] at active
        exact active.1.2
      rw [fieldTruthy_of_none spent.sender] at truthy
      cases truthy
  · intro token present
    rw [current]
    exact sound.token token present

/-! ## Changes -/

section Changes

variable {first state target : WeixinBinding} {label : Label}

theorem SendersSound.transfer (sound : state.SendersSound)
    (submitted : target.submitted = state.submitted)
    (commits : target.commits = state.commits)
    (issued : state.issued ⊆ target.issued)
    (sent : target.sent = state.sent)
    (records : ∀ account, target.record = some account → target.RecordSound account)
    (sends : ∀ number frame, target.sends.get? number = some frame →
        state.sends.get? number = some frame) :
    target.SendersSound where
  past := by
    rw [submitted, commits]
    exact sound.past
  one := by
    rw [OneSenderPerEpoch, submitted]
    exact sound.one
  record := records
  sends := by
    intro number call submission eventType content rest waits
    exact (sound.sends number call submission eventType content rest
      (sends number _ waits)).withIssued issued
  sent := by
    intro chunk member submission eventType content reply
    rw [sent] at member
    exact (sound.sent chunk member submission eventType content reply).withIssued issued

theorem SendersSound.withRecord (sound : state.SendersSound) {record : Option ChannelAccount}
    (records : ∀ account, record = some account → state.RecordSound account) :
    { state with record := record }.SendersSound :=
  sound.transfer rfl rfl (List.Subset.refl _) rfl (fun account present =>
      (records account present).transfer rfl rfl (List.Subset.refl _) id)
    (fun _ _ => id)

theorem SendersSound.sameRecord (sound : state.SendersSound) (record : target.record = state.record)
    (submitted : target.submitted = state.submitted)
    (commits : target.commits = state.commits)
    (issued : target.issued = state.issued)
    (sent : target.sent = state.sent)
    (lock : target.lock.any Holder.isLogin = true → state.lock.any Holder.isLogin = true)
    (sends : ∀ number frame, target.sends.get? number = some frame →
        state.sends.get? number = some frame) :
    target.SendersSound := by
  have kept : state.issued ⊆ target.issued :=
    issued ▸ List.Subset.refl _
  refine sound.transfer submitted commits kept sent ?_ sends
  intro account present
  exact (sound.record account (record ▸ present)).transfer submitted commits kept lock

theorem SendersSound.edited {mayLock : Bool}
    (sound : state.SendersSound) {record : Option ChannelAccount}
    (edited : Edited mayLock state.record record)
    (handles : mayLock = true → state.lock.any Holder.isLogin = false) :
    ∀ account, record = some account → state.RecordSound account := by
  intro account present
  subst present
  rcases edited.of_some with ⟨current, stored, edit⟩
  exact (sound.record current stored).edit edit handles

theorem mem_issuedBy {epoch : Nat} {privateUpdate : Dict String PrivateValue}
    {token : PrivateValue}
    (present : privateUpdate.get? "bot_token" = some token) :
    (epoch, token) ∈ issuedBy epoch privateUpdate := by
  simp [issuedBy, present]

theorem SendersSound.withSend (sound : state.SendersSound) (number : Nat) (frame : SendFrame)
    (answers : ∀ call submission eventType content rest, frame =
            .sending call (.reply submission eventType content) rest →
          state.AnswersFrom call.account submission) :
    { state with
      sends := state.sends.insert number frame }.SendersSound where
  past := sound.past
  one := sound.one
  record := fun account stored =>
    (sound.record account stored).transfer rfl rfl (List.Subset.refl _) id
  sends := by
    intro other call submission eventType content rest waits
    rw [Dict.get?_insert] at waits
    split at waits
    · cases waits
      exact answers call submission eventType content rest rfl
    · exact sound.sends other call submission eventType content rest waits
  sent := sound.sent

theorem RecordSound.enable {current updated : ChannelAccount} (sound : state.RecordSound current)
    (stored : state.record = some current)
    (commits : current.bindingEpoch = state.commits)
    {now : Nat} (closed : state.KeepsEpochClosed (.control .enable now))
    (revoked : current.status ≠ .revoked)
    (ready : current.status ≠ .expired)
    (same : SameBinding current updated)
    (status : updated.status = enabledStatus current) :
    state.RecordSound updated := by
  have absent :
      enabledStatus current = .pendingQr →
        current.privateState.get? "from_user_id" = none := by
    intro waits
    rcases sound.sender with absent | ⟨sender, lock⟩
    · exact absent
    · rw [enabledStatus, if_pos (fieldTruthy_of_locked lock)] at waits
      cases waits
  refine sound.withStatus same ?_ ?_
  · exact fun waiting => absent (status.symm.trans waiting)
  · intro spent
    have waits : enabledStatus current = .pendingQr := by
      simp [enabledStatus, fieldTruthy_of_none spent.sender, fieldTruthy_of_none spent.token]
    refine .fresh ?_
    intro submission member same
    simp only [KeepsEpochClosed, reopensEpoch, stored, Option.any_some,
      waits, Bool.and_eq_false_imp, List.any_eq_false,
      decide_eq_true_eq] at closed
    exact closed (by simp [revoked, ready]) submission member
      (same.trans commits.symm)

theorem Change.sendersSound (sound : state.SendersSound) (epochs : state.EpochSound)
    (closed : first.KeepsEpochClosed label)
    (change : Change first label state target) :
    target.SendersSound := by
  cases change with
  | started | pendingSet | pollSet =>
    exact sound.sameRecord rfl rfl rfl rfl rfl id fun _ _ => id
  | restarted =>
    refine sound.sameRecord rfl rfl rfl rfl rfl (by rintro ⟨⟩) ?_
    intro number frame present
    rw [Dict.get?_empty] at present
    cases present
  | edited _ mayLock after edited handles =>
    exact sound.withRecord (sound.edited edited handles)
  | deleted => exact sound.withRecord (by rintro _ ⟨⟩)
  | enabled current updated now labelled stored revoked ready same
      status =>
      subst labelled
      refine sound.withRecord ?_
      intro account present
      cases present
      exact (sound.record current stored).enable stored
        (epochs.record current stored) closed revoked ready same status
  | lockSet _ lock source =>
    refine sound.transfer rfl rfl (List.Subset.refl _) rfl ?_ fun _ _ => id
    intro account stored
    have facts := sound.record account stored
    exact
      { facts with
        phase := by
          cases facts.phase with
          | fresh fresh => exact .fresh fresh
          | locked sender lock one => exact .locked sender lock one
          | spent spent => exact .spent spent
        login := by
          intro isLogin
          rcases source.login isLogin with held | ⟨current, present, waiting⟩
          · exact facts.login held
          · cases stored.symm.trans present
            exact ⟨facts.waiting waiting, facts.fresh_of_waiting waiting⟩ }
  | sendErased _ number =>
    refine sound.sameRecord rfl rfl rfl rfl rfl id ?_
    intro other frame present
    rw [Dict.get?_erase] at present
    split at present
    · cases present
    · exact present
  | sendExpires _ number call origin rest waits =>
    exact sound.withSend number _ (by rintro _ _ _ _ _ ⟨⟩)
  | sendSet _ number call origin rest source =>
    refine sound.withSend number _ ?_
    intro found submission eventType content more same
    cases same
    rcases source with ⟨earlier, waits⟩ | ⟨stored, commits, active, answers⟩
    · exact sound.sends number call submission eventType content earlier waits
    · rcases answers submission eventType content rfl with ⟨member, epoch⟩
      exact (sound.record _ stored).answers (epochs.record _ stored) active member epoch
  | chunkSent _ number call origin rest text waits =>
    refine
      { sound with
        record := fun account stored =>
          (sound.record account stored).transfer rfl rfl (List.Subset.refl _) id
        sent := ?_ }
    intro chunk member submission eventType content reply
    rcases List.mem_append.mp member with earlier | last
    · exact sound.sent chunk earlier submission eventType content reply
    · rw [List.mem_singleton] at last
      subst last
      cases reply
      exact sound.sends number call submission eventType content rest waits
  | failed _ account written fault source edited =>
    refine sound.transfer rfl rfl (List.Subset.refl _) rfl ?_ fun _ _ => id
    intro found present
    have facts : state.RecordSound found := by
      simp only [writeFailure] at present
      split at present
      · exact sound.record found present
      · exact sound.edited edited (by rintro ⟨⟩) found present
    exact facts.transfer rfl rfl (List.Subset.refl _) id
  | loggedIn _ current updated update login stored epoch sender token =>
    have facts := sound.record current stored
    rcases facts.login login with ⟨absent, fresh⟩
    have unlocked := sender.trans absent
    have current' :=
      (bindingEpoch_congr epoch).trans (epochs.record current stored)
    refine sound.transfer rfl rfl (List.subset_append_left _ _) rfl ?_ fun _ _ => id
    intro account present
    cases present
    refine
      { sender := Or.inl unlocked
        waiting := fun _ => unlocked
        phase := .fresh fresh
        login := fun _ => ⟨unlocked, fresh⟩
        token := ?_ }
    intro found held
    rw [token] at held
    cases brought : update.get? "bot_token" with
    | none =>
      rw [brought, Option.none_or] at held
      exact List.mem_append_left _ (facts.token found held)
    | some value =>
      rw [brought, Option.some_or, Option.some.injEq] at held
      subst held
      exact List.mem_append_right _ (current' ▸ mem_issuedBy brought)
  | loginFailed _ current updated login stored same status =>
    refine sound.withRecord ?_
    intro account present
    cases present
    have facts := sound.record current stored
    refine facts.withStatus same ?_ ?_
    · intro waiting
      rw [status] at waiting
      cases waiting
    · intro spent
      rcases login with held | waiting
      · exact .fresh (facts.login held).2
      · exact .fresh (facts.fresh_of_waiting waiting)
  | committed _ current updated privateState stored epoch sender token
      status =>
      have current' :=
        epoch.trans (congrArg (· + 1) (epochs.record current stored))
      have fresh :
          ∀ submission ∈ state.submitted,
            submission.inbound.bindingEpoch ≠ state.commits + 1 := by
        intro submission member same
        have := sound.past submission member
        omega
      refine
        { past := fun submission member =>
            (sound.past submission member).trans (Nat.le_succ _)
          one := sound.one
          record := ?_
          sends := ?_
          sent := ?_ }
      · intro account present
        cases present
        refine
          { sender := Or.inl sender
            waiting := fun _ => sender
            phase := .fresh fresh
            login := (by rintro ⟨⟩)
            token := ?_ }
        intro found held
        rw [token] at held
        exact List.mem_append_right _ (current' ▸ mem_issuedBy held)
      · intro number call submission eventType content rest waits
        exact (sound.sends number call submission eventType content rest
          waits).withIssued (List.subset_append_left _ _)
      · intro chunk member submission eventType content reply
        exact (sound.sent chunk member submission eventType content
          reply).withIssued (List.subset_append_left _ _)
  | submitted _ current submission stored epoch sender =>
    have facts := sound.record current stored
    have now := epoch.trans (epochs.record current stored)
    have one : state.LockedTo submission.sender := by
      intro earlier member same
      cases facts.phase with
      | fresh fresh => exact absurd same (fresh earlier member)
      | locked other lock one =>
        rw [sender, Option.some.injEq] at lock
        rw [lock]
        exact one earlier member same
      | spent spent =>
        rw [lockedSender_of_none spent.sender] at sender
        cases sender
    refine
      { past := ?_
        one := ?_
        record := ?_
        sends := sound.sends
        sent := sound.sent }
    · intro found member
      rcases List.mem_append.mp member with earlier | last
      · exact sound.past found earlier
      · rw [List.mem_singleton] at last
        exact last ▸ now.le
    · intro front frontMember back backMember same
      rcases List.mem_append.mp frontMember with earlierFront | lastFront
      · rcases List.mem_append.mp backMember with earlierBack | lastBack
        · exact sound.one front earlierFront back earlierBack same
        · rw [List.mem_singleton] at lastBack
          subst lastBack
          exact one front earlierFront (same.trans now)
      · rw [List.mem_singleton] at lastFront
        subst lastFront
        rcases List.mem_append.mp backMember with earlierBack | lastBack
        · exact (one back earlierBack (same.symm.trans now)).symm
        · rw [List.mem_singleton] at lastBack
          rw [lastBack]
    · intro account present
      cases stored.symm.trans present
      refine
        { facts with
          phase := .locked submission.sender sender ?_
          login := ?_ }
      · intro found member same
        rcases List.mem_append.mp member with earlier | last
        · exact one found earlier same
        · rw [List.mem_singleton] at last
          rw [last]
      · intro isLogin
        have absent := (facts.login isLogin).1
        rw [lockedSender_of_none absent] at sender
        cases sender

end Changes

theorem step_sendersSound {maxBytes : Nat} {target : WeixinBinding}
    {label : Label} (sound : state.SendersSound) (epochs : state.EpochSound)
    (closed : state.KeepsEpochClosed label)
    (stepped : step maxBytes state label = some target) :
    target.SendersSound := by
  have both : target.EpochSound ∧ target.SendersSound := by
    refine (step_changes stepped).keeps (fun state => state.EpochSound ∧ state.SendersSound) ?_
      ⟨epochs, sound⟩
    intro before after holds change
    exact ⟨change.epochSound holds.1, change.sendersSound holds.2 holds.1 closed⟩
  exact both.2

theorem initial_sendersSound {maxBytes : Nat} (initial : (weixinMachine maxBytes).initial state) :
    state.SendersSound := by
  rcases initial with ⟨⟨id, principalId, now, record⟩, _, _, sends, _, lock, _, _,
      submitted, sent, _⟩
  refine
    { past := ?_, one := ?_, record := ?_, sends := ?_, sent := ?_ }
  · rw [submitted]
    exact fun _ member => absurd member List.not_mem_nil
  · rw [OneSenderPerEpoch, submitted]
    exact fun _ member => absurd member List.not_mem_nil
  · intro account stored
    rw [record, Option.some.injEq] at stored
    subst stored
    refine
      { sender := Or.inl rfl
        waiting := fun _ => rfl
        phase := .fresh ?_
        login := ?_
        token := nofun }
    · rw [Fresh, submitted]
      exact fun _ member => absurd member List.not_mem_nil
    · rw [lock]
      exact nofun
  · intro number call submission eventType content rest waits
    rw [sends, Dict.get?_empty] at waits
    cases waits
  · rw [IsolatesReplies, sent]
    exact fun _ member => absurd member List.not_mem_nil

/--
In every run in which no binding is enabled back to the login in an epoch
that has accepted messages, every chunk of a reply is sent with credentials
of the epoch of its message and to the sender of that message, and the
messages of an epoch come from one sender.
-/
theorem weixinRuns_isolateSenders
    {maxBytes : Nat} {state : WeixinBinding}
    (reached : (weixinMachine maxBytes).Reaches KeepsEpochClosed state) :
    state.IsolatesReplies ∧ state.OneSenderPerEpoch := by
  have sound : state.SendersSound := by
    refine reached.invariant ?_ ?_
    · exact fun _ initial => initial_sendersSound initial
    · exact fun _ _ _ earlier before closed stepped =>
        step_sendersSound before (reaches_epochSound earlier) closed stepped
  exact ⟨sound.sent, sound.one⟩

/-- The reply to the first message of the user. -/
def sampleReply : Origin := .reply
    { inbound :=
        { id := "weixin:binding:m1"
          principalId := "owner"
          conversationId := "binding"
          content := "hello"
          bindingEpoch := 0 }
      sender := "user" }
    "response.completed" "answer"

/--
A reply in the epoch of its message is sent; after the rebind, in which
another user writes, it is not sent any more.
-/
theorem reply_stays_in_epoch : ∃ state,
      (weixinMachine 2048).runGuarded KeepsEpochClosed sampleBinding
          (.start :: loginLabels "first" ++ messageLabels "m1" "user" ++
            [.send 0 sampleReply false 3, .sendAnswered 0 .accepted false 3] ++
            rebindLabels "second" ++ [.pollRound true] ++
            messageLabels "m2" "other" ++
            [.send 1 sampleReply false 6]) = some state ∧
        state.sent.length = 1 ∧
        state.submitted.map (·.sender) = ["user", "other"] ∧
        state.IsolatesReplies ∧ state.OneSenderPerEpoch := by
  have isolated {state : WeixinBinding}
      (evaluated : (weixinMachine 2048).runGuarded KeepsEpochClosed sampleBinding
            (.start :: loginLabels "first" ++ messageLabels "m1" "user" ++
              [.send 0 sampleReply false 3, .sendAnswered 0 .accepted false 3] ++
              rebindLabels "second" ++ [.pollRound true] ++
              messageLabels "m2" "other" ++
              [.send 1 sampleReply false 6]) = some state) :
      state.IsolatesReplies ∧ state.OneSenderPerEpoch :=
    weixinRuns_isolateSenders (Machine.Reaches.runGuarded (.start sampleBinding_initial) evaluated)
  refine ⟨_, rfl, ?_⟩
  exact ⟨rfl, rfl, isolated rfl⟩

/--
The credentials expire, the binding is disabled and enabled, and another
user scans the QR code: the epoch has two senders, and the reply to the
first goes to the second.
-/
theorem reopened_epoch_has_two_senders : ∃ state, (weixinMachine 2048).run sampleBinding
          (.start :: loginLabels "first" ++ messageLabels "m1" "user" ++
            [.pollRound true, .pollAnswered .expired false 4,
              .pollExpired false 4, .control .disable 5, .disableAccount,
              .dismissed true, .control .enable 6] ++
            loginLabels "second" ++ messageLabels "m2" "other" ++
            [.send 0 sampleReply false 7]) = some state ∧
        state.submitted.map (fun submission =>
              (submission.sender, submission.inbound.bindingEpoch)) =
          [("user", 0), ("other", 0)] ∧
        state.sent.map (fun chunk => (chunk.text, chunk.account.lockedSender?)) =
          [("answer", some "other")] ∧
        ¬ (state.IsolatesReplies ∧ state.OneSenderPerEpoch) := by
  refine ⟨_, rfl, ?_⟩
  refine ⟨rfl, rfl, ?_⟩
  rintro ⟨_, one⟩
  exact absurd (one _ List.mem_cons_self _ (List.mem_cons_of_mem _ List.mem_cons_self) rfl)
    (by decide)

end WeixinBinding
end TurningGood.Channels
