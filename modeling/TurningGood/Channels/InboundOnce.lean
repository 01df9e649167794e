import TurningGood.Channels.Feishu

/-!
# At most one acceptance of an inbound message

The record of an account holds the last claimed ids.  It does so as long as
every account that is written back lists the ids that are stored at the time
of the write.  The copy that `_handle_event` reads before its claim does not
list the claimed ids, so the owner lock and the memory of a conversation
make the record forget them; the same holds of a start that writes a copy
read before other claims.
-/

namespace TurningGood.Channels

open TurningGood.Foundation
open TurningGood.Foundation.Text

/-! ## The field of the inbound ids -/

/-- The stored value of the claimed ids. -/
def ChannelAccount.inboundField? (account : ChannelAccount) :
    Option PrivateValue :=
  account.privateState.get? "inbound_ids"

theorem inboundIds_of_field
    {account : ChannelAccount} {ids : List String}
    (field : account.inboundField? = some (.texts ids)) :
    account.inboundIds = ids := by
  unfold ChannelAccount.inboundField? at field
  simp [ChannelAccount.inboundIds, field]

theorem cleanPrivate_inbound (privateState : Dict String PrivateValue) :
    (cleanPrivate privateState).get? "inbound_ids" =
      privateState.get? "inbound_ids" :=
  Dict.get?_erase_of_ne privateState (by decide)

theorem lockOwnerCandidate_inbound (account : ChannelAccount) (sender chatId : String) :
    (lockOwnerCandidate account sender chatId).inboundField? =
      account.inboundField? := by
  simp [lockOwnerCandidate, ChannelAccount.inboundField?,
    Dict.get?_insert, Dict.get?_erase, cleanPrivate_inbound]

theorem rememberCandidate_inbound (account : ChannelAccount) (chatId : String) :
    (rememberCandidate account chatId).inboundField? =
      account.inboundField? := by
  simp [rememberCandidate, ChannelAccount.inboundField?, Dict.get?_insert, cleanPrivate_inbound]

theorem afterClaim_writeBack
    {codes : OwnerCodes} {account candidate : ChannelAccount}
    {parsed : ParsedEvent} {now : Nat}
    (writes : afterClaim codes account parsed now = .writeBack candidate) :
    candidate.inboundField? = account.inboundField? := by
  unfold afterClaim at writes
  dsimp only at writes
  split at writes
  · split at writes
    · cases writes
    · cases writes
    · cases writes
      exact lockOwnerCandidate_inbound _ _ _
  · generalize (if ownerReverificationPending account = true then
      verifyOwnerCode codes account parsed.content now
      else .ok false) = verified at writes
    rcases verified with message | (_ | _)
    all_goals
      dsimp only at writes
      split_ifs at writes
    cases writes
    exact rememberCandidate_inbound _ _

theorem claimEvent_some
    {stored : Option ChannelAccount} {event : FeishuEvent} {now : Nat}
    {claim : ClaimedEvent}
    (claimed : claimEvent stored event now = some claim) :
    stored = some claim.account ∧ claim.inboundIds ≠ [] ∧
      (∀ id ∈ claim.inboundIds, validInboundId id = true ∧ id ∉ claim.account.inboundIds) ∧
      claim.claimed = claim.account.withInbound claim.inboundIds now := by
  unfold claimEvent at claimed
  split at claimed
  · rename_i account parsed
    dsimp only at claimed
    split_ifs at claimed
    split at claimed
    · rename_i updated accepted
      rcases claimInbounds_accepted accepted with
        ⟨read, same, nonempty, valid, unknown, updatedEqual⟩
      cases same
      cases claimed
      refine ⟨rfl, ?_, ?_, updatedEqual⟩
      · intro empty
        rcases List.exists_mem_of_ne_nil _ nonempty with ⟨id, member⟩
        have distinct := (mem_distinctIds_iff _ id).mpr member
        rw [show distinctIds _ = [] from empty] at distinct
        exact List.not_mem_nil distinct
      · intro id member
        have listed := (mem_distinctIds_iff _ id).mp member
        exact ⟨valid id listed, unknown id listed⟩
    · cases claimed
  · cases claimed

namespace FeishuAccount

variable {state : FeishuAccount} {candidate current : ChannelAccount}
  {codes : OwnerCodes} {now : Nat}

/-! ## The record remembers the last accepted ids -/

/-- The record holds the last accepted ids, as long as it exists. -/
def Remembers (state : FeishuAccount) : Prop :=
  ∀ account, state.record = some account → account.inboundField? =
      some (.texts (lastItems maxInboundIds state.accepted))

/-- No claim that contains a recently accepted id is accepted. -/
def RejectsRecentIds (state : FeishuAccount) : Prop :=
  ∀ id ∈ lastItems maxInboundIds state.accepted, ∀ inboundIds now updated, id ∈ inboundIds →
      claimInbounds state.record inboundIds now ≠ .ok (some updated)

theorem Remembers.rejects (remembers : state.Remembers) :
    state.RejectsRecentIds := by
  intro id recent inboundIds now updated member
  cases stored : state.record with
  | none =>
    intro accepted
    rcases claimInbounds_accepted accepted with ⟨_, impossible, _⟩
    cases impossible
  | some account =>
    refine claimInbounds_of_known member ?_ updated
    rw [inboundIds_of_field (remembers account stored)]
    exact recent

theorem Remembers.store (remembers : state.Remembers)
    {written : Except String ChannelAccount}
    (keeps : ∀ updated, written = .ok updated → ∃ current, state.record = some current ∧
        updated.inboundField? = current.inboundField?) :
    (state.store written).Remembers := by
  cases written with
  | error message => exact remembers
  | ok updated =>
    intro account stored
    cases stored
    rcases keeps updated rfl with ⟨current, present, same⟩
    rw [same]
    exact remembers current present

theorem Remembers.write (remembers : state.Remembers) (present : state.record = some current)
    (carries : candidate.inboundField? = current.inboundField?)
    (mergePrivate : Bool) (expectedUpdatedAt : Option Nat) (now : Nat) :
    (state.store (writeAccount state.otherAppIds state.record candidate mergePrivate
        expectedUpdatedAt now)).Remembers := by
  refine remembers.store ?_
  intro updated written
  refine ⟨current, present, ?_⟩
  have listed := remembers current present
  rw [← carries] at listed
  exact (writeAccount_inbound written listed).trans ((listed.symm.trans carries))

theorem Remembers.rewrite (remembers : state.Remembers)
    {change : ChannelAccount → Option ChannelAccount}
    (keeps : ∀ current candidate, change current = some candidate →
      candidate.inboundField? = current.inboundField?) (now : Nat) :
    (state.rewrite change now).Remembers := by
  unfold FeishuAccount.rewrite
  cases present : state.record with
  | none => exact remembers
  | some current =>
    cases changed : change current with
    | none =>
      simp only [changed]
      exact remembers
    | some candidate =>
      simp only [changed]
      rw [← present]
      exact remembers.write present (keeps current candidate changed)
        _ _ now

theorem markDisconnected_inbound (changed : markDisconnected current = some candidate) :
    candidate.inboundField? = current.inboundField? := by
  unfold markDisconnected at changed
  split_ifs at changed
  all_goals
    cases changed
    simp [ChannelAccount.inboundField?, Dict.get?_insert, cleanPrivate_inbound]

theorem connectionRestored_inbound (changed : connectionRestored current = some candidate) :
    candidate.inboundField? = current.inboundField? := by
  unfold connectionRestored at changed
  split_ifs at changed
  all_goals
    cases changed
    simp [ChannelAccount.inboundField?, Dict.get?_insert, cleanPrivate_inbound]

theorem issueOwnerCode_inbound {ownerPrincipalId code : String} (changed :
      issueOwnerCode codes ownerPrincipalId code now current =
        some candidate) : candidate.inboundField? = current.inboundField? := by
  unfold issueOwnerCode at changed
  dsimp only at changed
  split_ifs at changed
  all_goals
    cases changed
    simp [ChannelAccount.inboundField?, Dict.get?_insert, cleanPrivate_inbound]

theorem controlChange_inbound {change : ControlChange}
    {account : ChannelAccount}
    (changed : controlChange change account = some candidate) :
    candidate.inboundField? = account.inboundField? := by
  cases change with
  | subscribe =>
    simp only [controlChange] at changed
    split_ifs at changed
    cases changed
    rfl
  | unsubscribe =>
    simp only [controlChange] at changed
    cases changed
    rfl
  | enable =>
    simp only [controlChange] at changed
    split_ifs at changed
    all_goals
      cases changed
      rfl
  | disable =>
    simp only [controlChange] at changed
    split_ifs at changed
    cases changed
    rfl

theorem startedCandidate_inbound (attempt : StartAttempt) :
    (startedCandidate attempt).inboundField? =
      attempt.account.inboundField? := by
  simp [startedCandidate, ChannelAccount.inboundField?, Dict.get?_insert, cleanPrivate_inbound]

/-! ## Writes of a stale copy -/

/--
The event is claimed, and its handling then writes the copy back that was
read before the claim, and the registry takes it.
-/
def WritesBackCopy (codes : OwnerCodes) (state : FeishuAccount)
    (event : FeishuEvent) (now : Nat) : Prop :=
  ∃ claim candidate updated, claimEvent state.record event now = some claim ∧
      afterClaim codes claim.account claim.parsed now = .writeBack candidate ∧
      persistPrivateState state.otherAppIds (some claim.claimed)
        claim.account candidate now = .ok updated

/-- The copy lists the ids that the stored record lists. -/
def CarriesInboundIds (stored : Option ChannelAccount) (copy : ChannelAccount) : Prop :=
  ∀ current, stored = some current → copy.inboundField? = current.inboundField?

/-- The step writes no copy that lacks the stored ids. -/
def NoStaleWrite (codes : OwnerCodes) (state : FeishuAccount) : Event → Prop
  | .event event now => ¬ state.WritesBackCopy codes event now
  | .commitStart true _ =>
    ∀ attempt, state.start = some attempt → CarriesInboundIds state.record attempt.account
  | .restoreStart _ =>
    ∀ attempt, state.start = some attempt → CarriesInboundIds state.record attempt.previous
  | _ => True

theorem Remembers.claimed (remembers : state.Remembers)
    {account : ChannelAccount} (present : state.record = some account)
    (inboundIds : List String) (now : Nat) :
    { state with
      record := some (account.withInbound inboundIds now)
      accepted := state.accepted ++ inboundIds }.Remembers := by
  intro current stored
  cases stored
  have before := inboundIds_of_field (remembers account present)
  simp [ChannelAccount.withInbound, ChannelAccount.inboundField?, before, lastItems_append]

theorem handleEvent_remembers (remembers : state.Remembers)
    {event : FeishuEvent} (fresh : ¬ state.WritesBackCopy codes event now) :
    (state.handleEvent codes event now).Remembers := by
  unfold handleEvent
  cases claimedEqual : claimEvent state.record event now with
  | none => exact remembers
  | some claim =>
    rcases claimEvent_some claimedEqual with ⟨present, _, _, recordEqual⟩
    have claimed := remembers.claimed present claim.inboundIds now
    rw [← recordEqual] at claimed
    dsimp only
    cases action : afterClaim codes claim.account claim.parsed now with
    | ignored => exact claimed
    | raised message => exact claimed
    | accept => exact claimed
    | removeOwnerCode =>
      refine claimed.store ?_
      intro updated removed
      rcases removePrivateFields_inbound removed (by decide) with
        ⟨current, stored, same⟩
      exact ⟨current, stored, same⟩
    | writeBack candidate =>
      dsimp only
      cases written : persistPrivateState state.otherAppIds (some claim.claimed)
            claim.account candidate now with
      | error message => exact claimed
      | ok updated =>
        exact absurd ⟨claim, candidate, updated, claimedEqual, action, written⟩ fresh

theorem handleEvent_forgets (remembers : state.Remembers)
    {event : FeishuEvent} (stale : state.WritesBackCopy codes event now) :
    ¬ (state.handleEvent codes event now).RejectsRecentIds := by
  rcases stale with ⟨claim, candidate, updated, claimedEqual, action, written⟩
  rcases claimEvent_some claimedEqual with ⟨present, nonempty, fresh, _⟩
  have after :
      state.handleEvent codes event now =
        { state with
          record := some updated
          accepted := state.accepted ++ claim.inboundIds } := by
    simp [handleEvent, claimedEqual, action, written, store]
  have listed := remembers claim.account present
  have stored : updated.inboundIds = claim.account.inboundIds := by
    rw [inboundIds_of_field listed]
    rw [← afterClaim_writeBack action] at listed
    exact inboundIds_of_field (writeAccount_inbound written listed)
  -- the last claimed id is recent, and the written record lacks it
  rcases List.eq_nil_or_concat claim.inboundIds with empty | ⟨earlier, last, split⟩
  · exact absurd empty nonempty
  · rw [List.concat_eq_append] at split
    have member : last ∈ claim.inboundIds := by
      rw [split]
      exact List.mem_append_right _ List.mem_cons_self
    have unknown : last ∉ updated.inboundIds := by
      rw [stored]
      exact (fresh last member).2
    rcases claimInbounds_of_unknown (fresh last member).1 unknown now with ⟨again, accepted⟩
    intro rejects
    rw [after] at rejects
    refine rejects last ?_ [last] now again List.mem_cons_self accepted
    dsimp only
    rw [split, ← List.append_assoc]
    exact mem_lastItems_append_singleton (by decide) _ _

theorem handleEvent_rejects_iff (remembers : state.Remembers) (event : FeishuEvent) (now : Nat) :
    (state.handleEvent codes event now).RejectsRecentIds ↔ ¬ state.WritesBackCopy codes event now :=
  ⟨fun rejects stale => handleEvent_forgets remembers stale rejects,
    fun fresh => (handleEvent_remembers remembers fresh).rejects⟩

/-! ## Every step -/

theorem Remembers.of_same {target : FeishuAccount}
    (remembers : state.Remembers) (record : target.record = state.record)
    (accepted : target.accepted = state.accepted) : target.Remembers := by
  unfold Remembers
  rw [record, accepted]
  exact remembers

theorem beginStart_remembers (remembers : state.Remembers)
    (account : ChannelAccount) (replacePrivate : Bool)
    (expectedUpdatedAt : Option Nat) :
    (state.beginStart account replacePrivate expectedUpdatedAt).Remembers := by
  unfold beginStart
  split
  · exact remembers
  · dsimp only
    split_ifs
    · exact remembers
    · exact remembers.of_same rfl rfl

theorem beginReload_remembers (remembers : state.Remembers) (candidate : Option ChannelAccount) :
    (state.beginReload candidate).Remembers := by
  unfold beginReload
  split
  · exact remembers
  · dsimp only
    split_ifs
    · exact remembers
    · split
      · exact remembers
      · exact beginStart_remembers remembers _ _ _
    · split
      · exact remembers
      · exact beginStart_remembers remembers _ _ _

theorem claim_remembers (remembers : state.Remembers) (inboundIds : List String) (now : Nat) :
    (state.claim inboundIds now).Remembers := by
  unfold claim
  split
  · rename_i accepted
    rcases claimInbounds_accepted accepted with ⟨account, present, _, _, _, updatedEqual⟩
    rw [updatedEqual]
    exact remembers.claimed present _ now
  · exact remembers

theorem revoke_remembers (remembers : state.Remembers) (now : Nat) : (state.store
      (Channels.revoke state.otherAppIds state.record now)).Remembers := by
  unfold Channels.revoke
  split
  · exact remembers
  · rename_i account present
    split_ifs
    · refine remembers.store ?_
      intro updated same
      cases same
      exact ⟨account, present, rfl⟩
    · have same :
          { account with
            status := .revoked
            enabled := false
            subscribed := false }.inboundField? =
          account.inboundField? := rfl
      exact remembers.write present same _ _ now

theorem commitStart_remembers (remembers : state.Remembers)
    {attempt : StartAttempt} {connected : Bool} (carries : connected = true →
      CarriesInboundIds state.record attempt.account) :
    (state.commitStart attempt connected now).Remembers := by
  unfold commitStart
  cases connected with
  | false => exact remembers.of_same rfl rfl
  | true =>
    rw [if_neg (by simp)]
    dsimp only
    split
    · exact remembers.of_same rfl rfl
    · rename_i updated written
      rcases writeAccount_ok written with ⟨current, present, _⟩
      have same := carries rfl current present
      rw [← startedCandidate_inbound] at same
      have stored := remembers.write present same
        (!(attempt.replacePrivate || hasLegacyField attempt.previous))
        (some attempt.expectedRevision) now
      rw [written] at stored
      exact stored.of_same rfl rfl

theorem restoreStart_remembers (remembers : state.Remembers)
    {attempt : StartAttempt} {committed : Nat}
    (carries : CarriesInboundIds state.record attempt.previous) :
    (state.restoreStart attempt committed now).Remembers := by
  have stopped : { state with start := none }.Remembers :=
    remembers.of_same rfl rfl
  cases present : state.record with
  | none =>
    refine stopped.store ?_
    intro updated written
    rcases writeAccount_ok written with ⟨_, impossible, _⟩
    rw [present] at impossible
    cases impossible
  | some current =>
    refine stopped.write present ?_ false (some committed) now
    exact (cleanPrivate_inbound _).trans (carries current present)

theorem step_remembers {target : FeishuAccount} {event : Event}
    (remembers : state.Remembers) (fresh : state.NoStaleWrite codes event)
    (stepped : state.step codes event = some target) : target.Remembers := by
  cases event with
  | event event now =>
    simp only [step, Option.some.injEq] at stepped
    exact stepped ▸ handleEvent_remembers remembers fresh
  | claim inboundIds now =>
    simp only [step, Option.some.injEq] at stepped
    exact stepped ▸ claim_remembers remembers inboundIds now
  | disconnected now =>
    simp only [step, Option.some.injEq] at stepped
    exact stepped ▸ remembers.rewrite (fun _ _ => markDisconnected_inbound) now
  | connectionRestored now =>
    simp only [step, Option.some.injEq] at stepped
    exact stepped ▸ remembers.rewrite (fun _ _ => connectionRestored_inbound) now
  | issueOwnerCode code now =>
    simp only [step, Option.some.injEq] at stepped
    exact stepped ▸ remembers.rewrite (fun _ _ => issueOwnerCode_inbound) now
  | control change now =>
    simp only [step] at stepped
    split at stepped
    · cases stepped
      exact remembers
    · rename_i account present
      split at stepped
      · cases stepped
        exact remembers
      · rename_i candidate changed
        cases stepped
        exact remembers.write present (controlChange_inbound changed)
          _ _ now
  | revoke now =>
    simp only [step, Option.some.injEq] at stepped
    exact stepped ▸ revoke_remembers remembers now
  | beginStart account =>
    simp only [step, Option.ite_none_right_eq_some, Option.some.injEq] at stepped
    exact stepped.2 ▸ beginStart_remembers remembers _ _ _
  | beginReload candidate =>
    simp only [step, Option.ite_none_right_eq_some, Option.some.injEq] at stepped
    exact stepped.2 ▸ beginReload_remembers remembers candidate
  | commitStart connected now =>
    simp only [step] at stepped
    split at stepped
    · rename_i attempt started
      rw [Option.ite_none_right_eq_some, Option.some.injEq] at stepped
      refine stepped.2 ▸ commitStart_remembers remembers ?_
      intro isConnected
      subst isConnected
      exact fresh attempt started
    · cases stepped
  | restoreStart now =>
    simp only [step] at stepped
    split at stepped
    · rename_i attempt started
      rcases Option.map_eq_some_iff.mp stepped with ⟨committed, _, rfl⟩
      exact restoreStart_remembers remembers (fresh attempt started)
    · cases stepped
  | endStart =>
    simp only [step, Option.some.injEq] at stepped
    exact stepped ▸ remembers.of_same rfl rfl
  | otherAccounts appIds =>
    simp only [step, Option.some.injEq] at stepped
    exact stepped ▸ remembers.of_same rfl rfl
  | delete =>
    simp only [step, Option.some.injEq] at stepped
    subst target
    intro account present
    cases present
  | restart =>
    simp only [step, Option.some.injEq] at stepped
    exact stepped ▸ remembers.of_same rfl rfl

theorem initial_remembers (initial : (feishuMachine codes).initial state) :
    state.Remembers := by
  rcases initial with ⟨⟨id, owner, appId, appSecret, domain, now, record⟩, _, accepted⟩
  intro account present
  rw [record, Option.some.injEq] at present
  subst account
  rw [accepted]
  exact Dict.get?_insert_self _ _ _

/--
In every run that writes no copy lacking stored ids, a claim that contains
one of the last 2048 accepted ids is not accepted; and the handling of an
event after such a run keeps this if and only if it does not write back the
copy that it read before its claim.
-/
theorem feishuRuns_rejectRecentIds
    {codes : OwnerCodes} {state : FeishuAccount}
    (reached : (feishuMachine codes).Reaches (NoStaleWrite codes) state) :
    state.RejectsRecentIds ∧ ∀ event now target,
        (feishuMachine codes).step state (.event event now) = some target →
          (target.RejectsRecentIds ↔ ¬ state.WritesBackCopy codes event now) := by
  have remembers : state.Remembers := by
    refine reached.invariant ?_ ?_
    · exact fun _ initial => initial_remembers initial
    · exact fun _ _ _ _ before fresh stepped =>
        step_remembers before fresh stepped
  refine ⟨remembers.rejects, ?_⟩
  intro event now target stepped
  have same : state.handleEvent codes event now = target :=
    Option.some.inj stepped
  exact same ▸ handleEvent_rejects_iff remembers event now

/-! ## The message that locks the owner -/

/-- A digest and a time format for one fixed moment. -/
def sampleCodes : OwnerCodes where
  hashOwnerCode := fun code => "digest of " ++ code
  fromIsoformat := fun text =>
    if text = "1970-01-01T00:10:00+00:00" then .aware ownerCodeTtl
    else .invalid
  isoformat := fun _ => "1970-01-01T00:10:00+00:00"

/-- A registered bot, before any event. -/
def sampleAccount : FeishuAccount where
  record := some (registerFeishuBot "bot" "owner" "app" "secret" "domain" 0)
  ownerPrincipalId := "owner"
  otherAppIds := []
  start := none
  accepted := []

/-- The owner sends the code `123456` to the bot. -/
def ownerCodeEvent : FeishuEvent where
  eventId := none
  messageId := some "om_1"
  senderOpenId := some "ou_1"
  chatId := some "oc_1"
  chatType := "p2p"
  messageType := "text"
  text := some "123456"

theorem sampleAccount_initial : (feishuMachine sampleCodes).initial sampleAccount :=
  ⟨⟨"bot", "owner", "app", "secret", "domain", 0, rfl⟩, rfl, rfl⟩

theorem accepted_of_isSome
    {result : Except String (Option ChannelAccount)}
    (present : (result.toOption.bind id).isSome = true) :
    ∃ updated, result = .ok (some updated) := by
  rcases result with message | (_ | updated)
  · cases present
  · cases present
  · exact ⟨updated, rfl⟩

/-- The event is accepted, and its id can be claimed again afterwards. -/
theorem owner_lock_forgets_claim : ∃ state, (feishuMachine sampleCodes).run sampleAccount
          [.issueOwnerCode "123456" 0, .event ownerCodeEvent 0] = some state ∧
        state.accepted = ["feishu:bot:om_1"] ∧
        ∃ updated, claimInbounds state.record ["feishu:bot:om_1"] 0 =
            .ok (some updated) :=
  ⟨_, rfl, by decide, accepted_of_isSome (by decide)⟩

/-- A claim is remembered across a disconnection. -/
theorem claim_then_disconnect_rejects : ∃ state, (feishuMachine sampleCodes).run sampleAccount
          [.claim ["feishu:bot:om_1"] 0, .disconnected 1] = some state ∧
        state.RejectsRecentIds := by
  have claimAllowed :
      sampleAccount.NoStaleWrite sampleCodes (.claim ["feishu:bot:om_1"] 0) := trivial
  have disconnectAllowed :
      (sampleAccount.claim ["feishu:bot:om_1"] 0).NoStaleWrite sampleCodes
        (.disconnected 1) := trivial
  exact ⟨_, rfl, (feishuRuns_rejectRecentIds
        (.next (.next (.start sampleAccount_initial) claimAllowed rfl) disconnectAllowed rfl)).1⟩

end FeishuAccount
end TurningGood.Channels
