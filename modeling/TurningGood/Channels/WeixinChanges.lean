import TurningGood.Channels.WeixinEdits
import TurningGood.Channels.WeixinTransport
import Mathlib.Logic.Relation

/-!
# What a step of a binding can do

Every step of the transport is a chain of a few kinds of changes: of the
record, of where a coroutine waits, of what was sent or submitted.  The
chain is established here once; an invariant of the binding then only has to
be kept by each kind of change.
-/

namespace TurningGood.Channels

open TurningGood.Foundation

/-- The call that the poll task waits for or answers to. -/
def PollTask.call? : PollTask → Option Call
  | .calling call | .answered call _ | .expiring call => some call
  | .stopped | .idle | .inside => none

/-- The call of a send. -/
def SendFrame.call : SendFrame → Call
  | .sending call _ _ | .expiring call => call

/-- The account that the loop over the events goes on with. -/
def Holder.eventAccount? : Holder → Option ChannelAccount
  | .events account _ | .accepting account _ | .noticing account _
  | .noticeExpiring account _ => some account
  | _ => none

/-- The lock is held for a login of the binding itself. -/
def Holder.isLogin : Holder → Bool
  | .loggingIn .. | .presenting .. => true
  | _ => false

namespace WeixinBinding

/-- The account of the event loop that holds the lock. -/
def eventAccount? (lock : Option Holder) : Option ChannelAccount :=
  lock.bind Holder.eventAccount?

/-- The call of a send or of the poll task whose failure a step writes. -/
def failingCall? (state : WeixinBinding) : Label → Option Call
  | .pollAnswered answer _ _ =>
    match state.poll, answer with
    | .calling call, .failed => some call
    | .calling call, .expired =>
      if state.pending.isSome then some call else none
    | _, _ => none
  | .pollExpired _ _ =>
    match state.poll with
    | .expiring call => some call
    | _ => none
  | .sendAnswered number answer _ _ =>
    match state.sends.get? number, answer with
    | some (.sending call _ _), .failed => some call
    | some (.sending call _ _), .expired =>
      if state.pending.isSome then some call else none
    | _, _ => none
  | .sendExpired number _ _ =>
    match state.sends.get? number with
    | some (.expiring call) => some call
    | _ => none
  | _ => none

/-! ## Kinds of changes -/

/-- The poll task waits for no call, for the same one, or for a new one. -/
def PollSource (state : WeixinBinding) (poll : PollTask) : Prop :=
  ∀ call, poll.call? = some call →
    state.poll.call? = some call ∨
      (state.record = some call.account ∧ call.commits = state.commits)

/-- What the next holder of the lock takes over. -/
structure LockSource (state : WeixinBinding) (lock : Option Holder) :
    Prop where
  account :
    ∀ account, eventAccount? lock = some account →
      ∃ earlier,
        (eventAccount? state.lock = some earlier ∨
          state.record = some earlier) ∧
          account.bindingEpoch = earlier.bindingEpoch
  login :
    lock.any Holder.isLogin = true →
      state.lock.any Holder.isLogin = true ∨
        ∃ current,
          state.record = some current ∧ current.status = .pendingQr

/-- Where a send that waits for a chunk has its account from. -/
def SendSource (state : WeixinBinding) (number : Nat) (call : Call)
    (origin : Origin) : Prop :=
  (∃ rest, state.sends.get? number = some (.sending call origin rest)) ∨
    state.record = some call.account ∧ call.commits = state.commits ∧
      call.account.isActive = true ∧
      ∀ submission eventType content,
        origin = .reply submission eventType content →
          submission ∈ state.submitted ∧
            submission.inbound.bindingEpoch = call.account.bindingEpoch

/-- Where the account of a written failure comes from. -/
inductive FailureSource (first : WeixinBinding) (label : Label)
    (state : WeixinBinding) (account : ChannelAccount) : Prop where
  | call (call : Call)
      (failing : first.failingCall? label = some call)
      (same : account = call.account)
      (commits : state.commits = first.commits)
  | notice (held : eventAccount? state.lock = some account)
  | current (stored : state.record = some account)

/-- One kind of change, in the step of `label` from the state `first`. -/
inductive Change (first : WeixinBinding) (label : Label) :
    WeixinBinding → WeixinBinding → Prop where
  | started (state : WeixinBinding) :
      Change first label state { state with started := true }
  | restarted (state : WeixinBinding) :
      Change first label state
        { state with
          started := false
          pending := none
          rebindAttempt := 0
          sends := Dict.empty
          poll := .stopped
          lock := none }
  | edited (state : WeixinBinding) (mayLock : Bool)
      (after : Option ChannelAccount)
      (edited : Edited mayLock state.record after)
      (handles :
        mayLock = true → state.lock.any Holder.isLogin = false) :
      Change first label state { state with record := after }
  | deleted (state : WeixinBinding) :
      Change first label state { state with record := none }
  | enabled (current updated : ChannelAccount) (now : Nat)
      (labelled : label = .control .enable now)
      (stored : first.record = some current)
      (revoked : current.status ≠ .revoked)
      (ready : current.status ≠ .expired)
      (same : SameBinding current updated)
      (status : updated.status = enabledStatus current) :
      Change first label first { first with record := some updated }
  | pendingSet (state : WeixinBinding) (pending : Option PendingRebind)
      (attempt : Nat) :
      Change first label state
        { state with pending := pending, rebindAttempt := attempt }
  | pollSet (state : WeixinBinding) (poll : PollTask)
      (source : state.PollSource poll) :
      Change first label state { state with poll := poll }
  | lockSet (state : WeixinBinding) (lock : Option Holder)
      (source : state.LockSource lock) :
      Change first label state { state with lock := lock }
  | sendErased (state : WeixinBinding) (number : Nat) :
      Change first label state
        { state with sends := state.sends.erase number }
  | sendExpires (state : WeixinBinding) (number : Nat) (call : Call)
      (origin : Origin) (rest : List String)
      (waits : state.sends.get? number = some (.sending call origin rest)) :
      Change first label state
        { state with sends := state.sends.insert number (.expiring call) }
  | sendSet (state : WeixinBinding) (number : Nat) (call : Call)
      (origin : Origin) (rest : List String)
      (source : state.SendSource number call origin) :
      Change first label state
        { state with
          sends := state.sends.insert number (.sending call origin rest) }
  | chunkSent (state : WeixinBinding) (number : Nat) (call : Call)
      (origin : Origin) (rest : List String) (text : String)
      (waits : state.sends.get? number = some (.sending call origin rest)) :
      Change first label state
        { state with
          sent :=
            state.sent ++
              [{ origin := origin, account := call.account
                 text := text }] }
  | failed (state : WeixinBinding) (account : ChannelAccount)
      (written : Option ChannelAccount) (fault : Bool)
      (source : FailureSource first label state account)
      (edited : Edited false state.record written) :
      Change first label state (state.writeFailure account written fault)
  | loggedIn (state : WeixinBinding) (current updated : ChannelAccount)
      (update : Dict String PrivateValue)
      (login : state.lock.any Holder.isLogin = true)
      (stored : state.record = some current)
      (epoch :
        updated.privateState.get? "binding_epoch" =
          current.privateState.get? "binding_epoch")
      (sender :
        updated.privateState.get? "from_user_id" =
          current.privateState.get? "from_user_id")
      (token :
        updated.privateState.get? "bot_token" =
          (update.get? "bot_token").or
            (current.privateState.get? "bot_token")) :
      Change first label state
        { state with
          record := some updated
          issued :=
            state.issued ++ issuedBy updated.bindingEpoch update }
  | loginFailed (state : WeixinBinding) (current updated : ChannelAccount)
      (login :
        state.lock.any Holder.isLogin = true ∨ current.status = .pendingQr)
      (stored : state.record = some current)
      (same : SameBinding current updated)
      (status : updated.status = .failed) :
      Change first label state { state with record := some updated }
  | committed (state : WeixinBinding) (current updated : ChannelAccount)
      (privateState : Dict String PrivateValue)
      (stored : state.record = some current)
      (epoch : updated.bindingEpoch = current.bindingEpoch + 1)
      (sender : updated.privateState.get? "from_user_id" = none)
      (token :
        updated.privateState.get? "bot_token" =
          privateState.get? "bot_token")
      (status : updated.status = .awaitingFirstDm) :
      Change first label state
        { state with
          record := some updated
          pending := none
          commits := state.commits + 1
          issued :=
            state.issued ++ issuedBy updated.bindingEpoch privateState
          lock := some (.dismissing .switchPoll) }
  | submitted (state : WeixinBinding) (current : ChannelAccount)
      (submission : Submission)
      (stored : state.record = some current)
      (epoch : submission.inbound.bindingEpoch = current.bindingEpoch)
      (sender : current.lockedSender? = some submission.sender) :
      Change first label state
        { state with submitted := state.submitted ++ [submission] }

/-- A chain of changes. -/
def Changes (first : WeixinBinding) (label : Label) :
    WeixinBinding → WeixinBinding → Prop :=
  Relation.ReflTransGen (Change first label)

section Chains

variable {first : WeixinBinding} {label : Label}

variable {state target : WeixinBinding} {holder : Holder}

theorem Changes.refl (state : WeixinBinding) :
    Changes first label state state :=
  Relation.ReflTransGen.refl

theorem Changes.then {middle : WeixinBinding}
    (chain : Changes first label state middle)
    (change : Change first label middle target) :
    Changes first label state target :=
  .tail chain change

theorem Changes.append {middle : WeixinBinding}
    (front : Changes first label state middle)
    (back : Changes first label middle target) :
    Changes first label state target :=
  Relation.ReflTransGen.trans front back

theorem Changes.keeps (holds : WeixinBinding → Prop)
    (chain : Changes first label state target) (kept :
      ∀ before after, holds before → Change first label before after →
        holds after) (initially : holds state) : holds target := by
  induction chain with
  | refl => exact initially
  | tail _ change induction => exact kept _ _ induction change

theorem PollSource.of_none {poll : PollTask} (waits : poll.call? = none) :
    state.PollSource poll := by
  intro call present
  rw [waits] at present
  cases present

theorem pollLoopNext_call (record : Option ChannelAccount) :
    (pollLoopNext record).call? = none := by
  unfold pollLoopNext
  split <;> rfl

theorem LockSource.free (state : WeixinBinding) : state.LockSource none where
  account := nofun
  login := nofun

theorem LockSource.plain (account : holder.eventAccount? = none) (login : holder.isLogin = false) :
    state.LockSource (some holder) where
  account := by
    intro found present
    rw [eventAccount?, Option.bind_some, account] at present
    cases present
  login := by
    intro isLogin
    rw [Option.any_some, login] at isLogin
    cases isLogin

theorem LockSource.events {account earlier : ChannelAccount}
    (next : holder.eventAccount? = some account)
    (login : holder.isLogin = false) (source : eventAccount? state.lock = some earlier ∨
        state.record = some earlier)
    (epoch : account.bindingEpoch = earlier.bindingEpoch) :
    state.LockSource (some holder) where
  account := by
    intro found present
    rw [eventAccount?, Option.bind_some, next, Option.some.injEq] at present
    exact ⟨earlier, source, present ▸ epoch⟩
  login := by
    intro isLogin
    rw [Option.any_some, login] at isLogin
    cases isLogin

theorem LockSource.forLogin (account : holder.eventAccount? = none) (source :
      state.lock.any Holder.isLogin = true ∨ ∃ current,
          state.record = some current ∧ current.status = .pendingQr) :
    state.LockSource (some holder) where
  account := by
    intro found present
    rw [eventAccount?, Option.bind_some, account] at present
    cases present
  login := fun _ => source

theorem Change.chain (change : Change first label state target) :
    Changes first label state target :=
  (Changes.refl state).then change

theorem releaseLock_changes (state : WeixinBinding) :
    Changes first label state state.releaseLock := by
  have source :
      state.PollSource
        (if state.poll = .inside then pollLoopNext state.record
          else state.poll) := by
    split
    · exact .of_none (pollLoopNext_call state.record)
    · exact fun _ present => Or.inl present
  exact (Change.pollSet state _ source).chain.then
    (.lockSet _ none (.free _))

theorem raiseInLock_changes (state : WeixinBinding) :
    Changes first label state state.raiseInLock := by
  have source :
      state.PollSource (if state.poll = .inside then .stopped else state.poll) := by
    split
    · exact .of_none rfl
    · exact fun _ present => Or.inl present
  exact (Change.pollSet state _ source).chain.then
    (.lockSet _ none (.free _))

theorem ensurePollTask_changes (state : WeixinBinding) :
    Changes first label state state.ensurePollTask := by
  refine (Change.pollSet state _ ?_).chain
  split
  · exact .of_none rfl
  · exact fun _ present => Or.inl present

theorem finishLogin_changes (state : WeixinBinding) (next : Afterwards) :
    Changes first label state (state.finishLogin next) := by
  have released : Changes first label state state.releaseLock :=
    releaseLock_changes state
  unfold finishLogin
  split
  · dsimp only
    split
    · exact released.append (ensurePollTask_changes _)
    · exact released
  · exact released

theorem dismissing_changes (state : WeixinBinding) (next : Afterwards) :
    Changes first label state
      { state with lock := some (.dismissing next) } :=
  (Change.lockSet state _ (.plain rfl rfl)).chain

theorem revokeRecord_changes (state : WeixinBinding) (now : Nat) :
    Changes first label state (state.revokeRecord now) := by
  unfold revokeRecord
  split
  · exact .refl state
  · rename_i updated revoked
    cases stored : state.record with
    | none =>
      rw [stored] at revoked
      cases revoked
    | some current =>
      rw [stored] at revoked
      exact (Change.edited state false _
        (Or.inr ⟨current, updated, stored, rfl, revoke_edited revoked⟩)
        nofun).chain

theorem changeRecord_changes (state : WeixinBinding) (control : WeixinControl) (now : Nat)
    (labelled : label = .control control now) :
    Changes state label state (state.changeRecord control now) := by
  unfold changeRecord
  split
  · exact .refl state
  · rename_i current stored
    split
    · exact .refl state
    · rename_i candidate allowed
      split
      · exact .refl state
      · rename_i updated written
        rw [stored] at written
        rcases writeAccount_same written (.of_private (controlCandidate_private allowed)) with
          ⟨same, status⟩
        cases control with
        | enable =>
          simp only [controlCandidate, Option.ite_none_left_eq_some,
            Option.some.injEq, not_or] at allowed
          rcases allowed with ⟨⟨revoked, ready⟩, rfl⟩
          exact (Change.enabled current updated now labelled stored revoked ready same status).chain
        | disable =>
          simp only [controlCandidate, Option.ite_none_left_eq_some, Option.some.injEq] at allowed
          rcases allowed with ⟨_, rfl⟩
          exact (Change.edited state false _ (Or.inr ⟨current, updated, stored, rfl,
              .stopped same (Or.inl status)⟩) (by rintro ⟨⟩)).chain
        | subscribe =>
          simp only [controlCandidate, Option.ite_none_left_eq_some, Option.some.injEq] at allowed
          rcases allowed with ⟨_, rfl⟩
          exact (Change.edited state false _ (Or.inr ⟨current, updated, stored, rfl,
              .kept same status⟩) (by rintro ⟨⟩)).chain
        | unsubscribe =>
          simp only [controlCandidate, Option.some.injEq] at allowed
          subst allowed
          exact (Change.edited state false _ (Or.inr ⟨current, updated, stored, rfl,
              .kept same status⟩) (by rintro ⟨⟩)).chain

theorem failLogin_changes (state : WeixinBinding)
    (account : ChannelAccount) (credentialState : String)
    (dismisses : Bool) (next : Afterwards) (fault : Bool) (now : Nat)
    (login : state.lock.any Holder.isLogin = true) :
    Changes first label state
      (state.failLogin account credentialState dismisses next fault now) := by
  unfold failLogin
  split
  · exact raiseInLock_changes state
  · rename_i updated written
    split
    · exact raiseInLock_changes state
    · cases stored : state.record with
      | none =>
        rw [stored] at written
        cases writeAccount_eq written with
        | intro _ found => cases found.1
      | some current =>
        rw [stored] at written
        rcases failPendingQr_same written with ⟨same, status⟩
        have failed :
            Changes first label state
              { state with record := some updated } :=
          (Change.loginFailed state current updated (Or.inl login) stored same status).chain
        split
        · exact failed.append (dismissing_changes _ next)
        · exact failed.append (finishLogin_changes _ next)

theorem endLoginCall_changes (state : WeixinBinding)
    (account binding : ChannelAccount) (continuing : Bool)
    (answer : Option LoginAnswer) (cached shown : Bool)
    (next : Afterwards) (fault laterFault : Bool) (now : Nat)
    (login : state.lock.any Holder.isLogin = true) :
    Changes first label state
      (state.endLoginCall account (answer.map (loginResult binding continuing)) cached shown next
        fault laterFault now) := by
  unfold endLoginCall
  cases answer with
  | none =>
    exact failLogin_changes state account "invalid" true next fault now login
  | some answer =>
    dsimp only [Option.map_some]
    split
    · exact raiseInLock_changes state
    · rename_i updated written
      split
      · exact raiseInLock_changes state
      · cases stored : state.record with
        | none =>
          rw [stored] at written
          cases writeAccount_eq written with
          | intro _ found => cases found.1
        | some current =>
          rw [stored] at written
          have fields {name : String}
              (other : name = "binding_epoch" ∨ name = "from_user_id") :
              updated.privateState.get? name =
                current.privateState.get? name := by
            rcases writeAccount_eq written with ⟨_, same, rfl, _⟩
            cases same
            exact merged_field (update_field (loginResult_field binding continuing answer other))
          have loggedIn :=
            (@Change.loggedIn first label state current updated
              (loginResult binding continuing answer).privateUpdate
              login stored (fields (Or.inl rfl))
              (fields (Or.inr rfl)) (by
                rcases writeAccount_eq written with ⟨_, same, rfl, _⟩
                cases same
                simp only [writtenPrivate, if_pos, Option.getD_some, Dict.get?_update]
                cases (loginResult binding continuing answer).privateUpdate.get? "bot_token" <;>
                cases current.privateState.get? "bot_token" <;>
                rfl)).chain
          split
          · exact loggedIn.then
              (.lockSet _ _ (.forLogin rfl (Or.inl login)))
          · split
            · exact loggedIn.append (dismissing_changes _ next)
            · split
              · exact loggedIn.append (finishLogin_changes _ next)
              · exact loggedIn.append (failLogin_changes _ updated _ false next laterFault
                    now login)

/-! ## Rebinds -/

theorem discardRebind_changes (state : WeixinBinding) (attemptId : Nat) :
    Changes first label state (state.discardRebind attemptId) := by
  unfold discardRebind
  split
  · exact releaseLock_changes state
  · split
    · exact releaseLock_changes state
    · exact (Change.pendingSet state none
        state.rebindAttempt).chain.append (dismissing_changes _ .release)

theorem progressRebind_changes (state : WeixinBinding) (attemptId : Nat) (qrAvailable : Bool) :
    Changes first label state
      (state.progressRebind attemptId qrAvailable) := by
  unfold progressRebind
  split
  · exact releaseLock_changes state
  · split
    · exact releaseLock_changes state
    · split
      · exact discardRebind_changes state attemptId
      · exact (Change.lockSet state _ (.plain rfl rfl)).chain

theorem beginCandidate_changes (state : WeixinBinding)
    (current : ChannelAccount) (qrAvailable : Bool) :
    Changes first label state
      (state.beginCandidate current qrAvailable) := by
  unfold beginCandidate
  exact (Change.pendingSet state _ _).chain.append (progressRebind_changes _ _ qrAvailable)

theorem startRebind_changes (state : WeixinBinding)
    (current : ChannelAccount) (qrAvailable : Bool) :
    Changes first label state (state.startRebind current qrAvailable) := by
  unfold startRebind
  split
  · exact (Change.pendingSet state none state.rebindAttempt).chain.append (dismissing_changes _ _)
  · exact beginCandidate_changes state current qrAvailable

theorem committedCandidate_field (current candidate : ChannelAccount) {name : String}
    (notIds : name ≠ "inbound_ids") (notFlag : name ≠ "connected")
    (notEpoch : name ≠ "binding_epoch") :
    (committedCandidate current candidate).privateState.get? name =
      if name ∈ candidateFields then none
      else candidate.privateState.get? name := by
  simp only [committedCandidate, Dict.get?_insert, notIds, notFlag, notEpoch, if_false]
  split_ifs with removed
  · exact get?_foldl_erase_self removed _
  · exact get?_foldl_erase _ _ removed

theorem commitRebind_changes (state : WeixinBinding) (attemptId : Nat) (fault : Bool) (now : Nat) :
    Changes first label state
      (state.commitRebind attemptId fault now) := by
  unfold commitRebind
  split
  · rename_i pending current _ stored
    split
    · exact discardRebind_changes state attemptId
    · split
      · exact raiseInLock_changes state
      · rename_i updated written
        split
        · exact raiseInLock_changes state
        · rw [stored] at written
          rcases writeAccount_eq written with ⟨_, same, rfl, _⟩
          cases same
          refine (Change.committed state current _
            pending.candidate.privateState stored ?_ ?_ ?_ rfl).chain
          · simp only [ChannelAccount.bindingEpoch, replaced_field,
              committedCandidate, Dict.get?_insert_self]
            omega
          · exact (replaced_field _ _ _).trans
              (committedCandidate_field _ _ (by decide) (by decide)
                (by decide))
          · exact (replaced_field _ _ _).trans
              (committedCandidate_field _ _ (by decide) (by decide)
                (by decide))
  · exact discardRebind_changes state attemptId

theorem concludeRebind_changes (state : WeixinBinding) (attemptId : Nat)
    (status : AccountStatus) (qrAvailable fault : Bool) (now : Nat) :
    Changes first label state
      (state.concludeRebind attemptId status qrAvailable fault now) := by
  unfold concludeRebind
  split
  · split
    · exact releaseLock_changes state
    · exact discardRebind_changes state attemptId
  · split
    · exact discardRebind_changes state attemptId
    · exact commitRebind_changes state attemptId fault now

theorem endRebindCall_changes (state : WeixinBinding) (attemptId : Nat)
    (candidate : ChannelAccount) (result : Option LoginResult)
    (cached shown fault : Bool) (now : Nat) :
    Changes first label state
      (state.endRebindCall attemptId candidate result cached shown fault now) := by
  unfold endRebindCall
  split
  · exact discardRebind_changes state attemptId
  · exact releaseLock_changes state
  · rename_i result pending _
    split
    · exact releaseLock_changes state
    · have advanced :=
        (@Change.pendingSet first label state
          (some
            { pending with
              candidate :=
                { candidate with
                  status := result.status
                  privateState := candidate.privateState.update result.privateUpdate } })
          state.rebindAttempt).chain
      dsimp only
      split
      · exact advanced.then (.lockSet _ _ (.plain rfl rfl))
      · exact advanced.append (concludeRebind_changes _ attemptId _ _ fault now)

/-! ## Polls -/

theorem writeFailure_changes (state : WeixinBinding)
    (account : ChannelAccount) (expires fault : Bool) (now : Nat)
    (source : FailureSource first label state account) :
    Changes first label state
      (state.writeFailure account
        (if expires then expireBinding state.record now
          else markDisconnected state.record now) fault) := by
  refine (Change.failed state account _ fault source ?_).chain
  split
  · exact expireBinding_edited state.record now
  · exact markDisconnected_edited state.record now

theorem endFailedPoll_changes (state : WeixinBinding) (fault : Bool) :
    Changes first label state (state.endFailedPoll fault) := by
  refine (Change.pollSet state _ (.of_none ?_)).chain
  split
  · rfl
  · exact pollLoopNext_call state.record

theorem beginPoll_changes (state : WeixinBinding) (qrAvailable : Bool) :
    Changes first label state (state.beginPoll qrAvailable) := by
  unfold beginPoll
  split
  · exact (Change.pollSet state _ (.of_none rfl)).chain
  · rename_i account stored
    split
    · rename_i waiting
      exact (Change.pollSet state .inside (.of_none rfl)).chain.then
        (.lockSet _ _ (.forLogin rfl (Or.inr ⟨account, stored, waiting.2⟩)))
    · split
      · exact (Change.pollSet state _ (.of_none (pollLoopNext_call state.record))).chain
      · refine (Change.pollSet state _ ?_).chain
        intro call present
        cases present
        exact Or.inr ⟨stored, rfl⟩

theorem endPoll_changes (state : WeixinBinding) (call : Call)
    (answer : PollAnswer) (fault : Bool) (now : Nat)
    (calling : state.poll = .calling call)
    (labelled : label = .pollAnswered answer fault now) :
    Changes state label state (state.endPoll call answer fault now) := by
  unfold endPoll
  split
  · refine (Change.pollSet state _ ?_).chain
    intro other present
    cases present
    exact Or.inl (by rw [calling]; rfl)
  · exact (writeFailure_changes state call.account false fault now
      (.call call (by simp [labelled, failingCall?, calling])
        rfl rfl)).append (endFailedPoll_changes _ fault)
  · split
    · rename_i pending
      exact (writeFailure_changes state call.account true fault now
        (.call call (by simp [labelled, failingCall?, calling, pending])
          rfl rfl)).append (endFailedPoll_changes _ fault)
    · refine (Change.pollSet state _ ?_).chain
      intro other present
      cases present
      exact Or.inl (by rw [calling]; rfl)

theorem beginEvents_changes (state : WeixinBinding) (call : Call)
    (result : PollResult) (fault : Bool) (now : Nat) :
    Changes first label state
      (state.beginEvents call result fault now) := by
  have idle :
      Changes first label state
        { state with poll := pollLoopNext state.record } :=
    (Change.pollSet state _ (.of_none (pollLoopNext_call state.record))).chain
  have stops :
      Changes first label state { state with poll := .stopped } :=
    (Change.pollSet state _ (.of_none rfl)).chain
  unfold beginEvents
  split
  · exact idle
  · rename_i current stored
    split
    · exact idle
    · split
      · exact stops
      · rename_i account written
        split
        · exact stops
        · rw [stored] at written
          have edited :
              Changes first label state
                { state with record := some account } :=
            (Change.edited state false _ (Or.inr ⟨current, account, stored, rfl,
                applyPrivateUpdate_edited written⟩) nofun).chain
          exact (edited.then (.pollSet _ .inside (.of_none rfl))).then
            (.lockSet _ _ (.events rfl rfl (Or.inr rfl) rfl))

theorem isLogin_of_eventAccount
    {lock : Option Holder} {account : ChannelAccount}
    (held : eventAccount? lock = some account) :
    lock.any Holder.isLogin = false := by
  cases lock with
  | none => rfl
  | some holder =>
    cases holder with
    | loggingIn | presenting => cases held
    | events | accepting | noticing | noticeExpiring | rebinding
    | rebindPresenting | dismissing => rfl

theorem handleNext_changes (state : WeixinBinding)
    (account : ChannelAccount) (events : List WeixinEvent)
    (faults : WriteFaults) (now : Nat)
    (held : eventAccount? state.lock = some account) :
    Changes first label state
      (state.handleNext account events faults now) := by
  have notLogin := isLogin_of_eventAccount held
  unfold handleNext
  split
  · exact releaseLock_changes state
  · rename_i event rest
    dsimp only
    have fresh :
        ∀ current, state.record = some current →
          state.record.getD account = current := by
      intro current stored
      rw [stored, Option.getD_some]
    rcases handleWeixinEvent_spec event faults now fresh with ⟨edited, awaits, gone⟩
    generalize handleWeixinEvent state.record (state.record.getD account)
      event faults now = handled at edited awaits gone ⊢
    have wrote :
        Changes first label state
          { state with record := handled.1 } :=
      (Change.edited state true _ edited fun _ => notLogin).chain
    split
    · exact wrote.append (raiseInLock_changes _)
    · refine wrote.then (.lockSet _ _ ?_)
      cases stored : state.record with
      | none =>
        exact .events rfl rfl (Or.inl held) rfl
      | some current =>
        cases present : handled.1 with
        | none =>
          rw [stored, present] at edited
          rcases edited with impossible | ⟨_, _, _, impossible, _⟩
          · cases impossible
          · cases impossible
        | some updated =>
          rw [present] at edited
          rcases edited.of_some with ⟨_, same, edit⟩
          rw [stored, Option.some.injEq] at same
          subst same
          exact .events rfl rfl (Or.inr rfl) edit.epoch_eq.symm
    · rename_i notified reached
      cases present : handled.1 with
      | none =>
        rcases gone present with ⟨_, impossible | impossible⟩
        all_goals
          rw [reached] at impossible
          cases impossible
      | some updated =>
        have matching := awaits updated present
        rw [reached] at matching
        rw [present] at wrote
        exact wrote.then
          (.lockSet _ _ (.events rfl rfl (Or.inr rfl) matching))
    · rename_i inbound reached
      cases present : handled.1 with
      | none =>
        rcases gone present with ⟨_, impossible | impossible⟩
        all_goals
          rw [reached] at impossible
          cases impossible
      | some updated =>
        have matching := awaits updated present
        rw [reached] at matching
        rcases matching with ⟨epoch, sender, sent, locked⟩
        rw [present] at wrote
        rw [sent]
        refine (wrote.then (.submitted _ updated
          { inbound := inbound, sender := sender } rfl epoch
          locked)).then (.lockSet _ _ ?_)
        cases stored : state.record with
        | none => exact .events rfl rfl (Or.inl held) rfl
        | some current =>
          rw [present] at edited
          rcases edited.of_some with ⟨_, same, edit⟩
          rw [stored, Option.some.injEq] at same
          subst same
          exact .events rfl rfl (Or.inr rfl) edit.epoch_eq.symm

theorem resumeEvents_changes (state : WeixinBinding)
    (account : ChannelAccount) (rest : List WeixinEvent) (fault : Bool)
    (held : eventAccount? state.lock = some account) :
    Changes first label state
      (if fault then state.raiseInLock
        else { state with lock := some (.events account rest) }) := by
  split
  · exact raiseInLock_changes state
  · exact (Change.lockSet state _ (.events rfl rfl (Or.inl held) rfl)).chain

theorem endNotice_changes (state : WeixinBinding)
    (account : ChannelAccount) (rest : List WeixinEvent)
    (answer : CallAnswer) (fault : Bool) (now : Nat)
    (held : eventAccount? state.lock = some account) :
    Changes first label state
      (state.endNotice account rest answer fault now) := by
  unfold endNotice
  dsimp only
  split
  · exact (Change.lockSet state _ (.events rfl rfl (Or.inl held) rfl)).chain
  · exact (writeFailure_changes state account false fault now (.notice held)).append
        (resumeEvents_changes _ account rest fault held)
  · split
    · exact (writeFailure_changes state account true fault now (.notice held)).append
          (resumeEvents_changes _ account rest fault held)
    · exact (Change.lockSet state _ (.events rfl rfl (Or.inl held) rfl)).chain

theorem endNoticeExpiry_changes (state : WeixinBinding)
    (account : ChannelAccount) (rest : List WeixinEvent) (fault : Bool)
    (now : Nat)
    (held : eventAccount? state.lock = some account) :
    Changes first label state
      (state.endNoticeExpiry account rest fault now) :=
  (writeFailure_changes state account true fault now (.notice held)).append
      (resumeEvents_changes _ account rest fault held)

theorem sendChunks_changes (state : WeixinBinding) (number : Nat)
    (call : Call) (origin : Origin) (chunks : List String)
    (source : state.SendSource number call origin) :
    Changes first label state
      (state.sendChunks number call origin chunks) := by
  cases chunks with
  | nil => exact (Change.sendErased state number).chain
  | cons text rest =>
    exact (Change.sendSet state number call origin rest source).chain.then
        (.chunkSent _ number call origin rest text (Dict.get?_insert_self _ _ _))

theorem beginSend_changes (maxBytes : Nat) (state : WeixinBinding)
    (number : Nat) (origin : Origin) (fault : Bool) (now : Nat)
    (answers : ∀ submission eventType content, origin = .reply submission eventType content →
          submission ∈ state.submitted) :
    Changes first label state
      (beginSend maxBytes state number origin fault now) := by
  unfold beginSend
  dsimp only
  split
  · exact .refl state
  · rename_i account stored
    split
    · exact .refl state
    · split
      · exact .refl state
      · rename_i epochs
        split
        · exact writeFailure_changes state account false fault now (.current stored)
        · split
          · exact .refl state
          · rename_i active
            split
            · exact .refl state
            · rename_i chunks _
              refine sendChunks_changes state number _ origin chunks
                (Or.inr ⟨stored, rfl, by simpa using active, ?_⟩)
              intro submission eventType content reply
              refine ⟨answers submission eventType content reply, ?_⟩
              subst reply
              simpa [Origin.message] using epochs

theorem endSend_changes (state : WeixinBinding) (number : Nat)
    (call : Call) (origin : Origin) (rest : List String)
    (answer : CallAnswer) (fault : Bool) (now : Nat)
    (waits : state.sends.get? number = some (.sending call origin rest))
    (labelled : label = .sendAnswered number answer fault now) :
    Changes state label state (state.endSend number call origin rest answer fault now) := by
  unfold endSend
  dsimp only
  split
  · exact sendChunks_changes state number call origin rest (Or.inl ⟨rest, waits⟩)
  · exact (writeFailure_changes state call.account false fault now
      (.call call (by simp [labelled, failingCall?, waits]) rfl
        rfl)).then
        (.sendErased _ number)
  · split
    · rename_i pending
      exact (writeFailure_changes state call.account true fault now
        (.call call (by simp [labelled, failingCall?, waits, pending])
          rfl rfl)).then (.sendErased _ number)
    · exact (Change.sendExpires state number call origin rest waits).chain

theorem closePresentation_changes {generation : Option Nat} {now : Nat} (closed :
      state.closePresentation generation now = some target) :
    Changes first label state target := by
  unfold closePresentation at closed
  split at closed
  · rename_i pending _
    split at closed
    · cases closed
      exact .refl state
    · split at closed
      · cases closed
      · cases closed
        exact discardRebind_changes state pending.attemptId
  · split at closed
    · cases closed
      exact .refl state
    · rename_i account stored
      split at closed
      · cases closed
        exact .refl state
      · rename_i waiting
        rw [not_not] at waiting
        split at closed
        · cases closed
          exact .refl state
        · rename_i updated written
          cases closed
          rw [stored] at written
          rcases failPendingQr_same written with ⟨same, status⟩
          exact (Change.loginFailed state account updated (Or.inr waiting) stored same status).chain

theorem takeLock_changes (taken : state.takeLock label = some target) :
    Changes first label state target := by
  unfold takeLock at taken
  split at taken
  · split at taken
    · cases taken
      exact .refl state
    · rename_i account stored
      split at taken
      · cases taken
        exact .refl state
      · split at taken
        · rename_i waiting
          cases taken
          exact (Change.lockSet state _ (.forLogin rfl (Or.inr ⟨account, stored, waiting⟩))).chain
        · split at taken
          · cases taken
            exact ensurePollTask_changes state
          · cases taken
            exact .refl state
  · split at taken
    · cases taken
      exact (Change.pendingSet state none state.rebindAttempt).chain.append (dismissing_changes _ _)
    · cases taken
      exact (Change.pollSet state .stopped (.of_none rfl)).chain.append (dismissing_changes _ _)
  · split at taken
    · cases taken
      exact .refl state
    · rename_i current _
      split at taken
      · cases taken
        exact startRebind_changes state current _
      · cases taken
        exact .refl state
  · rcases Option.map_eq_some_iff.mp taken with ⟨pending, _, rfl⟩
    exact progressRebind_changes state pending.attemptId _
  · split at taken
    · cases taken
      exact beginPoll_changes state _
    · cases taken
  · split at taken
    · cases taken
      exact beginEvents_changes state _ _ _ _
    · cases taken
  · cases taken

theorem resumeHolder_changes (held : state.lock = some holder)
    (resumed : state.resumeHolder holder label = some target) :
    Changes first label state target := by
  unfold resumeHolder at resumed
  split at resumed
  · cases resumed
    exact handleNext_changes state _ _ _ _ (by rw [held]; rfl)
  · rw [← apply_ite some, Option.some.injEq] at resumed
    exact resumed ▸ resumeEvents_changes state _ _ _ (by rw [held]; rfl)
  · cases resumed
    exact endNotice_changes state _ _ _ _ _ (by rw [held]; rfl)
  · cases resumed
    exact endNoticeExpiry_changes state _ _ _ _ (by rw [held]; rfl)
  · cases resumed
    exact endLoginCall_changes state _ _ _ _ _ _ _ _ _ _
      (by rw [held]; rfl)
  · split at resumed
    · cases resumed
      exact failLogin_changes state _ _ true _ _ _ (by rw [held]; rfl)
    · cases resumed
      exact finishLogin_changes state _
  · cases resumed
    exact endRebindCall_changes state _ _ _ _ _ _ _
  · split at resumed
    · cases resumed
      exact discardRebind_changes state _
    · cases resumed
      exact concludeRebind_changes state _ _ _ _ _
  · split at resumed
    · cases resumed
      exact finishLogin_changes state _
    · cases resumed
      exact finishLogin_changes state _
    · cases resumed
      exact (Change.pollSet state .stopped (.of_none rfl)).chain.append
        (dismissing_changes _ .release)
    · cases resumed
      have source :
          state.PollSource (if state.started then .idle else .stopped) := by
        split
        · exact .of_none rfl
        · exact .of_none rfl
      exact (Change.pollSet state _ source).chain.then
        (.lockSet _ none (.free _))
    · cases resumed
      exact beginCandidate_changes state _ _
  · cases resumed

theorem step_changes {maxBytes : Nat} (stepped : step maxBytes state label = some target) :
    Changes state label state target := by
  unfold step at stepped
  split at stepped
  · cases stepped
    exact (Change.started state).chain
  · cases stepped
    exact (Change.restarted state).chain
  · cases stepped
    exact changeRecord_changes state _ _ rfl
  · cases stepped
    exact revokeRecord_changes state _
  · cases stepped
    exact (Change.deleted state).chain
  · exact closePresentation_changes stepped
  · split at stepped
    · rename_i call calling
      cases stepped
      exact endPoll_changes state call _ _ _ calling rfl
    · cases stepped
  · split at stepped
    · rename_i call expiring
      cases stepped
      exact (writeFailure_changes state call.account true _ _
        (.call call (by simp [failingCall?, expiring]) rfl rfl)).append
          (endFailedPoll_changes _ _)
    · cases stepped
  · split at stepped
    · cases stepped
    · split at stepped
      · rename_i submission _ _
        split at stepped
        · rename_i known
          cases stepped
          refine beginSend_changes maxBytes state _ _ _ _ ?_
          intro other eventType content same
          cases same
          exact known
        · cases stepped
      · cases stepped
        refine beginSend_changes maxBytes state _ _ _ _ ?_
        intro other eventType content impossible
        cases impossible
  · split at stepped
    · rename_i call origin rest waits
      cases stepped
      exact endSend_changes state _ call origin rest _ _ _ waits rfl
    · cases stepped
  · split at stepped
    · rename_i call waits
      cases stepped
      exact (writeFailure_changes state call.account true _ _
        (.call call (by simp [failingCall?, waits]) rfl rfl)).then
          (.sendErased _ _)
    · cases stepped
  · cases stepped
    exact (Change.sendErased state _).chain
  · split at stepped
    · exact takeLock_changes stepped
    · rename_i holder held
      exact resumeHolder_changes held stepped

end Chains

end WeixinBinding
end TurningGood.Channels
