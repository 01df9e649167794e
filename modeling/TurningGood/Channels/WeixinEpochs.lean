import TurningGood.Channels.WeixinChanges

/-!
# Failures and the epochs of a binding

The failure of a call is written to the record that is stored when the
failure is handled, whatever epoch the call belongs to.  A send and the poll
task do not hold the lock of the binding then, so a rebind may have been
committed since the account of the call was read.  Where none was, the
record is still at the epoch of the call: nothing but a commit changes the
epoch.
-/

namespace TurningGood.Channels

open TurningGood.Foundation

/-! ## The epochs that coroutines remember -/

/-- The epoch of a call is the number of commits before it. -/
def Call.Sound (call : Call) : Prop :=
  call.account.bindingEpoch = call.commits

namespace WeixinBinding

variable {maxBytes : Nat} {state target : WeixinBinding} {label : Label}

/-- The record is at the current epoch, and every call at its own. -/
structure EpochSound (state : WeixinBinding) : Prop where
  record :
    ∀ account, state.record = some account →
      account.bindingEpoch = state.commits
  poll : ∀ call, state.poll.call? = some call → Call.Sound call
  sends :
    ∀ number frame, state.sends.get? number = some frame →
      Call.Sound frame.call
  lock :
    ∀ account, eventAccount? state.lock = some account →
      account.bindingEpoch = state.commits

section Changes

variable {first state target : WeixinBinding} {label : Label}

theorem EpochSound.failingCall
    (sound : first.EpochSound) {call : Call}
    (failing : first.failingCall? label = some call) :
    Call.Sound call := by
  unfold failingCall? at failing
  split at failing
  · split at failing
    · rename_i waits
      cases failing
      exact sound.poll _ (by rw [waits]; rfl)
    · rename_i waits
      split at failing
      · cases failing
        exact sound.poll _ (by rw [waits]; rfl)
      · cases failing
    · cases failing
  · split at failing
    · rename_i waits
      cases failing
      exact sound.poll _ (by rw [waits]; rfl)
    · cases failing
  · split at failing
    · rename_i waits
      cases failing
      exact sound.sends _ _ waits
    · rename_i waits
      split at failing
      · cases failing
        exact sound.sends _ _ waits
      · cases failing
    · cases failing
  · split at failing
    · rename_i waits
      cases failing
      exact sound.sends _ _ waits
    · cases failing
  · cases failing

theorem EpochSound.withRecord
    (sound : state.EpochSound) {record : Option ChannelAccount}
    (same :
      ∀ account, record = some account →
        account.bindingEpoch = state.commits) :
    { state with record := record }.EpochSound :=
  { sound with
    record := same }

theorem EpochSound.edited
    (sound : state.EpochSound) {mayLock : Bool}
    {record : Option ChannelAccount}
    (edited : Edited mayLock state.record record) :
    ∀ account, record = some account →
      account.bindingEpoch = state.commits := by
  intro account present
  subst present
  rcases edited.of_some with ⟨current, stored, edit⟩
  exact edit.epoch_eq.trans (sound.record current stored)

theorem EpochSound.withSend
    (sound : state.EpochSound) (number : Nat) {frame : SendFrame}
    (call : Call.Sound frame.call) :
    { state with sends := state.sends.insert number frame }.EpochSound :=
  { sound with
    sends := by
      intro other found present
      rw [Dict.get?_insert] at present
      split at present
      · cases present
        exact call
      · exact sound.sends other found present }

theorem Change.epochSound
    (sound : state.EpochSound)
    (change : Change first label state target) : target.EpochSound := by
  cases change with
  | started =>
    exact ⟨sound.record, sound.poll, sound.sends, sound.lock⟩
  | restarted =>
    refine ⟨sound.record, (by rintro _ ⟨⟩), ?_, (by rintro _ ⟨⟩)⟩
    intro number frame present
    rw [Dict.get?_empty] at present
    cases present
  | edited _ mayLock after edited => exact sound.withRecord (sound.edited edited)
  | deleted => exact sound.withRecord (by rintro _ ⟨⟩)
  | enabled current updated now labelled stored _ _ same =>
    refine sound.withRecord ?_
    intro account present
    cases present
    exact (bindingEpoch_congr same.epoch).trans
      (sound.record current stored)
  | pendingSet _ pending attempt =>
    exact ⟨sound.record, sound.poll, sound.sends, sound.lock⟩
  | pollSet _ poll source =>
    refine ⟨sound.record, ?_, sound.sends, sound.lock⟩
    intro call present
    rcases source call present with earlier | ⟨stored, commits⟩
    · exact sound.poll call earlier
    · exact (sound.record _ stored).trans commits.symm
  | lockSet _ lock source =>
    refine ⟨sound.record, sound.poll, sound.sends, ?_⟩
    intro account present
    rcases source.account account present with
      ⟨earlier, held | stored, epoch⟩
    · exact epoch.trans (sound.lock earlier held)
    · exact epoch.trans (sound.record earlier stored)
  | sendErased _ number =>
    refine ⟨sound.record, sound.poll, ?_, sound.lock⟩
    intro other frame present
    rw [Dict.get?_erase] at present
    split at present
    · cases present
    · exact sound.sends other frame present
  | sendExpires _ number call origin rest waits =>
    have earlier := sound.sends number _ waits
    exact sound.withSend number earlier
  | sendSet _ number call origin rest source =>
    refine sound.withSend number ?_
    rcases source with ⟨earlierRest, waits⟩ | ⟨stored, commits, _⟩
    · have earlier := sound.sends number _ waits
      exact earlier
    · exact (sound.record _ stored).trans commits.symm
  | chunkSent =>
    exact ⟨sound.record, sound.poll, sound.sends, sound.lock⟩
  | failed _ account written fault source edited =>
    refine ⟨?_, sound.poll, sound.sends, sound.lock⟩
    intro found present
    simp only [writeFailure] at present
    split at present
    · exact sound.record found present
    · exact sound.edited edited found present
  | loggedIn _ current updated update login stored epoch sender token =>
    refine ⟨?_, sound.poll, sound.sends, sound.lock⟩
    intro account present
    cases present
    exact (bindingEpoch_congr epoch).trans (sound.record current stored)
  | loginFailed _ current updated login stored same status =>
    refine sound.withRecord ?_
    intro account present
    cases present
    exact (bindingEpoch_congr same.epoch).trans
      (sound.record current stored)
  | committed _ current updated privateState stored epoch =>
    refine ⟨?_, sound.poll, sound.sends, (by rintro _ ⟨⟩)⟩
    intro account present
    cases present
    rw [epoch, sound.record current stored]
  | submitted =>
    exact ⟨sound.record, sound.poll, sound.sends, sound.lock⟩

end Changes

theorem initial_epochSound (initial : (weixinMachine maxBytes).initial state) :
    state.EpochSound := by
  rcases initial with
    ⟨⟨id, principalId, now, record⟩, _, _, sends, poll, lock, commits, _⟩
  refine ⟨?_, ?_, ?_, ?_⟩
  · intro account present
    rw [record, Option.some.injEq] at present
    subst present
    rw [commits]
    rfl
  · intro call present
    rw [poll] at present
    cases present
  · intro number frame present
    rw [sends, Dict.get?_empty] at present
    cases present
  · intro account present
    rw [lock] at present
    cases present

theorem reaches_epochSound {guard : WeixinBinding → Label → Prop}
    (reached : (weixinMachine maxBytes).Reaches guard state) :
    state.EpochSound := by
  refine reached.invariant ?_ ?_
  · exact fun _ initial => initial_epochSound initial
  · intro before label after _ sound _ stepped
    exact (step_changes stepped).keeps EpochSound
      (fun _ _ holds change => change.epochSound holds) sound

/-! ## Isolation -/

/--
A failure that was detected with the credentials of an epoch has changed the
record only where the record was at that epoch.
-/
def IsolatesEpochs (state : WeixinBinding) : Prop :=
  ∀ failure ∈ state.failures,
    failure.after ≠ failure.before →
      ∃ current,
        failure.before = some current ∧
          current.bindingEpoch = failure.epoch

/--
When the failure of a send or of a poll is written, no rebind has been
committed since the account of the call was read.
-/
def FailsInTime (state : WeixinBinding) (label : Label) : Prop :=
  (state.failingCall? label).all
    (fun call => call.commits = state.commits) = true

instance (state : WeixinBinding) (label : Label) :
    Decidable (state.FailsInTime label) :=
  inferInstanceAs (Decidable (_ = true))

theorem Change.isolates {first : WeixinBinding}
    (isolates : state.IsolatesEpochs) (sound : state.EpochSound)
    (firstSound : first.EpochSound) (inTime : first.FailsInTime label)
    (change : Change first label state target) : target.IsolatesEpochs := by
  cases change with
  | failed _ account written fault source edited =>
    intro failure member changed
    rw [writeFailure, List.mem_append, List.mem_singleton] at member
    rcases member with earlier | rfl
    · exact isolates failure earlier changed
    · dsimp only at changed ⊢
      have epoch : account.bindingEpoch = state.commits := by
        cases source with
        | call call failing same commits =>
          rw [FailsInTime, failing, Option.all_some,
            decide_eq_true_eq] at inTime
          rw [same, firstSound.failingCall failing, inTime, commits]
        | notice held => exact sound.lock account held
        | current stored => exact sound.record account stored
      cases stored : state.record with
      | none =>
        rw [stored] at edited changed
        rcases edited with rfl | ⟨_, _, impossible, _⟩
        · exact absurd (ite_self none) changed
        · cases impossible
      | some current =>
        exact ⟨current, rfl,
          (sound.record current stored).trans epoch.symm⟩
  | started | restarted | edited | deleted | enabled | pendingSet | pollSet
  | lockSet | sendErased | sendExpires | sendSet | chunkSent | loggedIn
  | loginFailed | committed | submitted => exact isolates

theorem step_isolates (isolates : state.IsolatesEpochs)
    (sound : state.EpochSound) (inTime : state.FailsInTime label)
    (stepped : step maxBytes state label = some target) :
    target.IsolatesEpochs := by
  have both :
      target.EpochSound ∧ target.IsolatesEpochs := by
    refine (step_changes stepped).keeps
      (fun state => state.EpochSound ∧ state.IsolatesEpochs) ?_
      ⟨sound, isolates⟩
    intro before after holds change
    exact
      ⟨change.epochSound holds.1,
        change.isolates holds.2 holds.1 sound inTime⟩
  exact both.2

theorem step_failing {call : Call}
    (failing : state.failingCall? label = some call)
    (stepped : step maxBytes state label = some target) :
    target.failures =
      state.failures ++
        [{ epoch := call.account.bindingEpoch
           before := state.record
           after := target.record }] := by
  unfold failingCall? at failing
  split at failing
  · split at failing
    · rename_i waits
      cases failing
      simp only [step, waits, endPoll, Option.some.injEq] at stepped
      exact stepped ▸ rfl
    · rename_i waits
      split at failing
      · rename_i pending
        cases failing
        simp only [step, waits, endPoll, pending, if_true,
          Option.some.injEq] at stepped
        exact stepped ▸ rfl
      · cases failing
    · cases failing
  · split at failing
    · rename_i waits
      cases failing
      simp only [step, waits, Option.some.injEq] at stepped
      exact stepped ▸ rfl
    · cases failing
  · split at failing
    · rename_i waits
      cases failing
      simp only [step, waits, endSend, Option.some.injEq] at stepped
      exact stepped ▸ rfl
    · rename_i waits
      split at failing
      · rename_i pending
        cases failing
        simp only [step, waits, endSend, pending, if_true,
          Option.some.injEq] at stepped
        exact stepped ▸ rfl
      · cases failing
    · cases failing
  · split at failing
    · rename_i waits
      cases failing
      simp only [step, waits, Option.some.injEq] at stepped
      exact stepped ▸ rfl
    · cases failing
  · cases failing

theorem step_isolates_iff {call : Call} (isolates : state.IsolatesEpochs)
    (sound : state.EpochSound)
    (failing : state.failingCall? label = some call)
    (stepped : step maxBytes state label = some target) :
    target.IsolatesEpochs ↔
      call.commits = state.commits ∨ target.record = state.record := by
  have logged := step_failing failing stepped
  have callEpoch : call.account.bindingEpoch = call.commits :=
    sound.failingCall failing
  constructor
  · intro isolated
    by_cases changed : target.record = state.record
    · exact Or.inr changed
    · rcases isolated _ (logged ▸ List.mem_concat_self) changed with
        ⟨current, stored, epoch⟩
      rw [sound.record current stored, callEpoch] at epoch
      exact Or.inl epoch.symm
  · rintro (inTime | same)
    · refine step_isolates isolates sound ?_ stepped
      rw [FailsInTime, failing, Option.all_some, decide_eq_true_eq]
      exact inTime
    · intro failure member changed
      rw [logged, List.mem_append, List.mem_singleton] at member
      rcases member with earlier | rfl
      · exact isolates failure earlier changed
      · exact absurd same changed

theorem initial_isolates (initial : (weixinMachine maxBytes).initial state) :
    state.IsolatesEpochs := by
  rcases initial with ⟨_, _, _, _, _, _, _, failures, _⟩
  intro failure member
  rw [failures] at member
  cases member

/--
In every run in which no failure of a send or of a poll is written after a
rebind has been committed since its account was read, the failures of an
epoch leave the record of every other epoch alone; and the writing of a
failure after such a run keeps this if and only if no rebind was committed
meanwhile, or the write changes nothing.
-/
theorem weixinRuns_isolateEpochs
    {maxBytes : Nat} {state : WeixinBinding}
    (reached : (weixinMachine maxBytes).Reaches FailsInTime state) :
    state.IsolatesEpochs ∧
      ∀ label target call,
        (weixinMachine maxBytes).step state label = some target →
          state.failingCall? label = some call →
            (target.IsolatesEpochs ↔
              call.commits = state.commits ∨
                target.record = state.record) := by
  have isolates : state.IsolatesEpochs := by
    refine reached.invariant ?_ ?_
    · exact fun _ initial => initial_isolates initial
    · exact fun _ _ _ earlier before inTime stepped =>
        step_isolates before (reaches_epochSound earlier) inTime stepped
  refine ⟨isolates, ?_⟩
  intro label target call stepped failing
  exact step_isolates_iff isolates (reaches_epochSound reached) failing
    stepped

/-! ## A send that a rebind overtakes -/

/-- An invitation before anything has happened. -/
def sampleBinding : WeixinBinding where
  record := some (weixinInvitation "binding" "owner" 0)
  started := false
  pending := none
  rebindAttempt := 0
  sends := Dict.empty
  poll := .stopped
  lock := none
  commits := 0
  failures := []
  submitted := []
  sent := []
  issued := []

/-- A text message of a user. -/
def textEvent (messageId sender : String) : WeixinEvent where
  messageId := some (.text messageId)
  msgId := none
  seq := none
  fromUserId := some (.text sender)
  fromUserIdCamel := none
  messageType := some (.text "text")
  msgType := none
  items :=
    [{ type := some (.text "text")
       itemType := none
       text := some (.text "hello")
       content := none
       nestedText := none }]
  chatType := some (.text "p2p")
  conversationType := none
  contextToken := some (.text "context")

/-- The platform shows a QR code, and then confirms the login. -/
def sampleAnswer (botToken : String) : LoginAnswer where
  qrCode := .code "qrcode" none
  qrStatus := .confirmed botToken "bot" "url" none

/-- The binding is logged in, and its poll task waits for a message. -/
def loginLabels (botToken : String) : List Label :=
  [.enableAccount true,
    .loginAnswered (some (sampleAnswer botToken)) true true false false 1,
    .pollRound true,
    .loginAnswered (some (sampleAnswer botToken)) true true false false 2,
    .dismissed true, .pollRound true]

/-- A poll brings one message, and it is accepted. -/
def messageLabels (messageId sender : String) : List Label :=
  [.pollAnswered
      (.result { events := [textEvent messageId sender], cursor := none })
      false 3,
    .pollLocked false 3, .nextEvent .none 3, .acceptEnded false,
    .nextEvent .none 3]

/-- The binding is scanned again, and the new login is committed. -/
def rebindLabels (botToken : String) : List Label :=
  [.startRebind true,
    .rebindAnswered (some (sampleAnswer botToken)) true true false 4,
    .rebindRound true,
    .rebindAnswered (some (sampleAnswer botToken)) true true false 5,
    .dismissed true]

/-- A text of the proactive service for the binding. -/
def sampleNotification : Origin :=
  .notification
    { principalId := "owner"
      conversationId := "binding"
      disposition := .proactiveNotification
      eventType := "notification"
      content := "news"
      bindingEpoch := none }

theorem sampleBinding_initial :
    (weixinMachine 2048).initial sampleBinding :=
  ⟨⟨"binding", "owner", 0, rfl⟩, rfl, rfl, rfl, rfl, rfl, rfl, rfl, rfl,
    rfl, rfl⟩

/-- A failed send is isolated from the rebind that follows it. -/
theorem failure_before_rebind_isolated :
    ∃ state,
      (weixinMachine 2048).runGuarded FailsInTime sampleBinding
          (.start :: loginLabels "first" ++ messageLabels "m1" "user" ++
            [.send 0 sampleNotification false 3,
              .sendAnswered 0 .failed false 3] ++
            rebindLabels "second") = some state ∧
        state.failures.length = 1 ∧ state.commits = 1 ∧
        state.IsolatesEpochs := by
  have isolated {state : WeixinBinding}
      (evaluated :
        (weixinMachine 2048).runGuarded FailsInTime sampleBinding
            (.start :: loginLabels "first" ++ messageLabels "m1" "user" ++
              [.send 0 sampleNotification false 3,
                .sendAnswered 0 .failed false 3] ++
              rebindLabels "second") = some state) :
      state.IsolatesEpochs :=
    (weixinRuns_isolateEpochs
      (Machine.Reaches.runGuarded (.start sampleBinding_initial)
        evaluated)).1
  refine ⟨_, rfl, ?_⟩
  exact ⟨rfl, rfl, isolated rfl⟩

/--
A send of the first epoch fails after the rebind: the new binding is marked
as expired, and its credentials are gone.
-/
theorem overtaken_send_expires_new_binding :
    ∃ state,
      (weixinMachine 2048).run sampleBinding
          (.start :: loginLabels "first" ++ messageLabels "m1" "user" ++
            [.send 0 sampleNotification false 3] ++
            rebindLabels "second" ++
            [.sendAnswered 0 .expired false 6,
              .sendExpired 0 false 6]) = some state ∧
        (state.record.map fun account =>
          (account.bindingEpoch, account.status,
            account.privateState.get? "bot_token")) =
              some (1, .expired, none) ∧
        ¬ state.IsolatesEpochs := by
  refine ⟨_, rfl, rfl, ?_⟩
  intro isolated
  rcases isolated _ List.mem_cons_self (by decide) with
    ⟨current, stored, epoch⟩
  cases stored
  exact absurd epoch (by decide)

end WeixinBinding
end TurningGood.Channels
