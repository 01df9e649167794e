import Mathlib.Tactic.ByContra
import TurningGood.Channels.FeishuConnection

/-!
# Supervision of a Feishu bot

A connection that was ever ready is supervised when an exit that was dealt
with has left a reconnect task behind, or when the owner knows of the end
and all attempts are used up.  Its reports are true when the owner's last
state says whether the process is up.

Neither holds of all runs.  `_handle_process_exit` takes an exit after a
disconnect notice for an exit before readiness, and a notice that comes
before the connection is registered counts as reported, although the
callback has dropped it.
-/

namespace TurningGood.Channels

open TurningGood.Foundation

namespace FeishuConnection

/-- The exit of the current process was dealt with, or there is none. -/
def Exited (state : FeishuConnection) : Prop := state.pump = .ended ∨ state.process = none

/-- No bot that was ready is left dead without a retry. -/
def Supervised (state : FeishuConnection) : Prop :=
  state.startup ≠ .closed → state.everReady = true → state.Exited →
    state.reconnect ≠ .idle ∨ (state.exhausted = true ∧ state.owner = some false)

/-- The start, the reconnect task and the callbacks have come to rest. -/
def Quiescent (state : FeishuConnection) : Prop :=
  state.startup = .registered ∧ state.reconnect = .idle ∧
    (state.pump = .polling ∨ state.pump = .ended)

/-- The owner knows whether the current process is ready. -/
def ReportedTruly (state : FeishuConnection) : Prop := state.Quiescent →
    state.owner = some (decide (state.process = some .up))

/-- The step reaches none of the paths that lose a report or a retry. -/
def Sustains (state : FeishuConnection) (label : Label) : Prop :=
  match label with
  | .disconnectedMessage =>
    state.ready = true → state.startup = .registered
  | .processExit =>
    if state.ready then state.startup = .registered
    else state.everReady = true → state.reconnect ≠ .idle
  | .stopRaised =>
    state.reconnect ≠ .stopping 0 false ∧ state.reconnect ≠ .stopping 0 true ∧
      state.reconnect ≠ .cleaning 0 false ∧
      state.reconnect ≠ .cleaning 0 true
  | _ => True

instance (state : FeishuConnection) (label : Label) :
    Decidable (state.Sustains label) :=
  match label with
  | .disconnectedMessage => inferInstanceAs (Decidable (_ → _))
  | .processExit => inferInstanceAs (Decidable (ite _ _ _))
  | .stopRaised => inferInstanceAs (Decidable (_ ∧ _))
  | .readyMessage => .isTrue trivial
  | .callbackEnded => .isTrue trivial
  | .startEnded _ => .isTrue trivial
  | .registerEnded _ => .isTrue trivial
  | .reconnectWoken => .isTrue trivial
  | .processJoined => .isTrue trivial
  | .stopEnded _ => .isTrue trivial
  | .attemptEnded _ => .isTrue trivial
  | .failureReported => .isTrue trivial

end FeishuConnection

/-- The reconnect task is between two children. -/
def Reconnect.replacing : Reconnect → Bool
  | .sleeping _ | .stopping _ _ | .cleaning _ _ => true
  | .idle | .starting _ _ | .reporting => false

/-- The reconnect task has no attempt before it. -/
def Reconnect.over : Reconnect → Bool
  | .idle | .reporting => true
  | .sleeping _ | .stopping _ _ | .starting _ _ | .cleaning _ _ => false

theorem Reconnect.over_of_replacing
    {reconnect : Reconnect}
    (replacing : reconnect.replacing = true) :
    reconnect.over = false := by
  cases reconnect with
  | sleeping _ => rfl
  | stopping _ _ => rfl
  | cleaning _ _ => rfl
  | idle => cases replacing
  | starting _ _ => cases replacing
  | reporting => cases replacing

namespace FeishuConnection

variable {state target : FeishuConnection}

/-- The flags, the coroutines and the owner agree. -/
structure FlagsSound (state : FeishuConnection) : Prop where
  /-- nothing was dropped before the registration -/
  unregistered : state.startup ≠ .registered →
      state.reconnect = .idle ∧ state.disconnectedReported = false ∧
        state.pump ≠ .reporting .schedule ∧
        (state.everReady = true → state.ready = true)
  /-- a start succeeds by readiness -/
  startedReady : state.startup = .waiting (some true) ∨
        state.startup = .registering ∨ state.startup = .registered →
      state.everReady = true
  /-- the owner has what was reported last -/
  owner : state.startup = .registered → state.owner = some (!state.disconnectedReported)
  readyUnreported : state.ready = true → state.disconnectedReported = false
  unreadyReported : state.startup = .registered → state.reconnect.over = true →
      state.ready = true ∨ state.disconnectedReported = true
  /-- the ready flag is about the current process -/
  readyUp : state.reconnect.replacing = false → (state.ready = true ↔ state.process = some .up)
  pumped : state.reconnect.replacing = false → state.process = none → state.pump = .ended
  endedUnready : state.reconnect.replacing = false → state.pump = .ended → state.ready = false
  scheduling : state.pump = .reporting .schedule → state.ready = false
  reportingExhausted : state.reconnect = .reporting → state.exhausted = true
  /-- an exit that is not retried comes after the last attempt -/
  endedExhausted : state.reconnect = .idle → state.pump = .ended →
      state.everReady = true → state.exhausted = true

theorem resolve_eq (state : FeishuConnection) (value : Bool) :
    ∃ startup reconnect, state.resolve value =
          { state with startup := startup, reconnect := reconnect } ∧
        (startup = state.startup ∨ state.startup = .waiting none ∧
            startup = .waiting (some value)) ∧
        (reconnect = state.reconnect ∨ ∃ later, state.reconnect = .starting later none ∧
            reconnect = .starting later (some value)) := by
  unfold resolve
  split
  · split
    · next waiting =>
        exact ⟨_, state.reconnect, rfl, .inr ⟨waiting, rfl⟩, .inl rfl⟩
    · exact ⟨_, _, rfl, .inl rfl, .inl rfl⟩
  · split
    · next later starting =>
        exact ⟨state.startup, _, rfl, .inl rfl, .inr ⟨later, starting, rfl⟩⟩
    · exact ⟨_, _, rfl, .inl rfl, .inl rfl⟩

theorem FlagsSound.told (sound : state.FlagsSound) (polling : state.pump = .polling) (link : Link) :
    state.reconnect.replacing = false → (state.process.map fun _ => link) = some link := by
  intro kept
  cases told : state.process with
  | none =>
    have ended := sound.pumped kept told
    rw [polling] at ended
    cases ended
  | some earlier => rfl

theorem FlagsSound.pumpReady (sound : state.FlagsSound)
    (polling : state.pump = .polling) : state.pumpReady.FlagsSound := by
  rcases resolve_eq (state.tell .up) true with
    ⟨startup, reconnect, resolved, startupIs, reconnectIs⟩
  simp only [FeishuConnection.pumpReady, resolved]
  simp only [tell, reportState] at startupIs reconnectIs ⊢
  clear resolved
  have told := sound.told polling .up
  rcases sound
  split
  · constructor <;> grind [Reconnect.over, Reconnect.replacing]
  · constructor <;> grind [Reconnect.over, Reconnect.replacing]

theorem FlagsSound.pumpDisconnected (sound : state.FlagsSound) (polling : state.pump = .polling)
    (sustained : state.Sustains .disconnectedMessage) :
    state.pumpDisconnected.FlagsSound := by
  simp only [Sustains] at sustained
  have told := sound.told polling .down
  rcases sound
  simp only [FeishuConnection.pumpDisconnected, tell, reportState]
  by_cases wasReady : state.ready = true
  · by_cases reported : state.disconnectedReported = true
    · constructor <;> grind [Reconnect.over, Reconnect.replacing]
    · simp only [wasReady, reported]
      constructor <;> grind [Reconnect.over, Reconnect.replacing]
  · simp only [wasReady]
    constructor <;> grind [Reconnect.over, Reconnect.replacing]

theorem FlagsSound.pumpExited (sound : state.FlagsSound) (polling : state.pump = .polling)
    (sustained : state.Sustains .processExit) :
    state.pumpExited.FlagsSound := by
  simp only [Sustains] at sustained
  rcases resolve_eq (state.tell .exited) false with
    ⟨startup, reconnect, resolved, startupIs, reconnectIs⟩
  simp only [FeishuConnection.pumpExited, resolved, handleProcessExit]
  simp only [tell, reportState] at startupIs reconnectIs ⊢
  clear resolved
  have told := sound.told polling .exited
  rcases sound
  by_cases gone : state.process = none
  · simp only [gone, Option.map_none, if_true]
    constructor <;> grind [Reconnect.over, Reconnect.replacing]
  · have current : (state.process.map fun _ => Link.exited) ≠ none := by
      simpa using gone
    simp only [current]
    by_cases wasReady : state.ready = true
    · by_cases reported : state.disconnectedReported = true
      · grind
      · simp only [wasReady, reported]
        constructor <;> grind [Reconnect.over, Reconnect.replacing]
    · simp only [wasReady]
      constructor <;> grind [Reconnect.over, Reconnect.replacing]

/-! ## Steps of the other coroutines -/

theorem FlagsSound.callbackEnded (sound : state.FlagsSound)
    (stepped : state.step .callbackEnded = some target) :
    target.FlagsSound := by
  simp only [step] at stepped
  split at stepped
  · cases stepped
  · rcases sound
    split at stepped
    · cases stepped
      constructor <;> grind [Reconnect.over, Reconnect.replacing]
    · cases stepped
      simp only [scheduleReconnect]
      split
      · constructor <;> grind [Reconnect.over, Reconnect.replacing]
      · constructor <;> grind [Reconnect.over, Reconnect.replacing]
    · cases stepped

theorem FlagsSound.startEnded {timedOut : Bool} (sound : state.FlagsSound)
    (stepped : state.step (.startEnded timedOut) = some target) :
    target.FlagsSound := by
  simp only [step] at stepped
  split at stepped
  · cases stepped
  · rcases sound
    split at stepped
    · cases stepped
      constructor <;> grind
    · cases stepped
      constructor <;> grind
    · split at stepped
      · cases stepped
        constructor <;> grind
      · cases stepped
    · cases stepped

theorem FlagsSound.registerEnded {raised : Bool} (sound : state.FlagsSound)
    (stepped : state.step (.registerEnded raised) = some target) :
    target.FlagsSound := by
  simp only [step] at stepped
  split at stepped
  · cases stepped
  · rcases sound
    split at stepped
    · split at stepped
      · cases stepped
        constructor <;> grind
      · cases stepped
        constructor <;> grind
    · cases stepped

theorem FlagsSound.nextAttempt {later : Nat} (sound : state.FlagsSound)
    (replacing : state.reconnect.replacing = true) (atEnd : later = 0 →
      state.process = none ∧ state.pump = .ended ∧ state.ready = false) :
    (state.nextAttempt later).FlagsSound := by
  rcases sound
  cases later with
  | succ later =>
    constructor <;> grind [FeishuConnection.nextAttempt, Reconnect.over, Reconnect.replacing]
  | zero =>
    rcases atEnd rfl with ⟨gone, ended, unready⟩
    simp only [FeishuConnection.nextAttempt, reportState]
    split
    · constructor <;> grind [Reconnect.over, Reconnect.replacing]
    · constructor <;> grind [Reconnect.over, Reconnect.replacing]

theorem FlagsSound.stopped (sound : state.FlagsSound)
    (replacing : state.reconnect.replacing = true) :
    state.stopped.FlagsSound := by
  have notOver := Reconnect.over_of_replacing replacing
  rcases sound
  simp only [FeishuConnection.stopped]
  constructor <;> grind [Reconnect.over, Reconnect.replacing]

theorem FlagsSound.stopEnded {spawned : Bool} (sound : state.FlagsSound)
    (stepped : state.step (.stopEnded spawned) = some target) :
    target.FlagsSound := by
  simp only [step] at stepped
  split at stepped
  · cases stepped
  · split at stepped
    · next later stopping =>
        rcases sound
        split at stepped
        · cases stepped
          simp only [FeishuConnection.stopped]
          constructor <;> grind [Reconnect.over, Reconnect.replacing]
        · cases stepped
          simp only [FeishuConnection.stopped]
          constructor <;> grind [Reconnect.over, Reconnect.replacing]
    · next later cleaning =>
        cases stepped
        have replacing : state.reconnect.replacing = true := by
          rw [cleaning]
          rfl
        apply (sound.stopped replacing).nextAttempt replacing
        intro last
        exact ⟨rfl, rfl, rfl⟩
    · cases stepped

theorem FlagsSound.stopRaised (sound : state.FlagsSound) (sustained : state.Sustains .stopRaised)
    (stepped : state.step .stopRaised = some target) : target.FlagsSound := by
  simp only [step] at stepped
  simp only [Sustains] at sustained
  split at stepped
  · cases stepped
  · split at stepped
    · next later joined stopping =>
        cases stepped
        apply sound.nextAttempt
        · rw [stopping]
          rfl
        · intro last
          subst last
          cases joined <;> simp_all
    · next later joined cleaning =>
        cases stepped
        apply sound.nextAttempt
        · rw [cleaning]
          rfl
        · intro last
          subst last
          cases joined <;> simp_all
    · cases stepped

theorem FlagsSound.withReconnect {next : Reconnect} (sound : state.FlagsSound)
    (busy : state.reconnect ≠ .idle)
    (stillOver : next.over = true → state.reconnect.over = true) (stillPresent :
      next.replacing = false → state.reconnect.replacing = false)
    (reporting : next = .reporting → state.exhausted = true)
    (idle : next = .idle → state.exhausted = true) :
    FlagsSound { state with reconnect := next } :=
  { sound with
    unregistered early := absurd (sound.unregistered early).1 busy
    unreadyReported registered ended := sound.unreadyReported registered (stillOver ended)
    readyUp replacing := sound.readyUp (stillPresent replacing)
    pumped replacing := sound.pumped (stillPresent replacing)
    endedUnready replacing := sound.endedUnready (stillPresent replacing)
    reportingExhausted := reporting
    endedExhausted atRest _ _ := idle atRest }

theorem FlagsSound.joined {next : Reconnect} (sound : state.FlagsSound)
    (busy : state.reconnect ≠ .idle) (replacing : next.replacing = true) :
    FlagsSound { state with process := none, reconnect := next } := by
  have present {P : Prop} (kept : next.replacing = false) : P := by
    rw [replacing] at kept
    cases kept
  have notOver := Reconnect.over_of_replacing replacing
  exact
    { sound with
      unregistered := fun early => absurd (sound.unregistered early).1 busy
      unreadyReported := fun _ ended => by
        rw [notOver] at ended
        cases ended
      readyUp := present
      pumped := present
      endedUnready := present
      reportingExhausted := by
        rintro rfl
        cases replacing
      endedExhausted := by
        rintro rfl
        cases replacing }

theorem FlagsSound.reconnectWoken (sound : state.FlagsSound)
    (stepped : state.step .reconnectWoken = some target) :
    target.FlagsSound := by
  simp only [step] at stepped
  split at stepped
  · cases stepped
  · split at stepped
    · next later sleeping =>
        cases stepped
        apply sound.withReconnect
        · rw [sleeping]
          exact nofun
        · exact nofun
        · exact nofun
        · exact nofun
        · exact nofun
    · cases stepped

theorem FlagsSound.processJoined (sound : state.FlagsSound)
    (stepped : state.step .processJoined = some target) :
    target.FlagsSound := by
  simp only [step] at stepped
  split at stepped
  · cases stepped
  · split at stepped
    · next later stopping =>
        cases stepped
        apply sound.joined _ rfl
        rw [stopping]
        exact nofun
    · next later cleaning =>
        cases stepped
        apply sound.joined _ rfl
        rw [cleaning]
        exact nofun
    · cases stepped

theorem FlagsSound.failureReported (sound : state.FlagsSound)
    (stepped : state.step .failureReported = some target) :
    target.FlagsSound := by
  simp only [step] at stepped
  split at stepped
  · cases stepped
  · split at stepped
    · next reporting =>
        cases stepped
        apply sound.withReconnect
        · rw [reporting]
          exact nofun
        · intro _
          rw [reporting]
          rfl
        · intro _
          rw [reporting]
          rfl
        · exact nofun
        · exact fun _ => sound.reportingExhausted reporting
    · cases stepped

theorem FlagsSound.cleaning {later : Nat} (sound : state.FlagsSound)
    (busy : state.reconnect ≠ .idle) :
    FlagsSound { state with reconnect := .cleaning later false } := by
  apply sound.withReconnect busy
  · exact nofun
  · exact nofun
  · exact nofun
  · exact nofun

theorem FlagsSound.attemptEnded {timedOut : Bool} (sound : state.FlagsSound)
    (stepped : state.step (.attemptEnded timedOut) = some target) :
    target.FlagsSound := by
  simp only [step] at stepped
  split at stepped
  · cases stepped
  · split at stepped
    · rcases sound
      cases stepped
      simp only [endReconnect, scheduleReconnect]
      split
      · constructor <;> grind [Reconnect.over, Reconnect.replacing]
      · constructor <;> grind [Reconnect.over, Reconnect.replacing]
    · next later starting =>
        cases stepped
        apply sound.cleaning
        rw [starting]
        exact nofun
    · next later starting =>
        split at stepped
        · cases stepped
          apply sound.cleaning
          rw [starting]
          exact nofun
        · cases stepped
    · cases stepped

/-! ## Runs -/

theorem step_flagsSound {label : Label} (sound : state.FlagsSound)
    (sustained : state.Sustains label)
    (stepped : state.step label = some target) : target.FlagsSound := by
  cases label with
  | readyMessage =>
    simp only [step, whilePolling] at stepped
    split at stepped
    · cases stepped
    · split at stepped
      · next polling =>
          cases stepped
          exact sound.pumpReady polling
      · cases stepped
  | disconnectedMessage =>
    simp only [step, whilePolling] at stepped
    split at stepped
    · cases stepped
    · split at stepped
      · next polling =>
          cases stepped
          exact sound.pumpDisconnected polling sustained
      · cases stepped
  | processExit =>
    simp only [step, whilePolling] at stepped
    split at stepped
    · cases stepped
    · split at stepped
      · next polling =>
          cases stepped
          exact sound.pumpExited polling sustained
      · cases stepped
  | callbackEnded => exact sound.callbackEnded stepped
  | startEnded timedOut => exact sound.startEnded stepped
  | registerEnded raised => exact sound.registerEnded stepped
  | reconnectWoken => exact sound.reconnectWoken stepped
  | processJoined => exact sound.processJoined stepped
  | stopEnded spawned => exact sound.stopEnded stepped
  | stopRaised => exact sound.stopRaised sustained stepped
  | attemptEnded timedOut => exact sound.attemptEnded stepped
  | failureReported => exact sound.failureReported stepped

theorem started_flagsSound : started.FlagsSound := by
  constructor <;> simp [started]

theorem reaches_flagsSound (reached : feishuConnectionMachine.Reaches Sustains state) :
    state.FlagsSound := by
  refine Machine.Reaches.invariant ?_ ?_ reached
  · intro state initial
    change state = started at initial
    subst initial
    exact started_flagsSound
  · intro state label target _ sound sustained stepped
    exact step_flagsSound sound sustained stepped

theorem FlagsSound.supervised (sound : state.FlagsSound) :
    state.Supervised := by
  intro started everReady exited
  by_cases idle : state.reconnect = .idle
  · right
    have kept : state.reconnect.replacing = false := by
      rw [idle]
      rfl
    have ended : state.pump = .ended := by
      rcases exited with ended | gone
      · exact ended
      · exact sound.pumped kept gone
    have unready := sound.endedUnready kept ended
    have registered : state.startup = .registered := by
      by_contra unregistered
      have ready := (sound.unregistered unregistered).2.2.2 everReady
      rw [unready] at ready
      cases ready
    have ceased : state.reconnect.over = true := by
      rw [idle]
      rfl
    have reported : state.disconnectedReported = true := by
      rcases sound.unreadyReported registered ceased with ready | reported
      · rw [unready] at ready
        cases ready
      · exact reported
    constructor
    · exact sound.endedExhausted idle ended everReady
    · rw [sound.owner registered, reported]
      rfl
  · exact .inl idle

theorem FlagsSound.reportedTruly (sound : state.FlagsSound) :
    state.ReportedTruly := by
  rintro ⟨registered, idle, -⟩
  rw [sound.owner registered, Option.some.injEq]
  have readyUp : state.ready = true ↔ state.process = some .up := by
    apply sound.readyUp
    rw [idle]
    rfl
  have ceased : state.reconnect.over = true := by
    rw [idle]
    rfl
  rcases sound.unreadyReported registered ceased with ready | reported
  · rw [sound.readyUnreported ready, decide_eq_true (readyUp.mp ready)]
    rfl
  · have unready : state.ready ≠ true := by
      intro ready
      have unreported := sound.readyUnreported ready
      rw [reported] at unreported
      cases unreported
    rw [reported, decide_eq_false fun up => unready (readyUp.mpr up)]
    rfl

/--
In the runs that lose no report and no retry, a bot that was ready is
supervised, and its owner knows at rest whether it is up.
-/
theorem feishuRuns_supervised
    {state : FeishuConnection}
    (reached : feishuConnectionMachine.Reaches Sustains state) :
    state.Supervised ∧ state.ReportedTruly :=
  ⟨(reaches_flagsSound reached).supervised, (reaches_flagsSound reached).reportedTruly⟩

/-- `start_bot` returns after the first child became ready. -/
def startLabels : List Label := [.readyMessage, .startEnded false, .registerEnded false]

/-- A plain exit is told, and another child becomes ready. -/
theorem exit_retried : ∃ state, feishuConnectionMachine.runGuarded Sustains started (startLabels ++
            [.processExit, .callbackEnded, .reconnectWoken,
              .processJoined, .stopEnded true, .readyMessage,
              .attemptEnded false, .callbackEnded]) = some state ∧
        state.Quiescent ∧ state.owner = some true ∧
        state.Supervised ∧ state.ReportedTruly := by
  have told {state : FeishuConnection}
      (evaluated : feishuConnectionMachine.runGuarded Sustains started
            (startLabels ++ [.processExit, .callbackEnded, .reconnectWoken,
                .processJoined, .stopEnded true, .readyMessage,
                .attemptEnded false, .callbackEnded]) = some state) :
      state.Supervised ∧ state.ReportedTruly :=
    feishuRuns_supervised (Machine.Reaches.runGuarded (.start rfl) evaluated)
  refine ⟨_, rfl, ⟨rfl, rfl, .inl rfl⟩, rfl, ?_⟩
  exact told rfl

/--
An exit after a disconnect notice is not retried.  A notice before the
registration is not told: the owner takes the bot for connected.
-/
theorem exit_after_notice_not_retried : (∃ state,
      feishuConnectionMachine.run started (startLabels ++
            [.disconnectedMessage, .callbackEnded, .processExit]) =
          some state ∧
        ¬ state.Supervised) ∧
    (∃ state, feishuConnectionMachine.run started
          [.readyMessage, .startEnded false, .disconnectedMessage,
            .callbackEnded, .registerEnded false] = some state ∧
        ¬ state.ReportedTruly) := by
  constructor
  · refine ⟨_, rfl, ?_⟩
    intro supervised
    rcases supervised (by decide) rfl (.inl rfl) with retried | ⟨used, -⟩
    · exact retried rfl
    · cases used
  · refine ⟨_, rfl, ?_⟩
    intro truly
    cases truly ⟨rfl, rfl, .inl rfl⟩

end FeishuConnection

end TurningGood.Channels
