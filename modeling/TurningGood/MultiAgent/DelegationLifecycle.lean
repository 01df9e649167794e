import TurningGood.MultiAgent.DelegatedRun
import Mathlib.Tactic.ByContra

/-!
# The end of a delegated run

The exits of the loop finish an accepted run through its invocation, which
knows the run only once `delegate` has returned.  A cancellation inside
`delegate` is therefore never finished, a sink that fails at the end of the
run leads to a second end and keeps the tables of the coordinator, and the
events of tasks that outlive the run leave new entries in them.

Apart from these the run ends once, and nothing is kept of it.
-/

namespace TurningGood.MultiAgent

open TurningGood.Foundation

/-- The sink raised an exception. -/
def SinkOutcome.isRaised : SinkOutcome → Bool
  | raised _ => true
  | delivered | cancelled _ => false

namespace DelegatedTurn

variable {turn target : DelegatedTurn}

/-- The first end of the run is awaited. -/
def reportsEnd (turn : DelegatedTurn) : Bool :=
  match turn.thread with
  | .delegating _ .concluding | .finalizing _ false => true
  | _ => false

/--
Nothing cuts the run off: no call of the coordinator is cancelled, the sink
takes the first end of the run, the loop leaves an accepted run through its
finish, and no task of the turn leaves an entry behind after the release.
-/
def endsOrderly (turn : DelegatedTurn) : DelegateLabel → Prop
  | .emitted outcome =>
    outcome.isCancelled = false ∧ (turn.reportsEnd = true → outcome = .delivered)
  | .workersCancelled => False
  | .leaveUnfinished => turn.accepted = false
  | .waitingEmitted _ outcome =>
    turn.records.runKey = false → outcome.isRaised = false
  | .orphanEvent node outcome =>
    turn.records.runKey = false → outcome.isRaised = false ∧
        (outcome = .delivered → node.status.isTerminal = false)
  | _ => True

instance (turn : DelegatedTurn) (label : DelegateLabel) :
    Decidable (turn.endsOrderly label) :=
  match label with
  | .emitted outcome =>
    inferInstanceAs <| Decidable <| outcome.isCancelled = false ∧
        (turn.reportsEnd = true → outcome = .delivered)
  | .workersCancelled => inferInstanceAs (Decidable False)
  | .leaveUnfinished => inferInstanceAs (Decidable (turn.accepted = false))
  | .waitingEmitted _ outcome =>
    inferInstanceAs <| Decidable <| turn.records.runKey = false → outcome.isRaised = false
  | .orphanEvent node outcome =>
    inferInstanceAs <| Decidable <| turn.records.runKey = false →
        outcome.isRaised = false ∧ (outcome = .delivered → node.status.isTerminal = false)
  | .otherRow _ | .invoke _ | .workerEvent _ _ | .collected _ _ _ _
  | .workersRaise | .setWaiting _ | .checkContext _ | .finish _ _ =>
    .isTrue trivial

/-! ## The invariant -/

/-- The coordinator knows nothing of the run. -/
structure Untouched (turn : DelegatedTurn) : Prop where
  records : turn.records = {}
  calls : turn.terminalCalls = []
  unknown : turn.knownRun = false

/-- The run of the tables has not ended. -/
structure Running (turn : DelegatedTurn) (run : MultiAgentRun) : Prop where
  accepted : turn.accepted = true
  runKey : turn.records.runKey = true
  entry : turn.records.requestEntry = some run
  calls : turn.terminalCalls = []
  terminalRun : turn.records.terminalRun = false

/-- The run of the tables has ended once. -/
structure EndedOnce (turn : DelegatedTurn) (run : MultiAgentRun) : Prop where
  runKey : turn.records.runKey = true
  entry : turn.records.requestEntry = some run
  ended : run.status.isTerminal = true
  calls : turn.terminalCalls.length = 1

/-- One end was emitted for the run, and nothing of it is kept. -/
structure Concluded (turn : DelegatedTurn) : Prop where
  oneEnd : turn.terminalCalls.length = 1
  released : turn.records = {}

/-- What the loop knows of an accepted run. -/
structure Handed (turn : DelegatedTurn) : Prop where
  known : turn.knownRun = true
  entry : (∃ run, turn.EndedOnce run) ∨ ∃ run, turn.Running run ∧ run.status.isTerminal = false

/-- What is known of the run while `delegate` awaits something. -/
def pointStatus (run : MultiAgentRun) : DelegatePoint → Prop
  | .queued | .nodes _ _ | .started | .working =>
    run.status.isTerminal = false
  | .concluding | .failing => run.status.isTerminal = true

/-- What holds of the run, for what the parent turn awaits. -/
def ThreadOrderly (turn : DelegatedTurn) : Thread → Prop
  | .loop =>
    (turn.accepted = false → turn.Untouched) ∧ (turn.accepted = true → turn.Handed)
  | .delegating run point => turn.Running run ∧ pointStatus run point
  | .checking run =>
    turn.Running run ∧ turn.knownRun = true ∧ run.status.isTerminal = true
  | .finalizing run false =>
    turn.Running run ∧ run.status.isTerminal = true
  | .finalizing _ true => False
  | .left => turn.accepted = true → turn.Concluded

/-- The invariant of the turns whose run is not cut off. -/
structure Orderly (turn : DelegatedTurn) : Prop where
  waiting : ∀ run ∈ turn.waitingEvents, run.status.isTerminal = false
  thread : turn.ThreadOrderly turn.thread

/-! ## Events that end nothing -/

/-- Two states between which the run has not ended. -/
structure Quiet (turn target : DelegatedTurn) : Prop where
  accepted : target.accepted = turn.accepted
  knownRun : target.knownRun = turn.knownRun
  runKey : target.records.runKey = turn.records.runKey
  requestEntry : target.records.requestEntry = turn.records.requestEntry
  terminalRun : target.records.terminalRun = turn.records.terminalRun
  calls : target.terminalCalls = turn.terminalCalls
  unheld : turn.records.runKey = false → target.records = turn.records

theorem Quiet.running (quiet : turn.Quiet target) {run : MultiAgentRun}
    (running : turn.Running run) : target.Running run where
  accepted := quiet.accepted.trans running.accepted
  runKey := quiet.runKey.trans running.runKey
  entry := quiet.requestEntry.trans running.entry
  calls := quiet.calls.trans running.calls
  terminalRun := quiet.terminalRun.trans running.terminalRun

theorem Quiet.endedOnce (quiet : turn.Quiet target) {run : MultiAgentRun}
    (ended : turn.EndedOnce run) : target.EndedOnce run where
  runKey := quiet.runKey.trans ended.runKey
  entry := quiet.requestEntry.trans ended.entry
  ended := ended.ended
  calls := by rw [quiet.calls]; exact ended.calls

theorem ThreadOrderly.quiet (quiet : turn.Quiet target) {thread : Thread}
    (orderly : turn.ThreadOrderly thread) : target.ThreadOrderly thread := by
  have released : turn.records = {} → target.records = {} := by
    intro released
    rw [quiet.unheld (by rw [released])]
    exact released
  cases thread with
  | loop =>
    rcases orderly with ⟨fresh, handed⟩
    refine ⟨?_, ?_⟩
    · rw [quiet.accepted]
      intro unaccepted
      rcases fresh unaccepted with ⟨records, calls, unknown⟩
      exact ⟨released records, quiet.calls.trans calls, quiet.knownRun.trans unknown⟩
    · rw [quiet.accepted]
      intro accepted
      rcases handed accepted with ⟨known, entry⟩
      refine ⟨quiet.knownRun.trans known, ?_⟩
      rcases entry with ⟨run, ended⟩ | ⟨run, running, active⟩
      · exact .inl ⟨run, quiet.endedOnce ended⟩
      · exact .inr ⟨run, quiet.running running, active⟩
  | delegating run point => exact ⟨quiet.running orderly.1, orderly.2⟩
  | checking run =>
    exact ⟨quiet.running orderly.1, quiet.knownRun.trans orderly.2.1, orderly.2.2⟩
  | finalizing run failing =>
    cases failing with
    | false => exact ⟨quiet.running orderly.1, orderly.2⟩
    | true => exact orderly
  | left =>
    intro accepted
    rcases orderly (quiet.accepted.symm.trans accepted) with ⟨oneEnd, records⟩
    exact ⟨by rw [quiet.calls]; exact oneEnd, released records⟩

section Events

variable (filter : EventFilter) {turn : DelegatedTurn}

variable {outcome : SinkOutcome} {run : MultiAgentRun}

theorem quiet_emitNode (run : MultiAgentRun) (node : MultiAgentNode)
    (late : turn.records.runKey = false → outcome.isRaised = false ∧
        (outcome = .delivered → node.status.isTerminal = false)) :
    turn.Quiet (turn.emitNode filter run node outcome) := by
  have beside := emitNode_beside filter turn run node outcome
  refine ⟨beside.accepted, beside.knownRun, beside.runKey,
    beside.requestEntry, emitNode_terminalRun filter turn run node outcome,
    emitNode_terminalCalls filter turn run node outcome, ?_⟩
  intro unheld
  rcases late unheld with ⟨unraised, active⟩
  rw [emitNode]
  split
  · rfl
  · cases outcome with
    | delivered =>
      exact turn.records.settleNode_delivered_of_active (active rfl)
    | raised => cases unraised
    | cancelled => rfl

theorem quiet_emitRun (active : run.status.isTerminal = false)
    (late : turn.records.runKey = false → outcome.isRaised = false) :
    turn.Quiet (turn.emitRun filter run outcome) := by
  have beside := emitRun_beside filter turn run outcome
  refine ⟨beside.accepted, beside.knownRun, beside.runKey,
    beside.requestEntry, emitRun_terminalRun_of_active filter turn active _,
    emitRun_terminalCalls_of_active filter turn active _, ?_⟩
  intro unheld
  rw [emitRun]
  split
  · rfl
  · cases outcome with
    | delivered =>
      exact turn.records.settleRun_delivered_of_active active
    | raised => cases late unheld
    | cancelled => rfl

theorem Running.emitRun (running : turn.Running run)
    (ended : run.status.isTerminal = true) (outcome : SinkOutcome) :
    (turn.emitRun filter run outcome).EndedOnce run := by
  have beside := emitRun_beside filter turn run outcome
  refine ⟨beside.runKey.trans running.runKey, beside.requestEntry.trans running.entry, ended, ?_⟩
  have called : turn.skipsRun run = false := by
    rw [skipsRun, running.terminalRun, Bool.and_false]
  rw [DelegatedTurn.emitRun,
    if_neg (by rw [called]; exact Bool.false_ne_true)]
  change (turn.terminalCalls ++ if _ then _ else _).length = 1
  rw [running.calls, if_pos ended]
  rfl

theorem Running.emitRunResult (running : turn.Running run)
    (uncancelled : outcome.isCancelled = false) :
    turn.emitRunResult run outcome = some (! outcome.isRaised) := by
  have called : turn.skipsRun run = false := by
    rw [skipsRun, running.terminalRun, Bool.and_false]
  cases outcome with
  | delivered => simp [DelegatedTurn.emitRunResult, called,
      SinkOutcome.isRaised]
  | raised => simp [DelegatedTurn.emitRunResult, called,
      SinkOutcome.isRaised]
  | cancelled => cases uncancelled

end Events

/-! ## One step -/

section Step

variable {filter : EventFilter} {turn : DelegatedTurn} {run : MultiAgentRun}

variable {target : DelegatedTurn} {outcome : SinkOutcome}

theorem Running.held (running : turn.Running run) {P : Prop} :
    turn.records.runKey = false → P := by
  intro unheld
  cases running.runKey.symm.trans unheld

theorem Running.replaced (running : turn.Running run) {after : MultiAgentRun}
    (accepted : target.accepted = turn.accepted)
    (calls : target.terminalCalls = turn.terminalCalls)
    (records : target.records = { turn.records with
      requestEntry := some after }) : target.Running after where
  accepted := accepted.trans running.accepted
  runKey := by rw [records]; exact running.runKey
  entry := by rw [records]
  calls := calls.trans running.calls
  terminalRun := by rw [records]; exact running.terminalRun

theorem Running.fails (running : turn.Running run) (after : MultiAgentRun) :
    (turn.delegateFails after).ThreadOrderly (turn.delegateFails after).thread :=
  ⟨running.replaced rfl rfl rfl, rfl⟩

theorem Running.awaitNodes (running : turn.Running run)
    (active : run.status.isTerminal = false) (nodes : List MultiAgentNode) :
    (turn.awaitNodes run nodes).ThreadOrderly (turn.awaitNodes run nodes).thread := by
  cases nodes with
  | cons node rest =>
    refine ⟨?_, active⟩
    exact ⟨running.accepted, running.runKey, running.entry, running.calls, running.terminalRun⟩
  | nil =>
    rw [DelegatedTurn.awaitNodes]
    split_ifs
    · exact running.fails run
    · exact ⟨running.replaced rfl rfl rfl, rfl⟩

theorem awaitNodes_waitingEvents (nodes : List MultiAgentNode) :
    (turn.awaitNodes run nodes).waitingEvents = turn.waitingEvents := by
  cases nodes with
  | cons node rest => rfl
  | nil =>
    rw [DelegatedTurn.awaitNodes]
    split_ifs <;> rfl

theorem orderly_loop_of_handed (accepted : target.accepted = true)
    (handed : target.Handed) : target.ThreadOrderly .loop := by
  refine ⟨?_, fun _ => handed⟩
  intro fresh
  cases accepted.symm.trans fresh

theorem EndedOnce.returns (ended : turn.EndedOnce run) (accepted : turn.accepted = true) :
    (turn.delegateReturns run).ThreadOrderly .loop := by
  refine orderly_loop_of_handed accepted ⟨rfl, .inl ⟨run, ?_⟩⟩
  exact ⟨ended.runKey, ended.entry, ended.ended, ended.calls⟩

theorem Running.delegateEmitted (running : turn.Running run)
    {point : DelegatePoint} (status : pointStatus run point)
    (uncancelled : outcome.isCancelled = false)
    (first : point = .concluding → outcome = .delivered)
    (stepped : turn.delegateEmitted filter run outcome point = some target) :
    target.ThreadOrderly target.thread ∧
      target.waitingEvents = turn.waitingEvents := by
  have beside := emitRun_beside filter turn run outcome
  have result := running.emitRunResult uncancelled
  have shown : (turn.emitRunResult run outcome).isNone = false := by
    rw [result]
    rfl
  cases point with
  | queued =>
    have after : (turn.emitRun filter run outcome).Running run :=
      (quiet_emitRun filter status running.held).running running
    simp only [DelegatedTurn.delegateEmitted, shown, Bool.false_eq_true, if_false] at stepped
    cases stepped
    split_ifs
    · exact ⟨after.fails run, beside.waitingEvents⟩
    · exact ⟨after.awaitNodes status _, (awaitNodes_waitingEvents _).trans beside.waitingEvents⟩
  | nodes node rest =>
    have after : (turn.emitNode filter run node outcome).Running run :=
      (quiet_emitNode filter run node running.held).running running
    simp only [DelegatedTurn.delegateEmitted, uncancelled, Bool.false_eq_true, if_false] at stepped
    cases stepped
    exact ⟨after.awaitNodes status _, (awaitNodes_waitingEvents _).trans
      (emitNode_beside filter turn run node outcome).waitingEvents⟩
  | started =>
    have after : (turn.emitRun filter run outcome).Running run :=
      (quiet_emitRun filter status running.held).running running
    simp only [DelegatedTurn.delegateEmitted, shown, Bool.false_eq_true, if_false] at stepped
    cases stepped
    split_ifs
    · exact ⟨after.fails run, beside.waitingEvents⟩
    · refine ⟨⟨?_, status⟩, beside.waitingEvents⟩
      exact ⟨after.accepted, after.runKey, after.entry, after.calls, after.terminalRun⟩
  | working => cases stepped
  | concluding =>
    cases first rfl
    have ended := running.emitRun filter status .delivered
    simp only [DelegatedTurn.delegateEmitted, result] at stepped
    cases stepped
    exact ⟨ended.returns (beside.accepted.trans running.accepted), beside.waitingEvents⟩
  | failing =>
    have ended := running.emitRun filter status outcome
    simp only [DelegatedTurn.delegateEmitted, result] at stepped
    cases stepped
    exact ⟨ended.returns (beside.accepted.trans running.accepted), beside.waitingEvents⟩

theorem Orderly.emitted (orderly : turn.Orderly) (uncancelled : outcome.isCancelled = false)
    (first : turn.reportsEnd = true → outcome = .delivered)
    (stepped : turn.emitted filter outcome = some target) : target.Orderly := by
  suffices after : target.ThreadOrderly target.thread ∧ target.waitingEvents = turn.waitingEvents by
    refine ⟨?_, after.1⟩
    rw [after.2]
    exact orderly.waiting
  have orderly := orderly.thread
  rw [reportsEnd] at first
  rw [DelegatedTurn.emitted] at stepped
  cases thread : turn.thread with
  | loop =>
    rw [thread] at stepped
    cases stepped
  | left =>
    rw [thread] at stepped
    cases stepped
  | delegating run point =>
    rw [thread] at orderly first stepped
    refine orderly.1.delegateEmitted orderly.2 uncancelled ?_ stepped
    rintro rfl
    exact first rfl
  | checking run =>
    rw [thread] at orderly stepped
    rcases orderly with ⟨running, known, ended⟩
    have after := running.emitRun filter ended outcome
    have beside := emitRun_beside filter turn run outcome
    simp only [running.emitRunResult uncancelled] at stepped
    cases stepped
    refine ⟨?_, beside.waitingEvents⟩
    refine orderly_loop_of_handed (beside.accepted.trans running.accepted)
      ⟨beside.knownRun.trans known, .inl ⟨run, ?_⟩⟩
    exact ⟨after.runKey, after.entry, after.ended, after.calls⟩
  | finalizing run failing =>
    rw [thread] at orderly first stepped
    cases failing with
    | true => exact orderly.elim
    | false =>
      rcases orderly with ⟨running, ended⟩
      cases first rfl
      have after := running.emitRun filter ended .delivered
      have beside := emitRun_beside filter turn run .delivered
      simp only [running.emitRunResult uncancelled] at stepped
      cases stepped
      exact ⟨fun _ => ⟨after.calls, rfl⟩, beside.waitingEvents⟩

theorem Running.collect (running : turn.Running run)
    (active : run.status.isTerminal = false) (nodes : List MultiAgentNode)
    (stopRequested deadlineExpired budgetError : Bool)
    (collected : turn.collect run nodes stopRequested deadlineExpired budgetError = target) :
    target.ThreadOrderly target.thread ∧
      target.waitingEvents = turn.waitingEvents := by
  rw [DelegatedTurn.collect] at collected
  split at collected
  · cases collected
    exact ⟨running.fails _, rfl⟩
  · have decided := conclude_spec { run with nodes } nodes
      stopRequested deadlineExpired budgetError
    split at decided
    · rename_i after conclusion
      rw [conclusion] at collected
      cases collected
      refine ⟨?_, rfl⟩
      refine orderly_loop_of_handed running.accepted
        ⟨rfl, .inr ⟨after, running.replaced rfl rfl rfl, ?_⟩⟩
      rw [decided.2]
      exact active
    · rename_i after conclusion
      rw [conclusion] at collected
      cases collected
      exact ⟨⟨running.replaced rfl rfl rfl, decided.2⟩, rfl⟩

theorem Untouched.delegate (untouched : turn.Untouched) (active : run.status.isTerminal = false) :
    (turn.delegate run).ThreadOrderly (turn.delegate run).thread := by
  refine ⟨⟨rfl, rfl, rfl, untouched.calls, ?_⟩, active⟩
  change turn.records.terminalRun = false
  rw [untouched.records]

theorem Handed.finish (handed : turn.Handed) (outcome : ParentOutcome) (deadlineExpired : Bool)
    (finished : turn.finishParentTurn outcome deadlineExpired = target) :
    target.ThreadOrderly target.thread ∧
      target.waitingEvents = turn.waitingEvents := by
  rw [DelegatedTurn.finishParentTurn, handed.known] at finished
  rcases handed.entry with ⟨run, ended⟩ | ⟨run, running, active⟩
  · rw [ended.runKey, ended.entry] at finished
    have released := finalize_of_ended turn ended.ended outcome
      deadlineExpired
    cases released.symm.trans finished
    exact ⟨fun _ => ⟨ended.calls, rfl⟩, rfl⟩
  · rw [running.runKey, running.entry] at finished
    rcases finalize_of_active turn active outcome deadlineExpired with ⟨decided, finalized⟩
    cases finalized.symm.trans finished
    refine ⟨⟨running.replaced rfl rfl rfl, ?_⟩, rfl⟩
    cases decided <;> rfl

theorem Untouched.finish (untouched : turn.Untouched)
    (unaccepted : turn.accepted = false) (outcome : ParentOutcome)
    (deadlineExpired : Bool)
    (finished : turn.finishParentTurn outcome deadlineExpired = target) :
    target.ThreadOrderly target.thread ∧
      target.waitingEvents = turn.waitingEvents := by
  rw [DelegatedTurn.finishParentTurn, untouched.unknown] at finished
  cases finished
  refine ⟨?_, rfl⟩
  intro accepted
  cases unaccepted.symm.trans accepted

theorem Orderly.checkParentContext (orderly : turn.Orderly)
    (thread : turn.thread = .loop) (exceeded : Bool) :
    (turn.checkParentContext exceeded).Orderly := by
  have loop := orderly.thread
  rw [thread] at loop
  rw [DelegatedTurn.checkParentContext]
  split
  · rename_i found known _ entry
    split_ifs with remains
    · exact orderly
    · have active : found.status.isTerminal = false := by
        rw [not_or] at remains
        simpa using remains.1
      refine ⟨orderly.waiting, ?_⟩
      cases accepted : turn.accepted with
      | false => cases known.symm.trans (loop.1 accepted).unknown
      | true =>
        rcases (loop.2 accepted).entry with ⟨run, ended⟩ | ⟨run, running, -⟩
        · cases entry.symm.trans ended.entry
          cases active.symm.trans ended.ended
        · exact ⟨running.replaced rfl rfl rfl, known, rfl⟩
  · exact orderly

theorem Orderly.setWaiting (orderly : turn.Orderly)
    (thread : turn.thread = .loop) (waiting : Bool) :
    (turn.setWaiting waiting).Orderly := by
  have loop := orderly.thread
  rw [thread] at loop
  rw [DelegatedTurn.setWaiting]
  split
  · rename_i found known _ entry
    generalize chosen : (if waiting then RunStatus.waiting else .running) =
      status
    have stillActive : status.isTerminal = false := by
      subst chosen
      cases waiting <;> rfl
    dsimp only
    split_ifs with remains
    · exact orderly
    · have active : found.status.isTerminal = false := by
        rw [not_or] at remains
        simpa using remains.1
      refine ⟨?_, ?_⟩
      · intro other member
        rcases List.mem_append.mp member with old | new
        · exact orderly.waiting other old
        · rw [List.mem_singleton.mp new]
          exact stillActive
      · change ThreadOrderly _ turn.thread
        rw [thread]
        cases accepted : turn.accepted with
        | false => cases known.symm.trans (loop.1 accepted).unknown
        | true =>
          rcases (loop.2 accepted).entry with ⟨run, ended⟩ | ⟨run, running, -⟩
          · cases entry.symm.trans ended.entry
            cases active.symm.trans ended.ended
          · exact orderly_loop_of_handed accepted ⟨known, .inr ⟨{ found with status },
                running.replaced rfl rfl rfl, stillActive⟩⟩
  · exact orderly

theorem Orderly.waitingEmitted (orderly : turn.Orderly) {index : Nat}
    (pending : turn.waitingEvents[index]? = some run)
    (late : turn.records.runKey = false → outcome.isRaised = false) :
    ({ turn with
        waitingEvents := turn.waitingEvents.eraseIdx index
      }.emitRun filter run outcome).Orderly := by
  have active := orderly.waiting run (List.mem_of_getElem? pending)
  generalize earlier : { turn with
    waitingEvents := turn.waitingEvents.eraseIdx index } = before
  have quiet : turn.Quiet before := by
    subst earlier
    exact ⟨rfl, rfl, rfl, rfl, rfl, rfl, fun _ => rfl⟩
  have thread : before.ThreadOrderly before.thread := by
    subst earlier
    exact orderly.thread.quiet quiet
  have unheld : before.records.runKey = false → outcome.isRaised = false := by
    subst earlier
    exact late
  have beside := emitRun_beside filter before run outcome
  refine ⟨?_, ?_⟩
  · rw [beside.waitingEvents]
    subst earlier
    intro other still
    exact orderly.waiting other (List.mem_of_mem_eraseIdx still)
  · rw [beside.thread]
    exact thread.quiet (quiet_emitRun filter active unheld)

theorem Orderly.emitNode (orderly : turn.Orderly) (run : MultiAgentRun)
    (node : MultiAgentNode) (late : turn.records.runKey = false → outcome.isRaised = false ∧
        (outcome = .delivered → node.status.isTerminal = false)) :
    (turn.emitNode filter run node outcome).Orderly := by
  have beside := emitNode_beside filter turn run node outcome
  refine ⟨?_, ?_⟩
  · rw [beside.waitingEvents]
    exact orderly.waiting
  · rw [beside.thread]
    exact orderly.thread.quiet (quiet_emitNode filter run node late)

theorem Orderly.working (orderly : turn.Orderly) (working : turn.workingRun = some run) :
    turn.Running run ∧ run.status.isTerminal = false := by
  have orderly := orderly.thread
  rw [workingRun] at working
  split at working
  · rename_i found thread
    cases working
    rw [thread] at orderly
    exact orderly
  · cases working

theorem Orderly.step (runId parentRequestId : String) {label : DelegateLabel}
    (orderly : turn.Orderly) (allowed : turn.endsOrderly label) (stepped :
      turn.step filter runId parentRequestId label = some target) :
    target.Orderly := by
  cases label with
  | otherRow row =>
    obtain ⟨-, same⟩ := Option.ite_none_right_eq_some.mp stepped
    cases same
    have quiet : turn.Quiet { turn with log := turn.log ++ [row] } :=
      ⟨rfl, rfl, rfl, rfl, rfl, rfl, fun _ => rfl⟩
    exact ⟨orderly.waiting, orderly.thread.quiet quiet⟩
  | invoke request =>
    obtain ⟨thread, same⟩ := Option.ite_none_right_eq_some.mp stepped
    have loop := orderly.thread
    rw [thread] at loop
    split at same
    · rename_i request fresh
      cases same
      exact ⟨orderly.waiting, (loop.1 fresh).delegate rfl⟩
    · cases same
      exact orderly
  | emitted outcome => exact orderly.emitted allowed.1 allowed.2 stepped
  | workerEvent node outcome =>
    rcases Option.map_eq_some_iff.mp stepped with ⟨run, working, rfl⟩
    exact orderly.emitNode run node (orderly.working working).1.held
  | collected nodes stopRequested deadlineExpired budgetError =>
    rcases Option.map_eq_some_iff.mp stepped with ⟨run, working, same⟩
    rcases orderly.working working with ⟨running, active⟩
    rcases running.collect active nodes _ _ _ same with ⟨thread, waiting⟩
    exact ⟨by rw [waiting]; exact orderly.waiting, thread⟩
  | workersRaise =>
    rcases Option.map_eq_some_iff.mp stepped with ⟨run, working, rfl⟩
    rcases orderly.working working with ⟨running, active⟩
    refine ⟨orderly.waiting, ?_⟩
    refine orderly_loop_of_handed running.accepted ⟨?_, .inr ⟨run, ?_, active⟩⟩
    · change turn.records.requestEntry.isSome = true
      rw [running.entry]
      rfl
    · exact ⟨running.accepted, running.runKey, running.entry, running.calls, running.terminalRun⟩
  | workersCancelled => exact allowed.elim
  | orphanEvent node outcome =>
    rcases Option.map_eq_some_iff.mp stepped with ⟨run, -, rfl⟩
    exact orderly.emitNode run node allowed
  | setWaiting waiting =>
    obtain ⟨thread, same⟩ := Option.ite_none_right_eq_some.mp stepped
    cases same
    exact orderly.setWaiting thread waiting
  | waitingEmitted index outcome =>
    rcases Option.map_eq_some_iff.mp stepped with ⟨run, pending, rfl⟩
    exact orderly.waitingEmitted pending allowed
  | checkContext exceeded =>
    obtain ⟨thread, same⟩ := Option.ite_none_right_eq_some.mp stepped
    cases same
    exact orderly.checkParentContext thread exceeded
  | finish outcome deadlineExpired =>
    obtain ⟨thread, same⟩ := Option.ite_none_right_eq_some.mp stepped
    have loop := orderly.thread
    rw [thread] at loop
    have finished := Option.some.inj same
    suffices after : target.ThreadOrderly target.thread ∧
        target.waitingEvents = turn.waitingEvents by
      exact ⟨by rw [after.2]; exact orderly.waiting, after.1⟩
    cases accepted : turn.accepted with
    | false =>
      exact (loop.1 accepted).finish accepted outcome _ finished
    | true => exact (loop.2 accepted).finish outcome _ finished
  | leaveUnfinished =>
    obtain ⟨thread, same⟩ := Option.ite_none_right_eq_some.mp stepped
    cases same
    refine ⟨orderly.waiting, ?_⟩
    intro accepted
    cases accepted.symm.trans allowed

end Step

end DelegatedTurn

/--
If nothing cuts it off, an accepted run has ended with exactly one terminal
event once the loop has left, and the coordinator holds nothing of it.
-/
theorem delegated_run_concluded
    {filter : EventFilter} {runId parentRequestId : String}
    {turn : DelegatedTurn}
    (reached : (delegatedTurns filter runId parentRequestId).Reaches DelegatedTurn.endsOrderly turn)
    (left : turn.thread = .left) (accepted : turn.accepted = true) :
    turn.Concluded := by
  have orderly : turn.Orderly := by
    refine reached.invariant ?_ ?_
    · rintro start ⟨-, log, rfl, -⟩
      refine ⟨fun _ member => absurd member List.not_mem_nil, ?_, ?_⟩
      · exact fun _ => ⟨rfl, rfl, rfl⟩
      · intro fresh
        cases fresh
    · intro state label target _ orderly allowed stepped
      exact orderly.step runId parentRequestId allowed stepped
  have thread := orderly.thread
  rw [left] at thread
  exact thread accepted

/-- A run of one worker that the loop completes. -/
theorem delegated_run_concluded_completed : ∃ turn : DelegatedTurn,
      turn.thread = .left ∧ turn.returned = some .completed ∧
        turn.Concluded := by
  let filter : EventFilter := { safeTaskLabel := id, safeError := id }
  let node : MultiAgentNode := {
    nodeId := "worker-1"
    role := "review"
    status := .completed
    content := some "done" }
  have evaluated :
      (delegatedTurns filter "run" "request").runGuarded DelegatedTurn.endsOrderly (.start [])
        [.invoke (some { strategy := .fanOutFanIn, roles := ["review"] }),
          .emitted .delivered, .emitted .delivered, .emitted .delivered,
          .workerEvent node .delivered,
          .collected [node] false false false,
          .finish .completed false, .emitted .delivered] = some _ := rfl
  refine ⟨_, ?_, ?_, delegated_run_concluded (.runGuarded (.start ?_) evaluated) ?_ ?_⟩
  · rfl
  · rfl
  · exact ⟨by decide, [], rfl, fun _ member => absurd member List.not_mem_nil⟩
  · rfl
  · rfl

/--
A turn that is cancelled while the workers run leaves its run behind: the
invocation does not know it, no terminal event is emitted, and its entries
stay in the tables of the coordinator.
-/
theorem cancelled_delegation_not_concluded : ∃ turn,
      (delegatedTurns { safeTaskLabel := id, safeError := id }
        "run" "request").Reachable turn ∧
        turn.thread = .left ∧ turn.accepted = true ∧
        turn.terminalCalls = [] ∧ turn.records.runKey = true ∧
        ¬ turn.Concluded := by
  have evaluated :
      (delegatedTurns { safeTaskLabel := id, safeError := id }
        "run" "request").run (.start [])
        [.invoke (some { strategy := .fanOutFanIn, roles := ["review"] }),
          .emitted .delivered, .emitted .delivered, .emitted .delivered,
          .workerEvent {
            nodeId := "worker-1"
            role := "review"
            status := .cancelled
            error := some "Worker 已取消" } .delivered,
          .workersCancelled, .finish .cancelled false] = some _ := rfl
  refine ⟨_, .run (.start ?_) evaluated, ?_, ?_, ?_, ?_, ?_⟩
  · exact ⟨by decide, [], rfl, fun _ member => absurd member List.not_mem_nil⟩
  · rfl
  · rfl
  · rfl
  · rfl
  · intro concluded
    exact absurd concluded.oneEnd (by decide)

end TurningGood.MultiAgent
