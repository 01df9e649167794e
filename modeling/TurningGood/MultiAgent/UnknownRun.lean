import TurningGood.MultiAgent.DelegatedRun

/-!
# A run that its invocation does not know

The invocation learns its run when `delegate` returns.  Until then nothing
ends the run, and when a `CancelledError` leaves `delegate` instead, the exits
of the loop leave the run as it is.
-/

namespace TurningGood.MultiAgent

open TurningGood.Foundation

/-- A point of `delegate` up to the end of its strategy. -/
def DelegatePoint.preparing : DelegatePoint → Bool
  | .queued | .nodes _ _ | .started | .working => true
  | .concluding | .failing => false

/-- The labels of the turn that the workers decide. -/
def DelegateLabel.isOfCrew : DelegateLabel → Bool
  | .workerEvent _ _ | .collected _ _ _ _ | .workersRaise
  | .workersCancelled | .orphanEvent _ _ => true
  | _ => false

namespace DelegatedTurn

/-- The invocation does not know the run, and the run has not ended. -/
structure Unknown (turn : DelegatedTurn) : Prop where
  known : turn.knownRun = false
  returned : turn.returned = none
  calls : turn.terminalCalls = []
  waiting : turn.waitingEvents = []
  active : ∀ run ∈ turn.records.requestEntry, run.status.isTerminal = false

/-- What is known of a turn whose strategy may still be ahead. -/
def Prepared (turn : DelegatedTurn) : Thread → Prop
  | .loop => turn.accepted = false → turn.Unknown
  | .delegating run point =>
    turn.accepted = true ∧ (point.preparing = true → turn.Unknown ∧ run.status.isTerminal = false)
  | .checking _ => turn.accepted = true
  | .finalizing _ _ | .left => True

/-- A `CancelledError` has left `delegate`. -/
structure CutOff (turn : DelegatedTurn) : Prop where
  accepted : turn.accepted = true
  unknown : turn.Unknown
  thread : turn.thread = .loop ∨ turn.thread = .left

section Events

variable {filter : EventFilter} {turn target : DelegatedTurn}

theorem Unknown.beside (unknown : turn.Unknown) (beside : turn.Beside target)
    (calls : target.terminalCalls = turn.terminalCalls) :
    target.Unknown where
  known := beside.knownRun.trans unknown.known
  returned := beside.returned.trans unknown.returned
  calls := calls.trans unknown.calls
  waiting := beside.waitingEvents.trans unknown.waiting
  active := by
    rw [beside.requestEntry]
    exact unknown.active

theorem Unknown.emitNode (unknown : turn.Unknown) (filter : EventFilter) (run : MultiAgentRun)
    (node : MultiAgentNode) (outcome : SinkOutcome) :
    (turn.emitNode filter run node outcome).Unknown :=
  unknown.beside (emitNode_beside filter turn run node outcome)
    (emitNode_terminalCalls filter turn run node outcome)

theorem Unknown.emitRun (unknown : turn.Unknown) (filter : EventFilter) {run : MultiAgentRun}
    (active : run.status.isTerminal = false) (outcome : SinkOutcome) :
    (turn.emitRun filter run outcome).Unknown :=
  unknown.beside (emitRun_beside filter turn run outcome)
    (emitRun_terminalCalls_of_active filter turn active outcome)

theorem Unknown.remember (unknown : turn.Unknown) {run : MultiAgentRun}
    (active : run.status.isTerminal = false) :
    (turn.remember run).Unknown :=
  { unknown with
    active := by
      intro other same
      cases same
      exact active }

end Events

section Step

variable {filter : EventFilter} {turn target : DelegatedTurn}

variable {run : MultiAgentRun} {runId parentRequestId : String}
  {label : DelegateLabel}

theorem awaitNodes_prepared (accepted : turn.accepted = true)
    (unknown : turn.Unknown) (active : run.status.isTerminal = false)
    (nodes : List MultiAgentNode) :
    (turn.awaitNodes run nodes).Prepared (turn.awaitNodes run nodes).thread := by
  cases nodes with
  | cons node rest =>
    refine ⟨accepted, fun _ => ⟨?_, active⟩⟩
    exact ⟨unknown.known, unknown.returned, unknown.calls, unknown.waiting, unknown.active⟩
  | nil =>
    rw [DelegatedTurn.awaitNodes]
    split_ifs
    · exact ⟨accepted, fun preparing => by cases preparing⟩
    · refine ⟨accepted, fun _ => ⟨?_, rfl⟩⟩
      exact ⟨unknown.known, unknown.returned, unknown.calls,
          unknown.waiting, (unknown.remember rfl).active⟩

theorem delegateEmitted_prepared {point : DelegatePoint}
    {outcome : SinkOutcome} (prepared : turn.Prepared (.delegating run point))
    (stepped : turn.delegateEmitted filter run outcome point = some target) :
    target.Prepared target.thread := by
  rcases prepared with ⟨accepted, preparing⟩
  have besideRun := emitRun_beside filter turn run outcome
  have acceptedRun :
      (turn.emitRun filter run outcome).accepted = true :=
    besideRun.accepted.trans accepted
  have cancelled {other : DelegatedTurn} (still : other.accepted = true) :
      other.delegateCancelled.Prepared other.delegateCancelled.thread := by
    intro fresh
    cases still.symm.trans fresh
  have fails {other : DelegatedTurn} {run : MultiAgentRun}
      (still : other.accepted = true) :
      (other.delegateFails run).Prepared (other.delegateFails run).thread :=
    ⟨still, fun preparing => by cases preparing⟩
  have returns {other : DelegatedTurn} {run : MultiAgentRun}
      (still : other.accepted = true) :
      (other.delegateReturns run).Prepared (other.delegateReturns run).thread := by
    intro fresh
    cases still.symm.trans fresh
  cases point with
  | queued =>
    rcases preparing rfl with ⟨unknown, active⟩
    cases stepped
    split_ifs
    · exact cancelled acceptedRun
    · exact fails acceptedRun
    · exact awaitNodes_prepared acceptedRun (unknown.emitRun filter active outcome) active _
  | nodes node rest =>
    rcases preparing rfl with ⟨unknown, active⟩
    have acceptedNode :
        (turn.emitNode filter run node outcome).accepted = true :=
      (emitNode_beside filter turn run node outcome).accepted.trans accepted
    cases stepped
    split_ifs
    · exact cancelled acceptedNode
    · exact awaitNodes_prepared acceptedNode (unknown.emitNode filter run node outcome) active _
  | started =>
    rcases preparing rfl with ⟨unknown, active⟩
    have unknownRun := unknown.emitRun filter active outcome
    cases stepped
    split_ifs
    · exact cancelled acceptedRun
    · exact fails acceptedRun
    · refine ⟨acceptedRun, fun _ => ⟨?_, active⟩⟩
      exact ⟨unknownRun.known, unknownRun.returned, unknownRun.calls,
          unknownRun.waiting, unknownRun.active⟩
  | working => cases stepped
  | concluding =>
    unfold DelegatedTurn.delegateEmitted at stepped
    dsimp only at stepped
    split at stepped
    · cases stepped
      exact cancelled acceptedRun
    · cases stepped
      exact fails acceptedRun
    · cases stepped
      exact returns acceptedRun
  | failing =>
    unfold DelegatedTurn.delegateEmitted at stepped
    dsimp only at stepped
    split at stepped
    · cases stepped
      exact cancelled acceptedRun
    · cases stepped
      exact returns acceptedRun

theorem finishParentTurn_unknown (unknown : turn.knownRun = false) (outcome : ParentOutcome)
    (deadlineExpired : Bool) :
    turn.finishParentTurn outcome deadlineExpired = turn.leave := by
  rw [DelegatedTurn.finishParentTurn, unknown]

theorem checkParentContext_unknown (unknown : turn.knownRun = false) (exceeded : Bool) :
    turn.checkParentContext exceeded = turn := by
  rw [DelegatedTurn.checkParentContext, unknown]

theorem setWaiting_unknown (unknown : turn.knownRun = false) (waiting : Bool) :
    turn.setWaiting waiting = turn := by
  rw [DelegatedTurn.setWaiting, unknown]

theorem finishParentTurn_thread (outcome : ParentOutcome) (deadlineExpired : Bool) :
    (turn.finishParentTurn outcome deadlineExpired).thread = .left ∨ ∃ run,
        (turn.finishParentTurn outcome deadlineExpired).thread =
          .finalizing run false := by
  unfold DelegatedTurn.finishParentTurn
  split
  · unfold DelegatedTurn.finalize
    split_ifs
    · exact .inl rfl
    · exact .inr ⟨_, rfl⟩
    · exact .inr ⟨_, rfl⟩
  · exact .inl rfl

theorem checkParentContext_thread (exceeded : Bool) :
    turn.checkParentContext exceeded = turn ∨ turn.knownRun = true ∧
        (turn.checkParentContext exceeded).accepted = turn.accepted ∧
        ∃ run, (turn.checkParentContext exceeded).thread = .checking run := by
  unfold DelegatedTurn.checkParentContext
  split
  · next known _ _ =>
      split_ifs
      · exact .inl rfl
      · exact .inr ⟨known, rfl, _, rfl⟩
  · exact .inl rfl

theorem setWaiting_spec (waiting : Bool) : turn.setWaiting waiting = turn ∨
      turn.knownRun = true ∧ (turn.setWaiting waiting).accepted = turn.accepted ∧
        (turn.setWaiting waiting).thread = turn.thread := by
  unfold DelegatedTurn.setWaiting
  split
  · next known _ _ =>
      dsimp only
      split_ifs
      · exact .inl rfl
      · exact .inr ⟨known, rfl, rfl⟩
      · exact .inl rfl
      · exact .inr ⟨known, rfl, rfl⟩
  · exact .inl rfl

theorem Prepared.transfer
    {thread : Thread} (prepared : turn.Prepared thread)
    (accepted : target.accepted = turn.accepted)
    (unknown : turn.Unknown → target.Unknown) :
    target.Prepared thread := by
  cases thread with
  | loop =>
    intro fresh
    exact unknown (prepared (accepted.symm.trans fresh))
  | delegating run point =>
    refine ⟨accepted.trans prepared.1, ?_⟩
    intro preparing
    rcases prepared.2 preparing with ⟨before, active⟩
    exact ⟨unknown before, active⟩
  | checking run => exact accepted.trans prepared
  | finalizing run failing => trivial
  | left => trivial

theorem Prepared.accepted_of_known (prepared : turn.Prepared .loop) (known : turn.knownRun = true) :
    turn.accepted = true := by
  cases accepted : turn.accepted with
  | true => rfl
  | false =>
    have unknown := (prepared accepted).known
    rw [known] at unknown
    cases unknown

theorem emitted_prepared
    {outcome : SinkOutcome} (prepared : turn.Prepared turn.thread)
    (stepped : turn.emitted filter outcome = some target) :
    target.Prepared target.thread := by
  unfold DelegatedTurn.emitted at stepped
  split at stepped
  · cases stepped
  · cases stepped
  · next run point thread =>
      rw [thread] at prepared
      exact delegateEmitted_prepared prepared stepped
  · next run thread =>
      rw [thread] at prepared
      have accepted : turn.accepted = true := prepared
      dsimp only at stepped
      split at stepped
      · cases stepped
        trivial
      · cases stepped
        intro fresh
        have still :=
          (emitRun_beside filter turn run outcome).accepted.trans accepted
        cases still.symm.trans fresh
  · dsimp only at stepped
    split at stepped
    · cases stepped
      trivial
    · cases stepped
      trivial
    · cases stepped
      trivial
  · dsimp only at stepped
    split at stepped
    · cases stepped
      trivial
    · cases stepped
      trivial

theorem delegate_prepared (unknown : turn.Unknown) (active : run.status.isTerminal = false) :
    (turn.delegate run).Prepared (turn.delegate run).thread := by
  refine ⟨rfl, fun _ => ⟨?_, active⟩⟩
  refine ⟨unknown.known, unknown.returned, unknown.calls, unknown.waiting, ?_⟩
  intro other same
  cases same
  exact active

theorem step_prepared (ofTurn : label.isOfCrew = false)
    (prepared : turn.Prepared turn.thread) (stepped :
      turn.step filter runId parentRequestId label = some target) :
    target.Prepared target.thread := by
  cases label with
  | otherRow row =>
    obtain ⟨-, same⟩ := Option.ite_none_right_eq_some.mp stepped
    cases same
    refine prepared.transfer ?_ ?_
    · rfl
    · intro unknown
      exact ⟨unknown.known, unknown.returned, unknown.calls, unknown.waiting, unknown.active⟩
  | invoke request =>
    obtain ⟨thread, same⟩ := Option.ite_none_right_eq_some.mp stepped
    rw [thread] at prepared
    split at same
    · next fresh =>
        cases same
        exact delegate_prepared (prepared fresh) rfl
    · cases same
      rw [thread]
      exact prepared
  | emitted outcome => exact emitted_prepared prepared stepped
  | setWaiting waiting =>
    obtain ⟨thread, same⟩ := Option.ite_none_right_eq_some.mp stepped
    cases same
    rcases turn.setWaiting_spec waiting with same | ⟨known, accepted, sameThread⟩
    · rw [same]
      exact prepared
    · rw [sameThread, thread]
      rw [thread] at prepared
      intro fresh
      have still := accepted.trans (prepared.accepted_of_known known)
      cases still.symm.trans fresh
  | waitingEmitted index outcome =>
    rcases Option.map_eq_some_iff.mp stepped with ⟨run, pending, rfl⟩
    have beside :=
      emitRun_beside filter
        { turn with waitingEvents := turn.waitingEvents.eraseIdx index }
        run outcome
    rw [beside.thread]
    apply prepared.transfer beside.accepted
    intro unknown
    rw [unknown.waiting] at pending
    cases pending
  | checkContext exceeded =>
    obtain ⟨thread, same⟩ := Option.ite_none_right_eq_some.mp stepped
    cases same
    rcases turn.checkParentContext_thread exceeded with same | ⟨known, accepted, run, checking⟩
    · rw [same]
      exact prepared
    · rw [checking]
      rw [thread] at prepared
      exact accepted.trans (prepared.accepted_of_known known)
  | finish outcome deadlineExpired =>
    obtain ⟨thread, same⟩ := Option.ite_none_right_eq_some.mp stepped
    cases same
    rcases turn.finishParentTurn_thread outcome deadlineExpired with left | ⟨run, finalizing⟩
    · rw [left]
      trivial
    · rw [finalizing]
      trivial
  | leaveUnfinished =>
    obtain ⟨-, same⟩ := Option.ite_none_right_eq_some.mp stepped
    cases same
    trivial
  | workerEvent _ _ => cases ofTurn
  | collected _ _ _ _ => cases ofTurn
  | workersRaise => cases ofTurn
  | workersCancelled => cases ofTurn
  | orphanEvent _ _ => cases ofTurn

theorem step_cutOff (ofTurn : label.isOfCrew = false) (cutOff : turn.CutOff)
    (stepped : turn.step filter runId parentRequestId label = some target) :
    target.CutOff := by
  have unknown := cutOff.unknown
  have leaves : turn.leave.CutOff :=
    ⟨cutOff.accepted, ⟨unknown.known, unknown.returned, unknown.calls, unknown.waiting,
        unknown.active⟩,
      .inr rfl⟩
  cases label with
  | otherRow row =>
    obtain ⟨-, same⟩ := Option.ite_none_right_eq_some.mp stepped
    cases same
    exact ⟨cutOff.accepted, ⟨unknown.known, unknown.returned, unknown.calls,
          unknown.waiting, unknown.active⟩,
        cutOff.thread⟩
  | invoke request =>
    obtain ⟨-, same⟩ := Option.ite_none_right_eq_some.mp stepped
    rw [cutOff.accepted] at same
    cases same
    exact cutOff
  | emitted outcome =>
    have none : turn.emitted filter outcome = none := by
      rcases cutOff.thread with loop | left
      · rw [DelegatedTurn.emitted, loop]
      · rw [DelegatedTurn.emitted, left]
    cases none.symm.trans stepped
  | setWaiting waiting =>
    obtain ⟨-, same⟩ := Option.ite_none_right_eq_some.mp stepped
    rw [setWaiting_unknown unknown.known] at same
    cases same
    exact cutOff
  | waitingEmitted index outcome =>
    rcases Option.map_eq_some_iff.mp stepped with ⟨run, pending, -⟩
    rw [unknown.waiting] at pending
    cases pending
  | checkContext exceeded =>
    obtain ⟨-, same⟩ := Option.ite_none_right_eq_some.mp stepped
    rw [checkParentContext_unknown unknown.known] at same
    cases same
    exact cutOff
  | finish outcome deadlineExpired =>
    obtain ⟨-, same⟩ := Option.ite_none_right_eq_some.mp stepped
    rw [finishParentTurn_unknown unknown.known] at same
    cases same
    exact leaves
  | leaveUnfinished =>
    obtain ⟨-, same⟩ := Option.ite_none_right_eq_some.mp stepped
    cases same
    exact leaves
  | workerEvent _ _ => cases ofTurn
  | collected _ _ _ _ => cases ofTurn
  | workersRaise => cases ofTurn
  | workersCancelled => cases ofTurn
  | orphanEvent _ _ => cases ofTurn

theorem step_working (ofTurn : label.isOfCrew = false)
    (working : turn.thread = .delegating run .working)
    (waiting : turn.waitingEvents = []) (stepped :
      turn.step filter runId parentRequestId label = some target) :
    target.thread = turn.thread := by
  have notLoop {P : Prop} (loop : turn.thread = .loop) : P := by
    rw [working] at loop
    cases loop
  cases label with
  | otherRow row =>
    obtain ⟨-, same⟩ := Option.ite_none_right_eq_some.mp stepped
    cases same
    rfl
  | emitted outcome =>
    have none : turn.emitted filter outcome = none := by
      rw [DelegatedTurn.emitted, working]
      rfl
    cases none.symm.trans stepped
  | waitingEmitted index outcome =>
    rcases Option.map_eq_some_iff.mp stepped with ⟨other, pending, -⟩
    rw [waiting] at pending
    cases pending
  | invoke _ | setWaiting _ | checkContext _ | finish _ _
  | leaveUnfinished =>
    exact notLoop (Option.ite_none_right_eq_some.mp stepped).1
  | workerEvent _ _ => cases ofTurn
  | collected _ _ _ _ => cases ofTurn
  | workersRaise => cases ofTurn
  | workersCancelled => cases ofTurn
  | orphanEvent _ _ => cases ofTurn

end Step

end DelegatedTurn

end TurningGood.MultiAgent
