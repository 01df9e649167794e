import TurningGood.MultiAgent.DelegatedRun
import Mathlib.Tactic.ByContra

/-!
# The persisted end of a delegated run

The coordinator answers a sink that raised by ending the run as failed and
emitting that end.  If the sink had written the row of the first end before
it raised, the trace then holds two ends, and the reader keeps the first
while the coordinator returns the second.

Each persisted end is a call of the sink with a terminal event that wrote
its row.  The invariant follows these calls: as long as no end is reported
after a persisted one that it does not repeat, the trace holds at most one
end, and the coordinator returns the status that the reader finds.
-/

namespace TurningGood.MultiAgent

open TurningGood.Foundation

namespace DelegatedTurn

variable {turn : DelegatedTurn}

/-! ## The ends in the trace -/

/-- The statuses of the terminal events whose rows were written. -/
def persisted (turn : DelegatedTurn) : List RunStatus :=
  (turn.terminalCalls.filter (·.2.written)).map (·.1)

/-- What is known of the tables and of the trace, whatever is awaited. -/
structure Recorded (runId : String) (turn : DelegatedTurn) : Prop where
  entry : ∀ run, turn.records.requestEntry = some run → run.runId = runId
  waiting : ∀ run ∈ turn.waitingEvents, run.runId = runId ∧ run.status.isTerminal = false
  traced : terminalEventsOf runId turn.log = turn.persisted.map RunStatus.text

section Events

variable (filter : EventFilter) (turn : DelegatedTurn)

theorem emitNode_persisted (run : MultiAgentRun) (node : MultiAgentNode) (outcome : SinkOutcome) :
    (turn.emitNode filter run node outcome).persisted = turn.persisted := by
  rw [persisted, emitNode_terminalCalls, persisted]

theorem emitRun_persisted_of_active {run : MultiAgentRun}
    (active : run.status.isTerminal = false) (outcome : SinkOutcome) :
    (turn.emitRun filter run outcome).persisted = turn.persisted := by
  rw [persisted, emitRun_terminalCalls_of_active _ _ active, persisted]

theorem emitRun_persisted_of_called {run : MultiAgentRun}
    (called : turn.skipsRun run = false) (outcome : SinkOutcome) :
    (turn.emitRun filter run outcome).persisted = turn.persisted ++
        if run.status.isTerminal && outcome.written then
          [run.status]
        else
          [] := by
  rw [emitRun, if_neg (by rw [called]; exact Bool.false_ne_true)]
  simp only [persisted, List.filter_append, List.map_append]
  congr 1
  cases run.status.isTerminal with
  | false => rfl
  | true =>
    cases written : outcome.written with
    | false => simp [written]
    | true => simp [written]

theorem emitRun_persisted (run : MultiAgentRun) (outcome : SinkOutcome) :
    (turn.emitRun filter run outcome).persisted = turn.persisted ∨
      outcome.written = true ∧ (turn.emitRun filter run outcome).persisted =
          turn.persisted ++ [run.status] := by
  cases called : turn.skipsRun run with
  | true =>
    left
    rw [emitRun, if_pos called]
  | false =>
    rw [emitRun_persisted_of_called filter turn called]
    split_ifs with ended
    · exact .inr ⟨(Bool.and_eq_true_iff.mp ended).2, rfl⟩
    · exact .inl (List.append_nil _)

theorem emitRun_persisted_of_unwritten (run : MultiAgentRun)
    {outcome : SinkOutcome} (unwritten : outcome.written = false) :
    (turn.emitRun filter run outcome).persisted = turn.persisted := by
  rcases emitRun_persisted filter turn run outcome with same | ⟨written, -⟩
  · exact same
  · rw [unwritten] at written
    cases written

theorem terminalEventsOf_writtenRows (runId : String) (row : TraceRow) (outcome : SinkOutcome) :
    terminalEventsOf runId (writtenRows row outcome) =
      if outcome.written then (terminalStatusOf runId row).toList else [] := by
  rw [writtenRows]
  split_ifs
  · cases ended : terminalStatusOf runId row <;> simp [terminalEventsOf, ended]
  · rfl

end Events

namespace Recorded

variable {filter : EventFilter} {runId : String} {turn : DelegatedTurn}

theorem emitRun (recorded : turn.Recorded runId) (nonempty : runId ≠ "")
    {run : MultiAgentRun} (named : run.runId = runId)
    (outcome : SinkOutcome) :
    (turn.emitRun filter run outcome).Recorded runId := by
  have beside := emitRun_beside filter turn run outcome
  refine ⟨?_, ?_, ?_⟩
  · rw [beside.requestEntry]
    exact recorded.entry
  · rw [beside.waitingEvents]
    exact recorded.waiting
  · subst named
    cases called : turn.skipsRun run with
    | true =>
      rw [DelegatedTurn.emitRun, if_pos called]
      exact recorded.traced
    | false =>
      rw [emitRun_persisted_of_called filter turn called, DelegatedTurn.emitRun,
        if_neg (by rw [called]; exact Bool.false_ne_true),
        terminalEventsOf_append, recorded.traced, List.map_append,
        terminalEventsOf_writtenRows, terminalStatusOf_runRow _ nonempty]
      congr 1
      cases outcome.written with
      | false => simp
      | true => cases run.status.isTerminal <;> rfl

theorem emitNode (recorded : turn.Recorded runId)
    (run : MultiAgentRun) (node : MultiAgentNode) (outcome : SinkOutcome) :
    (turn.emitNode filter run node outcome).Recorded runId := by
  have beside := emitNode_beside filter turn run node outcome
  refine ⟨?_, ?_, ?_⟩
  · rw [beside.requestEntry]
    exact recorded.entry
  · rw [beside.waitingEvents]
    exact recorded.waiting
  · rw [emitNode_persisted, DelegatedTurn.emitNode]
    split
    · exact recorded.traced
    · rw [terminalEventsOf_append, recorded.traced,
        terminalEventsOf_writtenRows, terminalStatusOf_nodeRow]
      simp

theorem remember (recorded : turn.Recorded runId)
    {run : MultiAgentRun} (named : run.runId = runId) :
    (turn.remember run).Recorded runId where
  entry := by
    intro found present
    cases present
    exact named
  waiting := recorded.waiting
  traced := recorded.traced

end Recorded

/-! ## The invariant -/

/-- At most one end is persisted, and a returned status is that end. -/
structure Told (turn : DelegatedTurn) : Prop where
  atMostOne : turn.persisted.length ≤ 1
  agrees : ∀ status, turn.returned = some status → ∀ other ∈ turn.persisted, other = status

/-- No end of the run was delivered or persisted. -/
structure Unended (turn : DelegatedTurn) : Prop where
  persisted : turn.persisted = []
  returned : turn.returned = none
  terminalRun : turn.records.terminalRun = false

/-- What holds between the calls of the loop. -/
structure Settled (turn : DelegatedTurn) : Prop where
  told : turn.Told
  fresh : turn.accepted = false → turn.Unended ∧ turn.knownRun = false
  active : turn.knownRun = true → ∀ run, turn.records.requestEntry = some run →
      run.status.isTerminal = false → turn.Unended
  ended : turn.knownRun = true → ∀ run, turn.records.requestEntry = some run →
      run.status.isTerminal = true → ∀ other ∈ turn.persisted, other = run.status

/-- No end was returned, and a persisted one is not known to be. -/
structure Failing (turn : DelegatedTurn) (run : MultiAgentRun) : Prop where
  failed : run.status = .failed
  returned : turn.returned = none
  terminalRun : turn.records.terminalRun = false
  atMostOne : turn.persisted.length ≤ 1

/-- What holds while `delegate` awaits something. -/
def PointProjects (turn : DelegatedTurn) (run : MultiAgentRun) : DelegatePoint → Prop
  | .queued | .nodes _ _ | .started | .working =>
    turn.Unended ∧ run.status.isTerminal = false
  | .concluding => turn.Unended ∧ run.status.isTerminal = true
  | .failing => turn.Failing run

/-- What holds while the parent turn awaits something. -/
def ThreadProjects (turn : DelegatedTurn) : Thread → Prop
  | .loop => turn.Settled
  | .delegating run point =>
    turn.accepted = true ∧ turn.knownRun = false ∧
      turn.records.requestEntry = some run ∧ turn.PointProjects run point
  | .checking run =>
    turn.accepted = true ∧ turn.records.requestEntry = some run ∧
      run.status = .failed ∧ turn.Unended
  | .finalizing run false =>
    turn.records.requestEntry = some run ∧ turn.Unended
  | .finalizing run true =>
    turn.records.requestEntry = some run ∧ turn.Failing run
  | .left => turn.Told

/-- The invariant of the turns whose sink repeats no other end. -/
structure Projects (runId : String) (turn : DelegatedTurn) : Prop where
  recorded : turn.Recorded runId
  thread : turn.ThreadProjects turn.thread

theorem Told.of_unended (unended : turn.Unended) : turn.Told where
  atMostOne := by rw [unended.persisted]; exact Nat.zero_le 1
  agrees := by
    intro status returned
    rw [unended.returned] at returned
    cases returned

theorem Told.of_returned_none (atMostOne : turn.persisted.length ≤ 1)
    (returned : turn.returned = none) : turn.Told where
  atMostOne := atMostOne
  agrees := by
    intro status present
    rw [returned] at present
    cases present

/-- Two states that tell the same of the ends of the run. -/
structure SameEnds (turn target : DelegatedTurn) : Prop where
  accepted : target.accepted = turn.accepted
  knownRun : target.knownRun = turn.knownRun
  returned : target.returned = turn.returned
  requestEntry : target.records.requestEntry = turn.records.requestEntry
  persisted : target.persisted = turn.persisted
  terminalRun : target.records.terminalRun = turn.records.terminalRun

theorem ThreadProjects.sameEnds {target : DelegatedTurn}
    (same : turn.SameEnds target) {thread : Thread}
    (projects : turn.ThreadProjects thread) : target.ThreadProjects thread := by
  have told : turn.Told → target.Told := by
    rintro ⟨atMostOne, agrees⟩
    exact ⟨by rw [same.persisted]; exact atMostOne,
      by rw [same.persisted, same.returned]; exact agrees⟩
  have unended : turn.Unended → target.Unended := by
    rintro ⟨none, returned, undelivered⟩
    exact ⟨same.persisted.trans none, same.returned.trans returned,
      same.terminalRun.trans undelivered⟩
  have failing : ∀ run, turn.Failing run → target.Failing run := by
    rintro run ⟨failed, returned, undelivered, atMostOne⟩
    exact ⟨failed, same.returned.trans returned,
      same.terminalRun.trans undelivered, same.persisted.symm ▸ atMostOne⟩
  cases thread with
  | loop =>
    refine ⟨told projects.told, ?_, ?_, ?_⟩
    · rw [same.accepted, same.knownRun]
      intro fresh
      exact ⟨unended (projects.fresh fresh).1, (projects.fresh fresh).2⟩
    · rw [same.knownRun, same.requestEntry]
      intro known run entry active
      exact unended (projects.active known run entry active)
    · rw [same.knownRun, same.requestEntry, same.persisted]
      exact projects.ended
  | delegating run point =>
    rcases projects with ⟨accepted, known, entry, projects⟩
    refine ⟨same.accepted.trans accepted, same.knownRun.trans known,
      same.requestEntry.trans entry, ?_⟩
    cases point with
    | queued | nodes | started | working =>
      exact ⟨unended projects.1, projects.2⟩
    | concluding => exact ⟨unended projects.1, projects.2⟩
    | failing => exact failing run projects
  | checking run =>
    rcases projects with ⟨accepted, entry, failed, projects⟩
    exact ⟨same.accepted.trans accepted, same.requestEntry.trans entry, failed, unended projects⟩
  | finalizing run again =>
    cases again with
    | false =>
      exact ⟨same.requestEntry.trans projects.1, unended projects.2⟩
    | true =>
      exact ⟨same.requestEntry.trans projects.1, failing run projects.2⟩
  | left => exact told projects

/-! ## One step -/

/-- The awaited event replaces an end that was not delivered. -/
def replacesEnd (turn : DelegatedTurn) : Bool :=
  match turn.thread with
  | .delegating _ .failing | .finalizing _ true => true
  | _ => false

/-- How the sink ends the awaited event. -/
def awaitedOutcome : DelegateLabel → Option SinkOutcome
  | .emitted outcome => some outcome
  | _ => none

/--
After a persisted end the sink reports no other one: the event that replaces
it is not written, and it is cancelled unless the persisted end says failed.
-/
def repeatsNoEnd (turn : DelegatedTurn) (label : DelegateLabel) : Prop :=
  ∀ outcome ∈ awaitedOutcome label, turn.replacesEnd = true →
    ∀ status ∈ turn.persisted, outcome = .cancelled false ∨
        (outcome = .raised false ∧ status = .failed)

instance (turn : DelegatedTurn) (label : DelegateLabel) :
    Decidable (turn.repeatsNoEnd label) :=
  inferInstanceAs <| Decidable <| ∀ outcome ∈ awaitedOutcome label, turn.replacesEnd = true →
      ∀ status ∈ turn.persisted, outcome = .cancelled false ∨
          (outcome = .raised false ∧ status = .failed)

section Step

variable {filter : EventFilter} {runId : String} {turn : DelegatedTurn}

variable {target : DelegatedTurn} {run : MultiAgentRun} {outcome : SinkOutcome}

theorem Beside.sameEnds (beside : turn.Beside target)
    (persisted : target.persisted = turn.persisted) (terminalRun :
      target.records.terminalRun = turn.records.terminalRun) :
    turn.SameEnds target :=
  { beside with
    persisted := persisted
    terminalRun := terminalRun }

theorem sameEnds_emitNode (filter : EventFilter) (turn : DelegatedTurn)
    (run : MultiAgentRun) (node : MultiAgentNode) (outcome : SinkOutcome) :
    turn.SameEnds (turn.emitNode filter run node outcome) :=
  (emitNode_beside filter turn run node outcome).sameEnds
    (emitNode_persisted filter turn run node outcome)
    (emitNode_terminalRun filter turn run node outcome)

theorem sameEnds_emitRun (filter : EventFilter) (turn : DelegatedTurn)
    (active : run.status.isTerminal = false) (outcome : SinkOutcome) :
    turn.SameEnds (turn.emitRun filter run outcome) :=
  (emitRun_beside filter turn run outcome).sameEnds
    (emitRun_persisted_of_active filter turn active outcome)
    (emitRun_terminalRun_of_active filter turn active outcome)

theorem Unended.sameEnds (unended : turn.Unended) (same : turn.SameEnds target) :
    target.Unended where
  persisted := same.persisted.trans unended.persisted
  returned := same.returned.trans unended.returned
  terminalRun := same.terminalRun.trans unended.terminalRun

theorem Projects.emitNode (projects : turn.Projects runId)
    (run : MultiAgentRun) (node : MultiAgentNode) (outcome : SinkOutcome) :
    (turn.emitNode filter run node outcome).Projects runId := by
  refine ⟨projects.recorded.emitNode run node outcome, ?_⟩
  rw [(emitNode_beside filter turn run node outcome).thread]
  exact projects.thread.sameEnds (sameEnds_emitNode filter turn run node outcome)

theorem Unended.settled (unended : turn.Unended) (entry :
      turn.knownRun = true → ∀ run, turn.records.requestEntry = some run →
        run.status.isTerminal = false)
    (accepted : turn.accepted = true) : turn.Settled where
  told := .of_unended unended
  fresh := by
    intro fresh
    rw [accepted] at fresh
    cases fresh
  active := fun _ _ _ _ => unended
  ended := by
    intro known run present ended
    rw [entry known run present] at ended
    cases ended

theorem Recorded.moved (recorded : turn.Recorded runId)
    (entry : target.records.requestEntry = turn.records.requestEntry)
    (waiting : target.waitingEvents = turn.waitingEvents)
    (log : target.log = turn.log)
    (calls : target.terminalCalls = turn.terminalCalls) :
    target.Recorded runId where
  entry := by rw [entry]; exact recorded.entry
  waiting := by rw [waiting]; exact recorded.waiting
  traced := by rw [log, persisted, calls]; exact recorded.traced

theorem Unended.moved (unended : turn.Unended) (calls : target.terminalCalls = turn.terminalCalls)
    (returned : target.returned = turn.returned) (terminalRun :
      target.records.terminalRun = turn.records.terminalRun) :
    target.Unended where
  persisted := by
    rw [DelegatedTurn.persisted, calls]
    exact unended.persisted
  returned := returned.trans unended.returned
  terminalRun := terminalRun.trans unended.terminalRun

/-- `delegate` has not returned its run. -/
structure Delegating (runId : String) (turn : DelegatedTurn)
    (run : MultiAgentRun) : Prop where
  recorded : turn.Recorded runId
  accepted : turn.accepted = true
  unknown : turn.knownRun = false
  entry : turn.records.requestEntry = some run

namespace Delegating

variable {run : MultiAgentRun}

theorem named (delegating : turn.Delegating runId run) :
    run.runId = runId :=
  delegating.recorded.entry run delegating.entry

theorem beside (delegating : turn.Delegating runId run)
    {target : DelegatedTurn} (beside : turn.Beside target)
    (recorded : target.Recorded runId) : target.Delegating runId run where
  recorded := recorded
  accepted := beside.accepted.trans delegating.accepted
  unknown := beside.knownRun.trans delegating.unknown
  entry := beside.requestEntry.trans delegating.entry

variable (filter) in
theorem emitRun (delegating : turn.Delegating runId run)
    (nonempty : runId ≠ "") (outcome : SinkOutcome) :
    (turn.emitRun filter run outcome).Delegating runId run :=
  delegating.beside (emitRun_beside filter turn run outcome)
    (delegating.recorded.emitRun nonempty delegating.named outcome)

variable (filter) in
theorem emitNode (delegating : turn.Delegating runId run)
    (node : MultiAgentNode) (outcome : SinkOutcome) :
    (turn.emitNode filter run node outcome).Delegating runId run :=
  delegating.beside (emitNode_beside filter turn run node outcome)
    (delegating.recorded.emitNode run node outcome)

theorem remember (delegating : turn.Delegating runId run)
    {after : MultiAgentRun} (named : after.runId = run.runId)
    (point : DelegatePoint) :
    { turn.remember after with
        thread := .delegating after point }.Delegating runId after where
  recorded := (delegating.recorded.remember (named.trans delegating.named)).moved rfl rfl rfl rfl
  accepted := delegating.accepted
  unknown := delegating.unknown
  entry := rfl

theorem projects (delegating : turn.Delegating runId run)
    {point : DelegatePoint} (thread : turn.thread = .delegating run point)
    (projects : turn.PointProjects run point) : turn.Projects runId where
  recorded := delegating.recorded
  thread := by
    rw [thread]
    exact ⟨delegating.accepted, delegating.unknown, delegating.entry, projects⟩

theorem fails (delegating : turn.Delegating runId run)
    {after : MultiAgentRun} (named : after.runId = run.runId)
    (returned : turn.returned = none)
    (terminalRun : turn.records.terminalRun = false)
    (atMostOne : turn.persisted.length ≤ 1) :
    (turn.delegateFails after).Projects runId :=
  (delegating.remember (show (turn.failedRun after).runId = run.runId from named)
    .failing).projects rfl ⟨rfl, returned, terminalRun, atMostOne⟩

theorem cancelled (delegating : turn.Delegating runId run) (returned : turn.returned = none)
    (atMostOne : turn.persisted.length ≤ 1) :
    turn.delegateCancelled.Projects runId where
  recorded := delegating.recorded.moved rfl rfl rfl rfl
  thread := by
    refine ⟨.of_returned_none atMostOne returned, ?_, ?_, ?_⟩
    · intro fresh
      cases delegating.accepted.symm.trans fresh
    · intro learned
      cases delegating.unknown.symm.trans learned
    · intro learned
      cases delegating.unknown.symm.trans learned

theorem awaitNodes (delegating : turn.Delegating runId run) (active : run.status.isTerminal = false)
    (unended : turn.Unended) (nodes : List MultiAgentNode) :
    (turn.awaitNodes run nodes).Projects runId := by
  cases nodes with
  | cons node rest =>
    have moved : { turn with
        thread := .delegating run (.nodes node rest)
      }.Delegating runId run :=
      ⟨delegating.recorded.moved rfl rfl rfl rfl, delegating.accepted,
        delegating.unknown, delegating.entry⟩
    exact moved.projects rfl ⟨unended.moved rfl rfl rfl, active⟩
  | nil =>
    rw [DelegatedTurn.awaitNodes]
    split_ifs
    · apply delegating.fails rfl unended.returned unended.terminalRun
      rw [unended.persisted]
      exact Nat.zero_le 1
    · have started :=
        delegating.remember (show { run with status := .running }.runId = run.runId from rfl)
          .started
      exact started.projects rfl ⟨unended.moved rfl rfl rfl, rfl⟩

theorem returns (delegating : turn.Delegating runId run) (ended : run.status.isTerminal = true)
    (atMostOne : turn.persisted.length ≤ 1)
    (agrees : ∀ other ∈ turn.persisted, other = run.status) :
    (turn.delegateReturns run).Projects runId where
  recorded := delegating.recorded.moved rfl rfl rfl rfl
  thread := by
    refine ⟨⟨atMostOne, ?_⟩, ?_, ?_, ?_⟩
    · intro status returned
      change (if run.status.isTerminal then some run.status else _) = _
        at returned
      rw [if_pos ended] at returned
      cases returned
      exact agrees
    · intro fresh
      cases delegating.accepted.symm.trans fresh
    · intro _ found present active
      cases delegating.entry.symm.trans present
      cases ended.symm.trans active
    · intro _ found present _
      cases delegating.entry.symm.trans present
      exact agrees

end Delegating

variable (filter) in
/-- The end that is awaited, and what is persisted of it afterwards. -/
theorem Unended.emitRun (unended : turn.Unended) (run : MultiAgentRun) (outcome : SinkOutcome) :
    (turn.emitRun filter run outcome).persisted.length ≤ 1 ∧
      ∀ other ∈ (turn.emitRun filter run outcome).persisted,
        other = run.status := by
  rcases emitRun_persisted filter turn run outcome with same | ⟨-, one⟩
  · rw [same, unended.persisted]
    exact ⟨Nat.zero_le 1, fun _ member => absurd member List.not_mem_nil⟩
  · rw [one, unended.persisted]
    exact ⟨Nat.le_refl 1, fun _ member => List.mem_singleton.mp member⟩

theorem emitRun_terminalRun_of_raised (raised : turn.emitRunResult run outcome = some false) :
    (turn.emitRun filter run outcome).records.terminalRun =
      turn.records.terminalRun := by
  cases called : turn.skipsRun run with
  | true => simp [emitRunResult, called] at raised
  | false =>
    rw [DelegatedTurn.emitRun,
      if_neg (by rw [called]; exact Bool.false_ne_true)]
    cases outcome with
    | delivered => simp [emitRunResult, called] at raised
    | raised => rfl
    | cancelled => rfl

variable (filter) in
/-- After a persisted end nothing else is told, if the sink keeps to it. -/
theorem Failing.emitRun {run : MultiAgentRun} (failing : turn.Failing run)
    {outcome : SinkOutcome}
    (keeps : ∀ status ∈ turn.persisted, outcome = .cancelled false ∨
        (outcome = .raised false ∧ status = .failed)) :
    (turn.emitRun filter run outcome).persisted.length ≤ 1 ∧
      (turn.emitRunResult run outcome ≠ none →
        ∀ other ∈ (turn.emitRun filter run outcome).persisted,
          other = run.status) := by
  have called : turn.skipsRun run = false := by
    rw [skipsRun, failing.terminalRun, Bool.and_false]
  cases before : turn.persisted with
  | nil =>
    have unended : turn.Unended :=
      ⟨before, failing.returned, failing.terminalRun⟩
    rcases unended.emitRun filter run outcome with ⟨atMostOne, agrees⟩
    exact ⟨atMostOne, fun _ => agrees⟩
  | cons status rest =>
    have alone : rest = [] := by
      have atMostOne := failing.atMostOne
      rw [before] at atMostOne
      exact List.length_eq_zero_iff.mp (Nat.le_zero.mp (Nat.le_of_succ_le_succ atMostOne))
    subst alone
    rcases keeps status (before ▸ List.mem_cons_self) with rfl | ⟨rfl, same⟩
    · rw [emitRun_persisted_of_unwritten _ _ _ rfl, before]
      refine ⟨Nat.le_refl 1, fun completed => absurd ?_ completed⟩
      simp only [emitRunResult, called, Bool.false_eq_true, if_false]
    · rw [emitRun_persisted_of_unwritten _ _ _ rfl, before]
      refine ⟨Nat.le_refl 1, fun _ other member => ?_⟩
      rw [List.mem_singleton.mp member, same, failing.failed]

theorem Delegating.emitted (nonempty : runId ≠ "") {point : DelegatePoint}
    (delegating : turn.Delegating runId run)
    (projects : turn.PointProjects run point)
    (keeps : point = .failing → ∀ status ∈ turn.persisted,
      outcome = .cancelled false ∨ (outcome = .raised false ∧ status = .failed))
    (stepped : turn.delegateEmitted filter run outcome point = some target) :
    target.Projects runId := by
  have after : (turn.emitRun filter run outcome).Delegating runId run :=
    delegating.emitRun filter nonempty outcome
  have returned := (emitRun_beside filter turn run outcome).returned
  cases point with
  | queued =>
    rcases projects with ⟨unended, active⟩
    have still :=
      unended.sameEnds (sameEnds_emitRun filter turn active outcome)
    have told := Told.of_unended still
    cases stepped
    split_ifs
    · exact after.cancelled still.returned told.atMostOne
    · exact after.fails rfl still.returned still.terminalRun told.atMostOne
    · exact after.awaitNodes active still _
  | nodes node rest =>
    rcases projects with ⟨unended, active⟩
    have afterNode :=
      delegating.emitNode filter node outcome
    have still :=
      unended.sameEnds (sameEnds_emitNode filter turn run node outcome)
    have told := Told.of_unended still
    cases stepped
    split_ifs
    · exact afterNode.cancelled still.returned told.atMostOne
    · exact afterNode.awaitNodes active still _
  | started =>
    rcases projects with ⟨unended, active⟩
    have still :=
      unended.sameEnds (sameEnds_emitRun filter turn active outcome)
    have told := Told.of_unended still
    cases stepped
    split_ifs
    · exact after.cancelled still.returned told.atMostOne
    · exact after.fails rfl still.returned still.terminalRun told.atMostOne
    · have working : { turn.emitRun filter run outcome with
          thread := .delegating run .working }.Delegating runId run :=
        ⟨after.recorded.moved rfl rfl rfl rfl, after.accepted, after.unknown, after.entry⟩
      exact working.projects rfl ⟨still.moved rfl rfl rfl, active⟩
  | working => cases stepped
  | concluding =>
    rcases projects with ⟨unended, ended⟩
    rcases unended.emitRun filter run outcome with ⟨atMostOne, agrees⟩
    have unreturned := returned.trans unended.returned
    simp only [DelegatedTurn.delegateEmitted] at stepped
    cases result : turn.emitRunResult run outcome with
    | none =>
      rw [result] at stepped
      cases stepped
      exact after.cancelled unreturned atMostOne
    | some delivered =>
      rw [result] at stepped
      cases delivered with
      | false =>
        cases stepped
        exact after.fails rfl unreturned ((emitRun_terminalRun_of_raised result).trans
            unended.terminalRun) atMostOne
      | true =>
        cases stepped
        exact after.returns ended atMostOne agrees
  | failing =>
    have ended : run.status.isTerminal = true := by
      rw [projects.failed]
      rfl
    rcases projects.emitRun filter (keeps rfl) with ⟨atMostOne, agrees⟩
    simp only [DelegatedTurn.delegateEmitted] at stepped
    cases result : turn.emitRunResult run outcome with
    | none =>
      rw [result] at stepped
      cases stepped
      exact after.cancelled (returned.trans projects.returned) atMostOne
    | some delivered =>
      rw [result] at stepped
      cases stepped
      apply after.returns ended atMostOne
      apply agrees
      rw [result]
      exact Option.some_ne_none delivered

theorem settled_of_failed (told : turn.Told) (accepted : turn.accepted = true)
    (entry : turn.records.requestEntry = some run)
    (failed : run.status = .failed)
    (agrees : ∀ other ∈ turn.persisted, other = run.status) :
    turn.Settled where
  told := told
  fresh := by
    intro fresh
    cases accepted.symm.trans fresh
  active := by
    intro _ found present active
    cases entry.symm.trans present
    rw [failed] at active
    cases active
  ended := by
    intro _ found present _
    cases entry.symm.trans present
    exact agrees

theorem finalizeEmitted (recorded : (turn.emitRun filter run outcome).Recorded runId)
    (named : run.runId = runId) (unended : turn.Unended) (returned :
      (turn.emitRun filter run outcome).returned = turn.returned) (stepped :
      (match turn.emitRunResult run outcome with
        | none => some (turn.emitRun filter run outcome).leave
        | some false =>
          some { (turn.emitRun filter run outcome).remember
              ((turn.emitRun filter run outcome).failedRun run) with
            thread := .finalizing ((turn.emitRun filter run outcome).failedRun run) true }
        | some true =>
          some ((turn.emitRun filter run outcome).release.finalizeReturns
            run)) = some target) : target.Projects runId := by
  rcases unended.emitRun filter run outcome with ⟨atMostOne, agrees⟩
  have unreturned := returned.trans unended.returned
  cases result : turn.emitRunResult run outcome with
  | none =>
    rw [result] at stepped
    cases stepped
    exact ⟨recorded.moved rfl rfl rfl rfl, .of_returned_none atMostOne unreturned⟩
  | some delivered =>
    rw [result] at stepped
    cases delivered with
    | false =>
      cases stepped
      have remembered := recorded.remember
        (show ((turn.emitRun filter run outcome).failedRun run).runId = runId from named)
      exact ⟨remembered.moved rfl rfl rfl rfl, rfl, rfl, unreturned,
        (emitRun_terminalRun_of_raised result).trans unended.terminalRun, atMostOne⟩
    | true =>
      cases stepped
      refine ⟨⟨?_, recorded.waiting, recorded.traced⟩, atMostOne, ?_⟩
      · intro found present
        cases present
      · intro status told
        cases told
        exact agrees

theorem failureEmitted (recorded : (turn.emitRun filter run outcome).Recorded runId)
    (failing : turn.Failing run) (returned :
      (turn.emitRun filter run outcome).returned = turn.returned)
    (keeps : ∀ status ∈ turn.persisted, outcome = .cancelled false ∨
        (outcome = .raised false ∧ status = .failed)) (stepped :
      (match turn.emitRunResult run outcome with
        | none => some (turn.emitRun filter run outcome).leave
        | some _ =>
          some ((turn.emitRun filter run outcome).finalizeReturns run)) =
        some target) : target.Projects runId := by
  rcases failing.emitRun filter keeps with ⟨atMostOne, agrees⟩
  have unreturned := returned.trans failing.returned
  cases result : turn.emitRunResult run outcome with
  | none =>
    rw [result] at stepped
    cases stepped
    exact ⟨recorded.moved rfl rfl rfl rfl, .of_returned_none atMostOne unreturned⟩
  | some delivered =>
    rw [result] at stepped
    cases stepped
    refine ⟨recorded.moved rfl rfl rfl rfl, atMostOne, ?_⟩
    intro status told
    cases told
    apply agrees
    rw [result]
    exact Option.some_ne_none delivered

theorem Projects.emitted (nonempty : runId ≠ "") (projects : turn.Projects runId)
    (keeps : turn.repeatsNoEnd (.emitted outcome))
    (stepped : turn.emitted filter outcome = some target) :
    target.Projects runId := by
  rcases projects with ⟨recorded, projects⟩
  have keeps := keeps outcome rfl
  rw [replacesEnd] at keeps
  rw [DelegatedTurn.emitted] at stepped
  cases thread : turn.thread with
  | loop =>
    rw [thread] at stepped
    cases stepped
  | left =>
    rw [thread] at stepped
    cases stepped
  | delegating run point =>
    rw [thread] at projects keeps stepped
    rcases projects with ⟨accepted, unknown, entry, projects⟩
    have delegating : turn.Delegating runId run :=
      ⟨recorded, accepted, unknown, entry⟩
    refine delegating.emitted nonempty projects ?_ stepped
    rintro rfl
    exact keeps rfl
  | checking run =>
    rw [thread] at projects stepped
    rcases projects with ⟨accepted, entry, failed, unended⟩
    have named := recorded.entry run entry
    have after : (turn.emitRun filter run outcome).Recorded runId :=
      recorded.emitRun nonempty named outcome
    have beside := emitRun_beside filter turn run outcome
    rcases unended.emitRun filter run outcome with ⟨atMostOne, agrees⟩
    have told : (turn.emitRun filter run outcome).Told :=
      .of_returned_none atMostOne (beside.returned.trans unended.returned)
    dsimp only at stepped
    cases result : turn.emitRunResult run outcome with
    | none =>
      rw [result] at stepped
      cases stepped
      exact ⟨after.moved rfl rfl rfl rfl, told.atMostOne, told.agrees⟩
    | some delivered =>
      rw [result] at stepped
      cases stepped
      exact ⟨after.moved rfl rfl rfl rfl, settled_of_failed ⟨told.atMostOne, told.agrees⟩
          (beside.accepted.trans accepted)
          (beside.requestEntry.trans entry) failed agrees⟩
  | finalizing run failing =>
    rw [thread] at projects keeps stepped
    have entry : turn.records.requestEntry = some run := by
      cases failing with
      | false => exact projects.1
      | true => exact projects.1
    have after : (turn.emitRun filter run outcome).Recorded runId :=
      recorded.emitRun nonempty (recorded.entry run entry) outcome
    have returned := (emitRun_beside filter turn run outcome).returned
    cases failing with
    | false =>
      exact finalizeEmitted after (recorded.entry run entry) projects.2 returned stepped
    | true =>
      exact failureEmitted after projects.2 returned (keeps rfl) stepped

/-! ## The other steps -/

theorem Delegating.collect (delegating : turn.Delegating runId run)
    (active : run.status.isTerminal = false) (unended : turn.Unended)
    (nodes : List MultiAgentNode)
    (stopRequested deadlineExpired budgetError : Bool) :
    (turn.collect run nodes stopRequested deadlineExpired budgetError).Projects runId := by
  rw [DelegatedTurn.collect]
  split_ifs
  · have told := Told.of_unended unended
    exact delegating.fails (show { run with nodes }.runId = run.runId from rfl)
      unended.returned unended.terminalRun told.atMostOne
  · have decided := conclude_spec { run with nodes } nodes
      stopRequested deadlineExpired budgetError
    split at decided
    · rename_i after _
      rcases decided with ⟨named, status⟩
      have stillActive : after.status.isTerminal = false := by
        rw [status]
        exact active
      have recorded : (turn.remember after).Recorded runId :=
        delegating.recorded.remember (named.trans delegating.named)
      refine ⟨recorded.moved rfl rfl rfl rfl, ?_⟩
      have still : ((turn.remember after).delegateReturns after).Unended := by
        refine unended.moved rfl ?_ rfl
        change (if after.status.isTerminal then _ else _) = _
        rw [stillActive]
        rfl
      refine still.settled ?_ delegating.accepted
      intro _ found present
      cases present
      exact stillActive
    · rename_i after _
      rcases decided with ⟨named, ended⟩
      exact (delegating.remember named .concluding).projects rfl ⟨unended.moved rfl rfl rfl, ended⟩

theorem Delegating.raises (delegating : turn.Delegating runId run)
    (active : run.status.isTerminal = false) (unended : turn.Unended) :
    (turn.delegateRaises run).Projects runId where
  recorded := delegating.recorded.moved rfl rfl rfl rfl
  thread := by
    have still : (turn.delegateRaises run).Unended :=
      unended.moved rfl rfl rfl
    refine still.settled ?_ delegating.accepted
    intro _ found present
    cases delegating.entry.symm.trans present
    exact active

theorem Projects.delegate (recorded : turn.Recorded runId)
    (unended : turn.Unended) (unknown : turn.knownRun = false)
    (named : run.runId = runId) (active : run.status.isTerminal = false) :
    (turn.delegate run).Projects runId where
  recorded := (recorded.remember named).moved rfl rfl rfl rfl
  thread := ⟨rfl, unknown, rfl, unended.moved rfl rfl rfl, active⟩

theorem Projects.finishParentTurn (recorded : turn.Recorded runId)
    (settled : turn.Settled) (outcome : ParentOutcome)
    (deadlineExpired : Bool) :
    (turn.finishParentTurn outcome deadlineExpired).Projects runId := by
  rw [DelegatedTurn.finishParentTurn]
  split
  · rename_i run known _ entry
    cases ended : run.status.isTerminal with
    | true =>
      rw [finalize_of_ended turn ended]
      refine ⟨⟨?_, recorded.waiting, recorded.traced⟩, settled.told.atMostOne, ?_⟩
      · intro found present
        cases present
      · intro status returned
        cases returned
        exact settled.ended known run entry ended
    | false =>
      rcases finalize_of_active turn ended outcome deadlineExpired with ⟨decided, finalized⟩
      rw [finalized]
      have unended := settled.active known run entry ended
      refine ⟨?_, rfl, unended.moved rfl rfl rfl⟩
      exact (recorded.remember (show (run.finish decided.mapping.1 decided.mapping.2).runId =
          runId from recorded.entry run entry)).moved rfl rfl rfl rfl
  · exact ⟨recorded.moved rfl rfl rfl rfl, settled.told.atMostOne, settled.told.agrees⟩

theorem Projects.checkParentContext (projects : turn.Projects runId)
    (thread : turn.thread = .loop) (exceeded : Bool) :
    (turn.checkParentContext exceeded).Projects runId := by
  have recorded := projects.recorded
  have settled : turn.Settled := by
    have settled := projects.thread
    rw [thread] at settled
    exact settled
  rw [DelegatedTurn.checkParentContext]
  split
  · rename_i run known _ entry
    split_ifs with remains
    · exact projects
    · have active : run.status.isTerminal = false := by
        rw [not_or] at remains
        simpa using remains.1
      have unended := settled.active known run entry active
      have accepted : turn.accepted = true := by
        by_contra fresh
        have unknown := (settled.fresh (by simpa using fresh)).2
        cases known.symm.trans unknown
      refine ⟨?_, accepted, rfl, rfl, unended.moved rfl rfl rfl⟩
      exact (recorded.remember (show ({ run with
            errorCode := some resultContextExceededCode }.finish .failed _).runId = runId from
          recorded.entry run entry)).moved rfl rfl rfl rfl
  · exact projects

theorem Projects.setWaiting (projects : turn.Projects runId)
    (thread : turn.thread = .loop) (waiting : Bool) :
    (turn.setWaiting waiting).Projects runId := by
  have recorded := projects.recorded
  have settled : turn.Settled := by
    have settled := projects.thread
    rw [thread] at settled
    exact settled
  rw [DelegatedTurn.setWaiting]
  split
  · rename_i run known _ entry
    have named := recorded.entry run entry
    generalize chosen : (if waiting then RunStatus.waiting else .running) =
      status
    have stillActive : status.isTerminal = false := by
      subst chosen
      cases waiting <;> rfl
    dsimp only
    split_ifs with remains
    · exact projects
    · have active : run.status.isTerminal = false := by
        rw [not_or] at remains
        simpa using remains.1
      have unended := settled.active known run entry active
      have remembered : (turn.remember { run with status }).Recorded runId :=
        recorded.remember named
      have accepted : turn.accepted = true := by
        by_contra fresh
        have unknown := (settled.fresh (by simpa using fresh)).2
        cases known.symm.trans unknown
      refine ⟨⟨remembered.entry, ?_, remembered.traced⟩, ?_⟩
      · intro other member
        rcases List.mem_append.mp member with old | new
        · exact recorded.waiting other old
        · rw [List.mem_singleton.mp new]
          exact ⟨named, stillActive⟩
      · change ThreadProjects _ turn.thread
        rw [thread]
        have still : { turn.remember { run with status } with
            waitingEvents :=
              turn.waitingEvents ++ [{ run with status }] }.Unended :=
          unended.moved rfl rfl rfl
        refine still.settled ?_ accepted
        intro _ found present
        cases present
        exact stillActive
  · exact projects

theorem Projects.settled (projects : turn.Projects runId)
    (thread : turn.thread = .loop) : turn.Settled := by
  have settled := projects.thread
  rw [thread] at settled
  exact settled

theorem Projects.working (projects : turn.Projects runId) (working : turn.workingRun = some run) :
    turn.Delegating runId run ∧ turn.Unended ∧
      run.status.isTerminal = false := by
  have thread : turn.thread = .delegating run .working := by
    rw [workingRun] at working
    split at working
    · rename_i found thread
      cases working
      exact thread
    · cases working
  have recorded := projects.recorded
  have projects := projects.thread
  rw [thread] at projects
  rcases projects with ⟨accepted, unknown, entry, unended, active⟩
  exact ⟨⟨recorded, accepted, unknown, entry⟩, unended, active⟩

theorem Projects.otherRow (projects : turn.Projects runId) {row : TraceRow}
    (other : (RunsReader.eventOf row).all (·.1 ≠ runId) = true) :
    { turn with log := turn.log ++ [row] }.Projects runId := by
  have noEnd : terminalStatusOf runId row = none := by
    cases event : RunsReader.eventOf row with
    | none => rw [terminalStatusOf, event]
    | some found =>
      rw [event] at other
      exact RunsReader.terminalStatusOf_of_ne event (by simpa using other)
  refine ⟨⟨projects.recorded.entry, projects.recorded.waiting, ?_⟩, ?_⟩
  · rw [terminalEventsOf_append, projects.recorded.traced]
    simp [terminalEventsOf, noEnd, persisted]
  · change ThreadProjects _ turn.thread
    exact projects.thread.sameEnds (by constructor <;> rfl)

theorem Projects.waitingEmitted (nonempty : runId ≠ "")
    (projects : turn.Projects runId) {index : Nat}
    (pending : turn.waitingEvents[index]? = some run) (outcome : SinkOutcome) :
    ({ turn with
        waitingEvents := turn.waitingEvents.eraseIdx index
      }.emitRun filter run outcome).Projects runId := by
  have member := List.mem_of_getElem? pending
  rcases projects.recorded.waiting run member with ⟨named, active⟩
  generalize earlier : { turn with
    waitingEvents := turn.waitingEvents.eraseIdx index } = before
  have recorded : before.Recorded runId := by
    subst earlier
    refine ⟨projects.recorded.entry, ?_, projects.recorded.traced⟩
    intro other still
    exact projects.recorded.waiting other (List.mem_of_mem_eraseIdx still)
  have thread : before.ThreadProjects before.thread := by
    subst earlier
    change ThreadProjects _ turn.thread
    exact projects.thread.sameEnds (by constructor <;> rfl)
  refine ⟨recorded.emitRun nonempty named outcome, ?_⟩
  rw [(emitRun_beside filter before run outcome).thread]
  exact thread.sameEnds (sameEnds_emitRun filter before active outcome)

theorem Projects.step (nonempty : runId ≠ "") (parentRequestId : String)
    {label : DelegateLabel} (projects : turn.Projects runId)
    (keeps : turn.repeatsNoEnd label) (stepped :
      turn.step filter runId parentRequestId label = some target) :
    target.Projects runId := by
  cases label with
  | otherRow row =>
    obtain ⟨other, same⟩ := Option.ite_none_right_eq_some.mp stepped
    cases same
    exact projects.otherRow other
  | invoke request =>
    obtain ⟨thread, same⟩ := Option.ite_none_right_eq_some.mp stepped
    have settled := projects.settled thread
    split at same
    · rename_i request fresh
      cases same
      rcases settled.fresh fresh with ⟨unended, unknown⟩
      exact Projects.delegate projects.recorded unended unknown rfl rfl
    · cases same
      exact projects
  | emitted outcome => exact projects.emitted nonempty keeps stepped
  | workerEvent node outcome =>
    rcases Option.map_eq_some_iff.mp stepped with ⟨run, -, rfl⟩
    exact projects.emitNode run node outcome
  | collected nodes stopRequested deadlineExpired budgetError =>
    rcases Option.map_eq_some_iff.mp stepped with ⟨run, working, rfl⟩
    rcases projects.working working with ⟨delegating, unended, active⟩
    exact delegating.collect active unended _ _ _ _
  | workersRaise =>
    rcases Option.map_eq_some_iff.mp stepped with ⟨run, working, rfl⟩
    rcases projects.working working with ⟨delegating, unended, active⟩
    exact delegating.raises active unended
  | workersCancelled =>
    rcases Option.map_eq_some_iff.mp stepped with ⟨run, working, rfl⟩
    rcases projects.working working with ⟨delegating, unended, -⟩
    have told := Told.of_unended unended
    have cancelled := delegating.cancelled unended.returned told.atMostOne
    refine ⟨cancelled.recorded.moved rfl rfl rfl rfl, ?_⟩
    exact cancelled.thread.sameEnds (by constructor <;> rfl)
  | orphanEvent node outcome =>
    rcases Option.map_eq_some_iff.mp stepped with ⟨run, -, rfl⟩
    exact projects.emitNode run node outcome
  | setWaiting waiting =>
    obtain ⟨thread, same⟩ := Option.ite_none_right_eq_some.mp stepped
    cases same
    exact projects.setWaiting thread waiting
  | waitingEmitted index outcome =>
    rcases Option.map_eq_some_iff.mp stepped with ⟨run, pending, rfl⟩
    exact projects.waitingEmitted nonempty pending outcome
  | checkContext exceeded =>
    obtain ⟨thread, same⟩ := Option.ite_none_right_eq_some.mp stepped
    cases same
    exact projects.checkParentContext thread exceeded
  | finish outcome deadlineExpired =>
    obtain ⟨thread, same⟩ := Option.ite_none_right_eq_some.mp stepped
    cases same
    exact Projects.finishParentTurn projects.recorded
      (projects.settled thread) outcome deadlineExpired
  | leaveUnfinished =>
    obtain ⟨thread, same⟩ := Option.ite_none_right_eq_some.mp stepped
    cases same
    have told := (projects.settled thread).told
    exact ⟨projects.recorded.moved rfl rfl rfl rfl, told.atMostOne, told.agrees⟩

theorem told_of_threadProjects {thread : Thread}
    (projects : turn.ThreadProjects thread) : turn.Told := by
  cases thread with
  | loop => exact Settled.told projects
  | delegating run point =>
    rcases projects with ⟨-, -, -, projects⟩
    cases point with
    | queued | nodes | started | working | concluding =>
      exact .of_unended projects.1
    | failing =>
      exact .of_returned_none projects.atMostOne projects.returned
  | checking run => exact .of_unended projects.2.2.2
  | finalizing run failing =>
    cases failing with
    | false => exact .of_unended projects.2
    | true =>
      exact .of_returned_none projects.2.atMostOne projects.2.returned
  | left => exact projects

theorem Projects.start {log : List TraceRow}
    (foreign : ∀ row ∈ log, (RunsReader.eventOf row).all (·.1 ≠ runId)) :
    (DelegatedTurn.start log).Projects runId := by
  have unended : (DelegatedTurn.start log).Unended := ⟨rfl, rfl, rfl⟩
  refine ⟨⟨?_, ?_, ?_⟩, .of_unended unended, fun _ => ⟨unended, rfl⟩, ?_, ?_⟩
  · intro run present
    cases present
  · intro run member
    cases member
  · apply List.filterMap_eq_nil_iff.mpr
    intro row member
    have other := foreign row member
    cases event : RunsReader.eventOf row with
    | none => rw [terminalStatusOf, event]
    | some found =>
      rw [event] at other
      exact RunsReader.terminalStatusOf_of_ne event (by simpa using other)
  · intro known
    cases known
  · intro known
    cases known

end Step

end DelegatedTurn

/-! ## Runs -/

/--
At most one end of the run is persisted, and if there is one, the run has a
view, and every view of it shows the final status that the coordinator
returned.
-/
structure ProjectionAgrees (runId : String) (turn : DelegatedTurn) :
    Prop where
  atMostOne : (terminalEventsOf runId turn.log).length ≤ 1
  viewed : terminalEventsOf runId turn.log ≠ [] →
      ∃ view ∈ readMultiAgentRuns turn.log none, view.runId = runId
  agrees : terminalEventsOf runId turn.log ≠ [] → ∀ status, turn.returned = some status →
        ∀ limit, ∀ view ∈ readMultiAgentRuns turn.log limit,
          view.runId = runId → view.status = status.text

theorem projects_of_reaches
    {filter : EventFilter} {runId parentRequestId : String}
    {turn : DelegatedTurn}
    (reached : (delegatedTurns filter runId parentRequestId).Reaches
        DelegatedTurn.repeatsNoEnd turn) :
    turn.Projects runId ∧ runId ≠ "" := by
  induction reached with
  | start initial =>
    rcases initial with ⟨nonempty, log, rfl, foreign⟩
    exact ⟨.start foreign, nonempty⟩
  | next earlier allowed stepped induction =>
    exact ⟨induction.1.step induction.2 parentRequestId allowed stepped, induction.2⟩

/--
While the sink repeats no other end after a persisted one, the persisted
projection of the run is the final status that the coordinator returned.
-/
theorem persisted_projection_agrees
    {filter : EventFilter} {runId parentRequestId : String}
    {turn : DelegatedTurn}
    (reached : (delegatedTurns filter runId parentRequestId).Reaches
        DelegatedTurn.repeatsNoEnd turn) :
    ProjectionAgrees runId turn := by
  have projects := (projects_of_reaches reached).1
  have told := DelegatedTurn.told_of_threadProjects projects.thread
  have traced := projects.recorded.traced
  refine ⟨?_, ?_, ?_⟩
  · rw [traced, List.length_map]
    exact told.atMostOne
  · intro present
    obtain ⟨status, later, ends⟩ := List.exists_cons_of_ne_nil present
    rcases view_of_ended ends with ⟨view, member, named, -⟩
    exact ⟨view, member, named⟩
  · intro present status returned limit view member named
    obtain ⟨first, later, ends⟩ := List.exists_cons_of_ne_nil present
    rw [status_of_view ends member named]
    have inside : first ∈ turn.persisted.map RunStatus.text := by
      rw [← traced, ends]
      exact List.mem_cons_self
    rcases List.mem_map.mp inside with ⟨other, persisted, rfl⟩
    rw [told.agrees status returned other persisted]

/-- A delegated run whose workers have been collected. -/
def collectedRun : List DelegateLabel :=
  let node : MultiAgentNode := {
    nodeId := "worker-1"
    role := "review"
    status := .completed
    content := some "done" }
  [.invoke (some { strategy := .fanOutFanIn, roles := ["review"] }),
    .emitted .delivered, .emitted .delivered, .emitted .delivered,
    .workerEvent node .delivered, .collected [node] false false false]

/-- Texts that are already safe stay as they are. -/
def plainFilter : EventFilter where
  safeTaskLabel := id
  safeError := id

/-- A sink that never raises lets the trace show the completed run. -/
theorem persisted_projection_agrees_completed : ∃ turn, turn.returned = some .completed ∧
      ProjectionAgrees "run" turn := by
  have evaluated :
      (delegatedTurns plainFilter "run" "request").runGuarded DelegatedTurn.repeatsNoEnd (.start [])
        (collectedRun ++ [.finish .completed false, .emitted .delivered]) =
          some _ := rfl
  refine ⟨_, ?_, persisted_projection_agrees (.runGuarded (.start ?_) evaluated)⟩
  · rfl
  · exact ⟨by decide, [], rfl, fun _ member => absurd member List.not_mem_nil⟩

/--
The sink writes the row of the completed run and then raises: the coordinator
emits a second end and returns it, and the reader keeps the first one.
-/
theorem projection_disagrees_after_written_row : ∃ turn,
      (delegatedTurns plainFilter "run" "request").Reachable turn ∧
        terminalEventsOf "run" turn.log = ["completed", "failed"] ∧
        turn.returned = some .failed ∧
        (readMultiAgentRuns turn.log none).map (·.status) = ["completed"] ∧
        ¬ ProjectionAgrees "run" turn := by
  have evaluated :
      (delegatedTurns plainFilter "run" "request").run (.start [])
        (collectedRun ++ [.finish .completed false, .emitted (.raised true),
            .emitted .delivered]) = some _ := rfl
  have initial : (delegatedTurns plainFilter "run" "request").initial
      (.start []) :=
    ⟨by decide, [], rfl, fun _ member => absurd member List.not_mem_nil⟩
  have reached := Machine.Reachable.run (.start initial) evaluated
  refine ⟨_, reached, ?_, ?_, ?_, ?_⟩
  · decide
  · rfl
  · decide
  · intro agrees
    exact absurd agrees.atMostOne (by decide)

end TurningGood.MultiAgent
