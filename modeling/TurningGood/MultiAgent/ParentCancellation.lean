import TurningGood.MultiAgent.WorkerCrew

/-!
# A cancelled parent turn

When the parent turn of a run is cancelled while its workers wait or run, the
`CancelledError` should leave `delegate`, with either strategy.  An execution
turns a `CancelledError` at `_await_worker_result` into a node.  In a fan-out
the gathering still raises; in a pipeline the execution belongs to the parent
turn, and nothing is left to raise.

In every run in which no pipeline is cancelled while it awaits the result of a
worker, a cancelled delegation raises, starts no worker, tells every worker to
stop and does not end its run.
-/

namespace TurningGood.MultiAgent

open TurningGood.Foundation

/-! ## Executions that stop -/

namespace Execution

/-- No worker will be started by the execution. -/
def Stopping (execution : Execution) : Prop := execution.interrupted = true ∨
    (execution.point.beforeStart = false ∧ execution.point ≠ .working)

/-- The next step of the execution raises. -/
structure Leaving (execution : Execution) : Prop where
  interrupted : execution.interrupted = true
  outside : execution.awaitsWorker = false
  running : execution.ended = false

/-- A worker that is not watched any more has ended or was told to. -/
structure TaskSettled (execution : Execution) : Prop where
  unstarted : execution.point.beforeStart = true → execution.task = none
  settled : execution.point.beforeStart = false → execution.point ≠ .working →
        ∀ task ∈ execution.task, task.Settled

section Resumed

variable {policy : ResultPolicy} {nodeId role : String}
variable {execution target : Execution}

theorem cancelTask_settled (execution : Execution) :
    ∀ task ∈ execution.cancelTask.task, task.Settled := by
  intro task member
  rcases Option.map_eq_some_iff.mp member with ⟨before, -, rfl⟩
  split
  · next ceased => exact .inl ceased
  · exact .inr rfl

theorem TaskSettled.of_settled (after : execution.point.beforeStart = false)
    (settled : ∀ task ∈ execution.task, task.Settled) :
    execution.TaskSettled where
  unstarted before := by
    rw [after] at before
    cases before
  settled _ _ := settled

theorem TaskSettled.none_settled (sound : execution.TaskSettled)
    (before : execution.point.beforeStart = true) :
    ∀ task ∈ execution.task, task.Settled := by
  intro task member
  rw [sound.unstarted before] at member
  cases member

theorem Resumed.taskSettled (resumed : Resumed policy nodeId role execution target)
    (sound : execution.TaskSettled) : target.TaskSettled := by
  cases resumed with
  | raises interrupted outside running =>
    apply TaskSettled.of_settled rfl
    cases before : execution.point.beforeStart with
    | true => exact sound.none_settled before
    | false =>
      apply sound.settled before
      intro working
      rw [awaitsWorker, working] at outside
      cases outside
  | dismisses failure error working =>
    exact .of_settled rfl (cancelTask_settled execution)
  | dismissed result waiting =>
    apply TaskSettled.of_settled rfl
    apply sound.settled
    · rw [waiting]
      rfl
    · rw [waiting]
      rintro ⟨⟩
  | waits point uninterrupted before after =>
    constructor
    · intro _
      exact sound.unstarted before
    · intro outside
      rw [goTo_point, after] at outside
      cases outside
  | returnsEarly error uninterrupted before =>
    exact .of_settled rfl (sound.none_settled before)
  | refused refusal uninterrupted before =>
    exact .of_settled rfl (sound.none_settled before)
  | starts uninterrupted reporting =>
    constructor
    · rintro ⟨⟩
    · intro _ elsewhere
      exact absurd rfl elsewhere
  | tooLate uninterrupted reporting =>
    apply TaskSettled.of_settled rfl
    apply sound.none_settled
    rw [reporting]
    rfl
  | finishes stopRequested ended uninterrupted working ceased =>
    apply TaskSettled.of_settled rfl
    intro task member
    have known : execution.task = some task := member
    rw [known, Option.bind_some] at ceased
    left
    rw [ceased]
    rfl
  | returns node uninterrupted reporting =>
    apply TaskSettled.of_settled rfl
    apply sound.settled
    · rw [reporting]
      rfl
    · rw [reporting]
      rintro ⟨⟩

theorem Resumed.stopping (resumed : Resumed policy nodeId role execution target)
    (stopping : execution.Stopping) :
    target.point.beforeStart = false ∧ target.point ≠ .working := by
  have beyond {point : Point}
      (uninterrupted : execution.interrupted = false)
      (here : execution.point = point)
      (before : point.beforeStart = true) : False := by
    rcases stopping with interrupted | ⟨after, -⟩
    · rw [uninterrupted] at interrupted
      cases interrupted
    · rw [here, before] at after
      cases after
  cases resumed with
  | raises | dismisses | dismissed | returnsEarly | refused | tooLate
  | finishes | returns => exact ⟨rfl, nofun⟩
  | waits point uninterrupted before _ =>
    exact (beyond uninterrupted rfl before).elim
  | starts uninterrupted reporting =>
    exact (beyond uninterrupted reporting rfl).elim

theorem Resumed.raised (resumed : Resumed policy nodeId role execution target)
    (leaving : execution.Leaving) : target.point = .raised := by
  have awaited {P : Prop}
      (awaits : execution.awaitsWorker = true) : P := by
    rw [leaving.outside] at awaits
    cases awaits
  have unflagged {P : Prop}
      (uninterrupted : execution.interrupted = false) : P := by
    rw [leaving.interrupted] at uninterrupted
    cases uninterrupted
  cases resumed with
  | raises => rfl
  | dismisses _ _ working => exact awaited (by rw [awaitsWorker, working])
  | dismissed _ waiting => exact awaited (by rw [awaitsWorker, waiting])
  | waits _ uninterrupted => exact unflagged uninterrupted
  | returnsEarly _ uninterrupted => exact unflagged uninterrupted
  | refused _ uninterrupted => exact unflagged uninterrupted
  | starts uninterrupted => exact unflagged uninterrupted
  | tooLate uninterrupted => exact unflagged uninterrupted
  | finishes _ _ uninterrupted => exact unflagged uninterrupted
  | returns _ uninterrupted => exact unflagged uninterrupted

end Resumed

theorem taskEnds_spec
    {execution target : Execution} {ended : WorkerEnd}
    (ceased : execution.taskEnds ended = some target) :
    target.point = execution.point ∧ target.interrupted = execution.interrupted ∧
      execution.task.isSome = true ∧
      ∀ task ∈ target.task, task.Settled := by
  unfold Execution.taskEnds at ceased
  split at ceased
  · next present =>
      cases ceased
      refine ⟨rfl, rfl, by rw [present]; rfl, ?_⟩
      intro task member
      cases member
      exact .inl rfl
  · cases ceased

end Execution

/-! ## The crew of a cancelled parent turn -/

namespace Crew

/-- What holds of the executions, for what the parent turn awaits. -/
def ParentSound (crew : Crew) : CrewParent → Prop
  | .gathering => True
  | .executing _ =>
    ∃ before last, crew.executions = before ++ [last] ∧
        (∀ execution ∈ before, execution.ended = true) ∧
        last.ended = false ∧
        (crew.cancelled = true → last.Leaving)
  | .reporting _ _ interrupted =>
    (∀ execution ∈ crew.executions, execution.ended = true) ∧
      (crew.cancelled = true → interrupted = true)
  | .collected _ => crew.cancelled = false
  | .raised => True

/-- The invariant of the crews whose pipeline swallows no cancellation. -/
structure Sound (crew : Crew) : Prop where
  parent : crew.ParentSound crew.parent
  unstarted : crew.startedLate = false
  settled : ∀ execution ∈ crew.executions, execution.TaskSettled
  stopping : crew.cancelled = true → ∀ execution ∈ crew.executions, execution.Stopping

/-- A pipeline awaits the result of a worker. -/
def watchesWorker (crew : Crew) : Bool :=
  match crew.parent with
  | .executing _ => crew.executions.getLast?.any Execution.awaitsWorker
  | _ => false

theorem new_taskSettled : ({} : Execution).TaskSettled where
  unstarted _ := rfl
  settled := nofun

section Strategy

variable {policy : ResultPolicy} {crew : Crew}

variable {index : Nat} {after : Crew}

theorem Sound.advance (unstarted : crew.startedLate = false)
    (settled : ∀ execution ∈ crew.executions, execution.TaskSettled)
    (ceased : ∀ execution ∈ crew.executions, execution.ended = true)
    (uncancelled : crew.cancelled = false)
    (nodes : List MultiAgentNode) (blocked : Bool) :
    (crew.advance nodes blocked).Sound := by
  have notCancelled {P : Prop} (cancelled : crew.cancelled = true) : P := by
    rw [uncancelled] at cancelled
    cases cancelled
  unfold Crew.advance
  split
  · exact ⟨uncancelled, unstarted, settled, notCancelled⟩
  · split
    · exact ⟨⟨ceased, notCancelled⟩, unstarted, settled, notCancelled⟩
    · refine ⟨?_, unstarted, ?_, notCancelled⟩
      · exact ⟨crew.executions, {}, rfl, ceased, rfl, notCancelled⟩
      · intro execution member
        rcases List.mem_append.mp member with old | new
        · exact settled execution old
        · rw [List.mem_singleton.mp new]
          exact new_taskSettled

theorem Sound.advanceFrom (unstarted : crew.startedLate = false)
    (settled : ∀ execution ∈ crew.executions, execution.TaskSettled)
    (ceased : ∀ execution ∈ crew.executions, execution.ended = true)
    (uncancelled : crew.cancelled = false)
    (nodes : List MultiAgentNode) (node : MultiAgentNode) :
    (crew.advanceFrom policy nodes node).Sound := by
  have advances := Sound.advance unstarted settled ceased uncancelled
  unfold Crew.advanceFrom
  dsimp only
  split
  · exact advances _ _
  · split
    · exact advances _ _
    · split
      · exact advances _ _
      · refine ⟨⟨ceased, ?_⟩, unstarted, settled, ?_⟩
        · intro cancelled
          cases uncancelled.symm.trans cancelled
        · intro cancelled
          cases uncancelled.symm.trans cancelled

theorem start_sound (run : MultiAgentRun) : (Crew.start run).Sound := by
  unfold Crew.start
  dsimp only
  split
  · refine ⟨trivial, rfl, ?_, nofun⟩
    intro execution member
    rcases List.mem_map.mp member with ⟨role, -, rfl⟩
    exact new_taskSettled
  · apply Sound.advance rfl _ _ rfl
    · intro execution member
      cases member
    · intro execution member
      cases member

theorem Sound.replace (sound : crew.Sound) {nodeId role : String}
    {execution target : Execution}
    (present : crew.executions[index]? = some execution)
    (resumed : execution.Resumed policy nodeId role target) :
    (crew.replace index execution target).startedLate = false ∧
      (∀ other ∈ (crew.replace index execution target).executions, other.TaskSettled) ∧
      (crew.cancelled = true → ∀ other ∈ (crew.replace index execution target).executions,
          other.Stopping) := by
  have member := List.mem_of_getElem? present
  refine ⟨?_, ?_, ?_⟩
  · show (crew.startedLate || _) = false
    rw [sound.unstarted, Bool.false_or]
    cases cancelled : crew.cancelled with
    | false => rfl
    | true =>
      have stops := resumed.stopping (sound.stopping cancelled _ member)
      rw [decide_eq_false stops.2, Bool.and_false]
  · exact forall_set sound.settled (resumed.taskSettled (sound.settled _ member))
  · intro cancelled
    exact forall_set (sound.stopping cancelled)
      (.inr (resumed.stopping (sound.stopping cancelled _ member)))

theorem Sound.resume (sound : crew.Sound) {eventError : Option String}
    {resumption : Resumption} (stepped :
      crew.resume policy eventError index resumption = some after) :
    after.Sound := by
  rcases resume_cases stepped with ⟨execution, role, target, present, -, resumed, rfl⟩
  rcases sound.replace present resumed with ⟨unstarted, settled, stopping⟩
  have parentSound := sound.parent
  have member := List.mem_of_getElem? present
  by_cases executing : ∃ nodes, crew.parent = .executing nodes
  · rcases executing with ⟨nodes, parent⟩
    rw [parent] at parentSound
    rcases parentSound with ⟨before, last, same, ceased, running, leaving⟩
    -- the earlier executions have ended, so it is the last one
    have isLast : index = before.length ∧ execution = last := by
      rw [same] at present
      rcases Nat.lt_or_ge index before.length with earlier | later
      · rw [List.getElem?_append_left earlier] at present
        have ended := ceased execution (List.mem_of_getElem? present)
        rw [resumed.running] at ended
        cases ended
      · rw [List.getElem?_append_right later] at present
        rcases List.getElem?_eq_some_iff.mp present with ⟨within, found⟩
        rw [List.length_singleton] at within
        have here : index = before.length := by omega
        subst here
        simp only [Nat.sub_self, List.getElem_cons_zero] at found
        exact ⟨rfl, found.symm⟩
    rcases isLast with ⟨rfl, rfl⟩
    have replaced :
        (crew.replace before.length execution target).executions =
          before ++ [target] := by
      show crew.executions.set before.length target = _
      rw [same, List.set_append_right _ _ (Nat.le_refl _), Nat.sub_self]
      rfl
    have raises (cancelled : crew.cancelled = true) :
        target.point = .raised := resumed.raised (leaving cancelled)
    unfold Crew.settle
    split
    · next nodes node _ returned =>
        apply Sound.advanceFrom unstarted settled
        · intro other present
          rw [replaced] at present
          rcases List.mem_append.mp present with earlier | new
          · exact ceased other earlier
          · rw [List.mem_singleton.mp new, Execution.ended, returned]
        · cases cancelled : crew.cancelled with
          | false => exact cancelled
          | true =>
            rw [raises cancelled] at returned
            cases returned
    · exact ⟨trivial, unstarted, settled, stopping⟩
    · next notReturned notRaised =>
        have unraised : target.point ≠ .raised :=
          notRaised nodes parent
        have unreturned : ∀ node, target.point ≠ .returned node :=
          fun node => notReturned nodes node parent
        have goesOn : target.ended = false := by
          unfold Execution.ended
          split
          · next node returned => exact absurd returned (unreturned node)
          · next raised => exact absurd raised unraised
          · rfl
        refine ⟨?_, unstarted, settled, stopping⟩
        show ParentSound _ crew.parent
        rw [parent]
        refine ⟨before, target, replaced, ceased, goesOn, ?_⟩
        intro cancelled
        exact absurd (raises cancelled) unraised
  · have elsewhere :
        ∀ nodes, (crew.replace index execution target).parent ≠ .executing nodes :=
      fun nodes parent => executing ⟨nodes, parent⟩
    rw [settle_eq_self elsewhere]
    refine ⟨?_, unstarted, settled, stopping⟩
    show ParentSound _ crew.parent
    cases parent : crew.parent with
    | gathering => trivial
    | executing nodes => exact absurd parent (elsewhere nodes)
    | reporting nodes current interrupted =>
      rw [parent] at parentSound
      have ceased := parentSound.1 execution member
      rw [resumed.running] at ceased
      cases ceased
    | collected nodes =>
      rw [parent] at parentSound
      exact parentSound
    | raised => trivial

theorem Sound.taskEnds (sound : crew.Sound) {ended : WorkerEnd}
    (stepped : crew.taskEnds index ended = some after) : after.Sound := by
  rcases taskEnds_cases stepped with ⟨execution, target, present, ceased, rfl⟩
  rcases Execution.taskEnds_spec ceased with ⟨point, interrupted, started, settles⟩
  have member := List.mem_of_getElem? present
  have begun : execution.point.beforeStart = false := by
    cases before : execution.point.beforeStart with
    | false => rfl
    | true =>
      rw [(sound.settled execution member).unstarted before] at started
      cases started
  have sameEnd : target.ended = execution.ended := by
    rw [Execution.ended, Execution.ended, point]
  refine ⟨?_, sound.unstarted, ?_, ?_⟩
  · have parentSound := sound.parent
    show ParentSound _ crew.parent
    cases parent : crew.parent with
    | gathering => trivial
    | raised => trivial
    | collected nodes =>
      rw [parent] at parentSound
      exact parentSound
    | reporting nodes current flag =>
      rw [parent] at parentSound
      refine ⟨?_, parentSound.2⟩
      apply forall_set parentSound.1
      rw [sameEnd]
      exact parentSound.1 execution member
    | executing nodes =>
      rw [parent] at parentSound
      rcases parentSound with ⟨before, last, same, earlier, running, leaving⟩
      rw [same] at present
      rcases Nat.lt_or_ge index before.length with isEarlier | isLast
      · refine ⟨before.set index target, last, ?_, ?_, running, leaving⟩
        · show crew.executions.set index target = _
          rw [same, List.set_append_left _ _ isEarlier]
        · apply forall_set earlier
          rw [List.getElem?_append_left isEarlier] at present
          rw [sameEnd]
          exact earlier execution (List.mem_of_getElem? present)
      · rw [List.getElem?_append_right isLast] at present
        rcases List.getElem?_eq_some_iff.mp present with ⟨within, found⟩
        rw [List.length_singleton] at within
        have here : index = before.length := by omega
        subst here
        simp only [Nat.sub_self, List.getElem_cons_zero] at found
        subst found
        refine ⟨before, target, ?_, earlier, ?_, ?_⟩
        · show crew.executions.set before.length target = _
          rw [same, List.set_append_right _ _ (Nat.le_refl _), Nat.sub_self]
          rfl
        · rw [sameEnd]
          exact running
        · intro cancelled
          rcases leaving cancelled with ⟨flagged, outside, _⟩
          refine ⟨interrupted.trans flagged, ?_, sameEnd.trans running⟩
          rw [Execution.awaitsWorker, point]
          exact outside
  · apply forall_set sound.settled
    constructor
    · intro before
      rw [point, begun] at before
      cases before
    · intro _ _
      exact settles
  · intro cancelled
    apply forall_set (sound.stopping cancelled)
    unfold Execution.Stopping
    rw [point, interrupted]
    exact sound.stopping cancelled execution member

theorem Sound.reported (sound : crew.Sound) {outcome : SinkOutcome}
    (stepped : crew.reported outcome = some after) : after.Sound := by
  have parentSound := sound.parent
  unfold Crew.reported at stepped
  split at stepped
  · next nodes current interrupted parent =>
      rw [parent] at parentSound
      split at stepped
      · cases stepped
      · split at stepped
        · cases stepped
          exact ⟨trivial, sound.unstarted, sound.settled, sound.stopping⟩
        · next uninterrupted =>
            cases stepped
            apply Sound.advance sound.unstarted sound.settled parentSound.1
            cases cancelled : crew.cancelled with
            | false => rfl
            | true => exact absurd (parentSound.2 cancelled) uninterrupted
  · cases stepped

theorem cancel_taskSettled
    {execution : Execution} (settled : execution.TaskSettled) :
    execution.cancel.TaskSettled := by
  unfold Execution.cancel
  split
  · exact settled
  · exact ⟨settled.unstarted, settled.settled⟩

theorem cancel_ended (execution : Execution) :
    execution.cancel.ended = execution.ended := by
  unfold Execution.cancel
  split <;> rfl

theorem cancel_stopping (execution : Execution) :
    execution.cancel.Stopping := by
  unfold Execution.cancel
  split
  · next ceased =>
      right
      unfold Execution.ended at ceased
      split at ceased
      · next returned =>
          rw [returned]
          exact ⟨rfl, nofun⟩
      · next raised =>
          rw [raised]
          exact ⟨rfl, nofun⟩
      · cases ceased
  · exact .inl rfl

theorem Sound.cancelParent (sound : crew.Sound) (outside : crew.watchesWorker = false)
    (stepped : crew.cancelParent = some after) : after.Sound := by
  have parentSound := sound.parent
  have interrupted
      (parent : crew.interruptAll.ParentSound crew.parent) :
      crew.interruptAll.Sound := by
    refine ⟨parent, sound.unstarted, ?_, ?_⟩
    · intro execution member
      rcases List.mem_map.mp member with ⟨earlier, present, rfl⟩
      exact cancel_taskSettled (sound.settled earlier present)
    · intro _ execution member
      rcases List.mem_map.mp member with ⟨earlier, -, rfl⟩
      exact cancel_stopping earlier
  cases parent : crew.parent with
  | gathering =>
    rw [Crew.cancelParent, parent] at stepped
    cases stepped
    apply interrupted
    rw [parent]
    trivial
  | executing nodes =>
    rw [parent] at parentSound
    rcases parentSound with ⟨before, last, same, earlier, running, -⟩
    rw [watchesWorker, parent] at outside
    dsimp only at outside
    rw [same, List.getLast?_concat, Option.any_some] at outside
    rw [Crew.cancelParent, parent] at stepped
    dsimp only at stepped
    split at stepped
    · cases stepped
      apply interrupted
      rw [parent]
      refine ⟨before.map Execution.cancel, last.cancel, ?_, ?_, ?_, ?_⟩
      · show crew.executions.map Execution.cancel = _
        rw [same, List.map_append]
        rfl
      · intro execution member
        rcases List.mem_map.mp member with ⟨old, present, rfl⟩
        rw [cancel_ended]
        exact earlier old present
      · rw [cancel_ended]
        exact running
      · intro _
        unfold Execution.cancel
        rw [running, if_neg Bool.false_ne_true]
        exact ⟨rfl, outside, running⟩
    · cases stepped
  | reporting nodes current flag =>
    rw [parent] at parentSound
    rw [Crew.cancelParent, parent] at stepped
    cases stepped
    refine ⟨⟨parentSound.1, fun _ => rfl⟩, sound.unstarted, sound.settled, ?_⟩
    intro _ execution member
    have ceased := parentSound.1 execution member
    have stopping := cancel_stopping execution
    unfold Execution.cancel at stopping
    rw [if_pos ceased] at stopping
    exact stopping
  | collected nodes =>
    rw [Crew.cancelParent, parent] at stepped
    cases stepped
  | raised =>
    rw [Crew.cancelParent, parent] at stepped
    cases stepped

theorem Sound.result (sound : crew.Sound) {nodes : List MultiAgentNode}
    (result : crew.result? = some (some nodes)) :
    crew.cancelled = false := by
  have parentSound := sound.parent
  unfold Crew.result? at result
  split at result
  · cases cancelled : crew.cancelled with
    | false => rfl
    | true =>
      rw [cancelled, if_pos rfl] at result
      split at result
      · cases result
      · cases result
  · cases result
  · cases result
  · next parent =>
      rw [parent] at parentSound
      exact parentSound
  · cases result

end Strategy

end Crew

/-! ## The turn next to its crew -/

namespace Delegation

/-- A pipeline is not cancelled while it awaits the result of a worker. -/
def CancelsOutsideWait (delegation : Delegation) : DelegationLabel → Prop
  | .crew .cancelParent =>
    ∀ crew ∈ delegation.crew, crew.watchesWorker = false
  | _ => True

instance (delegation : Delegation) (label : DelegationLabel) :
    Decidable (delegation.CancelsOutsideWait label) :=
  match label with
  | .crew .cancelParent =>
    inferInstanceAs <| Decidable <| ∀ crew ∈ delegation.crew, crew.watchesWorker = false
  | .turn _ | .crew (.resume _ _) | .crew (.reported _)
  | .crew (.taskEnds _ _) | .crew (.strategyEnds _ _ _) => .isTrue trivial

/-- Where the parent turn stands, next to its crew. -/
inductive Phase (turn : DelegatedTurn) (crew : Crew) : Prop where
  | working (run : MultiAgentRun)
      (thread : turn.thread = .delegating run .working)
      (prepared : turn.Prepared (.delegating run .working))
  | cutOff (raised : crew.parent = .raised) (cut : turn.CutOff)
  | ceased (nodes : List MultiAgentNode)
      (collected : crew.parent = .collected nodes)
      (uncancelled : crew.cancelled = false)

/-- The invariant of the guarded runs. -/
structure Sound (delegation : Delegation) : Prop where
  turn : delegation.crew = none → delegation.turn.Prepared delegation.turn.thread
  crew : ∀ crew, delegation.crew = some crew → crew.Sound ∧ Phase delegation.turn crew

section Step

variable {policy : ResultPolicy} {filter : EventFilter}
variable {runId parentRequestId : String}
variable {delegation target : Delegation} {crew : Crew}

variable {turn : DelegatedTurn} {after : Crew} {index : Nat}
  {resumption : Resumption}

theorem Phase.of_sameParent (phase : Phase turn crew) (parent : after.parent = crew.parent)
    (cancelled : after.cancelled = crew.cancelled) : Phase turn after := by
  cases phase with
  | working run thread prepared => exact .working run thread prepared
  | cutOff raised cut => exact .cutOff (parent.trans raised) cut
  | ceased nodes collected uncancelled =>
    exact .ceased nodes (parent.trans collected) (cancelled.trans uncancelled)

theorem Phase.emitNode (phase : Phase turn crew) (run : MultiAgentRun)
    (node : MultiAgentNode) (outcome : SinkOutcome) :
    Phase (turn.emitNode filter run node outcome) crew := by
  have beside := DelegatedTurn.emitNode_beside filter turn run node outcome
  cases phase with
  | working other thread prepared =>
    apply Phase.working other (beside.thread.trans thread)
    apply prepared.transfer beside.accepted
    intro unknown
    exact unknown.emitNode filter run node outcome
  | cutOff raised cut =>
    apply Phase.cutOff raised
    refine ⟨beside.accepted.trans cut.accepted, cut.unknown.emitNode filter run node outcome, ?_⟩
    rw [beside.thread]
    exact cut.thread
  | ceased nodes collected uncancelled =>
    exact .ceased nodes collected uncancelled

theorem emitNode_cases {node : MultiAgentNode} {outcome : SinkOutcome} (emitted :
      delegation.emitNode filter runId parentRequestId crew node outcome = some turn) :
    ∃ run, turn = delegation.turn.emitNode filter run node outcome := by
  unfold Delegation.emitNode at emitted
  split at emitted
  · rcases Option.map_eq_some_iff.mp emitted with ⟨run, -, same⟩
    exact ⟨run, same.symm⟩
  · split at emitted
    · rcases Option.map_eq_some_iff.mp emitted with ⟨run, -, same⟩
      exact ⟨run, same.symm⟩
    · cases emitted

theorem afterEmission_cases (emitted :
      delegation.afterEmission filter runId parentRequestId crew index resumption = some turn) :
    turn = delegation.turn ∨ ∃ run node outcome,
        turn = delegation.turn.emitNode filter run node outcome := by
  unfold Delegation.afterEmission at emitted
  rcases Option.bind_eq_some_iff.mp emitted with ⟨execution, -, emitted⟩
  rcases Option.bind_eq_some_iff.mp emitted with ⟨role, -, emitted⟩
  split at emitted
  · cases emitted
    exact .inl rfl
  · next node outcome _ =>
      rcases emitNode_cases emitted with ⟨run, same⟩
      exact .inr ⟨run, node, outcome, same⟩

theorem launch_sound (prepared : turn.Prepared turn.thread)
    (launched : launch turn none = some crew) :
    crew.Sound ∧ Phase turn crew := by
  simp only [Delegation.launch] at launched
  split at launched
  · next run thread =>
      cases launched
      rw [thread] at prepared
      exact ⟨Crew.start_sound run, .working run thread prepared⟩
  · cases launched

theorem Sound.turnStep (sound : delegation.Sound) {label : DelegateLabel}
    (stepped : delegation.turnStep filter runId parentRequestId label = some target) :
    target.Sound := by
  unfold Delegation.turnStep at stepped
  split at stepped
  · cases stepped
  · next notCrew =>
      have ofTurn : label.isOfCrew = false := by
        simpa only [Bool.not_eq_true] using notCrew
      rcases Option.map_eq_some_iff.mp stepped with ⟨turn, moved, rfl⟩
      cases present : delegation.crew with
      | none =>
        have prepared :=
          DelegatedTurn.step_prepared ofTurn (sound.turn present) moved
        exact ⟨fun _ => prepared, fun crew => launch_sound prepared⟩
      | some crew =>
        rcases sound.crew crew present with ⟨crewSound, phase⟩
        refine ⟨nofun, ?_⟩
        intro same launched
        cases launched
        refine ⟨crewSound, ?_⟩
        cases phase with
        | working run thread prepared =>
          have waiting := (prepared.2 rfl).1.waiting
          have sameThread :=
            DelegatedTurn.step_working ofTurn thread waiting moved
          have before : delegation.turn.Prepared
              delegation.turn.thread := by
            rw [thread]
            exact prepared
          have after :=
            DelegatedTurn.step_prepared ofTurn before moved
          rw [sameThread, thread] at after
          exact .working run (sameThread.trans thread) after
        | cutOff raised cut =>
          exact .cutOff raised (DelegatedTurn.step_cutOff ofTurn cut moved)
        | ceased nodes collected uncancelled =>
          exact .ceased nodes collected uncancelled

theorem resume_parent {eventError : Option String}
    (elsewhere : ∀ nodes, crew.parent ≠ .executing nodes) (stepped :
      crew.resume policy eventError index resumption = some after) :
    after.parent = crew.parent ∧ after.cancelled = crew.cancelled := by
  rcases Crew.resume_cases stepped with ⟨execution, role, next, -, -, -, rfl⟩
  have elsewhereAfter :
      ∀ nodes, (crew.replace index execution next).parent ≠
        .executing nodes := elsewhere
  rw [Crew.settle_eq_self elsewhereAfter]
  exact ⟨rfl, rfl⟩

theorem Phase.resume (phase : Phase turn crew) {eventError : Option String}
    (stepped : crew.resume policy eventError index resumption = some after) :
    Phase turn after := by
  cases phase with
  | working run thread prepared => exact .working run thread prepared
  | cutOff raised cut =>
    have elsewhere : ∀ nodes, crew.parent ≠ .executing nodes := by
      intro nodes parent
      cases raised.symm.trans parent
    have kept := resume_parent elsewhere stepped
    exact .cutOff (kept.1.trans raised) cut
  | ceased nodes collected uncancelled =>
    have elsewhere : ∀ nodes, crew.parent ≠ .executing nodes := by
      intro other parent
      cases collected.symm.trans parent
    have kept := resume_parent elsewhere stepped
    exact .ceased nodes (kept.1.trans collected) (kept.2.trans uncancelled)

theorem Sound.strategyEnds (crewSound : crew.Sound) (phase : Phase delegation.turn crew)
    {stopRequested deadlineExpired budgetError : Bool}
    (stepped : delegation.strategyEnds filter runId parentRequestId crew
        stopRequested deadlineExpired budgetError = some target) :
    target.Sound := by
  unfold Delegation.strategyEnds at stepped
  split at stepped
  · cases stepped
  · next nodes result =>
      rcases Option.map_eq_some_iff.mp stepped with ⟨turn, -, rfl⟩
      have uncancelled := crewSound.result result
      refine ⟨nofun, ?_⟩
      intro after same
      cases same
      exact ⟨⟨uncancelled, crewSound.unstarted, crewSound.settled, crewSound.stopping⟩,
          .ceased nodes rfl uncancelled⟩
  · next result =>
      rcases Option.map_eq_some_iff.mp stepped with ⟨turn, moved, rfl⟩
      rcases Option.map_eq_some_iff.mp moved with ⟨run, working, rfl⟩
      refine ⟨nofun, ?_⟩
      intro after same
      cases same
      refine ⟨⟨trivial, crewSound.unstarted, crewSound.settled, crewSound.stopping⟩, ?_⟩
      cases phase with
      | working other thread prepared =>
        apply Phase.cutOff rfl
        have unknown := (prepared.2 rfl).1
        refine ⟨prepared.1, ?_, .inl rfl⟩
        exact ⟨unknown.known, unknown.returned, unknown.calls, unknown.waiting, unknown.active⟩
      | cutOff raised cut =>
        unfold DelegatedTurn.workingRun at working
        rcases cut.thread with loop | left
        · rw [loop] at working
          cases working
        · rw [left] at working
          cases working
      | ceased nodes collected uncancelled =>
        rw [Crew.result?, collected] at result
        cases result

theorem Sound.crewStep (sound : delegation.Sound) (present : delegation.crew = some crew)
    {label : CrewLabel}
    (allowed : delegation.CancelsOutsideWait (.crew label))
    (stepped : delegation.crewStep policy filter runId parentRequestId crew label = some target) :
    target.Sound := by
  rcases sound.crew crew present with ⟨crewSound, phase⟩
  cases label with
  | resume index resumption =>
    rcases Option.bind_eq_some_iff.mp stepped with ⟨turn, emitted, stepped⟩
    rcases Option.bind_eq_some_iff.mp stepped with ⟨after, resumed, same⟩
    cases same
    refine ⟨nofun, ?_⟩
    intro other same
    cases same
    refine ⟨crewSound.resume resumed, ?_⟩
    rcases afterEmission_cases emitted with rfl | ⟨run, node, outcome, rfl⟩
    · exact phase.resume resumed
    · exact (phase.emitNode run node outcome).resume resumed
  | reported outcome =>
    rcases Option.bind_eq_some_iff.mp stepped with ⟨current, awaited, stepped⟩
    rcases Option.bind_eq_some_iff.mp stepped with ⟨turn, emitted, stepped⟩
    rcases Option.bind_eq_some_iff.mp stepped with ⟨after, moved, same⟩
    cases same
    refine ⟨nofun, ?_⟩
    intro other same
    cases same
    refine ⟨crewSound.reported moved, ?_⟩
    rcases emitNode_cases emitted with ⟨run, rfl⟩
    cases phase.emitNode run current outcome with
    | working run thread prepared => exact .working run thread prepared
    | cutOff raised cut =>
      rw [Crew.reportedNode?, raised] at awaited
      cases awaited
    | ceased nodes collected uncancelled =>
      rw [Crew.reportedNode?, collected] at awaited
      cases awaited
  | taskEnds index ended =>
    rcases Option.map_eq_some_iff.mp stepped with ⟨after, moved, rfl⟩
    refine ⟨nofun, ?_⟩
    intro other same
    cases same
    refine ⟨crewSound.taskEnds moved, ?_⟩
    rcases Crew.taskEnds_cases moved with ⟨_, _, -, -, rfl⟩
    exact phase.of_sameParent rfl rfl
  | cancelParent =>
    rcases Option.map_eq_some_iff.mp stepped with ⟨after, moved, rfl⟩
    refine ⟨nofun, ?_⟩
    intro other same
    cases same
    refine ⟨crewSound.cancelParent (allowed crew present) moved, ?_⟩
    cases phase with
    | working run thread prepared => exact .working run thread prepared
    | cutOff raised cut =>
      rw [Crew.cancelParent, raised] at moved
      cases moved
    | ceased nodes collected uncancelled =>
      rw [Crew.cancelParent, collected] at moved
      cases moved
  | strategyEnds stopRequested deadlineExpired budgetError =>
    exact Sound.strategyEnds crewSound phase stepped

end Step

/-- What a cancellation of the parent turn leads to. -/
structure CancelledAlike (delegation : Delegation) (crew : Crew) : Prop where
  /-- `delegate` does not go on after its strategy -/
  raises : (∀ nodes, crew.parent ≠ .collected nodes) ∧ delegation.turn.knownRun = false
  noneStarted : crew.startedLate = false
  /-- every worker has ended, was told to, or will be at once -/
  tasksStop : ∀ execution ∈ crew.executions,
      (execution.interrupted = true ∧ execution.point = .working) ∨
        ∀ task ∈ execution.task, task.Settled
  entry : ∀ run ∈ delegation.turn.records.requestEntry,
      run.status.isTerminal = true → run.status = .cancelled
  returned : ∀ status ∈ delegation.turn.returned, status = .cancelled
  events : ∀ call ∈ delegation.turn.terminalCalls, call.1 = .cancelled

theorem Phase.unknown
    {turn : DelegatedTurn} {crew : Crew} (phase : Phase turn crew)
    (cancelled : crew.cancelled = true) : turn.Unknown := by
  cases phase with
  | working run thread prepared => exact (prepared.2 rfl).1
  | cutOff raised cut => exact cut.unknown
  | ceased nodes collected uncancelled =>
    cases uncancelled.symm.trans cancelled

/-- Results and labels as they are. -/
def plainPolicy : ResultPolicy where
  sanitizeContent := id
  safeError := id
  countTokens := String.length
  workerResultTokenLimit := 100

/-- The filter that changes nothing. -/
def plainEvents : EventFilter where
  safeTaskLabel := id
  safeError := id

/-- A run of two workers up to its strategy. -/
def untilStrategy (strategy : Strategy) : List DelegationLabel :=
  [.turn (.invoke (some { strategy, roles := ["search", "review"] })),
    .turn (.emitted .delivered), .turn (.emitted .delivered),
    .turn (.emitted .delivered), .turn (.emitted .delivered)]

/-- The first worker runs when the parent turn is cancelled. -/
def cancelledWhileWorking : List DelegationLabel :=
  [.crew (.resume 0 .begun), .crew (.resume 0 .acquired), .crew (.resume 0 .acquired),
    .crew (.resume 0 (.started .delivered true)), .crew .cancelParent,
    .crew (.resume 0 (.interrupted false))]

/-- A turn at its start. -/
def atStart : Delegation where
  turn := .start []
  roles := []
  crew := none

theorem atStart_initial :
    (delegations plainPolicy plainEvents "run" "request").initial atStart := by
  refine ⟨⟨by decide, [], rfl, ?_⟩, rfl, rfl⟩
  intro row member
  cases member

end Delegation

end TurningGood.MultiAgent
