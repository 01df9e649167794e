import TurningGood.MultiAgent.WorkerSlots
import Mathlib.Algebra.Order.BigOperators.Group.List
import Mathlib.Algebra.Order.Ring.Nat

/-!
# Many delegated runs on one coordinator

The runs of a coordinator share its semaphore, and each of them makes its
own.  A step of the system is a step of one of them; the step of a call of
`_run_worker` that takes a permit waits for one.
-/

namespace TurningGood.MultiAgent

open TurningGood.Foundation

/-! ## The system -/

/-- A parent turn with its run, the semaphore of it and what its calls use. -/
structure SlottedRun where
  runId : String
  parentRequestId : String
  delegation : Delegation
  perRun : Nat
  uses : List SlotUse

/-- The runs of a coordinator and the value of its semaphore. -/
structure WorkerFleet where
  runs : List SlottedRun
  global : Nat

/-- The limits of a coordinator. -/
structure WorkerLimits where
  perRun : Nat
  global : Nat

namespace SlottedRun

variable (policy : ResultPolicy) (filter : EventFilter) (run : SlottedRun)

/-- The calls of `_run_worker`. -/
def executions : List Execution := run.delegation.executions

/-- The calls that have begun since use nothing. -/
def follow (delegation : Delegation) (uses : List SlotUse)
    (semaphores : Semaphores) : SlottedRun × Nat :=
  ({ run with
      delegation
      perRun := semaphores.perRun
      uses := uses ++ List.replicate (delegation.executions.length - uses.length) {} },
    semaphores.global)

/-- A step of the run, with the value of the semaphore of the coordinator. -/
def step (global : Nat) (label : DelegationLabel) :
    Option (SlottedRun × Nat) := do
  let delegation ←
    run.delegation.step policy filter run.runId run.parentRequestId label
  match Delegation.resumedIndex label with
  | none => return run.follow delegation run.uses ⟨run.perRun, global⟩
  | some index => do
    let use ← run.uses[index]?
    let before ← run.executions[index]?
    let after ← delegation.executions[index]?
    let (used, semaphores) ←
      use.follow ⟨run.perRun, global⟩ before.point after.point
    return run.follow delegation (run.uses.set index used) semaphores

end SlottedRun

namespace WorkerFleet

variable (policy : ResultPolicy) (filter : EventFilter)

/-- A step of one run. -/
def step (fleet : WorkerFleet) (label : Nat × DelegationLabel) :
    Option WorkerFleet := do
  let run ← fleet.runs[label.1]?
  let (target, global) ← run.step policy filter fleet.global label.2
  return { runs := fleet.runs.set label.1 target, global }

end WorkerFleet

/-- The fleets of a coordinator with some limits. -/
def workerFleets (policy : ResultPolicy) (filter : EventFilter)
    (limits : WorkerLimits) : Machine WorkerFleet (Nat × DelegationLabel) where
  initial fleet := fleet.global = limits.global ∧ ∀ run ∈ fleet.runs,
      (delegations policy filter run.runId run.parentRequestId).initial
        run.delegation ∧ run.perRun = limits.perRun ∧ run.uses = []
  step fleet label := fleet.step policy filter label

/-! ## Permits and calls -/

namespace SlottedRun

variable {policy : ResultPolicy} {filter : EventFilter} {run : SlottedRun}

variable {kept : List Execution}

/-- The permits of the semaphore of the run that its calls have. -/
def heldRun (run : SlottedRun) : Nat := (run.uses.map SlotUse.heldRun).sum

/-- The permits of the semaphore of the coordinator that its calls have. -/
def heldGlobal (run : SlottedRun) : Nat := (run.uses.map SlotUse.heldGlobal).sum

/-- The calls have what their points say, and no permit is lost. -/
structure Sound (limit : Nat) (run : SlottedRun) : Prop where
  uses : List.Forall₂ UseSound run.executions run.uses
  permits : run.perRun + run.heldRun = limit

variable {uses : List SlotUse}

theorem forall₂_grows {after : List Execution}
    (paired : List.Forall₂ UseSound kept uses) (grows : Crew.Grows kept after) :
    List.Forall₂ UseSound after
      (uses ++ List.replicate (after.length - uses.length) ({} : SlotUse)) := by
  rcases grows with ⟨added, rfl, fresh⟩
  have length : (kept ++ added).length - uses.length = added.length := by
    rw [List.length_append, paired.length_eq]
    omega
  rw [length]
  exact List.rel_append paired (forall₂_replicate UseSound.new fresh)

theorem forall₂_unmoved {before : List Execution} (paired : List.Forall₂ UseSound before uses)
    (unmoved : List.Forall₂ Execution.Unmoved before kept) :
    List.Forall₂ UseSound kept uses := by
  induction unmoved generalizing uses with
  | nil => exact paired
  | cons one _ induction =>
    cases paired with
    | cons sound rest => exact .cons (sound.unmoved one) (induction rest)

theorem sum_padded (weight : SlotUse → Nat) (nothing : weight {} = 0)
    (uses : List SlotUse) (count : Nat) :
    ((uses ++ List.replicate count ({} : SlotUse)).map weight).sum = (uses.map weight).sum := by
  simp [nothing]

theorem heldRun_follow (run : SlottedRun) (delegation : Delegation)
    (uses : List SlotUse) (semaphores : Semaphores) :
    (run.follow delegation uses semaphores).1.heldRun = (uses.map SlotUse.heldRun).sum :=
  sum_padded _ rfl _ _

theorem heldGlobal_follow (run : SlottedRun) (delegation : Delegation)
    (uses : List SlotUse) (semaphores : Semaphores) :
    (run.follow delegation uses semaphores).1.heldGlobal = (uses.map SlotUse.heldGlobal).sum :=
  sum_padded _ rfl _ _

theorem follow_sound {limit : Nat} {delegation : Delegation}
    {semaphores : Semaphores} (paired : List.Forall₂ UseSound kept uses)
    (grows : Crew.Grows kept delegation.executions) (permits :
      semaphores.perRun + (uses.map SlotUse.heldRun).sum = limit) :
    (run.follow delegation uses semaphores).1.Sound limit where
  uses := forall₂_grows paired grows
  permits := by
    rw [heldRun_follow]
    exact permits

theorem Sound.step {limit global : Nat} {label : DelegationLabel}
    {target : SlottedRun} {remaining : Nat} (sound : run.Sound limit)
    (stepped : run.step policy filter global label = some (target, remaining)) :
    target.Sound limit ∧
      remaining + target.heldGlobal = global + run.heldGlobal := by
  rcases Option.bind_eq_some_iff.mp stepped with ⟨delegation, moved, stepped⟩
  cases resumes : Delegation.resumedIndex label with
  | none =>
    rw [resumes] at stepped
    obtain rfl := congrArg Prod.fst (Option.some.inj stepped)
    obtain rfl := congrArg Prod.snd (Option.some.inj stepped)
    rcases Delegation.step_keepsPoints resumes moved with ⟨kept, unmoved, grows⟩
    constructor
    · exact follow_sound (forall₂_unmoved sound.uses unmoved) grows sound.permits
    · rw [heldGlobal_follow]
      rfl
  | some index =>
    rw [resumes] at stepped
    rcases Option.bind_eq_some_iff.mp stepped with ⟨use, used, stepped⟩
    rcases Option.bind_eq_some_iff.mp stepped with ⟨before, present, stepped⟩
    rcases Option.bind_eq_some_iff.mp stepped with ⟨after, reached, stepped⟩
    rcases Option.bind_eq_some_iff.mp stepped with ⟨⟨new, semaphores⟩, followed, same⟩
    obtain rfl := congrArg Prod.fst (Option.some.inj same)
    obtain rfl := congrArg Prod.snd (Option.some.inj same)
    rcases Delegation.step_goesOn resumes moved with ⟨execution, gone, goesOn⟩
    have sameBefore : before = execution :=
      Option.some.inj (present.symm.trans goesOn.present)
    have sameAfter : after = gone :=
      Option.some.inj (reached.symm.trans goesOn.reached)
    subst sameBefore sameAfter
    rcases forall₂_getElem? sound.uses present with ⟨other, otherUsed, own⟩
    have sameUse : other = use :=
      Option.some.inj (otherUsed.symm.trans used)
    subst sameUse
    rcases goesOn.stepped with ⟨nodeId, role, eventError, resumption, went⟩
    rcases own.follow went followed with ⟨after', conserved⟩
    have runs := @sum_map_set _ run.uses SlotUse.heldRun index _ used new
    have globals :=
      @sum_map_set _ run.uses SlotUse.heldGlobal index _ used new
    have permits := sound.permits
    have perRun := conserved.perRun
    have global' := conserved.global
    dsimp only at perRun global'
    rw [heldRun] at permits
    constructor
    · apply follow_sound (forall₂_set sound.uses after' index) goesOn.grows
      omega
    · rw [heldGlobal_follow, heldGlobal]
      show semaphores.global + _ = _
      omega

end SlottedRun

namespace WorkerFleet

variable {policy : ResultPolicy} {filter : EventFilter}
variable {limits : WorkerLimits} {fleet : WorkerFleet}

/-- The permits of the semaphore of the coordinator that calls have. -/
def held (fleet : WorkerFleet) : Nat := (fleet.runs.map SlottedRun.heldGlobal).sum

/-- All runs are sound, and no permit of the coordinator is lost. -/
structure Sound (limits : WorkerLimits) (fleet : WorkerFleet) : Prop where
  runs : ∀ run ∈ fleet.runs, run.Sound limits.perRun
  permits : fleet.global + fleet.held = limits.global

theorem initial_sound (initial : (workerFleets policy filter limits).initial fleet) :
    fleet.Sound limits := by
  rcases initial with ⟨global, runs⟩
  have nothing : ∀ run ∈ fleet.runs, run.heldGlobal = 0 := by
    intro run member
    rw [SlottedRun.heldGlobal, (runs run member).2.2]
    rfl
  constructor
  · intro run member
    rcases runs run member with ⟨⟨-, -, unstarted⟩, perRun, uses⟩
    constructor
    · rw [SlottedRun.executions, Delegation.executions, unstarted, uses]
      exact .nil
    · rw [SlottedRun.heldRun, perRun, uses]
      rfl
  · rw [held, List.sum_eq_zero, global]
    · rfl
    · intro count member
      rcases List.mem_map.mp member with ⟨run, inside, rfl⟩
      exact nothing run inside

theorem Sound.step (sound : fleet.Sound limits)
    {label : Nat × DelegationLabel} {target : WorkerFleet}
    (stepped : fleet.step policy filter label = some target) :
    target.Sound limits := by
  rcases Option.bind_eq_some_iff.mp stepped with ⟨run, present, stepped⟩
  rcases Option.bind_eq_some_iff.mp stepped with ⟨⟨after, global⟩, went, same⟩
  cases same
  have own := sound.runs run (List.mem_of_getElem? present)
  rcases own.step went with ⟨afterSound, conserved⟩
  have sums :=
    @sum_map_set _ fleet.runs SlottedRun.heldGlobal label.1 run present after
  have permits := sound.permits
  rw [held] at permits
  constructor
  · intro other member
    rcases List.mem_or_eq_of_mem_set member with old | rfl
    · exact sound.runs other old
    · exact afterSound
  · rw [held]
    dsimp only
    omega

theorem reachable_sound (reached : (workerFleets policy filter limits).Reachable fleet) :
    fleet.Sound limits :=
  reached.invariant (fun _ => initial_sound) fun _ _ _ _ sound _ stepped => sound.step stepped

end WorkerFleet

/-! ## Workers -/

namespace Execution

/-- The worker executes. -/
def isRunning (execution : Execution) : Bool := execution.task.any (·.ended.isNone)

/-- The worker executes, and its call of `_run_worker` has not ended. -/
def isWatched (execution : Execution) : Bool := execution.isRunning && !execution.ended

end Execution

theorem UseSound.both {execution : Execution} {use : SlotUse} (sound : UseSound execution use)
    (watched : execution.isWatched = true) :
    use = { acquiredRun := true, acquiredGlobal := true } := by
  rw [Execution.isWatched, Bool.and_eq_true, Bool.not_eq_true'] at watched
  rcases watched with ⟨runs, running⟩
  have some_ : execution.task.isSome = true := by
    rw [Execution.isRunning] at runs
    cases given : execution.task with
    | none =>
      rw [given] at runs
      cases runs
    | some task => rfl
  have held := sound.held
  have unreleased := sound.unreleased running
  rw [SlotUse.HeldAt] at held
  cases here : execution.point with
  | created | acquiringRun | acquiringGlobal | reportingStart =>
    rw [sound.settled.unstarted (by rw [here]; rfl)] at some_
    cases some_
  | working | dismissing _ =>
    rw [here] at held
    exact held
  | reportingEnd _ =>
    rw [here] at held
    rcases held.2 some_ with ⟨acquiredRun, acquiredGlobal⟩
    cases use
    cases acquiredRun
    cases acquiredGlobal
    cases unreleased.run
    cases unreleased.global
    rfl
  | returned _ | raised =>
    rw [Execution.ended, here] at running
    cases running

/-- The workers of a run that execute. -/
def SlottedRun.executing (run : SlottedRun) : Nat := run.executions.countP Execution.isRunning

/-- Those of them whose call of `_run_worker` has not ended. -/
def SlottedRun.watched (run : SlottedRun) : Nat := run.executions.countP Execution.isWatched

/-- The workers that execute. -/
def WorkerFleet.executing (fleet : WorkerFleet) : Nat := (fleet.runs.map SlottedRun.executing).sum

/-- Those of them whose call of `_run_worker` has not ended. -/
def WorkerFleet.watched (fleet : WorkerFleet) : Nat := (fleet.runs.map SlottedRun.watched).sum

/--
The workers whose calls of `_run_worker` have not ended are within the
limits, the others were told to stop, every call gives back once what it took
when it ends, and without calls the semaphores are as they were.
-/
structure WorkerFleet.WithinLimits (limits : WorkerLimits)
    (fleet : WorkerFleet) : Prop where
  global : fleet.watched ≤ limits.global
  perRun : ∀ run ∈ fleet.runs, run.watched ≤ limits.perRun
  abandoned : ∀ run ∈ fleet.runs, ∀ execution ∈ run.executions,
    execution.ended = true → ∀ task ∈ execution.task,
      task.ended = none → task.cancelRequested = true
  once : ∀ run ∈ fleet.runs, List.Forall₂ (fun execution use =>
        if execution.ended then use.Released else use.Unreleased)
      run.executions run.uses
  runRestored : ∀ run ∈ fleet.runs,
    (∀ execution ∈ run.executions, execution.ended = true) → run.perRun = limits.perRun
  restored : (∀ run ∈ fleet.runs, ∀ execution ∈ run.executions,
      execution.ended = true) → fleet.global = limits.global

namespace SlottedRun

variable {run : SlottedRun} {limit : Nat}

theorem Sound.watched_le (sound : run.Sound limit) :
    run.watched ≤ limit ∧ run.watched ≤ run.heldGlobal := by
  have permits := sound.permits
  have perRun : run.watched ≤ run.heldRun := by
    apply countP_le_sum_of_forall₂ sound.uses
    intro execution use own watched
    rw [own.both watched]
    exact Nat.le_refl 1
  refine ⟨by omega, ?_⟩
  apply countP_le_sum_of_forall₂ sound.uses
  intro execution use own watched
  rw [own.both watched]
  exact Nat.le_refl 1

theorem Sound.heldNothing (sound : run.Sound limit)
    (ended : ∀ execution ∈ run.executions, execution.ended = true) :
    run.heldRun = 0 ∧ run.heldGlobal = 0 := by
  constructor
  · apply sum_eq_zero_of_forall₂ sound.uses _ ended
    intro execution use own ceased
    rw [SlotUse.heldRun, (own.released ceased).run, Nat.sub_self]
  · apply sum_eq_zero_of_forall₂ sound.uses _ ended
    intro execution use own ceased
    rw [SlotUse.heldGlobal, (own.released ceased).global, Nat.sub_self]

end SlottedRun

/-- In every run the workers that are waited for are within the limits. -/
theorem workerFleets_withinLimits
    {policy : ResultPolicy} {filter : EventFilter} {limits : WorkerLimits}
    {fleet : WorkerFleet}
    (reached : (workerFleets policy filter limits).Reachable fleet) :
    fleet.WithinLimits limits := by
  have sound := WorkerFleet.reachable_sound reached
  have permits := sound.permits
  constructor
  · have fewer : fleet.watched ≤ fleet.held :=
      List.sum_le_sum fun run member => (sound.runs run member).watched_le.2
    omega
  · exact fun run member => (sound.runs run member).watched_le.1
  · intro run member execution inside ended task present running
    rcases List.getElem?_of_mem inside with ⟨index, found⟩
    rcases forall₂_getElem? (sound.runs run member).uses found with ⟨use, -, own⟩
    have settled : task.Settled := by
      apply own.settled.settled _ _ task present
      · cases here : execution.point <;>
          first
          | rfl
          | (rw [Execution.ended, here] at ended; cases ended)
      · intro working
        rw [Execution.ended, working] at ended
        cases ended
    rcases settled with ceased | told
    · rw [running] at ceased
      cases ceased
    · exact told
  · intro run member
    apply (sound.runs run member).uses.imp
    intro execution use own
    split_ifs with ended
    · exact own.released ended
    · exact own.unreleased (Bool.eq_false_iff.mpr ended)
  · intro run member ended
    have perRun := (sound.runs run member).permits
    have nothing := ((sound.runs run member).heldNothing ended).1
    omega
  · intro ended
    have nothing : fleet.held = 0 := by
      apply List.sum_eq_zero
      intro count member
      rcases List.mem_map.mp member with ⟨run, inside, rfl⟩
      exact ((sound.runs run inside).heldNothing (ended run inside)).2
    omega

/-! ## A worker that goes on -/

/-- A coordinator with one slot, and the runs of one parent turn. -/
def oneSlot : WorkerLimits where
  perRun := 1
  global := 1

/-- One parent turn before its request. -/
def oneTurn : WorkerFleet where
  runs := [{
    runId := "run"
    parentRequestId := "request"
    delegation := Delegation.atStart
    perRun := 1
    uses := [] }]
  global := 1

theorem oneTurn_initial : (workerFleets Delegation.plainPolicy Delegation.plainEvents
      oneSlot).initial oneTurn := by
  refine ⟨rfl, ?_⟩
  intro run member
  rw [List.mem_singleton.mp member]
  exact ⟨Delegation.atStart_initial, rfl, rfl⟩

/-- The first worker runs out of time and does not end when it is told to. -/
def firstTimesOut : List DelegationLabel := Delegation.untilStrategy .fanOutFanIn ++
    [.crew (.resume 0 .begun), .crew (.resume 1 .begun),
      .crew (.resume 0 .acquired), .crew (.resume 0 .acquired),
      .crew (.resume 0 (.started .delivered true)),
      .crew (.resume 0 .timedOut), .crew (.resume 0 .dismissed),
      .crew (.resume 0 (.reported .delivered))]

/-- The second worker starts. -/
def secondStarts : List DelegationLabel :=
  [.crew (.resume 1 .acquired), .crew (.resume 1 .acquired),
    .crew (.resume 1 (.started .delivered true))]

/-- The slot of the first worker goes to the second one. -/
theorem workerFleets_withinLimits_second : ∃ fleet,
      (workerFleets Delegation.plainPolicy Delegation.plainEvents oneSlot).Reachable fleet ∧
      fleet.watched = 1 ∧ fleet.WithinLimits oneSlot := by
  have evaluated :
      (workerFleets Delegation.plainPolicy Delegation.plainEvents oneSlot).run oneTurn
          ((firstTimesOut ++ secondStarts).map (0, ·)) = some _ := rfl
  have reached := Machine.Reachable.run (.start oneTurn_initial) evaluated
  exact ⟨_, reached, rfl, workerFleets_withinLimits reached⟩

/-- Both workers execute then, with one slot. -/
theorem workerFleets_exceed : ∃ fleet, (workerFleets Delegation.plainPolicy Delegation.plainEvents
        oneSlot).Reachable fleet ∧
      oneSlot.global < fleet.executing ∧
      ∃ run ∈ fleet.runs, oneSlot.perRun < run.executing := by
  have evaluated :
      (workerFleets Delegation.plainPolicy Delegation.plainEvents oneSlot).run oneTurn
          ((firstTimesOut ++ secondStarts).map (0, ·)) = some _ := rfl
  have reached := Machine.Reachable.run (.start oneTurn_initial) evaluated
  exact ⟨_, reached, Nat.lt_succ_self 1, _, List.mem_cons_self, Nat.lt_succ_self 1⟩

end TurningGood.MultiAgent
