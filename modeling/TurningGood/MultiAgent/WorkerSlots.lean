import TurningGood.MultiAgent.CrewExecutions

/-!
# The slots of the workers

A worker runs under two semaphores, one of its run and one of the
coordinator.  `_run_worker` takes a permit of each in this order, keeps in two
flags which of them it has, and gives them back when it ends, however it
ends.

Any number of parent turns delegate runs at once.  Every permit is given back
by the call that took it, so that the workers that are waited for are never
more than the permits.  A worker that was told to stop is waited for only a
short time, and may go on after its permits are given back.
-/

namespace TurningGood.MultiAgent

open TurningGood.Foundation

/-! ## The permits of one worker -/

/-- The values of the semaphores of a run and of the coordinator. -/
structure Semaphores where
  perRun : Nat
  global : Nat
  deriving DecidableEq

/--
`acquired_run` and `acquired_global` of a call of `_run_worker`, and how
often it has released the semaphores.
-/
structure SlotUse where
  acquiredRun : Bool := false
  acquiredGlobal : Bool := false
  releasedRun : Nat := 0
  releasedGlobal : Nat := 0
  deriving DecidableEq

namespace SlotUse

variable (use : SlotUse) (semaphores : Semaphores)

/-- `_acquire` of the semaphore of the run. -/
def acquireRun : Option (SlotUse × Semaphores) :=
  if semaphores.perRun = 0 then none
  else
    some ({ use with acquiredRun := true },
      { semaphores with perRun := semaphores.perRun - 1 })

/-- `_acquire` of the semaphore of the coordinator. -/
def acquireGlobal : Option (SlotUse × Semaphores) :=
  if semaphores.global = 0 then none
  else
    some ({ use with acquiredGlobal := true },
      { semaphores with global := semaphores.global - 1 })

/-- The `finally` of `_run_worker`. -/
def release : SlotUse × Semaphores := ({ use with
      releasedRun := use.releasedRun + use.acquiredRun.toNat
      releasedGlobal := use.releasedGlobal + use.acquiredGlobal.toNat },
    { perRun := semaphores.perRun + use.acquiredRun.toNat
      global := semaphores.global + use.acquiredGlobal.toNat })

/-- What a step of `_run_worker` does to the permits. -/
def follow (before after : Point) : Option (SlotUse × Semaphores) :=
  match before, after with
  | .acquiringRun, .acquiringGlobal => use.acquireRun semaphores
  | .acquiringGlobal, .reportingStart => use.acquireGlobal semaphores
  | _, .returned _ | _, .raised => some (use.release semaphores)
  | _, _ => some (use, semaphores)

/-- The permits of the run that the call has and has not given back. -/
def heldRun : Nat := use.acquiredRun.toNat - use.releasedRun

/-- The same of the coordinator. -/
def heldGlobal : Nat := use.acquiredGlobal.toNat - use.releasedGlobal

/-- The call has given nothing back. -/
structure Unreleased : Prop where
  run : use.releasedRun = 0
  global : use.releasedGlobal = 0

/-- The call has given back what it took, once. -/
structure Released : Prop where
  run : use.releasedRun = use.acquiredRun.toNat
  global : use.releasedGlobal = use.acquiredGlobal.toNat

/-- What a call has at its point. -/
def HeldAt (use : SlotUse) (execution : Execution) : Prop :=
  match execution.point with
  | .created | .acquiringRun => use = {}
  | .acquiringGlobal => use = { acquiredRun := true }
  | .reportingStart | .working | .dismissing _ =>
    use = { acquiredRun := true, acquiredGlobal := true }
  | .reportingEnd _ =>
    use.Unreleased ∧ (execution.task.isSome = true →
      use.acquiredRun = true ∧ use.acquiredGlobal = true)
  | .returned _ | .raised => use.Released

end SlotUse

/-- What is known of a call and of its permits. -/
structure UseSound (execution : Execution) (use : SlotUse) : Prop where
  settled : execution.TaskSettled
  held : use.HeldAt execution

namespace UseSound

variable {execution target : Execution} {use : SlotUse}

theorem new : UseSound {} {} where
  settled := Crew.new_taskSettled
  held := rfl

theorem unreleased (sound : UseSound execution use)
    (running : execution.ended = false) : use.Unreleased := by
  have held := sound.held
  rw [SlotUse.HeldAt] at held
  cases here : execution.point with
  | created | acquiringRun | acquiringGlobal | reportingStart | working
  | dismissing _ =>
    rw [here] at held
    dsimp only at held
    rw [held]
    exact ⟨rfl, rfl⟩
  | reportingEnd _ =>
    rw [here] at held
    exact held.1
  | returned _ | raised =>
    rw [Execution.ended, here] at running
    cases running

theorem released (sound : UseSound execution use)
    (ended : execution.ended = true) : use.Released := by
  have held := sound.held
  rw [SlotUse.HeldAt] at held
  cases here : execution.point with
  | returned _ | raised =>
    rw [here] at held
    exact held
  | _ =>
    rw [Execution.ended, here] at ended
    cases ended

theorem unmoved (sound : UseSound execution use) (unmoved : Execution.Unmoved execution target) :
    UseSound target use where
  settled := unmoved.taskSettled sound.settled
  held := by
    have held := sound.held
    rw [SlotUse.HeldAt] at held ⊢
    rw [unmoved.point]
    cases here : execution.point with
    | reportingEnd _ =>
      rw [here] at held
      refine ⟨held.1, fun some_ => held.2 ?_⟩
      rcases unmoved.task with same | ⟨before, -⟩
      · rw [← same]
        exact some_
      · exact before
    | _ =>
      rw [here] at held
      exact held

end UseSound

/-- The permits before and after a step of a call. -/
structure Conserved (use after : SlotUse) (before target : Semaphores) :
    Prop where
  perRun : target.perRun + after.heldRun = before.perRun + use.heldRun
  global : target.global + after.heldGlobal = before.global + use.heldGlobal

namespace Conserved

variable {use after : SlotUse} {semaphores target : Semaphores}

theorem refl : Conserved use use semaphores semaphores := ⟨rfl, rfl⟩

theorem acquireRun (fresh : use = {}) (taken : use.acquireRun semaphores = some (after, target)) :
    after = { acquiredRun := true } ∧
      Conserved use after semaphores target := by
  subst fresh
  rw [SlotUse.acquireRun] at taken
  split_ifs at taken with free
  cases taken
  refine ⟨rfl, ?_, rfl⟩
  simp only [SlotUse.heldRun, Bool.toNat_true, Bool.toNat_false]
  omega

theorem acquireGlobal (held : use = { acquiredRun := true })
    (taken : use.acquireGlobal semaphores = some (after, target)) :
    after = { acquiredRun := true, acquiredGlobal := true } ∧
      Conserved use after semaphores target := by
  subst held
  rw [SlotUse.acquireGlobal] at taken
  split_ifs at taken with free
  cases taken
  refine ⟨rfl, rfl, ?_⟩
  simp only [SlotUse.heldGlobal, Bool.toNat_true, Bool.toNat_false]
  omega

theorem release (unreleased : use.Unreleased) : (use.release semaphores).1.Released ∧
      Conserved use (use.release semaphores).1 semaphores (use.release semaphores).2 := by
  refine ⟨⟨?_, ?_⟩, ?_, ?_⟩
  · simp [SlotUse.release, unreleased.run]
  · simp [SlotUse.release, unreleased.global]
  · simp [SlotUse.release, SlotUse.heldRun, unreleased.run]
  · simp [SlotUse.release, SlotUse.heldGlobal, unreleased.global]

end Conserved

/-! ## One step of a call -/

section Follow

variable (use : SlotUse) (semaphores : Semaphores) (before : Point)

theorem follow_returned (node : MultiAgentNode) : use.follow semaphores before (.returned node) =
      some (use.release semaphores) := by
  cases before <;> rfl

theorem follow_raised : use.follow semaphores before .raised =
      some (use.release semaphores) := by
  cases before <;> rfl

theorem follow_working :
    use.follow semaphores before .working = some (use, semaphores) := by
  cases before <;> rfl

theorem follow_dismissing (result : WorkerResult) :
    use.follow semaphores before (.dismissing result) =
      some (use, semaphores) := by
  cases before <;> rfl

theorem follow_reportingEnd (node : MultiAgentNode) :
    use.follow semaphores before (.reportingEnd node) =
      some (use, semaphores) := by
  cases before <;> rfl

end Follow

namespace UseSound

variable {policy : ResultPolicy} {nodeId role : String}
variable {execution target : Execution} {use after : SlotUse}
variable {semaphores remaining : Semaphores}

theorem ends (sound : UseSound execution use) (running : execution.ended = false)
    (followed : some (use.release semaphores) = some (after, remaining)) :
    after.Released ∧ Conserved use after semaphores remaining := by
  have released := @Conserved.release use semaphores
    (sound.unreleased running)
  rw [Option.some.injEq] at followed
  rw [followed] at released
  exact released

theorem followBefore (sound : UseSound execution use)
    {eventError : Option String} {resumption : Resumption}
    (stepped : execution.resume policy nodeId role eventError resumption = some target)
    (before : target.point.beforeStart = true)
    (followed : use.follow semaphores execution.point target.point = some (after, remaining)) :
    after.HeldAt target ∧ Conserved use after semaphores remaining := by
  have held := sound.held
  rw [SlotUse.HeldAt] at held ⊢
  rcases Execution.resume_before stepped before with
    ⟨-, ⟨created, acquiring⟩ | ⟨acquiring, next⟩ | ⟨acquiring, next⟩⟩
  · rw [created] at held followed
    rw [acquiring] at followed ⊢
    cases followed
    exact ⟨held, .refl⟩
  · rw [acquiring] at held followed
    rw [next] at followed ⊢
    exact Conserved.acquireRun held followed
  · rw [acquiring] at held followed
    rw [next] at followed ⊢
    exact Conserved.acquireGlobal held followed

theorem follow (sound : UseSound execution use)
    {eventError : Option String} {resumption : Resumption}
    (stepped : execution.resume policy nodeId role eventError resumption = some target)
    (followed : use.follow semaphores execution.point target.point = some (after, remaining)) :
    UseSound target after ∧ Conserved use after semaphores remaining := by
  have resumed := Execution.resume_resumed stepped
  have settled := resumed.taskSettled sound.settled
  have running := resumed.running
  have held := sound.held
  rw [SlotUse.HeldAt] at held
  suffices after.HeldAt target ∧ Conserved use after semaphores remaining
    from ⟨⟨settled, this.1⟩, this.2⟩
  -- The permits do not change behind the start, until the call ends.
  have same : some (use, semaphores) = some (after, remaining) →
      use.HeldAt target →
      after.HeldAt target ∧ Conserved use after semaphores remaining := by
    intro equal held
    cases equal
    exact ⟨held, .refl⟩
  have ending : some (use.release semaphores) = some (after, remaining) →
      (after.Released → after.HeldAt target) →
      after.HeldAt target ∧ Conserved use after semaphores remaining := by
    intro equal released
    have done := sound.ends running equal
    exact ⟨released done.1, done.2⟩
  cases before : target.point.beforeStart with
  | true => exact sound.followBefore stepped before followed
  | false =>
    cases resumed with
    | raises interrupted outside running' =>
      rw [Execution.goTo_point, follow_raised] at followed
      exact ending followed fun released => released
    | returnsEarly error uninterrupted starting =>
      rw [Execution.goTo_point, follow_returned] at followed
      exact ending followed fun released => released
    | returns node uninterrupted reporting =>
      rw [Execution.goTo_point, follow_returned] at followed
      exact ending followed fun released => released
    | waits point uninterrupted starting waiting =>
      rw [Execution.goTo_point, waiting] at before
      cases before
    | dismisses failure error working =>
      rw [Execution.dismiss, Execution.goTo_point, follow_dismissing] at followed
      rw [working] at held
      exact same followed held
    | dismissed result waiting =>
      rw [Execution.report, Execution.goTo_point, follow_reportingEnd] at followed
      rw [waiting] at held
      refine same followed ⟨sound.unreleased running, fun _ => ?_⟩
      rw [held]
      exact ⟨rfl, rfl⟩
    | refused refusal uninterrupted starting =>
      rw [Execution.goTo_point, follow_reportingEnd] at followed
      refine same followed ⟨sound.unreleased running, fun some_ => ?_⟩
      rw [Execution.goTo_task, sound.settled.unstarted starting] at some_
      cases some_
    | starts uninterrupted reporting =>
      rw [reporting] at held
      rw [show (Execution.point
        { execution.goTo .working with task := some ⟨false, none⟩ }) =
          .working from rfl, follow_working] at followed
      exact same followed held
    | tooLate uninterrupted reporting =>
      rw [Execution.goTo_point, follow_reportingEnd] at followed
      rw [reporting] at held
      refine same followed ⟨sound.unreleased running, fun _ => ?_⟩
      rw [held]
      exact ⟨rfl, rfl⟩
    | finishes stopRequested ended uninterrupted working ceased =>
      rw [Execution.report, Execution.goTo_point, follow_reportingEnd] at followed
      rw [working] at held
      refine same followed ⟨sound.unreleased running, fun _ => ?_⟩
      rw [held]
      exact ⟨rfl, rfl⟩

end UseSound

end TurningGood.MultiAgent
