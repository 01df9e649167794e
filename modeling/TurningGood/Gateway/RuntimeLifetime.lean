import TurningGood.Gateway.LiveGateway
import TurningGood.Gateway.RouteOrder

/-!
# The lifetime of a runtime

A worker that has obtained the runtime is in `_running` or registered with the
Web coordinator, so that the gateway is not idle.  An attempt to replace the
runtime starts in an idle gateway and clears `_ready`; from then on nobody
obtains a runtime before the attempt has ended.  Whoever holds a runtime
therefore holds the current one until he ends, and the shutdown closes it when
its tasks are gone.

Three paths break this.  `execute` checks `_closed` before it waits for its
session, so that an action can begin after `catalog_actions.close` has
gathered its tasks.  An attempt that finds the supervisor closing after its
activation closes the candidate but leaves the proactive service with it.
And an activation whose own rollback is cut short leaves the candidate's
service in the host, from where a later rollback starts it again.
-/

namespace TurningGood.Gateway

open TurningGood.Foundation

/-- Nothing in an activation fails. -/
def ActivationAwaits.Succeeds (awaits : ActivationAwaits) : Prop :=
  awaits.drain = .returned ∧ awaits.stopPrevious = .returned ∧
    awaits.created = true ∧ awaits.candidateScheduled = true ∧ awaits.publishAll = .returned

instance (awaits : ActivationAwaits) : Decidable awaits.Succeeds :=
  inferInstanceAs (Decidable (_ ∧ _ ∧ _ ∧ _ ∧ _))

namespace LiveGateway

/--
An action begins before the executor is closed; an activation does not succeed
in a closing supervisor; and if it fails, the candidate's service stops.
-/
def KeepsOrder (state : LiveGateway) : Event → Prop
  | .begin _ => state.catalogClosed = false
  | .activated awaits =>
    (state.closing = true → ¬ awaits.Succeeds) ∧
      (awaits.publishAll ≠ .returned → awaits.stopCandidate = .returned)
  | _ => True

instance (state : LiveGateway) (event : Event) :
    Decidable (state.KeepsOrder event) :=
  match event with
  | .begin _ => inferInstanceAs (Decidable (_ = false))
  | .activated awaits =>
    inferInstanceAs (Decidable ((_ → ¬ ActivationAwaits.Succeeds awaits) ∧ (_ → _)))
  | .turns _ | .setOthersIdle _ | .execute _ | .refuse _ | .acquire _
  | .wake _ | .takeService _ | .endAction _ | .unregister _ | .callReload
  | .grant | .built _ _ | .started _ | .closedPrevious
  | .closedCandidate _ | .stopReloads | .closeCatalog | .gatheredCatalog
  | .closeWeb | .closeRuntime => inferInstanceAs (Decidable True)

/--
What a worker has obtained is the current runtime, and so is the runtime of
the proactive service that works for it; and the current runtime of a worker
is open.
-/
structure RunsOnLiveRuntime (state : LiveGateway) : Prop where
  held : ∀ worker runtime, (worker, runtime) ∈ state.held →
    runtime = state.host.runtime ∧ runtime ∉ state.closed
  served : ∀ id runtime, (id, runtime) ∈ state.serving →
    runtime = state.host.runtime ∧ runtime ∉ state.closed

end LiveGateway

/-! ## Running turns -/

namespace GatewayTurns

variable {state target : GatewayTurns} {request : Request} {turn : Turn}
  {event : Event}

/-- The task of a turn of this request has not ended. -/
def Runs (state : GatewayTurns) (request : Request) : Prop := ∃ turn ∈ state.turns,
    turn.request = request ∧ LiveGateway.inRunning turn = true

theorem Runs.setStage (runs : state.Runs request) {moved : Turn}
    {stage : TurnStage} (other : moved.request = request →
      LiveGateway.inRunning moved = true → LiveGateway.inRunning ⟨request, stage⟩ = true) :
    (state.setStage moved stage).Runs request := by
  rcases runs with ⟨turn, live, rfl, running⟩
  refine ⟨_, List.mem_map_of_mem live, ?_, ?_⟩
  · split_ifs <;> rfl
  · split_ifs with same
    · subst same
      exact other rfl running
    · exact running

theorem Runs.mono (runs : state.Runs request)
    (kept : ∀ turn ∈ state.turns, LiveGateway.inRunning turn = true →
      turn ∈ target.turns) : target.Runs request := by
  rcases runs with ⟨turn, live, same, running⟩
  exact ⟨turn, kept turn live running, same, running⟩

theorem mem_endTurn {ended : Turn}
    (idle : LiveGateway.inRunning ended = false) (live : turn ∈ state.turns)
    (running : LiveGateway.inRunning turn = true) :
    turn ∈ (state.endTurn ended).turns := by
  refine List.mem_filter.mpr ⟨live, decide_eq_true ?_⟩
  rintro rfl
  rw [idle] at running
  contradiction

theorem mem_dispatchNext (live : turn ∈ state.turns) (next : Option Request) :
    turn ∈ (state.dispatchNext next).turns := by
  cases next with
  | none => exact live
  | some request => exact List.mem_append_left _ live

theorem mem_submit (live : turn ∈ state.turns) (message : InboundMessage) :
    turn ∈ (state.submit message).turns := by
  unfold submit
  dsimp only
  cases state.coordinator.submit ⟨state.accepted.length, message⟩ with
  | raised => exact live
  | refused => exact live
  | queued coordinator => exact live
  | dispatching coordinator => exact List.mem_append_left _ live

theorem mem_rollback (live : turn ∈ state.turns)
    (running : LiveGateway.inRunning turn = true) (failed : Request)
    (advance : Bool) (reason : Removal) :
    turn ∈ (state.rollback failed advance reason).turns := by
  have idle : LiveGateway.inRunning ⟨failed, .dispatching⟩ = false := rfl
  have kept := mem_endTurn idle live running
  unfold rollback
  apply mem_dispatchNext
  exact kept

theorem mem_deliver (live : turn ∈ state.turns)
    (running : LiveGateway.inRunning turn = true) (request : Request) :
    turn ∈ (state.deliver request).turns := by
  have idle : LiveGateway.inRunning ⟨request, .replied⟩ = false := rfl
  have kept := mem_endTurn idle live running
  unfold deliver
  apply mem_dispatchNext
  exact kept

theorem Runs.step (runs : state.Runs request) (stepped : state.step event = some target) (survives :
      LiveGateway.survives event (.turn request) = true) :
    target.Runs request := by
  cases event with
  | submit message =>
    simp only [GatewayTurns.step, Option.some.injEq] at stepped
    subst target
    exact runs.mono fun turn live _ => mem_submit live message
  | dispatchReturned other =>
    simp only [GatewayTurns.step, Option.ite_none_right_eq_some, Option.some.injEq] at stepped
    rcases stepped with ⟨_, rfl⟩
    exact runs.setStage fun _ running => by cases running
  | dispatchRaised other =>
    simp only [GatewayTurns.step, Option.ite_none_right_eq_some, Option.some.injEq] at stepped
    rcases stepped with ⟨_, rfl⟩
    exact runs.mono fun turn live running => mem_rollback live running _ _ _
  | dispatchCancelled other =>
    simp only [GatewayTurns.step, Option.ite_none_right_eq_some, Option.some.injEq] at stepped
    rcases stepped with ⟨_, rfl⟩
    exact runs.mono fun turn live running => mem_rollback live running _ _ _
  | consume other =>
    simp only [GatewayTurns.step, Option.ite_none_right_eq_some, Option.some.injEq] at stepped
    rcases stepped with ⟨_, rfl⟩
    exact runs.setStage fun _ _ => rfl
  | finish other outcome =>
    simp only [GatewayTurns.step, Option.ite_none_right_eq_some, Option.some.injEq] at stepped
    rcases stepped with ⟨_, rfl⟩
    have apart : request ≠ other := of_decide_eq_true survives
    have kept : Runs
        { state with
          coordinator := state.coordinator.finishTurn other.message outcome }
        request :=
      runs.mono fun _ live _ => live
    exact kept.setStage fun same _ => absurd same.symm apart
  | deliver other =>
    simp only [GatewayTurns.step, Option.ite_none_right_eq_some, Option.some.injEq] at stepped
    rcases stepped with ⟨_, rfl⟩
    exact runs.mono fun turn live running => mem_deliver live running _
  | discardPendingRoute route =>
    simp only [GatewayTurns.step, Option.some.injEq] at stepped
    subst target
    exact runs.mono fun _ live _ => live
  | reserve token matcher =>
    simp only [GatewayTurns.step] at stepped
    split at stepped
    all_goals
      rw [Option.some.injEq] at stepped
      subst target
      exact runs.mono fun _ live _ => live
  | release token =>
    simp only [GatewayTurns.step, Option.some.injEq] at stepped
    subst target
    exact runs.mono fun _ live _ => live
  | beginClose =>
    simp only [GatewayTurns.step, Option.ite_none_right_eq_some, Option.some.injEq] at stepped
    rcases stepped with ⟨_, rfl⟩
    exact runs.mono fun _ live _ => live
  | cancelTurn other =>
    simp only [GatewayTurns.step, Option.ite_none_right_eq_some, Option.some.injEq] at stepped
    rcases stepped with ⟨_, rfl⟩
    exact runs.setStage fun _ _ => rfl
  | endClose => exact absurd survives Bool.false_ne_true

/-- Every task has ended. -/
def AllEnded (state : GatewayTurns) : Prop :=
  ∀ turn ∈ state.turns, LiveGateway.inRunning turn = false

theorem AllEnded.setStage (ended : state.AllEnded) {moved : Turn}
    {stage : TurnStage}
    (idle : ∀ request, LiveGateway.inRunning ⟨request, stage⟩ = false) :
    (state.setStage moved stage).AllEnded := by
  intro turn live
  rcases List.mem_map.mp live with ⟨before, old, rfl⟩
  split_ifs
  · exact idle _
  · exact ended before old

theorem AllEnded.endTurn (ended : state.AllEnded) (turn : Turn) : (state.endTurn turn).AllEnded :=
  fun other live => ended other (List.mem_of_mem_filter live)

theorem AllEnded.dispatchNext (ended : state.AllEnded) (next : Option Request) :
    (state.dispatchNext next).AllEnded := by
  cases next with
  | none => exact ended
  | some request =>
    intro turn live
    rcases List.mem_append.mp live with old | new
    · exact ended turn old
    · rw [List.mem_singleton.mp new]
      rfl

theorem AllEnded.submit (ended : state.AllEnded) (message : InboundMessage) :
    (state.submit message).AllEnded := by
  unfold GatewayTurns.submit
  dsimp only
  cases state.coordinator.submit ⟨state.accepted.length, message⟩ with
  | raised => exact ended
  | refused => exact ended
  | queued coordinator => exact ended
  | dispatching coordinator =>
    apply AllEnded.dispatchNext
    exact ended

theorem step_closed (closed : state.phase = .closed) (ended : state.AllEnded)
    (stepped : state.step event = some target) :
    target.phase = .closed ∧ target.AllEnded := by
  cases event with
  | submit message =>
    simp only [GatewayTurns.step, Option.some.injEq] at stepped
    subst target
    exact ⟨(phase_submit state message).trans closed, ended.submit message⟩
  | dispatchReturned other =>
    simp only [GatewayTurns.step, Option.ite_none_right_eq_some, Option.some.injEq] at stepped
    rcases stepped with ⟨_, rfl⟩
    exact ⟨closed, ended.setStage fun _ => rfl⟩
  | dispatchRaised other =>
    simp only [GatewayTurns.step, Option.ite_none_right_eq_some, Option.some.injEq] at stepped
    rcases stepped with ⟨_, rfl⟩
    refine ⟨(phase_dispatchNext _ _).trans closed, ?_⟩
    apply AllEnded.dispatchNext
    exact ended.endTurn _
  | dispatchCancelled other =>
    simp only [GatewayTurns.step, Option.ite_none_right_eq_some, Option.some.injEq] at stepped
    rcases stepped with ⟨_, rfl⟩
    refine ⟨(phase_dispatchNext _ _).trans closed, ?_⟩
    apply AllEnded.dispatchNext
    exact ended.endTurn _
  | consume other =>
    simp only [GatewayTurns.step, Option.ite_none_right_eq_some, closed] at stepped
    exact absurd stepped.1.2 Phase.noConfusion
  | finish other outcome =>
    simp only [GatewayTurns.step, Option.ite_none_right_eq_some] at stepped
    exact absurd (ended _ stepped.1) Bool.noConfusion
  | deliver other =>
    simp only [GatewayTurns.step, Option.ite_none_right_eq_some, Option.some.injEq] at stepped
    rcases stepped with ⟨_, rfl⟩
    refine ⟨(phase_dispatchNext _ _).trans closed, ?_⟩
    apply AllEnded.dispatchNext
    exact ended.endTurn _
  | discardPendingRoute route =>
    simp only [GatewayTurns.step, Option.some.injEq] at stepped
    subst target
    exact ⟨closed, ended⟩
  | reserve token matcher =>
    simp only [GatewayTurns.step] at stepped
    split at stepped
    all_goals
      rw [Option.some.injEq] at stepped
      subst target
      exact ⟨closed, ended⟩
  | release token =>
    simp only [GatewayTurns.step, Option.some.injEq] at stepped
    subst target
    exact ⟨closed, ended⟩
  | beginClose =>
    simp only [GatewayTurns.step, Option.ite_none_right_eq_some, closed] at stepped
    exact absurd stepped.1 Phase.noConfusion
  | cancelTurn other =>
    simp only [GatewayTurns.step, Option.ite_none_right_eq_some, closed] at stepped
    exact absurd stepped.1.2 Phase.noConfusion
  | endClose =>
    simp only [GatewayTurns.step, Option.ite_none_right_eq_some, closed] at stepped
    exact absurd stepped.1.1 Phase.noConfusion

theorem step_becomesClosed (serving : state.phase ≠ .closed)
    (stepped : state.step event = some target)
    (closed : target.phase = .closed) : target.AllEnded := by
  by_cases ends : event = .endClose
  · subst event
    simp only [GatewayTurns.step, Option.ite_none_right_eq_some, Option.some.injEq] at stepped
    rcases stepped with ⟨closing, rfl⟩
    intro turn live
    rcases List.mem_filter.mp live with ⟨old, kept⟩
    have running := closing.2 turn old
    have cancelled : turn.stage ≠ .cancelled := of_decide_eq_true kept
    simp [LiveGateway.inRunning, running, cancelled]
  · by_cases begins : event = .beginClose
    · subst event
      simp only [GatewayTurns.step, Option.ite_none_right_eq_some, Option.some.injEq] at stepped
      rcases stepped with ⟨_, rfl⟩
      exact absurd closed Phase.noConfusion
    · have same := step_phase stepped begins ends
      exact absurd (same.symm.trans closed) serving

end GatewayTurns
namespace LiveGateway

variable {state target : LiveGateway} {worker : Worker}

/-! ## Invariant -/

/-- The candidate of the attempt may still become the runtime. -/
def AttemptStage.live : AttemptStage → Bool
  | .building | .starting | .activating => true
  | .closingPrevious | .discarding | .abandoning => false

/-- `catalog_actions.close` has been called. -/
def Shutdown.catalogCalled : Shutdown → Bool
  | .serving | .stoppingReloads => false
  | .closingCatalog | .closingChannels | .closingTurns | .closed => true

/-- `catalog_actions.close` has returned. -/
def Shutdown.catalogGathered : Shutdown → Bool
  | .serving | .stoppingReloads | .closingCatalog => false
  | .closingChannels | .closingTurns | .closed => true

/-- Who works, and with which runtime. -/
structure WorkersSound (state : LiveGateway) : Prop where
  waiting : ∀ worker ∈ state.waiting, state.Active worker
  woken : ∀ worker ∈ state.woken, state.Active worker
  held : ∀ entry ∈ state.held, state.Active entry.1 ∧ entry.2 = state.host.runtime
  serving : ∀ entry ∈ state.serving, Worker.action entry.1 ∈ state.held.map Prod.fst ∧
      entry.2 = state.host.runtime
  registered : state.closing = false → ∀ id ∈ state.actions, id ∈ state.registered

/-- What holds of an attempt. -/
structure AttemptSound (state : LiveGateway) (attempt : Attempt) :
    Prop where
  notReady : state.ready = false
  noneHeld : state.held = []
  noneWoken : state.woken = []
  made : attempt.replacement ≤ state.made
  other : attempt.stage ≠ .closingPrevious → attempt.replacement ≠ state.host.runtime
  fresh : AttemptStage.live attempt.stage = true → attempt.replacement ∉ state.closed

/-- The runtimes of the host. -/
structure HostSound (state : LiveGateway) : Prop where
  made : state.host.runtime ≤ state.made
  closedMade : ∀ runtime ∈ state.closed, runtime ≤ state.made
  service : state.host.service.runtime = state.host.runtime
  attempt : ∀ attempt, state.attempt = some attempt → state.AttemptSound attempt
  runtimeOpen : state.shutdown ≠ .closed → state.host.runtime ∉ state.closed

/-- The order of the shutdown. -/
structure ShutdownSound (state : LiveGateway) : Prop where
  closing : state.closing = false → state.shutdown = .serving
  noAttempt : Shutdown.catalogCalled state.shutdown = true → state.attempt = none
  catalogClosed : Shutdown.catalogCalled state.shutdown = true → state.catalogClosed = true
  gathered : state.shutdown = .closingCatalog → ∀ id ∈ state.actions, id ∈ state.gathered
  noAction : Shutdown.catalogGathered state.shutdown = true → state.actions = []
  turns : state.turns.phase = .closed → state.turns.AllEnded
  turnsClosed : state.shutdown = .closed → state.turns.phase = .closed

/-- What holds between two steps. -/
structure Orderly (state : LiveGateway) : Prop where
  workers : state.WorkersSound
  hosts : state.HostSound
  order : state.ShutdownSound

theorem AttemptSound.of_same {attempt : Attempt}
    (sound : state.AttemptSound attempt) (ready : target.ready = state.ready)
    (held : state.held = [] → target.held = [])
    (woken : state.woken = [] → target.woken = [])
    (made : target.made = state.made)
    (runtime : target.host.runtime = state.host.runtime)
    (closed : target.closed = state.closed) :
    target.AttemptSound attempt where
  notReady := ready.trans sound.notReady
  noneHeld := held sound.noneHeld
  noneWoken := woken sound.noneWoken
  made := made ▸ sound.made
  other := runtime ▸ sound.other
  fresh := closed ▸ sound.fresh

theorem not_idle_of_active (workers : state.WorkersSound)
    (serving : state.closing = false) (active : state.Active worker) :
    state.isGloballyIdle = false := by
  cases worker with
  | turn request =>
    rcases active with ⟨turn, live, _, running⟩
    have busy : state.turns.turns.any inRunning = true :=
      List.any_eq_true.mpr ⟨turn, live, running⟩
    simp [isGloballyIdle, turnsIdle, busy]
  | action id =>
    have listed := workers.registered serving id active
    have busy : state.registered.isEmpty = false := by
      rw [Bool.eq_false_iff, ne_eq, List.isEmpty_iff]
      exact List.ne_nil_of_mem listed
    simp [isGloballyIdle, busy]

theorem noWorkers_of_idle (workers : state.WorkersSound)
    (serving : state.closing = false) (idle : state.isGloballyIdle = true) :
    state.held = [] ∧ state.woken = [] := by
  have inactive (worker : Worker) : ¬ state.Active worker := by
    intro active
    rw [not_idle_of_active workers serving active] at idle
    contradiction
  constructor
  · rw [List.eq_nil_iff_forall_not_mem]
    exact fun entry member => inactive _ (workers.held entry member).1
  · rw [List.eq_nil_iff_forall_not_mem]
    exact fun worker member => inactive _ (workers.woken worker member)

theorem noneHeld_of_closed (orderly : state.Orderly)
    (closed : state.shutdown = .closed) : state.held = [] := by
  rw [List.eq_nil_iff_forall_not_mem]
  rintro ⟨worker, runtime⟩ member
  have active := (orderly.workers.held _ member).1
  cases worker with
  | turn request =>
    rcases active with ⟨turn, live, _, running⟩
    have ended := orderly.order.turns (orderly.order.turnsClosed closed)
      turn live
    rw [ended] at running
    contradiction
  | action id =>
    have none : state.actions = [] :=
      orderly.order.noAction (by rw [closed]; rfl)
    have listed : id ∈ state.actions := active
    rw [none] at listed
    exact absurd listed List.not_mem_nil

theorem Orderly.runsOnLiveRuntime (orderly : state.Orderly) :
    state.RunsOnLiveRuntime := by
  have openFor (held : state.held ≠ []) :
      state.host.runtime ∉ state.closed := by
    apply orderly.hosts.runtimeOpen
    exact fun closed => held (noneHeld_of_closed orderly closed)
  constructor
  · intro worker runtime member
    have same : runtime = state.host.runtime :=
      (orderly.workers.held _ member).2
    refine ⟨same, ?_⟩
    rw [same]
    exact openFor (List.ne_nil_of_mem member)
  · intro id runtime member
    rcases orderly.workers.serving _ member with ⟨holds, same⟩
    have sameRuntime : runtime = state.host.runtime := same
    refine ⟨sameRuntime, ?_⟩
    rw [sameRuntime]
    apply openFor
    intro none
    rw [none] at holds
    exact absurd holds List.not_mem_nil

/-! ## Steps of the environment -/

theorem Orderly.withEnvironment (orderly : state.Orderly) (queued : Nat)
    (othersIdle : Bool) (executing : List String) :
    ({ state with
      queued := queued
      othersIdle := othersIdle
      executing := executing } : LiveGateway).Orderly where
  workers :=
    { orderly.workers with }
  hosts :=
    { orderly.hosts with
      attempt := fun attempt held =>
        (orderly.hosts.attempt attempt held).of_same rfl id id rfl rfl rfl }
  order :=
    { orderly.order with }

theorem WorkersSound.keepWorkers (workers : state.WorkersSound)
    (turns : GatewayTurns) (actions : List String) {keeps : Worker → Bool}
    (active : ∀ worker, keeps worker = true → state.Active worker →
      ({ state with turns := turns, actions := actions } :
        LiveGateway).Active worker) (registered : state.closing = false →
      ∀ id ∈ actions, id ∈ state.registered) :
    (({ state with turns := turns, actions := actions } :
      LiveGateway).keepWorkers keeps).WorkersSound where
  waiting := by
    intro worker member
    rcases List.mem_filter.mp member with ⟨old, kept⟩
    exact active worker kept (workers.waiting worker old)
  woken := by
    intro worker member
    rcases List.mem_filter.mp member with ⟨old, kept⟩
    exact active worker kept (workers.woken worker old)
  held := by
    intro entry member
    rcases List.mem_filter.mp member with ⟨old, kept⟩
    have before := workers.held entry old
    exact ⟨active entry.1 kept before.1, before.2⟩
  serving := by
    intro entry member
    rcases List.mem_filter.mp member with ⟨old, kept⟩
    rcases workers.serving entry old with ⟨holds, same⟩
    refine ⟨?_, same⟩
    rcases List.mem_map.mp holds with ⟨other, otherHeld, sameWorker⟩
    rw [← sameWorker] at kept ⊢
    exact List.mem_map_of_mem (List.mem_filter.mpr ⟨otherHeld, kept⟩)
  registered := registered

theorem HostSound.keepWorkers (hosts : state.HostSound) (turns : GatewayTurns)
    (actions : List String) (keeps : Worker → Bool) :
    (({ state with turns := turns, actions := actions } :
      LiveGateway).keepWorkers keeps).HostSound :=
  { hosts with
    attempt := fun attempt held =>
      (hosts.attempt attempt held).of_same rfl (congrArg (List.filter _))
        (congrArg (List.filter _)) rfl rfl rfl }

theorem Orderly.turnStep (orderly : state.Orderly)
    {event : GatewayTurns.Event}
    (stepped : state.turnStep event = some target) : target.Orderly := by
  simp only [LiveGateway.turnStep, Option.ite_none_right_eq_some, Option.map_eq_some_iff] at stepped
  rcases stepped with ⟨_, turns, moved, rfl⟩
  have order := orderly.order
  refine
    { workers := ?_
      hosts := orderly.hosts.keepWorkers turns state.actions _
      order := ?_ }
  · apply orderly.workers.keepWorkers turns state.actions
    · intro worker kept active
      cases worker with
      | turn request => exact GatewayTurns.Runs.step active moved kept
      | action id => exact active
    · exact orderly.workers.registered
  · exact
      { order with
        turns := by
          intro closed
          by_cases before : state.turns.phase = .closed
          · exact (GatewayTurns.step_closed before (order.turns before) moved).2
          · exact GatewayTurns.step_becomesClosed before moved closed
        turnsClosed := by
          intro closed
          have before := order.turnsClosed closed
          exact (GatewayTurns.step_closed before (order.turns before) moved).1 }

theorem Orderly.endAction (orderly : state.Orderly) (id : String) : ({ state with
      actions := state.actions.filter (· ≠ id) }.keepWorkers
        fun worker => worker ≠ Worker.action id).Orderly where
  workers := by
    apply orderly.workers.keepWorkers state.turns
    · intro worker kept active
      cases worker with
      | turn request => exact active
      | action other =>
        have apart : Worker.action other ≠ .action id :=
          of_decide_eq_true kept
        refine List.mem_filter.mpr ⟨active, decide_eq_true ?_⟩
        rintro rfl
        exact apart rfl
    · exact fun serving other member =>
        orderly.workers.registered serving other (List.mem_of_mem_filter member)
  hosts := orderly.hosts.keepWorkers state.turns _ _
  order :=
    { orderly.order with
      gathered := fun waits other member =>
        orderly.order.gathered waits other (List.mem_of_mem_filter member)
      noAction := by
        intro gathered
        have none : state.actions = [] := orderly.order.noAction gathered
        exact congrArg (List.filter _) none }

theorem Orderly.begin (orderly : state.Orderly) (id : String)
    (beforeClose : state.catalogClosed = false) :
    ({ state with
      executing := state.executing.erase id
      registered := state.registered ++ [id]
      actions := state.actions ++ [id] } : LiveGateway).Orderly := by
  have notCalled : Shutdown.catalogCalled state.shutdown ≠ true := by
    intro called
    rw [orderly.order.catalogClosed called] at beforeClose
    contradiction
  have active {worker : Worker} (before : state.Active worker) :
      ({ state with
        executing := state.executing.erase id
        registered := state.registered ++ [id]
        actions := state.actions ++ [id] } : LiveGateway).Active worker := by
    cases worker with
    | turn request => exact before
    | action other => exact List.mem_append_left _ before
  refine
    { workers := ?_
      hosts := ?_
      order := ?_ }
  · exact
      { waiting := fun worker member =>
          active (orderly.workers.waiting worker member)
        woken := fun worker member =>
          active (orderly.workers.woken worker member)
        held := fun entry member =>
          ⟨active (orderly.workers.held entry member).1, (orderly.workers.held entry member).2⟩
        serving := orderly.workers.serving
        registered := by
          intro serving other member
          rcases List.mem_append.mp member with old | new
          · exact List.mem_append_left _ (orderly.workers.registered serving other old)
          · exact List.mem_append_right _ new }
  · exact
      { orderly.hosts with
        attempt := fun attempt held =>
          (orderly.hosts.attempt attempt held).of_same rfl
          (fun none => none) (fun none => none) rfl rfl rfl }
  · exact
      { orderly.order with
        gathered := by
          intro waits
          have shut : state.shutdown = .closingCatalog := waits
          exact absurd (by rw [shut]; rfl) notCalled
        noAction := by
          intro gathered
          refine absurd ?_ notCalled
          revert gathered
          cases state.shutdown <;> intro gathered
          all_goals first | exact gathered | rfl }

theorem Orderly.unregister (orderly : state.Orderly) {id : String} (ended : id ∉ state.actions) :
    ({ state with
      registered := state.registered.filter (· ≠ id) } :
        LiveGateway).Orderly where
  workers :=
    { orderly.workers with
      registered := by
        intro serving other member
        have listed := orderly.workers.registered serving other member
        refine List.mem_filter.mpr ⟨listed, decide_eq_true ?_⟩
        rintro rfl
        exact ended member }
  hosts :=
    { orderly.hosts with
      attempt := fun attempt held =>
        (orderly.hosts.attempt attempt held).of_same rfl
          (fun none => none) (fun none => none) rfl rfl rfl }
  order :=
    { orderly.order with }

theorem Orderly.withWorkers (orderly : state.Orderly)
    {waiting woken : List Worker} {held : List (Worker × Nat)}
    {serving : List (String × Nat)}
    (waitingActive : ∀ worker ∈ waiting, state.Active worker)
    (wokenActive : ∀ worker ∈ woken, state.Active worker)
    (heldActive : ∀ entry ∈ held, state.Active entry.1 ∧ entry.2 = state.host.runtime)
    (servingHeld : ∀ entry ∈ serving,
      Worker.action entry.1 ∈ held.map Prod.fst ∧ entry.2 = state.host.runtime)
    (attempt : ∀ attempt, state.attempt = some attempt → held = [] ∧ woken = []) :
    ({ state with
      waiting := waiting
      woken := woken
      held := held
      serving := serving } : LiveGateway).Orderly where
  workers :=
    { waiting := waitingActive
      woken := wokenActive
      held := heldActive
      serving := servingHeld
      registered := orderly.workers.registered }
  hosts :=
    { orderly.hosts with
      attempt := fun other held =>
        (orderly.hosts.attempt other held).of_same rfl (fun _ => (attempt other held).1)
          (fun _ => (attempt other held).2) rfl rfl rfl }
  order :=
    { orderly.order with }

theorem Orderly.serving_append (orderly : state.Orderly) (worker : Worker) :
    ∀ entry ∈ state.serving, Worker.action entry.1 ∈
          (state.held ++ [(worker, state.host.runtime)]).map Prod.fst ∧
        entry.2 = state.host.runtime := by
  intro entry member
  rcases orderly.workers.serving entry member with ⟨holds, same⟩
  refine ⟨?_, same⟩
  rw [List.map_append]
  exact List.mem_append_left _ holds

theorem Orderly.held_append (orderly : state.Orderly) (active : state.Active worker) :
    ∀ entry ∈ state.held ++ [(worker, state.host.runtime)],
      state.Active entry.1 ∧ entry.2 = state.host.runtime := by
  intro entry member
  rcases List.mem_append.mp member with old | new
  · exact orderly.workers.held entry old
  · rw [List.mem_singleton.mp new]
    exact ⟨active, rfl⟩

theorem Orderly.acquire (orderly : state.Orderly)
    (active : state.Active worker) : (state.acquire worker).Orderly := by
  unfold LiveGateway.acquire
  split_ifs with ready
  · apply orderly.withWorkers
    · exact orderly.workers.waiting
    · exact orderly.workers.woken
    · exact orderly.held_append active
    · exact orderly.serving_append worker
    · intro attempt held
      have notReady := (orderly.hosts.attempt attempt held).notReady
      rw [ready] at notReady
      contradiction
  · apply orderly.withWorkers
    · intro other member
      rcases List.mem_append.mp member with old | new
      · exact orderly.workers.waiting other old
      · rw [List.mem_singleton.mp new]
        exact active
    · exact orderly.workers.woken
    · exact orderly.workers.held
    · exact orderly.workers.serving
    · intro attempt held
      have sound := orderly.hosts.attempt attempt held
      exact ⟨sound.noneHeld, sound.noneWoken⟩

theorem Orderly.wake (orderly : state.Orderly) (woken : worker ∈ state.woken) :
    (state.wake worker).Orderly := by
  unfold LiveGateway.wake
  apply orderly.withWorkers
  · exact orderly.workers.waiting
  · exact fun other member =>
      orderly.workers.woken other (List.mem_of_mem_erase member)
  · exact orderly.held_append (orderly.workers.woken worker woken)
  · exact orderly.serving_append worker
  · intro attempt held
    rw [(orderly.hosts.attempt attempt held).noneWoken] at woken
    exact absurd woken List.not_mem_nil

theorem Orderly.takeService (orderly : state.Orderly) {id : String}
    (holds : Worker.action id ∈ state.held.map Prod.fst) :
    (state.takeService id).Orderly := by
  unfold LiveGateway.takeService
  apply orderly.withWorkers
  · exact orderly.workers.waiting
  · exact orderly.workers.woken
  · exact orderly.workers.held
  · intro entry member
    rcases List.mem_append.mp member with old | new
    · exact orderly.workers.serving entry old
    · rw [List.mem_singleton.mp new]
      exact ⟨holds, orderly.hosts.service⟩
  · intro attempt held
    have sound := orderly.hosts.attempt attempt held
    exact ⟨sound.noneHeld, sound.noneWoken⟩

/-! ## Steps of the supervisor -/

section Attempt

variable {state : LiveGateway}

variable {host : GatewayHost}

theorem Orderly.withSupervisor (orderly : state.Orderly) {made : Nat}
    {closed : List Nat} {ready : Bool} {attempt : Option Attempt}
    (serving : Shutdown.catalogCalled state.shutdown = true → attempt = none)
    (runtime : state.held = [] ∨ host.runtime = state.host.runtime)
    (hosts : ({ state with
      host := host
      made := made
      closed := closed
      ready := ready
      attempt := attempt } : LiveGateway).HostSound) :
    ({ state with
      host := host
      made := made
      closed := closed
      ready := ready
      attempt := attempt } : LiveGateway).Orderly where
  workers :=
    { orderly.workers with
      held := by
        intro entry member
        have before := orderly.workers.held entry member
        refine ⟨before.1, ?_⟩
        rcases runtime with none | same
        · have listed : entry ∈ state.held := member
          rw [none] at listed
          exact absurd listed List.not_mem_nil
        · exact before.2.trans same.symm
      serving := by
        intro entry member
        have before := orderly.workers.serving entry member
        refine ⟨before.1, ?_⟩
        rcases runtime with none | same
        · have listed := before.1
          rw [none] at listed
          exact absurd listed List.not_mem_nil
        · exact before.2.trans same.symm }
  hosts := hosts
  order :=
    { orderly.order with
      noAttempt := serving }

theorem Orderly.enterReload (orderly : state.Orderly) :
    state.enterReload.Orderly := by
  unfold LiveGateway.enterReload
  split_ifs with closing idle
  · exact orderly
  · have serving := Bool.eq_false_iff.mpr closing
    have noWorkers := noWorkers_of_idle orderly.workers serving idle
    apply orderly.withSupervisor
    · intro called
      rw [orderly.order.closing serving] at called
      exact absurd called Bool.false_ne_true
    · exact Or.inl noWorkers.1
    · refine
        { made := Nat.le_succ_of_le orderly.hosts.made
          closedMade := fun runtime member =>
            Nat.le_succ_of_le (orderly.hosts.closedMade runtime member)
          service := orderly.hosts.service
          attempt := ?_
          runtimeOpen := orderly.hosts.runtimeOpen }
      rintro attempt ⟨⟩
      exact
        { notReady := rfl
          noneHeld := noWorkers.1
          noneWoken := noWorkers.2
          made := Nat.le_refl _
          other := fun _ =>
            Nat.ne_of_gt (Nat.lt_succ_of_le orderly.hosts.made)
          fresh := fun _ member =>
            Nat.not_succ_le_self _ (orderly.hosts.closedMade _ member) }
  · exact orderly

theorem Orderly.callReload (orderly : state.Orderly) :
    state.callReload.Orderly := by
  unfold LiveGateway.callReload
  split_ifs
  · exact orderly.withEnvironment (state.queued + 1) state.othersIdle state.executing
  · exact orderly.enterReload

theorem Orderly.release (orderly : state.Orderly) :
    state.release.Orderly := by
  have released : ({ state with
      ready := true
      attempt := none } : LiveGateway).Orderly := by
    apply orderly.withSupervisor
    · exact fun _ => rfl
    · exact Or.inr rfl
    · exact
        { orderly.hosts with
          attempt := by rintro _ ⟨⟩ }
  unfold LiveGateway.release
  apply released.withWorkers
  · exact fun _ member => absurd member List.not_mem_nil
  · intro worker member
    rcases List.mem_append.mp member with woken | waiting
    · exact orderly.workers.woken worker woken
    · exact orderly.workers.waiting worker waiting
  · exact orderly.workers.held
  · exact orderly.workers.serving
  · rintro _ ⟨⟩

variable {attempt : Attempt}

theorem Orderly.beforeCatalog (orderly : state.Orderly) (under : state.attempt = some attempt)
    {next : Option Attempt}
    (called : Shutdown.catalogCalled state.shutdown = true) :
    next = none := by
  rw [orderly.order.noAttempt called] at under
  contradiction

theorem Orderly.await (orderly : state.Orderly) (under : state.attempt = some attempt)
    {stage : AttemptStage}
    (live : AttemptStage.live attempt.stage = true) :
    (state.await attempt.replacement stage).Orderly := by
  have sound := orderly.hosts.attempt attempt under
  have other : attempt.stage ≠ .closingPrevious := by
    intro same
    rw [same] at live
    exact absurd live Bool.false_ne_true
  unfold LiveGateway.await
  apply orderly.withSupervisor
  · exact orderly.beforeCatalog under
  · exact Or.inr rfl
  · refine
      { orderly.hosts with
        attempt := ?_ }
    rintro next ⟨⟩
    exact
      { sound with
        other := fun _ => sound.other other
        fresh := fun _ => sound.fresh live }

theorem Orderly.closeCandidate (orderly : state.Orderly) (under : state.attempt = some attempt)
    {stage : AttemptStage}
    (uncommitted : attempt.stage ≠ .closingPrevious)
    (dead : AttemptStage.live stage = false) :
    (state.closeCandidate attempt.replacement stage).Orderly := by
  have sound := orderly.hosts.attempt attempt under
  unfold LiveGateway.closeCandidate LiveGateway.await
  apply orderly.withSupervisor
  · exact orderly.beforeCatalog under
  · exact Or.inr rfl
  · refine
      { made := orderly.hosts.made
        closedMade := ?_
        service := orderly.hosts.service
        attempt := ?_
        runtimeOpen := ?_ }
    · intro runtime member
      rcases List.mem_cons.mp member with rfl | old
      · exact sound.made
      · exact orderly.hosts.closedMade runtime old
    · rintro next ⟨⟩
      exact
        { sound with
          other := fun _ => sound.other uncommitted
          fresh := by
            intro live
            rw [dead] at live
            contradiction }
    · intro serving member
      rcases List.mem_cons.mp member with same | old
      · exact sound.other uncommitted same.symm
      · exact orderly.hosts.runtimeOpen serving old

theorem Orderly.withHost (orderly : state.Orderly) (runtime : host.runtime = state.host.runtime)
    (service : host.service.runtime = state.host.service.runtime) :
    ({ state with host := host } : LiveGateway).Orderly := by
  apply orderly.withSupervisor
  · exact orderly.order.noAttempt
  · exact Or.inr runtime
  · exact
      { made := runtime ▸ orderly.hosts.made
        closedMade := orderly.hosts.closedMade
        service := (service.trans orderly.hosts.service).trans runtime.symm
        attempt := fun other held =>
          (orderly.hosts.attempt other held).of_same rfl id id rfl runtime rfl
        runtimeOpen := runtime ▸ orderly.hosts.runtimeOpen }

theorem live_uncommitted (live : AttemptStage.live attempt.stage = true) :
    attempt.stage ≠ .closingPrevious := by
  intro same
  rw [same] at live
  exact absurd live Bool.false_ne_true

theorem Orderly.prepare (orderly : state.Orderly) (under : state.attempt = some attempt)
    (live : AttemptStage.live attempt.stage = true)
    (awaits : ReloadAwaits) :
    (state.prepare attempt.replacement awaits).Orderly := by
  have frame := state.host.prepareRuntime_frame
    { awaits with replacement := attempt.replacement }
  have prepared := orderly.withHost frame.1
    (congrArg HostService.runtime frame.2)
  unfold LiveGateway.prepare
  dsimp only
  split_ifs
  · exact prepared.closeCandidate under (live_uncommitted live) rfl
  · exact prepared.closeCandidate under (live_uncommitted live) rfl
  · exact prepared.await under live

theorem Orderly.ifWanted (orderly : state.Orderly) (under : state.attempt = some attempt)
    (live : AttemptStage.live attempt.stage = true)
    {proceed : LiveGateway → LiveGateway}
    (proceeds : (proceed state).Orderly) :
    (state.ifWanted attempt.replacement proceed).Orderly := by
  unfold LiveGateway.ifWanted
  split_ifs
  · exact orderly.closeCandidate under (live_uncommitted live) rfl
  · exact proceeds
  · exact orderly.closeCandidate under (live_uncommitted live) rfl

theorem Orderly.commit (orderly : state.Orderly) (under : state.attempt = some attempt)
    (live : AttemptStage.live attempt.stage = true)
    (runtime : host.runtime = state.host.runtime)
    (service : host.service.runtime = attempt.replacement) :
    (({ state with host := host } : LiveGateway).commit
      attempt.replacement).Orderly := by
  have sound := orderly.hosts.attempt attempt under
  unfold LiveGateway.commit LiveGateway.await
  apply orderly.withSupervisor
  · exact orderly.beforeCatalog under
  · exact Or.inl sound.noneHeld
  · refine
      { made := sound.made
        closedMade := ?_
        service := service
        attempt := ?_
        runtimeOpen := ?_ }
    · intro closed member
      rcases List.mem_cons.mp member with rfl | old
      · exact runtime ▸ orderly.hosts.made
      · exact orderly.hosts.closedMade closed old
    · rintro next ⟨⟩
      exact
        { sound with
          other := fun absurdity => absurd rfl absurdity
          fresh := nofun }
    · intro _ member
      rcases List.mem_cons.mp member with same | old
      · exact sound.other (live_uncommitted live) (same.trans runtime)
      · exact sound.fresh live old

theorem Orderly.activate (orderly : state.Orderly) (under : state.attempt = some attempt)
    (live : AttemptStage.live attempt.stage = true)
    {awaits : ActivationAwaits}
    (keeps : state.KeepsOrder (.activated awaits)) :
    (state.activate attempt.replacement awaits).Orderly := by
  have frame :=
    state.host.activateRuntime_frame attempt.replacement awaits
  unfold LiveGateway.activate
  dsimp only
  split_ifs with failed closing
  · have service :=
      GatewayHost.activateRuntime_failed_service failed keeps.2
    have activated := orderly.withHost frame.1 service
    exact activated.closeCandidate under (live_uncommitted live) rfl
  · have succeeds := (GatewayHost.activateRuntime_returned_iff _ _ _).mp
      (not_not.mp failed)
    exact absurd succeeds (keeps.1 closing)
  · exact orderly.commit under live frame.1
      (GatewayHost.activateRuntime_returned_service (not_not.mp failed))

theorem Orderly.attemptStep
    {target : LiveGateway} {event : Event}
    (orderly : state.Orderly) (under : state.attempt = some attempt)
    (keeps : state.KeepsOrder event)
    (stepped : state.attemptStep attempt event = some target) :
    target.Orderly := by
  cases event with
  | built ending awaits =>
    simp only [LiveGateway.attemptStep, Option.ite_none_right_eq_some, Option.some.injEq] at stepped
    rcases stepped with ⟨stage, rfl⟩
    have live : AttemptStage.live attempt.stage = true := by
      rw [stage]
      rfl
    split_ifs
    · exact orderly.ifWanted under live (orderly.prepare under live awaits)
    · exact orderly.release
  | started ending =>
    simp only [LiveGateway.attemptStep, Option.ite_none_right_eq_some, Option.some.injEq] at stepped
    rcases stepped with ⟨stage, rfl⟩
    have live : AttemptStage.live attempt.stage = true := by
      rw [stage]
      rfl
    split_ifs
    · exact orderly.ifWanted under live (orderly.await under live)
    · exact orderly.closeCandidate under (live_uncommitted live) rfl
  | activated awaits =>
    simp only [LiveGateway.attemptStep, Option.ite_none_right_eq_some, Option.some.injEq] at stepped
    rcases stepped with ⟨stage, rfl⟩
    have live : AttemptStage.live attempt.stage = true := by
      rw [stage]
      rfl
    exact orderly.activate under live keeps
  | closedPrevious =>
    simp only [LiveGateway.attemptStep, Option.ite_none_right_eq_some, Option.some.injEq] at stepped
    exact stepped.2 ▸ orderly.release
  | closedCandidate ending =>
    simp only [LiveGateway.attemptStep] at stepped
    split_ifs at stepped with again done
    · rw [Option.some.injEq] at stepped
      subst target
      apply orderly.closeCandidate under _ rfl
      intro same
      rw [again.1] at same
      contradiction
    · rw [Option.some.injEq] at stepped
      exact stepped ▸ orderly.release
  | turns _ | setOthersIdle _ | execute _ | refuse _ | begin _
  | acquire _ | wake _ | takeService _ | endAction _ | unregister _
  | callReload | grant | stopReloads | closeCatalog | gatheredCatalog
  | closeWeb | closeRuntime =>
    simp only [LiveGateway.attemptStep] at stepped
    contradiction

end Attempt

/-! ## Steps of the shutdown -/

section Stopping

variable {state : LiveGateway}

theorem Orderly.withShutdown (orderly : state.Orderly) {closing catalogClosed : Bool}
    {gathered registered : List String} {shutdown : Shutdown}
    (stops : closing = true) (before : state.shutdown ≠ .closed)
    (order : ({ state with
      closing := closing
      catalogClosed := catalogClosed
      gathered := gathered
      registered := registered
      shutdown := shutdown } : LiveGateway).ShutdownSound) :
    ({ state with
      closing := closing
      catalogClosed := catalogClosed
      gathered := gathered
      registered := registered
      shutdown := shutdown } : LiveGateway).Orderly where
  workers :=
    { orderly.workers with
      registered := fun serving => absurd (stops.symm.trans serving) nofun }
  hosts :=
    { orderly.hosts with
      attempt := fun attempt held =>
        (orderly.hosts.attempt attempt held).of_same rfl id id rfl rfl rfl
      runtimeOpen := fun _ => orderly.hosts.runtimeOpen before }
  order := order

theorem Orderly.isClosing (orderly : state.Orderly) (later : state.shutdown ≠ .serving) :
    state.closing = true := by
  by_contra serving
  exact later (orderly.order.closing (Bool.eq_false_iff.mpr serving))

theorem Orderly.stopReloads (orderly : state.Orderly) (serving : state.shutdown = .serving) :
    ({ state with
      closing := true
      shutdown := .stoppingReloads } : LiveGateway).Orderly := by
  apply orderly.withShutdown rfl
  · exact fun closed => absurd (serving.symm.trans closed) nofun
  · exact
      { closing := nofun
        noAttempt := nofun
        catalogClosed := nofun
        gathered := nofun
        noAction := nofun
        turns := orderly.order.turns
        turnsClosed := nofun }

theorem Orderly.closeCatalog (orderly : state.Orderly)
    (stopping : state.shutdown = .stoppingReloads)
    (free : state.attempt = none) :
    ({ state with
      catalogClosed := true
      gathered := state.actions
      shutdown := .closingCatalog } : LiveGateway).Orderly := by
  have closing : state.closing = true := by
    apply orderly.isClosing
    exact fun serving => absurd (stopping.symm.trans serving) nofun
  apply orderly.withShutdown closing
  · exact fun closed => absurd (stopping.symm.trans closed) nofun
  · exact
      { closing := fun serving => absurd (closing.symm.trans serving) nofun
        noAttempt := fun _ => free
        catalogClosed := fun _ => rfl
        gathered := fun _ _ member => member
        noAction := nofun
        turns := orderly.order.turns
        turnsClosed := nofun }

theorem Orderly.gatheredCatalog (orderly : state.Orderly)
    (waiting : state.shutdown = .closingCatalog)
    (ended : ∀ id ∈ state.gathered, id ∉ state.actions) :
    ({ state with shutdown := .closingChannels } :
      LiveGateway).Orderly := by
  have closing : state.closing = true := by
    apply orderly.isClosing
    exact fun serving => absurd (waiting.symm.trans serving) nofun
  have called : Shutdown.catalogCalled state.shutdown = true := by
    rw [waiting]
    rfl
  apply orderly.withShutdown closing
  · exact fun closed => absurd (waiting.symm.trans closed) nofun
  · exact
      { closing := fun serving => absurd (closing.symm.trans serving) nofun
        noAttempt := fun _ => orderly.order.noAttempt called
        catalogClosed := fun _ => orderly.order.catalogClosed called
        gathered := nofun
        noAction := by
          intro _
          rw [List.eq_nil_iff_forall_not_mem]
          exact fun id member =>
            ended id (orderly.order.gathered waiting id member) member
        turns := orderly.order.turns
        turnsClosed := nofun }

theorem Orderly.closeWeb (orderly : state.Orderly) (waiting : state.shutdown = .closingChannels) :
    ({ state with registered := [], shutdown := .closingTurns } :
      LiveGateway).Orderly := by
  have closing : state.closing = true := by
    apply orderly.isClosing
    exact fun serving => absurd (waiting.symm.trans serving) nofun
  have called : Shutdown.catalogCalled state.shutdown = true := by
    rw [waiting]
    rfl
  have gathered : Shutdown.catalogGathered state.shutdown = true := by
    rw [waiting]
    rfl
  apply orderly.withShutdown closing
  · exact fun closed => absurd (waiting.symm.trans closed) nofun
  · exact
      { closing := fun serving => absurd (closing.symm.trans serving) nofun
        noAttempt := fun _ => orderly.order.noAttempt called
        catalogClosed := fun _ => orderly.order.catalogClosed called
        gathered := nofun
        noAction := fun _ => orderly.order.noAction gathered
        turns := orderly.order.turns
        turnsClosed := nofun }

theorem Orderly.closeRuntime (orderly : state.Orderly) (waiting : state.shutdown = .closingTurns)
    (turnsClosed : state.turns.phase = .closed) :
    ({ state with
      closed := state.host.runtime :: state.closed
      shutdown := .closed } : LiveGateway).Orderly := by
  have called : Shutdown.catalogCalled state.shutdown = true := by
    rw [waiting]
    rfl
  have gathered : Shutdown.catalogGathered state.shutdown = true := by
    rw [waiting]
    rfl
  have closing : state.closing = true := by
    apply orderly.isClosing
    exact fun serving => absurd (waiting.symm.trans serving) nofun
  have free := orderly.order.noAttempt called
  refine
    { workers :=
        { orderly.workers with }
      hosts := ?_
      order := ?_ }
  · exact
      { made := orderly.hosts.made
        closedMade := by
          intro runtime member
          rcases List.mem_cons.mp member with rfl | old
          · exact orderly.hosts.made
          · exact orderly.hosts.closedMade runtime old
        service := orderly.hosts.service
        attempt := fun attempt held =>
          absurd (free.symm.trans held) nofun
        runtimeOpen := fun serving => absurd rfl serving }
  · exact
      { closing := fun serving => absurd (closing.symm.trans serving) nofun
        noAttempt := fun _ => free
        catalogClosed := fun _ => orderly.order.catalogClosed called
        gathered := nofun
        noAction := fun _ => orderly.order.noAction gathered
        turns := orderly.order.turns
        turnsClosed := fun _ => turnsClosed }

theorem Orderly.shutdownStep
    {target : LiveGateway} {event : Event} (orderly : state.Orderly)
    (stepped : state.shutdownStep event = some target) :
    target.Orderly := by
  cases event with
  | stopReloads =>
    simp only [LiveGateway.shutdownStep, Option.ite_none_right_eq_some,
      Option.some.injEq] at stepped
    exact stepped.2 ▸ orderly.stopReloads stepped.1
  | closeCatalog =>
    simp only [LiveGateway.shutdownStep, Option.ite_none_right_eq_some,
      Option.some.injEq] at stepped
    exact stepped.2 ▸ orderly.closeCatalog stepped.1.1 stepped.1.2
  | gatheredCatalog =>
    simp only [LiveGateway.shutdownStep, Option.ite_none_right_eq_some,
      Option.some.injEq] at stepped
    exact stepped.2 ▸ orderly.gatheredCatalog stepped.1.1 stepped.1.2
  | closeWeb =>
    simp only [LiveGateway.shutdownStep, Option.ite_none_right_eq_some,
      Option.some.injEq] at stepped
    exact stepped.2 ▸ orderly.closeWeb stepped.1
  | closeRuntime =>
    simp only [LiveGateway.shutdownStep, Option.ite_none_right_eq_some,
      Option.some.injEq] at stepped
    exact stepped.2 ▸ orderly.closeRuntime stepped.1.1 stepped.1.2.1
  | turns _ | setOthersIdle _ | execute _ | refuse _ | begin _
  | acquire _ | wake _ | takeService _ | endAction _ | unregister _
  | callReload | grant | built _ _ | started _ | activated _
  | closedPrevious | closedCandidate _ =>
    simp only [LiveGateway.shutdownStep] at stepped
    contradiction

end Stopping

theorem Orderly.hostStep {event : Event} (orderly : state.Orderly)
    (keeps : state.KeepsOrder event) (stepped :
      (match state.attempt.bind fun attempt =>
          state.attemptStep attempt event with
        | some target => some target
        | none => state.shutdownStep event) = some target) :
    target.Orderly := by
  split at stepped
  · rename_i next moved
    rw [Option.some.injEq] at stepped
    rcases Option.bind_eq_some_iff.mp moved with ⟨attempt, under, taken⟩
    exact stepped ▸ orderly.attemptStep under keeps taken
  · exact orderly.shutdownStep stepped

theorem step_orderly {event : Event} (orderly : state.Orderly) (keeps : state.KeepsOrder event)
    (stepped : state.step event = some target) : target.Orderly := by
  cases event with
  | turns event => exact orderly.turnStep stepped
  | setOthersIdle idle =>
    simp only [step, Option.some.injEq] at stepped
    exact stepped ▸ orderly.withEnvironment state.queued idle state.executing
  | execute id =>
    simp only [step, Option.ite_none_left_eq_some, Option.some.injEq] at stepped
    exact stepped.2 ▸ orderly.withEnvironment state.queued
      state.othersIdle (state.executing ++ [id])
  | refuse id =>
    simp only [step, Option.some.injEq] at stepped
    exact stepped ▸ orderly.withEnvironment state.queued state.othersIdle (state.executing.erase id)
  | begin id =>
    simp only [step, Option.ite_none_right_eq_some, Option.some.injEq] at stepped
    exact stepped.2 ▸ orderly.begin id keeps
  | acquire worker =>
    simp only [step, Option.ite_none_right_eq_some, Option.some.injEq] at stepped
    exact stepped.2 ▸ orderly.acquire stepped.1.1
  | wake worker =>
    simp only [step, Option.ite_none_right_eq_some, Option.some.injEq] at stepped
    exact stepped.2 ▸ orderly.wake stepped.1
  | takeService id =>
    simp only [step, Option.ite_none_right_eq_some, Option.some.injEq] at stepped
    exact stepped.2 ▸ orderly.takeService stepped.1.1
  | endAction id =>
    simp only [step, Option.some.injEq] at stepped
    exact stepped ▸ orderly.endAction id
  | unregister id =>
    simp only [step, Option.ite_none_left_eq_some, Option.some.injEq] at stepped
    exact stepped.2 ▸ orderly.unregister stepped.1
  | callReload =>
    simp only [step, Option.ite_none_right_eq_some, Option.some.injEq] at stepped
    exact stepped.2 ▸ orderly.callReload
  | grant =>
    simp only [step] at stepped
    split at stepped
    · rw [Option.some.injEq] at stepped
      rename_i queued _ _
      have granted := orderly.withEnvironment queued state.othersIdle
        state.executing
      exact stepped ▸ granted.enterReload
    · contradiction
  | built ending awaits => exact orderly.hostStep keeps stepped
  | started ending => exact orderly.hostStep keeps stepped
  | activated awaits => exact orderly.hostStep keeps stepped
  | closedPrevious => exact orderly.hostStep keeps stepped
  | closedCandidate ending => exact orderly.hostStep keeps stepped
  | stopReloads => exact orderly.hostStep keeps stepped
  | closeCatalog => exact orderly.hostStep keeps stepped
  | gatheredCatalog => exact orderly.hostStep keeps stepped
  | closeWeb => exact orderly.hostStep keeps stepped
  | closeRuntime => exact orderly.hostStep keeps stepped

theorem create_orderly
    {host : GatewayHost} (service : host.service.runtime = host.runtime) :
    (create host).Orderly where
  workers :=
    { waiting := nofun
      woken := nofun
      held := nofun
      serving := nofun
      registered := fun _ => nofun }
  hosts :=
    { made := Nat.le_refl _
      closedMade := nofun
      service := service
      attempt := nofun
      runtimeOpen := fun _ => List.not_mem_nil }
  order :=
    { closing := fun _ => rfl
      noAttempt := fun _ => rfl
      catalogClosed := nofun
      gathered := nofun
      noAction := fun _ => rfl
      turns := nofun
      turnsClosed := nofun }

/--
In every run in which no action begins after the executor was closed, no
activation succeeds in a closing supervisor, and every candidate's service
that was published stops, whoever has obtained a runtime holds the current
one, and it is open.
-/
theorem liveRuns_runOnLiveRuntime
    {state : LiveGateway}
    (reached : liveMachine.Reaches KeepsOrder state) :
    state.RunsOnLiveRuntime := by
  have orderly : state.Orderly := by
    refine reached.invariant ?_ ?_
    · rintro _ ⟨host, service, rfl⟩
      exact create_orderly service
    · intro _ _ _ _ before keeps stepped
      exact step_orderly before keeps stepped
  exact orderly.runsOnLiveRuntime

/-- The executor is closed while a call of `execute` waits for its session. -/
def lateAction : List Event := [.execute "late", .stopReloads, .closeCatalog, .gatheredCatalog,
    .begin "late", .acquire (.action "late"), .closeWeb,
    .turns .beginClose, .turns .endClose, .closeRuntime]

/-- The action works with a runtime that has been closed. -/
theorem late_action_runs_on_closed_runtime : ∃ state,
      liveMachine.run (create GatewayHost.startedHost) lateAction = some state ∧
        state.held = [(.action "late", 0)] ∧ state.closed = [0] ∧
        ¬ state.RunsOnLiveRuntime := by
  refine ⟨_, rfl, rfl, rfl, ?_⟩
  intro runs
  exact absurd (runs.held (.action "late") 0 List.mem_cons_self).2
    (by decide)

/-- What an attempt awaits when nothing fails. -/
def smoothReload : ReloadAwaits :=
  { GatewayHost.failedStart with start := .returned }

/-- An action is accepted before the commit of a reload. -/
def actionDuringReload : List Event :=
  [.callReload, .built .returned smoothReload, .started .returned,
    .execute "early", .begin "early", .acquire (.action "early"),
    .activated smoothReload.activation, .closedPrevious,
    .wake (.action "early"), .takeService "early"]

/-- The action works with the new runtime only. -/
theorem action_during_reload_runs_on_new_runtime : ∃ state,
      liveMachine.run (create GatewayHost.startedHost) actionDuringReload = some state ∧
        state.held = [(.action "early", 1)] ∧
        state.serving = [("early", 1)] ∧ state.closed = [0] ∧
        state.RunsOnLiveRuntime := by
  refine ⟨_, rfl, rfl, rfl, rfl, ?_⟩
  have evaluated :
      liveMachine.runGuarded KeepsOrder (create GatewayHost.startedHost)
        actionDuringReload = some _ := rfl
  exact liveRuns_runOnLiveRuntime (.runGuarded (.start ⟨_, rfl, rfl⟩) evaluated)

/--
In the same runs nothing is left behind a shutdown: no attempt is under way,
no turn or action is running, and nobody waits for a runtime or holds one.
-/
theorem liveRuns_shutDownEmpty {state : LiveGateway}
    (reached : liveMachine.Reaches KeepsOrder state) (down : state.shutdown = .closed) :
    state.attempt = none ∧ (∀ worker, ¬ state.Active worker) ∧ state.waiting = [] ∧
      state.woken = [] ∧ state.held = [] ∧ state.serving = [] := by
  have orderly : state.Orderly := by
    refine reached.invariant ?_ ?_
    · rintro _ ⟨host, service, rfl⟩
      exact create_orderly service
    · intro _ _ _ _ before keeps stepped
      exact step_orderly before keeps stepped
  have ended := orderly.order.turns (orderly.order.turnsClosed down)
  have idle : ∀ worker, ¬ state.Active worker := by
    intro worker active
    cases worker with
    | turn request =>
      rcases active with ⟨turn, live, -, running⟩
      simp [ended turn live] at running
    | action id =>
      have noAction := orderly.order.noAction (by rw [down]; rfl)
      have listed : id ∈ state.actions := active
      simp [noAction] at listed
  have noneHeld : state.held = [] :=
    List.eq_nil_iff_forall_not_mem.mpr fun entry member =>
      idle _ (orderly.workers.held entry member).1
  refine ⟨orderly.order.noAttempt (by rw [down]; rfl), idle, ?_, ?_, noneHeld, ?_⟩
  · exact List.eq_nil_iff_forall_not_mem.mpr fun worker member =>
      idle _ (orderly.workers.waiting worker member)
  · exact List.eq_nil_iff_forall_not_mem.mpr fun worker member =>
      idle _ (orderly.workers.woken worker member)
  · refine List.eq_nil_iff_forall_not_mem.mpr fun entry member => ?_
    have holder := (orderly.workers.serving entry member).1
    simp [noneHeld] at holder

/-- An action ends, and the gateway shuts down. -/
theorem shutdown_after_action : ∃ state, liveMachine.run (create GatewayHost.startedHost)
      [.execute "a", .begin "a", .acquire (.action "a"), .endAction "a", .stopReloads,
        .closeCatalog, .gatheredCatalog, .closeWeb, .turns .beginClose, .turns .endClose,
        .closeRuntime] = some state ∧ state.held = [] := by
  refine ⟨_, rfl, ?_⟩
  have evaluated : liveMachine.runGuarded KeepsOrder (create GatewayHost.startedHost)
      [.execute "a", .begin "a", .acquire (.action "a"), .endAction "a", .stopReloads,
        .closeCatalog, .gatheredCatalog, .closeWeb, .turns .beginClose, .turns .endClose,
        .closeRuntime] = some _ := rfl
  exact (liveRuns_shutDownEmpty (.runGuarded (.start ⟨_, rfl, rfl⟩) evaluated) rfl).2.2.2.2.1

end LiveGateway
end TurningGood.Gateway
