import TurningGood.Gateway.RouteOrder

/-!
# What the other channels leave alone

A route belongs to one channel.  The events of the requests of other channels
therefore change nothing for the requests of a channel: they are accepted,
waiting, under way or answered as before.  The moves of a turn before its
reply do not matter here either.
-/

namespace TurningGood.Gateway

open TurningGood.Foundation

/-- The channel that a request came from. -/
def Request.channel (request : Request) : String := request.message.route.channel

theorem Request.channel_of_route_eq
    {request other : Request} (same : request.route = other.route) :
    request.channel = other.channel :=
  congrArg RouteKey.channel same

namespace GatewayTurns

variable {after : GatewayTurns} {turn : Turn} {stage : TurnStage}
  {route : RouteKey} {request : Request}

/-- A turn of the request has not been answered. -/
def InProgress (state : GatewayTurns) (request : Request) : Prop :=
  ∃ stage, stage ≠ TurnStage.replied ∧ ⟨request, stage⟩ ∈ state.turns

/-- The request waits on its route. -/
def Waits (state : GatewayTurns) (request : Request) : Prop :=
  request ∈ state.coordinator.pending request.route

/-- The requests of a channel are where they were before. -/
structure KeepsChannel (channel : String) (before after : GatewayTurns) :
    Prop where
  accepted : ∀ request, request.channel = channel →
    (request ∈ after.accepted ↔ request ∈ before.accepted)
  waits : ∀ request, request.channel = channel → (after.Waits request ↔ before.Waits request)
  inProgress : ∀ request, request.channel = channel →
    (after.InProgress request ↔ before.InProgress request)
  replied : ∀ request, request.channel = channel →
    (⟨request, .replied⟩ ∈ after.turns ↔ ⟨request, .replied⟩ ∈ before.turns)
  removed : ∀ request reason, request.channel = channel →
    (request, reason) ∈ after.removed → (request, reason) ∈ before.removed
  dispatched : ∃ more, after.dispatched = before.dispatched ++ more ∧
    ∀ request ∈ more, request.channel ≠ channel

variable {channel : String} {state : GatewayTurns}

theorem KeepsChannel.of_turns (accepted : ∀ request, request.channel = channel →
      (request ∈ after.accepted ↔ request ∈ state.accepted))
    (waits : ∀ request, request.channel = channel → (after.Waits request ↔ state.Waits request))
    (turns : ∀ turn : Turn, turn.request.channel = channel →
      (turn ∈ after.turns ↔ turn ∈ state.turns))
    (removed : ∀ request reason, request.channel = channel →
      (request, reason) ∈ after.removed → (request, reason) ∈ state.removed)
    (dispatched : ∃ more, after.dispatched = state.dispatched ++ more ∧
      ∀ request ∈ more, request.channel ≠ channel) :
    KeepsChannel channel state after where
  accepted := accepted
  waits := waits
  inProgress := by
    intro request own
    exact exists_congr fun stage =>
      and_congr_right fun _ => turns ⟨request, stage⟩ own
  replied := fun request own => turns ⟨request, .replied⟩ own
  removed := removed
  dispatched := dispatched

theorem KeepsChannel.refl : KeepsChannel channel state state :=
  .of_turns (fun _ _ => Iff.rfl) (fun _ _ => Iff.rfl) (fun _ _ => Iff.rfl) (fun _ _ _ gone => gone)
    ⟨[], (List.append_nil _).symm, nofun⟩

theorem mem_setStage_iff {other : Turn} : other ∈ (state.setStage turn stage).turns ↔
      (other ∈ state.turns ∧ other ≠ turn) ∨
        (turn ∈ state.turns ∧ other = ⟨turn.request, stage⟩) := by
  simp only [setStage, List.mem_map]
  constructor
  · rintro ⟨before, present, rfl⟩
    split_ifs with same
    · subst before
      exact Or.inr ⟨present, rfl⟩
    · exact Or.inl ⟨present, same⟩
  · rintro (⟨present, different⟩ | ⟨present, rfl⟩)
    · exact ⟨other, present, if_neg different⟩
    · exact ⟨turn, present, if_pos rfl⟩

theorem setStage_keepsChannel (present : turn ∈ state.turns)
    (unanswered : turn.stage ≠ .replied) (still : stage ≠ .replied) :
    KeepsChannel channel state (state.setStage turn stage) where
  accepted := fun _ _ => Iff.rfl
  waits := fun _ _ => Iff.rfl
  inProgress := by
    intro request _
    constructor
    · rintro ⟨other, early, member⟩
      rcases mem_setStage_iff.mp member with ⟨old, _⟩ | ⟨_, new⟩
      · exact ⟨other, early, old⟩
      · cases new
        exact ⟨turn.stage, unanswered, present⟩
    · rintro ⟨other, early, member⟩
      by_cases same : (⟨request, other⟩ : Turn) = turn
      · subst turn
        exact ⟨stage, still, mem_setStage_iff.mpr (Or.inr ⟨member, rfl⟩)⟩
      · exact ⟨other, early, mem_setStage_iff.mpr (Or.inl ⟨member, same⟩)⟩
  replied := by
    intro request _
    rw [mem_setStage_iff]
    constructor
    · rintro (⟨old, _⟩ | ⟨_, new⟩)
      · exact old
      · exact absurd (congrArg Turn.stage new).symm still
    · intro old
      refine Or.inl ⟨old, ?_⟩
      rintro rfl
      exact unanswered rfl
  removed := fun _ _ _ gone => gone
  dispatched := ⟨[], (List.append_nil _).symm, nofun⟩

theorem setStage_other_keepsChannel (other : turn.request.channel ≠ channel) :
    KeepsChannel channel state (state.setStage turn stage) := by
  apply KeepsChannel.of_turns
  · exact fun _ _ => Iff.rfl
  · exact fun _ _ => Iff.rfl
  · intro candidate own
    rw [mem_setStage_iff]
    constructor
    · rintro (⟨old, _⟩ | ⟨_, rfl⟩)
      · exact old
      · exact absurd own other
    · intro old
      refine Or.inl ⟨old, ?_⟩
      rintro rfl
      exact other own
  · exact fun _ _ _ gone => gone
  · exact ⟨[], (List.append_nil _).symm, nofun⟩

/-! ## The end of a turn -/

theorem mem_endTurn_iff {other : Turn} : other ∈ (state.endTurn turn).turns ↔
      other ∈ state.turns ∧ other ≠ turn := by
  simp only [endTurn, List.mem_filter, ne_eq, decide_not,
    Bool.not_eq_eq_eq_not, Bool.not_true, decide_eq_false_iff_not]

theorem waits_of_update {queue : List Request} (pending : after.coordinator.pending =
        Function.update state.coordinator.pending route queue)
    (other : request.route ≠ route) :
    after.Waits request ↔ state.Waits request := by
  unfold Waits
  rw [pending, Function.update_of_ne other]

theorem endTurn_keepsChannel (turn : Turn) (next : Option Request)
    (removed : List (Request × Removal))
    (other : turn.request.channel ≠ channel)
    (accepted : after.accepted = state.accepted) (pending :
      after.coordinator.pending = state.coordinator.pending ∨ ∃ queue, after.coordinator.pending =
            Function.update state.coordinator.pending turn.request.route queue) (turns :
      after.turns = (state.endTurn turn).turns ++
          next.toList.map fun request => ⟨request, .dispatching⟩)
    (dispatched : after.dispatched = state.dispatched ++ next.toList)
    (nextRoute : ∀ request ∈ next, request.route = turn.request.route)
    (gone : after.removed = state.removed ++ removed)
    (goneRoute : ∀ entry ∈ removed, entry.1.route = turn.request.route) :
    KeepsChannel channel state after := by
  have nextOther : ∀ request ∈ next.toList, request.channel ≠ channel := by
    intro request member
    have route := nextRoute request (Option.mem_toList.mp member)
    rw [Request.channel_of_route_eq route]
    exact other
  apply KeepsChannel.of_turns
  · exact fun request _ => accepted ▸ Iff.rfl
  · intro request own
    rcases pending with same | ⟨queue, updated⟩
    · unfold Waits
      rw [same]
    · apply waits_of_update updated
      intro route
      rw [← Request.channel_of_route_eq route] at other
      exact other own
  · intro candidate own
    rw [turns, List.mem_append, mem_endTurn_iff]
    constructor
    · rintro (⟨old, _⟩ | new)
      · exact old
      · rcases List.mem_map.mp new with ⟨request, listed, rfl⟩
        exact absurd own (nextOther request listed)
    · intro old
      refine Or.inl ⟨old, ?_⟩
      rintro rfl
      exact other own
  · intro request reason own present
    rw [gone] at present
    rcases List.mem_append.mp present with old | new
    · exact old
    · have route := goneRoute _ new
      rw [← Request.channel_of_route_eq route] at other
      exact absurd own other
  · exact ⟨next.toList, dispatched, nextOther⟩

theorem front_route (consistent : state.Consistent) {next : Request}
    {rest : List Request}
    (front : state.coordinator.pending route = next :: rest) :
    next.route = route := by
  have waits : next ∈ state.lines.waiting route := by
    change next ∈ state.coordinator.pending route
    rw [front]
    exact List.mem_cons_self
  exact (consistent.lines.mem_waiting waits).2

theorem deliver_keepsChannel (consistent : state.Consistent) (other : request.channel ≠ channel) :
    KeepsChannel channel state (state.deliver request) := by
  have cases := state.coordinator.completeRouteTurn_cases request.route
    request.message.id
  unfold deliver
  generalize state.coordinator.completeRouteTurn request.route request.message.id = result at cases
  cases cases with
  | stale inactive =>
    apply endTurn_keepsChannel ⟨request, .replied⟩ none [] other
    · rfl
    · exact Or.inl rfl
    · exact (List.append_nil _).symm
    · exact (List.append_nil _).symm
    · exact fun _ absurd => nomatch absurd
    · exact (List.append_nil _).symm
    · exact fun _ listed => absurd listed List.not_mem_nil
  | freed active empty =>
    apply endTurn_keepsChannel ⟨request, .replied⟩ none [] other
    · rfl
    · exact Or.inr ⟨[], GatewayTurnCoordinator.pending_freeRoute _ _⟩
    · exact (List.append_nil _).symm
    · exact (List.append_nil _).symm
    · exact fun _ absurd => nomatch absurd
    · exact (List.append_nil _).symm
    · exact fun _ listed => absurd listed List.not_mem_nil
  | advanced next rest active front =>
    have route := front_route consistent front
    apply endTurn_keepsChannel ⟨request, .replied⟩ (some next) [] other
    · rfl
    · refine Or.inr ⟨rest, ?_⟩
      rw [← route]
      exact GatewayTurnCoordinator.pending_advance _ _ _
    · rfl
    · rfl
    · intro _ same
      cases same
      exact route
    · exact (List.append_nil _).symm
    · exact fun _ listed => absurd listed List.not_mem_nil

theorem rollback_keepsChannel (consistent : state.Consistent) {advance : Bool}
    {reason : Removal} (other : request.channel ≠ channel) :
    KeepsChannel channel state (state.rollback request advance reason) := by
  have cases := state.coordinator.rollbackDispatch_cases request advance
  unfold rollback
  generalize state.coordinator.rollbackDispatch request advance = result at cases
  cases cases with
  | stale inactive =>
    apply endTurn_keepsChannel ⟨request, .dispatching⟩ none [] other
    · rfl
    · exact Or.inl rfl
    · exact (List.append_nil _).symm
    · exact (List.append_nil _).symm
    · exact fun _ absurd => nomatch absurd
    · rfl
    · exact fun _ listed => absurd listed List.not_mem_nil
  | advanced next rest active advances front =>
    have route := front_route consistent front
    apply endTurn_keepsChannel ⟨request, .dispatching⟩ (some next) [] other
    · rfl
    · refine Or.inr ⟨rest, ?_⟩
      rw [← route]
      exact GatewayTurnCoordinator.pending_advance _ _ _
    · rfl
    · rfl
    · intro _ same
      cases same
      exact route
    · rfl
    · exact fun _ listed => absurd listed List.not_mem_nil
  | freed inflight active last =>
    apply endTurn_keepsChannel ⟨request, .dispatching⟩ none
      ((state.coordinator.pending request.route).map fun waiting => (waiting, reason)) other
    · rfl
    · exact Or.inr ⟨[], GatewayTurnCoordinator.pending_freeRoute _ _⟩
    · exact (List.append_nil _).symm
    · exact (List.append_nil _).symm
    · exact fun _ absurd => nomatch absurd
    · rfl
    · intro entry listed
      rcases List.mem_map.mp listed with ⟨waiting, waits, rfl⟩
      exact (consistent.lines.mem_waiting waits).2

theorem pending_queued (coordinator : GatewayTurnCoordinator) (inflight : List String)
    (route : RouteKey) (queue : List Request) :
    { coordinator with
      inflight := inflight
      pendingRoutes := coordinator.pendingRoutes.insert route queue }.pending =
      Function.update coordinator.pending route queue := by
  funext other
  unfold GatewayTurnCoordinator.pending
  by_cases same : other = route
  · subst other
    simp
  · simp [Function.update_of_ne same, Dict.get?_insert_of_ne _ _ same]

theorem submit_keepsChannel
    {message : InboundMessage} (other : message.route.channel ≠ channel) :
    KeepsChannel channel state (state.submit message) := by
  have cases := state.coordinator.submit_cases
    ⟨state.accepted.length, message⟩
  unfold submit
  dsimp only
  generalize state.coordinator.submit ⟨state.accepted.length, message⟩ = result at cases
  generalize equal : (⟨state.accepted.length, message⟩ : Request) = request at cases
  have notOwn : request.channel ≠ channel := by
    rw [← equal]
    exact other
  have acceptedSame (candidate : Request)
      (own : candidate.channel = channel) :
      candidate ∈ state.accepted ++ [request] ↔
        candidate ∈ state.accepted := by
    rw [List.mem_append, List.mem_singleton]
    constructor
    · rintro (old | rfl)
      · exact old
      · exact absurd own notOwn
    · exact Or.inl
  cases cases with
  | raised text => exact .refl
  | refused => exact .refl
  | queued inflight occupant serving busy =>
    apply KeepsChannel.of_turns
    · exact acceptedSame
    · intro candidate own
      apply waits_of_update (pending_queued _ inflight _ _)
      intro route
      rw [Request.channel_of_route_eq route] at own
      exact notOwn own
    · exact fun _ _ => Iff.rfl
    · exact fun _ _ _ gone => gone
    · exact ⟨[], (List.append_nil _).symm, fun _ listed => absurd listed List.not_mem_nil⟩
  | dispatching inflight serving free =>
    apply KeepsChannel.of_turns
    · exact acceptedSame
    · exact fun _ _ => Iff.rfl
    · intro turn own
      simp only [dispatchNext, List.mem_append, List.mem_singleton]
      constructor
      · rintro (old | rfl)
        · exact old
        · exact absurd own notOwn
      · exact Or.inl
    · exact fun _ _ _ gone => gone
    · refine ⟨[request], rfl, ?_⟩
      intro candidate listed
      rw [List.mem_singleton.mp listed]
      exact notOwn

theorem discard_keepsChannel (consistent : state.Consistent) (other : route.channel ≠ channel) :
    KeepsChannel channel state ({ state with
          coordinator := (state.coordinator.discardPendingRoute route).1 }.remove
        (state.coordinator.discardPendingRoute route).2 .discarded) := by
  unfold GatewayTurnCoordinator.discardPendingRoute
  dsimp only
  rcases GatewayTurnCoordinator.foldl_discardInflight (state.coordinator.pending route)
    { state.coordinator with
      pendingRoutes := state.coordinator.pendingRoutes.erase route } with
    ⟨inflight, equal⟩
  rw [equal]
  apply KeepsChannel.of_turns
  · exact fun _ _ => Iff.rfl
  · intro request own
    apply waits_of_update (state.coordinator.pending_erase route)
    rintro rfl
    exact other own
  · exact fun _ _ => Iff.rfl
  · intro request reason own gone
    rcases List.mem_append.mp gone with old | new
    · exact old
    · rcases List.mem_map.mp new with ⟨waiting, waits, same⟩
      cases same
      have here := (consistent.lines.mem_waiting waits).2
      have same : request.route = route := here
      rw [← same] at other
      exact absurd own other
  · exact ⟨[], (List.append_nil _).symm, fun _ listed => absurd listed List.not_mem_nil⟩

theorem Consistent.noneWaits (consistent : state.Consistent)
    (noTurns : ∀ turn ∈ state.turns, turn.request.channel ≠ channel)
    (own : request.channel = channel) : ¬ state.Waits request := by
  intro waits
  have slot := consistent.slots request.route
  have here : request ∈ state.coordinator.pending request.route := waits
  have busy (turn : Turn)
      (only : state.turnsOn request.route = [turn]) : False := by
    have member : turn ∈ state.turnsOn request.route :=
      only ▸ List.mem_singleton_self turn
    rcases List.mem_filter.mp member with ⟨live, onRoute⟩
    apply noTurns turn live
    rw [Request.channel_of_route_eq (of_decide_eq_true onRoute)]
    exact own
  unfold RouteSlot at slot
  cases phase : state.phase with
  | closed =>
    rw [phase] at slot
    rw [slot.2.1] at here
    exact absurd here List.not_mem_nil
  | serving | closing =>
    rw [phase] at slot
    rcases slot with ⟨_, empty, _⟩ | ⟨turn, _, only⟩
    · rw [empty] at here
      exact absurd here List.not_mem_nil
    · exact busy turn only

theorem endClose_keepsChannel (consistent : state.Consistent)
    (noTurns : ∀ turn ∈ state.turns, turn.request.channel ≠ channel) :
    KeepsChannel channel state ({ state with
          coordinator := state.coordinator.clear
          phase := .closed
          turns := state.turns.filter fun turn =>
              turn.stage ≠ TurnStage.cancelled }.remove
        state.coordinator.pendingRoutes.values.flatten .closed) := by
  apply KeepsChannel.of_turns
  · exact fun _ _ => Iff.rfl
  · intro request own
    have none := consistent.noneWaits noTurns own
    constructor
    · exact fun waits => absurd waits List.not_mem_nil
    · exact fun waits => absurd waits none
  · intro turn own
    constructor
    · exact fun left => List.mem_of_mem_filter left
    · exact fun live => absurd own (noTurns turn live)
  · intro request reason own gone
    rcases List.mem_append.mp gone with old | new
    · exact old
    · rcases List.mem_map.mp new with ⟨waiting, listed, same⟩
      cases same
      rcases List.mem_flatten.mp listed with ⟨queue, valued, waits⟩
      rcases (Dict.mem_values_iff _ _).mp valued with ⟨route, found⟩
      have here : request ∈ state.lines.waiting route := by
        simp [lines, GatewayTurnCoordinator.pending, found, waits]
      have own' : state.Waits request := by
        have onRoute : request.route = route :=
          (consistent.lines.mem_waiting here).2
        rw [← onRoute] at here
        exact here
      exact absurd own' (consistent.noneWaits noTurns own)
  · exact ⟨[], (List.append_nil _).symm, fun _ listed => absurd listed List.not_mem_nil⟩

/-- The event accepts, ends or removes no request of the channel. -/
def Event.Elsewhere (channel : String) : Event → Prop
  | .submit message => message.route.channel ≠ channel
  | .dispatchRaised request | .dispatchCancelled request
  | .finish request _ | .deliver request => request.channel ≠ channel
  | .discardPendingRoute route => route.channel ≠ channel
  | .dispatchReturned _ | .consume _ | .reserve _ _ | .release _
  | .beginClose | .cancelTurn _ | .endClose => True

theorem step_keepsChannel {event : Event} (consistent : state.Consistent)
    (noTurns : state.phase ≠ .serving → ∀ turn ∈ state.turns, turn.request.channel ≠ channel)
    (elsewhere : Event.Elsewhere channel event)
    (stepped : state.step event = some after) :
    KeepsChannel channel state after := by
  cases event with
  | submit message =>
    simp only [step, Option.some.injEq] at stepped
    exact stepped ▸ submit_keepsChannel elsewhere
  | dispatchReturned request =>
    simp only [step, Option.ite_none_right_eq_some, Option.some.injEq] at stepped
    exact stepped.2 ▸ setStage_keepsChannel stepped.1 (by rintro ⟨⟩) (by rintro ⟨⟩)
  | dispatchRaised request =>
    simp only [step, Option.ite_none_right_eq_some, Option.some.injEq] at stepped
    exact stepped.2 ▸ rollback_keepsChannel consistent elsewhere
  | dispatchCancelled request =>
    simp only [step, Option.ite_none_right_eq_some, Option.some.injEq] at stepped
    exact stepped.2 ▸ rollback_keepsChannel consistent elsewhere
  | consume request =>
    simp only [step, Option.ite_none_right_eq_some, Option.some.injEq] at stepped
    exact stepped.2 ▸ setStage_keepsChannel stepped.1.1 (by rintro ⟨⟩) (by rintro ⟨⟩)
  | finish request outcome =>
    simp only [step, Option.ite_none_right_eq_some, Option.some.injEq] at stepped
    rcases stepped with ⟨_, rfl⟩
    have moved : KeepsChannel channel state
        (state.setStage ⟨request, .running⟩ .replied) :=
      setStage_other_keepsChannel elsewhere
    exact ⟨moved.accepted, moved.waits, moved.inProgress,
      moved.replied, moved.removed, moved.dispatched⟩
  | deliver request =>
    simp only [step, Option.ite_none_right_eq_some, Option.some.injEq] at stepped
    exact stepped.2 ▸ deliver_keepsChannel consistent elsewhere
  | discardPendingRoute route =>
    simp only [step, Option.some.injEq] at stepped
    exact stepped ▸ discard_keepsChannel consistent elsewhere
  | reserve token matcher =>
    simp only [step, GatewayTurnCoordinator.reserveMatchingRoutesIfIdle] at stepped
    split_ifs at stepped
    all_goals
      simp only [Option.some.injEq] at stepped
      subst after
    · exact .refl
    · exact .refl
    · exact .of_turns (fun _ _ => Iff.rfl) (fun _ _ => Iff.rfl)
        (fun _ _ => Iff.rfl) (fun _ _ _ gone => gone)
        ⟨[], (List.append_nil _).symm, fun _ listed => absurd listed List.not_mem_nil⟩
  | release token =>
    simp only [step, Option.some.injEq] at stepped
    subst after
    exact .of_turns (fun _ _ => Iff.rfl) (fun _ _ => Iff.rfl)
      (fun _ _ => Iff.rfl) (fun _ _ _ gone => gone)
      ⟨[], (List.append_nil _).symm, fun _ listed => absurd listed List.not_mem_nil⟩
  | beginClose =>
    simp only [step, Option.ite_none_right_eq_some, Option.some.injEq] at stepped
    rcases stepped with ⟨_, rfl⟩
    exact .of_turns (fun _ _ => Iff.rfl) (fun _ _ => Iff.rfl)
      (fun _ _ => Iff.rfl) (fun _ _ _ gone => gone)
      ⟨[], (List.append_nil _).symm, fun _ listed => absurd listed List.not_mem_nil⟩
  | cancelTurn request =>
    simp only [step, Option.ite_none_right_eq_some, Option.some.injEq] at stepped
    exact stepped.2 ▸ setStage_keepsChannel stepped.1.1 (by rintro ⟨⟩) (by rintro ⟨⟩)
  | endClose =>
    simp only [step, Option.ite_none_right_eq_some, Option.some.injEq] at stepped
    rcases stepped with ⟨⟨closing, _⟩, rfl⟩
    have ceased : state.phase ≠ .serving := by
      rw [closing]
      rintro ⟨⟩
    exact endClose_keepsChannel consistent (noTurns ceased)

/-! ## A request of the channel -/

/-- The request waits, or its turn has not been answered. -/
def Early (state : GatewayTurns) (request : Request) : Prop :=
  state.Waits request ∨ state.InProgress request

/-- `submit` accepts the message. -/
def Admits (coordinator : GatewayTurnCoordinator) (message : InboundMessage) : Prop :=
  coordinator.closed = false ∧ coordinator.routeBlocks.values.any
        (fun matcher => matcher (routeKey message.route)) = false ∧
    coordinator.inflight.contains message.id = false ∧
    (coordinator.terminal.map Prod.fst).contains message.id = false

instance (coordinator : GatewayTurnCoordinator)
    (message : InboundMessage) : Decidable (Admits coordinator message) :=
  inferInstanceAs (Decidable (_ ∧ _ ∧ _ ∧ _))

/-- The request has been accepted, and it may be dispatched already. -/
structure Joined (before after : GatewayTurns) (request : Request) :
    Prop where
  accepted : after.accepted = before.accepted ++ [request]
  early : after.Early request
  others : ∀ other, other ≠ request → (after.Early other ↔ before.Early other)
  replied : ∀ other, ⟨other, .replied⟩ ∈ after.turns ↔ ⟨other, .replied⟩ ∈ before.turns
  turns : ∀ turn ∈ after.turns, turn ∈ before.turns ∨ turn = ⟨request, .dispatching⟩ ∧
      after.dispatched = before.dispatched ++ [request]
  removed : after.removed = before.removed
  dispatched : after.dispatched = before.dispatched ∨
    after.dispatched = before.dispatched ++ [request] ∧ ⟨request, .dispatching⟩ ∈ after.turns

theorem joined_of_queue (accepted : after.accepted = state.accepted ++ [request]) (pending :
      after.coordinator.pending = Function.update state.coordinator.pending request.route
          (state.coordinator.pending request.route ++ [request]))
    (turns : after.turns = state.turns)
    (removed : after.removed = state.removed)
    (dispatched : after.dispatched = state.dispatched) :
    Joined state after request where
  accepted := accepted
  early := by
    left
    unfold Waits
    rw [pending, Function.update_self]
    exact List.mem_append_right _ List.mem_cons_self
  others := by
    intro other different
    have waits : after.Waits other ↔ state.Waits other := by
      unfold Waits
      rw [pending]
      by_cases same : other.route = request.route
      · rw [same, Function.update_self, List.mem_append, List.mem_singleton]
        exact or_iff_left different
      · rw [Function.update_of_ne same]
    unfold Early InProgress
    rw [waits, turns]
  replied := fun _ => turns ▸ Iff.rfl
  turns := fun _ live => Or.inl (turns ▸ live)
  removed := removed
  dispatched := Or.inl dispatched

theorem joined_of_dispatch (accepted : after.accepted = state.accepted ++ [request])
    (pending : after.coordinator.pending = state.coordinator.pending)
    (turns : after.turns = state.turns ++ [⟨request, .dispatching⟩])
    (removed : after.removed = state.removed)
    (dispatched : after.dispatched = state.dispatched ++ [request]) :
    Joined state after request where
  accepted := accepted
  early := by
    right
    refine ⟨.dispatching, nofun, ?_⟩
    rw [turns]
    exact List.mem_append_right _ List.mem_cons_self
  others := by
    intro other different
    have notNew (stage : TurnStage) :
        (⟨other, stage⟩ : Turn) ≠ ⟨request, .dispatching⟩ :=
      fun same => different (congrArg Turn.request same)
    unfold Early InProgress Waits
    rw [pending, turns]
    apply or_congr_right
    apply exists_congr
    intro stage
    rw [List.mem_append, List.mem_singleton, or_iff_left (notNew stage)]
  replied := by
    intro other
    rw [turns, List.mem_append, List.mem_singleton]
    apply or_iff_left
    exact fun same => nomatch congrArg Turn.stage same
  turns := by
    intro turn live
    rw [turns] at live
    rcases List.mem_append.mp live with old | new
    · exact Or.inl old
    · exact Or.inr ⟨List.mem_singleton.mp new, dispatched⟩
  removed := removed
  dispatched := by
    right
    refine ⟨dispatched, ?_⟩
    rw [turns]
    exact List.mem_append_right _ List.mem_cons_self

theorem Admits.not_refused {coordinator : GatewayTurnCoordinator}
    (admits : Admits coordinator request.message) :
    coordinator.submit request ≠ .refused ∧ ∀ text, coordinator.submit request ≠ .raised text := by
  rcases admits with ⟨serving, unblocked, notInflight, notTerminal⟩
  unfold GatewayTurnCoordinator.submit
  simp only [Request.route, serving, unblocked, notInflight,
    notTerminal, Bool.or_self, Bool.false_eq_true, if_false]
  split_ifs
  · exact ⟨(by rintro ⟨⟩), fun _ => (by rintro ⟨⟩)⟩
  · exact ⟨(by rintro ⟨⟩), fun _ => (by rintro ⟨⟩)⟩

theorem submit_joined
    {message : InboundMessage}
    (admits : Admits state.coordinator message) :
    state.phase = (state.submit message).phase ∧
      Joined state (state.submit message) ⟨state.accepted.length, message⟩ := by
  have cases := state.coordinator.submit_cases
    ⟨state.accepted.length, message⟩
  have evaluated : state.coordinator.submit
        ⟨state.accepted.length, message⟩ ≠ .refused ∧
      ∀ text, state.coordinator.submit ⟨state.accepted.length, message⟩ ≠ .raised text :=
    admits.not_refused
  unfold submit
  dsimp only
  generalize state.coordinator.submit ⟨state.accepted.length, message⟩ = result at cases evaluated
  cases cases with
  | raised text => exact absurd rfl (evaluated.2 text)
  | refused => exact absurd rfl evaluated.1
  | queued inflight occupant serving busy =>
    refine ⟨rfl, joined_of_queue rfl ?_ rfl rfl rfl⟩
    exact pending_queued _ inflight _ _
  | dispatching inflight serving free =>
    exact ⟨rfl, joined_of_dispatch rfl rfl rfl rfl rfl⟩

/-- A turn has ended, and the next request of its route may have begun. -/
structure HandedOn (before after : GatewayTurns) (request : Request) :
    Prop where
  accepted : after.accepted = before.accepted
  early : ∀ other, after.Early other ↔ before.Early other
  replied : ∀ other, other ≠ request →
    (⟨other, .replied⟩ ∈ after.turns ↔ ⟨other, .replied⟩ ∈ before.turns)
  removed : after.removed = before.removed
  phase : after.phase = before.phase
  next : ∃ next : Option Request,
    after.dispatched = before.dispatched ++ next.toList ∧ (∀ turn ∈ after.turns,
        turn ∈ before.turns ∧ turn ≠ ⟨request, .replied⟩ ∨
          ∃ other ∈ next, turn = ⟨other, .dispatching⟩) ∧
      ∀ other ∈ next, before.Waits other ∧ other.route = request.route ∧
          ⟨other, .dispatching⟩ ∈ after.turns

theorem endTurn_handedOn (next : Option Request)
    (accepted : after.accepted = state.accepted) (turns : after.turns =
        (state.endTurn ⟨request, .replied⟩).turns ++
          next.toList.map fun other => ⟨other, .dispatching⟩) (waits : ∀ other,
      state.Waits other ↔ after.Waits other ∨ other ∈ next ∧
        state.Waits other) (removed : after.removed = state.removed)
    (phase : after.phase = state.phase)
    (dispatched : after.dispatched = state.dispatched ++ next.toList)
    (nextWaits : ∀ other ∈ next, state.Waits other ∧ other.route = request.route) :
    HandedOn state after request := by
  have mem {turn : Turn} : turn ∈ after.turns ↔
      turn ∈ state.turns ∧ turn ≠ ⟨request, .replied⟩ ∨
        ∃ other ∈ next, turn = ⟨other, .dispatching⟩ := by
    rw [turns, List.mem_append, mem_endTurn_iff, List.mem_map]
    simp only [Option.mem_toList, Option.mem_def, eq_comm]
  constructor
  · exact accepted
  · intro other
    constructor
    · rintro (waiting | ⟨stage, unanswered, live⟩)
      · exact Or.inl ((waits other).mpr (Or.inl waiting))
      · rcases mem.mp live with ⟨old, _⟩ | ⟨started, listed, same⟩
        · exact Or.inr ⟨stage, unanswered, old⟩
        · cases same
          exact Or.inl (nextWaits other listed).1
    · rintro (waiting | ⟨stage, unanswered, live⟩)
      · rcases (waits other).mp waiting with still | ⟨listed, _⟩
        · exact Or.inl still
        · exact Or.inr ⟨.dispatching, nofun, mem.mpr (Or.inr ⟨other, listed, rfl⟩)⟩
      · refine Or.inr ⟨stage, unanswered, mem.mpr (Or.inl ⟨live, ?_⟩)⟩
        exact fun same => unanswered (congrArg Turn.stage same)
  · intro other different
    rw [mem]
    constructor
    · rintro (⟨old, _⟩ | ⟨_, _, same⟩)
      · exact old
      · exact nomatch congrArg Turn.stage same
    · intro old
      exact Or.inl ⟨old, fun same => different (congrArg Turn.request same)⟩
  · exact removed
  · exact phase
  · refine ⟨next, dispatched, fun turn live => mem.mp live, ?_⟩
    intro other listed
    have waiting := nextWaits other listed
    exact ⟨waiting.1, waiting.2, mem.mpr (Or.inr ⟨other, listed, rfl⟩)⟩

theorem deliver_handedOn (consistent : state.Consistent) (request : Request) :
    HandedOn state (state.deliver request) request := by
  have cases := state.coordinator.completeRouteTurn_cases request.route
    request.message.id
  unfold deliver
  generalize state.coordinator.completeRouteTurn request.route request.message.id = result at cases
  cases cases with
  | stale inactive =>
    apply endTurn_handedOn none
    · rfl
    · exact (List.append_nil _).symm
    · exact fun _ => (or_iff_left fun absurd => nomatch absurd.1).symm
    · rfl
    · rfl
    · exact (List.append_nil _).symm
    · exact fun _ absurd => nomatch absurd
  | freed active empty =>
    apply endTurn_handedOn none
    · rfl
    · exact (List.append_nil _).symm
    · intro other
      rw [or_iff_left fun absurd => nomatch absurd.1]
      unfold Waits
      by_cases same : other.route = request.route
      · rw [same, empty]
        change _ ↔ other ∈ (state.coordinator.freeRoute request.route).pending request.route
        rw [GatewayTurnCoordinator.pending_freeRoute, Function.update_self]
      · change _ ↔ other ∈ (state.coordinator.freeRoute request.route).pending other.route
        rw [GatewayTurnCoordinator.pending_freeRoute, Function.update_of_ne same]
    · rfl
    · rfl
    · exact (List.append_nil _).symm
    · exact fun _ absurd => nomatch absurd
  | advanced next rest active front =>
    have route := front_route consistent front
    have nextWaits : state.Waits next := by
      unfold Waits
      rw [route, front]
      exact List.mem_cons_self
    apply endTurn_handedOn (some next)
    · rfl
    · rfl
    · intro other
      have after : (state.coordinator.advance next rest).pending =
          Function.update state.coordinator.pending request.route
            rest := by
        rw [GatewayTurnCoordinator.pending_advance, route]
      change _ ↔ other ∈ (state.coordinator.advance next rest).pending other.route ∨ _
      rw [after]
      unfold Waits
      by_cases same : other.route = request.route
      · rw [same, front, Function.update_self, List.mem_cons, Option.mem_some, eq_comm]
        constructor
        · rintro (rfl | behind)
          · exact Or.inr ⟨rfl, Or.inl rfl⟩
          · exact Or.inl behind
        · rintro (behind | ⟨rfl, _⟩)
          · exact Or.inr behind
          · exact Or.inl rfl
      · rw [Function.update_of_ne same]
        constructor
        · exact Or.inl
        · rintro (still | ⟨_, still⟩)
          · exact still
          · exact still
    · rfl
    · rfl
    · rfl
    · intro other listed
      cases listed
      exact ⟨nextWaits, route⟩

end GatewayTurns
end TurningGood.Gateway
