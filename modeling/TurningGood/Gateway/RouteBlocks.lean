import TurningGood.Channels.ImCoordinator
import TurningGood.Channels.Registry
import TurningGood.Gateway.RouteOrder

/-!
# Route blocks

A deletion reserves the routes of its account before it touches anything.
The block is granted while no matching request is active, waiting or
expecting its delivery.  As long as it is held, `submit` refuses every
matching message.  A route without a turn and without a queue can only be
entered by an acceptance, so it stays idle until the block is released: no
matching message is accepted or dispatched, whichever channel it comes from
and however many other blocks are granted and released meanwhile.
-/

namespace TurningGood.Channels

open TurningGood.Foundation
open TurningGood.Gateway

/-- `_route_matcher`. -/
def routeMatcher (account : ChannelAccount) (route : RouteKey) : Bool :=
  match account.platform with
  | .weixin =>
    route.principalId = account.principalId ∧
      route.channel = "weixin" ∧ route.conversationId = account.id
  | .feishu =>
    route.principalId = account.principalId ∧ route.channel = "feishu" ∧
      route.conversationId.startsWith (account.id ++ ":")

/-- The sessions that `_clear_matching_sessions` deletes, by their route. -/
def clearsSession (account : ChannelAccount) (session : ChannelRoute) :
    Bool :=
  match account.platform with
  | .weixin =>
    session.principalId = account.principalId ∧
      session.channel = "weixin" ∧ session.conversationId = account.id
  | .feishu =>
    session.principalId = account.principalId ∧ session.channel = "feishu" ∧
      session.conversationId.startsWith (account.id ++ ":")

theorem clearsSession_eq_routeMatcher (account : ChannelAccount) (session : ChannelRoute) :
    clearsSession account session =
      routeMatcher account (routeKey session) := by
  unfold clearsSession routeMatcher
  cases account.platform with
  | feishu => rfl
  | weixin => rfl

/-! ## Routes under a block -/

/-- What holds of the turn coordinator while a block is held. -/
structure RouteBlock.Excludes
    (block : RouteBlock) (state : GatewayTurns) : Prop where
  barred : state.coordinator.closed = true ∨
      state.coordinator.routeBlocks.get? block.token = some block.matcher
  noTurn : ∀ turn ∈ state.turns, block.matcher turn.request.route = false
  noneWaiting : ∀ route, block.matcher route = true → state.coordinator.pending route = []
  noneActive : ∀ route, block.matcher route = true →
    state.coordinator.activeRoutes.get? route = none
  noneAccepted : ImGateway.matching block.matcher state.accepted = block.acceptedBefore
  noneDispatched : ImGateway.matching block.matcher state.dispatched = block.dispatchedBefore

namespace RouteBlock.Excludes

variable {block : RouteBlock} {state : GatewayTurns}

variable {request : Request}

theorem matching_append_of_not {matcher : RouteKey → Bool}
    (outside : matcher request.route = false) (requests : List Request) :
    ImGateway.matching matcher (requests ++ [request]) =
      ImGateway.matching matcher requests := by
  simp [ImGateway.matching, outside]

theorem withCoordinator (excludes : block.Excludes state)
    {coordinator : GatewayTurnCoordinator}
    (barred : coordinator.closed = true ∨
        coordinator.routeBlocks.get? block.token = some block.matcher)
    (pending : ∀ route, block.matcher route = true → coordinator.pending route = [])
    (active : ∀ route, block.matcher route = true → coordinator.activeRoutes.get? route = none) :
    block.Excludes { state with coordinator := coordinator } :=
  { excludes with
    barred := barred
    noneWaiting := pending
    noneActive := active }

theorem setStage (excludes : block.Excludes state) (turn : Turn) (stage : TurnStage) :
    block.Excludes (state.setStage turn stage) :=
  { excludes with
    noTurn := by
      intro other member
      rcases List.mem_map.mp member with ⟨before, old, rfl⟩
      have outside := excludes.noTurn before old
      split_ifs <;> exact outside }

theorem withTurns (excludes : block.Excludes state) {turns : List Turn}
    (fewer : ∀ turn ∈ turns, turn ∈ state.turns) :
    block.Excludes { state with turns := turns } :=
  { excludes with
    noTurn := fun turn member => excludes.noTurn turn (fewer turn member) }

theorem endTurn (excludes : block.Excludes state) (turn : Turn) :
    block.Excludes (state.endTurn turn) :=
  excludes.withTurns fun _ member => List.mem_of_mem_filter member

theorem remove (excludes : block.Excludes state) (requests : List Request)
    (reason : Removal) : block.Excludes (state.remove requests reason) :=
  { excludes with }

theorem dispatchNext (excludes : block.Excludes state) {next : Option Request}
    (outside : ∀ request, next = some request → block.matcher request.route = false) :
    block.Excludes (state.dispatchNext next) := by
  cases next with
  | none => exact excludes
  | some request =>
    have apart := outside request rfl
    refine
      { excludes with
        noTurn := ?_
        noneDispatched := ?_ }
    · intro turn member
      rcases List.mem_append.mp member with old | new
      · exact excludes.noTurn turn old
      · rw [List.mem_singleton.mp new]
        exact apart
    · exact (matching_append_of_not apart _).trans excludes.noneDispatched

theorem withAccepted (excludes : block.Excludes state)
    (outside : block.matcher request.route = false) :
    block.Excludes
      { state with accepted := state.accepted ++ [request] } :=
  { excludes with
    noneAccepted := (matching_append_of_not outside _).trans excludes.noneAccepted }

/-! ## The methods of the coordinator under a block -/

theorem submit_barred (excludes : block.Excludes state)
    (inside : block.matcher request.route = true) :
    (∃ message, state.coordinator.submit request = .raised message) ∨
      state.coordinator.submit request = .refused := by
  unfold GatewayTurnCoordinator.submit
  dsimp only
  rcases excludes.barred with closed | held
  · rw [if_pos closed]
    exact Or.inl ⟨_, rfl⟩
  · split_ifs with closed blocked
    · exact Or.inl ⟨_, rfl⟩
    · exact Or.inr rfl
    all_goals
      refine absurd (List.any_eq_true.mpr ?_) blocked
      exact ⟨block.matcher, (Dict.mem_values_iff _ _).mpr ⟨_, held⟩, inside⟩

theorem ne_of_matcher
    {route other : RouteKey} (outside : block.matcher other = false)
    (inside : block.matcher route = true) : route ≠ other := by
  rintro rfl
  rw [outside] at inside
  contradiction

theorem submit (excludes : block.Excludes state) (message : InboundMessage) :
    block.Excludes (state.submit message) := by
  unfold GatewayTurns.submit
  dsimp only
  generalize made : (⟨state.accepted.length, message⟩ : Request) = request
  by_cases inside : block.matcher request.route = true
  · rcases excludes.submit_barred inside with ⟨_, raised⟩ | refused
    · rw [raised]
      exact excludes
    · rw [refused]
      exact excludes
  · have outside := Bool.eq_false_iff.mpr inside
    have submitted :=
      GatewayTurnCoordinator.submit_cases state.coordinator request
    generalize state.coordinator.submit request = submission at submitted
    cases submitted with
    | raised => exact excludes
    | refused => exact excludes
    | queued inflight other serving busy =>
      have waiting : block.Excludes
          { state with
            coordinator :=
              { state.coordinator with
                inflight := inflight
                pendingRoutes := state.coordinator.pendingRoutes.insert request.route
                    (state.coordinator.pending request.route ++ [request]) } } := by
        apply excludes.withCoordinator
        · exact excludes.barred
        · intro route matched
          have unchanged :=
            Dict.get?_insert_of_ne state.coordinator.pendingRoutes
              (state.coordinator.pending request.route ++ [request])
              (ne_of_matcher outside matched)
          exact (congrArg (Option.getD · []) unchanged).trans (excludes.noneWaiting route matched)
        · exact excludes.noneActive
      exact waiting.withAccepted outside
    | dispatching inflight serving free =>
      have active : block.Excludes
          { state with
            coordinator :=
              { state.coordinator with
                inflight := inflight
                activeRoutes := state.coordinator.activeRoutes.insert request.route
                    request.message.id } } := by
        apply excludes.withCoordinator
        · exact excludes.barred
        · exact excludes.noneWaiting
        · intro route matched
          exact (Dict.get?_insert_of_ne _ _ (ne_of_matcher outside matched)).trans
              (excludes.noneActive route matched)
      apply (active.withAccepted outside).dispatchNext
      intro next same
      cases same
      exact outside

theorem advance (excludes : block.Excludes state) (coordinator : GatewayTurnCoordinator)
    (pendingSame : coordinator.pending = state.coordinator.pending)
    (activeSame : coordinator.activeRoutes = state.coordinator.activeRoutes) (barred :
      coordinator.closed = true ∨ coordinator.routeBlocks.get? block.token = some block.matcher)
    (outside : block.matcher request.route = false) (rest : List Request) :
    block.Excludes
      { state with coordinator := coordinator.advance request rest } := by
  apply excludes.withCoordinator
  · exact barred
  · intro route matched
    rw [GatewayTurnCoordinator.pending_advance,
      Function.update_of_ne (ne_of_matcher outside matched), pendingSame]
    exact excludes.noneWaiting route matched
  · intro route matched
    rw [GatewayTurnCoordinator.activeRoutes_advance,
      Dict.get?_insert_of_ne _ _ (ne_of_matcher outside matched),
      activeSame]
    exact excludes.noneActive route matched

theorem freeRoute (excludes : block.Excludes state) (freed : RouteKey) (inflight : List String) :
    block.Excludes
      { state with
        coordinator :=
          { state.coordinator.freeRoute freed with
            inflight := inflight } } := by
  apply excludes.withCoordinator
  · exact excludes.barred
  · intro route matched
    have pending :=
      congrFun (state.coordinator.pending_freeRoute freed) route
    refine Eq.trans pending ?_
    rw [Function.update_apply]
    split_ifs
    · rfl
    · exact excludes.noneWaiting route matched
  · intro route matched
    have active :
        (state.coordinator.activeRoutes.erase freed).get? route =
          none := by
      by_cases same : route = freed
      · subst route
        exact Dict.get?_erase_self _ _
      · rw [Dict.get?_erase_of_ne _ same]
        exact excludes.noneActive route matched
    exact active

theorem rollback (excludes : block.Excludes state) (consistent : state.Consistent)
    {failed : Request} (live : ⟨failed, .dispatching⟩ ∈ state.turns)
    (advances : Bool) (reason : Removal) :
    block.Excludes (state.rollback failed advances reason) := by
  have outside : block.matcher failed.route = false :=
    excludes.noTurn _ live
  unfold GatewayTurns.rollback
  dsimp only
  have result :=
    GatewayTurnCoordinator.rollbackDispatch_cases state.coordinator failed advances
  generalize state.coordinator.rollbackDispatch failed advances = rolled at result
  cases result with
  | stale inactive =>
    have kept : block.Excludes
        { state with
          coordinator :=
            state.coordinator.discardInflight failed.message.id } :=
      excludes.withCoordinator excludes.barred excludes.noneWaiting excludes.noneActive
    exact (kept.endTurn _).remove _ _
  | advanced request rest active also front =>
    have waits : request ∈ state.coordinator.pending failed.route := by
      rw [front]
      exact List.mem_cons_self
    have same : request.route = failed.route :=
      (consistent.lines.mem_waiting waits).2
    have nextOutside : block.matcher request.route = false :=
      same ▸ outside
    have moved : block.Excludes
        { state with
          coordinator := (state.coordinator.discardInflight
              failed.message.id).advance request rest } :=
      excludes.advance (state.coordinator.discardInflight _) rfl rfl
        excludes.barred nextOutside rest
    apply ((moved.endTurn _).remove _ _).dispatchNext
    intro next equal
    cases equal
    exact nextOutside
  | freed inflight active last =>
    exact ((excludes.freeRoute failed.route inflight).endTurn _).remove
      _ _

theorem deliver (excludes : block.Excludes state)
    (consistent : state.Consistent) (live : ⟨request, .replied⟩ ∈ state.turns) :
    block.Excludes (state.deliver request) := by
  have outside : block.matcher request.route = false :=
    excludes.noTurn _ live
  unfold GatewayTurns.deliver
  dsimp only
  have result :=
    GatewayTurnCoordinator.completeRouteTurn_cases state.coordinator
      request.route request.message.id
  generalize state.coordinator.completeRouteTurn request.route
    request.message.id = completed at result
  cases result with
  | stale inactive => exact excludes.endTurn _
  | freed active empty =>
    exact (excludes.freeRoute request.route state.coordinator.inflight).endTurn _
  | advanced next rest active front =>
    have waits : next ∈ state.coordinator.pending request.route := by
      rw [front]
      exact List.mem_cons_self
    have same : next.route = request.route :=
      (consistent.lines.mem_waiting waits).2
    have nextOutside : block.matcher next.route = false :=
      same ▸ outside
    have moved :=
      excludes.advance state.coordinator rfl rfl excludes.barred nextOutside rest
    apply (moved.endTurn _).dispatchNext
    intro chosen equal
    cases equal
    exact nextOutside

theorem discardPendingRoute (excludes : block.Excludes state) (discarded : RouteKey) :
    block.Excludes
      { state with
        coordinator := (state.coordinator.discardPendingRoute discarded).1 } := by
  unfold GatewayTurnCoordinator.discardPendingRoute
  dsimp only
  rcases GatewayTurnCoordinator.foldl_discardInflight (state.coordinator.pending discarded)
    { state.coordinator with
      pendingRoutes := state.coordinator.pendingRoutes.erase discarded }
    with ⟨inflight, equal⟩
  rw [equal]
  apply excludes.withCoordinator
  · exact excludes.barred
  · intro route matched
    have pending :=
      congrFun (state.coordinator.pending_erase discarded) route
    refine Eq.trans pending ?_
    rw [Function.update_apply]
    split_ifs
    · rfl
    · exact excludes.noneWaiting route matched
  · exact excludes.noneActive

theorem endClose (excludes : block.Excludes state) (closed : state.coordinator.closed = true) :
    block.Excludes ({ state with
        coordinator := state.coordinator.clear
        phase := .closed
        turns := state.turns.filter fun turn =>
            turn.stage ≠ TurnStage.cancelled }.remove
        state.coordinator.pendingRoutes.values.flatten .closed) where
  barred := Or.inl closed
  noTurn := fun turn member =>
    excludes.noTurn turn (List.mem_of_mem_filter member)
  noneWaiting := fun _ _ => rfl
  noneActive := fun _ _ => rfl
  noneAccepted := excludes.noneAccepted
  noneDispatched := excludes.noneDispatched

theorem step (excludes : block.Excludes state) (consistent : state.Consistent)
    {event : GatewayTurns.Event} {target : GatewayTurns}
    (stepped : state.step event = some target)
    (kept : event ≠ .release block.token)
    (fresh : ∀ matcher, event ≠ .reserve block.token matcher) :
    block.Excludes target := by
  cases event with
  | submit message =>
    simp only [GatewayTurns.step, Option.some.injEq] at stepped
    exact stepped ▸ excludes.submit message
  | dispatchReturned request =>
    simp only [GatewayTurns.step, Option.ite_none_right_eq_some, Option.some.injEq] at stepped
    exact stepped.2 ▸ excludes.setStage _ _
  | dispatchRaised request =>
    simp only [GatewayTurns.step, Option.ite_none_right_eq_some, Option.some.injEq] at stepped
    exact stepped.2 ▸ excludes.rollback consistent stepped.1 _ _
  | dispatchCancelled request =>
    simp only [GatewayTurns.step, Option.ite_none_right_eq_some, Option.some.injEq] at stepped
    exact stepped.2 ▸ excludes.rollback consistent stepped.1 _ _
  | consume request =>
    simp only [GatewayTurns.step, Option.ite_none_right_eq_some, Option.some.injEq] at stepped
    exact stepped.2 ▸ excludes.setStage _ _
  | finish request outcome =>
    simp only [GatewayTurns.step, Option.ite_none_right_eq_some, Option.some.injEq] at stepped
    have finished : block.Excludes
        { state with
          coordinator :=
            state.coordinator.finishTurn request.message outcome } := by
      apply excludes.withCoordinator
      · exact excludes.barred
      · exact excludes.noneWaiting
      · exact excludes.noneActive
    exact stepped.2 ▸ finished.setStage _ _
  | deliver request =>
    simp only [GatewayTurns.step, Option.ite_none_right_eq_some, Option.some.injEq] at stepped
    exact stepped.2 ▸ excludes.deliver consistent stepped.1
  | discardPendingRoute route =>
    simp only [GatewayTurns.step, Option.some.injEq] at stepped
    exact stepped ▸ (excludes.discardPendingRoute (routeKey route)).remove _ _
  | reserve token matcher =>
    have other : block.token ≠ token := by
      rintro rfl
      exact fresh matcher rfl
    simp only [GatewayTurns.step, GatewayTurnCoordinator.reserveMatchingRoutesIfIdle] at stepped
    split_ifs at stepped with closed busy
    all_goals
      simp only [Option.some.injEq] at stepped
      subst target
    · exact excludes
    · exact excludes
    · apply excludes.withCoordinator
      · refine excludes.barred.imp id fun held => ?_
        exact (Dict.get?_insert_of_ne _ _ other).trans held
      · exact excludes.noneWaiting
      · exact excludes.noneActive
  | release token =>
    have other : block.token ≠ token := by
      rintro rfl
      exact kept rfl
    simp only [GatewayTurns.step, Option.some.injEq] at stepped
    subst target
    apply excludes.withCoordinator
    · refine excludes.barred.imp id fun held => ?_
      exact (Dict.get?_erase_of_ne _ other).trans held
    · exact excludes.noneWaiting
    · exact excludes.noneActive
  | beginClose =>
    simp only [GatewayTurns.step, Option.ite_none_right_eq_some, Option.some.injEq] at stepped
    rcases stepped with ⟨_, rfl⟩
    exact
      { excludes with
        barred := Or.inl rfl }
  | cancelTurn request =>
    simp only [GatewayTurns.step, Option.ite_none_right_eq_some, Option.some.injEq] at stepped
    exact stepped.2 ▸ excludes.setStage _ _
  | endClose =>
    simp only [GatewayTurns.step, Option.ite_none_right_eq_some, Option.some.injEq] at stepped
    have closed : state.coordinator.closed = true := by
      by_contra serving
      have phase :=
        consistent.closedFlag (Bool.eq_false_iff.mpr serving)
      rw [stepped.1.1] at phase
      contradiction
    exact stepped.2 ▸ excludes.endClose closed

end RouteBlock.Excludes

namespace ImGateway

variable {state target : ImGateway} {request : Request} {event : Event}

/-- No turn, no waiting request and no control is on a matching route. -/
structure RoutesIdle
    (state : ImGateway) (matcher : RouteKey → Bool) : Prop where
  noTurn : ∀ turn ∈ state.gateway.turns, matcher turn.request.route = false
  noneWaiting : ∀ route, matcher route = true → state.gateway.coordinator.pending route = []
  noneActive : ∀ route, matcher route = true →
    state.gateway.coordinator.activeRoutes.get? route = none
  noControl : ∀ control ∈ state.coordinator.controls.values, matcher control.recipient = false

/-- The exclusion that the blocks promise. -/
structure RouteExclusion (state : ImGateway) : Prop where
  /-- a block is granted only in a state with idle routes -/
  grantedIdle : ∀ event target block, state.step event = some target →
    block ∈ target.blocks → block ∉ state.blocks →
    state.RoutesIdle block.matcher
  heldIdle : ∀ block ∈ state.blocks, state.RoutesIdle block.matcher
  /-- no matching message was accepted since the grant -/
  noneAccepted : ∀ block ∈ state.blocks,
    matching block.matcher state.gateway.accepted = block.acceptedBefore
  noneDispatched : ∀ block ∈ state.blocks,
    matching block.matcher state.gateway.dispatched = block.dispatchedBefore
  /-- no session that a deletion clears under its block has a turn -/
  sessionsIdle : ∀ block ∈ state.blocks, ∀ account, block.matcher = routeMatcher account →
    ∀ turn ∈ state.gateway.turns, clearsSession account turn.request.message.route = false

/-- What holds between two events. -/
structure BlocksHold (state : ImGateway) : Prop where
  consistent : state.gateway.Consistent
  excludes : ∀ block ∈ state.blocks, block.Excludes state.gateway
  noControl : ∀ block ∈ state.blocks, ∀ control ∈ state.coordinator.controls.values,
      block.matcher control.recipient = false

theorem BlocksHold.routesIdle (holds : state.BlocksHold) {block : RouteBlock}
    (held : block ∈ state.blocks) : state.RoutesIdle block.matcher where
  noTurn := (holds.excludes block held).noTurn
  noneWaiting := (holds.excludes block held).noneWaiting
  noneActive := (holds.excludes block held).noneActive
  noControl := holds.noControl block held

/-! ## The events -/

theorem BlocksHold.withControls (holds : state.BlocksHold)
    (gateway : target.gateway = state.gateway)
    (blocks : target.blocks = state.blocks)
    (controls : ∀ control ∈ target.coordinator.controls.values,
      control ∈ state.coordinator.controls.values ∨
        ∃ turn ∈ state.gateway.turns, control.recipient = turn.request.route) :
    target.BlocksHold where
  consistent := gateway ▸ holds.consistent
  excludes := by
    rw [gateway, blocks]
    exact holds.excludes
  noControl := by
    intro block held control member
    rw [blocks] at held
    rcases controls control member with old | ⟨turn, live, same⟩
    · exact holds.noControl block held control old
    · rw [same]
      exact (holds.excludes block held).noTurn turn live

theorem BlocksHold.turn (holds : state.BlocksHold)
    {event : GatewayTurns.Event} (stepped : state.turn event = some target)
    (kept : ∀ token, event ≠ .release token)
    (fresh : ∀ token matcher, event ≠ .reserve token matcher) :
    target.BlocksHold := by
  rcases Option.map_eq_some_iff.mp stepped with ⟨gateway, moved, rfl⟩
  exact
    { consistent := GatewayTurns.step_consistent holds.consistent moved
      excludes := fun block held =>
        (holds.excludes block held).step holds.consistent moved (kept _) (fresh _)
      noControl := holds.noControl }

theorem BlocksHold.enter (holds : state.BlocksHold)
    (live : ⟨request, .dispatching⟩ ∈ state.gateway.turns)
    (stepped : state.enter request = some target) : target.BlocksHold := by
  unfold ImGateway.enter at stepped
  cases entered : state.coordinator.enter (state.generations.get? request.serial) request with
  | error message =>
    rw [entered] at stepped
    exact holds.turn stepped (fun _ => nofun) (fun _ _ => nofun)
  | ok coordinator =>
    rw [entered] at stepped
    simp only [Option.some.injEq] at stepped
    subst target
    apply holds.withControls
    · rfl
    · rfl
    · intro control member
      unfold ImGatewayCoordinator.enter at entered
      dsimp only at entered
      split_ifs at entered
      split at entered
      · split_ifs at entered
      · simp only [Except.ok.injEq] at entered
        subst coordinator
        rcases (Dict.mem_values_iff _ _).mp member with ⟨session, found⟩
        rw [Dict.get?_insert] at found
        split_ifs at found with same
        · right
          refine ⟨_, live, ?_⟩
          rw [← Option.some.inj found]
          rfl
        · left
          exact (Dict.mem_values_iff _ _).mpr ⟨session, found⟩

theorem mem_values_of_erase
    {controls : Dict String ImTurnControl} {session : String}
    {control : ImTurnControl}
    (member : control ∈ (controls.erase session).values) :
    control ∈ controls.values := by
  rcases (Dict.mem_values_iff _ _).mp member with ⟨key, found⟩
  apply (Dict.mem_values_iff _ _).mpr
  by_cases same : key = session
  · subst key
    rw [Dict.get?_erase_self] at found
    contradiction
  · rw [Dict.get?_erase_of_ne _ same] at found
    exact ⟨key, found⟩

theorem BlocksHold.publishFailed (holds : state.BlocksHold) {cancelled : Bool}
    (stepped : state.publishFailed request cancelled = some target) :
    target.BlocksHold := by
  unfold ImGateway.publishFailed at stepped
  have withdrawn :
      ({ state with
        coordinator := state.coordinator.withdraw request
        publishing := state.publishing.filter (· ≠ request) } : ImGateway).BlocksHold := by
    apply holds.withControls
    · rfl
    · rfl
    · intro control member
      left
      unfold ImGatewayCoordinator.withdraw at member
      dsimp only at member
      split_ifs at member
      · exact mem_values_of_erase member
      · exact member
  apply withdrawn.turn stepped
  · intro token
    split_ifs <;> rintro ⟨⟩
  · intro token matcher
    split_ifs <;> rintro ⟨⟩

theorem BlocksHold.onDelivery (holds : state.BlocksHold)
    (stepped : state.onDelivery request = some target) : target.BlocksHold := by
  unfold ImGateway.onDelivery at stepped
  cases popped : state.coordinator.onDelivery request with
  | none =>
    rw [popped, Option.some.injEq] at stepped
    exact stepped ▸ holds
  | some coordinator =>
    rw [popped] at stepped
    have released :
        ({ state with coordinator := coordinator } :
          ImGateway).BlocksHold := by
      apply holds.withControls
      · rfl
      · rfl
      · intro control member
        left
        unfold ImGatewayCoordinator.onDelivery at popped
        dsimp only at popped
        split at popped
        · contradiction
        · split_ifs at popped
          rw [← Option.some.inj popped] at member
          exact mem_values_of_erase member
    exact released.turn stepped (fun _ => nofun) (fun _ _ => nofun)

/-- What a reservation can do. -/
inductive Reserved
    (state : ImGateway) (token : String) (matcher : RouteKey → Bool) :
    ImGateway → Prop where
  | refused : Reserved state token matcher state
  | granted
      (serving : state.gateway.coordinator.closed = false)
      (noControl : ∀ control ∈ state.coordinator.controls.values, matcher control.recipient = false)
      (idle : ∀ route, matcher route = true → route ∉ state.gateway.coordinator.activeRoutes.keys ∧
          route ∉ state.gateway.coordinator.pendingRoutes.keys) :
      Reserved state token matcher
        { state with
          gateway :=
            { state.gateway with
              coordinator :=
                { state.gateway.coordinator with
                  routeBlocks := state.gateway.coordinator.routeBlocks.insert token matcher } }
          blocks := state.blocks ++ [state.blockOf token matcher] }

theorem reserve_cases (state : ImGateway) (token : String) (matcher : RouteKey → Bool) :
    Reserved state token matcher (state.reserve token matcher) := by
  unfold reserve GatewayTurnCoordinator.reserveMatchingRoutesIfIdle
  by_cases held : state.coordinator.holdsMatching matcher = true
  · rw [if_pos held]
    exact .refused
  rw [if_neg held]
  by_cases closed : state.gateway.coordinator.closed = true
  · rw [if_pos closed]
    exact .refused
  rw [if_neg closed]
  split_ifs with busy
  · exact .refused
  · apply Reserved.granted
    · exact Bool.eq_false_iff.mpr closed
    · intro control member
      apply Bool.eq_false_iff.mpr
      exact fun found => held (List.any_eq_true.mpr ⟨_, member, found⟩)
    · intro route matched
      constructor
      · exact fun found => busy (List.any_eq_true.mpr
          ⟨route, List.mem_append_left _ found, matched⟩)
      · exact fun found => busy (List.any_eq_true.mpr
          ⟨route, List.mem_append_right _ found, matched⟩)

theorem routesIdle_of_noEntry (consistent : state.gateway.Consistent)
    {matcher : RouteKey → Bool}
    (serving : state.gateway.coordinator.closed = false)
    (noControl : ∀ control ∈ state.coordinator.controls.values,
      matcher control.recipient = false) (idle : ∀ route, matcher route = true →
      route ∉ state.gateway.coordinator.activeRoutes.keys ∧
        route ∉ state.gateway.coordinator.pendingRoutes.keys) :
    state.RoutesIdle matcher := by
  have noneActive : ∀ route, matcher route = true →
      state.gateway.coordinator.activeRoutes.get? route = none :=
    fun route matched =>
      (Dict.get?_eq_none_iff _ _).mpr (idle route matched).1
  refine
    { noTurn := ?_
      noneWaiting := ?_
      noneActive := noneActive
      noControl := noControl }
  · intro turn live
    by_contra inside
    have free := noneActive _ ((Bool.not_eq_false _).mp inside)
    have slot := consistent.slots turn.request.route
    rcases slot.active_eq (GatewayTurns.mem_turnsOn live) with active | ⟨closed, _, _⟩
    · rw [free] at active
      contradiction
    · rw [consistent.closedFlag serving] at closed
      contradiction
  · intro route matched
    have noQueue :=
      (Dict.get?_eq_none_iff _ _).mpr (idle route matched).2
    unfold GatewayTurnCoordinator.pending
    rw [noQueue]
    rfl

theorem BlocksHold.reserve (holds : state.BlocksHold) {token : String}
    (fresh : token ∉ state.blocks.map RouteBlock.token)
    (matcher : RouteKey → Bool) : (state.reserve token matcher).BlocksHold := by
  have reserved := reserve_cases state token matcher
  generalize state.reserve token matcher = target at reserved
  cases reserved with
  | refused => exact holds
  | granted serving noControl idle =>
    have routesIdle :=
      routesIdle_of_noEntry holds.consistent serving noControl idle
    refine
      { consistent := ?_
        excludes := ?_
        noControl := ?_ }
    · exact holds.consistent.of_same rfl rfl rfl rfl holds.consistent.closedFlag
    · intro block held
      rcases List.mem_append.mp held with old | new
      · have other : block.token ≠ token := by
          rintro rfl
          exact fresh (List.mem_map_of_mem old)
        have excludes := holds.excludes block old
        apply excludes.withCoordinator
        · refine excludes.barred.imp id fun barred => ?_
          exact (Dict.get?_insert_of_ne _ _ other).trans barred
        · exact excludes.noneWaiting
        · exact excludes.noneActive
      · rw [List.mem_singleton.mp new]
        exact
          { routesIdle with
            barred := Or.inr (Dict.get?_insert_self _ _ _)
            noneAccepted := rfl
            noneDispatched := rfl }
    · intro block held
      rcases List.mem_append.mp held with old | new
      · exact holds.noControl block old
      · rw [List.mem_singleton.mp new]
        exact noControl

theorem BlocksHold.release (holds : state.BlocksHold) {token : String}
    (stepped : state.step (.release token) = some target) :
    target.BlocksHold := by
  simp only [step, ImGateway.turn, Option.map_eq_some_iff] at stepped
  rcases stepped with ⟨gateway, moved, rfl⟩
  refine
    { consistent := GatewayTurns.step_consistent holds.consistent moved
      excludes := ?_
      noControl := ?_ }
  · intro block held
    rcases List.mem_filter.mp held with ⟨old, apart⟩
    have other : block.token ≠ token := of_decide_eq_true apart
    apply (holds.excludes block old).step holds.consistent moved
    · intro same
      exact other (GatewayTurns.Event.release.inj same).symm
    · exact fun _ => nofun
  · intro block held
    exact holds.noControl block (List.mem_of_mem_filter held)

theorem step_blocksHold (holds : state.BlocksHold)
    (stepped : state.step event = some target) : target.BlocksHold := by
  cases event with
  | start =>
    simp only [step, Option.some.injEq] at stepped
    subst target
    exact holds.withControls rfl rfl (fun _ member => Or.inl member)
  | close =>
    simp only [step, Option.some.injEq] at stepped
    subst target
    exact holds.withControls rfl rfl (fun _ member => absurd member List.not_mem_nil)
  | accept message content =>
    simp only [step] at stepped
    split at stepped
    · exact Option.some.inj stepped ▸ holds
    · rw [Option.some.injEq] at stepped
      subst target
      exact holds.withControls rfl rfl (fun _ member => Or.inl member)
  | submit arrival =>
    simp only [step, Option.ite_none_right_eq_some] at stepped
    have before :
        ({ state with
          arrivals := state.arrivals.erase arrival
          generations := state.generations.insert state.gateway.accepted.length
              arrival.generation } : ImGateway).BlocksHold :=
      holds.withControls rfl rfl (fun _ member => Or.inl member)
    exact before.turn stepped.2 (fun _ => nofun) (fun _ _ => nofun)
  | enter request =>
    simp only [step, Option.ite_none_right_eq_some] at stepped
    exact holds.enter stepped.1.2.2 stepped.2
  | cancelled request =>
    simp only [step, Option.ite_none_right_eq_some] at stepped
    exact holds.turn stepped.2 (fun _ => nofun) (fun _ _ => nofun)
  | published request =>
    simp only [step, Option.ite_none_right_eq_some] at stepped
    have before :
        ({ state with
          publishing := state.publishing.filter (· ≠ request) } : ImGateway).BlocksHold :=
      holds.withControls rfl rfl (fun _ member => Or.inl member)
    exact before.turn stepped.2 (fun _ => nofun) (fun _ _ => nofun)
  | publishFailed request cancelled =>
    simp only [step, Option.ite_none_right_eq_some] at stepped
    exact holds.publishFailed stepped.2
  | onDelivery request =>
    simp only [step, Option.ite_none_right_eq_some] at stepped
    exact holds.onDelivery stepped.2
  | reserve token matcher =>
    simp only [step, Option.ite_none_left_eq_some, Option.some.injEq] at stepped
    exact stepped.2 ▸ holds.reserve stepped.1 matcher
  | release token => exact holds.release stepped
  | other event =>
    simp only [step, Option.ite_none_right_eq_some] at stepped
    apply holds.turn stepped.2
    · rintro token rfl
      exact absurd stepped.1 Bool.false_ne_true
    · rintro token matcher rfl
      exact absurd stepped.1 Bool.false_ne_true

theorem blocks_of_step (stepped : state.step event = some target)
    (noGrant : ∀ token matcher, event ≠ .reserve token matcher) :
    target.blocks ⊆ state.blocks := by
  have turned {before : ImGateway} {moved : GatewayTurns.Event}
      (taken : before.turn moved = some target) :
      target.blocks = before.blocks := by
    rcases Option.map_eq_some_iff.mp taken with ⟨gateway, _, rfl⟩
    rfl
  cases event with
  | start =>
    simp only [step, Option.some.injEq] at stepped
    exact stepped ▸ fun _ member => member
  | close =>
    simp only [step, Option.some.injEq] at stepped
    exact stepped ▸ fun _ member => member
  | accept message content =>
    simp only [step] at stepped
    split at stepped
    all_goals
      rw [Option.some.injEq] at stepped
      exact stepped ▸ fun _ member => member
  | submit arrival =>
    simp only [step, Option.ite_none_right_eq_some] at stepped
    rw [turned stepped.2]
    exact fun _ member => member
  | enter request =>
    simp only [step, Option.ite_none_right_eq_some, ImGateway.enter] at stepped
    rcases stepped with ⟨_, entered⟩
    split at entered
    · rw [turned entered]
      exact fun _ member => member
    · rw [Option.some.injEq] at entered
      exact entered ▸ fun _ member => member
  | cancelled request =>
    simp only [step, Option.ite_none_right_eq_some] at stepped
    rw [turned stepped.2]
    exact fun _ member => member
  | published request =>
    simp only [step, Option.ite_none_right_eq_some] at stepped
    rw [turned stepped.2]
    exact fun _ member => member
  | publishFailed request cancelled =>
    simp only [step, Option.ite_none_right_eq_some] at stepped
    rw [turned stepped.2]
    exact fun _ member => member
  | onDelivery request =>
    simp only [step, Option.ite_none_right_eq_some, ImGateway.onDelivery] at stepped
    rcases stepped with ⟨_, delivered⟩
    split at delivered
    · rw [Option.some.injEq] at delivered
      exact delivered ▸ fun _ member => member
    · rw [turned delivered]
      exact fun _ member => member
  | reserve token matcher => exact absurd rfl (noGrant token matcher)
  | release token =>
    simp only [step] at stepped
    rw [turned stepped]
    exact fun _ member => List.mem_of_mem_filter member
  | other event =>
    simp only [step, Option.ite_none_right_eq_some] at stepped
    rw [turned stepped.2]
    exact fun _ member => member

theorem BlocksHold.grantedIdle (holds : state.BlocksHold) {block : RouteBlock}
    (stepped : state.step event = some target) (held : block ∈ target.blocks)
    (new : block ∉ state.blocks) : state.RoutesIdle block.matcher := by
  by_cases reserves : ∃ token matcher, event = .reserve token matcher
  · rcases reserves with ⟨token, matcher, rfl⟩
    simp only [step, Option.ite_none_left_eq_some, Option.some.injEq] at stepped
    have reserved := reserve_cases state token matcher
    rw [stepped.2] at reserved
    cases reserved with
    | refused => exact absurd held new
    | granted serving noControl idle =>
      rcases List.mem_append.mp held with old | granted
      · exact absurd old new
      · rw [List.mem_singleton.mp granted]
        exact routesIdle_of_noEntry holds.consistent serving noControl idle
  · have noGrant : ∀ token matcher, event ≠ .reserve token matcher :=
      fun token matcher same => reserves ⟨token, matcher, same⟩
    exact absurd (blocks_of_step stepped noGrant held) new

theorem create_blocksHold : create.BlocksHold where
  consistent := GatewayTurns.create_consistent
  excludes := fun _ held => absurd held List.not_mem_nil
  noControl := fun _ held => absurd held List.not_mem_nil

/--
In every reachable state a block is granted only while no matching turn is
active, waiting or expecting its delivery.  As long as it is held its routes
stay idle and no matching message is accepted or dispatched, so that a
deletion clears no session under a turn.
-/
theorem imRuns_excludeBlockedRoutes
    {state : ImGateway} (reached : imMachine.Reachable state) :
    state.RouteExclusion := by
  have holds : state.BlocksHold := by
    refine reached.invariant ?_ ?_
    · rintro _ rfl
      exact create_blocksHold
    · intro _ _ _ _ before _ stepped
      exact step_blocksHold before stepped
  exact
    { grantedIdle := fun _ _ _ stepped held new =>
        holds.grantedIdle stepped held new
      heldIdle := fun _ held => holds.routesIdle held
      noneAccepted := fun block held =>
        (holds.excludes block held).noneAccepted
      noneDispatched := fun block held =>
        (holds.excludes block held).noneDispatched
      sessionsIdle := by
        intro block held account same turn live
        rw [clearsSession_eq_routeMatcher, ← same]
        exact (holds.excludes block held).noTurn turn live }

/-- The account of the conversation of two messages. -/
def deletedAccount : ChannelAccount where
  id := "binding"
  platform := .weixin
  principalId := "principal"
  status := .active
  enabled := true
  subscribed := false
  createdAt := 0
  updatedAt := 0
  privateState := Dict.empty

/--
The first message has been answered and the second one has passed the check
of its channel when the account is reserved.
-/
def deletionRun : List Event := [.accept GatewayTurns.firstMessage "hello",
    .submit ⟨GatewayTurns.firstMessage, 0⟩,
    .enter ⟨0, GatewayTurns.firstMessage⟩,
    .published ⟨0, GatewayTurns.firstMessage⟩,
    .other (.consume ⟨0, GatewayTurns.firstMessage⟩),
    .other (.finish ⟨0, GatewayTurns.firstMessage⟩ (.error "")),
    .reserve "early" (routeMatcher deletedAccount),
    .onDelivery ⟨0, GatewayTurns.firstMessage⟩,
    .accept GatewayTurns.secondMessage "again",
    .reserve "late" (routeMatcher deletedAccount),
    .submit ⟨GatewayTurns.secondMessage, 0⟩]

/-- Only the later reservation succeeds, and the second message is refused. -/
theorem reserved_account_refuses_message : ∃ state, imMachine.run create deletionRun = some state ∧
        state.blocks.map RouteBlock.token = ["late"] ∧
        state.gateway.accepted.map Request.serial = [0] ∧
        state.RouteExclusion := by
  have evaluated : ∃ state,
      imMachine.run create deletionRun = some state ∧ state.blocks.map RouteBlock.token = ["late"] ∧
        state.gateway.accepted.map Request.serial = [0] :=
    ⟨_, rfl, by decide, by decide⟩
  rcases evaluated with ⟨state, run, granted, refused⟩
  exact ⟨state, run, granted, refused,
    imRuns_excludeBlockedRoutes (Machine.Reachable.run (.start rfl) run)⟩

end ImGateway
end TurningGood.Channels
