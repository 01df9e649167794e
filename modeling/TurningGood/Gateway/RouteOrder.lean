import TurningGood.Gateway.Turns

/-!
# The order of the requests of a route

The queues of the coordinator are waiting lines, and its methods are the
operations on such lines.  A route that is not being closed is in one of two
states: it is free, or exactly one of its requests is under way and carries
the id that the coordinator holds active.

Every request is therefore dispatched at most once and in the order of
acceptance.  In a quiescent state every accepted request was dispatched
unless it was removed, and the failure of a dispatch removes nothing.  The
cancellation of a dispatch does: the coordinator gives up the whole queue of
the route together with the cancelled request.
-/

namespace TurningGood.Gateway

open TurningGood.Foundation

namespace GatewayTurnCoordinator

/-! ## The methods on the queues -/

theorem foldl_discardInflight (requests : List Request) (coordinator : GatewayTurnCoordinator) :
    ∃ inflight, requests.foldl (fun current request =>
            current.discardInflight request.message.id)
          coordinator =
        { coordinator with inflight := inflight } := by
  induction requests generalizing coordinator with
  | nil => exact ⟨coordinator.inflight, rfl⟩
  | cons request rest induction =>
    rcases induction (coordinator.discardInflight request.message.id) with ⟨inflight, equal⟩
    exact ⟨inflight, equal⟩

theorem pending_setPending (coordinator : GatewayTurnCoordinator) (route : RouteKey)
    (rest : List Request) :
    (coordinator.setPending route rest).pending =
      Function.update coordinator.pending route rest := by
  funext query
  unfold setPending pending
  by_cases same : query = route
  · subst query
    rw [Function.update_self]
    split_ifs with empty
    · simp [List.isEmpty_iff.mp empty]
    · simp
  · rw [Function.update_of_ne same]
    split_ifs with empty
    · simp [Dict.get?_erase_of_ne _ same]
    · simp [Dict.get?_insert_of_ne _ _ same]

@[simp]
theorem pending_advance (coordinator : GatewayTurnCoordinator) (request : Request)
    (rest : List Request) :
    (coordinator.advance request rest).pending =
      Function.update coordinator.pending request.route rest :=
  pending_setPending coordinator request.route rest

@[simp]
theorem activeRoutes_advance (coordinator : GatewayTurnCoordinator) (request : Request)
    (rest : List Request) :
    (coordinator.advance request rest).activeRoutes = coordinator.activeRoutes.insert request.route
        request.message.id := rfl

theorem pending_erase (coordinator : GatewayTurnCoordinator) (route : RouteKey) :
    { coordinator with
      pendingRoutes := coordinator.pendingRoutes.erase route }.pending =
      Function.update coordinator.pending route [] := by
  funext query
  unfold pending
  by_cases same : query = route
  · subst query
    simp
  · simp [Function.update_of_ne same, Dict.get?_erase_of_ne _ same]

@[simp]
theorem pending_freeRoute (coordinator : GatewayTurnCoordinator) (route : RouteKey) :
    (coordinator.freeRoute route).pending =
      Function.update coordinator.pending route [] :=
  pending_erase coordinator route

/-- What `complete_route_turn` can do. -/
inductive Completed
    (coordinator : GatewayTurnCoordinator) (route : RouteKey)
    (requestId : String) :
    GatewayTurnCoordinator × Option Request → Prop where
  | stale
      (inactive : coordinator.activeRoutes.get? route ≠ some requestId) :
      Completed coordinator route requestId (coordinator, none)
  | freed
      (active : coordinator.activeRoutes.get? route = some requestId)
      (empty : coordinator.pending route = []) :
      Completed coordinator route requestId (coordinator.freeRoute route, none)
  | advanced (request : Request) (rest : List Request)
      (active : coordinator.activeRoutes.get? route = some requestId)
      (front : coordinator.pending route = request :: rest) :
      Completed coordinator route requestId (coordinator.advance request rest, some request)

theorem completeRouteTurn_cases (coordinator : GatewayTurnCoordinator) (route : RouteKey)
    (requestId : String) :
    Completed coordinator route requestId (coordinator.completeRouteTurn route requestId) := by
  unfold completeRouteTurn
  split_ifs with inactive
  · exact .stale inactive
  · have active := not_not.mp inactive
    cases front : coordinator.pending route with
    | nil => exact .freed active front
    | cons request rest => exact .advanced request rest active front

/-- What `_rollback_dispatch` can do, up to the ids in flight. -/
inductive RolledBack
    (coordinator : GatewayTurnCoordinator) (failed : Request)
    (advance : Bool) :
    GatewayTurnCoordinator × Option Request × List Request → Prop where
  | stale
      (inactive : coordinator.activeRoutes.get? failed.route ≠ some failed.message.id) :
      RolledBack coordinator failed advance
        (coordinator.discardInflight failed.message.id, none, [])
  | advanced (request : Request) (rest : List Request)
      (active : coordinator.activeRoutes.get? failed.route = some failed.message.id)
      (advances : advance = true)
      (front : coordinator.pending failed.route = request :: rest) :
      RolledBack coordinator failed advance
        ((coordinator.discardInflight failed.message.id).advance request rest, some request, [])
  | freed (inflight : List String)
      (active : coordinator.activeRoutes.get? failed.route = some failed.message.id)
      (last : advance = true → coordinator.pending failed.route = []) :
      RolledBack coordinator failed advance
        ({ coordinator.freeRoute failed.route with inflight := inflight },
          none, coordinator.pending failed.route)

theorem rollbackDispatch_cases (coordinator : GatewayTurnCoordinator) (failed : Request)
    (advance : Bool) :
    RolledBack coordinator failed advance (coordinator.rollbackDispatch failed advance) := by
  have freed (last :
      advance = true → coordinator.pending failed.route = [])
      (active : coordinator.activeRoutes.get? failed.route = some failed.message.id) :
      RolledBack coordinator failed advance
        ((coordinator.pending failed.route).foldl (fun current request =>
              current.discardInflight request.message.id)
            ((coordinator.discardInflight failed.message.id).freeRoute failed.route),
          none, coordinator.pending failed.route) := by
    rcases foldl_discardInflight (coordinator.pending failed.route)
      ((coordinator.discardInflight failed.message.id).freeRoute
        failed.route) with ⟨inflight, equal⟩
    rw [equal]
    exact .freed inflight active last
  unfold rollbackDispatch
  dsimp only
  split_ifs with inactive
  · exact .stale inactive
  · have active := not_not.mp inactive
    cases advance with
    | false => exact freed (fun absurd => by cases absurd) active
    | true =>
      cases front : coordinator.pending failed.route with
      | nil =>
        have result := freed (fun _ => front) active
        rw [front] at result
        exact result
      | cons request rest =>
        exact .advanced request rest active rfl front

/-- What `submit` can do. -/
inductive Submitted
    (coordinator : GatewayTurnCoordinator) (request : Request) :
    Submission → Prop where
  | raised (message : String) :
      Submitted coordinator request (.raised message)
  | refused : Submitted coordinator request .refused
  | queued (inflight : List String) (other : String)
      (serving : coordinator.closed = false)
      (busy : coordinator.activeRoutes.get? request.route = some other) :
      Submitted coordinator request (.queued
          { coordinator with
            inflight := inflight
            pendingRoutes := coordinator.pendingRoutes.insert request.route
                (coordinator.pending request.route ++ [request]) })
  | dispatching (inflight : List String)
      (serving : coordinator.closed = false)
      (free : coordinator.activeRoutes.get? request.route = none) :
      Submitted coordinator request (.dispatching
          { coordinator with
            inflight := inflight
            activeRoutes := coordinator.activeRoutes.insert request.route request.message.id })

theorem submit_cases (coordinator : GatewayTurnCoordinator) (request : Request) :
    Submitted coordinator request (coordinator.submit request) := by
  unfold submit
  dsimp only
  split_ifs with closed blocked duplicate busy
  · exact .raised _
  · exact .refused
  · exact .refused
  · rcases (Dict.contains_iff _ _).mp busy with ⟨other, found⟩
    exact .queued _ other (Bool.eq_false_iff.mpr closed) found
  · refine .dispatching _ (Bool.eq_false_iff.mpr closed) ?_
    rw [Option.eq_none_iff_forall_ne_some]
    exact fun other found =>
      busy ((Dict.contains_iff _ _).mpr ⟨other, found⟩)

end GatewayTurnCoordinator

namespace GatewayTurns

variable {phase : Phase} {active : Option String} {turns : List Turn}
  {pending : List Request} {turn : Turn} {request : Request}
  {state target : GatewayTurns}

/-- The history of the requests and the queues of the coordinator. -/
def lines (state : GatewayTurns) : WaitingLines Request RouteKey Removal where
  accepted := state.accepted
  started := state.dispatched
  waiting := state.coordinator.pending
  removed := state.removed

/-- The unfinished turns of a route. -/
def turnsOn (state : GatewayTurns) (route : RouteKey) : List Turn :=
  state.turns.filter fun turn => turn.request.route = route

/--
A route is free, or one request is under way and its id is active.  After
the close only requests whose dispatch had begun before can be left.
-/
def SlotHolds (phase : Phase) (active : Option String)
    (turns : List Turn) (pending : List Request) : Prop :=
  match phase with
  | .closed => active = none ∧ pending = [] ∧ turns.length ≤ 1
  | _ =>
    (active = none ∧ pending = [] ∧ turns = []) ∨
      ∃ turn, active = some turn.request.message.id ∧ turns = [turn]

/-- The slot of one route in a state. -/
def RouteSlot (state : GatewayTurns) (route : RouteKey) : Prop :=
  SlotHolds state.phase (state.coordinator.activeRoutes.get? route)
    (state.turnsOn route) (state.coordinator.pending route)

theorem SlotHolds.oneTurn (slot : SlotHolds phase active turns pending) :
    turns.length ≤ 1 := by
  cases phase with
  | closed => exact slot.2.2
  | _ =>
    rcases slot with ⟨_, _, rfl⟩ | ⟨turn, _, rfl⟩
    · exact Nat.zero_le 1
    · exact Nat.le_refl 1

theorem SlotHolds.map (slot : SlotHolds phase active turns pending) (change : Turn → Turn)
    (keeps : ∀ turn, (change turn).request = turn.request) :
    SlotHolds phase active (turns.map change) pending := by
  cases phase with
  | closed => simpa [SlotHolds] using slot
  | _ =>
    rcases slot with ⟨free, empty, rfl⟩ | ⟨turn, active, rfl⟩
    · exact Or.inl ⟨free, empty, rfl⟩
    · exact Or.inr ⟨change turn, by rw [active, keeps], rfl⟩

theorem SlotHolds.turn_eq (slot : SlotHolds phase active turns pending)
    (member : turn ∈ turns) : turns = [turn] := by
  have atMostOne := slot.oneTurn
  match turns, member with
  | [other], member => rw [List.mem_singleton.mp member]
  | _ :: _ :: _, _ => simp at atMostOne

theorem SlotHolds.active_eq (slot : SlotHolds phase active turns pending) (member : turn ∈ turns) :
    active = some turn.request.message.id ∨ (phase = .closed ∧ active = none ∧ pending = []) := by
  cases phase with
  | closed => exact Or.inr ⟨rfl, slot.1, slot.2.1⟩
  | _ =>
    rcases slot with ⟨_, _, rfl⟩ | ⟨other, active, rfl⟩
    · exact absurd member List.not_mem_nil
    · rw [List.mem_singleton.mp member]
      exact Or.inl active

/-! ## Invariant -/

/-- What the removal of a request says. -/
def Removal.Explains (dispatched : List Request) (request : Request) : Removal → Prop
  | .discarded => True
  | .closed => True
  | .dispatchRaised _ => False
  | .dispatchCancelled cancelled =>
    cancelled ∈ dispatched ∧ cancelled.route = request.route ∧ cancelled.serial < request.serial

/-- What holds of the coordinator between two events. -/
structure Consistent (state : GatewayTurns) : Prop where
  lines : state.lines.Sound
  slots : ∀ route, state.RouteSlot route
  turnsDispatched : ∀ turn ∈ state.turns, turn.request ∈ state.dispatched
  explained : ∀ request reason, (request, reason) ∈ state.removed →
    Removal.Explains state.dispatched request reason
  closedFlag : state.coordinator.closed = false → state.phase = .serving

theorem Removal.Explains.mono {dispatched more : List Request}
    {reason : Removal} (explains : Removal.Explains dispatched request reason)
    (included : dispatched ⊆ more) : Removal.Explains more request reason := by
  cases reason with
  | dispatchCancelled cancelled =>
    exact ⟨included explains.1, explains.2⟩
  | dispatchRaised failed => exact explains
  | discarded => trivial
  | closed => trivial

theorem turnsOn_endTurn (state : GatewayTurns) (turn : Turn) (route : RouteKey) :
    (state.endTurn turn).turnsOn route = (state.turnsOn route).filter (· ≠ turn) := by
  simp only [turnsOn, endTurn, List.filter_filter]
  congr 1
  funext other
  exact Bool.and_comm _ _

theorem turnsOn_endTurn_of_ne (state : GatewayTurns) {route : RouteKey}
    (other : turn.request.route ≠ route) :
    (state.endTurn turn).turnsOn route = state.turnsOn route := by
  rw [turnsOn_endTurn, List.filter_eq_self]
  intro candidate member
  have onRoute := of_decide_eq_true (List.mem_filter.mp member).2
  simp only [ne_eq, decide_not, Bool.not_eq_eq_eq_not, Bool.not_true, decide_eq_false_iff_not]
  rintro rfl
  exact other onRoute

theorem turnsOn_setStage (state : GatewayTurns) (turn : Turn) (stage : TurnStage)
    (route : RouteKey) :
    (state.setStage turn stage).turnsOn route = (state.turnsOn route).map fun other =>
        if other = turn then { other with stage := stage } else other := by
  simp only [turnsOn, setStage]
  rw [List.filter_map]
  congr 1
  apply List.filter_congr
  intro other _
  simp only [Function.comp]
  split_ifs <;> rfl

theorem mem_turnsOn (member : turn ∈ state.turns) :
    turn ∈ state.turnsOn turn.request.route :=
  List.mem_filter.mpr ⟨member, by simp⟩

/-! ## The events -/

theorem Consistent.of_same (consistent : state.Consistent)
    (lines : target.lines = state.lines) (phase : target.phase = state.phase)
    (active : target.coordinator.activeRoutes = state.coordinator.activeRoutes)
    (turns : target.turns = state.turns) (closedFlag :
      target.coordinator.closed = false → target.phase = .serving) :
    target.Consistent where
  lines := lines ▸ consistent.lines
  slots := by
    intro route
    have pending : target.coordinator.pending =
        state.coordinator.pending := congrArg WaitingLines.waiting lines
    have slot := consistent.slots route
    unfold RouteSlot turnsOn at slot ⊢
    rwa [phase, active, turns, pending]
  turnsDispatched := by
    have dispatched : target.dispatched = state.dispatched :=
      congrArg WaitingLines.started lines
    rw [turns, dispatched]
    exact consistent.turnsDispatched
  explained := by
    have dispatched : target.dispatched = state.dispatched :=
      congrArg WaitingLines.started lines
    have removed : target.removed = state.removed :=
      congrArg WaitingLines.removed lines
    rw [dispatched, removed]
    exact consistent.explained
  closedFlag := closedFlag

theorem setStage_consistent (consistent : state.Consistent) (turn : Turn) (stage : TurnStage) :
    (state.setStage turn stage).Consistent :=
  { consistent with
    slots := by
      intro route
      unfold RouteSlot
      rw [turnsOn_setStage]
      refine (consistent.slots route).map _ ?_
      intro other
      split_ifs <;> rfl
    turnsDispatched := by
      intro other member
      rcases List.mem_map.mp member with ⟨before, old, rfl⟩
      have known := consistent.turnsDispatched before old
      split_ifs <;> exact known }

theorem endTurn_slots (consistent : state.Consistent)
    (live : turn ∈ state.turns) (phase : target.phase = state.phase)
    (turns : ∀ route, turn.request.route ≠ route → target.turnsOn route = state.turnsOn route)
    (active : ∀ route, turn.request.route ≠ route → target.coordinator.activeRoutes.get? route =
        state.coordinator.activeRoutes.get? route)
    (pending : ∀ route, turn.request.route ≠ route →
      target.coordinator.pending route = state.coordinator.pending route)
    (own : state.turnsOn turn.request.route = [turn] → target.RouteSlot turn.request.route) :
    ∀ route, target.RouteSlot route := by
  intro route
  by_cases same : turn.request.route = route
  · subst route
    exact own ((consistent.slots _).turn_eq (mem_turnsOn live))
  · have slot := consistent.slots route
    unfold RouteSlot at slot ⊢
    rwa [phase, turns route same, active route same, pending route same]

theorem endTurn_stale_consistent (consistent : state.Consistent)
    (live : turn ∈ state.turns) (coordinator : GatewayTurnCoordinator)
    (pendingSame : coordinator.pending = state.coordinator.pending)
    (activeSame : coordinator.activeRoutes = state.coordinator.activeRoutes)
    (closedSame : coordinator.closed = state.coordinator.closed) (inactive :
      state.coordinator.activeRoutes.get? turn.request.route ≠ some turn.request.message.id) :
    ({ state with coordinator := coordinator }.endTurn turn).Consistent where
  lines := by
    have same :
        ({ state with coordinator := coordinator }.endTurn turn).lines =
          state.lines := by
      simp [GatewayTurns.lines, endTurn, pendingSame]
    rw [same]
    exact consistent.lines
  slots := by
    refine endTurn_slots consistent live rfl ?_ ?_ ?_ ?_
    · exact fun route other => turnsOn_endTurn_of_ne _ other
    · exact fun route _ => congrArg (Dict.get? · route) activeSame
    · exact fun route _ => congrFun pendingSame route
    · intro _
      have slot := consistent.slots turn.request.route
      rcases slot.active_eq (mem_turnsOn live) with active | ⟨closed, free, empty⟩
      · exact absurd active inactive
      · have left :
            ((state.turnsOn turn.request.route).filter (· ≠ turn)).length ≤ 1 :=
          Nat.le_trans (List.length_filter_le _ _) slot.oneTurn
        have freeSlot :
            SlotHolds .closed (coordinator.activeRoutes.get? turn.request.route)
              ((state.turnsOn turn.request.route).filter (· ≠ turn))
              (coordinator.pending turn.request.route) :=
          ⟨activeSame ▸ free, pendingSame ▸ empty, left⟩
        unfold RouteSlot
        rw [turnsOn_endTurn]
        rw [← closed] at freeSlot
        exact freeSlot
  turnsDispatched := fun other member =>
    consistent.turnsDispatched other (List.mem_of_mem_filter member)
  explained := consistent.explained
  closedFlag := by
    intro flag
    exact consistent.closedFlag (closedSame ▸ flag)

theorem endTurn_advance_consistent (consistent : state.Consistent)
    (live : turn ∈ state.turns) (before : GatewayTurnCoordinator)
    (pendingSame : before.pending = state.coordinator.pending)
    (activeSame : before.activeRoutes = state.coordinator.activeRoutes)
    (closedSame : before.closed = state.coordinator.closed)
    {rest : List Request} (active :
      state.coordinator.activeRoutes.get? turn.request.route =
        some turn.request.message.id) (front :
      state.coordinator.pending turn.request.route = request :: rest) :
    (({ state with
        coordinator := before.advance request rest }.endTurn
          turn).dispatchNext (some request)).Consistent := by
  have onRoute : request.route = turn.request.route := by
    have waits : request ∈ state.lines.waiting turn.request.route := by
      simp [GatewayTurns.lines, front]
    exact (consistent.lines.mem_waiting waits).2
  have serving : state.phase ≠ .closed := by
    intro closed
    have slot := consistent.slots turn.request.route
    unfold RouteSlot at slot
    rw [closed, active] at slot
    exact Option.some_ne_none _ slot.1
  refine
    { lines := ?_
      slots := ?_
      turnsDispatched := ?_
      explained := ?_
      closedFlag := ?_ }
  · have same :
        (({ state with
          coordinator := before.advance request rest }.endTurn
            turn).dispatchNext (some request)).lines =
          state.lines.startNext request rest := by
      simp only [GatewayTurns.lines, dispatchNext, endTurn,
        GatewayTurnCoordinator.pending_advance, pendingSame,
        WaitingLines.startNext]
      rfl
    rw [same]
    refine consistent.lines.startNext ?_
    simp only [GatewayTurns.lines, Routed.key, onRoute, front]
  · refine endTurn_slots consistent live rfl ?_ ?_ ?_ ?_
    · intro route other
      have notHere : ¬ request.route = route := onRoute ▸ other
      have ended := turnsOn_endTurn_of_ne
        { state with coordinator := before.advance request rest } other
      simp only [turnsOn, dispatchNext, List.filter_append] at ended ⊢
      rw [ended]
      simp [notHere]
    · intro route other
      simp only [dispatchNext, endTurn,
        GatewayTurnCoordinator.activeRoutes_advance, activeSame, onRoute]
      exact Dict.get?_insert_of_ne _ _ (Ne.symm other)
    · intro route other
      simp only [dispatchNext, endTurn,
        GatewayTurnCoordinator.pending_advance, pendingSame, onRoute]
      exact Function.update_of_ne (Ne.symm other) _ _
    · intro only
      have ended := turnsOn_endTurn
        { state with coordinator := before.advance request rest } turn
        turn.request.route
      have turns :
          (({ state with
            coordinator := before.advance request rest }.endTurn
              turn).dispatchNext (some request)).turnsOn
                turn.request.route = [⟨request, .dispatching⟩] := by
        have all : ({ state with
            coordinator := before.advance request rest } : GatewayTurns).turnsOn
                turn.request.route = [turn] := only
        rw [all] at ended
        simp only [turnsOn, dispatchNext, List.filter_append] at ended ⊢
        rw [ended]
        simp [onRoute]
      unfold RouteSlot
      rw [turns]
      have slotActive :
          (before.advance request rest).activeRoutes.get?
            turn.request.route = some request.message.id := by
        simp [onRoute]
      cases phase : state.phase with
      | closed => exact absurd phase serving
      | serving =>
        simp only [dispatchNext, endTurn]
        exact Or.inr ⟨_, slotActive, rfl⟩
      | closing =>
        simp only [dispatchNext, endTurn]
        exact Or.inr ⟨_, slotActive, rfl⟩
  · intro other member
    simp only [dispatchNext, List.mem_append, List.mem_singleton] at member ⊢
    rcases member with old | rfl
    · exact Or.inl (consistent.turnsDispatched other (List.mem_of_mem_filter old))
    · exact Or.inr rfl
  · intro removed reason gone
    exact (consistent.explained removed reason gone).mono (List.subset_append_left _ _)
  · intro flag
    exact consistent.closedFlag (closedSame ▸ flag)

theorem endTurn_free_consistent (consistent : state.Consistent)
    (live : turn ∈ state.turns) (inflight : List String) (reason : Removal)
    (explains : ∀ request ∈ state.coordinator.pending turn.request.route,
      Removal.Explains state.dispatched request reason) :
    (({ state with
        coordinator :=
          { state.coordinator.freeRoute turn.request.route with
            inflight := inflight } }.endTurn turn).remove
      (state.coordinator.pending turn.request.route) reason).Consistent := by
  have pendingEqual :
      { state.coordinator.freeRoute turn.request.route with
          inflight := inflight }.pending =
        Function.update state.coordinator.pending turn.request.route [] :=
    GatewayTurnCoordinator.pending_freeRoute _ _
  refine
    { lines := ?_
      slots := ?_
      turnsDispatched := ?_
      explained := ?_
      closedFlag := consistent.closedFlag }
  · have removed := consistent.lines.removeLine turn.request.route reason
    unfold WaitingLines.removeLine at removed
    simp only [GatewayTurns.lines, remove, endTurn] at removed ⊢
    rwa [pendingEqual]
  · refine endTurn_slots consistent live rfl ?_ ?_ ?_ ?_
    · exact fun route other => turnsOn_endTurn_of_ne state other
    · exact fun route other => Dict.get?_erase_of_ne _ (Ne.symm other)
    · intro route other
      refine (congrFun pendingEqual route).trans ?_
      exact Function.update_of_ne (Ne.symm other) _ _
    · intro only
      have noTurn :
          (state.endTurn turn).turnsOn turn.request.route = [] := by
        rw [turnsOn_endTurn, only]
        simp
      have free :
          SlotHolds state.phase none [] (Function.update state.coordinator.pending
              turn.request.route [] turn.request.route) := by
        rw [Function.update_self]
        cases state.phase with
        | closed => exact ⟨rfl, rfl, Nat.zero_le 1⟩
        | _ => exact Or.inl ⟨rfl, rfl, rfl⟩
      rw [← noTurn, ← pendingEqual] at free
      have erased :
          (state.coordinator.activeRoutes.erase
            turn.request.route).get? turn.request.route = none :=
        Dict.get?_erase_self _ _
      rw [← erased] at free
      exact free
  · exact fun other member =>
      consistent.turnsDispatched other (List.mem_of_mem_filter member)
  · intro request why gone
    rcases List.mem_append.mp gone with old | new
    · exact consistent.explained request why old
    · rcases List.mem_map.mp new with ⟨other, waits, equal⟩
      cases equal
      exact explains request waits

theorem deliver_consistent (consistent : state.Consistent)
    (live : ⟨request, .replied⟩ ∈ state.turns) :
    (state.deliver request).Consistent := by
  have cases := state.coordinator.completeRouteTurn_cases request.route
    request.message.id
  unfold deliver
  generalize state.coordinator.completeRouteTurn request.route request.message.id = result at cases
  cases cases with
  | stale inactive =>
    exact endTurn_stale_consistent consistent live state.coordinator rfl rfl rfl inactive
  | freed active empty =>
    have freed := endTurn_free_consistent consistent live
      state.coordinator.inflight .closed (by simp [empty])
    have nothing :
        state.coordinator.pending request.route = [] := empty
    simp only [nothing, remove, List.map_nil, List.append_nil] at freed
    exact freed
  | advanced next rest active front =>
    exact endTurn_advance_consistent consistent live state.coordinator rfl rfl rfl active front

theorem rollback_consistent (consistent : state.Consistent)
    (live : ⟨request, .dispatching⟩ ∈ state.turns) {advance : Bool}
    {reason : Removal} (explains : advance = false →
      ∀ other ∈ state.coordinator.pending request.route,
        Removal.Explains state.dispatched other reason) :
    (state.rollback request advance reason).Consistent := by
  have cases := state.coordinator.rollbackDispatch_cases request advance
  unfold rollback
  generalize state.coordinator.rollbackDispatch request advance = result at cases
  cases cases with
  | stale inactive =>
    have stale := endTurn_stale_consistent consistent live
      (state.coordinator.discardInflight request.message.id)
      rfl rfl rfl inactive
    simpa only [remove, List.map_nil, List.append_nil, dispatchNext] using stale
  | advanced next rest active advances front =>
    have advanced := endTurn_advance_consistent consistent live
      (state.coordinator.discardInflight request.message.id)
      rfl rfl rfl active front
    simpa only [remove, List.map_nil, List.append_nil] using advanced
  | freed inflight active last =>
    refine endTurn_free_consistent consistent live inflight reason ?_
    intro other waits
    cases advance with
    | false => exact explains rfl other waits
    | true =>
      have waitsHere :
          other ∈ state.coordinator.pending request.route := waits
      rw [last rfl] at waitsHere
      exact absurd waitsHere List.not_mem_nil

theorem submit_consistent (consistent : state.Consistent)
    (message : InboundMessage) : (state.submit message).Consistent := by
  have cases := state.coordinator.submit_cases
    ⟨state.accepted.length, message⟩
  unfold submit
  dsimp only
  generalize state.coordinator.submit ⟨state.accepted.length, message⟩ = result at cases
  generalize equal : (⟨state.accepted.length, message⟩ : Request) = request at cases
  have fresh : request.serial = state.accepted.length :=
    congrArg Request.serial equal.symm
  cases cases with
  | raised text => exact consistent
  | refused => exact consistent
  | queued inflight other serving busy =>
    have pendingEqual :
        { state.coordinator with
          inflight := inflight
          pendingRoutes := state.coordinator.pendingRoutes.insert request.route
              (state.coordinator.pending request.route ++ [request]) }.pending =
        Function.update state.coordinator.pending request.route
          (state.coordinator.pending request.route ++ [request]) := by
      funext route
      unfold GatewayTurnCoordinator.pending
      by_cases same : route = request.route
      · subst route
        simp
      · simp [Function.update_of_ne same, Dict.get?_insert_of_ne _ _ same]
    refine
      { consistent with
        lines := ?_
        slots := ?_ }
    · have joined := consistent.lines.join fresh
      unfold WaitingLines.join at joined
      simp only [GatewayTurns.lines] at joined ⊢
      rwa [pendingEqual]
    · intro route
      have slot := consistent.slots route
      unfold RouteSlot at slot ⊢
      rw [pendingEqual]
      by_cases same : route = request.route
      · subst route
        rw [busy] at slot
        simp only [consistent.closedFlag serving] at slot ⊢
        rcases slot with ⟨free, _⟩ | ⟨turn, active, only⟩
        · exact absurd free (Option.some_ne_none other)
        · exact Or.inr ⟨turn, busy.trans active, only⟩
      · rwa [Function.update_of_ne same]
  | dispatching inflight serving free =>
    have servingPhase := consistent.closedFlag serving
    have slot := consistent.slots request.route
    unfold RouteSlot at slot
    rw [servingPhase, free] at slot
    have idle :
        state.coordinator.pending request.route = [] ∧
          state.turnsOn request.route = [] := by
      rcases slot with ⟨_, empty, noTurn⟩ | ⟨_, active, _⟩
      · exact ⟨empty, noTurn⟩
      · exact absurd active.symm (Option.some_ne_none _)
    refine
      { lines := ?_
        slots := ?_
        turnsDispatched := ?_
        explained := ?_
        closedFlag := consistent.closedFlag }
    · exact consistent.lines.start fresh idle.1
    · intro route
      unfold RouteSlot turnsOn
      simp only [dispatchNext, List.filter_append]
      by_cases same : request.route = route
      · subst route
        have noTurn := idle.2
        unfold turnsOn at noTurn
        rw [noTurn, servingPhase]
        refine Or.inr ⟨⟨request, .dispatching⟩, ?_, by simp⟩
        exact Dict.get?_insert_self _ _ _
      · have other := consistent.slots route
        unfold RouteSlot turnsOn at other
        have notHere :
            ([⟨request, .dispatching⟩] : List Turn).filter
              (fun turn => turn.request.route = route) = [] := by
          simp [same]
        rw [Dict.get?_insert_of_ne _ _ (Ne.symm same), notHere, List.append_nil]
        exact other
    · intro turn member
      simp only [dispatchNext, List.mem_append, List.mem_singleton] at member ⊢
      rcases member with old | rfl
      · exact Or.inl (consistent.turnsDispatched turn old)
      · exact Or.inr rfl
    · intro removed reason gone
      exact (consistent.explained removed reason gone).mono (List.subset_append_left _ _)

theorem discard_consistent (consistent : state.Consistent) (route : RouteKey) : ({ state with
        coordinator := (state.coordinator.discardPendingRoute route).1 }.remove
      (state.coordinator.discardPendingRoute route).2
      .discarded).Consistent := by
  unfold GatewayTurnCoordinator.discardPendingRoute
  dsimp only
  rcases GatewayTurnCoordinator.foldl_discardInflight (state.coordinator.pending route)
    { state.coordinator with
      pendingRoutes := state.coordinator.pendingRoutes.erase route } with
    ⟨inflight, equal⟩
  rw [equal]
  have pendingEqual := state.coordinator.pending_erase route
  refine
    { lines := ?_
      slots := ?_
      turnsDispatched := consistent.turnsDispatched
      explained := ?_
      closedFlag := consistent.closedFlag }
  · have removed := consistent.lines.removeLine route .discarded
    unfold WaitingLines.removeLine at removed
    simp only [GatewayTurns.lines] at removed
    rw [← pendingEqual] at removed
    exact removed
  · intro other
    have slot := consistent.slots other
    have pendingOther :
        { state.coordinator with
          inflight := inflight
          pendingRoutes := state.coordinator.pendingRoutes.erase route }.pending other =
        if other = route then [] else state.coordinator.pending other := by
      refine (congrFun pendingEqual other).trans ?_
      exact Function.update_apply _ _ _ _
    unfold RouteSlot at slot ⊢
    simp only [remove, pendingOther]
    split_ifs with same
    · revert slot
      cases state.phase with
      | closed => exact fun slot => ⟨slot.1, rfl, slot.2.2⟩
      | _ =>
        rintro (⟨free, _, noTurn⟩ | busy)
        · exact Or.inl ⟨free, rfl, noTurn⟩
        · exact Or.inr busy
    · exact slot
  · intro request reason gone
    rcases List.mem_append.mp gone with old | new
    · exact consistent.explained request reason old
    · rcases List.mem_map.mp new with ⟨_, _, same⟩
      cases same
      trivial

theorem endClose_consistent (consistent : state.Consistent) (closing : state.phase = .closing) :
    ({ state with
        coordinator := state.coordinator.clear
        phase := .closed
        turns := state.turns.filter fun turn =>
            turn.stage ≠ TurnStage.cancelled }.remove
      state.coordinator.pendingRoutes.values.flatten
      .closed).Consistent := by
  refine
    { lines := ?_
      slots := ?_
      turnsDispatched := ?_
      explained := ?_
      closedFlag := ?_ }
  · refine consistent.lines.removeAll ?_ .closed
    intro request
    have waiting : state.lines.waiting = state.coordinator.pending := rfl
    constructor
    · intro member
      rcases List.mem_flatten.mp member with ⟨queue, listed, waits⟩
      rcases (Dict.mem_values_iff _ _).mp listed with ⟨route, found⟩
      have here : request ∈ state.lines.waiting route := by
        simp [waiting, GatewayTurnCoordinator.pending, found, waits]
      rw [(consistent.lines.mem_waiting here).2]
      exact here
    · intro waits
      simp only [waiting, GatewayTurnCoordinator.pending] at waits
      cases found : state.coordinator.pendingRoutes.get? (Routed.key request) with
      | none => simp [found] at waits
      | some queue =>
        rw [found] at waits
        exact List.mem_flatten.mpr ⟨queue, (Dict.mem_values_iff _ _).mpr ⟨_, found⟩, waits⟩
  · intro route
    refine ⟨rfl, rfl, ?_⟩
    have fewer :
        ((state.turns.filter fun turn =>
            turn.stage ≠ TurnStage.cancelled).filter
          fun turn => turn.request.route = route).Sublist
        (state.turnsOn route) :=
      List.filter_sublist.filter _
    exact Nat.le_trans fewer.length_le (consistent.slots route).oneTurn
  · exact fun turn member =>
      consistent.turnsDispatched turn (List.mem_of_mem_filter member)
  · intro request reason gone
    rcases List.mem_append.mp gone with old | new
    · exact consistent.explained request reason old
    · rcases List.mem_map.mp new with ⟨_, _, same⟩
      cases same
      trivial
  · intro flag
    have serving := consistent.closedFlag flag
    rw [closing] at serving
    contradiction

theorem step_consistent {event : Event} (consistent : state.Consistent)
    (stepped : state.step event = some target) : target.Consistent := by
  cases event with
  | submit message =>
    simp only [step, Option.some.injEq] at stepped
    exact stepped ▸ submit_consistent consistent message
  | dispatchReturned request =>
    simp only [step, Option.ite_none_right_eq_some, Option.some.injEq] at stepped
    exact stepped.2 ▸ setStage_consistent consistent _ _
  | dispatchRaised request =>
    simp only [step, Option.ite_none_right_eq_some, Option.some.injEq] at stepped
    exact stepped.2 ▸ rollback_consistent consistent stepped.1 (fun advances => nomatch advances)
  | dispatchCancelled request =>
    simp only [step, Option.ite_none_right_eq_some, Option.some.injEq] at stepped
    refine stepped.2 ▸ rollback_consistent consistent stepped.1 ?_
    intro _ other waits
    have begun := consistent.turnsDispatched _ stepped.1
    exact ⟨begun, (consistent.lines.mem_waiting waits).2.symm,
      consistent.lines.started_lt_waiting begun waits⟩
  | consume request =>
    simp only [step, Option.ite_none_right_eq_some, Option.some.injEq] at stepped
    exact stepped.2 ▸ setStage_consistent consistent _ _
  | finish request outcome =>
    simp only [step, Option.ite_none_right_eq_some, Option.some.injEq] at stepped
    have finished :
        { state with
          coordinator := state.coordinator.finishTurn request.message
              outcome }.Consistent :=
      consistent.of_same rfl rfl rfl rfl consistent.closedFlag
    exact stepped.2 ▸ setStage_consistent finished _ _
  | deliver request =>
    simp only [step, Option.ite_none_right_eq_some, Option.some.injEq] at stepped
    exact stepped.2 ▸ deliver_consistent consistent stepped.1
  | discardPendingRoute route =>
    simp only [step, Option.some.injEq] at stepped
    exact stepped ▸ discard_consistent consistent (routeKey route)
  | reserve token matcher =>
    simp only [step, GatewayTurnCoordinator.reserveMatchingRoutesIfIdle] at stepped
    split_ifs at stepped
    all_goals
      simp only [Option.some.injEq] at stepped
      subst target
    · exact consistent
    · exact consistent
    · exact consistent.of_same rfl rfl rfl rfl consistent.closedFlag
  | release token =>
    simp only [step, Option.some.injEq] at stepped
    subst target
    exact consistent.of_same rfl rfl rfl rfl consistent.closedFlag
  | beginClose =>
    simp only [step, Option.ite_none_right_eq_some, Option.some.injEq] at stepped
    rcases stepped with ⟨serving, rfl⟩
    refine
      { consistent with
        slots := ?_
        closedFlag := fun absurd => nomatch absurd }
    intro route
    have slot := consistent.slots route
    unfold RouteSlot at slot ⊢
    rw [serving] at slot
    exact slot
  | cancelTurn request =>
    simp only [step, Option.ite_none_right_eq_some, Option.some.injEq] at stepped
    exact stepped.2 ▸ setStage_consistent consistent _ _
  | endClose =>
    simp only [step, Option.ite_none_right_eq_some, Option.some.injEq] at stepped
    exact stepped.2 ▸ endClose_consistent consistent stepped.1.1

theorem create_consistent : create.Consistent where
  lines :=
    { serials := rfl
      ordered := fun _ => List.Sublist.refl _
      accounted := by simp [create, lines]
      removedApart := by simp [create, lines] }
  slots := fun _ => Or.inl ⟨rfl, rfl, rfl⟩
  turnsDispatched := by simp [create]
  explained := by simp [create]
  closedFlag := fun _ => rfl

theorem phase_dispatchNext (state : GatewayTurns) (next : Option Request) :
    (state.dispatchNext next).phase = state.phase := by
  cases next <;> rfl

theorem phase_submit (state : GatewayTurns) (message : InboundMessage) :
    (state.submit message).phase = state.phase := by
  unfold submit
  dsimp only
  cases state.coordinator.submit ⟨state.accepted.length, message⟩ <;> rfl

theorem step_phase {event : Event} (stepped : state.step event = some target)
    (begins : event ≠ .beginClose) (ends : event ≠ .endClose) :
    target.phase = state.phase := by
  cases event with
  | submit message =>
    simp only [step, Option.some.injEq] at stepped
    exact stepped ▸ phase_submit state message
  | discardPendingRoute route =>
    simp only [step, Option.some.injEq] at stepped
    exact stepped ▸ rfl
  | reserve token matcher =>
    simp only [step] at stepped
    split at stepped
    · rw [Option.some.injEq] at stepped
      exact stepped ▸ rfl
    · rw [Option.some.injEq] at stepped
      exact stepped ▸ rfl
  | release token =>
    simp only [step, Option.some.injEq] at stepped
    exact stepped ▸ rfl
  | beginClose => exact absurd rfl begins
  | endClose => exact absurd rfl ends
  | dispatchRaised request | dispatchCancelled request
  | deliver request =>
    simp only [step, Option.ite_none_right_eq_some, Option.some.injEq] at stepped
    exact stepped.2 ▸ phase_dispatchNext _ _
  | dispatchReturned request | consume request | cancelTurn request
  | finish request outcome =>
    simp only [step, Option.ite_none_right_eq_some, Option.some.injEq] at stepped
    exact stepped.2 ▸ rfl

/--
No live task is left: nothing is dispatching, running or waiting for its
delivery, and no close is under way.  What an adapter puts on the bus after
the close stays there.
-/
def Quiescent (state : GatewayTurns) : Prop := state.phase ≠ .closing ∧
    ∀ turn ∈ state.turns, turn.stage = .published ∧ state.phase = .closed

/-- Serial service of every route, in the order of acceptance. -/
structure SerialFifo (state : GatewayTurns) : Prop where
  /-- acceptances are numbered in their order -/
  numbered : state.accepted.map Request.serial = List.range state.accepted.length
  dispatchedOnce : state.dispatched.Nodup
  oneActive : ∀ route, (state.turnsOn route).length ≤ 1
  acceptanceOrder : ∀ route, (state.dispatched.filter fun request =>
        request.route = route).Sublist
      (state.accepted.filter fun request => request.route = route)
  noneLost : state.Quiescent → ∀ request ∈ state.accepted,
    request ∈ state.dispatched ∨ ∃ reason, (request, reason) ∈ state.removed
  /-- what removes a request, and that it was not dispatched before -/
  removals : ∀ request reason, (request, reason) ∈ state.removed →
    request ∈ state.accepted ∧ request ∉ state.dispatched ∧
      Removal.Explains state.dispatched request reason

theorem Consistent.noneWaiting (consistent : state.Consistent)
    (quiescent : state.Quiescent) (route : RouteKey) :
    state.coordinator.pending route = [] := by
  have slot := consistent.slots route
  unfold RouteSlot at slot
  cases phase : state.phase with
  | closed =>
    rw [phase] at slot
    exact slot.2.1
  | closing => exact absurd phase quiescent.1
  | serving =>
    rw [phase] at slot
    rcases slot with ⟨_, empty, _⟩ | ⟨turn, _, only⟩
    · exact empty
    · have member : turn ∈ state.turnsOn route :=
        only ▸ List.mem_singleton_self turn
      have closed :=
        (quiescent.2 turn (List.mem_of_mem_filter member)).2
      rw [phase] at closed
      contradiction

/--
In every reachable state each accepted request is dispatched at most once
and in the order of acceptance of its route, and at most one request of a
route is under way.  In a quiescent state every accepted request was
dispatched or removed before its dispatch, and only `discardPendingRoute`,
the close, and the cancellation of the dispatch of an earlier request of the
same route remove requests; the failure of a dispatch removes none.
-/
theorem gatewayRuns_serialFifo
    {state : GatewayTurns} (reached : turnMachine.Reachable state) :
    state.SerialFifo := by
  have consistent : state.Consistent := by
    refine reached.invariant ?_ ?_
    · rintro _ rfl
      exact create_consistent
    · intro _ _ _ _ before _ stepped
      exact step_consistent before stepped
  exact
    { numbered := consistent.lines.serials
      dispatchedOnce := consistent.lines.started_nodup
      oneActive := fun route => (consistent.slots route).oneTurn
      acceptanceOrder := consistent.lines.started_ordered
      noneLost := by
        intro quiescent request member
        rcases consistent.lines.accounted request member with begun | waits | gone
        · exact Or.inl begun
        · have waitsHere :
              request ∈ state.coordinator.pending request.route := waits
          rw [consistent.noneWaiting quiescent] at waitsHere
          exact absurd waitsHere List.not_mem_nil
        · exact Or.inr gone
      removals := by
        intro request reason gone
        have apart := consistent.lines.removedApart request reason gone
        exact ⟨apart.1, apart.2.1, consistent.explained request reason gone⟩ }

/--
In every reachable state in which the coordinator accepts messages, a route is
marked as active by exactly the request that is under way on it, and when
requests wait on the route there is one.
-/
theorem gatewayRuns_queuesServed {state : GatewayTurns}
    (reached : turnMachine.Reachable state) (serving : state.phase = .serving)
    (route : RouteKey) :
    (∀ id, state.coordinator.activeRoutes.get? route = some id ↔
      ∃ turn ∈ state.turns, turn.request.route = route ∧ turn.request.message.id = id) ∧
    (state.coordinator.pending route ≠ [] → ∃ turn ∈ state.turns, turn.request.route = route) := by
  have consistent : state.Consistent := by
    refine reached.invariant ?_ ?_
    · rintro _ rfl
      exact create_consistent
    · intro _ _ _ _ before _ stepped
      exact step_consistent before stepped
  have slot := consistent.slots route
  rw [RouteSlot, serving] at slot
  have member_iff (turn : Turn) : turn ∈ state.turnsOn route ↔
      turn ∈ state.turns ∧ turn.request.route = route := by
    simp [turnsOn]
  rcases slot with ⟨free, empty, none_on⟩ | ⟨turn, active, only⟩
  · constructor
    · intro id
      rw [free]
      constructor
      · rintro ⟨⟩
      · rintro ⟨turn, member, onRoute, -⟩
        have present := (member_iff turn).mpr ⟨member, onRoute⟩
        rw [none_on] at present
        cases present
    · exact fun waits => absurd empty waits
  · have under := (member_iff turn).mp (only ▸ List.mem_singleton_self turn)
    refine ⟨fun id => ?_, fun _ => ⟨turn, under⟩⟩
    rw [active, Option.some.injEq]
    constructor
    · rintro rfl
      exact ⟨turn, under.1, under.2, rfl⟩
    · rintro ⟨other, member, onRoute, rfl⟩
      have present := (member_iff other).mpr ⟨member, onRoute⟩
      rw [only, List.mem_singleton] at present
      rw [present]

/-- Two messages of one route. -/
def firstMessage : InboundMessage where
  id := "first"
  route := ⟨"principal", "weixin", "binding", "session"⟩
  bindingEpoch := none

def secondMessage : InboundMessage :=
  { firstMessage with id := "second" }

/-- The second message waits behind the first. -/
theorem queue_served_by_first : ∃ state,
    turnMachine.run create [.submit firstMessage, .submit secondMessage] = some state ∧
      ∃ turn ∈ state.turns, turn.request.route = routeKey firstMessage.route := by
  have evaluated : turnMachine.run create
      [.submit firstMessage, .submit secondMessage] = some _ := rfl
  refine ⟨_, evaluated, ?_⟩
  exact (gatewayRuns_queuesServed (.run (.start rfl) evaluated) rfl _).2 (by decide)

/--
The second message is accepted while the first one is dispatched.  When that
dispatch is cancelled, the second message is never dispatched, although no
task is left and neither a discard nor a close has removed it.
-/
theorem cancelled_dispatch_drops_queue : ∃ state request, turnMachine.run create
          [.submit firstMessage, .submit secondMessage,
            .dispatchCancelled ⟨0, firstMessage⟩] = some state ∧
        state.Quiescent ∧
        request ∈ state.accepted ∧
        request ∉ state.dispatched ∧
        (request, .discarded) ∉ state.removed ∧
        (request, .closed) ∉ state.removed := by
  refine ⟨_, ⟨1, secondMessage⟩, rfl, ⟨by decide, ?_⟩,
    by decide, by decide, by decide, by decide⟩
  have noTurn :
      (((create.submit firstMessage).submit secondMessage).rollback ⟨0, firstMessage⟩ false
        (.dispatchCancelled ⟨0, firstMessage⟩)).turns = [] := by
    decide
  intro turn live
  exact absurd (noTurn ▸ live) List.not_mem_nil

/-- When the dispatch fails instead, the second message follows. -/
theorem failed_dispatch_serialFifo : ∃ state, turnMachine.run create
          [.submit firstMessage, .submit secondMessage,
            .dispatchRaised ⟨0, firstMessage⟩] = some state ∧
        state.dispatched.map Request.serial = [0, 1] ∧
        state.SerialFifo := by
  have evaluated :
      turnMachine.run create [.submit firstMessage, .submit secondMessage,
            .dispatchRaised ⟨0, firstMessage⟩] =
        some (((create.submit firstMessage).submit secondMessage).rollback ⟨0, firstMessage⟩ true
            (.dispatchRaised ⟨0, firstMessage⟩)) := rfl
  exact
    ⟨_, evaluated, by decide,
      gatewayRuns_serialFifo (Machine.Reachable.run (.start rfl) evaluated)⟩

end GatewayTurns
end TurningGood.Gateway
