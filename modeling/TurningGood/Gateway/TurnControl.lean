import TurningGood.Foundation.DictTotal
import TurningGood.Gateway.Turns

/-!
# Turns, their controls and the execution slots

A turn runs inside the execution semaphore of the gateway.  Its control holds
the stop flag, the approvals that its tool calls wait for, and a flag for the
permit: a call that waits for its approval gives the permit of the turn back
and takes one again afterwards.

A turn is its main part, which waits for the calls of one batch at a time,
and the calls.  A call is cancelled where it awaits something.  How often
the semaphore has been released and by whom is recorded with each turn.
-/

namespace TurningGood.Gateway

open TurningGood.Foundation

/-! ## Controls -/

/-- The future of an approval. -/
inductive ApprovalFuture where
  | pending
  | resolved (approved : Bool)
  | cancelled
  deriving DecidableEq, Repr

/--
`WebTurnControl` and `CliTurnControl`, which treat approvals and the slot
alike; `bound` says that the semaphore is known.
-/
structure TurnControl where
  requestId : String
  route : ChannelRoute
  stopRequested : Bool
  approvals : Dict Nat ApprovalFuture
  bound : Bool
  slotHeld : Bool
  deriving DecidableEq

namespace TurnControl

/-- A new control. -/
def create (requestId : String) (route : ChannelRoute) : TurnControl where
  requestId := requestId
  route := route
  stopRequested := false
  approvals := Dict.empty
  bound := false
  slotHeld := false

variable (control : TurnControl)

/-- `create_approval`. -/
def createApproval (approvalId : Nat) : TurnControl :=
  { control with approvals := control.approvals.insert approvalId .pending }

/-- The future of an approval gets a value, or is cancelled, while pending. -/
def settle (approvalId : Nat) (outcome : ApprovalFuture) : TurnControl :=
  if control.approvals.get? approvalId = some .pending then
    { control with
      approvals := control.approvals.insert approvalId outcome }
  else
    control

@[simp]
theorem settle_bound (approvalId : Nat) (outcome : ApprovalFuture) :
    (control.settle approvalId outcome).bound = control.bound := by
  rw [settle]
  split_ifs <;> rfl

@[simp]
theorem settle_slotHeld (approvalId : Nat) (outcome : ApprovalFuture) :
    (control.settle approvalId outcome).slotHeld = control.slotHeld := by
  rw [settle]
  split_ifs <;> rfl

/-- `resolve_approval`. -/
def resolveApproval (approvalId : Nat) (approved : Bool) : TurnControl :=
  control.settle approvalId (.resolved approved)

/-- `stop`. -/
def stop : TurnControl :=
  { control with
    stopRequested := true
    approvals := control.approvals.mapValues fun future =>
      if future = .pending then .resolved false else future }

/-- `self.approvals.pop(approval_id, None)`. -/
def popApproval (approvalId : Nat) : TurnControl :=
  { control with approvals := control.approvals.erase approvalId }

/-- `bind_slot`. -/
def bindSlot : TurnControl :=
  { control with bound := true, slotHeld := true }

/-- The control takes the permit of its turn for held. -/
def holdsSlot : Bool := control.bound && control.slotHeld

/-- The control knows of a permit that it does not hold. -/
def lacksSlot : Bool := control.bound && !control.slotHeld

end TurnControl

/-! ## Turns -/

/-- Where a tool call is. -/
inductive CallPhase where
  | queued
  | running
  | awaiting (approvalId : Nat)
  | reacquiring (approvalId : Nat) (cancelled : Bool)
  | ended (failed : Bool)
  deriving DecidableEq, Repr

namespace CallPhase

/-- The call has begun `wait_approval` and not left it. -/
def inApproval : CallPhase → Bool
  | .awaiting _ | .reacquiring _ _ => true
  | _ => false

/-- The call executes. -/
def isRunning : CallPhase → Bool
  | .running => true
  | _ => false

/-- The call is over. -/
def isEnded : CallPhase → Bool
  | .ended _ => true
  | _ => false

/-- The call is over, with an exception. -/
def hasFailed : CallPhase → Bool
  | .ended failed => failed
  | _ => false

end CallPhase

/-- Where the main part of a turn is. -/
inductive MainPhase where
  | queued
  | running
  | inBatch (gathered : Bool) (first : Nat)
  | left
  deriving DecidableEq, Repr

namespace MainPhase

/-- The main part is inside `async with self._semaphore`. -/
def isInside : MainPhase → Bool
  | .running | .inBatch _ _ => true
  | _ => false

/-- The main part waits for its calls. -/
def isInBatch : MainPhase → Bool
  | .inBatch _ _ => true
  | _ => false

end MainPhase

/-- The transport of a turn; an IM turn has no control that is used. -/
inductive TurnTransport where
  | web
  | cli
  | im
  deriving DecidableEq, Repr

/-- A turn with its calls, and the permits that it really holds. -/
structure ControlledTurn where
  transport : TurnTransport
  control : TurnControl
  main : MainPhase
  calls : List CallPhase
  permits : Nat
  deriving DecidableEq

/-- How a step of a turn uses the semaphore. -/
inductive PermitUse where
  | kept
  | taken
  | given
  deriving DecidableEq, Repr

/-- What a step makes of a turn. -/
structure TurnEffect where
  turn : ControlledTurn
  permit : PermitUse
  deriving DecidableEq

/-- The turn with the permit that the step took or gave. -/
def TurnEffect.after (effect : TurnEffect) : ControlledTurn :=
  match effect.permit with
  | .kept => effect.turn
  | .taken => { effect.turn with permits := effect.turn.permits + 1 }
  | .given => { effect.turn with permits := effect.turn.permits - 1 }

/-- What can happen to a turn next. -/
inductive TurnAction where
  | enter
  | cancelQueued
  | startBatch (gathered : Bool) (count : Nat)
  | beginCall (call : Nat)
  | requestApproval (call : Nat)
  | approvalDone (call : Nat)
  | regainSlot (call : Nat)
  | cancelCall (call : Nat)
  | endCall (call : Nat) (failed : Bool)
  | resume
  | leave
  deriving DecidableEq, Repr

namespace ControlledTurn

variable (turn : ControlledTurn)

/-- Some call of the turn is waiting for an approval or for the slot. -/
def inApproval : Bool := turn.calls.any CallPhase.inApproval

/-- The turn executes: its main part, or a call. -/
def executes : Bool := turn.main = .running || turn.calls.any CallPhase.isRunning

/-- A call goes on to another phase. -/
def setCall (call : Nat) (phase : CallPhase) : ControlledTurn :=
  { turn with calls := turn.calls.set call phase }

/-- `async with self._semaphore`, when the permit is there. -/
def enter : Option TurnEffect :=
  if turn.main = .queued then
    some ⟨{ turn with main := .running }, .taken⟩
  else
    none

/-- A turn that still waits for the semaphore is cancelled. -/
def cancelQueued : Option TurnEffect :=
  if turn.main = .queued then
    some ⟨{ turn with main := .left }, .kept⟩
  else
    none

/-- The main part calls its tools, gathered or the one that it awaits. -/
def startBatch (gathered : Bool) (count : Nat) : Option TurnEffect :=
  if turn.main = .running ∧ (if gathered then 2 ≤ count else count = 1) then
    some ⟨{ turn with
      main := .inBatch gathered turn.calls.length
      calls := turn.calls ++
        List.replicate count (if gathered then .queued else .running) },
      .kept⟩
  else
    none

/-- A call goes on from one phase to another. -/
def moveCall (call : Nat) (source target : CallPhase) :
    Option TurnEffect :=
  if turn.calls[call]? = some source then
    some ⟨turn.setCall call target, .kept⟩
  else
    none

/--
`request_tool_approval` up to the await of the future: `create_approval`,
then `release_slot` in `wait_approval`.
-/
def requestApproval (call approvalId : Nat) : Option TurnEffect :=
  if turn.calls[call]? = some .running ∧ turn.control.bound = true then
    let waiting :=
      { turn with
        control := turn.control.createApproval approvalId
        calls := turn.calls.set call (.awaiting approvalId) }
    if turn.control.holdsSlot then
      some ⟨{ waiting with
        control := { waiting.control with slotHeld := false } }, .given⟩
    else
      some ⟨waiting, .kept⟩
  else
    none

/-- How a call goes on when it leaves `wait_approval`. -/
def afterWait (cancelled : Bool) : CallPhase :=
  if cancelled then .ended true else .running

/-- The `finally` of `wait_approval`, up to the await of `acquire_slot`. -/
def leaveWait (call approvalId : Nat) (cancelled : Bool) : TurnEffect :=
  if turn.control.lacksSlot then
    ⟨turn.setCall call (.reacquiring approvalId cancelled), .kept⟩
  else
    ⟨{ turn with
      control := turn.control.popApproval approvalId
      calls := turn.calls.set call (afterWait cancelled) }, .kept⟩

/-- A future that is done wakes its call. -/
def approvalDone (call : Nat) : Option TurnEffect :=
  match turn.calls[call]? with
  | some (.awaiting approvalId) =>
    if turn.control.approvals.get? approvalId = some .pending then
      none
    else
      some (turn.leaveWait call approvalId false)
  | _ => none

/-- The end of `acquire_slot`, and of `wait_approval`. -/
def regainSlot (call : Nat) : Option TurnEffect :=
  match turn.calls[call]? with
  | some (.reacquiring approvalId cancelled) =>
    some ⟨{ turn with
      control :=
        { turn.control.popApproval approvalId with slotHeld := true }
      calls := turn.calls.set call (afterWait cancelled) }, .taken⟩
  | _ => none

/-- `CancelledError` where a call awaits something. -/
def cancelCall (call : Nat) : Option TurnEffect :=
  match turn.calls[call]? with
  | some .queued | some .running =>
    some ⟨turn.setCall call (.ended true), .kept⟩
  | some (.awaiting approvalId) =>
    some ({ turn with
      control := turn.control.settle approvalId .cancelled }.leaveWait call approvalId true)
  | some (.reacquiring approvalId _) =>
    some ⟨{ turn with
      control := turn.control.popApproval approvalId
      calls := turn.calls.set call (.ended true) }, .kept⟩
  | _ => none

/-- `asyncio.gather`, or the one call, lets the main part go on. -/
def batchDone : Bool :=
  match turn.main with
  | .inBatch gathered first =>
    let batch := turn.calls.drop first
    batch.all CallPhase.isEnded || (gathered && batch.any CallPhase.hasFailed)
  | _ => false

/-- The main part goes on after its batch. -/
def resume : Option TurnEffect :=
  if turn.batchDone then
    some ⟨{ turn with main := .running }, .kept⟩
  else
    none

/-- The main part leaves `async with self._semaphore`. -/
def leave : Option TurnEffect :=
  if turn.main = .running then
    some ⟨{ turn with main := .left }, .given⟩
  else
    none

/-- One step of a turn; an approval gets a fresh number. -/
def next (fresh : Nat) : TurnAction → Option TurnEffect
  | .enter => turn.enter
  | .cancelQueued => turn.cancelQueued
  | .startBatch gathered count => turn.startBatch gathered count
  | .beginCall call => turn.moveCall call .queued .running
  | .requestApproval call => turn.requestApproval call fresh
  | .approvalDone call => turn.approvalDone call
  | .regainSlot call => turn.regainSlot call
  | .cancelCall call => turn.cancelCall call
  | .endCall call failed => turn.moveCall call .running (.ended failed)
  | .resume => turn.resume
  | .leave => turn.leave

end ControlledTurn

/-! ## The gateway -/

/-- The semaphore, the turns by request, and the tables of the transports. -/
structure SlotSystem where
  capacity : Nat
  free : Nat
  turns : Dict String ControlledTurn
  webControls : Dict String String
  cliControls : Dict String String
  nextApproval : Nat
  overReleases : List String
  deriving DecidableEq

/-- What can happen in the gateway next. -/
inductive SlotAction where
  | dispatch (transport : TurnTransport) (requestId : String)
      (route : ChannelRoute) (published : Bool)
  | createAdapter (requestId : String)
  | turn (requestId : String) (action : TurnAction)
  | webStop (sessionId : String)
  | webClose
  | webResolve (sessionId : String) (approvalId : Nat) (approved : Bool)
  | webDelivered (sessionId requestId : String)
  | cliStop (route : ChannelRoute)
  | cliDisconnect (route : ChannelRoute)
  | cliClose
  | cliResolve (route : ChannelRoute) (approvalId : Nat) (approved : Bool)
  | cliDelivered (sessionId requestId : String)
  deriving DecidableEq

namespace SlotSystem

variable (system : SlotSystem)

/-- A turn becomes another one. -/
def putTurn (requestId : String) (turn : ControlledTurn) : SlotSystem :=
  { system with turns := system.turns.insert requestId turn }

/--
Carry a step of a turn out on the semaphore: `acquire` needs a free permit,
`release` always succeeds.
-/
def carryOut (requestId : String) (effect : TurnEffect) :
    Option SlotSystem :=
  let target := system.putTurn requestId effect.after
  match effect.permit with
  | .kept => some target
  | .taken =>
    if 0 < system.free then
      some { target with free := system.free - 1 }
    else
      none
  | .given =>
    some { target with
      free := system.free + 1
      overReleases :=
        if effect.turn.permits = 0 then requestId :: system.overReleases
        else system.overReleases }

/-- Change the control of a turn, if the turn is known. -/
def onControl (requestId : String) (change : TurnControl → TurnControl) : SlotSystem :=
  match system.turns.get? requestId with
  | none => system
  | some turn =>
    system.putTurn requestId { turn with control := change turn.control }

/-- `_control_for`: the control of a session, if its route is the caller's. -/
def cliControl (route : ChannelRoute) : Option String :=
  (system.cliControls.get? route.sessionId).filter fun requestId =>
    ((system.turns.get? requestId).map (·.control.route)) = some route

/-- Stop the controls of a table. -/
def stopAll (controls : Dict String String) : SlotSystem := controls.values.foldl
    (fun current requestId => current.onControl requestId (·.stop)) system

/-- The dispatch function of an adapter puts the control in its table. -/
def tableControl (transport : TurnTransport) (requestId sessionId : String)
    (published : Bool) : SlotSystem :=
  let change := fun controls : Dict String String =>
    if published then controls.insert sessionId requestId
    else controls.erase sessionId
  match transport with
  | .web => { system with webControls := change system.webControls }
  | .cli => { system with cliControls := change system.cliControls }
  | .im => system

/-- A request is dispatched; it is a new one. -/
def dispatch (transport : TurnTransport) (requestId : String)
    (route : ChannelRoute) (published : Bool) : Option SlotSystem :=
  if system.turns.contains requestId then
    none
  else
    some ((system.tableControl transport requestId route.sessionId published).putTurn requestId
      { transport
        control := .create requestId route
        main := if published then .queued else .left
        calls := []
        permits := 0 })

/-- The channel factory; the adapter of the Web and the CLI binds the slot. -/
def createAdapter (requestId : String) (turn : ControlledTurn) :
    Option SlotSystem :=
  let found :=
    match turn.transport with
    | .web => system.webControls.get? turn.control.route.sessionId
    | .cli => system.cliControls.get? turn.control.route.sessionId
    | .im => none
  if turn.main = .running ∧ turn.control.bound = false ∧
      found = some requestId then
    some (system.putTurn requestId
      { turn with control := turn.control.bindSlot })
  else
    none

/-- One step of the gateway. -/
def next : SlotAction → Option SlotSystem
  | .dispatch transport requestId route published =>
    system.dispatch transport requestId route published
  | .createAdapter requestId =>
    (system.turns.get? requestId).bind (system.createAdapter requestId)
  | .turn requestId action =>
    (system.turns.get? requestId).bind fun turn =>
      (turn.next system.nextApproval action).bind ({ system with
          nextApproval := system.nextApproval + 1 }.carryOut requestId)
  | .webStop sessionId =>
    (system.webControls.get? sessionId).map fun requestId =>
      system.onControl requestId (·.stop)
  | .webClose => some (system.stopAll system.webControls)
  | .webResolve sessionId approvalId approved =>
    (system.webControls.get? sessionId).map fun requestId =>
      system.onControl requestId (·.resolveApproval approvalId approved)
  | .webDelivered sessionId requestId =>
    if system.webControls.get? sessionId = some requestId then
      some { system with
        webControls := system.webControls.erase sessionId }
    else
      none
  | .cliStop route =>
    (system.cliControl route).map fun requestId =>
      system.onControl requestId (·.stop)
  | .cliDisconnect route =>
    (system.cliControl route).map fun requestId =>
      system.onControl requestId (·.stop)
  | .cliClose => some (system.stopAll system.cliControls)
  | .cliResolve route approvalId approved =>
    (system.cliControl route).map fun requestId =>
      system.onControl requestId (·.resolveApproval approvalId approved)
  | .cliDelivered sessionId requestId =>
    if system.cliControls.get? sessionId = some requestId then
      some { system with
        cliControls := system.cliControls.erase sessionId }
    else
      none

end SlotSystem

/-- The gateway from its start on, with any number of slots. -/
def slotMachine : Machine SlotSystem SlotAction where
  initial system := system.free = system.capacity ∧ system.turns = Dict.empty ∧
      system.webControls = Dict.empty ∧ system.cliControls = Dict.empty ∧
      system.overReleases = []
  step system action := system.next action

/-! ## Facts about all turns -/

/-- A fact holds of every turn of the gateway. -/
def SlotSystem.AllTurns (holds : ControlledTurn → Prop) (system : SlotSystem) : Prop :=
  ∀ requestId turn, system.turns.get? requestId = some turn → holds turn

namespace SlotSystem.AllTurns

variable {holds : ControlledTurn → Prop} {system : SlotSystem}

variable {target : SlotSystem}

theorem ofTurns (all : system.AllTurns holds)
    (same : target.turns = system.turns) : target.AllTurns holds := by
  intro requestId turn found
  exact all requestId turn (same ▸ found)

theorem putTurn (all : system.AllTurns holds) (requestId : String)
    {turn : ControlledTurn} (own : holds turn) :
    (system.putTurn requestId turn).AllTurns holds := by
  intro query other found
  simp only [SlotSystem.putTurn, Dict.get?_insert] at found
  split_ifs at found with same
  · cases found
    exact own
  · exact all query other found

theorem onControl
    {change : TurnControl → TurnControl}
    (kept : ∀ turn, holds turn →
      holds { turn with control := change turn.control })
    (all : system.AllTurns holds) (requestId : String) :
    (system.onControl requestId change).AllTurns holds := by
  rw [SlotSystem.onControl]
  cases found : system.turns.get? requestId with
  | none => exact all
  | some turn => exact all.putTurn requestId (kept turn (all _ _ found))

theorem stopAll (kept : ∀ turn, holds turn →
      holds { turn with control := turn.control.stop })
    (all : system.AllTurns holds) (controls : Dict String String) :
    (system.stopAll controls).AllTurns holds := by
  rw [SlotSystem.stopAll]
  induction controls.values generalizing system with
  | nil => exact all
  | cons requestId rest induction =>
    exact induction (all.onControl kept requestId)

theorem carryOut (all : system.AllTurns holds) {requestId : String}
    {effect : TurnEffect} (own : holds effect.after)
    (carried : system.carryOut requestId effect = some target) :
    target.AllTurns holds := by
  have put := all.putTurn requestId own
  simp only [SlotSystem.carryOut] at carried
  cases permit : effect.permit with
  | kept =>
    simp only [permit, Option.some.injEq] at carried
    exact carried ▸ put
  | taken =>
    simp only [permit] at carried
    split_ifs at carried
    cases carried
    exact put.ofTurns rfl
  | given =>
    simp only [permit, Option.some.injEq] at carried
    subst carried
    exact put.ofTurns rfl

theorem next {label : SlotAction} (created : ∀ (transport : TurnTransport) (requestId : String)
      (route : ChannelRoute) (published : Bool),
      holds
        { transport
          control := .create requestId route
          main := if published then .queued else .left
          calls := []
          permits := 0 }) (bound : ∀ turn, holds turn → turn.main = .running →
      turn.control.bound = false →
        holds { turn with control := turn.control.bindSlot })
    (stopped : ∀ turn, holds turn →
      holds { turn with control := turn.control.stop })
    (resolved : ∀ approvalId approved turn, holds turn → holds
        { turn with
          control := turn.control.resolveApproval approvalId approved })
    (acted : ∀ requestId turn action effect, label = .turn requestId action →
      system.turns.get? requestId = some turn → holds turn →
      turn.next system.nextApproval action = some effect →
        holds effect.after) (all : system.AllTurns holds)
    (stepped : system.next label = some target) : target.AllTurns holds := by
  cases label with
  | dispatch transport requestId route published =>
    simp only [SlotSystem.next, SlotSystem.dispatch] at stepped
    split at stepped
    · cases stepped
    · simp only [Option.some.injEq] at stepped
      subst stepped
      refine AllTurns.putTurn (all.ofTurns ?_) requestId
        (created transport requestId route published)
      cases transport <;> rfl
  | createAdapter requestId =>
    obtain ⟨turn, found, stepped⟩ := Option.bind_eq_some_iff.mp stepped
    simp only [SlotSystem.createAdapter] at stepped
    split_ifs at stepped with ready
    cases stepped
    exact all.putTurn requestId (bound turn (all _ _ found) ready.1 ready.2.1)
  | turn requestId action =>
    obtain ⟨turn, found, stepped⟩ := Option.bind_eq_some_iff.mp stepped
    obtain ⟨effect, moved, carried⟩ := Option.bind_eq_some_iff.mp stepped
    have numbered : AllTurns holds
        { system with nextApproval := system.nextApproval + 1 } :=
      all.ofTurns rfl
    exact numbered.carryOut (acted requestId turn action effect rfl found (all _ _ found) moved)
      carried
  | webStop sessionId | cliStop route | cliDisconnect route =>
    obtain ⟨requestId, -, changed⟩ := Option.map_eq_some_iff.mp stepped
    exact changed ▸ all.onControl stopped requestId
  | webClose | cliClose =>
    cases stepped
    exact all.stopAll stopped _
  | webResolve sessionId approvalId approved
  | cliResolve sessionId approvalId approved =>
    obtain ⟨requestId, -, changed⟩ := Option.map_eq_some_iff.mp stepped
    exact changed ▸ all.onControl (resolved approvalId approved) requestId
  | webDelivered sessionId requestId | cliDelivered sessionId requestId =>
    simp only [SlotSystem.next] at stepped
    split_ifs at stepped
    cases stepped
    exact all

end SlotSystem.AllTurns

end TurningGood.Gateway
