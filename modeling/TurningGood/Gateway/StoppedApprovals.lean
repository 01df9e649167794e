import TurningGood.Gateway.TurnControl

/-!
# Stop and the approvals of a turn

Stopping a turn rejects the approvals that wait at that moment.  Nothing in
`create_approval` or `wait_approval` looks at the stop flag, so a call that
asks afterwards waits for an answer that a stop no longer gives.
-/

namespace TurningGood.Gateway

open TurningGood.Foundation

/-! ## Approvals that a stop has settled -/

/-- When the turn was stopped, no approval of it is unresolved. -/
def TurnControl.Settled (control : TurnControl) : Prop := control.stopRequested = true →
    ∀ approvalId, control.approvals.get? approvalId ≠ some .pending

namespace TurnControl

variable {control : TurnControl}

theorem Settled.of_notStopped (running : control.stopRequested = false) : control.Settled :=
  fun stopped => absurd (running.symm.trans stopped) Bool.false_ne_true

theorem settled_stop (control : TurnControl) : control.stop.Settled := by
  intro _ approvalId
  rw [stop, Dict.get?_mapValues]
  cases control.approvals.get? approvalId with
  | none => simp
  | some future => cases future <;> simp

theorem Settled.settle (settled : control.Settled) (approvalId : Nat) (outcome : ApprovalFuture) :
    (control.settle approvalId outcome).Settled := by
  rw [TurnControl.settle]
  split_ifs with waiting
  · intro stopped
    exact absurd waiting (settled stopped approvalId)
  · exact settled

theorem Settled.popApproval (settled : control.Settled) (approvalId : Nat) :
    (control.popApproval approvalId).Settled := by
  intro stopped query
  rw [TurnControl.popApproval, Dict.get?_erase]
  split_ifs
  · simp
  · exact settled stopped query

end TurnControl

namespace ControlledTurn

/-- The control of the turn is settled. -/
def Settled (turn : ControlledTurn) : Prop := turn.control.Settled

variable {turn : ControlledTurn}

theorem Settled.leaveWait (settled : turn.Settled) (call approvalId : Nat) (cancelled : Bool) :
    (turn.leaveWait call approvalId cancelled).after.Settled := by
  rw [ControlledTurn.leaveWait]
  split
  · exact settled
  · exact TurnControl.Settled.popApproval settled approvalId

theorem Settled.next
    {fresh : Nat} {action : TurnAction} {effect : TurnEffect}
    (settled : turn.Settled)
    (allowed : ∀ call, action = .requestApproval call → turn.control.stopRequested = false)
    (moved : turn.next fresh action = some effect) :
    effect.after.Settled := by
  cases action with
  | enter | cancelQueued | resume | leave =>
    simp only [ControlledTurn.next, ControlledTurn.enter,
      ControlledTurn.cancelQueued, ControlledTurn.resume,
      ControlledTurn.leave] at moved
    split_ifs at moved
    cases moved
    exact settled
  | startBatch gathered count =>
    rw [ControlledTurn.next, ControlledTurn.startBatch] at moved
    split_ifs at moved <;> cases moved <;> exact settled
  | beginCall call | endCall call failed =>
    simp only [ControlledTurn.next, ControlledTurn.moveCall] at moved
    split_ifs at moved
    cases moved
    exact settled
  | requestApproval call =>
    simp only [ControlledTurn.next, ControlledTurn.requestApproval] at moved
    split_ifs at moved <;> cases moved <;>
      exact TurnControl.Settled.of_notStopped (allowed call rfl)
  | approvalDone call =>
    rw [ControlledTurn.next, ControlledTurn.approvalDone] at moved
    split at moved
    · split_ifs at moved
      cases moved
      exact settled.leaveWait _ _ _
    · cases moved
  | regainSlot call =>
    rw [ControlledTurn.next, ControlledTurn.regainSlot] at moved
    split at moved <;> cases moved
    exact TurnControl.Settled.popApproval settled _
  | cancelCall call =>
    rw [ControlledTurn.next, ControlledTurn.cancelCall] at moved
    split at moved <;> cases moved
    · exact settled
    · exact settled
    · rename_i approvalId _
      have cancelled : Settled
          { turn with
            control := turn.control.settle approvalId .cancelled } :=
        TurnControl.Settled.settle settled _ _
      exact cancelled.leaveWait _ _ _
    · exact TurnControl.Settled.popApproval settled _

end ControlledTurn

/-- Stop leaves nothing waiting for approval. -/
def SlotSystem.NothingWaitsAfterStop (system : SlotSystem) : Prop :=
  system.AllTurns ControlledTurn.Settled

/-- No call asks for an approval on a turn that was already stopped. -/
def AsksBeforeStop (system : SlotSystem) : SlotAction → Prop
  | .turn requestId (.requestApproval _) =>
    ∀ turn ∈ system.turns.get? requestId, turn.control.stopRequested = false
  | _ => True

instance (system : SlotSystem) (action : SlotAction) :
    Decidable (AsksBeforeStop system action) :=
  match action with
  | .turn _ (.requestApproval _) =>
    inferInstanceAs (Decidable (∀ turn ∈ _, _))
  | .turn _ .enter | .turn _ .cancelQueued | .turn _ (.startBatch _ _)
  | .turn _ (.beginCall _) | .turn _ (.approvalDone _)
  | .turn _ (.regainSlot _) | .turn _ (.cancelCall _)
  | .turn _ (.endCall _ _) | .turn _ .resume | .turn _ .leave
  | .dispatch _ _ _ _ | .createAdapter _ | .webStop _ | .webClose
  | .webResolve _ _ _ | .webDelivered _ _ | .cliStop _ | .cliDisconnect _
  | .cliClose | .cliResolve _ _ _ | .cliDelivered _ _ => .isTrue trivial

theorem SlotSystem.NothingWaitsAfterStop.next
    {system target : SlotSystem} {action : SlotAction}
    (settled : system.NothingWaitsAfterStop)
    (allowed : AsksBeforeStop system action)
    (stepped : system.next action = some target) :
    target.NothingWaitsAfterStop := by
  refine SlotSystem.AllTurns.next ?_ ?_ ?_ ?_ ?_ settled stepped
  · exact fun _ _ _ _ => TurnControl.Settled.of_notStopped rfl
  · exact fun _ own _ _ => own
  · exact fun turn _ => turn.control.settled_stop
  · exact fun approvalId approved _ own =>
      TurnControl.Settled.settle own approvalId (.resolved approved)
  · intro requestId turn turnAction effect label found own moved
    refine own.next (fun call asked => ?_) moved
    subst label
    subst asked
    exact allowed turn found

private def webRoute : ChannelRoute := ⟨"owner", "web", "conversation", "web-session"⟩

private def cliRoute : ChannelRoute := ⟨"owner", "cli", "terminal", "cli-session"⟩

private def idleGateway : SlotSystem where
  capacity := 2
  free := 2
  turns := Dict.empty
  webControls := Dict.empty
  cliControls := Dict.empty
  nextApproval := 0
  overReleases := []

private theorem idleGateway_initial : slotMachine.initial idleGateway := ⟨rfl, rfl, rfl, rfl, rfl⟩

/-- A turn that runs one call. -/
private def askingFor (transport : TurnTransport) (requestId : String)
    (route : ChannelRoute) : List SlotAction :=
  [.dispatch transport requestId route true, .turn requestId .enter,
    .createAdapter requestId, .turn requestId (.startBatch false 1)]

/--
In every run in which no call asks for an approval on a turn that was already
stopped, a stopped turn has no unresolved approval.
-/
theorem slotRuns_nothingWaitsAfterStop
    {system : SlotSystem}
    (reached : slotMachine.Reaches AsksBeforeStop system) :
    system.NothingWaitsAfterStop := by
  refine reached.invariant ?_ ?_
  · rintro state ⟨-, noTurns, -⟩ requestId turn found
    rw [noTurns] at found
    cases found
  · intro state action target _ settled allowed stepped
    exact settled.next allowed stepped

/-- A turn whose approval is waiting when it is stopped. -/
theorem slotRun_stopRejects : ∃ system, slotMachine.runGuarded AsksBeforeStop idleGateway
          (askingFor .web "turn" webRoute ++
            [.turn "turn" (.requestApproval 0), .webStop "web-session"]) =
        some system ∧
      system.NothingWaitsAfterStop := by
  refine ⟨_, rfl, ?_⟩
  have evaluated :
      slotMachine.runGuarded AsksBeforeStop idleGateway (askingFor .web "turn" webRoute ++
            [.turn "turn" (.requestApproval 0), .webStop "web-session"]) =
        some _ := rfl
  exact slotRuns_nothingWaitsAfterStop (.runGuarded (.start idleGateway_initial) evaluated)

/--
A call that asks after the stop of the Web, or after the disconnect of the
CLI, waits with an unresolved approval.
-/
theorem slotRun_waitsAfterStop : (∃ system turn approvalId,
      slotMachine.Reachable system ∧ system.turns.get? "turn" = some turn ∧
        turn.control.stopRequested = true ∧
        turn.calls = [.awaiting approvalId] ∧
        turn.control.approvals.get? approvalId = some .pending) ∧
      ∃ system turn approvalId, slotMachine.Reachable system ∧
          system.turns.get? "turn" = some turn ∧
          turn.control.stopRequested = true ∧
          turn.calls = [.awaiting approvalId] ∧
          turn.control.approvals.get? approvalId = some .pending := by
  constructor
  · have evaluated :
        slotMachine.run idleGateway (askingFor .web "turn" webRoute ++
              [.webStop "web-session", .turn "turn" (.requestApproval 0)]) =
          some _ := rfl
    exact ⟨_, _, _, .run (.start idleGateway_initial) evaluated, rfl, rfl, rfl, rfl⟩
  · have evaluated :
        slotMachine.run idleGateway (askingFor .cli "turn" cliRoute ++
              [.cliDisconnect cliRoute, .turn "turn" (.requestApproval 0)]) =
          some _ := rfl
    exact ⟨_, _, _, .run (.start idleGateway_initial) evaluated, rfl, rfl, rfl, rfl⟩

end TurningGood.Gateway
