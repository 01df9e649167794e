import TurningGood.Gateway.TurnControl

/-!
# Conservation of the execution slots

The flag of a control stands for one permit, whatever number of calls the
turn runs at once.  As long as a call that waits for an approval is the only
call of its turn that goes on, the flag and the permit agree: the free
permits and the turns that hold one add up to the capacity.
-/

namespace TurningGood.Gateway

open TurningGood.Foundation

/-! ## What the flag of a turn stands for -/

/-- The call waits to take the slot of its turn again. -/
def CallPhase.isReacquiring : CallPhase → Bool
  | .reacquiring _ _ => true
  | _ => false

namespace ControlledTurn

variable (turn : ControlledTurn)

variable {call : Nat} {old phase : CallPhase}

/-- The calls in `wait_approval`. -/
def waitingCalls : Nat := turn.calls.countP CallPhase.inApproval

/-- The calls that execute. -/
def runningCalls : Nat := turn.calls.countP CallPhase.isRunning

/-- All calls of the turn are over. -/
def callsEnded : Prop := ∀ phase ∈ turn.calls, phase.isEnded = true

instance : Decidable turn.callsEnded := inferInstanceAs (Decidable (∀ phase ∈ turn.calls, _))

/--
The permits of a turn follow from where it is: one inside the semaphore, none
while its only active call is in an approval.
-/
structure Accounted (turn : ControlledTurn) : Prop where
  permits : turn.permits =
    if turn.main.isInside = true ∧ turn.waitingCalls = 0 then 1 else 0
  held : turn.main.isInside = true → turn.control.bound = true →
    (turn.control.slotHeld = true ↔ turn.waitingCalls = 0)
  alone : 0 < turn.waitingCalls → turn.waitingCalls = 1 ∧ turn.runningCalls = 0 ∧
      turn.main.isInBatch = true ∧ turn.control.bound = true
  quiet : turn.main.isInside = false → turn.callsEnded
  unbound : turn.main = .queued → turn.control.bound = false

/--
A step of a turn that respects the one flag: a call waits for an approval
only as the only active call, no call begins and the main part does not go on
meanwhile, a call that takes its slot again is not cancelled, and a turn is
left only after its calls.
-/
def Orderly : TurnAction → Prop
  | .beginCall _ => turn.waitingCalls = 0
  | .requestApproval _ =>
    turn.main.isInBatch = true ∧ turn.waitingCalls + turn.runningCalls ≤ 1
  | .cancelCall call =>
    ∀ phase ∈ turn.calls[call]?, phase.isReacquiring = false
  | .resume => turn.waitingCalls = 0
  | .leave => turn.callsEnded
  | _ => True

variable {turn}

theorem countP_setCall {calls : List CallPhase}
    (found : calls[call]? = some old) (phase : CallPhase)
    (test : CallPhase → Bool) :
    (calls.set call phase).countP test + (if test old then 1 else 0) =
      calls.countP test + (if test phase then 1 else 0) := by
  obtain ⟨within, same⟩ := List.getElem?_eq_some_iff.mp found
  have positive : (if test old then 1 else 0) ≤ calls.countP test := by
    split_ifs with counted
    · exact List.countP_pos_iff.mpr ⟨old, List.mem_of_getElem? found, counted⟩
    · exact Nat.zero_le _
  rw [List.countP_set within, same]
  omega

theorem waitingCalls_pos (found : turn.calls[call]? = some phase)
    (waiting : phase.inApproval = true) : 0 < turn.waitingCalls :=
  List.countP_pos_iff.mpr ⟨phase, List.mem_of_getElem? found, waiting⟩

theorem runningCalls_pos (found : turn.calls[call]? = some .running) : 0 < turn.runningCalls :=
  List.countP_pos_iff.mpr ⟨_, List.mem_of_getElem? found, rfl⟩

theorem callsEnded.waitingCalls_eq (ended : turn.callsEnded) : turn.waitingCalls = 0 := by
  rw [waitingCalls, List.countP_eq_zero]
  intro phase member
  have finished := ended phase member
  cases phase <;> simp_all [CallPhase.inApproval, CallPhase.isEnded]

theorem callsEnded.runningCalls_eq (ended : turn.callsEnded) : turn.runningCalls = 0 := by
  rw [runningCalls, List.countP_eq_zero]
  intro phase member
  have finished := ended phase member
  cases phase <;> simp_all [CallPhase.isRunning, CallPhase.isEnded]

theorem Accounted.isInside (accounted : turn.Accounted)
    (found : turn.calls[call]? = some phase) (active : phase.isEnded = false) :
    turn.main.isInside = true := by
  by_contra outside
  have ended := accounted.quiet (Bool.eq_false_iff.mpr outside)
    phase (List.mem_of_getElem? found)
  exact Bool.false_ne_true (active.symm.trans ended)

/-- What a step does with the permits of its turn. -/
def PermitsFollow (effect : TurnEffect) : Prop :=
  match effect.permit with
  | .kept => True
  | .taken => effect.turn.permits = 0
  | .given => effect.turn.permits = 1

theorem Accounted.of_inside (inside : turn.main.isInside = true)
    (permits : turn.permits = if turn.waitingCalls = 0 then 1 else 0)
    (held : turn.control.bound = true → (turn.control.slotHeld = true ↔ turn.waitingCalls = 0))
    (alone : 0 < turn.waitingCalls → turn.waitingCalls = 1 ∧ turn.runningCalls = 0 ∧
        turn.main.isInBatch = true ∧ turn.control.bound = true) :
    turn.Accounted where
  permits := by simp [permits, inside]
  held _ := held
  alone := alone
  quiet outside := absurd (inside.symm.trans outside) (by decide)
  unbound queued := by simp [queued, MainPhase.isInside] at inside

theorem Accounted.permits_of_inside
    (accounted : turn.Accounted) (inside : turn.main.isInside = true) :
    turn.permits = if turn.waitingCalls = 0 then 1 else 0 := by
  simpa [inside] using accounted.permits

theorem Accounted.setCall (accounted : turn.Accounted)
    (found : turn.calls[call]? = some old) (active : old.isEnded = false)
    (outside : old.inApproval = false) (target : phase.inApproval = false)
    (alone : phase.isRunning = true → turn.waitingCalls = 0) :
    (turn.setCall call phase).Accounted := by
  have inside := accounted.isInside found active
  have waiting : (turn.setCall call phase).waitingCalls = turn.waitingCalls := by
    have counted := countP_setCall found phase CallPhase.inApproval
    simpa [outside, target, waitingCalls, ControlledTurn.setCall] using counted
  have running := countP_setCall found phase CallPhase.isRunning
  refine .of_inside inside ?_ ?_ ?_
  · rw [waiting]
    exact accounted.permits_of_inside inside
  · rw [waiting]
    exact accounted.held inside
  · rw [waiting]
    intro waits
    obtain ⟨one, noneRuns, batch, bound⟩ := accounted.alone waits
    refine ⟨one, ?_, batch, bound⟩
    have resting : phase.isRunning = false := by
      by_contra runs
      have := alone (Bool.not_eq_false _ ▸ runs)
      omega
    simp only [resting] at running
    change (turn.calls.set call phase).countP _ = 0
    change turn.calls.countP _ = 0 at noneRuns
    simp only [Bool.false_eq_true, if_false] at running
    omega

theorem Accounted.beginWait (accounted : turn.Accounted) (found : turn.calls[call]? = some .running)
    (bound : turn.control.bound = true) (orderly : turn.main.isInBatch = true ∧
      turn.waitingCalls + turn.runningCalls ≤ 1) (approvalId : Nat) :
    turn.control.slotHeld = true ∧ turn.permits = 1 ∧ ({ turn with
        control :=
          { turn.control.createApproval approvalId with slotHeld := false }
        calls := turn.calls.set call (.awaiting approvalId)
        permits := turn.permits - 1 } : ControlledTurn).Accounted := by
  have inside := accounted.isInside found rfl
  have running := runningCalls_pos found
  have noneWaits : turn.waitingCalls = 0 := by omega
  have one := accounted.permits_of_inside inside
  rw [if_pos noneWaits] at one
  have waits := countP_setCall found (.awaiting approvalId)
    CallPhase.inApproval
  have runs := countP_setCall found (.awaiting approvalId)
    CallPhase.isRunning
  simp only [CallPhase.inApproval, CallPhase.isRunning,
    Bool.false_eq_true, if_false, if_true] at waits runs
  have held := (accounted.held inside bound).mpr noneWaits
  simp only [waitingCalls, runningCalls] at noneWaits orderly
  have oneWaits : (turn.calls.set call (.awaiting approvalId)).countP
      CallPhase.inApproval = 1 := by omega
  have noneRuns : (turn.calls.set call (.awaiting approvalId)).countP
      CallPhase.isRunning = 0 := by omega
  refine ⟨held, one, .of_inside inside ?_ ?_ ?_⟩
  · simp [waitingCalls, oneWaits, one]
  · simp [waitingCalls, oneWaits]
  · exact fun _ => ⟨oneWaits, noneRuns, orderly.1, bound⟩

theorem Accounted.moveWait (accounted : turn.Accounted)
    (found : turn.calls[call]? = some old) (waits : old.inApproval = true)
    (still : phase.inApproval = true) {control : TurnControl}
    (bound : control.bound = turn.control.bound)
    (held : control.slotHeld = turn.control.slotHeld) :
    ({ turn with
      control
      calls := turn.calls.set call phase } : ControlledTurn).Accounted := by
  have active : old.isEnded = false := by
    cases old <;> simp_all [CallPhase.inApproval, CallPhase.isEnded]
  have notRunning : old.isRunning = false ∧ phase.isRunning = false := by
    cases old <;> cases phase <;> simp_all [CallPhase.inApproval, CallPhase.isRunning]
  have inside := accounted.isInside found active
  have waiting := countP_setCall found phase CallPhase.inApproval
  have running := countP_setCall found phase CallPhase.isRunning
  simp only [waits, still, notRunning.1, notRunning.2, if_true,
    Bool.false_eq_true, if_false, Nat.add_right_cancel_iff,
    Nat.add_zero] at waiting running
  refine .of_inside inside ?_ ?_ ?_
  · simp only [waitingCalls, waiting]
    exact accounted.permits_of_inside inside
  · simp only [waitingCalls, waiting, bound, held]
    exact accounted.held inside
  · simp only [waitingCalls, runningCalls, waiting, running, bound]
    exact accounted.alone

theorem Accounted.leaveWait {control : TurnControl} (accounted : turn.Accounted) {approvalId : Nat}
    (found : turn.calls[call]? = some (.awaiting approvalId))
    (bound : control.bound = turn.control.bound)
    (held : control.slotHeld = turn.control.slotHeld) (cancelled : Bool) :
    (({ turn with control } : ControlledTurn).leaveWait call approvalId
        cancelled).after.Accounted ∧
      PermitsFollow (({ turn with control } : ControlledTurn).leaveWait call approvalId
          cancelled) := by
  have inside := accounted.isInside found rfl
  have waits := waitingCalls_pos found rfl
  obtain ⟨-, -, -, known⟩ := accounted.alone waits
  have notHeld : turn.control.slotHeld = false := by
    by_contra still
    have := (accounted.held inside known).mp (Bool.not_eq_false _ ▸ still)
    omega
  have lacks : control.lacksSlot = true := by
    simp [TurnControl.lacksSlot, bound, held, known, notHeld]
  simp only [ControlledTurn.leaveWait, lacks, if_true]
  exact ⟨accounted.moveWait found rfl rfl bound held, trivial⟩

theorem Accounted.regain (accounted : turn.Accounted) {approvalId : Nat}
    {cancelled : Bool}
    (found : turn.calls[call]? = some (.reacquiring approvalId cancelled)) :
    turn.permits = 0 ∧ ({ turn with
        control :=
          { turn.control.popApproval approvalId with slotHeld := true }
        calls := turn.calls.set call (afterWait cancelled)
        permits := turn.permits + 1 } : ControlledTurn).Accounted := by
  have inside := accounted.isInside found rfl
  obtain ⟨one, -, -, -⟩ := accounted.alone (waitingCalls_pos found rfl)
  have noPermit := accounted.permits_of_inside inside
  rw [if_neg (by omega)] at noPermit
  have source :
      (CallPhase.reacquiring approvalId cancelled).inApproval = true := rfl
  have target : (afterWait cancelled).inApproval = false := by
    cases cancelled <;> rfl
  have waiting := countP_setCall found (afterWait cancelled)
    CallPhase.inApproval
  simp only [source, target, if_true, Bool.false_eq_true, if_false] at waiting
  have noneWaits : (turn.calls.set call (afterWait cancelled)).countP
      CallPhase.inApproval = 0 := by
    simp only [waitingCalls] at one
    omega
  refine ⟨noPermit, .of_inside inside ?_ ?_ ?_⟩
  · simp [waitingCalls, noneWaits, noPermit]
  · simp [waitingCalls, noneWaits]
  · simp [waitingCalls, noneWaits]

theorem Accounted.moveMain (accounted : turn.Accounted) (inside : turn.main.isInside = true)
    (noneWaits : turn.waitingCalls = 0) {main : MainPhase}
    (target : main.isInside = true) :
    ({ turn with main } : ControlledTurn).Accounted := by
  refine .of_inside target (accounted.permits_of_inside inside) (accounted.held inside) ?_
  intro waits
  exact absurd noneWaits (Nat.pos_iff_ne_zero.mp waits)

theorem Accounted.next
    {fresh : Nat} {action : TurnAction} {effect : TurnEffect}
    (accounted : turn.Accounted) (orderly : turn.Orderly action)
    (moved : turn.next fresh action = some effect) :
    effect.after.Accounted ∧ PermitsFollow effect := by
  cases action with
  | enter =>
    simp only [ControlledTurn.next, ControlledTurn.enter] at moved
    split_ifs at moved with queued
    cases moved
    have outside : turn.main.isInside = false := by rw [queued]; rfl
    have noneWaits := (accounted.quiet outside).waitingCalls_eq
    have noPermit : turn.permits = 0 := by
      simpa [outside] using accounted.permits
    refine ⟨.of_inside rfl ?_ ?_ ?_, noPermit⟩
    · exact (congrArg (· + 1) noPermit).trans (if_pos noneWaits).symm
    · intro bound
      exact absurd (accounted.unbound queued)
        (ne_of_eq_of_ne bound (by decide))
    · exact fun waits => absurd noneWaits (Nat.pos_iff_ne_zero.mp waits)
  | cancelQueued =>
    simp only [ControlledTurn.next, ControlledTurn.cancelQueued] at moved
    split_ifs at moved with queued
    cases moved
    have outside : turn.main.isInside = false := by rw [queued]; rfl
    have ended := accounted.quiet outside
    refine ⟨⟨?_, ?_, ?_, fun _ => ended, ?_⟩, trivial⟩
    · have noPermit : turn.permits = 0 := by
        simpa [outside] using accounted.permits
      simp [TurnEffect.after, MainPhase.isInside, noPermit]
    · exact fun absurdity => absurd absurdity Bool.false_ne_true
    · exact fun waits =>
        absurd ended.waitingCalls_eq (Nat.pos_iff_ne_zero.mp waits)
    · exact fun absurdity => by cases absurdity
  | startBatch gathered count =>
    rw [ControlledTurn.next, ControlledTurn.startBatch, Option.ite_none_right_eq_some] at moved
    obtain ⟨starting, moved⟩ := moved
    cases moved
    have inside : turn.main.isInside = true := by rw [starting.1]; rfl
    have noneWaits : turn.waitingCalls = 0 := by
      by_contra waits
      obtain ⟨-, -, batch, -⟩ := accounted.alone (Nat.pos_of_ne_zero waits)
      rw [starting.1] at batch
      exact absurd batch Bool.false_ne_true
    have stillNone : (turn.calls ++ List.replicate count
        (if gathered then CallPhase.queued else .running)).countP
          CallPhase.inApproval = 0 := by
      rw [List.countP_append, List.countP_replicate]
      cases gathered <;> exact noneWaits
    refine ⟨.of_inside rfl ?_ ?_ ?_, trivial⟩
    · refine (accounted.permits_of_inside inside).trans ?_
      rw [if_pos noneWaits]
      exact (if_pos stillNone).symm
    · intro bound
      exact (accounted.held inside bound).trans (iff_of_true noneWaits stillNone)
    · exact fun waits => absurd stillNone (Nat.pos_iff_ne_zero.mp waits)
  | beginCall call =>
    simp only [ControlledTurn.next, ControlledTurn.moveCall] at moved
    split_ifs at moved with found
    cases moved
    exact ⟨accounted.setCall found rfl rfl rfl fun _ => orderly, trivial⟩
  | requestApproval call =>
    simp only [ControlledTurn.next, ControlledTurn.requestApproval] at moved
    split_ifs at moved with ready holds
    · cases moved
      obtain ⟨-, one, after⟩ := accounted.beginWait ready.1 ready.2 orderly fresh
      exact ⟨after, one⟩
    · obtain ⟨held, -, -⟩ := accounted.beginWait ready.1 ready.2 orderly fresh
      simp [TurnControl.holdsSlot, ready.2, held] at holds
  | approvalDone call =>
    rw [ControlledTurn.next, ControlledTurn.approvalDone] at moved
    split at moved
    · rename_i approvalId found
      split_ifs at moved
      cases moved
      exact accounted.leaveWait found rfl rfl false
    · cases moved
  | regainSlot call =>
    rw [ControlledTurn.next, ControlledTurn.regainSlot] at moved
    split at moved
    · rename_i approvalId cancelled found
      cases moved
      obtain ⟨noPermit, after⟩ := accounted.regain found
      exact ⟨after, noPermit⟩
    · cases moved
  | cancelCall call =>
    rw [ControlledTurn.next, ControlledTurn.cancelCall] at moved
    split at moved
    · rename_i found
      cases moved
      exact ⟨accounted.setCall found rfl rfl rfl (by rintro ⟨⟩), trivial⟩
    · rename_i found
      cases moved
      exact ⟨accounted.setCall found rfl rfl rfl (by rintro ⟨⟩), trivial⟩
    · rename_i approvalId found
      cases moved
      exact accounted.leaveWait found (turn.control.settle_bound approvalId .cancelled)
        (turn.control.settle_slotHeld approvalId .cancelled) true
    · rename_i approvalId cancelled found
      exact absurd (orderly _ found).symm Bool.false_ne_true
    · cases moved
  | endCall call failed =>
    simp only [ControlledTurn.next, ControlledTurn.moveCall] at moved
    split_ifs at moved with found
    cases moved
    exact ⟨accounted.setCall found rfl rfl rfl (by rintro ⟨⟩), trivial⟩
  | resume =>
    simp only [ControlledTurn.next, ControlledTurn.resume] at moved
    split_ifs at moved with done
    cases moved
    have inside : turn.main.isInside = true := by
      rw [batchDone] at done
      cases main : turn.main <;> simp_all [MainPhase.isInside]
    exact ⟨accounted.moveMain inside orderly rfl, trivial⟩
  | leave =>
    simp only [ControlledTurn.next, ControlledTurn.leave] at moved
    split_ifs at moved with running
    cases moved
    have inside : turn.main.isInside = true := by rw [running]; rfl
    have ended : turn.callsEnded := orderly
    have one := accounted.permits_of_inside inside
    rw [if_pos ended.waitingCalls_eq] at one
    refine ⟨⟨?_, ?_, ?_, fun _ => ended, ?_⟩, one⟩
    · simp [TurnEffect.after, MainPhase.isInside, one]
    · exact fun absurdity => absurd absurdity Bool.false_ne_true
    · exact fun waits =>
        absurd ended.waitingCalls_eq (Nat.pos_iff_ne_zero.mp waits)
    · exact fun absurdity => by cases absurdity

theorem Accounted.executes (accounted : turn.Accounted) (executes : turn.executes = true) :
    turn.permits = 1 := by
  rw [ControlledTurn.executes, Bool.or_eq_true, decide_eq_true_eq, List.any_eq_true] at executes
  have inside : turn.main.isInside = true ∧ turn.waitingCalls = 0 := by
    rcases executes with running | ⟨phase, member, runs⟩
    · refine ⟨by rw [running]; rfl, ?_⟩
      by_contra waits
      obtain ⟨-, -, batch, -⟩ := accounted.alone (Nat.pos_of_ne_zero waits)
      rw [running] at batch
      exact Bool.false_ne_true batch
    · have active : 0 < turn.runningCalls :=
        List.countP_pos_iff.mpr ⟨phase, member, runs⟩
      constructor
      · by_contra outside
        have ended := accounted.quiet (Bool.eq_false_iff.mpr outside)
        exact absurd ended.runningCalls_eq (Nat.pos_iff_ne_zero.mp active)
      · by_contra waits
        obtain ⟨-, resting, -⟩ := accounted.alone (Nat.pos_of_ne_zero waits)
        exact absurd resting (Nat.pos_iff_ne_zero.mp active)
  rw [accounted.permits, if_pos inside]

end ControlledTurn

/-! ## The slots of the gateway -/

namespace SlotSystem

variable {system : SlotSystem}

/-- The permits that the turns hold, each as often as it holds one. -/
def heldPermits (system : SlotSystem) : Nat := system.turns.total ControlledTurn.permits

/-- The number of turns with a property. -/
def countTurns (system : SlotSystem) (test : ControlledTurn → Bool) : Nat :=
  system.turns.total fun turn => if test turn then 1 else 0

/--
The slots are conserved: free permits and holding turns add up, a turn holds
at most one permit and releases none that it does not hold, and at most
`capacity` turns execute.
-/
structure SlotsConserved (system : SlotSystem) : Prop where
  balance : system.free + system.countTurns (fun turn => 0 < turn.permits) = system.capacity
  single : system.AllTurns fun turn => turn.permits ≤ 1
  released : system.overReleases = []
  executing : system.countTurns ControlledTurn.executes ≤ system.capacity

/-- The permits are accounted for, turn by turn. -/
structure SlotsAccounted (system : SlotSystem) : Prop where
  turns : system.AllTurns ControlledTurn.Accounted
  balance : system.free + system.heldPermits = system.capacity
  released : system.overReleases = []

theorem SlotsAccounted.conserved (accounted : system.SlotsAccounted) :
    system.SlotsConserved := by
  have single : ∀ requestId turn,
      system.turns.get? requestId = some turn → turn.permits ≤ 1 := by
    intro requestId turn found
    rw [(accounted.turns requestId turn found).permits]
    split_ifs <;> omega
  have balance := accounted.balance
  have executing : system.countTurns ControlledTurn.executes ≤
      system.heldPermits := by
    refine Dict.total_le_total system.turns fun requestId turn found => ?_
    split_ifs with executes
    · exact Nat.le_of_eq ((accounted.turns requestId turn found).executes executes).symm
    · exact Nat.zero_le _
  refine ⟨?_, single, accounted.released, by omega⟩
  have atMost : system.countTurns (fun turn => 0 < turn.permits) ≤
      system.heldPermits := by
    refine Dict.total_le_total system.turns fun requestId turn found => ?_
    simp only [decide_eq_true_eq]
    split_ifs <;> omega
  have atLeast : system.heldPermits ≤
      system.countTurns (fun turn => 0 < turn.permits) := by
    refine Dict.total_le_total system.turns fun requestId turn found => ?_
    have := single requestId turn found
    simp only [decide_eq_true_eq]
    split_ifs <;> omega
  omega

/-- Free and held permits add up, and no release went wrong. -/
def Balanced (system : SlotSystem) : Prop :=
  system.free + system.heldPermits = system.capacity ∧ system.overReleases = []

theorem Balanced.putTurn (balanced : system.Balanced) {requestId : String}
    {old turn : ControlledTurn}
    (found : system.turns.get? requestId = some old)
    (same : turn.permits = old.permits) :
    (system.putTurn requestId turn).Balanced := by
  have replaced :=
    Dict.total_insert_of_get? ControlledTurn.permits found turn
  refine ⟨?_, balanced.2⟩
  have balance := balanced.1
  simp only [heldPermits, SlotSystem.putTurn] at balance ⊢
  omega

theorem Balanced.onControl (balanced : system.Balanced) (requestId : String)
    (change : TurnControl → TurnControl) :
    (system.onControl requestId change).Balanced := by
  rw [SlotSystem.onControl]
  cases found : system.turns.get? requestId with
  | none => exact balanced
  | some turn => exact balanced.putTurn found rfl

theorem Balanced.stopAll (balanced : system.Balanced)
    (controls : Dict String String) : (system.stopAll controls).Balanced := by
  rw [SlotSystem.stopAll]
  induction controls.values generalizing system with
  | nil => exact balanced
  | cons requestId rest induction =>
    exact induction (balanced.onControl requestId _)

theorem Balanced.carryOut {target : SlotSystem} (balanced : system.Balanced)
    {requestId : String} {turn : ControlledTurn} {effect : TurnEffect}
    (found : system.turns.get? requestId = some turn)
    (same : effect.turn.permits = turn.permits)
    (follows : ControlledTurn.PermitsFollow effect)
    (carried : system.carryOut requestId effect = some target) :
    target.Balanced := by
  have balance := balanced.1
  have replaced :=
    Dict.total_insert_of_get? ControlledTurn.permits found effect.after
  simp only [ControlledTurn.PermitsFollow] at follows
  simp only [SlotSystem.carryOut] at carried
  cases permit : effect.permit with
  | kept =>
    simp only [permit, Option.some.injEq] at carried
    subst carried
    exact balanced.putTurn found (by simpa [TurnEffect.after, permit])
  | taken =>
    simp only [permit] at carried follows
    split_ifs at carried with available
    cases carried
    refine ⟨?_, balanced.2⟩
    simp only [TurnEffect.after, permit] at replaced
    simp only [heldPermits, SlotSystem.putTurn, TurnEffect.after, permit] at balance ⊢
    omega
  | given =>
    simp only [permit, Option.some.injEq] at carried follows
    subst carried
    refine ⟨?_, ?_⟩
    · simp only [TurnEffect.after, permit] at replaced
      simp only [heldPermits, SlotSystem.putTurn, TurnEffect.after, permit] at balance ⊢
      omega
    · simp [follows, balanced.2]

end SlotSystem

theorem ControlledTurn.next_permits
    {turn : ControlledTurn} {fresh : Nat} {action : TurnAction}
    {effect : TurnEffect} (moved : turn.next fresh action = some effect) :
    effect.turn.permits = turn.permits := by
  have waited : ∀ (turn : ControlledTurn) (call approvalId : Nat)
      (cancelled : Bool),
      (turn.leaveWait call approvalId cancelled).turn.permits =
        turn.permits := by
    intro turn call approvalId cancelled
    rw [ControlledTurn.leaveWait]
    split <;> rfl
  cases action <;> simp only [ControlledTurn.next, ControlledTurn.enter,
      ControlledTurn.cancelQueued, ControlledTurn.startBatch,
      ControlledTurn.moveCall, ControlledTurn.requestApproval,
      ControlledTurn.approvalDone, ControlledTurn.regainSlot,
      ControlledTurn.cancelCall, ControlledTurn.resume,
      ControlledTurn.leave] at moved <;>
    split at moved <;> (try split at moved) <;> cases moved <;>
    first | rfl | exact waited _ _ _ _

/-! ## Runs -/

/-- Every step of a turn is orderly. -/
def OrderlyTurns (system : SlotSystem) : SlotAction → Prop
  | .turn requestId action =>
    ∀ turn ∈ system.turns.get? requestId, turn.Orderly action
  | _ => True

instance (turn : ControlledTurn) (action : TurnAction) :
    Decidable (turn.Orderly action) :=
  match action with
  | .beginCall _ | .resume =>
    inferInstanceAs (Decidable (turn.waitingCalls = 0))
  | .requestApproval _ => inferInstanceAs (Decidable (_ = true ∧ _ ≤ 1))
  | .cancelCall _ => inferInstanceAs (Decidable (∀ phase ∈ _, _ = false))
  | .leave => inferInstanceAs (Decidable turn.callsEnded)
  | .enter | .cancelQueued | .startBatch _ _ | .approvalDone _
  | .regainSlot _ | .endCall _ _ => .isTrue trivial

instance (system : SlotSystem) (label : SlotAction) :
    Decidable (OrderlyTurns system label) :=
  match label with
  | .turn requestId action =>
    inferInstanceAs (Decidable (∀ turn ∈ system.turns.get? requestId,
        ControlledTurn.Orderly turn action))
  | .dispatch _ _ _ _ | .createAdapter _ | .webStop _ | .webClose
  | .webResolve _ _ _ | .webDelivered _ _ | .cliStop _ | .cliDisconnect _
  | .cliClose | .cliResolve _ _ _ | .cliDelivered _ _ => .isTrue trivial

theorem SlotSystem.SlotsAccounted.next_balanced
    {system target : SlotSystem} {label : SlotAction}
    (accounted : system.SlotsAccounted)
    (allowed : OrderlyTurns system label)
    (stepped : system.next label = some target) : target.Balanced := by
  have balanced : system.Balanced := ⟨accounted.balance, accounted.released⟩
  cases label with
  | dispatch transport requestId route published =>
    simp only [SlotSystem.next, SlotSystem.dispatch] at stepped
    split at stepped
    · cases stepped
    · rename_i new
      simp only [Option.some.injEq] at stepped
      subst stepped
      have fresh : system.turns.get? requestId = none := by
        simpa [Dict.contains] using new
      have added := Dict.total_insert_of_new ControlledTurn.permits fresh
      cases transport <;> exact ⟨(congrArg (system.free + ·) (added _)).trans balanced.1,
          balanced.2⟩
  | createAdapter requestId =>
    obtain ⟨turn, found, stepped⟩ := Option.bind_eq_some_iff.mp stepped
    simp only [SlotSystem.createAdapter] at stepped
    split_ifs at stepped
    cases stepped
    exact balanced.putTurn found rfl
  | turn requestId action =>
    obtain ⟨turn, found, stepped⟩ := Option.bind_eq_some_iff.mp stepped
    obtain ⟨effect, moved, carried⟩ := Option.bind_eq_some_iff.mp stepped
    have follows := ((accounted.turns _ _ found).next
      (allowed turn found) moved).2
    have numbered : SlotSystem.Balanced
        { system with nextApproval := system.nextApproval + 1 } := balanced
    exact numbered.carryOut found (ControlledTurn.next_permits moved) follows carried
  | webStop sessionId | cliStop route | cliDisconnect route =>
    obtain ⟨requestId, -, changed⟩ := Option.map_eq_some_iff.mp stepped
    exact changed ▸ balanced.onControl requestId _
  | webClose | cliClose =>
    cases stepped
    exact balanced.stopAll _
  | webResolve sessionId approvalId approved
  | cliResolve sessionId approvalId approved =>
    obtain ⟨requestId, -, changed⟩ := Option.map_eq_some_iff.mp stepped
    exact changed ▸ balanced.onControl requestId _
  | webDelivered sessionId requestId | cliDelivered sessionId requestId =>
    simp only [SlotSystem.next] at stepped
    split_ifs at stepped
    cases stepped
    exact balanced

theorem ControlledTurn.Accounted.withControl
    {turn : ControlledTurn} (accounted : turn.Accounted)
    {control : TurnControl} (bound : control.bound = turn.control.bound)
    (held : control.slotHeld = turn.control.slotHeld) :
    ({ turn with control } : ControlledTurn).Accounted where
  permits := accounted.permits
  held inside known := by
    rw [held]
    exact accounted.held inside (bound.symm.trans known)
  alone waits := by
    obtain ⟨one, none, batch, known⟩ := accounted.alone waits
    exact ⟨one, none, batch, bound.trans known⟩
  quiet := accounted.quiet
  unbound queued := bound.trans (accounted.unbound queued)

theorem SlotSystem.SlotsAccounted.next
    {system target : SlotSystem} {label : SlotAction}
    (accounted : system.SlotsAccounted)
    (allowed : OrderlyTurns system label)
    (stepped : system.next label = some target) :
    target.SlotsAccounted := by
  have balanced := accounted.next_balanced allowed stepped
  refine ⟨?_, balanced.1, balanced.2⟩
  refine SlotSystem.AllTurns.next ?_ ?_ ?_ ?_ ?_ accounted.turns stepped
  · intro transport requestId route published
    have nothing : ∀ phase ∈ ([] : List CallPhase), phase.isEnded = true :=
      nofun
    cases published <;> exact ⟨rfl, nofun, nofun, fun _ => nothing, fun _ => rfl⟩
  · intro turn own running unbound
    have inside : turn.main.isInside = true := by rw [running]; rfl
    have noneWaits : turn.waitingCalls = 0 := by
      by_contra waits
      obtain ⟨-, -, -, known⟩ := own.alone (Nat.pos_of_ne_zero waits)
      exact Bool.false_ne_true (unbound.symm.trans known)
    exact .of_inside inside (own.permits_of_inside inside) (fun _ => iff_of_true rfl noneWaits)
      (fun waits => absurd noneWaits (Nat.pos_iff_ne_zero.mp waits))
  · exact fun turn own => own.withControl rfl rfl
  · exact fun approvalId approved turn own =>
      own.withControl (turn.control.settle_bound approvalId _)
        (turn.control.settle_slotHeld approvalId _)
  · intro requestId turn action effect isTurn found own moved
    subst isTurn
    exact (own.next (allowed turn found) moved).1

private def sessionRoute : ChannelRoute := ⟨"owner", "web", "conversation", "session"⟩

private def gatewayWith (capacity : Nat) : SlotSystem where
  capacity := capacity
  free := capacity
  turns := Dict.empty
  webControls := Dict.empty
  cliControls := Dict.empty
  nextApproval := 0
  overReleases := []

private theorem gatewayWith_initial (capacity : Nat) :
    slotMachine.initial (gatewayWith capacity) :=
  ⟨rfl, rfl, rfl, rfl, rfl⟩

/-- A turn of the Web calls its tools. -/
private def calling (gathered : Bool) (count : Nat) : List SlotAction :=
  [.dispatch .web "turn" sessionRoute true, .turn "turn" .enter,
    .createAdapter "turn", .turn "turn" (.startBatch gathered count)]

/-- Another turn takes a slot. -/
private def entering (requestId : String) : List SlotAction :=
  [.dispatch .im requestId ⟨"guest", "im", requestId, requestId⟩ true, .turn requestId .enter]

/--
In every run in which each step of a turn is orderly, the execution slots are
conserved in every state reached.
-/
theorem slotRuns_conserveSlots
    {system : SlotSystem}
    (reached : slotMachine.Reaches OrderlyTurns system) :
    system.SlotsConserved := by
  have accounted : system.SlotsAccounted := by
    refine reached.invariant ?_ ?_
    · rintro state ⟨full, noTurns, -, -, noRelease⟩
      refine ⟨?_, ?_, noRelease⟩
      · intro requestId turn found
        rw [noTurns] at found
        cases found
      · rw [SlotSystem.heldPermits, noTurns, full]
        rfl
    · intro state label target _ accounted allowed stepped
      exact accounted.next allowed stepped
  exact accounted.conserved

private def approvedRun : List SlotAction :=
  calling false 1 ++ [.turn "turn" (.requestApproval 0)] ++ entering "other" ++
    [.webResolve "session" 2 true, .turn "turn" (.approvalDone 0),
      .turn "other" .leave, .turn "turn" (.regainSlot 0),
      .turn "turn" (.endCall 0 false), .turn "turn" .resume,
      .turn "turn" .leave]

/-- Another turn uses the slot while an approval waits. -/
theorem slotRun_approval_conservesSlots : ∃ system,
      slotMachine.runGuarded OrderlyTurns (gatewayWith 1) approvedRun = some system ∧
      system.SlotsConserved := by
  refine ⟨_, rfl, ?_⟩
  have evaluated :
      slotMachine.runGuarded OrderlyTurns (gatewayWith 1) approvedRun =
        some _ := rfl
  exact slotRuns_conserveSlots (.runGuarded (.start (gatewayWith_initial 1)) evaluated)

private def twoApprovalsRun : List SlotAction := calling true 2 ++
    [.turn "turn" (.beginCall 0), .turn "turn" (.requestApproval 0),
      .turn "turn" (.beginCall 1), .turn "turn" (.requestApproval 1)] ++
    entering "second" ++ entering "third" ++
    [.webResolve "session" 3 true, .webResolve "session" 5 true,
      .turn "turn" (.approvalDone 0), .turn "turn" (.approvalDone 1),
      .turn "second" .leave, .turn "third" .leave,
      .turn "turn" (.regainSlot 0), .turn "turn" (.regainSlot 1)]

private def cancelledRegainRun : List SlotAction :=
  calling false 1 ++ [.turn "turn" (.requestApproval 0)] ++ entering "other" ++
    [.webResolve "session" 2 true, .turn "turn" (.approvalDone 0),
      .turn "turn" (.cancelCall 0), .turn "turn" .resume,
      .turn "turn" .leave]

private def siblingRun : List SlotAction := calling true 2 ++
    [.turn "turn" (.beginCall 0), .turn "turn" (.beginCall 1),
      .turn "turn" (.requestApproval 0)] ++ entering "other"

/--
Two approvals that take the slot again at once leave the turn with two
permits; a call cancelled while it takes the slot again makes its turn
release one that it does not hold; and a turn whose other call still runs
executes beside the turn that has its slot.
-/
theorem slotRuns_breakConservation : (∃ system turn, slotMachine.Reachable system ∧
      system.turns.get? "turn" = some turn ∧ turn.permits = 2) ∧
    (∃ system, slotMachine.Reachable system ∧ system.overReleases = ["turn"] ∧ system.capacity = 1 ∧
      system.free = 1 ∧
      system.countTurns (fun turn => 0 < turn.permits) = 1) ∧
    ∃ system, slotMachine.Reachable system ∧ system.capacity = 1 ∧
      system.countTurns ControlledTurn.executes = 2 := by
  refine ⟨?_, ?_, ?_⟩
  · have evaluated :
        slotMachine.run (gatewayWith 2) twoApprovalsRun = some _ := rfl
    exact ⟨_, _, .run (.start (gatewayWith_initial 2)) evaluated, rfl, rfl⟩
  · have evaluated :
        slotMachine.run (gatewayWith 1) cancelledRegainRun = some _ := rfl
    exact ⟨_, .run (.start (gatewayWith_initial 1)) evaluated, rfl, rfl, rfl, rfl⟩
  · have evaluated :
        slotMachine.run (gatewayWith 1) siblingRun = some _ := rfl
    exact ⟨_, .run (.start (gatewayWith_initial 1)) evaluated, rfl, rfl⟩

end TurningGood.Gateway
