import Mathlib.Data.List.Nodup
import TurningGood.Foundation.Dict
import TurningGood.Foundation.Machine
import TurningGood.Foundation.Text

/-!
# Guidance of a running turn

A client adds guidance to the control of a session's turn.  At its safe points
the loop of the turn takes all of it and appends it to the working messages of
the model.  When the reply of the turn is delivered, what is left in the queue
is read, published as `guidance.pending`, and the control is removed.

The delivery awaits the hub between reading the queue and removing the
control, and the loop can end between taking guidance and its next call of
the model.  What is accepted or taken in between goes nowhere.  In runs
without these steps every accepted item goes to the model exactly once or is
reported exactly once.

Every section between two awaits is one step.  The inbound bus is unbounded,
so that the dispatch function of a turn does not wait between making the
control and publishing the message.
-/

namespace TurningGood.Web

open TurningGood.Foundation
open TurningGood.Foundation.Text

/-! ## Turns -/

/-- An accepted guidance text, with the number of its acceptance. -/
structure GuidanceItem where
  serial : Nat
  text : String
deriving DecidableEq

/-- How far a turn has come. -/
inductive GuidedStage where
  /-- the message is on the bus, or the loop has not begun -/
  | queued
  | looping
  /-- the loop has ended, and the reply is on the outbound bus -/
  | replied
  /-- `deliver` awaits the publication of the reply -/
  | publishingReply
  /-- `deliver` awaits the terminal event, having read the queue -/
  | publishingEnd (pending : List GuidanceItem)
  /-- `deliver` awaits `guidance.pending` -/
  | publishingPending (pending : List GuidanceItem)
  | finished
  /-- the delivery or the turn was cancelled -/
  | cutShort
deriving DecidableEq

/-- A turn with the fields of its `WebTurnControl` that guidance uses. -/
structure GuidedTurn where
  sessionId : String
  stage : GuidedStage
  guidance : List GuidanceItem
  stopRequested : Bool
  /-- the guidance among the working messages of the loop -/
  working : List GuidanceItem
  /-- the guidance in the latest call of the model -/
  sent : List GuidanceItem
  /-- the items of the published `guidance.pending` events -/
  reported : List GuidanceItem
  accepted : List GuidanceItem
deriving DecidableEq

namespace GuidedTurn

/-- A turn whose control has just been made. -/
def create (sessionId : String) : GuidedTurn where
  sessionId := sessionId
  stage := .queued
  guidance := []
  stopRequested := false
  working := []
  sent := []
  reported := []
  accepted := []

variable (turn : GuidedTurn)

/-- `send_guidance` after its checks, up to the publication. -/
def append (item : GuidanceItem) : GuidedTurn :=
  { turn with
    guidance := turn.guidance ++ [item]
    accepted := turn.accepted ++ [item] }

/-- `_apply_turn_control`; the loop ends when it says so. -/
def applyTurnControl : GuidedTurn :=
  if turn.stopRequested then
    { turn with stage := .replied }
  else
    { turn with
      guidance := []
      working := turn.working ++ turn.guidance.filter fun item => strip item.text ≠ "" }

/-- `deliver` reads the queue after the reply was published. -/
def readPending : GuidedTurn :=
  { turn with stage := .publishingEnd turn.guidance }

/-- The `guidance.pending` event is published. -/
def report (pending : List GuidanceItem) : GuidedTurn :=
  { turn with reported := turn.reported ++ pending, stage := .finished }

end GuidedTurn

/-! ## The coordinator -/

/-- `WebSessionCoordinator`, with the turns it has controls for or had. -/
structure GuidedSessions where
  /-- the turn whose control a session has -/
  controls : Dict String Nat
  turns : Dict Nat GuidedTurn
  dispatched : Nat
  acceptances : Nat

namespace GuidedSessions

/-- A coordinator without turns. -/
def create : GuidedSessions where
  controls := Dict.empty
  turns := Dict.empty
  dispatched := 0
  acceptances := 0

/-- What can happen next; a turn is known by its number. -/
inductive Event where
  | dispatch (sessionId : String)
  | sendGuidance (sessionId : String) (content : String)
  | stop (sessionId : String)
  | start (serial : Nat)
  | applyTurnControl (serial : Nat)
  /-- the loop calls the model with its working messages -/
  | complete (serial : Nat)
  /-- the loop ends anywhere else -/
  | leave (serial : Nat)
  | deliver (serial : Nat)
  | replyPublished (serial : Nat)
  | endPublished (serial : Nat)
  | pendingPublished (serial : Nat)
  /-- the delivery is cancelled at one of its awaits -/
  | cutDelivery (serial : Nat)
  /-- the turn is cancelled by the close of the gateway -/
  | cancelTurn (serial : Nat)
deriving DecidableEq

/-- The turn that an event is a step of. -/
def Event.turn : Event → Option Nat
  | .start serial | .applyTurnControl serial | .complete serial
  | .leave serial | .deliver serial | .replyPublished serial
  | .endPublished serial | .pendingPublished serial
  | .cutDelivery serial | .cancelTurn serial => some serial
  | .dispatch _ | .sendGuidance _ _ | .stop _ => none

/-- Store a turn. -/
def set (state : GuidedSessions) (serial : Nat) (turn : GuidedTurn) :
    GuidedSessions :=
  { state with turns := state.turns.insert serial turn }

/-- `controls.pop`. -/
def popControl (state : GuidedSessions) (sessionId : String) :
    GuidedSessions :=
  { state with controls := state.controls.erase sessionId }

/-- `send_guidance` up to its publication; an error changes nothing. -/
def sendGuidance (state : GuidedSessions) (sessionId content : String) :
    GuidedSessions :=
  match state.controls.get? sessionId with
  | none => state
  | some serial =>
    if strip content = "" then
      state
    else
      match state.turns.get? serial with
      | none => state
      | some turn =>
        { state with acceptances := state.acceptances + 1 }.set serial
          (turn.append ⟨state.acceptances, strip content⟩)

/-- `stop` up to its publication. -/
def stop (state : GuidedSessions) (sessionId : String) : GuidedSessions :=
  match state.controls.get? sessionId with
  | none => state
  | some serial =>
    match state.turns.get? serial with
    | none => state
    | some turn => state.set serial { turn with stopRequested := true }

/-- `deliver` after its terminal event was published. -/
def endPublished (state : GuidedSessions) (serial : Nat)
    (turn : GuidedTurn) (pending : List GuidanceItem) : GuidedSessions :=
  if pending = [] then
    (state.set serial { turn with stage := .finished }).popControl
      turn.sessionId
  else
    state.set serial { turn with stage := .publishingPending pending }

/-- A step of one turn. -/
def turnStep (state : GuidedSessions) (serial : Nat) (turn : GuidedTurn) :
    Event → Option GuidedSessions
  | .start _ =>
    if turn.stage = .queued then
      some (state.set serial { turn with stage := .looping })
    else
      none
  | .applyTurnControl _ =>
    if turn.stage = .looping then
      some (state.set serial turn.applyTurnControl)
    else
      none
  | .complete _ =>
    if turn.stage = .looping then
      some (state.set serial { turn with sent := turn.working })
    else
      none
  | .leave _ =>
    if turn.stage = .looping then
      some (state.set serial { turn with stage := .replied })
    else
      none
  | .deliver _ =>
    if turn.stage = .replied ∧
        state.controls.get? turn.sessionId = some serial then
      some (state.set serial { turn with stage := .publishingReply })
    else
      none
  | .replyPublished _ =>
    if turn.stage = .publishingReply then
      some (state.set serial turn.readPending)
    else
      none
  | .endPublished _ =>
    match turn.stage with
    | .publishingEnd pending =>
      some (state.endPublished serial turn pending)
    | _ => none
  | .pendingPublished _ =>
    match turn.stage with
    | .publishingPending pending =>
      some ((state.set serial (turn.report pending)).popControl turn.sessionId)
    | _ => none
  | .cutDelivery _ =>
    match turn.stage with
    | .publishingReply | .publishingEnd _ | .publishingPending _ =>
      some (state.set serial { turn with stage := .cutShort })
    | _ => none
  | .cancelTurn _ =>
    if turn.stage = .queued ∨ turn.stage = .looping then
      some (state.set serial { turn with stage := .cutShort })
    else
      none
  | _ => none

/--
One event.  The turn coordinator dispatches a request of a session when the
one before it has been completed, so that the session has no control.
-/
def step (state : GuidedSessions) (event : Event) :
    Option GuidedSessions :=
  match event with
  | .dispatch sessionId =>
    if state.controls.contains sessionId then
      none
    else
      some
        { state with
          controls := state.controls.insert sessionId state.dispatched
          turns := state.turns.insert state.dispatched (.create sessionId)
          dispatched := state.dispatched + 1 }
  | .sendGuidance sessionId content =>
    some (state.sendGuidance sessionId content)
  | .stop sessionId => some (state.stop sessionId)
  | .start serial | .applyTurnControl serial | .complete serial
  | .leave serial | .deliver serial | .replyPublished serial
  | .endPublished serial | .pendingPublished serial
  | .cutDelivery serial | .cancelTurn serial =>
    (state.turns.get? serial).bind fun turn =>
      state.turnStep serial turn event

end GuidedSessions

/-- The coordinator from its start on. -/
def guidanceMachine : Machine GuidedSessions GuidedSessions.Event where
  initial state := state = GuidedSessions.create
  step := GuidedSessions.step

/-! ## Guidance is not lost -/

/-- The turn has come to an end. -/
def GuidedStage.ended : GuidedStage → Bool
  | .finished | .cutShort => true
  | .queued | .looping | .replied | .publishingReply | .publishingEnd _
  | .publishingPending _ => false

/-- The queue of the turn has not been read for the last time. -/
def GuidedStage.open : GuidedStage → Bool
  | .queued | .looping | .replied | .publishingReply => true
  | .publishingEnd _ | .publishingPending _ | .finished | .cutShort => false

/-- How often an item went to the model or was reported. -/
def GuidedTurn.handled (turn : GuidedTurn) (item : GuidanceItem) : Nat :=
  turn.sent.count item + turn.reported.count item

/--
An accepted item never goes to the model or into a report more than once, and
when its turn has ended it has done so exactly once.
-/
structure GuidedTurn.KeepsGuidance (turn : GuidedTurn) : Prop where
  atMostOnce : ∀ item ∈ turn.accepted, turn.handled item ≤ 1
  exactlyOnce : GuidedStage.ended turn.stage = true → ∀ item ∈ turn.accepted, turn.handled item = 1

namespace GuidedSessions

/-- The guidance of every turn is kept. -/
def KeepsGuidance (state : GuidedSessions) : Prop :=
  ∀ serial turn, state.turns.get? serial = some turn → turn.KeepsGuidance

/--
Guidance is accepted while the queue will still be read; the loop ends with
all guidance sent that it has taken; and a turn or a delivery is cut short
with nothing left.
-/
def HandsOver (state : GuidedSessions) : Event → Prop
  | .sendGuidance sessionId _ =>
    ∀ serial ∈ state.controls.get? sessionId, ∀ turn ∈ state.turns.get? serial,
        GuidedStage.open turn.stage = true
  | .applyTurnControl serial =>
    ∀ turn ∈ state.turns.get? serial, turn.stopRequested = true → turn.sent = turn.working
  | .leave serial =>
    ∀ turn ∈ state.turns.get? serial, turn.sent = turn.working
  | .cutDelivery serial =>
    ∀ turn ∈ state.turns.get? serial, turn.guidance = []
  | .cancelTurn serial =>
    ∀ turn ∈ state.turns.get? serial, turn.guidance = [] ∧ turn.sent = turn.working
  | _ => True

instance (state : GuidedSessions) (event : Event) :
    Decidable (state.HandsOver event) :=
  match event with
  | .sendGuidance _ _ => inferInstanceAs (Decidable (∀ _ ∈ _, _))
  | .applyTurnControl _ | .leave _ | .cutDelivery _ | .cancelTurn _ =>
    inferInstanceAs (Decidable (∀ _ ∈ _, _))
  | .dispatch _ | .stop _ | .start _ | .complete _ | .deliver _
  | .replyPublished _ | .endPublished _ | .pendingPublished _ =>
    inferInstanceAs (Decidable True)

end GuidedSessions

/-! ## Invariant of a turn -/

namespace GuidedTurn

/--
Where the accepted items are, in the order of their acceptance: first those
that the loop has taken, then those in the queue.
-/
def Balanced (turn : GuidedTurn) : Prop :=
  match turn.stage with
  | .queued | .looping =>
    turn.accepted = turn.working ++ turn.guidance ∧ turn.sent <+: turn.working ∧ turn.reported = []
  | .replied | .publishingReply =>
    turn.accepted = turn.sent ++ turn.guidance ∧ turn.reported = []
  | .publishingEnd pending | .publishingPending pending =>
    turn.accepted = turn.sent ++ pending ∧ pending = turn.guidance ∧ turn.reported = []
  | .finished => turn.accepted = turn.sent ++ turn.reported
  | .cutShort => turn.accepted = turn.sent ∧ turn.reported = []

/-- What holds of every turn; acceptances are numbered below a bound. -/
structure Sound (turn : GuidedTurn) (acceptances : Nat) : Prop where
  nodup : turn.accepted.Nodup
  numbered : ∀ item ∈ turn.accepted, item.serial < acceptances
  nonblank : ∀ item ∈ turn.accepted, strip item.text ≠ ""
  balanced : turn.Balanced

variable {turn : GuidedTurn} {acceptances : Nat}

theorem count_le_one
    {items : List GuidanceItem} (nodup : items.Nodup)
    (item : GuidanceItem) : items.count item ≤ 1 :=
  List.nodup_iff_count_le_one.mp nodup item

theorem Sound.sublist (sound : turn.Sound acceptances) :
    (turn.sent ++ turn.reported).Sublist turn.accepted := by
  have balanced := sound.balanced
  unfold Balanced at balanced
  cases stage : turn.stage with
  | queued | looping =>
    rw [stage] at balanced
    rcases balanced with ⟨accepted, sent, none⟩
    rw [none, List.append_nil, accepted]
    exact sent.sublist.trans (List.sublist_append_left _ _)
  | replied | publishingReply =>
    rw [stage] at balanced
    rcases balanced with ⟨accepted, none⟩
    rw [none, List.append_nil, accepted]
    exact List.sublist_append_left _ _
  | publishingEnd pending | publishingPending pending =>
    rw [stage] at balanced
    rcases balanced with ⟨accepted, _, none⟩
    rw [none, List.append_nil, accepted]
    exact List.sublist_append_left _ _
  | finished =>
    rw [stage] at balanced
    rw [balanced]
  | cutShort =>
    rw [stage] at balanced
    rcases balanced with ⟨accepted, none⟩
    rw [none, List.append_nil, accepted]

theorem Sound.keepsGuidance (sound : turn.Sound acceptances) :
    turn.KeepsGuidance := by
  constructor
  · intro item _
    unfold handled
    rw [← List.count_append]
    exact (sound.sublist.count_le item).trans (count_le_one sound.nodup item)
  · intro ended item member
    have balanced := sound.balanced
    have same : turn.accepted = turn.sent ++ turn.reported := by
      unfold Balanced at balanced
      cases stage : turn.stage with
      | queued | looping | replied | publishingReply
      | publishingEnd _ | publishingPending _ =>
        rw [stage] at ended
        exact absurd ended Bool.false_ne_true
      | finished =>
        rw [stage] at balanced
        exact balanced
      | cutShort =>
        rw [stage] at balanced
        rw [balanced.1, balanced.2, List.append_nil]
    unfold handled
    rw [← List.count_append, ← same]
    exact List.count_eq_one_of_mem sound.nodup member

theorem create_sound (sessionId : String) (acceptances : Nat) :
    (create sessionId).Sound acceptances where
  nodup := List.nodup_nil
  numbered := nofun
  nonblank := nofun
  balanced := ⟨rfl, List.prefix_rfl, rfl⟩

theorem Sound.mono
    {more : Nat} (sound : turn.Sound acceptances)
    (later : acceptances ≤ more) : turn.Sound more :=
  { sound with
    numbered := fun item member =>
      (sound.numbered item member).trans_le later }

theorem Sound.withBalance
    {target : GuidedTurn} (sound : turn.Sound acceptances)
    (accepted : target.accepted = turn.accepted)
    (balanced : target.Balanced) : target.Sound acceptances where
  nodup := accepted ▸ sound.nodup
  numbered := accepted ▸ sound.numbered
  nonblank := accepted ▸ sound.nonblank
  balanced := balanced

theorem Sound.append (sound : turn.Sound acceptances) {text : String} (nonblank : strip text ≠ "")
    (stillRead : GuidedStage.open turn.stage = true) :
    (turn.append ⟨acceptances, text⟩).Sound (acceptances + 1) where
  nodup := by
    apply List.nodup_append.mpr
    refine ⟨sound.nodup, List.nodup_singleton _, ?_⟩
    intro old member new added
    rw [List.mem_singleton.mp added]
    rintro rfl
    exact absurd (sound.numbered _ member) (Nat.lt_irrefl _)
  numbered := by
    intro item member
    rcases List.mem_append.mp member with old | new
    · exact Nat.lt_succ_of_lt (sound.numbered item old)
    · rw [List.mem_singleton.mp new]
      exact Nat.lt_succ_self _
  nonblank := by
    intro item member
    rcases List.mem_append.mp member with old | new
    · exact sound.nonblank item old
    · rw [List.mem_singleton.mp new]
      exact nonblank
  balanced := by
    have balanced := sound.balanced
    unfold Balanced at balanced ⊢
    cases stage : turn.stage with
    | queued | looping =>
      rw [stage] at balanced
      simp only [GuidedTurn.append, stage]
      refine ⟨?_, balanced.2⟩
      rw [balanced.1, List.append_assoc]
    | replied | publishingReply =>
      rw [stage] at balanced
      simp only [GuidedTurn.append, stage]
      refine ⟨?_, balanced.2⟩
      rw [balanced.1, List.append_assoc]
    | publishingEnd _ | publishingPending _ | finished | cutShort =>
      rw [stage] at stillRead
      exact absurd stillRead Bool.false_ne_true

theorem Sound.applyTurnControl (sound : turn.Sound acceptances) (stage : turn.stage = .looping)
    (hands : turn.stopRequested = true → turn.sent = turn.working) :
    turn.applyTurnControl.Sound acceptances := by
  have balanced := sound.balanced
  unfold Balanced at balanced
  rw [stage] at balanced
  rcases balanced with ⟨accepted, sent, none⟩
  unfold GuidedTurn.applyTurnControl
  split_ifs with stopped
  · apply sound.withBalance
    · rfl
    · refine ⟨?_, none⟩
      rw [hands stopped]
      exact accepted
  · apply sound.withBalance
    · rfl
    · have all : turn.guidance.filter
          (fun item => strip item.text ≠ "") = turn.guidance := by
        rw [List.filter_eq_self]
        intro item member
        apply decide_eq_true
        apply sound.nonblank
        rw [accepted]
        exact List.mem_append_right _ member
      unfold Balanced
      simp only [stage, all, List.append_nil]
      exact ⟨accepted, sent.trans (List.prefix_append _ _), none⟩

end GuidedTurn
namespace GuidedSessions

/-! ## Invariant of the coordinator -/

/-- What holds of every turn that was dispatched. -/
def Sound (state : GuidedSessions) : Prop :=
  ∀ serial turn, state.turns.get? serial = some turn → turn.Sound state.acceptances

variable {state : GuidedSessions}

variable {serial : Nat} {turn : GuidedTurn}

theorem Sound.update (sound : state.Sound) {turns : Dict Nat GuidedTurn}
    {controls : Dict String Nat} {dispatched acceptances : Nat}
    (inserted : turns = state.turns.insert serial turn)
    (later : state.acceptances ≤ acceptances)
    (changed : turn.Sound acceptances) :
    (⟨controls, turns, dispatched, acceptances⟩ : GuidedSessions).Sound := by
  intro other found present
  have lookup : (state.turns.insert serial turn).get? other =
      some found := inserted ▸ present
  rw [Dict.get?_insert] at lookup
  split_ifs at lookup with same
  · rw [← Option.some.inj lookup]
    exact changed
  · exact (sound other found lookup).mono later

theorem Sound.set (sound : state.Sound)
    (changed : turn.Sound state.acceptances) : (state.set serial turn).Sound :=
  sound.update rfl (Nat.le_refl _) changed

theorem Sound.popControl (sound : state.Sound) (sessionId : String) :
    (state.popControl sessionId).Sound := sound

theorem Sound.sendGuidance (sound : state.Sound) {sessionId content : String}
    (hands : state.HandsOver (.sendGuidance sessionId content)) :
    (state.sendGuidance sessionId content).Sound := by
  unfold GuidedSessions.sendGuidance
  split
  · exact sound
  · rename_i serial control
    split_ifs with blank
    · exact sound
    · split
      · exact sound
      · rename_i turn found
        have stillRead := hands serial control turn found
        have nonblank : strip (strip content) ≠ "" := by
          rw [strip_strip]
          exact blank
        apply sound.update rfl (Nat.le_succ _)
        exact (sound serial turn found).append nonblank stillRead

theorem Sound.stop (sound : state.Sound) (sessionId : String) : (state.stop sessionId).Sound := by
  unfold GuidedSessions.stop
  split
  · exact sound
  · split
    · exact sound
    · rename_i serial _ _ turn found
      have before := sound serial turn found
      exact sound.set (before.withBalance rfl before.balanced)

theorem Sound.turnStep (sound : state.Sound)
    (found : state.turns.get? serial = some turn) {event : Event}
    {target : GuidedSessions} (own : Event.turn event = some serial)
    (hands : state.HandsOver event)
    (stepped : state.turnStep serial turn event = some target) :
    target.Sound := by
  have before := sound serial turn found
  have balanced := before.balanced
  unfold GuidedTurn.Balanced at balanced
  cases event with
  | start _ =>
    simp only [GuidedSessions.turnStep, Option.ite_none_right_eq_some, Option.some.injEq] at stepped
    rcases stepped with ⟨stage, rfl⟩
    rw [stage] at balanced
    exact sound.set (before.withBalance rfl balanced)
  | applyTurnControl _ =>
    cases own
    simp only [GuidedSessions.turnStep, Option.ite_none_right_eq_some, Option.some.injEq] at stepped
    rcases stepped with ⟨stage, rfl⟩
    exact sound.set (before.applyTurnControl stage (hands turn found))
  | complete _ =>
    simp only [GuidedSessions.turnStep, Option.ite_none_right_eq_some, Option.some.injEq] at stepped
    rcases stepped with ⟨stage, rfl⟩
    rw [stage] at balanced
    apply sound.set
    apply before.withBalance
    · rfl
    · unfold GuidedTurn.Balanced
      simp only [stage]
      exact ⟨balanced.1, List.prefix_rfl, balanced.2.2⟩
  | leave _ =>
    cases own
    simp only [GuidedSessions.turnStep, Option.ite_none_right_eq_some, Option.some.injEq] at stepped
    rcases stepped with ⟨stage, rfl⟩
    rw [stage] at balanced
    have sent : turn.sent = turn.working := hands turn found
    apply sound.set
    apply before.withBalance
    · rfl
    · refine ⟨?_, balanced.2.2⟩
      rw [sent]
      exact balanced.1
  | deliver _ =>
    simp only [GuidedSessions.turnStep, Option.ite_none_right_eq_some, Option.some.injEq] at stepped
    rcases stepped with ⟨stage, rfl⟩
    rw [stage.1] at balanced
    exact sound.set (before.withBalance rfl balanced)
  | replyPublished _ =>
    simp only [GuidedSessions.turnStep, Option.ite_none_right_eq_some, Option.some.injEq] at stepped
    rcases stepped with ⟨stage, rfl⟩
    rw [stage] at balanced
    apply sound.set
    apply before.withBalance
    · rfl
    · exact ⟨balanced.1, rfl, balanced.2⟩
  | endPublished _ =>
    simp only [GuidedSessions.turnStep] at stepped
    split at stepped
    · rename_i pending stage
      rw [Option.some.injEq] at stepped
      subst target
      rw [stage] at balanced
      unfold GuidedSessions.endPublished
      split_ifs with empty
      · apply Sound.popControl
        apply sound.set
        apply before.withBalance
        · rfl
        · unfold GuidedTurn.Balanced
          dsimp only
          rw [balanced.2.2, balanced.1, empty]
      · exact sound.set (before.withBalance rfl balanced)
    · contradiction
  | pendingPublished _ =>
    simp only [GuidedSessions.turnStep] at stepped
    split at stepped
    · rename_i pending stage
      rw [Option.some.injEq] at stepped
      subst target
      rw [stage] at balanced
      apply Sound.popControl
      apply sound.set
      apply before.withBalance
      · rfl
      · unfold GuidedTurn.Balanced GuidedTurn.report
        dsimp only
        rw [balanced.2.2, balanced.1, List.nil_append]
    · contradiction
  | cutDelivery _ =>
    cases own
    have empty : turn.guidance = [] := hands turn found
    simp only [GuidedSessions.turnStep] at stepped
    have cut (accepted : turn.accepted = turn.sent ++ turn.guidance)
        (none : turn.reported = []) :
        (state.set serial { turn with stage := .cutShort }).Sound := by
      rw [empty, List.append_nil] at accepted
      exact sound.set (before.withBalance rfl ⟨accepted, none⟩)
    split at stepped
    · rename_i stage
      rw [Option.some.injEq] at stepped
      subst target
      rw [stage] at balanced
      exact cut balanced.1 balanced.2
    · rename_i pending stage
      rw [Option.some.injEq] at stepped
      subst target
      rw [stage] at balanced
      exact cut (balanced.2.1 ▸ balanced.1) balanced.2.2
    · rename_i pending stage
      rw [Option.some.injEq] at stepped
      subst target
      rw [stage] at balanced
      exact cut (balanced.2.1 ▸ balanced.1) balanced.2.2
    · contradiction
  | cancelTurn _ =>
    cases own
    rcases hands turn found with ⟨empty, sent⟩
    simp only [GuidedSessions.turnStep, Option.ite_none_right_eq_some, Option.some.injEq] at stepped
    rcases stepped with ⟨stage, rfl⟩
    have cut (accepted : turn.accepted = turn.working ++ turn.guidance)
        (none : turn.reported = []) :
        (state.set serial { turn with stage := .cutShort }).Sound := by
      rw [empty, List.append_nil, ← sent] at accepted
      exact sound.set (before.withBalance rfl ⟨accepted, none⟩)
    rcases stage with stage | stage
    · rw [stage] at balanced
      exact cut balanced.1 balanced.2.2
    · rw [stage] at balanced
      exact cut balanced.1 balanced.2.2
  | dispatch _ => exact absurd stepped (by rintro ⟨⟩)
  | sendGuidance _ _ => exact absurd stepped (by rintro ⟨⟩)
  | stop _ => exact absurd stepped (by rintro ⟨⟩)

theorem step_sound
    {event : Event} {target : GuidedSessions} (sound : state.Sound)
    (hands : state.HandsOver event)
    (stepped : state.step event = some target) : target.Sound := by
  have ofTurn {serial : Nat} (own : Event.turn event = some serial)
      (moved : ((state.turns.get? serial).bind fun turn =>
        state.turnStep serial turn event) = some target) :
      target.Sound := by
    rcases Option.bind_eq_some_iff.mp moved with ⟨turn, found, taken⟩
    exact sound.turnStep found own hands taken
  cases event with
  | dispatch sessionId =>
    simp only [step, Option.ite_none_left_eq_some, Option.some.injEq] at stepped
    rcases stepped with ⟨_, rfl⟩
    exact sound.update rfl (Nat.le_refl _) (GuidedTurn.create_sound sessionId _)
  | sendGuidance sessionId content =>
    simp only [step, Option.some.injEq] at stepped
    exact stepped ▸ sound.sendGuidance hands
  | stop sessionId =>
    simp only [step, Option.some.injEq] at stepped
    exact stepped ▸ sound.stop sessionId
  | start _ => exact ofTurn rfl stepped
  | applyTurnControl _ => exact ofTurn rfl stepped
  | complete _ => exact ofTurn rfl stepped
  | leave _ => exact ofTurn rfl stepped
  | deliver _ => exact ofTurn rfl stepped
  | replyPublished _ => exact ofTurn rfl stepped
  | endPublished _ => exact ofTurn rfl stepped
  | pendingPublished _ => exact ofTurn rfl stepped
  | cutDelivery _ => exact ofTurn rfl stepped
  | cancelTurn _ => exact ofTurn rfl stepped

/--
In every run in which guidance is accepted only while the queue will still be
read, and in which no turn ends with guidance that it has taken but not sent
or is cut short with guidance left, an accepted item is never handled twice,
and has been handled exactly once when its turn has ended.
-/
theorem guidanceRuns_keepGuidance (reached : guidanceMachine.Reaches HandsOver state) :
    state.KeepsGuidance := by
  have sound : state.Sound := by
    refine reached.invariant ?_ ?_
    · rintro _ rfl
      exact fun _ _ found => absurd found nofun
    · intro _ _ _ _ before hands stepped
      exact step_sound before hands stepped
  exact fun serial turn found => (sound serial turn found).keepsGuidance

/-- One item goes to the model, and one that comes after it is reported. -/
def turnWithGuidance : List Event :=
  [.dispatch "session", .start 0, .sendGuidance "session" "first",
    .applyTurnControl 0, .complete 0, .leave 0,
    .sendGuidance "session" "second", .deliver 0, .replyPublished 0,
    .endPublished 0, .pendingPublished 0]

/-- Both items of the turn are kept. -/
theorem guidance_sent_and_reported : ∃ state turn,
      guidanceMachine.runGuarded HandsOver create turnWithGuidance = some state ∧
        state.turns.get? 0 = some turn ∧
        turn.sent = [⟨0, "first"⟩] ∧ turn.reported = [⟨1, "second"⟩] ∧
        state.KeepsGuidance := by
  have keeps {state : GuidedSessions}
      (evaluated : guidanceMachine.runGuarded HandsOver create turnWithGuidance =
          some state) : state.KeepsGuidance :=
    guidanceRuns_keepGuidance (Machine.Reaches.runGuarded (.start rfl) evaluated)
  exact ⟨_, _, rfl, rfl, rfl, rfl, keeps rfl⟩

/-- The turn of a session up to the publication of its terminal event. -/
def turnUntilEnd : List Event := [.dispatch "session", .start 0, .applyTurnControl 0, .complete 0,
    .leave 0, .deliver 0, .replyPublished 0]

/-- The item is accepted and neither sent nor reported. -/
theorem late_guidance_is_lost : ∃ state turn, guidanceMachine.run create (turnUntilEnd ++
            [.sendGuidance "session" "shorter", .endPublished 0]) =
          some state ∧
        state.turns.get? 0 = some turn ∧ turn.stage = .finished ∧
        turn.accepted = [⟨0, "shorter"⟩] ∧
        turn.sent = [] ∧ turn.reported = [] ∧
        ¬ state.KeepsGuidance := by
  refine ⟨_, _, rfl, rfl, rfl, rfl, rfl, rfl, ?_⟩
  intro keeps
  have once := (keeps 0 _ rfl).exactlyOnce rfl ⟨0, "shorter"⟩
    List.mem_cons_self
  exact absurd once (by decide)

end GuidedSessions
end TurningGood.Web
