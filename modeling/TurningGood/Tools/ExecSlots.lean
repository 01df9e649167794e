import Mathlib.Data.List.Perm.Subperm
import Mathlib.Data.List.Nodup
import TurningGood.Tools.ExecMoves

/-!
# Slots of background commands

The limit of the manager counts sessions, not processes.  A session is removed
behind a poll that has seen the exit of its process, and by nothing else: so a
`start` at the limit is refused rightly as long as every process that has
exited was polled before it, and a `start` that raises leaves a session whose
id nobody knows.
-/

namespace TurningGood.Tools

open TurningGood.Foundation

namespace ExecSessionManager

/-- A call of `start` has returned the id of a session. -/
def IdReturned (manager : ExecSessionManager) (sessionId : Nat) : Prop :=
  ∃ call ∈ manager.calls, call.starts = true ∧ ∃ poll, call.point = .returned sessionId poll

/-- The call of `start` that made a session still runs. -/
def StartUnderWay (manager : ExecSessionManager) (sessionId : Nat) : Prop :=
  ∃ call ∈ manager.calls, call.starts = true ∧
    call.point.over = false ∧ call.point.polled? = some sessionId

/--
No slot is leaked: a refused `start` has met as many running processes as
there may be, and the id of each session that is kept was returned, or is yet
to be returned.
-/
structure SlotsKept (maxSessions : Nat) (manager : ExecSessionManager) :
    Prop where
  refused : ∀ call ∈ manager.calls, ∀ running, call.point = .refused running → maxSessions ≤ running
  returned : ∀ sessionId ∈ manager.sessions,
    manager.IdReturned sessionId ∨ manager.StartUnderWay sessionId

/--
A `start` comes to the limit only when the processes of all sessions run, and
raises behind the start of its process only when its session was removed.
-/
def Collected (maxSessions : Nat) (manager : ExecSessionManager) : ExecLabel → Prop
  | .goOn index _ =>
    ∀ call, manager.calls[index]? = some call → call.point = .entering →
      maxSessions ≤ manager.sessions.length →
        ∀ sessionId ∈ manager.sessions, manager.running sessionId = true
  | .fails index | .cancel index =>
    ∀ call, manager.calls[index]? = some call →
      ∀ sessionId, call.started? = some sessionId → sessionId ∉ manager.sessions
  | _ => True

instance (maxSessions : Nat) (manager : ExecSessionManager)
    (label : ExecLabel) : Decidable (manager.Collected maxSessions label) :=
  match label with
  | .goOn index _ =>
    inferInstanceAs <| Decidable <| ∀ call ∈ manager.calls[index]?, call.point = .entering →
        maxSessions ≤ manager.sessions.length →
          ∀ sessionId ∈ manager.sessions, manager.running sessionId = true
  | .fails index | .cancel index =>
    inferInstanceAs <| Decidable <| ∀ call ∈ manager.calls[index]?, ∀ sessionId ∈ call.started?,
        sessionId ∉ manager.sessions
  | .start _ | .write _ _ _ _ | .exits _ _ => .isTrue trivial

end ExecSessionManager

namespace ExecSessionManager

variable {maxSessions : Nat} {before after manager : ExecSessionManager}

variable {sessionId index : Nat} {call target : ExecCall} {point : ExecPoint}

theorem mem_runningIds :
    sessionId ∈ manager.runningIds ↔ manager.running sessionId = true := by
  rw [runningIds, List.mem_filter, List.mem_range]
  constructor
  · exact And.right
  · intro runs
    rcases present_of_running runs with ⟨session, made, -⟩
    exact ⟨lt_of_present made, runs⟩

theorem length_le_of_running (nodup : manager.sessions.Nodup)
    (all : ∀ sessionId ∈ manager.sessions, manager.running sessionId = true) :
    manager.sessions.length ≤ manager.runningIds.length := by
  apply (nodup.subperm _).length_le
  intro sessionId member
  exact mem_runningIds.mpr (all sessionId member)

theorem Sound.running_lt (sound : manager.Sound maxSessions) (member : sessionId ∈ manager.sessions)
    (exited : manager.running sessionId = false) :
    manager.runningIds.length < manager.sessions.length := by
  have distinct : manager.runningIds.Nodup := List.nodup_range.filter _
  have others : manager.runningIds ⊆ manager.sessions.erase sessionId := by
    intro other listed
    have runs := mem_runningIds.mp listed
    apply (List.mem_erase_of_ne _).mpr (sound.held other runs)
    rintro rfl
    rw [exited] at runs
    cases runs
  have fewer := (distinct.subperm others).length_le
  rw [List.length_erase_of_mem member] at fewer
  have present := List.length_pos_of_mem member
  omega

/-! ## Sessions and their calls -/

/-- One of the calls of `start` has made a session, and has not raised. -/
def Owned (calls : List ExecCall) (sessionId : Nat) : Prop := ∃ (position : Nat) (call : ExecCall),
    calls[position]? = some call ∧ call.started? = some sessionId

theorem owned_iff : Owned manager.calls sessionId ↔
      manager.IdReturned sessionId ∨ manager.StartUnderWay sessionId := by
  constructor
  · rintro ⟨position, call, present, started⟩
    have member := List.mem_of_getElem? present
    unfold ExecCall.started? at started
    split_ifs at started with starts
    cases here : call.point with
    | returned other poll =>
      rw [here] at started
      cases started
      exact .inl ⟨call, member, starts, poll, here⟩
    | sleeping _ _ | killing _ _ | draining _ _ | removing _ _ =>
      refine .inr ⟨call, member, starts, ?_, started⟩
      rw [here]
      rfl
    | _ =>
      rw [here] at started
      cases started
  · rintro (⟨call, member, starts, poll, here⟩ | ⟨call, member, starts, -, polled⟩)
    · rcases List.mem_iff_getElem?.mp member with ⟨position, present⟩
      refine ⟨position, call, present, ?_⟩
      rw [ExecCall.started?, starts, here]
      rfl
    · rcases List.mem_iff_getElem?.mp member with ⟨position, present⟩
      refine ⟨position, call, present, ?_⟩
      rw [ExecCall.started?, starts]
      exact polled

theorem Owned.set {calls : List ExecCall} (owned : Owned calls sessionId)
    (present : calls[index]? = some call)
    (keeps : call.started? = some sessionId → target.started? = some sessionId) :
    Owned (calls.set index target) sessionId := by
  rcases owned with ⟨position, other, there, started⟩
  by_cases same : index = position
  · subst same
    rw [present] at there
    cases there
    obtain ⟨inside, -⟩ := List.getElem?_eq_some_iff.mp present
    exact ⟨index, target, List.getElem?_set_self inside, keeps started⟩
  · exact ⟨position, other, (List.getElem?_set_ne same).trans there, started⟩

/-- A refused call has met enough running processes. -/
def RefusedRightly (maxSessions : Nat) (call : ExecCall) : Prop :=
  ∀ running, call.point = .refused running → maxSessions ≤ running

theorem RefusedRightly.of_not (elsewhere : ∀ running, call.point ≠ .refused running) :
    RefusedRightly maxSessions call :=
  fun running here => absurd here (elsewhere running)

theorem RefusedRightly.set {calls : List ExecCall}
    (all : ∀ call ∈ calls, RefusedRightly maxSessions call)
    (one : RefusedRightly maxSessions target) :
    ∀ call ∈ calls.set index target, RefusedRightly maxSessions call := by
  intro call member
  rcases List.mem_or_eq_of_mem_set member with old | rfl
  · exact all call old
  · exact one

theorem slotsKept_iff : SlotsKept maxSessions manager ↔
      (∀ call ∈ manager.calls, RefusedRightly maxSessions call) ∧
        ∀ sessionId ∈ manager.sessions, Owned manager.calls sessionId := by
  constructor
  · intro kept
    exact ⟨kept.refused, fun sessionId member =>
      owned_iff.mpr (kept.returned sessionId member)⟩
  · rintro ⟨refused, owned⟩
    exact ⟨refused, fun sessionId member =>
      owned_iff.mp (owned sessionId member)⟩

theorem Polled.rightly (polled : before.Polled index call sessionId point after) :
    RefusedRightly maxSessions { call with point } := by
  intro running here
  replace here : point = .refused running := here
  have same := polled.polled
  rw [here] at same
  cases same

theorem Polled.started (polled : before.Polled index call sessionId point after)
    (starts : call.starts = true) :
    ({ call with point } : ExecCall).started? = some sessionId := by
  rw [ExecCall.started?]
  exact (if_pos starts).trans polled.polled

theorem Polled.mem (polled : before.Polled index call sessionId point after)
    {other : Nat} (member : other ∈ after.sessions) :
    other ∈ before.sessions := by
  rcases polled.sessions with same | ⟨erased, -⟩
  · exact same ▸ member
  · exact List.mem_of_mem_erase (erased ▸ member)

theorem SlotsKept.move (kept : SlotsKept maxSessions before)
    (sound : before.Sound maxSessions) {label : ExecLabel}
    (collected : Collected maxSessions before label)
    (moved : Move maxSessions before label after) :
    SlotsKept maxSessions after := by
  rw [slotsKept_iff] at kept ⊢
  rcases kept with ⟨refused, owned⟩
  cases moved with
  | begins call point =>
    constructor
    · intro other member
      rcases List.mem_append.mp member with old | new
      · exact refused other old
      · rw [List.mem_singleton.mp new]
        apply RefusedRightly.of_not
        intro running here
        rcases point with ⟨entering, -⟩ | ⟨writes, -⟩
        · rw [here] at entering
          cases entering
        · rw [here] at writes
          cases writes
    · intro sessionId member
      rcases owned sessionId member with ⟨position, other, there, started⟩
      obtain ⟨inside, -⟩ := List.getElem?_eq_some_iff.mp there
      exact ⟨position, other, (List.getElem?_append_left inside).trans there, started⟩
  | exits sessionId code session present => exact ⟨refused, owned⟩
  | refuses index passed call present entering full =>
    have all := collected call present entering full
    have enough := length_le_of_running sound.nodup all
    constructor
    · apply RefusedRightly.set refused
      intro running here
      cases here
      exact Nat.le_trans full enough
    · intro sessionId member
      apply (owned sessionId member).set present
      intro started
      rw [started?_of_point (by rw [entering]; rfl)] at started
      cases started
  | locks index call present entering room =>
    constructor
    · exact RefusedRightly.set refused (.of_not (by rintro _ ⟨⟩))
    · intro sessionId member
      apply (owned sessionId member).set present
      intro started
      rw [started?_of_point (by rw [entering]; rfl)] at started
      cases started
  | writes index call point present here there =>
    have older := sound.calls call (List.mem_of_getElem? present)
    constructor
    · apply RefusedRightly.set refused
      apply RefusedRightly.of_not
      rintro running same
      replace same : point = .refused running := same
      rw [same] at there
      rcases there with writes | raised
      · cases writes
      · cases raised
    · intro sessionId member
      apply (owned sessionId member).set present
      intro started
      rw [ExecCall.started?, older.kind here] at started
      cases started
  | registers index call point after present spawning holds polled =>
    have older := sound.calls call (List.mem_of_getElem? present)
    have starts := older.starter (by rw [spawning]; rfl)
    have now := polled.started starts
    rw [polled.calls]
    constructor
    · exact RefusedRightly.set refused polled.rightly
    · intro sessionId member
      rcases List.mem_append.mp (polled.mem member) with old | new
      · apply (owned sessionId old).set present
        intro started
        rw [started?_of_point (by rw [spawning]; rfl)] at started
        cases started
      · rw [List.mem_singleton.mp new]
        obtain ⟨inside, -⟩ := List.getElem?_eq_some_iff.mp present
        exact ⟨index, _, List.getElem?_set_self inside, now⟩
  | polls index call sessionId point after present known own polled =>
    have older := sound.calls call (List.mem_of_getElem? present)
    rw [polled.calls]
    constructor
    · exact RefusedRightly.set refused polled.rightly
    · intro other member
      apply (owned other (polled.mem member)).set present
      intro started
      unfold ExecCall.started? at started
      split_ifs at started with starts
      rcases own with writes | here
      · rw [older.kind writes] at starts
        cases starts
      · rw [here] at started
        cases started
        exact polled.started starts
  | raises index call interrupts present =>
    have outside : ∀ sessionId, call.started? = some sessionId →
        sessionId ∉ before.sessions := by
      rcases interrupts with rfl | rfl
      · exact collected call present
      · exact collected call present
    constructor
    · exact RefusedRightly.set refused (.of_not (by rintro _ ⟨⟩))
    · intro sessionId member
      apply (owned sessionId member).set present
      intro started
      exact absurd member (outside sessionId started)

theorem Sound.not_owned (sound : before.Sound maxSessions)
    (present : before.calls[index]? = some call)
    (started : call.started? = some sessionId)
    (unstarted : target.started? = none) :
    ¬ Owned (before.calls.set index target) sessionId := by
  rintro ⟨position, other, there, also_⟩
  by_cases same : index = position
  · subst same
    rw [List.getElem?_set_self'] at there
    rcases Option.map_eq_some_iff.mp there with ⟨_, -, rfl⟩
    rw [Function.const_apply, unstarted] at also_
    cases also_
  · rw [List.getElem?_set_ne same] at there
    exact same (sound.oneEach index position call other sessionId present there started also_)

theorem Sound.breaks (sound : before.Sound maxSessions) {label : ExecLabel}
    (stepped : before.step maxSessions label = some after)
    (uncollected : ¬ Collected maxSessions before label) :
    ¬ SlotsKept maxSessions after := by
  rw [slotsKept_iff]
  rintro ⟨refused, owned⟩
  apply uncollected
  have raised : ∀ {index : Nat} {call : ExecCall},
      before.calls[index]? = some call → after = before.raise index call →
        ∀ sessionId, call.started? = some sessionId →
          sessionId ∉ before.sessions := by
    rintro index call present rfl sessionId started member
    exact sound.not_owned present started (started?_of_point rfl) (owned sessionId member)
  cases label with
  | start waits => exact trivial
  | write sessionId chars terminate waits => exact trivial
  | exits sessionId code => exact trivial
  | goOn index passed =>
    intro call present entering full sessionId member
    rcases Option.bind_eq_some_iff.mp stepped with ⟨other, there, went⟩
    rw [present] at there
    cases there
    rw [proceed, entering] at went
    dsimp only at went
    split_ifs at went
    cases went
    obtain ⟨inside, -⟩ := List.getElem?_eq_some_iff.mp present
    have enough := refused _
      (List.mem_of_getElem? (List.getElem?_set_self inside)) _ rfl
    by_contra exited
    rw [Bool.not_eq_true] at exited
    have fewer := sound.running_lt member exited
    have size := sound.size
    omega
  | fails index =>
    intro call present
    rcases Option.bind_eq_some_iff.mp stepped with ⟨other, there, went⟩
    rw [present] at there
    cases there
    split_ifs at went
    cases went
    exact raised present rfl
  | cancel index =>
    intro call present
    rcases Option.bind_eq_some_iff.mp stepped with ⟨other, there, went⟩
    rw [present] at there
    cases there
    split_ifs at went
    cases went
    exact raised present rfl

end ExecSessionManager

/--
No slot is leaked in a run in which each `start` at the limit meets only
sessions of running processes, and no `start` raises while its session is
kept; the first step that is not so leaks one.
-/
theorem execSlots_kept (maxSessions : Nat) : (∀ manager, (execSessions maxSessions).Reaches
          (ExecSessionManager.Collected maxSessions) manager →
        manager.SlotsKept maxSessions) ∧
    ∀ manager label target, (execSessions maxSessions).Reachable manager →
        (execSessions maxSessions).step manager label = some target →
          ¬ manager.Collected maxSessions label → ¬ target.SlotsKept maxSessions := by
  constructor
  · intro manager reached
    apply Machine.Reaches.invariant _ _ reached
    · rintro _ rfl
      exact ⟨(fun _ member => nomatch member), fun _ member => nomatch member⟩
    · intro before label after earlier kept collected stepped
      have sound :=
        ExecSessionManager.sound_of_reachable earlier.reachable
      exact kept.move sound collected (sound.move_of_step stepped)
  · intro manager label target reached stepped uncollected
    exact (ExecSessionManager.sound_of_reachable reached).breaks stepped uncollected

/-- A background command starts, and its first poll does not wait. -/
def startedAt (index : Nat) : List ExecLabel := [.start false, .goOn index false, .goOn index false]

/-- A poll sees an exit, and the slot is free for another command. -/
theorem execSlots_kept_polled : ∃ manager,
      (execSessions 8).Reaches (ExecSessionManager.Collected 8) manager ∧
        manager.sessions = [0, 1, 2, 4, 5, 6, 7, 8] ∧
        manager.SlotsKept 8 := by
  have evaluated :
      (execSessions 8).runGuarded (ExecSessionManager.Collected 8) {}
        ((List.range 8).flatMap startedAt ++ [.exits 3 0, .write 3 false false false, .goOn 8 false,
            .goOn 8 false] ++ startedAt 9) = some _ := rfl
  have reached := Machine.Reaches.runGuarded (.start rfl) evaluated
  exact ⟨_, reached, rfl, (execSlots_kept 8).1 _ reached⟩

/--
Eight commands run and one of them exits: a ninth is refused next to seven.
A `start` that is cancelled while it polls leaves a session that nobody knows.
-/
theorem execSlots_leaked : (∃ manager, (execSessions 8).Reachable manager ∧
      (∃ call ∈ manager.calls, call.point = .refused 7) ∧
      ¬ manager.SlotsKept 8) ∧
    ∃ manager, (execSessions 8).Reachable manager ∧ 0 ∈ manager.sessions ∧ ¬ manager.IdReturned 0 ∧
      ¬ manager.SlotsKept 8 := by
  constructor
  · have evaluated :
        (execSessions 8).run {} ((List.range 8).flatMap startedAt ++
            [.exits 3 0, .start false, .goOn 8 false]) = some _ := rfl
    refine ⟨_, .run (.start rfl) evaluated,
      ⟨⟨true, false, .refused 7⟩, by decide, rfl⟩, ?_⟩
    intro kept
    have enough := kept.refused ⟨true, false, .refused 7⟩ (by decide) 7 rfl
    exact absurd enough (by decide)
  · have evaluated :
        (execSessions 8).run {} [.start true, .goOn 0 false, .goOn 0 false, .cancel 0] =
            some _ := rfl
    have unreturned : ¬ ExecSessionManager.IdReturned
        { created := [{}], sessions := [0], lock := none
          calls := [⟨true, true, .raised⟩] } 0 := by
      rintro ⟨call, member, -, poll, here⟩
      rw [List.mem_singleton.mp member] at here
      cases here
    refine ⟨_, .run (.start rfl) evaluated, by decide, unreturned, ?_⟩
    intro kept
    rcases kept.returned 0 (by decide) with returned | underWay
    · exact unreturned returned
    · rcases underWay with ⟨call, member, -, running, -⟩
      rw [List.mem_singleton.mp member] at running
      cases running

end TurningGood.Tools
