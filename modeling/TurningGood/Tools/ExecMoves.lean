import Mathlib.Data.List.Nodup
import TurningGood.Tools.ExecSessions

/-!
# What the calls of the manager do

One step of a call takes the lock, keeps a session, removes one or only goes
on.  In every run there is room for the session of a process that is being
started, and a process that runs has its session.
-/

namespace TurningGood.Tools

open TurningGood.Foundation

/-! ## Steps -/

/-- A point of a call of `write` only. -/
def ExecPoint.writes : ExecPoint → Bool
  | .looking _ _ _ | .writing _ _ | .terminating _ => true
  | _ => false

/-- A point of a call of `start` only. -/
def ExecPoint.begins : ExecPoint → Bool
  | .entering | .spawning => true
  | _ => false

namespace ExecSessionManager

variable {maxSessions : Nat} {before after manager : ExecSessionManager}

variable {sessionId index : Nat} {session : ExecSession} {label : ExecLabel}
  {call : ExecCall} {passed : Bool}

/-- What one step does. -/
inductive Move (maxSessions : Nat) (before : ExecSessionManager) :
    ExecLabel → ExecSessionManager → Prop where
  | begins {label : ExecLabel} (call : ExecCall)
      (point : call.point = .entering ∧ call.starts = true ∨
        call.point.writes = true ∧ call.starts = false) :
      Move maxSessions before label
        { before with calls := before.calls ++ [call] }
  | exits {label : ExecLabel} (sessionId : Nat) (code : Int)
      (session : ExecSession)
      (present : before.created[sessionId]? = some session) :
      Move maxSessions before label
        { before with
          created := before.created.set sessionId
              { session with returncode := some code } }
  | refuses (index : Nat) (passed : Bool) (call : ExecCall)
      (present : before.calls[index]? = some call)
      (entering : call.point = .entering)
      (full : maxSessions ≤ before.sessions.length) :
      Move maxSessions before (.goOn index passed)
        (before.put index call (.refused before.runningIds.length))
  | locks {label : ExecLabel} (index : Nat) (call : ExecCall)
      (present : before.calls[index]? = some call)
      (entering : call.point = .entering)
      (room : before.sessions.length < maxSessions) :
      Move maxSessions before label
        { before.put index call .spawning with lock := some index }
  | writes {label : ExecLabel} (index : Nat) (call : ExecCall)
      (point : ExecPoint)
      (present : before.calls[index]? = some call)
      (here : call.point.writes = true)
      (there : point.writes = true ∨ point = .raised) :
      Move maxSessions before label (before.put index call point)
  | registers {label : ExecLabel} (index : Nat) (call : ExecCall)
      (point : ExecPoint) (after : ExecSessionManager)
      (present : before.calls[index]? = some call)
      (spawning : call.point = .spawning)
      (holds : before.lock = some index)
      (polled : before.register.Polled index call before.created.length point after) :
      Move maxSessions before label after
  | polls {label : ExecLabel} (index : Nat) (call : ExecCall)
      (sessionId : Nat) (point : ExecPoint) (after : ExecSessionManager)
      (present : before.calls[index]? = some call)
      (known : sessionId < before.created.length)
      (own : call.point.writes = true ∨ call.point.polled? = some sessionId)
      (polled : before.Polled index call sessionId point after) :
      Move maxSessions before label after
  | raises {label : ExecLabel} (index : Nat) (call : ExecCall)
      (interrupts : label = .fails index ∨ label = .cancel index)
      (present : before.calls[index]? = some call) :
      Move maxSessions before label (before.raise index call)

theorem lt_of_present (present : manager.created[sessionId]? = some session) :
    sessionId < manager.created.length :=
  (List.getElem?_eq_some_iff.mp present).1

theorem present_of_running (runs : manager.running sessionId = true) :
    ∃ session, manager.created[sessionId]? = some session ∧
      session.running = true := by
  cases made : manager.created[sessionId]? with
  | none =>
    rw [running, made] at runs
    cases runs
  | some session =>
    rw [running_of_getElem? made] at runs
    exact ⟨session, rfl, runs⟩

theorem afterInput_move (present : before.calls[index]? = some call)
    (here : call.point.writes = true)
    (made : before.created[sessionId]? = some session) (terminate : Bool) :
    Move maxSessions before label
      (before.afterInput index call sessionId session passed terminate) := by
  rcases @afterInput_cases before index call sessionId session passed made
    terminate with kills | ⟨point, polled⟩
  · rw [kills]
    exact .writes index call _ present here (.inl rfl)
  · exact .polls index call sessionId point _ present (lt_of_present made) (.inl here) polled

theorem found_move (present : before.calls[index]? = some call) (here : call.point.writes = true)
    (made : before.created[sessionId]? = some session)
    (chars terminate : Bool) :
    Move maxSessions before label
      (before.found index call sessionId session passed chars terminate) := by
  unfold found
  split_ifs with given runs
  · exact .writes index call _ present here (.inl rfl)
  · exact .writes index call _ present here (.inr rfl)
  · exact afterInput_move present here made terminate

theorem entering_move (present : before.calls[index]? = some call)
    (entering : call.point = .entering)
    (went : before.proceed maxSessions index passed call = some after) :
    Move maxSessions before (.goOn index passed) after := by
  rw [proceed, entering] at went
  dsimp only at went
  split_ifs at went with locked full
  · cases went
    exact .refuses index passed call present entering full
  · cases went
    exact .locks index call present entering (Nat.lt_of_not_le full)

theorem proceed_move (present : before.calls[index]? = some call)
    (removing : ∀ sessionId poll, call.point = .removing sessionId poll →
      sessionId < before.created.length ∧ before.running sessionId = false)
    (went : before.proceed maxSessions index passed call = some after) :
    Move maxSessions before (.goOn index passed) after := by
  have stage : ∀ {sessionId : Nat},
      call.point.polled? = some sessionId →
      ∀ {next : ExecSession → ExecSessionManager}, (∀ {session : ExecSession},
          before.created[sessionId]? = some session →
            ∃ point, before.Polled index call sessionId point (next session)) →
        (before.created[sessionId]?).map next = some after →
          Move maxSessions before (.goOn index passed) after := by
    intro sessionId own next polls found
    rcases Option.map_eq_some_iff.mp found with ⟨session, made, rfl⟩
    rcases polls made with ⟨point, polled⟩
    exact .polls index call sessionId point _ present (lt_of_present made) (.inr own) polled
  cases here : call.point with
  | entering => exact entering_move present here went
  | spawning =>
    rw [proceed, here] at went
    dsimp only at went
    split_ifs at went with holds
    cases went
    have made : before.register.created[before.created.length]? =
        some {} := by
      apply List.getElem?_concat_length
    rcases @poll_polled before.register index call before.created.length
      {} false passed made with ⟨point, polled⟩
    exact .registers index call point _ present here holds polled
  | looking sessionId chars terminate =>
    have writes : call.point.writes = true := by
      rw [here]
      rfl
    rw [proceed, here] at went
    dsimp only at went
    split_ifs at went with locked known
    · rcases Option.map_eq_some_iff.mp went with ⟨session, made, rfl⟩
      exact found_move present writes made chars terminate
    · cases went
      exact .writes index call _ present writes (.inr rfl)
  | writing sessionId terminate =>
    have writes : call.point.writes = true := by
      rw [here]
      rfl
    rw [proceed, here] at went
    rcases Option.map_eq_some_iff.mp went with ⟨session, made, rfl⟩
    exact afterInput_move present writes made terminate
  | terminating sessionId =>
    rw [proceed, here] at went
    rcases Option.map_eq_some_iff.mp went with ⟨session, made, rfl⟩
    rcases @poll_polled before index call sessionId session true passed made with ⟨point, polled⟩
    refine .polls index call sessionId point _ present (lt_of_present made) (.inl ?_) polled
    rw [here]
    rfl
  | sleeping sessionId terminated =>
    rw [proceed, here] at went
    exact stage (by rw [here]; rfl) checkDeadline_polled went
  | killing sessionId terminated =>
    rw [proceed, here] at went
    exact stage (by rw [here]; rfl) collect_polled went
  | draining sessionId terminated =>
    rw [proceed, here] at went
    exact stage (by rw [here]; rfl) endPoll_polled went
  | removing sessionId poll =>
    rcases removing sessionId poll here with ⟨known, exited⟩
    rw [proceed, here] at went
    dsimp only at went
    split_ifs at went with locked
    cases went
    rcases @remove_polled before index call sessionId poll exited with ⟨point, polled⟩
    refine .polls index call sessionId point _ present known (.inr ?_) polled
    rw [here]
    rfl
  | returned sessionId poll | refused running | raised =>
    rw [proceed, here] at went
    cases went

/-! ## What every run keeps -/

/-- What holds of each call. -/
structure CallSound (manager : ExecSessionManager) (call : ExecCall) :
    Prop where
  removing : ∀ sessionId poll, call.point = .removing sessionId poll →
    sessionId < manager.created.length ∧ manager.running sessionId = false
  known : ∀ sessionId, call.started? = some sessionId → sessionId < manager.created.length
  kind : call.point.writes = true → call.starts = false
  starter : call.point.begins = true → call.starts = true

/-- Two calls of `start` do not have one session. -/
def OneEach (calls : List ExecCall) : Prop :=
  ∀ (first second : Nat) (call other : ExecCall) (sessionId : Nat),
    calls[first]? = some call → calls[second]? = some other →
      call.started? = some sessionId → other.started? = some sessionId →
        first = second

/--
What every run keeps: there is room behind a lock that is held, and a process
that runs has its session.
-/
structure Sound (maxSessions : Nat) (manager : ExecSessionManager) :
    Prop where
  size : manager.sessions.length ≤ maxSessions
  room : manager.lock.isSome = true → manager.sessions.length < maxSessions
  nodup : manager.sessions.Nodup
  known : ∀ sessionId ∈ manager.sessions, sessionId < manager.created.length
  held : ∀ sessionId, manager.running sessionId = true → sessionId ∈ manager.sessions
  calls : ∀ call ∈ manager.calls, manager.CallSound call
  oneEach : OneEach manager.calls

theorem initial_sound : Sound maxSessions {} where
  size := Nat.zero_le _
  room locked := nomatch locked
  nodup := List.nodup_nil
  known _ member := nomatch member
  held _ runs := nomatch runs
  calls _ member := nomatch member
  oneEach _ _ _ _ _ present := nomatch present

theorem started?_of_point (unpolled : call.point.polled? = none) :
    call.started? = none := by
  unfold ExecCall.started?
  split_ifs
  · exact unpolled
  · rfl

theorem OneEach.set {calls : List ExecCall} (oneEach : OneEach calls)
    (own : ∀ sessionId, call.started? = some sessionId →
      ∀ (position : Nat) (other : ExecCall), index ≠ position →
        calls[position]? = some other → other.started? ≠ some sessionId) :
    OneEach (calls.set index call) := by
  have cases_ : ∀ {position : Nat} {other : ExecCall},
      (calls.set index call)[position]? = some other → position = index ∧ other = call ∨
          index ≠ position ∧ calls[position]? = some other := by
    intro position other present
    by_cases same : index = position
    · subst same
      rw [List.getElem?_set_self'] at present
      rcases Option.map_eq_some_iff.mp present with ⟨_, -, rfl⟩
      exact .inl ⟨rfl, rfl⟩
    · rw [List.getElem?_set_ne same] at present
      exact .inr ⟨same, present⟩
  intro first second one two sessionId here there started also_
  rcases cases_ here with ⟨rfl, rfl⟩ | ⟨apart, old⟩
  · rcases cases_ there with ⟨rfl, -⟩ | ⟨differs, other⟩
    · rfl
    · exact absurd also_ (own sessionId started second two differs other)
  · rcases cases_ there with ⟨rfl, rfl⟩ | ⟨-, other⟩
    · exact absurd started (own sessionId also_ first one apart old)
    · exact oneEach first second one two sessionId old other started also_

theorem OneEach.concat {calls : List ExecCall} (oneEach : OneEach calls)
    (unstarted : call.started? = none) : OneEach (calls ++ [call]) := by
  have older : ∀ {position : Nat} {other : ExecCall} {sessionId : Nat},
      (calls ++ [call])[position]? = some other →
        other.started? = some sessionId → calls[position]? = some other := by
    intro position other sessionId present started
    rcases Nat.lt_or_ge position calls.length with within | behind
    · rw [List.getElem?_append_left within] at present
      exact present
    · rw [List.getElem?_append_right behind] at present
      rw [List.mem_singleton.mp (List.mem_of_getElem? present), unstarted] at started
      cases started
  intro first second one two sessionId here there started also_
  exact oneEach first second one two sessionId (older here started)
    (older there also_) started also_

theorem Sound.put (sound : before.Sound maxSessions) {index : Nat}
    {call : ExecCall} {point : ExecPoint}
    (unpolled : point.polled? = none)
    (kind : point.writes = true → call.starts = false)
    (starter : point.begins = true → call.starts = true) :
    (before.put index call point).Sound maxSessions := by
  have unstarted : ({ call with point } : ExecCall).started? = none :=
    started?_of_point unpolled
  refine ⟨sound.size, sound.room, sound.nodup, sound.known, sound.held, ?_, ?_⟩
  · intro other member
    rcases List.mem_or_eq_of_mem_set member with old | rfl
    · have older := sound.calls other old
      exact ⟨older.removing, older.known, older.kind, older.starter⟩
    · refine ⟨?_, ?_, kind, starter⟩
      · intro sessionId poll here
        replace here : point = .removing sessionId poll := here
        rw [here] at unpolled
        cases unpolled
      · intro sessionId started
        rw [unstarted] at started
        cases started
  · apply sound.oneEach.set
    intro sessionId started
    rw [unstarted] at started
    cases started

theorem Sound.polled (sound : before.Sound maxSessions) {point : ExecPoint}
    (known : sessionId < before.created.length) (own : call.starts = true →
      ∀ (position : Nat) (other : ExecCall), index ≠ position →
        before.calls[position]? = some other → other.started? ≠ some sessionId)
    (polled : before.Polled index call sessionId point after) :
    after.Sound maxSessions := by
  have started : ∀ found,
      ({ call with point } : ExecCall).started? = some found →
        call.starts = true ∧ found = sessionId := by
    intro found given
    unfold ExecCall.started? at given
    split_ifs at given with starts
    rw [polled.polled] at given
    cases given
    exact ⟨starts, rfl⟩
  have fewer : after.sessions.Sublist before.sessions := by
    rcases polled.sessions with same | ⟨erased, -⟩
    · rw [same]
    · rw [erased]
      apply List.erase_sublist
  refine ⟨Nat.le_trans fewer.length_le sound.size, ?_, sound.nodup.sublist fewer, ?_, ?_, ?_, ?_⟩
  · intro locked
    rw [polled.lock] at locked
    exact Nat.lt_of_le_of_lt fewer.length_le (sound.room locked)
  · intro other member
    rw [polled.length]
    exact sound.known other (fewer.subset member)
  · intro other runs
    rw [polled.running] at runs
    have member := sound.held other runs
    rcases polled.sessions with same | ⟨erased, exited⟩
    · rw [same]
      exact member
    · rw [erased]
      apply (List.mem_erase_of_ne _).mpr member
      rintro rfl
      rw [exited] at runs
      cases runs
  · intro other member
    rw [polled.calls] at member
    rcases List.mem_or_eq_of_mem_set member with old | rfl
    · have before_ := sound.calls other old
      refine ⟨?_, ?_, before_.kind, before_.starter⟩
      · intro found poll here
        rw [polled.running, polled.length]
        exact before_.removing found poll here
      · intro found given
        rw [polled.length]
        exact before_.known found given
    · refine ⟨?_, ?_, ?_, ?_⟩
      · intro position poll here
        replace here : point = .removing position poll := here
        have same := polled.polled
        rw [here] at same
        cases same
        rw [polled.running, polled.length]
        exact ⟨known, polled.removing sessionId poll here⟩
      · intro found given
        rcases started found given with ⟨-, rfl⟩
        rw [polled.length]
        exact known
      · intro writes
        have same := polled.polled
        cases point with
        | looking _ _ _ | writing _ _ | terminating _ => cases same
        | _ => cases writes
      · intro begins
        have same := polled.polled
        cases point with
        | entering | spawning => cases same
        | _ => cases begins
  · rw [polled.calls]
    apply sound.oneEach.set
    intro found given
    rcases started found given with ⟨starts, rfl⟩
    exact own starts

theorem Sound.register (sound : before.Sound maxSessions) (locked : before.lock.isSome = true) :
    before.register.Sound maxSessions := by
  have older : ∀ {sessionId : Nat}, sessionId < before.created.length →
      before.register.running sessionId = before.running sessionId := by
    intro sessionId within
    show ((before.created ++ [({} : ExecSession)])[sessionId]?).any _ = _
    rw [List.getElem?_append_left within]
    rfl
  have grown : ∀ {sessionId : Nat}, sessionId < before.created.length →
      sessionId < before.register.created.length := by
    intro sessionId within
    show sessionId < (before.created ++ [_]).length
    rw [List.length_append]
    exact Nat.lt_trans within (Nat.lt_succ_self _)
  refine ⟨?_, (fun unlocked => nomatch unlocked), ?_, ?_, ?_, ?_, sound.oneEach⟩
  · show (before.sessions ++ [_]).length ≤ maxSessions
    rw [List.length_append]
    exact sound.room locked
  · apply sound.nodup.append (List.nodup_singleton _)
    rw [List.disjoint_singleton]
    intro member
    exact Nat.lt_irrefl _ (sound.known _ member)
  · intro sessionId member
    rcases List.mem_append.mp member with old | new
    · exact grown (sound.known sessionId old)
    · rw [List.mem_singleton.mp new]
      show _ < (before.created ++ [_]).length
      rw [List.length_append]
      exact Nat.lt_succ_self _
  · intro sessionId runs
    apply List.mem_append.mpr
    rcases Nat.lt_or_ge sessionId before.created.length with within | behind
    · rw [older within] at runs
      exact .inl (sound.held sessionId runs)
    · right
      apply List.mem_singleton.mpr
      rcases present_of_running runs with ⟨session, made, -⟩
      have within := lt_of_present made
      replace within : sessionId < (before.created ++ [_]).length := within
      rw [List.length_append, List.length_singleton] at within
      omega
  · intro call member
    have before_ := sound.calls call member
    refine ⟨?_, ?_, before_.kind, before_.starter⟩
    · intro sessionId poll here
      rcases before_.removing sessionId poll here with ⟨known, exited⟩
      rw [older known]
      exact ⟨grown known, exited⟩
    · exact fun sessionId started => grown (before_.known sessionId started)

theorem running_of_exits {code : Int} (present : before.created[sessionId]? = some session)
    {target : ExecSessionManager} (created : target.created =
      before.created.set sessionId { session with returncode := some code })
    {other : Nat} (runs : target.running other = true) :
    before.running other = true := by
  rw [running, created] at runs
  by_cases same : sessionId = other
  · subst same
    obtain ⟨inside, -⟩ := List.getElem?_eq_some_iff.mp present
    rw [List.getElem?_set_self inside] at runs
    cases runs
  · rw [List.getElem?_set_ne same] at runs
    exact runs

theorem Sound.exits (sound : before.Sound maxSessions) {code : Int}
    (present : before.created[sessionId]? = some session) :
    Sound maxSessions
      { before with
        created := before.created.set sessionId
            { session with returncode := some code } } := by
  refine ⟨sound.size, sound.room, sound.nodup, ?_, ?_, ?_, sound.oneEach⟩
  · intro other member
    exact List.length_set.symm ▸ sound.known other member
  · intro other runs
    exact sound.held other (running_of_exits present rfl runs)
  · intro call member
    have older := sound.calls call member
    refine ⟨?_, ?_, older.kind, older.starter⟩
    · intro other poll here
      rcases older.removing other poll here with ⟨known, exited⟩
      refine ⟨List.length_set.symm ▸ known, ?_⟩
      rw [← Bool.not_eq_true] at exited ⊢
      exact fun runs => exited (running_of_exits present rfl runs)
    · intro other started
      exact List.length_set.symm ▸ older.known other started

theorem Sound.begins (sound : before.Sound maxSessions)
    (point : call.point = .entering ∧ call.starts = true ∨
      call.point.writes = true ∧ call.starts = false) :
    Sound maxSessions { before with calls := before.calls ++ [call] } := by
  have unpolled : call.point.polled? = none := by
    rcases point with ⟨entering, -⟩ | ⟨writes, -⟩
    · rw [entering]
      rfl
    · cases here : call.point with
      | looking _ _ _ | writing _ _ | terminating _ => rfl
      | _ =>
        rw [here] at writes
        cases writes
  have unstarted := started?_of_point unpolled
  refine ⟨sound.size, sound.room, sound.nodup, sound.known, sound.held, ?_,
    sound.oneEach.concat unstarted⟩
  intro other member
  rcases List.mem_append.mp member with old | new
  · have older := sound.calls other old
    exact ⟨older.removing, older.known, older.kind, older.starter⟩
  · rw [List.mem_singleton.mp new]
    refine ⟨?_, ?_, ?_, ?_⟩
    · intro sessionId poll here
      rw [here] at unpolled
      cases unpolled
    · intro sessionId started
      rw [unstarted] at started
      cases started
    · intro writes
      rcases point with ⟨entering, -⟩ | ⟨-, kind⟩
      · rw [entering] at writes
        cases writes
      · exact kind
    · intro begins
      rcases point with ⟨-, starts⟩ | ⟨writes, -⟩
      · exact starts
      · cases here : call.point with
        | entering | spawning =>
          rw [here] at writes
          cases writes
        | _ =>
          rw [here] at begins
          cases begins

theorem Sound.own (sound : before.Sound maxSessions) (present : before.calls[index]? = some call)
    (own : call.point.writes = true ∨
      call.point.polled? = some sessionId) (starts : call.starts = true)
    {position : Nat} {other : ExecCall} (differs : index ≠ position)
    (there : before.calls[position]? = some other) :
    other.started? ≠ some sessionId := by
  have older := sound.calls call (List.mem_of_getElem? present)
  rcases own with writes | polled
  · rw [older.kind writes] at starts
    cases starts
  · intro started
    have same : call.started? = some sessionId := by
      rw [ExecCall.started?, starts]
      exact polled
    exact differs (sound.oneEach index position call other sessionId present there same started)

theorem Sound.move (sound : before.Sound maxSessions)
    (moved : Move maxSessions before label after) :
    after.Sound maxSessions := by
  cases moved with
  | begins call point => exact sound.begins point
  | exits sessionId code session present => exact sound.exits present
  | refuses index passed call present entering full =>
    exact sound.put rfl nofun nofun
  | locks index call present entering room =>
    have older := sound.calls call (List.mem_of_getElem? present)
    have starts := older.starter (by rw [entering]; rfl)
    have going := @Sound.put _ _ sound index call .spawning rfl nofun
      fun _ => starts
    exact ⟨going.size, fun _ => room, going.nodup, going.known, going.held, fun other member =>
        have kept := going.calls other member
        ⟨kept.removing, kept.known, kept.kind, kept.starter⟩,
      going.oneEach⟩
  | writes index call point present here there =>
    have older := sound.calls call (List.mem_of_getElem? present)
    have kind := older.kind here
    rcases there with writes | rfl
    · cases point with
      | looking _ _ _ | writing _ _ | terminating _ =>
        exact sound.put rfl (fun _ => kind) nofun
      | _ => cases writes
    · exact sound.put rfl nofun nofun
  | registers index call point after present spawning holds polled =>
    have locked : before.lock.isSome = true := by
      rw [holds]
      rfl
    have made : before.created.length < before.register.created.length := by
      show _ < (before.created ++ [_]).length
      rw [List.length_append]
      exact Nat.lt_succ_self _
    apply (sound.register locked).polled made _ polled
    intro starts position other differs there started
    have older := sound.calls other (List.mem_of_getElem? there)
    exact Nat.lt_irrefl _ (older.known _ started)
  | polls index call sessionId point after present known own polled =>
    exact sound.polled known (fun starts position other => sound.own present own starts) polled
  | raises index call interrupts present =>
    have going := @Sound.put _ _ sound index call .raised rfl nofun nofun
    refine ⟨going.size, ?_, going.nodup, going.known, going.held, fun other member =>
        have kept := going.calls other member
        ⟨kept.removing, kept.known, kept.kind, kept.starter⟩,
      going.oneEach⟩
    intro locked
    apply sound.room
    change (if before.lock = some index then none else before.lock).isSome =
      true at locked
    split_ifs at locked
    · cases locked
    · exact locked

theorem Sound.move_of_step (sound : before.Sound maxSessions)
    (stepped : before.step maxSessions label = some after) :
    Move maxSessions before label after := by
  cases label with
  | start waits =>
    cases stepped
    exact .begins _ (.inl ⟨rfl, rfl⟩)
  | write sessionId chars terminate waits =>
    cases stepped
    exact .begins _ (.inr ⟨rfl, rfl⟩)
  | exits sessionId code =>
    rcases Option.bind_eq_some_iff.mp stepped with ⟨session, present, stepped⟩
    split_ifs at stepped
    cases stepped
    exact .exits sessionId code session present
  | goOn index passed =>
    rcases Option.bind_eq_some_iff.mp stepped with ⟨call, present, went⟩
    have older := sound.calls call (List.mem_of_getElem? present)
    exact proceed_move present older.removing went
  | fails index =>
    rcases Option.bind_eq_some_iff.mp stepped with ⟨call, present, stepped⟩
    split_ifs at stepped
    cases stepped
    exact .raises index call (.inl rfl) present
  | cancel index =>
    rcases Option.bind_eq_some_iff.mp stepped with ⟨call, present, stepped⟩
    split_ifs at stepped
    cases stepped
    exact .raises index call (.inr rfl) present

theorem sound_of_reachable (reached : (execSessions maxSessions).Reachable manager) :
    manager.Sound maxSessions := by
  apply Machine.Reaches.invariant _ _ reached
  · rintro _ rfl
    exact initial_sound
  · intro state label target _ sound _ stepped
    exact sound.move (sound.move_of_step stepped)

end ExecSessionManager

end TurningGood.Tools
