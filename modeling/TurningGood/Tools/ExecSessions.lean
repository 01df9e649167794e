import TurningGood.Foundation.Machine

/-!
# Sessions of background commands

`ExecSessionManager` starts a process for each background command and keeps
its session until a poll has seen the exit.  A call waits for the lock of the
manager, for the start of the process, for input that is written, for a
process that was killed, for time to go by and for the rest of the output;
wherever it waits, other calls go on, processes exit, and its caller may be
cancelled.

The number of a session stands for its id.  What the clock shows is a choice
of the environment, as are the outcomes of the operating system.
-/

namespace TurningGood.Tools

open TurningGood.Foundation

/-! ## Sessions and calls -/

/-- `_ExecSession`, with the exit code of its process. -/
structure ExecSession where
  returncode : Option Int := none
  timedOut : Bool := false
  deriving DecidableEq, Repr

/-- The process of a session has not exited. -/
def ExecSession.running (session : ExecSession) : Bool := session.returncode.isNone

/-- `SessionPoll`. -/
structure SessionPoll where
  done : Bool
  exitCode : Option Int
  timedOut : Bool
  terminated : Bool
  deriving DecidableEq, Repr

/-- Where a call of the manager stands. -/
inductive ExecPoint where
  /-- `start` waits for the lock -/
  | entering
  /-- `start` holds the lock and awaits its process -/
  | spawning
  /-- `write` waits for the lock -/
  | looking (sessionId : Nat) (chars terminate : Bool)
  | writing (sessionId : Nat) (terminate : Bool)
  | terminating (sessionId : Nat)
  /-- `poll` lets time go by -/
  | sleeping (sessionId : Nat) (terminated : Bool)
  /-- `poll` has killed the process behind its deadline -/
  | killing (sessionId : Nat) (terminated : Bool)
  /-- `poll` awaits the rest of the output -/
  | draining (sessionId : Nat) (terminated : Bool)
  /-- the call waits for the lock, to remove its session -/
  | removing (sessionId : Nat) (poll : SessionPoll)
  | returned (sessionId : Nat) (poll : SessionPoll)
  /-- `start` has raised, next to this many running processes -/
  | refused (running : Nat)
  /-- another exception, or a cancellation -/
  | raised
  deriving DecidableEq, Repr

/-- The session that a call polls or has polled. -/
def ExecPoint.polled? : ExecPoint → Option Nat
  | .sleeping sessionId _ | .killing sessionId _ | .draining sessionId _
  | .removing sessionId _ | .returned sessionId _ => some sessionId
  | _ => none

/-- The call is over. -/
def ExecPoint.over : ExecPoint → Bool
  | .returned _ _ | .refused _ | .raised => true
  | _ => false

/-- A call of `start` or of `write`. -/
structure ExecCall where
  starts : Bool
  /-- `yield_time_ms` is positive -/
  waits : Bool
  point : ExecPoint
  deriving DecidableEq, Repr

/-- The session of a call of `start`, as far as the call has not raised. -/
def ExecCall.started? (call : ExecCall) : Option Nat :=
  if call.starts then call.point.polled? else none

/-- `ExecSessionManager`, with its calls. -/
structure ExecSessionManager where
  /-- every session that was made -/
  created : List ExecSession := []
  /-- the ids in `_sessions` -/
  sessions : List Nat := []
  /-- the call that holds `_lock` -/
  lock : Option Nat := none
  calls : List ExecCall := []
  deriving DecidableEq, Repr

/-- What happens to the manager. -/
inductive ExecLabel where
  | start (waits : Bool)
  | write (sessionId : Nat) (chars terminate waits : Bool)
  /-- a process exits -/
  | exits (sessionId : Nat) (code : Int)
  /-- a call goes on; the deadline of its session may have passed -/
  | goOn (index : Nat) (passed : Bool)
  /-- what a call awaits raises -/
  | fails (index : Nat)
  /-- the caller of a call is cancelled -/
  | cancel (index : Nat)
  deriving DecidableEq, Repr

namespace ExecSessionManager

variable (maxSessions : Nat) (manager : ExecSessionManager)

/-- The process of a session runs. -/
def running (sessionId : Nat) : Bool := (manager.created[sessionId]?).any ExecSession.running

/-- The sessions whose processes run. -/
def runningIds : List Nat := (List.range manager.created.length).filter manager.running

/-- A call stands at another point. -/
def put (index : Nat) (call : ExecCall) (point : ExecPoint) :
    ExecSessionManager :=
  { manager with calls := manager.calls.set index { call with point } }

section Poll

variable (index : Nat) (call : ExecCall) (sessionId : Nat)
variable (session : ExecSession) (terminated passed : Bool)

/-- The session of an exited process is removed when the lock is free. -/
def remove (poll : SessionPoll) : ExecSessionManager :=
  if manager.lock.isSome then
    manager.put index call (.removing sessionId poll)
  else
    { manager.put index call (.returned sessionId poll) with
      sessions := manager.sessions.erase sessionId }

/-- `poll` returns, and the call goes on behind it. -/
def endPoll : ExecSessionManager :=
  let poll : SessionPoll :=
    { done := session.returncode.isSome
      exitCode := session.returncode
      timedOut := session.timedOut
      terminated }
  if poll.done then
    manager.remove index call sessionId poll
  else
    manager.put index call (.returned sessionId poll)

/-- `poll` behind its look at the deadline. -/
def collect : ExecSessionManager :=
  if session.running then
    manager.endPoll index call sessionId session terminated
  else
    manager.put index call (.draining sessionId terminated)

/-- `poll` looks at the deadline. -/
def checkDeadline : ExecSessionManager :=
  if session.running ∧ passed then
    { manager.put index call (.killing sessionId terminated) with
      created :=
        manager.created.set sessionId { session with timedOut := true } }
  else
    manager.collect index call sessionId session terminated

/-- `_ExecSession.poll`. -/
def poll : ExecSessionManager :=
  if call.waits ∧ session.running then
    manager.put index call (.sleeping sessionId terminated)
  else
    manager.checkDeadline index call sessionId session terminated passed

/-- `write` behind its input. -/
def afterInput (terminate : Bool) : ExecSessionManager :=
  if terminate ∧ session.running then
    manager.put index call (.terminating sessionId)
  else
    manager.poll index call sessionId session terminate passed

/-- `write` has found its session. -/
def found (chars terminate : Bool) : ExecSessionManager :=
  if chars then
    if session.running then
      manager.put index call (.writing sessionId terminate)
    else
      manager.put index call .raised
  else
    manager.afterInput index call sessionId session passed terminate

end Poll

/-- The process of a call of `start` runs, and its session is kept. -/
def register : ExecSessionManager :=
  { manager with
    created := manager.created ++ [{}]
    sessions := manager.sessions ++ [manager.created.length]
    lock := none }

/-- A call raises; it releases the lock. -/
def raise (index : Nat) (call : ExecCall) : ExecSessionManager :=
  { manager.put index call .raised with
    lock := if manager.lock = some index then none else manager.lock }

/-- What a call does when it goes on. -/
def proceed (index : Nat) (passed : Bool) (call : ExecCall) :
    Option ExecSessionManager :=
  match call.point with
  | .entering =>
    if manager.lock.isSome then
      none
    else if maxSessions ≤ manager.sessions.length then
      some (manager.put index call (.refused manager.runningIds.length))
    else
      some { manager.put index call .spawning with lock := some index }
  | .spawning =>
    if manager.lock = some index then
      some <| manager.register.poll index call manager.created.length {} false passed
    else
      none
  | .looking sessionId chars terminate =>
    if manager.lock.isSome then
      none
    else if sessionId ∈ manager.sessions then
      (manager.created[sessionId]?).map fun session =>
        manager.found index call sessionId session passed chars terminate
    else
      some (manager.put index call .raised)
  | .writing sessionId terminate =>
    (manager.created[sessionId]?).map fun session =>
      manager.afterInput index call sessionId session passed terminate
  | .terminating sessionId =>
    (manager.created[sessionId]?).map fun session =>
      manager.poll index call sessionId session true passed
  | .sleeping sessionId terminated =>
    (manager.created[sessionId]?).map fun session =>
      manager.checkDeadline index call sessionId session terminated passed
  | .killing sessionId terminated =>
    (manager.created[sessionId]?).map fun session =>
      manager.collect index call sessionId session terminated
  | .draining sessionId terminated =>
    (manager.created[sessionId]?).map fun session =>
      manager.endPoll index call sessionId session terminated
  | .removing sessionId poll =>
    if manager.lock.isSome then none
    else some (manager.remove index call sessionId poll)
  | .returned _ _ | .refused _ | .raised => none

/-- What a call awaits may raise: a process, its input or its output. -/
def mayFail : ExecPoint → Bool
  | .spawning | .writing _ _ | .draining _ _ => true
  | _ => false

/-- One step. -/
def step : ExecLabel → Option ExecSessionManager
  | .start waits =>
    some
      { manager with
        calls := manager.calls ++ [⟨true, waits, .entering⟩] }
  | .write sessionId chars terminate waits =>
    some
      { manager with
        calls := manager.calls ++ [⟨false, waits, .looking sessionId chars terminate⟩] }
  | .exits sessionId code => do
    let session ← manager.created[sessionId]?
    if session.running then
      some
        { manager with
          created := manager.created.set sessionId
              { session with returncode := some code } }
    else
      none
  | .goOn index passed => do
    let call ← manager.calls[index]?
    manager.proceed maxSessions index passed call
  | .fails index => do
    let call ← manager.calls[index]?
    if mayFail call.point then some (manager.raise index call) else none
  | .cancel index => do
    let call ← manager.calls[index]?
    if call.point.over then none else some (manager.raise index call)

end ExecSessionManager

/-- The manager, any calls of it and the processes. -/
def execSessions (maxSessions : Nat) : Machine ExecSessionManager ExecLabel where
  initial manager := manager = {}
  step manager label := manager.step maxSessions label

/-! ## What a call does to the tables -/

namespace ExecSessionManager

variable {maxSessions : Nat} {manager : ExecSessionManager}

theorem running_of_getElem? {sessionId : Nat} {session : ExecSession}
    (present : manager.created[sessionId]? = some session) :
    manager.running sessionId = session.running := by
  rw [running, present]
  rfl

theorem running_set {sessionId : Nat} {session changed : ExecSession}
    (present : manager.created[sessionId]? = some session)
    (same : changed.running = session.running)
    {target : ExecSessionManager}
    (created : target.created = manager.created.set sessionId changed)
    (other : Nat) : target.running other = manager.running other := by
  rw [running, running, created]
  by_cases here : sessionId = other
  · subst here
    obtain ⟨inside, -⟩ := List.getElem?_eq_some_iff.mp present
    rw [List.getElem?_set_self inside, present]
    exact same
  · rw [List.getElem?_set_ne here]

/-- What a poll of a session does. -/
structure Polled (before : ExecSessionManager) (index : Nat)
    (call : ExecCall) (sessionId : Nat) (point : ExecPoint)
    (after : ExecSessionManager) : Prop where
  calls : after.calls = before.calls.set index { call with point }
  polled : point.polled? = some sessionId
  lock : after.lock = before.lock
  running : ∀ other, after.running other = before.running other
  length : after.created.length = before.created.length
  removing : ∀ other poll, point = .removing other poll → before.running other = false
  sessions : after.sessions = before.sessions ∨
    after.sessions = before.sessions.erase sessionId ∧ before.running sessionId = false

section Polls

variable {index : Nat} {call : ExecCall} {sessionId : Nat}
  {session : ExecSession} {terminated passed : Bool}

theorem put_polled {point : ExecPoint} (polled : point.polled? = some sessionId)
    (elsewhere : ∀ other poll, point ≠ .removing other poll) :
    manager.Polled index call sessionId point
      (manager.put index call point) where
  calls := rfl
  polled := polled
  lock := rfl
  running _ := rfl
  length := rfl
  removing other poll here := absurd here (elsewhere other poll)
  sessions := .inl rfl

theorem remove_polled (poll : SessionPoll) (exited : manager.running sessionId = false) :
    ∃ point, manager.Polled index call sessionId point
      (manager.remove index call sessionId poll) := by
  unfold remove
  split_ifs with locked
  · refine ⟨.removing sessionId poll, rfl, rfl, rfl, fun _ => rfl, rfl, ?_, .inl rfl⟩
    intro other found here
    cases here
    exact exited
  · exact ⟨.returned sessionId poll, rfl, rfl, rfl, fun _ => rfl, rfl,
      (fun other found here => nomatch here), .inr ⟨rfl, exited⟩⟩

theorem endPoll_polled (present : manager.created[sessionId]? = some session) :
    ∃ point, manager.Polled index call sessionId point
      (manager.endPoll index call sessionId session terminated) := by
  unfold endPoll
  dsimp only
  split_ifs with done
  · apply remove_polled
    rw [running_of_getElem? present, ExecSession.running, Option.isNone_eq_false_iff]
    exact done
  · exact ⟨_, put_polled rfl fun _ _ => nofun⟩

theorem collect_polled (present : manager.created[sessionId]? = some session) :
    ∃ point, manager.Polled index call sessionId point
      (manager.collect index call sessionId session terminated) := by
  unfold collect
  split_ifs with runs
  · exact endPoll_polled present
  · exact ⟨_, put_polled rfl fun _ _ => nofun⟩

theorem checkDeadline_polled (present : manager.created[sessionId]? = some session) :
    ∃ point, manager.Polled index call sessionId point
      (manager.checkDeadline index call sessionId session terminated passed) := by
  unfold checkDeadline
  split_ifs with expired
  · refine ⟨.killing sessionId terminated, rfl, rfl, rfl, ?_,
      List.length_set, (fun _ _ here => nomatch here), .inl rfl⟩
    intro other
    apply running_set present _ rfl
    rfl
  · exact collect_polled present

theorem poll_polled (present : manager.created[sessionId]? = some session) :
    ∃ point, manager.Polled index call sessionId point
      (manager.poll index call sessionId session terminated passed) := by
  unfold poll
  split_ifs with sleeps
  · exact ⟨_, put_polled rfl fun _ _ => nofun⟩
  · exact checkDeadline_polled present

theorem afterInput_cases (present : manager.created[sessionId]? = some session) (terminate : Bool) :
    manager.afterInput index call sessionId session passed terminate =
        manager.put index call (.terminating sessionId) ∨
      ∃ point, manager.Polled index call sessionId point
        (manager.afterInput index call sessionId session passed terminate) := by
  unfold afterInput
  split_ifs with kills
  · exact .inl rfl
  · exact .inr (poll_polled present)

end Polls

end ExecSessionManager

end TurningGood.Tools
