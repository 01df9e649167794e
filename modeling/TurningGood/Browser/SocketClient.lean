import TurningGood.Foundation.Dict
import TurningGood.Foundation.Machine

/-!
# The socket client of the page

The client keeps one connection to the gateway, tries again after it is lost,
and subscribes to the session that is shown.  The sockets that were ever made
are numbered, and so are the timers; their events arrive in any order.
-/

namespace TurningGood.Browser

open TurningGood.Foundation

/-! ## Sockets and frames -/

/-- `WebSocket.readyState`. -/
inductive ReadyState where
  | connecting
  | opened
  | closing
  | closed
  deriving DecidableEq, Repr

/-- `WebSocket.close`. -/
def ReadyState.close : ReadyState → ReadyState
  | .connecting | .opened => .closing
  | state => state

/-- The socket connects or is open. -/
def ReadyState.Alive (state : ReadyState) : Prop := state = .connecting ∨ state = .opened

/-- A frame that the page sends. -/
inductive SocketFrame where
  | action (text : String)
  | subscribe (sessionId : String) (afterEventId : Nat)
  deriving DecidableEq, Repr

/-- What the handler reads of a received event. -/
structure SocketMessage where
  eventId : Option Nat
  sessionId : Option String
  deriving DecidableEq, Repr

/-- `ConnectionState`. -/
inductive ConnectionState where
  | connecting
  | connected
  | reconnecting
  | disconnected
  deriving DecidableEq, Repr

/-- `RETRY_DELAYS`. -/
def retryDelays : List Nat := [250, 500, 1000, 2000, 4000, 5000]

/--
`SessionSocketClient`, with all sockets it made, the timers that have not
fired, the frames it sent and the connection state it reported last.
-/
structure SocketClient where
  socket : Option Nat
  retryTimer : Option Nat
  retryIndex : Nat
  closed : Bool
  activeSessionId : Option String
  lastEventIds : Dict String Nat
  sockets : List ReadyState
  timers : List (Nat × Nat)
  nextTimer : Nat
  sent : List (Nat × SocketFrame)
  reported : Option ConnectionState
  deriving DecidableEq

namespace SocketClient

variable {client target : SocketClient}

/-- The constructor. -/
def initial : SocketClient where
  socket := none
  retryTimer := none
  retryIndex := 0
  closed := false
  activeSessionId := none
  lastEventIds := .empty
  sockets := []
  timers := []
  nextTimer := 1
  sent := []
  reported := none

/-- `this.socket?.readyState`. -/
def readyState (client : SocketClient) : Option ReadyState :=
  client.socket.bind (client.sockets[·]?)

/-- `connect`. -/
def connect (client : SocketClient) : SocketClient :=
  if client.closed ∨ client.readyState = some .opened ∨
      client.readyState = some .connecting then
    client
  else
    { client with
      reported := some
        (if client.retryIndex = 0 then .connecting else .reconnecting)
      sockets := client.sockets ++ [.connecting]
      socket := some client.sockets.length }

/-- `window.clearTimeout` of the retry timer. -/
def clearTimer (client : SocketClient) : SocketClient :=
  { client with
    retryTimer := none
    timers := client.timers.filter (some ·.1 ≠ client.retryTimer) }

/-- Close the socket and forget it. -/
def dropSocket (client : SocketClient) : SocketClient :=
  { client with
    socket := none
    sockets := match client.socket with
      | some socket => client.sockets.modify socket ReadyState.close
      | none => client.sockets }

/-- `reconnect`. -/
def reconnect (client : SocketClient) : SocketClient :=
  if client.closed then
    client
  else
    connect { client.clearTimer.dropSocket with retryIndex := 1 }

/-- `send`, with the answer. -/
def send (client : SocketClient) (frame : SocketFrame) : SocketClient × Bool :=
  match client.socket, client.readyState with
  | some socket, some .opened =>
    ({ client with sent := client.sent ++ [(socket, frame)] }, true)
  | _, _ => (client, false)

/-- `lastEventId`. -/
def lastEventId (client : SocketClient) (sessionId : String) : Nat :=
  (client.lastEventIds.get? sessionId).getD 0

/-- `subscribeActiveSession`. -/
def subscribeActiveSession (client : SocketClient) : SocketClient :=
  match client.activeSessionId with
  | none => client
  | some sessionId =>
    if sessionId = "" then
      client
    else
      (client.send (.subscribe sessionId (client.lastEventId sessionId))).1

/-- The session of the last subscription that went out on the socket. -/
def subscription (client : SocketClient) : Option String :=
  client.sent.reverse.findSome? fun (socket, frame) =>
    match frame with
    | .subscribe sessionId _ =>
      if client.socket = some socket then some sessionId else none
    | .action _ => none

/-- `setActiveSession`. -/
def setActiveSession (client : SocketClient) (sessionId : Option String) :
    SocketClient :=
  let client := { client with activeSessionId := sessionId }
  if client.socket = none then
    client.connect
  else if client.readyState ≠ some .opened then
    client.reconnect
  else
    client.subscribeActiveSession

/-- `setLastEventId`. -/
def setLastEventId (client : SocketClient) (sessionId : String) (eventId : Nat) : SocketClient :=
  if client.lastEventId sessionId < eventId then
    { client with
      lastEventIds := client.lastEventIds.insert sessionId eventId }
  else
    client

/-- `close`. -/
def close (client : SocketClient) : SocketClient :=
  { client.clearTimer.dropSocket with
    closed := true
    reported := some .disconnected }

/-- `scheduleReconnect`. -/
def scheduleReconnect (client : SocketClient) : SocketClient :=
  if client.closed ∨ client.retryTimer ≠ none then
    client
  else
    { client with
      reported := some .reconnecting
      retryIndex := client.retryIndex + 1
      retryTimer := some client.nextTimer
      timers := client.timers ++ [(client.nextTimer, retryDelays.getD
          (min client.retryIndex (retryDelays.length - 1)) 0)]
      nextTimer := client.nextTimer + 1 }

/-- `handleOpen`. -/
def handleOpen (client : SocketClient) (socket : Nat) : SocketClient :=
  if client.socket ≠ some socket then
    client
  else
    subscribeActiveSession
      { client with retryIndex := 0, reported := some .connected }

/-- `handleMessage`, of an event or of a text that is no JSON. -/
def handleMessage (client : SocketClient) : Option SocketMessage → SocketClient
  | some ⟨some eventId, some sessionId⟩ =>
    if eventId ≠ 0 ∧ client.activeSessionId = some sessionId then
      { client with
        lastEventIds := client.lastEventIds.insert sessionId eventId }
    else
      client
  | _ => client

/-- `handleClose`. -/
def handleClose (client : SocketClient) (socket : Nat) : SocketClient :=
  if client.socket ≠ some socket ∨ client.closed then
    client
  else
    scheduleReconnect { client with socket := none }

/-- `handleSocketError`. -/
def handleSocketError (client : SocketClient) (socket : Nat) : SocketClient :=
  if client.socket ≠ some socket ∨ client.closed then
    client
  else
    client.dropSocket.scheduleReconnect

/-- The calls of the page and the events of the browser. -/
inductive SocketEvent where
  | connect
  | setActiveSession (sessionId : Option String)
  | setLastEventId (sessionId : String) (eventId : Nat)
  | reconnect
  | send (text : String)
  | close
  | opened (socket : Nat)
  | message (socket : Nat) (message : Option SocketMessage)
  | closing (socket : Nat)
  | closed (socket : Nat)
  | failed (socket : Nat) (state : ReadyState)
  | retry (timer : Nat)

/-- The socket is in another state. -/
def setSocket (client : SocketClient) (socket : Nat) (state : ReadyState) :
    SocketClient :=
  { client with sockets := client.sockets.set socket state }

/--
A call, or an event that a socket or a timer can have: a socket opens once,
hears messages while it is open, and after an error it is closing or closed
or goes on as it was.
-/
def step (client : SocketClient) : SocketEvent → Option SocketClient
  | .connect => some client.connect
  | .setActiveSession sessionId => some (client.setActiveSession sessionId)
  | .setLastEventId sessionId eventId =>
    some (client.setLastEventId sessionId eventId)
  | .reconnect => some client.reconnect
  | .send text => some (client.send (.action text)).1
  | .close => some client.close
  | .opened socket =>
    if client.sockets[socket]? = some .connecting then
      some ((client.setSocket socket .opened).handleOpen socket)
    else
      none
  | .message socket message =>
    if client.sockets[socket]? = some .opened then
      some (client.handleMessage message)
    else
      none
  | .closing socket =>
    (client.sockets[socket]?).bind fun state =>
      if state = .closed then
        none
      else
        some (client.setSocket socket .closing)
  | .closed socket =>
    some ((client.setSocket socket .closed).handleClose socket)
  | .failed socket after =>
    (client.sockets[socket]?).bind fun state =>
      if after = state ∨ after = state.close ∨ after = .closed then
        some ((client.setSocket socket after).handleSocketError socket)
      else
        none
  | .retry timer =>
    if timer ∈ client.timers.map Prod.fst then
      some (connect
        { client with
          retryTimer := none
          timers := client.timers.filter (·.1 ≠ timer) })
    else
      none

/-- The runs of a client from its construction. -/
def machine : Machine SocketClient SocketEvent where
  initial := (· = initial)
  step := step

/-! ## One connection -/

/-- What the page shows, and what it has sent, for a state of its socket. -/
def Shows (client : SocketClient) : ReadyState → Prop
  | .connecting =>
    client.reported = some .connecting ∨ client.reported = some .reconnecting
  | .opened => client.reported = some .connected ∧ ∀ sessionId ≠ "",
    client.activeSessionId = some sessionId → client.subscription = some sessionId
  | .closing | .closed => True

/--
A socket that is alive is the one in use, the socket in use can still be
lost, the one timer is the one remembered, a closed client has neither, and
what is shown is true of the socket.
-/
structure Sound (client : SocketClient) : Prop where
  timers : client.timers.map Prod.fst = client.retryTimer.toList
  live : ∀ socket state, client.sockets[socket]? = some state →
    state.Alive → client.socket = some socket
  current : ∀ socket, client.socket = some socket →
    ∃ state, client.sockets[socket]? = some state ∧ state ≠ .closed
  quiet : client.closed = true → client.socket = none ∧ client.retryTimer = none
  disconnected : client.reported = some .disconnected ↔ client.closed = true
  shows : ∀ state, client.readyState = some state → client.Shows state

/-- A client that has connected has a socket to lose, or a timer to fire. -/
def Awake (client : SocketClient) : Prop :=
  client.sockets = [] ∨ client.closed = true ∨ client.socket ≠ none ∨ client.retryTimer ≠ none

theorem Awake.setSocket (awake : client.Awake) (socket : Nat)
    (state : ReadyState) : (client.setSocket socket state).Awake := by
  rcases awake with fresh | awake
  · exact .inl (by simp [SocketClient.setSocket, fresh])
  · exact .inr awake

theorem initial_sound : initial.Sound where
  timers := rfl
  live socket state found := by cases found
  current socket used := by cases used
  quiet isClosed := by cases isClosed
  disconnected := by simp [initial]
  shows state present := by cases present

theorem Sound.withoutSocket (sound : client.Sound) {sockets : List ReadyState}
    (dead : ∀ (socket : Nat) (state : ReadyState), sockets[socket]? = some state → ¬ state.Alive) :
    Sound { client with socket := none, sockets := sockets } where
  timers := sound.timers
  live socket state found alive := absurd alive (dead socket state found)
  current _ used := by cases used
  quiet isClosed := ⟨rfl, (sound.quiet isClosed).2⟩
  disconnected := sound.disconnected
  shows state present := by cases present

theorem Sound.dead_of_ne (sound : client.Sound) {socket other : Nat}
    {state : ReadyState} (used : client.socket = some socket)
    (apart : socket ≠ other) (found : client.sockets[other]? = some state) :
    ¬ state.Alive := by
  intro alive
  have usesOther := sound.live other state found alive
  exact apart (Option.some.inj (used.symm.trans usesOther))

theorem close_dead (state : ReadyState) : ¬ state.close.Alive := by
  cases state <;> simp [ReadyState.close, ReadyState.Alive]

theorem Sound.dropSocket (sound : client.Sound) : client.dropSocket.Sound := by
  refine sound.withoutSocket ?_
  intro other state found
  cases used : client.socket with
  | none =>
    rw [used] at found
    intro alive
    have usesOther := sound.live other state found alive
    rw [used] at usesOther
    cases usesOther
  | some socket =>
    rw [used] at found
    simp only [List.getElem?_modify] at found
    rcases Option.map_eq_some_iff.mp found with ⟨before, present, rfl⟩
    split_ifs with same
    · exact close_dead before
    · exact sound.dead_of_ne used same present

theorem Sound.loseSocket (sound : client.Sound) {socket : Nat}
    {after : ReadyState} (used : client.socket = some socket)
    (ended : ¬ after.Alive) :
    Sound { client with
      socket := none, sockets := client.sockets.set socket after } := by
  refine sound.withoutSocket ?_
  intro other state found
  rw [List.getElem?_set] at found
  split_ifs at found with same bound
  · exact Option.some.inj found ▸ ended
  · exact sound.dead_of_ne used same found

theorem Sound.fst_of_mem (sound : client.Sound) {timer : Nat × Nat}
    (pending : timer ∈ client.timers) :
    client.retryTimer = some timer.1 := by
  have member : timer.1 ∈ client.timers.map Prod.fst :=
    List.mem_map_of_mem pending
  rw [sound.timers] at member
  exact Option.mem_toList.mp member

theorem Sound.withoutTimer (sound : client.Sound) {timers : List (Nat × Nat)}
    (ended : timers = []) :
    Sound { client with retryTimer := none, timers := timers } where
  timers := by simp [ended]
  live := sound.live
  current := sound.current
  quiet isClosed := ⟨(sound.quiet isClosed).1, rfl⟩
  disconnected := sound.disconnected
  shows := sound.shows

theorem Sound.clearTimer (sound : client.Sound) : client.clearTimer.Sound := by
  refine sound.withoutTimer (List.filter_eq_nil_iff.mpr ?_)
  intro timer pending
  simp [sound.fst_of_mem pending]

theorem Sound.connect (sound : client.Sound) :
    client.connect.Sound ∧ client.connect.Awake := by
  unfold SocketClient.connect
  by_cases kept : client.closed ∨ client.readyState = some .opened ∨
      client.readyState = some .connecting
  · rw [if_pos kept]
    refine ⟨sound, ?_⟩
    rcases kept with isClosed | isOpen | isConnecting
    · exact .inr (.inl isClosed)
    · exact .inr (.inr (.inl fun missing => by
        simp [readyState, missing] at isOpen))
    · exact .inr (.inr (.inl fun missing => by
        simp [readyState, missing] at isConnecting))
  · rw [if_neg kept]
    simp only [not_or] at kept
    have old (socket : Nat) (state : ReadyState)
        (found : client.sockets[socket]? = some state) : ¬ state.Alive := by
      intro alive
      have used := sound.live socket state found alive
      rcases alive with rfl | rfl
      · exact kept.2.2 (by simp [readyState, used, found])
      · exact kept.2.1 (by simp [readyState, used, found])
    refine ⟨?_, .inr (.inr (.inl (by simp)))⟩
    exact {
      timers := sound.timers
      live := by
        intro socket state found alive
        rw [List.getElem?_append] at found
        split_ifs at found with bound
        · exact absurd alive (old socket state found)
        · have bounded := (List.getElem?_eq_some_iff.mp found).1
          simp only [List.length_singleton] at bounded
          exact congrArg some (by omega)
      current := by
        rintro _ ⟨⟩
        exact ⟨.connecting, by simp, by simp⟩
      quiet := fun isClosed => absurd isClosed kept.1
      disconnected := by
        split_ifs <;> simp [kept.1]
      shows := fun state present => by
        cases (show some ReadyState.connecting = some state by
          simpa [readyState] using present)
        simp only [Shows]
        split_ifs <;> simp }

theorem Sound.scheduleReconnect (sound : client.Sound) (missing : client.socket = none) :
    client.scheduleReconnect.Sound ∧ client.scheduleReconnect.Awake := by
  unfold SocketClient.scheduleReconnect
  split_ifs with kept
  · refine ⟨sound, ?_⟩
    rcases kept with isClosed | waits
    · exact .inr (.inl isClosed)
    · exact .inr (.inr (.inr waits))
  · simp only [not_or, not_not] at kept
    have noTimer : client.timers = [] := by
      simpa [kept.2] using sound.timers
    refine ⟨?_, .inr (.inr (.inr (by simp)))⟩
    exact {
      timers := by simp [noTimer]
      live := sound.live
      current := sound.current
      quiet := fun isClosed => absurd isClosed kept.1
      disconnected := by simp [kept.1]
      shows := fun state present => by
        simp [readyState, missing] at present }

/-! ## What a step preserves -/

theorem subscribeActiveSession_spec (isOpen : client.readyState = some .opened) :
    ∃ sent, client.subscribeActiveSession = { client with sent := sent } ∧
      ∀ sessionId ≠ "", client.activeSessionId = some sessionId →
        client.subscribeActiveSession.subscription = some sessionId := by
  rcases Option.bind_eq_some_iff.mp isOpen with ⟨socket, used, -⟩
  unfold SocketClient.subscribeActiveSession
  split
  next missing =>
    exact ⟨_, rfl, fun _ _ other => by simp [missing] at other⟩
  next active shown =>
    split_ifs with blank
    · refine ⟨_, rfl, fun sessionId named other => ?_⟩
      cases Option.some.inj (shown.symm.trans other)
      exact absurd blank named
    · have sends (frame : SocketFrame) : (client.send frame).1 =
          { client with sent := client.sent ++ [(socket, frame)] } := by
        simp [send, used, isOpen]
      refine ⟨_, sends _, fun sessionId _ other => ?_⟩
      cases Option.some.inj (shown.symm.trans other)
      simp [sends, subscription, used]

theorem Sound.reconnect (sound : client.Sound) :
    client.reconnect.Sound ∧ client.reconnect.Awake := by
  unfold SocketClient.reconnect
  split_ifs with isClosed
  · exact ⟨sound, .inr (.inl isClosed)⟩
  · have dropped := sound.clearTimer.dropSocket
    exact Sound.connect { dropped with }

theorem Sound.setActiveSession (sound : client.Sound) (sessionId : Option String) :
    (client.setActiveSession sessionId).Sound ∧ (client.setActiveSession sessionId).Awake := by
  have chosen (notOpen : client.readyState ≠ some .opened) :
      Sound { client with activeSessionId := sessionId } :=
    { sound with
      shows := fun state present => by
        cases state with
        | opened => exact absurd present notOpen
        | _ => exact sound.shows _ present }
  unfold SocketClient.setActiveSession
  dsimp only
  split_ifs with missing ready
  · exact (chosen (by simp [readyState, missing])).connect
  · exact (chosen ready).reconnect
  · rcases subscribeActiveSession_spec (not_not.mp ready) with ⟨sent, same, subscribed⟩
    rw [same] at subscribed ⊢
    have isOpen := not_not.mp ready
    refine ⟨{ sound with shows := fun state present => ?_ },
      .inr (.inr (.inl missing))⟩
    cases Option.some.inj (isOpen.symm.trans present)
    exact ⟨(sound.shows _ isOpen).1, subscribed⟩

theorem Sound.close (sound : client.Sound) : client.close.Sound := by
  have dropped := sound.clearTimer.dropSocket
  exact { dropped with
    quiet := fun _ => ⟨rfl, rfl⟩
    disconnected := by simp [SocketClient.close]
    shows := fun state present => by cases present }

theorem Sound.opened (sound : client.Sound) {socket : Nat}
    (found : client.sockets[socket]? = some .connecting) :
    ((client.setSocket socket .opened).handleOpen socket).Sound ∧
      ((client.setSocket socket .opened).handleOpen socket).Awake := by
  have used := sound.live socket _ found (.inl rfl)
  have notClosed : client.closed ≠ true := fun isClosed => by
    simp [(sound.quiet isClosed).1] at used
  have bound := (List.getElem?_eq_some_iff.mp found).1
  unfold handleOpen
  rw [if_neg (by simpa [setSocket] using used)]
  have isOpen : (client.setSocket socket .opened).readyState =
      some .opened := by
    simp [readyState, setSocket, used, bound]
  have fresh : readyState { client.setSocket socket .opened with
      retryIndex := 0, reported := some .connected } = some .opened := isOpen
  rcases subscribeActiveSession_spec fresh with ⟨sent, same, subscribed⟩
  rw [same] at subscribed ⊢
  refine ⟨?_, .inr (.inr (.inl (by simp [setSocket, used])))⟩
  exact {
    timers := sound.timers
    live := by
      intro other state found alive
      simp only [setSocket, List.getElem?_set] at found
      split_ifs at found with equal
      · exact equal ▸ used
      · exact sound.live other state found alive
    current := by
      intro other usesOther
      cases Option.some.inj (used.symm.trans usesOther)
      exact ⟨.opened, by simp [setSocket, bound], by simp⟩
    quiet := fun isClosed => absurd isClosed notClosed
    disconnected := by simpa [setSocket] using notClosed
    shows := fun state present => by
      cases Option.some.inj (isOpen.symm.trans present)
      exact ⟨rfl, subscribed⟩ }

theorem readyState_setSocket {socket : Nat} {after state : ReadyState}
    (ended : ¬ after.Alive) (alive : state.Alive)
    (shown : (client.setSocket socket after).readyState = some state) :
    client.readyState = some state := by
  rcases Option.bind_eq_some_iff.mp shown with ⟨used, uses, found⟩
  simp only [setSocket, List.getElem?_set] at found
  split_ifs at found with same bound
  · exact absurd (Option.some.inj found ▸ alive) ended
  · exact Option.bind_eq_some_iff.mpr ⟨used, uses, found⟩

theorem Sound.setDead (sound : client.Sound) {socket : Nat}
    {after : ReadyState} (ended : ¬ after.Alive)
    (usable : client.socket = some socket → after ≠ .closed) :
    (client.setSocket socket after).Sound where
  timers := sound.timers
  live := by
    intro other state found alive
    simp only [setSocket, List.getElem?_set] at found
    split_ifs at found with same bound
    · exact absurd (Option.some.inj found ▸ alive) ended
    · exact sound.live other state found alive
  current := by
    intro other used
    rcases sound.current other used with ⟨state, found, usableState⟩
    by_cases same : socket = other
    · subst same
      have bound := (List.getElem?_eq_some_iff.mp found).1
      exact ⟨after, by simp [setSocket, bound], usable used⟩
    · exact ⟨state, by simpa [setSocket, List.getElem?_set, same] using found,
        usableState⟩
  quiet := sound.quiet
  disconnected := sound.disconnected
  shows state present := by
    cases state with
    | connecting =>
      exact sound.shows _ (readyState_setSocket ended (.inl rfl) present)
    | opened =>
      exact sound.shows _ (readyState_setSocket ended (.inr rfl) present)
    | _ => trivial

theorem Sound.unused (sound : client.Sound) {socket : Nat}
    (ignored : client.socket ≠ some socket ∨ client.closed = true) :
    client.socket ≠ some socket := by
  rcases ignored with unused | isClosed
  · exact unused
  · simp [(sound.quiet isClosed).1]

theorem Sound.closed (sound : client.Sound) (socket : Nat) :
    ((client.setSocket socket .closed).handleClose socket).Sound ∧ (client.Awake →
        ((client.setSocket socket .closed).handleClose socket).Awake) := by
  have ended : ¬ ReadyState.closed.Alive := by simp [ReadyState.Alive]
  unfold handleClose
  split_ifs with ignored
  · have unused := sound.unused ignored
    exact ⟨sound.setDead ended fun used => absurd used unused,
      fun awake => awake.setSocket socket _⟩
  · simp only [not_or, not_not] at ignored
    have lost := (sound.loseSocket ignored.1 ended).scheduleReconnect rfl
    exact ⟨lost.1, fun _ => lost.2⟩

theorem Sound.failed (sound : client.Sound) {socket : Nat}
    {state after : ReadyState} (found : client.sockets[socket]? = some state)
    (ends : after = state ∨ after = state.close ∨ after = .closed) :
    ((client.setSocket socket after).handleSocketError socket).Sound ∧ (client.Awake →
        ((client.setSocket socket after).handleSocketError socket).Awake) := by
  unfold handleSocketError
  split_ifs with ignored
  · have unused := sound.unused ignored
    have ended : ¬ after.Alive := by
      intro alive
      rcases ends with rfl | rfl | rfl
      · exact unused (sound.live socket _ found alive)
      · exact close_dead state alive
      · simp [ReadyState.Alive] at alive
    exact ⟨sound.setDead ended fun used => absurd used unused,
      fun awake => awake.setSocket socket _⟩
  · simp only [not_or, not_not] at ignored
    have used : client.socket = some socket := ignored.1
    have dropped : (client.setSocket socket after).dropSocket.Sound := by
      refine sound.withoutSocket fun other later found => ?_
      simp only [setSocket, used, List.getElem?_modify, List.getElem?_set] at found
      rcases Option.map_eq_some_iff.mp found with ⟨before, present, rfl⟩
      split_ifs at present ⊢ with same bound
      · exact close_dead before
      · exact sound.dead_of_ne used same present
    have lost := dropped.scheduleReconnect rfl
    exact ⟨lost.1, fun _ => lost.2⟩

theorem step_sound {event : SocketEvent} (sound : client.Sound)
    (stepped : client.step event = some target) :
    target.Sound ∧ (client.Awake → target.Awake) := by
  cases event with
  | connect =>
    cases stepped
    exact ⟨sound.connect.1, fun _ => sound.connect.2⟩
  | setActiveSession sessionId =>
    cases stepped
    exact ⟨(sound.setActiveSession sessionId).1, fun _ => (sound.setActiveSession sessionId).2⟩
  | setLastEventId sessionId eventId =>
    cases stepped
    unfold SocketClient.setLastEventId
    split_ifs
    · exact ⟨{ sound with }, id⟩
    · exact ⟨sound, id⟩
  | reconnect =>
    cases stepped
    exact ⟨sound.reconnect.1, fun _ => sound.reconnect.2⟩
  | send text =>
    cases stepped
    unfold SocketClient.send
    split
    · refine ⟨{ sound with shows := fun state present => ?_ }, id⟩
      simpa [Shows, subscription] using sound.shows state present
    · exact ⟨sound, id⟩
  | close =>
    cases stepped
    exact ⟨sound.close, fun _ => .inr (.inl rfl)⟩
  | opened socket =>
    simp only [step, Option.ite_none_right_eq_some, Option.some.injEq] at stepped
    rcases stepped with ⟨found, rfl⟩
    exact ⟨(sound.opened found).1, fun _ => (sound.opened found).2⟩
  | message socket message =>
    simp only [step, Option.ite_none_right_eq_some, Option.some.injEq] at stepped
    rcases stepped with ⟨-, rfl⟩
    unfold handleMessage
    split
    · split_ifs
      · exact ⟨{ sound with }, id⟩
      · exact ⟨sound, id⟩
    · exact ⟨sound, id⟩
  | closing socket =>
    rcases Option.bind_eq_some_iff.mp stepped with ⟨state, found, stepped⟩
    simp only [Option.ite_none_left_eq_some, Option.some.injEq] at stepped
    rcases stepped with ⟨-, rfl⟩
    exact ⟨sound.setDead (by simp [ReadyState.Alive]) (by simp),
      fun awake => awake.setSocket socket _⟩
  | closed socket =>
    cases stepped
    exact sound.closed socket
  | failed socket after =>
    rcases Option.bind_eq_some_iff.mp stepped with ⟨state, found, stepped⟩
    simp only [Option.ite_none_right_eq_some, Option.some.injEq] at stepped
    rcases stepped with ⟨ends, rfl⟩
    exact sound.failed found ends
  | retry timer =>
    simp only [step, Option.ite_none_right_eq_some, Option.some.injEq] at stepped
    rcases stepped with ⟨pending, rfl⟩
    have none_left : client.timers.filter (·.1 ≠ timer) = [] := by
      rcases List.mem_map.mp pending with ⟨entry, listed, rfl⟩
      refine List.filter_eq_nil_iff.mpr fun other member => ?_
      have same := (sound.fst_of_mem listed).symm.trans
        (sound.fst_of_mem member)
      simp [Option.some.inj same]
    have fired := sound.withoutTimer none_left
    exact ⟨fired.connect.1, fun _ => fired.connect.2⟩

theorem reachable_sound (reached : machine.Reachable client) :
    client.Sound ∧ client.Awake := by
  induction reached with
  | start initially =>
    subst initially
    exact ⟨initial_sound, .inl rfl⟩
  | next _ _ stepped earlier =>
    have after := step_sound earlier.1 stepped
    exact ⟨after.1, after.2 earlier.2⟩

/-! ## What holds in every run -/

theorem socketRuns_oneConnection (reached : machine.Reachable client) :
    (∀ (socket : Nat) (state : ReadyState), client.sockets[socket]? = some state → state.Alive →
        client.closed = false ∧ client.socket = some socket) ∧
    client.timers.length ≤ 1 ∧
    (client.closed = true → client.timers = []) := by
  have sound := (reachable_sound reached).1
  refine ⟨?_, ?_, ?_⟩
  · intro socket state found alive
    have used := sound.live socket state found alive
    refine ⟨?_, used⟩
    by_contra isClosed
    simp [(sound.quiet (by simpa using isClosed)).1] at used
  · have counted := congrArg List.length sound.timers
    rw [List.length_map] at counted
    rw [counted]
    cases client.retryTimer <;> simp
  · intro isClosed
    simpa [(sound.quiet isClosed).2] using sound.timers

theorem socketRuns_neverStranded (reached : machine.Reachable client) :
    (client.sockets ≠ [] → client.closed = false →
      (∃ state, client.readyState = some state ∧ state ≠ .closed) ∨ client.timers.length = 1) ∧
    (client.readyState = some .opened → client.reported = some .connected) ∧
    (client.readyState = some .connecting → client.reported = some .connecting ∨
        client.reported = some .reconnecting) ∧
    (client.reported = some .disconnected ↔ client.closed = true) := by
  rcases reachable_sound reached with ⟨sound, awake⟩
  refine ⟨?_, fun isOpen => (sound.shows _ isOpen).1, sound.shows .connecting, sound.disconnected⟩
  intro started notClosed
  rcases awake with fresh | isClosed | used | waits
  · exact absurd fresh started
  · simp [notClosed] at isClosed
  · rcases Option.ne_none_iff_exists'.mp used with ⟨socket, used⟩
    rcases sound.current socket used with ⟨state, found, usable⟩
    exact .inl ⟨state, by simp [readyState, used, found], usable⟩
  · rcases Option.ne_none_iff_exists'.mp waits with ⟨timer, waits⟩
    have counted := congrArg List.length sound.timers
    simp only [List.length_map, waits, Option.toList_some, List.length_singleton] at counted
    exact .inr counted

theorem socketRuns_subscribed (reached : machine.Reachable client)
    (isOpen : client.readyState = some .opened) (sessionId : String)
    (named : sessionId ≠ "")
    (shown : client.activeSessionId = some sessionId) :
    client.subscription = some sessionId :=
  ((reachable_sound reached).1.shows _ isOpen).2 sessionId named shown

/-- The page shows a session, loses the connection and gets another. -/
def sampleEvents : List SocketEvent :=
  [.setActiveSession (some "s"), .opened 0, .closed 0, .retry 1, .opened 1]

/-- The client after these events. -/
def sampleClient : SocketClient := (machine.run initial sampleEvents).getD initial

theorem sampleClient_reachable : machine.Reachable sampleClient := by
  have evaluated : machine.run initial sampleEvents = some sampleClient := rfl
  exact Machine.Reachable.run (.start rfl) evaluated

theorem sampleClient_oneConnection : sampleClient.timers.length ≤ 1 :=
  (socketRuns_oneConnection sampleClient_reachable).2.1

theorem sampleClient_notStranded :
    (∃ state, sampleClient.readyState = some state ∧ state ≠ .closed) ∨
      sampleClient.timers.length = 1 :=
  (socketRuns_neverStranded sampleClient_reachable).1 (by decide) rfl

theorem sampleClient_subscribed : sampleClient.subscription = some "s" :=
  socketRuns_subscribed sampleClient_reachable rfl "s" (by decide) rfl

/-- A timer that is left pending hides the loss of the next socket. -/
example : ((machine.run initial [.connect, .closed 0, .setActiveSession none,
    .opened 1, .closed 1]).getD initial).reported = some .connected := rfl

end SocketClient

end TurningGood.Browser
