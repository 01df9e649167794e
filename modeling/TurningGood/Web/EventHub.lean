import Mathlib.Logic.Function.Basic
import Mathlib.Order.MinMax
import TurningGood.Foundation.Machine
import TurningGood.Foundation.NumberedLog

/-!
# The event hub and the cursors of its clients

The hub numbers the events of a session, keeps a bounded window of them, and
gives every subscriber a replay and a queue.  A subscriber whose cursor the
window covers gets the events behind it; any other gets a snapshot.  A client
keeps the number of the last event that it received, also when the gateway
restarts and numbers its events anew.

The hub keeps a window, a counter, a lock and the subscribers of each session
apart, and the model is of one session.  All events of the running process are
recorded beside the window.
-/

namespace TurningGood.Web

open TurningGood.Foundation

/-! ## The hub -/

/-- `SessionEvent` of the session. -/
structure SessionEvent (Payload : Type) where
  eventId : Nat
  requestId : String
  type : String
  payload : Payload
  createdAt : String
  deriving DecidableEq, Repr

/-- The number of an event, and the process that gave it. -/
structure EventCursor where
  process : Nat
  eventId : Nat
  deriving DecidableEq, Repr

/-- A client that waits for its snapshot, with the cursor it came with. -/
structure Subscriber where
  client : Nat
  cursor : EventCursor
  deriving DecidableEq, Repr

/-- A replay and a queue, with all that was put in it, and what was read. -/
structure Subscription (Payload : Type) where
  subscriber : Subscriber
  published : Nat
  replay : List (SessionEvent Payload)
  queue : List (SessionEvent Payload)
  taken : Nat
  deriving DecidableEq

/-- `SessionEventHub`, for one session. -/
structure SessionChannel (Payload : Type) where
  bufferSize : Nat
  eventId : Nat
  events : List (SessionEvent Payload)
  snapshotting : Option Subscriber
  subscriptions : List (Subscription Payload)
  log : List (SessionEvent Payload)
  deriving DecidableEq

/-- The type of the event that only `_snapshot_event` makes. -/
def snapshotType : String := "session.snapshot"

namespace SessionChannel

variable {Payload : Type} (channel : SessionChannel Payload)

/-- `deque(maxlen=buffer_size).append`. -/
def remember (event : SessionEvent Payload) : List (SessionEvent Payload) :=
  (channel.events ++ [event]).drop ((channel.events.length + 1) - channel.bufferSize)

/-- `publish` with the lock, and the puts right after it. -/
def publish (requestId type : String) (payload : Payload)
    (createdAt : String) : SessionChannel Payload :=
  let event :=
    ⟨channel.eventId + 1, requestId, type, payload, createdAt⟩
  { channel with
    eventId := channel.eventId + 1
    events := channel.remember event
    subscriptions := channel.subscriptions.map fun subscription =>
        { subscription with queue := subscription.queue ++ [event] }
    log := channel.log ++ [event] }

/-- The window holds every event behind the cursor. -/
def Covers (afterEventId : Nat) : Prop :=
  ∃ oldest ∈ channel.events.head?, oldest.eventId - 1 ≤ afterEventId

instance (afterEventId : Nat) : Decidable (channel.Covers afterEventId) :=
  inferInstanceAs (Decidable (∃ oldest ∈ channel.events.head?, _))

/-- `unsubscribe`. -/
def unsubscribe (client : Nat) : SessionChannel Payload :=
  { channel with
    subscriptions := channel.subscriptions.filter fun subscription =>
        subscription.subscriber.client ≠ client }

/-- Add a subscriber with its replay. -/
def attach (subscriber : Subscriber)
    (replay : List (SessionEvent Payload)) : SessionChannel Payload :=
  { channel with
    snapshotting := none
    subscriptions := ⟨subscriber, channel.log.length, replay, [], 0⟩ :: channel.subscriptions }

/-- `subscribe` with the lock, up to the end or to its snapshot. -/
def subscribe (subscriber : Subscriber) : SessionChannel Payload :=
  let afterEventId := subscriber.cursor.eventId
  if channel.Covers afterEventId then
    channel.attach subscriber (channel.events.filter fun event => afterEventId < event.eventId)
  else
    { channel with snapshotting := some subscriber }

/-- `_snapshot_event`; the counter was read before the snapshot was made. -/
def snapshotEvent (payload : Payload) (createdAt : String) : SessionEvent Payload where
  eventId := channel.eventId
  requestId := ""
  type := snapshotType
  payload := payload
  createdAt := createdAt

end SessionChannel

/-- `SessionSocketClient` with its cursor, and the cursor in its cache. -/
structure EventClient where
  cursor : EventCursor
  stored : EventCursor
  deriving DecidableEq, Repr

namespace EventClient

variable (client : EventClient)

/-- `handleMessage` of the active session; the number zero is ignored. -/
def handleMessage (process eventId : Nat) : EventClient :=
  if eventId = 0 then
    client
  else
    { client with cursor := ⟨process, eventId⟩ }

/-- `setLastEventId` with the cursor of the cache. -/
def setLastEventId : EventClient :=
  if client.cursor.eventId < client.stored.eventId then
    { client with cursor := client.stored }
  else
    client

/-- `writeSessionCache`. -/
def writeSessionCache : EventClient :=
  { client with stored := client.cursor }

/-- A page that is opened again starts from the cursor of its cache. -/
def reopen (process : Nat) : EventClient :=
  { client with cursor := ⟨process, 0⟩ }.setLastEventId

end EventClient

/-- The gateway processes, counted, and the clients of a session. -/
structure EventSystem (Payload : Type) where
  process : Nat
  channel : SessionChannel Payload
  clients : Nat → EventClient

/-! ## Runs -/

/-- What can happen to the hub and its clients next. -/
inductive HubAction (Payload : Type) where
  | publish (requestId type : String) (payload : Payload)
      (createdAt : String)
  | subscribe (client : Nat)
  | snapshotReady (payload : Payload) (createdAt : String)
  | snapshotFailed
  | receive (client : Nat)
  | disconnect (client : Nat)
  | restoreCursor (client : Nat)
  | writeCache (client : Nat)
  | reopen (client : Nat)
  | restart
  deriving DecidableEq, Repr

namespace EventSystem

variable {Payload : Type} (system : EventSystem Payload)

/-- One client changes its cursors. -/
def onClient (client : Nat) (change : EventClient → EventClient) :
    EventSystem Payload :=
  { system with
    clients := Function.update system.clients client (change (system.clients client)) }

/-- The next item of a subscription. -/
def nextItem (client : Nat) : Option (SessionEvent Payload) :=
  (system.channel.subscriptions.find? fun subscription =>
      subscription.subscriber.client = client).bind fun subscription =>
    (subscription.replay ++ subscription.queue)[subscription.taken]?

/-- A client takes an item from its subscription. -/
def take (client : Nat) : EventSystem Payload :=
  { system with
    channel := { system.channel with
      subscriptions := system.channel.subscriptions.map fun subscription =>
          if subscription.subscriber.client = client then
            { subscription with taken := subscription.taken + 1 }
          else
            subscription } }

/-- A process without events. -/
def freshChannel (bufferSize : Nat) : SessionChannel Payload where
  bufferSize := bufferSize
  eventId := 0
  events := []
  snapshotting := none
  subscriptions := []
  log := []

/--
One step; while a snapshot is made its lock is held.  No caller publishes
under the type of a snapshot.
-/
def step : HubAction Payload → Option (EventSystem Payload)
  | .publish requestId type payload createdAt =>
    if system.channel.snapshotting = none ∧ type ≠ snapshotType then
      some { system with
        channel := system.channel.publish requestId type payload createdAt }
    else
      none
  | .subscribe client =>
    if system.channel.snapshotting = none then
      some { system with
        channel := (system.channel.unsubscribe client).subscribe
            ⟨client, (system.clients client).cursor⟩ }
    else
      none
  | .snapshotReady payload createdAt =>
    system.channel.snapshotting.map fun subscriber =>
      { system with
        channel := system.channel.attach subscriber
            [system.channel.snapshotEvent payload createdAt] }
  | .snapshotFailed =>
    some { system with
      channel := { system.channel with snapshotting := none } }
  | .receive client =>
    (system.nextItem client).map fun event =>
      (system.take client).onClient client fun reader =>
        reader.handleMessage system.process event.eventId
  | .disconnect client =>
    some { system with channel := system.channel.unsubscribe client }
  | .restoreCursor client =>
    some (system.onClient client EventClient.setLastEventId)
  | .writeCache client =>
    some (system.onClient client EventClient.writeSessionCache)
  | .reopen client =>
    some ({ system with
      channel := system.channel.unsubscribe client }.onClient client
        fun reader => reader.reopen system.process)
  | .restart =>
    some { system with
      process := system.process + 1
      channel := freshChannel system.channel.bufferSize }

end EventSystem

/-- The runs of a hub whose clients have received nothing. -/
def hubMachine (Payload : Type) : Machine (EventSystem Payload) (HubAction Payload) where
  initial system := ∃ bufferSize, system =
      ⟨0, EventSystem.freshChannel bufferSize, fun _ => ⟨⟨0, 0⟩, ⟨0, 0⟩⟩⟩
  step := EventSystem.step

namespace EventSystem

variable {Payload : Type} {system : EventSystem Payload}

/-- How many events of the running process the subscriber had received. -/
def seen (system : EventSystem Payload) (subscription : Subscription Payload) : Nat :=
  if subscription.subscriber.cursor.process = system.process then
    subscription.subscriber.cursor.eventId
  else
    0

/--
The events are numbered without gaps, and the subscriber gets either exactly
those that it had not received, in their order, or a snapshot and exactly
those that were published after it.
-/
structure Resumes
    (system : EventSystem Payload) (subscription : Subscription Payload) :
    Prop where
  numbered : Numbered SessionEvent.eventId system.channel.log
  resumes : subscription.replay ++ subscription.queue =
        system.channel.log.drop (system.seen subscription) ∨
      ∃ snapshot, subscription.replay = [snapshot] ∧ snapshot.type = snapshotType ∧
          subscription.queue = system.channel.log.drop snapshot.eventId

/--
The cursor is of the running process, or stands for nothing received; or,
when the client subscribed, the window was empty or its oldest event was more
than one above the cursor.
-/
def CursorFits (system : EventSystem Payload) (subscription : Subscription Payload) :
    Prop :=
  subscription.subscriber.cursor.process = system.process ∨
    subscription.subscriber.cursor.eventId = 0 ∨
      min subscription.published system.channel.bufferSize = 0 ∨
        subscription.subscriber.cursor.eventId < subscription.published - system.channel.bufferSize

instance (system : EventSystem Payload) (subscription : Subscription Payload) :
    Decidable (system.CursorFits subscription) :=
  inferInstanceAs (Decidable (_ ∨ _ ∨ _ ∨ _))

/-! ## The invariant -/

/-- A window of the last events covers a cursor. -/
def WindowCovers (published bufferSize cursor : Nat) : Prop :=
  min published bufferSize ≠ 0 ∧ published - bufferSize ≤ cursor

/-- A cursor of the running process stands at an event of its log. -/
def Known (system : EventSystem Payload) (cursor : EventCursor) : Prop :=
  cursor.process ≤ system.process ∧ (cursor.process = system.process →
      cursor.eventId ≤ system.channel.log.length)

/-- How a subscriber was served. -/
structure SubscriptionSound
    (system : EventSystem Payload) (subscription : Subscription Payload) :
    Prop where
  bounded : subscription.published ≤ system.channel.log.length
  queue : subscription.queue = system.channel.log.drop subscription.published
  known : subscription.subscriber.cursor.process = system.process →
      subscription.subscriber.cursor.eventId ≤ subscription.published
  served : (WindowCovers subscription.published system.channel.bufferSize
          subscription.subscriber.cursor.eventId ∧
        subscription.replay = (system.channel.log.take subscription.published).drop
            subscription.subscriber.cursor.eventId) ∨
      (¬ WindowCovers subscription.published system.channel.bufferSize
          subscription.subscriber.cursor.eventId ∧
        ∃ snapshot, subscription.replay = [snapshot] ∧ snapshot.type = snapshotType ∧
            snapshot.eventId = subscription.published)

/-- What holds of the hub and the cursors in every state. -/
structure Sound (system : EventSystem Payload) : Prop where
  numbered : Numbered SessionEvent.eventId system.channel.log
  counter : system.channel.eventId = system.channel.log.length
  window : system.channel.events = system.channel.log.drop
        (system.channel.log.length - system.channel.bufferSize)
  types : ∀ event ∈ system.channel.log, event.type ≠ snapshotType
  clients : ∀ client, system.Known (system.clients client).cursor ∧
      system.Known (system.clients client).stored
  waiting : ∀ subscriber ∈ system.channel.snapshotting, system.Known subscriber.cursor ∧
        ¬ WindowCovers system.channel.log.length system.channel.bufferSize subscriber.cursor.eventId
  subscriptions : ∀ subscription ∈ system.channel.subscriptions,
      system.SubscriptionSound subscription

theorem Sound.covers_iff (sound : system.Sound) (cursor : Nat) : system.channel.Covers cursor ↔
      WindowCovers system.channel.log.length system.channel.bufferSize
        cursor := by
  unfold SessionChannel.Covers WindowCovers
  rw [sound.window, List.head?_drop]
  constructor
  · rintro ⟨oldest, found, near⟩
    have place := sound.numbered _ oldest found
    have inside := (List.getElem?_eq_some_iff.mp found).1
    exact ⟨by omega, by omega⟩
  · rintro ⟨held, near⟩
    have inside : system.channel.log.length - system.channel.bufferSize <
        system.channel.log.length := by omega
    have found := List.getElem?_eq_getElem inside
    refine ⟨_, found, ?_⟩
    have place := sound.numbered _ _ found
    omega

theorem SubscriptionSound.item_bounded (sound : system.Sound) {subscription : Subscription Payload}
    (served : system.SubscriptionSound subscription)
    {item : SessionEvent Payload}
    (member : item ∈ subscription.replay ++ subscription.queue) :
    item.eventId ≤ system.channel.log.length := by
  have logged : ∀ event ∈ system.channel.log,
      event.eventId ≤ system.channel.log.length := by
    intro event inside
    refine sound.numbered.le_of_mem_take ?_
    rw [List.take_length]
    exact inside
  rcases List.mem_append.mp member with replayed | queued
  · rcases served.served with ⟨_, replay⟩ | ⟨_, snapshot, replay, _, number⟩
    · rw [replay] at replayed
      exact logged item (List.mem_of_mem_take (List.mem_of_mem_drop replayed))
    · rw [replay, List.mem_singleton] at replayed
      rw [replayed, number]
      exact served.bounded
  · rw [served.queue] at queued
    exact logged item (List.mem_of_mem_drop queued)

theorem Sound.of_channel
    {target : EventSystem Payload} (sound : system.Sound)
    (process : target.process = system.process)
    (bufferSize : target.channel.bufferSize = system.channel.bufferSize)
    (eventId : target.channel.eventId = system.channel.eventId)
    (events : target.channel.events = system.channel.events)
    (log : target.channel.log = system.channel.log)
    (clients : ∀ client, target.Known (target.clients client).cursor ∧
        target.Known (target.clients client).stored)
    (waiting : ∀ subscriber ∈ target.channel.snapshotting,
        system.Known subscriber.cursor ∧ ¬ WindowCovers system.channel.log.length
            system.channel.bufferSize subscriber.cursor.eventId)
    (subscriptions : ∀ subscription ∈ target.channel.subscriptions,
        system.SubscriptionSound subscription) : target.Sound := by
  refine ⟨?_, ?_, ?_, ?_, clients, ?_, ?_⟩
  · rw [log]
    exact sound.numbered
  · rw [eventId, log]
    exact sound.counter
  · rw [events, log, bufferSize]
    exact sound.window
  · rw [log]
    exact sound.types
  · intro subscriber member
    rw [Known, process, log, bufferSize]
    exact waiting subscriber member
  · intro subscription member
    rcases subscriptions subscription member with ⟨bounded, queue, known, served⟩
    refine ⟨?_, ?_, ?_, ?_⟩
    · rw [log]
      exact bounded
    · rw [log]
      exact queue
    · rw [process]
      exact known
    · rw [log, bufferSize]
      exact served

/-! ## The steps -/

theorem remember_eq_drop (channel : SessionChannel Payload) (event : SessionEvent Payload)
    (window : channel.events = channel.log.drop (channel.log.length - channel.bufferSize)) :
    channel.remember event = (channel.log ++ [event]).drop
        ((channel.log ++ [event]).length - channel.bufferSize) := by
  unfold SessionChannel.remember
  have start : channel.log.length - channel.bufferSize ≤
      channel.log.length := Nat.sub_le _ _
  rw [window, ← List.drop_append_of_le_length start, List.drop_drop,
    List.length_drop, List.length_append, List.length_singleton]
  congr 1
  omega

theorem publish_sound (sound : system.Sound) (requestId : String) {type : String}
    (payload : Payload) (createdAt : String)
    (free : system.channel.snapshotting = none)
    (ordinary : type ≠ snapshotType) :
    Sound { system with
      channel :=
        system.channel.publish requestId type payload createdAt } := by
  have longer : ∀ event : SessionEvent Payload,
      (system.channel.log ++ [event]).length =
        system.channel.log.length + 1 := by simp
  have known : ∀ cursor, system.Known cursor →
      Known { system with
        channel := system.channel.publish requestId type payload createdAt }
        cursor := by
    intro cursor before
    refine ⟨before.1, fun same => ?_⟩
    have bounded := before.2 same
    have length : (system.channel.publish requestId type payload
        createdAt).log.length = system.channel.log.length + 1 := longer _
    exact length ▸ Nat.le_succ_of_le bounded
  refine ⟨?_, ?_, ?_, ?_, ?_, ?_, ?_⟩
  · refine sound.numbered.append ?_
    rw [sound.counter]
  · exact (congrArg (· + 1) sound.counter).trans (longer _).symm
  · exact remember_eq_drop _ _ sound.window
  · intro event member
    rcases List.mem_append.mp member with old | new
    · exact sound.types event old
    · rw [List.mem_singleton] at new
      rw [new]
      exact ordinary
  · exact fun client =>
      ⟨known _ (sound.clients client).1, known _ (sound.clients client).2⟩
  · intro subscriber member
    have waits : system.channel.snapshotting = some subscriber := member
    rw [free] at waits
    cases waits
  · intro subscription member
    rcases List.mem_map.mp member with ⟨before, old, rfl⟩
    have served := sound.subscriptions before old
    refine ⟨?_, ?_, served.known, ?_⟩
    · exact (longer _).symm ▸ Nat.le_succ_of_le served.bounded
    · rw [served.queue]
      exact (List.drop_append_of_le_length served.bounded).symm
    · have kept : ∀ event, (system.channel.log ++ [event]).take
          before.published = system.channel.log.take before.published :=
        fun event => List.take_append_of_le_length served.bounded
      rcases served.served with ⟨covers, replay⟩ | snapshot
      · exact .inl ⟨covers, replay.trans (congrArg _ (kept _).symm)⟩
      · exact .inr snapshot

theorem attach_sound (sound : system.Sound) {subscriber : Subscriber}
    {replay : List (SessionEvent Payload)}
    (known : system.Known subscriber.cursor)
    (served : (WindowCovers system.channel.log.length system.channel.bufferSize
            subscriber.cursor.eventId ∧
          replay = system.channel.log.drop subscriber.cursor.eventId) ∨
        (¬ WindowCovers system.channel.log.length system.channel.bufferSize
            subscriber.cursor.eventId ∧
          ∃ snapshot, replay = [snapshot] ∧ snapshot.type = snapshotType ∧
            snapshot.eventId = system.channel.log.length)) :
    Sound { system with
      channel := system.channel.attach subscriber replay } := by
  refine sound.of_channel rfl rfl rfl rfl rfl sound.clients
    (by rintro _ ⟨⟩) ?_
  intro subscription member
  rcases List.mem_cons.mp member with rfl | old
  · refine ⟨Nat.le_refl _, by rw [List.drop_length], known.2, ?_⟩
    rw [List.take_length]
    exact served
  · exact sound.subscriptions subscription old

theorem unsubscribe_sound (sound : system.Sound) (client : Nat) :
    Sound { system with channel := system.channel.unsubscribe client } :=
  sound.of_channel rfl rfl rfl rfl rfl sound.clients sound.waiting fun subscription member =>
      sound.subscriptions subscription (List.mem_of_mem_filter member)

theorem subscribe_sound (sound : system.Sound) {subscriber : Subscriber}
    (known : system.Known subscriber.cursor) :
    Sound { system with
      channel := system.channel.subscribe subscriber } := by
  unfold SessionChannel.subscribe
  dsimp only
  split_ifs with covers
  · rw [sound.covers_iff] at covers
    refine attach_sound sound known (.inl ⟨covers, ?_⟩)
    rw [sound.window]
    exact sound.numbered.filter_window covers.2
  · rw [sound.covers_iff] at covers
    refine sound.of_channel rfl rfl rfl rfl rfl sound.clients ?_ sound.subscriptions
    rintro _ ⟨⟩
    exact ⟨known, covers⟩

theorem onClient_sound (sound : system.Sound) (client : Nat)
    {change : EventClient → EventClient}
    (known : system.Known (change (system.clients client)).cursor ∧
        system.Known (change (system.clients client)).stored) :
    (system.onClient client change).Sound := by
  refine sound.of_channel rfl rfl rfl rfl rfl ?_ sound.waiting sound.subscriptions
  intro other
  by_cases same : other = client
  · subst same
    simp only [onClient, Function.update_self]
    exact known
  · simp only [onClient, Function.update_of_ne same]
    exact sound.clients other

theorem setLastEventId_known
    {client : EventClient}
    (known : system.Known client.cursor ∧ system.Known client.stored) :
    system.Known client.setLastEventId.cursor ∧
      system.Known client.setLastEventId.stored := by
  unfold EventClient.setLastEventId
  split_ifs
  · exact ⟨known.2, known.2⟩
  · exact known

theorem receive_sound (sound : system.Sound) {client : Nat} {event : SessionEvent Payload}
    (found : system.nextItem client = some event) :
    ((system.take client).onClient client fun reader =>
      reader.handleMessage system.process event.eventId).Sound := by
  rcases Option.bind_eq_some_iff.mp found with ⟨subscription, reads, item⟩
  have served := sound.subscriptions subscription
    (List.mem_of_find?_eq_some reads)
  have bounded := served.item_bounded sound (List.mem_of_getElem? item)
  have taken : (system.take client).Sound := by
    refine sound.of_channel rfl rfl rfl rfl rfl sound.clients sound.waiting ?_
    intro other member
    rcases List.mem_map.mp member with ⟨before, old, rfl⟩
    have spec := sound.subscriptions before old
    split_ifs
    · exact ⟨spec.bounded, spec.queue, spec.known, spec.served⟩
    · exact spec
  refine onClient_sound taken client ?_
  unfold EventClient.handleMessage
  split_ifs
  · exact taken.clients client
  · exact ⟨⟨Nat.le_refl _, fun _ => bounded⟩, (taken.clients client).2⟩

theorem step_sound
    {action : HubAction Payload} {target : EventSystem Payload}
    (sound : system.Sound) (stepped : system.step action = some target) :
    target.Sound := by
  cases action with
  | publish requestId type payload createdAt =>
    simp only [step] at stepped
    split_ifs at stepped with allowed
    cases stepped
    exact publish_sound sound requestId payload createdAt allowed.1 allowed.2
  | subscribe client =>
    simp only [step] at stepped
    split_ifs at stepped
    cases stepped
    exact subscribe_sound (unsubscribe_sound sound client) (sound.clients client).1
  | snapshotReady payload createdAt =>
    rcases Option.map_eq_some_iff.mp stepped with ⟨subscriber, waits, rfl⟩
    have waiting := sound.waiting subscriber waits
    exact attach_sound sound waiting.1 (.inr ⟨waiting.2, _, rfl, rfl, sound.counter⟩)
  | snapshotFailed =>
    cases stepped
    exact sound.of_channel rfl rfl rfl rfl rfl sound.clients
      (by rintro _ ⟨⟩) sound.subscriptions
  | receive client =>
    rcases Option.map_eq_some_iff.mp stepped with ⟨event, found, rfl⟩
    exact receive_sound sound found
  | disconnect client =>
    cases stepped
    exact unsubscribe_sound sound client
  | restoreCursor client =>
    cases stepped
    exact onClient_sound sound client (setLastEventId_known (sound.clients client))
  | writeCache client =>
    cases stepped
    exact onClient_sound sound client ⟨(sound.clients client).1, (sound.clients client).1⟩
  | reopen client =>
    cases stepped
    refine onClient_sound (unsubscribe_sound sound client) client ?_
    exact setLastEventId_known ⟨⟨Nat.le_refl _, fun _ => Nat.zero_le _⟩, (sound.clients client).2⟩
  | restart =>
    cases stepped
    have known : ∀ cursor, system.Known cursor →
        Known ({ system with
          process := system.process + 1
          channel := freshChannel system.channel.bufferSize } :
            EventSystem Payload) cursor := by
      intro cursor before
      refine ⟨Nat.le_succ_of_le before.1, fun same => ?_⟩
      have earlier := before.1
      rw [same] at earlier
      exact absurd earlier (Nat.not_succ_le_self _)
    refine ⟨by rintro index item ⟨⟩, rfl, List.drop_nil.symm,
      by rintro event ⟨⟩, fun client => ?_, by rintro subscriber ⟨⟩,
      by rintro subscription ⟨⟩⟩
    exact ⟨known _ (sound.clients client).1, known _ (sound.clients client).2⟩

theorem fresh_sound (bufferSize : Nat) :
    Sound (⟨0, freshChannel bufferSize, fun _ => ⟨⟨0, 0⟩, ⟨0, 0⟩⟩⟩ :
      EventSystem Payload) :=
  ⟨by rintro index item ⟨⟩, rfl, List.drop_nil.symm, by rintro event ⟨⟩,
    fun _ => ⟨⟨Nat.le_refl _, fun _ => Nat.zero_le _⟩, ⟨Nat.le_refl _, fun _ => Nat.zero_le _⟩⟩,
    by rintro subscriber ⟨⟩, by rintro subscription ⟨⟩⟩

theorem SubscriptionSound.resumes_iff (sound : system.Sound) {subscription : Subscription Payload}
    (served : system.SubscriptionSound subscription) :
    system.Resumes subscription ↔ system.CursorFits subscription := by
  rcases served with ⟨bounded, queue, known, served⟩
  rcases served with ⟨⟨held, near⟩, replay⟩ | ⟨uncovered, snapshot⟩
  · -- The window covered the cursor, and its events were replayed.
    constructor
    · rintro ⟨_, whole | ⟨snapshot, single, type, _⟩⟩
      · by_contra fits
        simp only [CursorFits, not_or] at fits
        have nothing : system.seen subscription = 0 := if_neg fits.1
        have lengths := congrArg List.length whole
        rw [replay, queue, nothing, List.length_append, List.length_drop,
          List.length_take, List.length_drop, List.length_drop] at lengths
        omega
      · have replayed : snapshot ∈ subscription.replay := by
          rw [single]
          exact List.mem_cons_self
        rw [replay] at replayed
        exact absurd type (sound.types snapshot
          (List.mem_of_mem_take (List.mem_of_mem_drop replayed)))
    · intro fits
      have place :
          subscription.subscriber.cursor.eventId = system.seen subscription ∧
          subscription.subscriber.cursor.eventId ≤
            subscription.published := by
        unfold seen
        rcases fits with same | zero | empty | far
        · exact ⟨(if_pos same).symm, known same⟩
        · rw [zero]
          exact ⟨by split_ifs <;> rfl, Nat.zero_le _⟩
        · exact absurd empty held
        · omega
      refine ⟨sound.numbered, .inl ?_⟩
      rw [replay, queue, ← place.1]
      have split := List.take_append_drop subscription.published
        system.channel.log
      conv_rhs => rw [← split]
      refine (List.drop_append_of_le_length ?_).symm
      rw [List.length_take, min_eq_left bounded]
      exact place.2
  · -- It did not, and the subscriber got a snapshot.
    rcases snapshot with ⟨snapshot, single, type, number⟩
    refine iff_of_true ⟨sound.numbered, .inr ⟨snapshot, single, type, ?_⟩⟩ ?_
    · rw [number]
      exact queue
    · rw [WindowCovers, not_and_or, not_not, Nat.not_le] at uncovered
      rcases uncovered with empty | far
      · exact .inr (.inr (.inl empty))
      · exact .inr (.inr (.inr far))

/--
In every state of every run a subscriber gets all that it had not received,
or a snapshot and all that came after it, if and only if its cursor was of
the running process, stood for nothing received, or was not covered by the
window.
-/
theorem subscription_resumes_iff (reached : (hubMachine Payload).Reachable system)
    (subscription : Subscription Payload)
    (member : subscription ∈ system.channel.subscriptions) :
    system.Resumes subscription ↔ system.CursorFits subscription := by
  have sound : system.Sound := by
    refine reached.invariant ?_ ?_
    · rintro _ ⟨bufferSize, rfl⟩
      exact fresh_sound bufferSize
    · intro earlier action target _ sound _ stepped
      exact step_sound sound stepped
  exact (sound.subscriptions subscription member).resumes_iff sound

/-- A client receives one event, and one is published after a restart. -/
def restartedHub : List (HubAction Unit) :=
  [.publish "r" "task.queued" () "t", .subscribe 0, .receive 0, .restart,
    .publish "s" "task.queued" () "t"]

/-- The system at the start of the first process. -/
def emptyHub : EventSystem Unit := ⟨0, freshChannel 512, fun _ => ⟨⟨0, 0⟩, ⟨0, 0⟩⟩⟩

/-- The client of the first process never gets the event of the second. -/
theorem restart_skips_event : ∃ system, (hubMachine Unit).run emptyHub
          (restartedHub ++ [.subscribe 0]) = some system ∧
        ∃ subscription ∈ system.channel.subscriptions,
          system.channel.log.length = 1 ∧ ¬ system.Resumes subscription := by
  refine ⟨_, rfl, _, List.mem_cons_self, rfl, ?_⟩
  rintro ⟨_, whole | ⟨snapshot, single, _⟩⟩
  · exact Nat.zero_ne_one (congrArg List.length whole)
  · exact Nat.zero_ne_one (congrArg List.length single)

/-- Another client, which has received nothing, gets it. -/
theorem restart_resumes_new_client : ∃ system, (hubMachine Unit).run emptyHub
          (restartedHub ++ [.subscribe 1]) = some system ∧
        ∃ subscription ∈ system.channel.subscriptions,
          subscription.replay.length = 1 ∧ system.Resumes subscription := by
  refine ⟨_, rfl, _, List.mem_cons_self, rfl, ?_⟩
  have started : (hubMachine Unit).Reachable emptyHub :=
    .start ⟨512, rfl⟩
  have evaluated :
      (hubMachine Unit).run emptyHub (restartedHub ++ [.subscribe 1]) =
        some _ := rfl
  exact (subscription_resumes_iff (.run started evaluated) _
    List.mem_cons_self).mpr (.inr (.inl rfl))

end EventSystem
end TurningGood.Web
