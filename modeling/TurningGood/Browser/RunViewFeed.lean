import TurningGood.Browser.SessionState
import TurningGood.Browser.RebuiltRunView
import TurningGood.Foundation.Modify

/-!
# What a page receives of a run

A page that has not seen anything of a run receives a snapshot that covers
the first events of the run, and others live.  Each live event merges the
view that is rebuilt from the live events over the one that is held, which
stays once it shows an end.
-/

namespace TurningGood.Browser

open TurningGood.Foundation
open TurningGood.MultiAgent (RunStatus Strategy MultiAgentNode RunIdentity
  Report EventFilter EventMetadata RunView NodeView runStatuses nodeStatuses
  decided shownStatus nodeStatusOf rowsOf readMultiAgentRuns ShowsReports
  Formed)

variable {reports : List Report} {next : MultiAgentRunSummary}

/-! ## The events that a rebuilt view takes in -/

/-- The report ends the run. -/
def endsRun (report : Report) : Bool := report.runStatus?.any RunStatus.isTerminal

/-- The reports up to the first end of the run. -/
def upToEnd : List Report → List Report
  | [] => []
  | report :: rest =>
    if endsRun report then [report] else report :: upToEnd rest

/--
The reports that a rebuilt view takes in: the first one, and if its status is
not terminal also the others up to the first end of the run.
-/
def takenIn : List Report → List Report
  | [] => []
  | first :: rest =>
    if first.status.isTerminal then [first] else first :: upToEnd rest

theorem upToEnd_of_open (unended : reports.any endsRun = false) :
    upToEnd reports = reports := by
  induction reports with
  | nil => rfl
  | cons report rest induction =>
    rw [List.any_cons, Bool.or_eq_false_iff] at unended
    rw [upToEnd, unended.1, if_neg Bool.false_ne_true, induction unended.2]

theorem upToEnd_append (ended : reports.any endsRun = true)
    (later : List Report) : upToEnd (reports ++ later) = upToEnd reports := by
  induction reports with
  | nil => cases ended
  | cons report rest induction =>
    rw [List.cons_append, upToEnd, upToEnd]
    cases ends : endsRun report with
    | true => rfl
    | false =>
      rw [List.any_cons, ends, Bool.false_or] at ended
      rw [if_neg Bool.false_ne_true, if_neg Bool.false_ne_true, induction ended]

theorem upToEnd_append_of_open (unended : reports.any endsRun = false) (report : Report) :
    upToEnd (reports ++ [report]) = reports ++ [report] := by
  induction reports with
  | nil =>
    rw [List.nil_append, upToEnd, upToEnd]
    exact ite_self _
  | cons first rest induction =>
    rw [List.any_cons, Bool.or_eq_false_iff] at unended
    rw [List.cons_append, upToEnd, unended.1, if_neg Bool.false_ne_true, induction unended.2]

theorem upToEnd_split (reports : List Report) : ∃ later, reports = upToEnd reports ++ later := by
  induction reports with
  | nil => exact ⟨[], rfl⟩
  | cons report rest induction =>
    rw [upToEnd]
    split_ifs
    · exact ⟨rest, rfl⟩
    · rcases induction with ⟨later, whole⟩
      exact ⟨later, by rw [List.cons_append, ← whole]⟩

theorem any_upToEnd (reports : List Report) :
    (upToEnd reports).any endsRun = reports.any endsRun := by
  induction reports with
  | nil => rfl
  | cons report rest induction =>
    rw [upToEnd]
    cases ends : endsRun report with
    | true => simp [ends]
    | false => simp [ends, induction]

theorem any_endsRun (reports : List Report) : reports.any endsRun =
      (decided (runStatuses reports)).any RunStatus.isTerminal := by
  rw [MultiAgent.decided_any_isTerminal, runStatuses, List.any_filterMap]
  congr 1

theorem rebuiltStatus_isTerminal {first : Report} {rest : List Report}
    (active : first.status.isTerminal = false) :
    (rebuiltStatus (first :: rest)).isTerminal = rest.any endsRun := by
  have own : endsRun first = false := by
    cases first with
    | run status error errorCode => exact active
    | node found => rfl
  have all := any_endsRun (first :: rest)
  rw [List.any_cons, own, Bool.false_or] at all
  rw [rebuiltStatus, all]
  cases decided (runStatuses (first :: rest)) with
  | none => exact active
  | some status => rfl

theorem takenIn_append (some_ : reports ≠ []) (report : Report) : takenIn (reports ++ [report]) =
      if (rebuiltStatus (takenIn reports)).isTerminal then takenIn reports
      else reports ++ [report] := by
  cases reports with
  | nil => exact absurd rfl some_
  | cons first rest =>
    rw [List.cons_append, takenIn, takenIn]
    cases ends : first.status.isTerminal with
    | true =>
      have closed : (rebuiltStatus [first]).isTerminal = true := by
        cases first <;> exact ends
      rw [if_pos rfl, if_pos rfl, if_pos closed]
    | false =>
      rw [if_neg Bool.false_ne_true, if_neg Bool.false_ne_true,
        rebuiltStatus_isTerminal ends, any_upToEnd]
      cases ended : rest.any endsRun with
      | true => rw [if_pos rfl, upToEnd_append ended]
      | false =>
        rw [if_neg Bool.false_ne_true, upToEnd_append_of_open ended]

theorem takenIn_singleton (report : Report) : takenIn [report] = [report] := ite_self _

/-! ## What the page receives -/

/-- A run whose parent request has a name that is not blank. -/
structure WebRun extends RunIdentity where
  shown : textOrNull (some parentRequestId) = some parentRequestId

/-- How the session of a page is served. -/
structure Feed where
  filter : EventFilter
  sessionId : String
  createdAt : Nat → Option String
  clock : Nat → String

section Feed

variable (feed : Feed) (run : WebRun)

/-- The event with which a report arrives. -/
def liveEvent (eventId : Nat) (report : Report) : TaskEvent where
  eventId := some eventId
  sessionId := feed.sessionId
  requestId := run.parentRequestId
  type := .multiAgent (reportType report)
  payload := {
    run := livePayload (report.metadata feed.filter run.toRunIdentity) }
  createdAt := feed.createdAt eventId

/-- The page receives reports live. -/
def receiveLive : Nat → List Report → SessionState → SessionState
  | _, [], state => state
  | eventId, report :: rest, state =>
    receiveLive (eventId + 1) rest (applyTaskEvent (feed.clock eventId) state
        (liveEvent feed run eventId report))

/-- A node of a view as it arrives. -/
def rawNode (node : NodeView) : RawNode where
  nodeId := some node.nodeId
  role := some node.role
  status := some node.status
  content := node.content
  errorCode := node.errorCode
  error := node.error

/-- A view as it arrives. -/
def rawRun (view : RunView) : RawRun where
  runId := some view.runId
  parentRequestId := view.parentRequestId
  strategy := some view.strategy
  status := some view.status
  nodes := view.nodes.map rawNode
  errorCode := view.errorCode
  error := view.error

/-- The snapshot that covers some reports. -/
def snapshotEvent (activity : String) (covered : List Report) : TaskEvent where
  eventId := none
  sessionId := feed.sessionId
  requestId := ""
  type := .sessionSnapshot
  payload := {
    state := activity
    multiAgentRuns := some ((readMultiAgentRuns
        (rowsOf feed.filter run.toRunIdentity covered) (some 20)).map rawRun) }

/-- The page receives a snapshot. -/
def receiveSnapshot (now activity : String) (covered : List Report)
    (state : SessionState) : SessionState :=
  applyTaskEvent now state (snapshotEvent feed run activity covered)

/-- The events of the parent turn of the run. -/
def turnEvents (state : SessionState) : List TaskEvent :=
  ((state.turns.get? run.parentRequestId).map TurnState.events).getD []

/-- The runs of the parent turn of the run. -/
def turnRuns (state : SessionState) : List MultiAgentRunSummary :=
  ((state.turns.get? run.parentRequestId).bind TurnState.multiAgentRuns).getD []

/-- The run that the page holds. -/
def heldRun (state : SessionState) : Option MultiAgentRunSummary :=
  (turnRuns run state).find? (·.runId = run.runId)

/-- The run that the server reads from a log. -/
def serverRun (reports : List Report) : Option RunView := (readMultiAgentRuns
    (rowsOf feed.filter run.toRunIdentity reports) (some 20)).find? (·.runId = run.runId)

end Feed

/-- Both have no view, or they show the same statuses of the same nodes. -/
def SameView : Option MultiAgentRunSummary → Option RunView → Prop
  | none, none => True
  | some summary, some view =>
    summary.status.text = view.status ∧
      ∀ nodeId, (nodeStatusIn summary.nodes nodeId).map RunStatus.text = nodeStatusOf view nodeId
  | _, _ => False

/-! ## One live event -/

/-- A summary shows a status and statuses of nodes. -/
structure SummaryShows (identity : RunIdentity) (status : RunStatus)
    (nodes : String → Option RunStatus) (summary : MultiAgentRunSummary) :
    Prop where
  runId : summary.runId = identity.runId
  status : summary.status = status
  nodes : ∀ nodeId, nodeStatusIn summary.nodes nodeId = nodes nodeId

/-- Change a run in its place, or put it behind the others. -/
def putRun (current : List MultiAgentRunSummary) (next : MultiAgentRunSummary)
    (change : MultiAgentRunSummary → MultiAgentRunSummary) :
    List MultiAgentRunSummary :=
  match current.findIdx? (·.runId = next.runId) with
  | none => current ++ [next]
  | some index => current.modify index change

variable {runId : String}

theorem find?_putRun (current : List MultiAgentRunSummary) (named : next.runId = runId)
    {change : MultiAgentRunSummary → MultiAgentRunSummary}
    (keeps : ∀ previous, previous.runId = runId → (change previous).runId = runId) :
    (putRun current next change).find? (·.runId = runId) =
      some ((current.find? (·.runId = runId)).elim next change) := by
  subst named
  rw [putRun]
  cases position : current.findIdx? (·.runId = next.runId) with
  | none =>
    have missing : current.find? (·.runId = next.runId) = none := by
      rw [List.find?_eq_none]
      intro summary member
      simpa using List.findIdx?_eq_none_iff.mp position summary member
    simp [missing]
  | some index =>
    rw [find?_modify position (by simpa using keeps)]
    cases found : current.find? (·.runId = next.runId) with
    | none =>
      rw [List.find?_eq_none] at found
      rcases getElem?_of_findIdx? position with ⟨item, present, same⟩
      exact absurd same (found item (List.mem_of_getElem? present))
    | some previous => rfl

/-- What is held when a run that was built is merged over another. -/
def mergedOver (next previous : MultiAgentRunSummary) :
    MultiAgentRunSummary :=
  if previous.status.isTerminal then previous
  else
    { next with
      parentRequestId := (truthy next.parentRequestId).or previous.parentRequestId }

theorem find?_mergeMultiAgentRunView (current : List MultiAgentRunSummary)
    (named : next.runId = runId) :
    (mergeMultiAgentRunView current next).find? (·.runId = runId) =
      some ((current.find? (·.runId = runId)).elim next (mergedOver next)) := by
  apply find?_putRun current named
  intro previous same
  rw [apply_ite MultiAgentRunSummary.runId]
  split_ifs
  · exact same
  · exact named

theorem find?_mergeAuthoritativeMultiAgentRunView
    (current : List MultiAgentRunSummary) (named : next.runId = runId) :
    (mergeAuthoritativeMultiAgentRunView current next).find? (·.runId = runId) = some next := by
  have found : (putRun current next fun _ => next).find?
      (·.runId = runId) =
        some ((current.find? (·.runId = runId)).elim next fun _ => next) :=
    find?_putRun current named fun _ _ => named
  rw [show mergeAuthoritativeMultiAgentRunView current next =
    putRun current next fun _ => next from rfl, found]
  cases current.find? (·.runId = runId) <;> rfl

/-- What the parent turn holds of the run's events. -/
structure Following (feed : Feed) (run : WebRun) (eventId : Nat)
    (received : List Report) (state : SessionState) : Prop where
  earlier : ∀ event ∈ turnEvents run state, ∀ id, event.eventId = some id → id < eventId
  events : runEvents run.runId (turnEvents run state) =
    received.map (reportEvent feed.filter run.toRunIdentity)

section Live

variable {feed : Feed} {run : WebRun}

variable {eventId : Nat} {received : List Report} {state : SessionState}

theorem multiAgentEvent?_live (eventId : Nat) (report : Report) :
    multiAgentEvent? (liveEvent feed run eventId report) =
      some (reportEvent feed.filter run.toRunIdentity report) := rfl

theorem reportEvent_runId (report : Report) :
    (reportEvent feed.filter run.toRunIdentity report).payload.runId =
      some run.runId := by
  cases report <;> rfl

theorem runEvents_append_live (events : List TaskEvent) (eventId : Nat) (report : Report) :
    runEvents run.runId (events ++ [liveEvent feed run eventId report]) =
      runEvents run.runId events ++ [reportEvent feed.filter run.toRunIdentity report] := by
  rw [runEvents, List.filterMap_append, List.filter_append, ← runEvents]
  simp only [List.filterMap_cons, List.filterMap_nil,
    multiAgentEvent?_live, List.filter_cons, reportEvent_runId,
    decide_true, if_true, List.filter_nil]

theorem turns_live (following : Following feed run eventId received state)
    (now : String) (report : Report) :
    (applyTaskEvent now state (liveEvent feed run eventId report)).turns =
      state.turns.insert run.parentRequestId
        (appendTurnEvent now (state.turns.get? run.parentRequestId)
          (liveEvent feed run eventId report)) := by
  have first : isDuplicateEvent (state.turns.get? run.parentRequestId)
      (liveEvent feed run eventId report) = false := by
    rw [isDuplicateEvent]
    cases present : state.turns.get? run.parentRequestId with
    | none => rfl
    | some turn =>
      simp only [liveEvent, Option.isSome_some, Option.any_some, Bool.true_and, List.any_eq_false]
      intro event member same
      have known : event ∈ turnEvents run state := by
        rw [turnEvents, present]
        exact member
      have before := following.earlier event known eventId
        (by simpa using same)
      exact Nat.lt_irrefl _ before
  have notSnapshot : (liveEvent feed run eventId report).type ≠
      .sessionSnapshot := EventType.noConfusion
  have asked : (liveEvent feed run eventId report).requestId =
      run.parentRequestId := rfl
  rw [applyTaskEvent, if_neg notSnapshot, asked, if_neg run.asked, first,
    if_neg Bool.false_ne_true]
  split <;> rfl

theorem Following.live (following : Following feed run eventId received state)
    (now : String) (report : Report) :
    Following feed run (eventId + 1) (received ++ [report])
      (applyTaskEvent now state (liveEvent feed run eventId report)) := by
  have events : turnEvents run
      (applyTaskEvent now state (liveEvent feed run eventId report)) =
        turnEvents run state ++ [liveEvent feed run eventId report] := by
    rw [turnEvents, turns_live following, Dict.get?_insert_self]
    rfl
  constructor
  · rw [events]
    intro event member id named
    rcases List.mem_append.mp member with earlier | last
    · exact Nat.lt_succ_of_lt (following.earlier event earlier id named)
    · rw [List.mem_singleton.mp last] at named
      cases named
      exact Nat.lt_succ_self _
  · rw [events, runEvents_append_live, following.events, List.map_append, List.map_singleton]

theorem heldRun_live (following : Following feed run eventId received state)
    (now : String) {report : Report}
    (valid : ∀ earlier ∈ received ++ [report], earlier.Valid) :
    ∃ next, Rebuilt run.toRunIdentity (received ++ [report]) next ∧
      heldRun run (applyTaskEvent now state (liveEvent feed run eventId report)) =
        some ((heldRun run state).elim next (mergedOver next)) := by
  rcases buildMultiAgentRunView_rebuilt feed.filter run.toRunIdentity valid
    (by simp) with ⟨next, built, rebuilt⟩
  refine ⟨next, rebuilt, ?_⟩
  have runs : turnRuns run (applyTaskEvent now state
      (liveEvent feed run eventId report)) =
        mergeMultiAgentRunView (turnRuns run state) next := by
    have named : truthy (reportEvent feed.filter run.toRunIdentity
        report).payload.runId = some run.runId := by
      rw [reportEvent_runId]
      exact truthy_of_ne run.named
    have events : runEvents run.runId
        (turnEvents run state ++ [liveEvent feed run eventId report]) =
          (received ++ [report]).map (reportEvent feed.filter run.toRunIdentity) := by
      rw [runEvents_append_live, following.events, List.map_append, List.map_singleton]
    have read : multiAgentRunsFromEvent (turnRuns run state)
        (turnEvents run state ++ [liveEvent feed run eventId report])
        (liveEvent feed run eventId report) =
          some (mergeMultiAgentRunView (turnRuns run state) next) := by
      rw [multiAgentRunsFromEvent, multiAgentEvent?_live]
      dsimp only
      rw [named]
      dsimp only
      rw [events, built]
    rw [turnRuns, turns_live following, Dict.get?_insert_self, Option.bind_some]
    exact congrArg (Option.getD · []) read
  rw [heldRun, runs]
  exact find?_mergeMultiAgentRunView (turnRuns run state) rebuilt.runId

theorem heldRun_receiveLive_of_terminal {live : List Report}
    (following : Following feed run eventId received state)
    (valid : ∀ report ∈ received ++ live, report.Valid)
    {held : MultiAgentRunSummary} (present : heldRun run state = some held)
    (terminal : held.status.isTerminal = true) :
    heldRun run (receiveLive feed run eventId live state) = some held := by
  induction live generalizing eventId received state with
  | nil => exact present
  | cons report rest induction =>
    have split : received ++ report :: rest =
        (received ++ [report]) ++ rest := by
      rw [List.append_assoc, List.singleton_append]
    rw [split] at valid
    rcases heldRun_live following (feed.clock eventId)
      (fun earlier member => valid earlier (List.mem_append_left _ member))
      with ⟨next, -, now⟩
    refine induction (following.live _ report) valid ?_
    rw [now, present, Option.elim_some, mergedOver, if_pos terminal]

/-- What is held after some live events over an open run. -/
structure HeldLive (feed : Feed) (run : WebRun) (eventId : Nat)
    (received : List Report) (state : SessionState) : Prop where
  following : Following feed run eventId received state
  before : received = [] → ∀ held, heldRun run state = some held → held.status.isTerminal = false
  held : received ≠ [] → ∃ summary, heldRun run state = some summary ∧
      SummaryShows run.toRunIdentity (rebuiltStatus (takenIn received))
        (fun nodeId => decided (nodeStatuses nodeId (takenIn received)))
        summary

namespace HeldLive

variable {received : List Report}

theorem shows_merged {identity : RunIdentity} {next : MultiAgentRunSummary}
    (rebuilt : Rebuilt identity received next)
    {held : Option MultiAgentRunSummary}
    (active : ∀ previous ∈ held, previous.status.isTerminal = false) :
    SummaryShows identity (rebuiltStatus received)
      (fun nodeId => decided (nodeStatuses nodeId received))
      (held.elim next (mergedOver next)) := by
  cases held with
  | none => exact ⟨rebuilt.runId, rebuilt.status, rebuilt.nodes⟩
  | some previous =>
    rw [Option.elim_some, mergedOver, active previous rfl, if_neg Bool.false_ne_true]
    exact ⟨rebuilt.runId, rebuilt.status, rebuilt.nodes⟩

theorem live {eventId : Nat} {state : SessionState}
    (held : HeldLive feed run eventId received state) (now : String)
    {report : Report}
    (valid : ∀ earlier ∈ received ++ [report], earlier.Valid) :
    HeldLive feed run (eventId + 1) (received ++ [report])
      (applyTaskEvent now state (liveEvent feed run eventId report)) := by
  rcases heldRun_live held.following now valid with ⟨next, rebuilt, current⟩
  refine ⟨held.following.live now report, ?_, fun _ => ⟨_, current, ?_⟩⟩
  · intro nothing
    exact absurd nothing (by simp)
  · by_cases nothing : received = []
    · subst nothing
      rw [List.nil_append, takenIn_singleton]
      exact shows_merged rebuilt (held.before rfl)
    · rcases held.held nothing with ⟨summary, present, shows_⟩
      rw [takenIn_append nothing, ← shows_.status, present]
      cases terminal : summary.status.isTerminal with
      | true =>
        rw [if_pos rfl, Option.elim_some, mergedOver, if_pos terminal]
        exact shows_
      | false =>
        rw [if_neg Bool.false_ne_true]
        apply shows_merged rebuilt
        intro previous same
        cases same
        exact terminal

theorem receiveLive {eventId : Nat} {live : List Report}
    {state : SessionState} (held : HeldLive feed run eventId received state)
    (valid : ∀ report ∈ received ++ live, report.Valid) :
    ∃ eventId', HeldLive feed run eventId' (received ++ live)
      (receiveLive feed run eventId live state) := by
  induction live generalizing eventId received state with
  | nil =>
    rw [List.append_nil]
    exact ⟨eventId, held⟩
  | cons report rest induction =>
    have split : received ++ report :: rest =
        (received ++ [report]) ++ rest := by
      rw [List.append_assoc, List.singleton_append]
    rw [split] at valid ⊢
    exact induction (held.live _ fun earlier member =>
      valid earlier (List.mem_append_left _ member)) valid

end HeldLive

end Live

/-! ## The snapshot -/

theorem text_injective {first second : RunStatus}
    (same : first.text = second.text) : first = second := by
  revert same
  cases first <;> cases second <;> decide

theorem nodeStatusIn_rawNodes {nodes : List NodeView} (formed : ∀ node ∈ nodes, node.nodeId ≠ "" ∧
      ∃ status : RunStatus, status ≠ .waiting ∧ node.status = status.text)
    (nodeId : String) :
    (nodeStatusIn ((nodes.map rawNode).filterMap normalizeNode) nodeId).map RunStatus.text =
      (nodes.find? (·.nodeId = nodeId)).map NodeView.status := by
  induction nodes with
  | nil => rfl
  | cons node rest induction =>
    rw [List.forall_mem_cons] at formed
    rcases formed with ⟨⟨named, status, notWaiting, shown⟩, others⟩
    have arrived : normalizeNode (rawNode node) = some {
        nodeId := node.nodeId
        role := (textOrNull (some node.role)).getD node.nodeId
        status
        content := textOrNull node.content
        errorCode := textOrNull node.errorCode
        error := textOrNull node.error } := by
      simp [normalizeNode, rawNode, truthy_of_ne named, shown, nodeStatus?_text notWaiting]
    have later := induction others
    simp only [nodeStatusIn] at later ⊢
    rw [List.map_cons, List.filterMap_cons, arrived]
    dsimp only
    rw [List.find?_cons, List.find?_cons]
    by_cases own : node.nodeId = nodeId
    · simp [own, shown]
    · simp only [own, decide_false, later]

theorem normalize_rawRun {run : WebRun} {view : RunView}
    {covered : List Report}
    (shows_ : ShowsReports run.toRunIdentity view covered) :
    ∃ summary, normalizeMultiAgentRunSummary (rawRun view) = some summary ∧
      summary.parentRequestId = some run.parentRequestId ∧
      SummaryShows run.toRunIdentity (shownStatus covered)
        (fun nodeId => decided (nodeStatuses nodeId covered)) summary := by
  have named : truthy (some view.runId) = some run.runId := by
    rw [shows_.formed.runId]
    exact truthy_of_ne run.named
  have strategy : strategy? (some view.strategy) = some run.strategy := by
    rw [shows_.formed.strategy, strategy?_text]
  have status : runStatus? (some view.status) =
      some (shownStatus covered) := by
    rw [shows_.status, runStatus?_text]
  rw [normalizeMultiAgentRunSummary, rawRun, named, strategy, status]
  refine ⟨_, rfl, ?_, rfl, rfl, ?_⟩
  · show textOrNull view.parentRequestId = some run.parentRequestId
    rw [shows_.formed.parentRequestId]
    exact run.shown
  · intro nodeId
    have arrived := nodeStatusIn_rawNodes shows_.formed.nodes nodeId
    rw [← nodeStatusOf, shows_.nodes] at arrived
    exact Option.map_injective (fun _ _ => text_injective) arrived

/-- The page has received nothing of the run. -/
structure SeenNothing (run : WebRun) (eventId : Nat)
    (state : SessionState) : Prop where
  earlier : ∀ event ∈ turnEvents run state, ∀ id, event.eventId = some id → id < eventId
  events : runEvents run.runId (turnEvents run state) = []
  held : heldRun run state = none

theorem SeenNothing.congr {run : WebRun} {eventId : Nat}
    {state target : SessionState} (nothing : SeenNothing run eventId state)
    (same : turnEvents run target = turnEvents run state)
    (held : ∀ summary ∈ turnRuns run target, summary ∈ turnRuns run state) :
    SeenNothing run eventId target where
  earlier := same ▸ nothing.earlier
  events := same ▸ nothing.events
  held := by
    have missing := nothing.held
    rw [heldRun, List.find?_eq_none] at missing ⊢
    exact fun summary member => missing summary (held summary member)

section Snapshot

variable {feed : Feed} {run : WebRun}

variable {eventId : Nat} {state : SessionState}

theorem SeenNothing.following (nothing : SeenNothing run eventId state) :
    Following feed run eventId [] state :=
  ⟨nothing.earlier, nothing.events⟩

theorem SeenNothing.interrupt (nothing : SeenNothing run eventId state) (now : String) :
    SeenNothing run eventId (interruptRunningTurns now state) := by
  rw [interruptRunningTurns]
  split_ifs
  · exact nothing.congr rfl fun _ member => member
  · apply nothing.congr
    · simp only [turnEvents, Dict.get?_mapEntries, Option.map_map]
      cases state.turns.get? run.parentRequestId with
      | none => rfl
      | some turn =>
        simp only [Option.map_some, Function.comp_apply]
        split_ifs <;> rfl
    · simp only [turnRuns, Dict.get?_mapEntries]
      cases state.turns.get? run.parentRequestId with
      | none => exact fun _ member => member
      | some turn =>
        simp only [Option.map_some, Option.bind_some]
        split_ifs <;> exact fun _ member => member

theorem SeenNothing.dropInactive (nothing : SeenNothing run eventId state) (runIds : List String) :
    SeenNothing run eventId
      { state with
        turns := state.turns.mapValues (dropInactive runIds) } := by
  apply nothing.congr
  · simp only [turnEvents, Dict.get?_mapValues, Option.map_map]
    rfl
  · simp only [turnRuns, Dict.get?_mapValues]
    cases state.turns.get? run.parentRequestId with
    | none => exact fun _ member => member
    | some turn =>
      simp only [Option.map_some, Option.bind_some, Browser.dropInactive]
      cases turn.multiAgentRuns with
      | none => exact fun _ member => member
      | some runs => exact fun _ member => List.mem_of_mem_filter member

theorem SeenNothing.restored (nothing : SeenNothing run eventId state)
    (now : String) (event : TaskEvent) {summary : MultiAgentRunSummary}
    (named : summary.runId = run.runId)
    (asked : summary.parentRequestId = some run.parentRequestId) :
    Following feed run eventId []
        { state with turns := restoreRun now event state.turns summary } ∧
      heldRun run
        { state with turns := restoreRun now event state.turns summary } =
          some summary := by
  have parent : ((truthy summary.parentRequestId).or
      (truthy (findRunRequestId state.turns summary.runId))).getD
        ("multi-agent:" ++ summary.runId) = run.parentRequestId := by
    rw [asked, truthy_of_ne run.asked]
    rfl
  have events : turnEvents run
      { state with turns := restoreRun now event state.turns summary } =
        turnEvents run state := by
    rw [restoreRun, turnEvents, parent]
    dsimp only
    rw [Dict.get?_insert_self, turnEvents]
    cases state.turns.get? run.parentRequestId <;> rfl
  refine ⟨⟨events ▸ nothing.earlier, events ▸ nothing.events⟩, ?_⟩
  rw [heldRun, turnRuns, restoreRun, parent]
  dsimp only
  rw [Dict.get?_insert_self]
  exact find?_mergeAuthoritativeMultiAgentRunView _ named

theorem receiveSnapshot_held (nothing : SeenNothing run eventId state)
    (now activity : String) {covered : List Report}
    (valid : ∀ report ∈ covered, report.Valid) :
    Following feed run eventId [] (receiveSnapshot feed run now activity covered state) ∧
      (covered = [] → heldRun run (receiveSnapshot feed run now activity covered state) = none) ∧
      (covered ≠ [] → ∃ summary,
        heldRun run (receiveSnapshot feed run now activity covered state) = some summary ∧
        SummaryShows run.toRunIdentity (shownStatus covered)
          (fun nodeId => decided (nodeStatuses nodeId covered))
          summary) := by
  -- The turns before the summaries are put into them.
  have prepared : ∀ runIds : List String, ∃ base : SessionState,
      SeenNothing run eventId base ∧ base.turns =
        (if activity = "idle" then
          (interruptRunningTurns now state).turns.mapValues (dropInactive runIds)
        else state.turns) := by
    intro runIds
    split_ifs
    · exact ⟨_, (nothing.interrupt now).dropInactive runIds, rfl⟩
    · exact ⟨state, nothing, rfl⟩
  have turns : (receiveSnapshot feed run now activity covered state).turns =
      (((readMultiAgentRuns (rowsOf feed.filter run.toRunIdentity covered)
        (some 20)).map rawRun).filterMap normalizeMultiAgentRunSummary).foldl
        (restoreRun now (snapshotEvent feed run activity covered))
        (if activity = "idle" then
          (interruptRunningTurns now state).turns.mapValues (dropInactive ((((readMultiAgentRuns
              (rowsOf feed.filter run.toRunIdentity covered) (some 20)).map rawRun).filterMap
                  normalizeMultiAgentRunSummary).map (·.runId)))
        else state.turns) := by
    have snapshot : (snapshotEvent feed run activity covered).type =
        .sessionSnapshot := rfl
    rw [receiveSnapshot, applyTaskEvent, if_pos snapshot, restoreMultiAgentSnapshot, snapshotEvent]
    dsimp only
    split_ifs <;> rfl
  by_cases none_ : covered = []
  · subst none_
    rw [MultiAgent.readMultiAgentRuns_nil] at turns
    rcases prepared [] with ⟨base, seen, same⟩
    have equal := turns.trans same.symm
    refine ⟨?_, fun _ => ?_, fun some_ => absurd rfl some_⟩
    · exact ⟨by rw [turnEvents, equal]; exact seen.earlier,
        by rw [turnEvents, equal]; exact seen.events⟩
    · rw [heldRun, turnRuns, equal]
      exact seen.held
  · rcases MultiAgent.readMultiAgentRuns_shows feed.filter
      run.toRunIdentity valid none_ with ⟨view, read, shows_⟩
    rcases normalize_rawRun shows_ with ⟨summary, arrived, asked, summaryShows⟩
    rw [read, List.map_singleton, List.filterMap_cons, arrived] at turns
    rcases prepared [summary.runId] with ⟨base, seen, same⟩
    rcases @SeenNothing.restored feed run eventId base seen now
      (snapshotEvent feed run activity covered) summary
      summaryShows.runId asked with ⟨following, held⟩
    have equal : (receiveSnapshot feed run now activity covered
        state).turns = restoreRun now
          (snapshotEvent feed run activity covered) base.turns summary := by
      rw [turns, same]
      rfl
    refine ⟨?_, fun nothing => absurd nothing none_, fun _ => ⟨summary, ?_, summaryShows⟩⟩
    · exact ⟨by rw [turnEvents, equal]; exact following.earlier,
        by rw [turnEvents, equal]; exact following.events⟩
    · rw [heldRun, turnRuns, equal]
      exact held

end Snapshot

end TurningGood.Browser
