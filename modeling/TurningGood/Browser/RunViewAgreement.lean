import TurningGood.Browser.RunViewFeed

/-!
# Run views of the browser and of the server

The run that a page holds at the end is compared with the one that the
server reads from the whole log: after a snapshot of the first events and
the others live, and after all of them live.
-/

namespace TurningGood.Browser

open TurningGood.MultiAgent (RunStatus RunIdentity Report RunView
  runStatuses nodeStatuses decided shownStatus nodeStatusOf)

/-! ## When the views agree -/

/-- The reports end the run. -/
def Ended (reports : List Report) : Prop := reports.any endsRun = true

instance (reports : List Report) : Decidable (Ended reports) :=
  inferInstanceAs (Decidable (_ = true))

/--
What arrives live decides the same statuses as the whole log.  Nothing
arrives; or the snapshot has shown the end of the run, and no status of a
node changes behind it; or else what a rebuilt view takes in decides the
statuses of all nodes, and it holds an event of the run or begins with the
status of the run.
-/
def LiveDecides (covered live : List Report) : Prop := live = [] ∨
  (Ended covered ∧ ∀ nodeId, decided (nodeStatuses nodeId covered) =
      decided (nodeStatuses nodeId (covered ++ live))) ∨
  (¬ Ended covered ∧ (runStatuses (takenIn live) = [] →
      live.head?.map Report.status = some (shownStatus (covered ++ live))) ∧
    ∀ nodeId, decided (nodeStatuses nodeId (takenIn live)) =
      decided (nodeStatuses nodeId (covered ++ live)))

theorem ended_iff {reports : List Report} : Ended reports ↔
      (decided (runStatuses reports)).any RunStatus.isTerminal = true := by
  rw [Ended, any_endsRun]

theorem shownStatus_of_ended {covered : List Report} (ended : Ended covered) (live : List Report) :
    shownStatus (covered ++ live) = shownStatus covered := by
  rw [shownStatus, MultiAgent.runStatuses_append,
    MultiAgent.decided_append_of_terminal (ended_iff.mp ended), shownStatus]

theorem decided_takenIn {live : List Report} (reported : runStatuses (takenIn live) ≠ []) :
    decided (runStatuses (takenIn live)) = decided (runStatuses live) := by
  cases live with
  | nil => rfl
  | cons first rest =>
    rw [takenIn] at reported ⊢
    have split : first :: rest = [first] ++ rest := rfl
    cases ends : first.status.isTerminal with
    | true =>
      rw [ends, if_pos rfl] at reported
      rw [if_pos rfl]
      cases first with
      | node found => exact absurd rfl reported
      | run status error errorCode =>
        have terminal : (decided (runStatuses
            [.run status error errorCode])).any
              RunStatus.isTerminal = true := ends
        rw [split, MultiAgent.runStatuses_append, MultiAgent.decided_append_of_terminal terminal]
    | false =>
      rw [if_neg Bool.false_ne_true]
      cases ended : rest.any endsRun with
      | false => rw [upToEnd_of_open ended]
      | true =>
        rcases upToEnd_split rest with ⟨later, whole⟩
        have terminal : (decided (runStatuses
            (first :: upToEnd rest))).any RunStatus.isTerminal =
              true := by
          rw [← any_endsRun, List.any_cons, any_upToEnd, ended, Bool.or_true]
        have all : first :: rest =
            (first :: upToEnd rest) ++ later := by
          rw [List.cons_append, ← whole]
        rw [all, MultiAgent.runStatuses_append, MultiAgent.decided_append_of_terminal terminal]

theorem rebuiltStatus_takenIn_iff {covered live : List Report}
    (unended : ¬ Ended covered) (some_ : live ≠ []) :
    rebuiltStatus (takenIn live) = shownStatus (covered ++ live) ↔
      (runStatuses (takenIn live) = [] → live.head?.map Report.status =
          some (shownStatus (covered ++ live))) := by
  have front : (decided (runStatuses covered)).any RunStatus.isTerminal =
      false := by
    rw [← any_endsRun]
    exact Bool.eq_false_iff.mpr unended
  cases live with
  | nil => exact absurd rfl some_
  | cons first rest =>
    have begins : ∃ others, takenIn (first :: rest) = first :: others := by
      rw [takenIn]
      split_ifs
      · exact ⟨[], rfl⟩
      · exact ⟨_, rfl⟩
    rcases begins with ⟨others, taken⟩
    have shown : rebuiltStatus (takenIn (first :: rest)) =
        (decided (runStatuses (takenIn (first :: rest)))).getD
          first.status := by
      rw [taken, rebuiltStatus]
    rw [shown]
    by_cases reported : runStatuses (takenIn (first :: rest)) = []
    · rw [reported]
      simp
    · have later : runStatuses (first :: rest) ≠ [] := by
        intro nothing
        have same := decided_takenIn reported
        rw [nothing] at same
        exact reported (MultiAgent.decided_eq_none.mp same)
      have server : shownStatus (covered ++ first :: rest) =
          (decided (runStatuses (first :: rest))).getD .queued := by
        rw [shownStatus, MultiAgent.runStatuses_append,
          MultiAgent.decided_append_of_active front later]
      rw [server, decided_takenIn reported]
      cases last : decided (runStatuses (first :: rest)) with
      | none => exact absurd (MultiAgent.decided_eq_none.mp last) later
      | some status => simp [reported]

section Agreement

variable {feed : Feed} {run : WebRun}

theorem sameView_iff {summary : MultiAgentRunSummary} {status : RunStatus}
    {nodes : String → Option RunStatus} {reports : List Report}
    (shows_ : SummaryShows run.toRunIdentity status nodes summary)
    (valid : ∀ report ∈ reports, report.Valid) (some_ : reports ≠ []) :
    SameView (some summary) (serverRun feed run reports) ↔ status = shownStatus reports ∧
        ∀ nodeId, nodes nodeId = decided (nodeStatuses nodeId reports) := by
  rcases MultiAgent.readMultiAgentRuns_shows feed.filter run.toRunIdentity
    valid some_ with ⟨view, read, server⟩
  have found : serverRun feed run reports = some view := by
    rw [serverRun, read, List.find?_singleton, server.formed.runId]
    simp
  rw [found, SameView, shows_.status, server.status]
  constructor
  · rintro ⟨status, same⟩
    refine ⟨text_injective status, fun nodeId => ?_⟩
    have here := same nodeId
    rw [shows_.nodes, server.nodes] at here
    exact Option.map_injective (fun _ _ => text_injective) here
  · rintro ⟨rfl, same⟩
    refine ⟨rfl, fun nodeId => ?_⟩
    rw [shows_.nodes, server.nodes, same]

theorem sameView_receiveLive_iff {eventId : Nat} {state : SessionState}
    (following : Following feed run eventId [] state)
    {covered live : List Report}
    (valid : ∀ report ∈ covered ++ live, report.Valid)
    (unseen : covered = [] → heldRun run state = none)
    (seen : covered ≠ [] → ∃ summary, heldRun run state = some summary ∧
        SummaryShows run.toRunIdentity (shownStatus covered)
          (fun nodeId => decided (nodeStatuses nodeId covered)) summary) :
    SameView (heldRun run (receiveLive feed run eventId live state))
        (serverRun feed run (covered ++ live)) ↔
      LiveDecides covered live := by
  have validLive : ∀ report ∈ [] ++ live, report.Valid :=
    fun report member => valid report (List.mem_append_right _ member)
  by_cases nothing : live = []
  · subst nothing
    refine iff_of_true ?_ (.inl rfl)
    rw [List.append_nil] at valid ⊢
    by_cases none_ : covered = []
    · rw [receiveLive, unseen none_, none_]
      trivial
    · rcases seen none_ with ⟨summary, present, shows_⟩
      rw [receiveLive, present, sameView_iff shows_ valid none_]
      exact ⟨rfl, fun _ => rfl⟩
  have whole : covered ++ live ≠ [] := by simp [nothing]
  by_cases ended : Ended covered
  · have none_ : covered ≠ [] := by
      rintro rfl
      exact Bool.false_ne_true ended
    rcases seen none_ with ⟨summary, present, shows_⟩
    have terminal : summary.status.isTerminal = true := by
      have decidedEnd := ended_iff.mp ended
      rw [shows_.status, shownStatus]
      cases last : decided (runStatuses covered) with
      | none =>
        rw [last] at decidedEnd
        cases decidedEnd
      | some status =>
        rw [last] at decidedEnd
        exact decidedEnd
    rw [heldRun_receiveLive_of_terminal following validLive present
      terminal, sameView_iff shows_ valid whole]
    simp [LiveDecides, nothing, ended, shownStatus_of_ended ended]
  · have start : HeldLive feed run eventId [] state := by
      refine ⟨following, fun _ held present => ?_, fun some_ =>
        absurd rfl some_⟩
      by_cases none_ : covered = []
      · rw [unseen none_] at present
        cases present
      · rcases seen none_ with ⟨summary, same, shows_⟩
        rw [same] at present
        cases present
        have open_ := Bool.eq_false_iff.mpr ended
        rw [any_endsRun] at open_
        rw [shows_.status, shownStatus]
        cases last : decided (runStatuses covered) with
        | none => rfl
        | some status =>
          rw [last] at open_
          exact open_
    rcases start.receiveLive validLive with ⟨eventId', held⟩
    rw [List.nil_append] at held
    rcases held.held nothing with ⟨summary, present, shows_⟩
    rw [present, sameView_iff shows_ valid whole, rebuiltStatus_takenIn_iff ended nothing]
    simp [LiveDecides, nothing, ended]

/--
A page that has seen nothing of a run agrees with the server at the end if
and only if what arrives live decides the same statuses as the whole log:
behind a snapshot that covers the first part of it, and for a log that
arrives live as a whole.
-/
theorem heldRun_sameView_iff {eventId : Nat} {state : SessionState}
    (nothing : SeenNothing run eventId state) (now activity : String)
    {covered live : List Report}
    (valid : ∀ report ∈ covered ++ live, report.Valid) :
    (SameView (heldRun run (receiveLive feed run eventId live
          (receiveSnapshot feed run now activity covered state)))
        (serverRun feed run (covered ++ live)) ↔
      LiveDecides covered live) ∧
    (SameView (heldRun run (receiveLive feed run eventId (covered ++ live) state))
        (serverRun feed run (covered ++ live)) ↔
      LiveDecides [] (covered ++ live)) := by
  constructor
  · rcases @receiveSnapshot_held feed run eventId state nothing now activity
      covered (fun report member => valid report (List.mem_append_left _ member))
      with ⟨following, unseen, seen⟩
    exact sameView_receiveLive_iff following valid unseen seen
  · exact @sameView_receiveLive_iff feed run eventId state
      nothing.following [] (covered ++ live) valid
      (fun _ => nothing.held) fun some_ => absurd rfl some_

end Agreement

/-! ## Two cuts of one log -/

/-- The run of the cuts. -/
def cutRun : WebRun where
  runId := "run"
  parentRequestId := "request"
  strategy := .fanOutFanIn
  named := by decide
  asked := by decide
  shown := by decide

/-- The feed of the cuts. -/
def cutFeed : Feed where
  filter := { safeTaskLabel := id, safeError := id }
  sessionId := "session"
  createdAt := fun _ => none
  clock := fun _ => "now"

/-- A report of a node. -/
def cutNode (nodeId : String) (status : RunStatus) : Report :=
  .node { nodeId, role := nodeId, status }

/-- The log of two workers up to the first answer. -/
def firstAnswer : List Report := [.run .queued none none, cutNode "a" .queued, cutNode "b" .queued,
    .run .running none none, cutNode "a" .running, cutNode "b" .running,
    cutNode "a" .completed]

/-- What is left of the log. -/
def secondAnswer : List Report := [cutNode "b" .completed, .run .completed none none]

theorem createSessionState_seenNothing :
    SeenNothing cutRun 0 createSessionState :=
  ⟨fun _ member => (nomatch member), rfl, rfl⟩

/-- The whole log, received live, agrees. -/
theorem heldRun_sameView_iff_live : SameView (heldRun cutRun (receiveLive cutFeed cutRun 0
        (firstAnswer ++ secondAnswer) createSessionState))
      (serverRun cutFeed cutRun (firstAnswer ++ secondAnswer)) := by
  have agrees := (@heldRun_sameView_iff cutFeed cutRun 0 createSessionState
    createSessionState_seenNothing "now" "running"
    firstAnswer secondAnswer (by decide)).2
  have all : takenIn (firstAnswer ++ secondAnswer) =
      firstAnswer ++ secondAnswer := by decide
  apply agrees.mpr
  refine .inr (.inr ⟨by decide, ?_, fun nodeId => ?_⟩)
  · intro nothing
    exact absurd nothing (by decide)
  · rw [all, List.nil_append]

/-- A snapshot before the second answer loses the first one. -/
theorem heldRun_loses_node : ¬ SameView (heldRun cutRun (receiveLive cutFeed cutRun 0 secondAnswer
        (receiveSnapshot cutFeed cutRun "now" "running" firstAnswer createSessionState)))
      (serverRun cutFeed cutRun (firstAnswer ++ secondAnswer)) := by
  intro same
  have held : (heldRun cutRun (receiveLive cutFeed cutRun 0 secondAnswer
      (receiveSnapshot cutFeed cutRun "now" "running" firstAnswer
        createSessionState))).map (nodeStatusIn ·.nodes "a") =
      some none := by
    decide
  have server : (serverRun cutFeed cutRun
      (firstAnswer ++ secondAnswer)).map (nodeStatusOf · "a") =
        some (some "completed") := by
    decide
  rcases Option.map_eq_some_iff.mp held with ⟨summary, present, missing⟩
  rcases Option.map_eq_some_iff.mp server with ⟨view, read, shown⟩
  rw [present, read] at same
  have node := same.2 "a"
  rw [missing, shown] at node
  cases node

end TurningGood.Browser
