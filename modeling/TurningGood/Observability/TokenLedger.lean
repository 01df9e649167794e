import Mathlib.Algebra.Ring.Int.Defs
import TurningGood.Foundation.Dict
import TurningGood.Foundation.Machine
import TurningGood.Foundation.RunningTotals
import TurningGood.Runtime.AgentLoop

/-!
# The token ledger of a session

Each session has a file of usage rows, and each row carries the total of the
session.  Three writers append to it: a turn reads the last total in its
`COMPACT` state and appends in its `SAVE` state, a catalog compaction reads it
when its summary has arrived, and a worker's row is added up under the write
lock of the session.  The row of a turn with a delegated run is added up under
the lock as well.

Every await between reading and appending lets the other writers go on.  The
file is the list of its rows.
-/

namespace TurningGood.Observability

open TurningGood.Foundation TurningGood.Llm
open TurningGood.Runtime (addUsage)

/-- A usage as its writer hands it to the store. -/
structure TokenUsage where
  inputTokens : Int
  outputTokens : Int
  turnTotalTokens : Int
  totalTokens : Int
  compacted : Int
  scope : Option String := none
  runId : Option String := none
  nodeId : Option String := none
  agentId : Option String := none
  deriving DecidableEq, Repr

/-- The part of a row that belongs to a delegated run. -/
structure RowScope where
  runId : String
  nodeId : Option String
  agentId : String
  scope : String
  deriving DecidableEq, Repr

/-- A row of `true_token_usage.jsonl`. -/
structure UsageRow where
  turnId : String
  inputTokens : Int
  outputTokens : Int
  turnTotalTokens : Int
  totalTokens : Int
  compacted : Int
  runScope : Option RowScope
  deriving DecidableEq, Repr

/-! ## The store -/

/-- `[A-Za-z0-9][A-Za-z0-9_.:-]{0,127}`. -/
def isSafeIdentifier : List Char → Bool
  | [] => false
  | first :: rest =>
    first.isAlphanum && decide (rest.length ≤ 127) &&
      rest.all fun char =>
        char.isAlphanum || "_.:-".toList.contains char

/-- `_safe_identifier`. -/
def safeIdentifier (value : Option String) (field : String) :
    Except String String :=
  let text :=
    " ".intercalate ((Text.splitWords (value.getD "").toList).map String.ofList)
  if text = "" then .error (field ++ " 必须是非空字符串")
  else if isSafeIdentifier text.toList then .ok text
  else .error (field ++ " 包含不安全字符")

/-- `_safe_optional_identifier`. -/
def safeOptionalIdentifier : Option String → Except String (Option String)
  | none => .ok none
  | some value => (safeIdentifier (some value) "node_id").map some

/-- The scope of a row, if the usage has one. -/
def rowScope (usage : TokenUsage) : Except String (Option RowScope) :=
  match usage.scope with
  | none => .ok none
  | some scope =>
    if scope ≠ "worker" ∧ scope ≠ "parent" then
      .error "token usage scope 必须是 worker 或 parent"
    else do
      let runId ← safeIdentifier usage.runId "run_id"
      let nodeId ← safeOptionalIdentifier usage.nodeId
      let agentId ← safeIdentifier usage.agentId "agent_id"
      return some ⟨runId, nodeId, agentId, scope⟩

/-- `last_total_tokens`. -/
def lastTotalTokens (rows : List UsageRow) : Int :=
  match rows.getLast? with
  | none => 0
  | some row => row.totalTokens

/-- The row that `save_true_token_usage` appends. -/
def usageRow (rows : List UsageRow) (turnId : String) (usage : TokenUsage)
    (runScope : Option RowScope) : UsageRow where
  turnId := turnId
  inputTokens := usage.inputTokens
  outputTokens := usage.outputTokens
  turnTotalTokens := usage.turnTotalTokens
  totalTokens :=
    if runScope.isSome then lastTotalTokens rows + usage.turnTotalTokens
    else usage.totalTokens
  compacted := usage.compacted
  runScope := runScope

/-- `save_true_token_usage`. -/
def saveTrueTokenUsage (rows : List UsageRow) (turnId : String)
    (usage : TokenUsage) : Except String (List UsageRow) :=
  (rowScope usage).map fun runScope =>
    rows ++ [usageRow rows turnId usage runScope]

/-- `TokenMonitor.record_llm_usage`. -/
def recordLlmUsage (usage : LLMUsage) (previousTotalTokens : Int)
    (compacted : Bool) : Except String TokenUsage :=
  if usage.totalTokens ≤ 0 then
    .error "LLM usage 缺少有效 total_tokens。"
  else
    .ok
      { inputTokens := usage.inputTokens
        outputTokens := usage.outputTokens
        turnTotalTokens := usage.totalTokens
        totalTokens := previousTotalTokens + usage.totalTokens
        compacted := if compacted then 1 else 0 }

/-- The usage of a turn as `save` completes it, with its delegated run. -/
def parentUsage (usage : TokenUsage) (runId : Option String) : TokenUsage :=
  match runId with
  | none => usage
  | some runId =>
    if runId = "" then usage
    else
      { usage with
        runId := some runId
        nodeId := none
        agentId := some "parent"
        scope := some "parent" }

/-- The usage of a worker in the payload of its event. -/
structure WorkerUsage where
  inputTokens : Int
  outputTokens : Int
  turnTotalTokens : Int
  deriving DecidableEq, Repr

/-- The usage row of `_persist_multi_agent_event`. -/
def workerUsage (usage : WorkerUsage) (runId nodeId : String) : TokenUsage where
  inputTokens := usage.inputTokens
  outputTokens := usage.outputTokens
  turnTotalTokens := usage.turnTotalTokens
  totalTokens := usage.turnTotalTokens
  compacted := 0
  runId := some runId
  nodeId := some nodeId
  agentId := some ("worker-" ++ runId ++ "-" ++ nodeId)
  scope := some "worker"

/-- The usage of a turn, with that of its summary. -/
def turnUsage (llmUsage : LLMUsage) : Option LLMUsage → LLMUsage
  | none => llmUsage
  | some summaryUsage => addUsage llmUsage summaryUsage

/-! ## The session -/

/--
A usage between reading the last total and appending.  The last total that it
was counted from is kept beside it.
-/
structure CountedUsage where
  usage : TokenUsage
  previousTotalTokens : Int
  deriving DecidableEq, Repr

/-- The ledger of a session and its writers, by their turn ids. -/
structure LedgerState where
  rows : List UsageRow
  turns : Dict String CountedUsage
  compactions : Dict String CountedUsage

namespace LedgerState

variable (state : LedgerState)

/-- A usage is counted from the last row. -/
def count (usage : LLMUsage) (compacted : Bool) :
    Except String CountedUsage :=
  (recordLlmUsage usage (lastTotalTokens state.rows) compacted).map
    fun counted => ⟨counted, lastTotalTokens state.rows⟩

/--
The end of `compact`: a turn that was cancelled before the model answered has
no usage, and a turn without a valid one ends with an error.
-/
def compactReturned (turnId : String) (cancelled : Bool)
    (llmUsage : LLMUsage) (summaryUsage : Option LLMUsage) :
    Option LedgerState :=
  if state.turns.contains turnId then none
  else if cancelled ∧ (turnUsage llmUsage summaryUsage).totalTokens ≤ 0 then
    some state
  else
    match state.count (turnUsage llmUsage summaryUsage)
        summaryUsage.isSome with
    | .error _ => some state
    | .ok counted =>
      some { state with turns := state.turns.insert turnId counted }

/-- `save` appends the row of a turn. -/
def turnSaved (turnId : String) (runId : Option String) :
    Option LedgerState :=
  (state.turns.get? turnId).map fun counted =>
    match saveTrueTokenUsage state.rows turnId
        (parentUsage counted.usage runId) with
    | .error _ => { state with turns := state.turns.erase turnId }
    | .ok rows =>
      { state with rows := rows, turns := state.turns.erase turnId }

/-- The summary of `compact_session` has arrived. -/
def summaryReturned (turnId : String) (usage : LLMUsage) :
    Option LedgerState :=
  if state.compactions.contains turnId then none
  else
    match state.count usage true with
    | .error _ => some state
    | .ok counted =>
      some
        { state with
          compactions := state.compactions.insert turnId counted }

/-- `compact_session` appends its row. -/
def compactionSaved (turnId : String) : Option LedgerState :=
  (state.compactions.get? turnId).map fun counted =>
    match saveTrueTokenUsage state.rows turnId counted.usage with
    | .error _ =>
      { state with compactions := state.compactions.erase turnId }
    | .ok rows =>
      { state with
        rows := rows
        compactions := state.compactions.erase turnId }

/-- `_persist_multi_agent_event`, for an event with a usage. -/
def workerFinished (turnId runId nodeId : String) (usage : WorkerUsage) :
    LedgerState :=
  match saveTrueTokenUsage state.rows
      (turnId ++ ":" ++ runId ++ ":" ++ nodeId)
      (workerUsage usage runId nodeId) with
  | .error _ => state
  | .ok rows => { state with rows := rows }

end LedgerState

/-- What can happen to the ledger next. -/
inductive LedgerEvent where
  | compactReturned (turnId : String) (cancelled : Bool)
      (llmUsage : LLMUsage) (summaryUsage : Option LLMUsage)
  | turnSaved (turnId : String) (runId : Option String)
  /-- an error or a cancellation ends a turn before it appends -/
  | turnFailed (turnId : String)
  | summaryReturned (turnId : String) (usage : LLMUsage)
  | compactionSaved (turnId : String)
  | compactionFailed (turnId : String)
  | workerFinished (turnId runId nodeId : String) (usage : WorkerUsage)
  /-- the directory of the session is removed -/
  | sessionCleared
  /-- the process ends, and another one starts on the same files -/
  | restarted
  deriving DecidableEq, Repr

/-- One step of the ledger. -/
def LedgerState.step (state : LedgerState) : LedgerEvent → Option LedgerState
  | .compactReturned turnId cancelled llmUsage summaryUsage =>
    state.compactReturned turnId cancelled llmUsage summaryUsage
  | .turnSaved turnId runId => state.turnSaved turnId runId
  | .turnFailed turnId =>
    some { state with turns := state.turns.erase turnId }
  | .summaryReturned turnId usage => state.summaryReturned turnId usage
  | .compactionSaved turnId => state.compactionSaved turnId
  | .compactionFailed turnId =>
    some { state with compactions := state.compactions.erase turnId }
  | .workerFinished turnId runId nodeId usage =>
    some (state.workerFinished turnId runId nodeId usage)
  | .sessionCleared => some { state with rows := [] }
  | .restarted =>
    some { state with turns := Dict.empty, compactions := Dict.empty }

/-- The ledger of a new session. -/
def LedgerState.new : LedgerState where
  rows := []
  turns := Dict.empty
  compactions := Dict.empty

/-- The system of the writers of one session. -/
def ledgerMachine : Machine LedgerState LedgerEvent where
  initial state := state = .new
  step := LedgerState.step

/-- Each total is the sum of the amounts up to its row. -/
def PrefixSums (rows : List UsageRow) : Prop :=
  RunningTotals UsageRow.turnTotalTokens UsageRow.totalTokens rows

theorem lastTotalTokens_eq (rows : List UsageRow) :
    lastTotalTokens rows = lastTotal UsageRow.totalTokens rows := by
  unfold lastTotalTokens lastTotal
  cases rows.getLast? with
  | none => rfl
  | some row => rfl

theorem rowScope_isSome
    {usage : TokenUsage} {runScope : Option RowScope}
    (valid : rowScope usage = .ok runScope) :
    runScope.isSome = usage.scope.isSome := by
  unfold rowScope at valid
  split at valid
  · next noScope =>
      cases valid
      rw [noScope]
      rfl
  · next scope hasScope =>
      rw [hasScope]
      split at valid
      · cases valid
      · cases runValid : safeIdentifier usage.runId "run_id" with
        | error message =>
          rw [runValid] at valid
          cases valid
        | ok runId =>
          cases nodeValid : safeOptionalIdentifier usage.nodeId with
          | error message =>
            rw [runValid, nodeValid] at valid
            cases valid
          | ok nodeId =>
            cases agentValid : safeIdentifier usage.agentId "agent_id" with
            | error message =>
              rw [runValid, nodeValid, agentValid] at valid
              cases valid
            | ok agentId =>
              rw [runValid, nodeValid, agentValid] at valid
              cases valid
              rfl

variable {turnId : String}

theorem saveTrueTokenUsage_prefixSums_iff {rows after : List UsageRow}
    {usage : TokenUsage} (sums : PrefixSums rows)
    (saved : saveTrueTokenUsage rows turnId usage = .ok after) :
    PrefixSums after ↔ usage.scope.isSome ∨ usage.totalTokens =
          lastTotalTokens rows + usage.turnTotalTokens := by
  unfold saveTrueTokenUsage at saved
  cases valid : rowScope usage with
  | error message =>
    rw [valid] at saved
    cases saved
  | ok runScope =>
    rw [valid] at saved
    cases saved
    unfold PrefixSums
    rw [runningTotals_concat_iff sums, ← lastTotalTokens_eq, ← rowScope_isSome valid]
    show (if runScope.isSome then
        lastTotalTokens rows + usage.turnTotalTokens
      else usage.totalTokens) = lastTotalTokens rows + usage.turnTotalTokens ↔ _
    cases runScope with
    | none => simp only [Option.isSome_none, Bool.false_eq_true, if_false,
        false_or]
    | some scope => simp only [Option.isSome_some, if_true, true_or]

/-! ## Runs -/

/--
A turn without a delegated run, and a compaction, append while the last total
is still the one that they counted from.
-/
def SavesFromLastTotal (state : LedgerState) : LedgerEvent → Prop
  | .turnSaved turnId runId =>
    runId.getD "" ≠ "" ∨ ∀ counted ∈ state.turns.get? turnId,
        counted.previousTotalTokens = lastTotalTokens state.rows
  | .compactionSaved turnId =>
    ∀ counted ∈ state.compactions.get? turnId,
      counted.previousTotalTokens = lastTotalTokens state.rows
  | _ => True

instance (state : LedgerState) (event : LedgerEvent) :
    Decidable (SavesFromLastTotal state event) :=
  match event with
  | .turnSaved _ _ => inferInstanceAs (Decidable (_ ∨ _))
  | .compactionSaved turnId =>
    inferInstanceAs (Decidable (∀ counted ∈ state.compactions.get? turnId, _))
  | .compactReturned _ _ _ _ | .turnFailed _ | .summaryReturned _ _
  | .compactionFailed _ | .workerFinished _ _ _ _ | .sessionCleared
  | .restarted => inferInstanceAs (Decidable True)

/-- The total of a usage is what was read and its own amount. -/
def CountedUsage.Sound (counted : CountedUsage) : Prop := counted.usage.totalTokens =
    counted.previousTotalTokens + counted.usage.turnTotalTokens

/-- The usages that wait to be appended are counted right. -/
def CountedSound (waiting : Dict String CountedUsage) : Prop :=
  ∀ turnId counted, waiting.get? turnId = some counted → counted.Sound

/-- The invariant of the guarded runs. -/
structure LedgerSound (state : LedgerState) : Prop where
  rows : PrefixSums state.rows
  turns : CountedSound state.turns
  compactions : CountedSound state.compactions

theorem countedSound_empty : CountedSound Dict.empty := by
  intro turnId counted waits
  rw [Dict.get?_empty] at waits
  cases waits

variable {counted : CountedUsage}

theorem CountedSound.insert {waiting : Dict String CountedUsage}
    (sound : CountedSound waiting) (countedSound : counted.Sound) :
    CountedSound (waiting.insert turnId counted) := by
  intro other usage waits
  rw [Dict.get?_insert] at waits
  split at waits
  · cases waits
    exact countedSound
  · exact sound other usage waits

theorem CountedSound.erase
    {waiting : Dict String CountedUsage}
    (sound : CountedSound waiting) (turnId : String) :
    CountedSound (waiting.erase turnId) := by
  intro other usage waits
  rw [Dict.get?_erase] at waits
  split at waits
  · cases waits
  · exact sound other usage waits

theorem count_sound {state : LedgerState} {usage : LLMUsage}
    {compacted : Bool} (counts : state.count usage compacted = .ok counted) :
    counted.Sound := by
  unfold LedgerState.count recordLlmUsage at counts
  split at counts
  · cases counts
  · cases counts
    rfl

theorem saveCounted_prefixSums {rows after : List UsageRow}
    {runId : Option String} (sums : PrefixSums rows)
    (countedSound : counted.Sound) (upToDate : runId.getD "" ≠ "" ∨
        counted.previousTotalTokens = lastTotalTokens rows) (saved :
      saveTrueTokenUsage rows turnId (parentUsage counted.usage runId) =
        .ok after) : PrefixSums after := by
  rw [saveTrueTokenUsage_prefixSums_iff sums saved]
  rcases upToDate with delegated | same
  · left
    cases runId with
    | none => exact absurd rfl delegated
    | some runId =>
      have nonempty : runId ≠ "" := delegated
      unfold parentUsage
      dsimp only
      rw [if_neg nonempty]
      rfl
  · cases runId with
    | none =>
      right
      rw [← same]
      exact countedSound
    | some runId =>
      unfold parentUsage
      dsimp only
      split
      · right
        rw [← same]
        exact countedSound
      · left
        rfl

theorem step_ledgerSound
    {state target : LedgerState} {event : LedgerEvent}
    (sound : LedgerSound state)
    (allowed : SavesFromLastTotal state event)
    (stepped : state.step event = some target) :
    LedgerSound target := by
  cases event with
  | compactReturned turnId cancelled llmUsage summaryUsage =>
    simp only [LedgerState.step, LedgerState.compactReturned] at stepped
    split at stepped
    · cases stepped
    · split at stepped
      · cases stepped
        exact sound
      · split at stepped
        · cases stepped
          exact sound
        · next counted counts =>
            cases stepped
            exact ⟨sound.rows, sound.turns.insert (count_sound counts), sound.compactions⟩
  | turnSaved turnId runId =>
    rcases Option.map_eq_some_iff.mp stepped with ⟨counted, waits, rfl⟩
    have upToDate :
        runId.getD "" ≠ "" ∨
          counted.previousTotalTokens = lastTotalTokens state.rows :=
      Or.imp_right (fun same => same counted waits) allowed
    have countedSound := sound.turns turnId counted waits
    split
    · exact ⟨sound.rows, sound.turns.erase turnId, sound.compactions⟩
    · next rows saved =>
        exact ⟨saveCounted_prefixSums sound.rows countedSound upToDate saved,
            sound.turns.erase turnId, sound.compactions⟩
  | turnFailed turnId =>
    cases stepped
    exact ⟨sound.rows, sound.turns.erase turnId, sound.compactions⟩
  | summaryReturned turnId usage =>
    simp only [LedgerState.step, LedgerState.summaryReturned] at stepped
    split at stepped
    · cases stepped
    · split at stepped
      · cases stepped
        exact sound
      · next counted counts =>
          cases stepped
          exact ⟨sound.rows, sound.turns, sound.compactions.insert (count_sound counts)⟩
  | compactionSaved turnId =>
    rcases Option.map_eq_some_iff.mp stepped with ⟨counted, waits, rfl⟩
    have same : counted.previousTotalTokens = lastTotalTokens state.rows :=
      allowed counted waits
    have countedSound := sound.compactions turnId counted waits
    split
    · exact ⟨sound.rows, sound.turns, sound.compactions.erase turnId⟩
    · next rows saved =>
        have unscoped :
            saveTrueTokenUsage state.rows turnId
              (parentUsage counted.usage none) = .ok rows := saved
        exact ⟨saveCounted_prefixSums sound.rows countedSound (.inr same) unscoped,
            sound.turns, sound.compactions.erase turnId⟩
  | compactionFailed turnId =>
    cases stepped
    exact ⟨sound.rows, sound.turns, sound.compactions.erase turnId⟩
  | workerFinished turnId runId nodeId usage =>
    cases stepped
    unfold LedgerState.workerFinished
    split
    · exact sound
    · next rows saved =>
        refine ⟨?_, sound.turns, sound.compactions⟩
        show PrefixSums rows
        rw [saveTrueTokenUsage_prefixSums_iff sound.rows saved]
        left
        rfl
  | sessionCleared =>
    cases stepped
    exact ⟨runningTotals_nil, sound.turns, sound.compactions⟩
  | restarted =>
    cases stepped
    exact ⟨sound.rows, countedSound_empty, countedSound_empty⟩

/--
In every run in which no turn without a delegated run and no compaction
appends from a last total that is not the last one any more, the total of each
row is the sum of the amounts up to it, and the total of the session is the
last row's.
-/
theorem ledgerRuns_prefixSums
    {state : LedgerState}
    (reached : ledgerMachine.Reaches SavesFromLastTotal state) :
    PrefixSums state.rows ∧ lastTotalTokens state.rows =
        (state.rows.map UsageRow.turnTotalTokens).sum ∧
      ∀ row ∈ state.rows.getLast?,
        lastTotalTokens state.rows = row.totalTokens := by
  have sound : LedgerSound state := by
    refine reached.invariant ?_ ?_
    · rintro _ rfl
      exact ⟨runningTotals_nil, countedSound_empty, countedSound_empty⟩
    · intro earlier event target _ sound allowed stepped
      exact step_ledgerSound sound allowed stepped
  refine ⟨sound.rows, ?_, ?_⟩
  · rw [lastTotalTokens_eq]
    exact RunningTotals.lastTotal_eq sound.rows
  · intro row last
    unfold lastTotalTokens
    rw [Option.mem_def.mp last]

/-- A worker, its turn, a compaction, and a turn after a restart. -/
def ledgerOfOneAfterAnother : List LedgerEvent :=
  [.workerFinished "t1" "run-1" "node-1" ⟨10, 5, 15⟩, .compactReturned "t1" false ⟨20, 10, 30⟩ none,
    .workerFinished "t1" "run-1" "node-2" ⟨3, 4, 7⟩,
    .turnSaved "t1" (some "run-1"),
    .summaryReturned "c1" ⟨5, 5, 10⟩,
    .compactionSaved "c1",
    .restarted,
    .compactReturned "t2" true ⟨0, 0, 0⟩ none,
    .compactReturned "t3" false ⟨1, 1, 2⟩ (some ⟨2, 2, 4⟩),
    .turnSaved "t3" none]

/-- The totals run over all writers. -/
theorem ledgerOfOneAfterAnother_prefixSums : ∃ state,
      ledgerMachine.run .new ledgerOfOneAfterAnother = some state ∧
        state.rows.map UsageRow.totalTokens = [15, 22, 52, 62, 68] ∧
        PrefixSums state.rows := by
  have evaluated :
      ledgerMachine.runGuarded SavesFromLastTotal .new ledgerOfOneAfterAnother =
        ledgerMachine.run .new ledgerOfOneAfterAnother := by
    rfl
  refine ⟨_, rfl, rfl, ?_⟩
  exact (ledgerRuns_prefixSums (.runGuarded (.start rfl) evaluated)).1

/-- The status of a compacting turn is awaited while a compaction appends. -/
def compactionBeforeSave : List LedgerEvent :=
  [.compactReturned "t1" false ⟨50, 30, 80⟩ (some ⟨10, 10, 20⟩), .summaryReturned "c1" ⟨20, 20, 40⟩,
    .compactionSaved "c1",
    .turnSaved "t1" none]

/-- The row of the turn does not contain the compaction. -/
theorem compactionBeforeSave_not_prefixSums : ∃ state,
      ledgerMachine.run .new compactionBeforeSave = some state ∧ ¬ PrefixSums state.rows := by
  refine ⟨_, rfl, ?_⟩
  intro sums
  have total := RunningTotals.lastTotal_eq sums
  exact absurd total (by decide)

end TurningGood.Observability
