import TurningGood.Runtime.CompactionPartition

/-!
# Turns next to a catalog compaction

Every message of a saved turn should stay in the uncompacted history or be
part of what the stored summary was made from.  A catalog compaction writes
what it read before its summary was awaited, so a turn that is saved in
between is lost.  In runs without such a save, and in which every summary is
asked for by a plan that splits its history, no message is lost.
-/

namespace TurningGood.Runtime

open TurningGood.Foundation TurningGood.Sessions TurningGood.Memory

/-! ## Counting what was said -/

/-- What the rows of a session file say. -/
def storedUtterances (file : SessionFile) : List Utterance :=
  file.uncompactedHistory.map fun row => ⟨row.role, row.content⟩

/-- Everything in `said` occurs at least as often in `kept`. -/
def Covers (kept said : List Utterance) : Prop :=
  ∀ utterance, said.count utterance ≤ kept.count utterance

theorem Covers.mono
    {kept said : List Utterance}
    (covers : Covers kept said) {other : List Utterance}
    (sub : kept.Sublist other) : Covers other said :=
  fun utterance => (covers utterance).trans (sub.count_le utterance)

@[simp]
theorem storedUtterances_sessionToDict (session : Session) :
    storedUtterances (sessionToDict session) =
      utterances session.uncompactedHistory := by
  simp only [storedUtterances, sessionToDict, utterances, List.map_map]
  rfl

variable {encode : String → List Nat} {memory : ShortTermMemory}

variable (encode) in
@[simp]
theorem utterances_dictToSession (file : SessionFile) :
    utterances (dictToSession encode file).uncompactedHistory =
      storedUtterances file := by
  simp only [storedUtterances, dictToSession, utterances, List.map_map]
  rfl

namespace SessionState

variable {force : Bool} {state target : SessionState}

/-- Every message of a saved turn is in the history or was summarised. -/
def KeepsCompleted (state : SessionState) : Prop :=
  Covers (storedUtterances state.file ++ state.summarySource) state.completed

/-- The reply makes the compaction write over turns saved since it read. -/
def overwritesTurns (state : SessionState) (reply : SummaryReply) : Bool :=
  match state.compaction with
  | some (.summarising session _ completed plan) =>
    match compact session.summary plan.compactSource (fun _ => reply) with
    | .ok _ => state.completed != completed
    | .error _ => false
  | _ => false

variable (encode) in
/-- The history that the running turn would plan for after its run. -/
def historyAfterRun (state : SessionState) (outcome : TurnOutcome) (ids : List String)
    (now : String) : Option (List MessageRecord) :=
  match state.turn with
  | some ⟨context, .run⟩ =>
    some (buildVirtualHistory encode state.sessionId now ids context outcome)
  | _ => none

/-- A decision for a history that keeps it or splits it. -/
def Splits (memory : ShortTermMemory) (history : List MessageRecord) (force : Bool) : Prop :=
  compactDecision memory history force = .keep history ∨ memory.NoSharedId history

instance (history : List MessageRecord) (force : Bool) :
    Decidable (Splits memory history force) :=
  inferInstanceAs (Decidable (_ ∨ _))

variable (encode memory) in
/--
A catalog compaction that gets its summary does not write over turns saved
since it read the session, and where a summary is asked for no message outside
the newest complete turns that fit shares an id with a message in them.
-/
def KeepsTurns (state : SessionState) : SessionEvent → Prop
  | .compactionReturned reply => state.overwritesTurns reply = false
  | .loadCompaction => Splits memory (state.loadedHistory encode) true
  | .runReturned outcome ids now force =>
    ∀ history ∈ state.historyAfterRun encode outcome ids now, Splits memory history force
  | _ => True

instance (state : SessionState) (event : SessionEvent) :
    Decidable (state.KeepsTurns encode memory event) :=
  match event with
  | .compactionReturned _ => inferInstanceAs (Decidable (_ = _))
  | .loadCompaction => inferInstanceAs (Decidable (Splits _ _ _))
  | .runReturned _ _ _ _ =>
    inferInstanceAs (Decidable (∀ history ∈ _, Splits _ history _))
  | .dispatch _ | .deliver _ | .beginTurn _ _ _ | .summaryReturned _
  | .saveTurn _ _ | .turnFailed | .beginCatalogAction _ _
  | .finishCatalogAction _ | .compactionFailed =>
    inferInstanceAs (Decidable True)

/-- What a turn will write keeps the messages of all saved turns. -/
def TurnAccounted (completed : List Utterance) (turn : Turn) : Prop :=
  match turn.stage with
  | .run =>
    Covers (utterances turn.context.uncompactedHistory ++ turn.context.summarySource) completed
  | .compact outcome plan =>
    Covers (utterances plan.recentWindow ++
        (turn.context.summarySource ++ utterances plan.compactSource))
      (completed ++ turnUtterances turn.context.content outcome)
  | .save outcome =>
    Covers (utterances turn.context.session.uncompactedHistory ++ turn.context.summarySource)
      (completed ++ turnUtterances turn.context.content outcome)

/-- What a compaction will write keeps the turns saved when it read. -/
def CompactionAccounted : CatalogCompaction → Prop
  | .summarising _ summarySource completed plan =>
    Covers (utterances plan.recentWindow ++ (summarySource ++ utterances plan.compactSource))
      completed
  | _ => True

/-- The file and everything that will be written to it keep the turns. -/
structure Accounted (state : SessionState) : Prop where
  file : state.KeepsCompleted
  turn : ∀ turn ∈ state.turn, TurnAccounted state.completed turn
  compaction : ∀ compaction ∈ state.compaction, CompactionAccounted compaction

theorem Splits.covers {history : List MessageRecord}
    (splits : Splits memory history force) {source said : List Utterance}
    (covers : Covers (utterances history ++ source) said) :
    Covers (utterances (compactDecision memory history force).stored ++ (source ++
          utterances (compactDecision memory history force).summarised))
      said := by
  have parts := (compactDecision_perm splits).map MessageRecord.utterance
  rw [List.map_append] at parts
  intro utterance
  have counted := parts.count_eq utterance
  have bound := covers utterance
  simp only [utterances, List.count_append] at counted bound ⊢
  omega

theorem compactDecision_keep {history kept : List MessageRecord}
    (decided : compactDecision memory history force = .keep kept) :
    kept = history := by
  unfold compactDecision at decided
  dsimp only at decided
  split_ifs at decided
  · exact (CompactDecision.keep.inj decided).symm
  · exact (CompactDecision.keep.inj decided).symm

@[simp]
theorem storedUtterances_updateUncompactedHistory
    (file : SessionFile) (history : List MessageRecord) :
    storedUtterances (updateUncompactedHistory encode file history) =
      utterances history :=
  storedUtterances_sessionToDict _

theorem storedUtterances_sublist_loadedHistory (state : SessionState) :
    (storedUtterances state.file).Sublist (utterances (state.loadedHistory encode)) := by
  rw [← utterances_dictToSession encode]
  unfold loadedHistory buildSessionContext
  split_ifs with stored
  · exact List.Sublist.refl _
  · rw [not_or, not_not] at stored
    rw [stored.1]
    exact List.nil_sublist _

variable (encode) in
/-- What a context is built from keeps the messages of all saved turns. -/
theorem KeepsCompleted.loaded
    {state : SessionState} (keeps : state.KeepsCompleted) :
    Covers (utterances (state.loadedHistory encode) ++ state.summarySource)
      state.completed :=
  keeps.mono ((storedUtterances_sublist_loadedHistory state).append_right _)

/-! ## One step -/

theorem beginTurn_accounted {inboundId createdAt content : String}
    (accounted : state.Accounted) (stepped :
      state.beginTurn encode inboundId createdAt content = some target) :
    target.Accounted := by
  unfold beginTurn at stepped
  split_ifs at stepped
  rw [Option.some.injEq] at stepped
  subst target
  refine ⟨accounted.file, ?_, accounted.compaction⟩
  rintro turn ⟨rfl⟩
  exact accounted.file.loaded encode

variable (encode) in
/-- The virtual history keeps the saved turns and the running one. -/
theorem buildVirtualHistory_covers
    {completed : List Utterance} {context : TurnContext}
    {outcome : TurnOutcome} (sessionId now : String) {ids : List String}
    (lengths : ids.length = (turnUtterances context.content outcome).length)
    (running : TurnAccounted completed ⟨context, .run⟩) :
    Covers (utterances (buildVirtualHistory encode sessionId now ids context outcome) ++
        context.summarySource)
      (completed ++ turnUtterances context.content outcome) := by
  rw [utterances_buildVirtualHistory encode sessionId now lengths]
  intro utterance
  have bound := running utterance
  simp only [List.count_append] at bound ⊢
  omega

theorem runReturned_accounted {outcome : TurnOutcome} {ids : List String}
    {now : String} (accounted : state.Accounted) (splits :
      ∀ history ∈ state.historyAfterRun encode outcome ids now,
        Splits memory history force) (stepped :
      state.runReturned encode memory outcome ids now force = some target) :
    target.Accounted := by
  unfold runReturned at stepped
  unfold historyAfterRun at splits
  split at stepped
  case h_2 => cases stepped
  case h_1 context holds =>
    rw [holds] at splits
    split_ifs at stepped with lengths
    have covers :=
      buildVirtualHistory_covers encode state.sessionId now lengths (accounted.turn _ holds)
    have split := (splits _ rfl).covers covers
    dsimp only at stepped
    cases decided : compactDecision memory
          (buildVirtualHistory encode state.sessionId now ids context outcome) force with
    | keep history =>
      rw [decided, Option.some.injEq] at stepped
      subst target
      refine ⟨accounted.file, ?_, accounted.compaction⟩
      rintro turn ⟨rfl⟩
      rw [compactDecision_keep decided]
      exact covers
    | summarise plan =>
      rw [decided, Option.some.injEq] at stepped
      rw [decided] at split
      subst target
      refine ⟨accounted.file, ?_, accounted.compaction⟩
      rintro turn ⟨rfl⟩
      exact split

theorem summaryReturned_accounted {reply : SummaryReply} (accounted : state.Accounted)
    (stepped : state.summaryReturned reply = some target) :
    target.Accounted := by
  unfold summaryReturned at stepped
  split at stepped
  case h_2 => cases stepped
  case h_1 context outcome plan holds =>
    have planned := accounted.turn _ holds
    split at stepped
    case h_1 summary summarised =>
      rw [Option.some.injEq] at stepped
      subst target
      refine ⟨accounted.file, ?_, accounted.compaction⟩
      rintro turn ⟨rfl⟩
      exact planned
    case h_2 =>
      rw [Option.some.injEq] at stepped
      subst target
      exact ⟨accounted.file, by rintro turn ⟨⟩, accounted.compaction⟩

theorem saveTurn_accounted {ids : List String} {now : String} (accounted : state.Accounted)
    (stepped : state.saveTurn encode ids now = some target) :
    target.Accounted := by
  unfold saveTurn at stepped
  split at stepped
  case h_2 => cases stepped
  case h_1 context outcome holds =>
    have written := accounted.turn _ holds
    dsimp only at stepped
    split_ifs at stepped with lengths
    rw [Option.some.injEq] at stepped
    subst target
    refine ⟨?_, by rintro turn ⟨⟩, accounted.compaction⟩
    simp only [KeepsCompleted, storedUtterances_updateUncompactedHistory]
    exact written

theorem loadCompaction_accounted (accounted : state.Accounted)
    (splits : Splits memory (state.loadedHistory encode) true)
    (stepped : state.loadCompaction encode memory = some target) :
    target.Accounted := by
  unfold loadCompaction at stepped
  have covers := accounted.file.loaded encode
  have split := splits.covers covers
  split at stepped
  case h_2 => cases stepped
  case h_1 =>
    rw [compactSessionDecision_eq] at stepped
    cases decided : compactDecision memory (state.loadedHistory encode) true with
    | keep history =>
      rw [decided, Option.some.injEq] at stepped
      subst target
      refine ⟨?_, accounted.turn, by rintro compaction ⟨rfl⟩; trivial⟩
      simp only [KeepsCompleted, storedUtterances_updateUncompactedHistory]
      rw [compactDecision_keep decided]
      exact covers
    | summarise plan =>
      rw [decided, Option.some.injEq] at stepped
      rw [decided] at split
      subst target
      refine ⟨accounted.file, accounted.turn, ?_⟩
      rintro compaction ⟨rfl⟩
      exact split

theorem compactionReturned_accounted {reply : SummaryReply}
    (accounted : state.Accounted) (safe : state.overwritesTurns reply = false)
    (stepped : state.compactionReturned encode reply = some target) :
    target.Accounted := by
  unfold compactionReturned at stepped
  split at stepped
  case h_2 => cases stepped
  case h_1 session summarySource completed plan holds =>
    have planned := accounted.compaction _ holds
    split at stepped
    case h_1 summary summarised =>
      have unchanged : state.completed = completed := by
        simp only [overwritesTurns, holds, summarised] at safe
        exact eq_of_beq (by simpa using safe)
      rw [Option.some.injEq] at stepped
      subst target
      refine ⟨?_, accounted.turn, by rintro compaction ⟨rfl⟩; trivial⟩
      simp only [KeepsCompleted, storedUtterances_updateUncompactedHistory, unchanged]
      exact planned
    case h_2 =>
      rw [Option.some.injEq] at stepped
      subst target
      exact ⟨accounted.file, accounted.turn,
        by rintro compaction ⟨rfl⟩; trivial⟩

theorem beginCatalogAction_accounted (accounted : state.Accounted)
    (request : String) (action : CatalogAction) :
    (state.beginCatalogAction request action).Accounted := by
  unfold beginCatalogAction
  split_ifs
  · exact accounted
  · refine ⟨accounted.file, accounted.turn, ?_⟩
    rintro compaction ⟨rfl⟩
    trivial
  · exact ⟨accounted.file, accounted.turn, accounted.compaction⟩

theorem step_accounted {event : SessionEvent} (accounted : state.Accounted)
    (keeps : state.KeepsTurns encode memory event)
    (stepped : state.step encode memory event = some target) :
    target.Accounted := by
  cases event with
  | dispatch request =>
    cases stepped
    exact ⟨accounted.file, accounted.turn, accounted.compaction⟩
  | deliver request =>
    simp only [step, deliver, Option.some.injEq] at stepped
    split_ifs at stepped
    · exact stepped ▸ ⟨accounted.file, accounted.turn, accounted.compaction⟩
    · exact stepped ▸ accounted
  | beginTurn inboundId createdAt content =>
    exact beginTurn_accounted accounted stepped
  | runReturned outcome ids now force =>
    exact runReturned_accounted accounted keeps stepped
  | summaryReturned reply =>
    exact summaryReturned_accounted accounted stepped
  | saveTurn ids now =>
    exact saveTurn_accounted accounted stepped
  | turnFailed =>
    simp only [step, turnFailed] at stepped
    split_ifs at stepped
    cases stepped
    exact ⟨accounted.file, by rintro turn ⟨⟩, accounted.compaction⟩
  | beginCatalogAction request action =>
    cases stepped
    exact beginCatalogAction_accounted accounted request action
  | finishCatalogAction request =>
    cases stepped
    exact ⟨accounted.file, accounted.turn, accounted.compaction⟩
  | loadCompaction =>
    exact loadCompaction_accounted accounted keeps stepped
  | compactionReturned reply =>
    exact compactionReturned_accounted accounted keeps stepped
  | compactionFailed =>
    simp only [step, compactionFailed] at stepped
    split_ifs at stepped
    cases stepped
    exact ⟨accounted.file, accounted.turn,
      by rintro compaction ⟨rfl⟩; trivial⟩

/--
In every run in which no catalog compaction writes over turns saved since it
read the session, and in which every plan that asks for a summary splits its
history, each message of each saved turn is in the uncompacted history or in
the source of the stored summary.
-/
theorem sessionRuns_keepCompleted
    {state : SessionState}
    (reached : (sessionMachine encode memory).Reaches (KeepsTurns encode memory) state) :
    state.KeepsCompleted := by
  have accounted : state.Accounted := by
    refine reached.invariant ?_ ?_
    · rintro _ ⟨sessionId, file, messageRows, rfl⟩
      refine ⟨?_, by rintro turn ⟨⟩, by rintro compaction ⟨⟩⟩
      intro utterance
      exact Nat.zero_le _
    · intro earlier event target _ accounted keeps stepped
      exact step_accounted accounted keeps stepped
  exact accounted.file

/-- One saved turn, then a catalog compaction that awaits its summary. -/
def compactAfterTurn : List SessionEvent := savedTurn "a" "b" "i1" "i2" "i3" ++
    [.beginCatalogAction "r" .compact, .loadCompaction]

/-- The next turn up to its save. -/
def nextTurn : List SessionEvent := [.dispatch "i4", .beginTurn "i4" "t" "c",
    .runReturned ⟨[], "d", false⟩ ["i4", "i5"] "t" false]

/-- The summary arrives and the catalog action ends. -/
def compactionWrites : List SessionEvent :=
  [.compactionReturned ⟨"s", some 1⟩, .finishCatalogAction "r"]

/-- The turn that was saved during the compaction is nowhere. -/
theorem compaction_overwrites_saved_turn : ∃ state,
      (sessionMachine characterTokens ⟨9, 0⟩).run (.atRest "s" ⟨"", []⟩ [])
          (compactAfterTurn ++ nextTurn ++ [.saveTurn ["i6"] "t"] ++
            compactionWrites) = some state ∧
        state.turn = none ∧
        state.compaction = some .finished ∧
        ¬ state.KeepsCompleted := by
  refine ⟨_, rfl, rfl, rfl, ?_⟩
  intro keeps
  exact absurd (keeps ⟨"user", "c"⟩) (by decide)

/-- A turn that is saved after the compaction keeps its messages. -/
theorem compaction_before_save_keepsCompleted : ∃ state,
      (sessionMachine characterTokens ⟨9, 0⟩).run (.atRest "s" ⟨"", []⟩ [])
          (compactAfterTurn ++ nextTurn ++ compactionWrites ++
            [.saveTurn ["i6"] "t"]) = some state ∧
        state.completed.length = 4 ∧
        state.KeepsCompleted := by
  have evaluated :
      (sessionMachine characterTokens ⟨9, 0⟩).runGuarded (KeepsTurns characterTokens ⟨9, 0⟩)
          (.atRest "s" ⟨"", []⟩ [])
          (compactAfterTurn ++ nextTurn ++ compactionWrites ++ [.saveTurn ["i6"] "t"]) =
        (sessionMachine characterTokens ⟨9, 0⟩).run (.atRest "s" ⟨"", []⟩ [])
          (compactAfterTurn ++ nextTurn ++ compactionWrites ++ [.saveTurn ["i6"] "t"]) := by
    decide
  refine ⟨_, rfl, rfl, ?_⟩
  exact sessionRuns_keepCompleted (.runGuarded (.start ⟨"s", ⟨"", []⟩, [], rfl⟩) evaluated)

end SessionState
end TurningGood.Runtime
