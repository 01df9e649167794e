import TurningGood.Runtime.SessionTurns

/-!
# What a compaction keeps of a history

A plan that compacts should split its input between the source of the summary
and the recent window.  It does so exactly when no message outside the newest
complete turns that fit into the window carries the id of a message in them.
Messages reloaded from `session.json` all carry the empty id, so a window that
reaches back into them takes the older ones out of the source.
-/

namespace TurningGood.Runtime

open TurningGood.Foundation TurningGood.Sessions TurningGood.Memory

/--
The plan for `messages` splits them: every occurrence is in exactly one part,
both parts are in order, the window is within its limit, and what the
`compact` state stores and summarises is the whole input.
-/
structure Partitions
    (memory : ShortTermMemory) (messages : List MessageRecord)
    (force : Bool) : Prop where
  exactlyOnce : ((memory.planCompaction messages force).compactSource ++
      (memory.planCompaction messages force).recentWindow).Perm messages
  sourceOrdered : (memory.planCompaction messages force).compactSource.Sublist messages
  windowOrdered : (memory.planCompaction messages force).recentWindow.Sublist messages
  windowFits : countTokens (memory.planCompaction messages force).recentWindow ≤
      memory.recentWindowTokenLimit
  contextKept : ((compactDecision memory messages force).summarised ++
      (compactDecision memory messages force).stored).Perm messages

theorem compactDecision_perm
    {memory : ShortTermMemory} {messages : List MessageRecord} {force : Bool}
    (covered : compactDecision memory messages force = .keep messages ∨
        memory.NoSharedId messages) :
    ((compactDecision memory messages force).summarised ++
      (compactDecision memory messages force).stored).Perm messages := by
  rcases covered with kept | separate
  · rw [kept]
    exact List.Perm.refl messages
  · unfold compactDecision
    dsimp only
    split_ifs with idle noSource
    · exact List.Perm.refl messages
    · exact List.Perm.refl messages
    · exact (planCompaction_perm_iff (eq_true_of_ne_false idle)).mpr separate

/--
A plan that compacts splits its input, and the context keeps every message or
its summary, if and only if no message outside the newest complete turns that
fit into the window shares an id with a message in them.
-/
theorem planCompaction_partitions_iff (memory : ShortTermMemory) (messages : List MessageRecord)
    (force : Bool)
    (compacts : (memory.planCompaction messages force).shouldCompact = true) :
    Partitions memory messages force ↔ memory.NoSharedId messages := by
  rcases planCompaction_of_shouldCompact compacts with ⟨window, source⟩
  constructor
  · intro partitions
    exact (planCompaction_perm_iff compacts).mp partitions.exactlyOnce
  · intro separate
    refine
      { exactlyOnce := (planCompaction_perm_iff compacts).mpr separate
        sourceOrdered := ?_
        windowOrdered := ?_
        windowFits := ?_
        contextKept := compactDecision_perm (.inr separate) }
    · rw [source]
      exact List.filter_sublist
    · rw [window]
      exact recentWindow_sublist memory messages
    · rw [window]
      exact recentWindow_fits memory messages

/-! ## A session that is reloaded twice -/

/-- One token for each character. -/
def characterTokens (content : String) : List Nat := content.toList.map Char.toNat

/-- A turn with one answer that is saved, from its message to its reply. -/
def savedTurn (question answer first second third : String) :
    List SessionEvent :=
  [.dispatch first, .beginTurn first "t" question,
    .runReturned ⟨[], answer, false⟩ [first, second] "t" false,
    .saveTurn [third] "t", .deliver first]

/-- Two saved turns, and a third one that has loaded the session. -/
def twoTurnsThenLoad : List SessionEvent :=
  savedTurn "a" "b" "i1" "i2" "i3" ++ savedTurn "c" "d" "i4" "i5" "i6" ++
    [.dispatch "i7", .beginTurn "i7" "t" "e"]

/-- The virtual history of a third turn that is given guidance. -/
def guidedHistory (context : TurnContext) : List MessageRecord :=
  buildVirtualHistory characterTokens "s" "t" ["j1", "j2", "j3"] context ⟨["f"], "g", false⟩

/--
After two turns the third one is given guidance.  Its window reaches back to
the second turn, whose messages are reloaded with the empty id, and the first
turn, which carries the same id, is in neither part.
-/
theorem reloaded_turn_leaves_context : ∃ state context, (sessionMachine characterTokens ⟨6, 4⟩).run
          (.atRest "s" ⟨"", []⟩ []) twoTurnsThenLoad = some state ∧
        state.turn = some ⟨context, .run⟩ ∧
        (ShortTermMemory.planCompaction ⟨6, 4⟩ (guidedHistory context) false).shouldCompact = true ∧
        ¬ Partitions ⟨6, 4⟩ (guidedHistory context) false ∧
        ¬ ((compactDecision ⟨6, 4⟩ (guidedHistory context) false).summarised ++
            (compactDecision ⟨6, 4⟩ (guidedHistory context) false).stored).Perm
          (guidedHistory context) := by
  refine ⟨_, _, rfl, rfl, by decide, ?_, ?_⟩
  · intro partitions
    exact absurd partitions.exactlyOnce.length_eq (by decide)
  · intro kept
    exact absurd kept.length_eq (by decide)

/-- The third turn of a session whose messages still have their ids. -/
def contextWithIds : TurnContext where
  inboundId := "i7"
  inboundCreatedAt := "t"
  content := "e"
  session := ⟨"", []⟩
  uncompactedHistory := [⟨"i1", "s", "user", "a", 1, "t"⟩, ⟨"i3", "s", "assistant", "b", 1, "t"⟩,
      ⟨"i4", "s", "user", "c", 1, "t"⟩,
      ⟨"i6", "s", "assistant", "d", 1, "t"⟩]
  summarySource := []

/-- The same turns with their own ids are split. -/
theorem fresh_turns_partition : (ShortTermMemory.planCompaction ⟨6, 4⟩
        (guidedHistory contextWithIds) false).shouldCompact = true ∧
      Partitions ⟨6, 4⟩ (guidedHistory contextWithIds) false := by
  refine ⟨by decide, ?_⟩
  exact
    (planCompaction_partitions_iff _ _ _ (by decide)).mpr
      (noSharedId_of_nodup _ (by decide))

end TurningGood.Runtime
