import Mathlib.Data.List.Lex
import Mathlib.Data.Prod.Lex
import TurningGood.Foundation.CursorPages
import TurningGood.Foundation.JsonFields
import TurningGood.Sessions.StoredRows

/-!
# Pages of tool calls

`page_tool_calls` shows the tool calls of a session in pages, the latest ones
first.  A cursor carries the position of the first record that was there at
the first request and the position of the last one that was shown; the next
page shows what is strictly behind it.

The tool calls of a turn are saved with one time, and their ids come from the
model.  Records of one position that do not fit on a page together are lost
for the reader.
-/

namespace TurningGood.Web

open TurningGood.Foundation
open TurningGood.Sessions.JsonlStore

variable {file : List ToolCallRecord}

/-! ## Positions -/

/-- The number of a code point. -/
def codePointNumber : CodePoint → Nat
  | .scalar char => char.toNat
  | .surrogate offset => 0xD800 + offset

theorem codePointNumber_injective : Function.Injective codePointNumber := by
  intro first second same
  cases first with
  | scalar one =>
    cases second with
    | scalar two => rw [Char.ext (UInt32.toNat_inj.mp same)]
    | surrogate offset =>
      have valid := one.valid
      have within := offset.isLt
      simp only [codePointNumber, Char.toNat] at same
      simp only [UInt32.isValidChar, Nat.isValidChar] at valid
      omega
  | surrogate offset =>
    cases second with
    | scalar two =>
      have valid := two.valid
      have within := offset.isLt
      simp only [codePointNumber, Char.toNat] at same
      simp only [UInt32.isValidChar, Nat.isValidChar] at valid
      omega
    | surrogate other => rw [Fin.ext (Nat.add_left_cancel same)]

/-- Texts are compared by the numbers of their code points. -/
instance : LinearOrder CodePoint := LinearOrder.lift' codePointNumber codePointNumber_injective

/-- A pair of `created_at` and `tool_call_id`. -/
abbrev CallKey := CodePoints ×ₗ CodePoints

/-- The key by which the records are sorted. -/
def callKey (record : ToolCallRecord) : CallKey := toLex (record.createdAt, record.toolCallId)

/-- `list(position)`. -/
def CallKey.json (position : CallKey) : Json :=
  .array [.string (ofLex position).1, .string (ofLex position).2]

/-- `tuple(value)`, of a value that was written as a position. -/
def readCallKey : Json → Option CallKey
  | .array [.string createdAt, .string toolCallId] =>
    some (toLex (createdAt, toolCallId))
  | _ => none

@[simp]
theorem readCallKey_json (position : CallKey) :
    readCallKey position.json = some position := rfl

/--
`_encode_cursor` and `_decode_cursor`: the text of a dictionary, in the
alphabet of addresses.  What was encoded is decoded; no dictionary has an empty
text.
-/
structure CursorCodec where
  encodeCursor : Json → CodePoints
  decodeCursor : CodePoints → Option Json
  decode_encode : ∀ value, value.Proper → value.Encodable →
    decodeCursor (encodeCursor value) = some value
  decode_empty : decodeCursor [] = none

/-- The dictionary of `next_cursor`. -/
def cursorState (snapshot before : CallKey) : Json :=
  .ofFields [("snapshot", snapshot.json), ("before", before.json)]

/-- What `page_tool_calls` returns, before the records are rendered. -/
structure ToolCallPage where
  items : List ToolCallRecord
  nextCursor : Option CodePoints
  snapshot : Option CodePoints

/-- The page between two positions. -/
def cutPage (codec : CursorCodec) (records : List ToolCallRecord)
    (boundary before : Option CallKey) (limit : Nat) : ToolCallPage :=
  let records := records.filter fun item => boundary.all (callKey item ≤ ·)
  let records := records.filter fun item => before.all (callKey item < ·)
  let items := records.take limit
  let nextCursor :=
    match items.getLast?, boundary with
    | some last, some snapshot =>
      if items.length < records.length then
        some (codec.encodeCursor (cursorState snapshot (callKey last)))
      else
        none
    | _, _ => none
  { items, nextCursor
    snapshot := boundary.map fun snapshot =>
      codec.encodeCursor (.ofFields [("snapshot", snapshot.json)]) }

/--
`page_tool_calls`; there are no records when there is no session.  A cursor of
another shape is refused.
-/
def pageToolCalls (codec : CursorCodec) (stored : Option (List ToolCallRecord)) (limit : Int)
    (cursor : Option CodePoints) : Except String (Option ToolCallPage) :=
  if limit < 1 ∨ 100 < limit then
    .error "limit 必须在 1 到 100 之间"
  else
    match stored with
    | none => .ok none
    | some stored =>
      let records := newestFirst callKey stored
      match cursor.filter (· ≠ []) with
      | none =>
        .ok (some (cutPage codec records (records.head?.map callKey) none limit.toNat))
      | some text =>
        match codec.decodeCursor text with
        | none => .error "cursor 无效"
        | some state =>
          match (state.field? "snapshot").bind readCallKey,
              (state.field? "before").bind readCallKey with
          | some boundary, some before =>
            .ok (some (cutPage codec records (some boundary) (some before) limit.toNat))
          | _, _ => .error "cursor 无效"

/--
The pages of a reader who follows `next_cursor`.  Before each request a batch
has been appended to the file; there is no result when the batches end first.
-/
def followCursor (codec : CursorCodec) (limit : Int) : Option CodePoints → List ToolCallRecord →
      List (List ToolCallRecord) → Option (List ToolCallPage)
  | _, _, [] => none
  | cursor, file, batch :: batches =>
    match pageToolCalls codec (some (file ++ batch)) limit cursor with
    | .ok (some page) =>
      match page.nextCursor with
      | none => some [page]
      | some next =>
        (followCursor codec limit (some next) (file ++ batch) batches).map (page :: ·)
    | _ => none

/-! ## The pages that are read -/

/-- A position of a record that was saved, that is, written as UTF-8. -/
def SavedKey (position : CallKey) : Prop :=
  IsScalarText (ofLex position).1 ∧ IsScalarText (ofLex position).2

theorem cursorState_proper (snapshot before : CallKey) : (cursorState snapshot before).Proper := by
  apply Json.proper_ofFields
  · simp only [List.map_cons, List.map_nil]
    decide
  · simp [CallKey.json, Json.Proper, Json.ProperItems]

theorem snapshot_cursorState (snapshot before : CallKey) :
    (cursorState snapshot before).field? "snapshot" =
      some snapshot.json := by
  rw [cursorState, Json.field?_ofFields]
  rfl

theorem before_cursorState (snapshot before : CallKey) :
    (cursorState snapshot before).field? "before" = some before.json := by
  rw [cursorState, Json.field?_ofFields]
  rfl

theorem callKey_json_encodable {position : CallKey}
    (saved : SavedKey position) : position.json.Encodable := by
  rw [Json.Encodable, CallKey.json, Json.dumps, Json.dumps, Json.dumpsItems,
    Json.dumps, Json.dumpsItems]
  simp only [isScalarText_cons, isScalarText_append, Json.isScalarText_dumpsString]
  exact ⟨rfl, saved.1, isScalarText_textOf _, saved.2, rfl, isScalarText_textOf []⟩

theorem cursorState_encodable {snapshot before : CallKey}
    (one : SavedKey snapshot) (two : SavedKey before) :
    (cursorState snapshot before).Encodable := by
  apply Json.encodable_ofFields.mpr
  simp only [List.forall_mem_cons]
  exact ⟨callKey_json_encodable one, callKey_json_encodable two, by simp⟩

/-- A cursor that the pages lead to, and where the next page begins. -/
inductive Follows (codec : CursorCodec) :
    Option CodePoints → Option CallKey → Prop
  | first : Follows codec none none
  | next {snapshot before : CallKey} (below : before ≤ snapshot)
      (savedSnapshot : SavedKey snapshot) (savedBefore : SavedKey before) :
      Follows codec (some (codec.encodeCursor (cursorState snapshot before))) (some before)

/-- A boundary that no record behind the position exceeds. -/
def Bounds (boundary : Option CallKey) (before : Option CallKey)
    (file : List ToolCallRecord) : Prop :=
  (∀ snapshot ∈ boundary, SavedKey snapshot) ∧ ∀ record ∈ visible callKey before file,
      ∃ snapshot ∈ boundary, callKey record ≤ snapshot

theorem bounds_first (saved : ∀ record ∈ file, SavedKey (callKey record)) :
    Bounds ((newestFirst callKey file).head?.map callKey) none file := by
  have sorted := newestFirst_sorted callKey file
  have members := fun record =>
    (newestFirst_perm callKey file).mem_iff (a := record)
  constructor
  · intro snapshot member
    rcases Option.map_eq_some_iff.mp member with ⟨record, first, rfl⟩
    exact saved record ((members record).mp (List.mem_of_mem_head? first))
  · intro record shown
    have inside := (List.mem_filter.mp shown).1
    cases sorting : newestFirst callKey file with
    | nil => rw [sorting] at inside; cases inside
    | cons first rest =>
      rw [sorting] at inside sorted
      refine ⟨callKey first, rfl, ?_⟩
      rcases List.mem_cons.mp inside with rfl | later
      · exact le_refl _
      · exact List.rel_of_pairwise_cons sorted later

theorem filter_boundary {boundary before : Option CallKey} (bounds : Bounds boundary before file) :
    ((newestFirst callKey file).filter fun item =>
        boundary.all (callKey item ≤ ·)).filter (fun item => before.all (callKey item < ·)) =
      visible callKey before file := by
  rw [List.filter_filter]
  apply List.filter_congr
  intro record member
  change (isBehind callKey before record && _) = _
  rw [Bool.and_eq_left_iff_imp]
  intro behind
  rcases bounds.2 record (List.mem_filter.mpr ⟨member, behind⟩) with ⟨snapshot, same, within⟩
  cases same
  exact decide_eq_true within

theorem pageToolCalls_eq {codec : CursorCodec} {limit : Int} (low : 1 ≤ limit)
    (high : limit ≤ 100) {cursor : Option CodePoints}
    {before : Option CallKey} (follows : Follows codec cursor before)
    (saved : ∀ record ∈ file, SavedKey (callKey record)) :
    ∃ boundary, Bounds boundary before file ∧ pageToolCalls codec (some file) limit cursor =
        .ok (some (cutPage codec (newestFirst callKey file) boundary before limit.toNat)) := by
  have range : ¬(limit < 1 ∨ 100 < limit) := by omega
  cases follows with
  | first =>
    refine ⟨_, bounds_first saved, ?_⟩
    rw [pageToolCalls, if_neg range]
    rfl
  | @next snapshot position below savedSnapshot savedBefore =>
    refine ⟨some snapshot, ⟨?_, ?_⟩, ?_⟩
    · rintro _ ⟨⟩
      exact savedSnapshot
    · intro record shown
      have behind := (List.mem_filter.mp shown).2
      exact ⟨snapshot, rfl, (le_of_lt (isBehind_some.mp behind)).trans below⟩
    · have decoded := codec.decode_encode _
        (cursorState_proper snapshot position)
        (cursorState_encodable savedSnapshot savedBefore)
      have nonempty :
          codec.encodeCursor (cursorState snapshot position) ≠ [] := by
        intro empty
        rw [empty, codec.decode_empty] at decoded
        cases decoded
      have kept : (some
          (codec.encodeCursor (cursorState snapshot position))).filter (· ≠ []) =
          some (codec.encodeCursor (cursorState snapshot position)) := by
        simp [nonempty]
      simp only [pageToolCalls, if_neg range, kept, decoded,
        snapshot_cursorState, before_cursorState, Option.bind_some,
        readCallKey_json]

theorem nextCursor_cutPage {codec : CursorCodec} {limit : Nat}
    {boundary before : Option CallKey} {file : List ToolCallRecord}
    (bounds : Bounds boundary before file)
    (saved : ∀ record ∈ file, SavedKey (callKey record)) :
    let page := cutPage codec (newestFirst callKey file) boundary before limit
    page.items = (visible callKey before file).take limit ∧
      match page.items.getLast? with
      | none => page.nextCursor = none
      | some last =>
        if page.items.length < (visible callKey before file).length then
          ∃ cursor, page.nextCursor = some cursor ∧
            Follows codec (some cursor) (some (callKey last))
        else
          page.nextCursor = none := by
  have shown := filter_boundary bounds
  simp only [cutPage, shown, true_and]
  cases ends : ((visible callKey before file).take limit).getLast? with
  | none => rfl
  | some last =>
    have inside := mem_visible_of_last ends
    rcases bounds.2 last inside with ⟨snapshot, same, within⟩
    cases same
    have stored : last ∈ file :=
      (List.mem_filter.mp ((visible_perm callKey before file).mem_iff.mp inside)).1
    dsimp only
    split_ifs with more
    · exact ⟨_, rfl, .next within (bounds.1 snapshot rfl) (saved last stored)⟩
    · rfl

theorem followCursor_eq {codec : CursorCodec} {limit : Int} (low : 1 ≤ limit) (high : limit ≤ 100)
    {cursor : Option CodePoints} {before : Option CallKey}
    (follows : Follows codec cursor before) {file : List ToolCallRecord}
    {batches : List (List ToolCallRecord)}
    (saved : ∀ record ∈ file ++ batches.flatten, SavedKey (callKey record)) :
    (followCursor codec limit cursor file batches).map (List.map ToolCallPage.items) =
      pagesOf callKey limit.toNat before file batches := by
  induction batches generalizing cursor before file with
  | nil => rfl
  | cons batch batches induction =>
    rw [List.flatten_cons, ← List.append_assoc] at saved
    have savedFile : ∀ record ∈ file ++ batch, SavedKey (callKey record) :=
      fun record member => saved record (List.mem_append_left _ member)
    rcases pageToolCalls_eq low high follows savedFile with ⟨boundary, bounds, answered⟩
    have page := @nextCursor_cutPage codec limit.toNat _ _ _ bounds
      savedFile
    simp only [followCursor, answered, pagesOf]
    rcases page with ⟨items, next⟩
    rw [items] at next
    cases ends : ((visible callKey before (file ++ batch)).take limit.toNat).getLast? with
    | none =>
      simp only [ends] at next
      simp only [next, Option.map_some, List.map_cons, List.map_nil, items]
    | some last =>
      simp only [ends] at next
      split_ifs at next with more
      · rcases next with ⟨found, same, later⟩
        simp only [same, if_pos more, Option.map_map, ← induction later saved]
        congr 1
        funext pages
        rw [Function.comp_apply, Function.comp_apply, List.map_cons, items]
      · simp only [next, if_neg more, Option.map_some, List.map_cons, List.map_nil, items]

/-- The records that the pages of a reader show. -/
def shownCalls (pages : List ToolCallPage) : List ToolCallRecord := pages.flatMap ToolCallPage.items

/--
Every record that was there at the first request is shown once; besides, some
of the records that were appended later may be shown.
-/
def ShowsAll (records : List ToolCallRecord)
    (batches : List (List ToolCallRecord)) (pages : List ToolCallPage) :
    Prop :=
  (∃ others, others.Subperm batches.flatten ∧ (shownCalls pages).Perm (records ++ others)) ∧
  (shownCalls pages).Pairwise fun left right => callKey right ≤ callKey left

theorem shownCalls_eq (pages : List ToolCallPage) :
    shownCalls pages = (pages.map ToolCallPage.items).flatten :=
  List.flatMap_def

theorem showsAll_iff {limit : Nat} (positive : 0 < limit)
    {records : List ToolCallRecord} {batches : List (List ToolCallRecord)}
    {pages : List ToolCallPage}
    (read : pagesOf callKey limit none records ([] :: batches) =
      some (pages.map ToolCallPage.items)) :
    ShowsAll records batches pages ↔
      TiesKept callKey limit records none records ([] :: batches) := by
  have whole : records ++ [] = records := List.append_nil records
  have complete := complete_iff_tiesKept callKey positive
    (whole.symm ▸ read : pagesOf callKey limit none (records ++ [])
      ([] :: batches) = some (pages.map ToolCallPage.items))
  rw [whole] at complete
  rw [← complete, ShowsAll, shownCalls_eq]
  have all : records.filter (isBehind callKey none) = records :=
    List.filter_eq_self.mpr fun _ _ => rfl
  rw [all]
  have appended : (([] : List ToolCallRecord).filter
      (isBehind callKey none) : Multiset ToolCallRecord) +
        ([] :: batches).flatten = batches.flatten :=
    Multiset.zero_add _
  rw [appended]
  constructor
  · rintro ⟨⟨others, part, same⟩, -⟩
    exact ⟨others, Multiset.coe_le.mpr part, Multiset.coe_eq_coe.mpr same⟩
  · rintro ⟨others, part, same⟩
    rcases Quotient.exists_rep others with ⟨others, rfl⟩
    exact ⟨⟨others, Multiset.coe_le.mp part, Multiset.coe_eq_coe.mp same⟩,
      pages_sorted callKey read⟩

/--
A reader who makes one request more than there are records reaches the end.
At the end everything that was there at the first request has been shown once,
in the order of the positions, if and only if every page has all records of
the first snapshot that have the position of its last one.
-/
theorem toolCallPages_complete_iff (codec : CursorCodec) (limit : Int)
    (low : 1 ≤ limit) (high : limit ≤ 100)
    (records : List ToolCallRecord) (batches : List (List ToolCallRecord))
    (saved : ∀ record ∈ records ++ batches.flatten, SavedKey (callKey record)) :
    (records.length + batches.flatten.length ≤ batches.length →
      ∃ pages, followCursor codec limit none records ([] :: batches) = some pages) ∧
    ∀ pages, followCursor codec limit none records ([] :: batches) = some pages →
      (ShowsAll records batches pages ↔
        TiesKept callKey limit.toNat records none records ([] :: batches)) := by
  have followed := @followCursor_eq codec limit low high none none .first
    records ([] :: batches) saved
  constructor
  · intro enough
    have ended : ∃ pages, pagesOf callKey limit.toNat none records
        ([] :: batches) = some pages := by
      apply pagesOf_isSome
      have fewer := List.length_filter_le
        (isBehind callKey none) records
      rw [List.flatten_cons, List.nil_append, List.length_cons]
      omega
    rcases ended with ⟨pages, read⟩
    rw [read] at followed
    rcases Option.map_eq_some_iff.mp followed with ⟨found, same, -⟩
    exact ⟨found, same⟩
  · intro pages read
    rw [read, Option.map_some] at followed
    exact showsAll_iff (by omega) followed.symm

/-- A codec without the alphabet of addresses. -/
def jsonCodec : CursorCodec where
  encodeCursor := Json.dumps
  decodeCursor := Json.loads
  decode_encode _ proper _ := Json.loads_dumps proper
  decode_empty := rfl

/-- A tool call of one turn, which was saved with the others. -/
def callWith (toolCallId : String) (content : String) : ToolCallRecord where
  turnId := literal "turn"
  toolCallId := literal toolCallId
  toolName := literal "grep"
  args := ⟨[], by simp [Json.Proper, Json.ProperMembers]⟩
  content := literal content
  error := none
  durationMs := .finite ['1'] rfl
  createdAt := literal "2026-01-05T08:00:00+00:00"

theorem callWith_saved (toolCallId content : String) :
    SavedKey (callKey (callWith toolCallId content)) :=
  ⟨isScalarText_literal _, isScalarText_literal _⟩

/-- Calls with different ids are shown on two pages. -/
theorem toolCallPages_complete_iff_twoIds : ∃ pages,
      followCursor jsonCodec 1 none [callWith "a" "x", callWith "b" "y"] [[], [], []] = some pages ∧
        (ShowsAll [callWith "a" "x", callWith "b" "y"] [[], []] pages ↔
          TiesKept callKey 1 [callWith "a" "x", callWith "b" "y"] none
            [callWith "a" "x", callWith "b" "y"] [[], [], []]) := by
  have complete := toolCallPages_complete_iff jsonCodec 1 (by decide)
    (by decide) [callWith "a" "x", callWith "b" "y"] [[], []] (by
      intro record member
      simp only [List.flatten_cons, List.flatten_nil, List.append_nil,
        List.mem_cons, List.not_mem_nil, or_false] at member
      rcases member with rfl | rfl <;> exact callWith_saved _ _)
  rcases complete.1 (by decide) with ⟨pages, read⟩
  exact ⟨pages, read, complete.2 pages read⟩

/-- Of two calls without ids, a page for one record shows one only. -/
theorem toolCallPages_lost : ∃ pages,
      followCursor jsonCodec 1 none [callWith "" "x", callWith "" "y"] [[], [], []] = some pages ∧
        ¬ShowsAll [callWith "" "x", callWith "" "y"] [[], []] pages := by
  have computed : pagesOf callKey 1 none [callWith "" "x", callWith "" "y"]
      [[], [], []] = some [[callWith "" "x"], []] := rfl
  have followed := @followCursor_eq jsonCodec 1 (by decide) (by decide) none
    none .first [callWith "" "x", callWith "" "y"] [[], [], []] (by
      intro record member
      simp only [List.flatten_cons, List.flatten_nil, List.append_nil,
        List.mem_cons, List.not_mem_nil, or_false] at member
      rcases member with rfl | rfl <;> exact callWith_saved _ _)
  rw [Int.toNat_one, computed] at followed
  rcases Option.map_eq_some_iff.mp followed with ⟨pages, read, items⟩
  refine ⟨pages, read, ?_⟩
  rintro ⟨⟨others, -, same⟩, -⟩
  have sizes := same.length_eq
  rw [shownCalls_eq, items, List.length_append] at sizes
  simp only [List.flatten_cons, List.flatten_nil, List.length_append,
    List.length_cons, List.length_nil] at sizes
  omega

end TurningGood.Web
