import TurningGood.Foundation.KeyedFold
import TurningGood.Foundation.Text
import Mathlib.Data.List.Infix

/-!
# The OpenAI-compatible model client

A reply of the model is received whole by `complete`, or as a sequence of
events by `stream`, which merges the fragments of the tool calls and builds
them when the finish reason arrives.  The JSON reader of the arguments is a
parameter.
-/

namespace TurningGood.Llm

open TurningGood.Foundation

/-- What `json.loads` makes of a text. -/
inductive Loaded (Args : Type) where
  | malformed
  | notObject
  | object (args : Args)
  deriving DecidableEq, Repr

/-- A reader of JSON texts, with the empty object. -/
structure JsonReader (Args : Type) where
  emptyObject : Args
  loads : String → Loaded Args

/-- `ToolCall`. -/
structure ToolCall (Args : Type) where
  id : String
  name : String
  args : Args
  deriving DecidableEq, Repr

/-- `LLMUsage`. -/
structure LLMUsage where
  inputTokens : Int
  outputTokens : Int
  totalTokens : Int
  deriving DecidableEq, Repr

/-- `LLMResponse`. -/
structure LLMResponse (Args : Type) where
  content : String
  toolCalls : List (ToolCall Args)
  usage : LLMUsage
  protocolError : Option String
  reasoningContent : Option String
  deriving DecidableEq, Repr

/-- `LLMChunk`. -/
structure LLMChunk (Args : Type) where
  deltaText : String := ""
  toolCalls : List (ToolCall Args) := []
  finishReason : Option String := none
  usage : Option LLMUsage := none
  protocolError : Option String := none
  deriving DecidableEq, Repr

/-! ## What the provider sends -/

/-- The arguments of a tool call as the SDK gives them. -/
inductive RawArguments (Args : Type) where
  | null
  | text (raw : String)
  | object (args : Args)
  deriving DecidableEq, Repr

/-- The `function` of a complete tool call. -/
structure RawFunction (Args : Type) where
  name : Option String
  arguments : RawArguments Args
  deriving DecidableEq, Repr

/-- A complete tool call. -/
structure RawToolCall (Args : Type) where
  id : Option String
  function : Option (RawFunction Args)
  deriving DecidableEq, Repr

/-- The usage block of a response or an event. -/
structure RawUsage where
  promptTokens : Option Int
  completionTokens : Option Int
  totalTokens : Option Int
  deriving DecidableEq, Repr

/-- The message of a complete response. -/
structure RawMessage (Args : Type) where
  content : Option String
  toolCalls : List (RawToolCall Args)
  reasoningContent : Option String
  deriving DecidableEq, Repr

/-- A complete response: the message of each choice, and the usage. -/
structure RawResponse (Args : Type) where
  choices : List (Option (RawMessage Args))
  usage : Option RawUsage
  deriving DecidableEq, Repr

/-- The `function` fragment of a delta. -/
structure FunctionDelta where
  name : Option String
  arguments : Option String
  deriving DecidableEq, Repr

/-- A fragment of a tool call. -/
structure ToolCallDelta where
  index : Option Nat
  id : Option String
  function : Option FunctionDelta
  deriving DecidableEq, Repr

/-- The `delta` of a streamed choice. -/
structure ChoiceDelta where
  content : Option String
  toolCalls : List ToolCallDelta
  deriving DecidableEq, Repr

/-- A streamed choice. -/
structure StreamChoice where
  delta : Option ChoiceDelta
  finishReason : Option String
  deriving DecidableEq, Repr

/-- An event of the stream. -/
structure StreamEvent where
  usage : Option RawUsage
  choices : List StreamChoice
  deriving DecidableEq, Repr

/-- `value or ""` for an optional text. -/
def textOf (value : Option String) : String :=
  value.getD ""

/-- `_parse_usage` of a usage block that is there. -/
def parseUsage (usage : RawUsage) : LLMUsage :=
  let inputTokens := usage.promptTokens.getD 0
  let outputTokens := usage.completionTokens.getD 0
  let totalTokens := usage.totalTokens.getD 0
  { inputTokens, outputTokens
    totalTokens :=
      if totalTokens ≤ 0 then inputTokens + outputTokens else totalTokens }

/-- `_require_usage`. -/
def requireUsage (usage : Option RawUsage) : Except String LLMUsage :=
  match usage.map parseUsage with
  | none => .error "模型响应缺少 usage，无法记录 true_token_usage。"
  | some parsed =>
    if parsed.totalTokens ≤ 0 then
      .error "模型响应缺少 usage，无法记录 true_token_usage。"
    else
      .ok parsed

/-- `_DSML_TOOL_MARKER`. -/
def dsmlToolMarker : String := "｜｜DSML｜｜"

/-- `_protocol_error`. -/
def protocolError {Tool : Type} (content : String) (tools : List Tool) :
    Option String :=
  if tools.isEmpty ∧ dsmlToolMarker.toList <:+: content.toList then
    some "禁用工具时返回 DSML 工具调用格式。"
  else
    none

section Client

variable {Args : Type} (json : JsonReader Args)

/-- `_parse_arguments`. -/
def parseArguments (arguments : RawArguments Args) (toolName : String) :
    Except String Args :=
  match arguments with
  | .object args => .ok args
  | .null => .ok json.emptyObject
  | .text raw =>
    if Text.strip raw = "" then
      .ok json.emptyObject
    else
      match json.loads raw with
      | .malformed =>
        .error ("模型工具调用参数不是合法 JSON：" ++ toolName)
      | .notObject =>
        .error ("模型工具调用参数必须是 JSON object：" ++ toolName)
      | .object args => .ok args

/-- One round of the loop of `_parse_tool_calls`. -/
def parseToolCall (item : RawToolCall Args) :
    Except String (ToolCall Args) :=
  match item.function with
  | none => .error "模型工具调用缺少 function。"
  | some function =>
    let callId := textOf item.id
    let name := textOf function.name
    if callId = "" then
      .error "模型工具调用缺少 id。"
    else if name = "" then
      .error "模型工具调用缺少 function.name。"
    else
      (parseArguments json function.arguments name).map fun args =>
        { id := callId, name, args }

/-- `_parse_tool_calls`. -/
def parseToolCalls (toolCalls : List (RawToolCall Args)) :
    Except String (List (ToolCall Args)) :=
  toolCalls.mapM (parseToolCall json)

/-- `complete`, from the response of the provider on. -/
def complete {Tool : Type}
    (response : RawResponse Args) (tools : List Tool) :
    Except String (LLMResponse Args) :=
  match response.choices with
  | [] => .error "模型响应缺少 choices。"
  | none :: _ => .error "模型响应缺少 message。"
  | some message :: _ => do
    let content := textOf message.content
    let toolCalls ← parseToolCalls json message.toolCalls
    let usage ← requireUsage response.usage
    return {
      content, toolCalls, usage
      protocolError := protocolError content tools
      reasoningContent := message.reasoningContent }

/-! ## Receiving a reply as a stream -/

/-- What has arrived of one tool call. -/
@[ext]
structure ToolCallPart where
  id : String := ""
  name : String := ""
  arguments : String := ""
  deriving DecidableEq, Repr

/-- Take the fragments of a delta; empty ones change nothing. -/
def ToolCallPart.merge
    (current : ToolCallPart) (item : ToolCallDelta) : ToolCallPart :=
  let current :=
    if textOf item.id ≠ "" then
      { current with id := textOf item.id }
    else
      current
  match item.function with
  | none => current
  | some function =>
    let current :=
      if textOf function.name ≠ "" then
        { current with name := textOf function.name }
      else
        current
    if textOf function.arguments ≠ "" then
      { current with
        arguments := current.arguments ++ textOf function.arguments }
    else
      current

/--
The key under which a delta is merged.  An index of zero counts as false and
is replaced by the position in the list of the event.
-/
def mergedIndex (positioned : ToolCallDelta × Nat) : Nat :=
  let index := positioned.1.index.getD positioned.2
  if index = 0 then positioned.2 else index

/-- `_merge_tool_call_deltas`. -/
def mergeToolCallDeltas
    (parts : Dict Nat ToolCallPart) (toolCalls : List ToolCallDelta) :
    Dict Nat ToolCallPart :=
  toolCalls.zipIdx.foldl
    (fun parts positioned =>
      let index := mergedIndex positioned
      let current := (parts.get? index).getD {}
      parts.insert index (current.merge positioned.1))
    parts

/-- One round of the loop of `_build_stream_tool_calls`. -/
def buildStreamToolCall (item : ToolCallPart) :
    Except String (ToolCall Args) :=
  if item.id = "" then
    .error "模型流式工具调用缺少 id。"
  else if item.name = "" then
    .error "模型流式工具调用缺少 function.name。"
  else
    (parseArguments json (.text item.arguments) item.name).map fun args =>
      { id := item.id, name := item.name, args }

/-- `_build_stream_tool_calls`. -/
def buildStreamToolCalls (parts : Dict Nat ToolCallPart) :
    Except String (List (ToolCall Args)) :=
  (parts.keys.insertionSort (· ≤ ·)).mapM fun index =>
    buildStreamToolCall json ((parts.get? index).getD {})

/-- The locals of `stream`, what it has yielded, and what it has raised. -/
structure StreamState (Args : Type) where
  toolCallParts : Dict Nat ToolCallPart := Dict.empty
  contentParts : List String := []
  chunks : List (LLMChunk Args) := []
  raised : Option String := none

/-- One round of the inner loop of `stream`. -/
def streamChoice
    (state : StreamState Args) (choice : StreamChoice) :
    StreamState Args :=
  if state.raised.isSome then
    state
  else
    let deltaText := textOf (choice.delta.bind (·.content))
    let contentParts :=
      if deltaText ≠ "" then
        state.contentParts ++ [deltaText]
      else
        state.contentParts
    let toolCallParts :=
      match choice.delta with
      | none => state.toolCallParts
      | some delta =>
        mergeToolCallDeltas state.toolCallParts delta.toolCalls
    let built :=
      if choice.finishReason = some "tool_calls" then
        buildStreamToolCalls json toolCallParts
      else
        .ok []
    match built with
    | .error message =>
      { state with
        toolCallParts, contentParts, raised := some message }
    | .ok toolCalls =>
      { state with
        toolCallParts, contentParts
        chunks :=
          if deltaText ≠ "" ∨ textOf choice.finishReason ≠ "" ∨
              toolCalls ≠ [] then
            state.chunks ++ [{
              deltaText, toolCalls
              finishReason := choice.finishReason }]
          else
            state.chunks }

/-- One round of the outer loop of `stream`. -/
def streamEvent
    (state : StreamState Args) (event : StreamEvent) :
    StreamState Args :=
  if state.raised.isSome then
    state
  else
    let reported :=
      match event.usage with
      | none => state
      | some usage =>
        { state with
          chunks := state.chunks ++ [{ usage := some (parseUsage usage) }] }
    event.choices.foldl (streamChoice json) reported

/-- `stream`, from the events of the provider on. -/
def stream {Tool : Type}
    (events : List StreamEvent) (tools : List Tool) : StreamState Args :=
  let state := events.foldl (streamEvent json) {}
  match state.raised, protocolError (String.join state.contentParts) tools with
  | none, some message =>
    { state with
      chunks := state.chunks ++ [{ protocolError := some message }] }
  | _, _ => state

/-- The tool calls that the agent loop keeps of the chunks. -/
def collectToolCalls (chunks : List (LLMChunk Args)) :
    List (ToolCall Args) :=
  chunks.foldl
    (fun toolCalls chunk =>
      if chunk.toolCalls ≠ [] then chunk.toolCalls else toolCalls)
    []

end Client

/-! ## Splitting a reply into deltas -/

/-- A tool call of an assistant reply, as the provider writes it. -/
structure WrittenCall where
  id : String
  name : String
  arguments : String
  deriving DecidableEq, Repr

/-- The tool call in a response received whole. -/
def WrittenCall.whole {Args : Type} (call : WrittenCall) :
    RawToolCall Args where
  id := some call.id
  function := some
    { name := some call.name, arguments := .text call.arguments }

/-- A response that carries the calls, with a usage that is accepted. -/
structure CarriesReply {Args : Type}
    (calls : List WrittenCall) (response : RawResponse Args) : Prop where
  message : ∃ message rest, response.choices = some message :: rest ∧
    message.toolCalls = calls.map WrittenCall.whole
  usage : ∃ usage, requireUsage response.usage = .ok usage

/-- The fragments that a delta carries, the empty text for none. -/
def ToolCallDelta.idFragment (item : ToolCallDelta) : String :=
  textOf item.id

/-- The name that a delta carries. -/
def ToolCallDelta.nameFragment (item : ToolCallDelta) : String :=
  textOf (item.function.bind (·.name))

/-- The piece of the arguments that a delta carries. -/
def ToolCallDelta.argumentFragment (item : ToolCallDelta) : String :=
  textOf (item.function.bind (·.arguments))

/-- A delta that carries no fragment. -/
def ToolCallDelta.carriesNothing (item : ToolCallDelta) : Bool :=
  item.idFragment = "" ∧ item.nameFragment = "" ∧
    item.argumentFragment = ""

/-- The deltas of a choice with their positions. -/
def StreamChoice.positioned (choice : StreamChoice) :
    List (ToolCallDelta × Nat) :=
  match choice.delta with
  | none => []
  | some delta => delta.toolCalls.zipIdx

/-- All choices of the events, in order. -/
def choicesOf (events : List StreamEvent) : List StreamChoice :=
  events.flatMap (·.choices)

/-- All deltas of the events in order, with their positions. -/
def positionedDeltas (events : List StreamEvent) :
    List (ToolCallDelta × Nat) :=
  (choicesOf events).flatMap (·.positioned)

/-- The deltas that carry the index of a call, in order. -/
def deltasOf (index : Nat) (events : List StreamEvent) :
    List ToolCallDelta :=
  ((positionedDeltas events).map Prod.fst).filter fun item =>
    item.index = some index

/-- A text that is sent whole, once or more often. -/
def SentWhole (text : String) (fragments : List String) : Prop :=
  text ∈ fragments ∧
    ∀ fragment ∈ fragments, fragment = "" ∨ fragment = text

/-- The events are one way of splitting the calls into deltas. -/
structure Splits
    (calls : List WrittenCall) (events : List StreamEvent) : Prop where
  indexed : ∀ positioned ∈ positionedDeltas events,
    ∃ index, index < calls.length ∧ positioned.1.index = some index
  ids : ∀ index call, calls[index]? = some call →
    SentWhole call.id ((deltasOf index events).map (·.idFragment))
  names : ∀ index call, calls[index]? = some call →
    SentWhole call.name ((deltasOf index events).map (·.nameFragment))
  arguments : ∀ index call, calls[index]? = some call →
    String.join ((deltasOf index events).map (·.argumentFragment)) =
      call.arguments
  finished : ∃ front last, choicesOf events = front ++ [last] ∧
    last.finishReason = some "tool_calls" ∧
    ∀ choice ∈ front, choice.finishReason ≠ some "tool_calls"

/--
No fragment of call 0 stands behind another delta in the list of its event:
such a delta carries nothing and stands where another call has its index,
and call 0 also has a delta at the front of a list.
-/
structure FrontOfEvent
    (count : Nat) (events : List StreamEvent) : Prop where
  harmless : ∀ positioned ∈ positionedDeltas events,
    positioned.1.index = some 0 → 0 < positioned.2 →
      positioned.1.carriesNothing = true ∧ positioned.2 < count
  headed : 0 < count → ∃ item,
    (item, 0) ∈ positionedDeltas events ∧ item.index = some 0

/-! ## What has arrived of a call -/

@[simp]
theorem ToolCallPart.merge_id (current : ToolCallPart) (item : ToolCallDelta) :
    (current.merge item).id =
      if item.idFragment ≠ "" then item.idFragment else current.id := by
  rcases item with ⟨index, id, _ | function⟩ <;> grind [merge, ToolCallDelta.idFragment]

@[simp]
theorem ToolCallPart.merge_name (current : ToolCallPart) (item : ToolCallDelta) :
    (current.merge item).name =
      if item.nameFragment ≠ "" then item.nameFragment
      else current.name := by
  rcases item with ⟨index, id, _ | function⟩ <;> grind [merge, ToolCallDelta.nameFragment, textOf]

@[simp]
theorem ToolCallPart.merge_arguments (current : ToolCallPart) (item : ToolCallDelta) :
    (current.merge item).arguments =
      current.arguments ++ item.argumentFragment := by
  rcases item with ⟨index, id, _ | function⟩ <;>
    grind [merge, ToolCallDelta.argumentFragment, textOf, String.append_empty]

theorem ToolCallPart.merge_of_carriesNothing
    {item : ToolCallDelta} (empty : item.carriesNothing = true)
    (current : ToolCallPart) : current.merge item = current := by
  simp only [ToolCallDelta.carriesNothing, decide_eq_true_eq] at empty
  ext <;> simp [empty]

/-- The last fragment that is not empty. -/
def lastCarried (initial : String) (fragments : List String) : String :=
  fragments.foldl
    (fun current fragment =>
      if fragment ≠ "" then fragment else current)
    initial

theorem foldl_merge (items : List ToolCallDelta) (part : ToolCallPart) :
    items.foldl ToolCallPart.merge part =
      { id := lastCarried part.id (items.map (·.idFragment))
        name := lastCarried part.name (items.map (·.nameFragment))
        arguments := (items.map (·.argumentFragment)).foldl (· ++ ·)
            part.arguments } := by
  induction items generalizing part with
  | nil => rfl
  | cons item rest induction =>
    rw [List.foldl_cons, induction]
    simp only [lastCarried, ToolCallPart.merge_id,
      ToolCallPart.merge_name, ToolCallPart.merge_arguments,
      List.map_cons, List.foldl_cons]

theorem SentWhole.lastCarried_eq
    {text : String} {fragments : List String}
    (sent : SentWhole text fragments) :
    lastCarried "" fragments = text := by
  have generalized : ∀ (fragments : List String) (initial : String),
      (∀ fragment ∈ fragments, fragment = "" ∨ fragment = text) →
      (initial = "" ∨ initial = text) →
      (initial = text ∨ text ∈ fragments) →
      lastCarried initial fragments = text := by
    intro fragments
    induction fragments with
    | nil =>
      intro initial _ _ reached
      simpa [lastCarried] using reached
    | cons fragment rest induction =>
      intro initial pieces started reached
      have piece := pieces fragment List.mem_cons_self
      have later : ∀ other ∈ rest, other = "" ∨ other = text :=
        fun other member => pieces other (List.mem_cons_of_mem _ member)
      by_cases empty : fragment = ""
      · subst empty
        refine induction initial later started ?_
        rcases reached with same | member
        · exact .inl same
        · rcases List.mem_cons.mp member with blank | member
          · exact .inl (started.elim (·.trans blank.symm) id)
          · exact .inr member
      · have whole : fragment = text := piece.resolve_left empty
        have next := induction text later (.inr rfl) (.inl rfl)
        rw [whole] at empty ⊢
        simpa [lastCarried, empty] using next
  exact generalized fragments "" sent.2 (.inl rfl) (.inr sent.1)

/-- One delta merged under its key. -/
def mergePositioned
    (current : ToolCallPart) (positioned : ToolCallDelta × Nat) :
    ToolCallPart :=
  current.merge positioned.1

/-- The parts after all deltas. -/
def mergedParts (positioned : List (ToolCallDelta × Nat)) :
    Dict Nat ToolCallPart :=
  Dict.collectAll mergedIndex {} mergePositioned Dict.empty positioned

theorem mergeToolCallDeltas_eq (parts : Dict Nat ToolCallPart) (toolCalls : List ToolCallDelta) :
    mergeToolCallDeltas parts toolCalls = Dict.collectAll mergedIndex {} mergePositioned parts
        toolCalls.zipIdx := rfl

variable {calls : List WrittenCall} {events : List StreamEvent}

theorem FrontOfEvent.mergedIndex_eq (splits : Splits calls events)
    (front : FrontOfEvent calls.length events)
    {positioned : ToolCallDelta × Nat}
    (member : positioned ∈ positionedDeltas events)
    (carries : positioned.1.carriesNothing = false) :
    positioned.1.index = some (mergedIndex positioned) := by
  obtain ⟨index, -, given⟩ := splits.indexed positioned member
  simp only [mergedIndex, given, Option.getD_some]
  by_cases zero : index = 0
  · subst zero
    have first : positioned.2 = 0 := by
      by_contra behind
      have harmless := front.harmless positioned member given
        (Nat.pos_of_ne_zero behind)
      rw [carries] at harmless
      exact absurd harmless.1 Bool.false_ne_true
    simp [first]
  · simp [zero]

theorem FrontOfEvent.part_eq (splits : Splits calls events)
    (front : FrontOfEvent calls.length events) {index : Nat}
    {call : WrittenCall} (found : calls[index]? = some call) :
    ((mergedParts (positionedDeltas events)).get? index).getD {} =
      { id := call.id, name := call.name, arguments := call.arguments } := by
  have neutral : ∀ positioned : ToolCallDelta × Nat,
      (!positioned.1.carriesNothing) = false → ∀ part, mergePositioned part positioned = part := by
    intro positioned empty part
    exact ToolCallPart.merge_of_carriesNothing (by simpa using empty) part
  have own :
      ((positionedDeltas events).filter fun item => mergedIndex item = index).filter
            (fun item => !item.1.carriesNothing) =
        ((positionedDeltas events).filter fun item => item.1.index = some index).filter
            (fun item => !item.1.carriesNothing) := by
    simp only [List.filter_filter]
    apply List.filter_congr
    intro positioned member
    cases carries : positioned.1.carriesNothing with
    | true => simp
    | false =>
      rw [front.mergedIndex_eq splits member carries]
      simp
  have deltas :
      ((positionedDeltas events).filter
          fun item => item.1.index = some index).foldl mergePositioned {} =
        (deltasOf index events).foldl ToolCallPart.merge {} := by
    rw [deltasOf, List.filter_map, List.foldl_map]
    rfl
  rw [mergedParts, Dict.getD_collectAll, Dict.get?_empty,
    Option.getD_none, ← foldl_filter_of_neutral _ _ neutral, own,
    foldl_filter_of_neutral _ _ neutral, deltas, foldl_merge]
  apply ToolCallPart.ext
  · exact (splits.ids index call found).lastCarried_eq
  · exact (splits.names index call found).lastCarried_eq
  · exact splits.arguments index call found

theorem FrontOfEvent.keys_eq (splits : Splits calls events)
    (front : FrontOfEvent calls.length events) :
    (mergedParts (positionedDeltas events)).keys.insertionSort (· ≤ ·) =
      List.range calls.length := by
  refine insertionSort_eq_range (Dict.nodupKeys _) fun index => ?_
  change index ∈ (mergedParts (positionedDeltas events)).keys ↔ _
  rw [mergedParts, Dict.mem_keys_collectAll]
  constructor
  · rintro (absurdity | ⟨positioned, member, rfl⟩)
    · simp [Dict.keys, Dict.empty] at absurdity
    · obtain ⟨index, bound, given⟩ := splits.indexed positioned member
      simp only [mergedIndex, given, Option.getD_some]
      by_cases zero : index = 0
      · subst zero
        by_cases behind : positioned.2 = 0
        · simpa [behind] using bound
        · simpa using (front.harmless positioned member given (Nat.pos_of_ne_zero behind)).2
      · simpa [zero] using bound
  · intro bound
    refine .inr ?_
    by_cases zero : index = 0
    · subst zero
      obtain ⟨item, member, given⟩ := front.headed bound
      exact ⟨(item, 0), member, by simp [mergedIndex, given]⟩
    · have sent := (splits.ids index _ (List.getElem?_eq_getElem bound)).1
      obtain ⟨item, own, -⟩ := List.mem_map.mp sent
      simp only [deltasOf, List.mem_filter, List.mem_map, decide_eq_true_eq] at own
      obtain ⟨⟨positioned, member, rfl⟩, given⟩ := own
      exact ⟨positioned, member, by simp [mergedIndex, given, zero]⟩

/-! ## What a stream leaves -/

section Stream

variable {Args : Type} (json : JsonReader Args)

/-- What of the state decides the tool calls. -/
structure StreamView (Args : Type) where
  parts : Dict Nat ToolCallPart
  toolCalls : List (ToolCall Args)
  raised : Option String

/-- What is seen of a state. -/
def StreamState.view (state : StreamState Args) : StreamView Args where
  parts := state.toolCallParts
  toolCalls := collectToolCalls state.chunks
  raised := state.raised

/-- What a choice does to what is seen. -/
def StreamView.next
    (view : StreamView Args) (choice : StreamChoice) : StreamView Args :=
  if view.raised.isSome then
    view
  else
    let parts :=
      Dict.collectAll mergedIndex {} mergePositioned view.parts
        choice.positioned
    if choice.finishReason = some "tool_calls" then
      match buildStreamToolCalls json parts with
      | .error message => { view with parts, raised := some message }
      | .ok [] => { view with parts }
      | .ok toolCalls => { view with parts, toolCalls }
    else
      { view with parts }

theorem collectToolCalls_append_singleton (chunks : List (LLMChunk Args)) (chunk : LLMChunk Args) :
    collectToolCalls (chunks ++ [chunk]) =
      if chunk.toolCalls ≠ [] then chunk.toolCalls
      else collectToolCalls chunks := by
  simp only [collectToolCalls, List.foldl_append, List.foldl_cons, List.foldl_nil]

theorem streamChoice_view (state : StreamState Args) (choice : StreamChoice) :
    (streamChoice json state choice).view =
      state.view.next json choice := by
  have merged :
      (match choice.delta with
        | none => state.toolCallParts
        | some delta =>
          mergeToolCallDeltas state.toolCallParts delta.toolCalls) =
        Dict.collectAll mergedIndex {} mergePositioned
          state.toolCallParts choice.positioned := by
    cases delta : choice.delta with
    | none => simp [StreamChoice.positioned, delta]
    | some delta' =>
      simp only [StreamChoice.positioned, delta]
      exact mergeToolCallDeltas_eq _ _
  simp only [streamChoice, StreamView.next, merged, StreamState.view]
  by_cases ended : state.raised.isSome = true
  · simp [ended]
  · simp only [ended, Bool.false_eq_true, if_false]
    by_cases finish : choice.finishReason = some "tool_calls"
    · have reason : textOf choice.finishReason ≠ "" := by
        rw [finish]
        decide
      simp only [finish, if_true]
      cases buildStreamToolCalls json _ with
      | error message => rfl
      | ok toolCalls =>
        rw [finish] at reason
        simp only [reason, ne_eq, not_false_eq_true, true_or, or_true,
          if_true, collectToolCalls_append_singleton]
        cases toolCalls <;> simp
    · simp only [finish, if_false, ne_eq, not_true_eq_false, or_false]
      split_ifs <;> simp [collectToolCalls_append_singleton]

theorem streamEvent_view (state : StreamState Args) (event : StreamEvent) :
    (streamEvent json state event).view =
      event.choices.foldl (StreamView.next json) state.view := by
  have choices : ∀ (choices : List StreamChoice) (state : StreamState Args),
      (choices.foldl (streamChoice json) state).view =
        choices.foldl (StreamView.next json) state.view := by
    intro choices
    induction choices with
    | nil => intro state; rfl
    | cons choice rest induction =>
      intro state
      rw [List.foldl_cons, List.foldl_cons, induction, streamChoice_view]
  have ended : ∀ (choices : List StreamChoice) (view : StreamView Args),
      view.raised.isSome = true →
        choices.foldl (StreamView.next json) view = view := by
    intro choices view raised
    induction choices with
    | nil => rfl
    | cons choice rest induction =>
      rw [List.foldl_cons, StreamView.next, if_pos raised, induction]
  rw [streamEvent]
  split_ifs with raised
  · exact (ended event.choices state.view raised).symm
  · rw [choices]
    congr 1
    cases event.usage with
    | none => rfl
    | some usage =>
      simp [StreamState.view, collectToolCalls_append_singleton]

theorem foldl_streamEvent_view (events : List StreamEvent) (state : StreamState Args) :
    (events.foldl (streamEvent json) state).view =
      (choicesOf events).foldl (StreamView.next json) state.view := by
  induction events generalizing state with
  | nil => rfl
  | cons event rest induction =>
    rw [List.foldl_cons, induction, streamEvent_view, choicesOf,
      choicesOf, List.flatMap_cons, List.foldl_append]

theorem foldl_next_of_unfinished (choices : List StreamChoice) (view : StreamView Args)
    (quiet : view.raised = none)
    (unfinished : ∀ choice ∈ choices, choice.finishReason ≠ some "tool_calls") :
    choices.foldl (StreamView.next json) view =
      { view with
        parts := Dict.collectAll mergedIndex {} mergePositioned view.parts
            (choices.flatMap (·.positioned)) } := by
  induction choices generalizing view with
  | nil => rfl
  | cons choice rest induction =>
    have first : view.next json choice =
        { view with
          parts := Dict.collectAll mergedIndex {} mergePositioned view.parts
              choice.positioned } := by
      rw [StreamView.next, quiet, Option.isSome_none, if_neg Bool.false_ne_true,
        if_neg (unfinished choice List.mem_cons_self)]
    have later := fun other member =>
      unfinished other (List.mem_cons_of_mem _ member)
    rw [List.foldl_cons, first, List.flatMap_cons,
      Dict.collectAll_append]
    exact induction ⟨_, view.toolCalls, view.raised⟩ quiet later

/-- The tool calls of a stream, unless it raised. -/
def streamedToolCalls (state : StreamState Args) :
    Option (List (ToolCall Args)) :=
  match state.raised with
  | none => some (collectToolCalls state.chunks)
  | some _ => none

theorem streamedToolCalls_stream {Tool : Type}
    {calls : List WrittenCall} {events : List StreamEvent}
    (splits : Splits calls events) (tools : List Tool) :
    streamedToolCalls (stream json events tools) = (buildStreamToolCalls json
        (mergedParts (positionedDeltas events))).toOption := by
  obtain ⟨front, last, split, finish, unfinished⟩ := splits.finished
  have seen := foldl_streamEvent_view json events {}
  rw [split, List.foldl_append, List.foldl_cons, List.foldl_nil,
    foldl_next_of_unfinished json front _ rfl unfinished] at seen
  have parts :
      Dict.collectAll mergedIndex {} mergePositioned
          (Dict.collectAll mergedIndex {} mergePositioned Dict.empty
            (front.flatMap (·.positioned))) last.positioned =
        mergedParts (positionedDeltas events) := by
    rw [← Dict.collectAll_append, mergedParts, positionedDeltas, split,
      List.flatMap_append, List.flatMap_singleton]
  have ends : streamedToolCalls (stream json events tools) =
      streamedToolCalls (events.foldl (streamEvent json) {}) := by
    simp only [stream]
    cases raised : (events.foldl (streamEvent json) {}).raised <;> cases protocolError _ tools <;>
      simp [streamedToolCalls, raised, collectToolCalls_append_singleton]
  rw [ends]
  simp only [StreamState.view, StreamView.next, finish, Option.isSome_none,
    Bool.false_eq_true, if_false, if_true, parts] at seen
  have calls := congrArg StreamView.toolCalls seen
  have raised := congrArg StreamView.raised seen
  simp only [streamedToolCalls]
  cases built : buildStreamToolCalls json (mergedParts (positionedDeltas events)) with
  | error message =>
    simp only [built] at raised
    rw [raised]
    rfl
  | ok toolCalls =>
    cases toolCalls with
    | nil =>
      simp only [built] at raised calls
      rw [raised, calls]
      rfl
    | cons call rest =>
      simp only [built] at raised calls
      rw [raised, calls]
      rfl

end Stream

section Agreement

variable {Args : Type} (json : JsonReader Args)

theorem toOption_mapM
    {Item Result : Type} (f : Item → Except String Result)
    (items : List Item) :
    (items.mapM f).toOption =
      items.mapM fun item => (f item).toOption := by
  induction items with
  | nil => rfl
  | cons item rest induction =>
    rw [List.mapM_cons, List.mapM_cons, ← induction]
    cases f item with
    | error message => rfl
    | ok result => cases rest.mapM f <;> rfl

theorem buildStreamToolCall_toOption (call : WrittenCall) : (buildStreamToolCall json
        { id := call.id, name := call.name
          arguments := call.arguments }).toOption =
      (parseToolCall json call.whole).toOption := by
  simp only [buildStreamToolCall, parseToolCall, WrittenCall.whole, textOf, Option.getD_some]
  by_cases noId : call.id = ""
  · simp only [noId, if_true]
    rfl
  · by_cases noName : call.name = ""
    · simp only [noId, noName, if_true, if_false]
      rfl
    · simp only [noId, noName, if_false]

theorem buildStreamToolCalls_toOption
    {calls : List WrittenCall} {parts : Dict Nat ToolCallPart}
    (keys : parts.keys.insertionSort (· ≤ ·) = List.range calls.length)
    (own : ∀ index call, calls[index]? = some call → (parts.get? index).getD {} =
        { id := call.id, name := call.name
          arguments := call.arguments }) :
    (buildStreamToolCalls json parts).toOption =
      (parseToolCalls json (calls.map WrittenCall.whole)).toOption := by
  have pointwise :
      (List.range calls.length).map (fun index => (buildStreamToolCall json
            ((parts.get? index).getD {})).toOption) =
        (calls.map WrittenCall.whole).map (fun item => (parseToolCall json item).toOption) := by
    apply List.ext_getElem
    · simp
    · intro index bound _
      simp only [List.length_map, List.length_range] at bound
      simp only [List.getElem_map, List.getElem_range]
      rw [own index _ (List.getElem?_eq_getElem bound), buildStreamToolCall_toOption]
  have sequenced := congrArg (List.mapM id) pointwise
  rw [List.mapM_map, List.mapM_map] at sequenced
  rw [buildStreamToolCalls, keys, parseToolCalls, toOption_mapM, toOption_mapM]
  exact sequenced

theorem complete_toolCalls {Tool : Type}
    {calls : List WrittenCall} {response : RawResponse Args}
    (carries : CarriesReply calls response) (tools : List Tool) :
    (complete json response tools).toOption.map (·.toolCalls) =
      (parseToolCalls json (calls.map WrittenCall.whole)).toOption := by
  obtain ⟨message, rest, choices, toolCalls⟩ := carries.message
  obtain ⟨usage, accepted⟩ := carries.usage
  simp only [complete, choices, toolCalls, accepted]
  cases parseToolCalls json (calls.map WrittenCall.whole) <;> rfl

/--
Streaming agrees with receiving the reply whole, when no fragment of call 0
stands behind another delta in the list of its event.
-/
theorem stream_agrees_of_frontOfEvent {Tool : Type}
    {calls : List WrittenCall} {events : List StreamEvent}
    {response : RawResponse Args}
    (carries : CarriesReply calls response)
    (splits : Splits calls events)
    (front : FrontOfEvent calls.length events) (tools : List Tool) :
    streamedToolCalls (stream json events tools) =
      (complete json response tools).toOption.map (·.toolCalls) := by
  have own : ∀ index call, calls[index]? = some call →
      ((mergedParts (positionedDeltas events)).get? index).getD {} =
        { id := call.id, name := call.name
          arguments := call.arguments } :=
    fun _ _ => front.part_eq splits
  rw [streamedToolCalls_stream json splits, complete_toolCalls json carries,
    buildStreamToolCalls_toOption json (front.keys_eq splits) own]

/-- A reader that knows one text. -/
private def emptyObjectReader : JsonReader Unit where
  emptyObject := ()
  loads := fun raw => if raw = "{}" then .object () else .malformed

private def writtenCalls : List WrittenCall :=
  [{ id := "call-0", name := "list_dir", arguments := "{}" },
    { id := "call-1", name := "grep", arguments := "{}" }]

private def wholeReply : RawResponse Unit where
  choices := [some {
    content := none
    toolCalls := writtenCalls.map WrittenCall.whole
    reasoningContent := none }]
  usage := some
    { promptTokens := some 1, completionTokens := some 1
      totalTokens := some 2 }

private def wholeDelta (index : Nat) (call : WrittenCall) : ToolCallDelta where
  index := some index
  id := some call.id
  function := some
    { name := some call.name, arguments := some call.arguments }

private def oneEvent (deltas : List ToolCallDelta) : List StreamEvent :=
  [{ usage := none
     choices := [{
       delta := some { content := none, toolCalls := deltas }
       finishReason := some "tool_calls" }] }]

private theorem wholeReply_carries : CarriesReply writtenCalls wholeReply where
  message := ⟨_, _, rfl, rfl⟩
  usage := ⟨_, rfl⟩

private theorem forward_splits : Splits writtenCalls
      (oneEvent (writtenCalls.mapIdx wholeDelta)) where
  indexed := by decide
  ids := by
    intro index call found
    match index with
    | 0 => cases found; exact ⟨by decide, by decide⟩
    | 1 => cases found; exact ⟨by decide, by decide⟩
  names := by
    intro index call found
    match index with
    | 0 => cases found; exact ⟨by decide, by decide⟩
    | 1 => cases found; exact ⟨by decide, by decide⟩
  arguments := by
    intro index call found
    match index with
    | 0 => cases found; rfl
    | 1 => cases found; rfl
  finished := ⟨[], _, rfl, rfl, by simp⟩

/-- Two calls whose deltas stand in one event in their order. -/
theorem stream_agrees_forward : streamedToolCalls (stream emptyObjectReader
          (oneEvent (writtenCalls.mapIdx wholeDelta)) ["grep"]) =
      (complete emptyObjectReader wholeReply ["grep"]).toOption.map (·.toolCalls) :=
  stream_agrees_of_frontOfEvent emptyObjectReader wholeReply_carries forward_splits
    { harmless := by decide
      headed := fun _ =>
        ⟨wholeDelta 0 ⟨"call-0", "list_dir", "{}"⟩, by decide, rfl⟩ }
    ["grep"]

private theorem backward_splits : Splits writtenCalls
      (oneEvent (writtenCalls.mapIdx wholeDelta).reverse) where
  indexed := by decide
  ids := by
    intro index call found
    match index with
    | 0 => cases found; exact ⟨by decide, by decide⟩
    | 1 => cases found; exact ⟨by decide, by decide⟩
  names := by
    intro index call found
    match index with
    | 0 => cases found; exact ⟨by decide, by decide⟩
    | 1 => cases found; exact ⟨by decide, by decide⟩
  arguments := by
    intro index call found
    match index with
    | 0 => cases found; rfl
    | 1 => cases found; rfl
  finished := ⟨[], _, rfl, rfl, by simp⟩

/--
The same deltas in the other order: the delta of call 0 is merged into call
1, whose arguments are no longer JSON.
-/
theorem stream_disagrees_backward : CarriesReply writtenCalls wholeReply ∧ Splits writtenCalls
        (oneEvent (writtenCalls.mapIdx wholeDelta).reverse) ∧
      streamedToolCalls (stream emptyObjectReader
            (oneEvent (writtenCalls.mapIdx wholeDelta).reverse) ["grep"]) ≠
        (complete emptyObjectReader wholeReply ["grep"]).toOption.map (·.toolCalls) :=
  ⟨wholeReply_carries, backward_splits, by decide⟩

end Agreement

end TurningGood.Llm
