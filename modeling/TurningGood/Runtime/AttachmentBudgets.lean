import TurningGood.Runtime.MessagePairing

/-!
# The budgets of attachments

The attachments of a round are checked one after the other, each with the
budgets and the messages that the ones before have left.  An accepted one is
charged and its messages are added; a rejected one only rewrites the tool
message of its own call.
-/

namespace TurningGood.Runtime

open TurningGood.Llm

variable {Tool Args : Type}

variable {countTokens : String → Int} {messages : List ChatMessage}
  {manager : AttachmentManager} {settings : LoopSettings}

/-! ## What a check admits -/

/-- The budgets of a turn; a negative limit admits as little as none. -/
structure AttachmentManager.Within (settings : LoopSettings)
    (manager : AttachmentManager) : Prop where
  mcp : manager.mcpTokens ≤ max 0 settings.mcpTokenLimit
  count : manager.skillNames.length ≤ settings.maxLoadedSkillsPerTurn
  tokens : manager.skillTokens ≤ max 0 settings.maxLoadedSkillTokensPerTurn

/-- The messages of an attachment have as many tokens as it says. -/
def ContextAttachment.Counted (countTokens : String → Int)
    (attachment : ContextAttachment) (messages : List ChatMessage) : Prop :=
  attachedMessages attachment.allowsSystem attachment.messages = some messages ∧
    0 ≤ attachment.tokenCount ∧
    (messages.map fun message => countTokens message.content).sum = attachment.tokenCount

/-- What `check` lets pass, with the messages that are added. -/
inductive Admitted (settings : LoopSettings) (countTokens : String → Int)
    (manager : AttachmentManager) (record : ToolRecord Args) :
    List ChatMessage → Prop
  | nothing (none : record.contextAttachment = none) :
      Admitted settings countTokens manager record []
  | mcp {attachment : ContextAttachment} {messages : List ChatMessage}
      (attached : record.contextAttachment = some (.context attachment))
      (kind : attachment.kind = "mcp")
      (counted : attachment.Counted countTokens messages)
      (room : manager.mcpTokens + attachment.tokenCount ≤ settings.mcpTokenLimit) :
      Admitted settings countTokens manager record messages
  | skill {attachment : ContextAttachment} {messages : List ChatMessage}
      {metadata : SkillMetadata} {name : String} {bodyTokens : Int}
      (attached : record.contextAttachment = some (.context attachment))
      (kind : attachment.kind = "skill")
      (counted : attachment.Counted countTokens messages)
      (present : record.metadata = some metadata)
      (named : metadata.loadedSkillName = some name)
      (source : attachment.source = "skill:" ++ name)
      (sized : metadata.loadedSkillTokenCount = some bodyTokens)
      (positive : 0 ≤ bodyTokens)
      (room : manager.skillNames.length < settings.maxLoadedSkillsPerTurn)
      (small : bodyTokens ≤ settings.maxSkillTokens)
      (fits : manager.skillTokens + bodyTokens ≤ settings.maxLoadedSkillTokensPerTurn) :
      Admitted settings countTokens manager record messages

theorem validateContextAttachment_eq_ok {attachment : ContextAttachment}
    {usedTokens tokenLimit : Int}
    (valid : validateContextAttachment countTokens attachment usedTokens
      tokenLimit = .ok messages) :
    (attachment.kind = "mcp" ∨ attachment.kind = "skill") ∧
      attachment.Counted countTokens messages ∧
      usedTokens + attachment.tokenCount ≤ tokenLimit := by
  unfold validateContextAttachment at valid
  split at valid
  · cases valid
  · next known =>
      split at valid
      · cases valid
      · next negative =>
          split at valid
          · cases valid
          · next found allowed =>
              split_ifs at valid with differs large
              cases valid
              refine ⟨?_, ⟨allowed, Int.not_lt.mp negative,
                not_not.mp differs⟩, Int.not_lt.mp large⟩
              by_contra neither
              exact known (not_or.mp neither)

variable {record : ToolRecord Args}

theorem validateSkill_eq_none {attachment : ContextAttachment}
    (valid : manager.validateSkill settings record attachment = none) :
    ∃ metadata name bodyTokens, record.metadata = some metadata ∧
      metadata.loadedSkillName = some name ∧
      attachment.source = "skill:" ++ name ∧
      metadata.loadedSkillTokenCount = some bodyTokens ∧
      0 ≤ bodyTokens ∧
      manager.skillNames.length < settings.maxLoadedSkillsPerTurn ∧
      bodyTokens ≤ settings.maxSkillTokens ∧
      manager.skillTokens + bodyTokens ≤
        settings.maxLoadedSkillTokensPerTurn := by
  unfold AttachmentManager.validateSkill at valid
  split at valid
  · cases valid
  · next metadata present =>
      split at valid
      · cases valid
      · next name named =>
          split at valid
          · cases valid
          · next foreign =>
              split at valid
              · cases valid
              · next bodyTokens sized =>
                  split_ifs at valid with negative many large total
                  exact ⟨metadata, name, bodyTokens, present, named,
                    not_not.mp foreign, sized, Int.not_lt.mp negative,
                    Nat.not_le.mp many, Int.not_lt.mp large,
                    Int.not_lt.mp total⟩

theorem admitted_of_check {working : List ChatMessage}
    (passed : manager.check settings countTokens record.contextAttachment
      record working = .ok messages) :
    Admitted settings countTokens manager record messages := by
  unfold AttachmentManager.check at passed
  split at passed
  · next none =>
      cases passed
      exact .nothing none
  · cases passed
  · next attachment attached =>
      dsimp only at passed
      split at passed
      · cases passed
      · next found valid =>
          split at passed
          · cases passed
          · next skillValid =>
              split at passed
              · cases passed
              · cases passed
                rcases validateContextAttachment_eq_ok valid with ⟨known, counted, room⟩
                rcases known with mcp | skill
                · rw [if_pos mcp, if_pos mcp] at room
                  exact .mcp attached mcp counted room
                · rw [if_pos skill] at skillValid
                  rcases validateSkill_eq_none skillValid with
                    ⟨metadata, name, bodyTokens, present, named, source,
                      sized, positive, few, small, fits⟩
                  exact .skill attached skill counted present named source
                    sized positive few small fits

theorem Admitted.within (admitted : Admitted settings countTokens manager record messages)
    (within : manager.Within settings) :
    (manager.commit record.contextAttachment record).Within settings := by
  cases admitted with
  | nothing none =>
    rw [none]
    exact within
  | mcp attached kind counted room =>
    rw [attached, AttachmentManager.commit, if_pos kind]
    exact ⟨room.trans (le_max_right _ _), within.count, within.tokens⟩
  | skill attached kind counted present named source sized positive room
      small fits =>
      rw [attached, AttachmentManager.commit, if_neg (by rw [kind]; decide)]
      constructor
      · exact within.mcp
      · rw [List.length_append]
        exact room
      · simp only [present, sized, Option.bind_some, Option.getD_some]
        exact fits.trans (le_max_right _ _)

theorem allowSystem_of_mem {allowSystem : Bool}
    {attached : List AttachmentMessage}
    (allowed : attachedMessages allowSystem attached = some messages)
    {content : String} (member : .plain .system content ∈ messages) :
    allowSystem = true := by
  induction attached generalizing messages with
  | nil =>
    cases allowed
    cases member
  | cons message rest induction =>
    unfold attachedMessages at allowed
    split at allowed
    · next role text roleAllowed _ =>
        rcases Option.map_eq_some_iff.mp allowed with ⟨more, others, rfl⟩
        rcases List.mem_cons.mp member with same | later
        · cases same
          unfold attachedRole at roleAllowed
          split at roleAllowed
          · cases roleAllowed
          · split at roleAllowed
            · cases roleAllowed
            · split at roleAllowed
              · next system => exact system.1
              · cases roleAllowed
        · exact induction others later
    · cases allowed

theorem Admitted.system (admitted : Admitted settings countTokens manager record messages)
    {content : String} (member : .plain .system content ∈ messages) :
    ∃ attachment, record.contextAttachment = some (.context attachment) ∧
        attachment.kind = "skill" ∧ attachment.verified = true ∧
        Tools.startsWith attachment.source "skill:" = true := by
  have ofCounted : ∀ attachment : ContextAttachment,
      attachment.Counted countTokens messages →
        record.contextAttachment = some (.context attachment) →
        ∃ attachment, record.contextAttachment = some (.context attachment) ∧
            attachment.kind = "skill" ∧ attachment.verified = true ∧
            Tools.startsWith attachment.source "skill:" = true := by
    intro attachment counted attached
    have allows := allowSystem_of_mem counted.1 member
    simp only [ContextAttachment.allowsSystem, Bool.and_eq_true, decide_eq_true_eq] at allows
    exact ⟨attachment, attached, allows.1.1, allows.1.2, allows.2⟩
  cases admitted with
  | nothing none => cases member
  | mcp attached kind counted room =>
    exact ofCounted _ counted attached
  | skill attached kind counted =>
    exact ofCounted _ counted attached

/-! ## The results of a round -/

/-- What a check says: an error, or the messages that are added. -/
abbrev Verdict := Except String (List ChatMessage)

/-- The record of a call after the check of its attachment. -/
def judged (record : ToolRecord Args) : Verdict → ToolRecord Args
  | .error error =>
    { record with
      error := some error
      content := "本轮上下文附件被拒绝：" ++ error }
  | .ok _ => record

/-- The budgets after the check of an attachment. -/
def charged (manager : AttachmentManager) (record : ToolRecord Args) : Verdict → AttachmentManager
  | .error _ => manager
  | .ok _ => manager.commit record.contextAttachment record

/-- The messages that a check adds. -/
def addedMessages : Verdict → List ChatMessage
  | .error _ => []
  | .ok messages => messages

/-- The message of a call. -/
def callMessage (result : ToolCall Args × ToolRecord Args) : ChatMessage :=
  toolResultMessage result.1 result.2

/-- The checks of a round, each with what the ones before have left. -/
def verdicts (config : LoopConfig Tool Args) (base : List ChatMessage) :
    List ChatMessage → List (ToolCall Args × ToolRecord Args) →
      List ChatMessage → AttachmentManager → List Verdict
  | _, [], _, _ => []
  | done, (call, record) :: rest, added, manager =>
    let verdict := manager.check config.settings config.countTokens
      record.contextAttachment record
      (base ++ done ++ callMessage (call, record) :: rest.map callMessage ++ added)
    verdict :: verdicts config base (done ++ [callMessage (call, judged record verdict)]) rest
        (added ++ addedMessages verdict) (charged manager record verdict)

/-- The results with their records after the checks. -/
def judgedAll (results : List (ToolCall Args × ToolRecord Args))
    (checks : List Verdict) : List (ToolCall Args × ToolRecord Args) :=
  results.zipWith (fun result verdict =>
    (result.1, judged result.2 verdict)) checks

/-- The budgets after all checks. -/
def chargedAll (manager : AttachmentManager) :
    List (ToolCall Args × ToolRecord Args) → List Verdict → AttachmentManager
  | (_, record) :: results, verdict :: checks =>
    chargedAll (charged manager record verdict) results checks
  | _, _ => manager

theorem attachResults_cons (config : LoopConfig Tool Args)
    (start position : Nat) (call : ToolCall Args) (record : ToolRecord Args)
    (rest : List (ToolCall Args × ToolRecord Args))
    (manager : AttachmentManager) (working : List ChatMessage) :
    let verdict := manager.check config.settings config.countTokens
      record.contextAttachment record working
    let placed :=
      match verdict with
      | .error _ =>
        working.set (start + position) (callMessage (call, judged record verdict))
      | .ok messages => working ++ messages
    let later := attachResults config start (position + 1) rest
      (charged manager record verdict) placed
    attachResults config start position ((call, record) :: rest) manager working =
      (later.1, later.2.1, judged record verdict :: later.2.2) := by
  dsimp only
  rw [attachResults]
  cases manager.check config.settings config.countTokens
    record.contextAttachment record working <;> rfl

theorem set_append_cons {Item : Type} (front tail : List Item) (old new : Item) :
    (front ++ old :: tail).set front.length new = front ++ new :: tail := by
  rw [List.set_append_right _ _ (Nat.le_refl _), Nat.sub_self]
  rfl

theorem attachResults_eq (config : LoopConfig Tool Args) (base done added : List ChatMessage)
    (results : List (ToolCall Args × ToolRecord Args))
    (manager : AttachmentManager) :
    let checks := verdicts config base done results added manager
    attachResults config base.length done.length results manager
        (base ++ done ++ results.map callMessage ++ added) =
      (chargedAll manager results checks,
        base ++ done ++ (judgedAll results checks).map callMessage ++ added ++
          checks.flatMap addedMessages,
        (judgedAll results checks).map Prod.snd) := by
  induction results generalizing done added manager with
  | nil => simp [attachResults, verdicts, judgedAll, chargedAll]
  | cons result rest induction =>
    rcases result with ⟨call, record⟩
    have first := attachResults_cons config base.length done.length call
      record rest manager
      (base ++ done ++ (callMessage (call, record) :: rest.map callMessage) ++ added)
    rw [List.map_cons, first]
    simp only [verdicts]
    cases manager.check config.settings config.countTokens record.contextAttachment record
        (base ++ done ++ callMessage (call, record) :: rest.map callMessage ++ added) with
    | error error =>
      have later := induction
        (done ++ [callMessage (call, judged record (.error error))])
        added manager
      have rewritten :
          (base ++ done ++ callMessage (call, record) :: rest.map callMessage ++ added).set
            (base.length + done.length)
            (callMessage (call, judged record (.error error))) =
            base ++ (done ++ [callMessage (call, judged record (.error error))]) ++
              rest.map callMessage ++ added := by
        rw [← List.length_append, List.append_assoc (base ++ done),
          List.cons_append, set_append_cons]
        simp
      rw [List.length_append, List.length_singleton, ← rewritten] at later
      simp only [charged, addedMessages, List.append_nil] at later ⊢
      rw [later]
      simp [judgedAll, chargedAll, charged, addedMessages]
    | ok messages =>
      have later := induction
        (done ++ [callMessage (call, judged record (.ok messages))])
        (added ++ messages)
        (manager.commit record.contextAttachment record)
      have appended :
          base ++ done ++ callMessage (call, record) :: rest.map callMessage ++ added ++ messages =
            base ++ (done ++ [callMessage (call, judged record (.ok messages))]) ++
              rest.map callMessage ++ (added ++ messages) := by
        simp [judged]
      rw [List.length_append, List.length_singleton, ← appended] at later
      simp only [charged, addedMessages] at later ⊢
      rw [later]
      simp [judgedAll, chargedAll, charged, addedMessages]

variable {config : LoopConfig Tool Args}

theorem within_charged (within : manager.Within config.settings)
    (record : ToolRecord Args) (working : List ChatMessage) :
    (charged manager record (manager.check config.settings config.countTokens
        record.contextAttachment record working)).Within
        config.settings := by
  cases checked : manager.check config.settings config.countTokens
    record.contextAttachment record working with
  | error error => exact within
  | ok messages => exact (admitted_of_check checked).within within

theorem within_chargedAll (config : LoopConfig Tool Args) (base done added : List ChatMessage)
    (results : List (ToolCall Args × ToolRecord Args))
    (within : manager.Within config.settings) :
    (chargedAll manager results (verdicts config base done results added manager)).Within
        config.settings := by
  induction results generalizing done added manager with
  | nil => exact within
  | cons result rest induction =>
    exact induction _ _ (within_charged within _ _)

/-- A system message was attached by a verified skill. -/
def SystemFromSkill (record : ToolRecord Args) (verdict : Verdict) : Prop :=
  ∀ content, .plain .system content ∈ addedMessages verdict → ∃ attachment,
      record.contextAttachment = some (.context attachment) ∧
        attachment.kind = "skill" ∧ attachment.verified = true ∧
        Tools.startsWith attachment.source "skill:" = true

theorem system_of_verdicts (config : LoopConfig Tool Args) (base done added : List ChatMessage)
    (results : List (ToolCall Args × ToolRecord Args))
    (manager : AttachmentManager) :
    List.Forall₂ (fun result verdict => SystemFromSkill result.2 verdict)
      results (verdicts config base done results added manager) := by
  induction results generalizing done added manager with
  | nil => exact .nil
  | cons result rest induction =>
    rcases result with ⟨call, record⟩
    apply List.Forall₂.cons
    · intro content member
      cases checked : manager.check config.settings config.countTokens
          record.contextAttachment record
          (base ++ done ++ callMessage (call, record) :: rest.map callMessage ++ added) with
      | error error =>
        rw [checked] at member
        cases member
      | ok messages =>
        rw [checked] at member
        exact (admitted_of_check checked).system member
    · exact induction _ _ _

/-! ## The rounds of a turn -/

theorem applyTurnControl_attachments (state : LoopState Args) (control : Control) :
    (applyTurnControl state control).2.attachments = state.attachments := by
  unfold applyTurnControl
  split <;> rfl

theorem addResults_eq (config : LoopConfig Tool Args)
    (state : LoopState Args) (calls : List (ToolCall Args))
    (executed : List (ToolRecord Args × Bool)) :
    let results := calls.zip (executed.map Prod.fst)
    let checks :=
      verdicts config state.working [] results [] state.attachments
    (addResults config state calls executed).attachments =
        chargedAll state.attachments results checks ∧
      (addResults config state calls executed).working =
        state.working ++ (judgedAll results checks).map callMessage ++
          checks.flatMap addedMessages := by
  have attached := attachResults_eq config state.working [] []
    (calls.zip (executed.map Prod.fst)) state.attachments
  simp only [List.append_nil, List.length_nil] at attached
  dsimp only [addResults]
  rw [show (fun result : ToolCall Args × ToolRecord Args =>
    toolResultMessage result.1 result.2) = callMessage from rfl, attached]
  exact ⟨rfl, rfl⟩

variable {state : LoopState Args}

theorem addResults_within (within : state.attachments.Within config.settings)
    (calls : List (ToolCall Args)) (executed : List (ToolRecord Args × Bool)) :
    (addResults config state calls executed).attachments.Within
      config.settings := by
  rw [(addResults_eq config state calls executed).1]
  exact within_chargedAll config _ _ _ _ within

theorem afterReply_within (within : state.attachments.Within config.settings)
    (outcomes : RoundOutcomes Args) (response : LLMResponse Args) :
    (afterReply config state outcomes response).1.attachments.Within
      config.settings := by
  unfold afterReply
  split
  · split
    · exact within
    · split <;> exact within
  · dsimp only
    split
    · exact within
    · split
      · exact within
      · split <;>
        · rw [applyTurnControl_attachments]
          apply addResults_within
          exact within

theorem round_within (within : state.attachments.Within config.settings)
    (outcomes : RoundOutcomes Args) :
    (round config state outcomes).1.attachments.Within
      config.settings := by
  have controlled :
      (applyTurnControl state outcomes.before).2.attachments.Within
        config.settings := by
    rw [applyTurnControl_attachments]
    exact within
  unfold round
  dsimp only
  split
  · exact controlled
  · split
    · exact controlled
    · split
      · exact controlled
      · apply afterReply_within
        exact controlled

theorem finalAnswer_attachments (state : LoopState Args) (outcomes : FinalOutcomes Args) :
    (finalAnswer state outcomes).1.attachments = state.attachments := by
  unfold finalAnswer
  dsimp only
  split
  · rfl
  · split
    · rfl
    · split <;> rfl

theorem runRounds_within (config : LoopConfig Tool Args)
    (rounds : Nat → RoundOutcomes Args) (final : FinalOutcomes Args)
    (left index : Nat) (within : state.attachments.Within config.settings) :
    (runRounds config rounds final left index state).1.attachments.Within
      config.settings := by
  induction left generalizing index state with
  | zero =>
    rw [runRounds, finalAnswer_attachments]
    exact within
  | succ left induction =>
    have later := round_within within (rounds index)
    rw [runRounds]
    split
    · next ended =>
        rw [ended] at later
        exact later
    · next continues =>
        rw [continues] at later
        exact induction (index + 1) later

/-- A skill that attaches a system message. -/
def loadedSkill : ToolRecord String where
  toolName := "load_skill"
  args := "review"
  content := "loaded"
  error := none
  contextAttachment := some (.context
    { source := "skill:review"
      messages := [⟨"system", some "be brief"⟩]
      tokenCount := 8
      kind := "skill"
      verified := true })
  metadata := some ⟨some "review", some 900⟩

/-- A turn before its first results. -/
def emptyState : LoopState String where
  working := []
  toolRecords := []
  usage := { inputTokens := 0, outputTokens := 0, totalTokens := 0 }
  consumedGuidance := []
  attachments := { toolSchemaTokens := 0 }
  schemaVisible := none
  requests := []

/-- A turn that counts characters. -/
def countingConfig : LoopConfig Unit String :=
  { sampleConfig with countTokens := fun text => text.length }

end TurningGood.Runtime
