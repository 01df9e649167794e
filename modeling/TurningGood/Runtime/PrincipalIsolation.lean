import TurningGood.Runtime.PrincipalContext
import TurningGood.Sessions.FailedWrites
import TurningGood.Sessions.SharedStore

/-!
# The isolation of a principal

A principal works with its reader on a store in which other principals add,
change and remove their sessions.  In two runs that differ in these changes
only, the reader gives the same answers, and it touches no session of another
principal.

Three things are left out of this by design.  The expired sessions of the
whole store are removed together.  A session cannot be created under the id
of a foreign one, and a command for such an id is refused, while a missing
session is not an error there.
-/

namespace TurningGood.Runtime

open TurningGood.Foundation TurningGood.Foundation.Action
open TurningGood.Sessions.JsonlStore

variable {Value : Type} {principalId content : CodePoints}
  {left right : ManagerState} {route : ChannelRoute}

/-! ## Managers that look alike -/

/-- Two managers with stores that look alike, and the same settings. -/
structure AlikeStates (conversions : Conversions) (principalId : CodePoints)
    (starts : SessionFiles × SessionFiles) (left right : ManagerState) :
    Prop where
  files : Alike conversions principalId starts left.files right.files
  autoApprove : left.autoApprove = right.autoApprove

variable {conversions : Conversions} {formats : Formats}
  {starts : SessionFiles × SessionFiles} {sessionId : CodePoints}

theorem perform_onFiles (action : StoreAction Value) (state : ManagerState) :
    perform (onFiles action) state = ((perform action state.files).1,
        { state with files := (perform action state.files).2 }) := rfl

theorem agrees_onFiles {pre : SessionFiles → SessionFiles → Prop}
    {action : StoreAction Value}
    {post : Value → SessionFiles → SessionFiles → Prop}
    (agrees : Agrees (Alike conversions principalId starts) pre action post) :
    Agrees (AlikeStates conversions principalId starts)
      (fun left right =>
        pre left.files right.files ∧ left.autoApprove = right.autoApprove)
      (onFiles action)
      (fun value left right => post value left.files right.files ∧
        left.autoApprove = right.autoApprove) := by
  rintro left right ⟨related, settings⟩
  rcases agrees left.files right.files related with ⟨same, after⟩
  simp only [perform_onFiles]
  refine ⟨same, ?_⟩
  revert after
  cases (perform action left.files).1 with
  | ok value => exact fun holds => ⟨holds, settings⟩
  | error error => exact fun alike => ⟨alike, settings⟩

variable {reader : PrincipalSessionReader}

/-- The managers, for the principal of a reader. -/
abbrev AlikeFor (conversions : Conversions)
    (reader : PrincipalSessionReader) (starts : SessionFiles × SessionFiles) :
    ManagerState → ManagerState → Prop :=
  AlikeStates conversions reader.principalId starts

/-- In addition, the id is not foreign. -/
def AlikeForId (conversions : Conversions)
    (reader : PrincipalSessionReader) (starts : SessionFiles × SessionFiles)
    (sessionId : CodePoints) (left right : ManagerState) : Prop :=
  AlikeAt conversions reader.principalId starts sessionId left.files
      right.files ∧ left.autoApprove = right.autoApprove

theorem AlikeForId.states (alike : AlikeForId conversions reader starts sessionId left right) :
    AlikeFor conversions reader starts left right :=
  ⟨alike.1.toAlike, alike.2⟩

theorem agrees_reply {Result : Type} {action : ManagerAction Value}
    {pre : ManagerState → ManagerState → Prop}
    {post : Value → ManagerState → ManagerState → Prop}
    {reply : Value → Result}
    (agrees : Agrees (AlikeFor conversions reader starts) pre action post)
    (weaker : ∀ value left right, post value left right →
      AlikeFor conversions reader starts left right) :
    Agrees (AlikeFor conversions reader starts) pre
      (action >>= fun value => pure (reply value))
      (fun _ => AlikeFor conversions reader starts) := by
  apply agrees.bind
  intro value
  exact agrees_pure (weaker value)

theorem agrees_fileReply {Result : Type} {action : StoreAction Value}
    {post : Value → SessionFiles → SessionFiles → Prop}
    {reply : Value → Result}
    (agrees : Agrees (Alike conversions reader.principalId starts)
      (Alike conversions reader.principalId starts) action post)
    (weaker : ∀ value left right, post value left right →
      Alike conversions reader.principalId starts left right) :
    Agrees (AlikeFor conversions reader starts)
      (AlikeFor conversions reader starts)
      (onFiles (action >>= fun value => pure (reply value)))
      (fun _ => AlikeFor conversions reader starts) := by
  have replied : Agrees (Alike conversions reader.principalId starts)
      (Alike conversions reader.principalId starts)
      (action >>= fun value => pure (reply value))
      (fun _ => Alike conversions reader.principalId starts) := by
    apply agrees.bind
    intro value
    exact agrees_pure (weaker value)
  apply (agrees_onFiles replied).weaken
  · exact fun left right alike => ⟨alike.files, alike.autoApprove⟩
  · exact fun value left right after => ⟨after.1, after.2⟩

/-- The command does not remove the directory of all sessions. -/
def ClearsSession (sessionId content : CodePoints) : Prop :=
  SessionManager.strip content = literal "/clear" → namesRoot sessionId = false

theorem agrees_handleApprove {command : CodePoints} : Agrees (AlikeFor conversions reader starts)
      (AlikeFor conversions reader starts)
      (SessionManager.handleApprove command)
      (fun _ => AlikeFor conversions reader starts) := by
  have updated : ∀ enabled : Bool, Agrees
      (AlikeFor conversions reader starts)
      (AlikeFor conversions reader starts)
      (SessionManager.updateAutoApprove enabled)
      (fun _ => AlikeFor conversions reader starts) := by
    intro enabled
    apply agrees_modify
    intro left right alike
    exact ⟨alike.files, by rw [alike.autoApprove]⟩
  have unchanged : ∀ left right,
      AlikeFor conversions reader starts left right →
        AlikeFor conversions reader starts left right :=
    fun _ _ alike => alike
  rw [SessionManager.handleApprove]
  split
  · apply (agrees_reading ?_ unchanged).weaken unchanged
    · exact fun value left right after => after.1
    · intro left right alike
      rw [alike.autoApprove]
  · split
    · exact (updated true).bind fun _ => agrees_pure unchanged
    · split
      · exact (updated false).bind fun _ => agrees_pure unchanged
      · exact agrees_pure unchanged

theorem agrees_answerCommand {command : CodePoints}
    (plain : command = literal "/clear" → namesRoot sessionId = false) :
    Agrees (AlikeFor conversions reader starts)
      (AlikeForId conversions reader starts sessionId)
      (SessionManager.answerCommand conversions formats sessionId command)
      (fun _ => AlikeFor conversions reader starts) := by
  have ofFiles : ∀ {action : StoreAction CodePoints},
      Agrees (Alike conversions reader.principalId starts)
        (AlikeAt conversions reader.principalId starts sessionId) action
        (fun _ => Alike conversions reader.principalId starts) →
      Agrees (AlikeFor conversions reader starts)
        (AlikeForId conversions reader starts sessionId) (onFiles action)
        (fun _ => AlikeFor conversions reader starts) := by
    intro action agrees
    apply (agrees_onFiles agrees).weaken fun _ _ alike => alike
    exact fun value left right after => ⟨after.1, after.2⟩
  have text : ∀ answer : CodePoints, Agrees
      (AlikeFor conversions reader starts)
      (AlikeForId conversions reader starts sessionId)
      (pure answer : ManagerAction CodePoints)
      (fun _ => AlikeFor conversions reader starts) := fun answer =>
    agrees_pure fun left right alike => alike.states
  have weaker : ∀ left right, AlikeAt conversions reader.principalId starts
      sessionId left right →
        Alike conversions reader.principalId starts left right :=
    fun left right alike => alike.toAlike
  rw [SessionManager.answerCommand]
  split
  · exact ofFiles (agrees_readAllMessages.bind fun _ => agrees_pure weaker)
  split
  · apply ofFiles
    apply agrees_load.bind
    intro session
    cases session with
    | none => exact agrees_pure fun left right after => after.1.toAlike
    | some session =>
      apply Agrees.bind (agrees_readAllMessages.weaken
        (fun left right after => after.1) fun _ _ _ alike => alike)
      exact fun _ => agrees_pure weaker
  split
  · apply ofFiles
    apply agrees_allToolCalls.bind
    intro records
    split
    · exact agrees_pure weaker
    · exact agrees_pure weaker
  split
  · exact agrees_handleApprove.weaken (fun left right alike => alike.states)
      fun _ _ _ alike => alike
  split
  · rename_i clears
    apply ofFiles
    apply (agrees_clearSession (plain clears)).bind
    exact fun _ => agrees_pure fun left right alike => alike
  split
  · exact text _
  split
  · exact text _
  · exact text _

theorem agrees_handleInboundCommand (plain : ClearsSession sessionId content) :
    Agrees (AlikeFor conversions reader starts)
      (AlikeForId conversions reader starts sessionId)
      (SessionManager.handleInboundCommand conversions formats sessionId
        content)
      (fun _ => AlikeFor conversions reader starts) := by
  rw [SessionManager.handleInboundCommand]
  split
  · apply (agrees_answerCommand plain).bind
    exact fun _ => agrees_pure fun left right alike => alike
  · exact agrees_pure fun left right alike => alike.states

/-! ## Checks of the reader -/

theorem perform_load (files : SessionFiles) (sessionId : CodePoints) :
    perform (load conversions sessionId) files =
      (if (Utf8.scalars? sessionId).isSome then
        .ok (loadSession conversions files sessionId)
      else .error .raised, files) := by
  simp only [load, sessionDir, perform_bind, perform_reading]
  by_cases quoted : (Utf8.scalars? sessionId).isSome = true
  · simp only [quoted, if_true]
    rfl
  · simp only [quoted, Bool.false_eq_true, if_false]

theorem load_of_alike {left right : SessionFiles}
    (alike : Alike conversions principalId starts left right)
    {session : StoredSession conversions}
    (loaded : loadSession conversions left sessionId = some session)
    (own : session.principalId = principalId) :
    loadSession conversions right sessionId = some session ∧
      AlikeAt conversions principalId starts sessionId left right := by
  rcases alike.leftPlaced.loadSession_eq_some loaded with ⟨rfl, located⟩
  have other := sessionIn_of_view alike.view located own
  refine ⟨alike.rightPlaced.loadSession_of_located other, alike, ?_, ?_⟩
  · rintro ⟨name, found, present, named, notOwn⟩
    have same := alike.leftPlaced.unique _ _ _ _ present located named
    rw [same, located] at present
    cases present
    exact notOwn own
  · rintro ⟨name, found, present, named, notOwn⟩
    have same := alike.rightPlaced.unique _ _ _ _ present other named
    rw [same, other] at present
    cases present
    exact notOwn own

theorem perform_owned (refusal : String) (files : SessionFiles) :
    perform (reader.owned conversions refusal sessionId) files =
      (if (Utf8.scalars? sessionId).isSome then
        match loadSession conversions files sessionId with
        | some session =>
          if session.principalId = reader.principalId then .ok session
          else .error (.permission refusal)
        | none => .error (.permission refusal)
      else .error .raised, files) := by
  rw [PrincipalSessionReader.owned, perform_bind, perform_load]
  by_cases quoted : (Utf8.scalars? sessionId).isSome = true
  · simp only [quoted, if_true]
    cases loadSession conversions files sessionId with
    | none => rfl
    | some session =>
      dsimp only
      split
      · rfl
      · rfl
  · simp only [quoted, Bool.false_eq_true, if_false]

theorem refused_of_notOwn {origins : SessionFiles × SessionFiles}
    {left right : SessionFiles} (refusal : String)
    (alike : Alike conversions reader.principalId origins left right)
    (notOwn : ∀ session, loadSession conversions left sessionId = some session →
        session.principalId ≠ reader.principalId) :
    (match loadSession conversions right sessionId with
      | some session =>
        if session.principalId = reader.principalId then
          (.ok session : Except Failure (StoredSession conversions))
        else .error (.permission refusal)
      | none => .error (.permission refusal)) =
        .error (.permission refusal) := by
  have same : Alike conversions reader.principalId (right, left) right left :=
    { leftPlaced := alike.rightPlaced
      rightPlaced := alike.leftPlaced
      view := alike.view.symm
      leftKept := fun _ _ found _ => found
      rightKept := fun _ _ found _ => found }
  cases loaded : loadSession conversions right sessionId with
  | none => rfl
  | some session =>
    have other : session.principalId ≠ reader.principalId := fun own =>
      notOwn session (load_of_alike same loaded own).1 own
    exact if_neg other

theorem agrees_owned {refusal : String} (known : SessionFiles → SessionFiles → Prop) :
    Agrees (Alike conversions reader.principalId starts)
      (fun left right =>
        Alike conversions reader.principalId starts left right ∧
          known left right)
      (reader.owned conversions refusal sessionId)
      (fun _ left right =>
        AlikeAt conversions reader.principalId starts sessionId left right ∧
          known left right) := by
  rintro left right ⟨alike, holds⟩
  rw [perform_owned, perform_owned]
  by_cases quoted : (Utf8.scalars? sessionId).isSome = true
  · simp only [quoted, if_true]
    by_cases own : ∃ session, loadSession conversions left sessionId = some session ∧
          session.principalId = reader.principalId
    · rcases own with ⟨session, loaded, own⟩
      rcases load_of_alike alike loaded own with ⟨other, alikeAt⟩
      simp only [loaded, other, own, if_true]
      exact ⟨trivial, alikeAt, holds⟩
    · have notOwn : ∀ session,
          loadSession conversions left sessionId = some session →
            session.principalId ≠ reader.principalId :=
        fun session loaded same => own ⟨session, loaded, same⟩
      have self : Alike conversions reader.principalId (left, left) left
          left :=
        { leftPlaced := alike.leftPlaced
          rightPlaced := alike.leftPlaced
          view := rfl
          leftKept := fun _ _ found _ => found
          rightKept := fun _ _ found _ => found }
      rw [refused_of_notOwn refusal self notOwn, refused_of_notOwn refusal alike notOwn]
      exact ⟨rfl, alike⟩
  · simp only [quoted, Bool.false_eq_true, if_false]
    exact ⟨trivial, alike⟩

theorem agrees_requireSession : Agrees (Alike conversions reader.principalId starts)
      (Alike conversions reader.principalId starts)
      (reader.requireSession conversions sessionId)
      (fun _ =>
        AlikeAt conversions reader.principalId starts sessionId) :=
  (agrees_owned fun _ _ => True).weaken (fun _ _ alike => ⟨alike, trivial⟩)
    fun _ _ _ after => after.1

theorem agrees_behind {action : StoreAction Value}
    (agrees : Agrees (Alike conversions reader.principalId starts)
      (AlikeAt conversions reader.principalId starts sessionId) action
      (fun _ => AlikeAt conversions reader.principalId starts sessionId)) :
    Agrees (Alike conversions reader.principalId starts)
      (Alike conversions reader.principalId starts)
      (reader.behind conversions sessionId action)
      (fun _ => AlikeAt conversions reader.principalId starts sessionId) :=
  agrees_requireSession.bind fun _ => agrees

theorem agrees_requireAll {traces : List (CodePoints × StateTrace)} :
    Agrees (Alike conversions reader.principalId starts)
      (AlikeAt conversions reader.principalId starts sessionId)
      (reader.requireAll conversions traces)
      (fun _ => AlikeAt conversions reader.principalId starts sessionId) := by
  induction traces with
  | nil => exact agrees_pure fun left right alike => alike
  | cons trace rest induction =>
    rw [PrincipalSessionReader.requireAll]
    have required : Agrees (Alike conversions reader.principalId starts)
        (AlikeAt conversions reader.principalId starts sessionId)
        (reader.requireSession conversions trace.1)
        (fun _ => AlikeAt conversions reader.principalId starts
          sessionId) := by
      apply (agrees_owned (AlikeAt conversions reader.principalId starts
        sessionId)).weaken
      · exact fun left right alike => ⟨alike.toAlike, alike⟩
      · exact fun value left right after => after.2
    exact required.bind fun _ => induction

theorem agrees_readerSaveTurnTraces
    {traces : List (CodePoints × StateTrace)} :
    Agrees (Alike conversions reader.principalId starts)
      (Alike conversions reader.principalId starts)
      (reader.saveTurnTraces conversions traces)
      (fun _ => Alike conversions reader.principalId starts) := by
  cases traces with
  | nil => exact agrees_pure fun left right alike => alike
  | cons trace rest =>
    have required : Agrees (Alike conversions reader.principalId starts)
        (Alike conversions reader.principalId starts)
        (reader.requireAll conversions (trace :: rest))
        (fun _ => AlikeAt conversions reader.principalId starts
          trace.1) := by
      rw [PrincipalSessionReader.requireAll]
      exact agrees_requireSession.bind fun _ => agrees_requireAll
    apply required.bind
    intro _
    apply agrees_saveTurnTraces.weaken fun _ _ alike => alike
    exact fun value left right alike => alike.toAlike

theorem agrees_validateRoute {pre : ManagerState → ManagerState → Prop}
    (alike : ∀ left right, pre left right → AlikeFor conversions reader starts left right) :
    Agrees (AlikeFor conversions reader starts) pre
      (reader.validateRoute route)
      (fun _ left right =>
        pre left right ∧ route.principalId = reader.principalId) := by
  rw [PrincipalSessionReader.validateRoute]
  split
  · exact agrees_throw alike
  · rename_i own
    exact agrees_pure fun left right holds => ⟨holds, not_not.mp own⟩

theorem agrees_manager_loadOrCreate {now : Moment conversions}
    (own : route.principalId = principalId) :
    Agrees (Alike conversions principalId starts)
      (AlikeAt conversions principalId starts route.sessionId)
      (SessionManager.loadOrCreate conversions route now)
      (fun _ => Alike conversions principalId starts) := by
  apply agrees_load.bind
  intro session
  cases session with
  | some session =>
    dsimp only
    split
    · exact agrees_pure fun left right after => after.1.toAlike
    · exact agrees_throw fun left right after => after.1.toAlike
  | none =>
    apply (agrees_reading ?_ fun left right after =>
      after.1.toAlike).bind
    · intro recorded
      split
      · exact agrees_throw fun left right after => after.1.1.toAlike
      · exact (agrees_createSession own).weaken
          (fun left right after => after.1) fun _ _ _ alike => alike
    · rintro left right ⟨alike, -⟩
      rw [hasSessionRecord_ownView alike.leftOwn, alike.view,
        ← hasSessionRecord_ownView alike.rightOwn]

theorem agrees_readerLoadOrCreate {now : Moment conversions} :
    Agrees (AlikeFor conversions reader starts)
      (AlikeForId conversions reader starts route.sessionId)
      (reader.loadOrCreate conversions route now)
      (fun _ => AlikeFor conversions reader starts) := by
  apply (agrees_validateRoute fun left right alike => alike.states).bind
  intro _ left right after
  rcases after with ⟨alike, own⟩
  apply (agrees_onFiles (agrees_manager_loadOrCreate own)).weaken
    (fun _ _ alike => alike) ?_ left right alike
  exact fun value left right after => ⟨after.1, after.2⟩

theorem agrees_readerHandleInboundCommand (plain : ClearsSession sessionId content) :
    Agrees (AlikeFor conversions reader starts)
      (AlikeForId conversions reader starts sessionId)
      (reader.handleInboundCommand conversions formats sessionId route
        content)
      (fun _ => AlikeFor conversions reader starts) := by
  apply (agrees_validateRoute fun left right alike => alike.states).bind
  intro _
  split
  · exact agrees_throw fun left right after => after.1.states
  · apply Agrees.bind ((agrees_onFiles agrees_load).weaken
      (fun left right after => after.1) fun _ _ _ after => after)
    intro session
    split
    · exact agrees_throw fun left right after =>
        ⟨after.1.1.toAlike, after.2⟩
    · exact (agrees_handleInboundCommand plain).weaken
        (fun left right after => ⟨after.1.1, after.2⟩) fun _ _ _ alike => alike

theorem agrees_readerHandleCommand {session : StoredSession conversions}
    (plain : ClearsSession session.id content) :
    Agrees (AlikeFor conversions reader starts)
      (AlikeForId conversions reader starts session.id)
      (reader.handleCommand conversions formats session route content)
      (fun _ => AlikeFor conversions reader starts) := by
  rw [PrincipalSessionReader.handleCommand]
  split
  · exact agrees_throw fun left right alike => alike.states
  · apply (agrees_validateRoute fun left right alike => alike.states).bind
    exact fun _ => (agrees_handleInboundCommand plain).weaken
      (fun left right after => after.1) fun _ _ _ alike => alike

/-! ## Operations -/

/-- The operations that compare an id with the sessions of all principals. -/
def askedId : Operation conversions → Option CodePoints
  | .loadOrCreate route _ => some route.sessionId
  | .handleInboundCommand sessionId _ _ => some sessionId
  | _ => none

/-- The id of the session that a command is given. -/
def givenId : Operation conversions → Option CodePoints
  | .handleCommand session _ _ => some session.id
  | _ => none

/-- A command of the operation does not remove all sessions. -/
def ClearsOne : Operation conversions → Prop
  | .handleInboundCommand sessionId _ content =>
    ClearsSession sessionId content
  | .handleCommand session _ content => ClearsSession session.id content
  | _ => True

/--
Of an id that is compared with all sessions, it is the same in both runs
whether it is foreign, and a command is not given a foreign session.
-/
structure Comparable (conversions : Conversions)
    (reader : PrincipalSessionReader) (left right : ManagerState)
    (operation : Operation conversions) : Prop where
  asked : ∀ sessionId, askedId operation = some sessionId →
    (ForeignId conversions reader.principalId left.files sessionId ↔
      ForeignId conversions reader.principalId right.files sessionId)
  given : ∀ sessionId, givenId operation = some sessionId →
    ¬ ForeignId conversions reader.principalId left.files sessionId ∧
      ¬ ForeignId conversions reader.principalId right.files sessionId
  clears : ClearsOne operation

/-- The operation removes sessions for their age. -/
def isCleanup : Operation conversions → Bool
  | .cleanupExpiredSessions _ _ => true
  | _ => false

theorem perform_validateRoute (route : ChannelRoute) (state : ManagerState) :
    perform (reader.validateRoute route) state =
      (if route.principalId ≠ reader.principalId then
        .error (.permission "route 不属于当前主体") else .ok (), state) := by
  rw [PrincipalSessionReader.validateRoute]
  split
  · rfl
  · rfl

theorem load_of_foreignId {files : SessionFiles} (placed : Placed conversions files)
    (foreign : ForeignId conversions principalId files sessionId) :
    ∃ session, loadSession conversions files sessionId = some session ∧
      session.principalId ≠ principalId := by
  rcases foreign with ⟨name, session, located, rfl, other⟩
  exact ⟨session, placed.loadSession_of_located located, other⟩

/-- How an operation fails that is asked for a foreign id. -/
def foreignFailure (reader : PrincipalSessionReader) : Operation conversions → Failure
  | .loadOrCreate route _ =>
    if route.principalId ≠ reader.principalId then
      .permission "route 不属于当前主体"
    else if (Utf8.scalars? route.sessionId).isSome then
      .value "existing session route 不一致"
    else .raised
  | .handleInboundCommand sessionId route content =>
    if route.principalId ≠ reader.principalId then
      .permission "route 不属于当前主体"
    else if !reader.allowGlobalApproval ∧
        (literal "/approve").isPrefixOf (SessionManager.strip content) then
      .permission "非 Owner 不能修改全局工具自动审批"
    else if (Utf8.scalars? sessionId).isSome then
      .permission "不能操作其它主体的 session"
    else .raised
  | _ => .raised

theorem perform_of_foreignId {state : ManagerState} (placed : Placed conversions state.files)
    {operation : Operation conversions}
    (asked : askedId operation = some sessionId)
    (foreign : ForeignId conversions reader.principalId state.files
      sessionId) :
    perform (reader.operate conversions formats operation) state =
      (.error (foreignFailure reader operation), state) := by
  rcases load_of_foreignId placed foreign with ⟨session, loaded, other⟩
  cases operation with
  | loadOrCreate route now =>
    cases asked
    simp only [PrincipalSessionReader.operate,
      PrincipalSessionReader.loadOrCreate, SessionManager.loadOrCreate,
      perform_bind, perform_validateRoute, perform_onFiles, perform_load,
      foreignFailure]
    by_cases own : route.principalId = reader.principalId
    · have mismatch : ¬ (session.principalId = route.principalId ∧
          session.channel = route.channel ∧
          session.conversationId = route.conversationId) :=
        fun same => other (same.1.trans own)
      by_cases quoted : (Utf8.scalars? route.sessionId).isSome = true
      · simp only [own, ne_eq, not_true, if_false, quoted, if_true, loaded]
        rw [← own, if_neg mismatch, perform_throw]
      · simp only [own, ne_eq, not_true, if_false, quoted, Bool.false_eq_true]
    · simp only [ne_eq, own, not_false_eq_true, if_true]
  | handleInboundCommand asked route content =>
    cases asked
    simp only [PrincipalSessionReader.operate,
      PrincipalSessionReader.handleInboundCommand, perform_bind,
      perform_validateRoute, foreignFailure]
    by_cases own : route.principalId = reader.principalId
    · simp only [own, ne_eq, not_true, if_false]
      by_cases approves : !reader.allowGlobalApproval ∧
          (literal "/approve").isPrefixOf (SessionManager.strip content)
      · rw [if_pos approves, if_pos approves, perform_throw]
      · rw [if_neg approves, if_neg approves]
        simp only [perform_bind, perform_onFiles, perform_load]
        by_cases quoted : (Utf8.scalars? sessionId).isSome = true
        · simp only [quoted, if_true, loaded, Option.any_some, other,
            not_false_eq_true, decide_true, perform_throw]
        · simp only [quoted, Bool.false_eq_true, if_false]
    · simp only [ne_eq, own, not_false_eq_true, if_true]
  | _ => cases asked

theorem agrees_operate {operation : Operation conversions}
    (kept : isCleanup operation = false) :
    Agrees (AlikeFor conversions reader starts)
      (fun left right => AlikeFor conversions reader starts left right ∧
        Comparable conversions reader left right operation)
      (reader.operate conversions formats operation)
      (fun _ => AlikeFor conversions reader starts) := by
  have forget : ∀ {action : ManagerAction (Reply conversions)},
      Agrees (AlikeFor conversions reader starts)
        (AlikeFor conversions reader starts) action
        (fun _ => AlikeFor conversions reader starts) →
      Agrees (AlikeFor conversions reader starts)
        (fun left right => AlikeFor conversions reader starts left right ∧
          Comparable conversions reader left right operation) action
        (fun _ => AlikeFor conversions reader starts) := fun agrees =>
    agrees.weaken (fun _ _ alike => alike.1) fun _ _ _ alike => alike
  have ofAsked : ∀ sessionId, askedId operation = some sessionId →
      Agrees (AlikeFor conversions reader starts)
        (AlikeForId conversions reader starts sessionId)
        (reader.operate conversions formats operation)
        (fun _ => AlikeFor conversions reader starts) →
      Agrees (AlikeFor conversions reader starts)
        (fun left right => AlikeFor conversions reader starts left right ∧
          Comparable conversions reader left right operation)
        (reader.operate conversions formats operation)
        (fun _ => AlikeFor conversions reader starts) := by
    rintro sessionId asked agrees left right ⟨alike, comparable⟩
    have same := comparable.asked sessionId asked
    by_cases foreign : ForeignId conversions reader.principalId left.files sessionId
    · rw [perform_of_foreignId alike.files.leftPlaced asked foreign,
        perform_of_foreignId alike.files.rightPlaced asked (same.mp foreign)]
      exact ⟨rfl, alike⟩
    · have other := fun atRight => foreign (same.mpr atRight)
      exact agrees left right ⟨⟨alike.files, foreign, other⟩, alike.autoApprove⟩
  have atId : ∀ {sessionId : CodePoints} (left right : SessionFiles),
      AlikeAt conversions reader.principalId starts sessionId left right →
        Alike conversions reader.principalId starts left right :=
    fun _ _ alike => alike.toAlike
  have replied : ∀ {Value : Type} {sessionId : CodePoints}
      {action : StoreAction Value} {reply : Value → Reply conversions},
      Agrees (Alike conversions reader.principalId starts)
        (AlikeAt conversions reader.principalId starts sessionId) action
        (fun _ =>
          AlikeAt conversions reader.principalId starts sessionId) →
      Agrees (AlikeFor conversions reader starts)
        (fun left right => AlikeFor conversions reader starts left right ∧
          Comparable conversions reader left right operation)
        (onFiles (reader.behind conversions sessionId action >>= fun value =>
          pure (reply value)))
        (fun _ => AlikeFor conversions reader starts) := fun agrees =>
    forget (agrees_fileReply (agrees_behind agrees) fun _ => atId)
  cases operation with
  | listSessions =>
    exact forget (agrees_fileReply agrees_listSessions fun _ _ _ alike => alike)
  | allMessages sessionId =>
    have read : Agrees (Alike conversions reader.principalId starts)
        (Alike conversions reader.principalId starts)
        (reader.allMessages conversions sessionId)
        (fun _ => AlikeAt conversions reader.principalId starts
          sessionId) := by
      apply ((agrees_owned fun _ _ => True).weaken
        (fun _ _ alike => ⟨alike, trivial⟩) fun _ _ _ after =>
          after.1).bind
      exact fun _ => agrees_readAllMessages
    exact forget (agrees_fileReply read fun _ => atId)
  | loadOrCreate route now =>
    exact ofAsked _ rfl (agrees_reply agrees_readerLoadOrCreate fun _ _ _ alike => alike)
  | handleInboundCommand sessionId route content =>
    rintro left right ⟨alike, comparable⟩
    apply ofAsked _ rfl ?_ left right ⟨alike, comparable⟩
    exact agrees_reply (agrees_readerHandleInboundCommand comparable.clears)
      fun _ _ _ alike => alike
  | handleCommand session route content =>
    rintro left right ⟨alike, comparable⟩
    rcases comparable.given session.id rfl with ⟨onLeft, onRight⟩
    apply agrees_reply (agrees_readerHandleCommand comparable.clears)
      (fun _ _ _ alike => alike) left right
    exact ⟨⟨alike.files, onLeft, onRight⟩, alike.autoApprove⟩
  | recentMessages sessionId limit => exact replied agrees_recentMessages
  | updateSessionMetadata sessionId title pinned archived now =>
    exact replied agrees_updateSessionMetadata
  | cleanupExpiredSessions retentionDays beforeDeadline => cases kept
  | updateSummary sessionId summary now => exact replied agrees_updateSummary
  | updateUncompactedHistory sessionId history now =>
    exact replied agrees_updateUncompactedHistory
  | saveMessage sessionId record now => exact replied agrees_saveMessage
  | saveToolCalls sessionId records => exact replied agrees_saveToolCalls
  | saveTrueTokenUsage turnId sessionId usage =>
    exact replied agrees_saveTrueTokenUsage
  | readMultiAgentRuns sessionId limit => exact replied agrees_readRuns
  | saveTurnTraces traces =>
    exact forget (agrees_fileReply agrees_readerSaveTurnTraces fun _ _ _ alike => alike)
  | lastTotalTokens sessionId => exact replied agrees_lastTotalTokens

/-! ## Two runs of a reader -/

/-- The directory is the one that is made for the id. -/
def isNameOf (sessionId : CodePoints) : DirName → Bool
  | .created _ id => id = sessionId
  | .legacy _ => false

/-- A foreign session is added or changed, or removed. -/
inductive OthersChange where
  | put (name : DirName) (dir : SessionDir)
  | remove (name : DirName)

/-- What other principals do to the store with their sessions. -/
def othersChange (conversions : Conversions) (principalId : CodePoints) :
    OthersChange → ManagerState → Option ManagerState
  | .put name dir, state =>
    (dir.read conversions).bind fun session =>
      if session.principalId ≠ principalId ∧ isNameOf session.id name ∧
          (state.files.get? name).all (isForeign conversions principalId) ∧
          state.files.entries.all fun entry => entry.1 = name ||
            !hasId conversions session.id (entry.2.read conversions) then
        some { state with files := state.files.insert name dir }
      else none
  | .remove name, state =>
    if (state.files.get? name).any (isForeign conversions principalId) then
      some { state with files := state.files.erase name }
    else none

/-- Two runs of the reader on a store that is empty at first. -/
def twoReaders (conversions : Conversions) (formats : Formats)
    (reader : PrincipalSessionReader) :
    Machine (TwoRuns ManagerState (Except Failure (Reply conversions)))
      (TwoRunsLabel (Operation conversions) OthersChange) :=
  twoRuns (fun state => state.files = Dict.empty)
    (fun operation => perform (reader.operate conversions formats operation))
    (fun operation => !isCleanup operation)
    (othersChange conversions reader.principalId)

/-- The managers look alike as they are. -/
def AlikeNow (conversions : Conversions) (reader : PrincipalSessionReader)
    (left right : ManagerState) : Prop :=
  AlikeFor conversions reader (left.files, right.files) left right

theorem AlikeStates.now (alike : AlikeFor conversions reader starts left right) :
    AlikeNow conversions reader left right where
  files :=
    { alike.files with
      leftKept := fun _ _ found _ => found
      rightKept := fun _ _ found _ => found }
  autoApprove := alike.autoApprove

theorem AlikeNow.self (alike : AlikeNow conversions reader left right) :
    AlikeNow conversions reader left left where
  files :=
    { leftPlaced := alike.files.leftPlaced
      rightPlaced := alike.files.leftPlaced
      view := rfl
      leftKept := fun _ _ found _ => found
      rightKept := fun _ _ found _ => found }
  autoApprove := rfl

theorem AlikeNow.symm (alike : AlikeNow conversions reader left right) :
    AlikeNow conversions reader right left where
  files :=
    { leftPlaced := alike.files.rightPlaced
      rightPlaced := alike.files.leftPlaced
      view := alike.files.view.symm
      leftKept := fun _ _ found _ => found
      rightKept := fun _ _ found _ => found }
  autoApprove := alike.autoApprove.symm

theorem perform_cleanup (retentionDays : Int)
    (beforeDeadline : CodePoints → Bool) (state : ManagerState) :
    (perform (reader.operate conversions formats
      (.cleanupExpiredSessions retentionDays beforeDeadline)) state).2 =
        if retentionDays ≤ 0 then state
        else
          { state with
            files := state.files.filter fun _ dir =>
              !isExpired conversions beforeDeadline dir } := by
  rw [PrincipalSessionReader.operate, perform_onFiles, perform_bind, cleanupExpiredSessions]
  by_cases never : retentionDays ≤ 0
  · rw [if_pos never, if_pos never]
    rfl
  · rw [if_neg never, if_neg never]
    simp only [perform_bind, perform_reading, perform_modify, perform_pure]

theorem AlikeNow.cleanup (alike : AlikeNow conversions reader left right)
    (retentionDays : Int) (beforeDeadline : CodePoints → Bool) :
    AlikeNow conversions reader
      (perform (reader.operate conversions formats
        (.cleanupExpiredSessions retentionDays beforeDeadline)) left).2
      (perform (reader.operate conversions formats
        (.cleanupExpiredSessions retentionDays beforeDeadline)) right).2 := by
  have placed : ∀ files : SessionFiles, Placed conversions files →
      Placed conversions (files.filter fun _ dir =>
        !isExpired conversions beforeDeadline dir) := by
    intro files placed
    apply placed.of_removed
    exact fun name dir found => (Dict.get?_filter_eq_some.mp found).1
  rw [perform_cleanup, perform_cleanup]
  split
  · exact alike
  · exact
      { files :=
          { leftPlaced := placed _ alike.files.leftPlaced
            rightPlaced := placed _ alike.files.rightPlaced
            view := by
              rw [ownView, ownView, Dict.filter_comm, Dict.filter_comm right.files]
              exact congrArg (Dict.filter · _) alike.files.view
            leftKept := fun _ _ found _ => found
            rightKept := fun _ _ found _ => found }
        autoApprove := alike.autoApprove }

theorem isNameOf_iff {name : DirName} {id : CodePoints} :
    isNameOf id name = true ↔ ∃ second, name = .created second id := by
  cases name with
  | legacy other => simp [isNameOf]
  | created second other => simp [isNameOf]

theorem AlikeNow.others {target : ManagerState}
    (alike : AlikeNow conversions reader left right) {change : OthersChange}
    (changed : othersChange conversions reader.principalId change left =
      some target) : AlikeNow conversions reader target right := by
  cases change with
  | put name dir =>
    rcases Option.bind_eq_some_iff.mp changed with ⟨session, read, allowed⟩
    split at allowed
    · rename_i condition
      cases allowed
      rcases condition with ⟨other, named, before, unique⟩
      have foreign : isForeign conversions reader.principalId dir = true :=
        isForeign_iff.mpr ⟨session, read, other⟩
      have hidden : ∀ old, left.files.get? name = some old →
          (!isForeign conversions reader.principalId old) = false := by
        intro old found
        rw [found, Option.all_some] at before
        rw [before]
        rfl
      have view : ownView conversions reader.principalId
          (left.files.insert name dir) =
            ownView conversions reader.principalId left.files := by
        apply Dict.filter_insert_of_dropped hidden
        rw [foreign]
        rfl
      have placed : Placed conversions (left.files.insert name dir) := by
        have made := @Placed.changeDir _ _ alike.files.leftPlaced name
          fun _ => dir
        apply made
        intro found again
        rw [read] at again
        cases again
        refine ⟨isNameOf_iff.mp named, ?_⟩
        intro place held different located same
        rcases Option.bind_eq_some_iff.mp located with ⟨old, present, was⟩
        have member := (left.files.mem_entries_iff _ _).mpr present
        have refused := List.all_eq_true.mp unique _ member
        simp [different, was, hasId, same] at refused
      exact
        { files :=
            { leftPlaced := placed
              rightPlaced := alike.files.rightPlaced
              view := view.trans alike.files.view
              leftKept := fun _ _ found _ => found
              rightKept := fun _ _ found _ => found }
          autoApprove := alike.autoApprove }
    · cases allowed
  | remove name =>
    rw [othersChange] at changed
    split at changed
    · rename_i condition
      cases changed
      have view : ownView conversions reader.principalId
          (left.files.erase name) =
            ownView conversions reader.principalId left.files := by
        rw [ownView, Dict.erase, Dict.filter_comm]
        apply Dict.filter_eq_self
        rintro ⟨other, dir⟩ member
        have shown := Dict.get?_filter_eq_some.mp
          ((Dict.mem_entries_iff _ _ _).mp member)
        rw [decide_eq_true_eq]
        rintro rfl
        rw [shown.1, Option.any_some] at condition
        rw [condition] at shown
        cases shown.2
      have placed : Placed conversions (left.files.erase name) := by
        apply alike.files.leftPlaced.of_removed
        intro other dir found
        rw [Dict.get?_erase] at found
        split at found
        · cases found
        · exact found
      exact
        { files :=
            { leftPlaced := placed
              rightPlaced := alike.files.rightPlaced
              view := view.trans alike.files.view
              leftKept := fun _ _ found _ => found
              rightKept := fun _ _ found _ => found }
          autoApprove := alike.autoApprove }
    · cases changed

theorem placed_empty : Placed conversions Dict.empty where
  named _ _ located := nomatch located
  unique _ _ _ _ located := nomatch located

theorem alike_of_twoReaders
    {runs : TwoRuns ManagerState (Except Failure (Reply conversions))}
    (reached : (twoReaders conversions formats reader).Reaches
      (OnOperations (Comparable conversions reader)) runs) :
    AlikeNow conversions reader runs.left runs.right ∧
      runs.leftAnswers = runs.rightAnswers := by
  apply alike_of_twoRuns ?_ ?_ ?_ ?_ reached
  · rintro ⟨files, settings⟩ rfl
    exact
      { files :=
          { leftPlaced := placed_empty
            rightPlaced := placed_empty
            view := rfl
            leftKept := fun _ _ found _ => found
            rightKept := fun _ _ found _ => found }
        autoApprove := rfl }
  · intro operation left right alike comparable
    cases cleanup : isCleanup operation with
    | false =>
      have agrees : Agrees (AlikeFor conversions reader
          (left.files, right.files)) _
          (reader.operate conversions formats operation) _ :=
        agrees_operate cleanup
      rcases agrees.result ⟨alike, comparable⟩ with ⟨same, after⟩
      exact ⟨fun _ => same, after.now⟩
    | true =>
      cases operation with
      | cleanupExpiredSessions retentionDays beforeDeadline =>
        exact ⟨nofun, alike.cleanup retentionDays beforeDeadline⟩
      | _ => cases cleanup
  · exact fun change left right target alike changed => alike.others changed
  · exact fun change left right target alike changed =>
      (alike.symm.others changed).symm

/-- The operation removes this session for its age. -/
def CleansUp (conversions : Conversions) (dir : SessionDir) :
    Operation conversions → Prop
  | .cleanupExpiredSessions retentionDays beforeDeadline =>
    0 < retentionDays ∧ isExpired conversions beforeDeadline dir = true
  | _ => False

/-- Formats that agree with the real ones on what is shown below. -/
def plainFormats : Formats where
  number _ := .finite ['0'] rfl
  shown _ := []
  count _ := []
  duration _ := some []
  truth _ := false

/-- A reader of another principal. -/
def visitor : PrincipalSessionReader where
  principalId := literal "v"
  allowGlobalApproval := false
  named := by decide

/-- The runs of the reader behind the same session on the left only. -/
def visitedRuns : TwoRuns ManagerState (Except Failure (Reply plainConversions)) where
  left := ⟨newFiles, none⟩
  right := ⟨Dict.empty, none⟩
  leftAnswers := []
  rightAnswers := []

theorem reaches_visitedRuns : (twoReaders plainConversions plainFormats visitor).Reaches
      (OnOperations (Comparable plainConversions visitor)) visitedRuns := by
  have read : SessionDir.read plainConversions
      ((FileWrite.snapshot newName newSession).put
        (FileWrite.snapshot newName newSession).bytes {}) =
          some newSession := by
    have located := located_newSession
    rw [newFiles, sessionIn_changeDir_self] at located
    exact located
  have changed : othersChange plainConversions visitor.principalId
      (.put newName ((FileWrite.snapshot newName newSession).put
        (FileWrite.snapshot newName newSession).bytes {}))
      ⟨Dict.empty, none⟩ = some ⟨newFiles, none⟩ := by
    rw [othersChange, read, Option.bind_some, if_pos]
    · rfl
    · exact ⟨by decide, rfl, rfl, rfl⟩
  have start : (twoReaders plainConversions plainFormats visitor).Reaches
      (OnOperations (Comparable plainConversions visitor))
      ⟨⟨Dict.empty, none⟩, ⟨Dict.empty, none⟩, [], []⟩ :=
    .start ⟨rfl, rfl, rfl, rfl⟩
  have stepped : (twoReaders plainConversions plainFormats visitor).step
      ⟨⟨Dict.empty, none⟩, ⟨Dict.empty, none⟩, [], []⟩
      (.left (.put newName ((FileWrite.snapshot newName newSession).put
        (FileWrite.snapshot newName newSession).bytes {}))) =
          some visitedRuns := by
    rw [twoReaders, twoRuns]
    dsimp only
    rw [changed]
    rfl
  exact .next start (by trivial) stepped

theorem foreign_newSession : ∃ dir, newFiles.get? newName = some dir ∧
      isForeign plainConversions visitor.principalId dir = true := by
  rcases Option.bind_eq_some_iff.mp located_newSession with ⟨dir, found, read⟩
  exact ⟨dir, found, isForeign_iff.mpr ⟨newSession, read, by decide⟩⟩

end TurningGood.Runtime
