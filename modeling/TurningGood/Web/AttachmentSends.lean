import Mathlib.Data.List.Forall2
import TurningGood.Foundation.Machine
import TurningGood.Gateway.Turns
import TurningGood.Web.Attachments

/-!
# Sending messages with attachments

`WebSessionCoordinator.send` runs under the lock of the accepted actions.  It
finds the route of the session, resolves the attachment ids in the directory
of the owner, publishes that the task is queued, and submits the message.
Uploads, deletions and other sends run between these steps.

The limits of a message are checked where files are uploaded, one batch at a
time.  A send takes any ids of the owner, so the limits hold of a message
exactly when the files that it names would pass as one batch and no id is
repeated.
-/

namespace TurningGood.Web

open TurningGood.Foundation TurningGood.Gateway

/-! ## Sends in progress -/

/-- The arguments of `send`; no ids stand for `None` as well. -/
structure SendRequest where
  sessionId : Option String
  content : String
  clientActionId : Option String := none
  multiAgentMode : Option String := none
  attachmentIds : List String := []
deriving DecidableEq

/-- The message that `send` submits. -/
structure WebMessage where
  requestId : String
  route : ChannelRoute
  content : String
  attachments : List ResolvedAttachment
  multiAgentMode : Option String
deriving DecidableEq

/-- Where the send that holds the lock is suspended. -/
inductive SendPoint where
  | routing
  | publishing (message : WebMessage)
  | submitting (message : WebMessage)
deriving DecidableEq

/-- The session id and the request id of an accepted action. -/
abbrev Receipt := String × String

/-- `_ACTION_RECEIPT_LIMIT`. -/
def actionReceiptLimit : Nat := 2048

/-- `parse_multi_agent_mode` accepts the value. -/
def validMode : Option String → Bool
  | none => true
  | some mode => mode = "auto" || mode = "off"

/-- The checks of `send` before it waits for the lock. -/
def checkSend (request : SendRequest) (closed : Bool) :
    Except String Unit :=
  if Text.strip request.content = "" ∧ request.attachmentIds = [] then
    .error "消息不能为空"
  else if closed then
    .error "Web Gateway 已关闭"
  else if validMode request.multiAgentMode then
    .ok ()
  else
    .error "multi_agent_mode 必须是 auto 或 off"

/-- The coordinator and the service, as far as sends use them. -/
structure AttachmentSends where
  service : WebAttachmentService
  acceptedActions : Dict String Receipt
  closed : Bool
  /-- the sends that wait for the lock -/
  waiting : List SendRequest
  /-- the send that holds the lock -/
  holder : Option (SendRequest × SendPoint)
  /-- the messages that were accepted -/
  accepted : List WebMessage

/-- How `submit` ends. -/
inductive SubmitOutcome where
  | accepted
  | refused
  | raised
deriving DecidableEq

/-- A step of the uploads and sends of the Web channel. -/
inductive SendLabel where
  | upload (owner : AttachmentOwner) (files : List Upload)
      (ids : List String) (ending : UploadEnding)
  | deleteSession (owner : AttachmentOwner)
  | call (request : SendRequest)
  /-- one of the waiting sends gets the lock -/
  | acquire (index : Nat)
  /-- the route is found; `requestId` is the drawn id -/
  | routed (route : ChannelRoute) (requestId : String)
  | published
  | submitted (outcome : SubmitOutcome)
  /-- the awaited call of the holder raises, or the holder is cancelled -/
  | raised
  /-- a waiting send is cancelled -/
  | abandoned (index : Nat)
  | close

namespace AttachmentSends

/-- `_remember_action_receipt`. -/
def rememberActionReceipt (actions : Dict String Receipt)
    (clientActionId : String) (receipt : Receipt) : Dict String Receipt :=
  let remembered := actions.insert clientActionId receipt
  let oldest :=
    remembered.keys.take (remembered.keys.length - actionReceiptLimit)
  remembered.filter fun key _ => key ∉ oldest

/-- `AttachmentOwner(route.principal_id, ...)`. -/
def ownerOf (route : ChannelRoute) : AttachmentOwner where
  principalId := route.principalId
  channel := route.channel
  conversationId := route.conversationId

/-- The receipt of an action that was accepted before. -/
def receipt? (state : AttachmentSends) (request : SendRequest) :
    Option Receipt :=
  match request.clientActionId with
  | none => none
  | some action => if action = "" then none else state.acceptedActions.get? action

/-- The attachments of a message; `started` tells that a service exists. -/
def resolveAttachments (tools : AttachmentTools) (started : Bool)
    (service : WebAttachmentService) (owner : AttachmentOwner)
    (ids : List String) : Except String (List ResolvedAttachment) :=
  if ids = [] then
    .ok []
  else if started then
    service.resolve tools owner ids
  else
    .error "Web 附件服务未启动"

/-- The send that holds the lock goes on after its route was found. -/
def route (tools : AttachmentTools) (started : Bool)
    (state : AttachmentSends) (request : SendRequest)
    (route : ChannelRoute) (requestId : String) : AttachmentSends :=
  match resolveAttachments tools started state.service (ownerOf route)
      request.attachmentIds with
  | .error _ => { state with holder := none }
  | .ok attachments =>
    { state with
      holder := some (request, .publishing
          { requestId
            route
            content := Text.strip request.content
            attachments
            multiAgentMode := request.multiAgentMode }) }

/-- The end of a send whose message was accepted. -/
def accept (state : AttachmentSends) (request : SendRequest)
    (message : WebMessage) : AttachmentSends :=
  { state with
    holder := none
    accepted := state.accepted ++ [message]
    acceptedActions :=
      match request.clientActionId with
      | none => state.acceptedActions
      | some action =>
        if action = "" then
          state.acceptedActions
        else
          rememberActionReceipt state.acceptedActions action
            (message.route.sessionId, message.requestId) }

/-- The ids of a batch are new, pairwise different and one for each file. -/
def FreshIds (service : WebAttachmentService) (files : List Upload) (ids : List String) : Prop :=
  ids.Nodup ∧ ids.length = files.length ∧ ∀ id ∈ ids, id ∉ service.keys.map Prod.snd

instance (service : WebAttachmentService) (files : List Upload)
    (ids : List String) : Decidable (FreshIds service files ids) :=
  inferInstanceAs (Decidable (_ ∧ _ ∧ _))

/-- One step. -/
def step (tools : AttachmentTools) (started : Bool)
    (state : AttachmentSends) : SendLabel → Option AttachmentSends
  | .upload owner files ids ending =>
    if FreshIds state.service files ids then
      some { state with
        service := (state.service.uploadBatch tools owner files ids ending).2 }
    else
      none
  | .deleteSession owner =>
    some { state with service := state.service.deleteSession tools owner }
  | .call request =>
    match checkSend request state.closed with
    | .error _ => some state
    | .ok _ => some { state with waiting := state.waiting ++ [request] }
  | .acquire index =>
    match state.holder, state.waiting[index]? with
    | none, some request =>
      let left := { state with waiting := state.waiting.eraseIdx index }
      match state.receipt? request with
      | some _ => some left
      | none => some { left with holder := some (request, .routing) }
    | _, _ => none
  | .routed channelRoute requestId =>
    match state.holder with
    | some (request, .routing) =>
      some (state.route tools started request channelRoute requestId)
    | _ => none
  | .published =>
    match state.holder with
    | some (request, .publishing message) =>
      some { state with holder := some (request, .submitting message) }
    | _ => none
  | .submitted outcome =>
    match state.holder with
    | some (request, .submitting message) =>
      if outcome = .accepted then
        some (state.accept request message)
      else
        some { state with holder := none }
    | _ => none
  | .raised =>
    if state.holder.isSome then some { state with holder := none } else none
  | .abandoned index =>
    some { state with waiting := state.waiting.eraseIdx index }
  | .close => some { state with closed := true }

/-- A coordinator that was just built, above any directory. -/
def initial (service : WebAttachmentService) : AttachmentSends where
  service := service
  acceptedActions := .empty
  closed := false
  waiting := []
  holder := none
  accepted := []

end AttachmentSends

/-- Uploads and sends, from an empty directory on. -/
def attachmentSends (tools : AttachmentTools) (started : Bool) :
    Machine AttachmentSends SendLabel where
  initial state := state = AttachmentSends.initial .empty
  step := AttachmentSends.step tools started

/--
At most five documents, at most five images, at most 100 MB in total, and no
attachment twice.
-/
structure WithinLimits (attachments : List ResolvedAttachment) : Prop where
  documents : (attachments.countP fun item => item.metadata.source = "document") ≤ maxDocuments
  images : (attachments.countP fun item => item.metadata.source = "image") ≤ maxImages
  bytes : (attachments.map fun item => item.metadata.sizeBytes).sum ≤ maxBatchBytes
  once : (attachments.map fun item => item.metadata.attachmentId).Nodup

namespace WebAttachmentService

/-- The stored file as a file of a batch. -/
def asUpload (item : StoredAttachment) : Upload where
  filename := item.metadata.filename
  contentType := none
  raw := item.content

/-- The stored files that the ids name. -/
def named (service : WebAttachmentService) (tools : AttachmentTools)
    (owner : AttachmentOwner) (ids : List String) : List StoredAttachment :=
  ids.filterMap (service.find? tools owner)

/--
The files that the ids name would pass `validate_batch` as one batch, and no
id is repeated.
-/
def OneBatch (service : WebAttachmentService) (tools : AttachmentTools)
    (owner : AttachmentOwner) (ids : List String) : Prop :=
  ids.Nodup ∧ validateBatch ((service.named tools owner ids).map asUpload) = .ok ()

instance (service : WebAttachmentService) (tools : AttachmentTools)
    (owner : AttachmentOwner) (ids : List String) :
    Decidable (service.OneBatch tools owner ids) :=
  inferInstanceAs (Decidable (_ ∧ _))

/-! ## What the directory holds -/

/-- A stored file was classified, and its manifest describes its content. -/
structure Stored (tools : AttachmentTools) (id : String)
    (item : StoredAttachment) : Prop where
  sameId : item.metadata.attachmentId = id
  classified : ∃ contentType, classifyUpload tools item.metadata.filename contentType item.content =
        .ok (item.metadata.source, item.metadata.mimeType)
  size : item.metadata.sizeBytes = item.content.length

theorem Stored.document_iff
    {tools : AttachmentTools} {id : String} {item : StoredAttachment}
    (stored : Stored tools id item) :
    decide (item.metadata.source = "document") = true ↔
      isDocumentName item.metadata.filename = true := by
  rcases stored.classified with ⟨_, classified⟩
  exact decide_eq_true_iff.trans (classifyUpload_source classified).1

theorem Stored.image_iff
    {tools : AttachmentTools} {id : String} {item : StoredAttachment}
    (stored : Stored tools id item) :
    decide (item.metadata.source = "image") = true ↔
      isImageName item.metadata.filename = true := by
  rcases stored.classified with ⟨_, classified⟩
  exact decide_eq_true_iff.trans (classifyUpload_source classified).2

/-- Every file of the directory is stored as `upload_batch` stores it. -/
def Sound (service : WebAttachmentService) (tools : AttachmentTools) :
    Prop :=
  ∀ key item, service.get? key = some item → Stored tools key.2 item

section Directory

variable
    {tools : AttachmentTools}
    {service : WebAttachmentService}

variable {owner : AttachmentOwner} {ids : List String} {item : StoredAttachment}

theorem stored_of_staged {uploads : List Upload}
    {classifications : List (String × String)}
    (classified : classifyAll tools uploads = .ok classifications)
    (staged : item ∈ stageAll tools owner uploads classifications ids) :
    Stored tools item.metadata.attachmentId item := by
  induction uploads generalizing classifications ids with
  | nil => simp only [stageAll, List.not_mem_nil] at staged
  | cons upload rest induction =>
    simp only [classifyAll] at classified
    cases first : classifyUpload tools upload.filename upload.contentType
        upload.raw with
    | error text =>
      simp only [first, Except.bind, reduceCtorEq] at classified
    | ok classification =>
      cases others : classifyAll tools rest with
      | error text =>
        simp only [first, others, Except.bind, Except.map,
          reduceCtorEq] at classified
      | ok more =>
        simp only [first, others, Except.bind, Except.map,
          Except.ok.injEq] at classified
        subst classified
        cases ids with
        | nil => simp only [stageAll, List.not_mem_nil] at staged
        | cons id ids =>
          rcases List.mem_cons.mp staged with rfl | later
          · exact ⟨rfl, ⟨upload.contentType, first⟩, rfl⟩
          · exact induction others later

theorem Sound.moveAll (sound : service.Sound tools) (scope : String)
    {staged : List StoredAttachment}
    (stored : ∀ item ∈ staged, Stored tools item.metadata.attachmentId item) :
    (service.moveAll scope staged).Sound tools := by
  induction staged generalizing service with
  | nil => exact sound
  | cons first rest induction =>
    apply induction
    · intro key item found
      rw [Dict.get?_insert] at found
      split at found
      · next same =>
          cases found
          rw [same]
          exact stored first (List.mem_cons_self ..)
      · exact sound key item found
    · intro item member
      exact stored item (List.mem_cons_of_mem _ member)

theorem Sound.uploadBatch (sound : service.Sound tools) (owner : AttachmentOwner)
    (files : List Upload) (ids : List String) (ending : UploadEnding) :
    (service.uploadBatch tools owner files ids ending).2.Sound tools := by
  simp only [WebAttachmentService.uploadBatch]
  split
  · exact sound
  · split
    · exact sound
    · next classifications classified =>
        have stored :
            ∀ item ∈ stageAll tools owner (files.map fun file =>
                  { file with filename := pathName file.filename })
                classifications ids,
              Stored tools item.metadata.attachmentId item :=
          fun item member => stored_of_staged classified member
        cases ending with
        | finished => exact sound.moveAll _ stored
        | failed text => exact sound
        | died moved =>
          exact sound.moveAll _ fun item member =>
            stored item (List.mem_of_mem_take member)

theorem Sound.deleteSession (sound : service.Sound tools) (owner : AttachmentOwner) :
    (service.deleteSession tools owner).Sound tools := by
  intro key item found
  rw [WebAttachmentService.deleteSession, Dict.get?_filter, Option.filter_eq_some_iff] at found
  exact sound key item found.1

theorem Sound.find (sound : service.Sound tools) {id : String}
    (found : service.find? tools owner id = some item) :
    Stored tools id item := by
  simp only [find?] at found
  split at found
  · split at found
    · contradiction
    · next stored held =>
        split at found
        · contradiction
        · cases found
          exact sound _ _ held
  · contradiction

theorem resolve_named {resolved : List ResolvedAttachment}
    (ended : service.resolve tools owner ids = .ok resolved) :
    resolved.map (·.metadata) = (service.named tools owner ids).map (·.metadata) ∧
      List.Forall₂ (fun id item => service.find? tools owner id = some item)
        ids (service.named tools owner ids) := by
  induction ids generalizing resolved with
  | nil =>
    cases ended
    exact ⟨rfl, .nil⟩
  | cons id rest induction =>
    simp only [resolve] at ended
    cases found : service.find? tools owner id with
    | none => simp only [found, reduceCtorEq] at ended
    | some item =>
      cases others : service.resolve tools owner rest with
      | error text => simp only [found, others, reduceCtorEq] at ended
      | ok more =>
        simp only [found, others, Except.ok.injEq] at ended
        rcases induction others with ⟨metadata, each⟩
        have all : service.named tools owner (id :: rest) =
            item :: service.named tools owner rest :=
          List.filterMap_cons_some found
        subst ended
        rw [all]
        exact ⟨by rw [List.map_cons, List.map_cons, metadata],
          .cons found each⟩

theorem Sound.named_ids (sound : service.Sound tools)
    {items : List StoredAttachment} (each :
      List.Forall₂ (fun id item => service.find? tools owner id = some item) ids items) :
    items.map (fun item => item.metadata.attachmentId) = ids := by
  induction each with
  | nil => rfl
  | cons found _ induction =>
    rw [List.map_cons, induction, (sound.find found).sameId]

theorem Sound.named_stored (sound : service.Sound tools)
    (member : item ∈ service.named tools owner ids) :
    ∃ id, Stored tools id item := by
  rcases List.mem_filterMap.mp member with ⟨id, _, found⟩
  exact ⟨id, sound.find found⟩

theorem Sound.resolve_withinLimits_iff (sound : service.Sound tools)
    {resolved : List ResolvedAttachment}
    (ended : service.resolve tools owner ids = .ok resolved) :
    WithinLimits resolved ↔ service.OneBatch tools owner ids := by
  rcases resolve_named ended with ⟨metadata, each⟩
  have count (test : AttachmentMetadata → Bool) :
      resolved.countP (fun item => test item.metadata) = (service.named tools owner ids).countP
          fun item => test item.metadata := by
    have counted := congrArg (List.countP test) metadata
    rwa [List.countP_map, List.countP_map] at counted
  have sizes :
      (resolved.map fun item => item.metadata.sizeBytes) = (service.named tools owner ids).map
          fun item => item.metadata.sizeBytes := by
    have listed :=
      congrArg (List.map AttachmentMetadata.sizeBytes) metadata
    rwa [List.map_map, List.map_map] at listed
  have listedIds :
      (resolved.map fun item => item.metadata.attachmentId) = ids := by
    have listed :=
      congrArg (List.map AttachmentMetadata.attachmentId) metadata
    rw [List.map_map, List.map_map] at listed
    exact listed.trans (sound.named_ids each)
  have documents :
      resolved.countP (fun item => item.metadata.source = "document") =
        ((service.named tools owner ids).map asUpload).countP
          fun item => isDocumentName item.filename := by
    rw [count fun item => item.source = "document", List.countP_map]
    apply List.countP_congr
    intro item member
    rcases sound.named_stored member with ⟨id, stored⟩
    simp only [Function.comp_apply, asUpload, stored.document_iff]
  have images :
      resolved.countP (fun item => item.metadata.source = "image") =
        ((service.named tools owner ids).map asUpload).countP
          fun item => isImageName item.filename := by
    rw [count fun item => item.source = "image", List.countP_map]
    apply List.countP_congr
    intro item member
    rcases sound.named_stored member with ⟨id, stored⟩
    simp only [Function.comp_apply, asUpload, stored.image_iff]
  have bytes :
      (resolved.map fun item => item.metadata.sizeBytes) =
        ((service.named tools owner ids).map asUpload).map
          fun item => item.raw.length := by
    rw [sizes, List.map_map]
    refine List.map_congr_left fun item member => ?_
    rcases sound.named_stored member with ⟨id, stored⟩
    exact stored.size
  constructor
  · intro limits
    refine ⟨listedIds ▸ limits.once, (validateBatch_iff _).mpr ⟨?_, ?_, ?_⟩⟩
    · rw [← documents]
      exact limits.documents
    · rw [← images]
      exact limits.images
    · rw [← bytes]
      exact limits.bytes
  · rintro ⟨once, passes⟩
    rcases (validateBatch_iff _).mp passes with ⟨fewDocuments, fewImages, fewBytes⟩
    constructor
    · rw [documents]
      exact fewDocuments
    · rw [images]
      exact fewImages
    · rw [bytes]
      exact fewBytes
    · rw [listedIds]
      exact once

end Directory

end WebAttachmentService

/-! ## The runs -/

namespace AttachmentSends

variable {tools : AttachmentTools}

/--
The condition of a step: where a send resolves its ids and all of them name
files of the owner, they would pass as one batch and none is repeated.
-/
def Composed (tools : AttachmentTools) (started : Bool) (state : AttachmentSends) : SendLabel → Prop
  | .routed route _ =>
    match state.holder with
    | some (request, .routing) =>
      started = true →
      (∀ id ∈ request.attachmentIds, (state.service.find? tools (ownerOf route) id).isSome) →
      state.service.OneBatch tools (ownerOf route) request.attachmentIds
    | _ => True
  | _ => True

instance (tools : AttachmentTools) (started : Bool) (state : AttachmentSends) (label : SendLabel) :
    Decidable (Composed tools started state label) :=
  match label, state with
  | .routed route _, ⟨service, _, _, _, some (request, .routing), _⟩ =>
    inferInstanceAs (Decidable (started = true → (∀ id ∈ request.attachmentIds,
        (service.find? tools (ownerOf route) id).isSome) →
      service.OneBatch tools (ownerOf route) request.attachmentIds))
  | .routed _ _, ⟨_, _, _, _, none, _⟩ => .isTrue trivial
  | .routed _ _, ⟨_, _, _, _, some (_, .publishing _), _⟩ => .isTrue trivial
  | .routed _ _, ⟨_, _, _, _, some (_, .submitting _), _⟩ => .isTrue trivial
  | .upload _ _ _ _, _ | .deleteSession _, _ | .call _, _ | .acquire _, _
  | .published, _ | .submitted _, _ | .raised, _ | .abandoned _, _
  | .close, _ => .isTrue trivial

/-- The message that the holder of the lock is about to submit. -/
def pending (state : AttachmentSends) : Option WebMessage :=
  match state.holder with
  | some (_, .publishing message) => some message
  | some (_, .submitting message) => some message
  | _ => none

/-- The directory is sound, and every message keeps the limits. -/
structure Limited (tools : AttachmentTools) (state : AttachmentSends) :
    Prop where
  service : state.service.Sound tools
  pending : ∀ message ∈ state.pending, WithinLimits message.attachments
  accepted : ∀ message ∈ state.accepted, WithinLimits message.attachments

theorem withinLimits_nil : WithinLimits [] where
  documents := Nat.zero_le _
  images := Nat.zero_le _
  bytes := Nat.zero_le _
  once := .nil

theorem found_of_resolve {service : WebAttachmentService}
    {owner : AttachmentOwner} {ids : List String}
    {resolved : List ResolvedAttachment}
    (ended : service.resolve tools owner ids = .ok resolved) :
    ∀ id ∈ ids, (service.find? tools owner id).isSome := by
  intro id member
  have each := (WebAttachmentService.resolve_named ended).2
  have bound := each.length_eq
  rcases List.getElem_of_mem member with ⟨index, inside, rfl⟩
  have found := each.get inside (bound ▸ inside)
  rw [List.get_eq_getElem] at found
  rw [found]
  rfl

theorem Limited.route {started : Bool} {state : AttachmentSends}
    (limited : state.Limited tools) {request : SendRequest}
    {route : ChannelRoute} {requestId : String} (composed :
      started = true →
      (∀ id ∈ request.attachmentIds, (state.service.find? tools (ownerOf route) id).isSome) →
      state.service.OneBatch tools (ownerOf route) request.attachmentIds) :
    (state.route tools started request route requestId).Limited tools := by
  simp only [AttachmentSends.route]
  cases resolved : resolveAttachments tools started state.service
      (ownerOf route) request.attachmentIds with
  | error text => exact ⟨limited.service, nofun, limited.accepted⟩
  | ok attachments =>
    refine ⟨limited.service, ?_, limited.accepted⟩
    intro message same
    cases same
    simp only [resolveAttachments] at resolved
    split_ifs at resolved with empty on
    · cases resolved
      exact withinLimits_nil
    · exact (limited.service.resolve_withinLimits_iff resolved).mpr
        (composed on (found_of_resolve resolved))

theorem Limited.next {started : Bool} {state target : AttachmentSends}
    {label : SendLabel} (limited : state.Limited tools)
    (composed : Composed tools started state label)
    (stepped : step tools started state label = some target) :
    target.Limited tools := by
  cases label with
  | upload owner files ids ending =>
    simp only [step] at stepped
    split_ifs at stepped
    cases stepped
    exact ⟨limited.service.uploadBatch owner files ids ending, limited.pending, limited.accepted⟩
  | deleteSession owner =>
    cases stepped
    exact ⟨limited.service.deleteSession owner, limited.pending, limited.accepted⟩
  | call request =>
    simp only [step] at stepped
    split at stepped
    · cases stepped
      exact limited
    · cases stepped
      exact ⟨limited.service, limited.pending, limited.accepted⟩
  | acquire index =>
    simp only [step] at stepped
    split at stepped
    · next free found =>
        split at stepped
        · cases stepped
          exact ⟨limited.service, limited.pending, limited.accepted⟩
        · cases stepped
          exact ⟨limited.service, nofun, limited.accepted⟩
    · contradiction
  | routed channelRoute requestId =>
    simp only [step] at stepped
    split at stepped
    · next request held =>
        cases stepped
        simp only [Composed, held] at composed
        exact limited.route composed
    · contradiction
  | published =>
    simp only [step] at stepped
    split at stepped
    · next request message held =>
        cases stepped
        refine ⟨limited.service, ?_, limited.accepted⟩
        intro other same
        cases same
        exact limited.pending message (by simp only [AttachmentSends.pending, held]; rfl)
    · contradiction
  | submitted outcome =>
    simp only [step] at stepped
    split at stepped
    · next request message held =>
        split_ifs at stepped
        · cases stepped
          refine ⟨limited.service, nofun, ?_⟩
          intro other member
          rcases List.mem_append.mp member with earlier | last
          · exact limited.accepted other earlier
          · rw [List.mem_singleton.mp last]
            exact limited.pending message
              (by simp only [AttachmentSends.pending, held]; rfl)
        · cases stepped
          exact ⟨limited.service, nofun, limited.accepted⟩
    · contradiction
  | raised =>
    simp only [step] at stepped
    split_ifs at stepped
    cases stepped
    exact ⟨limited.service, nofun, limited.accepted⟩
  | abandoned index =>
    cases stepped
    exact ⟨limited.service, limited.pending, limited.accepted⟩
  | close =>
    cases stepped
    exact ⟨limited.service, limited.pending, limited.accepted⟩

/--
In every run in which the ids of a send would pass as one batch, every
accepted message keeps the limits.
-/
theorem attachmentRuns_withinLimits
    (tools : AttachmentTools) (started : Bool) {state : AttachmentSends}
    (reached : (attachmentSends tools started).Reaches (Composed tools started) state) :
    ∀ message ∈ state.accepted, WithinLimits message.attachments := by
  have limited : state.Limited tools := by
    refine reached.invariant ?_ ?_
    · rintro _ rfl
      exact ⟨nofun, nofun, nofun⟩
    · intro before label target _ kept composed stepped
      exact kept.next composed stepped
  exact limited.accepted

/-- Directories named after the principal; no archives. -/
def sampleTools : AttachmentTools where
  scope owner := owner.principalId
  digest _ := ""
  zipNames _ := .error .badZipFile

/-- A note of one byte. -/
def sampleNote : Upload where
  filename := "note.txt"
  contentType := some "text/plain"
  raw := [65]

def sampleRoute : ChannelRoute where
  principalId := "owner"
  channel := "web"
  conversationId := "talk"
  sessionId := "session"

/-- Two uploads, and a message that names `ids`. -/
def sampleSend (ids : List String) : List SendLabel :=
  [.upload (ownerOf sampleRoute) [sampleNote] ["att_a"] .finished,
    .upload (ownerOf sampleRoute) [sampleNote] ["att_b"] .finished,
    .call { sessionId := some "session", content := "hi",
            attachmentIds := ids },
    .acquire 0, .routed sampleRoute "request", .published,
    .submitted .accepted]

theorem attachmentRuns_withinLimits_sample : ∃ state,
      (attachmentSends sampleTools true).Reaches (Composed sampleTools true) state ∧
      (∀ message ∈ state.accepted, WithinLimits message.attachments) ∧
      (state.accepted.map fun message => message.attachments.length) = [2] := by
  have evaluated :
      (attachmentSends sampleTools true).runGuarded (Composed sampleTools true) (initial .empty)
        (sampleSend ["att_a", "att_b"]) = some _ := rfl
  have reached := Machine.Reaches.runGuarded (.start rfl) evaluated
  exact ⟨_, reached, attachmentRuns_withinLimits sampleTools true reached, rfl⟩

/-- One file six times: six documents, and an attachment twice. -/
theorem attachments_not_limited : ¬ ∀ (tools : AttachmentTools) (started : Bool)
      (state : AttachmentSends),
      (attachmentSends tools started).Reachable state →
      ∀ message ∈ state.accepted,
        WithinLimits message.attachments := by
  intro limited
  have evaluated :
      (attachmentSends sampleTools true).run (initial .empty)
        (sampleSend (List.replicate 6 "att_a")) = some _ := rfl
  have limits :=
    limited sampleTools true _ (Machine.Reachable.run (.start rfl) evaluated)
      _ (List.mem_singleton.mpr rfl)
  exact absurd limits.documents (by decide)

end AttachmentSends

end TurningGood.Web
