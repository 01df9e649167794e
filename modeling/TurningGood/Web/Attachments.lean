import Mathlib.Algebra.GroupWithZero.Nat
import Mathlib.Tactic.SplitIfs
import TurningGood.Foundation.Dict
import TurningGood.Foundation.Text

/-!
# Attachments of Web messages

Files are uploaded in batches.  A batch is checked as a whole, every file of
it is classified, and its files are then stored under fresh ids in the
private directory of the owner.  A message names stored files by their ids.

The directory names of the owners, the digests and the listing of a ZIP
archive are parameters.
-/

namespace TurningGood.Web

open TurningGood.Foundation

/-! ## File names -/

/-- `Path(filename).name`: the last part of the path that is a name. -/
def pathName (filename : String) : String :=
  let parts := (filename.toList.splitOn '/').filter fun part =>
    part ≠ [] ∧ part ≠ ['.']
  String.ofList (parts.getLast?.getD [])

/-- `Path(filename).suffix.lower()`. -/
def suffix (filename : String) : String :=
  let name := (pathName filename).toList
  let extension := (name.reverse.takeWhile (· ≠ '.')).reverse
  if '.' ∈ name ∧ extension ≠ [] ∧ extension.length + 1 < name.length then
    Text.lower (String.ofList ('.' :: extension))
  else
    ""

/-- `DOCUMENT_EXTENSIONS`. -/
def documentExtensions : List (String × String) :=
  [(".pdf", "application/pdf"),
    (".docx",
      "application/vnd.openxmlformats-officedocument" ++
        ".wordprocessingml.document"),
    (".xlsx",
      "application/vnd.openxmlformats-officedocument" ++
        ".spreadsheetml.sheet"),
    (".pptx",
      "application/vnd.openxmlformats-officedocument" ++
        ".presentationml.presentation"),
    (".txt", "text/plain"),
    (".md", "text/markdown"),
    (".csv", "text/csv"),
    (".json", "application/json")]

/-- `IMAGE_EXTENSIONS`. -/
def imageExtensions : List (String × String) :=
  [(".png", "image/png"), (".jpg", "image/jpeg"), (".jpeg", "image/jpeg"),
    (".webp", "image/webp")]

/-- `suffix in DOCUMENT_EXTENSIONS`. -/
def isDocumentName (filename : String) : Bool :=
  (documentExtensions.lookup (suffix filename)).isSome

/-- `suffix in IMAGE_EXTENSIONS`. -/
def isImageName (filename : String) : Bool :=
  (imageExtensions.lookup (suffix filename)).isSome

/-- `MAX_DOCUMENT_BYTES`. -/
def maxDocumentBytes : Nat := 50 * 1024 * 1024

/-- `MAX_IMAGE_BYTES`. -/
def maxImageBytes : Nat := 10 * 1024 * 1024

/-- `MAX_BATCH_BYTES`. -/
def maxBatchBytes : Nat := 100 * 1024 * 1024

/-- `MAX_DOCUMENTS`. -/
def maxDocuments : Nat := 5

/-- `MAX_IMAGES`. -/
def maxImages : Nat := 5

/-! ## Classification of a file -/

abbrev Bytes := List UInt8

/-- How the listing of an archive fails. -/
inductive ZipFailure where
  | badZipFile
  /-- an exception of `zipfile` that is not caught -/
  | other (text : String)
deriving DecidableEq

/-- `AttachmentOwner`. -/
structure AttachmentOwner where
  principalId : String
  channel : String
  conversationId : String
deriving DecidableEq

/-- The names of directories, digests and archives. -/
structure AttachmentTools where
  /-- `_scope` -/
  scope : AttachmentOwner → String
  /-- `hashlib.sha256(raw).hexdigest()` -/
  digest : Bytes → String
  /-- the names in `ZipFile(BytesIO(raw)).infolist()` -/
  zipNames : Bytes → Except ZipFailure (List String)

/-- `_magic_mime`. -/
def magicMime (header : Bytes) : Option String :=
  if [0x25, 0x50, 0x44, 0x46, 0x2D].isPrefixOf header then
    some "application/pdf"
  else if
      [0x89, 0x50, 0x4E, 0x47, 0x0D, 0x0A, 0x1A, 0x0A].isPrefixOf header then
    some "image/png"
  else if [0xFF, 0xD8, 0xFF].isPrefixOf header then
    some "image/jpeg"
  else if
      [0x52, 0x49, 0x46, 0x46].isPrefixOf header ∧
        (header.drop 8).take 4 = [0x57, 0x45, 0x42, 0x50] then
    some "image/webp"
  else if [0x50, 0x4B, 0x03, 0x04].isPrefixOf header then
    some "application/zip"
  else
    none

/-- The suffixes of Office documents, with the directory of each format. -/
def officePrefixes : List (String × String) :=
  [(".docx", "word/"), (".xlsx", "xl/"), (".pptx", "ppt/")]

/-- `_validate_ooxml`, for the directory that the suffix expects. -/
def validateOoxml (tools : AttachmentTools) (raw : Bytes)
    (expectedPrefix : String) : Except String Unit :=
  match tools.zipNames raw with
  | .error .badZipFile => .error "Office 文档文件签名无效"
  | .error (.other text) => .error text
  | .ok names =>
    if "[Content_Types].xml" ∉ names ∨
        ¬ names.any
          (fun name => expectedPrefix.toList.isPrefixOf name.toList) then
      .error "Office 文档内容与扩展名不一致"
    else
      .ok ()

/-- The checks of an Office document, and none for other suffixes. -/
def validateOffice (tools : AttachmentTools) (raw : Bytes)
    (fileSuffix : String) (detected : Option String) : Except String Unit :=
  match officePrefixes.lookup fileSuffix with
  | none => .ok ()
  | some expectedPrefix =>
    if detected ≠ some "application/zip" then
      .error "Office 文档文件签名无效"
    else
      validateOoxml tools raw expectedPrefix

/-- `(content_type or "").split(";", 1)[0].strip().lower()`. -/
def declaredMime (contentType : Option String) : String :=
  Text.lower (Text.strip (String.ofList
    ((contentType.getD "").toList.takeWhile (· ≠ ';'))))

/-- `allowed_declared`. -/
def allowedDeclared (fileSuffix expected : String) : List String :=
  [expected, "application/octet-stream", ""] ++
    (if fileSuffix ∈ [".docx", ".xlsx", ".pptx"] then
      ["application/zip"] else []) ++
    (if fileSuffix ∈ [".txt", ".md", ".csv", ".json"] then
      ["text/plain", "text/markdown", "text/csv", "application/json"]
    else [])

/-- The checks of `classify_upload` on a file of a known suffix. -/
def checkUpload (tools : AttachmentTools) (filename : String)
    (contentType : Option String) (raw : Bytes) (expected : String) :
    Except String Unit :=
  if raw.length = 0 then
    .error "附件不能为空"
  else if isDocumentName filename ∧ raw.length > maxDocumentBytes then
    .error "单个文档不能超过 50 MB"
  else if isImageName filename ∧ raw.length > maxImageBytes then
    .error "单张图片不能超过 10 MB"
  else
    let detected := magicMime (raw.take 32)
    if isImageName filename ∧ detected ≠ some expected then
      .error "图片 MIME、扩展名或文件签名不一致"
    else if suffix filename = ".pdf" ∧ detected ≠ some expected then
      .error "PDF MIME、扩展名或文件签名不一致"
    else
      match validateOffice tools raw (suffix filename) detected with
      | .error text => .error text
      | .ok _ =>
        if declaredMime contentType ∉
            allowedDeclared (suffix filename) expected then
          .error "附件 MIME 与扩展名不一致"
        else
          .ok ()

/-- The MIME type that the suffix expects. -/
def expectedMime (filename : String) : Option String :=
  (documentExtensions.lookup (suffix filename)).or
    (imageExtensions.lookup (suffix filename))

/-- `classify_upload`: the source and the MIME type of an accepted file. -/
def classifyUpload (tools : AttachmentTools) (filename : String)
    (contentType : Option String) (raw : Bytes) :
    Except String (String × String) :=
  match expectedMime filename with
  | none => .error "不支持的附件格式"
  | some expected =>
    match checkUpload tools filename contentType raw expected with
    | .error text => .error text
    | .ok _ =>
      if isImageName filename then
        .ok ("image", expected)
      else
        .ok ("document", expected)

theorem expectedMime_known {filename expected : String}
    (known : expectedMime filename = some expected) :
    isDocumentName filename ∨ isImageName filename := by
  simp only [isDocumentName, isImageName]
  cases document : documentExtensions.lookup (suffix filename) with
  | some _ => exact Or.inl rfl
  | none =>
    rw [expectedMime, document, Option.none_or] at known
    rw [known]
    exact Or.inr rfl

theorem not_document_and_image (filename : String) :
    ¬ (isDocumentName filename ∧ isImageName filename) := by
  rintro ⟨document, image⟩
  simp only [isDocumentName, isImageName, List.lookup_isSome_iff] at *
  rcases document with ⟨entry, listed, same⟩
  rcases image with ⟨other, otherListed, otherSame⟩
  have equal : entry.1 = other.1 :=
    (eq_of_beq same).symm.trans (eq_of_beq otherSame)
  simp only [documentExtensions, imageExtensions, List.mem_cons,
    List.not_mem_nil, or_false] at listed otherListed
  rcases listed with rfl | rfl | rfl | rfl | rfl | rfl | rfl | rfl <;>
    rcases otherListed with rfl | rfl | rfl | rfl <;>
    exact absurd equal (by decide)

theorem classifyUpload_source
    {tools : AttachmentTools} {filename : String}
    {contentType : Option String} {raw : Bytes} {source mimeType : String}
    (classified : classifyUpload tools filename contentType raw = .ok (source, mimeType)) :
    (source = "document" ↔ isDocumentName filename) ∧
      (source = "image" ↔ isImageName filename) := by
  have apart := not_document_and_image filename
  unfold classifyUpload at classified
  cases known : expectedMime filename with
  | none => simp only [known, reduceCtorEq] at classified
  | some expected =>
    simp only [known] at classified
    cases checked : checkUpload tools filename contentType raw expected with
    | error text => simp only [checked, reduceCtorEq] at classified
    | ok done =>
      simp only [checked] at classified
      by_cases image : isImageName filename = true
      · rw [if_pos image, Except.ok.injEq, Prod.mk.injEq] at classified
        have noDocument : ¬ isDocumentName filename = true :=
          fun document => apart ⟨document, image⟩
        simp only [← classified.1, image, noDocument, reduceCtorEq, String.reduceEq]
        trivial
      · rw [if_neg image, Except.ok.injEq, Prod.mk.injEq] at classified
        have document : isDocumentName filename = true :=
          (expectedMime_known known).resolve_right image
        simp only [← classified.1, image, document, reduceCtorEq, String.reduceEq]
        trivial

/-- A file of a batch: its name, the declared type and its bytes. -/
structure Upload where
  filename : String
  contentType : Option String
  raw : Bytes

/-- `validate_batch`. -/
def validateBatch (items : List Upload) : Except String Unit :=
  let documents := items.countP fun item => isDocumentName item.filename
  let images := items.countP fun item => isImageName item.filename
  if documents > maxDocuments then
    .error "单条消息最多上传 5 个文档"
  else if images > maxImages then
    .error "单条消息最多上传 5 张图片"
  else if (items.map fun item => item.raw.length).sum > maxBatchBytes then
    .error "单条消息附件总大小不能超过 100 MB"
  else
    .ok ()

theorem validateBatch_iff (items : List Upload) : validateBatch items = .ok () ↔
      (items.countP fun item => isDocumentName item.filename) ≤ maxDocuments ∧
        (items.countP fun item => isImageName item.filename) ≤ maxImages ∧
        (items.map fun item => item.raw.length).sum ≤ maxBatchBytes := by
  simp only [validateBatch]
  split_ifs with documents images bytes
  · exact iff_of_false (by simp) fun fits => by omega
  · exact iff_of_false (by simp) fun fits => by omega
  · exact iff_of_false (by simp) fun fits => by omega
  · exact iff_of_true rfl ⟨by omega, by omega, by omega⟩

/-! ## The stored files -/

/-- `AttachmentMetadata`. -/
structure AttachmentMetadata where
  attachmentId : String
  source : String
  filename : String
  mimeType : String
  sizeBytes : Nat
  processing : String := "ready"
  textChars : Option Nat := none
  truncated : Bool := false
  error : Option String := none
deriving DecidableEq

/-- The directory of one file: its manifest and its content. -/
structure StoredAttachment where
  owner : AttachmentOwner
  metadata : AttachmentMetadata
  digest : String
  content : Bytes

/-- `WebAttachmentService`: the directories below `web-attachments`. -/
abbrev WebAttachmentService := Dict (String × String) StoredAttachment

/-- `ResolvedAttachment`; the path is that of the content. -/
structure ResolvedAttachment where
  metadata : AttachmentMetadata
  path : String × String
  digest : String
  owner : AttachmentOwner
deriving DecidableEq

/-- The staged directories of a batch, under the ids that were drawn. -/
def stageAll (tools : AttachmentTools) (owner : AttachmentOwner) :
    List Upload → List (String × String) → List String →
      List StoredAttachment
  | upload :: uploads, (source, mimeType) :: classifications, id :: ids =>
    { owner
      metadata :=
        { attachmentId := id, source, filename := upload.filename,
          mimeType, sizeBytes := upload.raw.length }
      digest := tools.digest upload.raw
      content := upload.raw } ::
      stageAll tools owner uploads classifications ids
  | _, _, _ => []

/-- `[classify_upload(...) for ...]`. -/
def classifyAll (tools : AttachmentTools) :
    List Upload → Except String (List (String × String))
  | [] => .ok []
  | upload :: rest =>
    (classifyUpload tools upload.filename upload.contentType
      upload.raw).bind fun classification =>
        (classifyAll tools rest).map (classification :: ·)

/-- How the writes of a batch end. -/
inductive UploadEnding where
  | finished
  /-- a write fails, and what was moved is removed again -/
  | failed (text : String)
  /-- the process dies when so many directories are moved -/
  | died (moved : Nat)

namespace WebAttachmentService

/-- Move staged directories into the directory of the owner. -/
def moveAll (service : WebAttachmentService) (scope : String)
    (staged : List StoredAttachment) : WebAttachmentService :=
  staged.foldl
    (fun moved item =>
      moved.insert (scope, item.metadata.attachmentId) item)
    service

/-- `upload_batch`, for files that were read; `ids` are the drawn ids. -/
def uploadBatch (service : WebAttachmentService) (tools : AttachmentTools)
    (owner : AttachmentOwner) (files : List Upload) (ids : List String)
    (ending : UploadEnding) :
    Except String (List AttachmentMetadata) × WebAttachmentService :=
  let uploads := files.map fun file =>
    { file with filename := pathName file.filename }
  match validateBatch uploads with
  | .error text => (.error text, service)
  | .ok _ =>
    match classifyAll tools uploads with
    | .error text => (.error text, service)
    | .ok classifications =>
      let staged := stageAll tools owner uploads classifications ids
      match ending with
      | .finished =>
        (.ok (staged.map (·.metadata)),
          service.moveAll (tools.scope owner) staged)
      | .failed text => (.error text, service)
      | .died moved =>
        (.error "",
          service.moveAll (tools.scope owner) (staged.take moved))

/-- The check of an id in `resolve`. -/
def validId (id : String) : Bool :=
  "att_".toList.isPrefixOf id.toList && '/' ∉ id.toList && '\\' ∉ id.toList

/-- The stored file of an owner that an id names. -/
def find? (service : WebAttachmentService) (tools : AttachmentTools)
    (owner : AttachmentOwner) (id : String) : Option StoredAttachment :=
  if validId id then
    match service.get? (tools.scope owner, id) with
    | none => none
    | some item => if item.owner ≠ owner then none else some item
  else
    none

/-- `resolve`. -/
def resolve (service : WebAttachmentService) (tools : AttachmentTools)
    (owner : AttachmentOwner) :
    List String → Except String (List ResolvedAttachment)
  | [] => .ok []
  | id :: rest =>
    match service.find? tools owner id with
    | none => .error "附件不存在"
    | some item =>
      match service.resolve tools owner rest with
      | .error text => .error text
      | .ok resolved =>
        .ok
          ({ metadata := item.metadata
             path := (tools.scope owner, id)
             digest := item.digest
             owner } :: resolved)

/-- `delete_session`. -/
def deleteSession (service : WebAttachmentService)
    (tools : AttachmentTools) (owner : AttachmentOwner) :
    WebAttachmentService :=
  service.filter fun key _ => key.1 ≠ tools.scope owner

end WebAttachmentService

end TurningGood.Web
