import CoreOps.Lib.Checked
import CoreOps.Marketing.Preflight

/-! The services that write publication packs and what a preflight looks at. A method
returns the state its transaction commits, or the exception it raises; ids of new rows,
the clock, what `slugify` makes of a title and the answers of storage and of validators
are arguments. -/

namespace CoreOps.Marketing

open Checked Text

section Rows

def State.modifyPack (s : State) (packId : ℕ) (f : MarketingPublicationPack → MarketingPublicationPack) : State :=
  { s with packs := s.packs.modify packId f }

def State.modifyMedia (s : State) (assetId : ℕ) (f : MarketingMediaAsset → MarketingMediaAsset) : State :=
  { s with media := s.media.modify assetId f }

variable (tenantId : ℕ)

def getPackOr404 (packId : ℕ) (s : State) : Except MarketingError MarketingPublicationPack :=
  orRaise (getPack s tenantId packId) (.notFound "Pack not found")

def getTopicOr404 (topicId : ℕ) (s : State) : Except MarketingError MarketingContentTopic :=
  orRaise (getTopic s tenantId topicId) (.notFound "Topic not found")

def getAssetOr404 (assetId : ℕ) (s : State) : Except MarketingError MarketingMediaAsset :=
  orRaise (getMediaAsset s tenantId assetId) (.notFound "Media asset not found")

/-- `reset_pack_after_content_change`. -/
def resetPackAfterContentChange (pack : MarketingPublicationPack) : MarketingPublicationPack :=
  if pack.status = .draft ∧ pack.preflightStatus = .notRun ∧ pack.approvalStatus = .draft then pack
  else
    { pack with
      approvalStatus := .draft
      preflightStatus := .notRun
      status := .draft
      approvedAt := none
      approvedByUserId := none
      preflightAt := none }

end Rows

section Create

variable (tenantId packId : ℕ)

def MarketingChannel.ofValue? (raw : String) : Option MarketingChannel :=
  defaultPackChannels.find? fun channel => channel.value = raw.toLower

def resolvePackChannels (topic : Option MarketingContentTopic) : List MarketingChannel :=
  let resolved := ((topic.map (·.recommendedChannels)).getD []).filterMap MarketingChannel.ofValue?
  if resolved = [] then defaultPackChannels else resolved

/-- `create_text` with an empty text, against `uq_marketing_text_pack_channel`. -/
def createText (s : State) (channel : MarketingChannel) : Except MarketingError State := do
  raiseIf ((s.texts.get? (packId, channel)).isSome) .integrityError
  return { s with texts := s.texts.insert (packId, channel) {
    tenantId := tenantId
    text := ""
    status := .draft
    version := 1
    charCount := 0 } }

def createDraftPackWithTexts (title slug : String) (plannedDate : ℤ) (topic : Option MarketingContentTopic)
    (topicId : Option ℕ) (s : State) : Except MarketingError State := do
  raiseIf ((s.packs.get? packId).isSome) .integrityError
  let s := { s with packs := s.packs.insert packId {
    tenantId := tenantId
    topicId := topicId
    slug := slug
    title := title
    plannedDate := plannedDate
    status := .draft
    preflightStatus := .notRun
    preflightAt := none
    approvalStatus := .draft
    approvedAt := none
    approvedByUserId := none } }
  (resolvePackChannels topic).foldlM (createText tenantId packId) s

structure PackCreate where
  title : String
  slug : Option String
  plannedDate : Option ℤ
  topicId : Option ℕ

/-- The topic a payload names, if it names one. -/
def linkedTopic (s : State) : Option ℕ → Except MarketingError (Option MarketingContentTopic)
  | none => return none
  | some topicId => do
    let topic ← getTopicOr404 tenantId topicId s
    return some topic

def createPack (today : ℤ) (slugified : String) (payload : PackCreate) (s : State) : Except MarketingError State := do
  let topic ← linkedTopic tenantId s payload.topicId
  let slug := orElse payload.slug slugified
  raiseIf ((getPackBySlug s tenantId slug).isSome) (.conflict "pack_slug_exists")
  createDraftPackWithTexts tenantId packId payload.title slug (payload.plannedDate.getD today) topic payload.topicId s

structure TakeTopicRequest where
  plannedDate : Option ℤ
  slug : Option String

def assertTakeAllowed (topicId : ℕ) (topic : MarketingContentTopic) (s : State) : Except MarketingError Unit := do
  raiseIf (topic.reusable = false ∧ 0 < topic.usedCount)
    (.conflict "topic_duplicate_blocked: topic already used and not reusable")
  let count := (listActivePacksForTopic s tenantId topicId).length
  raiseIf (0 < count ∧ topic.reusable = false)
    (.conflict s!"topic_duplicate_blocked: {count} active pack(s) exist for this topic")

/-- `take_topic`; a date shows as its day number. -/
def takeTopic (today : ℤ) (slugified : String) (topicId : ℕ) (payload : TakeTopicRequest) (s : State) :
    Except MarketingError State := do
  let topic ← getTopicOr404 tenantId topicId s
  raiseIf (topic.status ≠ .approved) (.conflict "topic_not_approved")
  assertTakeAllowed tenantId topicId topic s
  let plannedDate := payload.plannedDate.getD today
  let slug := orElse payload.slug (orElse topic.slugHint slugified)
  raiseIf ((getPackBySlug s tenantId slug).isSome) (.conflict "pack_slug_exists")
  raiseIf ((findPackForTopicDate s tenantId topicId plannedDate).isSome)
    (.conflict s!"topic_duplicate_blocked: pack already exists for topic on {plannedDate}")
  createDraftPackWithTexts tenantId packId topic.title slug plannedDate (some topic) (some topicId) s

end Create

section Update

variable (tenantId : ℕ)

structure PackUpdate where
  title : Option String
  topicId : Option ℕ
  status : Option MarketingPackStatus

def patchableStatuses : List MarketingPackStatus := [.draft, .archived]

def forbiddenPatchStatuses : List MarketingPackStatus := [.approved, .published, .publishing, .scheduled]

/-- `_apply_safe_status_change`, the guards. -/
def checkStatusChange (pack : MarketingPublicationPack) (newStatus : MarketingPackStatus) :
    Except MarketingError Unit := do
  let value := newStatus.value
  raiseIf (newStatus ∈ forbiddenPatchStatuses)
    (.conflict s!"Cannot set pack status to '{value}' via PATCH; use approval/publish flows")
  raiseIf (newStatus ∉ patchableStatuses) (.conflict s!"Pack status '{value}' is not allowed via PATCH")
  raiseIf (pack.status ∈ forbiddenPatchStatuses ∧ newStatus ≠ .archived)
    (.conflict "Cannot change status of an approved or publishing pack except to archived")

def checkStatus (pack : MarketingPublicationPack) : Option MarketingPackStatus → Except MarketingError Unit
  | none => return ()
  | some newStatus => checkStatusChange pack newStatus

def PackUpdate.apply (payload : PackUpdate) (pack : MarketingPublicationPack) : MarketingPublicationPack :=
  { pack with
    title := payload.title.getD pack.title
    topicId := payload.topicId.or pack.topicId
    status := payload.status.getD pack.status }

def updatePack (packId : ℕ) (payload : PackUpdate) (s : State) : Except MarketingError State := do
  let pack ← getPackOr404 tenantId packId s
  let _ ← linkedTopic tenantId s payload.topicId
  checkStatus pack payload.status
  return s.modifyPack packId payload.apply

structure PackTextUpsert where
  text : String
  status : Option MarketingTextStatus

def PackTextUpsert.newRow (payload : PackTextUpsert) : MarketingPublicationText where
  tenantId := tenantId
  text := payload.text
  status := payload.status.getD .draft
  version := 1
  charCount := payload.text.length

def PackTextUpsert.apply (payload : PackTextUpsert) (row : MarketingPublicationText) : MarketingPublicationText :=
  { row with
    text := payload.text
    charCount := payload.text.length
    version := row.version + 1
    status := payload.status.getD .draft }

/-- The row of a text after the upsert. -/
def writeText (packId : ℕ) (channel : MarketingChannel) (payload : PackTextUpsert) (s : State) : State :=
  match (s.texts.get? (packId, channel)).filter fun row => row.tenantId = tenantId with
  | none => { s with texts := s.texts.insert (packId, channel) (payload.newRow tenantId) }
  | some _ => { s with texts := s.texts.modify (packId, channel) payload.apply }

def upsertPackText (packId : ℕ) (channel : MarketingChannel) (payload : PackTextUpsert) (s : State) :
    Except MarketingError State := do
  let value := channel.value
  raiseIf (channel ∉ defaultPackChannels) (.conflict s!"unsupported_channel: {value}")
  let _ ← getPackOr404 tenantId packId s
  return (writeText tenantId packId channel payload s).modifyPack packId resetPackAfterContentChange

end Update

section Media

variable (tenantId assetId : ℕ)

structure MediaCreate where
  fileName : String
  mimeType : String
  storageProvider : String
  storageKey : String
  publicUrl : Option String
  previewUrl : Option String
  width : Option ℕ
  height : Option ℕ
  role : String
  altText : Option String

def validateMime (mimeType : String) : Except MarketingError String := do
  let normalized := (strip mimeType).toLower
  raiseIf (normalized ∉ allowedMediaMimeTypes) (.conflict s!"invalid_mime_type: {mimeType}")
  return normalized

/-- The insert of an asset under a fresh id. -/
def createMediaAsset (asset : MarketingMediaAsset) (s : State) : Except MarketingError State := do
  raiseIf ((s.media.get? assetId).isSome) .integrityError
  return { s with media := s.media.insert assetId asset }

def attachMedia (packId : ℕ) (payload : MediaCreate) (s : State) : Except MarketingError State := do
  let _ ← getPackOr404 tenantId packId s
  let mimeType ← validateMime payload.mimeType
  let s ← createMediaAsset assetId
    { tenantId := tenantId
      packId := some packId
      role := payload.role
      fileName := payload.fileName
      mimeType := mimeType
      storageProvider := payload.storageProvider
      storageKey := payload.storageKey
      publicUrl := payload.publicUrl
      previewUrl := payload.previewUrl
      width := payload.width
      height := payload.height
      altText := payload.altText
      status := .stored
      validationStatus := .legacyUnverified } s
  return s.modifyPack packId resetPackAfterContentChange

structure MediaUpdate where
  fileName : Option String
  mimeType : Option String
  storageProvider : Option String
  storageKey : Option String
  publicUrl : Option String
  previewUrl : Option String
  width : Option ℕ
  height : Option ℕ
  role : Option String
  altText : Option String
  status : Option MarketingMediaAssetStatus

def MediaUpdate.apply (payload : MediaUpdate) (mimeType : Option String) (a : MarketingMediaAsset) :
    MarketingMediaAsset :=
  { a with
    fileName := payload.fileName.getD a.fileName
    mimeType := mimeType.getD a.mimeType
    storageProvider := payload.storageProvider.getD a.storageProvider
    storageKey := payload.storageKey.getD a.storageKey
    publicUrl := payload.publicUrl.or a.publicUrl
    previewUrl := payload.previewUrl.or a.previewUrl
    width := payload.width.or a.width
    height := payload.height.or a.height
    role := payload.role.getD a.role
    altText := payload.altText.or a.altText
    status := payload.status.getD a.status }

def validateMime? : Option String → Except MarketingError (Option String)
  | none => return none
  | some mimeType => do
    let normalized ← validateMime mimeType
    return some normalized

/-- The pack of a changed asset goes back to draft. -/
def resetPackOf (packId : Option ℕ) (s : State) : Except MarketingError State :=
  match packId with
  | none => return s
  | some packId => do
    let _ ← getPackOr404 tenantId packId s
    return s.modifyPack packId resetPackAfterContentChange

def updateMedia (payload : MediaUpdate) (s : State) : Except MarketingError State := do
  let asset ← getAssetOr404 tenantId assetId s
  let mimeType ← validateMime? payload.mimeType
  resetPackOf tenantId asset.packId (s.modifyMedia assetId (payload.apply mimeType))

def MarketingMediaAsset.archive (a : MarketingMediaAsset) : MarketingMediaAsset := { a with status := .archived }

def archiveMedia (s : State) : Except MarketingError State := do
  let asset ← getAssetOr404 tenantId assetId s
  resetPackOf tenantId asset.packId (s.modifyMedia assetId MarketingMediaAsset.archive)

def normalizeC2aMime (mimeType : String) : Except MarketingError String := do
  let lower := (strip mimeType).toLower
  let mime := if lower = "image/jpg" then "image/jpeg" else lower
  raiseIf (mime ∉ c2aAllowedMediaMimeTypes) (.conflict s!"mime_not_allowed:{mime}")
  return mime

/-- The characters of `_SAFE_FILENAME`. -/
def isSafeFilenameChar (c : Char) : Bool :=
  ('A' ≤ c && c ≤ 'Z') || ('a' ≤ c && c ≤ 'z') || ('0' ≤ c && c ≤ '9') || c = '.' || c = '_' || c = '-'

def hasDotDot : List Char → Bool
  | '.' :: '.' :: _ => true
  | _ :: cs => hasDotDot cs
  | [] => false

def sanitizeFilename (fileName : String) : Except MarketingError String := do
  let name := strip fileName
  raiseIf (name = "") (.conflict "file_name_required")
  raiseIf ('/' ∈ name.toList ∨ '\\' ∈ name.toList ∨ hasDotDot name.toList) (.conflict "path_traversal_filename")
  raiseIf (¬ name.toList.all isSafeFilenameChar) (.conflict "unsafe_filename")
  raiseIf (255 < name.length) (.conflict "file_name_too_long")
  return name

/-- The pack a new asset is for, when it is for one. -/
def checkPackFound (packId : Option ℕ) (s : State) : Except MarketingError Unit :=
  raiseIf (¬ packId.all fun id => (getPack s tenantId id).isSome) (.conflict "pack_not_found")

def MarketingStorageResourceProfile.allowed (p : MarketingStorageResourceProfile) : List String :=
  if p.allowedMimeTypes.getD [] = [] then c2aAllowedMediaMimeTypes else p.allowedMimeTypes.getD []

def MarketingStorageResourceProfile.maxUpload (p : MarketingStorageResourceProfile) : ℕ :=
  (p.maxUploadBytes.filter (0 < ·)).getD defaultMaxUploadBytes

/-- The profile of a mode, and that it allows the type. -/
def activeProfile (mode : MarketingStorageResourceMode) (mime : String) (s : State) :
    Except MarketingError MarketingStorageResourceProfile := do
  let (_, profile) ← orRaise (getActiveStorageProfile s tenantId mode) (.notFound "storage_profile_not_found")
  raiseIf (mime ∉ profile.allowed) (.conflict s!"mime_not_in_profile:{mime}")
  return profile

/-- A request to store bytes; `validMagic` is the validator's answer about them, `put`
the storage's, `storageKey` the key built from tenant, asset and name. -/
structure ManagedMedia where
  packId : Option ℕ
  fileName : String
  mimeType : String
  byteCount : ℕ
  validMagic : Bool
  put : Except MarketingError Unit
  storageKey : String
  role : String

def storeManagedMedia (m : ManagedMedia) (s : State) : Except MarketingError State := do
  let mime ← normalizeC2aMime m.mimeType
  let safeName ← sanitizeFilename m.fileName
  raiseIf (m.byteCount = 0) (.conflict "empty_payload")
  let profile ← activeProfile tenantId .flexityManaged mime s
  raiseIf (profile.maxUpload < m.byteCount) (.conflict "payload_too_large")
  raiseIf (m.validMagic = false) (.conflict "content_mime_mismatch")
  checkPackFound tenantId m.packId s
  m.put
  createMediaAsset assetId
    { tenantId := tenantId
      packId := m.packId
      role := m.role
      fileName := safeName
      mimeType := mime
      storageProvider := "flexity_managed"
      storageKey := m.storageKey
      publicUrl := none
      previewUrl := none
      width := none
      height := none
      altText := none
      status := .stored
      validationStatus := .validatedMetadata } s

/-- A request to register a URL; `validated` is the validator's answer: the normalized
URL and the fingerprint of its host. -/
structure PublicUrlMedia where
  packId : Option ℕ
  fileName : String
  mimeType : String
  validated : Except MarketingError (String × String)
  role : String

def registerPublicUrl (m : PublicUrlMedia) (s : State) : Except MarketingError State := do
  let mime ← normalizeC2aMime m.mimeType
  let safeName ← sanitizeFilename m.fileName
  let _ ← activeProfile tenantId .clientPublicUrl mime s
  let (normalizedUrl, hostFingerprint) ← m.validated
  checkPackFound tenantId m.packId s
  createMediaAsset assetId
    { tenantId := tenantId
      packId := m.packId
      role := m.role
      fileName := safeName
      mimeType := mime
      storageProvider := "client_public_url"
      storageKey := s!"url:{hostFingerprint}"
      publicUrl := some normalizedUrl
      previewUrl := none
      width := none
      height := none
      altText := none
      status := .stored
      validationStatus := .registeredUnverified } s

end Media

section Topics

variable (tenantId topicId : ℕ)

/-- A topic update; `rubric` is the answer about the rubric it names. `metadataJson` and
the entries of `editorial` are there when they were sent, null or not. -/
structure TopicUpdate where
  title : Option String
  rubric : Except MarketingError Unit
  status : Option MarketingTopicStatus
  reusable : Option Bool
  recommendedChannels : Option (List String)
  slugHint : Option String
  metadataJson : Option (Option Metadata)
  editorial : Metadata

/-- One editorial field of `build_topic_metadata_for_update`. -/
def mergeEditorial (editorial merged : Metadata) (key : String) : Metadata :=
  match editorial.lookup key with
  | none => merged
  | some value =>
    match normalizeStr value with
    | none => merged.pop key
    | some text => merged.set key (some text)

/-- `build_topic_metadata_for_update`; with nothing sent the metadata stay. -/
def TopicUpdate.metadata (payload : TopicUpdate) (existing : Metadata) : Metadata :=
  editorialMetadataKeys.foldl (mergeEditorial payload.editorial)
    (existing.update ((payload.metadataJson.getD none).getD []))

def TopicUpdate.apply (payload : TopicUpdate) (t : MarketingContentTopic) : MarketingContentTopic :=
  { t with
    title := payload.title.getD t.title
    status := payload.status.getD t.status
    reusable := payload.reusable.getD t.reusable
    recommendedChannels := payload.recommendedChannels.getD t.recommendedChannels
    slugHint := payload.slugHint.or t.slugHint
    metadataJson := payload.metadata t.metadataJson }

def updateTopic (payload : TopicUpdate) (s : State) : Except MarketingError State := do
  let _ ← getTopicOr404 tenantId topicId s
  payload.rubric
  return { s with topics := s.topics.modify topicId payload.apply }

end Topics

section Approval

variable (tenantId packId : ℕ)

/-- The content of a pack, as the preflight loads it. -/
def packInputs (s : State) (packId : ℕ) (pack : MarketingPublicationPack) : PackInputs where
  title := pack.title
  topicId := pack.topicId
  topic := pack.topicId.bind s.topics.get?
  texts := listPackTexts s pack.tenantId packId
  media := listPackMedia s pack.tenantId packId

/-- `_assert_preflight_allowed`; a failed pack is in neither of its lists. -/
def assertPreflightAllowed (pack : MarketingPublicationPack) : Except MarketingError Unit :=
  let value := pack.status.value
  raiseIf (pack.status ∈ [MarketingPackStatus.approved, .publishing, .published, .scheduled, .archived])
    (.conflict s!"Preflight not allowed for pack status {value}")

def recordPreflight (now : ℤ) (passed : Bool) (pack : MarketingPublicationPack) : MarketingPublicationPack :=
  { pack with
    preflightStatus := if passed then .passed else .failed
    status := if passed then .readyForApproval else .preflightFailed
    preflightAt := some now }

/-- `run_preflight`: the report, and the state it leaves. -/
def runPreflight (channels : Option (List MarketingChannel)) (now : ℤ) (s : State) :
    Except MarketingError (Findings × State) := do
  let pack ← getPackOr404 tenantId packId s
  assertPreflightAllowed pack
  let inputs := packInputs s packId pack
  return (preflightFindings pack.slug channels inputs,
    s.modifyPack packId (recordPreflight now (decide (PassesPreflight pack.slug channels inputs))))

def recordApproval (userId : ℕ) (now : ℤ) (pack : MarketingPublicationPack) : MarketingPublicationPack :=
  { pack with
    approvalStatus := .approved
    status := .approved
    approvedAt := some now
    approvedByUserId := some userId }

def approvePack (userId : ℕ) (now : ℤ) (s : State) : Except MarketingError State := do
  let pack ← getPackOr404 tenantId packId s
  raiseIf (pack.preflightStatus ≠ .passed) (.conflict "preflight_not_passed")
  let value := pack.status.value
  raiseIf (pack.status ≠ .readyForApproval)
    (.conflict s!"Pack must be ready_for_approval to approve (current: {value})")
  return s.modifyPack packId (recordApproval userId now)

def recordRejection (pack : MarketingPublicationPack) : MarketingPublicationPack :=
  { pack with
    approvalStatus := .rejected
    status := .draft
    approvedAt := none
    approvedByUserId := none }

def rejectPack (s : State) : Except MarketingError State := do
  let pack ← getPackOr404 tenantId packId s
  let value := pack.status.value
  raiseIf (pack.status ∉ [MarketingPackStatus.readyForApproval, .approved])
    (.conflict s!"Pack cannot be rejected from status {value}")
  return s.modifyPack packId recordRejection

end Approval

end CoreOps.Marketing
