import CoreOps.Lib.Table
import CoreOps.Lib.Text
import Mathlib.Data.Int.Notation

/-! The data of the marketing cabinet: topics, publication packs with one text per
channel, and media assets. Ids and tenants are numbers, dates are day numbers. -/

namespace CoreOps.Marketing

open Text

inductive MarketingTopicStatus
  | draft
  | approved
  | used
  | archived
  deriving DecidableEq, Repr

def MarketingTopicStatus.value : MarketingTopicStatus → String
  | .draft => "draft"
  | .approved => "approved"
  | .used => "used"
  | .archived => "archived"

inductive MarketingPackStatus
  | draft
  | preflightFailed
  | readyForApproval
  | approved
  | scheduled
  | publishing
  | published
  | failed
  | archived
  deriving DecidableEq, Repr

def MarketingPackStatus.value : MarketingPackStatus → String
  | .draft => "draft"
  | .preflightFailed => "preflight_failed"
  | .readyForApproval => "ready_for_approval"
  | .approved => "approved"
  | .scheduled => "scheduled"
  | .publishing => "publishing"
  | .published => "published"
  | .failed => "failed"
  | .archived => "archived"

inductive MarketingPreflightStatus
  | notRun
  | passed
  | failed
  deriving DecidableEq, Repr

inductive MarketingApprovalStatus
  | draft
  | pending
  | approved
  | rejected
  deriving DecidableEq, Repr

inductive MarketingChannel
  | telegram
  | instagram
  | threads
  | insights
  deriving DecidableEq, Repr

def MarketingChannel.value : MarketingChannel → String
  | .telegram => "telegram"
  | .instagram => "instagram"
  | .threads => "threads"
  | .insights => "insights"

def defaultPackChannels : List MarketingChannel := [.telegram, .instagram, .threads, .insights]

inductive MarketingTextStatus
  | draft
  | ready
  | approved
  deriving DecidableEq, Repr

inductive MarketingMediaAssetStatus
  | pending
  | stored
  | failed
  | archived
  deriving DecidableEq, Repr

inductive MarketingMediaValidationStatus
  | legacyUnverified
  | registeredUnverified
  | validatedMetadata
  | rejected
  | archived
  deriving DecidableEq, Repr

inductive MarketingStorageResourceMode
  | flexityManaged
  | clientPublicUrl
  | clientBucket
  deriving DecidableEq, Repr

inductive MarketingStorageProfileStatus
  | active
  | disabled
  deriving DecidableEq, Repr

def allowedMediaMimeTypes : List String := ["image/png", "image/jpeg", "image/jpg", "image/webp"]

def c2aAllowedMediaMimeTypes : List String := ["image/png", "image/jpeg", "image/webp"]

def defaultMaxUploadBytes : ℕ := 10 * 1024 * 1024

/-! Editorial metadata: a JSON object, each value as the text `str` makes of it,
`none` for null. -/

abbrev Metadata := List (String × Option String)

def Metadata.get (m : Metadata) (key : String) : Option String := (m.lookup key).join

def Metadata.pop (m : Metadata) (key : String) : Metadata := m.filter fun e => e.1 ≠ key

def Metadata.set (m : Metadata) (key : String) (value : Option String) : Metadata :=
  if m.any (·.1 = key) then m.map fun e => if e.1 = key then (key, value) else e else m ++ [(key, value)]

def Metadata.update (m n : Metadata) : Metadata := n.foldl (fun m e => m.set e.1 e.2) m

def normalizeStr (value : Option String) : Option String := (value.map strip).filter (· ≠ "")

def editorialMetadataKeys : List String :=
  ["audience", "pain", "insight", "source_ref", "cta", "funnel_stage", "notes", "planned_date"]

structure EditorialFields where
  audience : Option String
  pain : Option String
  insight : Option String
  sourceRef : Option String
  cta : Option String
  funnelStage : Option String
  notes : Option String
  plannedDate : Option String
  deriving DecidableEq, Repr

def extractEditorialFields (m : Metadata) : EditorialFields where
  audience := normalizeStr (m.get "audience")
  pain := normalizeStr (m.get "pain")
  insight := normalizeStr (m.get "insight")
  sourceRef := normalizeStr (m.get "source_ref")
  cta := normalizeStr (m.get "cta")
  funnelStage := normalizeStr (m.get "funnel_stage")
  notes := normalizeStr (m.get "notes")
  plannedDate := normalizeStr (m.get "planned_date")

/-! Rows. -/

structure MarketingContentTopic where
  tenantId : ℕ
  title : String
  status : MarketingTopicStatus
  reusable : Bool
  recommendedChannels : List String
  usedCount : ℕ
  slugHint : Option String
  metadataJson : Metadata
  deriving DecidableEq, Repr

structure MarketingPublicationPack where
  tenantId : ℕ
  topicId : Option ℕ
  slug : String
  title : String
  plannedDate : ℤ
  status : MarketingPackStatus
  preflightStatus : MarketingPreflightStatus
  preflightAt : Option ℤ
  approvalStatus : MarketingApprovalStatus
  approvedAt : Option ℤ
  approvedByUserId : Option ℕ
  deriving DecidableEq, Repr

structure MarketingPublicationText where
  tenantId : ℕ
  text : String
  status : MarketingTextStatus
  version : ℕ
  charCount : ℕ
  deriving DecidableEq, Repr

structure MarketingMediaAsset where
  tenantId : ℕ
  packId : Option ℕ
  role : String
  fileName : String
  mimeType : String
  storageProvider : String
  storageKey : String
  publicUrl : Option String
  previewUrl : Option String
  width : Option ℕ
  height : Option ℕ
  altText : Option String
  status : MarketingMediaAssetStatus
  validationStatus : MarketingMediaValidationStatus
  deriving DecidableEq, Repr

structure MarketingStorageResourceProfile where
  tenantId : ℕ
  mode : MarketingStorageResourceMode
  status : MarketingStorageProfileStatus
  maxUploadBytes : Option ℕ
  allowedMimeTypes : Option (List String)
  deriving DecidableEq, Repr

/-- The rows the services read and write. The key of a text is
`uq_marketing_text_pack_channel`. -/
structure State where
  topics : Table ℕ MarketingContentTopic
  packs : Table ℕ MarketingPublicationPack
  texts : Table (ℕ × MarketingChannel) MarketingPublicationText
  media : Table ℕ MarketingMediaAsset
  profiles : Table ℕ MarketingStorageResourceProfile

inductive MarketingError
  | notFound (detail : String)
  | conflict (detail : String)
  | integrityError
  deriving DecidableEq, Repr

/-! What the services look up. -/

section Repository

variable (s : State) (tenantId : ℕ)

def getTopic (topicId : ℕ) : Option MarketingContentTopic :=
  (s.topics.get? topicId).filter fun t => t.tenantId = tenantId

def getPack (packId : ℕ) : Option MarketingPublicationPack :=
  (s.packs.get? packId).filter fun p => p.tenantId = tenantId

def getPackBySlug (slug : String) : Option (ℕ × MarketingPublicationPack) :=
  s.packs.rows.find? fun r => r.2.tenantId = tenantId ∧ r.2.slug = slug

def findPackForTopicDate (topicId : ℕ) (plannedDate : ℤ) : Option (ℕ × MarketingPublicationPack) :=
  s.packs.rows.find? fun r => r.2.tenantId = tenantId ∧ r.2.topicId = some topicId ∧
    r.2.plannedDate = plannedDate ∧ r.2.status ≠ .archived

def listActivePacksForTopic (topicId : ℕ) : List (ℕ × MarketingPublicationPack) :=
  s.packs.rows.filter fun r => r.2.tenantId = tenantId ∧ r.2.topicId = some topicId ∧ r.2.status ≠ .archived

/-- The texts of a pack, by channel. -/
def listPackTexts (packId : ℕ) : List (MarketingChannel × MarketingPublicationText) :=
  (s.texts.rows.filter fun r => r.1.1 = packId ∧ r.2.tenantId = tenantId).map fun r => (r.1.2, r.2)

/-- The media rows of a pack that are not archived. -/
def listPackMedia (packId : ℕ) : List (ℕ × MarketingMediaAsset) :=
  s.media.rows.filter fun r => r.2.tenantId = tenantId ∧ r.2.packId = some packId ∧ r.2.status ≠ .archived

def getMediaAsset (assetId : ℕ) : Option MarketingMediaAsset :=
  (s.media.get? assetId).filter fun a => a.tenantId = tenantId

def getActiveStorageProfile (mode : MarketingStorageResourceMode) : Option (ℕ × MarketingStorageResourceProfile) :=
  s.profiles.rows.find? fun r => r.2.tenantId = tenantId ∧ r.2.mode = mode ∧ r.2.status = .active

end Repository

end CoreOps.Marketing
