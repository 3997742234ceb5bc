import CoreOps.Lib.Checked
import CoreOps.Lib.Json
import CoreOps.Marketing.Model

/-! Content plans: a plan has a period and items, each a day's topic to be. A method
returns the state its transaction commits, or the exception it raises; the ids of new
rows are arguments. -/

namespace CoreOps.Marketing

open Checked Text

inductive MarketingGuideStatus
  | draft
  | active
  | superseded
  deriving DecidableEq, Repr

inductive MarketingRubricStatus
  | active
  | inactive
  | archived
  deriving DecidableEq, Repr

inductive MarketingContentPlanStatus
  | draft
  | approved
  | archived
  deriving DecidableEq, Repr

inductive MarketingContentPlanItemStatus
  | draft
  | approved
  | topicCreated
  | cancelled
  deriving DecidableEq, Repr

inductive MarketingContentPlanSource
  | manual
  | jsonImport
  deriving DecidableEq, Repr

structure MarketingGuide where
  tenantId : ℕ
  version : ℕ
  status : MarketingGuideStatus
  deriving DecidableEq, Repr

structure MarketingRubric where
  tenantId : ℕ
  code : String
  status : MarketingRubricStatus
  deriving DecidableEq, Repr

structure MarketingContentPlan where
  tenantId : ℕ
  title : String
  periodStart : ℤ
  periodEnd : ℤ
  status : MarketingContentPlanStatus
  guideId : Option ℕ
  guideVersion : Option ℕ
  source : MarketingContentPlanSource
  importFingerprint : Option String
  metadataJson : List (String × Json)

/-- The texts of an item that may be absent. -/
structure PlanItemTexts where
  angle : Option String
  format : Option String
  goal : Option String
  audience : Option String
  cta : Option String
  pain : Option String
  insight : Option String
  funnelStage : Option String
  notes : Option String
  deriving DecidableEq, Repr

structure MarketingContentPlanItem where
  tenantId : ℕ
  planId : ℕ
  plannedDate : ℤ
  rubricId : ℕ
  workingTitle : String
  texts : PlanItemTexts
  channels : List String
  status : MarketingContentPlanItemStatus
  topicId : Option ℕ
  externalLineKey : Option String
  sortOrder : ℕ
  deriving DecidableEq, Repr

structure PlanState where
  guides : Table ℕ MarketingGuide
  rubrics : Table ℕ MarketingRubric
  plans : Table ℕ MarketingContentPlan
  items : Table ℕ MarketingContentPlanItem
  topics : Table ℕ MarketingContentTopic

section Repository

variable (s : PlanState) (tenantId : ℕ)

def getGuide (guideId : ℕ) : Option MarketingGuide := (s.guides.get? guideId).filter fun g => g.tenantId = tenantId

def getActiveGuide : Option (ℕ × MarketingGuide) :=
  s.guides.rows.find? fun r => r.2.tenantId = tenantId ∧ r.2.status = .active

def getRubric (rubricId : ℕ) : Option MarketingRubric :=
  (s.rubrics.get? rubricId).filter fun r => r.tenantId = tenantId

def getRubricByCode (code : String) : Option (ℕ × MarketingRubric) :=
  s.rubrics.rows.find? fun r => r.2.tenantId = tenantId ∧ r.2.code = code

def getContentPlan (planId : ℕ) : Option MarketingContentPlan :=
  (s.plans.get? planId).filter fun p => p.tenantId = tenantId

def getContentPlanByFingerprint (importFingerprint : String) : Option (ℕ × MarketingContentPlan) :=
  s.plans.rows.find? fun r => r.2.tenantId = tenantId ∧ r.2.importFingerprint = some importFingerprint

def listContentPlanItems (planId : ℕ) : List (ℕ × MarketingContentPlanItem) :=
  s.items.rows.filter fun r => r.2.tenantId = tenantId ∧ r.2.planId = planId

def getContentPlanItem (planId itemId : ℕ) : Option MarketingContentPlanItem :=
  (s.items.get? itemId).filter fun i => i.tenantId = tenantId ∧ i.planId = planId

def getContentPlanItemByLineKey (planId : ℕ) (lineKey : String) : Option (ℕ × MarketingContentPlanItem) :=
  s.items.rows.find? fun r => r.2.tenantId = tenantId ∧ r.2.planId = planId ∧ r.2.externalLineKey = some lineKey

def getPlanTopic (topicId : ℕ) : Option MarketingContentTopic :=
  (s.topics.get? topicId).filter fun t => t.tenantId = tenantId

/-- The insert of a plan, against its primary key. -/
def createContentPlan (planId : ℕ) (plan : MarketingContentPlan) : Except MarketingError PlanState := do
  raiseIf ((s.plans.get? planId).isSome) .integrityError
  return { s with plans := s.plans.insert planId plan }

/-- The insert of an item, against its primary key and `uq_marketing_content_plan_items_line_key`. -/
def createContentPlanItem (itemId : ℕ) (item : MarketingContentPlanItem) : Except MarketingError PlanState := do
  raiseIf ((s.items.get? itemId).isSome) .integrityError
  raiseIf (item.externalLineKey.any fun key =>
    (getContentPlanItemByLineKey s item.tenantId item.planId key).isSome) .integrityError
  return { s with items := s.items.insert itemId item }

end Repository

/-! Metadata keys that look like secrets. -/

def secretishWords : List String :=
  ["secret", "token", "password", "api_key", "api-key", "apikey", "bearer", "credential"]

/-- The letter `re.IGNORECASE` compares: four letters outside ASCII fold into it. -/
def foldCase (c : Char) : Char :=
  if c.toNat = 0x130 ∨ c.toNat = 0x131 then 'i'
  else if c.toNat = 0x17f then 's'
  else if c.toNat = 0x212a then 'k'
  else c.toLower

/-- `_SECRETISH_KEY.search`. -/
def isSecretish (key : String) : Bool :=
  let text := key.toList.map foldCase
  secretishWords.any fun word => text.tails.any fun rest => word.toList.isPrefixOf rest

mutual

def hasSecretishKey : Json → Bool
  | .obj members => anySecretishMember members
  | .arr items => anySecretishItem items
  | _ => false

def anySecretishItem : List Json → Bool
  | [] => false
  | x :: xs => hasSecretishKey x || anySecretishItem xs

def anySecretishMember : List (String × Json) → Bool
  | [] => false
  | (key, value) :: ms => isSecretish key || hasSecretishKey value || anySecretishMember ms

end

def assertMetadataSafe (extra : List (String × Json)) : Except MarketingError Unit :=
  raiseIf (anySecretishMember extra) (.conflict "metadata_json_forbidden_key")

def assertPeriod (periodStart periodEnd : ℤ) : Except MarketingError Unit :=
  raiseIf (periodEnd < periodStart) (.conflict "invalid_period")

def assertDateInPeriod (plannedDate periodStart periodEnd : ℤ) : Except MarketingError Unit :=
  raiseIf (plannedDate < periodStart ∨ periodEnd < plannedDate) (.conflict "planned_date_out_of_period")

section Checks

variable (tenantId : ℕ)

def getPlanOr404 (planId : ℕ) (s : PlanState) : Except MarketingError MarketingContentPlan :=
  orRaise (getContentPlan s tenantId planId) (.notFound "marketing_content_plan_not_found")

def getItemOr404 (planId itemId : ℕ) (s : PlanState) : Except MarketingError MarketingContentPlanItem :=
  orRaise (getContentPlanItem s tenantId planId itemId) (.notFound "marketing_content_plan_item_not_found")

def getGuideOr404 (guideId : ℕ) (s : PlanState) : Except MarketingError MarketingGuide :=
  orRaise (getGuide s tenantId guideId) (.notFound "marketing_guide_not_found")

def getRubricOr404 (rubricId : ℕ) (s : PlanState) : Except MarketingError MarketingRubric :=
  orRaise (getRubric s tenantId rubricId) (.notFound "marketing_rubric_not_found")

def requireDraftPlan (plan : MarketingContentPlan) : Except MarketingError Unit :=
  raiseIf (plan.status ≠ .draft) (.conflict "plan_not_draft")

def requireActiveRubric (rubricId : ℕ) (s : PlanState) : Except MarketingError Unit := do
  let rubric ← getRubricOr404 tenantId rubricId s
  raiseIf (rubric.status ≠ .active) (.conflict "marketing_rubric_not_selectable")

end Checks

section Plans

variable (tenantId planId : ℕ)

structure ContentPlanCreate where
  title : String
  periodStart : ℤ
  periodEnd : ℤ
  guideId : Option ℕ
  metadataJson : List (String × Json)

/-- The guide a new plan is made under, and its version: the one named, else the active one. -/
def planGuide (s : PlanState) : Option ℕ → Except MarketingError (Option ℕ × Option ℕ)
  | some guideId => do
    let guide ← getGuideOr404 tenantId guideId s
    return (some guideId, some guide.version)
  | none => return ((getActiveGuide s tenantId).map (·.1), (getActiveGuide s tenantId).map (·.2.version))

def createPlan (payload : ContentPlanCreate) (s : PlanState) : Except MarketingError PlanState := do
  assertPeriod payload.periodStart payload.periodEnd
  assertMetadataSafe payload.metadataJson
  let (guideId, guideVersion) ← planGuide tenantId s payload.guideId
  createContentPlan s planId {
    tenantId := tenantId
    title := strip payload.title
    periodStart := payload.periodStart
    periodEnd := payload.periodEnd
    status := .draft
    guideId := guideId
    guideVersion := guideVersion
    source := .manual
    importFingerprint := none
    metadataJson := payload.metadataJson }

/-- A PATCH of a plan: what was sent and is not null; a guide may be sent as null. -/
structure ContentPlanUpdate where
  title : Option String
  periodStart : Option ℤ
  periodEnd : Option ℤ
  guideId : Option (Option ℕ)
  metadataJson : Option (List (String × Json))

/-- The guide of a plan after a PATCH, and its version. -/
def patchGuide (plan : MarketingContentPlan) (s : PlanState) :
    Option (Option ℕ) → Except MarketingError (Option ℕ × Option ℕ)
  | none => return (plan.guideId, plan.guideVersion)
  | some none => return (none, none)
  | some (some guideId) => do
    let guide ← getGuideOr404 tenantId guideId s
    return (some guideId, some guide.version)

def checkMetadata : Option (List (String × Json)) → Except MarketingError Unit
  | none => return ()
  | some metadata => assertMetadataSafe metadata

def ContentPlanUpdate.start (payload : ContentPlanUpdate) (plan : MarketingContentPlan) : ℤ :=
  payload.periodStart.getD plan.periodStart

def ContentPlanUpdate.stop (payload : ContentPlanUpdate) (plan : MarketingContentPlan) : ℤ :=
  payload.periodEnd.getD plan.periodEnd

def ContentPlanUpdate.apply (payload : ContentPlanUpdate) (guide : Option ℕ × Option ℕ)
    (plan : MarketingContentPlan) : MarketingContentPlan :=
  { plan with
    title := (payload.title.map strip).getD plan.title
    periodStart := payload.start plan
    periodEnd := payload.stop plan
    guideId := guide.1
    guideVersion := guide.2
    metadataJson := payload.metadataJson.getD plan.metadataJson }

/-- An item that stays in the plan has to stay in its period. -/
def checkItemDate (periodStart periodEnd : ℤ) (r : ℕ × MarketingContentPlanItem) : Except MarketingError Unit :=
  if r.2.status = .cancelled then return () else assertDateInPeriod r.2.plannedDate periodStart periodEnd

def updatePlan (payload : ContentPlanUpdate) (s : PlanState) : Except MarketingError PlanState := do
  let plan ← getPlanOr404 tenantId planId s
  requireDraftPlan plan
  assertPeriod (payload.start plan) (payload.stop plan)
  let guide ← patchGuide tenantId plan s payload.guideId
  checkMetadata payload.metadataJson
  (listContentPlanItems s tenantId planId).forM (checkItemDate (payload.start plan) (payload.stop plan))
  return { s with plans := s.plans.modify planId (payload.apply guide) }

def MarketingContentPlan.setStatus (status : MarketingContentPlanStatus) (plan : MarketingContentPlan) :
    MarketingContentPlan :=
  { plan with status := status }

def MarketingContentPlanItem.setStatus (status : MarketingContentPlanItemStatus) (item : MarketingContentPlanItem) :
    MarketingContentPlanItem :=
  { item with status := status }

/-- A draft item of the plan is approved with it. -/
def approveItem (_ : ℕ) (item : MarketingContentPlanItem) : MarketingContentPlanItem :=
  if item.tenantId = tenantId ∧ item.planId = planId ∧ item.status = .draft then item.setStatus .approved else item

def approvePlan (s : PlanState) : Except MarketingError PlanState := do
  let plan ← getPlanOr404 tenantId planId s
  requireDraftPlan plan
  let nonCancelled := (listContentPlanItems s tenantId planId).filter fun r => r.2.status ≠ .cancelled
  raiseIf (nonCancelled = []) (.conflict "approve_requires_items")
  nonCancelled.forM fun r =>
    raiseIf (r.2.status ≠ .draft ∧ r.2.status ≠ .approved) (.conflict "item_status_blocks_approve")
  return { s with
    items := s.items.mapRows (approveItem tenantId planId)
    plans := s.plans.modify planId (MarketingContentPlan.setStatus .approved) }

def archivePlan (s : PlanState) : Except MarketingError PlanState := do
  let plan ← getPlanOr404 tenantId planId s
  if plan.status = .archived then return s
  raiseIf (plan.status ∉ [MarketingContentPlanStatus.draft, .approved]) (.conflict "plan_archive_forbidden")
  return { s with plans := s.plans.modify planId (MarketingContentPlan.setStatus .archived) }

end Plans

section Items

variable (tenantId planId itemId : ℕ)

structure ContentPlanItemCreate where
  plannedDate : ℤ
  rubricId : ℕ
  workingTitle : String
  texts : PlanItemTexts
  channels : List String
  lineKey : Option String
  sortOrder : ℕ

/-- Each text stripped, and absent when nothing is left. -/
def PlanItemTexts.normalize (t : PlanItemTexts) : PlanItemTexts where
  angle := normalizeStr t.angle
  format := normalizeStr t.format
  goal := normalizeStr t.goal
  audience := normalizeStr t.audience
  cta := normalizeStr t.cta
  pain := normalizeStr t.pain
  insight := normalizeStr t.insight
  funnelStage := normalizeStr t.funnelStage
  notes := normalizeStr t.notes

/-- The key as it is stored. A key of blanks only becomes the empty text. -/
def ContentPlanItemCreate.storedKey (payload : ContentPlanItemCreate) : Option String :=
  (payload.lineKey.filter (· ≠ "")).map strip

def ContentPlanItemCreate.row (payload : ContentPlanItemCreate) : MarketingContentPlanItem where
  tenantId := tenantId
  planId := planId
  plannedDate := payload.plannedDate
  rubricId := payload.rubricId
  workingTitle := strip payload.workingTitle
  texts := payload.texts.normalize
  channels := payload.channels
  status := .draft
  topicId := none
  externalLineKey := payload.storedKey
  sortOrder := payload.sortOrder

/-- `create_item`; the empty key is not looked up. -/
def createItem (payload : ContentPlanItemCreate) (s : PlanState) : Except MarketingError PlanState := do
  let plan ← getPlanOr404 tenantId planId s
  requireDraftPlan plan
  assertDateInPeriod payload.plannedDate plan.periodStart plan.periodEnd
  requireActiveRubric tenantId payload.rubricId s
  raiseIf ((payload.storedKey.filter (· ≠ "")).any fun key =>
    (getContentPlanItemByLineKey s tenantId planId key).isSome)
    (.conflict "marketing_content_plan_item_line_key_duplicate")
  createContentPlanItem s itemId (payload.row tenantId planId)

/-- A PATCH of the texts: those that were sent, null or not. -/
structure PlanItemTextsUpdate where
  angle : Option (Option String)
  format : Option (Option String)
  goal : Option (Option String)
  audience : Option (Option String)
  cta : Option (Option String)
  pain : Option (Option String)
  insight : Option (Option String)
  funnelStage : Option (Option String)
  notes : Option (Option String)

/-- One text of the loop over the fields. -/
def patchText (sent : Option (Option String)) (old : Option String) : Option String :=
  (sent.map normalizeStr).getD old

def PlanItemTextsUpdate.apply (u : PlanItemTextsUpdate) (t : PlanItemTexts) : PlanItemTexts where
  angle := patchText u.angle t.angle
  format := patchText u.format t.format
  goal := patchText u.goal t.goal
  audience := patchText u.audience t.audience
  cta := patchText u.cta t.cta
  pain := patchText u.pain t.pain
  insight := patchText u.insight t.insight
  funnelStage := patchText u.funnelStage t.funnelStage
  notes := patchText u.notes t.notes

structure ContentPlanItemUpdate where
  plannedDate : Option ℤ
  rubricId : Option ℕ
  workingTitle : Option String
  channels : Option (List String)
  sortOrder : Option ℕ
  texts : PlanItemTextsUpdate

def ContentPlanItemUpdate.apply (payload : ContentPlanItemUpdate) (item : MarketingContentPlanItem) :
    MarketingContentPlanItem :=
  { item with
    plannedDate := payload.plannedDate.getD item.plannedDate
    rubricId := payload.rubricId.getD item.rubricId
    workingTitle := (payload.workingTitle.map strip).getD item.workingTitle
    channels := payload.channels.getD item.channels
    sortOrder := payload.sortOrder.getD item.sortOrder
    texts := payload.texts.apply item.texts }

def checkNewDate (plan : MarketingContentPlan) : Option ℤ → Except MarketingError Unit
  | none => return ()
  | some plannedDate => assertDateInPeriod plannedDate plan.periodStart plan.periodEnd

def checkNewRubric (s : PlanState) : Option ℕ → Except MarketingError Unit
  | none => return ()
  | some rubricId => requireActiveRubric tenantId rubricId s

def updateItem (payload : ContentPlanItemUpdate) (s : PlanState) : Except MarketingError PlanState := do
  let plan ← getPlanOr404 tenantId planId s
  requireDraftPlan plan
  let item ← getItemOr404 tenantId planId itemId s
  raiseIf (item.status ≠ .draft) (.conflict "item_not_draft")
  checkNewDate plan payload.plannedDate
  checkNewRubric tenantId s payload.rubricId
  return { s with items := s.items.modify itemId payload.apply }

def cancelItem (s : PlanState) : Except MarketingError PlanState := do
  let plan ← getPlanOr404 tenantId planId s
  requireDraftPlan plan
  let item ← getItemOr404 tenantId planId itemId s
  if item.status = .cancelled then return s
  raiseIf (item.status ≠ .draft) (.conflict "item_cancel_not_draft")
  return { s with items := s.items.modify itemId (MarketingContentPlanItem.setStatus .cancelled) }

end Items

section Topics

variable (tenantId planId itemId topicId : ℕ)

/-- The topic of the item, and whether it was there before. -/
structure ContentPlanCreateTopicResponse where
  topicId : ℕ
  replayed : Bool
  deriving DecidableEq, Repr

/-- The metadata of a topic made from an item; `channels` is the list of them as text. -/
def planTopicMetadata (channels : String) (item : MarketingContentPlanItem) : Metadata :=
  [("plan_id", some (toString planId)), ("plan_item_id", some (toString itemId)),
    ("rubric_id", some (toString item.rubricId)), ("channels", some channels),
    ("planned_date", some (toString item.plannedDate))] ++
  [("audience", item.texts.audience), ("pain", item.texts.pain), ("insight", item.texts.insight),
    ("cta", item.texts.cta), ("funnel_stage", item.texts.funnelStage), ("notes", item.texts.notes),
    ("format", item.texts.format), ("goal", item.texts.goal)].filterMap fun e =>
      (normalizeStr e.2).map fun text => (e.1, some text)

def planTopic (channels : String) (item : MarketingContentPlanItem) : MarketingContentTopic where
  tenantId := tenantId
  title := strip item.workingTitle
  status := .approved
  reusable := false
  recommendedChannels := item.channels
  usedCount := 0
  slugHint := none
  metadataJson := planTopicMetadata planId itemId channels item

def MarketingContentPlanItem.linkTopic (topicId : ℕ) (item : MarketingContentPlanItem) : MarketingContentPlanItem :=
  { item with topicId := some topicId, status := .topicCreated }

/-- A topic is made from an approved item. -/
def assertItemApproved (item : MarketingContentPlanItem) : Except MarketingError Unit := do
  raiseIf (item.status = .cancelled) (.conflict "item_cancelled")
  raiseIf (item.status ≠ .approved) (.conflict "item_not_approved")

/-- The insert of a topic, against its primary key. -/
def createPlanTopic (topic : MarketingContentTopic) (s : PlanState) : Except MarketingError PlanState := do
  raiseIf ((s.topics.get? topicId).isSome) .integrityError
  return { s with topics := s.topics.insert topicId topic }

/-- `create_topic_from_item`; `topicId` is the id of a new topic. -/
def createTopicFromItem (channels : String) (s : PlanState) :
    Except MarketingError (ContentPlanCreateTopicResponse × PlanState) := do
  let plan ← getPlanOr404 tenantId planId s
  raiseIf (plan.status ≠ .approved) (.conflict "plan_not_approved")
  let item ← getItemOr404 tenantId planId itemId s
  match item.topicId with
  | some linked =>
    let _ ← orRaise (getPlanTopic s tenantId linked) (.conflict "linked_topic_missing")
    return (⟨linked, true⟩,
      { s with items := s.items.modify itemId (MarketingContentPlanItem.setStatus .topicCreated) })
  | none =>
    assertItemApproved item
    let _ ← getRubricOr404 tenantId item.rubricId s
    let s ← createPlanTopic topicId (planTopic tenantId planId itemId channels item) s
    return (⟨topicId, false⟩,
      { s with items := s.items.modify itemId (MarketingContentPlanItem.linkTopic topicId) })

end Topics

end CoreOps.Marketing
