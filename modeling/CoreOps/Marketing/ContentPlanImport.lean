import CoreOps.Marketing.ContentPlans

/-! The JSON import of a content plan: a document that passes its validators, the rubrics
its codes stand for, and the plan with its items, once for each fingerprint. -/

namespace CoreOps.Marketing

open Checked Text

def schemaVersion : String := "m7.5.plan.v1"

def maxItems : ℕ := 200
def maxTitleLen : ℕ := 512
def maxLineKeyLen : ℕ := 128
def maxWorkingTitleLen : ℕ := 512
def maxTextFieldLen : ℕ := 4000
def maxChannelsPerItem : ℕ := 8
def maxMappingEntries : ℕ := 100

def allowedChannels : List String := ["telegram", "instagram", "threads", "insights"]

/-- A line of a document. -/
structure PlanItemDocument where
  lineKey : String
  date : ℤ
  rubricCode : String
  workingTitle : String
  texts : PlanItemTexts
  channels : List String
  deriving DecidableEq, Repr

/-- A document that has passed its validators. -/
structure PlanDocument where
  periodStart : ℤ
  periodEnd : ℤ
  title : String
  items : List PlanItemDocument
  period : periodStart ≤ periodEnd
  keys : (items.map (·.lineKey)).Nodup
  dates : ∀ item ∈ items, periodStart ≤ item.date ∧ item.date ≤ periodEnd

/-- A document with its fields as their types, before the validators. -/
structure RawPlanDocument where
  schemaVersion : String
  periodStart : ℤ
  periodEnd : ℤ
  title : String
  items : List PlanItemDocument

/-- `_normalize_channels` without its refusals: each channel once, blanks left out. -/
def normalizeChannels (raw : List String) : List String :=
  ((raw.map fun channel => (strip channel).toLower).filter (· ≠ "")).foldl
    (fun out channel => if channel ∈ out then out else out ++ [channel]) []

def PlanItemDocument.strip (item : PlanItemDocument) : PlanItemDocument where
  lineKey := Text.strip item.lineKey
  date := item.date
  rubricCode := Text.strip item.rubricCode
  workingTitle := Text.strip item.workingTitle
  texts := item.texts.normalize
  channels := normalizeChannels item.channels

def PlanItemTexts.fits (t : PlanItemTexts) : Bool :=
  ([t.angle, t.goal, t.audience, t.cta, t.pain, t.insight, t.notes].all fun text =>
    text.all fun text => text.length ≤ maxTextFieldLen) &&
  ([t.format, t.funnelStage].all fun text => text.all fun text => text.length ≤ 64)

def hasLength (text : String) (limit : ℕ) : Bool := 1 ≤ text.length && text.length ≤ limit

/-- The constraints on the fields of a stripped line. -/
def PlanItemDocument.valid (item : PlanItemDocument) : Bool :=
  hasLength item.lineKey maxLineKeyLen && hasLength item.rubricCode 64 &&
  hasLength item.workingTitle maxWorkingTitleLen && item.texts.fits &&
  (item.channels.all fun channel => channel ∈ allowedChannels) && item.channels.length ≤ maxChannelsPerItem

/-- `PlanDocument.model_validate`. -/
def RawPlanDocument.validate (raw : RawPlanDocument) : Option PlanDocument :=
  let items := raw.items.map PlanItemDocument.strip
  let title := Text.strip raw.title
  if h : raw.periodStart ≤ raw.periodEnd ∧ (items.map (·.lineKey)).Nodup ∧
      ∀ item ∈ items, raw.periodStart ≤ item.date ∧ item.date ≤ raw.periodEnd then
    if raw.schemaVersion = Marketing.schemaVersion ∧ hasLength title maxTitleLen ∧ items ≠ [] ∧ items.length ≤ maxItems ∧
        items.all PlanItemDocument.valid then
      some ⟨raw.periodStart, raw.periodEnd, title, items, h.1, h.2.1, h.2.2⟩
    else none
  else none

section Import

variable (tenantId : ℕ)

/-- `_parse_document`; a text or an object that is no document with these fields comes
with the code of what is wrong with it. -/
def parseDocument (plan : Except String RawPlanDocument) : Except MarketingError PlanDocument :=
  match plan with
  | .error code => .error (.conflict code)
  | .ok raw => orRaise raw.validate (.conflict "schema_validation_error")

/-- `_normalize_mapping`; the later of two keys that strip to one wins. -/
def normalizeMapping (raw : List (String × ℕ)) : Except MarketingError (List (String × ℕ)) := do
  raiseIf (maxMappingEntries < raw.length) (.conflict "too_many_rubric_mappings")
  raw.forM fun e => raiseIf (strip e.1 = "") (.conflict "empty_rubric_mapping_code")
  return (raw.map fun e => (strip e.1, e.2)).reverse

/-- The rubric of a code, if it is there and active, as `commit` uses `_resolve_rubric_code`. -/
def resolveRubricCode (s : PlanState) (mapping : List (String × ℕ)) (rubricCode : String) : Except MarketingError ℕ :=
  match mapping.lookup rubricCode with
  | some rubricId => do
    let row ← getRubricOr404 tenantId rubricId s
    raiseIf (row.status ≠ .active) (.conflict "rubric_not_active")
    return rubricId
  | none => do
    let (rubricId, row) ← orRaise (getRubricByCode s tenantId rubricCode) (.conflict "unknown_rubric")
    raiseIf (row.status ≠ .active) (.conflict "rubric_not_active")
    return rubricId

structure ContentPlanImportCommitRequest where
  plan : Except String RawPlanDocument
  rubricCodeMap : List (String × ℕ)

structure ContentPlanImportCommitResponse where
  planId : ℕ
  itemCount : ℕ
  replayed : Bool
  importFingerprint : String
  deriving DecidableEq, Repr

/-- The item of a line, in the order of the lines. -/
def PlanItemDocument.row (planId : ℕ) (item : PlanItemDocument) (rubricId sortOrder : ℕ) : MarketingContentPlanItem where
  tenantId := tenantId
  planId := planId
  plannedDate := item.date
  rubricId := rubricId
  workingTitle := item.workingTitle
  texts := item.texts
  channels := item.channels
  status := .draft
  topicId := none
  externalLineKey := some item.lineKey
  sortOrder := sortOrder

def PlanDocument.plan (doc : PlanDocument) (guide : Option (ℕ × MarketingGuide)) (fingerprint : String) :
    MarketingContentPlan where
  tenantId := tenantId
  title := doc.title
  periodStart := doc.periodStart
  periodEnd := doc.periodEnd
  status := .draft
  guideId := guide.map (·.1)
  guideVersion := guide.map (·.2.version)
  source := .jsonImport
  importFingerprint := some fingerprint
  metadataJson := [("schema_version", .str schemaVersion)]

/-- One round of the loop over the lines; `itemId n` is the id of the n-th new item. -/
def importLine (planId : ℕ) (itemId : ℕ → ℕ) (s : PlanState) (line : (PlanItemDocument × ℕ) × ℕ) :
    Except MarketingError PlanState :=
  createContentPlanItem s (itemId line.2) (line.1.1.row tenantId planId line.1.2 line.2)

/-- `commit`; `computeImportFingerprint` is the digest of the canonical document. -/
def commitImport (computeImportFingerprint : ℕ → PlanDocument → String) (planId : ℕ) (itemId : ℕ → ℕ)
    (payload : ContentPlanImportCommitRequest) (s : PlanState) :
    Except MarketingError (ContentPlanImportCommitResponse × PlanState) := do
  let doc ← parseDocument payload.plan
  let mapping ← normalizeMapping payload.rubricCodeMap
  let fingerprint := computeImportFingerprint tenantId doc
  match getContentPlanByFingerprint s tenantId fingerprint with
  | some (existing, _) =>
    return (⟨existing, (listContentPlanItems s tenantId existing).length, true, fingerprint⟩, s)
  | none =>
    let rubrics ← doc.items.mapM fun item => resolveRubricCode tenantId s mapping item.rubricCode
    let resolved := doc.items.zip rubrics
    let s ← createContentPlan s planId (doc.plan tenantId (getActiveGuide s tenantId) fingerprint)
    let s ← resolved.zipIdx.foldlM (importLine tenantId planId itemId) s
    return (⟨planId, resolved.length, false, fingerprint⟩, s)

end Import

/-- A commit whose fingerprint has a plan answers with it. -/
theorem commit_of_found {tenantId planId : ℕ} {itemId : ℕ → ℕ} {fp : ℕ → PlanDocument → String}
    {payload : ContentPlanImportCommitRequest} {s : PlanState} {doc : PlanDocument}
    {mapping : List (String × ℕ)} {existing : ℕ} {plan : MarketingContentPlan}
    (hdoc : parseDocument payload.plan = .ok doc) (hmapping : normalizeMapping payload.rubricCodeMap = .ok mapping)
    (hfound : getContentPlanByFingerprint s tenantId (fp tenantId doc) = some (existing, plan)) :
    commitImport tenantId fp planId itemId payload s =
      .ok (⟨existing, (listContentPlanItems s tenantId existing).length, true, fp tenantId doc⟩, s) := by
  simp [commitImport, hdoc, hmapping, hfound, bind, Except.bind, pure, Except.pure]

end CoreOps.Marketing
