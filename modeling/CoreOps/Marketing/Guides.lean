import CoreOps.Lib.UniqueIndex
import CoreOps.Marketing.ContentPlans

/-! The guides of a tenant: drafts under increasing version numbers, one of them active,
and those it superseded. A method returns the table its transaction commits, or the
exception it raises; the id of a new guide is an argument. Row timestamps are left out. -/

namespace CoreOps.Marketing

open Checked Text

structure MarketingGuideRow extends MarketingGuide where
  businessName : String
  businessSummary : String
  productsServices : String
  audiences : String
  goals : String
  channels : List String
  defaultFrequency : String
  toneRules : Option String
  constraints : Option String
  sourcesNotes : Option String
  extraJson : List (String × Json)
  createdByUserId : ℕ
  updatedByUserId : ℕ

abbrev GuideTable := Table ℕ MarketingGuideRow

inductive GuideError
  | notFound
  | validation (detail : String)
  | integrityError
  | dataError
  deriving DecidableEq, Repr

structure GuideCreate where
  businessName : String
  businessSummary : String
  productsServices : String
  audiences : String
  goals : String
  channels : List String
  defaultFrequency : String
  toneRules : Option String
  constraints : Option String
  sourcesNotes : Option String
  extraJson : List (String × Json)
  activate : Bool

/-- A field that the request leaves out is `none`, a null is `some none`. -/
structure GuideUpdate where
  businessName : Option (Option String)
  businessSummary : Option (Option String)
  productsServices : Option (Option String)
  audiences : Option (Option String)
  goals : Option (Option String)
  channels : Option (Option (List String))
  defaultFrequency : Option (Option String)
  toneRules : Option (Option String)
  constraints : Option (Option String)
  sourcesNotes : Option (Option String)
  extraJson : Option (Option (List (String × Json)))

def assertExtraJsonSafe (extra : List (String × Json)) : Except GuideError Unit :=
  raiseIf (anySecretishMember extra) (.validation "extra_json_forbidden_key")

/-- A required text in an update. -/
def requiredText (field : String) (value : Option (Option String)) (old : String) : Except GuideError String :=
  match value with
  | none => .ok old
  | some none => .error (.validation (field ++ "_required"))
  | some (some text) =>
    if strip text = "" then .error (.validation (field ++ "_required")) else .ok (strip text)

/-- An optional text in an update: a blank one is null. -/
def optionalText (value : Option (Option String)) (old : Option String) : Option String :=
  match value with
  | none => old
  | some text => normalizeStr text

/-- An optional text of a create: null when it is empty before it is stripped. -/
def optionalTextOfCreate (value : Option String) : Option String := (value.filter (· ≠ "")).map strip

/-- The entry of a row in `uq_marketing_guides_tenant_active`. -/
def MarketingGuideRow.activeEntry (guide : MarketingGuideRow) : Option ℕ :=
  if guide.status = .active then some guide.tenantId else none

/-- The entry of a row in `uq_marketing_guides_tenant_version`. -/
def MarketingGuideRow.versionEntry (guide : MarketingGuideRow) : Option (ℕ × ℕ) := some (guide.tenantId, guide.version)

section Repository

variable (tenantId : ℕ) (s : GuideTable)

def getGuideRow (guideId : ℕ) : Option MarketingGuideRow := (s.get? guideId).filter fun g => g.tenantId = tenantId

def maxGuideVersion : ℕ := ((s.rows.filter fun r => r.2.tenantId = tenantId).map fun r => r.2.version).foldr max 0

def listActiveGuidesForUpdate : List ℕ :=
  (s.rows.filter fun r => r.2.tenantId = tenantId ∧ r.2.status = .active).map Prod.fst

variable {s} in
/-- What the table checks when a row is written: the columns' lengths and its two indexes. -/
def flushGuide (guideId : ℕ) (guide : MarketingGuideRow) : Except GuideError Unit := do
  raiseIf (255 < guide.businessName.length ∨ 64 < guide.defaultFrequency.length) .dataError
  raiseIf (s.Taken (·.activeEntry) guideId guide ∨ s.Taken (·.versionEntry) guideId guide) .integrityError

def createGuide (guideId : ℕ) (guide : MarketingGuideRow) : Except GuideError GuideTable := do
  raiseIf ((s.get? guideId).isSome) .integrityError
  flushGuide (s := s) guideId guide
  return s.insert guideId guide

end Repository

section Service

variable (tenantId userId : ℕ) (s : GuideTable)

def getGuideRowOr404 (guideId : ℕ) : Except GuideError MarketingGuideRow :=
  orRaise (getGuideRow tenantId s guideId) .notFound

def MarketingGuideRow.setStatus (guide : MarketingGuideRow) (status : MarketingGuideStatus) : MarketingGuideRow :=
  { guide with status := status, updatedByUserId := userId }

/-- Every other active guide of the tenant is superseded. -/
def supersedeOthers (guideId : ℕ) : GuideTable :=
  let actives := listActiveGuidesForUpdate tenantId s
  s.mapRows fun id guide => if id ∈ actives ∧ id ≠ guideId then guide.setStatus userId .superseded else guide

def activateGuide (guideId : ℕ) : Except GuideError GuideTable := do
  let guide ← getGuideRowOr404 tenantId s guideId
  raiseIf (guide.status = .superseded) (.validation "guide_superseded_immutable")
  if guide.status = .active then return s
  let superseded := supersedeOthers tenantId userId s guideId
  flushGuide (s := superseded) guideId (guide.setStatus userId .active)
  return superseded.modify guideId fun guide => guide.setStatus userId .active

def GuideCreate.row (payload : GuideCreate) (version : ℕ) : MarketingGuideRow where
  tenantId := tenantId
  version := version
  status := .draft
  businessName := strip payload.businessName
  businessSummary := strip payload.businessSummary
  productsServices := strip payload.productsServices
  audiences := strip payload.audiences
  goals := strip payload.goals
  channels := payload.channels
  defaultFrequency := strip payload.defaultFrequency
  toneRules := optionalTextOfCreate payload.toneRules
  constraints := optionalTextOfCreate payload.constraints
  sourcesNotes := optionalTextOfCreate payload.sourcesNotes
  extraJson := payload.extraJson
  createdByUserId := userId
  updatedByUserId := userId

def createDraft (guideId : ℕ) (payload : GuideCreate) : Except GuideError GuideTable := do
  assertExtraJsonSafe payload.extraJson
  let version := maxGuideVersion tenantId s + 1
  let s₁ ← createGuide s guideId (payload.row tenantId userId version)
  if payload.activate then activateGuide tenantId userId s₁ guideId else return s₁

/-- The row an update leaves. -/
def updatedGuide (guide : MarketingGuideRow) (payload : GuideUpdate) : Except GuideError MarketingGuideRow := do
  let extraJson ← ((payload.extraJson.join.elim (.ok guide.extraJson) fun extra => do
    assertExtraJsonSafe extra
    return extra) : Except GuideError (List (String × Json)))
  let businessName ← requiredText "business_name" payload.businessName guide.businessName
  let businessSummary ← requiredText "business_summary" payload.businessSummary guide.businessSummary
  let productsServices ← requiredText "products_services" payload.productsServices guide.productsServices
  let audiences ← requiredText "audiences" payload.audiences guide.audiences
  let goals ← requiredText "goals" payload.goals guide.goals
  let defaultFrequency ← requiredText "default_frequency" payload.defaultFrequency guide.defaultFrequency
  return { guide with
    extraJson := extraJson
    businessName := businessName
    businessSummary := businessSummary
    productsServices := productsServices
    audiences := audiences
    goals := goals
    defaultFrequency := defaultFrequency
    channels := payload.channels.join.getD guide.channels
    toneRules := optionalText payload.toneRules guide.toneRules
    constraints := optionalText payload.constraints guide.constraints
    sourcesNotes := optionalText payload.sourcesNotes guide.sourcesNotes
    updatedByUserId := userId }

def updateGuide (guideId : ℕ) (payload : GuideUpdate) : Except GuideError GuideTable := do
  let guide ← getGuideRowOr404 tenantId s guideId
  raiseIf (guide.status = .superseded) (.validation "guide_superseded_immutable")
  let updated ← updatedGuide userId guide payload
  flushGuide (s := s) guideId updated
  return s.modify guideId fun _ => updated

end Service

inductive GuideOp
  | createDraft (tenantId userId guideId : ℕ) (payload : GuideCreate)
  | update (tenantId userId guideId : ℕ) (payload : GuideUpdate)
  | activate (tenantId userId guideId : ℕ)

def execGuide (s : GuideTable) : GuideOp → Except GuideError GuideTable
  | .createDraft tenantId userId guideId payload => createDraft tenantId userId s guideId payload
  | .update tenantId userId guideId payload => updateGuide tenantId userId s guideId payload
  | .activate tenantId userId guideId => activateGuide tenantId userId s guideId

end CoreOps.Marketing
