import CoreOps.Parties.Directory
import CoreOps.PublicLeads.RateLimit
import Mathlib.Data.List.ReduceOption

/-! The public form's entry: its guards, the reuse of a party that matches exactly, the
new party otherwise, and the work item. What the module guard and the feature check
answer, and what the workflow service and the commit answer, are arguments of a call. A
refused call rolls back; what the limiter counted stays. -/

namespace CoreOps.PublicLeads

open Text Checked
open Parties hiding createParty

def publicMatchNote : String := "Public demo form matched existing contact"

inductive TenantStatus
  | active
  | trial
  | suspended
  | archived
  deriving DecidableEq, Repr

inductive LeadError
  | permissionDenied (message : String)
  | rateLimitExceeded (message : String)
  | config (message : String)
  | refused (message : String)
  deriving DecidableEq, Repr

/-- An id in the settings, as `uuid.UUID` reads it. -/
inductive ConfiguredId
  | unset
  | malformed
  | id (n : ℕ)
  deriving DecidableEq, Repr

structure Settings where
  enabled : Bool
  allowedOriginList : List String
  rateLimitEnabled : Bool
  rateLimitWindowSeconds : ℤ
  rateLimitMaxRequests : ℤ
  rateLimitHourWindowSeconds : ℤ
  rateLimitHourMaxRequests : ℤ
  targetTenantId : ConfiguredId
  pipelineId : ConfiguredId
  stageId : ConfiguredId
  createdByUserId : ConfiguredId

/-- The form, with what its schema checks of the texts that are searched by. -/
structure PublicLeadCreate where
  name : String
  phone : Option String
  email : Option String
  preferredChannel : Option String
  processArea : Option String
  message : Option String
  sourcePage : String
  name_given : strip name ≠ ""
  reachable : (phone.filter (· ≠ "")).isSome ∨ (email.filter (· ≠ "")).isSome

/-- The rows that the settings point at: tenants, the tenant of a pipeline, the pipeline
of a stage, and which users are active. -/
structure Targets where
  tenants : Table ℕ TenantStatus
  pipelines : Table ℕ ℕ
  stages : Table ℕ ℕ
  users : Table ℕ Bool

inductive MatchMeta
  | exact_ (matchedOn : List MatchKey) (ambiguousPartyIds : List ℕ)
  | weakOnly (possibleMatchPartyIds : List ℕ)
  | none_
  deriving DecidableEq, Repr

structure WorkItem where
  tenantId : ℕ
  pipelineId : ℕ
  stageId : ℕ
  title : String
  description : String
  primaryPartyId : ℕ
  partyMatch : MatchMeta
  deriving DecidableEq, Repr

structure Database where
  directory : Directory
  workItems : List WorkItem

structure State (T : Type*) where
  buckets : Buckets T
  db : Database

/-- A call, with the clocks and the answers of the services that it meets. -/
structure LeadCall (T : Type*) where
  settings : Settings
  payload : PublicLeadCreate
  origin : Option String
  clientHost : Option String
  monotonic : T
  now : ℤ
  targets : Targets
  entitled : Except LeadError Unit
  workItemCreated : Except LeadError Unit

/-! The guards. -/

def assertEnabled (settings : Settings) : Except LeadError Unit :=
  raiseIf (settings.enabled = false) (.permissionDenied "Public lead capture is disabled")

/-- An empty allowlist enforces nothing; any other refuses a missing origin. -/
def assertOriginAllowed (settings : Settings) (origin : Option String) : Except LeadError Unit :=
  if settings.allowedOriginList = [] then .ok ()
  else match origin.filter (· ≠ "") with
    | none => .error (.permissionDenied "Origin is not allowed")
    | some origin => raiseIf (String.ofList (origin.toList.rdropWhile (· = '/')) ∉ settings.allowedOriginList)
        (.permissionDenied "Origin is not allowed")

/-- The key of a peer address; `unknown` where there is none. -/
def rateLimitClientIp (host : Option String) : String := orElse (some (strip (host.getD ""))) "unknown"

def rateLimitRules (settings : Settings) : List RateLimitRule :=
  [⟨settings.rateLimitWindowSeconds, settings.rateLimitMaxRequests⟩,
    ⟨settings.rateLimitHourWindowSeconds, settings.rateLimitHourMaxRequests⟩]

def assertRateLimit {T : Type*} [Ring T] [LinearOrder T] (c : LeadCall T) (buckets : Buckets T) :
    Except LeadError Unit × Buckets T :=
  if c.settings.rateLimitEnabled = false then (.ok (), buckets)
  else
    let (answer, buckets) := checkAndIncrement
      ⟨c.monotonic, rateLimitClientIp c.clientHost, rateLimitRules c.settings⟩ buckets
    (answer.mapError .rateLimitExceeded, buckets)

structure RequiredIds where
  tenantId : ℕ
  pipelineId : ℕ
  stageId : ℕ
  userId : ℕ

def requiredIds (settings : Settings) : Except LeadError RequiredIds :=
  match settings.targetTenantId, settings.pipelineId, settings.stageId, settings.createdByUserId with
  | .id tenantId, .id pipelineId, .id stageId, .id userId => .ok ⟨tenantId, pipelineId, stageId, userId⟩
  | tenant, pipeline, stage, user =>
    if .unset ∈ [tenant, pipeline, stage, user] then .error (.config "Public lead target IDs are not configured")
    else .error (.config "Public lead target IDs are invalid")

def assertRuntimeTargets (targets : Targets) (ids : RequiredIds) : Except LeadError Unit := do
  raiseIf (¬ ((targets.tenants.get? ids.tenantId).any fun status => status = .active ∨ status = .trial))
    (.config "Public lead target tenant is invalid")
  raiseIf (targets.pipelines.get? ids.pipelineId ≠ some ids.tenantId) (.config "Public lead target pipeline is invalid")
  raiseIf (targets.stages.get? ids.stageId ≠ some ids.pipelineId) (.config "Public lead target stage is invalid")
  raiseIf (targets.users.get? ids.userId ≠ some true) (.config "Public lead created-by user is invalid")

/-! The party. -/

def matchRequest (payload : PublicLeadCreate) : PartyMatchRequest where
  name := some payload.name
  phone := payload.phone
  email := payload.email.filter (· ≠ "")
  telegramUsername := none
  telegramUserId := none
  whatsapp := none
  some_given := ⟨payload.name, List.reduceOption_mem_iff.2 (by simp), payload.name_given⟩

/-- The first exact hit is reused; weak hits are only noted. -/
def resolvePartyMatch (tables : CharTables) (payload : PublicLeadCreate) (tenantId : ℕ) (d : Directory) :
    Option ℕ × MatchMeta :=
  let response := matchParties tables tenantId (matchRequest payload) d
  let exactHits := response.matches_.filter (·.matchType = .exact_)
  let weakHits := response.matches_.filter (·.matchType = .weak)
  let unmatched := (none, if weakHits = [] then .none_ else .weakOnly (weakHits.map (·.partyId)))
  match exactHits with
  | [] => unmatched
  | best :: _ =>
    match d.getParty tenantId best.partyId with
    | none => unmatched
    | some _ => (some best.partyId,
        .exact_ best.matchedOn (if 1 < exactHits.length then exactHits.map (·.partyId) else []))

/-- The contact methods of a new party. -/
def leadMethods (payload : PublicLeadCreate) (tenantId partyId : ℕ) : List ContactMethod :=
  (payload.email.filter (· ≠ "")).toList.map
    (fun email => ⟨tenantId, partyId, .email, email, some "public_form", true⟩) ++
  (payload.phone.filter (· ≠ "")).toList.map
    (fun phone => ⟨tenantId, partyId, .phone, phone, some "public_form", payload.email.isNone⟩)

def createParty (payload : PublicLeadCreate) (tenantId : ℕ) (now : ℤ) (d : Directory) : ℕ × Directory :=
  let partyId := d.parties.freshKey
  let d := d.addParty ⟨tenantId, .person, payload.name, .active, none, now⟩
  (partyId, (leadMethods payload tenantId partyId).foldl Directory.addContactMethod d)

/-! The work item. -/

def buildDescription (payload : PublicLeadCreate) (matchMeta : MatchMeta) : String :=
  let lines := ["Source page: " ++ payload.sourcePage, "Preferred channel: " ++ payload.preferredChannel.getD "",
    "Process area: " ++ payload.processArea.getD ""]
  let noted := match matchMeta with
    | .exact_ matchedOn ambiguous =>
      let keys := ", ".intercalate (matchedOn.map (·.value))
      (publicMatchNote ++ " (" ++ keys ++ ")") ::
        (if ambiguous = [] then [] else [s!"Ambiguous exact matches: {ambiguous.length}"])
    | _ => []
  strip ("\n".intercalate (lines ++ noted ++ ["", payload.message.getD ""]))

/-- What runs on the database, up to the commit. -/
def leadTransaction {T : Type*} (tables : CharTables) (c : LeadCall T) (db : Database) :
    Except LeadError Database := do
  let ids ← requiredIds c.settings
  assertRuntimeTargets c.targets ids
  c.entitled
  let (matched, matchMeta) := resolvePartyMatch tables c.payload ids.tenantId db.directory
  let (partyId, directory) := match matched with
    | some partyId => (partyId, db.directory)
    | none => createParty c.payload ids.tenantId c.now db.directory
  c.workItemCreated
  return ⟨directory, db.workItems ++ [⟨ids.tenantId, ids.pipelineId, ids.stageId,
    s!"Demo request: {c.payload.name}", buildDescription c.payload matchMeta, partyId, matchMeta⟩]⟩

def createLead {T : Type*} [Ring T] [LinearOrder T] (tables : CharTables) (c : LeadCall T) (s : State T) :
    Except LeadError Unit × State T :=
  match assertEnabled c.settings, assertOriginAllowed c.settings c.origin with
  | .error e, _ => (.error e, s)
  | .ok _, .error e => (.error e, s)
  | .ok _, .ok _ =>
    match assertRateLimit c s.buckets with
    | (.error e, buckets) => (.error e, { s with buckets })
    | (.ok _, buckets) =>
      match leadTransaction tables c s.db with
      | .error e => (.error e, { s with buckets })
      | .ok db => (.ok (), ⟨buckets, db⟩)

/-- Calls one after the other. -/
def createLeads {T : Type*} [Ring T] [LinearOrder T] (tables : CharTables) (calls : List (LeadCall T))
    (s : State T) : State T :=
  calls.foldl (fun s c => (createLead tables c s).2) s

end CoreOps.PublicLeads
