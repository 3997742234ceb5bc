import CoreOps.Lib.Checked
import CoreOps.Lib.Table

/-! The module registry: which modules a tenant has, in which status and mode, and
the services that change them. A method returns the state its transaction commits,
or the exception it raises. Settings are kept as key and value texts. -/

namespace CoreOps.Modules

open Checked

inductive ModuleStatus
  | enabled
  | disabled
  | trial
  | suspended
  deriving DecidableEq, Repr

inductive ModuleMode
  | internal
  | external
  | hybrid
  | disabled
  deriving DecidableEq, Repr

inductive SubscriptionStatus
  | active
  | trial
  | pastDue
  | cancelled
  | expired
  deriving DecidableEq, Repr

/-- `.value` of a status, as messages show it. -/
def ModuleStatus.value : ModuleStatus → String
  | .enabled => "enabled"
  | .disabled => "disabled"
  | .trial => "trial"
  | .suspended => "suspended"

abbrev Settings := List (String × String)

structure ModuleDefinition where
  defaultMode : ModuleMode
  required : List String
  isActive : Bool
  deriving DecidableEq, Repr

structure TenantModule where
  status : ModuleStatus
  mode : ModuleMode
  externalProviderCode : Option String
  settings : Settings
  deriving DecidableEq, Repr

structure Subscription where
  planCode : String
  status : SubscriptionStatus
  deriving DecidableEq, Repr

/-- Tenants are held by their provider companies, plans with their default modules,
providers with the modules they support; a connection is listed when it is active. -/
structure State where
  definitions : Table String ModuleDefinition
  tenantModules : Table (ℕ × String) TenantModule
  tenants : Table ℕ ℕ
  plans : Table String (List String)
  subscriptions : Table ℕ Subscription
  providers : Table String (List String)
  activeConnections : List (ℕ × String × String)

structure User where
  providerStaff : List ℕ

structure TenantModuleUpdate where
  status : Option ModuleStatus
  mode : Option ModuleMode
  externalProviderCode : Option String
  settings : Option Settings

structure TenantModuleModeUpdate where
  mode : ModuleMode
  externalProviderCode : Option String
  settings : Option Settings

inductive ModuleError
  | notFound (message : String)
  | conflict (message : String)
  | permissionDenied (message : String)
  | moduleDisabled (message : String)
  | moduleDependency (message : String)
  | integrityError
  deriving DecidableEq, Repr

section Guard

variable (s : State) (tenantId : ℕ)

def activeModuleStatuses : List ModuleStatus := [.enabled, .trial]

def isActive (moduleCode : String) : Bool :=
  (s.tenantModules.get? (tenantId, moduleCode)).any fun m => m.status ∈ activeModuleStatuses

def assertEnabled (moduleCode : String) : Except ModuleError Unit := do
  let tenantModule ← orRaise (s.tenantModules.get? (tenantId, moduleCode))
    (.moduleDisabled s!"Module '{moduleCode}' is not configured for tenant")
  let status := tenantModule.status.value
  raiseIf (tenantModule.status ∉ activeModuleStatuses)
    (.moduleDisabled s!"Module '{moduleCode}' is not enabled (status: {status})")

def checkRequiredDependencies (moduleCode : String) : Except ModuleError (List String) := do
  let definition ← orRaise (s.definitions.get? moduleCode) (.notFound s!"Unknown module '{moduleCode}'")
  return definition.required.filter fun depCode => ¬ isActive s tenantId depCode

def assertDependencies (moduleCode : String) : Except ModuleError Unit := do
  let missing ← checkRequiredDependencies s tenantId moduleCode
  let codes := ", ".intercalate missing
  raiseIf (missing ≠ [])
    (.moduleDependency s!"Cannot enable '{moduleCode}': required modules not active: {codes}")

/-- The active modules that require `moduleCode`, among the active definitions. -/
def listActiveDependents (moduleCode : String) : List String :=
  let dependents := s.definitions.rows.filter fun d =>
    d.2.isActive ∧ moduleCode ∈ d.2.required ∧ isActive s tenantId d.1
  (dependents.map Prod.fst).mergeSort (· ≤ ·)

def assertNoActiveDependents (moduleCode : String) : Except ModuleError Unit := do
  let dependents := listActiveDependents s tenantId moduleCode
  let codes := ", ".intercalate dependents
  raiseIf (dependents ≠ [])
    (.moduleDependency s!"Cannot disable '{moduleCode}': required by active modules: {codes}")

end Guard

section Access

def getProviderStaff (user : User) : Option ℕ := user.providerStaff.head?

/-- `_ensure_provider_access`; each service has its own text. -/
def ensureAccess (denied : String) (user : User) (tenantId : ℕ) (s : State) : Except ModuleError Unit := do
  let company ← orRaise (s.tenants.get? tenantId) (.notFound "Tenant not found")
  raiseIf (getProviderStaff user ≠ some company) (.permissionDenied denied)

def ensureModuleAccess : User → ℕ → State → Except ModuleError Unit :=
  ensureAccess "Only provider staff can manage tenant modules"

def ensureSubscriptionAccess : User → ℕ → State → Except ModuleError Unit :=
  ensureAccess "Only provider staff can manage subscriptions"

end Access

section Rows

variable (tenantId : ℕ)

def State.modifyModule (s : State) (moduleCode : String) (f : TenantModule → TenantModule) : State :=
  { s with tenantModules := s.tenantModules.modify (tenantId, moduleCode) f }

/-- A module row of a tenant that exists, disabled. -/
def createTenantModule (s : State) (moduleCode : String) : Except ModuleError State := do
  raiseIf (s.tenants.get? tenantId = none) .integrityError
  return { s with tenantModules := s.tenantModules.insert (tenantId, moduleCode) ⟨.disabled, .disabled, none, []⟩ }

def getTenantModule (user : User) (moduleCode : String) (s : State) : Except ModuleError TenantModule := do
  ensureModuleAccess user tenantId s
  orRaise (s.tenantModules.get? (tenantId, moduleCode))
    (.notFound s!"Module '{moduleCode}' not found for tenant")

def provisionModule (s : State) (moduleCode : String) : Except ModuleError State :=
  if (s.tenantModules.get? (tenantId, moduleCode)).isSome then pure s
  else createTenantModule tenantId s moduleCode

def provisionTenantModules (s : State) : Except ModuleError State :=
  let definitions := s.definitions.rows.filter fun d => d.2.isActive
  (definitions.map Prod.fst).foldlM (provisionModule tenantId) s

/-- The definition of a module, and the state with a row for it. -/
def getOrCreateTenantModule (s : State) (moduleCode : String) :
    Except ModuleError (State × ModuleDefinition) := do
  let definition ← orRaise (s.definitions.get? moduleCode) (.notFound s!"Unknown module '{moduleCode}'")
  let s' ← provisionModule tenantId s moduleCode
  return (s', definition)

end Rows

section Service

variable (user : User) (tenantId : ℕ) (moduleCode : String)

/-- A payload value of None leaves the attribute alone. -/
def TenantModuleUpdate.apply (payload : TenantModuleUpdate) (m : TenantModule) : TenantModule :=
  { status := payload.status.getD m.status
    mode := payload.mode.getD m.mode
    externalProviderCode := payload.externalProviderCode.or m.externalProviderCode
    settings := payload.settings.getD m.settings }

def updateTenantModule (payload : TenantModuleUpdate) (s : State) : Except ModuleError State := do
  let _ ← getTenantModule tenantId user moduleCode s
  return s.modifyModule tenantId moduleCode payload.apply

def TenantModule.enable (definition : ModuleDefinition) (m : TenantModule) : TenantModule :=
  { m with
    status := .enabled
    mode := if m.mode = .disabled then definition.defaultMode else m.mode }

def enableModule (s : State) : Except ModuleError State := do
  ensureModuleAccess user tenantId s
  let (s, definition) ← getOrCreateTenantModule tenantId s moduleCode
  if (s.tenantModules.get? (tenantId, moduleCode)).any (·.status = .enabled) then
    return s
  else
    assertDependencies s tenantId moduleCode
    return s.modifyModule tenantId moduleCode (TenantModule.enable definition)

def TenantModule.disable (m : TenantModule) : TenantModule :=
  { m with status := .disabled, mode := .disabled, externalProviderCode := none }

def disableModule (s : State) : Except ModuleError State := do
  let tenantModule ← getTenantModule tenantId user moduleCode s
  if tenantModule.status = .disabled then
    return s
  else
    assertNoActiveDependents s tenantId moduleCode
    return s.modifyModule tenantId moduleCode TenantModule.disable

/-- `IntegrationService.validate_external_module_mode`, in external mode. -/
def validateExternalModuleMode (providerCode : String) (s : State) : Except ModuleError Unit := do
  let supported ← orRaise (s.providers.get? providerCode)
    (.notFound s!"Integration provider '{providerCode}' not found")
  raiseIf (moduleCode ∉ supported)
    (.conflict s!"Provider '{providerCode}' does not support module '{moduleCode}'")
  raiseIf ((tenantId, providerCode, moduleCode) ∉ s.activeConnections)
    (.conflict s!"Active integration connection required for external mode ({providerCode} / {moduleCode}). Create and test a connection first.")

/-- What external mode asks of the provider the row names by then; an empty code is
no code. -/
def checkExternal (m : TenantModule) (s : State) : Except ModuleError Unit :=
  match m.mode, m.externalProviderCode.filter (· ≠ "") with
  | .external, none => .error (.conflict "external_provider_code is required for external mode")
  | .external, some providerCode => validateExternalModuleMode tenantId moduleCode providerCode s
  | _, _ => pure ()

def TenantModuleModeUpdate.apply (payload : TenantModuleModeUpdate) (m : TenantModule) : TenantModule :=
  { m with
    mode := payload.mode
    externalProviderCode := payload.externalProviderCode.or m.externalProviderCode
    settings := payload.settings.getD m.settings }

def setModuleMode (payload : TenantModuleModeUpdate) (s : State) : Except ModuleError State := do
  let tenantModule ← getTenantModule tenantId user moduleCode s
  raiseIf (tenantModule.status = .disabled) (.conflict "Enable the module before changing its mode")
  checkExternal tenantId moduleCode (payload.apply tenantModule) s
  return s.modifyModule tenantId moduleCode payload.apply

def modulePriority : List String :=
  ["parties", "catalog", "crm", "documents", "finance", "accounting", "integrations", "ai"]

def sortModuleCodes (moduleCodes : List String) : List String :=
  moduleCodes.foldl (fun ordered code => if code ∈ ordered then ordered else ordered ++ [code])
    (modulePriority.filter (· ∈ moduleCodes))

def TenantModule.start (status : ModuleStatus) (definition : ModuleDefinition) (m : TenantModule) : TenantModule :=
  { m with status := status, mode := definition.defaultMode }

/-- One round of the loop of `enable_modules_ordered`. -/
def enableOne (status : ModuleStatus) (s : State) (code : String) : Except ModuleError State := do
  assertDependencies s tenantId code
  let (s, definition) ← getOrCreateTenantModule tenantId s code
  return s.modifyModule tenantId code (TenantModule.start status definition)

def enableModulesOrdered (moduleCodes : List String) (asTrial : Bool) (s : State) : Except ModuleError State := do
  let s ← provisionTenantModules tenantId s
  (sortModuleCodes moduleCodes).foldlM (enableOne tenantId (if asTrial then .trial else .enabled)) s

def upsertSubscription (planCode : String) (s : State) : State :=
  let row : Subscription := ⟨planCode, .trial⟩
  { s with subscriptions := (s.subscriptions.insert tenantId row).modify tenantId fun _ => row }

def assignPlan (planCode : String) (s : State) : Except ModuleError State := do
  ensureSubscriptionAccess user tenantId s
  let defaultModules ← orRaise (s.plans.get? planCode) (.notFound s!"Plan '{planCode}' not found")
  let s ← provisionTenantModules tenantId s
  enableModulesOrdered tenantId defaultModules true (upsertSubscription tenantId planCode s)

end Service

end CoreOps.Modules
