import CoreOps.Lib.Program
import CoreOps.Lib.Text
import CoreOps.Secrets.Vault

/-! The publishing secret lifecycle: bind, rotate, disconnect and two recoveries of a
connection's secret. A service is a program of atomic calls to the database and to the
vault; each of them may fail, and a vault call may fail after its effect as well. What
the vault has done stays when a service raises. A commit that raises has not committed.
Audit rows and user ids are left out. -/

namespace CoreOps.Secrets

open Text

inductive MarketingPublishingProvider
  | telegram
  | instagram
  | threads
  | tiktok
  deriving DecidableEq, Repr

def MarketingPublishingProvider.value : MarketingPublishingProvider → String
  | .telegram => "telegram"
  | .instagram => "instagram"
  | .threads => "threads"
  | .tiktok => "tiktok"

inductive MarketingPublishingConnectionStatus
  | notConnected
  | active
  | error
  | disabled
  | expired
  deriving DecidableEq, Repr

inductive MarketingPublishingTokenStatus
  | notConfigured
  | valid
  | expiring
  | invalid
  deriving DecidableEq, Repr

/-- The three columns of a bound secret, which are set together or not at all
(`ck_marketing_publishing_conn_secret_binding_consistent`). The reference is stored
rendered and is kept parsed here. -/
structure SecretBinding where
  secretRef : SecretRef
  secretVersion : ℕ+
  secretBoundAt : ℤ
  deriving DecidableEq

structure MarketingPublishingConnection where
  tenantId : Uuid
  provider : MarketingPublishingProvider
  status : MarketingPublishingConnectionStatus
  tokenStatus : MarketingPublishingTokenStatus
  binding : Option SecretBinding
  lastErrorCode : Option String
  lastErrorMessageRedacted : Option String
  deriving DecidableEq

/-- What a caller sees of a connection. -/
structure PublishingConnectionView where
  provider : MarketingPublishingProvider
  status : MarketingPublishingConnectionStatus
  tokenStatus : MarketingPublishingTokenStatus
  hasSecret : Bool
  lastErrorCode : Option String
  lastErrorMessageRedacted : Option String
  deriving DecidableEq

def toView (row : MarketingPublishingConnection) : PublishingConnectionView where
  provider := row.provider
  status := row.status
  tokenStatus := row.tokenStatus
  hasSecret := row.binding.isSome
  lastErrorCode := row.lastErrorCode
  lastErrorMessageRedacted := row.lastErrorMessageRedacted

/-! Error codes. -/

def codeMessages : List (String × String) :=
  [("provider_auth_failed", "Provider authentication failed"),
    ("provider_unavailable", "Provider temporarily unavailable"),
    ("health_check_timeout", "Health check timed out"),
    ("health_check_failed", "Health check failed"),
    ("vault_store_failed", "Secret vault store failed"),
    ("vault_revoke_failed", "Secret vault revoke failed"),
    ("vault_bind_failed", "Secret binding failed"),
    ("vault_rotate_failed", "Secret rotation failed"),
    ("vault_disconnect_failed", "Secret disconnect failed"),
    ("db_commit_failed", "Database commit failed during secret lifecycle"),
    ("vault_recovery_required", "Vault recovery required after partial lifecycle failure"),
    ("vault_activation_required", "Bound secret requires vault activation recovery"),
    ("vault_active_orphan", "Active vault orphan requires manual recovery"),
    ("unchecked_health", "Provider health not verified"),
    ("invalid_secret_input", "Invalid secret input"),
    ("unknown_provider_error", "Provider operation failed"),
    ("secret_already_bound", "Secret already bound to connection"),
    ("secret_not_bound", "Secret is not bound to connection"),
    ("secret_ref_invalid", "Stored secret reference is invalid"),
    ("secret_ref_missing_inconsistent", "Connection secret binding is inconsistent")]

structure SanitizedProviderError where
  errorCode : String
  messageRedacted : String
  deriving DecidableEq, Repr

def sanitizeProviderError (errorCode : String) : SanitizedProviderError :=
  let trimmed := String.ofList ((strip (orElse (some errorCode) "unknown_provider_error")).toList.take 64)
  let code := orElse (some trimmed) "unknown_provider_error"
  ⟨code, (codeMessages.lookup code).getD "Provider operation failed"⟩

/-- What a service raises or passes on: its own error, a `SecretVaultError`, or another
exception. -/
inductive LifecycleException
  | lifecycleError (errorCode : String)
  | connectionNotFound
  | vaultError (code : String)
  | other
  deriving DecidableEq, Repr

def LifecycleException.ofVault : VaultException → LifecycleException
  | .secretVaultError code => .vaultError code
  | .other => .other

def safeError (errorCode : String) : LifecycleException :=
  .lifecycleError (sanitizeProviderError errorCode).errorCode

/-! The calls of a service, and what answers them. -/

inductive VaultCall
  | storeSecret (ref : SecretRef) (plaintext : SecretPlaintext) (metadata : Option SecretStoreMetadata) (now : ℤ)
  | activateVersion (ref : SecretRef)
  | deactivateVersion (ref : SecretRef)
  | deleteVersion (ref : SecretRef)

inductive Call
  | lockConnection (tenantId connectionId : Uuid)
  | commit (connectionId : Uuid) (row : MarketingPublishingConnection)
  | rollback
  | versionExists (ref : SecretRef)
  | confirmInactive (ref : SecretRef)
  | getVersionState (ref : SecretRef)
  | vault (c : VaultCall)

abbrev Answer : Call → Type
  | .lockConnection .. => Option MarketingPublishingConnection
  | .commit .. | .rollback | .vault _ => Unit
  | .versionExists _ | .confirmInactive _ => Bool
  | .getVersionState _ => Option SecretVersionState

abbrev Action := Program LifecycleException Answer

/-- What goes wrong with a call: nothing, the database, or the vault, which may have
done what it was asked for all the same. -/
inductive Fault
  | none
  | db
  | vault (e : VaultException) (applied : Bool)
  deriving DecidableEq, Repr

structure World (port : SecretVaultPort) where
  connections : Table Uuid MarketingPublishingConnection
  vault : port.State

section Environment

variable (port : SecretVaultPort)

def VaultCall.exec : VaultCall → port.State → Except VaultException port.State
  | .storeSecret ref plaintext metadata now => port.storeSecret ref plaintext metadata now
  | .activateVersion ref => port.activateVersion ref
  | .deactivateVersion ref => port.deactivateVersion ref
  | .deleteVersion ref => port.deleteVersion ref

/-- The vault after a call that took effect, if it could. -/
def VaultCall.effect (c : VaultCall) (vault : port.State) : port.State :=
  match c.exec port vault with
  | .ok vault' => vault'
  | .error _ => vault

/-- The answer of a call that reads the database. -/
def fromDb {α : Type} (value : α) : Fault → Except LifecycleException α
  | .db => .error .other
  | _ => .ok value

/-- The answer of a call that reads the vault. -/
def fromVault {α : Type} (value : α) : Fault → Except LifecycleException α
  | .vault e _ => .error (.ofVault e)
  | _ => .ok value

def handle (w : World port) : (c : Call) → Fault → Except LifecycleException (Answer c) × World port
  | .lockConnection tenantId connectionId, f =>
    (fromDb ((w.connections.get? connectionId).filter fun row => row.tenantId = tenantId) f, w)
  | .commit _ _, .db => (.error .other, w)
  | .commit connectionId row, _ => (.ok (), { w with connections := w.connections.modify connectionId fun _ => row })
  | .rollback, _ => (.ok (), w)
  | .versionExists ref, f => (fromVault (port.versionExists ref w.vault) f, w)
  | .confirmInactive ref, f => (fromVault (port.confirmInactive ref w.vault) f, w)
  | .getVersionState ref, f => (fromVault (port.getVersionState w.vault ref) f, w)
  | .vault c, .vault e applied =>
    (.error (.ofVault e), if applied then { w with vault := c.effect port w.vault } else w)
  | .vault c, _ => ((c.exec port w.vault).map (fun _ => ()) |>.mapError .ofVault,
      { w with vault := c.effect port w.vault })

/-- The environment of the services. -/
def environment : Environment (World port) LifecycleException Fault Answer where
  handle := handle port
  idle := .none

end Environment

/-! The services. -/

section Services

open Program (raiseIf)

def getVersionState (ref : SecretRef) : Action (Option SecretVersionState) := Program.perform (Call.getVersionState ref)

def versionExists (ref : SecretRef) : Action Bool := Program.perform (Call.versionExists ref)

def confirmInactive (ref : SecretRef) : Action Bool := Program.perform (Call.confirmInactive ref)

def callVault (c : VaultCall) : Action Unit := Program.perform (Call.vault c)

def rollback : Action Unit := Program.perform Call.rollback

variable (tenantId connectionId : Uuid)

/-- `get_publishing_connection_for_update`. -/
def lockConnection : Action (Option MarketingPublishingConnection) :=
  Program.perform (Call.lockConnection tenantId connectionId)

def commit (row : MarketingPublishingConnection) : Action Unit := Program.perform (Call.commit connectionId row)

def lockOr404 : Action MarketingPublishingConnection := do
  match ← lockConnection tenantId connectionId with
  | none => throw .connectionNotFound
  | some row => return row

def MarketingPublishingConnection.withError (row : MarketingPublishingConnection) (code : String) :
    MarketingPublishingConnection :=
  let sanitized := sanitizeProviderError code
  { row with
    lastErrorCode := some sanitized.errorCode
    lastErrorMessageRedacted := some sanitized.messageRedacted }

def MarketingPublishingConnection.withoutError (row : MarketingPublishingConnection) : MarketingPublishingConnection :=
  { row with lastErrorCode := none, lastErrorMessageRedacted := none }

/-- `_record_recovery_code`, which never raises. -/
def recordRecoveryCode (recoveryCode : String) : Action Unit :=
  tryCatch (do
    let row ← lockOr404 tenantId connectionId
    commit connectionId (row.withError recoveryCode))
  fun _ => rollback

/-- The first step after a commit: the bound version is active, or is made so. -/
def ensureActive (boundRef : SecretRef) : Action Unit := do
  match ← getVersionState boundRef with
  | some .active => return ()
  | some .pending => callVault (.activateVersion boundRef)
  | _ => throw (.vaultError "secret_version_inactive")

/-- `_post_commit_activate`. -/
def postCommitActivate (boundRef : SecretRef) : Action PublishingConnectionView := do
  tryCatch (ensureActive boundRef) fun
    | .vaultError _ => do
      recordRecoveryCode tenantId connectionId "vault_activation_required"
      throw (safeError "vault_activation_required")
    | e => throw e
  let row ← lockOr404 tenantId connectionId
  rollback
  return toView row

/-- Deactivate a version that exists and is not deactivated. -/
def deactivateIfLive (ref : SecretRef) : Action Unit := do
  match ← versionExists ref with
  | false => return ()
  | true =>
    match ← getVersionState ref with
    | some .deactivated => return ()
    | _ => callVault (.deactivateVersion ref)

/-- `_post_commit_deactivate_previous`. -/
def postCommitDeactivatePrevious (oldRef : SecretRef) : Action Unit :=
  tryCatch (deactivateIfLive oldRef) fun
    | .vaultError _ => recordRecoveryCode tenantId connectionId "vault_recovery_required"
    | e => throw e

/-- `_cleanup_inactive_orphan_or_raise`. -/
def cleanupInactiveOrphanOrRaise (ref : SecretRef) : Action Unit := do
  match ← getVersionState ref with
  | none => return ()
  | some .active => throw (safeError "vault_active_orphan")
  | some _ => callVault (.deleteVersion ref)

/-- `_safe_delete_pending`. -/
def safeDeletePending (ref : SecretRef) : Action Unit :=
  tryCatch (do
    match ← getVersionState ref with
    | some .pending | some .deactivated => callVault (.deleteVersion ref)
    | _ => return ())
  fun
    | .vaultError _ => return ()
    | e => throw e

def compensate : Option SecretRef → Action Unit
  | none => return ()
  | some newRef => safeDeletePending newRef

/-- The exception handlers of bind and rotate; `newRef` is what the variable holds while
`body` runs. -/
def compensating {α : Type} (newRef : Option SecretRef) (body : Action α) : Action α :=
  tryCatch body fun
    | .lifecycleError errorCode => do
      rollback
      compensate newRef
      throw (.lifecycleError errorCode)
    | _ => do
      rollback
      compensate newRef
      throw (safeError "db_commit_failed")

inductive HealthCheckStatus
  | unchecked
  | healthy
  | unhealthy
  deriving DecidableEq, Repr

structure HealthCheckResult where
  status : HealthCheckStatus
  errorCode : Option String
  deriving DecidableEq, Repr

/-- What comes of the health check; `none` when the checker raises. -/
def checkHealth (newRef : SecretRef) : Option HealthCheckResult → Action Unit
  | none => compensating (some newRef) (throw .other)
  | some health =>
    if health.status = .unhealthy then do
      compensating (some newRef) (callVault (.deleteVersion newRef))
      compensating none (throw (safeError (orElse health.errorCode "health_check_failed")))
    else return ()

def MarketingPublishingConnection.bind (row : MarketingPublishingConnection) (newRef : SecretRef) (now : ℤ) :
    MarketingPublishingConnection :=
  { row with
    binding := some ⟨newRef, newRef.version, now⟩
    tokenStatus := .notConfigured
    lastErrorCode := none
    lastErrorMessageRedacted := none }

/-- Make room for a new version and store it. -/
def storeNewVersion (row : MarketingPublishingConnection) (newRef : SecretRef) (plaintext : SecretPlaintext)
    (now : ℤ) : Action Unit := do
  cleanupInactiveOrphanOrRaise newRef
  callVault (.storeSecret newRef plaintext (some { provider := some row.provider.value }) now)

/-- Check a stored version and bind it in the database. -/
def commitNewVersion (row : MarketingPublishingConnection) (newRef : SecretRef) (health : Option HealthCheckResult)
    (now : ℤ) : Action Unit := do
  checkHealth newRef health
  compensating (some newRef) (commit connectionId (row.bind newRef now))

def bindSecret (plaintext : SecretPlaintext) (health : Option HealthCheckResult) (now : ℤ) :
    Action PublishingConnectionView := do
  let newRef := buildSecretRef tenantId connectionId 1
  let row ← compensating none do
    let row ← lockOr404 tenantId connectionId
    raiseIf row.binding.isSome (safeError "secret_already_bound")
    storeNewVersion row newRef plaintext now
    return row
  commitNewVersion connectionId row newRef health now
  postCommitActivate tenantId connectionId newRef

/-- The binding of a row, with a reference that names the connection. -/
def boundOrRaise (row : MarketingPublishingConnection) : Action SecretBinding := do
  match row.binding with
  | none => throw (safeError "secret_not_bound")
  | some binding => do
    raiseIf (binding.secretRef.owned tenantId connectionId = false) (safeError "secret_ref_invalid")
    return binding

def rotateSecret (plaintext : SecretPlaintext) (health : Option HealthCheckResult) (now : ℤ) :
    Action PublishingConnectionView := do
  let (row, old) ← compensating none do
    let row ← lockOr404 tenantId connectionId
    let old ← boundOrRaise tenantId connectionId row
    storeNewVersion row (buildSecretRef tenantId connectionId (old.secretVersion + 1)) plaintext now
    return (row, old)
  let newRef := buildSecretRef tenantId connectionId (old.secretVersion + 1)
  commitNewVersion connectionId row newRef health now
  let view ← postCommitActivate tenantId connectionId newRef
  postCommitDeactivatePrevious tenantId connectionId old.secretRef
  return view

/-- The exception handlers of disconnect and of the recoveries. -/
def rollingBack {α : Type} (errorCode : String) (record : Action Unit) (body : Action α) : Action α :=
  tryCatch body fun
    | .lifecycleError errorCode => do
      rollback
      throw (.lifecycleError errorCode)
    | _ => do
      rollback
      record
      throw (safeError errorCode)

/-- `_apply_disconnected_status`. -/
def MarketingPublishingConnection.disconnected (row : MarketingPublishingConnection) : MarketingPublishingConnection :=
  { row with status := .notConnected, tokenStatus := .notConfigured }

/-- Deactivate the bound version where there is one. -/
def revoke (ref : SecretRef) : Action Unit := do
  match ← versionExists ref with
  | false => return ()
  | true =>
    tryCatch (callVault (.deactivateVersion ref)) fun
      | .vaultError _ => throw (safeError "vault_disconnect_failed")
      | e => throw e

def MarketingPublishingConnection.cleared (row : MarketingPublishingConnection) : MarketingPublishingConnection :=
  { row.disconnected.withoutError with binding := none }

/-- Clear the binding of a row, once its version is confirmed to be inactive. -/
def clearBinding (row : MarketingPublishingConnection) (ref : SecretRef) : Action PublishingConnectionView := do
  match ← confirmInactive ref with
  | false => do
    commit connectionId (row.withError "vault_revoke_failed")
    throw (safeError "vault_revoke_failed")
  | true => do
    commit connectionId row.cleared
    return toView row.cleared

def disconnect : Action PublishingConnectionView :=
  rollingBack "db_commit_failed" (recordRecoveryCode tenantId connectionId "vault_recovery_required") do
    let row ← lockOr404 tenantId connectionId
    match row.binding with
    | none => do
      commit connectionId row.disconnected
      return toView row.disconnected
    | some _ => do
      let binding ← boundOrRaise tenantId connectionId row
      revoke binding.secretRef
      clearBinding connectionId row binding.secretRef

/-- What a recovery writes. -/
def MarketingPublishingConnection.recovered (row : MarketingPublishingConnection) : MarketingPublishingConnection :=
  { row.withoutError with tokenStatus := .notConfigured }

def reactivate (ref : SecretRef) : Action Unit := do
  match ← getVersionState ref with
  | some .active => return ()
  | some .pending => callVault (.activateVersion ref)
  | _ => throw (safeError "vault_recovery_required")

def recoverBoundActivation : Action PublishingConnectionView :=
  rollingBack "vault_recovery_required" (return ()) do
    let row ← lockOr404 tenantId connectionId
    let binding ← boundOrRaise tenantId connectionId row
    reactivate binding.secretRef
    commit connectionId row.recovered
    return toView row.recovered

def activateIfPending (ref : SecretRef) : Action Unit := do
  match ← getVersionState ref with
  | some .pending => callVault (.activateVersion ref)
  | _ => return ()

/-- A row that has been rotated. -/
def rotatedOrRaise (row : MarketingPublishingConnection) : Action SecretBinding := do
  raiseIf (row.binding.all fun binding => binding.secretVersion < 2) (safeError "secret_not_bound")
  boundOrRaise tenantId connectionId row

def recoverRotationPreviousDeactivate : Action PublishingConnectionView :=
  rollingBack "vault_recovery_required" (return ()) do
    let row ← lockOr404 tenantId connectionId
    let binding ← rotatedOrRaise tenantId connectionId row
    activateIfPending binding.secretRef
    deactivateIfLive (buildSecretRef tenantId connectionId (binding.secretVersion - 1))
    commit connectionId row.withoutError
    return toView row.withoutError

end Services

/-- The calls a lifecycle service takes. -/
inductive Op
  | bindSecret (tenantId connectionId : Uuid) (plaintext : SecretPlaintext) (health : Option HealthCheckResult)
    (now : ℤ)
  | rotateSecret (tenantId connectionId : Uuid) (plaintext : SecretPlaintext) (health : Option HealthCheckResult)
    (now : ℤ)
  | disconnect (tenantId connectionId : Uuid)
  | recoverBoundActivation (tenantId connectionId : Uuid)
  | recoverRotationPreviousDeactivate (tenantId connectionId : Uuid)

def Op.program : Op → Action PublishingConnectionView
  | .bindSecret tenantId connectionId plaintext health now => Secrets.bindSecret tenantId connectionId plaintext health now
  | .rotateSecret tenantId connectionId plaintext health now =>
    Secrets.rotateSecret tenantId connectionId plaintext health now
  | .disconnect tenantId connectionId => Secrets.disconnect tenantId connectionId
  | .recoverBoundActivation tenantId connectionId => Secrets.recoverBoundActivation tenantId connectionId
  | .recoverRotationPreviousDeactivate tenantId connectionId =>
    Secrets.recoverRotationPreviousDeactivate tenantId connectionId

/-- One call with what fails in it: its result, and the world it leaves. -/
def Op.execute (port : SecretVaultPort) (op : Op) (faults : List Fault) (w : World port) :
    Except LifecycleException PublishingConnectionView × World port :=
  op.program.run (environment port) faults w

end CoreOps.Secrets
