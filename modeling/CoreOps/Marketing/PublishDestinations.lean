import CoreOps.Lib.Checked
import CoreOps.Lib.Json
import CoreOps.Lib.UniqueIndex
import CoreOps.Secrets.Lifecycle

/-! Publish destinations: where a connection may publish to. A destination leaves the
service only by being archived, and its external id is fixed by the first validation. A
method returns the state its transaction commits, or the exception it raises; the id of a
new row and the time are arguments. Row timestamps and audit rows are left out. -/

namespace CoreOps.Marketing

open Checked Secrets Text

inductive MarketingDestinationStatus
  | enabled
  | disabled
  | archived
  deriving DecidableEq, Repr

inductive MarketingDestinationValidationStatus
  | unchecked
  | valid
  | invalid
  | unavailable
  deriving DecidableEq, Repr

inductive MarketingPublishDestinationType
  | telegramChat
  | instagramUser
  | threadsUser
  | tiktokUser
  deriving DecidableEq, Repr

def destinationTypeProvider : MarketingPublishDestinationType → MarketingPublishingProvider
  | .telegramChat => .telegram
  | .instagramUser => .instagram
  | .threadsUser => .threads
  | .tiktokUser => .tiktok

def disabledDestinationCapabilities : List MarketingPublishDestinationType := [.tiktokUser]

def destinationCapabilityEnabled (destinationType : MarketingPublishDestinationType) : Prop :=
  destinationType ∉ disabledDestinationCapabilities

instance : DecidablePred destinationCapabilityEnabled := fun _ =>
  inferInstanceAs (Decidable (_ ∉ disabledDestinationCapabilities))

inductive DestinationError
  | connectionNotFound
  | notFound
  | validation (detail : String)
  | integrityError
  | dataError
  deriving DecidableEq, Repr

structure MarketingPublishDestination where
  tenantId : Uuid
  publishingConnectionId : Uuid
  provider : MarketingPublishingProvider
  destinationType : MarketingPublishDestinationType
  externalId : String
  displayName : String
  status : MarketingDestinationStatus
  validationStatus : MarketingDestinationValidationStatus
  validatedAt : Option ℤ
  validationErrorCode : Option String
  identityLockedAt : Option ℤ
  metadataJson : List (String × Json)
  createdByUserId : Option Uuid
  updatedByUserId : Option Uuid

/-- The connections of all tenants, which the service only reads, and their destinations. -/
structure DestinationState where
  connections : Table Uuid MarketingPublishingConnection
  destinations : Table Uuid MarketingPublishDestination

/-! What is checked of a display name and of metadata. -/

def forbiddenMetadataKeys : List String :=
  ["token", "accesstoken", "refreshtoken", "secret", "secretref", "password", "credential", "credentials",
    "authorization", "apikey", "bottoken", "clientsecret", "privatekey", "ciphertext", "nonce", "wrappedkey",
    "credentialsjson"]

/-- `_CAMEL_BOUNDARY_RE.sub(" ", key)`. -/
def splitCamel : List Char → List Char
  | a :: b :: rest =>
    if (a.isLower ∨ a.isDigit) ∧ b.isUpper then a :: ' ' :: splitCamel (b :: rest) else a :: splitCamel (b :: rest)
  | cs => cs

/-- `str.casefold`, up to characters whose folding has no letter of ASCII in it: they are
in no forbidden key, folded or not. -/
def casefoldChar (c : Char) : List Char :=
  match c.toNat with
  | 0xdf => ['s', 's']
  | 0x130 => ['i', '\u0307']
  | 0x149 => ['\u02bc', 'n']
  | 0x17f => ['s']
  | 0x1f0 => ['j', '\u030c']
  | 0x1e96 => ['h', '\u0331']
  | 0x1e97 => ['t', '\u0308']
  | 0x1e98 => ['w', '\u030a']
  | 0x1e99 => ['y', '\u030a']
  | 0x1e9a => ['a', '\u02be']
  | 0x1e9e => ['s', 's']
  | 0x212a => ['k']
  | 0xfb00 => ['f', 'f']
  | 0xfb01 => ['f', 'i']
  | 0xfb02 => ['f', 'l']
  | 0xfb03 => ['f', 'f', 'i']
  | 0xfb04 => ['f', 'f', 'l']
  | 0xfb05 => ['s', 't']
  | 0xfb06 => ['s', 't']
  | _ => [c.toLower]

def normalizeMetadataKey (key : String) : String :=
  let spaced := splitCamel key.toList
  String.ofList ((spaced.flatMap casefoldChar).filter fun c => ¬ (isSpace c ∨ c ∈ ['-', '_', '.', '/']))

mutual

def sanitizeValue : Json → Except DestinationError Json
  | .obj members => do return .obj (← sanitizeMapping members)
  | .arr items => do return .arr (← sanitizeItems items)
  | value => return value

def sanitizeItems : List Json → Except DestinationError (List Json)
  | [] => return []
  | item :: items => do
    let value ← sanitizeValue item
    let out ← sanitizeItems items
    return value :: out

def sanitizeMapping : List (String × Json) → Except DestinationError (List (String × Json))
  | [] => return []
  | (key, item) :: members => do
    raiseIf (normalizeMetadataKey key ∈ forbiddenMetadataKeys) (.validation "metadata_json_forbidden_key")
    let value ← sanitizeValue item
    let out ← sanitizeMapping members
    return (key, value) :: out

end

def validateDestinationMetadataJson (metadata : Option (List (String × Json))) :
    Except DestinationError (List (String × Json)) :=
  match metadata with
  | none => return []
  | some members => sanitizeMapping members

def maxDisplayNameLength : ℕ := 255

def isControlChar (c : Char) : Bool := c.toNat < 0x20 ∨ c.toNat = 0x7f

def validateDestinationDisplayName (displayName : String) : Except DestinationError String := do
  let name := strip displayName
  raiseIf (name = "") (.validation "display_name_required")
  raiseIf (maxDisplayNameLength < name.length) (.validation "display_name_too_long")
  raiseIf (name.toList.any isControlChar) (.validation "display_name_control_characters")
  return name

/-! The methods of a row. -/

namespace MarketingPublishDestination

variable (row : MarketingPublishDestination)

def assertNotArchived : Except DestinationError Unit :=
  raiseIf (row.status = .archived) (.validation "archived_destination_immutable")

def assertExternalIdMutable : Except DestinationError Unit :=
  raiseIf (row.validationStatus ≠ .unchecked ∨ row.identityLockedAt ≠ none) (.validation "external_id_immutable")

def updateExternalId (externalId : String) : Except DestinationError MarketingPublishDestination := do
  row.assertExternalIdMutable
  let value := strip externalId
  raiseIf (value = "") (.validation "external_id_required")
  return { row with externalId := value }

def enable : Except DestinationError MarketingPublishDestination := do
  row.assertNotArchived
  if row.status = .enabled then return row
  raiseIf (row.status ≠ .disabled) (.validation "invalid_status_transition")
  raiseIf (¬ destinationCapabilityEnabled row.destinationType) (.validation "destination_capability_disabled")
  return { row with status := .enabled }

def disable : Except DestinationError MarketingPublishDestination := do
  row.assertNotArchived
  if row.status = .disabled then return row
  raiseIf (row.status ≠ .enabled) (.validation "invalid_status_transition")
  return { row with status := .disabled }

def archive : Except DestinationError MarketingPublishDestination := do
  if row.status = .archived then return row
  raiseIf (row.status ≠ .enabled ∧ row.status ≠ .disabled) (.validation "invalid_status_transition")
  return { row with status := .archived }

def applyStructuralValidation (validationStatus : MarketingDestinationValidationStatus)
    (validationErrorCode : Option String) (now : ℤ) : Except DestinationError MarketingPublishDestination := do
  row.assertNotArchived
  raiseIf (¬ destinationCapabilityEnabled row.destinationType ∧ validationStatus = .valid)
    (.validation "destination_capability_disabled")
  if validationStatus = .unchecked then
    return { row with validationStatus := .unchecked, validatedAt := none, validationErrorCode := none }
  let code := (validationErrorCode.map strip).filter (· ≠ "")
  return { row with
    validationStatus := validationStatus
    validatedAt := some now
    validationErrorCode := if validationStatus = .invalid ∨ validationStatus = .unavailable then code else none
    identityLockedAt :=
      if validationStatus = .valid ∧ row.identityLockedAt = none then some now else row.identityLockedAt }

/-- The entry of a row in `uq_mkt_publish_dest_active_identity`, which archived rows are not in. -/
def activeIdentity : Option (Uuid × Uuid × MarketingPublishDestinationType × String) :=
  if row.status = .archived then none
  else some (row.tenantId, row.publishingConnectionId, row.destinationType, row.externalId)

def stamp (userId : Option Uuid) : MarketingPublishDestination := { row with updatedByUserId := userId }

end MarketingPublishDestination

/-! The service. -/

section Service

variable (tenantId : Uuid) (s : DestinationState)

def getPublishingConnection (connectionId : Uuid) : Option MarketingPublishingConnection :=
  (s.connections.get? connectionId).filter fun c => c.tenantId = tenantId

def getPublishDestination (destinationId : Uuid) : Option MarketingPublishDestination :=
  (s.destinations.get? destinationId).filter fun d => d.tenantId = tenantId

def getDestinationOr404 (destinationId : Uuid) : Except DestinationError MarketingPublishDestination :=
  orRaise (getPublishDestination tenantId s destinationId) .notFound

variable {s} in
/-- What the table checks when a row is written: the columns' lengths and
`uq_mkt_publish_dest_active_identity`. -/
def flushDestination (destinationId : Uuid) (row : MarketingPublishDestination) : Except DestinationError Unit := do
  raiseIf (255 < row.externalId.length ∨ 255 < row.displayName.length) .dataError
  raiseIf (s.destinations.Taken (·.activeIdentity) destinationId row) .integrityError

/-- The `except IntegrityError` of the service. -/
def duplicateError : DestinationError → DestinationError
  | .integrityError => .validation "publish_destination_duplicate"
  | e => e

structure DestinationCreate where
  publishingConnectionId : Uuid
  destinationType : MarketingPublishDestinationType
  externalId : String
  displayName : String
  metadataJson : Option (List (String × Json))
  userId : Option Uuid

/-- The row a create adds, in the order of the repository's checks. -/
def createPublishDestination (a : DestinationCreate) : Except DestinationError MarketingPublishDestination := do
  let connection ← orRaise (getPublishingConnection tenantId s a.publishingConnectionId) .connectionNotFound
  raiseIf (connection.provider ≠ destinationTypeProvider a.destinationType)
    (.validation "provider_destination_type_mismatch")
  let external := strip a.externalId
  raiseIf (external = "") (.validation "external_id_required")
  let name ← validateDestinationDisplayName a.displayName
  let safeMetadata ← validateDestinationMetadataJson a.metadataJson
  return {
    tenantId := tenantId
    publishingConnectionId := a.publishingConnectionId
    provider := connection.provider
    destinationType := a.destinationType
    externalId := external
    displayName := name
    status := if destinationCapabilityEnabled a.destinationType then .enabled else .disabled
    validationStatus := .unchecked
    validatedAt := none
    validationErrorCode := none
    identityLockedAt := none
    metadataJson := safeMetadata
    createdByUserId := a.userId
    updatedByUserId := a.userId }

def createDestination (destinationId : Uuid) (a : DestinationCreate) : Except DestinationError DestinationState := do
  let row ← createPublishDestination tenantId s a
  (raiseIf ((s.destinations.get? destinationId).isSome) .integrityError).mapError duplicateError
  (flushDestination (s := s) destinationId row).mapError duplicateError
  return { s with destinations := s.destinations.insert destinationId row }

structure DestinationUpdate where
  displayName : Option String
  externalId : Option String
  metadataJson : Option (List (String × Json))
  userId : Option Uuid

/-- An argument that is not given leaves its column alone. -/
def orUnchanged {α β : Type} (argument : Option α) (check : α → Except DestinationError β) (old : β) :
    Except DestinationError β :=
  match argument with
  | none => .ok old
  | some value => check value

def updatePublishDestinationDisplay (row : MarketingPublishDestination) (a : DestinationUpdate) :
    Except DestinationError MarketingPublishDestination := do
  row.assertNotArchived
  let name ← orUnchanged a.displayName validateDestinationDisplayName row.displayName
  let metadata ← orUnchanged a.metadataJson (validateDestinationMetadataJson ∘ some) row.metadataJson
  return { row with displayName := name, metadataJson := metadata, updatedByUserId := a.userId }

def updatePublishDestinationExternalId (row : MarketingPublishDestination) (externalId : String)
    (userId : Option Uuid) : Except DestinationError MarketingPublishDestination := do
  row.assertNotArchived
  let row ← row.updateExternalId externalId
  return row.stamp userId

/-- The row an update leaves. -/
def updatedDestination (row : MarketingPublishDestination) (a : DestinationUpdate) :
    Except DestinationError MarketingPublishDestination := do
  let shown ←
    (if a.displayName.isSome ∨ a.metadataJson.isSome then updatePublishDestinationDisplay row a else .ok row)
  orUnchanged a.externalId (updatePublishDestinationExternalId shown · a.userId) shown

/-- What `validate_destination` finds: there is no provider adapter, so a well formed
destination is unavailable and never valid. -/
def structuralOutcome (row : MarketingPublishDestination) : MarketingDestinationValidationStatus × String :=
  if strip row.externalId = "" ∨ strip row.displayName = "" then (.invalid, "structural_required_fields")
  else if ¬ destinationCapabilityEnabled row.destinationType then (.unavailable, "capability_disabled")
  else (.unavailable, "provider_adapter_unavailable")

def validatedDestination (row : MarketingPublishDestination) (now : ℤ) (userId : Option Uuid) :
    Except DestinationError MarketingPublishDestination := do
  row.assertNotArchived
  let validated ← row.applyStructuralValidation (structuralOutcome row).1 (some (structuralOutcome row).2) now
  return validated.stamp userId

/-- A method that loads a row, changes it and flushes. -/
def changeDestination (destinationId : Uuid)
    (change : MarketingPublishDestination → Except DestinationError MarketingPublishDestination) :
    Except DestinationError DestinationState := do
  let row ← getDestinationOr404 tenantId s destinationId
  let row ← change row
  flushDestination (s := s) destinationId row
  return { s with destinations := s.destinations.modify destinationId fun _ => row }

def updateDestination (destinationId : Uuid) (a : DestinationUpdate) : Except DestinationError DestinationState :=
  (changeDestination tenantId s destinationId fun row => updatedDestination row a).mapError duplicateError

def enableDestination (destinationId : Uuid) (userId : Option Uuid) : Except DestinationError DestinationState :=
  changeDestination tenantId s destinationId fun row => do return (← row.enable).stamp userId

def disableDestination (destinationId : Uuid) (userId : Option Uuid) : Except DestinationError DestinationState :=
  changeDestination tenantId s destinationId fun row => do return (← row.disable).stamp userId

def archiveDestination (destinationId : Uuid) (userId : Option Uuid) : Except DestinationError DestinationState :=
  changeDestination tenantId s destinationId fun row => do return (← row.archive).stamp userId

def validateDestination (destinationId : Uuid) (now : ℤ) (userId : Option Uuid) :
    Except DestinationError DestinationState :=
  changeDestination tenantId s destinationId fun row => validatedDestination row now userId

end Service

inductive DestinationOp
  | create (tenantId destinationId : Uuid) (a : DestinationCreate)
  | update (tenantId destinationId : Uuid) (a : DestinationUpdate)
  | validate (tenantId destinationId : Uuid) (now : ℤ) (userId : Option Uuid)
  | enable (tenantId destinationId : Uuid) (userId : Option Uuid)
  | disable (tenantId destinationId : Uuid) (userId : Option Uuid)
  | archive (tenantId destinationId : Uuid) (userId : Option Uuid)

def execDestination (s : DestinationState) : DestinationOp → Except DestinationError DestinationState
  | .create tenantId destinationId a => createDestination tenantId s destinationId a
  | .update tenantId destinationId a => updateDestination tenantId s destinationId a
  | .validate tenantId destinationId now userId => validateDestination tenantId s destinationId now userId
  | .enable tenantId destinationId userId => enableDestination tenantId s destinationId userId
  | .disable tenantId destinationId userId => disableDestination tenantId s destinationId userId
  | .archive tenantId destinationId userId => archiveDestination tenantId s destinationId userId

end CoreOps.Marketing
