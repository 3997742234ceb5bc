import CoreOps.Lib.Program
import CoreOps.Marketing.Packs
import CoreOps.Marketing.StorageProfiles
import Mathlib.Logic.Function.Basic

/-! Storing the bytes of a media asset: an object store and a database are written one
after the other, without a common transaction. A call to either may fail, and then has no
effect; a storage call fails with a `StorageError` only. The id of the new asset is an
argument, and so are the answers of the byte validator and of `uuid5`. Closing the session
discards what is pending and does not fail; row timestamps are left out. -/

namespace CoreOps.Marketing.ManagedMediaLifecycle

open Program (raiseIf perform)

/-- What a service of the lifecycle raises; `other` is any exception of the database. -/
inductive LifecycleException
  | lifecycleError (detail : String)
  | storageProfileNotFound
  | storageProfileValidation (detail : String)
  | storageError (code : String)
  | other
  deriving DecidableEq, Repr

def LifecycleException.ofMarketing : MarketingError → LifecycleException
  | .conflict detail => .lifecycleError detail
  | _ => .other

structure StorageObjectRef where
  tenantId : ℕ
  objectKey : String
  deriving DecidableEq, Repr

/-- `__post_init__`. -/
def StorageObjectRef.make (tenantId : ℕ) (objectKey : String) : Except LifecycleException StorageObjectRef := do
  Checked.raiseIf (¬ s!"marketing/tenants/{tenantId}/".toList <+: objectKey.toList)
    (.storageError "object_key_tenant_prefix_mismatch")
  Checked.raiseIf (hasDotDot objectKey.toList ∨ objectKey.toList.head? = some '/' ∨ '\\' ∈ objectKey.toList)
    (.storageError "object_key_path_traversal")
  return ⟨tenantId, objectKey⟩

def buildObjectRef (tenantId assetId : ℕ) (fileName : String) : Except LifecycleException StorageObjectRef := do
  let safe ← (sanitizeFilename fileName).mapError .ofMarketing
  StorageObjectRef.make tenantId s!"marketing/tenants/{tenantId}/media/{assetId}/{safe}"

structure StoredObject where
  tenantId : ℕ
  data : List UInt8
  contentType : String
  role : String
  deriving DecidableEq

structure ManagedMediaRow extends MarketingMediaAsset where
  declaredMimeType : Option String
  declaredSizeBytes : Option ℕ
  verifiedMimeType : Option String
  verifiedSizeBytes : Option ℕ
  storageProfileId : Option ℕ
  resourceMode : Option MarketingStorageResourceMode
  objectRefId : String
  createdByUserId : Option ℕ
  updatedByUserId : Option ℕ
  deriving DecidableEq

structure AuditLog where
  summary : String
  tenantId : ℕ
  userId : Option ℕ
  entityId : ℕ
  mode : MarketingStorageResourceMode
  mime : String
  byteCount : ℕ
  objectRefId : String
  deriving DecidableEq

/-- The committed rows. -/
structure Database where
  profiles : ProfileTable
  packs : Table ℕ MarketingPublicationPack
  media : Table ℕ ManagedMediaRow
  auditLogs : List AuditLog

/-- What the open session will write when it commits. -/
structure Pending where
  assets : List (ℕ × ManagedMediaRow)
  auditLogs : List AuditLog

structure World where
  db : Database
  session : Pending
  objects : String → Option StoredObject

/-! The calls, and what answers them. -/

inductive Call
  | openSession
  | getActiveStorageProfile (mode : MarketingStorageResourceMode)
  | getPack (packId : ℕ)
  | putObject (ref : StorageObjectRef) (data : List UInt8) (contentType role : String)
  | deleteObject (ref : StorageObjectRef)
  | add (assetId : ℕ) (asset : ManagedMediaRow)
  | auditLog (log : AuditLog)
  | commit
  | refresh (assetId : ℕ)
  | rollback

abbrev Answer : Call → Type
  | .getActiveStorageProfile _ => Option (ℕ × StorageProfileRow)
  | .getPack _ => Option MarketingPublicationPack
  | .refresh _ => ManagedMediaRow
  | _ => Unit

abbrev Action := Program LifecycleException Answer

/-- Whether a call fails, and with which code if it is a storage call. -/
inductive Fault
  | none
  | fails (code : String)
  deriving DecidableEq, Repr

/-- Write the pending rows; a key that is taken is an `IntegrityError`. -/
def Database.flush (db : Database) (session : Pending) : Option Database :=
  if session.assets.all fun r => (db.media.get? r.1).isNone then
    some { db with
      media := session.assets.foldl (fun media r => media.insert r.1 r.2) db.media
      auditLogs := db.auditLogs ++ session.auditLogs }
  else none

section Environment

variable (tenantId : ℕ) (w : World)

/-- A storage call that does not fail by itself; `_key` and `delete_object` look at the
tenant. -/
def putObject (ref : StorageObjectRef) (data : List UInt8) (contentType role : String) :
    Except LifecycleException Unit × World :=
  if ref.tenantId ≠ tenantId then (.error (.storageError "storage_tenant_mismatch"), w)
  else if (w.objects ref.objectKey).isSome then (.error (.storageError "object_key_collision"), w)
  else (.ok (), { w with
    objects := Function.update w.objects ref.objectKey (some ⟨tenantId, data, contentType, role⟩) })

def deleteObject (ref : StorageObjectRef) : Except LifecycleException Unit × World :=
  match w.objects ref.objectKey with
  | none => (.ok (), w)
  | some entry =>
    if entry.tenantId ≠ tenantId then (.error (.storageError "storage_tenant_mismatch"), w)
    else (.ok (), { w with objects := Function.update w.objects ref.objectKey none })

def commit : Except LifecycleException Unit × World :=
  match w.db.flush w.session with
  | none => (.error .other, w)
  | some db => (.ok (), { w with db := db, session := ⟨[], []⟩ })

def handle : (c : Call) → Fault → Except LifecycleException (Answer c) × World
  | .putObject .., .fails code | .deleteObject _, .fails code => (.error (.storageError code), w)
  | .openSession, .fails _ | .getActiveStorageProfile _, .fails _ | .getPack _, .fails _ | .add .., .fails _
  | .auditLog _, .fails _ | .commit, .fails _ | .refresh _, .fails _ | .rollback, .fails _ => (.error .other, w)
  | .openSession, .none => (.ok (), { w with session := ⟨[], []⟩ })
  | .getActiveStorageProfile mode, .none => (.ok (findActiveStorageProfile tenantId w.db.profiles mode), w)
  | .getPack packId, .none => (.ok ((w.db.packs.get? packId).filter fun pack => pack.tenantId = tenantId), w)
  | .putObject ref data contentType role, .none => putObject tenantId w ref data contentType role
  | .deleteObject ref, .none => deleteObject tenantId w ref
  | .add assetId asset, .none =>
    (.ok (), { w with session := { w.session with assets := w.session.assets ++ [(assetId, asset)] } })
  | .auditLog log, .none =>
    (.ok (), { w with session := { w.session with auditLogs := w.session.auditLogs ++ [log] } })
  | .commit, .none => commit w
  | .refresh assetId, .none => (Checked.orRaise (w.db.media.get? assetId) .other, w)
  | .rollback, .none => (.ok (), { w with session := ⟨[], []⟩ })

def environment : Environment World LifecycleException Fault Answer where
  handle := handle tenantId
  idle := .none

end Environment

/-! The service. -/

structure StoreRequest where
  packId : Option ℕ
  fileName : String
  mimeType : String
  data : List UInt8
  role : String
  userId : Option ℕ

structure ManagedMediaAssetView where
  id : ℕ
  tenantId : ℕ
  packId : Option ℕ
  role : String
  fileName : String
  mimeType : String
  storageProvider : String
  status : MarketingMediaAssetStatus
  validationStatus : MarketingMediaValidationStatus
  declaredMimeType : Option String
  declaredSizeBytes : Option ℕ
  verifiedMimeType : Option String
  verifiedSizeBytes : Option ℕ
  resourceMode : Option MarketingStorageResourceMode
  storageProfileId : Option ℕ
  deriving DecidableEq

def ManagedMediaAssetView.ofRow (assetId : ℕ) (asset : ManagedMediaRow) : ManagedMediaAssetView where
  id := assetId
  tenantId := asset.tenantId
  packId := asset.packId
  role := asset.role
  fileName := asset.fileName
  mimeType := asset.mimeType
  storageProvider := asset.storageProvider
  status := asset.status
  validationStatus := asset.validationStatus
  declaredMimeType := asset.declaredMimeType
  declaredSizeBytes := asset.declaredSizeBytes
  verifiedMimeType := asset.verifiedMimeType
  verifiedSizeBytes := asset.verifiedSizeBytes
  resourceMode := asset.resourceMode
  storageProfileId := asset.storageProfileId

section Service

variable (validateMagicBytes : List UInt8 → String → Bool) (redactedId : StorageObjectRef → String)
  (tenantId assetId : ℕ)

def requireActiveManagedProfile : Action (ℕ × StorageProfileRow) := do
  match ← perform (Call.getActiveStorageProfile .flexityManaged) with
  | none => throw .storageProfileNotFound
  | some (profileId, profile) =>
    raiseIf (profile.status ≠ .active) (.storageProfileValidation "profile_not_active")
    raiseIf (profile.mode ≠ .flexityManaged) (.lifecycleError "active_profile_not_flexity_managed")
    return (profileId, profile)

def requirePack : Option ℕ → Action Unit
  | none => return ()
  | some packId => do
    let pack ← perform (Call.getPack packId)
    raiseIf (pack = none) (.lifecycleError "pack_not_found")

/-- Put the object; what the storage says is not passed on. -/
def storeObject (ref : StorageObjectRef) (data : List UInt8) (mime role : String) : Action Unit :=
  tryCatch (perform (Call.putObject ref data mime role)) fun
    | .storageError code =>
      if code = "object_key_collision" then throw (.lifecycleError "storage_object_collision")
      else throw (.lifecycleError "storage_put_failed")
    | exc => throw exc

/-- Take back the object of an asset that was not committed. -/
def compensate (ref : StorageObjectRef) : Action Unit :=
  tryCatch (perform (Call.deleteObject ref)) fun
    | .storageError _ => throw (.lifecycleError "storage_orphan_compensation_failed")
    | exc => throw exc

/-- Roll back, whether or not that fails. -/
def rollback : Action Unit := tryCatch (perform Call.rollback) fun _ => return ()

/-- What the caller sees of an exception. -/
def reRaised : LifecycleException → LifecycleException
  | .lifecycleError detail => .lifecycleError detail
  | .storageProfileNotFound => .storageProfileNotFound
  | .storageProfileValidation detail => .storageProfileValidation detail
  | _ => .lifecycleError "managed_media_store_failed"

/-- The exception handler, with what `stored` and `db_commit_succeeded` hold while `body`
runs. -/
def guarded {α : Type} (stored dbCommitSucceeded : Bool) (ref : StorageObjectRef) (body : Action α) : Action α :=
  tryCatch body fun exc => do
    if stored && !dbCommitSucceeded then compensate ref
    rollback
    throw (reRaised exc)

/-- Up to the object; it returns the id of the profile. -/
def storeBytes (r : StoreRequest) (mime : String) (ref : StorageObjectRef) : Action ℕ := do
  let (profileId, profile) ← requireActiveManagedProfile
  raiseIf (mime ∉ profile.allowed) (.lifecycleError s!"mime_not_in_profile:{mime}")
  raiseIf (profile.maxUpload < r.data.length) (.lifecycleError "payload_too_large")
  raiseIf (validateMagicBytes r.data mime = false) (.lifecycleError "content_mime_mismatch")
  requirePack r.packId
  storeObject ref r.data mime r.role
  return profileId

def newAsset (r : StoreRequest) (mime safeName : String) (ref : StorageObjectRef) (profileId : ℕ) : ManagedMediaRow where
  tenantId := tenantId
  packId := r.packId
  role := r.role
  fileName := safeName
  mimeType := mime
  storageProvider := "flexity_managed"
  storageKey := ref.objectKey
  publicUrl := none
  previewUrl := none
  width := none
  height := none
  altText := none
  status := .stored
  validationStatus := .validatedMetadata
  declaredMimeType := some mime
  declaredSizeBytes := none
  verifiedMimeType := none
  verifiedSizeBytes := some r.data.length
  storageProfileId := some profileId
  resourceMode := some .flexityManaged
  objectRefId := redactedId ref
  createdByUserId := r.userId
  updatedByUserId := r.userId

def newLog (r : StoreRequest) (mime : String) (ref : StorageObjectRef) : AuditLog where
  summary := "marketing_managed_media_stored"
  tenantId := tenantId
  userId := r.userId
  entityId := assetId
  mode := .flexityManaged
  mime := mime
  byteCount := r.data.length
  objectRefId := redactedId ref

/-- The row of the asset and its audit row. -/
def commitAsset (asset : ManagedMediaRow) (log : AuditLog) : Action Unit := do
  perform (Call.add assetId asset)
  perform (Call.auditLog log)
  perform Call.commit

def viewAsset : Action ManagedMediaAssetView := do
  let asset ← perform (Call.refresh assetId)
  return .ofRow assetId asset

def storeManagedMedia (r : StoreRequest) : Action ManagedMediaAssetView := do
  let mime ← ofExcept ((normalizeC2aMime r.mimeType).mapError .ofMarketing)
  let safeName ← ofExcept ((sanitizeFilename r.fileName).mapError .ofMarketing)
  raiseIf (r.data = []) (.lifecycleError "empty_payload")
  let ref ← ofExcept (buildObjectRef tenantId assetId safeName)
  perform Call.openSession
  let profileId ← guarded false false ref (storeBytes validateMagicBytes r mime ref)
  guarded true false ref
    (commitAsset assetId (newAsset redactedId tenantId r mime safeName ref profileId)
      (newLog redactedId tenantId assetId r mime ref))
  guarded true true ref (viewAsset assetId)

end Service

/-! What the calls do to the rows and to the objects. -/

section Calls

variable {tenantId : ℕ} {w w' s s' : World} {ref : StorageObjectRef}

/-- The committed rows and the objects are those of `w`. -/
def Untouched (w w' : World) : Prop := w'.db = w.db ∧ w'.objects = w.objects

/-- The new object is there, under a key that was free, and nothing else has happened. -/
structure Uploaded (tenantId : ℕ) (ref : StorageObjectRef) (w s : World) : Prop where
  free : w.objects ref.objectKey = none
  db : s.db = w.db
  objects : ∃ data contentType role,
    s.objects = Function.update w.objects ref.objectKey (some ⟨tenantId, data, contentType, role⟩)

/-- The rows of the new asset are committed. -/
structure Committed (assetId : ℕ) (asset : ManagedMediaRow) (log : AuditLog) (w s : World) : Prop where
  fresh : w.db.media.get? assetId = none
  db : s.db = { w.db with media := w.db.media.insert assetId asset, auditLogs := w.db.auditLogs ++ [log] }
  objects : s.objects = w.objects

def Call.isRead : Call → Bool
  | .getActiveStorageProfile _ | .getPack _ | .refresh _ => true
  | _ => false

theorem handle_read {c : Call} (hc : c.isRead = true) (f : Fault) : (handle tenantId w c f).2 = w := by
  cases c <;> cases f <;> first | rfl | cases hc

theorem Uploaded.congr (h : Uploaded tenantId ref w s) (hs : Untouched s s') : Uploaded tenantId ref w s' :=
  ⟨h.free, hs.1.trans h.db, hs.2 ▸ h.objects⟩

theorem Uploaded.of_untouched (h : Uploaded tenantId ref w' s) (hw : Untouched w w') : Uploaded tenantId ref w s :=
  ⟨hw.2 ▸ h.free, h.db.trans hw.1, hw.2 ▸ h.objects⟩

theorem Untouched.refl : Untouched w w := ⟨rfl, rfl⟩

theorem Untouched.trans (h : Untouched w w') (h' : Untouched w' s) : Untouched w s :=
  ⟨h'.1.trans h.1, h'.2.trans h.2⟩

theorem handle_putObject {data : List UInt8} {mime role : String} (f : Fault) :
    (∃ code, handle tenantId w (.putObject ref data mime role) f = (.error (.storageError code), w)) ∨
      ∃ s, handle tenantId w (.putObject ref data mime role) f = (.ok (), s) ∧
        Uploaded tenantId ref w s ∧ s.session = w.session := by
  cases f with
  | fails code => exact .inl ⟨code, rfl⟩
  | none =>
    simp only [handle, putObject]
    split
    · exact .inl ⟨_, rfl⟩
    · split
      · exact .inl ⟨_, rfl⟩
      · rename_i hfree
        exact .inr ⟨_, rfl, ⟨by simpa using hfree, rfl, data, mime, role, rfl⟩, rfl⟩

/-- Deleting the new object gives the old objects back. -/
theorem handle_deleteObject (h : Uploaded tenantId ref w s) (f : Fault) :
    (∃ code, handle tenantId s (.deleteObject ref) f = (.error (.storageError code), s)) ∨
      ∃ s', handle tenantId s (.deleteObject ref) f = (.ok (), s') ∧ Untouched w s' := by
  cases f with
  | fails code => exact .inl ⟨code, rfl⟩
  | none =>
    obtain ⟨data, mime, role, hobjects⟩ := h.objects
    have hback : Function.update s.objects ref.objectKey none = w.objects := by
      rw [hobjects, Function.update_idem, ← h.free, Function.update_eq_self]
    refine .inr ⟨{ s with objects := w.objects }, ?_, h.db, rfl⟩
    simp only [handle, deleteObject, hback]
    rw [hobjects, Function.update_self]
    simp only [ne_eq, not_true_eq_false, if_false]

end Calls

/-! The phases. -/

section Phases

open Program

variable {tenantId assetId profileId : ℕ} {w s : World} {ref : StorageObjectRef} {α : Type}

/-- The answers and states `p` may end in when it starts in `s`. -/
abbrev Ends (tenantId : ℕ) (p : Action α) (Q : Except LifecycleException α → World → Prop) (s : World) : Prop :=
  Ensures (environment tenantId) (fun _ => True) (fun _ => True) p Q s

/-- Exceptions leave the state as it was. -/
abbrev orSame (s : World) (Q : α → World → Prop) : Except LifecycleException α → World → Prop :=
  either Q fun _ s' => s' = s

theorem ends_perform {c : Call} {Q : Except LifecycleException (Answer c) → World → Prop} :
    Ends tenantId (perform c) Q s ↔ ∀ f, Q (handle tenantId s c f).1 (handle tenantId s c f).2 := by
  simp only [Ends, ensures_perform, true_imp_iff, true_and]
  rfl

theorem Ends.imp {p : Action α} {Q Q' : α → World → Prop} {E E' : LifecycleException → World → Prop}
    (h : Ends tenantId p (either Q E) s) (hQ : ∀ a s', Q a s' → Q' a s') (hE : ∀ e s', E e s' → E' e s') :
    Ends tenantId p (either Q' E') s := Ensures.mono h fun r s' hs' => by
  cases r with
  | ok a => exact hQ a s' hs'
  | error e => exact hE e s' hs'

theorem ends_read {c : Call} (hc : c.isRead = true) : Ends tenantId (perform c) (orSame s fun _ s' => s' = s) s := by
  refine ends_perform.2 fun f => ?_
  rw [handle_read hc f]
  cases (handle tenantId s c f).1 <;> rfl

/-- Go on after a part that leaves the state as it was. -/
theorem ends_bind_same {β : Type} {p : Action β} {k : β → Action α} {Q : α → World → Prop}
    (hp : Ends tenantId p (orSame s fun _ s' => s' = s) s) (hk : ∀ b, Ends tenantId (k b) (orSame s Q) s) :
    Ends tenantId (p >>= k) (orSame s Q) s := by
  refine ensures_bind.2 (Ensures.mono hp fun r s' hs' => ?_)
  cases r with
  | ok b =>
    obtain rfl : s' = s := hs'
    exact hk b
  | error e => exact hs'

theorem ends_raiseIf {p : Prop} [Decidable p] {e : LifecycleException} :
    Ends tenantId (raiseIf p e) (orSame s fun _ s' => s' = s) s :=
  ensures_raiseIf.2 ⟨fun _ => rfl, fun _ => rfl⟩

theorem requireActiveManagedProfile_ends :
    Ends tenantId requireActiveManagedProfile (orSame s fun _ s' => s' = s) s := by
  refine ends_bind_same (ends_read rfl) fun found => ?_
  cases found with
  | none => exact rfl
  | some found =>
    obtain ⟨profileId, profile⟩ := found
    exact ends_bind_same ends_raiseIf fun _ => ends_bind_same ends_raiseIf fun _ => rfl

theorem requirePack_ends (packId : Option ℕ) : Ends tenantId (requirePack packId) (orSame s fun _ s' => s' = s) s := by
  cases packId with
  | none => exact rfl
  | some packId => exact ends_bind_same (ends_read rfl) fun _ => ends_raiseIf

theorem storeObject_ends {data : List UInt8} {mime role : String} :
    Ends tenantId (storeObject ref data mime role) (orSame s fun _ s' => Uploaded tenantId ref s s' ∧ s'.session = s.session) s := by
  refine ensures_tryCatch.2 (ends_perform.2 fun f => ?_)
  rcases handle_putObject f with ⟨code, h⟩ | ⟨s', h, hs'⟩
  · rw [h]
    dsimp only [either_error]
    split <;> exact rfl
  · rw [h]
    exact hs'

theorem storeBytes_ends {validateMagicBytes : List UInt8 → String → Bool} {r : StoreRequest} {mime : String} :
    Ends tenantId (storeBytes validateMagicBytes r mime ref) (orSame s fun _ s' => Uploaded tenantId ref s s' ∧ s'.session = s.session) s := by
  refine ends_bind_same requireActiveManagedProfile_ends fun found => ?_
  refine ends_bind_same ends_raiseIf fun _ => ends_bind_same ends_raiseIf fun _ => ?_
  refine ends_bind_same ends_raiseIf fun _ => ends_bind_same (requirePack_ends r.packId) fun _ => ?_
  refine ensures_bind.2 (Ensures.mono storeObject_ends fun r s' hs' => ?_)
  cases r with
  | ok _ => exact hs'
  | error e => exact hs'

/-- What is pending when the session commits is the asset and its audit row. -/
theorem commitAsset_ends {asset : ManagedMediaRow} {log : AuditLog} (hsession : s.session = ⟨[], []⟩) :
    Ends tenantId (commitAsset assetId asset log)
      (either (fun _ s' => Committed assetId asset log s s') fun _ s' => Untouched s s') s := by
  refine ensures_bind.2 (ends_perform.2 fun f => ?_)
  cases f with
  | fails code => exact .refl
  | none =>
    refine ensures_bind.2 (ends_perform.2 fun f => ?_)
    cases f with
    | fails code => exact ⟨rfl, rfl⟩
    | none =>
      refine ends_perform.2 fun f => ?_
      cases f with
      | fails code => exact ⟨rfl, rfl⟩
      | none =>
        simp only [handle, hsession, List.nil_append, commit, Database.flush, List.all_cons, List.all_nil,
          Bool.and_true, Option.isNone_iff_eq_none, List.foldl_cons, List.foldl_nil]
        by_cases hfresh : s.db.media.get? assetId = none
        · rw [if_pos hfresh]
          exact ⟨hfresh, rfl, rfl⟩
        · rw [if_neg hfresh]
          exact ⟨rfl, rfl⟩

theorem viewAsset_ends : Ends tenantId (viewAsset assetId) (orSame s fun _ s' => s' = s) s :=
  ends_bind_same (ends_read rfl) fun _ => rfl

theorem openSession_ends : Ends tenantId (perform Call.openSession)
    (either (fun _ s' => Untouched s s' ∧ s'.session = ⟨[], []⟩) fun _ s' => Untouched s s') s :=
  ends_perform.2 fun f => by
    cases f with
    | none => exact ⟨⟨rfl, rfl⟩, rfl⟩
    | fails code => exact ⟨rfl, rfl⟩

theorem rollback_ends : Ends tenantId rollback (either (fun _ s' => Untouched s s') fun _ _ => False) s := by
  refine ensures_tryCatch.2 (ends_perform.2 fun f => ?_)
  cases f <;> exact ⟨rfl, rfl⟩

theorem rollback_throw_ends {e : LifecycleException} :
    Ends tenantId (do rollback; throw e : Action α) (either (fun _ _ => False) fun _ s' => Untouched s s') s := by
  refine ensures_bind.2 (Ensures.mono rollback_ends fun r s' hs' => ?_)
  cases r with
  | ok _ => exact hs'
  | error _ => exact hs'.elim

/-- A handler that has nothing to take back. -/
theorem guarded_ends {stored dbCommitSucceeded : Bool} {body : Action α} {Q : α → World → Prop}
    (hflags : (stored && !dbCommitSucceeded) = false)
    (hbody : Ends tenantId body (either Q fun _ s' => Untouched w s') s) :
    Ends tenantId (guarded stored dbCommitSucceeded ref body) (either Q fun _ s' => Untouched w s') s := by
  refine ensures_tryCatch.2 (Ensures.mono hbody fun r s' hs' => ?_)
  cases r with
  | ok a => exact hs'
  | error e =>
    simp only [hflags, Bool.false_eq_true, if_false, either_error]
    refine Ensures.mono rollback_throw_ends fun r s'' h => ?_
    cases r with
    | ok a => exact h.elim
    | error e => exact hs'.trans h

def orphanCompensationFailed : LifecycleException := .lifecycleError "storage_orphan_compensation_failed"

theorem compensate_ends (h : Uploaded tenantId ref w s) :
    Ends tenantId (compensate ref)
      (either (fun _ s' => Untouched w s') fun e s' => e = orphanCompensationFailed ∧ s' = s) s := by
  refine ensures_tryCatch.2 (ends_perform.2 fun f => ?_)
  rcases handle_deleteObject h f with ⟨code, h⟩ | ⟨s', h, hs'⟩
  · rw [h]
    exact ⟨rfl, rfl⟩
  · rw [h]
    exact hs'

/-- The handler that takes the object back. -/
theorem guarded_compensating_ends {body : Action α} {Q : α → World → Prop} (h : Uploaded tenantId ref w s)
    (hbody : Ends tenantId body (either Q fun _ s' => Untouched s s') s) :
    Ends tenantId (guarded true false ref body)
      (either Q fun e s' => Untouched w s' ∨ e = orphanCompensationFailed ∧ Uploaded tenantId ref w s') s := by
  refine ensures_tryCatch.2 (Ensures.mono hbody fun r s' hs' => ?_)
  cases r with
  | ok a => exact hs'
  | error e =>
    have hs' := h.congr hs'
    simp only [Bool.not_false, Bool.and_self, if_true, either_error]
    refine ensures_bind.2 (Ensures.mono (compensate_ends hs') fun r s'' h' => ?_)
    cases r with
    | error e => exact .inr ⟨h'.1, h'.2 ▸ hs'⟩
    | ok _ =>
      refine Ensures.mono rollback_throw_ends fun r s₃ h₃ => ?_
      cases r with
      | ok a => exact h₃.elim
      | error e => exact .inl (Untouched.trans h' h₃)

/-- Object and rows are there, and the row names the object. -/
def StoredBoth (tenantId assetId : ℕ) (w s : World) : Prop :=
  ∃ ref asset log u, Uploaded tenantId ref w u ∧ Committed assetId asset log u s ∧ asset.storageKey = ref.objectKey

theorem StoredBoth.congr {s' : World} (h : StoredBoth tenantId assetId w s) (hs : Untouched s s') :
    StoredBoth tenantId assetId w s' := by
  obtain ⟨ref, asset, log, u, hu, hc, hkey⟩ := h
  exact ⟨ref, asset, log, u, hu, ⟨hc.fresh, hs.1.trans hc.db, hs.2.trans hc.objects⟩, hkey⟩

/-- How a call that raises may end. -/
def Raises (tenantId assetId : ℕ) (w : World) (e : LifecycleException) (s : World) : Prop :=
  Untouched w s ∨ StoredBoth tenantId assetId w s ∨
    e = orphanCompensationFailed ∧ ∃ ref, Uploaded tenantId ref w s

/-- Go on after a part that leaves rows and objects alone. -/
theorem ends_bind_raises {β γ : Type} {p : Action β} {k : β → Action γ} {P : β → World → Prop} {Q : γ → World → Prop}
    (hp : Ends tenantId p (either P fun _ s' => Untouched w s') s)
    (hk : ∀ b s', P b s' → Ends tenantId (k b) (either Q (Raises tenantId assetId w)) s') :
    Ends tenantId (p >>= k) (either Q (Raises tenantId assetId w)) s := by
  refine ensures_bind.2 (Ensures.mono hp fun r s' hs' => ?_)
  cases r with
  | ok b => exact hk b s' hs'
  | error e => exact .inl hs'

theorem ends_ofExcept {r : Except LifecycleException α} :
    Ends tenantId (ofExcept r : Action α) (either (fun _ s' => s' = s) fun _ s' => Untouched s s') s := by
  refine ensures_ofExcept.2 ?_
  cases r with
  | ok a => exact rfl
  | error e => exact .refl

theorem storeManagedMedia_ends (validateMagicBytes : List UInt8 → String → Bool) (redactedId : StorageObjectRef → String)
    (r : StoreRequest) (w : World) :
    Ends tenantId (storeManagedMedia validateMagicBytes redactedId tenantId assetId r)
      (either (fun _ s => StoredBoth tenantId assetId w s) (Raises tenantId assetId w)) w := by
  refine ends_bind_raises ends_ofExcept fun mime s hs => ?_
  subst hs
  refine ends_bind_raises ends_ofExcept fun safeName s hs => ?_
  subst hs
  refine ends_bind_raises (P := fun _ s' => s' = s) (ensures_raiseIf.2 ⟨fun _ => .refl, fun _ => rfl⟩) fun _ s hs => ?_
  subst hs
  refine ends_bind_raises ends_ofExcept fun ref s hs => ?_
  subst hs
  refine ends_bind_raises openSession_ends fun _ u hu => ?_
  have hbytes : Ends tenantId (storeBytes validateMagicBytes r mime ref) _ u := storeBytes_ends
  refine ends_bind_raises (guarded_ends rfl (Ends.imp hbytes (fun _ _ h => h) fun _ _ h => h ▸ hu.1)) ?_
  rintro profileId s₁ ⟨hput, hsession⟩
  have hput : Uploaded tenantId ref s s₁ := hput.of_untouched hu.1
  refine ensures_bind.2 (Ends.imp (guarded_compensating_ends hput (commitAsset_ends (hsession.trans hu.2))) ?_ ?_)
  · intro _ s₂ hcommit
    have hboth : StoredBoth tenantId assetId s s₂ := ⟨ref, _, _, s₁, hput, hcommit, rfl⟩
    have hview : Ends tenantId (viewAsset assetId) _ s₂ := viewAsset_ends
    refine Ends.imp (guarded_ends (w := s₂) rfl (Ends.imp hview (fun _ _ h => h) fun _ _ h => h ▸ .refl)) ?_ ?_
    · rintro view s₃ rfl
      exact hboth
    · exact fun e s₃ h => .inr (.inl (hboth.congr h))
  · rintro e s₂ (h | ⟨he, h⟩)
    · exact .inl h
    · exact .inr (.inr ⟨he, ref, h⟩)

end Phases

/-! What a call leaves. -/

section Atomicity

variable {tenantId assetId : ℕ} {w s : World}

/-- The call has added the row of its asset, and the row names `key`. -/
def RowStored (assetId : ℕ) (w s : World) (key : String) : Prop :=
  w.db.media.get? assetId = none ∧ ∃ row, s.db.media.get? assetId = some row ∧ row.storageKey = key

/-- The call has added an object under `key`. -/
def ObjectStored (w s : World) (key : String) : Prop := w.objects key = none ∧ (s.objects key).isSome

/-- Every row and every object of `w` is still there, and is the same. -/
structure Unchanged (w s : World) : Prop where
  profiles : s.db.profiles = w.db.profiles
  packs : s.db.packs = w.db.packs
  media : ∀ id row, w.db.media.get? id = some row → s.db.media.get? id = some row
  auditLogs : w.db.auditLogs <+: s.db.auditLogs
  objects : ∀ key object, w.objects key = some object → s.objects key = some object

theorem Untouched.unchanged (h : Untouched w s) : Unchanged w s where
  profiles := by rw [h.1]
  packs := by rw [h.1]
  media id row hrow := by rw [h.1, hrow]
  auditLogs := h.1 ▸ List.prefix_rfl
  objects key object hobject := by rw [h.2, hobject]

theorem Untouched.stored_iff (h : Untouched w s) (key : String) : RowStored assetId w s key ↔ ObjectStored w s key := by
  constructor
  · rintro ⟨hnone, row, hrow, -⟩
    rw [h.1, hnone] at hrow
    cases hrow
  · rintro ⟨hnone, hsome⟩
    rw [h.2, hnone] at hsome
    cases hsome

theorem Uploaded.objects_mono {ref : StorageObjectRef} (h : Uploaded tenantId ref w s) {key : String}
    {object : StoredObject} (hobject : w.objects key = some object) : s.objects key = some object := by
  obtain ⟨data, mime, role, hobjects⟩ := h.objects
  have hne : key ≠ ref.objectKey := by
    rintro rfl
    rw [h.free] at hobject
    cases hobject
  rw [hobjects, Function.update_of_ne hne, hobject]

theorem Uploaded.objectStored_iff {ref : StorageObjectRef} (h : Uploaded tenantId ref w s) (key : String) :
    ObjectStored w s key ↔ key = ref.objectKey := by
  obtain ⟨data, mime, role, hobjects⟩ := h.objects
  unfold ObjectStored
  rw [hobjects]
  by_cases hkey : key = ref.objectKey
  · subst hkey
    simp [h.free]
  · simp [hkey]

theorem Uploaded.unchanged {ref : StorageObjectRef} (h : Uploaded tenantId ref w s) : Unchanged w s where
  profiles := by rw [h.db]
  packs := by rw [h.db]
  media id row hrow := by rw [h.db, hrow]
  auditLogs := h.db ▸ List.prefix_rfl
  objects _ _ hobject := h.objects_mono hobject

theorem StoredBoth.unchanged (h : StoredBoth tenantId assetId w s) : Unchanged w s := by
  obtain ⟨ref, asset, log, u, hu, hc, -⟩ := h
  constructor
  case profiles => rw [hc.db, hu.db]
  case packs => rw [hc.db, hu.db]
  case media =>
    intro id row hrow
    have hfresh := hc.fresh
    rw [hu.db] at hfresh
    have hne : id ≠ assetId := by
      rintro rfl
      rw [hfresh] at hrow
      cases hrow
    rw [hc.db, hu.db, Table.get?_insert, if_neg hne, hrow]
  case auditLogs =>
    rw [hc.db, hu.db]
    exact List.prefix_append _ _
  case objects =>
    intro key object hobject
    rw [hc.objects, hu.objects_mono hobject]

theorem StoredBoth.stored_iff (h : StoredBoth tenantId assetId w s) (key : String) :
    RowStored assetId w s key ↔ ObjectStored w s key := by
  obtain ⟨ref, asset, log, u, hu, hc, hkey⟩ := h
  have hfresh := hc.fresh
  have hrow : s.db.media.get? assetId = some asset := by
    rw [hc.db, Table.get?_insert, if_pos rfl, hfresh]
    rfl
  rw [hu.db] at hfresh
  have hobject : ObjectStored w s key ↔ key = ref.objectKey := by
    rw [← hu.objectStored_iff key, ObjectStored, ObjectStored, hc.objects]
  rw [hobject, RowStored, hrow, ← hkey]
  constructor
  · rintro ⟨-, row, h, rfl⟩
    cases h
    rfl
  · rintro rfl
    exact ⟨hfresh, asset, rfl, rfl⟩

/-- Whichever calls fail, the row of the asset is there if and only if its object is, or
the exception says that the object could not be taken back; and all there was before is
there as it was. -/
theorem managed_media_store_atomic (validateMagicBytes : List UInt8 → String → Bool)
    (redactedId : StorageObjectRef → String) (tenantId assetId : ℕ) (r : StoreRequest) (faults : List Fault) (w : World) :
    let ended := (storeManagedMedia validateMagicBytes redactedId tenantId assetId r).run
      (environment tenantId) faults w
    ((∀ key, RowStored assetId w ended.2 key ↔ ObjectStored w ended.2 key) ∨
      ended.1 = .error (.lifecycleError "storage_orphan_compensation_failed")) ∧
    Unchanged w ended.2 := by
  intro ended
  have hends : Ends tenantId (storeManagedMedia validateMagicBytes redactedId tenantId assetId r) _ w :=
    storeManagedMedia_ends validateMagicBytes redactedId r w
  have hrun := (Program.Ensures.run hends trivial fun _ (_ : _ ∈ faults) => trivial).1
  change Program.either _ _ ended.1 ended.2 at hrun
  cases hresult : ended.1 with
  | ok view =>
    rw [hresult] at hrun
    exact ⟨.inl fun key => StoredBoth.stored_iff hrun key, StoredBoth.unchanged hrun⟩
  | error e =>
    rw [hresult] at hrun
    rcases hrun with h | h | ⟨rfl, ref, h⟩
    · exact ⟨.inl h.stored_iff, h.unchanged⟩
    · exact ⟨.inl h.stored_iff, h.unchanged⟩
    · exact ⟨.inr rfl, h.unchanged⟩

def demoProfile : StorageProfileRow where
  tenantId := 1
  mode := .flexityManaged
  status := .active
  maxUploadBytes := none
  allowedMimeTypes := none
  isDefault := true
  displayName := "Managed"
  maxUrlLength := none
  createdByUserId := none
  updatedByUserId := none

def demoWorld : World where
  db := ⟨Table.insert ∅ 3 demoProfile, ∅, ∅, []⟩
  session := ⟨[], []⟩
  objects _ := none

/-- The codes of what a call raises and leaves under the key, with the faults in `faults`. -/
def demoStore (faults : List Fault) : Option LifecycleException × Bool × Bool :=
  let ended := (storeManagedMedia (fun _ _ => true) (·.objectKey) 1 7 ⟨none, "a.png", "image/png", [137], "post", none⟩).run
    (environment 1) faults demoWorld
  (match ended.1 with
    | .ok _ => none
    | .error e => some e,
    (ended.2.db.media.get? 7).isSome, (ended.2.objects "marketing/tenants/1/media/7/a.png").isSome)

example : demoStore [] = (none, true, true) ∧
    demoStore [.none, .none, .none, .none, .none, .fails ""] =
      (some (.lifecycleError "managed_media_store_failed"), false, false) ∧
    demoStore [.none, .none, .none, .none, .none, .fails "", .fails ""] =
      (some (.lifecycleError "storage_orphan_compensation_failed"), false, true) := by decide +kernel

end Atomicity

end CoreOps.Marketing.ManagedMediaLifecycle
