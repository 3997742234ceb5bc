import CoreOps.Lib.Text
import CoreOps.Secrets.Vault

/-! The two adapters of the vault port: one in memory, for tests, and one that keeps
sealed envelopes in a table. -/

namespace CoreOps.Secrets

open Checked Text

/-! `InMemorySecretVault`. -/

structure StoredSecret where
  plaintext : SecretPlaintext
  state : SecretVersionState
  metadata : Option SecretStoreMetadata

abbrev InMemoryStore := Table SecretRef StoredSecret

def StoredSecret.withState (entry : StoredSecret) (state : SecretVersionState) : StoredSecret :=
  { entry with state := state }

namespace InMemorySecretVault

variable (ref : SecretRef)

def require (store : InMemoryStore) : Except VaultException StoredSecret :=
  orRaise (store.get? ref) (.secretVaultError "secret_version_not_found")

def storeSecret (plaintext : SecretPlaintext) (metadata : Option SecretStoreMetadata) (store : InMemoryStore) :
    Except VaultException InMemoryStore := do
  raiseIf ((store.get? ref).isSome) (.secretVaultError "secret_version_already_exists")
  return store.insert ref ⟨plaintext, .pending, metadata⟩

def readSecret (store : InMemoryStore) : Except VaultException SecretPlaintext := do
  let entry ← require ref store
  raiseIf (entry.state = .deactivated) (.secretVaultError "secret_version_inactive")
  return entry.plaintext

def activateVersion (store : InMemoryStore) : Except VaultException InMemoryStore := do
  let entry ← require ref store
  raiseIf (entry.state = .deactivated) (.secretVaultError "secret_version_inactive")
  return store.modify ref fun entry => entry.withState .active

def deactivateVersion (store : InMemoryStore) : Except VaultException InMemoryStore := do
  let _ ← require ref store
  return store.modify ref fun entry => entry.withState .deactivated

def deleteVersion (store : InMemoryStore) : Except VaultException InMemoryStore :=
  return store.filter fun key _ => key ≠ ref

def confirmInactive (store : InMemoryStore) : Bool :=
  match store.get? ref with
  | none => true
  | some entry => entry.state = .deactivated

def versionExists (store : InMemoryStore) : Bool := (store.get? ref).isSome

def getVersionState (store : InMemoryStore) (ref : SecretRef) : Option SecretVersionState :=
  (store.get? ref).map (·.state)

end InMemorySecretVault

section InMemoryLaws

open InMemorySecretVault

variable {ref : SecretRef} {store store' : InMemoryStore}

theorem getVersionState_modify (state : SecretVersionState) (h : (store.get? ref).isSome) :
    getVersionState (store.modify ref fun entry => entry.withState state) =
      Function.update (getVersionState store) ref (some state) := by
  funext ref'
  rw [getVersionState, Table.get?_modify, Function.update_apply]
  split
  · rename_i heq
    obtain ⟨entry, hentry⟩ := Option.isSome_iff_exists.1 h
    rw [heq, hentry]
    rfl
  · rfl

abbrev inMemorySecretVault : SecretVaultPort where
  State := InMemoryStore
  empty := ∅
  storeSecret ref plaintext metadata _ := storeSecret ref plaintext metadata
  readSecret := readSecret
  activateVersion := activateVersion
  deactivateVersion := deactivateVersion
  deleteVersion := deleteVersion
  confirmInactive := confirmInactive
  versionExists := versionExists
  getVersionState := getVersionState
  getVersionState_empty _ := rfl
  versionExists_eq ref s := by simp [versionExists, getVersionState]
  confirmInactive_eq ref s := by
    unfold confirmInactive getVersionState
    cases s.get? ref with
    | none => rfl
    | some entry => cases h : entry.state <;> simp [SecretVersionState.readable, h]
  readable_of_readSecret ref s p h := by
    simp only [readSecret, require, bind_eq_ok, orRaise_eq_ok, raiseIf_eq_ok] at h
    obtain ⟨entry, hget, -, hstate, -⟩ := h
    rw [getVersionState, hget, Option.map_some]
    cases hs : entry.state <;> simp_all [SecretVersionState.readable]
  getVersionState_storeSecret ref p m now s s' h := by
    simp only [storeSecret, bind_eq_ok, raiseIf_eq_ok, pure_eq_ok, Option.not_isSome_iff_eq_none] at h
    obtain ⟨-, hnone, rfl⟩ := h
    funext ref'
    rw [getVersionState, Table.get?_insert_new _ _ _ hnone, Function.update_apply, getVersionState, hnone]
    split <;> rfl
  getVersionState_activateVersion ref s s' h := by
    simp only [activateVersion, require, bind_eq_ok, orRaise_eq_ok, pure_eq_ok] at h
    obtain ⟨entry, hget, -, -, rfl⟩ := h
    exact getVersionState_modify _ (by rw [hget]; rfl)
  getVersionState_deactivateVersion ref s s' h := by
    simp only [deactivateVersion, require, bind_eq_ok, orRaise_eq_ok, pure_eq_ok] at h
    obtain ⟨entry, hget, hs⟩ := h
    rw [← hs]
    exact getVersionState_modify _ (by rw [hget]; rfl)
  getVersionState_deleteVersion ref s s' h := by
    obtain rfl := pure_eq_ok.1 h
    funext ref'
    rw [getVersionState, Table.get?_filter, Function.update_apply]
    unfold getVersionState
    by_cases heq : ref' = ref <;> cases hget : s.get? ref' <;> simp [heq, Option.filter]
  activateVersion_succeeds ref s h := by
    rw [getVersionState] at h
    cases hget : s.get? ref with
    | none =>
      rw [hget] at h
      cases h
    | some entry =>
      have hstate : entry.state ≠ .deactivated := by
        intro hd
        rw [hget, Option.map_some, hd] at h
        cases h
      refine ⟨s.modify ref fun entry => entry.withState .active, ?_⟩
      simp only [activateVersion, require, bind_eq_ok, orRaise_eq_ok, raiseIf_eq_ok, pure_eq_ok]
      exact ⟨entry, hget, ⟨⟩, hstate, trivial⟩
  deactivateVersion_succeeds ref s h := by
    cases hget : s.get? ref with
    | none => exact absurd (by rw [getVersionState, hget]; rfl) h
    | some entry =>
      refine ⟨s.modify ref fun entry => entry.withState .deactivated, ?_⟩
      simp only [deactivateVersion, require, bind_eq_ok, orRaise_eq_ok, pure_eq_ok]
      exact ⟨entry, hget, trivial⟩
  deleteVersion_succeeds ref s := ⟨_, rfl⟩

end InMemoryLaws

/-! `EnvelopePgSecretVault`. -/

structure Envelope where
  algorithm : String
  cryptoSchemaVersion : ℕ
  kekVersion : ℕ
  ciphertext : List UInt8
  ciphertextNonce : List UInt8
  wrappedDek : List UInt8
  wrappedDekNonce : List UInt8
  deriving DecidableEq

structure SecretEnvelopeVersion where
  state : SecretVersionState
  envelope : Envelope
  createdAt : ℤ
  deriving DecidableEq

def SecretEnvelopeVersion.withState (row : SecretEnvelopeVersion) (state : SecretVersionState) :
    SecretEnvelopeVersion :=
  { row with state := state }

/-- The rows under `uq_secret_envelope_versions_owner_version`: reference and purpose. -/
abbrev EnvelopeRows := Table (SecretRef × String) SecretEnvelopeVersion

/-- What encrypts a plaintext for a reference and a purpose, and opens an envelope again:
the key ring, the random bytes and the cipher. -/
structure EnvelopeCipher where
  encrypt : SecretPlaintext → SecretRef → String → Except VaultException Envelope
  decrypt : Envelope → SecretRef → String → Except VaultException String

/-- An adapter as it is constructed. -/
structure EnvelopePgSecretVault where
  cipher : EnvelopeCipher
  pendingTtlSeconds : ℕ
  ttl_positive : 1 ≤ pendingTtlSeconds

namespace EnvelopePgSecretVault

def nonceSize : ℕ := 12

def algorithmAes256Gcm : String := "aes-256-gcm"

def schemaVersion : ℕ := 1

def defaultPurpose : String := "publishing_connection"

def second : ℤ := 1000000

variable (vault : EnvelopePgSecretVault) (ref : SecretRef)

/-- `_get_row`: the first row of the reference. -/
def getRow (rows : EnvelopeRows) : Option ((SecretRef × String) × SecretEnvelopeVersion) :=
  rows.rows.find? fun r => r.1.1 = ref

def requireRow (rows : EnvelopeRows) : Except VaultException ((SecretRef × String) × SecretEnvelopeVersion) :=
  orRaise (getRow ref rows) (.secretVaultError "secret_version_not_found")

def purposeOf (metadata : Option SecretStoreMetadata) : String :=
  orElse (metadata.map (·.purpose)) defaultPurpose

def storeSecret (plaintext : SecretPlaintext) (metadata : Option SecretStoreMetadata) (now : ℤ)
    (rows : EnvelopeRows) : Except VaultException EnvelopeRows := do
  let purpose := purposeOf metadata
  raiseIf (purpose = "" ∨ 64 < purpose.length) (.secretVaultError "purpose_invalid")
  let envelope ← vault.cipher.encrypt plaintext ref purpose
  raiseIf (envelope.ciphertextNonce.length ≠ nonceSize ∨ envelope.wrappedDekNonce.length ≠ nonceSize)
    (.secretVaultError "nonce_invalid")
  raiseIf ((rows.get? (ref, purpose)).isSome) (.secretVaultError "secret_version_already_exists")
  return rows.insert (ref, purpose) ⟨.pending, envelope, now⟩

/-- `_decrypt_row`; the row found is one of the reference. -/
def decryptRow (row : (SecretRef × String) × SecretEnvelopeVersion) : Except VaultException String := do
  let envelope := row.2.envelope
  raiseIf (envelope.algorithm ≠ algorithmAes256Gcm) (.secretVaultError "unsupported_algorithm")
  raiseIf (envelope.cryptoSchemaVersion ≠ schemaVersion) (.secretVaultError "unsupported_crypto_schema_version")
  raiseIf (row.1.1 ≠ ref) (.secretVaultError "secret_ref_ownership_mismatch")
  vault.cipher.decrypt envelope ref row.1.2

def toPlaintext (value : String) : Except VaultException SecretPlaintext :=
  if h : value = "" then .error .other else .ok ⟨value, h⟩

def readSecret (rows : EnvelopeRows) : Except VaultException SecretPlaintext := do
  let row ← requireRow ref rows
  raiseIf (row.2.state = .deactivated) (.secretVaultError "secret_version_inactive")
  let plaintext ← vault.decryptRow ref row
  toPlaintext plaintext

def activateVersion (rows : EnvelopeRows) : Except VaultException EnvelopeRows := do
  let row ← requireRow ref rows
  raiseIf (row.2.state = .deactivated) (.secretVaultError "secret_version_inactive")
  return rows.modify row.1 fun row => row.withState .active

def deactivateVersion (rows : EnvelopeRows) : Except VaultException EnvelopeRows := do
  let row ← requireRow ref rows
  return rows.modify row.1 fun row => row.withState .deactivated

def deleteVersion (rows : EnvelopeRows) : Except VaultException EnvelopeRows :=
  return rows.filter fun key _ => key.1 ≠ ref

def confirmInactive (rows : EnvelopeRows) : Bool :=
  match getRow ref rows with
  | none => true
  | some row => row.2.state = .deactivated

def versionExists (rows : EnvelopeRows) : Bool := (getRow ref rows).isSome

def getVersionState (rows : EnvelopeRows) (ref : SecretRef) : Option SecretVersionState :=
  (getRow ref rows).map (·.2.state)

/-- A row that the cleanup takes for an orphan. -/
def isStalePending (cutoff : ℤ) (row : SecretEnvelopeVersion) : Bool :=
  row.state = .pending ∧ row.createdAt < cutoff

/-- The time before which a pending row counts as an orphan. -/
def cutoff (olderThan : Option ℤ) (now : ℤ) : Except VaultException ℤ := do
  let ttl := olderThan.getD (vault.pendingTtlSeconds * second)
  raiseIf (ttl < second) (.secretVaultError "pending_ttl_invalid")
  return now - ttl

/-- `cleanup_orphan_pending`: the number of rows deleted, and the rows left. -/
def cleanupOrphanPending (olderThan : Option ℤ) (now : ℤ) (rows : EnvelopeRows) :
    Except VaultException (ℕ × EnvelopeRows) := do
  let cutoff ← vault.cutoff olderThan now
  return ((rows.rows.filter fun r => isStalePending cutoff r.2).length,
    rows.filter fun _ row => !isStalePending cutoff row)

end EnvelopePgSecretVault

section EnvelopePgLaws

open EnvelopePgSecretVault

variable {ref : SecretRef} {rows : EnvelopeRows}

theorem getRow_owner {row : (SecretRef × String) × SecretEnvelopeVersion} (h : getRow ref rows = some row) :
    row.1.1 = ref := by
  simpa using List.find?_some h

/-- A write to the first row of a reference. -/
theorem getVersionState_modifyRow {row : (SecretRef × String) × SecretEnvelopeVersion}
    (h : getRow ref rows = some row) (state : SecretVersionState) :
    getVersionState (rows.modify row.1 fun row => row.withState state) =
      Function.update (getVersionState rows) ref (some state) := by
  funext ref'
  have hfind : getRow ref' (rows.modify row.1 fun row => row.withState state) =
      (getRow ref' rows).map fun r => if r.1 = row.1 then (r.1, r.2.withState state) else r := by
    unfold getRow Table.modify
    rw [List.find?_map]
    congr 2
    funext r
    by_cases hr : r.1 = row.1 <;> simp [hr]
  rw [getVersionState, hfind, Function.update_apply]
  split
  · rename_i heq
    simp [heq, h, SecretEnvelopeVersion.withState]
  · rename_i hne
    cases hget : getRow ref' rows with
    | none => simp [getVersionState, hget]
    | some r =>
      have hkey : r.1 ≠ row.1 := by
        intro he
        rw [← getRow_owner h, ← getRow_owner hget, he] at hne
        exact hne rfl
      simp [getVersionState, hget, hkey]

abbrev envelopePgSecretVault (vault : EnvelopePgSecretVault) : SecretVaultPort where
  State := EnvelopeRows
  empty := ∅
  storeSecret := vault.storeSecret
  readSecret := vault.readSecret
  activateVersion := activateVersion
  deactivateVersion := deactivateVersion
  deleteVersion := deleteVersion
  confirmInactive := confirmInactive
  versionExists := versionExists
  getVersionState := getVersionState
  getVersionState_empty _ := rfl
  versionExists_eq ref s := by simp [versionExists, getVersionState]
  confirmInactive_eq ref s := by
    unfold confirmInactive getVersionState
    cases getRow ref s with
    | none => rfl
    | some row => cases h : row.2.state <;> simp [SecretVersionState.readable, h]
  readable_of_readSecret ref s p h := by
    simp only [readSecret, requireRow, bind_eq_ok, orRaise_eq_ok, raiseIf_eq_ok] at h
    obtain ⟨row, hget, -, hstate, -⟩ := h
    rw [getVersionState, hget, Option.map_some]
    cases hs : row.2.state <;> simp_all [SecretVersionState.readable]
  getVersionState_storeSecret ref p m now s s' h := by
    simp only [storeSecret, bind_eq_ok, raiseIf_eq_ok, pure_eq_ok, Option.not_isSome_iff_eq_none] at h
    obtain ⟨-, -, envelope, -, -, -, -, hnone, rfl⟩ := h
    funext ref'
    simp only [getVersionState, getRow, Table.rows_insert_new _ _ hnone, List.find?_append, Function.update_apply]
    by_cases heq : ref' = ref
    · subst heq
      rw [if_pos rfl]
      cases s.rows.find? fun r => decide (r.1.1 = ref') <;> simp
    · rw [if_neg heq]
      cases s.rows.find? fun r => decide (r.1.1 = ref') <;> simp [Ne.symm heq]
  getVersionState_activateVersion ref s s' h := by
    simp only [activateVersion, requireRow, bind_eq_ok, orRaise_eq_ok, pure_eq_ok] at h
    obtain ⟨row, hget, -, -, rfl⟩ := h
    exact getVersionState_modifyRow hget _
  getVersionState_deactivateVersion ref s s' h := by
    simp only [deactivateVersion, requireRow, bind_eq_ok, orRaise_eq_ok, pure_eq_ok] at h
    obtain ⟨row, hget, rfl⟩ := h
    exact getVersionState_modifyRow hget _
  getVersionState_deleteVersion ref s s' h := by
    obtain rfl := pure_eq_ok.1 h
    funext ref'
    simp only [getVersionState, getRow, Table.filter, List.find?_filter, Function.update_apply]
    by_cases heq : ref' = ref
    · subst heq
      simp
    · rw [if_neg heq]
      congr 2
      funext r
      by_cases hr : r.1.1 = ref'
      · simp [hr, heq]
      · simp [hr]
  activateVersion_succeeds ref s h := by
    rw [getVersionState] at h
    cases hget : getRow ref s with
    | none =>
      rw [hget] at h
      cases h
    | some row =>
      have hstate : row.2.state ≠ .deactivated := by
        intro hd
        rw [hget, Option.map_some, hd] at h
        cases h
      refine ⟨s.modify row.1 fun row => row.withState .active, ?_⟩
      simp only [activateVersion, requireRow, bind_eq_ok, orRaise_eq_ok, raiseIf_eq_ok, pure_eq_ok]
      exact ⟨row, hget, ⟨⟩, hstate, rfl⟩
  deactivateVersion_succeeds ref s h := by
    cases hget : getRow ref s with
    | none => exact absurd (by rw [getVersionState, hget]; rfl) h
    | some row =>
      refine ⟨s.modify row.1 fun row => row.withState .deactivated, ?_⟩
      simp only [deactivateVersion, requireRow, bind_eq_ok, orRaise_eq_ok, pure_eq_ok]
      exact ⟨row, hget, rfl⟩
  deleteVersion_succeeds ref s := ⟨_, rfl⟩

end EnvelopePgLaws

end CoreOps.Secrets
