import CoreOps.Secrets.Aad
import CoreOps.Secrets.Adapters

/-! Envelope encryption: the plaintext under a fresh key, and that key under one of the ring,
each with the context as authenticated data. The cipher is ideal where a result says so: what
it has sealed opens under the same key, nonce and data, and under no others. -/

namespace CoreOps.Secrets

open Checked Bytes EnvelopePgSecretVault

inductive AeadError
  | invalidTag
  | other
  deriving DecidableEq, Repr

/-- `AESGCM`: a key, a nonce, a plaintext or a ciphertext, and the associated data. -/
structure Aead where
  encrypt : (key nonce plaintext aad : List UInt8) → Option (List UInt8)
  decrypt : (key nonce ciphertext aad : List UInt8) → Except AeadError (List UInt8)

structure Aead.Ideal (aead : Aead) : Prop where
  decrypt_iff : ∀ {key nonce plaintext aad ciphertext}, aead.encrypt key nonce plaintext aad = some ciphertext →
    ∀ key' nonce' aad' plaintext', aead.decrypt key' nonce' ciphertext aad' = .ok plaintext' ↔
      key' = key ∧ nonce' = nonce ∧ aad' = aad ∧ plaintext' = plaintext

def dekSize : ℕ := 32

/-- What `os.urandom` gives for one envelope. -/
structure FreshBytes where
  dek : List UInt8
  ciphertextNonce : List UInt8
  wrappedDekNonce : List UInt8
  length_dek : dek.length = dekSize
  length_ciphertextNonce : ciphertextNonce.length = nonceSize
  length_wrappedDekNonce : wrappedDekNonce.length = nonceSize

variable (aead : Aead)

def encryptEnvelope (plaintext kek : List UInt8) (kekVersion : ℕ) (x : SecretContext) (fresh : FreshBytes) :
    Except VaultException Envelope := do
  raiseIf (kekVersion < 1) (.secretVaultError "kek_version_invalid")
  raiseIf (kek.length ≠ dekSize) (.secretVaultError "kek_invalid")
  raiseIf (plaintext = []) (.secretVaultError "plaintext_invalid")
  let aad ← encodeAad x
  let ciphertext ← orRaise (aead.encrypt fresh.dek fresh.ciphertextNonce plaintext aad)
    (.secretVaultError "envelope_encrypt_failed")
  let wrappedDek ← orRaise (aead.encrypt kek fresh.wrappedDekNonce fresh.dek aad)
    (.secretVaultError "envelope_encrypt_failed")
  return {
    algorithm := algorithmAes256Gcm
    cryptoSchemaVersion := x.cryptoSchemaVersion.toNat
    kekVersion
    ciphertext
    ciphertextNonce := fresh.ciphertextNonce
    wrappedDek
    wrappedDekNonce := fresh.wrappedDekNonce }

/-- An error of the library, as `decrypt_envelope` raises it. -/
def AeadError.raised : AeadError → VaultException
  | .invalidTag => .secretVaultError "envelope_auth_failed"
  | .other => .secretVaultError "envelope_decrypt_failed"

def decryptEnvelope (ciphertext ciphertextNonce wrappedDek wrappedDekNonce kek : List UInt8) (x : SecretContext)
    (algorithm : String) : Except VaultException (List UInt8) := do
  raiseIf (algorithm ≠ algorithmAes256Gcm) (.secretVaultError "unsupported_algorithm")
  raiseIf (x.cryptoSchemaVersion ≠ schemaVersion) (.secretVaultError "unsupported_crypto_schema_version")
  raiseIf (kek.length ≠ dekSize) (.secretVaultError "kek_invalid")
  raiseIf (ciphertextNonce.length ≠ nonceSize ∨ wrappedDekNonce.length ≠ nonceSize) (.secretVaultError "nonce_invalid")
  let aad ← encodeAad x
  let dek ← (aead.decrypt kek wrappedDekNonce wrappedDek aad).mapError AeadError.raised
  (aead.decrypt dek ciphertextNonce ciphertext aad).mapError AeadError.raised

/-- The call with the columns of an envelope. -/
def Envelope.decrypt (envelope : Envelope) (kek : List UInt8) (x : SecretContext) (algorithm : String) :
    Except VaultException (List UInt8) :=
  decryptEnvelope aead envelope.ciphertext envelope.ciphertextNonce envelope.wrappedDek envelope.wrappedDekNonce kek x
    algorithm

variable {aead} {plaintext kek kek' : List UInt8} {kekVersion : ℕ} {x x' : SecretContext} {fresh : FreshBytes}
  {envelope : Envelope} {algorithm : String}

/-- An envelope opens with its key and its context, and with nothing else: the data key has
been sealed with the bytes of the context, and these are those of one context only. -/
theorem decrypt_eq_ok (hideal : aead.Ideal) (h : encryptEnvelope aead plaintext kek kekVersion x fresh = .ok envelope)
    {plaintext' : List UInt8} :
    envelope.decrypt aead kek' x' algorithm = .ok plaintext' ↔
      algorithm = algorithmAes256Gcm ∧ x.cryptoSchemaVersion = schemaVersion ∧ kek' = kek ∧ x' = x ∧
        plaintext' = plaintext := by
  simp only [encryptEnvelope, bind_eq_ok, raiseIf_eq_ok, orRaise_eq_ok, pure_eq_ok, exists_and_left, exists_const,
    ne_eq, not_not] at h
  obtain ⟨-, hkek, -, aad, haad, ciphertext, hsealed, wrapped, hwrapped, rfl⟩ := h
  simp only [Envelope.decrypt, decryptEnvelope, bind_eq_ok, raiseIf_eq_ok, mapError_eq_ok, exists_and_left,
    exists_const, ne_eq, not_not, not_or]
  constructor
  · rintro ⟨halgorithm, hschema, -, -, aad', haad', dek, hdek, hplaintext⟩
    obtain ⟨rfl, -, rfl, rfl⟩ := (hideal.decrypt_iff hwrapped _ _ _ _).1 hdek
    obtain ⟨-, -, -, rfl⟩ := (hideal.decrypt_iff hsealed _ _ _ _).1 hplaintext
    obtain ⟨hx, rfl⟩ := encodeAad_eq_ok.1 haad
    obtain ⟨hx', hbytes⟩ := encodeAad_eq_ok.1 haad'
    obtain rfl := bytes_inj hx'.fits hx.fits hbytes
    exact ⟨halgorithm, hschema, rfl, rfl, rfl⟩
  · rintro ⟨halgorithm, hschema, rfl, rfl, rfl⟩
    exact ⟨halgorithm, hschema, hkek, ⟨fresh.length_ciphertextNonce, fresh.length_wrappedDekNonce⟩, aad, haad,
      fresh.dek, (hideal.decrypt_iff hwrapped _ _ _ _).2 ⟨rfl, rfl, rfl, rfl⟩,
      (hideal.decrypt_iff hsealed _ _ _ _).2 ⟨rfl, rfl, rfl, rfl⟩⟩

/-! The ring of the keys, and the rows of the table. -/

structure KekRing where
  activeKekVersion : ℕ
  keys : List (ℕ × List UInt8)
  length_key : ∀ entry ∈ keys, entry.2.length = dekSize
  positive : ∀ entry ∈ keys, 1 ≤ entry.1

def KekRing.get (ring : KekRing) (version : ℕ) : Except VaultException (List UInt8) := do
  raiseIf (version < 1) (.secretVaultError "kek_version_invalid")
  orRaise (ring.keys.lookup version) (.secretVaultError "kek_version_unknown")

/-- The context of a row; the schema is the default one. -/
def contextOf (ref : SecretRef) (purpose : String) : SecretContext :=
  ⟨ref.tenantId, ref.connectionId, (ref.version : ℕ), purpose, schemaVersion⟩

theorem contextOf_inj {ref ref' : SecretRef} {purpose purpose' : String}
    (h : contextOf ref purpose = contextOf ref' purpose') : ref = ref' ∧ purpose = purpose' := by
  obtain ⟨tenantId, connectionId, version⟩ := ref
  obtain ⟨tenantId', connectionId', version'⟩ := ref'
  simp only [contextOf, SecretContext.mk.injEq, and_true] at h
  obtain ⟨rfl, rfl, hversion, rfl⟩ := h
  obtain rfl : version = version' := PNat.coe_injective (by exact_mod_cast hversion)
  exact ⟨rfl, rfl⟩

/-- What the adapter encrypts with: the active key of the ring and fresh bytes. A plaintext is
a text; one that is no text any more raises an error of its own. -/
def KekRing.cipher (aead : Aead) (ring : KekRing) (fresh : FreshBytes) : EnvelopeCipher where
  encrypt plaintext ref purpose := do
    let kek ← ring.get ring.activeKekVersion
    encryptEnvelope aead (utf8 plaintext.value) kek ring.activeKekVersion (contextOf ref purpose) fresh
  decrypt envelope ref purpose := do
    let kek ← ring.get envelope.kekVersion
    let plaintext ← envelope.decrypt aead kek (contextOf ref purpose) envelope.algorithm
    orRaise (utf8Decode? plaintext) .other

theorem columns_of_encrypt (h : encryptEnvelope aead plaintext kek kekVersion x fresh = .ok envelope) :
    envelope.kekVersion = kekVersion ∧ envelope.algorithm = algorithmAes256Gcm ∧
      envelope.cryptoSchemaVersion = x.cryptoSchemaVersion.toNat := by
  simp only [encryptEnvelope, bind_eq_ok, pure_eq_ok] at h
  obtain ⟨-, -, -, -, -, -, aad, -, ciphertext, -, wrapped, -, rfl⟩ := h
  exact ⟨rfl, rfl, rfl⟩

/-- The cipher of a ring opens what that of another has sealed when it has the key, and the
reference and the purpose are the same. -/
theorem cipher_decrypt_eq_ok (hideal : aead.Ideal) {ring ring' : KekRing} {fresh fresh' : FreshBytes}
    {plaintext : SecretPlaintext} {ref ref' : SecretRef} {purpose purpose' text : String}
    (h : (ring.cipher aead fresh).encrypt plaintext ref purpose = .ok envelope) :
    (ring'.cipher aead fresh').decrypt envelope ref' purpose' = .ok text ↔
      ring'.get ring.activeKekVersion = ring.get ring.activeKekVersion ∧ ref' = ref ∧ purpose' = purpose ∧
        text = plaintext.value := by
  obtain ⟨kek, hkek, hsealed⟩ := bind_eq_ok.1 h
  obtain ⟨hversion, halgorithm, -⟩ := columns_of_encrypt hsealed
  simp only [KekRing.cipher, bind_eq_ok, orRaise_eq_ok, hversion, decrypt_eq_ok hideal hsealed]
  constructor
  · rintro ⟨kek', hkek', _, ⟨-, -, rfl, hcontext, rfl⟩, htext⟩
    obtain ⟨rfl, rfl⟩ := contextOf_inj hcontext
    exact ⟨hkek'.trans hkek.symm, rfl, rfl, (Option.some.inj ((utf8Decode?_utf8 _).symm.trans htext)).symm⟩
  · rintro ⟨hring, rfl, rfl, rfl⟩
    exact ⟨kek, hring.trans hkek, _, ⟨halgorithm, rfl, rfl, rfl, rfl⟩, utf8Decode?_utf8 _⟩

/-- A row gives the plaintext out if it is where it has been put, for the reference it has
been put for, and to a ring with the key it has been sealed with. -/
theorem decryptRow_eq_ok (hideal : aead.Ideal) {ring ring' : KekRing} {fresh fresh' : FreshBytes}
    {plaintext : SecretPlaintext} {ref ref' ref'' : SecretRef} {purpose purpose' text : String}
    (h : (ring.cipher aead fresh).encrypt plaintext ref purpose = .ok envelope) {vault : EnvelopePgSecretVault}
    (hvault : vault.cipher = ring'.cipher aead fresh') {state : SecretVersionState} {createdAt : ℤ} :
    vault.decryptRow ref' ((ref'', purpose'), ⟨state, envelope, createdAt⟩) = .ok text ↔
      ref' = ref ∧ ref'' = ref ∧ purpose' = purpose ∧
        ring'.get ring.activeKekVersion = ring.get ring.activeKekVersion ∧ text = plaintext.value := by
  obtain ⟨kek, -, hsealed⟩ := bind_eq_ok.1 h
  obtain ⟨-, halgorithm, hschema⟩ := columns_of_encrypt hsealed
  simp only [decryptRow, bind_eq_ok, raiseIf_eq_ok, exists_const, ne_eq, not_not, hvault,
    cipher_decrypt_eq_ok hideal h]
  constructor
  · rintro ⟨-, -, rfl, hring, rfl, rfl, rfl⟩
    exact ⟨rfl, rfl, rfl, hring, rfl⟩
  · rintro ⟨rfl, rfl, rfl, hring, rfl⟩
    exact ⟨halgorithm, hschema, rfl, hring, rfl, rfl, rfl⟩

theorem exists_error_of_ne_ok {α : Type} {call : Except VaultException α} (h : ∀ a, call ≠ .ok a) :
    ∃ e, call = .error e := by
  cases call with
  | error e => exact ⟨e, rfl⟩
  | ok a => exact absurd rfl (h a)

/-- The envelope of a context gives the plaintext back under that context and its key, and
raises under any other; the rows of the vault do the same under a ring. -/
theorem decryption_bound_to_context (hideal : aead.Ideal) :
    (∀ plaintext kek kekVersion tenantId connectionId version purpose fresh envelope,
      encryptEnvelope aead plaintext kek kekVersion ⟨tenantId, connectionId, version, purpose, schemaVersion⟩ fresh =
        .ok envelope →
      envelope.decrypt aead kek ⟨tenantId, connectionId, version, purpose, schemaVersion⟩ envelope.algorithm =
        .ok plaintext ∧
      ∀ kek' tenantId' connectionId' version' purpose' schema algorithm,
        tenantId' ≠ tenantId ∨ connectionId' ≠ connectionId ∨ version' ≠ version ∨ purpose' ≠ purpose ∨ kek' ≠ kek →
        ∃ e, envelope.decrypt aead kek' ⟨tenantId', connectionId', version', purpose', schema⟩ algorithm = .error e) ∧
    ∀ (ring ring' : KekRing) fresh fresh' (vault : EnvelopePgSecretVault) plaintext ref purpose envelope state createdAt,
      vault.cipher = ring'.cipher aead fresh' →
      (ring.cipher aead fresh).encrypt plaintext ref purpose = .ok envelope →
      (ring'.get ring.activeKekVersion = ring.get ring.activeKekVersion →
        vault.decryptRow ref ((ref, purpose), ⟨state, envelope, createdAt⟩) = .ok plaintext.value) ∧
      ∀ ref' ref'' purpose', ref' ≠ ref ∨ ref'' ≠ ref ∨ purpose' ≠ purpose ∨
          ring'.get ring.activeKekVersion ≠ ring.get ring.activeKekVersion →
        ∃ e, vault.decryptRow ref' ((ref'', purpose'), ⟨state, envelope, createdAt⟩) = .error e := by
  refine ⟨?_, ?_⟩
  · intro plaintext kek kekVersion tenantId connectionId version purpose fresh envelope hsealed
    refine ⟨(decrypt_eq_ok hideal hsealed).2 ⟨(columns_of_encrypt hsealed).2.1, rfl, rfl, rfl, rfl⟩, ?_⟩
    intro kek' tenantId' connectionId' version' purpose' schema algorithm hother
    refine exists_error_of_ne_ok fun plaintext' hopened => ?_
    obtain ⟨-, -, rfl, hcontext, -⟩ := (decrypt_eq_ok hideal hsealed).1 hopened
    cases hcontext
    simp at hother
  · intro ring ring' fresh fresh' vault plaintext ref purpose envelope state createdAt hvault hsealed
    refine ⟨fun hring => (decryptRow_eq_ok hideal hsealed hvault).2 ⟨rfl, rfl, rfl, hring, rfl⟩, ?_⟩
    intro ref' ref'' purpose' hother
    refine exists_error_of_ne_ok fun text hopened => ?_
    obtain ⟨rfl, rfl, rfl, hring, -⟩ := (decryptRow_eq_ok hideal hsealed hvault).1 hopened
    simp [hring] at hother

/-! An ideal cipher: it writes what it has sealed with in front of the plaintext. -/

def frame (bytes : List UInt8) : List UInt8 := bytes.flatMap (fun b => [1, b]) ++ [0]

def unframe : List UInt8 → Option (List UInt8 × List UInt8)
  | 0 :: rest => some ([], rest)
  | 1 :: b :: rest => (unframe rest).map fun (bytes, rest) => (b :: bytes, rest)
  | _ => none

@[simp] theorem unframe_frame (bytes rest : List UInt8) : unframe (frame bytes ++ rest) = some (bytes, rest) := by
  induction bytes with
  | nil => rfl
  | cons b bytes ih =>
    have hframe : frame (b :: bytes) ++ rest = 1 :: b :: (frame bytes ++ rest) := rfl
    rw [hframe, unframe, ih]
    rfl

def Aead.transparent : Aead where
  encrypt key nonce plaintext aad := some (frame key ++ (frame nonce ++ (frame aad ++ plaintext)))
  decrypt key nonce ciphertext aad :=
    match (do
      let (key', rest) ← unframe ciphertext
      let (nonce', rest) ← unframe rest
      let (aad', plaintext) ← unframe rest
      if key' = key ∧ nonce' = nonce ∧ aad' = aad then some plaintext else none : Option (List UInt8)) with
    | some plaintext => .ok plaintext
    | none => .error .invalidTag

theorem transparent_ideal : Aead.transparent.Ideal where
  decrypt_iff := by
    intro key nonce plaintext aad ciphertext h key' nonce' aad' plaintext'
    obtain rfl := Option.some.inj h
    simp only [Aead.transparent, unframe_frame, Option.bind_eq_bind, Option.bind_some]
    by_cases hsame : key = key' ∧ nonce = nonce' ∧ aad = aad'
    · obtain ⟨rfl, rfl, rfl⟩ := hsame
      simp [eq_comm]
    · rw [if_neg hsame]
      simp only [reduceCtorEq, false_iff]
      rintro ⟨rfl, rfl, rfl, -⟩
      exact hsame ⟨rfl, rfl, rfl⟩

def someFreshBytes : FreshBytes :=
  ⟨List.replicate 32 1, List.replicate 12 2, List.replicate 12 3, rfl, rfl, rfl⟩

theorem decryption_bound_to_context_transparent :
    ∃ envelope, encryptEnvelope .transparent [104, 105] (List.replicate 32 4) 1 ⟨1, 2, 1, "publishing", 1⟩
        someFreshBytes = .ok envelope ∧
      envelope.decrypt .transparent (List.replicate 32 4) ⟨1, 2, 1, "publishing", 1⟩ envelope.algorithm =
        .ok [104, 105] :=
  ⟨_, rfl, ((decryption_bound_to_context transparent_ideal).1 _ _ 1 1 2 1 "publishing" someFreshBytes _ rfl).1⟩

end CoreOps.Secrets
