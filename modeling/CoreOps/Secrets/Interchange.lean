import Mathlib.Data.Nat.Digits.Defs
import CoreOps.Lib.Lockstep
import CoreOps.Secrets.Adapters

/-! When the two adapters can stand in for one another. The table is kept under the reference
and the purpose, so it takes a version a second time under another purpose; its columns bound
the version and the purpose; and it names a version below 1 by an error of its own. -/

namespace CoreOps.Secrets

open Checked Text

/-! References as they are constructed. -/

/-- What a call to an adapter raises. -/
inductive AdapterException
  | vault (e : VaultException)
  | secretRefValidationError (code : String)
  deriving DecidableEq, Repr

def maxLen : ℕ := 255

def uuidDigits (id : Uuid) (start length : ℕ) : String :=
  String.ofList ((List.range length).map fun i => Nat.digitChar (id.toNat / 16 ^ (31 - (start + i)) % 16))

/-- `str` of a UUID. -/
def uuidText (id : Uuid) : String :=
  uuidDigits id 0 8 ++ "-" ++ uuidDigits id 8 4 ++ "-" ++ uuidDigits id 12 4 ++ "-" ++ uuidDigits id 16 4 ++ "-" ++
    uuidDigits id 20 12

def render (ref : SecretRef) : String :=
  "secret://marketing/tenants/" ++ uuidText ref.tenantId ++ "/publishing-connections/" ++ uuidText ref.connectionId ++
    "/versions/" ++ Nat.repr ref.version

/-- A reference that `SecretRef` has let pass. -/
structure TypedSecretRef where
  ref : SecretRef
  short : (render ref).length ≤ maxLen

/-- The reference with a version that is at least 1. -/
def refOf (tenantId connectionId : Uuid) (version : ℤ) : SecretRef := ⟨tenantId, connectionId, version.toNat.toPNat'⟩

/-- `build_secret_ref`, with the checks of `SecretRef`. -/
def constructSecretRef (tenantId connectionId : Uuid) (version : ℤ) : Except AdapterException SecretRef := do
  raiseIf (version < 1) (.secretRefValidationError "secret_ref_version_must_be_positive")
  let ref := refOf tenantId connectionId version
  raiseIf (maxLen < (render ref).length) (.secretRefValidationError "secret_ref_too_long")
  return ref

/-! Calls. -/

inductive AdapterCall
  | storeSecret (tenantId connectionId : Uuid) (version : ℤ) (plaintext : SecretPlaintext)
      (metadata : Option SecretStoreMetadata)
  | readSecret (ref : TypedSecretRef)
  | activateVersion (ref : TypedSecretRef)
  | deactivateVersion (ref : TypedSecretRef)
  | deleteVersion (ref : TypedSecretRef)

inductive AdapterAnswer
  | secretRef (ref : SecretRef)
  | plaintext (plaintext : SecretPlaintext)
  | none
  deriving DecidableEq

/-- An exception leaves the store as it was. -/
def settleCall {σ : Type} (s : σ) (result : Except AdapterException (AdapterAnswer × σ)) :
    Except AdapterException AdapterAnswer × σ :=
  match result with
  | .ok (answer, s') => (.ok answer, s')
  | .error e => (.error e, s)

/-- What the store itself raises. -/
def raised {α : Type} (x : Except VaultException α) : Except AdapterException α := x.mapError .vault

/-- A call that answers nothing. -/
def silent {σ : Type} (x : Except VaultException σ) : Except AdapterException (AdapterAnswer × σ) := do
  return (.none, ← raised x)

/-- `_assert_typed_ref` finds nothing: the reference was constructed. -/
def InMemorySecretVault.call (store : InMemoryStore) : AdapterCall → Except AdapterException (AdapterAnswer × InMemoryStore)
  | .storeSecret tenantId connectionId version plaintext metadata => do
    let ref ← constructSecretRef tenantId connectionId version
    let store ← raised (storeSecret ref plaintext metadata store)
    return (.secretRef ref, store)
  | .readSecret ref => do
    let plaintext ← raised (readSecret ref.ref store)
    return (.plaintext plaintext, store)
  | .activateVersion ref => silent (activateVersion ref.ref store)
  | .deactivateVersion ref => silent (deactivateVersion ref.ref store)
  | .deleteVersion ref => silent (deleteVersion ref.ref store)

/-- The greatest value of an `Integer` column, also as a parameter of a query. -/
def integerMax : ℕ := 2147483647

namespace EnvelopePgSecretVault

def checkVersion (ref : SecretRef) : Except AdapterException Unit := raiseIf (integerMax < ref.version) (.vault .other)

/-- A text column does not take a zero character. -/
def checkPurpose (metadata : Option SecretStoreMetadata) : Except AdapterException Unit :=
  raiseIf ('\x00' ∈ (purposeOf metadata).toList) (.vault .other)

/-- A row with values that its columns do not hold is never there, so it does not matter that
its key is looked up first. -/
def call (vault : EnvelopePgSecretVault) (now : ℤ) (rows : EnvelopeRows) :
    AdapterCall → Except AdapterException (AdapterAnswer × EnvelopeRows)
  | .storeSecret tenantId connectionId version plaintext metadata => do
    raiseIf (version < 1) (.vault (.secretVaultError "secret_version_invalid"))
    let rows' ← raised (vault.storeSecret (refOf tenantId connectionId version) plaintext metadata now rows)
    let ref ← constructSecretRef tenantId connectionId version
    checkVersion ref
    checkPurpose metadata
    return (.secretRef ref, rows')
  | .readSecret ref => do
    checkVersion ref.ref
    let plaintext ← raised (vault.readSecret ref.ref rows)
    return (.plaintext plaintext, rows)
  | .activateVersion ref => do
    checkVersion ref.ref
    silent (activateVersion ref.ref rows)
  | .deactivateVersion ref => do
    checkVersion ref.ref
    silent (deactivateVersion ref.ref rows)
  | .deleteVersion ref => do
    checkVersion ref.ref
    silent (deleteVersion ref.ref rows)

end EnvelopePgSecretVault

open EnvelopePgSecretVault

/-- A cipher that draws its keys and nonces at each call. -/
structure RandomizedCipher where
  encrypt : (random : List UInt8) → SecretPlaintext → SecretRef → String → Except VaultException Envelope
  decrypt : Envelope → SecretRef → String → Except VaultException String

def RandomizedCipher.at (cipher : RandomizedCipher) (random : List UInt8) : EnvelopeCipher :=
  ⟨cipher.encrypt random, cipher.decrypt⟩

/-- The greatest version that fits the authenticated data. -/
def packMax : ℕ := 4294967295

/-- The cipher works: what it seals for a version and a purpose it opens for them again. A
version that does not fit the authenticated data is no `SecretVaultError`. -/
structure RandomizedCipher.Correct (cipher : RandomizedCipher) : Prop where
  seals : ∀ random plaintext (ref : SecretRef) purpose, ref.version ≤ packMax → 0 < purpose.length → purpose.length ≤ 64 →
    ∃ envelope, cipher.encrypt random plaintext ref purpose = .ok envelope ∧
      envelope.ciphertextNonce.length = nonceSize ∧ envelope.wrappedDekNonce.length = nonceSize ∧
      envelope.algorithm = algorithmAes256Gcm ∧ envelope.cryptoSchemaVersion = schemaVersion ∧
      cipher.decrypt envelope ref purpose = .ok plaintext.value
  packs : ∀ random plaintext (ref : SecretRef) purpose, packMax < ref.version →
    cipher.encrypt random plaintext ref purpose = .error .other

/-- A call with what the envelope adapter takes from outside: the random bytes and the time. -/
structure AdapterEvent where
  call : AdapterCall
  random : List UInt8
  now : ℤ

/-- What an envelope adapter is constructed with. -/
structure EnvelopeConfig where
  cipher : RandomizedCipher
  pendingTtlSeconds : ℕ
  ttl_positive : 1 ≤ pendingTtlSeconds

def EnvelopeConfig.vault (config : EnvelopeConfig) (random : List UInt8) : EnvelopePgSecretVault :=
  ⟨config.cipher.at random, config.pendingTtlSeconds, config.ttl_positive⟩

def inMemoryStep (store : InMemoryStore) (event : AdapterEvent) : Except AdapterException AdapterAnswer × InMemoryStore :=
  settleCall store (InMemorySecretVault.call store event.call)

def envelopeStep (config : EnvelopeConfig) (rows : EnvelopeRows) (event : AdapterEvent) :
    Except AdapterException AdapterAnswer × EnvelopeRows :=
  settleCall rows ((config.vault event.random).call event.now rows event.call)

/-- The version fits its column, and a store also its purpose, which is not another one than
the version is stored under. -/
def Interchangeable (store : InMemoryStore) : AdapterCall → Prop
  | .storeSecret tenantId connectionId version _ metadata =>
    1 ≤ version ∧ version ≤ integerMax ∧ (purposeOf metadata).length ≤ 64 ∧ '\x00' ∉ (purposeOf metadata).toList ∧
      ∀ entry, store.get? (refOf tenantId connectionId version) = some entry →
        purposeOf entry.metadata = purposeOf metadata
  | .readSecret ref | .activateVersion ref | .deactivateVersion ref | .deleteVersion ref => ref.ref.version ≤ integerMax

/-! One call. -/

section Mirrors

variable {cipher : RandomizedCipher} {store store' : InMemoryStore} {rows rows' : EnvelopeRows} {ref : SecretRef}
  {entry : StoredSecret} {row : SecretEnvelopeVersion}

/-- A row with an entry of the dictionary: it is in the same state and opens to the plaintext,
and its columns hold the version and the purpose. -/
structure Holds (cipher : RandomizedCipher) (ref : SecretRef) (entry : StoredSecret) (row : SecretEnvelopeVersion) :
    Prop where
  state : row.state = entry.state
  algorithm : row.envelope.algorithm = algorithmAes256Gcm
  schema : row.envelope.cryptoSchemaVersion = schemaVersion
  opens : cipher.decrypt row.envelope ref (purposeOf entry.metadata) = .ok entry.plaintext.value
  version : ref.version ≤ integerMax
  purpose : '\x00' ∉ (purposeOf entry.metadata).toList

/-- The table has a single row for each entry of the dictionary, and no other. -/
structure Mirrors (cipher : RandomizedCipher) (store : InMemoryStore) (rows : EnvelopeRows) : Prop where
  absent : ∀ ref, store.get? ref = none → ∀ purpose, rows.get? (ref, purpose) = none
  present : ∀ ref entry, store.get? ref = some entry → ∃ row, Holds cipher ref entry row ∧
    ∀ purpose, rows.get? (ref, purpose) = if purpose = purposeOf entry.metadata then some row else none

theorem mirrors_empty : Mirrors cipher ∅ ∅ :=
  ⟨fun _ _ _ => rfl, fun ref entry h => absurd h (by rw [Table.get?_empty]; exact Option.some_ne_none entry ∘ Eq.symm)⟩

theorem getRow_none (h : ∀ purpose, rows.get? (ref, purpose) = none) : getRow ref rows = none := by
  refine List.find?_eq_none.2 fun r hr hkey => ?_
  obtain ⟨⟨ref', purpose⟩, row⟩ := r
  obtain rfl : ref' = ref := of_decide_eq_true hkey
  exact Option.some_ne_none row ((Table.mem_rows.1 hr).symm.trans (h purpose))

theorem getRow_some {purpose : String} (h : ∀ purpose', rows.get? (ref, purpose') = if purpose' = purpose then some row else none) :
    getRow ref rows = some ((ref, purpose), row) := by
  have hmem : ((ref, purpose), row) ∈ rows.rows := Table.mem_rows.2 ((h purpose).trans (if_pos rfl))
  cases hfind : getRow ref rows with
  | none => exact absurd (decide_eq_true rfl) (List.find?_eq_none.1 hfind _ hmem)
  | some r =>
    obtain ⟨⟨ref', purpose'⟩, row'⟩ := r
    obtain rfl : ref' = ref := getRow_owner hfind
    have hget := Table.mem_rows.1 (List.mem_of_find?_eq_some hfind)
    rw [h] at hget
    split at hget
    · rename_i heq
      rw [heq, Option.some.inj hget]
    · cases hget

/-- Both adapters raise the same, or both answer the same and the table still mirrors the
dictionary. -/
inductive SameResult (cipher : RandomizedCipher) : Except AdapterException (AdapterAnswer × InMemoryStore) →
    Except AdapterException (AdapterAnswer × EnvelopeRows) → Prop
  | raised (e : AdapterException) : SameResult cipher (.error e) (.error e)
  | answered {store : InMemoryStore} {rows : EnvelopeRows} (answer : AdapterAnswer) (h : Mirrors cipher store rows) :
    SameResult cipher (.ok (answer, store)) (.ok (answer, rows))

theorem SameResult.settled {r₁ : Except AdapterException (AdapterAnswer × InMemoryStore)}
    {r₂ : Except AdapterException (AdapterAnswer × EnvelopeRows)} (h : SameResult cipher r₁ r₂)
    (hm : Mirrors cipher store rows) :
    (settleCall store r₁).1 = (settleCall rows r₂).1 ∧ Mirrors cipher (settleCall store r₁).2 (settleCall rows r₂).2 := by
  cases h with
  | raised e => exact ⟨rfl, hm⟩
  | answered answer h => exact ⟨rfl, h⟩

/-- Both move a version to another state. -/
theorem Mirrors.withState (hm : Mirrors cipher store rows) (hentry : store.get? ref = some entry)
    (state : SecretVersionState) :
    Mirrors cipher (store.modify ref fun entry => entry.withState state)
      (rows.modify (ref, purposeOf entry.metadata) fun row => row.withState state) := by
  refine ⟨fun ref' hget purpose => ?_, fun ref' entry' hget => ?_⟩
  · have hne : ref' ≠ ref := by
      rintro rfl
      rw [Table.get?_modify_self, hentry] at hget
      cases hget
    rw [Table.get?_modify_of_ne _ hne] at hget
    rw [Table.get?_modify_of_ne _ (fun heq => hne (Prod.mk.inj heq).1)]
    exact hm.absent ref' hget purpose
  · by_cases heq : ref' = ref
    · subst heq
      rw [Table.get?_modify_self, hentry] at hget
      obtain rfl := Option.some.inj hget
      obtain ⟨row, hholds, hrows⟩ := hm.present ref' entry hentry
      refine ⟨row.withState state, ⟨rfl, hholds.algorithm, hholds.schema, hholds.opens, hholds.version, hholds.purpose⟩,
        fun purpose => ?_⟩
      rw [Table.get?_modify, hrows purpose]
      by_cases hpurpose : purpose = purposeOf entry.metadata
      · rw [if_pos (by rw [hpurpose]), if_pos hpurpose]
        exact (if_pos hpurpose).symm
      · rw [if_neg (fun h => hpurpose (Prod.mk.inj h).2), if_neg hpurpose]
        exact (if_neg hpurpose).symm
    · rw [Table.get?_modify_of_ne _ heq] at hget
      obtain ⟨row, hholds, hrows⟩ := hm.present ref' entry' hget
      refine ⟨row, hholds, fun purpose => ?_⟩
      rw [Table.get?_modify_of_ne _ (fun h => heq (Prod.mk.inj h).1)]
      exact hrows purpose

theorem Mirrors.delete (hm : Mirrors cipher store rows) (ref : SecretRef) :
    Mirrors cipher (store.filter fun key _ => key ≠ ref) (rows.filter fun key _ => key.1 ≠ ref) := by
  refine ⟨fun ref' hget purpose => ?_, fun ref' entry hget => ?_⟩
  · rw [Table.get?_filter] at hget ⊢
    by_cases heq : ref' = ref
    · cases rows.get? (ref', purpose) <;> simp [heq, Option.filter]
    · have hnone : store.get? ref' = none := by
        cases hstore : store.get? ref' with
        | none => rfl
        | some entry =>
          rw [hstore] at hget
          simp [Option.filter, heq] at hget
      rw [hm.absent ref' hnone purpose]
      rfl
  · rw [Table.get?_filter] at hget
    obtain ⟨hentry, hkept⟩ := Option.filter_eq_some_iff.1 hget
    obtain ⟨row, hholds, hrows⟩ := hm.present ref' entry hentry
    refine ⟨row, hholds, fun purpose => ?_⟩
    rw [Table.get?_filter, hrows purpose]
    by_cases hpurpose : purpose = purposeOf entry.metadata
    · rw [if_pos hpurpose]
      exact Option.filter_some_pos hkept
    · rw [if_neg hpurpose]
      rfl

/-- Both store a new version. -/
theorem Mirrors.insert (hm : Mirrors cipher store rows) (hnone : store.get? ref = none) (hholds : Holds cipher ref entry row) :
    Mirrors cipher (Table.insert store ref entry) (Table.insert rows (ref, purposeOf entry.metadata) row) := by
  have hfree := hm.absent ref hnone
  refine ⟨fun ref' hget purpose => ?_, fun ref' entry' hget => ?_⟩
  · rw [Table.get?_insert_new _ _ _ hnone] at hget
    split at hget
    · cases hget
    · rename_i hne
      rw [Table.get?_insert_new _ _ _ (hfree _), if_neg fun heq => hne (Prod.mk.inj heq).1]
      exact hm.absent ref' hget purpose
  · rw [Table.get?_insert_new _ _ _ hnone] at hget
    split at hget
    · rename_i heq
      subst heq
      obtain rfl := Option.some.inj hget
      refine ⟨row, hholds, fun purpose => ?_⟩
      rw [Table.get?_insert_new _ _ _ (hfree _), hfree purpose]
      by_cases hpurpose : purpose = purposeOf entry.metadata
      · rw [if_pos (by rw [hpurpose]), if_pos hpurpose]
      · rw [if_neg (fun h => hpurpose (Prod.mk.inj h).2), if_neg hpurpose]
    · rename_i hne
      obtain ⟨row', hholds', hrows⟩ := hm.present ref' entry' hget
      refine ⟨row', hholds', fun purpose => ?_⟩
      rw [Table.get?_insert_new _ _ _ (hfree _), if_neg fun heq => hne (Prod.mk.inj heq).1]
      exact hrows purpose

end Mirrors

section Calls

variable {config : EnvelopeConfig} {store : InMemoryStore} {rows : EnvelopeRows} {random : List UInt8} {now : ℤ}
  {ref : TypedSecretRef}

theorem checkVersion_ok {ref : SecretRef} (h : ref.version ≤ integerMax) : checkVersion ref = .ok () :=
  if_neg (not_lt.2 h)

theorem readSecret_same (hm : Mirrors config.cipher store rows) (hv : ref.ref.version ≤ integerMax) :
    SameResult config.cipher (InMemorySecretVault.call store (.readSecret ref))
      ((config.vault random).call now rows (.readSecret ref)) := by
  simp only [InMemorySecretVault.call, EnvelopePgSecretVault.call, checkVersion_ok hv, InMemorySecretVault.readSecret,
    EnvelopePgSecretVault.readSecret, InMemorySecretVault.require, requireRow]
  cases hentry : store.get? ref.ref with
  | none =>
    rw [getRow_none (hm.absent _ hentry)]
    exact .raised _
  | some entry =>
    obtain ⟨row, hholds, hrows⟩ := hm.present _ entry hentry
    rw [getRow_some hrows]
    by_cases hstate : entry.state = .deactivated
    · have hrow : row.state = .deactivated := hholds.state.trans hstate
      simp only [orRaise, raiseIf, bind, Except.bind, hrow, hstate, if_true, raised, Except.mapError]
      exact .raised _
    · have hrow : row.state ≠ .deactivated := hholds.state ▸ hstate
      have hopens : (config.vault random).decryptRow ref.ref ((ref.ref, purposeOf entry.metadata), row) =
          .ok entry.plaintext.value := by
        simp only [decryptRow, raiseIf, hholds.algorithm, hholds.schema, ne_eq, not_true_eq_false, if_false]
        exact hholds.opens
      simp only [orRaise, raiseIf, bind, Except.bind, hrow, hstate, if_false, hopens, toPlaintext,
        dif_neg entry.plaintext.nonempty, raised, Except.mapError, pure, Except.pure]
      exact .answered _ hm

theorem activateVersion_same (hm : Mirrors config.cipher store rows) (hv : ref.ref.version ≤ integerMax) :
    SameResult config.cipher (InMemorySecretVault.call store (.activateVersion ref))
      ((config.vault random).call now rows (.activateVersion ref)) := by
  simp only [InMemorySecretVault.call, EnvelopePgSecretVault.call, checkVersion_ok hv, silent,
    InMemorySecretVault.activateVersion, EnvelopePgSecretVault.activateVersion, InMemorySecretVault.require, requireRow]
  cases hentry : store.get? ref.ref with
  | none =>
    rw [getRow_none (hm.absent _ hentry)]
    exact .raised _
  | some entry =>
    obtain ⟨row, hholds, hrows⟩ := hm.present _ entry hentry
    rw [getRow_some hrows]
    by_cases hstate : entry.state = .deactivated
    · have hrow : row.state = .deactivated := hholds.state.trans hstate
      simp only [orRaise, raiseIf, bind, Except.bind, hrow, hstate, if_true, raised, Except.mapError]
      exact .raised _
    · have hrow : row.state ≠ .deactivated := hholds.state ▸ hstate
      simp only [orRaise, raiseIf, bind, Except.bind, hrow, hstate, if_false, raised, Except.mapError, pure, Except.pure]
      exact .answered _ (hm.withState hentry .active)

theorem deactivateVersion_same (hm : Mirrors config.cipher store rows) (hv : ref.ref.version ≤ integerMax) :
    SameResult config.cipher (InMemorySecretVault.call store (.deactivateVersion ref))
      ((config.vault random).call now rows (.deactivateVersion ref)) := by
  simp only [InMemorySecretVault.call, EnvelopePgSecretVault.call, checkVersion_ok hv, silent,
    InMemorySecretVault.deactivateVersion, EnvelopePgSecretVault.deactivateVersion, InMemorySecretVault.require,
    requireRow]
  cases hentry : store.get? ref.ref with
  | none =>
    rw [getRow_none (hm.absent _ hentry)]
    exact .raised _
  | some entry =>
    obtain ⟨row, -, hrows⟩ := hm.present _ entry hentry
    rw [getRow_some hrows]
    exact .answered _ (hm.withState hentry .deactivated)

theorem deleteVersion_same (hm : Mirrors config.cipher store rows) (hv : ref.ref.version ≤ integerMax) :
    SameResult config.cipher (InMemorySecretVault.call store (.deleteVersion ref))
      ((config.vault random).call now rows (.deleteVersion ref)) := by
  simp only [InMemorySecretVault.call, EnvelopePgSecretVault.call, checkVersion_ok hv, silent,
    InMemorySecretVault.deleteVersion, EnvelopePgSecretVault.deleteVersion]
  exact .answered _ (hm.delete ref.ref)

end Calls

/-! Storing a version. -/

section Store

variable {config : EnvelopeConfig} {store : InMemoryStore} {rows : EnvelopeRows} {random : List UInt8} {now : ℤ}
  {tenantId connectionId : Uuid} {version : ℤ} {plaintext : SecretPlaintext} {metadata : Option SecretStoreMetadata}

theorem length_uuidDigits (id : Uuid) (start length : ℕ) : (uuidDigits id start length).length = length := by
  rw [uuidDigits, String.length_ofList, List.length_map, List.length_range]

theorem length_uuidText (id : Uuid) : (uuidText id).length = 36 := by
  have hdash : "-".length = 1 := by decide
  simp only [uuidText, String.length_append, length_uuidDigits, hdash]

theorem length_render (ref : SecretRef) : (render ref).length = 133 + (Nat.repr ref.version).length := by
  have htenants : "secret://marketing/tenants/".length = 27 := by decide
  have hconnections : "/publishing-connections/".length = 24 := by decide
  have hversions : "/versions/".length = 10 := by decide
  unfold render
  rw [String.length_append, String.length_append, String.length_append, String.length_append, String.length_append,
    length_uuidText, length_uuidText, htenants, hconnections, hversions]

theorem version_refOf (h : 1 ≤ version) : ((refOf tenantId connectionId version).version : ℕ) = version.toNat := by
  have hpos : 0 < version.toNat := by omega
  exact (Nat.toPNat'_coe version.toNat).trans (if_pos hpos)

/-- A version that can be packed is rendered short enough. -/
theorem constructSecretRef_ok (h : 1 ≤ version) (hpack : version ≤ packMax) :
    constructSecretRef tenantId connectionId version = .ok (refOf tenantId connectionId version) := by
  have hlength : (Nat.repr (refOf tenantId connectionId version).version).length ≤ 10 := by
    refine Nat.repr_length _ 10 (by norm_num) ?_
    rw [version_refOf h]
    simp only [packMax] at hpack
    omega
  simp only [constructSecretRef, raiseIf, if_neg (not_lt.2 h), length_render, maxLen]
  rw [if_neg (by omega)]
  rfl

theorem purposeOf_ne (metadata : Option SecretStoreMetadata) : purposeOf metadata ≠ "" := by
  intro h
  unfold purposeOf orElse at h
  cases hfilter : (metadata.map (·.purpose)).filter (· ≠ "") with
  | none =>
    rw [hfilter] at h
    exact absurd h (by decide)
  | some purpose =>
    rw [hfilter] at h
    exact of_decide_eq_true (Option.filter_eq_some_iff.1 hfilter).2 h

theorem purposeOf_pos (metadata : Option SecretStoreMetadata) : 0 < (purposeOf metadata).length :=
  Nat.pos_of_ne_zero fun h => purposeOf_ne metadata (String.length_eq_zero_iff.1 h)

variable (random now rows plaintext) in
/-- What a working cipher makes of a version and a purpose in range. -/
theorem storeSecret_envelope (hcipher : config.cipher.Correct) {ref : SecretRef} (hpack : ref.version ≤ packMax)
    (hpurpose : (purposeOf metadata).length ≤ 64) :
    ∃ envelope, envelope.algorithm = algorithmAes256Gcm ∧ envelope.cryptoSchemaVersion = schemaVersion ∧
      config.cipher.decrypt envelope ref (purposeOf metadata) = .ok plaintext.value ∧
      (config.vault random).storeSecret ref plaintext metadata now rows =
        if (rows.get? (ref, purposeOf metadata)).isSome then .error (.secretVaultError "secret_version_already_exists")
        else .ok (Table.insert rows (ref, purposeOf metadata) ⟨.pending, envelope, now⟩) := by
  obtain ⟨envelope, hencrypt, hnonce, hdek, halgorithm, hschema, hopens⟩ :=
    hcipher.seals random plaintext ref (purposeOf metadata) hpack (purposeOf_pos metadata) hpurpose
  refine ⟨envelope, halgorithm, hschema, hopens, ?_⟩
  have hencrypt' : (config.vault random).cipher.encrypt plaintext ref (purposeOf metadata) = .ok envelope := hencrypt
  simp only [EnvelopePgSecretVault.storeSecret, raiseIf, purposeOf_ne, not_lt.2 hpurpose, or_self, if_false, hencrypt',
    hnonce, hdek, ne_eq, not_true_eq_false, bind, Except.bind]
  by_cases hthere : (rows.get? (ref, purposeOf metadata)).isSome
  · rw [if_pos hthere, if_pos hthere]
  · rw [if_neg hthere, if_neg hthere]
    rfl

theorem storeSecret_purpose_invalid (hpurpose : 64 < (purposeOf metadata).length) (ref : SecretRef) :
    (config.vault random).storeSecret ref plaintext metadata now rows = .error (.secretVaultError "purpose_invalid") := by
  simp only [EnvelopePgSecretVault.storeSecret, raiseIf, hpurpose, or_true, if_true, bind, Except.bind]

theorem storeSecret_unpacked (hcipher : config.cipher.Correct) {ref : SecretRef} (hpack : packMax < ref.version)
    (hpurpose : (purposeOf metadata).length ≤ 64) :
    (config.vault random).storeSecret ref plaintext metadata now rows = .error .other := by
  have hencrypt : (config.vault random).cipher.encrypt plaintext ref (purposeOf metadata) = .error .other :=
    hcipher.packs random plaintext ref (purposeOf metadata) hpack
  simp only [EnvelopePgSecretVault.storeSecret, raiseIf, purposeOf_ne, not_lt.2 hpurpose, or_self, if_false, hencrypt,
    bind, Except.bind]

theorem storeSecret_inMemory {ref : SecretRef} : InMemorySecretVault.storeSecret ref plaintext metadata store =
    if (store.get? ref).isSome then .error (.secretVaultError "secret_version_already_exists")
    else .ok (Table.insert store ref ⟨plaintext, .pending, metadata⟩) := by
  unfold InMemorySecretVault.storeSecret raiseIf
  split <;> rfl

def alreadyExists : AdapterException := .vault (.secretVaultError "secret_version_already_exists")

variable (store plaintext metadata tenantId connectionId) in
theorem call_store_inMemory (hpos : 1 ≤ version) (hpack : version ≤ packMax) :
    InMemorySecretVault.call store (.storeSecret tenantId connectionId version plaintext metadata) =
      if (store.get? (refOf tenantId connectionId version)).isSome then .error alreadyExists
      else .ok (.secretRef (refOf tenantId connectionId version),
        Table.insert store (refOf tenantId connectionId version) ⟨plaintext, .pending, metadata⟩) := by
  simp only [InMemorySecretVault.call, constructSecretRef_ok hpos hpack, storeSecret_inMemory, bind, Except.bind]
  by_cases hthere : (store.get? (refOf tenantId connectionId version)).isSome
  · rw [if_pos hthere, if_pos hthere]
    rfl
  · rw [if_neg hthere, if_neg hthere]
    rfl

variable (random now rows plaintext tenantId connectionId) in
theorem call_store_envelope (hcipher : config.cipher.Correct) (hpos : 1 ≤ version) (hpack : version ≤ packMax)
    (hpurpose : (purposeOf metadata).length ≤ 64) :
    ∃ envelope, envelope.algorithm = algorithmAes256Gcm ∧ envelope.cryptoSchemaVersion = schemaVersion ∧
      config.cipher.decrypt envelope (refOf tenantId connectionId version) (purposeOf metadata) = .ok plaintext.value ∧
      (config.vault random).call now rows (.storeSecret tenantId connectionId version plaintext metadata) =
        if (rows.get? (refOf tenantId connectionId version, purposeOf metadata)).isSome then .error alreadyExists
        else if integerMax < (refOf tenantId connectionId version).version ∨ '\x00' ∈ (purposeOf metadata).toList then
          .error (.vault .other)
        else .ok (.secretRef (refOf tenantId connectionId version),
          Table.insert rows (refOf tenantId connectionId version, purposeOf metadata) ⟨.pending, envelope, now⟩) := by
  have hversion : ((refOf tenantId connectionId version).version : ℕ) ≤ packMax := by
    rw [version_refOf hpos]
    omega
  obtain ⟨envelope, halgorithm, hschema, hopens, hstore⟩ :=
    storeSecret_envelope rows random now plaintext hcipher hversion hpurpose
  refine ⟨envelope, halgorithm, hschema, hopens, ?_⟩
  simp only [EnvelopePgSecretVault.call, constructSecretRef_ok hpos hpack, hstore, raiseIf, if_neg (not_lt.2 hpos), bind,
    Except.bind]
  by_cases hthere : (rows.get? (refOf tenantId connectionId version, purposeOf metadata)).isSome
  · rw [if_pos hthere, if_pos hthere]
    rfl
  · rw [if_neg hthere, if_neg hthere]
    simp only [raised, Except.mapError, checkVersion, checkPurpose, raiseIf]
    by_cases hmax : integerMax < (refOf tenantId connectionId version).version
    · rw [if_pos hmax, if_pos (Or.inl hmax)]
    · by_cases hzero : '\x00' ∈ (purposeOf metadata).toList
      · rw [if_neg hmax, if_pos hzero, if_pos (Or.inr hzero)]
      · rw [if_neg hmax, if_neg hzero, if_neg (not_or.2 ⟨hmax, hzero⟩)]
        rfl

theorem storeSecret_same (hcipher : config.cipher.Correct) (hm : Mirrors config.cipher store rows)
    (hC : Interchangeable store (.storeSecret tenantId connectionId version plaintext metadata)) :
    SameResult config.cipher
      (InMemorySecretVault.call store (.storeSecret tenantId connectionId version plaintext metadata))
      ((config.vault random).call now rows (.storeSecret tenantId connectionId version plaintext metadata)) := by
  obtain ⟨hpos, hmax, hpurpose, hzero, hsame⟩ := hC
  have hpack : version ≤ packMax := hmax.trans (by decide)
  have hversion : ((refOf tenantId connectionId version).version : ℕ) ≤ integerMax := by
    rw [version_refOf hpos]
    omega
  obtain ⟨envelope, halgorithm, hschema, hopens, hcall⟩ :=
    call_store_envelope rows random now tenantId connectionId plaintext hcipher hpos hpack hpurpose
  rw [call_store_inMemory store tenantId connectionId plaintext metadata hpos hpack, hcall]
  cases hentry : store.get? (refOf tenantId connectionId version) with
  | none =>
    rw [hm.absent _ hentry, if_neg (by simp), if_neg (by simp), if_neg (not_or.2 ⟨not_lt.2 hversion, hzero⟩)]
    exact .answered _ (hm.insert hentry ⟨rfl, halgorithm, hschema, hopens, hversion, hzero⟩)
  | some entry =>
    obtain ⟨row, -, hrows⟩ := hm.present _ entry hentry
    rw [hrows, if_pos (hsame entry hentry).symm]
    exact .raised _

/-- The dictionary refuses a version it does not have for its reference at most. -/
theorem call_store_absent (hpos : 1 ≤ version) (hnone : store.get? (refOf tenantId connectionId version) = none)
    (e : VaultException) :
    (settleCall store
      (InMemorySecretVault.call store (.storeSecret tenantId connectionId version plaintext metadata))).1 ≠
        .error (.vault e) := by
  simp only [InMemorySecretVault.call, constructSecretRef, raiseIf, if_neg (not_lt.2 hpos)]
  by_cases hlong : maxLen < (render (refOf tenantId connectionId version)).length
  · rw [if_pos hlong]
    exact fun heq => AdapterException.noConfusion (Except.error.inj heq)
  · rw [if_neg hlong]
    simp only [storeSecret_inMemory, hnone, bind, Except.bind, pure, Except.pure]
    intro heq
    cases heq

theorem call_store_present (hpos : 1 ≤ version) (hpack : version ≤ packMax) {e : VaultException}
    (he : e ≠ .secretVaultError "secret_version_already_exists") :
    (settleCall store
      (InMemorySecretVault.call store (.storeSecret tenantId connectionId version plaintext metadata))).1 ≠
        .error (.vault e) := by
  rw [call_store_inMemory store tenantId connectionId plaintext metadata hpos hpack]
  by_cases hthere : (store.get? (refOf tenantId connectionId version)).isSome
  · rw [if_pos hthere]
    exact fun heq => he (AdapterException.vault.inj (Except.error.inj heq)).symm
  · rw [if_neg hthere]
    intro heq
    cases heq

theorem call_store_purpose_invalid (hpos : 1 ≤ version) (hpurpose : 64 < (purposeOf metadata).length) :
    (config.vault random).call now rows (.storeSecret tenantId connectionId version plaintext metadata) =
      .error (.vault (.secretVaultError "purpose_invalid")) := by
  simp only [EnvelopePgSecretVault.call, raiseIf, if_neg (not_lt.2 hpos), storeSecret_purpose_invalid hpurpose]
  rfl

theorem call_store_unpacked (hcipher : config.cipher.Correct) (hpos : 1 ≤ version) (hpack : packMax < version)
    (hpurpose : (purposeOf metadata).length ≤ 64) :
    (config.vault random).call now rows (.storeSecret tenantId connectionId version plaintext metadata) =
      .error (.vault .other) := by
  have hversion : packMax < (refOf tenantId connectionId version).version := by
    rw [version_refOf hpos]
    omega
  simp only [EnvelopePgSecretVault.call, raiseIf, if_neg (not_lt.2 hpos), storeSecret_unpacked hcipher hversion hpurpose]
  rfl

/-- A store that the condition leaves out gets different answers. -/
theorem storeSecret_differs (hcipher : config.cipher.Correct) (hm : Mirrors config.cipher store rows)
    (hC : ¬ Interchangeable store (.storeSecret tenantId connectionId version plaintext metadata)) :
    (settleCall store
        (InMemorySecretVault.call store (.storeSecret tenantId connectionId version plaintext metadata))).1 ≠
      (settleCall rows
        ((config.vault random).call now rows (.storeSecret tenantId connectionId version plaintext metadata))).1 := by
  by_cases hpos : 1 ≤ version
  swap
  · -- Each adapter has an error of its own for such a version.
    simp only [InMemorySecretVault.call, EnvelopePgSecretVault.call, constructSecretRef, raiseIf, if_pos (not_le.1 hpos)]
    exact fun heq => AdapterException.noConfusion (Except.error.inj heq)
  have hlarge : integerMax < version → integerMax < (refOf tenantId connectionId version).version := by
    rw [version_refOf hpos]
    omega
  have habsent : integerMax < version → store.get? (refOf tenantId connectionId version) = none := by
    intro hmax
    cases hentry : store.get? (refOf tenantId connectionId version) with
    | none => rfl
    | some entry =>
      obtain ⟨row, hholds, -⟩ := hm.present _ entry hentry
      exact absurd (hlarge hmax) (not_lt.2 hholds.version)
  by_cases hpurpose : (purposeOf metadata).length ≤ 64
  swap
  · rw [call_store_purpose_invalid hpos (not_le.1 hpurpose)]
    by_cases hpack : version ≤ packMax
    · exact call_store_present hpos hpack (by decide)
    · exact call_store_absent hpos (habsent (by simp only [packMax, integerMax] at hpack ⊢; omega)) _
  by_cases hmax : version ≤ integerMax
  swap
  · -- The dictionary takes the version; the column does not.
    have hnone := habsent (not_le.1 hmax)
    by_cases hpack : version ≤ packMax
    · obtain ⟨envelope, -, -, -, hcall⟩ :=
        call_store_envelope rows random now tenantId connectionId plaintext hcipher hpos hpack hpurpose
      rw [hcall, hm.absent _ hnone, if_neg (by simp), if_pos (.inl (hlarge (not_le.1 hmax)))]
      exact call_store_absent hpos hnone _
    · rw [call_store_unpacked hcipher hpos (not_le.1 hpack) hpurpose]
      exact call_store_absent hpos hnone _
  have hpack : version ≤ packMax := hmax.trans (by decide)
  obtain ⟨envelope, -, -, -, hcall⟩ :=
    call_store_envelope rows random now tenantId connectionId plaintext hcipher hpos hpack hpurpose
  rw [hcall]
  by_cases hzero : '\x00' ∈ (purposeOf metadata).toList
  · -- No row has such a purpose.
    have hrow : rows.get? (refOf tenantId connectionId version, purposeOf metadata) = none := by
      cases hentry : store.get? (refOf tenantId connectionId version) with
      | none => exact hm.absent _ hentry _
      | some entry =>
        obtain ⟨row, hholds, hrows⟩ := hm.present _ entry hentry
        have hother : purposeOf metadata ≠ purposeOf entry.metadata := fun heq => hholds.purpose (heq ▸ hzero)
        exact (hrows _).trans (if_neg hother)
    rw [hrow, if_neg (by simp), if_pos (.inr hzero)]
    exact call_store_present hpos hpack (by decide)
  · -- The version is there under another purpose.
    obtain ⟨entry, hentry, hother⟩ : ∃ entry, store.get? (refOf tenantId connectionId version) = some entry ∧
        purposeOf entry.metadata ≠ purposeOf metadata := by
      by_contra hno
      push Not at hno
      exact hC ⟨hpos, hmax, hpurpose, hzero, hno⟩
    obtain ⟨row, hholds, hrows⟩ := hm.present _ entry hentry
    have hrow := (hrows (purposeOf metadata)).trans (if_neg hother.symm)
    rw [call_store_inMemory store tenantId connectionId plaintext metadata hpos hpack, hentry, hrow,
      if_pos Option.isSome_some, if_neg (by simp), if_neg (not_or.2 ⟨not_lt.2 hholds.version, hzero⟩)]
    intro heq
    cases heq

end Store

/-! Whole runs. -/

section Main

variable {config : EnvelopeConfig} {store : InMemoryStore} {rows : EnvelopeRows}

/-- The dictionary raises nothing but errors of its own. -/
theorem require_bind_ne_other {σ : Type} {ref : SecretRef} {f : StoredSecret → Except VaultException σ}
    (hf : ∀ entry, f entry ≠ .error .other) : (InMemorySecretVault.require ref store >>= f) ≠ .error .other := by
  unfold InMemorySecretVault.require
  cases store.get? ref with
  | none =>
    intro heq
    cases heq
  | some entry => exact hf entry

theorem raiseIf_bind_ne_other {σ : Type} {p : Prop} [Decidable p] {code : String} {x : Except VaultException σ}
    (hx : x ≠ .error .other) : (raiseIf p (.secretVaultError code) >>= fun _ : PUnit => x) ≠ .error .other := by
  unfold raiseIf
  split
  · intro heq
    cases heq
  · exact hx

theorem pure_ne_other {σ : Type} (s : σ) : (pure s : Except VaultException σ) ≠ .error .other := by
  intro heq
  cases heq

theorem raised_ne_other {α σ : Type} {x : Except VaultException α} (hx : x ≠ .error .other) (s : σ)
    (f : α → AdapterAnswer × σ) : (settleCall s (raised x >>= fun a => pure (f a))).1 ≠ .error (.vault .other) := by
  cases x with
  | ok a =>
    intro heq
    cases heq
  | error e => exact fun heq => hx (congrArg Except.error (AdapterException.vault.inj (Except.error.inj heq)))

theorem agrees (hcipher : config.cipher.Correct) :
    Lockstep.Agrees (Mirrors config.cipher) (fun store (event : AdapterEvent) => Interchangeable store event.call)
      inMemoryStep (envelopeStep config) := by
  have hsame : ∀ (store : InMemoryStore) (rows : EnvelopeRows) (event : AdapterEvent), Mirrors config.cipher store rows →
      Interchangeable store event.call → SameResult config.cipher (InMemorySecretVault.call store event.call)
        ((config.vault event.random).call event.now rows event.call) := by
    rintro store rows ⟨call, random, now⟩ hm hC
    cases call with
    | storeSecret tenantId connectionId version plaintext metadata => exact storeSecret_same hcipher hm hC
    | readSecret ref => exact readSecret_same hm hC
    | activateVersion ref => exact activateVersion_same hm hC
    | deactivateVersion ref => exact deactivateVersion_same hm hC
    | deleteVersion ref => exact deleteVersion_same hm hC
  refine ⟨fun s t a hm hC => ((hsame s t a hm hC).settled hm).1, fun s t a hm hC => ((hsame s t a hm hC).settled hm).2, ?_⟩
  rintro store rows ⟨call, random, now⟩ hm heq
  by_contra hC
  -- A version that its column does not hold is an error of the database.
  have hcolumn : ∀ ref : TypedSecretRef, ¬ ref.ref.version ≤ integerMax → checkVersion ref.ref = .error (.vault .other) :=
    fun ref hv => if_pos (not_le.1 hv)
  cases call with
  | storeSecret tenantId connectionId version plaintext metadata => exact storeSecret_differs hcipher hm hC heq
  | readSecret ref =>
    simp only [inMemoryStep, envelopeStep, InMemorySecretVault.call, EnvelopePgSecretVault.call, hcolumn ref hC] at heq
    exact raised_ne_other (require_bind_ne_other fun entry => raiseIf_bind_ne_other (pure_ne_other _)) store _ heq
  | activateVersion ref =>
    simp only [inMemoryStep, envelopeStep, InMemorySecretVault.call, EnvelopePgSecretVault.call, hcolumn ref hC] at heq
    exact raised_ne_other (require_bind_ne_other fun entry => raiseIf_bind_ne_other (pure_ne_other _)) store _ heq
  | deactivateVersion ref =>
    simp only [inMemoryStep, envelopeStep, InMemorySecretVault.call, EnvelopePgSecretVault.call, hcolumn ref hC] at heq
    exact raised_ne_other (require_bind_ne_other fun entry => pure_ne_other _) store _ heq
  | deleteVersion ref =>
    simp only [inMemoryStep, envelopeStep, InMemorySecretVault.call, EnvelopePgSecretVault.call, hcolumn ref hC] at heq
    exact raised_ne_other (pure_ne_other _) store _ heq

theorem getVersionState_mirrors (hm : Mirrors config.cipher store rows) (ref : SecretRef) :
    InMemorySecretVault.getVersionState store ref = EnvelopePgSecretVault.getVersionState rows ref := by
  unfold InMemorySecretVault.getVersionState EnvelopePgSecretVault.getVersionState
  cases hentry : store.get? ref with
  | none => rw [getRow_none (hm.absent ref hentry)]; rfl
  | some entry =>
    obtain ⟨row, hholds, hrows⟩ := hm.present ref entry hentry
    rw [getRow_some hrows]
    exact congrArg some hholds.state.symm

/-- Both adapters, started empty, answer every call alike, and have every version in the same
state at the end. -/
def Interchanges (config : EnvelopeConfig) (events : List AdapterEvent) : Prop :=
  Lockstep.answers inMemoryStep ∅ events = Lockstep.answers (envelopeStep config) ∅ events ∧
    ∀ ref, InMemorySecretVault.getVersionState (Lockstep.after inMemoryStep ∅ events) ref =
      EnvelopePgSecretVault.getVersionState (Lockstep.after (envelopeStep config) ∅ events) ref

/-- The adapters are interchangeable over exactly the runs in which each call fits the columns
and no store names a version that is there under another purpose. -/
theorem interchanges_iff (config : EnvelopeConfig) (hcipher : config.cipher.Correct) (events : List AdapterEvent) :
    Interchanges config events ↔
      Lockstep.Guarded (fun store (event : AdapterEvent) => Interchangeable store event.call) inMemoryStep ∅ events := by
  have hagrees := agrees hcipher
  refine ⟨fun h => (hagrees.answers_eq_iff mirrors_empty).1 h.1, fun hC => ⟨?_, fun ref => ?_⟩⟩
  · exact (hagrees.answers_eq_iff mirrors_empty).2 hC
  · exact getVersionState_mirrors (hagrees.after_related mirrors_empty hC) ref

section Examples

/-- A cipher that carries the plaintext in its code points, and fails on a version that does
not fit. -/
def plainCipher : RandomizedCipher where
  encrypt _ plaintext ref _ :=
    if packMax < ref.version then .error .other
    else .ok {
      algorithm := algorithmAes256Gcm
      cryptoSchemaVersion := schemaVersion
      kekVersion := 1
      ciphertext := plaintext.value.toUTF8.data.toList
      ciphertextNonce := List.replicate nonceSize 0
      wrappedDek := []
      wrappedDekNonce := List.replicate nonceSize 0 }
  decrypt envelope _ _ := orRaise (String.fromUTF8? ⟨envelope.ciphertext.toArray⟩) .other

theorem plainCipher_correct : plainCipher.Correct where
  seals random plaintext ref purpose hpack _ _ := by
    refine ⟨_, if_neg (not_lt.2 hpack), rfl, rfl, rfl, rfl, ?_⟩
    have hbytes : String.fromUTF8? plaintext.value.toUTF8 = some plaintext.value := dif_pos plaintext.value.isValidUTF8
    simp only [plainCipher, Array.toArray_toList, hbytes, orRaise]
  packs random plaintext ref purpose hpack := if_pos hpack

def plainConfig : EnvelopeConfig := ⟨plainCipher, 900, by decide⟩

/-- Version 1 of connection 7 of tenant 1, stored for a purpose. -/
def storedFor (purpose : String) : AdapterEvent :=
  ⟨.storeSecret 1 7 1 ⟨"first", by decide⟩ (some { provider := none, purpose := purpose }), [], 0⟩

theorem answers_storedFor :
    Lockstep.answers inMemoryStep ∅ [storedFor "posting", storedFor "reading"] =
        [.ok (.secretRef ⟨1, 7, 1⟩), .error alreadyExists] ∧
      Lockstep.answers (envelopeStep plainConfig) ∅ [storedFor "posting", storedFor "reading"] =
        [.ok (.secretRef ⟨1, 7, 1⟩), .ok (.secretRef ⟨1, 7, 1⟩)] ∧
      (Table.get? (inMemoryStep ∅ (storedFor "posting")).2 (refOf 1 7 1)).map
        (fun entry => purposeOf entry.metadata) = some "posting" := by
  decide +kernel

/-- The second of two stores under different purposes is refused by the dictionary and taken by
the table. -/
theorem second_purpose_differs : plainConfig.cipher.Correct ∧
    ¬ Interchanges plainConfig [storedFor "posting", storedFor "reading"] ∧
    Lockstep.answers inMemoryStep ∅ [storedFor "posting", storedFor "reading"] =
      [.ok (.secretRef ⟨1, 7, 1⟩), .error alreadyExists] ∧
    Lockstep.answers (envelopeStep plainConfig) ∅ [storedFor "posting", storedFor "reading"] =
      [.ok (.secretRef ⟨1, 7, 1⟩), .ok (.secretRef ⟨1, 7, 1⟩)] := by
  obtain ⟨hmemory, henvelope, -⟩ := answers_storedFor
  refine ⟨plainCipher_correct, fun h => ?_, hmemory, henvelope⟩
  exact absurd (hmemory.symm.trans (h.1.trans henvelope)) (by decide)

/-- The theorem at two stores under one purpose. -/
theorem interchanges_one_purpose : Interchanges plainConfig [storedFor "posting", storedFor "posting"] := by
  refine (interchanges_iff plainConfig plainCipher_correct _).2 ⟨?_, ?_, trivial⟩
  · exact ⟨by decide, by decide, by decide, by decide, fun entry hentry => by cases hentry⟩
  · refine ⟨by decide, by decide, by decide, by decide, fun entry hentry => ?_⟩
    have hget := answers_storedFor.2.2
    rw [hentry] at hget
    exact (Option.some.inj hget).trans (by decide)

end Examples

end Main

end CoreOps.Secrets
