import CoreOps.Lib.Positional
import CoreOps.Secrets.Vault

/-! The data that are authenticated with a secret: the context it belongs to, as bytes. The
bytes of a context are read back as that context, and no other bytes are read as it. -/

namespace CoreOps.Secrets

open Checked Bytes

/-- What a ciphertext is bound to. -/
structure SecretContext where
  tenantId : Uuid
  connectionId : Uuid
  version : ℤ
  purpose : String
  cryptoSchemaVersion : ℤ
  deriving DecidableEq

/-- `_AAD_MAGIC`, which is `fxse1`. -/
def aadMagic : List UInt8 := [0x66, 0x78, 0x73, 0x65, 0x31]

def aadHeaderFixed : ℕ := 5 + 16 + 16 + 4 + 2

def aadTrailer : ℕ := 4

/-- `struct.pack`, which raises an error of its own for what does not fit the width. -/
def structPack (width : ℕ) (n : ℤ) : Except VaultException (List UInt8) := do
  raiseIf (n < 0 ∨ 256 ^ width ≤ n) .other
  return Bytes.ofNat width n.toNat

def encodeAad (x : SecretContext) : Except VaultException (List UInt8) := do
  raiseIf (x.version < 1) (.secretVaultError "aad_invalid_version")
  raiseIf (x.cryptoSchemaVersion < 1) (.secretVaultError "aad_invalid_crypto_schema_version")
  raiseIf (x.purpose = "") (.secretVaultError "aad_invalid_purpose")
  let purposeBytes := utf8 x.purpose
  raiseIf (0xFFFF < purposeBytes.length) (.secretVaultError "aad_purpose_too_long")
  let version ← structPack 4 x.version
  let purposeLen ← structPack 2 purposeBytes.length
  let schema ← structPack 4 x.cryptoSchemaVersion
  return aadMagic ++ (Bytes.ofNat 16 x.tenantId.toNat ++ (Bytes.ofNat 16 x.connectionId.toNat ++
    (version ++ (purposeLen ++ (purposeBytes ++ schema)))))

def decodeAad (aad : List UInt8) : Except VaultException SecretContext := do
  raiseIf (aad.length < aadHeaderFixed + aadTrailer) (.secretVaultError "aad_invalid")
  raiseIf (slice aad 0 5 ≠ aadMagic) (.secretVaultError "aad_invalid")
  let purposeEnd := 43 + toNat (slice aad 41 43)
  raiseIf (aad.length ≠ purposeEnd + aadTrailer) (.secretVaultError "aad_invalid")
  let purpose ← orRaise (utf8Decode? (slice aad 43 purposeEnd)) (.secretVaultError "aad_invalid")
  return {
    tenantId := BitVec.ofNat 128 (toNat (slice aad 5 21))
    connectionId := BitVec.ofNat 128 (toNat (slice aad 21 37))
    version := toNat (slice aad 37 41)
    purpose
    cryptoSchemaVersion := toNat (slice aad purposeEnd (purposeEnd + 4)) }

/-- The fields fit their widths. -/
structure SecretContext.Fits (x : SecretContext) : Prop where
  version : 0 ≤ x.version ∧ x.version < 256 ^ 4
  schema : 0 ≤ x.cryptoSchemaVersion ∧ x.cryptoSchemaVersion < 256 ^ 4
  purposeLen : (utf8 x.purpose).length < 256 ^ 2

/-- The contexts that are encoded. -/
structure SecretContext.WellFormed (x : SecretContext) : Prop where
  version : 1 ≤ x.version ∧ x.version < 256 ^ 4
  schema : 1 ≤ x.cryptoSchemaVersion ∧ x.cryptoSchemaVersion < 256 ^ 4
  purpose : x.purpose ≠ ""
  purposeLen : (utf8 x.purpose).length < 256 ^ 2

/-- The bytes of a context: the fields in their order. -/
def SecretContext.bytes (x : SecretContext) : List UInt8 :=
  aadMagic ++ (Bytes.ofNat 16 x.tenantId.toNat ++ (Bytes.ofNat 16 x.connectionId.toNat ++
    (Bytes.ofNat 4 x.version.toNat ++ (Bytes.ofNat 2 (utf8 x.purpose).length ++
      (utf8 x.purpose ++ Bytes.ofNat 4 x.cryptoSchemaVersion.toNat)))))

variable {x y : SecretContext} {aad : List UInt8}

@[simp] theorem structPack_eq_ok {width : ℕ} {n : ℤ} {bytes : List UInt8} :
    structPack width n = .ok bytes ↔ (0 ≤ n ∧ n < 256 ^ width) ∧ Bytes.ofNat width n.toNat = bytes := by
  simp [structPack]

theorem encodeAad_eq_ok : encodeAad x = .ok aad ↔ x.WellFormed ∧ x.bytes = aad := by
  simp only [encodeAad, bind_eq_ok, raiseIf_eq_ok, structPack_eq_ok, pure_eq_ok, exists_and_left, exists_const]
  constructor
  · rintro ⟨hversion, hschema, hpurpose, hlen, _, ⟨hv, rfl⟩, _, ⟨hl, rfl⟩, _, ⟨hs, rfl⟩, rfl⟩
    exact ⟨⟨⟨by omega, hv.2⟩, ⟨by omega, hs.2⟩, hpurpose, by omega⟩, rfl⟩
  · rintro ⟨h, rfl⟩
    have hv := h.version
    have hs := h.schema
    have hl := h.purposeLen
    exact ⟨by omega, by omega, h.purpose, by omega, _, ⟨by omega, rfl⟩, _, ⟨by omega, rfl⟩, _, ⟨by omega, rfl⟩, rfl⟩

theorem SecretContext.WellFormed.fits (h : x.WellFormed) : x.Fits :=
  ⟨⟨by have := h.version; omega, h.version.2⟩, ⟨by have := h.schema; omega, h.schema.2⟩, h.purposeLen⟩

/-! The bytes of a context, read at their places. -/

theorem length_bytes : x.bytes.length = 47 + (utf8 x.purpose).length := by
  simp only [SecretContext.bytes, aadMagic, List.length_append, List.length_cons, List.length_nil, length_ofNat]
  omega

theorem slice_magic : slice x.bytes 0 5 = aadMagic := by
  simp [slice, SecretContext.bytes, aadMagic]

theorem slice_tenantId : slice x.bytes 5 21 = Bytes.ofNat 16 x.tenantId.toNat := by
  rw [SecretContext.bytes]
  exact slice_append rfl (by simp)

theorem slice_connectionId : slice x.bytes 21 37 = Bytes.ofNat 16 x.connectionId.toNat := by
  rw [SecretContext.bytes, ← List.append_assoc]
  exact slice_append (by simp [aadMagic]) (by simp)

theorem slice_version : slice x.bytes 37 41 = Bytes.ofNat 4 x.version.toNat := by
  rw [SecretContext.bytes, ← List.append_assoc, ← List.append_assoc]
  exact slice_append (by simp [aadMagic]) (by simp)

theorem slice_purposeLen : slice x.bytes 41 43 = Bytes.ofNat 2 (utf8 x.purpose).length := by
  rw [SecretContext.bytes, ← List.append_assoc, ← List.append_assoc, ← List.append_assoc]
  exact slice_append (by simp [aadMagic]) (by simp)

theorem slice_purpose : slice x.bytes 43 (43 + (utf8 x.purpose).length) = utf8 x.purpose := by
  rw [SecretContext.bytes, ← List.append_assoc, ← List.append_assoc, ← List.append_assoc, ← List.append_assoc]
  exact slice_append (by simp [aadMagic]) rfl

theorem slice_schema : slice x.bytes (43 + (utf8 x.purpose).length) (43 + (utf8 x.purpose).length + 4) =
    Bytes.ofNat 4 x.cryptoSchemaVersion.toNat := by
  rw [SecretContext.bytes, ← List.append_assoc, ← List.append_assoc, ← List.append_assoc, ← List.append_assoc,
    ← List.append_assoc, ← List.append_nil (Bytes.ofNat 4 x.cryptoSchemaVersion.toNat)]
  refine slice_append ?_ (by simp)
  simp only [aadMagic, List.length_append, List.length_cons, List.length_nil, length_ofNat]

theorem decodeAad_bytes (h : x.Fits) : decodeAad x.bytes = .ok x := by
  have hlen : toNat (slice x.bytes 41 43) = (utf8 x.purpose).length := by
    rw [slice_purposeLen, toNat_ofNat h.purposeLen]
  have huuid : ∀ id : Uuid, BitVec.ofNat 128 (toNat (Bytes.ofNat 16 id.toNat)) = id := by
    intro id
    rw [toNat_ofNat (by simpa using id.isLt), BitVec.ofNat_toNat, BitVec.setWidth_eq]
  have hint : ∀ n : ℤ, 0 ≤ n ∧ n < 256 ^ 4 → (toNat (Bytes.ofNat 4 n.toNat) : ℤ) = n := by
    intro n hn
    rw [toNat_ofNat (by omega), Int.toNat_of_nonneg hn.1]
  simp only [decodeAad, bind_eq_ok, raiseIf_eq_ok, orRaise_eq_ok, pure_eq_ok, exists_and_left, exists_const,
    hlen, length_bytes, slice_magic, slice_tenantId, slice_connectionId, slice_version, slice_purpose, slice_schema,
    huuid, hint _ h.version, hint _ h.schema, aadHeaderFixed, aadTrailer, utf8Decode?_utf8]
  exact ⟨by omega, by simp, by omega, _, rfl, rfl⟩

theorem bytes_inj (hx : x.Fits) (hy : y.Fits) (h : x.bytes = y.bytes) : x = y := by
  have hread := decodeAad_bytes hx
  rw [h, decodeAad_bytes hy] at hread
  exact (Except.ok.inj hread).symm

/-! The bytes that are read. -/

theorem ofNat_slice {i j w : ℕ} (hw : i + w = j) (hj : j ≤ aad.length) :
    Bytes.ofNat w (toNat (slice aad i j)) = slice aad i j := by
  have h := ofNat_toNat (slice aad i j)
  rwa [length_slice hj, show j - i = w by omega] at h

theorem toNat_slice_lt {i j w : ℕ} (hw : i + w = j) (hj : j ≤ aad.length) : toNat (slice aad i j) < 256 ^ w := by
  have h := toNat_lt (slice aad i j)
  rwa [length_slice hj, show j - i = w by omega] at h

theorem decodeAad_eq_ok : decodeAad aad = .ok x ↔ x.Fits ∧ x.bytes = aad := by
  refine ⟨fun h => ?_, fun ⟨hx, haad⟩ => haad ▸ decodeAad_bytes hx⟩
  simp only [decodeAad, bind_eq_ok, raiseIf_eq_ok, orRaise_eq_ok, pure_eq_ok, exists_and_left, exists_const] at h
  simp only [aadHeaderFixed, aadTrailer, ne_eq, not_not] at h
  obtain ⟨hmin, hmagic, hlength, purpose, hpurpose, rfl⟩ := h
  have hutf8 := utf8_of_utf8Decode? hpurpose
  have hpurposeLen : (utf8 purpose).length = toNat (slice aad 41 43) := by
    rw [hutf8, length_slice (by omega)]
    omega
  have hint : ∀ i j, i + 4 = j → j ≤ aad.length → (toNat (slice aad i j) : ℤ) < 256 ^ 4 := by
    intro i j hij hj
    exact_mod_cast toNat_slice_lt hij hj
  have hid : ∀ i j, i + 16 = j → j ≤ aad.length →
      Bytes.ofNat 16 (BitVec.ofNat 128 (toNat (slice aad i j))).toNat = slice aad i j := by
    intro i j hij hj
    have hlt := toNat_slice_lt hij hj
    rw [BitVec.toNat_ofNat, Nat.mod_eq_of_lt (by simpa using hlt), ofNat_slice hij hj]
  refine ⟨⟨⟨by simp, ?_⟩, ⟨by simp, ?_⟩, ?_⟩, ?_⟩
  · exact hint 37 41 rfl (by omega)
  · exact hint _ _ rfl (by omega)
  · rw [hpurposeLen]
    exact toNat_slice_lt (show 41 + 2 = 43 by rfl) (by omega)
  · -- the slices follow each other from the magic to the end
    simp only [SecretContext.bytes, Int.toNat_natCast]
    rw [hid 5 21 rfl (by omega), hid 21 37 rfl (by omega), ofNat_slice (by rfl) (by omega), hpurposeLen,
      ofNat_slice (by rfl) (by omega), hutf8, ofNat_slice (by rfl) (by omega), ← hmagic]
    rw [show slice aad 0 5 = aad.take 5 by simp [slice]]
    simp only [← List.append_assoc]
    rw [take_append_slice, take_append_slice, take_append_slice, take_append_slice, take_append_slice,
      take_append_slice, List.take_of_length_le]
    all_goals omega

/-- The codec is exact both ways: what is encoded is read back, no two contexts have the same
bytes, and bytes that are read are those of the context they are read as. -/
theorem aad_codec :
    (∀ x : SecretContext, x.WellFormed → ∃ aad, encodeAad x = .ok aad ∧ decodeAad aad = .ok x) ∧
    (∀ x y : SecretContext, x.WellFormed → y.WellFormed → encodeAad x = encodeAad y → x = y) ∧
    ∀ (aad : List UInt8) (x : SecretContext), decodeAad aad = .ok x → 1 ≤ x.version → 1 ≤ x.cryptoSchemaVersion →
      x.purpose ≠ "" → encodeAad x = .ok aad := by
  refine ⟨fun x hx => ⟨x.bytes, encodeAad_eq_ok.2 ⟨hx, rfl⟩, decodeAad_bytes hx.fits⟩, ?_, ?_⟩
  · intro x y hx hy hxy
    rw [encodeAad_eq_ok.2 ⟨hx, rfl⟩, encodeAad_eq_ok.2 ⟨hy, rfl⟩, Except.ok.injEq] at hxy
    exact bytes_inj hx.fits hy.fits hxy
  · intro aad x hread hversion hschema hpurpose
    obtain ⟨hfits, rfl⟩ := decodeAad_eq_ok.1 hread
    exact encodeAad_eq_ok.2 ⟨⟨⟨hversion, hfits.version.2⟩, ⟨hschema, hfits.schema.2⟩, hpurpose, hfits.purposeLen⟩, rfl⟩

/-- A publishing connection of the first version. -/
theorem aad_codec_publishing :
    (utf8 "publishing").length < 256 ^ 2 ∧ ∃ aad, encodeAad ⟨1, 2, 1, "publishing", 1⟩ = .ok aad ∧
      decodeAad aad = .ok ⟨1, 2, 1, "publishing", 1⟩ :=
  ⟨by decide, aad_codec.1 ⟨1, 2, 1, "publishing", 1⟩ ⟨by decide, by decide, by decide, by decide⟩⟩

end CoreOps.Secrets
