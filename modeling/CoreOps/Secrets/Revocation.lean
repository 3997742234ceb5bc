import CoreOps.Lib.Runs
import CoreOps.Secrets.Adapters
import CoreOps.Secrets.Rules

/-! Secret revocation: a disconnect that returns has made the bound version unreadable
and no other, so the connection is left without a readable version exactly when it had
no readable version beside the bound one. -/

namespace CoreOps.Secrets

open Program

variable {port : SecretVaultPort}

/-- One call of a service, with what fails in it. -/
abbrev Event := Op × List Fault

/-- The services at work: what a call has done stays, also when it raises. -/
def LifecycleStep (port : SecretVaultPort) (w : World port) (e : Event) (w' : World port) : Prop :=
  w' = (e.1.execute port e.2 w).2

/-- A version that can be read. -/
def Readable (w : World port) (ref : SecretRef) : Prop :=
  SecretVersionState.readable (port.getVersionState w.vault ref) = true

/-- No version of the connection is pending or active. -/
def Revoked (w : World port) (tenantId connectionId : Uuid) : Prop :=
  ∀ ref : SecretRef, ref.owned tenantId connectionId = true → ¬ Readable w ref

/-- The version the database row of a connection names. -/
def boundRef (w : World port) (tenantId connectionId : Uuid) : Option SecretRef :=
  (w.getConnection tenantId connectionId).bind fun row => row.binding.map (·.secretRef)

/-- No version of the connection is pending or active, the bound one apart. -/
def NoStray (w : World port) (tenantId connectionId : Uuid) : Prop :=
  ∀ ref : SecretRef, ref.owned tenantId connectionId = true → Readable w ref →
    boundRef w tenantId connectionId = some ref

/-- What a disconnect that returns has done to the vault. -/
structure Disconnected (tenantId connectionId : Uuid) (w w' : World port) : Prop where
  bound : ∀ ref, boundRef w tenantId connectionId = some ref → ¬ Readable w' ref
  others : ∀ ref, boundRef w tenantId connectionId ≠ some ref →
    port.getVersionState w'.vault ref = port.getVersionState w.vault ref

/-- A postcondition about answers only. -/
def onSuccess {α : Type} (P : World port → Prop) : Except LifecycleException α → World port → Prop :=
  either (fun _ => P) fun _ _ => True

section Disconnect

variable {ok : Fault → Prop} {w : World port} {tenantId connectionId : Uuid}

/-- The handlers raise again. -/
theorem ensures_rollingBack {α : Type} {P : World port → Prop} {code : String} {record : Action Unit} {body : Action α}
    (h : Ensures port ok (fun _ => True) body (onSuccess P) w) :
    Ensures port ok (fun _ => True) (rollingBack code record body) (onSuccess P) w := by
  unfold rollingBack
  rw [Ensures, ensures_tryCatch]
  refine h.mono fun r s hr => ?_
  cases r with
  | ok a => exact hr
  | error e =>
    cases e with
    | lifecycleError c =>
      exact ensures_bind.2 ((ensures_true _ s).mono fun r _ _ => by cases r <;> trivial)
    | _ =>
      refine ensures_bind.2 ((ensures_true _ s).mono fun r s' _ => ?_)
      cases r with
      | error e => trivial
      | ok a => exact ensures_bind.2 ((ensures_true _ s').mono fun r _ _ => by cases r <;> trivial)

theorem ensures_revoke {ref : SecretRef} :
    Ensures port ok (fun _ => True) (revoke ref) (onSuccess fun w' =>
      ∀ ref', ref' ≠ ref → port.getVersionState w'.vault ref' = port.getVersionState w.vault ref') w := by
  unfold revoke
  refine ensures_bind.2 (ensures_versionExists trivial (fun _ _ _ => trivial) ?_)
  cases (port.getVersionState w.vault ref).isSome with
  | false => exact fun _ _ => rfl
  | true =>
    refine ensures_tryCatch.2 (ensures_callVault trivial (fun _ _ => trivial) (fun e _ => ?_) (fun e _ _ _ => ?_) ?_)
    · cases e <;> trivial
    · cases e <;> trivial
    · intro vault hvault ref' hne
      rw [withVault_vault, port.getVersionState_deactivateVersion _ _ _ hvault, Function.update_of_ne hne]

theorem ensures_clearBinding {row : MarketingPublishingConnection} {ref : SecretRef} :
    Ensures port ok (fun _ => True) (clearBinding connectionId row ref) (onSuccess fun w' =>
      w'.vault = w.vault ∧ ¬ Readable w' ref) w := by
  unfold clearBinding
  refine ensures_bind.2 (ensures_confirmInactive trivial (fun _ _ _ => trivial) ?_)
  cases hread : SecretVersionState.readable (port.getVersionState w.vault ref) with
  | true => exact ensures_bind.2 (ensures_commit trivial trivial (fun _ => trivial) trivial)
  | false =>
    refine ensures_bind.2 (ensures_commit trivial trivial (fun _ => trivial) ⟨rfl, ?_⟩)
    rw [Readable, withRow_vault, hread]
    exact Bool.false_ne_true

/-- A disconnect that returns. -/
theorem ensures_disconnect (ok : Fault → Prop) (w : World port) (tenantId connectionId : Uuid) :
    Ensures port ok (fun _ => True) (disconnect tenantId connectionId)
      (onSuccess (Disconnected tenantId connectionId w)) w := by
  refine ensures_rollingBack (ensures_bind.2 (ensures_lockOr404 trivial (fun _ => trivial) (fun _ => trivial) ?_))
  intro row hrow
  cases hb : row.binding with
  | none =>
    have hbound : boundRef w tenantId connectionId = none := by rw [boundRef, hrow, Option.bind_some, hb]; rfl
    simp only [either_ok, hb]
    refine ensures_bind.2 (ensures_commit trivial trivial (fun _ => trivial) ⟨?_, fun _ _ => rfl⟩)
    intro ref href
    rw [hbound] at href
    cases href
  | some binding =>
    have hbound : boundRef w tenantId connectionId = some binding.secretRef := by
      rw [boundRef, hrow, Option.bind_some, hb]; rfl
    simp only [boundOrRaise, hb, either_ok]
    refine ensures_bind.2 (ensures_bind.2 (ensures_raiseIf.2 ⟨fun _ => trivial, fun _ => ?_⟩))
    refine ensures_bind.2 (ensures_revoke.mono fun r s hr => ?_)
    cases r with
    | error e => trivial
    | ok u =>
      refine ensures_clearBinding.mono fun r s' hr' => ?_
      cases r with
      | error e => trivial
      | ok view =>
        refine ⟨fun ref href => ?_, fun ref hne => ?_⟩
        · rw [hbound] at href
          obtain rfl := Option.some.inj href
          exact hr'.2
        · rw [hr'.1]
          refine hr ref fun he => hne ?_
          rw [hbound, he]

end Disconnect

/-- A disconnect that returns leaves the connection revoked exactly when nothing beside
its bound version was readable. -/
theorem Disconnected.revoked_iff {tenantId connectionId : Uuid} {w w' : World port}
    (h : Disconnected tenantId connectionId w w') : Revoked w' tenantId connectionId ↔ NoStray w tenantId connectionId := by
  constructor
  · intro hrevoked ref howned hread
    by_contra hne
    refine hrevoked ref howned ?_
    rw [Readable, h.others ref hne]
    exact hread
  · intro hstray ref howned hread
    by_cases hbound : boundRef w tenantId connectionId = some ref
    · exact h.bound ref hbound hread
    · refine hbound (hstray ref howned ?_)
      rw [Readable, ← h.others ref hbound]
      exact hread

/-- In the run a disconnect of the connection returns, and takes `w` to `w'`. -/
def Disconnects (w₀ : World port) (evs : List Event) (tenantId connectionId : Uuid) (w w' : World port) : Prop :=
  ∃ before faults after view, evs = before ++ (.disconnect tenantId connectionId, faults) :: after ∧
    Run (LifecycleStep port) w₀ before w ∧
    (Op.disconnect tenantId connectionId).execute port faults w = (.ok view, w')

theorem Disconnects.disconnected {w₀ w w' : World port} {evs : List Event} {tenantId connectionId : Uuid}
    (h : Disconnects w₀ evs tenantId connectionId w w') : Disconnected tenantId connectionId w w' := by
  obtain ⟨-, faults, -, view, -, -, hrun⟩ := h
  have hens := (ensures_disconnect (fun _ => True) w tenantId connectionId).run trivial fun f (_ : f ∈ faults) => trivial
  have hrun' : (disconnect tenantId connectionId).run (environment port) faults w = (.ok view, w') := hrun
  rw [hrun'] at hens
  exact hens.1

/-- Secret revocation: each disconnect of a run that returns leaves the connection
without a readable version, exactly when each of them finds no readable version of the
connection beside the one that is bound. -/
theorem secret_revocation (w₀ : World port) (evs : List Event) :
    (∀ tenantId connectionId w w', Disconnects w₀ evs tenantId connectionId w w' → Revoked w' tenantId connectionId) ↔
    ∀ tenantId connectionId w w', Disconnects w₀ evs tenantId connectionId w w' → NoStray w tenantId connectionId :=
  ⟨fun h _ _ _ _ hd => hd.disconnected.revoked_iff.1 (h _ _ _ _ hd),
    fun h _ _ _ _ hd => hd.disconnected.revoked_iff.2 (h _ _ _ _ hd)⟩

section Examples

/-- A cipher that keeps the text as its characters' codes. -/
def demoCipher : EnvelopeCipher where
  encrypt plaintext _ _ := .ok
    { algorithm := "aes-256-gcm"
      cryptoSchemaVersion := 1
      kekVersion := 1
      ciphertext := plaintext.value.toList.map fun c => c.toNat.toUInt8
      ciphertextNonce := List.replicate 12 0
      wrappedDek := []
      wrappedDekNonce := List.replicate 12 0 }
  decrypt envelope _ _ := .ok (String.ofList (envelope.ciphertext.map fun b => Char.ofNat b.toNat))

theorem demoLease_pos : 0 < 900 := by decide

def demoVault : EnvelopePgSecretVault := ⟨demoCipher, 900, demoLease_pos⟩

/-- Tenant 1 with connection 7, which is not bound. -/
def demoWorld : World (envelopePgSecretVault demoVault) where
  connections := Table.insert ∅ 7 ⟨1, .telegram, .notConnected, .notConfigured, none, none, none⟩
  vault := (∅ : EnvelopeRows)

theorem first_nonempty : "first" ≠ "" := by decide

theorem second_nonempty : "second" ≠ "" := by decide

def demoBind (faults : List Fault) : Event :=
  (.bindSecret 1 7 ⟨"first", first_nonempty⟩ (some ⟨.unchecked, none⟩) 0, faults)

/-- A rotation in which the deactivation of the previous version, its eleventh call, is
struck. -/
def demoRotate : Event :=
  (.rotateSecret 1 7 ⟨"second", second_nonempty⟩ (some ⟨.unchecked, none⟩) 1,
    List.replicate 10 .none ++ [.vault (.secretVaultError "deactivate_failed") false])

/-- The world after the bind and that rotation. -/
def demoRotated : World (envelopePgSecretVault demoVault) :=
  (demoRotate.1.execute _ demoRotate.2 ((demoBind []).1.execute _ [] demoWorld).2).2

/-- After the rotation a disconnect returns, and the first version is still active. -/
theorem previous_version_survives : ∃ w w',
    Disconnects demoWorld [demoBind [], demoRotate, (.disconnect 1 7, [])] 1 7 w w' ∧
    Readable w' (buildSecretRef 1 7 1) ∧ ¬ Revoked w' 1 7 := by
  have hreturns : ((Op.disconnect 1 7).execute _ [] demoRotated).1.isOk = true := by decide
  have hread : SecretVersionState.readable ((envelopePgSecretVault demoVault).getVersionState
      ((Op.disconnect 1 7).execute _ [] demoRotated).2.vault (buildSecretRef 1 7 1)) = true := by
    decide
  obtain ⟨view, hview⟩ := Checked.exists_of_isOk hreturns
  refine ⟨demoRotated, ((Op.disconnect 1 7).execute _ [] demoRotated).2, ?_, hread, fun h => h _ (by decide) hread⟩
  exact ⟨[demoBind [], demoRotate], [], [], view, rfl, Run.cons rfl (Run.single rfl), Prod.ext hview rfl⟩

end Examples

end CoreOps.Secrets
