import CoreOps.Secrets.Keeping
import CoreOps.Secrets.Revocation

/-! A bound version stays: no lifecycle service deletes the version a database row names,
at whatever call it is struck, and the vault's cleanup does not as long as it finds no
bound version still pending after its time. -/

namespace CoreOps.Secrets

open Program

variable {port : SecretVaultPort}

/-- What a binding has to do with its row and the vault. -/
structure BindingOk (w : World port) (connectionId : Uuid) (row : MarketingPublishingConnection)
    (binding : SecretBinding) : Prop where
  owned : binding.secretRef.owned row.tenantId connectionId = true
  version : binding.secretVersion = binding.secretRef.version
  present : port.getVersionState w.vault binding.secretRef ≠ none

/-- The versions the database names are there. -/
def Inv (w : World port) : Prop :=
  ∀ connectionId row binding, w.connections.get? connectionId = some row → row.binding = some binding →
    BindingOk w connectionId row binding

/-- The rows of the connections. -/
abbrev Connections := Table Uuid MarketingPublishingConnection

/-- No row names the version. -/
def Unbound (ref : SecretRef) (connections : Connections) : Prop :=
  ∀ connectionId row binding, connections.get? connectionId = some row → row.binding = some binding →
    binding.secretRef ≠ ref

section Steps

variable {w : World port} {ref : SecretRef} {tenantId connectionId : Uuid} {row : MarketingPublishingConnection}

theorem inv_withVault {vault : port.State} (h : Inv w)
    (hkeep : ∀ ref, port.getVersionState w.vault ref ≠ none → ¬ Unbound ref w.connections → port.getVersionState vault ref ≠ none) :
    Inv (w.withVault vault) := by
  intro c r b hget hb
  have hok := h c r b hget hb
  exact ⟨hok.owned, hok.version, hkeep _ hok.present fun hun => hun c r b hget hb rfl⟩

/-- A call that deletes no bound version keeps the bound versions. -/
theorem inv_callVault {c : VaultCall} {vault : port.State} (h : Inv w) (hc : c.exec port w.vault = .ok vault)
    (hdelete : ∀ ref, c = .deleteVersion ref → Unbound ref w.connections) : Inv (w.withVault vault) := by
  refine inv_withVault h fun ref hpresent hbound => ?_
  cases c with
  | storeSecret ref' plaintext metadata now =>
    rw [port.getVersionState_storeSecret _ _ _ _ _ _ hc, Function.update_apply]
    split <;> simp_all
  | activateVersion ref' =>
    rw [port.getVersionState_activateVersion _ _ _ hc, Function.update_apply]
    split <;> simp_all
  | deactivateVersion ref' =>
    rw [port.getVersionState_deactivateVersion _ _ _ hc, Function.update_apply]
    split <;> simp_all
  | deleteVersion ref' =>
    rw [port.getVersionState_deleteVersion _ _ _ hc, Function.update_apply]
    split
    · rename_i heq
      exact absurd (hdelete ref (by rw [heq])) hbound
    · exact hpresent

/-- A row is written with a binding that is in order. -/
theorem inv_withRow {row' : MarketingPublishingConnection} (h : Inv w)
    (hb : ∀ binding, row'.binding = some binding → BindingOk w connectionId row' binding) :
    Inv (w.withRow connectionId row') := by
  intro c r b hget hrb
  rw [World.withRow, Table.get?_modify] at hget
  split at hget
  · rename_i heq
    subst heq
    rw [Option.map_eq_some_iff] at hget
    obtain ⟨r₀, -, rfl⟩ := hget
    have hok := hb b hrb
    exact ⟨hok.owned, hok.version, hok.present⟩
  · have hok := h c r b hget hrb
    exact ⟨hok.owned, hok.version, hok.present⟩

theorem unbound_of_row (h : Inv w) (hrow : w.getConnection tenantId connectionId = some row)
    (howned : ref.owned tenantId connectionId = true)
    (hne : ∀ binding, row.binding = some binding → binding.secretRef ≠ ref) : Unbound ref w.connections := by
  intro c r b hget hb heq
  have hok := owned_iff.1 (h c r b hget hb).owned
  rw [heq, (owned_iff.1 howned).1, (owned_iff.1 howned).2] at hok
  rw [← hok.2, (getConnection_eq_some.1 hrow).1] at hget
  obtain rfl := Option.some.inj hget
  exact hne b hb heq

/-- The version made for a locked row is bound nowhere yet. -/
theorem unbound_newVersion (h : Locked Inv connectionId row w) (htenant : row.tenantId = tenantId) :
    Unbound (buildSecretRef tenantId connectionId (newVersion row)) w.connections := by
  have hrow := getConnection_eq_some.2 ⟨h.2, htenant⟩
  refine unbound_of_row h.1 hrow (owned_buildSecretRef _) fun binding hb heq => ?_
  have hversion := (h.1 connectionId row binding h.2 hb).version
  rw [heq, newVersion, hb] at hversion
  have hval : (binding.secretVersion : ℕ) = binding.secretVersion + 1 := congrArg PNat.val hversion
  omega

/-- The bound versions survive every service. -/
theorem inv_closed : Closed (Inv : World port → Prop) tenantId connectionId where
  activate _ _ _ _ h hc := inv_callVault h hc nofun
  deactivate _ _ _ _ h hc := inv_callVault h hc nofun
  store _ _ _ _ _ _ _ h hc := inv_callVault h hc nofun
  delete row htenant w vault h hc := by
    refine ⟨inv_callVault h.1 hc fun ref hdelete => ?_, h.2⟩
    obtain rfl := VaultCall.deleteVersion.inj hdelete
    exact unbound_newVersion h htenant
  write row row' w htenant ht hb h := by
    refine inv_withRow h.1 fun binding hbinding => ?_
    have hok := h.1 connectionId row binding h.2 (hb binding hbinding)
    exact ⟨ht ▸ hok.owned, hok.version, hok.present⟩
  bind row w now htenant h hpresent := by
    refine inv_withRow h.1 fun binding hbinding => ?_
    obtain rfl := Option.some.inj hbinding
    exact ⟨htenant ▸ owned_buildSecretRef _, rfl, hpresent⟩

end Steps

/-- In whatever state a call may be seen, and after it, the bound versions are there. -/
theorem inv_execute {w : World port} (h : Inv w) (op : Op) (faults : List Fault) :
    Inv (op.execute port faults w).2 ∧ ∀ w' ∈ op.program.visits (environment port) faults w, Inv w' := by
  have hkeeps : Kept port (fun _ => True) Inv op.program := kept_program inv_closed
  exact (hkeeps w h).run trivial fun f (_ : f ∈ faults) => trivial

/-- No connection is bound. -/
def World.unbound (w : World port) : Prop := ∀ r ∈ w.connections.rows, r.2.binding = none

theorem inv_of_unbound {w : World port} (h : w.unbound) : Inv w := by
  intro c row binding hget hb
  rw [h (c, row) (Table.mem_rows.2 hget)] at hb
  cases hb

/-! The services together with the cleanup of the envelope adapter. -/

open EnvelopePgSecretVault in
/-- A version whose ciphertext is in the vault. -/
def Held {vault : EnvelopePgSecretVault} (w : World (envelopePgSecretVault vault)) (ref : SecretRef) : Prop :=
  (getRow ref w.vault).isSome = true

inductive SweptEvent
  | lifecycle (e : Event)
  | cleanupOrphanPending (olderThan : Option ℤ) (now : ℤ)

section Cleanup

open EnvelopePgSecretVault

variable {vault : EnvelopePgSecretVault} {w w' : World (envelopePgSecretVault vault)}

/-- The services and the cleanup at work; a cleanup that raises deletes nothing. -/
def sweep (vault : EnvelopePgSecretVault) (w : World (envelopePgSecretVault vault)) :
    SweptEvent → World (envelopePgSecretVault vault)
  | .lifecycle e => (e.1.execute _ e.2 w).2
  | .cleanupOrphanPending olderThan now =>
    match vault.cleanupOrphanPending olderThan now w.vault with
    | .ok (_, rows) => w.withVault rows
    | .error _ => w

def SweptStep (vault : EnvelopePgSecretVault) (w : World (envelopePgSecretVault vault)) (e : SweptEvent)
    (w' : World (envelopePgSecretVault vault)) : Prop :=
  w' = sweep vault w e

/-- A cleanup finds no bound version that is pending since before its time. -/
def SparesBound (vault : EnvelopePgSecretVault) (w : World (envelopePgSecretVault vault)) : SweptEvent → Prop
  | .lifecycle _ => True
  | .cleanupOrphanPending olderThan now => ∀ time, vault.cutoff olderThan now = .ok time →
      ∀ r ∈ w.connections.rows, ∀ binding ∈ r.2.binding,
        ∃ row ∈ w.vault.rows, row.1.1 = binding.secretRef ∧ isStalePending time row.2 = false

/-- Every version that a database row names has its ciphertext in the vault. -/
def BoundHeld (w : World (envelopePgSecretVault vault)) : Prop :=
  ∀ r ∈ w.connections.rows, ∀ binding ∈ r.2.binding, Held w binding.secretRef

theorem held_iff {ref : SecretRef} : Held w ref ↔ (envelopePgSecretVault vault).getVersionState w.vault ref ≠ none := by
  change (getRow ref w.vault).isSome = true ↔ (getRow ref w.vault).map (·.2.state) ≠ none
  cases getRow ref w.vault <;> simp

theorem boundHeld_of_inv (h : Inv w) : BoundHeld w := fun r hr binding hb =>
  held_iff.2 (h r.1 r.2 binding (Table.mem_rows.1 hr) hb).present

/-- What the cleanup leaves of a version. -/
theorem getRow_cleanup {ref : SecretRef} {time : ℤ} {rows : EnvelopeRows} :
    (getRow ref (rows.filter fun _ row => !isStalePending time row)).isSome = true ↔
      ∃ row ∈ rows.rows, row.1.1 = ref ∧ isStalePending time row.2 = false := by
  simp only [getRow, Table.filter, List.find?_isSome, List.mem_filter, decide_eq_true_eq, Bool.not_eq_true', and_assoc]
  exact exists_congr fun row => and_congr_right fun _ => and_comm

theorem cleanup_of_ok {olderThan : Option ℤ} {now time : ℤ} {rows : EnvelopeRows}
    (h : vault.cutoff olderThan now = .ok time) : vault.cleanupOrphanPending olderThan now rows =
      .ok ((rows.rows.filter fun r => isStalePending time r.2).length,
        rows.filter fun _ row => !isStalePending time row) := by
  simp only [cleanupOrphanPending, h]
  rfl

theorem cleanup_of_error {olderThan : Option ℤ} {now : ℤ} {e : VaultException} {rows : EnvelopeRows}
    (h : vault.cutoff olderThan now = .error e) : vault.cleanupOrphanPending olderThan now rows = .error e := by
  simp only [cleanupOrphanPending, h]
  rfl

/-- The world after a cleanup with this time. -/
theorem sweep_of_ok {olderThan : Option ℤ} {now time : ℤ} (h : vault.cutoff olderThan now = .ok time) :
    sweep vault w (.cleanupOrphanPending olderThan now) =
      w.withVault (Table.filter w.vault fun _ row => !isStalePending time row) := by
  simp only [sweep, cleanup_of_ok h]

theorem sweep_of_error {olderThan : Option ℤ} {now : ℤ} {e : VaultException}
    (h : vault.cutoff olderThan now = .error e) : sweep vault w (.cleanupOrphanPending olderThan now) = w := by
  simp only [sweep, cleanup_of_error h]

/-- A cleanup keeps the bound versions exactly when it finds none of them stale. -/
theorem boundHeld_cleanup_iff {olderThan : Option ℤ} {now : ℤ} (h : BoundHeld w) :
    BoundHeld (sweep vault w (.cleanupOrphanPending olderThan now)) ↔
      SparesBound vault w (.cleanupOrphanPending olderThan now) := by
  cases hcutoff : vault.cutoff olderThan now with
  | error e =>
    rw [sweep_of_error hcutoff]
    refine ⟨fun _ time ht => ?_, fun _ => h⟩
    rw [hcutoff] at ht
    cases ht
  | ok time =>
    rw [sweep_of_ok hcutoff]
    refine ⟨fun hkept time' ht r hr binding hb => ?_, fun hspares r hr binding hb => ?_⟩
    · obtain rfl := Except.ok.inj (hcutoff.symm.trans ht)
      exact getRow_cleanup.1 (hkept r hr binding hb)
    · exact getRow_cleanup.2 (hspares time hcutoff r hr binding hb)

theorem connections_cleanup {olderThan : Option ℤ} {now : ℤ} :
    (sweep vault w (.cleanupOrphanPending olderThan now)).connections = w.connections := by
  cases hcutoff : vault.cutoff olderThan now with
  | error e => rw [sweep_of_error hcutoff]
  | ok time => rw [sweep_of_ok hcutoff, withVault_connections]

theorem inv_sweep {e : SweptEvent} (h : Inv w) (hc : SparesBound vault w e) : Inv (sweep vault w e) := by
  cases e with
  | lifecycle e => exact (inv_execute h e.1 e.2).1
  | cleanupOrphanPending olderThan now =>
    have hheld := (boundHeld_cleanup_iff (boundHeld_of_inv h)).2 hc
    intro c row binding hget hb
    have hok := h c row binding (connections_cleanup ▸ hget) hb
    exact ⟨hok.owned, hok.version, held_iff.1 (hheld (c, row) (Table.mem_rows.2 hget) binding hb)⟩

/-- A bound secret is never destroyed: in every run from a world without bound
connections whose cleanups all meet the condition, every version a database row names
has its ciphertext in the vault, also in the middle of the next call and wherever it is
struck. -/
theorem bound_secret_held {w₀ : World (envelopePgSecretVault vault)} {evs : List SweptEvent} (h0 : w₀.unbound)
    (h : Run (Restrict (SparesBound vault) (SweptStep vault)) w₀ evs w) :
    BoundHeld w ∧ ∀ (op : Op) (faults : List Fault), ∀ w' ∈ op.program.visits (environment _) faults w, BoundHeld w' := by
  have hinv : Inv w := h.invariant_restrict Inv (inv_of_unbound h0) fun _ _ _ hI hc hs => by
    rw [hs]
    exact inv_sweep hI hc
  exact ⟨boundHeld_of_inv hinv, fun op faults w' hw' => boundHeld_of_inv ((inv_execute hinv op faults).2 w' hw')⟩

end Cleanup

section Examples

open EnvelopePgSecretVault (second)

/-- A bind in which the activation after the commit, its sixth call, is struck. -/
def demoHalfBind : Event :=
  demoBind (List.replicate 5 .none ++ [.vault (.secretVaultError "activate_failed") false])

/-- Twenty minutes later. -/
def demoSweep : SweptEvent := .cleanupOrphanPending none (20 * 60 * second)

/-- After that bind the cleanup deletes the bound version. -/
theorem bound_secret_swept : ∃ w, Run (SweptStep demoVault) demoWorld [.lifecycle demoHalfBind, demoSweep] w ∧
    boundRef w 1 7 = some (buildSecretRef 1 7 1) ∧ ¬ BoundHeld w := by
  have hgone : ¬ BoundHeld (sweep demoVault (sweep demoVault demoWorld (.lifecycle demoHalfBind)) demoSweep) := by
    unfold BoundHeld Held
    decide
  exact ⟨_, Run.cons rfl (Run.single rfl), by decide, hgone⟩

/-- The theorem at a run with a bind that is not struck and the same cleanup. -/
theorem bound_secret_held_active : ∃ w, Run (Restrict (SparesBound demoVault) (SweptStep demoVault)) demoWorld
      [.lifecycle (demoBind []), demoSweep] w ∧
    boundRef w 1 7 = some (buildSecretRef 1 7 1) ∧ BoundHeld w := by
  have hunbound : demoWorld.unbound := by
    unfold World.unbound
    decide
  have hcutoff : demoVault.cutoff none (20 * 60 * second) = .ok (5 * 60 * second) := by decide
  have hspares : SparesBound demoVault (sweep demoVault demoWorld (.lifecycle (demoBind []))) demoSweep := by
    intro time ht
    obtain rfl : 5 * 60 * second = time := Except.ok.inj (hcutoff.symm.trans ht)
    decide
  have hrun : Run (Restrict (SparesBound demoVault) (SweptStep demoVault)) demoWorld
      [.lifecycle (demoBind []), demoSweep]
      (sweep demoVault (sweep demoVault demoWorld (.lifecycle (demoBind []))) demoSweep) :=
    Run.cons ⟨trivial, rfl⟩ (Run.single ⟨hspares, rfl⟩)
  exact ⟨_, hrun, by decide, (bound_secret_held hunbound hrun).1⟩

end Examples

end CoreOps.Secrets
