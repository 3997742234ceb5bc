import CoreOps.Secrets.Lifecycle

/-! What each call of a lifecycle service ensures, in the terms of the port: the cases a
service has to go on from, with the faults that are possible. -/

namespace CoreOps.Secrets

open Program

variable {port : SecretVaultPort} {ok : Fault → Prop} {I : World port → Prop} {w : World port}
  {tenantId connectionId : Uuid} {ref : SecretRef}

def World.withVault (w : World port) (vault : port.State) : World port := { w with vault := vault }

def World.withRow (w : World port) (connectionId : Uuid) (row : MarketingPublishingConnection) : World port :=
  { w with connections := w.connections.modify connectionId fun _ => row }

@[simp] theorem withVault_connections (w : World port) (vault : port.State) :
    (w.withVault vault).connections = w.connections := rfl

@[simp] theorem withVault_vault (w : World port) (vault : port.State) : (w.withVault vault).vault = vault := rfl

@[simp] theorem withRow_vault (w : World port) (row : MarketingPublishingConnection) :
    (w.withRow connectionId row).vault = w.vault := rfl

/-- The connection of a tenant. -/
def World.getConnection (w : World port) (tenantId connectionId : Uuid) : Option MarketingPublishingConnection :=
  (w.connections.get? connectionId).filter fun row => row.tenantId = tenantId

/-- A program ensures `Q`, whatever fault of `ok` strikes at each call. -/
abbrev Ensures {α : Type} (port : SecretVaultPort) (ok : Fault → Prop) (I : World port → Prop) (p : Action α)
    (Q : Except LifecycleException α → World port → Prop) (w : World port) : Prop :=
  Program.Ensures (environment port) ok I p Q w

section Calls

variable {Q : Except LifecycleException Unit → World port → Prop}

theorem ensures_rollback (hI : I w) (h : Q (.ok ()) w) : Ensures port ok I rollback Q w :=
  ensures_perform.2 fun _ _ => ⟨hI, h⟩

theorem ensures_commit {row : MarketingPublishingConnection} (hI : I w) (hI' : I (w.withRow connectionId row))
    (hdb : ok .db → Q (.error .other) w) (h : Q (.ok ()) (w.withRow connectionId row)) :
    Ensures port ok I (commit connectionId row) Q w := by
  refine ensures_perform.2 fun f hf => ?_
  cases f with
  | db => exact ⟨hI, hdb hf⟩
  | none => exact ⟨hI', h⟩
  | vault e applied => exact ⟨hI', h⟩

/-- A call to the vault, when it answers, raises by itself or is struck. -/
theorem ensures_callVault {c : VaultCall} (hI : I w)
    (hI' : ∀ vault, c.exec port w.vault = .ok vault → I (w.withVault vault))
    (hraise : ∀ e, (∃ applied, ok (.vault e applied)) ∨ c.exec port w.vault = .error e → Q (.error (.ofVault e)) w)
    (hlate : ∀ e vault, ok (.vault e true) → c.exec port w.vault = .ok vault →
      Q (.error (.ofVault e)) (w.withVault vault))
    (h : ∀ vault, c.exec port w.vault = .ok vault → Q (.ok ()) (w.withVault vault)) :
    Ensures port ok I (callVault c) Q w := by
  have hplain : I (w.withVault (c.effect port w.vault)) ∧
      Q ((c.exec port w.vault).map (fun _ => ()) |>.mapError .ofVault) (w.withVault (c.effect port w.vault)) := by
    cases hc : c.exec port w.vault with
    | ok vault =>
      have he : c.effect port w.vault = vault := by simp only [VaultCall.effect, hc]
      rw [he]
      exact ⟨hI' vault hc, h vault hc⟩
    | error e =>
      have he : c.effect port w.vault = w.vault := by simp only [VaultCall.effect, hc]
      rw [he]
      exact ⟨hI, hraise e (.inr hc)⟩
  refine ensures_perform.2 fun f hf => ?_
  cases f with
  | none => exact hplain
  | db => exact hplain
  | vault e applied =>
    cases applied with
    | false => exact ⟨hI, hraise e (.inl ⟨false, hf⟩)⟩
    | true =>
      cases hc : c.exec port w.vault with
      | ok vault =>
        have he : c.effect port w.vault = vault := by simp only [VaultCall.effect, hc]
        simp only [environment, handle, he]
        exact ⟨hI' vault hc, hlate e vault hf hc⟩
      | error e' =>
        have he : c.effect port w.vault = w.vault := by simp only [VaultCall.effect, hc]
        simp only [environment, handle, he]
        exact ⟨hI, hraise e (.inl ⟨true, hf⟩)⟩

end Calls

theorem ensures_getVersionState {Q : Except LifecycleException (Option SecretVersionState) → World port → Prop}
    (hI : I w) (hraise : ∀ e applied, ok (.vault e applied) → Q (.error (.ofVault e)) w)
    (h : Q (.ok (port.getVersionState w.vault ref)) w) : Ensures port ok I (getVersionState ref) Q w := by
  refine ensures_perform.2 fun f hf => ?_
  cases f with
  | vault e applied => exact ⟨hI, hraise e applied hf⟩
  | none => exact ⟨hI, h⟩
  | db => exact ⟨hI, h⟩

theorem ensures_versionExists {Q : Except LifecycleException Bool → World port → Prop}
    (hI : I w) (hraise : ∀ e applied, ok (.vault e applied) → Q (.error (.ofVault e)) w)
    (h : Q (.ok (port.getVersionState w.vault ref).isSome) w) : Ensures port ok I (versionExists ref) Q w := by
  rw [← port.versionExists_eq] at h
  refine ensures_perform.2 fun f hf => ?_
  cases f with
  | vault e applied => exact ⟨hI, hraise e applied hf⟩
  | none => exact ⟨hI, h⟩
  | db => exact ⟨hI, h⟩

theorem ensures_confirmInactive {Q : Except LifecycleException Bool → World port → Prop}
    (hI : I w) (hraise : ∀ e applied, ok (.vault e applied) → Q (.error (.ofVault e)) w)
    (h : Q (.ok (!SecretVersionState.readable (port.getVersionState w.vault ref))) w) :
    Ensures port ok I (confirmInactive ref) Q w := by
  rw [← port.confirmInactive_eq] at h
  refine ensures_perform.2 fun f hf => ?_
  cases f with
  | vault e applied => exact ⟨hI, hraise e applied hf⟩
  | none => exact ⟨hI, h⟩
  | db => exact ⟨hI, h⟩

theorem ensures_lockOr404 {Q : Except LifecycleException MarketingPublishingConnection → World port → Prop}
    (hI : I w) (hdb : ok .db → Q (.error .other) w)
    (hnone : w.getConnection tenantId connectionId = none → Q (.error .connectionNotFound) w)
    (h : ∀ row, w.getConnection tenantId connectionId = some row → Q (.ok row) w) :
    Ensures port ok I (lockOr404 tenantId connectionId) Q w := by
  refine ensures_bind.2 (ensures_perform.2 fun f hf => ?_)
  cases f with
  | db => exact ⟨hI, hdb hf⟩
  | none | vault e applied =>
    refine ⟨hI, ?_⟩
    dsimp only [environment, handle, fromDb, either]
    cases hget : (w.connections.get? connectionId).filter fun row => row.tenantId = tenantId with
    | none => exact hnone hget
    | some row => exact h row hget

/-- Any program ensures nothing in particular. -/
theorem ensures_true {α : Type} (p : Action α) (w : World port) :
    Ensures port ok (fun _ => True) p (fun _ _ => True) w := by
  induction p generalizing w with
  | ret a => trivial
  | raise e => trivial
  | call c next ih => exact fun f _ => ⟨trivial, ih _ _⟩

end CoreOps.Secrets
