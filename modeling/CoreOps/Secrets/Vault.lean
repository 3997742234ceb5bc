import CoreOps.Lib.Checked
import CoreOps.Lib.Table
import Mathlib.Data.PNat.Basic
import Mathlib.Logic.Function.Basic

/-! The vault of the publishing credentials: references to secret versions, the states of
a version, and the port its adapters implement. What callers rely on is a field of the
port, stated on the states of the versions. Times are microseconds. -/

namespace CoreOps.Secrets

abbrev Uuid := BitVec 128

/-- The same instance for every version 1. -/
instance neZero_firstVersion : NeZero 1 := ⟨Nat.one_ne_zero⟩

/-- A reference to one version of a connection's secret. -/
structure SecretRef where
  tenantId : Uuid
  connectionId : Uuid
  version : ℕ+
  deriving DecidableEq

def buildSecretRef (tenantId connectionId : Uuid) (version : ℕ+) : SecretRef := ⟨tenantId, connectionId, version⟩

def SecretRef.owned (ref : SecretRef) (tenantId connectionId : Uuid) : Bool :=
  ref.tenantId = tenantId ∧ ref.connectionId = connectionId

inductive SecretVersionState
  | pending
  | active
  | deactivated
  deriving DecidableEq, Repr

structure SecretPlaintext where
  value : String
  nonempty : value ≠ ""
  deriving DecidableEq

structure SecretStoreMetadata where
  provider : Option String
  purpose : String := "publishing_connection"
  deriving DecidableEq, Repr

/-- What a vault raises: a `SecretVaultError` with its code, or another exception. -/
inductive VaultException
  | secretVaultError (code : String)
  | other
  deriving DecidableEq, Repr

/-- A version that `read_secret` gives out. -/
def SecretVersionState.readable : Option SecretVersionState → Bool
  | some .pending | some .active => true
  | _ => false

/-- `SecretVaultPort`. A call returns the adapter's state after it; a call that raises by
itself has not changed anything. -/
structure SecretVaultPort where
  State : Type
  empty : State
  storeSecret : SecretRef → SecretPlaintext → Option SecretStoreMetadata → (now : ℤ) → State →
    Except VaultException State
  readSecret : SecretRef → State → Except VaultException SecretPlaintext
  activateVersion : SecretRef → State → Except VaultException State
  deactivateVersion : SecretRef → State → Except VaultException State
  deleteVersion : SecretRef → State → Except VaultException State
  confirmInactive : SecretRef → State → Bool
  versionExists : SecretRef → State → Bool
  getVersionState : State → SecretRef → Option SecretVersionState
  getVersionState_empty : ∀ ref, getVersionState empty ref = none
  versionExists_eq : ∀ ref s, versionExists ref s = (getVersionState s ref).isSome
  confirmInactive_eq : ∀ ref s, confirmInactive ref s = !SecretVersionState.readable (getVersionState s ref)
  readable_of_readSecret : ∀ ref s p, readSecret ref s = .ok p →
    SecretVersionState.readable (getVersionState s ref) = true
  getVersionState_storeSecret : ∀ ref p m now s s', storeSecret ref p m now s = .ok s' →
    getVersionState s' = Function.update (getVersionState s) ref (some ((getVersionState s ref).getD .pending))
  getVersionState_activateVersion : ∀ ref s s', activateVersion ref s = .ok s' →
    getVersionState s' = Function.update (getVersionState s) ref (some .active)
  getVersionState_deactivateVersion : ∀ ref s s', deactivateVersion ref s = .ok s' →
    getVersionState s' = Function.update (getVersionState s) ref (some .deactivated)
  getVersionState_deleteVersion : ∀ ref s s', deleteVersion ref s = .ok s' →
    getVersionState s' = Function.update (getVersionState s) ref none
  activateVersion_succeeds : ∀ ref s, SecretVersionState.readable (getVersionState s ref) = true →
    ∃ s', activateVersion ref s = .ok s'
  deactivateVersion_succeeds : ∀ ref s, getVersionState s ref ≠ none → ∃ s', deactivateVersion ref s = .ok s'
  deleteVersion_succeeds : ∀ ref s, ∃ s', deleteVersion ref s = .ok s'

end CoreOps.Secrets
