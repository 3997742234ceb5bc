import Mathlib.Data.List.Sort
import CoreOps.Lib.Checked
import CoreOps.Lib.Table

/-! The tenants a user sees in the listing and the tenants a user may open. What is listed may
be opened. The other way fails for the staff of a provider who do not own it, and for owners
who are members of a tenant of another provider. -/

namespace CoreOps.Tenants

open Checked

inductive ProviderRole
  | providerOwner
  | providerAdmin
  | salesManager
  | implementationManager
  | consultant
  | supportManager
  | financeManager
  | developer
  deriving DecidableEq, Repr

structure ProviderStaff where
  providerCompanyId : ℕ
  role : ProviderRole
  deriving DecidableEq, Repr

/-- A user, with the staff records in the order of the relationship. -/
structure User where
  id : ℕ
  providerStaff : List ProviderStaff
  deriving DecidableEq, Repr

structure Tenant where
  providerCompanyId : ℕ
  createdAt : ℤ
  deriving DecidableEq, Repr

structure UserTenantMembership where
  tenantId : ℕ
  userId : ℕ
  isActive : Bool
  deriving DecidableEq, Repr

structure Session where
  tenants : Table ℕ Tenant
  memberships : List UserTenantMembership

inductive AccessError
  | notFound (message : String)
  | permissionDenied (message : String)
  deriving DecidableEq, Repr

def userHasProviderRole (user : User) (role : ProviderRole) : Bool := user.providerStaff.any fun staff => staff.role = role

def userIsProviderOwner (user : User) : Bool := userHasProviderRole user .providerOwner

def getProviderStaff (user : User) : Option ProviderStaff := user.providerStaff.head?

/-- The rows of `user.tenant_memberships`. -/
def tenantMemberships (db : Session) (user : User) : List UserTenantMembership :=
  db.memberships.filter fun m => m.userId = user.id

/-! The queries. -/

/-- `Tenant.created_at.desc()`. -/
def newestFirst (rows : List (ℕ × Tenant)) : List (ℕ × Tenant) :=
  rows.insertionSort fun a b => b.2.createdAt ≤ a.2.createdAt

def listForProvider (db : Session) (providerCompanyId : ℕ) : List (ℕ × Tenant) :=
  newestFirst (db.tenants.rows.filter fun r => r.2.providerCompanyId = providerCompanyId)

/-- The join has a row for each active membership of the user. -/
def listForUser (db : Session) (userId : ℕ) : List (ℕ × Tenant) :=
  newestFirst (db.tenants.rows.flatMap fun r =>
    (db.memberships.filter fun m => m.tenantId = r.1 ∧ m.userId = userId ∧ m.isActive = true).map fun _ => r)

/-! The service. -/

def listAccessible (db : Session) (user : User) : List (ℕ × Tenant) :=
  match getProviderStaff user with
  | some staff => if userIsProviderOwner user then listForProvider db staff.providerCompanyId else listForUser db user.id
  | none => listForUser db user.id

def ensureAccess (db : Session) (user : User) (tenantId : ℕ) (tenant : Tenant) : Except AccessError Unit :=
  if (getProviderStaff user).any fun staff => staff.providerCompanyId = tenant.providerCompanyId then .ok ()
  else if (tenantMemberships db user).any fun m => m.tenantId = tenantId ∧ m.isActive = true then .ok ()
  else .error (.permissionDenied "No access to this tenant")

def getAccessible (db : Session) (user : User) (tenantId : ℕ) : Except AccessError Tenant := do
  let tenant ← orRaise (db.tenants.get? tenantId) (.notFound "Tenant not found")
  ensureAccess db user tenantId tenant
  return tenant

section Access

variable {db : Session} {user : User} {tenantId : ℕ} {tenant : Tenant}

def Listed (db : Session) (user : User) (tenantId : ℕ) : Prop := ∃ r ∈ listAccessible db user, r.1 = tenantId

def Accessible (db : Session) (user : User) (tenantId : ℕ) : Prop := ∃ tenant, getAccessible db user tenantId = .ok tenant

/-- The user is on the staff of the tenant's provider, by the record that is looked at. -/
def StaffOf (user : User) (tenant : Tenant) : Prop :=
  ∃ staff ∈ getProviderStaff user, staff.providerCompanyId = tenant.providerCompanyId

def ActiveMember (db : Session) (user : User) (tenantId : ℕ) : Prop :=
  ∃ m ∈ db.memberships, m.tenantId = tenantId ∧ m.userId = user.id ∧ m.isActive = true

theorem mem_newestFirst {rows : List (ℕ × Tenant)} {r : ℕ × Tenant} : r ∈ newestFirst rows ↔ r ∈ rows :=
  List.mem_insertionSort _

theorem mem_listForProvider {company : ℕ} :
    (tenantId, tenant) ∈ listForProvider db company ↔
      db.tenants.get? tenantId = some tenant ∧ tenant.providerCompanyId = company := by
  rw [listForProvider, mem_newestFirst, List.mem_filter, Table.mem_rows, decide_eq_true_eq]

theorem mem_listForUser :
    (tenantId, tenant) ∈ listForUser db user.id ↔ db.tenants.get? tenantId = some tenant ∧ ActiveMember db user tenantId := by
  rw [listForUser, mem_newestFirst, List.mem_flatMap]
  constructor
  · rintro ⟨r, hr, hrow⟩
    obtain ⟨m, hm, rfl⟩ := List.mem_map.1 hrow
    obtain ⟨hm, hp⟩ := List.mem_filter.1 hm
    exact ⟨Table.mem_rows.1 hr, m, hm, of_decide_eq_true hp⟩
  · rintro ⟨hrow, m, hm, hp⟩
    exact ⟨_, Table.mem_rows.2 hrow, List.mem_map.2 ⟨m, List.mem_filter.2 ⟨hm, decide_eq_true hp⟩, rfl⟩⟩

/-- What the listing asks of a tenant that exists. -/
theorem listed_iff (hrow : db.tenants.get? tenantId = some tenant) :
    Listed db user tenantId ↔
      if userIsProviderOwner user then StaffOf user tenant else ActiveMember db user tenantId := by
  have hkey : ∀ rows : List (ℕ × Tenant), (∀ id t, (id, t) ∈ rows → db.tenants.get? id = some t) →
      ((∃ r ∈ rows, r.1 = tenantId) ↔ (tenantId, tenant) ∈ rows) := by
    intro rows hrows
    constructor
    · rintro ⟨⟨id, t⟩, hr, rfl⟩
      have heq := (hrows id t hr).symm.trans hrow
      obtain rfl := Option.some.inj heq
      exact hr
    · exact fun hr => ⟨_, hr, rfl⟩
  have huser := hkey (listForUser db user.id) fun id t h => (mem_listForUser.1 h).1
  rw [mem_listForUser, and_iff_right hrow] at huser
  cases hstaff : getProviderStaff user with
  | none =>
    have hnil : user.providerStaff = [] := List.head?_eq_none_iff.1 hstaff
    have howner : userIsProviderOwner user = false := by
      rw [userIsProviderOwner, userHasProviderRole, hnil]
      rfl
    rw [Listed, listAccessible, hstaff, huser, howner]
    rfl
  | some staff =>
    rw [Listed, listAccessible, hstaff]
    by_cases howner : userIsProviderOwner user = true
    · have hprovider := hkey (listForProvider db staff.providerCompanyId) fun id t h => (mem_listForProvider.1 h).1
      rw [mem_listForProvider, and_iff_right hrow] at hprovider
      simp only [howner, if_true, StaffOf, hstaff, Option.mem_some_iff, exists_eq_left']
      rw [hprovider, eq_comm]
    · simp only [howner, Bool.false_eq_true, if_false]
      exact huser

/-- What the check asks of a tenant that exists. -/
theorem accessible_iff (hrow : db.tenants.get? tenantId = some tenant) :
    Accessible db user tenantId ↔ StaffOf user tenant ∨ ActiveMember db user tenantId := by
  have hstaff : ((getProviderStaff user).any fun staff => staff.providerCompanyId = tenant.providerCompanyId) = true ↔
      StaffOf user tenant := by
    simp [StaffOf, Option.any_eq_true]
  have hmember : ((tenantMemberships db user).any fun m => m.tenantId = tenantId ∧ m.isActive = true) = true ↔
      ActiveMember db user tenantId := by
    simp only [List.any_eq_true, tenantMemberships, List.mem_filter, decide_eq_true_eq, ActiveMember]
    constructor
    · rintro ⟨m, ⟨hm, huser⟩, htenant, hactive⟩
      exact ⟨m, hm, htenant, huser, hactive⟩
    · rintro ⟨m, hm, htenant, huser, hactive⟩
      exact ⟨m, ⟨hm, huser⟩, htenant, hactive⟩
  have hensure : ensureAccess db user tenantId tenant = .ok () ↔ StaffOf user tenant ∨ ActiveMember db user tenantId := by
    rw [ensureAccess, ← hstaff, ← hmember]
    split_ifs with h h'
    · exact iff_of_true rfl (Or.inl h)
    · exact iff_of_true rfl (Or.inr h')
    · exact iff_of_false (fun he => (by cases he)) (not_or.2 ⟨h, h'⟩)
  rw [Accessible, ← hensure]
  simp only [getAccessible, bind_eq_ok, orRaise_eq_ok, hrow, pure_eq_ok]
  constructor
  · rintro ⟨-, found, hfound, passed, hok, -⟩
    obtain rfl := Option.some.inj hfound
    exact hok
  · exact fun hok => ⟨tenant, tenant, rfl, (), hok, rfl⟩

theorem not_listed (hrow : db.tenants.get? tenantId = none) : ¬ Listed db user tenantId := by
  have huser : ¬ ∃ r ∈ listForUser db user.id, r.1 = tenantId := by
    rintro ⟨⟨id, t⟩, hr, rfl⟩
    rw [(mem_listForUser.1 hr).1] at hrow
    cases hrow
  rw [Listed, listAccessible]
  split
  · split_ifs
    · rintro ⟨⟨id, t⟩, hr, rfl⟩
      rw [(mem_listForProvider.1 hr).1] at hrow
      cases hrow
    · exact huser
  · exact huser

theorem not_accessible (hrow : db.tenants.get? tenantId = none) : ¬ Accessible db user tenantId := by
  simp [Accessible, getAccessible, hrow]

/-- What is listed may be opened. -/
theorem accessible_of_listed (h : Listed db user tenantId) : Accessible db user tenantId := by
  cases hrow : db.tenants.get? tenantId with
  | none => exact absurd h (not_listed hrow)
  | some tenant =>
    rw [listed_iff hrow] at h
    rw [accessible_iff hrow]
    split_ifs at h
    · exact Or.inl h
    · exact Or.inr h

/-- An owner of a provider is a member of none but its tenants; other staff are members of each
of them. -/
def MembershipsFollowStaff (db : Session) (user : User) (tenantId : ℕ) : Prop :=
  ∀ tenant ∈ db.tenants.get? tenantId,
    if userIsProviderOwner user then ActiveMember db user tenantId → StaffOf user tenant
    else StaffOf user tenant → ActiveMember db user tenantId

end Access

/-- What is listed may be opened, and the two agree on a tenant just when the user's memberships
follow the staff records. -/
theorem listed_iff_accessible_iff (db : Session) (user : User) (tenantId : ℕ) :
    (Listed db user tenantId → Accessible db user tenantId) ∧
      ((Listed db user tenantId ↔ Accessible db user tenantId) ↔ MembershipsFollowStaff db user tenantId) := by
  refine ⟨accessible_of_listed, ?_⟩
  cases hrow : db.tenants.get? tenantId with
  | none =>
    refine iff_of_true (iff_of_false (not_listed hrow) (not_accessible hrow)) ?_
    intro tenant htenant
    rw [hrow] at htenant
    cases htenant
  | some tenant =>
    rw [listed_iff hrow, accessible_iff hrow, MembershipsFollowStaff]
    simp only [hrow, Option.mem_some_iff, forall_eq']
    split_ifs <;> tauto

/-- A tenant of provider 1. -/
def demoSession : Session := ⟨⟨[(7, ⟨1, 0⟩)], List.nodup_singleton _⟩, []⟩

/-- A consultant of the provider may open the tenant, and has an empty listing. -/
theorem consultant_not_listed : listAccessible demoSession ⟨1, [⟨1, .consultant⟩]⟩ = [] ∧
    getAccessible demoSession ⟨1, [⟨1, .consultant⟩]⟩ 7 = .ok ⟨1, 0⟩ ∧
    ¬ (Listed demoSession ⟨1, [⟨1, .consultant⟩]⟩ 7 ↔ Accessible demoSession ⟨1, [⟨1, .consultant⟩]⟩ 7) := by
  have hlist : listAccessible demoSession ⟨1, [⟨1, .consultant⟩]⟩ = [] := rfl
  refine ⟨hlist, rfl, fun h => ?_⟩
  obtain ⟨r, hr, -⟩ := h.2 ⟨⟨1, 0⟩, rfl⟩
  rw [hlist] at hr
  cases hr

end CoreOps.Tenants
