import CoreOps.PublicLeads.Service

/-! Parties that the form creates do not share an e-mail or a phone: a call creates one
only where its search came up empty, and the search finds every owner of the keys that the
new party is stored under. -/

namespace CoreOps.PublicLeads

open Text Checked
open Parties hiding createParty

variable {T : Type*}

/-- What a call searches by. -/
def leadKeys (tables : CharTables) (payload : PublicLeadCreate) : List ContactKey :=
  ((normalizeEmail tables (matchRequest payload).email).map ContactKey.email).toList ++
    ((normalizePhoneDigits tables (matchRequest payload).phone).map ContactKey.phone).toList

/-- Two parties share the key of a contact method that a tenant holds for each. -/
def Share (tables : CharTables) (d : Directory) (tenantId p q : ℕ) : Prop :=
  ∃ m ∈ d.contactMethods, ∃ m' ∈ d.contactMethods, m.tenantId = tenantId ∧ m'.tenantId = tenantId ∧
    m.partyId = p ∧ m'.partyId = q ∧ ∃ k, m.key tables = some k ∧ m'.key tables = some k

/-- Where no party is reused, no contact method of the tenant has a key of the form. -/
theorem resolvePartyMatch_none {tables : CharTables} {payload : PublicLeadCreate} {tenantId : ℕ} {d : Directory}
    (hd : d.Owned) (h : (resolvePartyMatch tables payload tenantId d).1 = none) {m : ContactMethod}
    (hm : m ∈ d.contactMethods) (htenant : m.tenantId = tenantId) {k : ContactKey} (hkey : m.key tables = some k) :
    k ∉ leadKeys tables payload := by
  intro hquery
  have hfound := mem_exactMatchedOn hm htenant hkey hquery
  obtain ⟨hit, hhit⟩ := List.exists_mem_of_ne_nil _ (exactHits_ne_nil hd hfound)
  -- every exact hit is a party of the tenant, so the first one would have been reused
  have hexact : ∀ hit ∈ (matchParties tables tenantId (matchRequest payload) d).matches_,
      hit.matchType = .exact_ → ∃ p, d.getParty tenantId hit.partyId = some p := by
    intro hit hhit htype
    rcases List.mem_append.1 ((List.mem_insertionSort _).1 hhit) with hhit | hhit
    · obtain ⟨r, -, hr⟩ := List.mem_filterMap.1 hhit
      obtain ⟨p, hp, rfl⟩ := Option.map_eq_some_iff.1 hr
      exact ⟨p, hp⟩
    · unfold weakHits at hhit
      split at hhit
      · cases hhit
      · obtain ⟨r, -, rfl⟩ := List.mem_map.1 hhit
        cases htype
  have hsome : hit ∈ (matchParties tables tenantId (matchRequest payload) d).matches_.filter
      (·.matchType = .exact_) := by
    refine List.mem_filter.2 ⟨(List.mem_insertionSort _).2 (List.mem_append_left _ hhit), ?_⟩
    obtain ⟨r, -, hr⟩ := List.mem_filterMap.1 hhit
    obtain ⟨p, -, rfl⟩ := Option.map_eq_some_iff.1 hr
    rfl
  unfold resolvePartyMatch at h
  dsimp only at h
  split at h
  · rename_i hnil
    rw [hnil] at hsome
    cases hsome
  · rename_i best rest hbest
    obtain ⟨hin, htype⟩ := List.mem_filter.1 (hbest ▸ List.mem_cons_self : best ∈ _)
    obtain ⟨p, hp⟩ := hexact best hin (of_decide_eq_true htype)
    simp [hp] at h

theorem leadMethods_owner {payload : PublicLeadCreate} {tenantId partyId : ℕ} {m : ContactMethod}
    (hm : m ∈ leadMethods payload tenantId partyId) : m.tenantId = tenantId ∧ m.partyId = partyId := by
  rcases List.mem_append.1 hm with hm | hm
  · obtain ⟨email, -, rfl⟩ := List.mem_map.1 hm
    exact ⟨rfl, rfl⟩
  · obtain ⟨phone, -, rfl⟩ := List.mem_map.1 hm
    exact ⟨rfl, rfl⟩

/-- The keys that a new party is stored under are those the call has searched by. -/
theorem leadMethods_key {tables : CharTables} {payload : PublicLeadCreate} {tenantId partyId : ℕ}
    {m : ContactMethod} (hm : m ∈ leadMethods payload tenantId partyId) {k : ContactKey}
    (hkey : m.key tables = some k) : k ∈ leadKeys tables payload := by
  rcases List.mem_append.1 hm with hm | hm
  · obtain ⟨email, hemail, rfl⟩ := List.mem_map.1 hm
    refine List.mem_append_left _ ?_
    rw [Option.mem_toList] at hemail ⊢
    rw [← hkey]
    simp only [ContactMethod.key, matchRequest, hemail]
  · obtain ⟨phone, hphone, rfl⟩ := List.mem_map.1 hm
    refine List.mem_append_right _ ?_
    rw [Option.mem_toList] at hphone ⊢
    rw [← hkey]
    simp only [ContactMethod.key, matchRequest, (Option.filter_eq_some_iff.1 hphone).1]

theorem contactMethods_foldl (methods : List ContactMethod) (d : Directory) :
    methods.foldl Directory.addContactMethod d = ⟨d.parties, d.contactMethods ++ methods⟩ := by
  induction methods generalizing d with
  | nil => simp
  | cons m methods ih => simp [ih, Directory.addContactMethod]

/-- What the calls keep, for the parties that `start` does not have. -/
structure Deduplicated (tables : CharTables) (start d : Directory) : Prop where
  owned : d.Owned
  distinct : ∀ m ∈ d.contactMethods, ∀ m' ∈ d.contactMethods, m.tenantId = m'.tenantId →
    start.parties.get? m.partyId = none → start.parties.get? m'.partyId = none →
    ∀ k, m.key tables = some k → m'.key tables = some k → m.partyId = m'.partyId

theorem deduplicated_start {tables : CharTables} {start : Directory} (h : start.Owned) :
    Deduplicated tables start start := by
  refine ⟨h, fun m hm m' _ _ hnew => ?_⟩
  obtain ⟨p, hp, -⟩ := h m hm
  rw [hp] at hnew
  cases hnew

/-- A new party is the only one with a key of its own. -/
theorem Deduplicated.createParty {tables : CharTables} {start d : Directory} (h : Deduplicated tables start d)
    {payload : PublicLeadCreate} {tenantId : ℕ} (now : ℤ)
    (hnone : (resolvePartyMatch tables payload tenantId d).1 = none) :
    Deduplicated tables start (createParty payload tenantId now d).2 := by
  set p : Party := ⟨tenantId, .person, payload.name, .active, none, now⟩
  have hcreated : (CoreOps.PublicLeads.createParty payload tenantId now d).2 =
      ⟨(d.addParty p).parties, d.contactMethods ++ leadMethods payload tenantId d.parties.freshKey⟩ :=
    contactMethods_foldl ..
  rw [hcreated]
  constructor
  · intro m hm
    rcases List.mem_append.1 hm with hm | hm
    · exact h.owned.addParty p m hm
    · obtain ⟨htenant, hparty⟩ := leadMethods_owner hm
      refine ⟨p, ?_, htenant.symm⟩
      simp [hparty, Directory.addParty, Table.add, Table.get?_insert_new _ _ _ d.parties.get?_freshKey]
  · -- a stored method shares no key with a new one: the search would have found its owner
    have hmixed : ∀ m ∈ d.contactMethods, ∀ m' ∈ leadMethods payload tenantId d.parties.freshKey,
        m.tenantId = m'.tenantId → ∀ k, m.key tables = some k → m'.key tables ≠ some k := by
      intro m hm m' hm' htenant k hkey hkey'
      exact resolvePartyMatch_none h.owned hnone hm (htenant.trans (leadMethods_owner hm').1) hkey
        (leadMethods_key hm' hkey')
    intro m hm m' hm' htenant hnew hnew' k hkey hkey'
    rcases List.mem_append.1 hm with hm | hm <;> rcases List.mem_append.1 hm' with hm' | hm'
    · exact h.distinct m hm m' hm' htenant hnew hnew' k hkey hkey'
    · exact absurd hkey' (hmixed m hm m' hm' htenant k hkey)
    · exact absurd hkey (hmixed m' hm' m hm htenant.symm k hkey')
    · rw [(leadMethods_owner hm).2, (leadMethods_owner hm').2]

theorem deduplicated_leadTransaction {tables : CharTables} {start : Directory} {c : LeadCall T} {db db' : Database}
    (h : Deduplicated tables start db.directory) (hok : leadTransaction tables c db = .ok db') :
    Deduplicated tables start db'.directory := by
  simp only [leadTransaction, bind_eq_ok, pure_eq_ok] at hok
  obtain ⟨ids, -, -, -, -, -, -, -, rfl⟩ := hok
  dsimp only
  split
  · exact h
  · rename_i hnone
    exact h.createParty c.now hnone

variable [Ring T] [LinearOrder T]

theorem deduplicated_createLead {tables : CharTables} {start : Directory} {c : LeadCall T} {s : State T}
    (h : Deduplicated tables start s.db.directory) :
    Deduplicated tables start (createLead tables c s).2.db.directory := by
  unfold createLead
  split
  · exact h
  · exact h
  · split
    · exact h
    · split
      · exact h
      · rename_i hok
        exact deduplicated_leadTransaction h hok

/-- However the calls go, no two of the parties that they create share an e-mail or a phone. -/
theorem leads_deduplicated (tables : CharTables) (start : State T) (howned : start.db.directory.Owned)
    (calls : List (LeadCall T)) (p q : ℕ) (hne : p ≠ q) (hp : start.db.directory.parties.get? p = none)
    (hq : start.db.directory.parties.get? q = none) (tenantId : ℕ) :
    ¬ Share tables (createLeads tables calls start).db.directory tenantId p q := by
  have hrun : Deduplicated tables start.db.directory (createLeads tables calls start).db.directory := by
    induction calls using List.reverseRecOn with
    | nil => exact deduplicated_start howned
    | append_singleton calls c ih =>
      rw [createLeads, List.foldl_append]
      exact deduplicated_createLead ih
  rintro ⟨m, hm, m', hm', rfl, htenant, rfl, rfl, k, hkey, hkey'⟩
  exact hne (hrun.distinct m hm m' hm' htenant.symm hp hq k hkey hkey')

def leadSettings : Settings :=
  ⟨true, [], true, 600, 5, 3600, 20, .id 1, .id 2, .id 3, .id 4⟩

def leadTargets : Targets where
  tenants := (∅ : Table ℕ TenantStatus).insert 1 .active
  pipelines := (∅ : Table ℕ ℕ).insert 2 1
  stages := (∅ : Table ℕ ℕ).insert 3 2
  users := (∅ : Table ℕ Bool).insert 4 true

def leadOf (payload : PublicLeadCreate) : LeadCall ℤ :=
  ⟨leadSettings, payload, none, none, 0, 0, leadTargets, .ok (), .ok ()⟩

/-- Two visitors, and the first one again under the phone's other spelling. -/
def threeLeads : List (LeadCall ℤ) :=
  [leadOf ⟨"A", some "87001234567", some "a@x.kz", none, none, none, "/", by decide, by decide⟩,
    leadOf ⟨"B", none, some "b@x.kz", none, none, none, "/", by decide, by decide⟩,
    leadOf ⟨"A", some "+7 700 123-45-67", some "c@x.kz", none, none, none, "/", by decide, by decide⟩]

theorem leads_deduplicated_three :
    (createLeads .ascii threeLeads ⟨fun _ => [], .empty, []⟩).db.directory.parties.rows.map Prod.fst = [1, 2] ∧
    ¬ Share .ascii (createLeads .ascii threeLeads ⟨fun _ => [], .empty, []⟩).db.directory 1 1 2 :=
  ⟨by decide +kernel, leads_deduplicated .ascii ⟨fun _ => [], .empty, []⟩ nofun threeLeads 1 2 (by decide) rfl rfl 1⟩

end CoreOps.PublicLeads
