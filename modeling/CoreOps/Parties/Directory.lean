import CoreOps.Lib.Runs
import CoreOps.Lib.Checked
import CoreOps.Parties.Service

/-! What the match finds, and that the writers keep contact methods with the parties of
their own tenant. -/

namespace CoreOps.Parties

open Text Checked

/-- What identifies the owner of a contact method. -/
inductive ContactKey
  | email (normalized : String)
  | phone (normalized : String)
  deriving DecidableEq, Repr

/-- The key of an e-mail or a phone; other methods, and phones too short to tell, have none. -/
def ContactMethod.key (tables : CharTables) (m : ContactMethod) : Option ContactKey :=
  match m.methodType with
  | .email => (normalizeEmail tables (some m.value)).map .email
  | .phone | .mobile => (normalizePhoneDigits tables (some m.value)).map .phone
  | _ => none

/-! The dictionary of matches. -/

theorem mem_recordMatch {found : ExactMatches} {partyId k : ℕ} {key : MatchKey} :
    k ∈ (recordMatch found partyId key).rows.map Prod.fst ↔ k = partyId ∨ k ∈ found.rows.map Prod.fst := by
  rw [← not_iff_not, ← Table.get?_eq_none, not_or, ← Table.get?_eq_none, recordMatch, Table.get?_modify,
    Table.get?_insert]
  by_cases h : k = partyId <;> simp [h]

/-- The parties that a loop over rows records: those it started with and the owners of the
rows that pass. -/
theorem mem_foldl_recordMatch {α : Type*} (rows : List α) (test : α → Bool) (owner : α → ℕ) (key : MatchKey)
    (found : ExactMatches) (k : ℕ) :
    k ∈ (rows.foldl (fun found r => if test r then recordMatch found (owner r) key else found) found).rows.map
      Prod.fst ↔ k ∈ found.rows.map Prod.fst ∨ ∃ r ∈ rows, test r = true ∧ owner r = k := by
  induction rows generalizing found with
  | nil => simp
  | cons r rows ih =>
    rw [List.foldl_cons, ih]
    by_cases h : test r = true
    · simp only [h, if_true, mem_recordMatch, List.exists_mem_cons_iff, true_and]
      rw [eq_comm (a := k), or_assoc, or_left_comm]
    · simp [h]

theorem mem_searchMethods {d : Directory} {tenantId k : ℕ} {methodTypes : List ContactMethodType} {key : MatchKey}
    {test : Option String → Option String → Bool} {query : Option String} {found : ExactMatches} :
    k ∈ (searchMethods d tenantId methodTypes key test query found).rows.map Prod.fst ↔
      k ∈ found.rows.map Prod.fst ∨ query ≠ none ∧ ∃ m ∈ d.contactMethods, m.tenantId = tenantId ∧
        m.methodType ∈ methodTypes ∧ test query (some m.value) = true ∧ m.partyId = k := by
  unfold searchMethods
  by_cases h : query = none
  · simp [h]
  · rw [if_neg h, mem_foldl_recordMatch]
    simp [Directory.listContactMethodsByTypes, h, and_assoc]

theorem mem_searchMetadata {tables : CharTables} {d : Directory} {tenantId k : ℕ} {query : Option String}
    {found : ExactMatches} (hk : k ∈ (searchMetadata tables d tenantId query found).rows.map Prod.fst) :
    k ∈ found.rows.map Prod.fst ∨ ∃ p, d.parties.get? k = some p ∧ p.tenantId = tenantId := by
  unfold searchMetadata at hk
  split at hk
  · exact .inl hk
  · rw [mem_foldl_recordMatch] at hk
    refine hk.imp_right ?_
    rintro ⟨⟨id, p⟩, hr, -, rfl⟩
    obtain ⟨hrow, htenant⟩ := List.mem_filter.1 hr
    exact ⟨p, Table.mem_rows.1 hrow, of_decide_eq_true htenant⟩

theorem mem_searchMetadata_of_mem {tables : CharTables} {d : Directory} {tenantId k : ℕ} {query : Option String}
    {found : ExactMatches} (hk : k ∈ found.rows.map Prod.fst) :
    k ∈ (searchMetadata tables d tenantId query found).rows.map Prod.fst := by
  unfold searchMetadata
  split
  · exact hk
  · rw [mem_foldl_recordMatch]
    exact .inl hk

/-- Every party recorded is one of the tenant. -/
theorem exactMatchedOn_owned {tables : CharTables} {d : Directory} (h : d.Owned) {tenantId k : ℕ}
    {query : PartyMatchNormalizedQuery} (hk : k ∈ (exactMatchedOn tables d tenantId query).rows.map Prod.fst) :
    ∃ p, d.getParty tenantId k = some p := by
  have howner : ∀ m ∈ d.contactMethods, m.tenantId = tenantId →
      ∃ p, d.parties.get? m.partyId = some p ∧ p.tenantId = tenantId := by
    rintro m hm rfl
    exact h m hm
  have hparty : ∃ p, d.parties.get? k = some p ∧ p.tenantId = tenantId := by
    rcases mem_searchMetadata hk with hk | hk
    · simp only [mem_searchMethods] at hk
      rcases hk with ((((hk | hk) | hk) | hk) | hk) | hk
      · simp at hk
      all_goals
        obtain ⟨-, m, hm, htenant, -, -, rfl⟩ := hk
        exact howner m hm htenant
    · exact hk
  obtain ⟨p, hp, htenant⟩ := hparty
  exact ⟨p, by simp [Directory.getParty, hp, htenant]⟩

/-- A query for the key of a contact method records its owner. -/
theorem mem_exactMatchedOn {tables : CharTables} {d : Directory} {tenantId : ℕ} {payload : PartyMatchRequest}
    {m : ContactMethod} (hm : m ∈ d.contactMethods) (htenant : m.tenantId = tenantId) {k : ContactKey}
    (hkey : m.key tables = some k)
    (hquery : k ∈ ((normalizeEmail tables payload.email).map ContactKey.email).toList ++
      ((normalizePhoneDigits tables payload.phone).map ContactKey.phone).toList) :
    m.partyId ∈ (exactMatchedOn tables d tenantId (normalizeQuery tables payload)).rows.map Prod.fst := by
  refine mem_searchMetadata_of_mem ?_
  simp only [mem_searchMethods]
  refine .inl (.inl (.inl ?_))
  simp only [List.mem_append, Option.mem_toList, Option.map_eq_some_iff] at hquery
  rcases hquery with ⟨email, hemail, rfl⟩ | ⟨phone, hphone, rfl⟩
  · -- the e-mails agree once both are normalized, which the query is already
    have hmethod : m.methodType = .email ∧ normalizeEmail tables (some m.value) = some email := by
      unfold ContactMethod.key at hkey
      split at hkey <;> simp_all
    have hmatch : emailsMatch tables (some email) (some m.value) = true :=
      agree_iff.2 ⟨email, normalizeEmail_normalized tables hemail, hmethod.2⟩
    exact .inl (.inr ⟨by simp [normalizeQuery, hemail], m, hm, htenant, by simp [hmethod.1],
      by simpa [normalizeQuery, hemail] using hmatch, rfl⟩)
  · have hmethod : m.methodType ∈ [ContactMethodType.phone, .mobile] ∧
        normalizePhoneDigits tables (some m.value) = some phone := by
      unfold ContactMethod.key at hkey
      split at hkey <;> simp_all
    have hmatch : phonesMatch tables (some phone) (some m.value) = true :=
      agree_iff.2 ⟨phone, normalizePhoneDigits_normalized tables hphone, hmethod.2⟩
    exact .inr ⟨by simp [normalizeQuery, hphone], m, hm, htenant, hmethod.1,
      by simpa [normalizeQuery, hphone] using hmatch, rfl⟩

/-- Where a party was recorded, there is an exact hit: the limit cuts off the rest, not the first. -/
theorem exactHits_ne_nil {tables : CharTables} {d : Directory} (h : d.Owned) {tenantId k : ℕ}
    {query : PartyMatchNormalizedQuery} (hk : k ∈ (exactMatchedOn tables d tenantId query).rows.map Prod.fst) :
    exactHits d tenantId (exactMatchedOn tables d tenantId query) ≠ [] := by
  have howned : ∀ k ∈ (exactMatchedOn tables d tenantId query).rows.map Prod.fst,
      ∃ p, d.getParty tenantId k = some p := fun k hk => exactMatchedOn_owned h hk
  unfold exactHits
  generalize (exactMatchedOn tables d tenantId query).rows = rows at hk howned
  rcases rows with - | ⟨first, rows⟩
  · simp at hk
  · obtain ⟨p, hp⟩ := howned first.1 (by simp)
    simp [exactMatchLimit, hp]

/-! The writers. -/

theorem getParty_eq_some {d : Directory} {tenantId partyId : ℕ} {p : Party} :
    d.getParty tenantId partyId = some p ↔ d.parties.get? partyId = some p ∧ p.tenantId = tenantId := by
  simp [Directory.getParty, Option.filter_eq_some_iff]

theorem getPartyOr404_ok {d : Directory} {tenantId partyId : ℕ} {p : Party}
    (h : getPartyOr404 d tenantId partyId = .ok p) : d.parties.get? partyId = some p ∧ p.tenantId = tenantId := by
  unfold getPartyOr404 at h
  split at h
  · rename_i q hq
    obtain rfl := Except.ok.inj h
    exact getParty_eq_some.1 hq
  · cases h

theorem Directory.Owned.addParty {d : Directory} (h : d.Owned) (p : Party) : (d.addParty p).Owned := by
  intro m hm
  obtain ⟨q, hq, htenant⟩ := h m hm
  have hne : m.partyId ≠ d.parties.freshKey := by
    intro he
    rw [he, Table.get?_freshKey] at hq
    cases hq
  refine ⟨q, ?_, htenant⟩
  simp only [Directory.addParty, Table.add, Table.get?_insert_new _ _ _ d.parties.get?_freshKey, if_neg hne, hq]

theorem Directory.Owned.addContactMethod {d : Directory} (h : d.Owned) {m : ContactMethod}
    (hm : ∃ p, d.parties.get? m.partyId = some p ∧ p.tenantId = m.tenantId) : (d.addContactMethod m).Owned := by
  intro m' hm'
  rcases List.mem_append.1 hm' with hm' | hm'
  · exact h m' hm'
  · obtain rfl := List.mem_singleton.1 hm'
    exact hm

theorem Directory.Owned.replaceContactMethods {tenantId partyId : ℕ} {p : Party} (htenant : p.tenantId = tenantId)
    (methods : List ContactMethodCreate) {d : Directory} (h : d.Owned) (hp : d.parties.get? partyId = some p) :
    (replaceContactMethods tenantId partyId methods d).Owned := by
  unfold CoreOps.Parties.replaceContactMethods
  induction methods generalizing d with
  | nil => exact h
  | cons item methods ih => exact ih (h.addContactMethod ⟨p, hp, htenant⟩) hp

inductive Op
  | createParty (tenantId : ℕ) (now : ℤ) (customFields : Except PartyError Unit) (payload : PartyCreate)
  | updateParty (tenantId partyId : ℕ) (customFields : Except PartyError Unit) (payload : PartyUpdate)
  | deleteParty (tenantId partyId : ℕ)

def exec (d : Directory) : Op → Except PartyError Directory
  | .createParty tenantId now customFields payload => createParty tenantId now customFields payload d
  | .updateParty tenantId partyId customFields payload => updateParty tenantId partyId customFields payload d
  | .deleteParty tenantId partyId => deleteParty tenantId partyId d

theorem owned_exec {d d' : Directory} {op : Op} (h : d.Owned) (hexec : exec d op = .ok d') : d'.Owned := by
  rcases op with ⟨tenantId, now, customFields, payload⟩ | ⟨tenantId, partyId, customFields, payload⟩ |
    ⟨tenantId, partyId⟩
  · simp only [exec, createParty, bind_eq_ok, pure_eq_ok] at hexec
    obtain ⟨-, -, rfl⟩ := hexec
    set p : Party :=
      ⟨tenantId, payload.partyType, payload.displayName, payload.status, payload.telegramUserId, now⟩
    have hp : (d.addParty p).parties.get? d.parties.freshKey = some p := by
      simp [Directory.addParty, Table.add, Table.get?_insert_new _ _ _ d.parties.get?_freshKey]
    exact (h.addParty p).replaceContactMethods rfl _ hp
  · simp only [exec, updateParty, bind_eq_ok, pure_eq_ok] at hexec
    obtain ⟨p, hp, -, -, rfl⟩ := hexec
    obtain ⟨hp, htenant⟩ := getPartyOr404_ok hp
    -- the row keeps its tenant, so its methods, old and new, stay with it
    have hmodified : ∀ methods : List ContactMethod, methods ⊆ d.contactMethods →
        Directory.Owned ⟨d.parties.modify partyId payload.columns, methods⟩ := by
      intro methods hsub m hm
      obtain ⟨q, hq, hown⟩ := h m (hsub hm)
      simp only [Table.get?_modify]
      by_cases hid : m.partyId = partyId
      · rw [if_pos hid, hq, Option.map_some]
        exact ⟨_, rfl, hown⟩
      · rw [if_neg hid, hq]
        exact ⟨q, rfl, hown⟩
    split
    · have hp' : (d.parties.modify partyId payload.columns).get? partyId = some (payload.columns p) := by
        rw [Table.get?_modify_self, hp, Option.map_some]
      have htenant' : (payload.columns p).tenantId = tenantId := htenant
      exact (hmodified _ (List.filter_subset_self _)).replaceContactMethods htenant' _ hp'
    · exact hmodified _ (List.Subset.refl _)
  · simp only [exec, deleteParty, bind_eq_ok, pure_eq_ok] at hexec
    obtain ⟨p, -, rfl⟩ := hexec
    intro m hm
    obtain ⟨hm, hid⟩ := List.mem_filter.1 hm
    obtain ⟨q, hq, hown⟩ := h m hm
    exact ⟨q, by simp [Table.get?_filter, hq, of_decide_eq_true hid], hown⟩

/-- Whatever the parties service is asked to do, contact methods stay with parties of their tenant. -/
theorem owned_run {d : Directory} {ops : List Op} (h : Run (CallStep exec) .empty ops d) : d.Owned := by
  refine h.invariant Directory.Owned (fun m hm => ?_) fun s op s' hs hstep => ?_
  · cases hm
  · rw [hstep]
    exact settle_keeps hs fun s'' hexec => owned_exec hs hexec

end CoreOps.Parties
