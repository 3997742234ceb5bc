import CoreOps.Parties.Directory
import Mathlib.Data.List.Dedup
import Mathlib.Data.List.Induction

/-! The order of a match's results. The parties that match come up search by search, and the
response takes the first twenty of them before it sorts by score; so the party it puts
first has the best score of all just when one with that score is among the twenty. -/

namespace CoreOps.Parties

open Text

/-! The matches, in the order the searches come upon them. -/

section Events

variable (tables : CharTables) (d : Directory) (tenantId : ℕ)

/-- A contact method that passes the test matches its party on the key. -/
def methodMatches (methodTypes : List ContactMethodType) (key : MatchKey) (test : Option String → Option String → Bool)
    (query : Option String) : List (ℕ × MatchKey) :=
  if query = none then []
  else ((d.listContactMethodsByTypes tenantId methodTypes).filter fun m => test query (some m.value)).map fun m =>
    (m.partyId, key)

def metadataMatches (query : Option String) : List (ℕ × MatchKey) :=
  if query = none then []
  else ((d.parties.rows.filter (·.2.tenantId = tenantId)).filter fun r =>
    telegramUserIdsMatch tables query r.2.telegramUserId).map fun r => (r.1, .telegramUserId)

def exactMatches (query : PartyMatchNormalizedQuery) : List (ℕ × MatchKey) :=
  methodMatches d tenantId [.email] .email (emailsMatch tables) query.email ++
  methodMatches d tenantId [.phone, .mobile] .phone (phonesMatch tables) query.phone ++
  methodMatches d tenantId [.whatsapp, .phone, .mobile] .whatsapp (phonesMatch tables) query.whatsapp ++
  methodMatches d tenantId [.telegram] .telegramUsername (telegramUsernamesMatch tables) query.telegramUsername ++
  methodMatches d tenantId [.telegram] .telegramUserId (telegramUserIdsMatch tables) query.telegramUserId ++
  metadataMatches tables d tenantId query.telegramUserId

end Events

/-- The ids, each where it first comes up. -/
def comeUp (ids : List ℕ) : List ℕ := ids.reverse.dedup.reverse

theorem comeUp_append_singleton (ids : List ℕ) (id : ℕ) :
    comeUp (ids ++ [id]) = if id ∈ ids then comeUp ids else comeUp ids ++ [id] := by
  unfold comeUp
  rw [List.reverse_append, List.reverse_singleton, List.singleton_append]
  by_cases h : id ∈ ids
  · rw [if_pos h, List.dedup_cons_of_mem (List.mem_reverse.2 h)]
  · rw [if_neg h, List.dedup_cons_of_notMem (by simpa using h), List.reverse_cons]

theorem mem_comeUp {ids : List ℕ} {id : ℕ} : id ∈ comeUp ids ↔ id ∈ ids := by
  simp [comeUp]

/-- The keys a party matches on. -/
def keysOf (events : List (ℕ × MatchKey)) (partyId : ℕ) : List MatchKey :=
  (events.filter fun e => e.1 = partyId).map Prod.snd

/-- The score of a party among the exact matches. -/
def exactScore (events : List (ℕ × MatchKey)) (partyId : ℕ) : ℤ :=
  scoreForMatchedOn (sortedKeys (keysOf events partyId)) .exact_

theorem mem_keysOf {events : List (ℕ × MatchKey)} {partyId : ℕ} {key : MatchKey} :
    key ∈ keysOf events partyId ↔ (partyId, key) ∈ events := by
  simp [keysOf]

/-! The dictionary holds these matches. -/

section Dictionary

def recordAll (found : ExactMatches) (events : List (ℕ × MatchKey)) : ExactMatches :=
  events.foldl (fun found e => recordMatch found e.1 e.2) found

theorem recordAll_append (found : ExactMatches) (events more : List (ℕ × MatchKey)) :
    recordAll found (events ++ more) = recordAll (recordAll found events) more :=
  List.foldl_append ..

theorem foldl_recordMatch {α : Type*} (rows : List α) (test : α → Bool) (owner : α → ℕ) (key : MatchKey)
    (found : ExactMatches) :
    rows.foldl (fun found r => if test r then recordMatch found (owner r) key else found) found =
      recordAll found ((rows.filter test).map fun r => (owner r, key)) := by
  induction rows generalizing found with
  | nil => rfl
  | cons r rows ih =>
    rw [List.foldl_cons, ih]
    by_cases h : test r = true
    · rw [if_pos h, List.filter_cons_of_pos h]
      rfl
    · rw [if_neg h, List.filter_cons_of_neg h]

theorem searchMethods_eq (d : Directory) (tenantId : ℕ) (methodTypes : List ContactMethodType) (key : MatchKey)
    (test : Option String → Option String → Bool) (query : Option String) (found : ExactMatches) :
    searchMethods d tenantId methodTypes key test query found =
      recordAll found (methodMatches d tenantId methodTypes key test query) := by
  unfold searchMethods methodMatches
  split
  · rfl
  · exact foldl_recordMatch _ (fun m : ContactMethod => test query (some m.value)) (·.partyId) key found

theorem searchMetadata_eq (tables : CharTables) (d : Directory) (tenantId : ℕ) (query : Option String)
    (found : ExactMatches) :
    searchMetadata tables d tenantId query found = recordAll found (metadataMatches tables d tenantId query) := by
  unfold searchMetadata metadataMatches
  split
  · rfl
  · exact foldl_recordMatch _ (fun r : ℕ × Party => telegramUserIdsMatch tables query r.2.telegramUserId) (·.1)
      .telegramUserId found

theorem exactMatchedOn_eq (tables : CharTables) (d : Directory) (tenantId : ℕ) (query : PartyMatchNormalizedQuery) :
    exactMatchedOn tables d tenantId query = recordAll ∅ (exactMatches tables d tenantId query) := by
  simp only [exactMatchedOn, searchMethods_eq, searchMetadata_eq, exactMatches, recordAll_append]

theorem keys_recordMatch (found : ExactMatches) (partyId : ℕ) (key : MatchKey) :
    (recordMatch found partyId key).rows.map Prod.fst =
      if partyId ∈ found.rows.map Prod.fst then found.rows.map Prod.fst else found.rows.map Prod.fst ++ [partyId] := by
  have hmodify : ∀ t : ExactMatches, ∀ f, (t.modify partyId f).rows.map Prod.fst = t.rows.map Prod.fst := by
    intro t f
    simp only [Table.modify, List.map_map]
    refine List.map_congr_left fun r _ => ?_
    by_cases h : r.1 = partyId <;> simp [h]
  rw [recordMatch, hmodify, Table.insert]
  split
  · rfl
  · simp

theorem keys_recordAll (events : List (ℕ × MatchKey)) :
    (recordAll ∅ events).rows.map Prod.fst = comeUp (events.map Prod.fst) := by
  induction events using List.reverseRecOn with
  | nil => rfl
  | append_singleton events e ih =>
    have hmem : e.1 ∈ comeUp (events.map Prod.fst) ↔ e.1 ∈ events.map Prod.fst := mem_comeUp
    rw [recordAll_append, List.map_append, List.map_singleton, comeUp_append_singleton]
    show (recordMatch (recordAll ∅ events) e.1 e.2).rows.map Prod.fst = _
    rw [keys_recordMatch, ih]
    simp only [hmem]

theorem mem_keys_recordAll (events : List (ℕ × MatchKey)) (partyId : ℕ) (key : MatchKey) :
    key ∈ ((recordAll ∅ events).get? partyId).getD [] ↔ (partyId, key) ∈ events := by
  induction events using List.reverseRecOn with
  | nil => simp [recordAll]
  | append_singleton events e ih =>
    obtain ⟨id, k⟩ := e
    rw [recordAll_append, List.mem_append, List.mem_singleton, Prod.mk.injEq]
    show key ∈ ((recordMatch (recordAll ∅ events) id k).get? partyId).getD [] ↔ _
    rw [recordMatch, Table.get?_modify, Table.get?_insert]
    by_cases h : partyId = id
    · subst h
      have hkeys : ∀ keys : List MatchKey, key ∈ (if k ∈ keys then keys else keys ++ [k]) ↔ key ∈ keys ∨ key = k := by
        intro keys
        split
        · exact ⟨.inl, fun hkey => hkey.elim id fun hk => hk ▸ ‹_›⟩
        · simp
      rw [if_pos rfl, if_pos rfl, Option.map_some, Option.getD_some, hkeys, ih]
      simp
    · rw [if_neg h, if_neg h, ih]
      simp [h]

/-- The texts of the keys depend on which keys there are only. -/
theorem sortedKeys_congr {keys keys' : List MatchKey} (h : ∀ key, key ∈ keys ↔ key ∈ keys') :
    sortedKeys keys = sortedKeys keys' := by
  unfold sortedKeys
  refine List.filter_congr fun key _ => ?_
  simp only [h key]

/-- The exact hits are those of the first parties to come up, as far as they are there. -/
theorem exactHits_eq (d : Directory) (tenantId : ℕ) (events : List (ℕ × MatchKey)) :
    exactHits d tenantId (recordAll ∅ events) =
      ((comeUp (events.map Prod.fst)).take exactMatchLimit).filterMap fun partyId =>
        (d.getParty tenantId partyId).map fun p =>
          buildMatchHit partyId p .exact_ (sortedKeys (keysOf events partyId)) := by
  rw [← keys_recordAll, ← List.map_take, List.filterMap_map, exactHits]
  refine List.filterMap_congr fun r hr => ?_
  have hget : (recordAll ∅ events).get? r.1 = some r.2 := Table.mem_rows.1 (List.mem_of_mem_take hr)
  have hkeys : sortedKeys r.2 = sortedKeys (keysOf events r.1) := by
    refine sortedKeys_congr fun key => ?_
    rw [mem_keysOf, ← mem_keys_recordAll, hget, Option.getD_some]
  rw [hkeys]
  rfl

end Dictionary

/-! The order of the response. -/

section Order

variable {tables : CharTables}

theorem hitLE_total (a b : PartyMatchHit) : hitLE tables a b ∨ hitLE tables b a := by
  unfold hitLE
  rcases String.le_total (tables.lower a.displayName) (tables.lower b.displayName) with h | h <;> simp only [h, and_true] <;>
    omega

theorem hitLE_trans {a b c : PartyMatchHit} (hab : hitLE tables a b) (hbc : hitLE tables b c) : hitLE tables a c := by
  unfold hitLE at *
  rcases hab with hab | ⟨hab, hab'⟩
  · exact .inl (by omega)
  rcases hbc with hbc | ⟨hbc, hbc'⟩
  · exact .inl (by omega)
  refine .inr ⟨hab.trans hbc, ?_⟩
  rcases hab' with hab' | ⟨hab', hname⟩
  · exact .inl (by omega)
  rcases hbc' with hbc' | ⟨hbc', hname'⟩
  · exact .inl (by omega)
  · exact .inr ⟨hab'.trans hbc', String.le_trans hname hname'⟩

instance : Std.Total (hitLE tables) := ⟨hitLE_total⟩

instance : IsTrans PartyMatchHit (hitLE tables) := ⟨fun _ _ _ => hitLE_trans⟩

variable (tables) in
/-- The first of the sorted hits comes before all of them. -/
theorem head_insertionSort {hits : List PartyMatchHit} {hit : PartyMatchHit} (h : hit ∈ hits) :
    ∃ first ∈ hits, (hits.insertionSort (hitLE tables)).head? = some first ∧ hitLE tables first hit := by
  have hsorted := List.pairwise_insertionSort (hitLE tables) hits
  have hmem : hit ∈ hits.insertionSort (hitLE tables) := (List.mem_insertionSort _).2 h
  have hall : ∀ x ∈ hits.insertionSort (hitLE tables), x ∈ hits := fun x hx => (List.mem_insertionSort _).1 hx
  revert hsorted hmem hall
  generalize hits.insertionSort (hitLE tables) = sorted
  intro hsorted hmem hall
  cases sorted with
  | nil => cases hmem
  | cons first rest =>
    refine ⟨first, hall first (by simp), rfl, ?_⟩
    rcases List.mem_cons.1 hmem with rfl | hrest
    · exact (hitLE_total hit hit).elim id id
    · exact List.rel_of_pairwise_cons hsorted hrest

/-- Before an exact hit comes only an exact one, with no smaller score. -/
theorem exact_of_hitLE {a b : PartyMatchHit} (h : hitLE tables a b) (hb : b.matchType = .exact_) :
    a.matchType = .exact_ ∧ b.score ≤ a.score := by
  unfold hitLE at h
  cases ha : a.matchType <;> simp only [ha, hb, MatchType.rank] at h
  · refine ⟨rfl, ?_⟩
    omega
  · omega

end Order

/-! The best of the matches. -/

section Best

variable (tables : CharTables) (d : Directory) (tenantId : ℕ) (payload : PartyMatchRequest)

/-- The exact matches of a request. -/
def matchesOf : List (ℕ × MatchKey) := exactMatches tables d tenantId (normalizeQuery tables payload)

/-- The parties of the tenant among those that match. -/
def Matched (partyId : ℕ) : Prop :=
  partyId ∈ (matchesOf tables d tenantId payload).map Prod.fst ∧ d.getParty tenantId partyId ≠ none

/-- The first result has a score no exact match exceeds. -/
def BestFirst : Prop :=
  ∀ partyId, Matched tables d tenantId payload partyId →
    ∃ hit, (matchParties tables tenantId payload d).matches_.head? = some hit ∧
      Matched tables d tenantId payload hit.partyId ∧
      hit.score = exactScore (matchesOf tables d tenantId payload) hit.partyId ∧
      exactScore (matchesOf tables d tenantId payload) partyId ≤ hit.score

/-- The first parties that come up, to the limit, have one that scores as high as any. -/
def BestIsEarly : Prop :=
  ∀ partyId, Matched tables d tenantId payload partyId →
    ∃ early ∈ (comeUp ((matchesOf tables d tenantId payload).map Prod.fst)).take exactMatchLimit,
      d.getParty tenantId early ≠ none ∧
      exactScore (matchesOf tables d tenantId payload) partyId ≤ exactScore (matchesOf tables d tenantId payload) early

variable {tables d tenantId payload}

theorem mem_exactHits {hit : PartyMatchHit} :
    hit ∈ exactHits d tenantId (exactMatchedOn tables d tenantId (normalizeQuery tables payload)) ↔
      hit.partyId ∈ (comeUp ((matchesOf tables d tenantId payload).map Prod.fst)).take exactMatchLimit ∧
        ∃ p, d.getParty tenantId hit.partyId = some p ∧
          hit = buildMatchHit hit.partyId p .exact_
            (sortedKeys (keysOf (matchesOf tables d tenantId payload) hit.partyId)) := by
  rw [exactMatchedOn_eq, exactHits_eq, List.mem_filterMap]
  constructor
  · rintro ⟨partyId, hearly, hsome⟩
    obtain ⟨p, hp, rfl⟩ := Option.map_eq_some_iff.1 hsome
    exact ⟨hearly, p, hp, rfl⟩
  · rintro ⟨hearly, p, hp, hhit⟩
    refine ⟨hit.partyId, hearly, ?_⟩
    rw [hp, Option.map_some, hhit]
    rfl

theorem mem_exactHits_of_early {early : ℕ} {p : Party}
    (hearly : early ∈ (comeUp ((matchesOf tables d tenantId payload).map Prod.fst)).take exactMatchLimit)
    (hp : d.getParty tenantId early = some p) :
    buildMatchHit early p .exact_ (sortedKeys (keysOf (matchesOf tables d tenantId payload) early)) ∈
      exactHits d tenantId (exactMatchedOn tables d tenantId (normalizeQuery tables payload)) :=
  mem_exactHits.2 ⟨hearly, p, hp, rfl⟩

theorem mem_weakHits {found : ExactMatches} {name : Option String} {hit : PartyMatchHit}
    (h : hit ∈ weakHits tables d tenantId found name) :
    hit.matchType = .weak ∧ hit.partyId ∉ found.rows.map Prod.fst ∧ hit.matchedOn = [.name] := by
  unfold weakHits at h
  split at h
  · cases h
  · obtain ⟨r, hr, rfl⟩ := List.mem_map.1 h
    obtain ⟨-, hof⟩ := List.mem_filter.1 (List.mem_of_mem_take hr)
    exact ⟨rfl, (of_decide_eq_true hof).1, rfl⟩

/-- An exact first result is one of the exact hits. -/
theorem head_exact {hit : PartyMatchHit}
    (hhit : hit ∈ exactHits d tenantId (exactMatchedOn tables d tenantId (normalizeQuery tables payload))) :
    ∃ first, (matchParties tables tenantId payload d).matches_.head? = some first ∧
      first ∈ exactHits d tenantId (exactMatchedOn tables d tenantId (normalizeQuery tables payload)) ∧
      hit.score ≤ first.score := by
  obtain ⟨first, hfirst, hhead, hle⟩ := head_insertionSort tables (List.mem_append_left
    (weakHits tables d tenantId (exactMatchedOn tables d tenantId (normalizeQuery tables payload))
      (normalizeQuery tables payload).name) hhit)
  obtain ⟨-, p, -, heq⟩ := mem_exactHits.1 hhit
  obtain ⟨hexact, hscore⟩ := exact_of_hitLE hle (by rw [heq]; rfl)
  refine ⟨first, hhead, ?_, hscore⟩
  rcases List.mem_append.1 hfirst with hfirst | hfirst
  · exact hfirst
  · rw [(mem_weakHits hfirst).1] at hexact
    cases hexact

theorem matched_of_mem_exactHits {hit : PartyMatchHit}
    (h : hit ∈ exactHits d tenantId (exactMatchedOn tables d tenantId (normalizeQuery tables payload))) :
    Matched tables d tenantId payload hit.partyId ∧
      hit.score = exactScore (matchesOf tables d tenantId payload) hit.partyId := by
  obtain ⟨hearly, p, hp, heq⟩ := mem_exactHits.1 h
  refine ⟨⟨mem_comeUp.1 (List.mem_of_mem_take hearly), by simp [hp]⟩, ?_⟩
  rw [heq]
  rfl

theorem bestIsEarly_of_bestFirst (h : BestFirst tables d tenantId payload) : BestIsEarly tables d tenantId payload := by
  intro partyId hmatched
  obtain ⟨hit, hhead, ⟨hfound, hparty⟩, hscore, hle⟩ := h partyId hmatched
  refine ⟨hit.partyId, ?_, hparty, hscore ▸ hle⟩
  have hmem : hit ∈ (matchParties tables tenantId payload d).matches_ := List.mem_of_head? hhead
  rcases List.mem_append.1 ((List.mem_insertionSort _).1 hmem) with hhit | hhit
  · exact (mem_exactHits.1 hhit).1
  · -- a weak hit is a party that does not match exactly
    have hnot := (mem_weakHits hhit).2.1
    rw [exactMatchedOn_eq, keys_recordAll, mem_comeUp] at hnot
    exact absurd hfound hnot

end Best

section Example

def sharedPhone (tenantId partyId : ℕ) : ContactMethod :=
  ⟨tenantId, partyId, .phone, "7011112233", none, true⟩

def client (telegramUserId : Option String) : Party := ⟨1, .person, "Client", .active, telegramUserId, 0⟩

def crowdRows : List (ℕ × Party) := (List.range 21).map fun id => (id, client (if id = 20 then some "555" else none))

theorem crowdRows_nodup : (crowdRows.map Prod.fst).Nodup := by decide

def crowd : Directory := ⟨⟨crowdRows, crowdRows_nodup⟩, (List.range 20).map (sharedPhone 1)⟩

theorem crowdRequest_given :
    ∃ value ∈ [none, some "7011112233", none, none, some "555", none].reduceOption, strip value ≠ "" :=
  ⟨"555", by decide, by decide⟩

def crowdRequest : PartyMatchRequest :=
  ⟨none, some "7011112233", none, none, some "555", none, crowdRequest_given⟩

theorem crowd_matches : matchesOf CharTables.ascii crowd 1 crowdRequest =
    (List.range 20).map (fun id => (id, MatchKey.phone)) ++ [(20, MatchKey.telegramUserId)] := by decide

end Example

end CoreOps.Parties
