import CoreOps.Parties.Ranking

/-! Normal forms of contacts. The query of a match is normalized twice and a stored contact
once, so a match finds the contacts with the normal form of the query just where a second
normalization changes nothing. For Telegram usernames it can: of a second `@`, or of a space
after the first, it makes something else. -/

namespace CoreOps.Parties

open Text

/-- Tables whose lower case is one of the characters: a text in lower case is so without its
first character. -/
structure LowerTables extends CharTables where
  lower_tail : ∀ c l, lower (String.ofList (c :: l)) = String.ofList (c :: l) →
    lower (String.ofList l) = String.ofList l

theorem asciiLower_tail (c : Char) (l : List Char)
    (h : asciiLower (String.ofList (c :: l)) = String.ofList (c :: l)) :
    asciiLower (String.ofList l) = String.ofList l := by
  simp only [asciiLower, String.toList_ofList, List.map_cons, String.ofList_inj, List.cons.injEq] at h ⊢
  exact h.2

def LowerTables.ascii : LowerTables := { CharTables.ascii with lower_tail := asciiLower_tail }

/-- What a contact can be searched by. -/
inductive ContactKind
  | email
  | phone
  | whatsapp
  | telegramUsername
  deriving DecidableEq, Repr

namespace ContactKind

variable (tables : CharTables)

def normalize : ContactKind → Option String → Option String
  | .email => normalizeEmail tables
  | .phone | .whatsapp => normalizePhoneDigits tables
  | .telegramUsername => normalizeTelegramUsername tables

def methodTypes : ContactKind → List ContactMethodType
  | .email => [.email]
  | .phone => [.phone, .mobile]
  | .whatsapp => [.whatsapp, .phone, .mobile]
  | .telegramUsername => [.telegram]

def matchKey : ContactKind → MatchKey
  | .email => .email
  | .phone => .phone
  | .whatsapp => .whatsapp
  | .telegramUsername => .telegramUsername

/-- The value that a request gives. -/
def given (payload : PartyMatchRequest) : ContactKind → Option String
  | .email => payload.email
  | .phone => payload.phone
  | .whatsapp => payload.whatsapp
  | .telegramUsername => payload.telegramUsername

end ContactKind

/-! What a match finds. -/

section Finds

variable {tables : CharTables} {d : Directory} {tenantId partyId : ℕ} {payload : PartyMatchRequest} {kind : ContactKind}

/-- The response has the party, as matched on the kind. -/
def Finds (tables : CharTables) (d : Directory) (tenantId : ℕ) (payload : PartyMatchRequest) (kind : ContactKind)
    (partyId : ℕ) : Prop :=
  ∃ hit ∈ (matchParties tables tenantId payload d).matches_, hit.partyId = partyId ∧ kind.matchKey ∈ hit.matchedOn

/-- The party is one of those that the response has room for. -/
def WithinLimit (tables : CharTables) (d : Directory) (tenantId : ℕ) (payload : PartyMatchRequest) (partyId : ℕ) : Prop :=
  partyId ∈ (comeUp ((matchesOf tables d tenantId payload).map Prod.fst)).take exactMatchLimit

/-- A contact of the party that is searched for the kind, with the value `P` speaks of. -/
def HasContact (d : Directory) (tenantId : ℕ) (kind : ContactKind) (partyId : ℕ) (P : String → Prop) : Prop :=
  ∃ m ∈ d.contactMethods, m.tenantId = tenantId ∧ m.partyId = partyId ∧ m.methodType ∈ kind.methodTypes ∧ P m.value

theorem mem_sortedKeys {keys : List MatchKey} {key : MatchKey} : key ∈ sortedKeys keys ↔ key ∈ keys := by
  cases key <;> simp [sortedKeys]

theorem finds_iff :
    Finds tables d tenantId payload kind partyId ↔ (partyId, kind.matchKey) ∈ matchesOf tables d tenantId payload ∧
      WithinLimit tables d tenantId payload partyId ∧ d.getParty tenantId partyId ≠ none := by
  constructor
  · rintro ⟨hit, hmem, rfl, hkey⟩
    rcases List.mem_append.1 ((List.mem_insertionSort _).1 hmem) with hhit | hhit
    · obtain ⟨hearly, p, hp, heq⟩ := mem_exactHits.1 hhit
      rw [heq] at hkey
      exact ⟨mem_keysOf.1 (mem_sortedKeys.1 hkey), hearly, by simp [hp]⟩
    · rw [(mem_weakHits hhit).2.2] at hkey
      cases kind <;> simp [ContactKind.matchKey] at hkey
  · rintro ⟨hkey, hearly, hparty⟩
    obtain ⟨p, hp⟩ := Option.ne_none_iff_exists'.1 hparty
    exact ⟨_, (List.mem_insertionSort _).2 (List.mem_append_left _ (mem_exactHits_of_early hearly hp)), rfl,
      mem_sortedKeys.2 (mem_keysOf.2 hkey)⟩

theorem mem_methodMatches {methodTypes : List ContactMethodType} {key key' : MatchKey}
    {test : Option String → Option String → Bool} {query : Option String} :
    (partyId, key') ∈ methodMatches d tenantId methodTypes key test query ↔ key = key' ∧ query ≠ none ∧
      ∃ m ∈ d.contactMethods, m.tenantId = tenantId ∧ m.partyId = partyId ∧ m.methodType ∈ methodTypes ∧
        test query (some m.value) = true := by
  unfold methodMatches
  split
  · rename_i hnone
    simp [hnone]
  · rename_i hsome
    simp only [List.mem_map, List.mem_filter, Directory.listContactMethodsByTypes, decide_eq_true_eq, Prod.mk.injEq]
    constructor
    · rintro ⟨m, ⟨⟨hm, htenant, htype⟩, htest⟩, rfl, rfl⟩
      exact ⟨rfl, hsome, m, hm, htenant, rfl, htype, htest⟩
    · rintro ⟨rfl, -, m, hm, htenant, rfl, htype, htest⟩
      exact ⟨m, ⟨⟨hm, htenant, htype⟩, htest⟩, rfl, rfl⟩

theorem mem_metadataMatches {query : Option String} {key : MatchKey}
    (h : (partyId, key) ∈ metadataMatches tables d tenantId query) : key = .telegramUserId := by
  unfold metadataMatches at h
  split at h
  · cases h
  · obtain ⟨r, -, hr⟩ := List.mem_map.1 h
    exact (Prod.mk.inj hr).2.symm

/-- A party matches on a kind just when it has a contact whose normal form is that of the
normalized query. -/
theorem mem_matchesOf :
    (partyId, kind.matchKey) ∈ matchesOf tables d tenantId payload ↔
      HasContact d tenantId kind partyId fun stored =>
        agree (kind.normalize tables (kind.normalize tables (kind.given payload)))
          (kind.normalize tables (some stored)) = true := by
  have hmetadata : (partyId, kind.matchKey) ∉
      metadataMatches tables d tenantId (normalizeQuery tables payload).telegramUserId := by
    intro h
    have hkey := mem_metadataMatches h
    cases kind <;> cases hkey
  -- the query that is not there has no normal form to agree with
  have hnone : ∀ stored, kind.normalize tables (kind.given payload) = none →
      agree (kind.normalize tables (kind.normalize tables (kind.given payload)))
        (kind.normalize tables (some stored)) = false := by
    intro stored h
    rw [h]
    cases kind <;> rfl
  rw [matchesOf, exactMatches]
  simp only [List.mem_append, mem_methodMatches, hmetadata, or_false]
  cases kind <;> simp only [ContactKind.matchKey, reduceCtorEq, false_and, or_false, false_or, true_and] <;>
    refine ⟨fun h => h.2, fun h => ⟨fun hq => ?_, h⟩⟩ <;>
    · obtain ⟨m, -, -, -, -, hagree⟩ := h
      rw [hnone m.value hq] at hagree
      cases hagree

end Finds

/-! The username after its `@`. -/

section Username

variable (tables : LowerTables)

/-- A username's leading `@` goes. -/
def dropAt (name : List Char) : List Char := if name.head? = some '@' then name.tail else name

theorem normalizeTelegramUsername_some (value : String) :
    normalizeTelegramUsername tables.toCharTables (some value) =
      nonEmpty (String.ofList (dropAt (tables.lower (strip value)).toList)) := by
  rw [normalizeTelegramUsername, Option.bind_some, dropAt]
  dsimp only
  split
  · rfl
  · rw [String.ofList_toList]

theorem length_strip_lt {c : Char} (h : isSpace c = true) (l : List Char) :
    (strip (String.ofList (c :: l))).toList.length < (c :: l).length := by
  rw [strip, String.toList_ofList, String.toList_ofList, List.dropWhile_cons_of_pos h]
  have hle := (List.rdropWhile_prefix isSpace (l.dropWhile isSpace)).length_le.trans (List.dropWhile_suffix _).length_le
  rw [List.length_cons]
  omega

theorem length_dropAt_le (l : List Char) : (dropAt l).length ≤ l.length := by
  unfold dropAt
  split <;> simp

/-- Where a text is stripped, so is what follows its first character, up to the spaces in front. -/
theorem strip_tail {c c' : Char} {l : List Char} (h : strip (String.ofList (c :: c' :: l)) = String.ofList (c :: c' :: l))
    (hc : isSpace c = false) (hc' : isSpace c' = false) : strip (String.ofList (c' :: l)) = String.ofList (c' :: l) := by
  rw [strip, String.toList_ofList, List.dropWhile_cons_of_neg (by simp [hc]), String.ofList_inj,
    List.rdropWhile_eq_self_iff] at h
  rw [strip, String.toList_ofList, List.dropWhile_cons_of_neg (by simp [hc']), String.ofList_inj,
    List.rdropWhile_eq_self_iff]
  intro hne
  rw [← List.getLast_cons (a := c) hne]
  exact h (by simp)

theorem dropAt_strip_iff {c : Char} {l : List Char}
    (h : strip (String.ofList ('@' :: c :: l)) = String.ofList ('@' :: c :: l)) :
    dropAt (strip (String.ofList (c :: l))).toList = c :: l ↔ c ≠ '@' ∧ isSpace c = false := by
  by_cases hspace : isSpace c = true
  · -- a space in front is lost, and the name is shorter
    refine ⟨fun heq => ?_, fun hc => by simp [hspace] at hc⟩
    have hlt := length_strip_lt hspace l
    have hle := length_dropAt_le (strip (String.ofList (c :: l))).toList
    rw [heq] at hle
    omega
  · rw [strip_tail h (by decide) (by simpa using hspace), String.toList_ofList, dropAt]
    by_cases hat : c = '@'
    · subst hat
      rw [if_pos (List.head?_cons ..), List.tail_cons]
      refine ⟨fun heq => ?_, fun hc => absurd rfl hc.1⟩
      have hlength := congrArg List.length heq
      simp at hlength
    · rw [if_neg (by simpa using hat)]
      simp [hat, hspace]

/-- The username begins with one `@` at most, and no space after it. -/
def SingleAt (value : String) : Prop :=
  ∀ c l, (tables.lower (strip value)).toList = '@' :: c :: l → c ≠ '@' ∧ isSpace c = false

/-- Normalizing a username again changes nothing just when it is one of these. -/
theorem normalizeTelegramUsername_again_iff (value : String) :
    normalizeTelegramUsername tables.toCharTables (normalizeTelegramUsername tables.toCharTables (some value)) =
        normalizeTelegramUsername tables.toCharTables (some value) ↔ SingleAt tables value := by
  rw [normalizeTelegramUsername_some, SingleAt]
  have hlower := tables.lower_lower (strip value)
  have hstrip : strip (tables.lower (strip value)) = tables.lower (strip value) := by
    rw [tables.strip_lower, strip_strip]
  revert hlower hstrip
  generalize tables.lower (strip value) = t
  obtain ⟨chars, rfl⟩ : ∃ chars, t = String.ofList chars := ⟨t.toList, (String.ofList_toList).symm⟩
  rw [String.toList_ofList]
  intro hlower hstrip
  by_cases hat : chars.head? = some '@'
  · rcases chars with _ | ⟨a, _ | ⟨c, l⟩⟩
    · cases hat
    · obtain rfl : a = '@' := Option.some.inj hat
      exact ⟨fun _ c l h => by simp at h, fun _ => rfl⟩
    · obtain rfl : a = '@' := Option.some.inj hat
      have hname : nonEmpty (String.ofList (dropAt ('@' :: c :: l))) = some (String.ofList (c :: l)) :=
        nonEmpty_eq_some.2 ⟨rfl, by simp⟩
      have hfixed : tables.lower (strip (String.ofList (c :: l))) = strip (String.ofList (c :: l)) := by
        rw [← tables.strip_lower, tables.lower_tail '@' (c :: l) hlower]
      have hagain : dropAt (strip (String.ofList (c :: l))).toList = c :: l ↔ c ≠ '@' ∧ isSpace c = false :=
        dropAt_strip_iff hstrip
      rw [hname, normalizeTelegramUsername_some, hfixed, nonEmpty_eq_some, String.ofList_inj, hagain]
      constructor
      · rintro ⟨h, -⟩ c' l' heq
        obtain ⟨rfl, -⟩ := List.cons.inj (List.cons.inj heq).2
        exact h
      · intro h
        exact ⟨h c l rfl, by simp⟩
  · have hself : dropAt chars = chars := if_neg hat
    rw [hself]
    refine ⟨fun _ c l h => ?_, fun _ => ?_⟩
    · rw [h] at hat
      exact absurd rfl hat
    · by_cases hempty : String.ofList chars = ""
      · rw [hempty, nonEmpty, if_pos rfl]
        rfl
      · have hsome : nonEmpty (String.ofList chars) = some (String.ofList chars) := nonEmpty_eq_some.2 ⟨rfl, hempty⟩
        rw [hsome, normalizeTelegramUsername_some, hstrip, hlower, String.toList_ofList, hself, hsome]

end Username

/-! Normal forms and matches. -/

section Canonical

variable (tables : LowerTables) (kind : ContactKind) (value : String)

/-- Two values of a kind have a normal form, and the same one. -/
def SameNormalForm (stored : String) : Prop :=
  ∃ form, kind.normalize tables.toCharTables (some value) = some form ∧
    kind.normalize tables.toCharTables (some stored) = some form

/-- The normal form of the value is its own, and a match for the value finds the parties that
have a contact with this normal form, as far as the response has room. -/
structure Canonical : Prop where
  idempotent : kind.normalize tables.toCharTables (kind.normalize tables.toCharTables (some value)) =
    kind.normalize tables.toCharTables (some value)
  finds : ∀ d tenantId payload partyId, kind.given payload = some value → d.getParty tenantId partyId ≠ none →
    (Finds tables.toCharTables d tenantId payload kind partyId ↔
      HasContact d tenantId kind partyId (SameNormalForm tables kind value) ∧
        WithinLimit tables.toCharTables d tenantId payload partyId)

variable {tables kind value}

theorem normalize_again_iff :
    kind.normalize tables.toCharTables (kind.normalize tables.toCharTables (some value)) =
        kind.normalize tables.toCharTables (some value) ↔
      (kind = .telegramUsername → SingleAt tables value) := by
  have hemail : normalizeEmail tables.toCharTables (normalizeEmail tables.toCharTables (some value)) =
      normalizeEmail tables.toCharTables (some value) := by
    rcases h : normalizeEmail tables.toCharTables (some value) with _ | email
    · rfl
    · exact normalizeEmail_normalized _ h
  have hphone : normalizePhoneDigits tables.toCharTables (normalizePhoneDigits tables.toCharTables (some value)) =
      normalizePhoneDigits tables.toCharTables (some value) := by
    rcases h : normalizePhoneDigits tables.toCharTables (some value) with _ | phone
    · rfl
    · exact normalizePhoneDigits_normalized _ h
  cases kind with
  | email => exact ⟨fun _ => by simp, fun _ => hemail⟩
  | phone => exact ⟨fun _ => by simp, fun _ => hphone⟩
  | whatsapp => exact ⟨fun _ => by simp, fun _ => hphone⟩
  | telegramUsername => exact (normalizeTelegramUsername_again_iff tables value).trans ⟨fun h _ => h, fun h => h rfl⟩

end Canonical

section Example

def doubled : Directory :=
  ⟨⟨[(0, ⟨1, .person, "Client", .active, none, 0⟩)], List.nodup_singleton 0⟩,
    [⟨1, 0, .telegram, "@@client", none, true⟩]⟩

theorem doubledRequest_given :
    ∃ value ∈ [none, none, none, some "@@client", none, none].reduceOption, strip value ≠ "" :=
  ⟨"@@client", by decide, by decide⟩

def doubledRequest : PartyMatchRequest := ⟨none, none, none, some "@@client", none, none, doubledRequest_given⟩

end Example

end CoreOps.Parties
