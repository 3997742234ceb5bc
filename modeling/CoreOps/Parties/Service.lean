import CoreOps.Lib.Table
import CoreOps.Parties.Matching
import Mathlib.Data.List.Infix
import Mathlib.Data.List.Sort

/-! Parties with their contact methods, the writers of the parties service, and the
read-only match over them. Rows come in the order they were inserted; a party's creation
time is the order of the name search only. -/

namespace CoreOps.Parties

open Text

inductive PartyType
  | person
  | organization
  | soleProprietor
  deriving DecidableEq, Repr

inductive PartyStatus
  | active
  | inactive
  | archived
  deriving DecidableEq, Repr

inductive ContactMethodType
  | email
  | phone
  | mobile
  | telegram
  | whatsapp
  | other
  deriving DecidableEq, Repr

/-- `telegramUserId` is what `telegram_user_id_from_metadata` reads. -/
structure Party where
  tenantId : ℕ
  partyType : PartyType
  displayName : String
  status : PartyStatus
  telegramUserId : Option String
  createdAt : ℤ
  deriving DecidableEq, Repr

structure ContactMethod where
  tenantId : ℕ
  partyId : ℕ
  methodType : ContactMethodType
  value : String
  label : Option String
  isPrimary : Bool
  deriving DecidableEq, Repr

structure Directory where
  parties : Table ℕ Party
  contactMethods : List ContactMethod

inductive PartyError
  | notFound (message : String)
  | conflict (message : String)
  deriving DecidableEq, Repr

namespace Directory

def empty : Directory := ⟨∅, []⟩

/-- A contact method belongs to a party of its own tenant. -/
def Owned (d : Directory) : Prop :=
  ∀ m ∈ d.contactMethods, ∃ p, d.parties.get? m.partyId = some p ∧ p.tenantId = m.tenantId

/-! The repository. -/

def getParty (d : Directory) (tenantId partyId : ℕ) : Option Party :=
  (d.parties.get? partyId).filter (·.tenantId = tenantId)

def listParties (d : Directory) (tenantId skip limit : ℕ) : List (ℕ × Party) :=
  (((d.parties.rows.filter (·.2.tenantId = tenantId)).insertionSort
    fun p q => q.2.createdAt ≤ p.2.createdAt).drop skip).take limit

def listContactMethodsByTypes (d : Directory) (tenantId : ℕ) (methodTypes : List ContactMethodType) :
    List ContactMethod :=
  d.contactMethods.filter fun m => m.tenantId = tenantId ∧ m.methodType ∈ methodTypes

def addContactMethod (d : Directory) (m : ContactMethod) : Directory :=
  { d with contactMethods := d.contactMethods ++ [m] }

def addParty (d : Directory) (p : Party) : Directory := { d with parties := d.parties.add p }

end Directory

/-! The writers. Custom field values are checked elsewhere: what the check answers is an
argument. -/

structure ContactMethodCreate where
  methodType : ContactMethodType
  value : String
  label : Option String
  isPrimary : Bool
  deriving DecidableEq, Repr

structure PartyCreate where
  partyType : PartyType
  displayName : String
  status : PartyStatus
  telegramUserId : Option String
  contactMethods : List ContactMethodCreate
  deriving DecidableEq, Repr

structure PartyUpdate where
  partyType : Option PartyType
  displayName : Option String
  status : Option PartyStatus
  telegramUserId : Option (Option String)
  contactMethods : Option (List ContactMethodCreate)
  deriving DecidableEq, Repr

def replaceContactMethods (tenantId partyId : ℕ) (methods : List ContactMethodCreate) (d : Directory) : Directory :=
  methods.foldl (fun d item =>
    d.addContactMethod ⟨tenantId, partyId, item.methodType, item.value, item.label, item.isPrimary⟩) d

def createParty (tenantId : ℕ) (now : ℤ) (customFields : Except PartyError Unit) (payload : PartyCreate)
    (d : Directory) : Except PartyError Directory := do
  customFields
  let partyId := d.parties.freshKey
  let d := d.addParty
    ⟨tenantId, payload.partyType, payload.displayName, payload.status, payload.telegramUserId, now⟩
  return replaceContactMethods tenantId partyId payload.contactMethods d

def getPartyOr404 (d : Directory) (tenantId partyId : ℕ) : Except PartyError Party :=
  match d.getParty tenantId partyId with
  | some p => .ok p
  | none => .error (.notFound "Party not found")

/-- The columns that the payload gives. -/
def PartyUpdate.columns (payload : PartyUpdate) (p : Party) : Party :=
  { p with
    partyType := payload.partyType.getD p.partyType
    displayName := payload.displayName.getD p.displayName
    status := payload.status.getD p.status
    telegramUserId := payload.telegramUserId.getD p.telegramUserId }

def updateParty (tenantId partyId : ℕ) (customFields : Except PartyError Unit) (payload : PartyUpdate)
    (d : Directory) : Except PartyError Directory := do
  let _ ← getPartyOr404 d tenantId partyId
  let d := { d with parties := d.parties.modify partyId payload.columns }
  let d := match payload.contactMethods with
    | some methods => replaceContactMethods tenantId partyId methods
        { d with contactMethods := d.contactMethods.filter (·.partyId ≠ partyId) }
    | none => d
  customFields
  return d

def deleteParty (tenantId partyId : ℕ) (d : Directory) : Except PartyError Directory := do
  let _ ← getPartyOr404 d tenantId partyId
  return ⟨d.parties.filter fun id _ => id ≠ partyId, d.contactMethods.filter (·.partyId ≠ partyId)⟩

/-! The match. -/

def exactMatchLimit : ℕ := 20

def weakMatchLimit : ℕ := 5

/-- A request names something to search by. -/
structure PartyMatchRequest where
  name : Option String
  phone : Option String
  email : Option String
  telegramUsername : Option String
  telegramUserId : Option String
  whatsapp : Option String
  some_given : ∃ value ∈ [name, phone, email, telegramUsername, telegramUserId, whatsapp].reduceOption,
    strip value ≠ ""

structure PartyMatchNormalizedQuery where
  name : Option String
  phone : Option String
  email : Option String
  telegramUsername : Option String
  telegramUserId : Option String
  whatsapp : Option String
  deriving DecidableEq, Repr

structure PartyMatchHit where
  partyId : ℕ
  displayName : String
  partyType : PartyType
  status : PartyStatus
  matchType : MatchType
  score : ℤ
  matchedOn : List MatchKey
  deriving DecidableEq, Repr

structure PartyMatchResponse where
  matches_ : List PartyMatchHit
  queryNormalized : PartyMatchNormalizedQuery

/-- The keys a party matched on, by party, in the order the parties came up. -/
abbrev ExactMatches := Table ℕ (List MatchKey)

/-- `exact_matched_on[party_id].add(key)`. -/
def recordMatch (found : ExactMatches) (partyId : ℕ) (key : MatchKey) : ExactMatches :=
  (found.insert partyId []).modify partyId fun keys => if key ∈ keys then keys else keys ++ [key]

/-- One search: nothing where the query lacks the key. -/
def searchMethods (d : Directory) (tenantId : ℕ) (methodTypes : List ContactMethodType) (key : MatchKey)
    (test : Option String → Option String → Bool) (query : Option String) (found : ExactMatches) : ExactMatches :=
  if query = none then found
  else (d.listContactMethodsByTypes tenantId methodTypes).foldl (fun found m =>
    if test query (some m.value) then recordMatch found m.partyId key else found) found

def searchMetadata (tables : CharTables) (d : Directory) (tenantId : ℕ) (query : Option String)
    (found : ExactMatches) : ExactMatches :=
  if query = none then found
  else (d.parties.rows.filter (·.2.tenantId = tenantId)).foldl (fun found r =>
    if telegramUserIdsMatch tables query r.2.telegramUserId then recordMatch found r.1 .telegramUserId
    else found) found

def exactMatchedOn (tables : CharTables) (d : Directory) (tenantId : ℕ) (query : PartyMatchNormalizedQuery) :
    ExactMatches :=
  let found := searchMethods d tenantId [.email] .email (emailsMatch tables) query.email ∅
  let found := searchMethods d tenantId [.phone, .mobile] .phone (phonesMatch tables) query.phone found
  let found := searchMethods d tenantId [.whatsapp, .phone, .mobile] .whatsapp (phonesMatch tables) query.whatsapp found
  let found := searchMethods d tenantId [.telegram] .telegramUsername (telegramUsernamesMatch tables)
    query.telegramUsername found
  let found := searchMethods d tenantId [.telegram] .telegramUserId (telegramUserIdsMatch tables)
    query.telegramUserId found
  searchMetadata tables d tenantId query.telegramUserId found

/-- `sorted(keys)`: the keys in the order of their texts. -/
def sortedKeys (keys : List MatchKey) : List MatchKey :=
  [MatchKey.email, .name, .phone, .telegramUserId, .telegramUsername, .whatsapp].filter (· ∈ keys)

def buildMatchHit (partyId : ℕ) (p : Party) (matchType : MatchType) (matchedOn : List MatchKey) : PartyMatchHit :=
  ⟨partyId, p.displayName, p.partyType, p.status, matchType, scoreForMatchedOn matchedOn matchType, matchedOn⟩

/-- The hits for the first of the matched parties, those that are there. -/
def exactHits (d : Directory) (tenantId : ℕ) (found : ExactMatches) : List PartyMatchHit :=
  (found.rows.take exactMatchLimit).filterMap fun r =>
    (d.getParty tenantId r.1).map fun p => buildMatchHit r.1 p .exact_ (sortedKeys r.2)

def weakHits (tables : CharTables) (d : Directory) (tenantId : ℕ) (found : ExactMatches) :
    Option String → List PartyMatchHit
  | none => []
  | some name =>
    (((d.listParties tenantId 0 200).filter fun r => r.1 ∉ found.rows.map Prod.fst ∧
      name.toList <:+: (tables.lower r.2.displayName).toList).take weakMatchLimit).map fun r =>
        buildMatchHit r.1 r.2 .weak [.name]

def MatchType.rank : MatchType → ℕ
  | .exact_ => 0
  | .weak => 1

/-- The order of the response: exact before weak, then by score downwards, then by name. -/
def hitLE (tables : CharTables) (a b : PartyMatchHit) : Prop :=
  a.matchType.rank < b.matchType.rank ∨ a.matchType.rank = b.matchType.rank ∧
    (b.score < a.score ∨ a.score = b.score ∧ tables.lower a.displayName ≤ tables.lower b.displayName)

instance (tables : CharTables) : DecidableRel (hitLE tables) := fun a b =>
  inferInstanceAs (Decidable (a.matchType.rank < b.matchType.rank ∨ a.matchType.rank = b.matchType.rank ∧
    (b.score < a.score ∨ a.score = b.score ∧ tables.lower a.displayName ≤ tables.lower b.displayName)))

def normalizeQuery (tables : CharTables) (payload : PartyMatchRequest) : PartyMatchNormalizedQuery where
  name := normalizeName tables payload.name
  phone := normalizePhoneDigits tables payload.phone
  email := normalizeEmail tables payload.email
  telegramUsername := normalizeTelegramUsername tables payload.telegramUsername
  telegramUserId := normalizeTelegramUserId payload.telegramUserId
  whatsapp := normalizePhoneDigits tables payload.whatsapp

def matchParties (tables : CharTables) (tenantId : ℕ) (payload : PartyMatchRequest) (d : Directory) :
    PartyMatchResponse :=
  let query := normalizeQuery tables payload
  let found := exactMatchedOn tables d tenantId query
  ⟨(exactHits d tenantId found ++ weakHits tables d tenantId found query.name).insertionSort (hitLE tables), query⟩

end CoreOps.Parties
