import CoreOps.Lib.CharTables
import Mathlib.Data.Int.Notation

/-! Contact matching of the parties module: what a contact is compared by, and how a match
scores. A normalizer is applied to the query and again when the query is compared, so each
of those used here returns its own results unchanged. -/

namespace CoreOps.Parties

open Text

def minPhoneDigits : ℕ := 10

/-- The keys that a match is reported under. -/
inductive MatchKey
  | email
  | name
  | phone
  | telegramUserId
  | telegramUsername
  | whatsapp
  deriving DecidableEq, Repr

def MatchKey.value : MatchKey → String
  | .email => "email"
  | .name => "name"
  | .phone => "phone"
  | .telegramUserId => "telegram_user_id"
  | .telegramUsername => "telegram_username"
  | .whatsapp => "whatsapp"

inductive MatchType
  | exact_
  | weak
  deriving DecidableEq, Repr

/-- `EXACT_KEY_SCORE.get(key, 50)`. -/
def exactKeyScore : MatchKey → ℤ
  | .telegramUserId => 100
  | .email => 95
  | .phone => 90
  | .whatsapp => 90
  | .telegramUsername => 85
  | .name => 50

def weakNameScore : ℤ := 30

def scoreForMatchedOn (matchedOn : List MatchKey) (matchType : MatchType) : ℤ :=
  match matchType, matchedOn with
  | .weak, _ => weakNameScore
  | .exact_, [] => 0
  | .exact_, key :: keys => (keys.map exactKeyScore).foldl max (exactKeyScore key)

/-- `normalized or None`. -/
def nonEmpty (normalized : String) : Option String := if normalized = "" then none else some normalized

variable (tables : CharTables)

def normalizeEmail (value : Option String) : Option String :=
  value.bind fun value => nonEmpty (tables.lower (strip value))

/-- A leading 8 of eleven digits reads as 7. -/
def nationalDigits (digits : List Char) : List Char :=
  if digits.length = 11 ∧ digits.head? = some '8' then '7' :: digits.tail else digits

def normalizePhoneDigits (value : Option String) : Option String :=
  value.bind fun value =>
    let digits := (strip value).toList.filter tables.isDecimal
    if digits = [] then none
    else
      let digits := nationalDigits digits
      if digits.length < minPhoneDigits then none else some (String.ofList digits)

def normalizeTelegramUsername (value : Option String) : Option String :=
  value.bind fun value =>
    let normalized := tables.lower (strip value)
    nonEmpty (if normalized.toList.head? = some '@' then String.ofList normalized.toList.tail else normalized)

def normalizeTelegramUserId (value : Option String) : Option String :=
  value.bind fun value => nonEmpty (strip value)

def normalizeName (value : Option String) : Option String :=
  value.bind fun value => nonEmpty (tables.lower (strip value))

/-- `bool(a and b and a == b)`, where no normalizer returns an empty text. -/
def agree : Option String → Option String → Bool
  | some a, some b => a = b
  | _, _ => false

def phonesMatch (left right : Option String) : Bool :=
  agree (normalizePhoneDigits tables left) (normalizePhoneDigits tables right)

def emailsMatch (left right : Option String) : Bool :=
  agree (normalizeEmail tables left) (normalizeEmail tables right)

def telegramUsernamesMatch (left right : Option String) : Bool :=
  agree (normalizeTelegramUsername tables left) (normalizeTelegramUsername tables right)

/-- Telegram user ids are numeric. -/
def looksLikeTelegramUserId (value : Option String) : Bool :=
  match normalizeTelegramUserId value with
  | some normalized => normalized.toList.all tables.isDigit
  | none => false

def telegramUserIdsMatch (left right : Option String) : Bool :=
  let a := normalizeTelegramUserId left
  let b := normalizeTelegramUserId right
  agree a b && looksLikeTelegramUserId tables a && looksLikeTelegramUserId tables b

theorem agree_iff {a b : Option String} : agree a b = true ↔ ∃ v, a = some v ∧ b = some v := by
  rcases a with - | a <;> rcases b with - | b <;> simp [agree, eq_comm]

theorem nonEmpty_eq_some {s v : String} : nonEmpty s = some v ↔ s = v ∧ v ≠ "" := by
  unfold nonEmpty
  by_cases h : s = ""
  · subst h
    simp +contextual [eq_comm]
  · rw [if_neg h, Option.some.injEq]
    exact ⟨fun he => ⟨he, he ▸ h⟩, fun he => he.1⟩

/-- Comparing a normalized e-mail compares the normalized e-mails. -/
theorem normalizeEmail_normalized {value : Option String} {email : String}
    (h : normalizeEmail tables value = some email) : normalizeEmail tables (some email) = some email := by
  obtain ⟨raw, rfl, h⟩ := Option.bind_eq_some_iff.1 h
  obtain ⟨rfl, hne⟩ := nonEmpty_eq_some.1 h
  refine nonEmpty_eq_some.2 ⟨?_, hne⟩
  rw [tables.strip_lower, strip_strip, tables.lower_lower]

theorem mem_nationalDigits {digits : List Char} (h : ∀ c ∈ digits, tables.isDecimal c = true) :
    ∀ c ∈ nationalDigits digits, tables.isDecimal c = true := by
  unfold nationalDigits
  intro c hc
  split at hc
  · rcases List.mem_cons.1 hc with rfl | hc
    · exact tables.isDecimal_digit 7 (by omega)
    · exact h c (List.mem_of_mem_tail hc)
  · exact h c hc

theorem nationalDigits_nationalDigits (digits : List Char) :
    nationalDigits (nationalDigits digits) = nationalDigits digits := by
  by_cases h : digits.length = 11 ∧ digits.head? = some '8'
  · have hseven : nationalDigits digits = '7' :: digits.tail := if_pos h
    rw [hseven, nationalDigits, if_neg (by simp)]
  · have hself : nationalDigits digits = digits := if_neg h
    rw [hself, hself]

theorem normalizePhoneDigits_normalized {value : Option String} {phone : String}
    (h : normalizePhoneDigits tables value = some phone) :
    normalizePhoneDigits tables (some phone) = some phone := by
  obtain ⟨raw, rfl, h⟩ := Option.bind_eq_some_iff.1 h
  set digits := (strip raw).toList.filter tables.isDecimal with hdigits
  have hdecimal : ∀ c ∈ nationalDigits digits, tables.isDecimal c = true :=
    mem_nationalDigits tables fun c hc => (List.mem_filter.1 hc).2
  by_cases hnone : digits = []
  · simp [hnone] at h
  · by_cases hshort : (nationalDigits digits).length < minPhoneDigits
    · simp [hnone, hshort] at h
    · simp only [hnone, hshort, if_false, Option.some.injEq] at h
      subst h
      have hne : nationalDigits digits ≠ [] := by
        intro hnil
        simp [hnil, minPhoneDigits] at hshort
      have hstrip := strip_eq_self fun c hc => tables.isSpace_of_isDecimal c (hdecimal c hc)
      have hfilter := List.filter_eq_self.2 hdecimal
      simp only [normalizePhoneDigits, Option.bind_some, hstrip, String.toList_ofList, hfilter, hne, if_false,
        nationalDigits_nationalDigits, hshort]

end CoreOps.Parties
