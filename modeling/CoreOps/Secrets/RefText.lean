import Mathlib.Data.List.Chain
import CoreOps.Lib.JsonText
import CoreOps.Lib.UrlSplit
import CoreOps.Lib.UuidText
import CoreOps.Publishers.Texts
import CoreOps.Secrets.Interchange

/-! The text of a reference to a secret version: how it is rendered, and which texts are parsed
as one. A rendered reference is parsed as itself; a text goes through a general parser of
addresses first, and passes with what that lets pass. -/

namespace CoreOps.Secrets

open Checked Text UrlSplit Publishers

inductive SecretRefException
  | secretRefValidationError (code : String)
  | valueError
  deriving DecidableEq, Repr

def schemeText : List Char := "secret".toList

def netlocText : List Char := "marketing".toList

def tenantsText : List Char := "/tenants/".toList

def connectionsText : List Char := "/publishing-connections/".toList

def versionsText : List Char := "/versions/".toList

/-- The path of a reference, with the texts of its identifiers. -/
def pathText (tenantId connectionId version : List Char) : List Char :=
  tenantsText ++ (tenantId ++ (connectionsText ++ (connectionId ++ (versionsText ++ version))))

/-- The text of a reference, with the texts of its identifiers. -/
def refText (tenantId connectionId version : List Char) : List Char :=
  schemeText ++ ':' :: '/' :: '/' :: (netlocText ++ pathText tenantId connectionId version)

def versionText (version : ℕ+) : List Char := Nat.toDigits 10 version

/-- `SecretRef.render`. -/
def SecretRef.render (ref : SecretRef) : List Char :=
  refText (UuidText.text ref.tenantId) (UuidText.text ref.connectionId) (versionText ref.version)

theorem toList_uuidDigits (id : Uuid) {start length : ℕ} (h : start + length ≤ 32) :
    (uuidDigits id start length).toList =
      (((Positional.write 32 id.toNat).map UuidText.hexDigit).drop start).take length := by
  rw [uuidDigits, String.toList_ofList, Positional.write_eq_map]
  apply List.ext_getElem
  · simp
    omega
  · intro i _ _
    simp [UuidText.hexDigit]

theorem toList_uuidText (id : Uuid) : (uuidText id).toList = UuidText.text id := by
  have hdash : "-".toList = ['-'] := by decide
  simp only [uuidText, String.toList_append, hdash, UuidText.text, UuidText.groups,
    UuidText.hyphenate, List.drop_drop, List.append_assoc, List.singleton_append]
  rw [toList_uuidDigits id (by decide : 0 + 8 ≤ 32), toList_uuidDigits id (by decide : 8 + 4 ≤ 32),
    toList_uuidDigits id (by decide : 12 + 4 ≤ 32), toList_uuidDigits id (by decide : 16 + 4 ≤ 32),
    toList_uuidDigits id (by decide : 20 + 12 ≤ 32)]
  generalize (Positional.write 32 id.toNat).map UuidText.hexDigit = ds
  rfl

/-- The port's text of a reference is the one that is parsed. -/
theorem toList_render (ref : SecretRef) : (render ref).toList = ref.render := by
  have hfront : "secret://marketing/tenants/".toList =
      schemeText ++ ':' :: '/' :: '/' :: (netlocText ++ tenantsText) := by
    unfold schemeText netlocText tenantsText
    decide
  have hversion : (Nat.repr ref.version).toList = versionText ref.version := String.toList_ofList
  unfold render
  rw [String.toList_append, String.toList_append, String.toList_append, String.toList_append, String.toList_append,
    toList_uuidText, toList_uuidText, hversion, hfront]
  unfold SecretRef.render refText pathText connectionsText versionsText
  generalize schemeText = scheme, netlocText = netloc, tenantsText = tenants
  simp only [List.append_assoc, List.cons_append]

/-! `_TOKEN_LIKE_RE`. -/

/-- A character of `[A-Za-z0-9_-]`, without regard to case. -/
def isTokenChar (c : Char) : Bool := isSchemeChar (Marketing.foldCase c) && c ≠ '+' && c ≠ '.' || c = '_'

def isTokenAlnum (c : Char) : Bool := isTokenChar c && c ≠ '_' && c ≠ '-'

/-- A run of a class, of at least `n` characters. -/
def afterRun (p : Char → Bool) (n : ℕ) (cs : List Char) : Option (List Char) :=
  if n ≤ (cs.takeWhile p).length then some (cs.dropWhile p) else none

/-- `eyJ[A-Za-z0-9_-]{10,}\.[A-Za-z0-9_-]+\.` -/
def afterJwt (cs : List Char) : Option (List Char) := do
  let cs ← afterText "eyj" cs
  let cs ← afterRun isTokenChar 10 cs
  let cs ← afterText "." cs
  let cs ← afterRun isTokenChar 1 cs
  afterText "." cs

/-- `sk-[A-Za-z0-9]{16,}` -/
def afterApiKey (cs : List Char) : Option (List Char) := do
  let cs ← afterText "sk-" cs
  afterRun isTokenAlnum 16 cs

def startsToken (cs : List Char) : Bool :=
  (afterBearer cs).isSome || (afterJwt cs).isSome || (afterApiKey cs).isSome

/-- A search behind the character `last`; `isWord` is the class of `\w`, and a token begins at
the border of a word. -/
def hasToken (isWord : Char → Bool) : (last : Option Char) → List Char → Bool
  | _, [] => false
  | last, c :: cs => (last.any isWord != isWord c && startsToken (c :: cs)) || hasToken isWord (some c) cs

/-- `raw.casefold().startswith("bearer ")`. -/
def startsBearer (raw : List Char) : Bool := (raw.take 7).map Marketing.foldCase = "bearer ".toList

/-! Parsing. -/

def dropPrefix? (front cs : List Char) : Option (List Char) :=
  if front.isPrefixOf cs then some (cs.drop front.length) else none

/-- `(?P<version>[1-9][0-9]*)$`; the end may be before a line break. -/
def readVersion (cs : List Char) : Option ℕ+ :=
  let ds := if cs.getLast? = some '\n' then cs.dropLast else cs
  if ds.all Char.isDigit ∧ ds.head? ≠ some '0' then
    let n := Nat.ofDigitChars 10 ds 0
    if h : 0 < n then some ⟨n, h⟩ else none
  else none

/-- `_PATH_RE.match`, with the groups as they are used. -/
def matchPath (path : List Char) : Option SecretRef := do
  let path ← dropPrefix? tenantsText path
  let (tenantId, path) ← UuidText.take path
  let path ← dropPrefix? connectionsText path
  let (connectionId, path) ← UuidText.take path
  let path ← dropPrefix? versionsText path
  let version ← readVersion path
  return buildSecretRef tenantId connectionId version

/-- What is before the last at sign. -/
def userinfo (netloc : List Char) : List Char := (netloc.reverse.dropWhile (· ≠ '@')).tail.reverse

/-- `parts.username` and `parts.password`. -/
def credentials (netloc : List Char) : List Char × List Char := cut ':' (userinfo netloc)

/-- What the parser takes from the interpreter. -/
structure RefTables where
  isWord : Char → Bool
  checks : NetlocChecks

/-- A constructed reference is short enough to be stored. -/
def SecretRef.checked (ref : SecretRef) : Except SecretRefException SecretRef := do
  raiseIf (maxLen < ref.render.length) (.secretRefValidationError "secret_ref_too_long")
  return ref

def parseSecretRef (tables : RefTables) (value : String) : Except SecretRefException SecretRef := do
  let raw := (strip value).toList
  raiseIf (raw = []) (.secretRefValidationError "secret_ref_empty")
  raiseIf (maxLen < raw.length) (.secretRefValidationError "secret_ref_too_long")
  raiseIf (hasToken tables.isWord none raw = true ∨ startsBearer raw = true)
    (.secretRefValidationError "secret_ref_looks_like_token")
  let parts ← orRaise (urlsplit tables.checks raw) .valueError
  raiseIf (parts.scheme ≠ schemeText) (.secretRefValidationError "secret_ref_invalid_scheme")
  raiseIf (parts.netloc ≠ netlocText) (.secretRefValidationError "secret_ref_invalid_authority")
  raiseIf (parts.query ≠ [] ∨ parts.fragment ≠ [] ∨ credentials parts.netloc ≠ ([], []))
    (.secretRefValidationError "secret_ref_forbidden_components")
  let ref ← orRaise (matchPath parts.path) (.secretRefValidationError "secret_ref_invalid_path")
  ref.checked

/-! The parts of a text. -/

section Parts

variable {front cs rest : List Char}

theorem dropPrefix?_eq_some : dropPrefix? front cs = some rest ↔ cs = front ++ rest := by
  unfold dropPrefix?
  constructor
  · intro h
    split_ifs at h with hprefix
    obtain ⟨tail, rfl⟩ := List.isPrefixOf_iff_prefix.1 hprefix
    rw [List.drop_left] at h
    rw [Option.some.inj h]
  · rintro rfl
    rw [if_pos (List.isPrefixOf_iff_prefix.2 (List.prefix_append _ _)), List.drop_left]

theorem digitChar_of_isDigit {c : Char} (h : c.isDigit = true) :
    c.toNat - 48 < 10 ∧ Nat.digitChar (c.toNat - 48) = c := by
  have hrange : 48 ≤ c.toNat ∧ c.toNat ≤ 57 := Char.isDigit_iff_toNat.1 h
  have hall : ∀ i < 10, Nat.digitChar i = Char.ofNat (48 + i) := by decide
  refine ⟨by omega, ?_⟩
  rw [hall _ (by omega), show 48 + (c.toNat - 48) = c.toNat by omega, Char.ofNat_toNat]

/-- Digits without a zero in front are those of the number they stand for. -/
theorem toDigits_ofDigitChars {ds : List Char} (hds : ∀ c ∈ ds, c.isDigit = true) (hne : ds ≠ [])
    (hzero : ds.head? ≠ some '0') : 0 < Nat.ofDigitChars 10 ds 0 ∧ Nat.toDigits 10 (Nat.ofDigitChars 10 ds 0) = ds := by
  induction ds using List.reverseRecOn with
  | nil => exact absurd rfl hne
  | append_singleton ds c ih =>
    obtain ⟨hlt, hchar⟩ := digitChar_of_isDigit (hds c (by simp))
    have hlast : Nat.ofDigitChars 10 (ds ++ [c]) 0 = 10 * Nat.ofDigitChars 10 ds 0 + (c.toNat - 48) := by
      rw [Nat.ofDigitChars_append, Nat.ofDigitChars_cons, Nat.ofDigitChars_nil]
      rfl
    rw [hlast]
    by_cases hnil : ds = []
    · subst hnil
      have hc : c ≠ '0' := fun hc => hzero (by rw [hc]; rfl)
      have hpos : 0 < c.toNat - 48 := by
        by_contra hpos
        rw [show c.toNat - 48 = 0 by omega] at hchar
        exact hc hchar.symm
      rw [Nat.ofDigitChars_nil, Nat.mul_zero, Nat.zero_add, Nat.toDigits_of_lt_base hlt, hchar]
      exact ⟨hpos, rfl⟩
    · have hhead : ds.head? ≠ some '0' := by
        rwa [List.head?_append_of_ne_nil _ hnil] at hzero
      obtain ⟨hpos, hdigits⟩ := ih (fun d hd => hds d (List.mem_append_left _ hd)) hnil hhead
      rw [← Nat.toDigits_append_toDigits (by decide) hpos hlt, hdigits, Nat.toDigits_of_lt_base hlt, hchar]
      exact ⟨by omega, rfl⟩

theorem readVersion_versionText (version : ℕ+) : readVersion (versionText version) = some version := by
  have hdigits : ∀ c ∈ versionText version, c.isDigit = true := fun c => Json.isDigit_of_mem
  have hlast : (versionText version).getLast? ≠ some '\n' := fun h => absurd (hdigits _ (List.mem_of_getLast? h)) (by decide)
  have hhead : (versionText version).head? ≠ some '0' := by
    intro h
    obtain ⟨ds, hds⟩ := List.head?_eq_some_iff.1 h
    exact version.pos.ne' (Json.toDigits_zero_head hds).1
  have hvalue : Nat.ofDigitChars 10 (versionText version) 0 = version := Nat.ofDigitChars_ten_toDigits
  simp only [readVersion, if_neg hlast, hvalue, dif_pos version.pos]
  rw [if_pos ⟨List.all_eq_true.2 hdigits, hhead⟩]
  rfl

theorem eq_versionText_of_readVersion {version : ℕ+} (hbreak : '\n' ∉ cs) (h : readVersion cs = some version) :
    cs = versionText version := by
  have hlast : cs.getLast? ≠ some '\n' := fun h => hbreak (List.mem_of_getLast? h)
  have hds : readVersion cs = if cs.all Char.isDigit ∧ cs.head? ≠ some '0' then
      (if h : 0 < Nat.ofDigitChars 10 cs 0 then some ⟨_, h⟩ else none) else none := by
    rw [readVersion, if_neg hlast]
  rw [hds] at h
  split_ifs at h with hdigits hpos
  obtain rfl := Option.some.inj h
  have hne : cs ≠ [] := by
    rintro rfl
    exact absurd hpos (by decide)
  exact (toDigits_ofDigitChars (List.all_eq_true.1 hdigits.1) hne hdigits.2).2.symm

/-- A path is parsed as a reference when it has the texts of its identifiers, up to the case
of their letters, and its version. -/
theorem matchPath_eq_some {path : List Char} {ref : SecretRef} (hbreak : '\n' ∉ path) :
    matchPath path = some ref ↔ ∃ tenantId connectionId,
      tenantId.map asciiLowerChar = UuidText.text ref.tenantId ∧
      connectionId.map asciiLowerChar = UuidText.text ref.connectionId ∧
      path = pathText tenantId connectionId (versionText ref.version) := by
  simp only [matchPath, Option.bind_eq_bind, Option.bind_eq_some_iff, dropPrefix?_eq_some, UuidText.take_eq_some,
    Prod.exists, Option.pure_def, Option.some.injEq, buildSecretRef]
  constructor
  · rintro ⟨path₁, rfl, tenantId, path₂, ⟨front₁, rfl, h₁⟩, path₃, rfl, connectionId, path₄, ⟨front₂, rfl, h₂⟩, path₅, rfl,
      version, hversion, rfl⟩
    have hbreak' : '\n' ∉ path₅ := fun h => hbreak (by simp [h])
    exact ⟨front₁, front₂, h₁, h₂, by rw [pathText, eq_versionText_of_readVersion hbreak' hversion]⟩
  · rintro ⟨front₁, front₂, h₁, h₂, rfl⟩
    exact ⟨_, rfl, ref.tenantId, _, ⟨front₁, rfl, h₁⟩, _, rfl, ref.connectionId, _, ⟨front₂, rfl, h₂⟩, _, rfl,
      ref.version, readVersion_versionText _, rfl⟩

end Parts

/-! The characters of a rendered reference. -/

theorem forall_mem_of_all {P : Char → Prop} [DecidablePred P] {cs : List Char} (h : (cs.all fun c => decide (P c)) = true) :
    ∀ c ∈ cs, P c := fun c hc => of_decide_eq_true (List.all_eq_true.1 h c hc)

def refChars : List Char := "0123456789abcdefghiklmnoprstuv:/-".toList

theorem refChars_facts : ∀ c ∈ refChars, isSpace c = false ∧ isPlain c = true ∧ Marketing.foldCase c = c ∧ c ≠ 'y' :=
  forall_mem_of_all (by decide)

theorem mem_hyphenate {ns : List ℕ} {cs : List Char} {c : Char} (h : c ∈ UuidText.hyphenate ns cs) :
    c = '-' ∨ c ∈ cs := by
  induction ns generalizing cs with
  | nil => cases h
  | cons n ns ih =>
    cases ns with
    | nil => exact .inr (List.mem_of_mem_take h)
    | cons m ns =>
      rcases List.mem_append.1 h with h | h
      · exact .inr (List.mem_of_mem_take h)
      · rcases List.mem_cons.1 h with h | h
        · exact .inl h
        · exact (ih h).imp_right List.mem_of_mem_drop

/-- The characters of a UUID and of a version. -/
def hexChars : List Char := "0123456789abcdef-".toList

theorem mem_hexChars_of_text {id : Uuid} {c : Char} (h : c ∈ UuidText.text id) : c ∈ hexChars := by
  have hdigits : ∀ d : Fin 16, UuidText.hexDigit d ∈ hexChars := by decide
  rcases mem_hyphenate h with rfl | h
  · decide
  · obtain ⟨d, -, rfl⟩ := List.mem_map.1 h
    exact hdigits d

theorem mem_hexChars_of_versionText {version : ℕ+} {c : Char} (h : c ∈ versionText version) : c ∈ hexChars := by
  have hdigits : ∀ i < 10, Nat.digitChar i ∈ hexChars := by decide
  obtain ⟨hlt, hchar⟩ := digitChar_of_isDigit (Json.isDigit_of_mem h)
  rw [← hchar]
  exact hdigits _ hlt

/-- What holds of the fixed parts and of the characters in between holds of the whole. -/
theorem forall_mem_refText {P : Char → Prop} {tenantId connectionId version : List Char}
    (hfixed : ∀ c ∈ schemeText ++ ':' :: '/' :: '/' :: (netlocText ++ tenantsText ++ connectionsText ++ versionsText), P c)
    (h₁ : ∀ c ∈ tenantId, P c) (h₂ : ∀ c ∈ connectionId, P c) (h₃ : ∀ c ∈ version, P c) :
    ∀ c ∈ refText tenantId connectionId version, P c := by
  intro c hc
  simp only [refText, pathText, List.mem_append, List.mem_cons] at hc hfixed
  grind

theorem mem_refChars_of_render {ref : SecretRef} {c : Char} (h : c ∈ ref.render) : c ∈ refChars := by
  have hhex : ∀ c ∈ hexChars, c ∈ refChars := forall_mem_of_all (by decide)
  refine forall_mem_refText (P := (· ∈ refChars)) (forall_mem_of_all (by decide)) ?_ ?_ ?_ c h
  · exact fun c hc => hhex c (mem_hexChars_of_text hc)
  · exact fun c hc => hhex c (mem_hexChars_of_text hc)
  · exact fun c hc => hhex c (mem_hexChars_of_versionText hc)

/-! No rendered reference looks like a token. -/

theorem afterSome_isSpace {cs : List Char} (hchars : ∀ c ∈ cs, c ∈ refChars) : afterSome isSpace cs = none := by
  have htake : cs.takeWhile isSpace = [] := by
    cases cs with
    | nil => rfl
    | cons c cs => rw [List.takeWhile_cons_of_neg (by simp [(refChars_facts c (hchars c List.mem_cons_self)).1])]
  rw [afterSome, htake]
  rfl

theorem map_foldCase {cs : List Char} (hchars : ∀ c ∈ cs, c ∈ refChars) : cs.map Marketing.foldCase = cs := by
  rw [List.map_congr_left fun c hc => (refChars_facts c (hchars c hc)).2.2.1, List.map_id']

theorem startsToken_eq_false {c : Char} {cs : List Char} (hchars : ∀ d ∈ c :: cs, d ∈ refChars)
    (hkey : ¬ ['s', 'k'] <+: c :: cs) : startsToken (c :: cs) = false := by
  have htake : ∀ n, ((c :: cs).take n).map Marketing.foldCase = (c :: cs).take n :=
    fun n => map_foldCase fun d hd => hchars d (List.mem_of_mem_take hd)
  have hbearer : afterBearer (c :: cs) = none := by
    cases htext : afterText "bearer" (c :: cs) with
    | none => rw [afterBearer, htext]; rfl
    | some rest =>
      unfold afterText at htext
      split_ifs at htext
      have hrest : ∀ d ∈ rest, d ∈ refChars := by
        rw [← Option.some.inj htext]
        exact fun d hd => hchars d (List.mem_of_mem_drop hd)
      rw [afterBearer, afterText, if_pos ‹_›, htext]
      simp [afterSome_isSpace hrest]
  have hjwt : afterText "eyj" (c :: cs) = none := by
    rw [afterText, if_neg]
    intro h
    rw [htake] at h
    have hy : 'y' ∈ (c :: cs).take "eyj".length := by rw [h]; decide
    exact (refChars_facts 'y' (hchars 'y' (List.mem_of_mem_take hy))).2.2.2 rfl
  have hapi : afterText "sk-" (c :: cs) = none := by
    rw [afterText, if_neg]
    intro h
    rw [htake] at h
    refine hkey (List.IsPrefix.trans ?_ (List.take_prefix "sk-".length (c :: cs)))
    rw [h]
    decide
  simp [startsToken, hbearer, afterJwt, hjwt, afterApiKey, hapi]

/-- Each k stands behind an r. -/
def BehindR (a b : Char) : Prop := b = 'k' → a = 'r'

instance : DecidableRel BehindR := fun a b => inferInstanceAs (Decidable (b = 'k' → a = 'r'))

theorem hasToken_eq_false {isWord : Char → Bool} {last : Option Char} {cs : List Char}
    (hchars : ∀ c ∈ cs, c ∈ refChars) (hchain : cs.IsChain BehindR) : hasToken isWord last cs = false := by
  induction cs generalizing last with
  | nil => rfl
  | cons c cs ih =>
    have hkey : ¬ ['s', 'k'] <+: c :: cs := by
      rintro ⟨rest, hrest⟩
      rw [← hrest] at hchain
      have h := (List.isChain_cons_cons.1 hchain).1 rfl
      exact absurd h (by decide)
    rw [hasToken, startsToken_eq_false hchars hkey, Bool.and_false, Bool.false_or]
    exact ih (fun d hd => hchars d (List.mem_cons_of_mem _ hd)) hchain.tail

theorem isChain_of_notMem {cs : List Char} (h : 'k' ∉ cs) : cs.IsChain BehindR := by
  induction cs with
  | nil => exact .nil
  | cons c cs ih =>
    rw [List.mem_cons, not_or] at h
    cases cs with
    | nil => exact .singleton _
    | cons d cs => exact .cons_cons (fun hd => absurd (List.mem_cons.2 (.inl hd.symm)) h.2) (ih h.2)

theorem isChain_render (ref : SecretRef) : ref.render.IsChain BehindR := by
  have hhex : 'k' ∉ hexChars := by decide
  have hpath : 'k' ∉ pathText (UuidText.text ref.tenantId) (UuidText.text ref.connectionId) (versionText ref.version) := by
    simp only [pathText, List.mem_append, not_or]
    exact ⟨by decide, fun h => hhex (mem_hexChars_of_text h), by decide, fun h => hhex (mem_hexChars_of_text h), by decide,
      fun h => hhex (mem_hexChars_of_versionText h)⟩
  have hfront : (schemeText ++ ':' :: '/' :: '/' :: netlocText).IsChain BehindR := by decide
  have hsplit : ref.render = (schemeText ++ ':' :: '/' :: '/' :: netlocText) ++
      pathText (UuidText.text ref.tenantId) (UuidText.text ref.connectionId) (versionText ref.version) := rfl
  rw [hsplit, List.isChain_append]
  refine ⟨hfront, isChain_of_notMem hpath, fun a _ b hb hk => ?_⟩
  exact absurd (List.mem_of_mem_head? (hk ▸ hb)) hpath

/-! The texts that are parsed. -/

variable {tables : RefTables}

/-- A text with the scheme and nothing to let pass is split at its delimiters. -/
theorem urlsplit_secret (checks : NetlocChecks) {rest : List Char} (hrest : ∀ c ∈ rest, isPlain c = true) :
    urlsplit checks (schemeText ++ ':' :: '/' :: '/' :: rest) =
      if checks.refuses (rest.takeWhile fun c => !isDelimiter c) then none
      else some ⟨schemeText, rest.takeWhile fun c => !isDelimiter c, rest.dropWhile fun c => !isDelimiter c, [], []⟩ :=
  urlsplit_plain (c := 's') (by decide) (forall_mem_of_all (by decide)) hrest

theorem netloc_of_path {path : List Char} (hpath : path.head? = some '/') :
    (netlocText ++ path).takeWhile (fun c => !isDelimiter c) = netlocText ∧
      (netlocText ++ path).dropWhile (fun c => !isDelimiter c) = path := by
  obtain ⟨tail, rfl⟩ := List.head?_eq_some_iff.1 hpath
  have hnetloc : ∀ c ∈ netlocText, (!isDelimiter c) = true := List.all_eq_true.1 (by decide)
  constructor
  · rw [List.takeWhile_append_of_pos hnetloc, List.takeWhile_cons_of_neg (by decide), List.append_nil]
  · rw [List.dropWhile_append_of_pos hnetloc, List.dropWhile_cons_of_neg (by decide)]

/-- Every reference that can be constructed is parsed from its text. -/
theorem parseSecretRef_render {ref : SecretRef} (h : ref.render.length ≤ maxLen) :
    parseSecretRef tables (String.ofList ref.render) = .ok ref := by
  have hchars : ∀ c ∈ ref.render, c ∈ refChars := fun c => mem_refChars_of_render
  have hplain : ∀ c ∈ ref.render, isPlain c = true := fun c hc => (refChars_facts c (hchars c hc)).2.1
  have hstrip : (strip (String.ofList ref.render)).toList = ref.render := by
    rw [strip_eq_self fun c hc => (refChars_facts c (hchars c hc)).1, String.toList_ofList]
  have hbearer : startsBearer ref.render = false := by
    have hfold : (ref.render.take 7).map Marketing.foldCase = ref.render.take 7 :=
      map_foldCase fun c hc => hchars c (List.mem_of_mem_take hc)
    rw [startsBearer, hfold]
    rfl
  let path := pathText (UuidText.text ref.tenantId) (UuidText.text ref.connectionId) (versionText ref.version)
  have hrest : ∀ c ∈ netlocText ++ path, isPlain c = true :=
    fun c hc => hplain c (List.mem_append_right _ (by simp [path, hc]))
  have hslash : path.head? = some '/' := rfl
  obtain ⟨htake, hdrop⟩ := netloc_of_path hslash
  have hsplit : urlsplit tables.checks ref.render = some ⟨schemeText, netlocText, path, [], []⟩ := by
    have hurl : ref.render = schemeText ++ ':' :: '/' :: '/' :: (netlocText ++ path) := rfl
    rw [hurl, urlsplit_secret _ hrest, htake, hdrop]
    rfl
  have hbreak : '\n' ∉ path := fun hmem => absurd (hrest _ (List.mem_append_right _ hmem)) (by decide)
  have hmatch : matchPath path = some ref := (matchPath_eq_some hbreak).2
    ⟨_, _, UuidText.map_asciiLowerChar_text _, UuidText.map_asciiLowerChar_text _, rfl⟩
  simp only [parseSecretRef, hstrip, bind_eq_ok, raiseIf_eq_ok, orRaise_eq_ok, exists_const, SecretRef.checked,
    pure_eq_ok]
  refine ⟨List.cons_ne_nil _ _, by omega, ?_, _, hsplit, by simp, by simp, by simp; decide, ref, hmatch, by omega, rfl⟩
  rw [hasToken_eq_false hchars (isChain_render ref), hbearer]
  decide

/-- The text is the rendered reference, up to the case of the hexadecimal digits. -/
def RendersTo (raw : List Char) (ref : SecretRef) : Prop :=
  ∃ tenantId connectionId, tenantId.map asciiLowerChar = UuidText.text ref.tenantId ∧
    connectionId.map asciiLowerChar = UuidText.text ref.connectionId ∧
    raw = refText tenantId connectionId (versionText ref.version)

/-- The text begins with the scheme in lower case, and has no query, no fragment, no tab and
no line break. -/
def LetsNothingPass (raw : List Char) : Prop :=
  schemeText ++ [':', '/', '/'] <+: raw ∧ ∀ c ∈ raw, isPlain c = true

instance (raw : List Char) : Decidable (LetsNothingPass raw) :=
  decidable_of_iff (schemeText ++ [':', '/', '/'] <+: raw ∧ raw.all isPlain = true)
    (and_congr_right fun _ => List.all_eq_true)

theorem isPlain_of_asciiLowerChar {c : Char} (h : isPlain (asciiLowerChar c) = true) : isPlain c = true := by
  by_cases hupper : 65 ≤ c.toNat ∧ c.toNat ≤ 90
  · have hne : ∀ d : Char, d.toNat < 65 → c ≠ d := by
      rintro d hd rfl
      omega
    simp [isPlain, isUnsafe, hne '\t' (by decide), hne '\r' (by decide), hne '\n' (by decide), hne '?' (by decide),
      hne '#' (by decide)]
  · rwa [asciiLowerChar, if_neg hupper] at h

theorem isPlain_of_map {front : List Char} {id : Uuid} (h : front.map asciiLowerChar = UuidText.text id) :
    ∀ c ∈ front, isPlain c = true := by
  have hhex : ∀ c ∈ hexChars, isPlain c = true := List.all_eq_true.1 (by decide)
  intro c hc
  exact isPlain_of_asciiLowerChar (hhex _ (mem_hexChars_of_text (h ▸ List.mem_map_of_mem hc)))

theorem letsNothingPass_of_rendersTo {raw : List Char} {ref : SecretRef} (h : RendersTo raw ref) :
    LetsNothingPass raw := by
  have hhex : ∀ c ∈ hexChars, isPlain c = true := List.all_eq_true.1 (by decide)
  obtain ⟨tenantId, connectionId, h₁, h₂, rfl⟩ := h
  refine ⟨⟨_, by rw [refText, List.append_assoc]; rfl⟩, ?_⟩
  exact forall_mem_refText (List.all_eq_true.1 (by decide)) (isPlain_of_map h₁) (isPlain_of_map h₂)
    fun c hc => hhex c (mem_hexChars_of_versionText hc)

/-- What a text has been taken apart to when it is accepted. -/
theorem parts_of_parseSecretRef {value : String} {ref : SecretRef} (h : parseSecretRef tables value = .ok ref) :
    ∃ parts, urlsplit tables.checks (strip value).toList = some parts ∧ parts.netloc = netlocText ∧
      matchPath parts.path = some ref := by
  simp only [parseSecretRef, bind_eq_ok, raiseIf_eq_ok, orRaise_eq_ok, exists_const, SecretRef.checked, pure_eq_ok,
    ne_eq, not_not] at h
  obtain ⟨-, -, -, parts, hsplit, -, hnetloc, -, ref', hmatch, -, rfl⟩ := h
  exact ⟨parts, hsplit, hnetloc, hmatch⟩

theorem rendersTo_of_letsNothingPass {value : String} {ref : SecretRef} (h : parseSecretRef tables value = .ok ref)
    (hpass : LetsNothingPass (strip value).toList) : RendersTo (strip value).toList ref := by
  obtain ⟨parts, hsplit, hnetloc, hmatch⟩ := parts_of_parseSecretRef h
  obtain ⟨⟨rest, hraw⟩, hplain⟩ := hpass
  rw [List.append_assoc] at hraw
  rw [← hraw] at hsplit hplain ⊢
  have hrest : ∀ c ∈ rest, isPlain c = true := fun c hc => hplain c (by simp [hc])
  have hsplit' := urlsplit_secret tables.checks hrest
  rw [show schemeText ++ ':' :: '/' :: '/' :: rest = schemeText ++ ([':', '/', '/'] ++ rest) from rfl, hsplit] at hsplit'
  split_ifs at hsplit'
  obtain rfl := Option.some.inj hsplit'
  have hbreak : '\n' ∉ rest.dropWhile fun c => !isDelimiter c :=
    fun hmem => absurd (hrest _ ((List.dropWhile_sublist _).subset hmem)) (by decide)
  obtain ⟨tenantId, connectionId, h₁, h₂, hpath⟩ := (matchPath_eq_some hbreak).1 hmatch
  refine ⟨tenantId, connectionId, h₁, h₂, ?_⟩
  have hjoin := List.takeWhile_append_dropWhile (p := fun c => !isDelimiter c) (l := rest)
  rw [refText, ← hpath, ← hnetloc]
  exact congrArg (fun rest => schemeText ++ ':' :: '/' :: '/' :: rest) hjoin.symm

/-- A reference is parsed from its text. A text that is accepted is that of its reference, up
to the case of the hexadecimal digits, when it has nothing that the parser of addresses lets
pass. -/
theorem parseSecretRef_grammar (tables : RefTables) :
    (∀ ref : SecretRef, ref.render.length ≤ maxLen → parseSecretRef tables (String.ofList ref.render) = .ok ref) ∧
    ∀ value ref, parseSecretRef tables value = .ok ref →
      (RendersTo (strip value).toList ref ↔ LetsNothingPass (strip value).toList) :=
  ⟨fun _ => parseSecretRef_render, fun _ _ h => ⟨letsNothingPass_of_rendersTo, rendersTo_of_letsNothingPass h⟩⟩

def someTables : RefTables := ⟨fun c => c.isAlphanum, ⟨fun _ => true, fun _ => true⟩⟩

theorem parseSecretRef_grammar_first :
    parseSecretRef someTables (String.ofList (SecretRef.render ⟨1, 2, 1⟩)) = .ok ⟨1, 2, 1⟩ ∧
      (SecretRef.render ⟨1, 2, 1⟩).length ≤ maxLen := by
  have hshort : (SecretRef.render ⟨1, 2, 1⟩).length ≤ maxLen := by
    rw [← toList_render, String.length_toList, length_render]
    decide
  exact ⟨(parseSecretRef_grammar someTables).1 ⟨1, 2, 1⟩ hshort, hshort⟩

def questionMarkText : String :=
  "secret://marketing/tenants/00000000-0000-0000-0000-000000000001" ++
    "/publishing-connections/00000000-0000-0000-0000-000000000002/versions/1?"

/-- A question mark at the end makes another text of the same reference. -/
theorem empty_query_accepted :
    ¬ ∀ (tables : RefTables) value ref, parseSecretRef tables value = .ok ref → RendersTo (strip value).toList ref := by
  intro h
  have hview : parseSecretRef someTables questionMarkText = .ok ⟨1, 2, 1⟩ ∧
      ¬ LetsNothingPass (strip questionMarkText).toList := by decide +kernel
  exact absurd (letsNothingPass_of_rendersTo (h _ _ _ hview.1)) hview.2

end CoreOps.Secrets
