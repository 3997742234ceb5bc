import CoreOps.Lib.Checked
import CoreOps.Lib.IpAddress
import CoreOps.Lib.UrlSplit
import Mathlib.Data.List.DropRight

/-! The static validation of a public media URL, and what becomes of it when it is
normalized. A URL is a list of characters. What the interpreter's tables say of characters
outside ASCII, `ipaddress` of a host and SHA-256 of a text is an argument, with the laws
that matter here. -/

namespace CoreOps.Marketing.PublicUrl

open Checked Text UrlSplit

def isAsciiAlnum (c : Char) : Bool := isAsciiAlpha c ∨ (48 ≤ c.toNat ∧ c.toNat ≤ 57)

/-- `[a-z0-9-]` where case is ignored. -/
def isLabelChar (c : Char) : Bool := isAsciiAlnum c ∨ c = '-' ∨ c.toNat ∈ [0x130, 0x131, 0x17f, 0x212a]

def isHostChar (c : Char) : Bool := isLabelChar c ∨ c = '.'

/-- The combining dot above, which is in the lower case of one character, the capital I
with a dot, and that has no other of two characters. -/
def combiningDot : Char := Char.ofNat 0x307

/-- What is taken from the interpreter: the characters of `\d`, `str.lower` of a character
outside ASCII, the checks of `urlsplit`, what `ipaddress` makes of a host (nothing, or an
address and the code it is refused with, if it is) and the digest of a text. -/
structure UrlTables where
  isDecimal : Char → Bool
  lowerChar : Char → List Char
  checks : NetlocChecks
  ipAddress : List Char → Option (Option String)
  sha256 : List Char → String
  lowerChar_fixed : ∀ c, 128 ≤ c.toNat → ∀ d ∈ lowerChar c, d = 'i' ∨ d = 'k' ∨ 128 ≤ d.toNat ∧ lowerChar d = [d]
  lowerChar_length : ∀ c, 128 ≤ c.toNat → (lowerChar c).length ≤ 1 ∨ combiningDot ∈ lowerChar c
  ipAddress_chars : ∀ host refused, ipAddress host = some refused →
    ':' ∈ host ∨ ∀ c ∈ host, (48 ≤ c.toNat ∧ c.toNat ≤ 57) ∨ c = '.'
  refusesUnicode_host : ∀ host, (∀ c ∈ host, isHostChar c = true) → checks.refusesUnicode host = false

inductive PublicUrlError
  | validation (code : String)
  | valueError
  deriving DecidableEq, Repr

structure PublicUrlValidationResult where
  normalizedUrl : List Char
  host : List Char
  hostFingerprint : String
  deriving DecidableEq

/-! `urllib.parse`. -/

structure ParseResult where
  scheme : List Char
  netloc : List Char
  path : List Char
  params : List Char
  query : List Char
  fragment : List Char
  deriving DecidableEq

/-- `_splitparams`: the parameters of the last segment. -/
def splitParams (url : List Char) : List Char × List Char :=
  let (segment, params) := cut ';' (url.rtakeWhile (· ≠ '/'))
  (url.rdropWhile (· ≠ '/') ++ segment, params)

/-- Of an `https` URL, or one of another scheme that has parameters. -/
def urlparse (checks : NetlocChecks) (url : List Char) : Option ParseResult :=
  (urlsplit checks url).map fun parts =>
    let (path, params) := splitParams parts.path
    ⟨parts.scheme, parts.netloc, path, params, parts.query, parts.fragment⟩

/-- `_hostinfo`: host name and port of a network location. -/
def hostInfo (netloc : List Char) : List Char × List Char :=
  let hostinfo := netloc.rtakeWhile (· ≠ '@')
  match hostinfo.dropWhile (· ≠ '[') with
  | _ :: bracketed =>
    let (name, rest) := cut ']' bracketed
    (name, (cut ':' rest).2)
  | [] => cut ':' hostinfo

/-- The port a URL goes to; nothing when it is no number or none there is. -/
def effectivePort (netloc : List Char) : Option ℕ :=
  let port := (hostInfo netloc).2
  if port = [] then some 443
  else if port.all Char.isDigit ∧ Nat.ofDigitChars 10 port 0 ≤ 65535 then some (Nat.ofDigitChars 10 port 0)
  else none

namespace UrlTables

variable (t : UrlTables)

def lowerOne (c : Char) : List Char := if c.toNat < 128 then [asciiLowerChar c] else t.lowerChar c

/-- `str.lower`; of a capital sigma, which no accepted host has, without regard to its
place in a word. -/
def lower (cs : List Char) : List Char := cs.flatMap t.lowerOne

/-- A zone is not put in lower case. -/
def hostname (netloc : List Char) : Option (List Char) :=
  let name := (hostInfo netloc).1
  if name = [] then none else some (t.lower (name.takeWhile (· ≠ '%')) ++ name.dropWhile (· ≠ '%'))

end UrlTables

def stripSpace (cs : List Char) : List Char := (cs.dropWhile isSpace).rdropWhile isSpace

/-! The checks of a host. -/

section Host

variable (t : UrlTables)

def isHexDigit (c : Char) : Bool :=
  (48 ≤ c.toNat ∧ c.toNat ≤ 57) ∨ (65 ≤ c.toNat ∧ c.toNat ≤ 70) ∨ (97 ≤ c.toNat ∧ c.toNat ≤ 102)

/-- `host.split(".")`. -/
def labels (host : List Char) : List (List Char) := IpAddress.pieces '.' host

/-- `_HEX_IP_HOST`. -/
def isHexIpHost : List Char → Bool
  | '0' :: 'x' :: digits => digits ≠ [] ∧ digits.all isHexDigit
  | _ => false

/-- `_DECIMAL_IP_HOST`. -/
def isDecimalIpHost (host : List Char) : Bool := 8 ≤ host.length ∧ host.length ≤ 10 ∧ host.all t.isDecimal

def isOctalPart : List Char → Bool
  | '0' :: digits => digits ≠ [] ∧ digits.all fun c => 48 ≤ c.toNat ∧ c.toNat ≤ 55
  | _ => false

/-- `_OCTAL_DOTTED`. -/
def isOctalDotted (host : List Char) : Bool :=
  2 ≤ (labels host).length ∧ (labels host).length ≤ 4 ∧ (labels host).all isOctalPart

def hasLeadingZero : List Char → Bool
  | '0' :: c :: _ => c.isDigit
  | _ => false

def isObfuscatedNumericHost (host : List Char) : Bool :=
  isHexIpHost host ∨ isDecimalIpHost t host ∨ isOctalDotted host ∨
    (host ≠ [] ∧ (host.all fun c => c.isDigit ∨ c = '.') ∧ (labels host).any hasLeadingZero)

/-- `_LDH_LABEL`. -/
def isLdhLabel (label : List Char) : Bool :=
  label.length ≤ 63 ∧ (label.all fun c => isAsciiAlnum c ∨ c = '-') ∧ label.head?.any isAsciiAlnum ∧
    label.getLast?.any isAsciiAlnum

def punycodePrefix : List Char := ['x', 'n', '-', '-']

def checkLabel (label : List Char) : Except PublicUrlError Unit :=
  if punycodePrefix <+: label then
    raiseIf (¬ (4 < label.length ∧ (label.drop 4).all isLabelChar)) (.validation "malformed_punycode")
  else do
    raiseIf (label.any fun c => 128 ≤ c.toNat) (.validation "idn_must_be_punycode")
    raiseIf (¬ isLdhLabel label) (.validation "malformed_hostname")

def validateHostnameLabels (host : List Char) : Except PublicUrlError Unit := do
  raiseIf ((labels host).any fun label => label = []) (.validation "malformed_hostname")
  (labels host).forM checkLabel

def metadataHosts : List String :=
  ["metadata.google.internal", "metadata", "instance-data", "kubernetes.default", "kubernetes.default.svc"]

def forbiddenSuffixes : List String := [".local", ".localhost", ".internal", ".lan"]

def endsWith (host : List Char) (suffix : String) : Prop := suffix.toList <:+ host

instance (host : List Char) (suffix : String) : Decidable (endsWith host suffix) :=
  inferInstanceAs (Decidable (_ <:+ _))

def isControl (c : Char) : Bool := c.toNat < 32 ∨ c.toNat = 127

def rejectOrCheckLabels (host : List Char) : Except PublicUrlError Unit :=
  match t.ipAddress host with
  | some none => return ()
  | some (some code) => throw (.validation code)
  | none => do
    validateHostnameLabels host
    raiseIf ('.' ∉ host) (.validation "single_label_host_forbidden")

def checkHost (host : List Char) : Except PublicUrlError Unit := do
  raiseIf (host = []) (.validation "host_required")
  raiseIf (host.any isControl) (.validation "control_chars_forbidden")
  raiseIf (host = "localhost".toList ∨ endsWith host ".localhost") (.validation "localhost_forbidden")
  raiseIf ((metadataHosts.any fun name => host = name.toList) ∨ endsWith host ".metadata.google.internal")
    (.validation "metadata_host_forbidden")
  raiseIf (∃ suffix ∈ forbiddenSuffixes, host = suffix.toList.drop 1 ∨ endsWith host suffix)
    (.validation "internal_suffix_forbidden")
  raiseIf (isObfuscatedNumericHost t host) (.validation "obfuscated_ip_forbidden")
  rejectOrCheckLabels t host

/-- The host as the result has it. -/
def canonicalHost (name : List Char) : List Char := (t.lower (stripSpace name)).rdropWhile (· = '.')

end Host

section Validator

variable (t : UrlTables)

/-- `host_fingerprint`. -/
def hostFingerprint (host : List Char) : String := String.ofList ((t.sha256 (t.lower (stripSpace host))).toList.take 16)

def schemePrefix : List Char := ['h', 't', 't', 'p', 's', ':', '/', '/']

def validatePublicUrl (rawUrl : List Char) (maxUrlLength : Option ℤ) : Except PublicUrlError PublicUrlValidationResult := do
  let limit := maxUrlLength.getD 1024
  raiseIf (limit ≤ 0) (.validation "invalid_max_url_length")
  raiseIf (rawUrl.any isControl) (.validation "control_chars_forbidden")
  raiseIf ('\\' ∈ rawUrl) (.validation "backslash_forbidden")
  raiseIf (rawUrl.any isSpace) (.validation "url_contains_whitespace")
  let url := stripSpace rawUrl
  raiseIf (url = []) (.validation "url_required")
  raiseIf (limit < url.length) (.validation "url_too_long")
  raiseIf (Char.ofNat 0 ∈ url) (.validation "null_byte_forbidden")
  let parsed ← orRaise (urlparse t.checks url) .valueError
  raiseIf (t.lower parsed.scheme ≠ "https".toList) (.validation "https_required")
  raiseIf ('@' ∈ parsed.netloc) (.validation "userinfo_forbidden")
  raiseIf (parsed.fragment ≠ []) (.validation "fragment_forbidden")
  raiseIf (parsed.query ≠ []) (.validation "query_forbidden")
  let name ← orRaise (t.hostname parsed.netloc) (.validation "host_required")
  let host := canonicalHost t name
  checkHost t host
  return ⟨schemePrefix ++ host ++ parsed.path, host, hostFingerprint t host⟩

/-- What a URL stands for: its scheme and its host up to case and dots at the end, whether
the host is in brackets, the port it goes to, its path and the parameters of the path. -/
structure Denotation where
  scheme : List Char
  bracketed : Bool
  host : List Char
  port : Option ℕ
  path : List Char
  params : List Char
  deriving DecidableEq

def denotes (url : List Char) : Option Denotation := do
  let parsed ← urlparse t.checks url
  let name ← t.hostname parsed.netloc
  return ⟨t.lower parsed.scheme, '[' ∈ parsed.netloc, canonicalHost t name, effectivePort parsed.netloc, parsed.path,
    parsed.params⟩

end Validator

/-! Lower case. -/

section Lower

variable {t : UrlTables} {cs : List Char} {d : Char}

theorem lowerOne_ascii {c : Char} (h : c.toNat < 128) : t.lowerOne c = [asciiLowerChar c] := if_pos h

/-- What is in lower case stays as it is. -/
theorem lowerOne_of_mem_lower (h : d ∈ t.lower cs) : t.lowerOne d = [d] := by
  obtain ⟨c, -, hd⟩ := List.mem_flatMap.1 h
  unfold UrlTables.lowerOne at hd
  split at hd
  · obtain rfl := List.mem_singleton.1 hd
    have hnat := toNat_asciiLowerChar c
    rw [lowerOne_ascii (by split at hnat <;> omega), asciiLowerChar_asciiLowerChar]
  · rcases t.lowerChar_fixed c (by omega) d hd with rfl | rfl | ⟨hlarge, hfixed⟩
    · exact lowerOne_ascii (by decide)
    · exact lowerOne_ascii (by decide)
    · rw [UrlTables.lowerOne, if_neg (by omega), hfixed]

theorem lower_eq_self (h : ∀ c ∈ cs, t.lowerOne c = [c]) : t.lower cs = cs := by
  induction cs with
  | nil => rfl
  | cons c cs ih =>
    obtain ⟨hc, hcs⟩ := List.forall_mem_cons.1 h
    rw [UrlTables.lower, List.flatMap_cons, hc]
    exact congrArg (c :: ·) (ih hcs)

/-- Lower case makes letters only. -/
theorem mem_of_mem_lower (hd : d.toNat < 97) (h : d ∈ t.lower cs) : d ∈ cs := by
  obtain ⟨c, hc, hdc⟩ := List.mem_flatMap.1 h
  unfold UrlTables.lowerOne at hdc
  split at hdc
  · obtain rfl := List.mem_singleton.1 hdc
    have hnat := toNat_asciiLowerChar c
    split at hnat
    · omega
    · rename_i hupper
      rw [asciiLowerChar, if_neg hupper]
      exact hc
  · rcases t.lowerChar_fixed c (by omega) d hdc with rfl | rfl | ⟨hlarge, -⟩
    · exact absurd hd (by decide)
    · exact absurd hd (by decide)
    · omega

theorem length_lower_le (h : combiningDot ∉ t.lower cs) : (t.lower cs).length ≤ cs.length := by
  induction cs with
  | nil => exact Nat.le_refl _
  | cons c cs ih =>
    rw [UrlTables.lower, List.flatMap_cons, List.mem_append, not_or] at h
    have hone : (t.lowerOne c).length ≤ 1 := by
      have hdot := h.1
      unfold UrlTables.lowerOne at hdot ⊢
      split
      · exact Nat.le_refl _
      · rename_i hlarge
        rw [if_neg hlarge] at hdot
        exact (t.lowerChar_length c (by omega)).resolve_right hdot
    have hrest := ih h.2
    rw [UrlTables.lower, List.flatMap_cons, List.length_append, List.length_cons]
    unfold UrlTables.lower at hrest
    omega

theorem stripSpace_sublist (cs : List Char) : (stripSpace cs).Sublist cs :=
  (List.rdropWhile_prefix _ _).sublist.trans (List.dropWhile_sublist _)

theorem stripSpace_eq_self (h : ∀ c ∈ cs, isSpace c = false) : stripSpace cs = cs := by
  have hstrip := congrArg String.toList (strip_eq_self h)
  rw [strip, String.toList_ofList, String.toList_ofList] at hstrip
  exact hstrip

/-- A character that is no space is not stripped. -/
theorem mem_stripSpace (hd : isSpace d = false) (h : d ∈ cs) : d ∈ stripSpace cs := by
  have hdrop : ∀ l : List Char, d ∈ l → d ∈ l.dropWhile isSpace := by
    intro l hl
    rw [← List.takeWhile_append_dropWhile (p := isSpace) (l := l)] at hl
    refine (List.mem_append.1 hl).resolve_left fun hmem => ?_
    rw [List.mem_takeWhile_imp hmem] at hd
    cases hd
  unfold stripSpace List.rdropWhile
  rw [List.mem_reverse]
  exact hdrop _ (List.mem_reverse.2 (hdrop _ h))

end Lower

/-! The host of a location. -/

section Location

variable {t : UrlTables} {netloc name host : List Char} {c d : Char}

theorem hostInfo_sublist (netloc : List Char) : (hostInfo netloc).1.Sublist netloc := by
  have hinfo : (netloc.rtakeWhile (· ≠ '@')).Sublist netloc := (List.rtakeWhile_suffix _ _).sublist
  unfold hostInfo
  dsimp only
  split
  · rename_i bracketed hdrop
    have hbracketed : (_ :: bracketed).Sublist (netloc.rtakeWhile (· ≠ '@')) := hdrop ▸ List.dropWhile_sublist _
    exact (cut_isPrefix _ _).sublist.trans ((List.sublist_cons_self _ _).trans (hbracketed.trans hinfo))
  · exact (cut_isPrefix _ _).sublist.trans hinfo

theorem hostname_eq_some (h : t.hostname netloc = some name) :
    name = t.lower ((hostInfo netloc).1.takeWhile (· ≠ '%')) ++ (hostInfo netloc).1.dropWhile (· ≠ '%') := by
  unfold UrlTables.hostname at h
  dsimp only at h
  split at h
  · cases h
  · exact (Option.some.inj h).symm

theorem mem_of_mem_hostname (h : t.hostname netloc = some name) (hd : d.toNat < 97) (hmem : d ∈ name) :
    d ∈ (hostInfo netloc).1 := by
  rw [hostname_eq_some h] at hmem
  rcases List.mem_append.1 hmem with hmem | hmem
  · exact (List.takeWhile_sublist _).subset (mem_of_mem_lower hd hmem)
  · exact (List.dropWhile_sublist _).subset hmem

theorem canonicalHost_isPrefix (name : List Char) : canonicalHost t name <+: t.lower (stripSpace name) :=
  List.rdropWhile_prefix _ _

theorem mem_of_mem_canonicalHost (hd : d.toNat < 97) (hmem : d ∈ canonicalHost t name) : d ∈ name :=
  (stripSpace_sublist name).subset (mem_of_mem_lower hd ((canonicalHost_isPrefix name).subset hmem))

theorem mem_of_mem_host (h : t.hostname netloc = some name) (hd : d.toNat < 97) (hmem : d ∈ canonicalHost t name) :
    d ∈ (hostInfo netloc).1 := mem_of_mem_hostname h hd (mem_of_mem_canonicalHost hd hmem)

/-- A canonical host is its own canonical form. -/
theorem canonicalHost_canonicalHost (h : ∀ c ∈ canonicalHost t name, isSpace c = false) :
    canonicalHost t (canonicalHost t name) = canonicalHost t name := by
  have hlower : t.lower (canonicalHost t name) = canonicalHost t name :=
    lower_eq_self fun c hc => lowerOne_of_mem_lower ((canonicalHost_isPrefix name).subset hc)
  rw [canonicalHost, stripSpace_eq_self h, hlower, canonicalHost, List.rdropWhile_idempotent]

theorem hostInfo_plain (hat : '@' ∉ netloc) (hopen : '[' ∉ netloc) : hostInfo netloc = cut ':' netloc := by
  have hinfo : netloc.rtakeWhile (· ≠ '@') = netloc :=
    List.rtakeWhile_eq_self_iff.2 fun d hd => decide_eq_true fun he => hat (he ▸ hd)
  have hdrop : netloc.dropWhile (· ≠ '[') = [] :=
    List.dropWhile_eq_nil_iff.2 fun d hd => decide_eq_true fun he => hopen (he ▸ hd)
  simp only [hostInfo, hinfo, hdrop]

theorem close_not_mem_hostInfo (hat : '@' ∉ netloc) (hopen : '[' ∈ netloc) : ']' ∉ (hostInfo netloc).1 := by
  have hinfo : netloc.rtakeWhile (· ≠ '@') = netloc :=
    List.rtakeWhile_eq_self_iff.2 fun d hd => decide_eq_true fun he => hat (he ▸ hd)
  simp only [hostInfo, hinfo]
  cases hdrop : netloc.dropWhile fun c => decide (c ≠ '[') with
  | nil => exact absurd (List.dropWhile_eq_nil_iff.1 hdrop _ hopen) (by decide)
  | cons c bracketed => exact not_mem_cut ']' bracketed

theorem isLabelChar_of_checkLabel {label : List Char} (h : checkLabel label = .ok ()) : ∀ c ∈ label, isLabelChar c = true := by
  unfold checkLabel at h
  split at h
  · rename_i hprefix
    obtain ⟨rest, rfl⟩ := hprefix
    have hrest := (not_not.1 (raiseIf_eq_ok.1 h)).2
    intro c hc
    rcases List.mem_append.1 hc with hc | hc
    · exact List.all_eq_true.1 (by decide : punycodePrefix.all isLabelChar = true) c hc
    · exact List.all_eq_true.1 hrest c hc
  · simp only [bind_eq_ok, raiseIf_eq_ok, not_not] at h
    obtain ⟨-, -, hldh⟩ := h
    simp only [isLdhLabel, decide_eq_true_eq] at hldh
    intro c hc
    have hc := List.all_eq_true.1 hldh.2.1 c hc
    simp only [decide_eq_true_eq] at hc
    simp only [isLabelChar, decide_eq_true_eq]
    rcases hc with hc | hc
    · exact .inl hc
    · exact .inr (.inl hc)

/-- An accepted host that is no address of version 6. -/
theorem isHostChar_of_checkHost (h : checkHost t host = .ok ()) (hcolon : ':' ∉ host) : ∀ c ∈ host, isHostChar c = true := by
  simp only [checkHost, bind_eq_ok] at h
  obtain ⟨-, -, -, -, -, -, -, -, -, -, -, -, h⟩ := h
  intro c hc
  simp only [isHostChar, decide_eq_true_eq]
  unfold rejectOrCheckLabels at h
  cases hip : t.ipAddress host with
  | some refused =>
    rcases (t.ipAddress_chars host refused hip).resolve_left hcolon c hc with hdigit | hdot
    · exact .inl (by simp only [isLabelChar, isAsciiAlnum, decide_eq_true_eq]; exact .inl (.inr hdigit))
    · exact .inr hdot
  | none =>
    rw [hip] at h
    simp only [validateHostnameLabels, bind_eq_ok] at h
    obtain ⟨⟨⟩, ⟨-, -, hlabels⟩, -⟩ := h
    rcases IpAddress.mem_pieces (c := '.') hc with hdot | ⟨label, hlabel, hmem⟩
    · exact .inr hdot
    · exact .inl (isLabelChar_of_checkLabel (forM_eq_ok.1 hlabels label hlabel) c hmem)

theorem toNat_of_isHostChar (h : isHostChar c = true) : c.toNat = 45 ∨ c.toNat = 46 ∨ (48 ≤ c.toNat ∧ c.toNat ≤ 57) ∨
    (65 ≤ c.toNat ∧ c.toNat ≤ 90) ∨ (97 ≤ c.toNat ∧ c.toNat ≤ 122) ∨ c.toNat ∈ [0x130, 0x131, 0x17f, 0x212a] := by
  simp only [isHostChar, isLabelChar, isAsciiAlnum, isAsciiAlpha, decide_eq_true_eq] at h
  rcases h with (((h | h) | h) | rfl | h) | rfl
  · exact .inr (.inr (.inr (.inl h)))
  · exact .inr (.inr (.inr (.inr (.inl h))))
  · exact .inr (.inr (.inl h))
  · exact .inl rfl
  · exact .inr (.inr (.inr (.inr (.inr h))))
  · exact .inr (.inl rfl)

theorem ne_of_isHostChar (h : isHostChar c = true) (hd : isHostChar d = false) : c ≠ d := by
  rintro rfl
  rw [h] at hd
  cases hd

theorem not_mem_of_isHostChar (h : ∀ c ∈ host, isHostChar c = true) (hd : isHostChar d = false) : d ∉ host :=
  fun hmem => ne_of_isHostChar (h d hmem) hd rfl

theorem clean_of_isHostChar (h : isHostChar c = true) : isControl c = false ∧ isSpace c = false := by
  have hnat := toNat_of_isHostChar h
  simp only [List.mem_cons, List.not_mem_nil, or_false] at hnat
  constructor
  · simp only [isControl, decide_eq_false_iff_not]
    omega
  · simp only [isSpace, List.mem_cons, List.not_mem_nil, or_false, decide_eq_false_iff_not]
    omega

/-- A location that is a host and nothing else. -/
theorem hostInfo_host (h : ∀ c ∈ host, isHostChar c = true) : hostInfo host = (host, []) := by
  have hat : '@' ∉ host := not_mem_of_isHostChar h (by decide)
  have hopen : '[' ∉ host := not_mem_of_isHostChar h (by decide)
  have hcolon : ':' ∉ host := not_mem_of_isHostChar h (by decide)
  rw [hostInfo_plain hat hopen, cut_eq_self hcolon]

theorem hostname_host (h : ∀ c ∈ host, isHostChar c = true) (hfixed : ∀ c ∈ host, t.lowerOne c = [c]) (hne : host ≠ []) :
    t.hostname host = some host := by
  have hpercent : ∀ c ∈ host, decide (c ≠ '%') = true :=
    fun c hc => decide_eq_true (ne_of_isHostChar (h c hc) (by decide))
  simp only [UrlTables.hostname, hostInfo_host h, if_neg hne]
  rw [List.takeWhile_eq_self_iff.2 hpercent, List.dropWhile_eq_nil_iff.2 hpercent, lower_eq_self hfixed, List.append_nil]

theorem combiningDot_not_isSpace : isSpace combiningDot = false := by decide

/-- A host is no longer than the location it is taken from. -/
theorem length_canonicalHost_le (h : t.hostname netloc = some name) (hhost : ∀ c ∈ canonicalHost t name, isHostChar c = true) :
    (canonicalHost t name).length ≤ netloc.length := by
  have hdot : combiningDot ∉ t.lower (stripSpace name) := by
    intro hmem
    rw [← List.rdropWhile_append_rtakeWhile (p := (· = '.')) (l := t.lower (stripSpace name))] at hmem
    rcases List.mem_append.1 hmem with hmem | hmem
    · exact absurd (hhost _ hmem) (by decide)
    · exact absurd (List.mem_rtakeWhile_imp hmem) (by decide)
  have hname : combiningDot ∉ t.lower ((hostInfo netloc).1.takeWhile (· ≠ '%')) := by
    intro hmem
    have hstrip : combiningDot ∈ stripSpace name := by
      refine mem_stripSpace combiningDot_not_isSpace ?_
      rw [hostname_eq_some h]
      exact List.mem_append_left _ hmem
    refine hdot (List.mem_flatMap.2 ⟨combiningDot, hstrip, ?_⟩)
    rw [lowerOne_of_mem_lower hmem]
    exact List.mem_singleton.2 rfl
  have h₁ := (canonicalHost_isPrefix (t := t) name).length_le
  have h₂ := length_lower_le hdot
  have h₃ := (stripSpace_sublist name).length_le
  have h₄ := length_lower_le hname
  have h₅ := (hostInfo_sublist netloc).length_le
  have h₆ := congrArg List.length (hostname_eq_some h)
  have h₇ := congrArg List.length (List.takeWhile_append_dropWhile (p := fun c => decide (c ≠ '%')) (l := (hostInfo netloc).1))
  rw [List.length_append] at h₆ h₇
  omega

end Location

/-! Parameters. -/

section Params

variable {url : List Char}

theorem splitParams_append (front segment : List Char) (hfront : front.rdropWhile (· ≠ '/') = front)
    (hsegment : ∀ c ∈ segment, c ≠ '/') :
    splitParams (front ++ segment) = (front ++ (cut ';' segment).1, (cut ';' segment).2) := by
  have hall : ∀ c ∈ segment.reverse, decide (c ≠ '/') = true := fun c hc => decide_eq_true (hsegment c (List.mem_reverse.1 hc))
  have hdrop : (front ++ segment).rdropWhile (· ≠ '/') = front := by
    rw [List.rdropWhile, List.reverse_append, List.dropWhile_append_of_pos hall]
    exact hfront
  have htake : (front ++ segment).rtakeWhile (· ≠ '/') = segment := by
    have happend := List.rdropWhile_append_rtakeWhile (p := fun c => decide (c ≠ '/')) (l := front ++ segment)
    rw [hdrop] at happend
    exact List.append_cancel_left happend
  rw [splitParams, hdrop, htake]

theorem splitParams_split (url : List Char) : ∃ front segment, url = front ++ segment ∧
    front.rdropWhile (· ≠ '/') = front ∧ (∀ c ∈ segment, c ≠ '/') ∧
    splitParams url = (front ++ (cut ';' segment).1, (cut ';' segment).2) := by
  have hsegment : ∀ c ∈ url.rtakeWhile (· ≠ '/'), c ≠ '/' := fun c hc => by
    simpa using List.mem_rtakeWhile_imp hc
  exact ⟨_, _, List.rdropWhile_append_rtakeWhile.symm, List.rdropWhile_idempotent _ _, hsegment, rfl⟩

/-- A path without its parameters has none. -/
theorem splitParams_fst (url : List Char) : splitParams (splitParams url).1 = ((splitParams url).1, []) := by
  obtain ⟨front, segment, -, hfront, hsegment, hsplit⟩ := splitParams_split url
  rw [hsplit, splitParams_append front _ hfront fun c hc => hsegment c ((cut_isPrefix _ _).subset hc),
    cut_eq_self (not_mem_cut ';' segment)]

theorem splitParams_isPrefix (url : List Char) : (splitParams url).1 <+: url := by
  obtain ⟨front, segment, rfl, -, -, hsplit⟩ := splitParams_split url
  rw [hsplit]
  exact (List.prefix_append_right_inj front).2 (cut_isPrefix _ _)

theorem splitParams_root (h : url = [] ∨ ∃ rest, url = '/' :: rest) :
    (splitParams url).1 = [] ∨ ∃ rest, (splitParams url).1 = '/' :: rest := by
  obtain ⟨tail, htail⟩ := splitParams_isPrefix url
  cases hpath : (splitParams url).1 with
  | nil => exact .inl rfl
  | cons c path =>
    rw [hpath] at htail
    rcases h with rfl | ⟨rest, rfl⟩
    · cases htail
    · exact .inr ⟨path, by rw [(List.cons.inj htail).1]⟩

end Params

/-! What becomes of a URL. -/

section Normalized

variable {t : UrlTables} {rawUrl host path : List Char} {maxUrlLength : Option ℤ} {result : PublicUrlValidationResult}

/-- A URL put together of a location and a path is split into them. -/
theorem urlparse_joined {checks : NetlocChecks} {netloc : List Char}
    (hnetloc : ∀ c ∈ netloc, isPlain c = true ∧ isDelimiter c = false) (hpath : ∀ c ∈ path, isPlain c = true)
    (hroot : path = [] ∨ ∃ rest, path = '/' :: rest) :
    urlparse checks (schemePrefix ++ netloc ++ path) =
      if checks.refuses netloc then none
      else some ⟨"https".toList, netloc, (splitParams path).1, (splitParams path).2, [], []⟩ := by
  have hplain : ∀ c ∈ netloc ++ path, isPlain c = true := by
    intro c hc
    rcases List.mem_append.1 hc with hc | hc
    · exact (hnetloc c hc).1
    · exact hpath c hc
  have hnone : ∀ c ∈ netloc, (!isDelimiter c) = true := fun c hc => by rw [(hnetloc c hc).2]; rfl
  have htake : (netloc ++ path).takeWhile (fun c => !isDelimiter c) = netloc := by
    rw [List.takeWhile_append_of_pos hnone]
    rcases hroot with rfl | ⟨rest, rfl⟩
    · rw [List.takeWhile_nil, List.append_nil]
    · rw [List.takeWhile_cons_of_neg (by decide), List.append_nil]
  have hdrop : (netloc ++ path).dropWhile (fun c => !isDelimiter c) = path := by
    rw [List.dropWhile_append_of_pos hnone]
    rcases hroot with rfl | ⟨rest, rfl⟩
    · rfl
    · rw [List.dropWhile_cons_of_neg (by decide)]
  have hscheme : ['h', 't', 't', 'p', 's'].all (fun c => isSchemeChar c = true ∧ asciiLowerChar c = c) = true := by decide
  have hsplit : urlsplit checks ('h' :: ['t', 't', 'p', 's'] ++ ':' :: '/' :: '/' :: (netloc ++ path)) = _ :=
    urlsplit_plain (by decide) (fun c hc => of_decide_eq_true (List.all_eq_true.1 hscheme c hc)) hplain
  rw [htake, hdrop] at hsplit
  have hjoin : schemePrefix ++ netloc ++ path = 'h' :: ['t', 't', 'p', 's'] ++ ':' :: '/' :: '/' :: (netloc ++ path) := by
    rw [List.append_assoc]
    rfl
  rw [urlparse, hjoin, hsplit]
  split
  · rfl
  · rfl

/-- What an accepted URL passed. -/
structure Accepts (t : UrlTables) (rawUrl : List Char) (limit : ℤ) (parsed : ParseResult) (name : List Char) : Prop where
  limit_pos : 0 < limit
  clean : ∀ c ∈ rawUrl, isControl c = false ∧ c ≠ '\\' ∧ isSpace c = false
  nonempty : rawUrl ≠ []
  length_le : rawUrl.length ≤ limit
  parses : urlparse t.checks rawUrl = some parsed
  scheme : t.lower parsed.scheme = "https".toList
  userinfo : '@' ∉ parsed.netloc
  fragment : parsed.fragment = []
  query : parsed.query = []
  hostname : t.hostname parsed.netloc = some name
  host : checkHost t (canonicalHost t name) = .ok ()

def resultOf (t : UrlTables) (host path : List Char) : PublicUrlValidationResult :=
  ⟨schemePrefix ++ host ++ path, host, hostFingerprint t host⟩

theorem validatePublicUrl_eq_ok : validatePublicUrl t rawUrl maxUrlLength = .ok result ↔
    ∃ parsed name, Accepts t rawUrl (maxUrlLength.getD 1024) parsed name ∧
      result = resultOf t (canonicalHost t name) parsed.path := by
  simp only [validatePublicUrl, bind_eq_ok, raiseIf_eq_ok, orRaise_eq_ok, pure_eq_ok]
  constructor
  · rintro ⟨-, hlimit, -, hcontrol, -, hbackslash, -, hspace, -, hne, -, hlength, -, -, parsed, hparses, -, hscheme, -, huser,
      -, hfragment, -, hquery, name, hname, ⟨⟩, hhost, rfl⟩
    have hclean : ∀ c ∈ rawUrl, isControl c = false ∧ c ≠ '\\' ∧ isSpace c = false := by
      intro c hc
      refine ⟨?_, fun he => hbackslash (he ▸ hc), ?_⟩
      · exact Bool.eq_false_iff.2 fun h => hcontrol (List.any_eq_true.2 ⟨c, hc, h⟩)
      · exact Bool.eq_false_iff.2 fun h => hspace (List.any_eq_true.2 ⟨c, hc, h⟩)
    rw [stripSpace_eq_self fun c hc => (hclean c hc).2.2] at hne hlength hparses
    exact ⟨parsed, name, ⟨by omega, hclean, hne, by omega, hparses, not_not.1 hscheme, huser, not_not.1 hfragment,
      not_not.1 hquery, hname, hhost⟩, rfl⟩
  · rintro ⟨parsed, name, h, rfl⟩
    have hstrip := stripSpace_eq_self fun c hc => (h.clean c hc).2.2
    have hlimit := h.limit_pos
    have hlength := h.length_le
    rw [hstrip]
    refine ⟨(), by omega, (), fun hany => ?_, (), fun hmem => (h.clean _ hmem).2.1 rfl, (), fun hany => ?_, (), h.nonempty,
      (), by omega, (), fun hmem => absurd (h.clean _ hmem).1 (by decide), parsed, h.parses, (), not_not.2 h.scheme, (), h.userinfo,
      (), not_not.2 h.fragment, (), not_not.2 h.query, name, h.hostname, (), h.host, rfl⟩
    · obtain ⟨c, hc, hcontrol⟩ := List.any_eq_true.1 hany
      rw [(h.clean c hc).1] at hcontrol
      cases hcontrol
    · obtain ⟨c, hc, hspace⟩ := List.any_eq_true.1 hany
      rw [(h.clean c hc).2.2] at hspace
      cases hspace

section Accepted

variable {limit : ℤ} {parsed : ParseResult} {name : List Char} {c : Char}

theorem urlparse_eq_some {checks : NetlocChecks} (h : urlparse checks rawUrl = some parsed) : ∃ parts,
    SplitOf checks rawUrl parts ∧ parsed.scheme = parts.scheme ∧ parsed.netloc = parts.netloc ∧
      parsed.path = (splitParams parts.path).1 := by
  obtain ⟨parts, hparts, rfl⟩ := Option.map_eq_some_iff.1 h
  exact ⟨parts, splitOf_of_urlsplit hparts, rfl, rfl, rfl⟩

theorem netloc_ne_nil (h : t.hostname parsed.netloc = some name) : parsed.netloc ≠ [] := by
  intro hnil
  rw [hnil] at h
  cases h

/-- Nothing in an accepted host would be read as another part of a URL. -/
theorem Accepts.host_chars (h : Accepts t rawUrl limit parsed name) (hc : c ∈ canonicalHost t name) :
    isPlain c = true ∧ isDelimiter c = false := by
  obtain ⟨parts, hparts, -, hnetloc, -⟩ := urlparse_eq_some h.parses
  have hno : ∀ d : Char, d.toNat < 97 → (isUnsafe d = true ∨ isDelimiter d = true) → c ≠ d := by
    rintro d hd hspecial rfl
    have hmem := (hostInfo_sublist _).subset (mem_of_mem_host h.hostname hd hc)
    rw [hnetloc] at hmem
    obtain ⟨-, hsafe, hdelimiter⟩ := hparts.netloc_chars c hmem
    rw [hsafe, hdelimiter] at hspecial
    cases hspecial with
    | inl hfalse => cases hfalse
    | inr hfalse => cases hfalse
  have hunsafe : isUnsafe c = false := by
    simp only [isUnsafe, decide_eq_false_iff_not, not_or]
    exact ⟨hno '\t' (by decide) (by decide), hno '\r' (by decide) (by decide), hno '\n' (by decide) (by decide)⟩
  have hslash := hno '/' (by decide) (by decide)
  have hquestion := hno '?' (by decide) (by decide)
  have hhash := hno '#' (by decide) (by decide)
  constructor
  · simp only [isPlain, hunsafe, Bool.not_false, Bool.true_and, Bool.and_eq_true, decide_eq_true_eq]
    exact ⟨hquestion, hhash⟩
  · simp only [isDelimiter, decide_eq_false_iff_not, not_or]
    exact ⟨hslash, hquestion, hhash⟩

theorem Accepts.urlparse_normalized (h : Accepts t rawUrl limit parsed name) :
    urlparse t.checks (schemePrefix ++ canonicalHost t name ++ parsed.path) =
      if t.checks.refuses (canonicalHost t name) then none
      else some ⟨"https".toList, canonicalHost t name, parsed.path, [], [], []⟩ := by
  obtain ⟨parts, hparts, -, hnetloc, hpath⟩ := urlparse_eq_some h.parses
  have hne := netloc_ne_nil h.hostname
  rw [hnetloc] at hne
  have hplain : ∀ c ∈ parsed.path, isPlain c = true := by
    intro c hc
    rw [hpath] at hc
    exact (hparts.path_chars c ((splitParams_isPrefix _).subset hc)).2
  have hroot : parsed.path = [] ∨ ∃ rest, parsed.path = '/' :: rest := by
    rw [hpath]
    exact splitParams_root (hparts.path_root hne)
  have hparams : splitParams parsed.path = (parsed.path, []) := by
    rw [hpath]
    exact splitParams_fst _
  rw [urlparse_joined (fun c hc => h.host_chars hc) hplain hroot, hparams]

/-- The host of a URL with no bracket in its location. -/
theorem Accepts.isHostChar (h : Accepts t rawUrl limit parsed name) (hopen : '[' ∉ parsed.netloc) :
    ∀ c ∈ canonicalHost t name, isHostChar c = true := by
  refine isHostChar_of_checkHost h.host fun hcolon => ?_
  have hmem := mem_of_mem_host h.hostname (by decide) hcolon
  rw [hostInfo_plain h.userinfo hopen] at hmem
  exact not_mem_cut ':' _ hmem

theorem Accepts.not_refuses (h : Accepts t rawUrl limit parsed name) (hopen : '[' ∉ parsed.netloc) :
    t.checks.refuses (canonicalHost t name) = false := by
  have hchars := h.isHostChar hopen
  have hopen' : '[' ∉ canonicalHost t name := not_mem_of_isHostChar hchars (by decide)
  have hclose : ']' ∉ canonicalHost t name := not_mem_of_isHostChar hchars (by decide)
  simp only [NetlocChecks.refuses, decide_eq_false hopen', decide_eq_false hclose,
    t.refusesUnicode_host _ hchars, bne_self_eq_false, Bool.false_and, Bool.and_false, Bool.or_false]

theorem Accepts.refuses (h : Accepts t rawUrl limit parsed name) (hopen : '[' ∈ parsed.netloc)
    (hhost : '[' ∈ canonicalHost t name) : t.checks.refuses (canonicalHost t name) = true := by
  have hclose : ']' ∉ canonicalHost t name :=
    fun hmem => close_not_mem_hostInfo h.userinfo hopen (mem_of_mem_host h.hostname (by decide) hmem)
  simp only [NetlocChecks.refuses, decide_eq_true hhost, decide_eq_false hclose, Bool.bne_false, Bool.true_or]

theorem Accepts.length_normalized_le (h : Accepts t rawUrl limit parsed name) (hopen : '[' ∉ parsed.netloc) :
    (schemePrefix ++ canonicalHost t name ++ parsed.path).length ≤ rawUrl.length := by
  obtain ⟨parts, hparts, hscheme, hnetloc, hpath⟩ := urlparse_eq_some h.parses
  have hne := netloc_ne_nil h.hostname
  have hlower : 5 ≤ parsed.scheme.length := by
    have hle : (t.lower parsed.scheme).length ≤ parsed.scheme.length := length_lower_le (by rw [h.scheme]; decide)
    rw [h.scheme] at hle
    exact hle
  have hsome : parts.scheme ≠ [] := by
    rintro hnil
    rw [hscheme, hnil] at hlower
    exact absurd hlower (by decide)
  have h₁ := hparts.length_le hsome (hnetloc ▸ hne)
  have h₂ := length_canonicalHost_le h.hostname (h.isHostChar hopen)
  have h₃ : parsed.path.length ≤ parts.path.length := by
    rw [hpath]
    exact (splitParams_isPrefix _).length_le
  have h₄ : schemePrefix.length = 8 := rfl
  rw [hscheme] at hlower
  rw [hnetloc] at h₂
  simp only [List.length_append]
  omega

/-- What an accepted URL with no bracket in its location is normalized to is accepted with
the same host and path. -/
theorem Accepts.normalized (h : Accepts t rawUrl limit parsed name) (hopen : '[' ∉ parsed.netloc) :
    Accepts t (schemePrefix ++ canonicalHost t name ++ parsed.path) limit
      ⟨"https".toList, canonicalHost t name, parsed.path, [], [], []⟩ (canonicalHost t name) := by
  obtain ⟨parts, hparts, -, hnetloc, hpath⟩ := urlparse_eq_some h.parses
  have hchars := h.isHostChar hopen
  have hne : canonicalHost t name ≠ [] := by
    have hhost := h.host
    simp only [checkHost, bind_eq_ok, raiseIf_eq_ok] at hhost
    exact hhost.choose_spec.1
  have hfixed : ∀ c ∈ canonicalHost t name, t.lowerOne c = [c] :=
    fun c hc => lowerOne_of_mem_lower ((canonicalHost_isPrefix name).subset hc)
  constructor
  case limit_pos => exact h.limit_pos
  case clean =>
    intro c hc
    rcases List.mem_append.1 hc with hc | hc
    · rcases List.mem_append.1 hc with hc | hc
      · exact of_decide_eq_true (List.all_eq_true.1 (by decide : schemePrefix.all fun c =>
          isControl c = false ∧ c ≠ '\\' ∧ isSpace c = false) c hc)
      · have hclean := clean_of_isHostChar (hchars c hc)
        exact ⟨hclean.1, ne_of_isHostChar (hchars c hc) (by decide), hclean.2⟩
    · rw [hpath] at hc
      exact h.clean c (hparts.path_chars c ((splitParams_isPrefix _).subset hc)).1
  case nonempty => exact fun hnil => by cases hnil
  case length_le =>
    have hle := h.length_normalized_le hopen
    have hlimit := h.length_le
    omega
  case parses =>
    rw [h.urlparse_normalized, h.not_refuses hopen]
    rfl
  case scheme => rfl
  case userinfo => exact not_mem_of_isHostChar hchars (by decide)
  case fragment => rfl
  case query => rfl
  case hostname => exact hostname_host hchars hfixed hne
  case host =>
    rw [canonicalHost_canonicalHost fun c hc => (clean_of_isHostChar (hchars c hc)).2]
    exact h.host

theorem Accepts.denotes (h : Accepts t rawUrl limit parsed name) : denotes t rawUrl =
    some ⟨"https".toList, '[' ∈ parsed.netloc, canonicalHost t name, effectivePort parsed.netloc, parsed.path, parsed.params⟩ := by
  simp only [PublicUrl.denotes, h.parses, h.hostname, h.scheme, Option.bind_eq_bind, Option.bind_some, Option.pure_def]

end Accepted

end Normalized

/-- The tables as they are for a host of ASCII characters that is no address. -/
def asciiTables : UrlTables where
  isDecimal := Char.isDigit
  lowerChar c := [c]
  checks := ⟨fun _ => false, fun _ => false⟩
  ipAddress _ := none
  sha256 _ := "86d4f6f3a1c7d8c871432512aaa93c292436486db7d299e7d362a3fd23b71fd0"
  lowerChar_fixed c hc d hd := by
    obtain rfl := List.mem_singleton.1 hd
    exact .inr (.inr ⟨hc, rfl⟩)
  lowerChar_length _ _ := .inl (Nat.le_refl 1)
  ipAddress_chars _ _ h := by cases h
  refusesUnicode_host _ _ := rfl

theorem cdn_urls_accepted :
    validatePublicUrl asciiTables "https://CDN.example.com.:443/a.png".toList none =
      .ok (resultOf asciiTables "cdn.example.com".toList "/a.png".toList) ∧
    validatePublicUrl asciiTables "https://cdn.example.com:8443/a.png".toList none =
      .ok (resultOf asciiTables "cdn.example.com".toList "/a.png".toList) ∧
    denotes asciiTables (resultOf asciiTables "cdn.example.com".toList "/a.png".toList).normalizedUrl ≠
      denotes asciiTables "https://cdn.example.com:8443/a.png".toList := by
  decide +kernel

end CoreOps.Marketing.PublicUrl
