import Mathlib.Data.List.TakeDrop
import CoreOps.Lib.CharTables

/-! `urllib.parse.urlsplit`, with what it lets pass: control characters in front of an address,
tabs and line breaks anywhere in it, a scheme in either case, and a query or a fragment that is
empty. -/

namespace UrlSplit

open Text

structure SplitResult where
  scheme : List Char
  netloc : List Char
  path : List Char
  query : List Char
  fragment : List Char
  deriving DecidableEq

/-- What is asked about a network location with brackets, or with characters outside ASCII. -/
structure NetlocChecks where
  refusesBracketed : List Char → Bool
  refusesUnicode : List Char → Bool

def isC0ControlOrSpace (c : Char) : Bool := c.toNat ≤ 0x20

/-- `_UNSAFE_URL_BYTES_TO_REMOVE`. -/
def isUnsafe (c : Char) : Bool := c = '\t' ∨ c = '\r' ∨ c = '\n'

def isAsciiAlpha (c : Char) : Bool := (65 ≤ c.toNat ∧ c.toNat ≤ 90) ∨ (97 ≤ c.toNat ∧ c.toNat ≤ 122)

def isSchemeChar (c : Char) : Bool :=
  isAsciiAlpha c ∨ (48 ≤ c.toNat ∧ c.toNat ≤ 57) ∨ c = '+' ∨ c = '-' ∨ c = '.'

/-- The scheme in lower case, if there is one, and the rest. -/
def splitScheme (url : List Char) : List Char × List Char :=
  match url.span (· ≠ ':') with
  | (front, _ :: rest) =>
    if front.head?.any isAsciiAlpha ∧ front.all isSchemeChar then (front.map asciiLowerChar, rest) else ([], url)
  | _ => ([], url)

def isDelimiter (c : Char) : Bool := c = '/' ∨ c = '?' ∨ c = '#'

def splitNetloc : List Char → List Char × List Char
  | '/' :: '/' :: rest => (rest.takeWhile fun c => !isDelimiter c, rest.dropWhile fun c => !isDelimiter c)
  | url => ([], url)

/-- `url.split(c, 1)`, with an empty part behind if `c` is not there. -/
def cut (c : Char) (url : List Char) : List Char × List Char :=
  (url.takeWhile (· ≠ c), (url.dropWhile (· ≠ c)).tail)

def NetlocChecks.refuses (checks : NetlocChecks) (netloc : List Char) : Bool :=
  decide ('[' ∈ netloc) != decide (']' ∈ netloc) || ('[' ∈ netloc && checks.refusesBracketed netloc) ||
    (netloc.any (fun c => 128 ≤ c.toNat) && checks.refusesUnicode netloc)

/-- None is a `ValueError`. -/
def urlsplit (checks : NetlocChecks) (text : List Char) : Option SplitResult :=
  let (scheme, url) := splitScheme ((text.dropWhile isC0ControlOrSpace).filter fun c => !isUnsafe c)
  let (netloc, url) := splitNetloc url
  if checks.refuses netloc then none
  else
    let (url, fragment) := cut '#' url
    let (path, query) := cut '?' url
    some ⟨scheme, netloc, path, query, fragment⟩

/-- A character that an address may have anywhere. -/
def isPlain (c : Char) : Bool := !isUnsafe c && c ≠ '?' && c ≠ '#'

theorem cut_eq_self {c : Char} {url : List Char} (h : c ∉ url) : cut c url = (url, []) := by
  have hne : ∀ d ∈ url, decide (d ≠ c) = true := fun d hd => decide_eq_true fun heq => h (heq ▸ hd)
  rw [cut, List.takeWhile_eq_self_iff.2 hne, List.dropWhile_eq_nil_iff.2 hne, List.tail_nil]

theorem ne_of_isSchemeChar {c d : Char} (h : isSchemeChar c = true) (hd : isSchemeChar d = false) : c ≠ d := by
  rintro rfl
  rw [h] at hd
  cases hd

theorem splitScheme_of_isSchemeChar {c : Char} {scheme rest : List Char} (hc : isAsciiAlpha c = true)
    (hscheme : ∀ d ∈ c :: scheme, isSchemeChar d = true ∧ asciiLowerChar d = d) :
    splitScheme (c :: scheme ++ ':' :: rest) = (c :: scheme, rest) := by
  have hne : ∀ d ∈ c :: scheme, decide (d ≠ ':') = true :=
    fun d hd => decide_eq_true (ne_of_isSchemeChar (hscheme d hd).1 (by decide))
  have hspan : (c :: scheme ++ ':' :: rest).span (· ≠ ':') = (c :: scheme, ':' :: rest) := by
    rw [List.span_eq_takeWhile_dropWhile, List.takeWhile_append_of_pos hne, List.dropWhile_append_of_pos hne,
      List.takeWhile_cons_of_neg (by simp), List.dropWhile_cons_of_neg (by simp), List.append_nil]
  have hlower : (c :: scheme).map asciiLowerChar = c :: scheme := by
    rw [List.map_congr_left fun d hd => (hscheme d hd).2, List.map_id']
  have hall : (c :: scheme).head?.any isAsciiAlpha = true ∧ (c :: scheme).all isSchemeChar = true :=
    ⟨hc, List.all_eq_true.2 fun d hd => (hscheme d hd).1⟩
  simp only [splitScheme, hspan]
  rw [if_pos hall, hlower]

/-- An address that begins with a scheme in lower case and has nothing to let pass is split
at its delimiters. -/
theorem urlsplit_plain {checks : NetlocChecks} {c : Char} {scheme rest : List Char} (hc : isAsciiAlpha c = true)
    (hscheme : ∀ d ∈ c :: scheme, isSchemeChar d = true ∧ asciiLowerChar d = d) (hrest : ∀ d ∈ rest, isPlain d = true) :
    urlsplit checks (c :: scheme ++ ':' :: '/' :: '/' :: rest) =
      if checks.refuses (rest.takeWhile fun d => !isDelimiter d) then none
      else some ⟨c :: scheme, rest.takeWhile fun d => !isDelimiter d, rest.dropWhile fun d => !isDelimiter d, [], []⟩ := by
  have hdrop : (c :: scheme ++ ':' :: '/' :: '/' :: rest).dropWhile isC0ControlOrSpace =
      c :: scheme ++ ':' :: '/' :: '/' :: rest := by
    have hcontrol : ¬ isC0ControlOrSpace c = true := by
      simp only [isAsciiAlpha, isC0ControlOrSpace, decide_eq_true_eq] at hc ⊢
      omega
    rw [List.cons_append, List.dropWhile_cons_of_neg hcontrol]
  have hsafe : ∀ d ∈ c :: scheme ++ ':' :: '/' :: '/' :: rest, (!isUnsafe d) = true := by
    intro d hd
    rcases List.mem_append.1 hd with hd | hd
    · simp only [isUnsafe, Bool.not_eq_true', decide_eq_false_iff_not, not_or]
      have hd := (hscheme d hd).1
      exact ⟨ne_of_isSchemeChar hd (by decide), ne_of_isSchemeChar hd (by decide), ne_of_isSchemeChar hd (by decide)⟩
    · rcases List.mem_cons.1 hd with rfl | hd
      · decide
      rcases List.mem_cons.1 hd with rfl | hd
      · decide
      rcases List.mem_cons.1 hd with rfl | hd
      · decide
      have hplain := hrest d hd
      simp only [isPlain, Bool.and_eq_true] at hplain
      exact hplain.1.1
  have hpath : ∀ d ∈ rest.dropWhile fun d => !isDelimiter d, isPlain d = true :=
    fun d hd => hrest d ((List.dropWhile_sublist _).subset hd)
  have hhash : '#' ∉ rest.dropWhile fun d => !isDelimiter d := fun hd => absurd (hpath _ hd) (by decide)
  have hquestion : '?' ∉ rest.dropWhile fun d => !isDelimiter d := fun hd => absurd (hpath _ hd) (by decide)
  rw [urlsplit, hdrop, List.filter_eq_self.2 hsafe, splitScheme_of_isSchemeChar hc hscheme]
  simp only [splitNetloc, cut_eq_self hhash, cut_eq_self hquestion]

/-- What a split has to do with the text it is made of. -/
structure SplitOf (checks : NetlocChecks) (text : List Char) (r : SplitResult) : Prop where
  netloc_ok : checks.refuses r.netloc = false
  netloc_chars : ∀ c ∈ r.netloc, c ∈ text ∧ isUnsafe c = false ∧ isDelimiter c = false
  path_chars : ∀ c ∈ r.path, c ∈ text ∧ isPlain c = true
  path_root : r.netloc ≠ [] → r.path = [] ∨ ∃ rest, r.path = '/' :: rest
  length_le : r.scheme ≠ [] → r.netloc ≠ [] →
    r.scheme.length + 3 + r.netloc.length + r.path.length ≤ text.length

theorem splitScheme_cases (url : List Char) :
    splitScheme url = ([], url) ∨ ∃ front rest, url = front ++ ':' :: rest ∧ splitScheme url = (front.map asciiLowerChar, rest) := by
  unfold splitScheme
  rw [List.span_eq_takeWhile_dropWhile]
  have hsplit := List.takeWhile_append_dropWhile (p := fun c => decide (c ≠ ':')) (l := url)
  cases hdrop : url.dropWhile fun c => decide (c ≠ ':') with
  | nil => exact .inl rfl
  | cons c rest =>
    have hc : c = ':' := by
      have hne := List.head_dropWhile_not (l := url) (fun c => decide (c ≠ ':')) (by rw [hdrop]; exact List.cons_ne_nil _ _)
      simp only [hdrop, List.head_cons] at hne
      simpa using hne
    subst hc
    dsimp only
    split
    · refine .inr ⟨_, rest, ?_, rfl⟩
      rw [hdrop] at hsplit
      exact hsplit.symm
    · exact .inl rfl

theorem splitNetloc_cases (url : List Char) :
    splitNetloc url = ([], url) ∨ ∃ rest, url = '/' :: '/' :: rest ∧
      splitNetloc url = (rest.takeWhile fun c => !isDelimiter c, rest.dropWhile fun c => !isDelimiter c) := by
  unfold splitNetloc
  split
  · exact .inr ⟨_, rfl, rfl⟩
  · exact .inl rfl

theorem cut_isPrefix (c : Char) (url : List Char) : (cut c url).1 <+: url := List.takeWhile_prefix _

theorem not_mem_cut (c : Char) (url : List Char) : c ∉ (cut c url).1 := fun h => by
  simpa using List.mem_takeWhile_imp h

theorem splitOf_of_urlsplit {checks : NetlocChecks} {text : List Char} {r : SplitResult} (h : urlsplit checks text = some r) :
    SplitOf checks text r := by
  have hsub : ((text.dropWhile isC0ControlOrSpace).filter fun c => !isUnsafe c).Sublist text :=
    List.filter_sublist.trans (List.dropWhile_sublist _)
  have hsafe : ∀ c ∈ (text.dropWhile isC0ControlOrSpace).filter fun c => !isUnsafe c, isUnsafe c = false :=
    fun c hc => by simpa using (List.mem_filter.1 hc).2
  unfold urlsplit at h
  generalize (text.dropWhile isC0ControlOrSpace).filter (fun c => !isUnsafe c) = safe at h hsub hsafe
  obtain ⟨scheme, url, hscheme, hrest, hlength⟩ : ∃ scheme url, splitScheme safe = (scheme, url) ∧ url <:+ safe ∧
      (scheme ≠ [] → scheme.length + 1 + url.length = safe.length) := by
    rcases splitScheme_cases safe with he | ⟨front, rest, rfl, he⟩
    · exact ⟨_, _, he, List.suffix_rfl, fun hne => absurd rfl hne⟩
    · refine ⟨_, _, he, ⟨front ++ [':'], by simp⟩, fun _ => ?_⟩
      simp only [List.length_map, List.length_append, List.length_cons]
      omega
  obtain ⟨netloc, behind, hnetloc, hchars, hbehind, hroot, hlength'⟩ : ∃ netloc behind, splitNetloc url = (netloc, behind) ∧
      (∀ c ∈ netloc, c ∈ url ∧ isDelimiter c = false) ∧ behind <:+ url ∧
      (netloc ≠ [] → ∀ c rest, behind = c :: rest → isDelimiter c = true) ∧
      (netloc ≠ [] → netloc.length + 2 + behind.length = url.length) := by
    rcases splitNetloc_cases url with he | ⟨rest, rfl, he⟩
    · exact ⟨_, _, he, fun _ hc => absurd hc List.not_mem_nil, List.suffix_rfl, fun hne => absurd rfl hne,
        fun hne => absurd rfl hne⟩
    · refine ⟨_, _, he, fun c hc => ⟨?_, by simpa using List.mem_takeWhile_imp hc⟩, ?_, fun _ c tail htail => ?_, fun _ => ?_⟩
      · exact List.mem_cons_of_mem _ (List.mem_cons_of_mem _ ((List.takeWhile_sublist _).subset hc))
      · exact (List.dropWhile_suffix _).trans ⟨['/', '/'], rfl⟩
      · have hhead := List.head_dropWhile_not (l := rest) (fun c => !isDelimiter c) (by rw [htail]; exact List.cons_ne_nil _ _)
        simpa [htail] using hhead
      · have hsplit := congrArg List.length (List.takeWhile_append_dropWhile (p := fun c => !isDelimiter c) (l := rest))
        rw [List.length_append] at hsplit
        simp only [List.length_cons]
        omega
  simp only [hscheme, hnetloc] at h
  split at h
  · cases h
  · rename_i hrefuses
    obtain rfl := Option.some.inj h
    have hpath : (cut '?' (cut '#' behind).1).1 <+: behind := (cut_isPrefix _ _).trans (cut_isPrefix _ _)
    have hsafeOf : ∀ c ∈ url, c ∈ text ∧ isUnsafe c = false :=
      fun c hc => ⟨hsub.subset (hrest.subset hc), hsafe c (hrest.subset hc)⟩
    constructor
    case netloc_ok => exact Bool.eq_false_iff.2 hrefuses
    case netloc_chars =>
      intro c hc
      have hc' := hchars c hc
      exact ⟨(hsafeOf c hc'.1).1, (hsafeOf c hc'.1).2, hc'.2⟩
    case path_chars =>
      intro c hc
      have hurl := hsafeOf c (hbehind.subset (hpath.subset hc))
      have hquestion : c ≠ '?' := fun he => not_mem_cut '?' _ (he ▸ hc)
      have hhash : c ≠ '#' := fun he => not_mem_cut '#' _ (he ▸ (cut_isPrefix '?' _).subset hc)
      exact ⟨hurl.1, by simp [isPlain, hurl.2, hquestion, hhash]⟩
    case path_root =>
      intro hne
      obtain ⟨tail, htail⟩ := hpath
      cases hp : (cut '?' (cut '#' behind).1).1 with
      | nil => exact .inl rfl
      | cons c rest =>
        rw [hp, List.cons_append] at htail
        have hdelimiter := hroot hne c _ htail.symm
        have hmem : c ∈ (cut '?' (cut '#' behind).1).1 := by
          rw [hp]
          exact List.mem_cons_self
        have hquestion : c ≠ '?' := fun he => not_mem_cut '?' _ (he ▸ hmem)
        have hhash : c ≠ '#' := fun he => not_mem_cut '#' _ (he ▸ (cut_isPrefix '?' _).subset hmem)
        refine .inr ⟨rest, ?_⟩
        simp only [isDelimiter, hquestion, hhash, or_false, decide_eq_true_eq] at hdelimiter
        rw [hdelimiter]
    case length_le =>
      intro hne hne'
      have h₁ := hlength hne
      have h₂ := hlength' hne'
      have h₃ := hsub.length_le
      have h₄ := hpath.length_le
      dsimp only
      omega

end UrlSplit
