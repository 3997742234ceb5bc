import CoreOps.Publishers.Texts

/-! Tokens behind `access_token=`. Instagram and TikTok take out all of a token; Threads stops at
the letter s, so the rest of the token shows, and a match that ends at the s of the next
`access_token=` leaves its token whole. -/

namespace CoreOps.Publishers

open Marketing Text

def accessToken : List Char := "access_token=".toList

def redacted : List Char := "access_token=[REDACTED]".toList

def words : List (List Char) := ["bearer".toList, "authorization".toList]

def tokenChars : List Char := "abcdefghijklmnopqrstuvwxyzABCDEFGHIJKLMNOPQRSTUVWXYZ0123456789-_".toList

section Infix

variable {α : Type} {c : α} {a b l w : List α}

/-- What has no `c` is on one side of a `c`. -/
theorem infix_append_cons (hc : c ∉ w) (h : w <:+: a ++ c :: b) : w <:+: a ∨ w <:+: b := by
  obtain ⟨u, v, h⟩ := h
  rw [List.append_assoc] at h
  rcases List.append_eq_append_iff.1 h with ⟨x, rfl, hx⟩ | ⟨x, rfl, hx⟩
  · rcases List.append_eq_append_iff.1 hx with ⟨y, rfl, hy⟩ | ⟨y, rfl, hy⟩
    · exact Or.inl ⟨u, y, by rw [List.append_assoc]⟩
    · cases y with
      | nil => exact Or.inl ⟨u, [], by simp⟩
      | cons d y => exact absurd (by rw [(List.cons.inj hy).1]; simp) hc
  · cases x with
    | nil =>
      cases w with
      | nil => exact Or.inl (List.nil_infix)
      | cons d w => exact absurd (by rw [(List.cons.inj hx).1]; simp) hc
    | cons d x =>
      have hb : b = x ++ (w ++ v) := (List.cons.inj hx).2
      exact Or.inr ⟨x, v, by rw [hb, List.append_assoc]⟩

end Infix

section Scan

variable {p : Char → Bool} {cs rest : List Char} {c : Char}

theorem afterText_eq (cs : List Char) : afterText "access_token=" cs =
    if accessToken <+: cs.map foldCase then some (cs.drop accessToken.length) else none := by
  have hlength : "access_token=".length = accessToken.length := rfl
  rw [afterText, hlength]
  congr 1
  rw [List.prefix_iff_eq_take, ← List.map_take, eq_comm (a := accessToken)]
  rfl

/-- The third substitution. -/
def redactTokens (p : Char → Bool) (cs : List Char) : List Char := reSub (afterAccessToken p) redacted cs.length cs

theorem afterAccessToken_eq_some : afterAccessToken p cs = some rest ↔
    accessToken <+: cs.map foldCase ∧ (cs.drop accessToken.length).takeWhile p ≠ [] ∧
      (cs.drop accessToken.length).dropWhile p = rest := by
  rw [afterAccessToken, afterText_eq]
  by_cases h : accessToken <+: cs.map foldCase
  · simp [h, afterSome]
  · simp [h]

theorem length_lt (h : afterAccessToken p cs = some rest) : rest.length < cs.length := by
  obtain ⟨hmatch, -, rfl⟩ := afterAccessToken_eq_some.1 h
  have hle := (List.dropWhile_sublist (p := p) (l := cs.drop accessToken.length)).length_le
  have hlength := hmatch.length_le
  have hpos : 0 < accessToken.length := by decide
  rw [List.length_map] at hlength
  rw [List.length_drop] at hle
  omega

/-- More rounds than characters change nothing. -/
theorem reSub_rounds {n : ℕ} (h : cs.length ≤ n) :
    reSub (afterAccessToken p) redacted n cs = reSub (afterAccessToken p) redacted cs.length cs := by
  induction n using Nat.strong_induction_on generalizing cs with
  | _ n ih =>
    cases cs with
    | nil => cases n <;> rfl
    | cons c cs =>
      cases n with
      | zero => cases h
      | succ n =>
        have hle : cs.length ≤ n := Nat.le_of_succ_le_succ h
        rw [List.length_cons, reSub, reSub]
        cases hrest : afterAccessToken p (c :: cs) with
        | none =>
          dsimp only
          rw [ih n (Nat.lt_succ_self n) hle]
        | some rest =>
          have hlt := length_lt hrest
          rw [List.length_cons] at hlt
          dsimp only
          rw [ih n (Nat.lt_succ_self n) (by omega), ih cs.length (by omega) (by omega)]

theorem redactTokens_of_some (h : afterAccessToken p (c :: cs) = some rest) :
    redactTokens p (c :: cs) = redacted ++ redactTokens p rest := by
  have hlt := length_lt h
  rw [List.length_cons] at hlt
  rw [redactTokens, List.length_cons, reSub, h]
  dsimp only
  rw [reSub_rounds (by omega), redactTokens]

theorem redactTokens_of_none (h : afterAccessToken p (c :: cs) = none) : redactTokens p (c :: cs) = c :: redactTokens p cs := by
  rw [redactTokens, List.length_cons, reSub, h]
  rfl

theorem redactTokens_of_ne (h : foldCase c ≠ 'a') : redactTokens p (c :: cs) = c :: redactTokens p cs := by
  refine redactTokens_of_none (Option.eq_none_iff_forall_ne_some.2 fun rest hrest => ?_)
  obtain ⟨⟨tail, htail⟩, -⟩ := afterAccessToken_eq_some.1 hrest
  exact h (List.cons.inj htail).1.symm

/-- The next `access_token=` does not begin in the text before it. -/
theorem accessToken_prefix_append {tail : List Char} :
    accessToken <+: ((c :: cs) ++ (accessToken ++ tail)).map foldCase ↔ accessToken <+: (c :: cs).map foldCase := by
  have hfold : accessToken.map foldCase = accessToken := by decide
  rw [List.map_append, List.map_append, hfold]
  constructor
  · intro h
    by_cases hlong : accessToken.length ≤ ((c :: cs).map foldCase).length
    · exact List.prefix_of_prefix_length_le h (List.prefix_append _ _) hlong
    · -- the sign at the end is at an earlier place of the next one
      exfalso
      obtain ⟨k, hk⟩ : ∃ k, ((c :: cs).map foldCase).length = k + 1 := ⟨cs.length, by simp⟩
      have hat := congrArg (fun l => l[12]?) (List.prefix_iff_eq_take.1 h)
      have hlength : accessToken.length = 13 := rfl
      rw [hlength] at hlong hat
      simp only [List.getElem?_take] at hat
      rw [List.getElem?_append_right (by omega), List.getElem?_append_left (by rw [hlength]; omega), hk] at hat
      have hno : ∀ j < 12, accessToken[j]? ≠ accessToken[12]? := by decide
      exact hno (12 - (k + 1)) (by omega) (by simpa using hat.symm)
  · exact fun h => h.trans (List.prefix_append _ _)

/-- What the substitution has written when it is through with a text, and if its last match is
still running. -/
def scan (p : Char → Bool) : ℕ → List Char → List Char × Bool
  | 0, cs => (cs, false)
  | _ + 1, [] => ([], false)
  | n + 1, c :: cs =>
    if accessToken.isPrefixOf ((c :: cs).map foldCase) then
      let rest := (c :: cs).drop accessToken.length
      if rest.all p then (redacted, true)
      else if rest.takeWhile p = [] then (c :: (scan p n cs).1, (scan p n cs).2)
      else (redacted ++ (scan p n (rest.dropWhile p)).1, (scan p n (rest.dropWhile p)).2)
    else (c :: (scan p n cs).1, (scan p n cs).2)

/-- Where a character of the text is not of the class, what follows the text is not reached. -/
theorem span_append_of_stop {tail : List Char} (h : ¬ cs.all p = true) :
    (cs ++ tail).takeWhile p = cs.takeWhile p ∧ (cs ++ tail).dropWhile p = cs.dropWhile p ++ tail := by
  constructor
  · rw [List.takeWhile_append, if_neg]
    intro hlength
    have hsame := (List.takeWhile_prefix p).eq_of_length hlength
    exact h (List.all_eq_true.2 (List.takeWhile_eq_self_iff.1 hsame))
  · have hstop : (cs.dropWhile p).isEmpty = false := by
      rw [List.isEmpty_eq_false_iff, Ne, List.dropWhile_eq_nil_iff]
      exact fun hnil => h (List.all_eq_true.2 hnil)
    rw [List.dropWhile_append, hstop]
    rfl

/-- A match that begins in the text before `access_token=`. -/
theorem afterAccessToken_append {tail : List Char} (hp : p 'a' = true) :
    afterAccessToken p ((c :: cs) ++ (accessToken ++ tail)) =
      if accessToken <+: (c :: cs).map foldCase then
        let rest := (c :: cs).drop accessToken.length
        if rest.all p then some ((accessToken ++ tail).dropWhile p)
        else if rest.takeWhile p = [] then none else some (rest.dropWhile p ++ (accessToken ++ tail))
      else none := by
  by_cases hmatch : accessToken <+: (c :: cs).map foldCase
  · have hmatch' : accessToken <+: ((c :: cs) ++ (accessToken ++ tail)).map foldCase := accessToken_prefix_append.2 hmatch
    have hlong : accessToken.length ≤ (c :: cs).length := by
      have hlength := hmatch.length_le
      rwa [List.length_map] at hlength
    have hdrop : ((c :: cs) ++ (accessToken ++ tail)).drop accessToken.length =
        (c :: cs).drop accessToken.length ++ (accessToken ++ tail) := List.drop_append_of_le_length hlong
    rw [if_pos hmatch]
    dsimp only
    by_cases hall : ((c :: cs).drop accessToken.length).all p = true
    · -- the match goes on behind the text
      rw [if_pos hall]
      refine afterAccessToken_eq_some.2 ⟨hmatch', ?_, ?_⟩
      · have hhead : accessToken ++ tail = 'a' :: ("ccess_token=".toList ++ tail) := rfl
        rw [hdrop, List.takeWhile_append_of_pos (List.all_eq_true.1 hall), hhead, List.takeWhile_cons_of_pos hp]
        simp
      · rw [hdrop, List.dropWhile_append_of_pos (List.all_eq_true.1 hall)]
    · obtain ⟨htake, hleft⟩ := span_append_of_stop hall
      rw [if_neg hall]
      by_cases hempty : ((c :: cs).drop accessToken.length).takeWhile p = []
      · rw [if_pos hempty]
        refine Option.eq_none_iff_forall_ne_some.2 fun rest hrest => ?_
        obtain ⟨-, hne, -⟩ := afterAccessToken_eq_some.1 hrest
        rw [hdrop, htake] at hne
        exact hne hempty
      · rw [if_neg hempty]
        refine afterAccessToken_eq_some.2 ⟨hmatch', ?_, ?_⟩
        · rw [hdrop, htake]
          exact hempty
        · rw [hdrop, hleft]
  · rw [if_neg hmatch]
    refine Option.eq_none_iff_forall_ne_some.2 fun rest hrest => hmatch ?_
    exact accessToken_prefix_append.1 (afterAccessToken_eq_some.1 hrest).1

/-- A text before `access_token=` is scanned by itself. -/
theorem redactTokens_scan {tail : List Char} (hp : p 'a' = true) {n : ℕ} (hn : cs.length ≤ n) :
    redactTokens p (cs ++ (accessToken ++ tail)) = (scan p n cs).1 ++
      redactTokens p (if (scan p n cs).2 then (accessToken ++ tail).dropWhile p else accessToken ++ tail) := by
  induction n generalizing cs with
  | zero =>
    obtain rfl := List.length_eq_zero_iff.1 (Nat.le_zero.1 hn)
    rfl
  | succ n ih =>
    cases cs with
    | nil => rfl
    | cons c cs =>
      have hle : cs.length ≤ n := Nat.le_of_succ_le_succ hn
      have hafter : afterAccessToken p ((c :: cs) ++ (accessToken ++ tail)) = _ := afterAccessToken_append hp
      have hskip (hnone : afterAccessToken p ((c :: cs) ++ (accessToken ++ tail)) = none)
          (hscan : scan p (n + 1) (c :: cs) = (c :: (scan p n cs).1, (scan p n cs).2)) :
          redactTokens p ((c :: cs) ++ (accessToken ++ tail)) = (scan p (n + 1) (c :: cs)).1 ++ redactTokens p
            (if (scan p (n + 1) (c :: cs)).2 then (accessToken ++ tail).dropWhile p else accessToken ++ tail) := by
        have hcons : redactTokens p ((c :: cs) ++ (accessToken ++ tail)) =
            c :: redactTokens p (cs ++ (accessToken ++ tail)) := redactTokens_of_none hnone
        rw [hscan, hcons, ih hle]
        rfl
      by_cases hmatch : accessToken <+: (c :: cs).map foldCase
      · have hif : accessToken.isPrefixOf ((c :: cs).map foldCase) = true := List.isPrefixOf_iff_prefix.2 hmatch
        rw [if_pos hmatch] at hafter
        dsimp only at hafter
        by_cases hall : ((c :: cs).drop accessToken.length).all p = true
        · have hscan : scan p (n + 1) (c :: cs) = (redacted, true) := by simp only [scan, hif, hall, if_true]
          rw [if_pos hall] at hafter
          have hcons : redactTokens p ((c :: cs) ++ (accessToken ++ tail)) =
              redacted ++ redactTokens p ((accessToken ++ tail).dropWhile p) := redactTokens_of_some hafter
          rw [hscan, hcons]
          rfl
        · rw [if_neg hall] at hafter
          by_cases hempty : ((c :: cs).drop accessToken.length).takeWhile p = []
          · rw [if_pos hempty] at hafter
            exact hskip hafter (by simp only [scan, hif, hall, hempty, if_true, if_false, Bool.false_eq_true])
          · have hscan : scan p (n + 1) (c :: cs) =
                (redacted ++ (scan p n (((c :: cs).drop accessToken.length).dropWhile p)).1,
                  (scan p n (((c :: cs).drop accessToken.length).dropWhile p)).2) := by
              simp only [scan, hif, hall, hempty, if_true, if_false, Bool.false_eq_true]
            have hshort : (((c :: cs).drop accessToken.length).dropWhile p).length ≤ n := by
              have hpos : 0 < accessToken.length := by decide
              have hsub := (List.dropWhile_sublist (p := p) (l := (c :: cs).drop accessToken.length)).length_le
              rw [List.length_drop] at hsub
              omega
            rw [if_neg hempty] at hafter
            have hcons : redactTokens p ((c :: cs) ++ (accessToken ++ tail)) = redacted ++
                redactTokens p (((c :: cs).drop accessToken.length).dropWhile p ++ (accessToken ++ tail)) :=
              redactTokens_of_some hafter
            rw [hscan, hcons, ih hshort, List.append_assoc]
      · have hif : accessToken.isPrefixOf ((c :: cs).map foldCase) = false :=
          Bool.eq_false_iff.2 fun h => hmatch (List.isPrefixOf_iff_prefix.1 h)
        rw [if_neg hmatch] at hafter
        exact hskip hafter (by simp only [scan, hif, if_false, Bool.false_eq_true])

end Scan

/-! Tokens and what is around them. -/

section Tokens

variable {prior token token' suffix cs : List Char} {c : Char}

structure Token (token : List Char) : Prop where
  nonempty : token ≠ []
  chars : ∀ c ∈ token, c ∈ tokenChars
  lacks : ∀ word ∈ words, ¬ word <:+: token.map foldCase

/-- Neither of the words is in the text, in any case. -/
def Lacks (cs : List Char) : Prop := ∀ word ∈ words, ¬ word <:+: cs.map foldCase

/-- A suffix ends a token. -/
def Ends (suffix : List Char) : Prop := ∀ c ∈ suffix.head?, c = '&' ∨ isSpace c = true

/-- What Threads takes for the characters of a token. -/
def threadsClass (c : Char) : Bool := foldCase c ∉ ['&', '\\', 's']

def graphClass (c : Char) : Bool := c ≠ '&' && notSpace c

theorem foldCase_of_isSpace (h : isSpace c = true) : foldCase c = c := by
  have hkey : ∀ l : List ℕ, (l.all fun n => foldCase (Char.ofNat n) = Char.ofNat n) = true →
      c.toNat ∈ l → foldCase c = c := by
    intro l hl hc
    have hfold := of_decide_eq_true (List.all_eq_true.1 hl _ hc)
    rwa [Char.ofNat_toNat] at hfold
  exact hkey _ (by decide +kernel) (of_decide_eq_true h)

/-- What is read off the characters of the patterns and of tokens. -/
structure CharFacts : Prop where
  tokens : (tokenChars.all fun c => foldCase c ≠ '=' ∧ isSpace c = false ∧ c ≠ '[' ∧ graphClass c = true) = true
  patterns : ((accessToken ++ words.flatten).all fun c => isSpace c = false ∧ c ≠ '&') = true
  graph : (accessToken.all graphClass) = true
  wordChars : (words.all fun word =>
    'c' ∉ word ∧ '_' ∉ word ∧ '=' ∉ word ∧ word.getLast? ≠ some 'a' ∧ 5 < word.length) = true

theorem charFacts : CharFacts := by
  have hall : (tokenChars.all fun c => foldCase c ≠ '=' ∧ isSpace c = false ∧ c ≠ '[' ∧ graphClass c = true) = true ∧
      ((accessToken ++ words.flatten).all fun c => isSpace c = false ∧ c ≠ '&') = true ∧
      (accessToken.all graphClass) = true ∧
      (words.all fun word => 'c' ∉ word ∧ '_' ∉ word ∧ '=' ∉ word ∧ word.getLast? ≠ some 'a' ∧ 5 < word.length) = true := by
    decide +kernel
  exact ⟨hall.1, hall.2.1, hall.2.2.1, hall.2.2.2⟩

/-- What ends a token is no character of a pattern. -/
theorem not_mem_of_ends (hends : c = '&' ∨ isSpace c = true) : foldCase c ∉ accessToken ++ words.flatten := by
  intro hmem
  obtain ⟨hspace, hne⟩ := of_decide_eq_true (List.all_eq_true.1 charFacts.patterns _ hmem)
  rcases hends with rfl | h
  · exact hne (by decide)
  · rw [foldCase_of_isSpace h] at hspace
    rw [hspace] at h
    cases h

theorem lacks_append (hprior : Lacks prior) (htoken : Token token) (hsuffix : Lacks suffix) (hends : Ends suffix) :
    Lacks (prior ++ (accessToken ++ (token ++ suffix))) := by
  intro word hword h
  obtain ⟨hc, hlow, heq, hlast, hlength⟩ := of_decide_eq_true (List.all_eq_true.1 charFacts.wordChars word hword)
  have hsplit : (prior ++ (accessToken ++ (token ++ suffix))).map foldCase =
      ((prior.map foldCase ++ ['a']) ++ 'c' :: "cess".toList ++ '_' :: "token".toList) ++ '=' :: (token ++ suffix).map foldCase := by
    have hfold : accessToken.map foldCase = ['a'] ++ 'c' :: "cess".toList ++ '_' :: "token".toList ++ ['='] := by decide
    rw [List.map_append, List.map_append, hfold]
    simp
  rw [hsplit] at h
  rcases infix_append_cons heq h with h | h
  · rcases infix_append_cons hlow h with h | h
    · rcases infix_append_cons hc h with h | h
      · -- the word does not end in the first letter
        obtain ⟨u, v, h⟩ := h
        rcases List.eq_nil_or_concat v with rfl | ⟨v, x, rfl⟩
        · have hend := congrArg List.getLast? h
          have hne : word ≠ [] := List.ne_nil_of_length_pos (by omega)
          rw [List.append_nil, List.getLast?_append_of_ne_nil _ hne, List.getLast?_concat] at hend
          exact hlast hend
        · rw [List.concat_eq_append, ← List.append_assoc] at h
          exact hprior word hword ⟨u, v, List.append_inj_left' h rfl⟩
      · have hle := h.length_le
        have hfour : "cess".toList.length = 4 := rfl
        omega
    · have hle := h.length_le
      have hfive : "token".toList.length = 5 := rfl
      omega
  · rw [List.map_append] at h
    cases suffix with
    | nil => exact htoken.lacks word hword (by simpa using h)
    | cons c suffix =>
      have hnot : foldCase c ∉ word := fun hmem =>
        not_mem_of_ends (hends c rfl) (List.mem_append_right _ (List.mem_flatten.2 ⟨word, hword, hmem⟩))
      rcases infix_append_cons hnot h with h | h
      · exact htoken.lacks word hword h
      · exact hsuffix word hword (h.trans (List.suffix_cons _ _).isInfix)

theorem reSub_eq_self {rest : List Char → Option (List Char)} {replacement : List Char} {n : ℕ}
    (h : ∀ k, rest (cs.drop k) = none) : reSub rest replacement n cs = cs := by
  induction n generalizing cs with
  | zero => rfl
  | succ n ih =>
    cases cs with
    | nil => rfl
    | cons c cs =>
      have hhead : rest (c :: cs) = none := h 0
      rw [reSub, hhead]
      dsimp only
      rw [ih fun k => h (k + 1)]

theorem afterText_of_lacks {text : String} (htext : text.toList ∈ words) (h : Lacks cs) (k : ℕ) :
    afterText text (cs.drop k) = none := by
  rw [afterText, if_neg]
  intro heq
  refine h _ htext ?_
  rw [← heq]
  exact ((List.take_prefix _ _).isInfix.trans (List.drop_suffix _ _).isInfix).map foldCase

theorem sanitizeError_of_lacks (h : Lacks cs) : sanitizeError (String.ofList cs) = String.ofList (redactTokens graphClass cs) := by
  have htext : (String.ofList cs).toList = cs := String.toList_ofList
  have hbearer : redact afterBearer "Bearer [REDACTED]" (String.ofList cs) = String.ofList cs := by
    rw [redact, htext, reSub_eq_self]
    intro k
    have hword : "bearer".toList ∈ words := List.mem_cons_self
    rw [afterBearer, afterText_of_lacks hword h]
    rfl
  have hauthorization : redact afterAuthorization "Authorization: [REDACTED]" (String.ofList cs) = String.ofList cs := by
    rw [redact, htext, reSub_eq_self]
    intro k
    have hword : "authorization".toList ∈ words := List.mem_cons_of_mem _ List.mem_cons_self
    rw [afterAuthorization, afterText_of_lacks hword h]
    rfl
  rw [sanitizeError, hbearer, hauthorization, redact, htext, String.length_ofList]
  rfl

theorem threads_sanitizeError (cs : List Char) :
    Threads.sanitizeError (String.ofList cs) = String.ofList (redactTokens threadsClass cs) := by
  have htext : (String.ofList cs).toList = cs := String.toList_ofList
  rw [Threads.sanitizeError, redact, htext, String.length_ofList]
  rfl

theorem Token.graph (h : Token token) : ∀ c ∈ token, graphClass c = true := fun c hc =>
  (of_decide_eq_true (List.all_eq_true.1 charFacts.tokens c (h.chars c hc))).2.2.2

/-- Instagram and TikTok take out the token whole. -/
theorem graph_redacts (htoken : Token token) (hends : Ends suffix) (prior : List Char) :
    redactTokens graphClass (prior ++ (accessToken ++ (token ++ suffix))) = (scan graphClass prior.length prior).1 ++
      if (scan graphClass prior.length prior).2 then redactTokens graphClass suffix
      else redacted ++ redactTokens graphClass suffix := by
  have hsuffix : suffix.dropWhile graphClass = suffix := by
    cases suffix with
    | nil => rfl
    | cons c suffix =>
      refine List.dropWhile_cons_of_neg ?_
      rcases hends c rfl with rfl | h
      · decide
      · simp [graphClass, notSpace, h]
  have hdrop : (token ++ suffix).dropWhile graphClass = suffix := by
    rw [List.dropWhile_append_of_pos htoken.graph, hsuffix]
  have hall : ∀ c ∈ accessToken, graphClass c = true := List.all_eq_true.1 charFacts.graph
  rw [redactTokens_scan (hall 'a' (by decide)) le_rfl]
  congr 1
  split_ifs
  · rw [List.dropWhile_append_of_pos hall, hdrop]
  · have hcons : accessToken ++ (token ++ suffix) = 'a' :: ("ccess_token=".toList ++ (token ++ suffix)) := rfl
    have hsome : afterAccessToken graphClass (accessToken ++ (token ++ suffix)) = some suffix := by
      have hfold : accessToken.map foldCase = accessToken := by decide
      refine afterAccessToken_eq_some.2 ⟨?_, ?_, ?_⟩
      · rw [List.map_append, hfold]
        exact List.prefix_append _ _
      · rw [List.drop_left, List.takeWhile_append_of_pos htoken.graph]
        simp [htoken.nonempty]
      · rw [List.drop_left, hdrop]
    rw [hcons] at hsome ⊢
    exact redactTokens_of_some hsome

/-- A text without the first letter of the pattern is left. -/
theorem redactTokens_append_of_ne {p : Char → Bool} {a b : List Char} (h : ∀ c ∈ a, foldCase c ≠ 'a') :
    redactTokens p (a ++ b) = a ++ redactTokens p b := by
  induction a with
  | nil => rfl
  | cons c a ih =>
    obtain ⟨hc, ha⟩ := List.forall_mem_cons.1 h
    rw [List.cons_append, redactTokens_of_ne hc, ih ha, List.cons_append]

theorem prefix_of_prefix_append_cons {w a b : List Char} (hc : c ∉ w) (h : w <+: a ++ c :: b) : w <+: a := by
  by_cases hlength : w.length ≤ a.length
  · exact List.prefix_of_prefix_length_le h (List.prefix_append _ _) hlength
  · have hlast : a ++ [c] <+: a ++ c :: b := ⟨b, by rw [List.append_assoc, List.singleton_append]⟩
    have hinside : a ++ [c] <+: w := List.prefix_of_prefix_length_le hlast h (by
      rw [List.length_append, List.length_singleton]
      omega)
    exact absurd (hinside.subset (List.mem_append_right _ List.mem_cons_self)) hc

/-- What is left of a token is not matched. -/
theorem redactTokens_token {p : Char → Bool} {a : List Char} (h : ∀ c ∈ a, foldCase c ≠ '=') (hends : Ends suffix) :
    redactTokens p (a ++ suffix) = a ++ redactTokens p suffix := by
  induction a with
  | nil => rfl
  | cons c a ih =>
    have hnone : afterAccessToken p (c :: (a ++ suffix)) = none := by
      refine Option.eq_none_iff_forall_ne_some.2 fun rest hrest => ?_
      obtain ⟨hmatch, -⟩ := afterAccessToken_eq_some.1 hrest
      have hinside : accessToken <+: (c :: a).map foldCase := by
        rw [← List.cons_append, List.map_append] at hmatch
        cases suffix with
        | nil => rwa [List.map_nil, List.append_nil] at hmatch
        | cons d suffix =>
          exact prefix_of_prefix_append_cons (fun hmem => not_mem_of_ends (hends d rfl) (List.mem_append_left _ hmem)) hmatch
      have hsign : '=' ∈ accessToken := by decide
      obtain ⟨d, hd, hfold⟩ := List.mem_map.1 (hinside.subset hsign)
      exact h d hd hfold
    rw [List.cons_append, redactTokens_of_none hnone, ih fun d hd => h d (List.mem_cons_of_mem _ hd), List.cons_append]

/-- What Threads leaves of a token: if it is redacted at all, and what is behind. -/
def left (token : List Char) : Bool × List Char := (token.head?.any threadsClass, token.dropWhile threadsClass)

def stub : List Char := "ss_token=".toList

theorem token_facts (h : Token token) (hc : c ∈ token) :
    foldCase c ≠ '=' ∧ isSpace c = false ∧ c ≠ '[' ∧ graphClass c = true :=
  of_decide_eq_true (List.all_eq_true.1 charFacts.tokens c (h.chars c hc))

theorem dropWhile_accessToken (tail : List Char) : (accessToken ++ tail).dropWhile threadsClass = stub ++ tail := by
  have hstart : ∀ c ∈ "acce".toList, threadsClass c = true := List.all_eq_true.1 (by decide)
  have hsplit : accessToken ++ tail = "acce".toList ++ ('s' :: ("s_token=".toList ++ tail)) := rfl
  rw [hsplit, List.dropWhile_append_of_pos hstart, List.dropWhile_cons_of_neg (by decide)]
  rfl

theorem redactTokens_stub {p : Char → Bool} (tail : List Char) : redactTokens p (stub ++ tail) = stub ++ redactTokens p tail := by
  have hno : (stub.all fun c => foldCase c ≠ 'a') = true := by decide
  exact redactTokens_append_of_ne fun c hc => of_decide_eq_true (List.all_eq_true.1 hno c hc)

/-- What Threads writes for a token that it comes to. -/
theorem threads_token (htoken : Token token) (hends : Ends suffix) :
    redactTokens threadsClass (accessToken ++ (token ++ suffix)) =
      if (left token).1 then redacted ++ (if (left token).2 = [] then redactTokens threadsClass (suffix.dropWhile threadsClass)
        else (left token).2 ++ redactTokens threadsClass suffix)
      else accessToken ++ (token ++ redactTokens threadsClass suffix) := by
  have hcons : accessToken ++ (token ++ suffix) = 'a' :: ("ccess_token=".toList ++ (token ++ suffix)) := rfl
  have hfold : accessToken.map foldCase = accessToken := by decide
  have hmatch : accessToken <+: (accessToken ++ (token ++ suffix)).map foldCase := by
    rw [List.map_append, hfold]
    exact List.prefix_append _ _
  obtain ⟨c, rest, rfl⟩ := List.exists_cons_of_ne_nil htoken.nonempty
  cases hclass : threadsClass c with
  | true =>
    have hfirst : (left (c :: rest)).1 = true := hclass
    have hsome : afterAccessToken threadsClass (accessToken ++ (c :: rest ++ suffix)) =
        some ((c :: rest ++ suffix).dropWhile threadsClass) := by
      refine afterAccessToken_eq_some.2 ⟨hmatch, ?_, ?_⟩
      · rw [List.drop_left, List.cons_append, List.takeWhile_cons_of_pos hclass]
        exact List.cons_ne_nil _ _
      · rw [List.drop_left]
    rw [if_pos hfirst]
    rw [hcons] at hsome ⊢
    rw [redactTokens_of_some hsome, List.dropWhile_append]
    congr 1
    by_cases hnil : (c :: rest).dropWhile threadsClass = []
    · have hleft : (left (c :: rest)).2 = [] := hnil
      rw [hnil, List.isEmpty_nil, if_pos rfl, if_pos hleft]
    · have hfalse : ((c :: rest).dropWhile threadsClass).isEmpty = false := List.isEmpty_eq_false_iff.2 hnil
      have hleft : (left (c :: rest)).2 ≠ [] := hnil
      have hfree : ∀ d ∈ (c :: rest).dropWhile threadsClass, foldCase d ≠ '=' := fun d hd =>
        (token_facts htoken ((List.dropWhile_sublist _).subset hd)).1
      rw [hfalse, if_neg Bool.false_ne_true, if_neg hleft, redactTokens_token hfree hends]
      rfl
  | false =>
    have hfirst : ¬ (left (c :: rest)).1 = true := by
      rw [left]
      simp [hclass]
    have hnone : afterAccessToken threadsClass (accessToken ++ (c :: rest ++ suffix)) = none := by
      refine Option.eq_none_iff_forall_ne_some.2 fun out hout => ?_
      obtain ⟨-, hne, -⟩ := afterAccessToken_eq_some.1 hout
      rw [List.drop_left, List.cons_append, List.takeWhile_cons_of_neg (by rw [hclass]; exact Bool.false_ne_true)] at hne
      exact hne rfl
    have hno : ("ccess_token=".toList.all fun c => foldCase c ≠ 'a') = true := by decide
    rw [if_neg hfirst]
    rw [hcons] at hnone ⊢
    rw [redactTokens_of_none hnone, redactTokens_append_of_ne fun c hc => of_decide_eq_true (List.all_eq_true.1 hno c hc),
      redactTokens_token (fun d hd => (token_facts htoken hd).1) hends]
    rfl

/-- Where a match begins in a text of the class, it goes on at the letter s behind it. -/
theorem redactTokens_class {p : Char → Bool} {a b : List Char} (ha : ∀ c ∈ a, threadsClass c = true)
    (hb : ∀ c ∈ b.head?, threadsClass c = false) :
    redactTokens p (a ++ b) = a ++ redactTokens p b ∨ stub <+: b.map foldCase := by
  induction a with
  | nil => exact Or.inl rfl
  | cons c a ih =>
    rcases hsome : afterAccessToken p (c :: (a ++ b)) with - | rest
    · rcases ih fun d hd => ha d (List.mem_cons_of_mem _ hd) with hleft | hstub
      · rw [List.cons_append, redactTokens_of_none hsome, hleft]
        exact Or.inl rfl
      · exact Or.inr hstub
    · obtain ⟨⟨tail, htail⟩, -⟩ := afterAccessToken_eq_some.1 hsome
      refine Or.inr ⟨tail, ?_⟩
      have hclass : ∀ d ∈ (c :: a).map foldCase, decide (d ∉ ['&', '\\', 's']) = true := by
        intro d hd
        obtain ⟨e, he, rfl⟩ := List.mem_map.1 hd
        exact ha e he
      have hstop : (b.map foldCase).dropWhile (fun d => decide (d ∉ ['&', '\\', 's'])) = b.map foldCase := by
        cases b with
        | nil => rfl
        | cons d b => exact List.dropWhile_cons_of_neg (by rw [← threadsClass, hb d rfl]; exact Bool.false_ne_true)
      have hdrop := congrArg (List.dropWhile fun d => decide (d ∉ ['&', '\\', 's'])) htail
      rw [← List.cons_append, List.map_append, List.dropWhile_append_of_pos hclass, hstop] at hdrop
      rw [← hdrop]
      rfl

/-- What is left of a token shows. -/
theorem left_shows {d : List Char} (hne : d ≠ []) (hd : ∀ c ∈ d, c ∈ tokenChars) (hends : Ends suffix) :
    redactTokens threadsClass (suffix.dropWhile threadsClass) ≠ d ++ redactTokens threadsClass suffix := by
  intro heq
  have hpos := List.length_pos_of_ne_nil hne
  have hhead : ∀ c ∈ (suffix.dropWhile threadsClass).head?, threadsClass c = false := by
    intro c hc
    have hdrop := List.head?_dropWhile_not threadsClass suffix
    rw [Option.mem_def.1 hc] at hdrop
    simpa using hdrop
  have hsplit := redactTokens_class (p := threadsClass) (a := suffix.takeWhile threadsClass) (b := suffix.dropWhile threadsClass)
    (fun c hc => List.mem_takeWhile_imp hc) hhead
  rw [List.takeWhile_append_dropWhile] at hsplit
  rcases hsplit with hsplit | hstub
  · have hlength := congrArg List.length heq
    rw [hsplit, List.length_append, List.length_append] at hlength
    omega
  · -- behind the stub is a sign, behind the token what ends it
    obtain ⟨tail, htail⟩ := hstub
    have hsplit : (suffix.dropWhile threadsClass).map foldCase = "ss_token".toList ++ '=' :: tail := by
      rw [← htail]
      rfl
    obtain ⟨a, rest, hrest, ha, hx⟩ := List.map_eq_append_iff.1 hsplit
    obtain ⟨x, b, rfl, hsign, -⟩ := List.map_eq_cons_iff.1 hx
    obtain ⟨c, suffix, rfl⟩ : ∃ c rest, suffix = c :: rest := by
      refine List.exists_cons_of_ne_nil fun hnil => ?_
      rw [hnil] at hrest
      exact absurd hrest (by simp)
    have hcEnds := hends c rfl
    have hspace : isSpace c = true := by
      refine hcEnds.resolve_left ?_
      rintro rfl
      rw [List.dropWhile_cons_of_neg (by decide)] at hsplit
      exact absurd (List.cons.inj hsplit).1 (by decide)
    have hchars : ∀ y ∈ a ++ [x], foldCase y ∈ stub := by
      have hmap : (a ++ [x]).map foldCase = stub := by
        rw [List.map_append, ha, List.map_singleton, hsign]
        rfl
      intro y hy
      rw [← hmap]
      exact List.mem_map_of_mem hy
    have hstub : (stub.all fun y => y ≠ 'a' ∧ y ∈ accessToken) = true := by decide
    have hfirst : foldCase c ≠ 'a' := fun he =>
      not_mem_of_ends hcEnds (List.mem_append_left _ (by rw [he]; decide))
    have hwritten : redactTokens threadsClass (a ++ x :: b) = a ++ x :: redactTokens threadsClass b := by
      have happend := redactTokens_append_of_ne (p := threadsClass) (a := a ++ [x]) (b := b) fun y hy =>
        (of_decide_eq_true (List.all_eq_true.1 hstub _ (hchars y hy))).1
      rwa [List.append_assoc, List.append_assoc] at happend
    rw [hrest, hwritten, redactTokens_of_ne hfirst] at heq
    have hinside : ∀ y ∈ a, (!(foldCase y == '=') && notSpace y) = true := by
      intro y hy
      have hmem : foldCase y ∈ "ss_token".toList := by
        rw [← ha]
        exact List.mem_map_of_mem hy
      have hno : '=' ∉ "ss_token".toList := by decide
      have hne : foldCase y ≠ '=' := fun he => hno (he ▸ hmem)
      have hnot : isSpace y = false := Bool.eq_false_iff.2 fun h => not_mem_of_ends (Or.inr h)
        (List.mem_append_left _ (of_decide_eq_true (List.all_eq_true.1 hstub _ (hchars y (List.mem_append_left _ hy)))).2)
      simp [hne, notSpace, hnot]
    have hdInside : ∀ y ∈ d, (!(foldCase y == '=') && notSpace y) = true := by
      intro y hy
      obtain ⟨hne, hnot, -⟩ := of_decide_eq_true (List.all_eq_true.1 charFacts.tokens y (hd y hy))
      simp [hne, notSpace, hnot]
    have hdrop := congrArg (List.dropWhile fun y => !(foldCase y == '=') && notSpace y) heq
    rw [List.dropWhile_append_of_pos hinside, List.dropWhile_append_of_pos hdInside, List.dropWhile_cons_of_neg (by simp [hsign]),
      List.dropWhile_cons_of_neg (by simp [notSpace, hspace])] at hdrop
    obtain rfl := (List.cons.inj hdrop).1
    exact not_mem_of_ends hcEnds (List.mem_append_left _ (by rw [hsign]; decide))

theorem left_eq_self (htoken : Token token) (h : (left token).1 = false) : (left token).2 = token := by
  obtain ⟨c, rest, rfl⟩ := List.exists_cons_of_ne_nil htoken.nonempty
  have hclass : threadsClass c = false := h
  exact List.dropWhile_cons_of_neg (by rw [hclass]; exact Bool.false_ne_true)

/-- A token is not what is put in the place of one. -/
theorem redacted_ne (htoken : Token token) (a b : List Char) : redacted ++ a ≠ accessToken ++ (token ++ b) := by
  intro h
  obtain ⟨c, rest, rfl⟩ := List.exists_cons_of_ne_nil htoken.nonempty
  have hsplit : redacted = accessToken ++ ('[' :: "REDACTED]".toList) := rfl
  rw [hsplit, List.append_assoc, List.append_cancel_left_eq] at h
  exact (token_facts htoken List.mem_cons_self).2.2.1 (List.cons.inj h).1.symm

theorem threads_token_eq_iff (htoken : Token token) (htoken' : Token token') (hends : Ends suffix) :
    redactTokens threadsClass (accessToken ++ (token ++ suffix)) = redactTokens threadsClass (accessToken ++ (token' ++ suffix)) ↔
      left token = left token' := by
  have hshown : ∀ {t : List Char}, Token t → (left t).2 ≠ [] →
      redactTokens threadsClass (suffix.dropWhile threadsClass) ≠ (left t).2 ++ redactTokens threadsClass suffix :=
    fun ht hne => left_shows hne (fun c hc => ht.chars c ((List.dropWhile_sublist _).subset hc)) hends
  rw [threads_token htoken hends, threads_token htoken' hends, Prod.ext_iff]
  cases hfirst : (left token).1 with
  | true =>
    cases hfirst' : (left token').1 with
    | true =>
      rw [if_pos rfl, if_pos rfl, List.append_cancel_left_eq, eq_self, true_and]
      by_cases hnil : (left token).2 = []
      · by_cases hnil' : (left token').2 = []
        · rw [hnil, hnil']
          exact iff_of_true rfl rfl
        · rw [if_pos hnil, if_neg hnil', hnil]
          exact iff_of_false (hshown htoken' hnil') fun he => hnil' he.symm
      · by_cases hnil' : (left token').2 = []
        · rw [if_neg hnil, if_pos hnil', hnil']
          exact iff_of_false (fun he => hshown htoken hnil he.symm) hnil
        · rw [if_neg hnil, if_neg hnil', List.append_cancel_right_eq]
    | false =>
      rw [if_pos rfl, if_neg Bool.false_ne_true]
      exact iff_of_false (redacted_ne htoken' _ _) fun he => Bool.false_ne_true he.1.symm
  | false =>
    cases hfirst' : (left token').1 with
    | true =>
      rw [if_pos rfl, if_neg Bool.false_ne_true]
      exact iff_of_false (fun he => redacted_ne htoken _ _ he.symm) fun he => Bool.false_ne_true he.1
    | false =>
      rw [if_neg Bool.false_ne_true, if_neg Bool.false_ne_true, List.append_cancel_left_eq, List.append_cancel_right_eq,
        left_eq_self htoken hfirst, left_eq_self htoken' hfirst', eq_self, true_and]

end Tokens

/-- The message about a token. -/
def message (prior token suffix : List Char) : String := String.ofList (prior ++ (accessToken ++ (token ++ suffix)))

/-- What the tokens leave behind is the same: where a match of the prior text is still running that is
the tokens themselves. -/
def LeaveSame (prior token token' : List Char) : Prop :=
  if (scan threadsClass prior.length prior).2 then token = token' else left token = left token'

/-- Instagram and TikTok write the same for any two tokens, and Threads just for those that leave
the same. -/
theorem tokens_redacted_iff {prior token token' suffix : List Char} (hprior : Lacks prior) (htoken : Token token)
    (htoken' : Token token') (hsuffix : Lacks suffix) (hends : Ends suffix) :
    (sanitizeError (message prior token suffix) = sanitizeError (message prior token' suffix) ∧
        Threads.sanitizeError (message prior token suffix) = Threads.sanitizeError (message prior token' suffix)) ↔
      LeaveSame prior token token' := by
  have hgraph : sanitizeError (message prior token suffix) = sanitizeError (message prior token' suffix) := by
    rw [message, message, sanitizeError_of_lacks (lacks_append hprior htoken hsuffix hends),
      sanitizeError_of_lacks (lacks_append hprior htoken' hsuffix hends), graph_redacts htoken hends, graph_redacts htoken' hends]
  have hinj : ∀ a b, String.ofList a = String.ofList b ↔ a = b := fun a b =>
    ⟨fun h => String.ofList_injective h, fun h => congrArg _ h⟩
  rw [and_iff_right hgraph, message, message, threads_sanitizeError, threads_sanitizeError, hinj,
    redactTokens_scan (by decide) le_rfl, redactTokens_scan (by decide) le_rfl, List.append_cancel_left_eq, LeaveSame]
  split_ifs
  · have hfree : ∀ {t : List Char}, Token t → ∀ c ∈ t, foldCase c ≠ '=' := fun ht c hc => (token_facts ht hc).1
    rw [dropWhile_accessToken, dropWhile_accessToken, redactTokens_stub, redactTokens_stub, redactTokens_token (hfree htoken) hends,
      redactTokens_token (hfree htoken') hends, List.append_cancel_left_eq, List.append_cancel_right_eq]
  · exact threads_token_eq_iff htoken htoken' hends

theorem lacks_of_short {cs : List Char} (h : cs.length ≤ 5) : Lacks cs := by
  intro word hword hinfix
  have hlong := (of_decide_eq_true (List.all_eq_true.1 charFacts.wordChars word hword)).2.2.2.2
  have hle := hinfix.length_le
  rw [List.length_map] at hle
  omega

theorem token_demo {token : List Char} (h : token ∈ ["abc".toList, "xyz".toList, "abs1".toList, "abs2".toList]) : Token token := by
  have hall : (["abc".toList, "xyz".toList, "abs1".toList, "abs2".toList].all fun token =>
      token ≠ [] ∧ token.length ≤ 5 ∧ (token.all fun c => c ∈ tokenChars)) = true := by decide
  obtain ⟨hne, hshort, hchars⟩ := of_decide_eq_true (List.all_eq_true.1 hall token h)
  exact ⟨hne, fun c hc => of_decide_eq_true (List.all_eq_true.1 hchars c hc), lacks_of_short hshort⟩

/-- The theorem at two tokens without an s. -/
theorem tokens_redacted_without_s :
    (sanitizeError (message [] "abc".toList []) = sanitizeError (message [] "xyz".toList []) ∧
        Threads.sanitizeError (message [] "abc".toList []) = Threads.sanitizeError (message [] "xyz".toList [])) ↔
      LeaveSame [] "abc".toList "xyz".toList :=
  tokens_redacted_iff (lacks_of_short (Nat.zero_le _)) (token_demo (by simp)) (token_demo (by simp))
    (lacks_of_short (Nat.zero_le _)) fun _ hc => (by cases hc)

/-- Threads shows what is behind the first s of a token. -/
theorem threads_shows_token : Token "abs1".toList ∧ Token "abs2".toList ∧
    Threads.sanitizeError (message [] "abs1".toList []) ≠ Threads.sanitizeError (message [] "abs2".toList []) := by
  have htoken : Token "abs1".toList := token_demo (by simp)
  have htoken' : Token "abs2".toList := token_demo (by simp)
  have hends : Ends [] := fun _ hc => (by cases hc)
  refine ⟨htoken, htoken', fun h => ?_⟩
  rw [message, message, threads_sanitizeError, threads_sanitizeError] at h
  have hleft := (threads_token_eq_iff htoken htoken' hends).1 (String.ofList_injective h)
  exact absurd hleft (by decide)

end CoreOps.Publishers
