import CoreOps.Lib.CharTables
import CoreOps.Lib.JsonPath

/-! The masking of rows for logs and reports. It goes from dictionary to dictionary; a list is
copied as it is, with the dictionaries in it. -/

namespace CoreOps.DryRun

open Text Json

/-- `SENSITIVE_KEYS`. -/
def sensitiveKeys : List String :=
  ["display_name", "name", "full_name", "email", "phone", "mobile", "iin", "iin_bin", "bin", "notes", "note",
    "comment", "body", "document_text", "address", "line1", "line2"]

/-- What the interpreter does: `str.lower`, and `str` of the values that are no text. -/
structure Texts where
  tables : CharTables
  repr : Json → String

variable (texts : Texts)

/-- `str(value)`. -/
def Texts.str : Json → String
  | .str s => s
  | value => texts.repr value

def Texts.isSensitive (key : String) : Bool := texts.tables.lower key ∈ sensitiveKeys

def stars : List Char := ['*', '*', '*']

/-- The text `str(value)`, masked. -/
def maskText (text : List Char) : List Char :=
  if '@' ∈ text then
    -- `partition` at the first one
    let domain := (text.dropWhile (· ≠ '@')).tail
    if domain = [] then stars else (text.takeWhile (· ≠ '@')).take 1 ++ stars ++ '@' :: domain
  else if text.length ≤ 2 then stars
  else text.take 1 ++ stars ++ text.getLast?.toList

def maskValue : Json → String
  | .null => "***"
  | value => String.ofList (maskText (texts.str value).toList)

mutual

def maskRowForLog : List (String × Json) → List (String × Json)
  | [] => []
  | (key, value) :: row =>
    (key, if texts.isSensitive key then .str (maskValue texts value) else maskNested value) :: maskRowForLog row

/-- The value of a key that is not sensitive. -/
def maskNested : Json → Json
  | .obj row => .obj (maskRowForLog row)
  | value => value

end

theorem lookup_maskRowForLog (k : String) (row : List (String × Json)) :
    (maskRowForLog texts row).lookup k =
      (row.lookup k).map fun v => if texts.isSensitive k then .str (maskValue texts v) else maskNested texts v := by
  induction row with
  | nil => simp [maskRowForLog]
  | cons member row ih =>
    obtain ⟨key, value⟩ := member
    rw [maskRowForLog, List.lookup_cons, List.lookup_cons]
    by_cases hkey : k = key
    · subst hkey
      simp
    · rw [beq_false_of_ne hkey]
      exact ih

theorem maskNested_of_isScalar {v : Json} (h : v.isScalar) : maskNested texts v = v := by
  cases v <;> simp_all [maskNested, isScalar]

/-! Where a value goes. -/

/-- The path has no sensitive key. -/
def Open (path : List Step) : Prop := ∀ k, Step.key k ∈ path → texts.isSensitive k = false

/-- Up to the first list every dictionary on the path is masked; from there on everything
is what it was. -/
theorem at?_maskNested {path : List Step} (hopen : Open texts path) (j : Json) :
    (maskNested texts j).at? path = if path.any Step.isItem then j.at? path else (j.at? path).map (maskNested texts) := by
  induction path generalizing j with
  | nil => rfl
  | cons step path ih =>
    have hpath : Open texts path := fun k hk => hopen k (List.mem_cons_of_mem _ hk)
    cases step with
    | item i => cases j <;> simp [maskNested, child?, Step.isItem]
    | key k =>
      have hk : texts.isSensitive k = false := hopen k List.mem_cons_self
      cases j with
      | obj row =>
        simp only [maskNested, at?_cons, child?, lookup_maskRowForLog, hk, Step.isItem, List.any_cons, Bool.false_or]
        cases row.lookup k with
        | none => simp
        | some v => simpa using ih hpath v
      | _ => simp [maskNested, child?]

/-- `value` is at the end of a path that a sensitive key ends, and that has none before. -/
structure SensitiveAt (row : Json) (path : List Step) (key : String) (value : Json) : Prop where
  isOpen : Open texts path
  sensitive : texts.isSensitive key = true
  found : row.at? (path ++ [.key key]) = some value

/-- What logs and reports rely on. -/
structure Masks (row out : Json) : Prop where
  masked : ∀ path key value, SensitiveAt texts row path key value →
    out.at? (path ++ [.key key]) = some (.str (maskValue texts value))
  kept : ∀ path value, Open texts path → row.at? path = some value → value.isScalar →
    out.at? path = some value

theorem SensitiveAt.masked {row value : Json} {path : List Step} {key : String}
    (h : SensitiveAt texts row path key value) :
    (maskNested texts row).at? (path ++ [.key key]) =
      some (if path.any Step.isItem then value else .str (maskValue texts value)) := by
  obtain ⟨hopen, hkey, hfound⟩ := h
  rw [at?_append, at?_maskNested texts hopen]
  rw [at?_append] at hfound
  split_ifs with hitem
  · exact hfound
  · obtain ⟨v, hv, hlast⟩ := Option.bind_eq_some_iff.1 hfound
    rw [hv]
    cases v with
    | obj members =>
      have hmember : members.lookup key = some value := by simpa [child?] using hlast
      simp [maskNested, child?, lookup_maskRowForLog, hmember, hkey]
    | _ => simp [child?] at hlast

theorem scalar_kept {row value : Json} {path : List Step} (hopen : Open texts path)
    (hfound : row.at? path = some value) (hscalar : value.isScalar) :
    (maskNested texts row).at? path = some value := by
  rw [at?_maskNested texts hopen, hfound]
  simp [maskNested_of_isScalar texts hscalar]

/-! The texts that masking leaves alone. -/

/-- A character and three stars, with one more character or the domain of an address. -/
def LooksMasked (text : List Char) : Prop :=
  ∃ c, c ≠ '@' ∧
    ((∃ d, d ≠ '@' ∧ text = c :: (stars ++ [d])) ∨ ∃ domain, domain ≠ [] ∧ text = c :: (stars ++ '@' :: domain))

theorem maskText_address {front domain : List Char} (hfront : '@' ∉ front) :
    maskText (front ++ '@' :: domain) = if domain = [] then stars else front.take 1 ++ stars ++ '@' :: domain := by
  have hne : ∀ c ∈ front, decide (c ≠ '@') = true := fun c hc => decide_eq_true fun h => hfront (h ▸ hc)
  have htake : (front ++ '@' :: domain).takeWhile (· ≠ '@') = front := by
    rw [List.takeWhile_append_of_pos hne, List.takeWhile_cons_of_neg (by simp), List.append_nil]
  have hdrop : (front ++ '@' :: domain).dropWhile (· ≠ '@') = '@' :: domain := by
    rw [List.dropWhile_append_of_pos hne, List.dropWhile_cons_of_neg (by simp)]
  rw [maskText, if_pos (by simp), htake, hdrop, List.tail_cons]

theorem maskText_name {c d : Char} {middle : List Char} (hname : '@' ∉ c :: (middle ++ [d])) (hmiddle : middle ≠ []) :
    maskText (c :: (middle ++ [d])) = c :: (stars ++ [d]) := by
  have hlength : ¬ (c :: (middle ++ [d])).length ≤ 2 := by
    have := List.length_pos_iff.2 hmiddle
    simp only [List.length_cons, List.length_append, List.length_nil]
    omega
  have hlast : (c :: (middle ++ [d])).getLast? = some d := by
    rw [← List.cons_append, List.getLast?_concat]
  rw [maskText, if_neg hname, if_neg hlength, hlast]
  rfl

theorem LooksMasked.maskText_eq {text : List Char} (h : LooksMasked text) : maskText text = text := by
  obtain ⟨c, hc, ⟨d, hd, rfl⟩ | ⟨domain, hdomain, rfl⟩⟩ := h
  · exact maskText_name (by simp [stars, hc.symm, hd.symm]) (by simp [stars])
  · have hfront : '@' ∉ c :: stars := by simp [stars, hc.symm]
    have h : maskText (c :: (stars ++ '@' :: domain)) = _ := maskText_address hfront
    rwa [if_neg hdomain] at h

theorem looksMasked_of_maskText_eq {text : List Char} (h : maskText text = text) : LooksMasked text := by
  by_cases hat : '@' ∈ text
  · obtain ⟨front, domain, rfl, hfront⟩ := List.eq_append_cons_of_mem hat
    rw [maskText_address hfront] at h
    split_ifs at h with hdomain
    · have : '@' ∈ stars := h ▸ hat
      simp [stars] at this
    · cases front with
      | nil => simp [stars] at h
      | cons c front =>
        obtain rfl : stars = front := by simpa using h
        exact ⟨c, fun hc => hfront (hc ▸ List.mem_cons_self), .inr ⟨domain, hdomain, rfl⟩⟩
  · by_cases hlength : text.length ≤ 2
    · rw [maskText, if_neg hat, if_pos hlength] at h
      simp [← h, stars] at hlength
    · -- a text of three characters or more has a first and a last one, and others between them
      obtain ⟨c, rest, rfl⟩ := List.exists_cons_of_length_pos (by omega : 0 < text.length)
      obtain ⟨middle, d, rfl⟩ := List.eq_nil_or_concat'  rest |>.resolve_left (by rintro rfl; simp at hlength)
      have hmiddle : middle ≠ [] := by rintro rfl; simp at hlength
      rw [maskText_name hat hmiddle] at h
      obtain rfl : stars = middle := by simpa using h
      simp only [List.mem_cons, List.mem_append, not_or] at hat
      exact ⟨c, Ne.symm hat.1, .inl ⟨d, Ne.symm hat.2.2.1, rfl⟩⟩

theorem maskText_eq_self_iff (text : List Char) : maskText text = text ↔ LooksMasked text :=
  ⟨looksMasked_of_maskText_eq, LooksMasked.maskText_eq⟩

theorem maskValue_eq_self_iff (v : Json) :
    .str (maskValue texts v) = v ↔ ∃ s, v = .str s ∧ LooksMasked s.toList := by
  cases v with
  | str s =>
    have h : maskValue texts (.str s) = s ↔ maskText s.toList = s.toList := by
      constructor
      · intro h
        simpa [maskValue, Texts.str] using congrArg String.toList h
      · intro h
        simp [maskValue, Texts.str, h]
    simp [h, maskText_eq_self_iff]
  | _ => simp

/-! What the masking owes, and when it pays. -/

/-- Every sensitive key within a list has a text that looks masked already. -/
def ListsMasked (row : Json) : Prop :=
  ∀ path key value, SensitiveAt texts row path key value → path.any Step.isItem →
    ∃ s, value = .str s ∧ LooksMasked s.toList

/-- The masked row keeps what is not sensitive, wherever it is, and masks the rest exactly
when the lists of the row have nothing to mask. -/
theorem masks_iff (row : List (String × Json)) :
    Masks texts (.obj row) (.obj (maskRowForLog texts row)) ↔ ListsMasked texts (.obj row) := by
  have hout : Json.obj (maskRowForLog texts row) = maskNested texts (.obj row) := by rw [maskNested]
  rw [hout]
  constructor
  · intro h path key value hvalue hitem
    have hmasked := h.masked path key value hvalue
    rw [hvalue.masked, if_pos hitem] at hmasked
    exact (maskValue_eq_self_iff texts value).1 (Option.some.inj hmasked).symm
  · intro h
    refine ⟨fun path key value hvalue => ?_, fun path value => scalar_kept texts⟩
    rw [hvalue.masked]
    split_ifs with hitem
    · rw [(maskValue_eq_self_iff texts value).2 (h path key value hvalue hitem)]
    · rfl

/-- A list of contacts goes to the log as it is. -/
theorem contacts_not_masked :
    ¬ ∀ (texts : Texts) (row : List (String × Json)), Masks texts (.obj row) (.obj (maskRowForLog texts row)) := by
  intro h
  let texts : Texts := ⟨.ascii, fun _ => ""⟩
  have hopen : Open texts [.key "contacts", .item 0] := by
    simp only [Open, List.mem_cons, Step.key.injEq, reduceCtorEq, List.not_mem_nil, or_false, forall_eq]
    decide
  have hmasked := (h texts [("contacts", .arr [.obj [("email", .str "ann@example.com")]])]).masked
    [.key "contacts", .item 0] "email" (.str "ann@example.com") ⟨hopen, by decide, rfl⟩
  have htext : "ann@example.com" = maskValue texts (.str "ann@example.com") :=
    Json.str.inj (Option.some.inj hmasked)
  exact absurd htext (by decide)

end CoreOps.DryRun
