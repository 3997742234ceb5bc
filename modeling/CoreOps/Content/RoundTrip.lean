import CoreOps.Content.Mirror

/-! An article that is written with its fields as front matter, and read again. The file is
cut where three hyphens end a line, whether or not they are the line. -/

namespace CoreOps.Content

open Checked Text

def delimiter : List Char := ['-', '-', '-', '\n']

section Texts

variable {line tail l : List Char}

theorem isPrefixOf_delimiter (h : delimiter.isPrefixOf l = true) : ∃ rest, l = '-' :: '-' :: '-' :: '\n' :: rest := by
  obtain ⟨rest, hrest⟩ := List.isPrefixOf_iff_prefix.1 h
  exact ⟨rest, hrest.symm⟩

/-- The end of the first line is the first place where the delimiter may be. -/
theorem splitFirst_line (hline : '\n' ∉ line) (hend : ¬ ['-', '-', '-'] <:+ line) :
    splitFirst delimiter (line ++ '\n' :: tail) =
      (splitFirst delimiter tail).map fun parts => (line ++ '\n' :: parts.1, parts.2) := by
  induction line with
  | nil =>
    rw [List.nil_append, splitFirst]
    rfl
  | cons c line ih =>
    have hhead : delimiter.isPrefixOf (c :: (line ++ '\n' :: tail)) = false := by
      refine Bool.eq_false_iff.2 fun h => ?_
      obtain ⟨rest, hrest⟩ := isPrefixOf_delimiter h
      match line, hline, hend with
      | [], _, _ => simp at hrest
      | [_], _, _ => simp at hrest
      | [d, e], _, hend =>
        simp only [List.cons_append, List.cons.injEq] at hrest
        obtain ⟨rfl, rfl, rfl, -⟩ := hrest
        exact hend List.suffix_rfl
      | d :: e :: f :: _, hline, _ =>
        simp only [List.cons_append, List.cons.injEq] at hrest
        obtain ⟨-, -, -, rfl, -⟩ := hrest
        exact hline (by simp)
    rw [List.cons_append, splitFirst, hhead, ih (fun h => hline (List.mem_cons_of_mem _ h))
      fun h => hend (h.trans (List.suffix_cons _ _))]
    simp only [Bool.false_eq_true, if_false, Option.map_map]
    rfl

theorem splitFirst_delimited (hline : '\n' ∉ line) :
    splitFirst delimiter (line ++ delimiter ++ tail) = some (line, tail) := by
  induction line with
  | nil => rfl
  | cons c line ih =>
    have hhead : delimiter.isPrefixOf (c :: (line ++ delimiter ++ tail)) = false := by
      refine Bool.eq_false_iff.2 fun h => ?_
      obtain ⟨rest, hrest⟩ := isPrefixOf_delimiter h
      match line, hline with
      | [], _ => simp [delimiter] at hrest
      | [_], _ => simp [delimiter] at hrest
      | [_, _], _ => simp [delimiter] at hrest
      | d :: e :: f :: _, hline =>
        simp only [List.cons_append, List.cons.injEq] at hrest
        obtain ⟨-, -, -, rfl, -⟩ := hrest
        exact hline (by simp)
    rw [List.cons_append, List.cons_append, splitFirst, hhead, ih fun h => hline (List.mem_cons_of_mem _ h)]
    rfl

theorem splitlines_line (hline : ∀ c ∈ line, isLineBreak c = false) :
    splitlines (line ++ '\n' :: tail) = line :: splitlines tail := by
  induction line with
  | nil => rfl
  | cons c line ih =>
    obtain ⟨hc, hline⟩ := List.forall_mem_cons.1 hline
    rw [List.cons_append]
    have hcr : c ≠ '\r' := by
      rintro rfl
      exact absurd hc (by decide)
    rw [splitlines, hc, ih hline]
    · rfl
    · rintro cs rfl _
      exact hcr rfl

theorem splitlines_last (hline : ∀ c ∈ line, isLineBreak c = false) (hne : line ≠ []) : splitlines line = [line] := by
  induction line with
  | nil => exact absurd rfl hne
  | cons c line ih =>
    obtain ⟨hc, hline⟩ := List.forall_mem_cons.1 hline
    have hcr : c ≠ '\r' := by
      rintro rfl
      exact absurd hc (by decide)
    rw [splitlines, hc]
    · cases line with
      | nil => rfl
      | cons d line => rw [ih hline (List.cons_ne_nil _ _)]; rfl
    · rintro cs rfl _
      exact hcr rfl

/-- Text mode leaves what has no carriage return. -/
theorem universalNewlines_append (h : '\r' ∉ l) : universalNewlines (l ++ tail) = l ++ universalNewlines tail := by
  induction l with
  | nil => rfl
  | cons c l ih =>
    have hcr : c ≠ '\r' := fun he => h (he ▸ List.mem_cons_self)
    rw [List.cons_append, universalNewlines, ih fun hmem => h (List.mem_cons_of_mem _ hmem), List.cons_append]
    · rintro cs rfl _
      exact hcr rfl
    · exact hcr

theorem cr_not_mem_universalNewlines (l : List Char) : '\r' ∉ universalNewlines l := by
  fun_induction universalNewlines l with
  | case1 => exact List.not_mem_nil
  | case2 cs ih => exact fun h => (List.mem_cons.1 h).elim (by decide) ih
  | case3 cs _ ih => exact fun h => (List.mem_cons.1 h).elim (by decide) ih
  | case4 c cs _ hc ih => exact fun h => (List.mem_cons.1 h).elim (fun he => hc he.symm) ih

theorem isSpace_universalNewlines (h : ∀ c ∈ l, isSpace c = true) : ∀ c ∈ universalNewlines l, isSpace c = true := by
  fun_induction universalNewlines l with
  | case1 => exact h
  | case2 cs ih => exact List.forall_mem_cons.2 ⟨by decide, ih fun c hc => h c (by simp [hc])⟩
  | case3 cs _ ih => exact List.forall_mem_cons.2 ⟨by decide, ih fun c hc => h c (by simp [hc])⟩
  | case4 c cs _ hc ih =>
    obtain ⟨hspace, hrest⟩ := List.forall_mem_cons.1 h
    exact List.forall_mem_cons.2 ⟨hspace, ih hrest⟩

theorem mem_universalNewlines {c : Char} (hcr : c ≠ '\r') (h : c ∈ l) : c ∈ universalNewlines l := by
  fun_induction universalNewlines l with
  | case1 => exact h
  | case2 cs ih =>
    have hrest : c ∈ '\n' :: cs := (List.mem_cons.1 h).resolve_left hcr
    exact (List.mem_cons.1 hrest).elim (fun he => he ▸ List.mem_cons_self) fun hmem => List.mem_cons_of_mem _ (ih hmem)
  | case3 cs _ ih => exact List.mem_cons_of_mem _ (ih ((List.mem_cons.1 h).resolve_left hcr))
  | case4 d cs _ _ ih =>
    exact (List.mem_cons.1 h).elim (fun he => he ▸ List.mem_cons_self) fun hmem => List.mem_cons_of_mem _ (ih hmem)

/-- A line break is not behind the next character. -/
theorem universalNewlines_append_cons {c : Char} (hc : c ≠ '\n') :
    universalNewlines (l ++ c :: tail) = universalNewlines l ++ universalNewlines (c :: tail) := by
  fun_induction universalNewlines l with
  | case1 => rfl
  | case2 cs ih => rw [List.cons_append, List.cons_append, universalNewlines, ih, List.cons_append]
  | case3 cs hcs ih =>
    rw [List.cons_append, universalNewlines, ih, List.cons_append]
    intro cs' hcs'
    cases cs with
    | nil => exact hc (List.cons.inj hcs').1
    | cons d cs =>
      rw [List.cons_append] at hcs'
      exact hcs cs (by rw [(List.cons.inj hcs').1])
  | case4 d cs _ hd ih =>
    rw [List.cons_append, universalNewlines, ih, List.cons_append]
    · exact fun cs' he _ => hd he
    · exact hd

theorem isSpace_head {c : Char} (h : stripChars (c :: l) = c :: l) : isSpace c = false := by
  cases hspace : isSpace c with
  | false => rfl
  | true =>
    have hlength := (List.rdropWhile_prefix isSpace ((c :: l).dropWhile isSpace)).length_le
    rw [← stripChars, h, List.dropWhile_cons_of_pos hspace, List.length_cons] at hlength
    have hle := (List.dropWhile_sublist (p := isSpace) (l := l)).length_le
    omega

theorem stripChars_between {a b : List Char} (ha : ∀ c ∈ a, isSpace c = true) (hb : ∀ c ∈ b, isSpace c = true)
    (hl : stripChars l = l) : stripChars (a ++ (l ++ b)) = l := by
  have hend : ∀ c ∈ b.reverse, isSpace c = true := fun c hc => hb c (List.mem_reverse.1 hc)
  rw [stripChars, List.dropWhile_append_of_pos ha]
  cases hcase : l with
  | nil => rw [List.nil_append, List.dropWhile_eq_nil_iff.2 hb, List.rdropWhile_nil]
  | cons c rest =>
    have hhead : isSpace c = false := isSpace_head (by rw [← hcase, hl])
    rw [List.cons_append, List.dropWhile_cons_of_neg (by rw [hhead]; exact Bool.false_ne_true), ← List.cons_append, ← hcase,
      List.rdropWhile, List.reverse_append, List.dropWhile_append_of_pos hend]
    conv_rhs => rw [← hl]
    rw [stripChars, hcase, List.dropWhile_cons_of_neg (by rw [hhead]; exact Bool.false_ne_true), List.rdropWhile]

theorem stripChars_split (l : List Char) : ∃ a b, l = a ++ (stripChars l ++ b) ∧ (∀ c ∈ a, isSpace c = true) ∧
    (∀ c ∈ b, isSpace c = true) ∧ stripChars (stripChars l) = stripChars l := by
  refine ⟨l.takeWhile isSpace, (l.dropWhile isSpace).rtakeWhile isSpace, ?_, fun c hc => List.mem_takeWhile_imp hc,
    fun c hc => List.mem_rtakeWhile_imp hc, ?_⟩
  · rw [stripChars, List.rdropWhile_append_rtakeWhile, List.takeWhile_append_dropWhile]
  · have hstrip := congrArg String.toList (strip_strip (String.ofList l))
    simp only [strip, String.toList_ofList] at hstrip
    exact hstrip

theorem stripChars_ne_nil {c : Char} (hspace : isSpace c = false) (h : c ∈ l) : stripChars l ≠ [] := by
  obtain ⟨a, b, hl, ha, hb, -⟩ := stripChars_split l
  intro hnil
  rw [hnil, List.nil_append] at hl
  rw [hl] at h
  have htrue : isSpace c = true := (List.mem_append.1 h).elim (ha c) (hb c)
  rw [hspace] at htrue
  cases htrue

/-- Text mode leaves a stripped text that has no carriage return, and no other. -/
theorem stripChars_universalNewlines (l : List Char) :
    stripChars (universalNewlines l) = stripChars l ↔ '\r' ∉ stripChars l := by
  constructor
  · intro h hmem
    rw [← h] at hmem
    exact cr_not_mem_universalNewlines l ((List.dropWhile_sublist _).subset ((List.rdropWhile_prefix _ _).subset hmem))
  · intro h
    obtain ⟨a, b, hl, ha, hb, hstrip⟩ := stripChars_split l
    cases hcase : stripChars l with
    | nil =>
      rw [hcase, List.nil_append] at hl
      have hall : ∀ c ∈ l, isSpace c = true := by
        intro c hc
        rw [hl] at hc
        exact (List.mem_append.1 hc).elim (ha c) (hb c)
      rw [stripChars, List.dropWhile_eq_nil_iff.2 (isSpace_universalNewlines hall), List.rdropWhile_nil]
    | cons c rest =>
      rw [hcase] at h hstrip
      have hnewline : c ≠ '\n' := by
        rintro rfl
        exact absurd (isSpace_head hstrip) (by decide)
      have htext : universalNewlines l = universalNewlines a ++ ((c :: rest) ++ universalNewlines b) := by
        rw [hl, hcase, List.cons_append, universalNewlines_append_cons hnewline, ← List.cons_append,
          universalNewlines_append h]
      rw [htext, stripChars_between (isSpace_universalNewlines ha) (isSpace_universalNewlines hb) hstrip]

end Texts

/-! Front matter as it is written. -/

def fieldLine (field : String) (value : List Char) : List Char := field.toList ++ ':' :: ' ' :: value

/-- A line for each field, with a line feed after each. -/
def fieldLines (fields : List String) (values : String → List Char) : List Char :=
  fields.flatMap fun field => fieldLine field (values field) ++ ['\n']

def articleFile (values : String → String) (body : String) : String :=
  String.ofList (delimiter ++ (fieldLines requiredFields (fun field => (values field).toList) ++ (delimiter ++ body.toList)))

def articleFrom (path : String) (values : String → String) (body : List Char) : Article where
  path := path
  title := values "title"
  date := values "date"
  category := values "category"
  slug := values "slug"
  status := values "status"
  description := values "description"
  source := values "source"
  cta := values "cta"
  image := values "image"
  body := String.ofList (stripChars body)

/-- A value that can stand on a line of its own. -/
structure PlainValue (value : String) : Prop where
  nonempty : value ≠ ""
  oneLine : ∀ c ∈ value.toList, isLineBreak c = false
  stripped : strip value = value
  unquoted : quotedBy '"' value.toList = false ∧ quotedBy (Char.ofNat 39) value.toList = false

structure ValidFields (interpreter : Interpreter) (values : String → String) : Prop where
  plain : ∀ field ∈ requiredFields, PlainValue (values field)
  slug : slugIsValid (values "slug") = true
  status : values "status" ∈ publicStatuses ∨ values "status" = "draft"
  image : startsWith (values "image") "/" = true ∨ startsWith (values "image") "https://" = true
  date : interpreter.isIsoDate (values "date") = true

/-- What is asked of a key. -/
structure PlainKey (key : List Char) : Prop where
  nonempty : key ≠ []
  colon : ':' ∉ key
  oneLine : ∀ c ∈ key, isLineBreak c = false
  stripped : stripChars key = key

theorem requiredFields_facts : (requiredFields.all fun field => field.toList ≠ [] ∧ ':' ∉ field.toList ∧
    (field.toList.all fun c => isLineBreak c = false) ∧ stripChars field.toList = field.toList) = true := by
  decide +kernel

theorem plainKey_of_mem {field : String} (h : field ∈ requiredFields) : PlainKey field.toList := by
  have hfacts := of_decide_eq_true (List.all_eq_true.1 requiredFields_facts field h)
  exact ⟨hfacts.1, hfacts.2.1, fun c hc => of_decide_eq_true (List.all_eq_true.1 hfacts.2.2.1 c hc), hfacts.2.2.2⟩

section Lines

variable {path : String} {fields : List String} {values : String → List Char} {field : String} {value l last : List Char}
  {frontmatter : Frontmatter}

theorem newline_not_mem (h : ∀ c ∈ l, isLineBreak c = false) : '\n' ∉ l := fun hmem => absurd (h _ hmem) (by decide)

theorem cr_not_mem (h : ∀ c ∈ l, isLineBreak c = false) : '\r' ∉ l := fun hmem => absurd (h _ hmem) (by decide)

theorem oneLine_fieldLine (hkey : PlainKey field.toList) (hvalue : ∀ c ∈ value, isLineBreak c = false) :
    ∀ c ∈ fieldLine field value, isLineBreak c = false := by
  intro c hc
  rcases List.mem_append.1 hc with hc | hc
  · exact hkey.oneLine c hc
  · rcases List.mem_cons.1 hc with rfl | hc
    · decide
    rcases List.mem_cons.1 hc with rfl | hc
    · decide
    · exact hvalue c hc

/-- A line ends in three hyphens when its value does. -/
theorem suffix_fieldLine : ['-', '-', '-'] <:+ fieldLine field value ↔ ['-', '-', '-'] <:+ value := by
  have happend : fieldLine field value = (field.toList ++ [':', ' ']) ++ value := by simp [fieldLine]
  constructor
  · intro h
    rw [happend] at h
    by_cases hlength : 3 ≤ value.length
    · exact List.suffix_of_suffix_length_le h (List.suffix_append _ _) hlength
    · -- a shorter value has the space in front of it
      have hspace : ' ' :: value <:+ ['-', '-', '-'] :=
        List.suffix_of_suffix_length_le (by rw [← happend]; exact ⟨field.toList ++ [':'], by simp [fieldLine]⟩) h
          (by simp only [List.length_cons, List.length_nil]; omega)
      exact absurd (hspace.subset List.mem_cons_self) (by decide)
  · intro h
    rw [happend]
    exact h.trans (List.suffix_append _ _)

theorem splitFirst_colon {key rest : List Char} (hkey : ':' ∉ key) : splitFirst [':'] (key ++ ':' :: rest) = some (key, rest) := by
  induction key with
  | nil => rfl
  | cons c key ih =>
    have hc : [':'].isPrefixOf (c :: (key ++ ':' :: rest)) = false := by
      have hne : (':' == c) = false := beq_eq_false_iff_ne.2 fun he => hkey (he ▸ List.mem_cons_self)
      simp [List.isPrefixOf, hne]
    rw [List.cons_append, splitFirst, hc, ih fun h => hkey (List.mem_cons_of_mem _ h)]
    rfl

theorem parseFrontmatterLine_fieldLine (hkey : PlainKey field.toList) (hnew : field.toList ∉ frontmatter.map (·.1)) (n : ℕ) :
    parseFrontmatterLine path frontmatter (fieldLine field value, n) =
      .ok (frontmatter ++ [(field.toList, parseFrontmatterValue value)]) := by
  have hspace : parseFrontmatterValue (' ' :: value) = parseFrontmatterValue value := by
    have hstrip : stripChars (' ' :: value) = stripChars value := by
      rw [stripChars, List.dropWhile_cons_of_pos (by decide), stripChars]
    rw [parseFrontmatterValue, hstrip, parseFrontmatterValue]
  have hline : stripChars (fieldLine field value) ≠ [] := by
    intro hnil
    have hall : ∀ c ∈ (fieldLine field value).dropWhile isSpace, isSpace c = true := by
      rw [stripChars, List.rdropWhile_eq_nil_iff] at hnil
      exact hnil
    have hcolon : ':' ∈ (fieldLine field value).dropWhile isSpace := by
      have hmem : ':' ∈ fieldLine field value := by simp [fieldLine]
      rw [← List.takeWhile_append_dropWhile (p := isSpace) (l := fieldLine field value)] at hmem
      exact (List.mem_append.1 hmem).resolve_left fun h => absurd (List.mem_takeWhile_imp h) (by decide)
    exact absurd (hall _ hcolon) (by decide)
  have hsplit : splitFirst [':'] (fieldLine field value) = some (field.toList, ' ' :: value) := splitFirst_colon hkey.colon
  simp only [parseFrontmatterLine, if_neg hline, hsplit, bind_eq_ok, orRaise_eq_ok, raiseIf_eq_ok, pure_eq_ok]
  refine ⟨_, rfl, (), ?_, ?_⟩
  · rw [hkey.stripped]
    exact hnew
  · rw [hkey.stripped, hspace]

/-- The front matter has the values of its lines; the last need not end. -/
theorem foldlM_fieldLines (hkeys : ∀ field ∈ fields, PlainKey field.toList) (hnodup : fields.Nodup)
    (hnew : ∀ field ∈ fields, field.toList ∉ frontmatter.map (·.1)) (n : ℕ) :
    ((fields.map fun field => fieldLine field (values field)).zipIdx n).foldlM (parseFrontmatterLine path) frontmatter =
      .ok (frontmatter ++ fields.map fun field => (field.toList, parseFrontmatterValue (values field))) := by
  induction fields generalizing frontmatter n with
  | nil => simp only [List.map_nil, List.zipIdx_nil, List.foldlM_nil, List.append_nil]; rfl
  | cons field fields ih =>
    obtain ⟨hkey, hkeys⟩ := List.forall_mem_cons.1 hkeys
    obtain ⟨hfresh, hnew⟩ := List.forall_mem_cons.1 hnew
    obtain ⟨hnot, hnodup⟩ := List.nodup_cons.1 hnodup
    rw [List.map_cons, List.zipIdx_cons, List.foldlM_cons, parseFrontmatterLine_fieldLine hkey hfresh]
    have hrest : ∀ other ∈ fields, other.toList ∉ (frontmatter ++
        [(field.toList, parseFrontmatterValue (values field))]).map (·.1) := by
      intro other hother hmem
      rw [List.map_append, List.mem_append] at hmem
      rcases hmem with hmem | hmem
      · exact hnew other hother hmem
      · have heq : other = field := String.toList_injective (List.mem_singleton.1 hmem)
        exact hnot (heq ▸ hother)
    have htail := ih hkeys hnodup hrest (n + 1)
    rw [List.append_assoc] at htail
    exact htail

theorem splitlines_fieldLines (hkeys : ∀ field ∈ fields, PlainKey field.toList)
    (hvalues : ∀ field ∈ fields, ∀ c ∈ values field, isLineBreak c = false) (last : List Char) :
    splitlines (fieldLines fields values ++ last) = (fields.map fun field => fieldLine field (values field)) ++ splitlines last := by
  induction fields with
  | nil => rfl
  | cons field fields ih =>
    obtain ⟨hkey, hkeys⟩ := List.forall_mem_cons.1 hkeys
    obtain ⟨hvalue, hvalues⟩ := List.forall_mem_cons.1 hvalues
    have hsplit : fieldLines (field :: fields) values ++ last =
        fieldLine field (values field) ++ '\n' :: (fieldLines fields values ++ last) := by
      simp [fieldLines]
    rw [hsplit, splitlines_line (oneLine_fieldLine hkey hvalue), ih hkeys hvalues]
    rfl

/-- Lines that do not end in three hyphens are passed. -/
theorem splitFirst_fieldLines (hkeys : ∀ field ∈ fields, PlainKey field.toList)
    (hvalues : ∀ field ∈ fields, ∀ c ∈ values field, isLineBreak c = false)
    (hend : ∀ field ∈ fields, ¬ ['-', '-', '-'] <:+ values field) (tail : List Char) :
    splitFirst delimiter (fieldLines fields values ++ tail) =
      (splitFirst delimiter tail).map fun parts => (fieldLines fields values ++ parts.1, parts.2) := by
  induction fields with
  | nil =>
    cases h : splitFirst delimiter tail <;> simp [fieldLines, h]
  | cons field fields ih =>
    obtain ⟨hkey, hkeys⟩ := List.forall_mem_cons.1 hkeys
    obtain ⟨hvalue, hvalues⟩ := List.forall_mem_cons.1 hvalues
    obtain ⟨hhyphens, hend⟩ := List.forall_mem_cons.1 hend
    have hsplit (l : List Char) : fieldLines (field :: fields) values ++ l =
        fieldLine field (values field) ++ '\n' :: (fieldLines fields values ++ l) := by
      simp [fieldLines]
    rw [hsplit, splitFirst_line (newline_not_mem (oneLine_fieldLine hkey hvalue)) (by rwa [suffix_fieldLine]),
      ih hkeys hvalues hend, Option.map_map]
    congr 1
    funext parts
    simp only [Function.comp_apply, hsplit]

theorem lookup_fields {f : String → Option (List Char)} (h : field ∈ fields) :
    (fields.map fun other => (other.toList, f other)).lookup field.toList = some (f field) := by
  induction fields with
  | nil => cases h
  | cons other fields ih =>
    rw [List.map_cons, List.lookup_cons]
    by_cases heq : field = other
    · simp [heq]
    · have hne : (field.toList == other.toList) = false :=
        beq_eq_false_iff_ne.2 fun he => heq (String.toList_injective he)
      rw [hne]
      exact ih ((List.mem_cons.1 h).resolve_left heq)

/-- The value of a field is no longer than what is written. -/
theorem length_data_le (h : field ∈ fields) :
    (Frontmatter.data (fields.map fun other => (other.toList, parseFrontmatterValue (values other))) field).length ≤
      (values field).length := by
  have hstrip : ∀ l : List Char, (stripChars l).length ≤ l.length := fun l =>
    (List.rdropWhile_prefix _ _).length_le.trans (List.dropWhile_sublist _).length_le
  have hparse : ∀ l, parseFrontmatterValue (values field) = some l → l.length ≤ (values field).length := by
    intro l hl
    have hle := hstrip (values field)
    unfold parseFrontmatterValue at hl
    dsimp only at hl
    split at hl
    · cases hl
    · split at hl
      · obtain rfl := Option.some.inj hl
        rw [List.length_dropLast, List.length_tail]
        omega
      · obtain rfl := Option.some.inj hl
        exact hle
  rw [Frontmatter.data, Frontmatter.value?, lookup_fields h, Option.join_some]
  cases hvalue : parseFrontmatterValue (values field) with
  | none => simp [strip]
  | some l =>
    rw [Option.map_some, Option.getD_some, ← String.length_toList, strip, String.toList_ofList, String.toList_ofList]
    exact (hstrip l).trans (hparse l hvalue)

end Lines

section File

variable {path : String} {interpreter : Interpreter} {text : String} {rest : List Char} {article : Article}

theorem delimiter_eq : "---\n".toList = delimiter := rfl

/-- What a file that begins with the delimiter has passed when it is read. -/
theorem parseArticleFile_eq_ok (htext : universalNewlines text.toList = delimiter ++ rest) :
    parseArticleFile path interpreter text = .ok article ↔
      ∃ frontmatterText body frontmatter, splitFirst delimiter rest = some (frontmatterText, body) ∧
        parseFrontmatter path frontmatterText = .ok frontmatter ∧
        (requiredFields.filter fun field => frontmatter.value? field = none) = [] ∧
        slugIsValid (frontmatter.data "slug") = true ∧
        (frontmatter.data "status" ∈ publicStatuses ∨ frontmatter.data "status" = "draft") ∧
        (startsWith (frontmatter.data "image") "/" = true ∨ startsWith (frontmatter.data "image") "https://" = true) ∧
        interpreter.isIsoDate (frontmatter.data "date") = true ∧ stripChars body ≠ [] ∧
        article = articleFrom path frontmatter.data body := by
  have hhead : delimiter.isPrefixOf (delimiter ++ rest) = true := List.isPrefixOf_iff_prefix.2 (List.prefix_append _ _)
  have hdrop : (delimiter ++ rest).drop delimiter.length = rest := List.drop_left
  simp only [parseArticleFile, delimiter_eq, htext, hdrop, bind_eq_ok, raiseIf_eq_ok, orRaise_eq_ok, pure_eq_ok, Prod.exists]
  constructor
  · rintro ⟨-, -, frontmatterText, body, hsplit, frontmatter, hparse, -, hmissing, -, hslug, -, hstatus, -, himage, -, hdate,
      -, hbody, harticle⟩
    refine ⟨frontmatterText, body, frontmatter, hsplit, hparse, not_not.1 hmissing, ?_, ?_, ?_, ?_, hbody, harticle.symm⟩
    · exact Bool.not_eq_false _ ▸ hslug
    · by_contra hnot
      exact hstatus (not_or.1 hnot)
    · by_contra hnot
      rw [not_or, Bool.not_eq_true, Bool.not_eq_true] at hnot
      exact himage hnot
    · exact Bool.not_eq_false _ ▸ hdate
  · rintro ⟨frontmatterText, body, frontmatter, hsplit, hparse, hmissing, hslug, hstatus, himage, hdate, hbody, rfl⟩
    refine ⟨(), by simp [hhead], frontmatterText, body, hsplit, frontmatter, hparse, (), not_not.2 hmissing,
      (), by simp [hslug], (), ?_, (), ?_, (), by simp [hdate], (), hbody, rfl⟩
    · exact fun hnot => hstatus.elim hnot.1 hnot.2
    · rintro ⟨hslash, hhttps⟩
      rw [hslash, hhttps] at himage
      exact himage.elim Bool.false_ne_true Bool.false_ne_true

variable {values : String → String} {body : String} {field : String}

theorem articleFrom_inj {values values' : String → String} {body body' : List Char}
    (h : articleFrom path values body = articleFrom path values' body') :
    (∀ field ∈ requiredFields, values field = values' field) ∧ stripChars body = stripChars body' := by
  simp only [articleFrom, Article.mk.injEq, true_and] at h
  obtain ⟨htitle, hdate, hcategory, hslug, hstatus, hdescription, hsource, hcta, himage, hbody⟩ := h
  refine ⟨?_, String.ofList_injective hbody⟩
  simp only [requiredFields, List.forall_mem_cons]
  exact ⟨htitle, hdate, hcategory, hslug, hstatus, hdescription, hsource, hcta, himage, fun _ h => (by cases h)⟩

theorem articleFrom_congr {values' : String → String} {body body' : List Char}
    (hvalues : ∀ field ∈ requiredFields, values field = values' field) (hbody : stripChars body = stripChars body') :
    articleFrom path values body = articleFrom path values' body' := by
  simp only [requiredFields, List.forall_mem_cons] at hvalues
  obtain ⟨htitle, hdate, hcategory, hslug, hstatus, hdescription, hsource, hcta, himage, -⟩ := hvalues
  simp only [articleFrom, htitle, hdate, hcategory, hslug, hstatus, hdescription, hsource, hcta, himage, hbody]

theorem nodup_requiredFields : requiredFields.Nodup := by decide

/-- The file in text mode. -/
theorem universalNewlines_articleFile (hplain : ∀ field ∈ requiredFields, PlainValue (values field)) :
    universalNewlines (articleFile values body).toList =
      delimiter ++ (fieldLines requiredFields (fun field => (values field).toList) ++
        (delimiter ++ universalNewlines body.toList)) := by
  have hlines : '\r' ∉ fieldLines requiredFields fun field => (values field).toList := by
    intro hmem
    obtain ⟨field, hfield, hmem⟩ := List.mem_flatMap.1 hmem
    rcases List.mem_append.1 hmem with hmem | hmem
    · exact cr_not_mem (oneLine_fieldLine (plainKey_of_mem hfield) (hplain field hfield).oneLine) hmem
    · exact absurd (List.mem_singleton.1 hmem) (by decide)
  have hdelimiter : '\r' ∉ delimiter := by decide
  rw [articleFile, String.toList_ofList, universalNewlines_append hdelimiter, universalNewlines_append hlines,
    universalNewlines_append hdelimiter]

theorem parseFrontmatter_fieldLines {fields : List String} {values : String → List Char}
    (hfields : ∀ field ∈ fields, field ∈ requiredFields) (hnodup : fields.Nodup) {text : List Char}
    (htext : splitlines text = fields.map fun field => fieldLine field (values field)) :
    parseFrontmatter path text = .ok (fields.map fun field => (field.toList, parseFrontmatterValue (values field))) := by
  have hfold : ((fields.map fun field => fieldLine field (values field)).zipIdx 2).foldlM (parseFrontmatterLine path) [] =
      .ok ([] ++ fields.map fun field => (field.toList, parseFrontmatterValue (values field))) :=
    foldlM_fieldLines (fun field hfield => plainKey_of_mem (hfields field hfield)) hnodup (fun _ _ => List.not_mem_nil) 2
  rw [parseFrontmatter, htext, hfold]
  rfl

/-- A field of plain values is read as it is written. -/
theorem value?_plain (hplain : PlainValue (values field)) (hfield : field ∈ requiredFields) :
    Frontmatter.value? (requiredFields.map fun other => (other.toList, parseFrontmatterValue (values other).toList)) field =
      some (values field) := by
  have hstrip : stripChars (values field).toList = (values field).toList := by
    have hstripped := congrArg String.toList hplain.stripped
    rw [strip, String.toList_ofList] at hstripped
    exact hstripped
  have hne : (values field).toList ≠ [] := fun hnil => hplain.nonempty (String.toList_eq_nil_iff.1 hnil)
  have hquoted : ¬ (quotedBy '"' (values field).toList = true ∨ quotedBy (Char.ofNat 39) (values field).toList = true) := by
    rw [hplain.unquoted.1, hplain.unquoted.2]
    decide
  have hparse : parseFrontmatterValue (values field).toList = some (values field).toList := by
    rw [parseFrontmatterValue, hstrip, if_neg hne, if_neg hquoted]
  rw [Frontmatter.value?, lookup_fields (f := fun other => parseFrontmatterValue (values other).toList) hfield, Option.join_some,
    hparse, Option.map_some, String.ofList_toList]

theorem suffix_iff_endsWith {value : String} : ['-', '-', '-'] <:+ value.toList ↔ endsWith value "---" = true := by
  rw [endsWith, List.isSuffixOf_iff_suffix]
  rfl

/-- In a file with a value that ends in three hyphens, the front matter ends there. -/
theorem not_ok_of_hyphens (hplain : ∀ field ∈ requiredFields, PlainValue (values field))
    (hhyphens : ∃ field ∈ requiredFields, endsWith (values field) "---" = true) :
    parseArticleFile path interpreter (articleFile values body) ≠ .ok (articleFrom path values body.toList) := by
  intro hok
  obtain ⟨fields, field, others, hsplit, hfields, hends⟩ : ∃ fields field others, requiredFields = fields ++ field :: others ∧
      (∀ other ∈ fields, ¬ ['-', '-', '-'] <:+ (values other).toList) ∧ ['-', '-', '-'] <:+ (values field).toList := by
    have happend := List.takeWhile_append_dropWhile (p := fun other => !endsWith (values other) "---") (l := requiredFields)
    cases hdrop : requiredFields.dropWhile fun other => !endsWith (values other) "---" with
    | nil =>
      obtain ⟨field, hfield, hends⟩ := hhyphens
      have hnot := List.dropWhile_eq_nil_iff.1 hdrop field hfield
      rw [hends] at hnot
      cases hnot
    | cons field others =>
      rw [hdrop] at happend
      refine ⟨_, field, others, happend.symm, fun other hother => ?_, ?_⟩
      · have hnot := List.mem_takeWhile_imp hother
        rw [suffix_iff_endsWith]
        simpa using hnot
      · have hhead := List.head_dropWhile_not (fun other => !endsWith (values other) "---") (l := requiredFields)
          (by rw [hdrop]; exact List.cons_ne_nil _ _)
        simp only [hdrop, List.head_cons] at hhead
        rw [suffix_iff_endsWith]
        simpa using hhead
  obtain ⟨front, hfront⟩ := hends
  have hmem : field ∈ requiredFields := by rw [hsplit]; simp
  have hearlier : ∀ other ∈ fields, other ∈ requiredFields := fun other hother => by rw [hsplit]; simp [hother]
  have hnot : field ∉ fields := by
    have hnodup := nodup_requiredFields
    rw [hsplit] at hnodup
    exact fun hfield => (List.nodup_append.1 hnodup).2.2 _ hfield _ List.mem_cons_self rfl
  have honeLine : ∀ c ∈ front, isLineBreak c = false := fun c hc =>
    (hplain field hmem).oneLine c (by rw [← hfront]; exact List.mem_append_left _ hc)
  -- the lines up to the value, of which the last is cut short
  have hcut : ∃ tail, fieldLines requiredFields (fun other => (values other).toList) ++
      (delimiter ++ universalNewlines body.toList) =
        fieldLines fields (fun other => (values other).toList) ++ (fieldLine field front ++ delimiter ++ tail) := by
    refine ⟨fieldLines others (fun other => (values other).toList) ++ (delimiter ++ universalNewlines body.toList), ?_⟩
    have hline : fieldLines requiredFields (fun other => (values other).toList) =
        fieldLines fields (fun other => (values other).toList) ++ (fieldLine field (values field).toList ++
          '\n' :: fieldLines others fun other => (values other).toList) := by
      simp [hsplit, fieldLines]
    rw [hline, ← hfront]
    simp [fieldLine, delimiter]
  obtain ⟨tail, htail⟩ := hcut
  have hfirst : splitFirst delimiter (fieldLines requiredFields (fun other => (values other).toList) ++
      (delimiter ++ universalNewlines body.toList)) =
        some (fieldLines fields (fun other => (values other).toList) ++ fieldLine field front, tail) := by
    rw [htail, splitFirst_fieldLines (fun other hother => plainKey_of_mem (hearlier other hother))
      (fun other hother => (hplain other (hearlier other hother)).oneLine) hfields,
      splitFirst_delimited (newline_not_mem (oneLine_fieldLine (plainKey_of_mem hmem) honeLine))]
    rfl
  obtain ⟨frontmatterText, body', frontmatter, hsplit', hparse, -, -, -, -, -, -, harticle⟩ :=
    (parseArticleFile_eq_ok (universalNewlines_articleFile hplain)).1 hok
  obtain ⟨rfl, rfl⟩ := Prod.mk.inj (Option.some.inj (hsplit'.symm.trans hfirst))
  have hlines : splitlines (fieldLines fields (fun other => (values other).toList) ++ fieldLine field front) =
      (fields ++ [field]).map fun other =>
        fieldLine other (Function.update (fun other => (values other).toList) field front other) := by
    rw [splitlines_fieldLines (fun other hother => plainKey_of_mem (hearlier other hother))
      (fun other hother => (hplain other (hearlier other hother)).oneLine),
      splitlines_last (oneLine_fieldLine (plainKey_of_mem hmem) honeLine) (by simp [fieldLine]), List.map_append]
    refine congrArg₂ (· ++ ·) ?_ ?_
    · refine List.map_congr_left fun other hother => ?_
      have hne : other ≠ field := fun he => hnot (by rw [← he]; exact hother)
      rw [Function.update_of_ne hne]
    · rw [List.map_singleton, Function.update_self]
  have hboth : ∀ other ∈ fields ++ [field], other ∈ requiredFields := fun other hother =>
    (List.mem_append.1 hother).elim (hearlier other) fun h => List.mem_singleton.1 h ▸ hmem
  have hnodup : (fields ++ [field]).Nodup := by
    have hall := nodup_requiredFields
    rw [hsplit, List.append_cons] at hall
    exact (List.nodup_append.1 hall).1
  have hfrontmatter := (parseFrontmatter_fieldLines hboth hnodup hlines).symm.trans hparse
  have hsame := (articleFrom_inj harticle).1 field hmem
  -- the value that is read is shorter than the one that was written
  have hle : (Frontmatter.data ((fields ++ [field]).map fun other => (other.toList, parseFrontmatterValue
      (Function.update (fun other => (values other).toList) field front other))) field).length ≤
        (Function.update (fun other => (values other).toList) field front field).length :=
    length_data_le (List.mem_append_right fields (List.mem_singleton.2 rfl))
  rw [Except.ok.inj hfrontmatter, ← hsame, Function.update_self, ← String.length_toList, ← hfront, List.length_append] at hle
  simp only [List.length_cons, List.length_nil] at hle
  omega

end File

/-- An article is read as it was written just when no value ends in three hyphens and the body
has no carriage return but at its ends. -/
theorem article_round_trip_iff {path : String} {interpreter : Interpreter} {values : String → String} {body : String}
    (hvalid : ValidFields interpreter values) (hbody : ∃ c ∈ body.toList, isSpace c = false) :
    parseArticleFile path interpreter (articleFile values body) = .ok (articleFrom path values body.toList) ↔
      (∀ field ∈ requiredFields, endsWith (values field) "---" = false) ∧ '\r' ∉ stripChars body.toList := by
  by_cases hhyphens : ∃ field ∈ requiredFields, endsWith (values field) "---" = true
  · refine iff_of_false (not_ok_of_hyphens hvalid.plain hhyphens) ?_
    rintro ⟨hno, -⟩
    obtain ⟨field, hfield, hends⟩ := hhyphens
    rw [hno field hfield] at hends
    cases hends
  · have hno : ∀ field ∈ requiredFields, endsWith (values field) "---" = false :=
      fun field hfield => Bool.eq_false_iff.2 fun hends => hhyphens ⟨field, hfield, hends⟩
    have hfirst : splitFirst delimiter (fieldLines requiredFields (fun field => (values field).toList) ++
        (delimiter ++ universalNewlines body.toList)) =
          some (fieldLines requiredFields (fun field => (values field).toList) ++ [], universalNewlines body.toList) := by
      rw [splitFirst_fieldLines (fun field => plainKey_of_mem) (fun field hfield => (hvalid.plain field hfield).oneLine)
        (fun field hfield => by rw [suffix_iff_endsWith, hno field hfield]; exact Bool.false_ne_true)]
      rfl
    have hlines := splitlines_fieldLines (fun field => plainKey_of_mem)
      (fun field hfield => (hvalid.plain field hfield).oneLine) []
    have hparse : parseFrontmatter path _ = .ok (requiredFields.map fun field =>
        (field.toList, parseFrontmatterValue (values field).toList)) :=
      parseFrontmatter_fieldLines (fun _ h => h) nodup_requiredFields (hlines.trans (List.append_nil _))
    have hvalue : ∀ field ∈ requiredFields, Frontmatter.value? (requiredFields.map fun other =>
        (other.toList, parseFrontmatterValue (values other).toList)) field = some (values field) :=
      fun field hfield => value?_plain (hvalid.plain field hfield) hfield
    have hdata : ∀ field ∈ requiredFields, Frontmatter.data (requiredFields.map fun other =>
        (other.toList, parseFrontmatterValue (values other).toList)) field = values field := by
      intro field hfield
      rw [Frontmatter.data, hvalue field hfield, Option.getD_some, (hvalid.plain field hfield).stripped]
    have hstripped : stripChars (universalNewlines body.toList) ≠ [] := by
      obtain ⟨c, hc, hspace⟩ := hbody
      have hcr : c ≠ '\r' := by
        rintro rfl
        exact absurd hspace (by decide)
      exact stripChars_ne_nil hspace (mem_universalNewlines hcr hc)
    rw [← stripChars_universalNewlines, parseArticleFile_eq_ok (universalNewlines_articleFile hvalid.plain)]
    constructor
    · rintro ⟨frontmatterText, body', frontmatter, hsplit, -, -, -, -, -, -, -, harticle⟩
      obtain ⟨rfl, rfl⟩ := Prod.mk.inj (Option.some.inj (hsplit.symm.trans hfirst))
      exact ⟨hno, (articleFrom_inj harticle).2.symm⟩
    · rintro ⟨-, hsame⟩
      refine ⟨_, _, _, hfirst, hparse, ?_, ?_, ?_, ?_, ?_, hstripped, ?_⟩
      · refine List.filter_eq_nil_iff.2 fun field hfield => ?_
        rw [hvalue field hfield]
        simp
      · rw [hdata "slug" (by decide)]
        exact hvalid.slug
      · rw [hdata "status" (by decide)]
        exact hvalid.status
      · rw [hdata "image" (by decide)]
        exact hvalid.image
      · rw [hdata "date" (by decide)]
        exact hvalid.date
      · exact (articleFrom_congr hdata hsame).symm

/-- The fields of an article with a title. -/
def titled (title field : String) : String :=
  if field = "title" then title else if field = "slug" then "one" else if field = "status" then "approved"
  else if field = "image" then "/i.png" else if field = "date" then "2026-06-23" else "d"

theorem titled_facts : (["Plan A", "Plan A---"].all fun title =>
    (requiredFields.all fun field => titled title field ≠ "" ∧
      ((titled title field).toList.all fun c => isLineBreak c = false) ∧ strip (titled title field) = titled title field ∧
      quotedBy '"' (titled title field).toList = false ∧ quotedBy (Char.ofNat 39) (titled title field).toList = false) ∧
    slugIsValid (titled title "slug") = true ∧ startsWith (titled title "image") "/" = true ∧
    demoInterpreter.isIsoDate (titled title "date") = true) = true := by
  decide +kernel

theorem validFields_titled {title : String} (h : title ∈ ["Plan A", "Plan A---"]) :
    ValidFields demoInterpreter (titled title) := by
  obtain ⟨hfields, hslug, himage, hdate⟩ := of_decide_eq_true (List.all_eq_true.1 titled_facts title h)
  have hstatus : titled title "status" = "approved" := by
    rw [titled, if_neg (by decide), if_neg (by decide), if_pos rfl]
  refine ⟨fun field hfield => ?_, hslug, Or.inl (by rw [hstatus]; exact List.mem_cons_self), Or.inl himage, hdate⟩
  obtain ⟨hnonempty, hline, hstrip, hquoted⟩ := of_decide_eq_true (List.all_eq_true.1 hfields field hfield)
  exact ⟨hnonempty, fun c hc => of_decide_eq_true (List.all_eq_true.1 hline c hc), hstrip, hquoted⟩

/-- The theorem at a title without hyphens. -/
theorem article_round_trip_plan :
    parseArticleFile "plan.md" demoInterpreter (articleFile (titled "Plan A") "Text\n") =
        .ok (articleFrom "plan.md" (titled "Plan A") "Text\n".toList) ↔
      (∀ field ∈ requiredFields, endsWith (titled "Plan A" field) "---" = false) ∧ '\r' ∉ stripChars "Text\n".toList :=
  article_round_trip_iff (validFields_titled List.mem_cons_self) ⟨'T', by simp, by decide⟩

/-- A title that ends in three hyphens is valid, and ends the front matter. -/
theorem round_trip_fails_at_hyphens : ValidFields demoInterpreter (titled "Plan A---") ∧
    (∃ c ∈ "Text\n".toList, isSpace c = false) ∧
    parseArticleFile "plan.md" demoInterpreter (articleFile (titled "Plan A---") "Text\n") ≠
      .ok (articleFrom "plan.md" (titled "Plan A---") "Text\n".toList) := by
  have hvalid : ValidFields demoInterpreter (titled "Plan A---") :=
    validFields_titled (List.mem_cons_of_mem _ List.mem_cons_self)
  exact ⟨hvalid, ⟨'T', by simp, by decide⟩, not_ok_of_hyphens hvalid.plain ⟨"title", List.mem_cons_self, by decide⟩⟩

end CoreOps.Content
