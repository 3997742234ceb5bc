import CoreOps.Lib.Lines

/-! The lines of a text on an image. Words are packed into lines as long as they fit, and a
word that is too wide is packed character by character; the width is only ever measured, so
nothing is asked of the font. -/

namespace CoreOps.Content

open Text

section Packing

variable (width : List Char → ℤ) (maxWidth : ℤ) (join : List Char → List Char → List Char)

/-- One round of either loop: what is packed, and the line at hand. -/
def pack (state : List (List Char) × List Char) (item : List Char) : List (List Char) × List Char :=
  let candidate := if state.2 = [] then item else join state.2 item
  if state.2 ≠ [] ∧ maxWidth < width candidate then (state.1 ++ [state.2], item) else (state.1, candidate)

/-- `if current: lines.append(current)`. -/
def flush (state : List (List Char) × List Char) : List (List Char) :=
  if state.2 ≠ [] then state.1 ++ [state.2] else state.1

/-- A line that is empty, that fits, or that cannot be made shorter. -/
def Fits (line : List Char) : Prop := line = [] ∨ width line ≤ maxWidth ∨ line.length = 1

/-- The text but for its white space. -/
def letters (l : List Char) : List Char := l.filter fun c => !isSpace c

/-- All lines fit, and they have the letters of what is packed. -/
structure Packed (state : List (List Char) × List Char) (packed : List Char) : Prop where
  lines : ∀ line ∈ state.1, Fits width maxWidth line
  current : Fits width maxWidth state.2
  keeps : letters (state.1.flatten ++ state.2) = packed

variable {width maxWidth join} {state : List (List Char) × List Char} {packed item : List Char}

@[simp] theorem letters_append (a b : List Char) : letters (a ++ b) = letters a ++ letters b := List.filter_append ..

@[simp] theorem letters_nil : letters [] = [] := rfl

theorem packed_nil : Packed width maxWidth ([], []) [] := ⟨fun _ h => absurd h List.not_mem_nil, Or.inl rfl, rfl⟩

theorem packed_flush (h : Packed width maxWidth state packed) :
    (∀ line ∈ flush state, Fits width maxWidth line) ∧ letters (flush state).flatten = packed := by
  unfold flush
  split_ifs with hcurrent
  · refine ⟨fun line hline => ?_, ?_⟩
    · rcases List.mem_append.1 hline with hline | hline
      · exact h.lines line hline
      · rw [List.mem_singleton.1 hline]
        exact h.current
    · rw [List.flatten_append, List.flatten_singleton]
      exact h.keeps
  · refine ⟨h.lines, ?_⟩
    rw [← h.keeps, not_not.1 hcurrent, List.append_nil]

/-- A round keeps what is packed, whatever the widths are. -/
theorem packed_pack (h : Packed width maxWidth state packed) (hjoin : ∀ a b, letters (join a b) = letters a ++ letters b)
    (hitem : Fits width maxWidth item) :
    Packed width maxWidth (pack width maxWidth join state item) (packed ++ letters item) := by
  obtain ⟨lines, current⟩ := state
  have hletters := h.keeps
  rw [letters_append] at hletters
  by_cases hcurrent : current = []
  · subst hcurrent
    refine ⟨h.lines, hitem, ?_⟩
    rw [← hletters]
    simp [pack]
  · by_cases hwidth : maxWidth < width (join current item)
    · have hpack : pack width maxWidth join (lines, current) item = (lines ++ [current], item) := by
        simp [pack, hcurrent, hwidth]
      rw [hpack]
      refine ⟨fun line hline => ?_, hitem, ?_⟩
      · rcases List.mem_append.1 hline with hline | hline
        · exact h.lines line hline
        · rw [List.mem_singleton.1 hline]
          exact h.current
      · rw [← hletters]
        simp
    · have hpack : pack width maxWidth join (lines, current) item = (lines, join current item) := by
        simp [pack, hcurrent, hwidth]
      rw [hpack]
      refine ⟨h.lines, Or.inr (Or.inl (Int.not_lt.1 hwidth)), ?_⟩
      rw [letters_append, hjoin, ← hletters, List.append_assoc]

theorem packed_foldl {items : List (List Char)} (h : Packed width maxWidth state packed)
    (hjoin : ∀ a b, letters (join a b) = letters a ++ letters b)
    (hitems : ∀ item ∈ items, Fits width maxWidth item) :
    Packed width maxWidth (items.foldl (pack width maxWidth join) state)
      (packed ++ letters items.flatten) := by
  induction items generalizing state packed with
  | nil => simpa using h
  | cons item items ih =>
    obtain ⟨hitem, hitems⟩ := List.forall_mem_cons.1 hitems
    have hrest := ih (packed_pack h hjoin hitem) hitems
    rw [List.append_assoc, ← letters_append] at hrest
    exact hrest

end Packing

section Wrapping

variable (width : String → ℤ) (maxWidth : ℤ)

/-- `text_width` of a list of characters. -/
def textWidth (text : List Char) : ℤ := width (String.ofList text)

def splitLongWord (word : List Char) : List (List Char) :=
  flush ((word.map fun character => [character]).foldl (pack (textWidth width) maxWidth (· ++ ·)) ([], []))

/-- `str.split()`. -/
def split (text : List Char) : List (List Char) := (text.splitOnP isSpace).filter (· ≠ [])

def wordsOf (paragraph : List Char) : List (List Char) :=
  (split paragraph).flatMap fun word => if maxWidth < textWidth width word then splitLongWord width maxWidth word else [word]

/-- One paragraph, with an empty line behind it unless it is the last. -/
def wrapParagraph (count : ℕ) (lines : List (List Char)) (paragraph : List Char × ℕ) : List (List Char) :=
  let lines := flush ((wordsOf width maxWidth paragraph.1).foldl
    (pack (textWidth width) maxWidth fun current word => current ++ ' ' :: word) (lines, []))
  if paragraph.2 + 1 < count then lines ++ [[]] else lines

/-- `text.splitlines() or [text]`. -/
def paragraphsOf (text : List Char) : List (List Char) := if splitlines text = [] then [text] else splitlines text

/-- The text is wrapped; the line at hand is empty after each paragraph. -/
def wrapText (text : String) : List String :=
  let lines := (paragraphsOf text.toList).zipIdx.foldl (wrapParagraph width maxWidth (splitlines text.toList).length) []
  if lines = [] then [""] else lines.map String.ofList

variable {width maxWidth}

theorem flatten_filter_ne_nil (l : List (List Char)) : (l.filter (· ≠ [])).flatten = l.flatten := by
  induction l with
  | nil => rfl
  | cons line l ih =>
    rw [List.filter_cons]
    split_ifs with h
    · rw [List.flatten_cons, List.flatten_cons, ih]
    · have hline : line = [] := by simpa using h
      rw [ih, hline, List.flatten_cons, List.nil_append]

theorem letters_split (l : List Char) : letters (split l).flatten = letters l := by
  rw [split, flatten_filter_ne_nil, flatten_splitOnP, letters, List.filter_filter]
  simp only [Bool.and_self]
  rfl

/-- Line breaks are white space. -/
theorem isSpace_of_isLineBreak {c : Char} (h : isLineBreak c = true) : isSpace c = true := by
  simp only [isLineBreak, isSpace, decide_eq_true_eq, List.mem_cons, List.not_mem_nil, or_false] at h ⊢
  tauto

theorem letters_splitlines (l : List Char) : letters (splitlines l).flatten = letters l := by
  fun_induction splitlines l with
  | case1 => rfl
  | case2 cs ih => exact ih
  | case3 c cs _ hbreak ih =>
    have hspace := isSpace_of_isLineBreak hbreak
    simp only [List.flatten_cons, List.nil_append, ih]
    simp [letters, hspace]
  | case4 c cs _ _ hrest ih =>
    rw [hrest] at ih
    simp only [List.flatten_cons, List.flatten_nil, List.append_nil]
    simp only [letters, List.filter_cons, List.flatten_nil, List.filter_nil] at ih ⊢
    rw [← ih]
  | case5 c cs _ _ line lines hrest ih =>
    rw [hrest] at ih
    simp only [List.flatten_cons, List.cons_append]
    simp only [letters, List.filter_cons, List.flatten_cons] at ih ⊢
    rw [ih]

theorem letters_paragraphsOf (l : List Char) : letters (paragraphsOf l).flatten = letters l := by
  unfold paragraphsOf
  split_ifs
  · rw [List.flatten_singleton]
  · exact letters_splitlines l

theorem letters_space_cons (a b : List Char) : letters (a ++ ' ' :: b) = letters a ++ letters b := by
  rw [letters_append]
  rfl

/-- The pieces of a word fit, and are the word. -/
theorem splitLongWord_spec (word : List Char) :
    (∀ part ∈ splitLongWord width maxWidth word, Fits (textWidth width) maxWidth part) ∧
      letters (splitLongWord width maxWidth word).flatten = letters word := by
  have hcharacters : (word.map fun character => [character]).flatten = word := by
    induction word with
    | nil => rfl
    | cons c word ih => rw [List.map_cons, List.flatten_cons, ih]; rfl
  have hpacked : Packed (textWidth width) maxWidth ((word.map fun character => [character]).foldl
      (pack (textWidth width) maxWidth (· ++ ·)) ([], [])) ([] ++ letters (word.map fun character => [character]).flatten) := by
    refine packed_foldl packed_nil letters_append fun item hitem => ?_
    obtain ⟨c, -, rfl⟩ := List.mem_map.1 hitem
    exact Or.inr (Or.inr rfl)
  rw [List.nil_append, hcharacters] at hpacked
  exact packed_flush hpacked

theorem wordsOf_spec (paragraph : List Char) :
    (∀ word ∈ wordsOf width maxWidth paragraph, Fits (textWidth width) maxWidth word) ∧
      letters (wordsOf width maxWidth paragraph).flatten = letters paragraph := by
  constructor
  · intro word hword
    obtain ⟨whole, -, hword⟩ := List.mem_flatMap.1 hword
    split_ifs at hword with hwide
    · exact (splitLongWord_spec whole).1 word hword
    · rw [List.mem_singleton.1 hword]
      exact Or.inr (Or.inl (Int.not_lt.1 hwide))
  · rw [← letters_split paragraph, wordsOf]
    induction split paragraph with
    | nil => rfl
    | cons word words ih =>
      rw [List.flatMap_cons, List.flatten_append, List.flatten_cons, letters_append, letters_append, ih]
      congr 1
      split_ifs
      · exact (splitLongWord_spec word).2
      · rw [List.flatten_singleton]

/-- A paragraph adds its letters, on lines that fit. -/
theorem wrapParagraph_spec {count : ℕ} {lines : List (List Char)} {paragraph : List Char × ℕ}
    (hlines : ∀ line ∈ lines, Fits (textWidth width) maxWidth line) :
    (∀ line ∈ wrapParagraph width maxWidth count lines paragraph, Fits (textWidth width) maxWidth line) ∧
      letters (wrapParagraph width maxWidth count lines paragraph).flatten = letters (lines.flatten ++ paragraph.1) := by
  have hstart : Packed (textWidth width) maxWidth (lines, []) (letters lines.flatten) :=
    ⟨hlines, Or.inl rfl, by rw [List.append_nil]⟩
  have hpacked := packed_flush (packed_foldl hstart letters_space_cons (wordsOf_spec paragraph.1).1)
  rw [(wordsOf_spec paragraph.1).2, ← letters_append] at hpacked
  unfold wrapParagraph
  dsimp only
  split_ifs
  · refine ⟨fun line hline => ?_, ?_⟩
    · rcases List.mem_append.1 hline with hline | hline
      · exact hpacked.1 line hline
      · exact Or.inl (List.mem_singleton.1 hline)
    · rw [List.flatten_append, List.flatten_singleton, List.append_nil]
      exact hpacked.2
  · exact hpacked

theorem wrapParagraphs_spec {count : ℕ} {paragraphs : List (List Char)} {lines : List (List Char)} (n : ℕ)
    (hlines : ∀ line ∈ lines, Fits (textWidth width) maxWidth line) :
    (∀ line ∈ (paragraphs.zipIdx n).foldl (wrapParagraph width maxWidth count) lines,
        Fits (textWidth width) maxWidth line) ∧
      letters ((paragraphs.zipIdx n).foldl (wrapParagraph width maxWidth count) lines).flatten =
        letters (lines.flatten ++ paragraphs.flatten) := by
  induction paragraphs generalizing lines n with
  | nil => exact ⟨hlines, by rw [List.flatten_nil, List.append_nil]; rfl⟩
  | cons paragraph paragraphs ih =>
    obtain ⟨hlines', hparagraph⟩ := wrapParagraph_spec hlines
    obtain ⟨hfit, hletters⟩ := ih (n + 1) hlines'
    refine ⟨hfit, ?_⟩
    rw [List.zipIdx_cons, List.foldl_cons, hletters, letters_append, hparagraph, List.flatten_cons, ← List.append_assoc,
      letters_append (_ ++ _)]

end Wrapping

/-- Whatever the font, a line of the wrapped text fits or is a single character, and the lines
have the text's letters in order. -/
theorem wrap_text_fits (width : String → ℤ) (maxWidth : ℤ) (text : String) :
    (∀ line ∈ wrapText width maxWidth text, line ≠ "" → width line ≤ maxWidth ∨ line.length = 1) ∧
      letters ((wrapText width maxWidth text).flatMap String.toList) = letters text.toList := by
  have hstart : ∀ line ∈ ([] : List (List Char)), Fits (textWidth width) maxWidth line := fun _ h => absurd h List.not_mem_nil
  have hspec : _ ∧ letters ((paragraphsOf text.toList).zipIdx.foldl
      (wrapParagraph width maxWidth (splitlines text.toList).length) []).flatten = _ := wrapParagraphs_spec 0 hstart
  obtain ⟨hfit, hletters⟩ := hspec
  rw [List.flatten_nil, List.nil_append, letters_paragraphsOf] at hletters
  unfold wrapText
  dsimp only
  split_ifs with hnil
  · rw [hnil] at hletters
    refine ⟨fun line hline hne => absurd (List.mem_singleton.1 hline) hne, ?_⟩
    rw [← hletters]
    rfl
  · constructor
    · intro line hline hne
      obtain ⟨l, hl, rfl⟩ := List.mem_map.1 hline
      rcases hfit l hl with rfl | hwidth | hone
      · exact absurd rfl hne
      · exact Or.inl hwidth
      · exact Or.inr (by rw [String.length_ofList, hone])
    · rw [← hletters, List.flatMap_map]
      simp only [String.toList_ofList, List.flatMap_id']

end CoreOps.Content
