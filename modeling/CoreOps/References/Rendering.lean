import Mathlib.Data.List.Dedup
import CoreOps.Lib.Scan
import CoreOps.References.Model

/-! What a template renders to. The placeholders are a language of texts; a template is cut at
them in one way, and its text is its pieces with the values in their places. -/

namespace CoreOps.References

open Checked Scan

/-- The texts of `\x7b\x7b\s*([a-zA-Z0-9_]+)\s*\x7d\x7d`, with the key in the group. -/
def IsPlaceholder (text : List Char) (key : String) : Prop :=
  ∃ before after : List Char, (∀ c ∈ before, Text.isSpace c) ∧ (∀ c ∈ after, Text.isSpace c) ∧ key ≠ "" ∧
    (∀ c ∈ key.toList, isKeyChar c) ∧
    text = [openBrace, openBrace] ++ before ++ key.toList ++ after ++ [closeBrace, closeBrace]

theorem isKeyChar_of_isSpace {c : Char} (h : Text.isSpace c = true) : isKeyChar c = false := by
  have hall : ∀ n ∈ [0x09, 0x0a, 0x0b, 0x0c, 0x0d, 0x1c, 0x1d, 0x1e, 0x1f, 0x20, 0x85, 0xa0, 0x1680, 0x2000, 0x2001,
      0x2002, 0x2003, 0x2004, 0x2005, 0x2006, 0x2007, 0x2008, 0x2009, 0x200a, 0x2028, 0x2029, 0x202f, 0x205f,
      0x3000], isKeyChar (Char.ofNat n) = false := by decide
  have hc := hall c.toNat (of_decide_eq_true h)
  rwa [Char.ofNat_toNat] at hc

/-- A run of characters ends before one that is not of its class. -/
theorem span_run {p : Char → Bool} {run : List Char} (hrun : ∀ c ∈ run, p c) {stop : Char} (hstop : p stop = false)
    (rest : List Char) : (run ++ stop :: rest).span p = (run, stop :: rest) := by
  rw [List.span_eq_takeWhile_dropWhile, List.takeWhile_append_of_pos hrun, List.dropWhile_append_of_pos hrun,
    List.takeWhile_cons_of_neg (by simp [hstop]), List.dropWhile_cons_of_neg (by simp [hstop]), List.append_nil]

theorem dropWhile_run {p : Char → Bool} {run : List Char} (hrun : ∀ c ∈ run, p c) {stop : Char} (hstop : p stop = false)
    (rest : List Char) : (run ++ stop :: rest).dropWhile p = stop :: rest := by
  have h := span_run hrun hstop rest
  rw [List.span_eq_takeWhile_dropWhile] at h
  exact (Prod.mk.inj h).2

theorem takePlaceholder_of_isPlaceholder {text : List Char} {key : String} (rest : List Char)
    (h : IsPlaceholder text key) : takePlaceholder (text ++ rest) = some (key, rest) := by
  obtain ⟨before, after, hbefore, hafter, hkey, hchars, rfl⟩ := h
  obtain ⟨c, cs, hcons⟩ := List.exists_cons_of_ne_nil fun h => hkey (String.toList_eq_nil_iff.1 h)
  have hc : isKeyChar c = true := hchars c (hcons ▸ List.mem_cons_self)
  have hspace : Text.isSpace c = false := by
    by_contra hspace
    rw [Bool.not_eq_false] at hspace
    rw [isKeyChar_of_isSpace hspace] at hc
    cases hc
  -- the blanks end at the first character of the key, and the key at a blank or a brace
  have hskip : (before ++ (key.toList ++ (after ++ closeBrace :: closeBrace :: rest))).dropWhile Text.isSpace =
      key.toList ++ (after ++ closeBrace :: closeBrace :: rest) := by
    rw [hcons, List.cons_append]
    exact dropWhile_run hbefore hspace _
  have hspan : (key.toList ++ (after ++ closeBrace :: closeBrace :: rest)).span isKeyChar =
      (key.toList, after ++ closeBrace :: closeBrace :: rest) := by
    cases after with
    | nil => exact span_run hchars (by decide) _
    | cons d after => exact span_run hchars (isKeyChar_of_isSpace (hafter d List.mem_cons_self)) _
  have hend : (after ++ closeBrace :: closeBrace :: rest).dropWhile Text.isSpace = closeBrace :: closeBrace :: rest :=
    dropWhile_run hafter (by decide) _
  have hopen : [openBrace, openBrace] ++ before ++ key.toList ++ after ++ [closeBrace, closeBrace] ++ rest =
      openBrace :: openBrace :: (before ++ (key.toList ++ (after ++ closeBrace :: closeBrace :: rest))) := by simp
  rw [hopen, takePlaceholder, if_pos (by simp), List.drop_succ_cons, List.drop_succ_cons, List.drop_zero, hskip, hspan,
    hcons]
  simp only [hend]
  rw [if_pos (by simp), ← hcons, String.ofList_toList]
  rfl

theorem isPlaceholder_of_takePlaceholder {l rest : List Char} {key : String}
    (h : takePlaceholder l = some (key, rest)) : ∃ text, IsPlaceholder text key ∧ l = text ++ rest := by
  unfold takePlaceholder at h
  split_ifs at h with hopen
  obtain ⟨body, rfl⟩ := List.isPrefixOf_iff_prefix.1 hopen
  have hdrop : ([openBrace, openBrace] ++ body).drop 2 = body := rfl
  rw [hdrop, List.span_eq_takeWhile_dropWhile] at h
  split at h
  case h_1 => cases h
  case h_2 key' rest' hkey hspan =>
    obtain ⟨rfl, rfl⟩ := Prod.mk.inj hspan
    dsimp only at h
    split_ifs at h with hclose
    obtain ⟨rfl, rfl⟩ := Prod.mk.inj (Option.some.inj h)
    obtain ⟨tail, htail⟩ := List.isPrefixOf_iff_prefix.1 hclose
    refine ⟨[openBrace, openBrace] ++ body.takeWhile Text.isSpace ++
      (String.ofList ((body.dropWhile Text.isSpace).takeWhile isKeyChar)).toList ++
      ((body.dropWhile Text.isSpace).dropWhile isKeyChar).takeWhile Text.isSpace ++ [closeBrace, closeBrace],
      ⟨_, _, fun c => List.mem_takeWhile_imp, fun c => List.mem_takeWhile_imp, ?_, ?_, rfl⟩, ?_⟩
    · intro hempty
      exact hkey (by simpa using congrArg String.toList hempty)
    · rw [String.toList_ofList]
      exact fun c => List.mem_takeWhile_imp
    · -- the runs and what follows each of them make up the text again
      rw [← htail, String.toList_ofList]
      simp only [List.append_assoc]
      rw [show ([closeBrace, closeBrace] ++ tail).drop 2 = tail from rfl, htail, List.takeWhile_append_dropWhile,
        List.takeWhile_append_dropWhile, List.takeWhile_append_dropWhile]

/-- `PLACEHOLDER_PATTERN`. -/
def placeholder : Pattern Char String where
  Matches := IsPlaceholder
  take := takePlaceholder
  not_matches_nil b := by
    rintro ⟨before, after, -, -, -, -, h⟩
    simp at h
  matches_of_take := isPlaceholder_of_takePlaceholder
  take_of_matches := takePlaceholder_of_isPlaceholder

theorem pieces_eq_scanLoop (fuel : ℕ) (cs : List Char) : pieces fuel cs = scanLoop placeholder fuel cs := by
  induction fuel generalizing cs with
  | zero => rfl
  | succ fuel ih =>
    cases cs with
    | nil => rfl
    | cons c cs =>
      have htake : placeholder.take (c :: cs) = takePlaceholder (c :: cs) := rfl
      rw [pieces, scanLoop, htake]
      cases takePlaceholder (c :: cs) with
      | none => exact congrArg _ (ih cs)
      | some taken => exact congrArg _ (ih taken.2)

/-- A template is cut at its placeholders, and in no other way. -/
theorem segmented_iff {body : String} {segments : List (Char ⊕ String)} :
    Segmented placeholder body.toList segments ↔ segments = piecesOf body := by
  have hscan : piecesOf body = scan placeholder body.toList := pieces_eq_scanLoop _ _
  constructor
  · intro h
    rw [hscan]
    exact h.unique (segmented_scan _)
  · rintro rfl
    rw [hscan]
    exact segmented_scan _

/-! Rendering. -/

/-- A piece with the value of its key. -/
def substituted (context : List (String × String)) : Char ⊕ String → List Char
  | .inl c => [c]
  | .inr key => ((context.lookup key).map String.toList).getD []

/-- A placeholder without a value. -/
def IsMissing (context : List (String × String)) : Char ⊕ String → Prop
  | .inl _ => False
  | .inr key => context.lookup key = none

/-- `replacer`, and the characters in between. -/
def replaced (context : List (String × String)) : Char ⊕ String → Except String String
  | .inl c => Except.ok (String.singleton c)
  | .inr key => orRaise (context.lookup key) key

variable {context : List (String × String)} {body text : String}

theorem replaced_eq_ok {piece : Char ⊕ String} :
    replaced context piece = .ok text ↔ ¬ IsMissing context piece ∧ text.toList = substituted context piece := by
  cases piece with
  | inl c =>
    simp only [replaced, IsMissing, substituted, Except.ok.injEq, not_false_eq_true, true_and]
    rw [← String.toList_inj, String.toList_singleton, eq_comm]
  | inr key =>
    simp only [replaced, IsMissing, substituted, orRaise_eq_ok]
    cases context.lookup key with
    | none => simp
    | some value => simp [← String.toList_inj, eq_comm]

theorem mapM_replaced_eq_ok {pieces : List (Char ⊕ String)} {texts : List String} :
    pieces.mapM (replaced context) = .ok texts ↔
      (∀ piece ∈ pieces, ¬ IsMissing context piece) ∧ texts.map String.toList = pieces.map (substituted context) := by
  induction pieces generalizing texts with
  | nil =>
    rw [List.mapM_nil, pure_eq_ok]
    exact ⟨fun h => ⟨by simp, by simp [← h]⟩, fun h => (List.map_eq_nil_iff.1 h.2).symm⟩
  | cons piece pieces ih =>
    simp only [List.mapM_cons, bind_eq_ok, pure_eq_ok, replaced_eq_ok, ih, List.forall_mem_cons, List.map_cons]
    constructor
    · rintro ⟨text, ⟨hpiece, htext⟩, texts, ⟨hpieces, htexts⟩, rfl⟩
      exact ⟨⟨hpiece, hpieces⟩, by rw [List.map_cons, htext, htexts]⟩
    · rintro ⟨⟨hpiece, hpieces⟩, htexts⟩
      cases texts with
      | nil => simp at htexts
      | cons text texts =>
        obtain ⟨htext, htexts⟩ := List.cons.inj htexts
        exact ⟨text, ⟨hpiece, htext⟩, texts, ⟨hpieces, htexts⟩, rfl⟩

theorem renderTemplate_eq_ok : renderTemplate body context = .ok text ↔
    (∀ piece ∈ piecesOf body, ¬ IsMissing context piece) ∧
      text.toList = (piecesOf body).flatMap (substituted context) := by
  have hjoin : ∀ texts : List String, (String.join texts).toList = (texts.map String.toList).flatten := fun texts => by
    rw [String.toList_join, List.flatMap_def]
  have hrender : renderTemplate body context = (do
      let texts ← (piecesOf body).mapM (replaced context)
      return String.join texts) := rfl
  simp only [hrender, bind_eq_ok, pure_eq_ok, mapM_replaced_eq_ok, List.flatMap_def]
  constructor
  · rintro ⟨texts, ⟨hpieces, htexts⟩, rfl⟩
    exact ⟨hpieces, by rw [hjoin, htexts]⟩
  · rintro ⟨hpieces, htext⟩
    refine ⟨((piecesOf body).map (substituted context)).map String.ofList, ⟨hpieces, ?_⟩, ?_⟩
    · simp [Function.comp_def]
    · rw [← String.toList_inj, hjoin, htext]
      simp [Function.comp_def]

theorem forall_not_isMissing {pieces : List (Char ⊕ String)} :
    (∀ piece ∈ pieces, ¬ IsMissing context piece) ↔ ∀ key, .inr key ∈ pieces → context.lookup key ≠ none := by
  constructor
  · exact fun h key hkey => h _ hkey
  · intro h piece hpiece
    cases piece with
    | inl c => exact not_false
    | inr key => exact h key hpiece

/-- A template is cut in one way. It renders when every placeholder has a value, and then to
its pieces with the values in their places; what stands in a value is never looked at. -/
theorem render_substitutes_once (body : String) (context : List (String × String)) :
    ∃ pieces, (∀ segments, Segmented placeholder body.toList segments ↔ segments = pieces) ∧
      ((∃ key, renderTemplate body context = .error key) ↔
        ∃ key, .inr key ∈ pieces ∧ context.lookup key = none) ∧
      ((∀ key, .inr key ∈ pieces → context.lookup key ≠ none) →
        ∃ text, renderTemplate body context = .ok text ∧ text.toList = pieces.flatMap (substituted context)) := by
  have hrenders : (∀ key, .inr key ∈ piecesOf body → context.lookup key ≠ none) →
      ∃ text, renderTemplate body context = .ok text ∧ text.toList = (piecesOf body).flatMap (substituted context) := by
    intro hall
    refine ⟨String.ofList ((piecesOf body).flatMap (substituted context)), ?_, String.toList_ofList⟩
    exact renderTemplate_eq_ok.2 ⟨forall_not_isMissing.2 hall, String.toList_ofList⟩
  refine ⟨piecesOf body, fun segments => segmented_iff, ?_, hrenders⟩
  constructor
  · rintro ⟨key, hraised⟩
    by_contra hnone
    obtain ⟨text, hrendered, -⟩ := hrenders fun key hkey hmissing => hnone ⟨key, hkey, hmissing⟩
    rw [hraised] at hrendered
    cases hrendered
  · rintro ⟨key, hkey, hmissing⟩
    cases hrendered : renderTemplate body context with
    | error key' => exact ⟨key', rfl⟩
    | ok text => exact absurd hmissing (forall_not_isMissing.1 (renderTemplate_eq_ok.1 hrendered).1 key hkey)

/-- A context that has been built has a value for every placeholder. -/
theorem renderTemplate_of_buildContext {template : DocumentTemplate} {provided : List (String × String)}
    (h : buildContext template provided = .ok context) :
    ∃ text, renderTemplate template.bodyTemplate context = .ok text := by
  simp only [buildContext, bind_eq_ok, raiseIf_eq_ok, exists_const, pure_eq_ok, ne_eq, not_not] at h
  obtain ⟨context', -, hmissing, rfl⟩ := h
  refine ⟨_, renderTemplate_eq_ok.2 ⟨forall_not_isMissing.2 fun key hkey hnone => ?_, String.toList_ofList⟩⟩
  have hplaceholder : key ∈ extractPlaceholders template.bodyTemplate :=
    List.mem_dedup.2 (List.mem_filterMap.2 ⟨.inr key, hkey, rfl⟩)
  have hvalue : key ∈ context'.map (·.1) := by
    by_contra hvalue
    exact List.filter_eq_nil_iff.1 hmissing key hplaceholder (decide_eq_true hvalue)
  obtain ⟨⟨key', value⟩, hmem, rfl⟩ := List.mem_map.1 hvalue
  exact (List.lookup_eq_none_iff.1 hnone) _ hmem |> fun hne => by simp at hne

end CoreOps.References
