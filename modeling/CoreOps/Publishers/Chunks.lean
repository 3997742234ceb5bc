import CoreOps.Publishers.Texts

/-! The chunks of a text that is too long for one post: each fits, and between them they
have all of the text but for white space at the cuts. -/

namespace CoreOps.Publishers

open Checked Text

section Strip

variable {l a b : List Char}

theorem stripChars_sublist (l : List Char) : (stripChars l).Sublist l :=
  (List.rdropWhile_prefix _ _).sublist.trans (List.dropWhile_sublist _)

theorem filter_dropWhile_isSpace (l : List Char) : (l.dropWhile isSpace).filter notSpace = l.filter notSpace := by
  induction l with
  | nil => rfl
  | cons c l ih =>
    cases hc : isSpace c with
    | true => simp only [List.dropWhile_cons, hc, if_true, ih, List.filter_cons, notSpace, Bool.not_true, Bool.false_eq_true,
        if_false]
    | false => simp only [List.dropWhile_cons, hc, Bool.false_eq_true, if_false]

/-- Stripping takes off white space only. -/
theorem filter_stripChars (l : List Char) : (stripChars l).filter notSpace = l.filter notSpace := by
  rw [stripChars, List.rdropWhile, List.filter_reverse, filter_dropWhile_isSpace, List.filter_reverse, List.reverse_reverse,
    filter_dropWhile_isSpace]

theorem stripChars_stripChars (l : List Char) : stripChars (stripChars l) = stripChars l := by
  have h := congrArg String.toList (strip_strip (String.ofList l))
  simp only [strip, String.toList_ofList] at h
  exact h

/-- What begins with another character than white space is not all stripped. -/
theorem stripChars_ne_nil {c : Char} (hc : isSpace c = false) (l : List Char) : stripChars (c :: l) ≠ [] := by
  intro h
  have hfilter := filter_stripChars (c :: l)
  simp only [h, List.filter_nil, List.filter_cons, notSpace, hc, Bool.not_false, if_true] at hfilter
  cases hfilter

/-- White space at the end is stripped. -/
theorem length_stripChars_append (hb : ∀ c ∈ b, isSpace c = true) : (stripChars (a ++ b)).length ≤ a.length := by
  have hend : ∀ c ∈ b.reverse, isSpace c = true := fun c hc => hb c (List.mem_reverse.1 hc)
  unfold stripChars
  rw [List.dropWhile_append]
  split
  · rw [List.dropWhile_eq_nil_iff.2 hb, List.rdropWhile_nil]
    exact Nat.zero_le _
  · rw [List.rdropWhile, List.reverse_append, List.dropWhile_append_of_pos hend]
    exact (List.rdropWhile_prefix isSpace _).length_le.trans (List.dropWhile_sublist _).length_le

end Strip

section Cut

variable {maxLen pos : ℕ} {separator text remaining : List Char}

theorem rfind_spec (h : rfind separator text = some pos) : separator <+: text.drop pos := by
  induction text generalizing pos with
  | nil => cases h
  | cons c text ih =>
    rw [rfind] at h
    split at h
    · rename_i pos' hpos
      obtain rfl := Option.some.inj h
      exact ih hpos
    · split at h
      · rename_i hhead
        obtain rfl := Option.some.inj h
        exact List.isPrefixOf_iff_prefix.1 hhead
      · cases h

/-- A cut behind a separator that is white space leaves what is in front of the separator. -/
theorem length_stripChars_take {space : List Char} (hspace : space.all isSpace = true) (hpos : space <+: text.drop pos) :
    (stripChars (text.take (pos + space.length))).length ≤ pos := by
  obtain ⟨rest, hrest⟩ := hpos
  have htake : text.take (pos + space.length) = text.take pos ++ space := by
    rw [List.take_add, ← hrest, List.take_left]
  rw [htake]
  exact (length_stripChars_append (List.all_eq_true.1 hspace)).trans (List.length_take_le _ _)

/-- A round takes a character at least, and no more than fit into a chunk and white space. -/
theorem cutAt_spec (hmax : 1 ≤ maxLen) (remaining : List Char) :
    1 ≤ cutAt maxLen remaining ∧ (stripChars (remaining.take (cutAt maxLen remaining))).length ≤ maxLen := by
  have hmaxLen : 1 ≤ maxLen ∧ (stripChars (remaining.take maxLen)).length ≤ maxLen :=
    ⟨hmax, (stripChars_sublist _).length_le.trans (List.length_take_le _ _)⟩
  unfold cutAt
  dsimp only
  generalize hfound : List.findSome? _ separators = found
  split
  · exact hmaxLen
  · rename_i hcut
    cases found with
    | none => exact absurd Nat.zero_lt_one hcut
    | some cut =>
      rw [Option.getD_some] at hcut ⊢
      refine ⟨by omega, ?_⟩
      obtain ⟨⟨separator, keepLen⟩, hmem, hround⟩ := List.exists_of_findSome?_eq_some hfound
      dsimp only at hround
      split at hround
      · rename_i pos hpos
        split at hround
        · obtain rfl := Option.some.inj hround
          have hhead := rfind_spec hpos
          have hlength := hhead.length_le
          rw [List.length_drop, List.length_take] at hlength
          rw [List.drop_take] at hhead
          have hhead' := hhead.trans (List.take_prefix _ _)
          simp only [separators, List.mem_cons, List.not_mem_nil, or_false, Prod.mk.injEq] at hmem
          rcases hmem with ⟨rfl, rfl⟩ | ⟨rfl, rfl⟩ | ⟨rfl, rfl⟩
          · have hstrip := length_stripChars_take (by decide) hhead'
            simp only [List.length_cons, List.length_nil] at hlength hstrip ⊢
            exact hstrip.trans (by omega)
          · -- the full stop stays with the chunk
            have hstrip := (stripChars_sublist (remaining.take (pos + ['.', ' '].length - 1))).length_le.trans
              (List.length_take_le _ _)
            simp only [List.length_cons, List.length_nil] at hlength hstrip ⊢
            omega
          · have hstrip := length_stripChars_take (by decide) hhead'
            simp only [List.length_cons, List.length_nil] at hlength hstrip ⊢
            exact hstrip.trans (by omega)
        · cases hround
      · cases hround

end Cut

section Loop

variable {maxLen rounds : ℕ} {remaining : List Char}

/-- What a round does with a stripped text that is too long. -/
theorem splitLoop_step (rounds : ℕ) (hmax : 1 ≤ maxLen) (hstrip : stripChars remaining = remaining)
    (hlong : maxLen < remaining.length) :
    stripChars (remaining.take (cutAt maxLen remaining)) ≠ [] ∧
    splitLoop maxLen (rounds + 1) remaining = stripChars (remaining.take (cutAt maxLen remaining)) ::
      splitLoop maxLen rounds (stripChars (remaining.drop (cutAt maxLen remaining))) := by
  obtain ⟨hcut, -⟩ := cutAt_spec hmax remaining
  cases remaining with
  | nil => cases hlong
  | cons c cs =>
    have hhead : isSpace c = false := by
      cases hc : isSpace c with
      | false => rfl
      | true =>
        have hlength := (stripChars_sublist cs).length_le
        have hsame : stripChars (c :: cs) = stripChars cs := by
          simp only [stripChars, List.dropWhile_cons, hc, if_true]
        rw [← hsame, hstrip, List.length_cons] at hlength
        omega
    have hpiece : stripChars ((c :: cs).take (cutAt maxLen (c :: cs))) ≠ [] := by
      obtain ⟨n, hn⟩ := Nat.exists_eq_succ_of_ne_zero (Nat.one_le_iff_ne_zero.1 hcut)
      rw [hn, List.take_succ_cons]
      exact stripChars_ne_nil hhead _
    refine ⟨hpiece, ?_⟩
    rw [splitLoop, if_neg (by simp), if_neg (by omega)]
    dsimp only
    rw [if_neg (by simpa using hpiece)]

/-- The loop cuts a stripped text into chunks that fit and have all of it but white space, in
as many rounds as there are characters. -/
theorem splitLoop_spec (rounds : ℕ) (hmax : 1 ≤ maxLen) (hstrip : stripChars remaining = remaining)
    (hrounds : remaining.length ≤ rounds) :
    (∀ piece ∈ splitLoop maxLen rounds remaining, piece ≠ [] ∧ piece.length ≤ maxLen) ∧
    (splitLoop maxLen rounds remaining).flatten.filter notSpace = remaining.filter notSpace ∧
    splitLoop maxLen (rounds + 1) remaining = splitLoop maxLen rounds remaining := by
  induction rounds generalizing remaining with
  | zero =>
    obtain rfl := List.length_eq_zero_iff.1 (Nat.le_zero.1 hrounds)
    exact ⟨fun _ hpiece => (by cases hpiece), rfl, rfl⟩
  | succ rounds ih =>
    by_cases hshort : remaining.length ≤ maxLen
    · by_cases hnil : remaining = []
      · subst hnil
        exact ⟨fun _ hpiece => (by cases hpiece), rfl, rfl⟩
      · have hlast : ∀ n, splitLoop maxLen (n + 1) remaining = [remaining] := by
          intro n
          rw [splitLoop, if_neg (by simpa using hnil), if_pos hshort]
        rw [hlast, hlast]
        refine ⟨fun piece hpiece => ?_, by rw [List.flatten_singleton], rfl⟩
        obtain rfl := List.mem_singleton.1 hpiece
        exact ⟨hnil, hshort⟩
    · obtain ⟨hcut, hfits⟩ := cutAt_spec hmax remaining
      have hlong : maxLen < remaining.length := Nat.lt_of_not_le hshort
      obtain ⟨hpiece, hround⟩ := splitLoop_step rounds hmax hstrip hlong
      obtain ⟨-, hround'⟩ := splitLoop_step (rounds + 1) hmax hstrip hlong
      have hrest := (stripChars_sublist (remaining.drop (cutAt maxLen remaining))).length_le
      rw [List.length_drop] at hrest
      obtain ⟨hpieces, hcontent, hfuel⟩ := ih (stripChars_stripChars (remaining.drop (cutAt maxLen remaining))) (by omega)
      refine ⟨?_, ?_, ?_⟩
      · rw [hround]
        exact List.forall_mem_cons.2 ⟨⟨hpiece, hfits⟩, hpieces⟩
      · rw [hround, List.flatten_cons, List.filter_append, hcontent, filter_stripChars, filter_stripChars, ← List.filter_append,
          List.take_append_drop]
      · rw [hround, hround', hfuel]

end Loop

/-- Every text that is not all white space is cut into chunks that are not empty, fit, and have
all of its characters but white space in order; more rounds of the loop change nothing. -/
theorem split_text_chunks_lossless {maxLen : ℕ} {text : String} (hmax : 1 ≤ maxLen)
    (htext : ∃ c ∈ text.toList, isSpace c = false) :
    ∃ chunks, splitTextChunks maxLen text = .ok chunks ∧
      (∀ chunk ∈ chunks, chunk ≠ "" ∧ chunk.length ≤ maxLen) ∧
      (chunks.flatMap String.toList).filter notSpace = text.toList.filter notSpace ∧
      ∀ rounds, (strip text).length ≤ rounds →
        (splitLoop maxLen rounds (strip text).toList).map String.ofList = chunks := by
  have hstripped : (strip text).toList = stripChars text.toList := by rw [strip, String.toList_ofList, stripChars]
  have hne : strip text ≠ "" := by
    intro hempty
    obtain ⟨c, hc, hspace⟩ := htext
    have hfilter := filter_stripChars text.toList
    rw [← hstripped, hempty] at hfilter
    have hmem : c ∈ text.toList.filter notSpace := List.mem_filter.2 ⟨hc, by rw [notSpace, hspace]; rfl⟩
    rw [← hfilter] at hmem
    cases hmem
  have hstrip : stripChars (strip text).toList = (strip text).toList := by rw [hstripped, stripChars_stripChars]
  have hspec : ∀ rounds, (strip text).toList.length ≤ rounds → _ := fun rounds => splitLoop_spec rounds hmax hstrip
  obtain ⟨hpieces, hcontent, -⟩ := hspec (strip text).length le_rfl
  refine ⟨(splitLoop maxLen (strip text).length (strip text).toList).map String.ofList, ?_, ?_, ?_, ?_⟩
  · simp only [splitTextChunks, bind_eq_ok, raiseIf_eq_ok, pure_eq_ok]
    exact ⟨(), hne, trivial⟩
  · intro chunk hchunk
    obtain ⟨piece, hpiece, rfl⟩ := List.mem_map.1 hchunk
    obtain ⟨hpieceNe, hfits⟩ := hpieces piece hpiece
    rw [← String.length_toList, String.toList_ofList]
    exact ⟨fun hempty => hpieceNe (by simpa using congrArg String.toList hempty), hfits⟩
  · rw [List.flatMap_map]
    simp only [String.toList_ofList]
    rw [List.flatMap_id', hcontent, hstripped, filter_stripChars]
  · intro rounds hrounds
    induction rounds, hrounds using Nat.le_induction with
    | base => rfl
    | succ rounds hle ih => rw [(hspec rounds hle).2.2, ih]

theorem split_text_chunks_lossless_short :
    ∃ chunks, splitTextChunks 3 "a b. cd" = .ok chunks ∧
      (∀ chunk ∈ chunks, chunk ≠ "" ∧ chunk.length ≤ 3) ∧
      (chunks.flatMap String.toList).filter notSpace = "a b. cd".toList.filter notSpace ∧
      ∀ rounds, (strip "a b. cd").length ≤ rounds →
        (splitLoop 3 rounds (strip "a b. cd").toList).map String.ofList = chunks :=
  split_text_chunks_lossless (by decide) ⟨'a', by simp, by decide⟩

end CoreOps.Publishers
