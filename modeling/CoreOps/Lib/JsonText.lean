import Mathlib.Algebra.Order.BigOperators.Group.List
import Mathlib.Data.List.TakeWhile
import Mathlib.Tactic.IntervalCases
import CoreOps.Lib.Json

/-! The text of a document reads as the document, however it is laid out, and what reads
as a document has its members in the order of their keys. -/

namespace Json

section Numbers

/-- No digit, point or exponent follows. -/
def Ends (rest : List Char) : Prop := ∀ c ∈ rest.head?, c.isDigit = false ∧ c ≠ '.' ∧ c ≠ 'e' ∧ c ≠ 'E'

theorem readDigits_append {ds rest : List Char} (hne : ds ≠ []) (hds : ∀ c ∈ ds, c.isDigit = true)
    (hrest : ∀ c ∈ rest.head?, c.isDigit = false) : readDigits (ds ++ rest) = some (ds, rest) := by
  have hnone : rest.takeWhile Char.isDigit = [] ∧ rest.dropWhile Char.isDigit = rest := by
    rcases rest with _ | ⟨c, rest⟩
    · exact ⟨rfl, rfl⟩
    · have hc := hrest c rfl
      simp [hc]
  have htake : (ds ++ rest).takeWhile Char.isDigit = ds := by
    rw [List.takeWhile_append_of_pos hds, hnone.1, List.append_nil]
  have hdrop : (ds ++ rest).dropWhile Char.isDigit = rest := by
    rw [List.dropWhile_append_of_pos hds, hnone.2]
  rw [readDigits, htake, hdrop, if_neg hne]

theorem isDigit_of_mem {n : ℕ} {c : Char} (h : c ∈ Nat.toDigits 10 n) : c.isDigit = true :=
  Nat.isDigit_of_mem_toDigits (by omega) (by omega) h

/-- Only the number zero starts with the digit. -/
theorem toDigits_zero_head {n : ℕ} {ds : List Char} (h : Nat.toDigits 10 n = '0' :: ds) : n = 0 ∧ ds = [] := by
  induction n using Nat.strong_induction_on generalizing ds with
  | _ n ih =>
    by_cases hn : n < 10
    · rw [Nat.toDigits_of_lt_base hn, List.cons.injEq] at h
      refine ⟨?_, h.2.symm⟩
      have hchar := h.1
      clear ih h
      interval_cases n <;> first | rfl | exact absurd hchar (by decide)
    · rw [Nat.toDigits_of_base_le (by omega) (by omega)] at h
      rcases hq : Nat.toDigits 10 (n / 10) with _ | ⟨c, cs⟩
      · exact absurd hq Nat.toDigits_ne_nil
      · rw [hq, List.cons_append, List.cons.injEq] at h
        rw [h.1] at hq
        have := (ih (n / 10) (by omega) hq).1
        omega

theorem readWhole_toDigits (n : ℕ) {rest : List Char} (hrest : ∀ c ∈ rest.head?, c.isDigit = false) :
    readWhole (Nat.toDigits 10 n ++ rest) = some (n, rest) := by
  have hdigits := readDigits_append Nat.toDigits_ne_nil (fun c => isDigit_of_mem (n := n)) hrest
  unfold readWhole
  split
  · rename_i cs hcs
    rcases hn : Nat.toDigits 10 n with _ | ⟨c, ds⟩
    · exact absurd hn Nat.toDigits_ne_nil
    · rw [hn, List.cons_append, List.cons.injEq] at hcs
      rw [hcs.1] at hn
      obtain ⟨rfl, rfl⟩ := toDigits_zero_head hn
      rw [← hcs.2, List.nil_append]
  · rw [hdigits, Option.map_some, Nat.ofDigitChars_ten_toDigits]

theorem readSign_signed (negative : Bool) (n : ℕ) (rest : List Char) :
    readSign (signed negative n ++ rest) = (negative, Nat.toDigits 10 n ++ rest) := by
  rcases negative with _ | _
  · rcases hn : Nat.toDigits 10 n with _ | ⟨c, ds⟩
    · exact absurd hn Nat.toDigits_ne_nil
    · have hc : c.isDigit = true := isDigit_of_mem (n := n) (by simp [hn])
      simp only [signed, hn, Bool.false_eq_true, if_false, List.nil_append, List.cons_append]
      unfold readSign
      split
      · rename_i hcs
        rw [(List.cons.inj hcs).1] at hc
        exact absurd hc (by decide)
      · rfl
  · rfl

theorem digitChar_digit (d : Fin 10) :
    (Nat.digitChar d.val).isDigit = true ∧ Fin.ofNat 10 ((Nat.digitChar d.val).toNat - 48) = d := by
  revert d
  decide

theorem readFraction_write (fraction : List (Fin 10)) {rest : List Char}
    (hrest : ∀ c ∈ rest.head?, c.isDigit = false ∧ c ≠ '.') :
    readFraction ((if fraction = [] then [] else '.' :: fraction.map fun d => Nat.digitChar d.val) ++ rest) =
      (fraction, rest) := by
  by_cases hf : fraction = []
  · rw [if_pos hf, hf, List.nil_append]
    unfold readFraction
    split
    · exact absurd rfl (hrest _ rfl).2
    · rfl
  · have hdigits : ∀ c ∈ fraction.map (fun d => Nat.digitChar d.val), c.isDigit = true := by
      intro c hc
      obtain ⟨d, -, rfl⟩ := List.mem_map.1 hc
      exact (digitChar_digit d).1
    have hread := readDigits_append (by simpa using hf) hdigits fun c hc => (hrest c hc).1
    rw [if_neg hf, List.cons_append, readFraction, hread, Option.map_some, Option.getD_some, List.map_map]
    have hid : fraction.map ((fun c => Fin.ofNat 10 (c.toNat - 48)) ∘ fun d : Fin 10 => Nat.digitChar d.val) =
        fraction := by
      conv_rhs => rw [← List.map_id fraction]
      exact List.map_congr_left fun d _ => (digitChar_digit d).2
    rw [hid]

theorem digits_padded (n : ℕ) :
    let ds := List.replicate (2 - (Nat.toDigits 10 n).length) '0' ++ Nat.toDigits 10 n
    ds ≠ [] ∧ (∀ c ∈ ds, c.isDigit = true) ∧ Nat.ofDigitChars 10 ds 0 = n := by
  refine ⟨?_, fun c hc => ?_, ?_⟩
  · exact List.append_ne_nil_of_right_ne_nil _ Nat.toDigits_ne_nil
  · rcases List.mem_append.1 hc with hc | hc
    · rw [List.eq_of_mem_replicate hc]
      decide
    · exact isDigit_of_mem hc
  · simp [Nat.ofDigitChars_append]

theorem readExponent_signed (negative : Bool) {ds rest : List Char} (hne : ds ≠ [])
    (hds : ∀ c ∈ ds, c.isDigit = true) (hrest : ∀ c ∈ rest.head?, c.isDigit = false) :
    readExponent ('e' :: (if negative then '-' else '+') :: ds ++ rest) =
      (some (if negative then -(Nat.ofDigitChars 10 ds 0 : ℤ) else Nat.ofDigitChars 10 ds 0), rest) := by
  have hread := readDigits_append hne hds hrest
  have hsign : readExponentSign ((if negative then '-' else '+') :: (ds ++ rest)) = (negative, ds ++ rest) := by
    rcases negative with _ | _ <;> rfl
  simp only [List.cons_append, readExponent, true_or, if_true, hsign, hread, Option.map_some, Option.getD_some]

theorem readExponent_write (exponent : Option ℤ) {rest : List Char} (hrest : Ends rest) :
    readExponent ((exponent.map writeExponent).getD [] ++ rest) = (exponent, rest) := by
  rcases exponent with _ | e
  · rw [Option.map_none, Option.getD_none, List.nil_append]
    rcases rest with _ | ⟨c, rest⟩
    · rfl
    · obtain ⟨-, -, he, hE⟩ := hrest c rfl
      simp [readExponent, he, hE]
  · obtain ⟨hne, hdigits, hvalue⟩ := digits_padded e.natAbs
    have hread := readExponent_signed (e < 0) hne hdigits fun c hc => (hrest c hc).1
    rw [hvalue] at hread
    simp only [Option.map_some, Option.getD_some, writeExponent]
    simp only [decide_eq_true_eq] at hread
    refine Eq.trans hread (Prod.ext (congrArg some ?_) rfl)
    split <;> omega

theorem head_of_append {p : Char → Prop} {as bs : List Char} (has : ∀ c ∈ as.head?, p c)
    (hbs : ∀ c ∈ bs.head?, p c) : ∀ c ∈ (as ++ bs).head?, p c := by
  rcases as with _ | ⟨a, as⟩
  · exact hbs
  · exact has

theorem readNumber_float (x : FloatLiteral) {rest : List Char} (hrest : Ends rest) :
    readNumber (writeFloat x ++ rest) = some (.float x, rest) := by
  have hexp : ∀ c ∈ ((x.exponent.map writeExponent).getD [] ++ rest).head?, c.isDigit = false ∧ c ≠ '.' := by
    refine head_of_append (fun c hc => ?_) fun c hc => ⟨(hrest c hc).1, (hrest c hc).2.1⟩
    rcases h : x.exponent with _ | e
    · simp [h] at hc
    · simp [h, writeExponent] at hc
      subst hc
      decide
  have hfrac : ∀ c ∈ ((if x.fraction = [] then [] else '.' :: x.fraction.map fun d => Nat.digitChar d.val) ++
      ((x.exponent.map writeExponent).getD [] ++ rest)).head?, c.isDigit = false := by
    refine head_of_append (fun c hc => ?_) fun c hc => (hexp c hc).1
    split at hc
    · simp at hc
    · simp at hc
      subst hc
      decide
  have hsplit : writeFloat x ++ rest = signed x.negative x.whole ++
      ((if x.fraction = [] then [] else '.' :: x.fraction.map fun d => Nat.digitChar d.val) ++
        ((x.exponent.map writeExponent).getD [] ++ rest)) := by
    simp only [writeFloat, List.append_assoc]
  rw [hsplit, readNumber, readSign_signed]
  simp only [readWhole_toDigits _ hfrac, Option.bind_eq_bind, Option.bind_some, readFraction_write _ hexp,
    readExponent_write _ hrest, dif_pos x.isFloat]
  rfl

theorem readNumber_int (n : ℤ) {rest : List Char} (hrest : Ends rest) :
    readNumber (signed (n < 0) n.natAbs ++ rest) = some (.int n, rest) := by
  have hfraction := readFraction_write [] fun c (hc : c ∈ rest.head?) =>
    ⟨(hrest c hc).1, (hrest c hc).2.1⟩
  have hexponent := readExponent_write none hrest
  simp only [if_true, List.nil_append] at hfraction
  simp only [Option.map_none, Option.getD_none, List.nil_append] at hexponent
  rw [readNumber, readSign_signed]
  simp only [readWhole_toDigits _ fun c hc => (hrest c hc).1, Option.bind_eq_bind, Option.bind_some, hfraction,
    hexponent, ne_eq, not_true_eq_false, or_self, dite_false]
  refine congrArg (fun m => some (Json.int m, rest)) ?_
  simp only [decide_eq_true_eq]
  split <;> omega

end Numbers

section Strings

theorem control_char {c : Char} (h : c.toNat < 32) :
    readHex '0' '0' (Nat.digitChar (c.toNat / 16)) (Nat.digitChar (c.toNat % 16)) = some c := by
  have hc : c = Char.ofNat c.toNat := (Char.ofNat_toNat c).symm
  generalize c.toNat = n at h hc
  subst hc
  interval_cases n <;> decide

theorem readString_escape (c : Char) (cs : List Char) :
    readString (escape c ++ cs) = (readString cs).map fun r => (c :: r.1, r.2) := by
  have hescaped : ∀ d, d ≠ 'u' → unescape d = some c →
      readString ('\\' :: d :: cs) = (readString cs).map fun r => (c :: r.1, r.2) := by
    intro d hd hun
    rw [readString.eq_4 _ _ (fun _ _ _ _ _ h => absurd h hd)]
    rw [hun]
    rcases readString cs with _ | r <;> rfl
  unfold escape
  split_ifs with h h h h h h h hcontrol
  · exact hescaped _ (by decide) (by rw [h]; rfl)
  · exact hescaped _ (by decide) (by rw [h]; rfl)
  · exact hescaped _ (by decide) (by rw [h]; rfl)
  · exact hescaped _ (by decide) (by rw [h]; rfl)
  · exact hescaped _ (by decide) (by rw [h]; rfl)
  · exact hescaped _ (by decide) (by rw [h]; rfl)
  · exact hescaped _ (by decide) (by rw [h]; rfl)
  · simp only [List.cons_append, List.nil_append, readString, control_char hcontrol]
    rcases readString cs with _ | r <;> rfl
  · have hquote : ¬ c = '"' := by assumption
    have hslash : ¬ c = '\\' := by assumption
    rw [List.singleton_append, readString.eq_5 c cs hquote (fun _ _ _ _ _ h => absurd h hslash)
      (fun _ _ h => absurd h hslash), if_neg hcontrol]
    rcases readString cs with _ | r <;> rfl

theorem readString_write (s : List Char) (rest : List Char) :
    readString (s.flatMap escape ++ '"' :: rest) = some (s, rest) := by
  induction s with
  | nil => rfl
  | cons c s ih => rw [List.flatMap_cons, List.append_assoc, readString_escape, ih, Option.map_some]

end Strings

section Sequences

variable {α : Type} {p : List Char → Option (α × List Char)} {text : α → List Char} {last : Char}

theorem skip_newline (f : Format) (level : ℕ) (cs : List Char) : skip (f.newline level ++ cs) = skip cs := by
  refine List.dropWhile_append_of_pos fun c hc => ?_
  unfold Format.newline at hc
  split at hc
  · simp at hc
  · rcases List.mem_cons.1 hc with rfl | hc
    · rfl
    · rw [List.eq_of_mem_replicate hc]
      rfl

theorem skip_cons {c : Char} (h : isBlank c = false) (cs : List Char) : skip (c :: cs) = c :: cs := by
  simp [skip, h]

/-- The closing brackets. -/
def Closes (last : Char) : Prop := last = ']' ∨ last = '}'

theorem ends_more (hlast : Closes last) (f : Format) (level : ℕ) (texts : List (List Char)) (rest : List Char) :
    Ends (texts.flatMap (fun t => ',' :: f.newline (level + 1) ++ t) ++ (f.newline level ++ last :: rest)) := by
  rcases texts with _ | ⟨t, ts⟩
  · unfold Format.newline
    split
    · rintro c ⟨⟩
      rcases hlast with rfl | rfl <;> decide
    · rintro c ⟨⟩
      decide
  · rintro c ⟨⟩
    decide

theorem readMore_write (hlast : Closes last) (f : Format) (level : ℕ) (rest : List Char) {xs : List α} {n : ℕ}
    (hn : xs.length < n) (hp : ∀ x ∈ xs, ∀ rest, Ends rest → p (text x ++ rest) = some (x, rest))
    (hne : ∀ x ∈ xs, ∃ c cs, text x = c :: cs ∧ isBlank c = false ∧ c ≠ last) :
    readMore p last n ((xs.map text).flatMap (fun t => ',' :: f.newline (level + 1) ++ t) ++
      (f.newline level ++ last :: rest)) = some (xs, rest) := by
  have hblank : isBlank last = false ∧ last ≠ ',' := by rcases hlast with rfl | rfl <;> decide
  induction xs generalizing n with
  | nil =>
    obtain ⟨n, rfl⟩ := Nat.exists_eq_succ_of_ne_zero (by omega : n ≠ 0)
    simp only [List.map_nil, List.flatMap_nil, List.nil_append, readMore, skip_newline, skip_cons hblank.1, if_true]
  | cons x xs ih =>
    obtain ⟨n, rfl⟩ := Nat.exists_eq_succ_of_ne_zero (by omega : n ≠ 0)
    obtain ⟨c, cs, htext, hc, -⟩ := hne x (by simp)
    have hmore := ih (n := n) (by simpa using hn) (fun y hy => hp y (by simp [hy])) fun y hy => hne y (by simp [hy])
    have hx := hp x (by simp) _ (ends_more hlast f level (xs.map text) rest)
    have hskip : ∀ r, skip (f.newline (level + 1) ++ (text x ++ r)) = text x ++ r := by
      intro r
      rw [skip_newline, htext, List.cons_append, skip_cons hc]
    simp only [List.map_cons, List.flatMap_cons, List.cons_append, List.append_assoc] at hx hmore ⊢
    rw [readMore, skip_cons (by rfl)]
    simp only [hblank.2.symm, if_false, if_true, hskip, hx, Option.bind_eq_bind, Option.bind_some, hmore]
    rfl

theorem readEnclosed_write (text : α → List Char) (hlast : Closes last) (f : Format) (level : ℕ) (rest : List Char) {xs : List α} {n : ℕ}
    (hn : xs.length ≤ n) (hp : ∀ x ∈ xs, ∀ rest, Ends rest → p (text x ++ rest) = some (x, rest))
    (hne : ∀ x ∈ xs, ∃ c cs, text x = c :: cs ∧ isBlank c = false ∧ c ≠ last) :
    readEnclosed p last n (inside f level last (xs.map text) ++ rest) = some (xs, rest) := by
  have hblank : isBlank last = false := by rcases hlast with rfl | rfl <;> rfl
  rcases xs with _ | ⟨x, xs⟩
  · simp only [List.map_nil, inside, List.singleton_append, readEnclosed, skip_cons hblank, if_true]
  · obtain ⟨c, cs, htext, hc, hclose⟩ := hne x (by simp)
    have hmore := readMore_write hlast f level rest (Nat.lt_of_succ_le hn)
      (fun y hy => hp y (by simp [hy])) fun y hy => hne y (by simp [hy])
    have hx := hp x (by simp) _ (ends_more hlast f level (xs.map text) rest)
    simp only [htext, List.map_cons, inside, List.append_assoc, List.nil_append, List.cons_append] at hx hmore ⊢
    rw [readEnclosed, skip_newline, skip_cons hc]
    simp only [if_neg hclose, hx, Option.bind_eq_bind, Option.bind_some, hmore]
    rfl

end Sequences

section Documents

variable (f : Format)

theorem writeItems_eq (level : ℕ) (items : List Json) : writeItems f level items = items.map (write f level) := by
  induction items with
  | nil => rfl
  | cons x xs ih => rw [writeItems, ih, List.map_cons]

/-- The text of a member. -/
def writeMember (level : ℕ) (m : String × Json) : List Char :=
  quote m.1 ++ ':' :: List.replicate f.gap ' ' ++ write f level m.2

theorem writeMembers_eq (level : ℕ) (members : List (String × Json)) :
    writeMembers f level members = members.map (writeMember f level) := by
  induction members with
  | nil => rfl
  | cons m ms ih => rw [writeMembers, ih, List.map_cons, writeMember]

theorem signed_head (negative : Bool) (n : ℕ) :
    ∃ c cs, signed negative n = c :: cs ∧ (c = '-' ∨ c.isDigit = true) := by
  rcases negative with _ | _
  · rcases hn : Nat.toDigits 10 n with _ | ⟨c, cs⟩
    · exact absurd hn Nat.toDigits_ne_nil
    · exact ⟨c, cs, by simp [signed, hn], Or.inr (isDigit_of_mem (n := n) (by simp [hn]))⟩
  · exact ⟨'-', Nat.toDigits 10 n, rfl, Or.inl rfl⟩

/-- A number's first character is of no other value. -/
theorem numeric_head {c : Char} (h : c = '-' ∨ c.isDigit = true) :
    isBlank c = false ∧ c ≠ ']' ∧ c ≠ '}' ∧ c ∉ ['n', 't', 'f', '"', '[', '{'] := by
  rcases h with rfl | h
  · decide
  · simp only [Char.isDigit, Bool.and_eq_true, decide_eq_true_eq] at h
    refine ⟨?_, ?_, ?_, ?_⟩
    · by_contra hc
      have hblank : c = ' ' ∨ c = '\t' ∨ c = '\n' ∨ c = '\r' := by
        simpa only [isBlank, Bool.not_eq_false, decide_eq_true_eq] using hc
      rcases hblank with rfl | rfl | rfl | rfl <;> revert h <;> decide
    · rintro rfl
      revert h
      decide
    · rintro rfl
      revert h
      decide
    · intro hc
      simp at hc
      rcases hc with rfl | rfl | rfl | rfl | rfl | rfl <;> revert h <;> decide

theorem write_head (level : ℕ) (j : Json) :
    ∃ c cs, write f level j = c :: cs ∧ isBlank c = false ∧ c ≠ ']' := by
  rcases j with _ | b | n | x | s | items | members
  · exact ⟨_, _, rfl, by decide, by decide⟩
  · rcases b with _ | _ <;> exact ⟨_, _, rfl, by decide, by decide⟩
  · obtain ⟨c, cs, hcs, hc⟩ := signed_head (n < 0) n.natAbs
    exact ⟨c, cs, hcs, (numeric_head hc).1, (numeric_head hc).2.1⟩
  · obtain ⟨c, cs, hcs, hc⟩ := signed_head x.negative x.whole
    exact ⟨c, _, by rw [write, writeFloat, hcs, List.cons_append, List.cons_append], (numeric_head hc).1,
      (numeric_head hc).2.1⟩
  · exact ⟨_, _, rfl, by decide, by decide⟩
  · exact ⟨_, _, rfl, by decide, by decide⟩
  · exact ⟨_, _, rfl, by decide, by decide⟩

theorem skip_write (level : ℕ) (j : Json) (rest : List Char) :
    skip (write f level j ++ rest) = write f level j ++ rest := by
  obtain ⟨c, cs, hcs, hc, -⟩ := write_head f level j
  rw [hcs, List.cons_append, skip_cons hc]

theorem length_inside (level : ℕ) (last : Char) (texts : List (List Char)) :
    (texts.map fun t => t.length + 1).sum ≤ (inside f level last texts).length := by
  rcases texts with _ | ⟨t, ts⟩
  · exact Nat.zero_le _
  · have hmore : (ts.map fun t => t.length + 1).sum ≤
        (ts.flatMap fun t => ',' :: f.newline (level + 1) ++ t).length := by
      rw [List.length_flatMap]
      refine List.sum_le_sum fun t _ => ?_
      simp only [List.cons_append, List.length_cons, List.length_append]
      omega
    simp only [inside, List.map_cons, List.sum_cons, List.length_append, List.length_singleton]
    omega

theorem read_numeric (n : ℕ) {c : Char} (h : c = '-' ∨ c.isDigit = true) (cs : List Char) :
    read (n + 1) (c :: cs) = readNumber (c :: cs) := by
  have hc := (numeric_head h).2.2.2
  simp only [List.mem_cons, List.not_mem_nil, or_false, not_or] at hc
  unfold read
  split <;> rename_i heq <;> simp_all

section Members

variable {α : Type}

theorem setMember_last {k : String} {ms : List (String × α)} (v : α) (h : ∀ m ∈ ms, m.1 < k) :
    setMember k v ms = ms ++ [(k, v)] := by
  induction ms with
  | nil => rfl
  | cons m ms ih =>
    have hm := h m (by simp)
    rw [setMember, if_neg hm.asymm, if_neg hm.ne', ih fun m' hm' => h m' (by simp [hm']), List.cons_append]

/-- Pairs in the order of their keys stay as they are. -/
theorem ofPairs_sorted {ms : List (String × α)} (h : (ms.map Prod.fst).Pairwise (· < ·)) : ofPairs ms = ms := by
  have hfold : ∀ (ms acc : List (String × α)), ((acc ++ ms).map Prod.fst).Pairwise (· < ·) →
      ms.foldl (fun ms m => setMember m.1 m.2 ms) acc = acc ++ ms := by
    intro ms
    induction ms with
    | nil => intro acc _; rw [List.foldl_nil, List.append_nil]
    | cons m ms ih =>
      intro acc hacc
      have hlast : ∀ m' ∈ acc, m'.1 < m.1 := by
        intro m' hm'
        rw [List.map_append, List.pairwise_append] at hacc
        exact hacc.2.2 _ (List.mem_map_of_mem hm') _ (by simp)
      rw [List.foldl_cons, setMember_last m.2 hlast, ih _ (by simpa using hacc)]
      simp
  exact hfold ms [] h

end Members

theorem readMember_write {level : ℕ} {p : List Char → Option (Json × List Char)} {m : String × Json}
    {rest : List Char} (hp : p (write f level m.2 ++ rest) = some (m.2, rest)) :
    readMember p (writeMember f level m ++ rest) = some (m, rest) := by
  have hgap : skip (List.replicate f.gap ' ' ++ (write f level m.2 ++ rest)) = write f level m.2 ++ rest := by
    rw [skip, List.dropWhile_append_of_pos fun c hc => by rw [List.eq_of_mem_replicate hc]; rfl]
    exact skip_write f level m.2 rest
  simp only [writeMember, quote, List.append_assoc, List.cons_append, List.nil_append, readMember, readString_write,
    Option.bind_eq_bind, Option.bind_some]
  rw [skip_cons (by rfl)]
  simp only [hgap, hp, Option.map_some, String.ofList_toList]

/-- No text of an element is longer than the text of the list. -/
theorem length_le_inside {level : ℕ} {last : Char} {texts : List (List Char)} {n : ℕ}
    (h : (inside f level last texts).length ≤ n) : texts.length ≤ n ∧ ∀ t ∈ texts, t.length ≤ n := by
  have hsum := length_inside f level last texts
  refine ⟨?_, fun t ht => ?_⟩
  · have hlen := List.length_le_sum_of_one_le (texts.map fun t => t.length + 1) (by simp)
    rw [List.length_map] at hlen
    omega
  · have hmem := List.le_sum_of_mem (List.mem_map_of_mem (f := fun t => t.length + 1) ht)
    omega

theorem read_write {j : Json} (h : Canonical j) : ∀ {n level : ℕ} {rest : List Char},
    (write f level j).length ≤ n → Ends rest → read n (write f level j ++ rest) = some (j, rest) := by
  have hpos : ∀ {n level : ℕ} {j : Json}, (write f level j).length ≤ n → ∃ m, n = m + 1 := by
    intro n level j hn
    obtain ⟨c, cs, hcs, -⟩ := write_head f level j
    rw [hcs, List.length_cons] at hn
    exact ⟨n - 1, by omega⟩
  induction h with
  | null =>
    intro n level rest hn _
    obtain ⟨n, rfl⟩ := hpos hn
    rfl
  | bool b =>
    intro n level rest hn _
    obtain ⟨n, rfl⟩ := hpos hn
    rcases b with _ | _ <;> rfl
  | int k =>
    intro n level rest hn hrest
    obtain ⟨n, rfl⟩ := hpos hn
    have hread := readNumber_int k hrest
    obtain ⟨c, cs, hcs, hc⟩ := signed_head (k < 0) k.natAbs
    rw [write]
    rw [hcs, List.cons_append] at hread ⊢
    rw [read_numeric n hc, hread]
  | float x =>
    intro n level rest hn hrest
    obtain ⟨n, rfl⟩ := hpos hn
    have hread := readNumber_float x hrest
    obtain ⟨c, cs, hcs, hc⟩ := signed_head x.negative x.whole
    rw [write]
    rw [writeFloat, hcs, List.cons_append, List.cons_append, List.cons_append] at hread ⊢
    rw [read_numeric n hc, hread]
  | str s =>
    intro n level rest hn _
    obtain ⟨n, rfl⟩ := hpos hn
    simp only [write, quote, List.cons_append, List.append_assoc, List.nil_append, read, readString_write,
      Option.map_some, String.ofList_toList]
  | @arr items _ ih =>
    intro n level rest hn _
    obtain ⟨n, rfl⟩ := hpos hn
    simp only [write, writeItems_eq, List.length_cons] at hn
    obtain ⟨hcount, hlength⟩ := length_le_inside f (Nat.le_of_succ_le_succ hn)
    have hitems := readEnclosed_write (p := read n) (write f (level + 1)) (Or.inl rfl) f level rest
      (by simpa using hcount)
      (fun x hx rest hrest => ih x hx (hlength _ (List.mem_map_of_mem hx)) hrest)
      fun x _ => write_head f (level + 1) x
    simp only [write, writeItems_eq, List.cons_append, read, hitems, Option.map_some]
  | @obj members hkeys _ ih =>
    intro n level rest hn _
    obtain ⟨n, rfl⟩ := hpos hn
    simp only [write, writeMembers_eq, List.length_cons] at hn
    obtain ⟨hcount, hlength⟩ := length_le_inside f (Nat.le_of_succ_le_succ hn)
    have hmembers := readEnclosed_write (p := readMember (read n)) (writeMember f (level + 1)) (Or.inr rfl) f
      level rest (by simpa using hcount)
      (fun m hm rest hrest => readMember_write f (ih m hm
        ((by simp [writeMember]; omega : _ ≤ (writeMember f (level + 1) m).length).trans
          (hlength _ (List.mem_map_of_mem hm))) hrest))
      fun m _ => ⟨'"', _, rfl, by decide, by decide⟩
    simp only [write, writeMembers_eq, List.cons_append, read, hmembers, Option.map_some, ofPairs_sorted hkeys]

/-- Reading the text of a document gives the document. -/
theorem loads_dumps {j : Json} (h : Canonical j) : loads (dumps f j) = some j := by
  have hread : read ((write f 0 j).length + 1) (write f 0 j ++ []) = some (j, []) :=
    read_write f h (Nat.le_succ _) fun c hc => nomatch hc
  have hskip := skip_write f 0 j []
  rw [List.append_nil] at hread hskip
  simp only [loads, dumps, hskip, hread, Option.bind_eq_bind, Option.bind_some]
  rfl

end Documents

/-! What is read has its members in order. -/

section Canonical

variable {α : Type}

theorem mem_setMember {k : String} {v : α} {m : String × α} {ms : List (String × α)} (h : m ∈ setMember k v ms) :
    m = (k, v) ∨ m ∈ ms := by
  induction ms with
  | nil => exact Or.inl (by simpa [setMember] using h)
  | cons m' ms ih =>
    unfold setMember at h
    split_ifs at h <;> simp at h ⊢ <;> grind

theorem setMember_sorted {k : String} {ms : List (String × α)} (v : α) (h : (ms.map Prod.fst).Pairwise (· < ·)) :
    ((setMember k v ms).map Prod.fst).Pairwise (· < ·) := by
  induction ms with
  | nil => simp [setMember]
  | cons m ms ih =>
    rw [List.map_cons, List.pairwise_cons] at h
    unfold setMember
    split_ifs with hlt heq
    · simp only [List.map_cons, List.pairwise_cons, List.mem_cons]
      refine ⟨?_, h⟩
      rintro k' (rfl | hk')
      · exact hlt
      · exact hlt.trans (h.1 k' hk')
    · rw [List.map_cons, List.pairwise_cons]
      exact ⟨fun k' hk' => heq ▸ h.1 k' hk', h.2⟩
    · rw [List.map_cons, List.pairwise_cons]
      refine ⟨fun k' hk' => ?_, ih h.2⟩
      obtain ⟨m', hm', rfl⟩ := List.mem_map.1 hk'
      rcases mem_setMember hm' with rfl | hm'
      · exact lt_of_le_of_ne (not_lt.1 hlt) (Ne.symm heq)
      · exact h.1 _ (List.mem_map_of_mem hm')

theorem ofPairs_canonical {pairs : List (String × Json)} (h : ∀ m ∈ pairs, Canonical m.2) :
    Canonical (.obj (ofPairs pairs)) := by
  have hfold : ∀ (pairs acc : List (String × Json)), (∀ m ∈ pairs, Canonical m.2) → Canonical (.obj acc) →
      Canonical (.obj (pairs.foldl (fun ms m => setMember m.1 m.2 ms) acc)) := by
    intro pairs
    induction pairs with
    | nil => exact fun acc _ hacc => hacc
    | cons m ms ih =>
      rintro acc hms ⟨⟩
      rename_i hkeys hacc
      refine ih _ (fun m' hm' => hms m' (by simp [hm'])) (.obj (setMember_sorted m.2 hkeys) fun m' hm' => ?_)
      rcases mem_setMember hm' with rfl | hm'
      · exact hms m (by simp)
      · exact hacc m' hm'
  exact hfold pairs [] h (.obj List.Pairwise.nil fun m hm => nomatch hm)

variable {p : List Char → Option (α × List Char)} {Q : α → Prop} {last : Char} {rest : List Char}

theorem readMore_all (hp : ∀ cs x rest, p cs = some (x, rest) → Q x) {n : ℕ} {cs : List Char} {xs : List α}
    (h : readMore p last n cs = some (xs, rest)) : ∀ x ∈ xs, Q x := by
  induction n generalizing cs xs with
  | zero => cases h
  | succ n ih =>
    unfold readMore at h
    split at h
    · cases h
    · rename_i c cs' _
      split_ifs at h
      · cases h
        simp
      · simp only [Option.bind_eq_bind, Option.bind_eq_some_iff, Prod.exists] at h
        obtain ⟨x, cs₁, hx, ys, cs₂, hys, heq⟩ := h
        cases heq
        rintro y (_ | ⟨_, hy⟩)
        · exact hp _ _ _ hx
        · exact ih hys y hy

theorem readEnclosed_all (hp : ∀ cs x rest, p cs = some (x, rest) → Q x) {n : ℕ} {cs : List Char} {xs : List α}
    (h : readEnclosed p last n cs = some (xs, rest)) : ∀ x ∈ xs, Q x := by
  unfold readEnclosed at h
  split at h
  · cases h
  · rename_i c cs' _
    split_ifs at h
    · cases h
      simp
    · simp only [Option.bind_eq_bind, Option.bind_eq_some_iff, Prod.exists] at h
      obtain ⟨x, cs₁, hx, ys, cs₂, hys, heq⟩ := h
      cases heq
      rintro y (_ | ⟨_, hy⟩)
      · exact hp _ _ _ hx
      · exact readMore_all hp hys y hy

theorem readMember_all (hp : ∀ cs x rest, p cs = some (x, rest) → Q x) (cs : List Char) (m : String × α)
    (rest : List Char) (h : readMember p cs = some (m, rest)) : Q m.2 := by
  unfold readMember at h
  split at h
  · simp only [Option.bind_eq_bind, Option.bind_eq_some_iff, Prod.exists] at h
    obtain ⟨k, cs₁, -, hm⟩ := h
    split at hm
    · obtain ⟨⟨x, cs₂⟩, hx, heq⟩ := Option.map_eq_some_iff.1 hm
      cases heq
      exact hp _ _ _ hx
    · cases hm
  · cases h

theorem readNumber_canonical {cs : List Char} {j : Json} (h : readNumber cs = some (j, rest)) : Canonical j := by
  simp only [readNumber, Option.bind_eq_bind, Option.bind_eq_some_iff, Prod.exists] at h
  obtain ⟨whole, cs₁, -, h⟩ := h
  split_ifs at h
  · cases h
    exact .float _
  all_goals
    cases h
    exact .int _

theorem read_canonical {n : ℕ} (cs : List Char) (j : Json) (rest : List Char) (h : read n cs = some (j, rest)) :
    Canonical j := by
  induction n generalizing cs j rest with
  | zero => cases h
  | succ n ih =>
    unfold read at h
    split at h
    · cases h
    · cases h
      exact .null
    · cases h
      exact .bool true
    · cases h
      exact .bool false
    · obtain ⟨⟨s, cs₁⟩, -, heq⟩ := Option.map_eq_some_iff.1 h
      cases heq
      exact .str _
    · rename_i heq
      cases heq
      obtain ⟨⟨items, cs₁⟩, hitems, heq⟩ := Option.map_eq_some_iff.1 h
      cases heq
      exact .arr (readEnclosed_all ih hitems)
    · rename_i heq
      cases heq
      obtain ⟨⟨pairs, cs₁⟩, hpairs, heq⟩ := Option.map_eq_some_iff.1 h
      cases heq
      exact ofPairs_canonical (readEnclosed_all (Q := fun m => Canonical m.2) (readMember_all ih) hpairs)
    · exact readNumber_canonical h

theorem loads_canonical {text : List Char} {j : Json} (h : loads text = some j) : Canonical j := by
  simp only [loads, Option.bind_eq_bind, Option.bind_eq_some_iff, Prod.exists] at h
  obtain ⟨j', cs, hread, hif⟩ := h
  split_ifs at hif
  cases hif
  exact read_canonical _ _ _ hread

end Canonical

end Json
