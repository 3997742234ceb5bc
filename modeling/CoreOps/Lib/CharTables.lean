import CoreOps.Lib.Text

/-! What the interpreter takes from its Unicode tables, with the laws that the services
rely on. -/

namespace Text

/-- The characters of `\d` and of `str.isdigit`, and `str.lower`. -/
structure CharTables where
  isDecimal : Char → Bool
  isDigit : Char → Bool
  lower : String → String
  isDecimal_digit : ∀ i < 10, isDecimal (Char.ofNat (48 + i)) = true
  isSpace_of_isDecimal : ∀ c, isDecimal c = true → isSpace c = false
  lower_lower : ∀ s, lower (lower s) = lower s
  strip_lower : ∀ s, strip (lower s) = lower (strip s)

/-- A text with no space in it is stripped already. -/
theorem strip_eq_self {l : List Char} (h : ∀ c ∈ l, isSpace c = false) : strip (String.ofList l) = String.ofList l := by
  have hleft : l.dropWhile isSpace = l := by
    rw [List.dropWhile_eq_self_iff]
    intro hl
    simp [h _ (List.getElem_mem hl)]
  have hright : l.rdropWhile isSpace = l := by
    rw [List.rdropWhile_eq_self_iff]
    intro hl
    simp [h _ (List.getLast_mem hl)]
  unfold strip
  rw [String.toList_ofList, hleft, hright]

/-! The tables of texts in ASCII. -/

theorem toNat_ofNat {n : ℕ} (h : n < 0xd800) : (Char.ofNat n).toNat = n := by
  have hvalid : n.isValidChar := .inl h
  rw [Char.ofNat, dif_pos hvalid]
  rfl

def asciiLowerChar (c : Char) : Char :=
  if 65 ≤ c.toNat ∧ c.toNat ≤ 90 then Char.ofNat (c.toNat + 32) else c

theorem toNat_asciiLowerChar (c : Char) :
    (asciiLowerChar c).toNat = if 65 ≤ c.toNat ∧ c.toNat ≤ 90 then c.toNat + 32 else c.toNat := by
  unfold asciiLowerChar
  split
  · exact toNat_ofNat (by omega)
  · rfl

theorem asciiLowerChar_asciiLowerChar (c : Char) : asciiLowerChar (asciiLowerChar c) = asciiLowerChar c := by
  have h := toNat_asciiLowerChar c
  rw [asciiLowerChar, if_neg]
  split at h <;> omega

theorem isSpace_asciiLowerChar (c : Char) : isSpace (asciiLowerChar c) = isSpace c := by
  have hnotSpace : ∀ d : Char, 65 ≤ d.toNat → d.toNat ≤ 122 → isSpace d = false := by
    intro d hlow hhigh
    simp only [isSpace, List.mem_cons, List.not_mem_nil, or_false, decide_eq_false_iff_not]
    omega
  have hnat := toNat_asciiLowerChar c
  unfold asciiLowerChar at hnat ⊢
  split
  case isTrue hupper =>
    rw [if_pos hupper, if_pos hupper] at hnat
    rw [hnotSpace _ (by omega) (by omega), hnotSpace c (by omega) (by omega)]
  case isFalse => rfl

def asciiLower (s : String) : String := String.ofList (s.toList.map asciiLowerChar)

theorem strip_asciiLower (s : String) : strip (asciiLower s) = asciiLower (strip s) := by
  have hspace : isSpace ∘ asciiLowerChar = isSpace := funext isSpace_asciiLowerChar
  unfold strip asciiLower
  simp only [String.toList_ofList, List.rdropWhile, List.dropWhile_map, hspace, ← List.map_reverse]

def CharTables.ascii : CharTables where
  isDecimal c := 48 ≤ c.toNat ∧ c.toNat ≤ 57
  isDigit c := 48 ≤ c.toNat ∧ c.toNat ≤ 57
  lower := asciiLower
  isDecimal_digit i h := by
    rw [toNat_ofNat (by omega)]
    exact decide_eq_true ⟨by omega, by omega⟩
  isSpace_of_isDecimal c h := by
    have hrange := of_decide_eq_true h
    simp only [isSpace, decide_eq_false_iff_not, List.mem_cons, List.not_mem_nil, or_false]
    omega
  lower_lower s := by
    have h : asciiLowerChar ∘ asciiLowerChar = asciiLowerChar := funext asciiLowerChar_asciiLowerChar
    simp [asciiLower, h]
  strip_lower := strip_asciiLower

end Text
