import Mathlib.Data.List.DropRight

/-! Python's texts as the services use them. -/

namespace Text

/-- The characters `str.strip` takes off. -/
def isSpace (c : Char) : Bool :=
  c.toNat ∈ [0x09, 0x0a, 0x0b, 0x0c, 0x0d, 0x1c, 0x1d, 0x1e, 0x1f, 0x20, 0x85, 0xa0, 0x1680, 0x2000, 0x2001,
    0x2002, 0x2003, 0x2004, 0x2005, 0x2006, 0x2007, 0x2008, 0x2009, 0x200a, 0x2028, 0x2029, 0x202f, 0x205f,
    0x3000]

def strip (s : String) : String :=
  String.ofList ((s.toList.dropWhile isSpace).rdropWhile isSpace)

theorem strip_strip (s : String) : strip (strip s) = strip s := by
  have hdrop : ∀ l : List Char, ((l.dropWhile isSpace).rdropWhile isSpace).dropWhile isSpace =
      (l.dropWhile isSpace).rdropWhile isSpace := by
    intro l
    rw [List.dropWhile_eq_self_iff]
    intro hl
    have hpre := List.rdropWhile_prefix isSpace (l.dropWhile isSpace)
    rw [hpre.getElem hl]
    exact List.dropWhile_get_zero_not isSpace l (hl.trans_le hpre.length_le)
  unfold strip
  rw [String.toList_ofList, hdrop, List.rdropWhile_idempotent]

/-- `a or b`: the text that is there and not empty, else `b`. -/
def orElse (a : Option String) (b : String) : String := (a.filter (· ≠ "")).getD b

/-- A text that is there hides whatever stands in for it. -/
theorem orElse_eq_of_ne {a : Option String} (h : orElse a "" ≠ "") (b : String) : orElse a b = orElse a "" := by
  unfold orElse at h ⊢
  cases hfilter : a.filter (· ≠ "") with
  | none => exact absurd (congrArg (Option.getD · "") hfilter) h
  | some text => rfl

end Text
