import CoreOps.Lib.CharTables
import CoreOps.Lib.Positional

/-! The text of a UUID, thirty-two hexadecimal digits in five groups: how it is written, and
how it is read in either case of the letters. -/

namespace UuidText

open Text

def hexDigit (d : Fin 16) : Char := Nat.digitChar d

theorem hexDigit_injective : Function.Injective hexDigit := by
  intro d d'
  revert d d'
  decide

theorem asciiLowerChar_hexDigit (d : Fin 16) : asciiLowerChar (hexDigit d) = hexDigit d := by
  revert d
  decide

/-- The digit of a character of `[0-9a-fA-F]`. -/
def hexDigit? (c : Char) : Option (Fin 16) := (List.finRange 16).find? fun d => hexDigit d = asciiLowerChar c

theorem hexDigit?_eq_some {c : Char} {d : Fin 16} : hexDigit? c = some d ↔ asciiLowerChar c = hexDigit d := by
  constructor
  · intro h
    have hd := List.find?_some h
    exact (of_decide_eq_true hd).symm
  · intro h
    cases hfound : hexDigit? c with
    | none => exact absurd (decide_eq_true h.symm) (List.find?_eq_none.1 hfound d (List.mem_finRange d))
    | some d' =>
      have hd := List.find?_some hfound
      exact congrArg some (hexDigit_injective ((of_decide_eq_true hd).trans h))

/-- The first `n` elements, and each following group of the given lengths behind a hyphen. -/
def hyphenate : List ℕ → List Char → List Char
  | [], _ => []
  | [n], cs => cs.take n
  | n :: m :: ns, cs => cs.take n ++ '-' :: hyphenate (m :: ns) (cs.drop n)

def groups : List ℕ := [8, 4, 4, 4, 12]

/-- `str(id)`. -/
def text (id : BitVec 128) : List Char :=
  hyphenate groups ((Positional.write 32 id.toNat).map hexDigit)

/-! Reading. -/

/-- `[0-9a-fA-F]{n}` at the head of a text. -/
def takeHex (n : ℕ) (cs : List Char) : Option (List (Fin 16) × List Char) := do
  let ds ← (cs.take n).mapM hexDigit?
  if ds.length = n then some (ds, cs.drop n) else none

def afterHyphen : List Char → Option (List Char)
  | '-' :: cs => some cs
  | _ => none

/-- Groups of digits with hyphens between them. -/
def takeGroups : List ℕ → List Char → Option (List (Fin 16) × List Char)
  | [], cs => some ([], cs)
  | [n], cs => takeHex n cs
  | n :: m :: ns, cs => do
    let (ds, cs) ← takeHex n cs
    let cs ← afterHyphen cs
    let (ds', cs) ← takeGroups (m :: ns) cs
    return (ds ++ ds', cs)

/-- A UUID at the head of a text. -/
def take (cs : List Char) : Option (BitVec 128 × List Char) :=
  (takeGroups groups cs).map fun (ds, rest) => (BitVec.ofNat 128 (Positional.read ds), rest)

theorem mapM_hexDigit? {cs : List Char} {ds : List (Fin 16)} :
    cs.mapM hexDigit? = some ds ↔ cs.map asciiLowerChar = ds.map hexDigit := by
  induction cs generalizing ds with
  | nil => cases ds <;> simp
  | cons c cs ih =>
    simp only [List.mapM_cons, Option.bind_eq_bind, Option.bind_eq_some_iff, hexDigit?_eq_some, ih, List.map_cons]
    cases ds with
    | nil => simp
    | cons d ds =>
      constructor
      · rintro ⟨d', hd, ds', hds, h⟩
        obtain ⟨rfl, rfl⟩ := List.cons.inj (Option.some.inj h)
        rw [List.map_cons, hd, hds]
      · intro h
        obtain ⟨hd, hds⟩ := List.cons.inj h
        exact ⟨d, hd, ds, hds, rfl⟩

theorem takeHex_eq_some {n : ℕ} {cs rest : List Char} {ds : List (Fin 16)} :
    takeHex n cs = some (ds, rest) ↔
      ∃ front, cs = front ++ rest ∧ ds.length = n ∧ front.map asciiLowerChar = ds.map hexDigit := by
  simp only [takeHex, Option.bind_eq_bind, Option.bind_eq_some_iff, mapM_hexDigit?]
  constructor
  · rintro ⟨ds', hds, h⟩
    split_ifs at h with hlength
    obtain ⟨rfl, rfl⟩ := Prod.mk.inj (Option.some.inj h)
    exact ⟨cs.take n, (List.take_append_drop n cs).symm, hlength, hds⟩
  · rintro ⟨front, rfl, hlength, hds⟩
    have hfront : front.length = n := by
      rw [← hlength, ← List.length_map hexDigit, ← hds, List.length_map]
    exact ⟨ds, by rw [← hfront, List.take_left, hds], by rw [if_pos hlength, ← hfront, List.drop_left]⟩

theorem eq_hyphen {c : Char} (h : asciiLowerChar c = '-') : c = '-' := by
  have hnat := toNat_asciiLowerChar c
  rw [h, show ('-' : Char).toNat = 45 from rfl] at hnat
  split_ifs at hnat
  · omega
  · exact Char.ext (UInt32.toNat_inj.1 hnat.symm)

theorem afterHyphen_eq_some {cs cs' : List Char} : afterHyphen cs = some cs' ↔ cs = '-' :: cs' := by
  unfold afterHyphen
  split
  · simp
  · rename_i hnot
    exact ⟨nofun, fun h => absurd h (hnot cs')⟩

theorem takeGroups_eq_some {ns : List ℕ} {cs rest : List Char} {ds : List (Fin 16)} :
    takeGroups ns cs = some (ds, rest) ↔
      ∃ front, cs = front ++ rest ∧ ds.length = ns.sum ∧ front.map asciiLowerChar = hyphenate ns (ds.map hexDigit) := by
  induction ns generalizing cs ds with
  | nil =>
    simp only [takeGroups, hyphenate, Option.some.injEq, Prod.mk.injEq, List.sum_nil, List.length_eq_zero_iff,
      List.map_eq_nil_iff]
    constructor
    · rintro ⟨rfl, rfl⟩
      exact ⟨[], rfl, rfl, rfl⟩
    · rintro ⟨front, rfl, rfl, rfl⟩
      exact ⟨rfl, rfl⟩
  | cons n ns ih =>
    cases ns with
    | nil =>
      have hall : ∀ ds : List (Fin 16), ds.length = n → hyphenate [n] (ds.map hexDigit) = ds.map hexDigit := by
        intro ds hds
        exact List.take_of_length_le (by rw [List.length_map, hds])
      rw [takeGroups, takeHex_eq_some, List.sum_singleton]
      constructor
      · rintro ⟨front, hcs, hlength, hfront⟩
        exact ⟨front, hcs, hlength, by rw [hall ds hlength, hfront]⟩
      · rintro ⟨front, hcs, hlength, hfront⟩
        exact ⟨front, hcs, hlength, by rw [hfront, hall ds hlength]⟩
    | cons m ns =>
      constructor
      · intro h
        simp only [takeGroups, Option.bind_eq_bind, Option.bind_eq_some_iff, Option.pure_def, Option.some.injEq,
          Prod.mk.injEq, Prod.exists] at h
        obtain ⟨ds₁, cs₁, h₁, cs₂, hhyphen, ds₂, rest', h₂, rfl, rfl⟩ := h
        obtain ⟨front, rfl, hlength, hfront⟩ := takeHex_eq_some.1 h₁
        obtain rfl := afterHyphen_eq_some.1 hhyphen
        obtain ⟨front₂, rfl, hlength₂, hfront₂⟩ := ih.1 h₂
        refine ⟨front ++ '-' :: front₂, by simp, ?_, ?_⟩
        · rw [List.length_append, hlength, hlength₂]
          rfl
        · rw [hyphenate, List.map_append, List.map_append, List.map_cons, hfront, hfront₂, List.take_left' (by simpa),
            List.drop_left' (by simpa)]
          rfl
      · rintro ⟨front, rfl, hlength, hfront⟩
        rw [List.sum_cons] at hlength
        obtain ⟨front₁, tail, rfl, hfront₁, htail⟩ := List.map_eq_append_iff.1 hfront
        obtain ⟨c, front₂, rfl, hc, hfront₂⟩ := List.map_eq_cons_iff.1 htail
        obtain rfl := eq_hyphen hc
        have h₁ : takeHex n (front₁ ++ '-' :: (front₂ ++ rest)) = some (ds.take n, '-' :: (front₂ ++ rest)) := by
          refine takeHex_eq_some.2 ⟨front₁, rfl, ?_, by rw [hfront₁, List.map_take]⟩
          rw [List.length_take]
          omega
        have h₂ : takeGroups (m :: ns) (front₂ ++ rest) = some (ds.drop n, rest) := by
          refine ih.2 ⟨front₂, rfl, ?_, by rw [hfront₂, List.map_drop]⟩
          rw [List.length_drop]
          omega
        rw [takeGroups, List.append_assoc, List.cons_append, h₁]
        simp only [Option.bind_eq_bind, Option.bind_some, afterHyphen, h₂, List.take_append_drop]
        rfl

/-- The digits of a UUID. -/
theorem write_toNat {ds : List (Fin 16)} (h : ds.length = 32) :
    Positional.write 32 (BitVec.ofNat 128 (Positional.read ds)).toNat = ds := by
  have hlt := Positional.read_lt ds
  rw [h] at hlt
  rw [BitVec.toNat_ofNat, Nat.mod_eq_of_lt (by simpa using hlt), ← h, Positional.write_read]

/-- What is read is a text of the UUID, up to the case of its letters, and so is every such text. -/
theorem take_eq_some {cs rest : List Char} {id : BitVec 128} :
    take cs = some (id, rest) ↔ ∃ front, cs = front ++ rest ∧ front.map asciiLowerChar = text id := by
  simp only [take, Option.map_eq_some_iff, Prod.exists, Prod.mk.injEq]
  constructor
  · rintro ⟨ds, rest', hds, rfl, rfl⟩
    obtain ⟨front, rfl, hlength, hfront⟩ := takeGroups_eq_some.1 hds
    exact ⟨front, rfl, by rw [hfront, text, write_toNat hlength]⟩
  · rintro ⟨front, rfl, hfront⟩
    have hds : takeGroups groups (front ++ rest) = some (Positional.write 32 id.toNat, rest) :=
      takeGroups_eq_some.2 ⟨front, rfl, Positional.length_write _ _, hfront⟩
    refine ⟨_, rest, hds, ?_, rfl⟩
    rw [Positional.read_write (by simpa using id.isLt), BitVec.ofNat_toNat, BitVec.setWidth_eq]

/-- A text in lower case. -/
theorem map_asciiLowerChar_text (id : BitVec 128) : (text id).map asciiLowerChar = text id := by
  have hdigits : ((Positional.write 32 id.toNat).map hexDigit).map asciiLowerChar =
      (Positional.write 32 id.toNat).map hexDigit := by
    rw [List.map_map]
    exact List.map_congr_left fun d _ => asciiLowerChar_hexDigit d
  simp only [text, groups, hyphenate, List.map_append, List.map_cons, List.map_take, List.map_drop, hdigits]
  rfl

end UuidText
