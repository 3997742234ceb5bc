import Mathlib.Data.Int.Basic
import Mathlib.Data.Nat.Notation
import Mathlib.Tactic.NormNum

/-! The proleptic Gregorian calendar: the year, month and day of a day number, and the text of
a date. Day 1 is the first of January of the year 1, and the text tells days apart. -/

namespace CivilDate

def isLeap (year : ℤ) : Bool := year % 4 = 0 ∧ (year % 100 ≠ 0 ∨ year % 400 = 0)

/-- The days before a month, in a year without a leap day. -/
def daysBeforeMonth : ℕ → ℕ
  | 2 => 31
  | 3 => 59
  | 4 => 90
  | 5 => 120
  | 6 => 151
  | 7 => 181
  | 8 => 212
  | 9 => 243
  | 10 => 273
  | 11 => 304
  | 12 => 334
  | _ => 0

def daysBefore (leap : Bool) (month : ℕ) : ℕ := daysBeforeMonth month + if 2 < month ∧ leap then 1 else 0

/-- The month of a day of the year, counted from zero: an estimate that is at most one too high. -/
def monthOf (leap : Bool) (day : ℕ) : ℕ :=
  let month := (day + 50) / 32
  if day < daysBefore leap month then month - 1 else month

structure YearMonthDay where
  year : ℤ
  month : ℕ
  day : ℕ
  deriving DecidableEq, Repr

/-- `date.fromordinal`, by cycles of 400, 100, 4 years and one. -/
def ofOrdinal (ordinal : ℤ) : YearMonthDay :=
  let n := ordinal - 1
  let n400 := n / 146097
  let n := n % 146097
  let n100 := n / 36524
  let n := n % 36524
  let n4 := n / 1461
  let n := n % 1461
  let n1 := n / 365
  let n := n % 365
  let year := n400 * 400 + n100 * 100 + n4 * 4 + n1 + 1
  if n1 = 4 ∨ n100 = 4 then ⟨year - 1, 12, 31⟩
  else
    let leap : Bool := n1 = 3 ∧ (n4 ≠ 24 ∨ n100 = 3)
    let month := monthOf leap n.toNat
    ⟨year, month, n.toNat - daysBefore leap month + 1⟩

def daysBeforeYear (year : ℤ) : ℤ := (year - 1) * 365 + (year - 1) / 4 - (year - 1) / 100 + (year - 1) / 400

/-- `date.toordinal`. -/
def toOrdinal (d : YearMonthDay) : ℤ := daysBeforeYear d.year + daysBefore (isLeap d.year) d.month + d.day

theorem month_spec (leap : Bool) {day : ℕ} (h : day < 365) :
    daysBefore leap (monthOf leap day) ≤ day ∧ day - daysBefore leap (monthOf leap day) + 1 < 100 ∧
      monthOf leap day < 100 := by
  revert leap
  revert day
  decide +kernel

/-- The place of a day in its cycles gives its year, and whether that year has a leap day. -/
theorem isLeap_of_cycles {a b c d : ℤ} (hb : 0 ≤ b ∧ b ≤ 3) (hc : 0 ≤ c ∧ c ≤ 24) (hd : 0 ≤ d ∧ d ≤ 3) :
    isLeap (a * 400 + b * 100 + c * 4 + d + 1) = decide (d = 3 ∧ (c ≠ 24 ∨ b = 3)) := by
  rw [isLeap, decide_eq_decide]
  omega

theorem daysBeforeYear_of_cycles {a b c d : ℤ} (hb : 0 ≤ b ∧ b ≤ 3) (hc : 0 ≤ c ∧ c ≤ 24) (hd : 0 ≤ d ∧ d ≤ 3) :
    daysBeforeYear (a * 400 + b * 100 + c * 4 + d + 1) = 146097 * a + 36524 * b + 1461 * c + 365 * d := by
  have h4 : (a * 400 + b * 100 + c * 4 + d + 1 - 1) / 4 = 100 * a + 25 * b + c := by omega
  have h100 : (a * 400 + b * 100 + c * 4 + d + 1 - 1) / 100 = 4 * a + b := by omega
  have h400 : (a * 400 + b * 100 + c * 4 + d + 1 - 1) / 400 = a := by omega
  rw [daysBeforeYear, h4, h100, h400]
  omega

theorem toOrdinal_ofOrdinal (n : ℤ) : toOrdinal (ofOrdinal n) = n := by
  obtain ⟨m, rfl⟩ : ∃ m, n = m + 1 := ⟨n - 1, by omega⟩
  unfold ofOrdinal
  dsimp only
  rw [Int.add_sub_cancel]
  generalize ha : m / 146097 = a
  generalize hr : m % 146097 = r
  generalize hb : r / 36524 = b
  generalize hs : r % 36524 = s
  generalize hc : s / 1461 = c
  generalize ht : s % 1461 = t
  generalize hd : t / 365 = d
  generalize hu : t % 365 = u
  have hm : m = 146097 * a + 36524 * b + 1461 * c + 365 * d + u := by omega
  split_ifs with hlast
  · -- the last day of a leap year, the fourth of its cycle
    obtain ⟨b', c', hyear, hb', hc', hleap, hday⟩ : ∃ b' c',
        a * 400 + b * 100 + c * 4 + d + 1 - 1 = a * 400 + b' * 100 + c' * 4 + 3 + 1 ∧ (0 ≤ b' ∧ b' ≤ 3) ∧
        (0 ≤ c' ∧ c' ≤ 24) ∧ (c' ≠ 24 ∨ b' = 3) ∧
        m = 146097 * a + 36524 * b' + 1461 * c' + 365 * 3 + 365 := by
      by_cases hcentury : b = 4
      · exact ⟨3, 24, by omega⟩
      · exact ⟨b, c, by omega⟩
    have hleap : isLeap (a * 400 + b' * 100 + c' * 4 + 3 + 1) = true := by
      rw [isLeap_of_cycles hb' hc' (by omega), decide_eq_true_iff]
      exact ⟨rfl, hleap⟩
    simp only [toOrdinal, hyear, hleap, daysBeforeYear_of_cycles hb' hc' (by omega : (0 : ℤ) ≤ 3 ∧ (3 : ℤ) ≤ 3),
      daysBefore, daysBeforeMonth]
    norm_num
    omega
  · have hb' : 0 ≤ b ∧ b ≤ 3 := by omega
    have hc' : 0 ≤ c ∧ c ≤ 24 := by omega
    have hd' : 0 ≤ d ∧ d ≤ 3 := by omega
    have hleap := isLeap_of_cycles (a := a) hb' hc' hd'
    have hday : u.toNat < 365 := by omega
    obtain ⟨hle, -, -⟩ := month_spec (isLeap (a * 400 + b * 100 + c * 4 + d + 1)) hday
    rw [← hleap]
    simp only [toOrdinal, daysBeforeYear_of_cycles hb' hc' hd']
    omega

theorem ofOrdinal_injective : Function.Injective ofOrdinal := fun m n h => by
  rw [← toOrdinal_ofOrdinal m, h, toOrdinal_ofOrdinal]

/-! The text. -/

/-- A number in at least as many digits. -/
def padded (width n : ℕ) : List Char :=
  List.replicate (width - (Nat.toDigits 10 n).length) '0' ++ Nat.toDigits 10 n

theorem ofDigitChars_padded (width n : ℕ) : Nat.ofDigitChars 10 (padded width n) 0 = n := by
  simp [padded, Nat.ofDigitChars_append]

theorem padded_injective {width m n : ℕ} (h : padded width m = padded width n) : m = n := by
  rw [← ofDigitChars_padded width m, h, ofDigitChars_padded]

/-- The year of a date, in four digits where it has no more; a calendar of the years 1 to 9999
has no others. -/
def yearText (year : ℤ) : List Char := if year < 0 then '-' :: padded 4 year.natAbs else padded 4 year.natAbs

/-- `date.isoformat`. -/
def isoformat (ordinal : ℤ) : String :=
  let d := ofOrdinal ordinal
  String.ofList (yearText d.year ++ ('-' :: padded 2 d.month ++ '-' :: padded 2 d.day))

theorem length_padded_two {n : ℕ} (h : n < 100) : (padded 2 n).length = 2 := by
  revert n
  decide

theorem padded_head (width n : ℕ) : ∀ c ∈ padded width n, c ≠ '-' := by
  intro c hc
  rcases List.mem_append.1 hc with hzero | hdigit
  · rw [List.eq_of_mem_replicate hzero]
    decide
  · intro hminus
    have := Nat.isDigit_of_mem_toDigits (by decide) (by decide) hdigit
    rw [hminus] at this
    exact absurd this (by decide)

theorem yearText_injective : Function.Injective yearText := by
  intro x y h
  unfold yearText at h
  split_ifs at h with hx hy hy
  · have := padded_injective (List.cons.inj h).2
    omega
  · exact absurd rfl (padded_head 4 y.natAbs '-' (h ▸ List.mem_cons_self))
  · exact absurd rfl (padded_head 4 x.natAbs '-' (h ▸ List.mem_cons_self))
  · have := padded_injective h
    omega

theorem ofOrdinal_bounds (n : ℤ) : (ofOrdinal n).month < 100 ∧ (ofOrdinal n).day < 100 := by
  unfold ofOrdinal
  dsimp only
  split_ifs
  · exact ⟨by norm_num, by norm_num⟩
  · have hday : ((n - 1) % 146097 % 36524 % 1461 % 365).toNat < 365 := by omega
    obtain ⟨-, hlt, hmonth⟩ := month_spec _ hday
    exact ⟨hmonth, hlt⟩

/-- Different days have different texts. -/
theorem isoformat_injective : Function.Injective isoformat := by
  intro m n h
  obtain ⟨hmonth, hday⟩ := ofOrdinal_bounds m
  obtain ⟨hmonth', hday'⟩ := ofOrdinal_bounds n
  have hlength (x : ℤ) (hx : (ofOrdinal x).month < 100 ∧ (ofOrdinal x).day < 100) :
      ('-' :: padded 2 (ofOrdinal x).month ++ '-' :: padded 2 (ofOrdinal x).day).length = 6 := by
    simp [length_padded_two hx.1, length_padded_two hx.2]
  obtain ⟨hyear, hrest⟩ := List.append_inj' (String.ofList_injective h)
    ((hlength m ⟨hmonth, hday⟩).trans (hlength n ⟨hmonth', hday'⟩).symm)
  obtain ⟨hmonths, hdays⟩ := List.append_inj hrest (by simp [length_padded_two hmonth, length_padded_two hmonth'])
  have hsame : ofOrdinal m = ofOrdinal n := by
    rw [YearMonthDay.mk.injEq]
    exact ⟨yearText_injective hyear, padded_injective (List.cons.inj hmonths).2, padded_injective (List.cons.inj hdays).2⟩
  exact ofOrdinal_injective hsame

/-! Reading. -/

/-- What stands before the first hyphen, and behind it. -/
def splitHyphen (cs : List Char) : List Char × List Char := (cs.takeWhile (· ≠ '-'), (cs.dropWhile (· ≠ '-')).tail)

/-- The day of a text that `isoformat` writes. -/
def fromIsoformat? (text : String) : Option ℤ :=
  let (year, rest) := splitHyphen text.toList
  let (month, day) := splitHyphen rest
  let ordinal := toOrdinal ⟨Nat.ofDigitChars 10 year 0, Nat.ofDigitChars 10 month 0, Nat.ofDigitChars 10 day 0⟩
  if isoformat ordinal = text then some ordinal else none

theorem splitHyphen_padded (width n : ℕ) (rest : List Char) :
    splitHyphen (padded width n ++ '-' :: rest) = (padded width n, rest) := by
  have hall : ∀ c ∈ padded width n, decide (c ≠ '-') = true := fun c hc => decide_eq_true (padded_head width n c hc)
  rw [splitHyphen, List.takeWhile_append_of_pos hall, List.dropWhile_append_of_pos hall]
  simp

theorem year_nonneg {n : ℤ} (h : 1 ≤ n) : 0 ≤ (ofOrdinal n).year := by
  unfold ofOrdinal
  dsimp only
  split_ifs
  · dsimp only
    omega
  · dsimp only
    omega

/-- Reading the text of a day gives the day. -/
theorem fromIsoformat?_isoformat {n : ℤ} (h : 1 ≤ n) : fromIsoformat? (isoformat n) = some n := by
  have hyear := year_nonneg h
  have htext : (isoformat n).toList = padded 4 (ofOrdinal n).year.natAbs ++ '-' :: (padded 2 (ofOrdinal n).month ++
      '-' :: padded 2 (ofOrdinal n).day) := by
    rw [isoformat, String.toList_ofList, yearText, if_neg (by omega)]
    rfl
  have hordinal : toOrdinal ⟨((ofOrdinal n).year.natAbs : ℕ), (ofOrdinal n).month, (ofOrdinal n).day⟩ = n := by
    rw [Int.natAbs_of_nonneg hyear]
    exact toOrdinal_ofOrdinal n
  simp only [fromIsoformat?, htext, splitHyphen_padded, ofDigitChars_padded, hordinal, if_true]

example : isoformat 738945 = "2024-02-29" := by decide

end CivilDate
