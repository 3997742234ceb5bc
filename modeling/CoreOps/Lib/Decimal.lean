import Mathlib.Data.Int.Log
import Mathlib.Data.Rat.Floor
import Mathlib.Tactic.Linarith
import Mathlib.Tactic.FieldSimp
import Mathlib.Tactic.Ring

/-! Decimal numbers by their value, with the two roundings money goes through: the
arithmetic context, which keeps a number of significant digits with ties to even,
and a column of fixed scale, which rounds ties away from zero. A value that is a
whole number of units of a scale the context can hold passes through unchanged,
and neither rounding carries a value past such a whole number. -/

namespace Decimal

/-- The nearest integer, ties away from zero. -/
def roundHalfAway (x : ℚ) : ℤ := if 0 ≤ x then ⌊x + 1 / 2⌋ else -⌊1 / 2 - x⌋

/-- The nearest integer, ties to even. -/
def roundHalfEven (x : ℚ) : ℤ :=
  if x - ⌊x⌋ < 1 / 2 then ⌊x⌋
  else if 1 / 2 < x - ⌊x⌋ then ⌊x⌋ + 1
  else if ⌊x⌋ % 2 = 0 then ⌊x⌋ else ⌊x⌋ + 1

/-- The place of the last of the `p` leading digits of `x`. -/
def unit (p : ℕ) (x : ℚ) : ℚ := 10 ^ (Int.log 10 |x| + 1 - p)

/-- `x` to `p` significant digits. -/
def toPrecision (p : ℕ) (x : ℚ) : ℚ := roundHalfEven (x / unit p x) * unit p x

theorem roundHalfAway_le {x : ℚ} {n : ℤ} (hx : 0 ≤ x) (h : x ≤ n) : roundHalfAway x ≤ n := by
  rw [roundHalfAway, if_pos hx, ← Int.lt_add_one_iff, Int.floor_lt]
  push_cast
  linarith

theorem le_roundHalfAway {x : ℚ} {n : ℤ} (hx : 0 ≤ x) (h : (n : ℚ) ≤ x) : n ≤ roundHalfAway x := by
  rw [roundHalfAway, if_pos hx, Int.le_floor]
  linarith

theorem roundHalfAway_intCast (n : ℤ) : roundHalfAway n = n := by
  rcases le_or_gt 0 n with hn | hn
  · have h0 : (0 : ℚ) ≤ n := by exact_mod_cast hn
    exact le_antisymm (roundHalfAway_le h0 le_rfl) (le_roundHalfAway h0 le_rfl)
  · have h0 : ¬ (0 : ℚ) ≤ n := by exact_mod_cast not_le.2 hn
    rw [roundHalfAway, if_neg h0]
    have hf : ⌊(1 / 2 : ℚ) - n⌋ = -n := by
      rw [Int.floor_eq_iff]
      push_cast
      constructor <;> linarith
    rw [hf, neg_neg]

theorem roundHalfEven_intCast (n : ℤ) : roundHalfEven n = n := by
  simp [roundHalfEven]

/-- `n` is the nearest integer to `x`, and the even one where two are. -/
def NearestEven (n : ℤ) (x : ℚ) : Prop := |x - n| < 1 / 2 ∨ |x - n| = 1 / 2 ∧ Even n

theorem nearestEven_roundHalfEven (x : ℚ) : NearestEven (roundHalfEven x) x := by
  have hfloor := Int.floor_le x
  have hlt := Int.lt_floor_add_one x
  unfold roundHalfEven
  split_ifs with h₁ h₂ h₃
  · left
    rw [abs_of_nonneg (by linarith)]
    exact h₁
  · left
    push_cast
    rw [abs_of_nonpos (by linarith)]
    linarith
  · right
    refine ⟨?_, Int.even_iff.2 h₃⟩
    rw [abs_of_nonneg (by linarith)]
    linarith
  · right
    refine ⟨?_, Int.even_iff.2 (by omega)⟩
    push_cast
    rw [abs_of_nonpos (by linarith)]
    linarith

theorem NearestEven.unique {n m : ℤ} {x : ℚ} (hn : NearestEven n x) (hm : NearestEven m x) : n = m := by
  by_contra hne
  -- different integers are at least 1 apart, and each is within a half of `x`
  have hle : ∀ {k : ℤ}, NearestEven k x → |x - k| ≤ 1 / 2 := by
    rintro k (h | ⟨h, -⟩)
    · exact h.le
    · exact h.le
  have hapart : (1 : ℚ) ≤ |(n : ℚ) - m| := by
    have h1 : 1 ≤ |n - m| := Int.one_le_abs (sub_ne_zero.2 hne)
    exact_mod_cast h1
  have htriangle : |(n : ℚ) - m| ≤ |x - m| + |x - n| := by
    have h : (n : ℚ) - m = (x - m) - (x - n) := by ring
    rw [h]
    exact abs_sub _ _
  have hnle := hle hn
  have hmle := hle hm
  have hsum : |(n : ℚ) - m| = 1 := le_antisymm (by linarith) hapart
  -- so both are halfway, and both are even
  have hneven : Even n := (hn.resolve_left (by linarith)).2
  have hmeven : Even m := (hm.resolve_left (by linarith)).2
  have hone : |n - m| = 1 := by exact_mod_cast hsum
  obtain ⟨a, rfl⟩ := hneven
  obtain ⟨b, rfl⟩ := hmeven
  rcases (abs_eq zero_le_one).1 hone with h | h
  · omega
  · omega

theorem roundHalfEven_eq_iff {x : ℚ} {n : ℤ} : roundHalfEven x = n ↔ NearestEven n x := by
  constructor
  · rintro rfl
    exact nearestEven_roundHalfEven x
  · exact fun h => (nearestEven_roundHalfEven x).unique h

theorem roundHalfEven_le {x : ℚ} {n : ℤ} (h : x ≤ n) : roundHalfEven x ≤ n := by
  have hfloor : ⌊x⌋ ≤ n := by exact_mod_cast (Int.floor_le x).trans h
  rcases hfloor.eq_or_lt with heq | hlt
  · have hx : x - ⌊x⌋ < 1 / 2 := by rw [heq]; linarith
    rw [roundHalfEven, if_pos hx]
    exact hfloor
  · unfold roundHalfEven
    split_ifs <;> omega

theorem le_roundHalfEven {x : ℚ} {n : ℤ} (h : (n : ℚ) ≤ x) : n ≤ roundHalfEven x := by
  have hfloor : n ≤ ⌊x⌋ := Int.le_floor.2 h
  unfold roundHalfEven
  split_ifs <;> omega

theorem unit_pos (p : ℕ) (x : ℚ) : 0 < unit p x := by
  unfold unit
  exact zpow_pos (by norm_num) _

/-- A scale the digits of `x` reach down to is a whole number of units of `x`. -/
theorem scale_eq_mul_unit {p s : ℕ} {x : ℚ} (hs : s < p) (hx : |x| < 10 ^ ((p : ℤ) - s)) :
    ∃ n : ℕ, (10 : ℚ) ^ (-(s : ℤ)) = n * unit p x := by
  have hlog : Int.log 10 |x| < (p : ℤ) - s := by
    rcases (abs_nonneg x).eq_or_lt with h0 | h0
    · rw [← h0, Int.log_zero_right]; omega
    · exact (Int.lt_zpow_iff_log_lt (by norm_num) h0).1 (by exact_mod_cast hx)
  obtain ⟨n, hn⟩ := Int.eq_ofNat_of_zero_le (a := (p : ℤ) - s - 1 - Int.log 10 |x|) (by omega)
  refine ⟨10 ^ n, ?_⟩
  rw [unit, Nat.cast_pow, Nat.cast_ofNat, ← zpow_natCast, ← zpow_add₀ (by norm_num)]
  congr 1
  omega

section Whole

variable {p s : ℕ} {x : ℚ} {k : ℤ}

/-- Whole numbers of a scale keep their value. -/
theorem toPrecision_eq_self (hs : s < p) (hx : |x| < 10 ^ ((p : ℤ) - s)) (hk : x = k * 10 ^ (-(s : ℤ))) :
    toPrecision p x = x := by
  obtain ⟨n, hn⟩ := scale_eq_mul_unit hs hx
  have hu := unit_pos p x
  have hdiv : x / unit p x = ((k * n : ℤ) : ℚ) := by
    rw [div_eq_iff hu.ne']
    calc x = k * 10 ^ (-(s : ℤ)) := hk
      _ = ((k * n : ℤ) : ℚ) * unit p x := by rw [hn]; push_cast; ring
  rw [toPrecision, hdiv, roundHalfEven_intCast, ← hdiv, div_mul_cancel₀ _ hu.ne']

/-- The context does not carry a value past a whole number of a scale. -/
theorem toPrecision_le (hs : s < p) (hx : |x| < 10 ^ ((p : ℤ) - s)) (hk : x ≤ k * 10 ^ (-(s : ℤ))) :
    toPrecision p x ≤ k * 10 ^ (-(s : ℤ)) := by
  obtain ⟨n, hn⟩ := scale_eq_mul_unit hs hx
  have hu := unit_pos p x
  have hkn : (k : ℚ) * 10 ^ (-(s : ℤ)) = ((k * n : ℤ) : ℚ) * unit p x := by
    rw [hn]; push_cast; ring
  rw [hkn] at hk ⊢
  have hle : roundHalfEven (x / unit p x) ≤ k * n := roundHalfEven_le ((div_le_iff₀ hu).2 hk)
  have hle' : (roundHalfEven (x / unit p x) : ℚ) ≤ ((k * n : ℤ) : ℚ) := by exact_mod_cast hle
  exact mul_le_mul_of_nonneg_right hle' hu.le

end Whole

/-- A whole number of units of a scale stays one, however large. -/
theorem exists_toPrecision_eq {p s : ℕ} (hs : s < p) (k : ℤ) :
    ∃ m : ℤ, toPrecision p (k * 10 ^ (-(s : ℤ))) = m * 10 ^ (-(s : ℤ)) := by
  rcases lt_or_ge |(k : ℚ) * 10 ^ (-(s : ℤ))| (10 ^ ((p : ℤ) - s)) with hx | hx
  · exact ⟨k, toPrecision_eq_self hs hx rfl⟩
  · -- past the digits of the context the unit is a whole number of units of the scale
    generalize (k : ℚ) * 10 ^ (-(s : ℤ)) = x at hx ⊢
    have hpos : 0 < |x| := (zpow_pos (by norm_num) _).trans_le hx
    have hlog : (p : ℤ) - s ≤ Int.log 10 |x| :=
      (Int.zpow_le_iff_le_log (by norm_num) hpos).1 (by exact_mod_cast hx)
    obtain ⟨n, hn⟩ := Int.eq_ofNat_of_zero_le (a := Int.log 10 |x| + 1 - p + s) (by omega)
    have hunit : unit p x = 10 ^ n * 10 ^ (-(s : ℤ)) := by
      rw [unit, ← zpow_natCast, ← zpow_add₀ (by norm_num)]
      congr 1
      omega
    refine ⟨roundHalfEven (x / unit p x) * 10 ^ n, ?_⟩
    rw [toPrecision]
    nth_rewrite 2 [hunit]
    push_cast
    ring

theorem toPrecision_nonneg {p : ℕ} {x : ℚ} (hx : 0 ≤ x) : 0 ≤ toPrecision p x := by
  have hu := unit_pos p x
  have h : (0 : ℤ) ≤ roundHalfEven (x / unit p x) := le_roundHalfEven (by simpa using div_nonneg hx hu.le)
  have h' : (0 : ℚ) ≤ roundHalfEven (x / unit p x) := by exact_mod_cast h
  exact mul_nonneg h' hu.le

/-- A value past a power of ten stays past it. -/
theorem zpow_le_toPrecision {p : ℕ} {x : ℚ} {j : ℤ} (hp : 0 < p) (h : 10 ^ j ≤ x) :
    10 ^ j ≤ toPrecision p x := by
  have hj : (0 : ℚ) < 10 ^ j := zpow_pos (by norm_num) _
  have hx : 0 < |x| := abs_pos.2 (hj.trans_le h).ne'
  have hlog : j ≤ Int.log 10 |x| :=
    (Int.zpow_le_iff_le_log (by norm_num) hx).1 (by exact_mod_cast h.trans (le_abs_self x))
  have hself : (10 : ℚ) ^ Int.log 10 |x| ≤ x := by
    have := Int.zpow_log_le_self (b := 10) (by norm_num) hx
    rw [abs_of_pos (hj.trans_le h)] at this ⊢
    exact_mod_cast this
  -- the leading digits alone reach the power of ten
  have hu := unit_pos p x
  have hlead : ((10 ^ (p - 1) : ℕ) : ℚ) * unit p x = 10 ^ Int.log 10 |x| := by
    rw [unit, Nat.cast_pow, Nat.cast_ofNat, ← zpow_natCast, ← zpow_add₀ (by norm_num)]
    congr 1
    omega
  have hround : ((10 ^ (p - 1) : ℕ) : ℤ) ≤ roundHalfEven (x / unit p x) := by
    refine le_roundHalfEven ((le_div_iff₀ hu).2 ?_)
    rw [Int.cast_natCast, hlead]
    exact hself
  have hround' : ((10 ^ (p - 1) : ℕ) : ℚ) ≤ roundHalfEven (x / unit p x) := by exact_mod_cast hround
  calc (10 : ℚ) ^ j ≤ 10 ^ Int.log 10 |x| := zpow_le_zpow_right₀ (by norm_num) hlog
    _ = ((10 ^ (p - 1) : ℕ) : ℚ) * unit p x := hlead.symm
    _ ≤ toPrecision p x := mul_le_mul_of_nonneg_right hround' hu.le

/-- Rounding keeps a positive value positive, however small. -/
theorem toPrecision_pos {p : ℕ} {x : ℚ} (hp : 0 < p) (hx : 0 < x) : 0 < toPrecision p x := by
  have hlog : (10 : ℚ) ^ Int.log 10 x ≤ x := by
    exact_mod_cast Int.zpow_log_le_self (b := 10) (by norm_num) hx
  exact (zpow_pos (by norm_num) _).trans_le (zpow_le_toPrecision hp hlog)

@[simp] theorem toPrecision_zero (p : ℕ) : toPrecision p 0 = 0 := by
  have hround : roundHalfEven 0 = 0 := by exact_mod_cast roundHalfEven_intCast 0
  rw [toPrecision, zero_div, hround, Int.cast_zero, zero_mul]

end Decimal
