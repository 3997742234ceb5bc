import Mathlib.Algebra.Order.Ring.Nat
import Mathlib.Data.Fin.Basic
import Mathlib.Data.List.Induction

/-! Numbers as digits of a base, the greatest first, in a fixed width; and texts in UTF-8. -/

namespace Positional

variable {b : ℕ}

def read (ds : List (Fin b)) : ℕ := ds.foldl (fun n d => n * b + d.val) 0

theorem read_concat (ds : List (Fin b)) (d : Fin b) : read (ds ++ [d]) = read ds * b + d := by
  simp [read, List.foldl_append]

theorem read_lt (ds : List (Fin b)) : read ds < b ^ ds.length := by
  induction ds using List.reverseRecOn with
  | nil => simp [read]
  | append_singleton ds d ih =>
    rw [read_concat, List.length_append, List.length_singleton, pow_succ]
    calc read ds * b + d < (read ds + 1) * b := by have := d.isLt; rw [add_mul]; omega
      _ ≤ b ^ ds.length * b := Nat.mul_le_mul_right b ih

variable [NeZero b]

/-- The last `w` digits of `n`. -/
def write : ℕ → ℕ → List (Fin b)
  | 0, _ => []
  | w + 1, n => write w (n / b) ++ [Fin.ofNat b n]

@[simp] theorem length_write (w n : ℕ) : (write w n : List (Fin b)).length = w := by
  induction w generalizing n with
  | zero => rfl
  | succ w ih => simp [write, ih]

theorem read_write {w n : ℕ} (h : n < b ^ w) : read (write w n : List (Fin b)) = n := by
  induction w generalizing n with
  | zero =>
    rw [pow_zero] at h
    simp [write, read]
    omega
  | succ w ih =>
    have hdiv : n / b < b ^ w := Nat.div_lt_of_lt_mul (by rwa [pow_succ, mul_comm] at h)
    rw [write, read_concat, ih hdiv, Fin.val_ofNat]
    exact Nat.div_add_mod' n b

theorem write_read (ds : List (Fin b)) : write ds.length (read ds) = ds := by
  induction ds using List.reverseRecOn with
  | nil => rfl
  | append_singleton ds d ih =>
    have hpos : 0 < b := NeZero.pos b
    have hdiv : (read ds * b + d) / b = read ds := by
      rw [mul_comm, Nat.mul_add_div hpos, Nat.div_eq_of_lt d.isLt, add_zero]
    rw [List.length_append, List.length_singleton, write, read_concat, hdiv, ih]
    congr 2
    apply Fin.ext
    rw [Fin.val_ofNat, mul_comm, Nat.mul_add_mod, Nat.mod_eq_of_lt d.isLt]

theorem write_eq_map (w n : ℕ) :
    (write w n : List (Fin b)) = (List.range w).map fun i => Fin.ofNat b (n / b ^ (w - 1 - i)) := by
  induction w generalizing n with
  | zero => rfl
  | succ w ih =>
    rw [write, ih, List.range_succ, List.map_append]
    refine congrArg₂ _ (List.map_congr_left fun i hi => ?_) (by simp)
    have hi := List.mem_range.1 hi
    have hexp : w + 1 - 1 - i = w - 1 - i + 1 := by omega
    rw [hexp, Nat.pow_succ', Nat.div_div_eq_div_mul]
end Positional

/-! Bytes. -/

namespace Bytes

/-- An unsigned integer of `w` bytes, big-endian. -/
def ofNat (w n : ℕ) : List UInt8 := (Positional.write w n).map UInt8.ofFin

def toNat (bytes : List UInt8) : ℕ := Positional.read (bytes.map UInt8.toFin)

@[simp] theorem length_ofNat (w n : ℕ) : (ofNat w n).length = w := by simp [ofNat]

theorem toNat_lt (bytes : List UInt8) : toNat bytes < 256 ^ bytes.length := by
  have h := Positional.read_lt (bytes.map UInt8.toFin)
  rwa [List.length_map] at h

theorem toNat_ofNat {w n : ℕ} (h : n < 256 ^ w) : toNat (ofNat w n) = n := by
  have hmap : ((Positional.write w n).map UInt8.ofFin).map UInt8.toFin = Positional.write w n := by
    simp [Function.comp_def]
  rw [toNat, ofNat, hmap]
  exact Positional.read_write h

theorem ofNat_toNat (bytes : List UInt8) : ofNat bytes.length (toNat bytes) = bytes := by
  have h := Positional.write_read (bytes.map UInt8.toFin)
  rw [List.length_map] at h
  rw [ofNat, toNat, h]
  simp [Function.comp_def]

/-- `bytes[i:j]`. -/
def slice (bytes : List UInt8) (i j : ℕ) : List UInt8 := (bytes.drop i).take (j - i)

theorem length_slice {bytes : List UInt8} {i j : ℕ} (h : j ≤ bytes.length) : (slice bytes i j).length = j - i := by
  simp only [slice, List.length_take, List.length_drop]
  omega

/-- The slice between two others. -/
theorem slice_append {front middle back : List UInt8} {i j : ℕ} (hi : front.length = i) (hj : i + middle.length = j) :
    slice (front ++ (middle ++ back)) i j = middle := by
  rw [slice, ← hi, List.drop_left, hi, show j - i = middle.length by omega, List.take_left]

theorem take_append_slice (bytes : List UInt8) {i j : ℕ} (h : i ≤ j) :
    bytes.take i ++ slice bytes i j = bytes.take j := by
  rw [slice, ← List.take_add, Nat.add_sub_cancel' h]

/-- `text.encode("utf-8")`. -/
def utf8 (text : String) : List UInt8 := text.toByteArray.data.toList

/-- `bytes.decode("utf-8")`, if it does not raise. -/
def utf8Decode? (bytes : List UInt8) : Option String := String.fromUTF8? ⟨bytes.toArray⟩

@[simp] theorem utf8Decode?_utf8 (text : String) : utf8Decode? (utf8 text) = some text := by
  rw [utf8Decode?, utf8, Array.toArray_toList, String.fromUTF8?, dif_pos text.isValidUTF8]
  rfl

theorem utf8_of_utf8Decode? {bytes : List UInt8} {text : String} (h : utf8Decode? bytes = some text) :
    utf8 text = bytes := by
  unfold utf8Decode? String.fromUTF8? at h
  split_ifs at h
  rw [← Option.some.inj h]
  rfl

end Bytes
