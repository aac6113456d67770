import FindReplace.Value
import Mathlib.Algebra.Order.Field.Basic
import Mathlib.Algebra.Order.Ring.Rat

/-!
# The exact values of numbers

A finite double stands for a rational number, and every integer for itself. Which integer a number
is taken for is decided on its mantissa and exponent without any rounding, so a number is taken for
an integer exactly if its value is that integer. Zero has this value with either sign.
-/
namespace FindReplace

namespace Double

/-- The rational number that a finite double stands for. -/
def value? : Double → Option ℚ
  | .finite negative m e _ => some (if negative then -(m * 2 ^ e) else m * 2 ^ e)
  | _ => none

/-- The natural number `m * 2 ^ e`, if it is one. -/
def scaled? (m : Nat) (e : Int) : Option Nat :=
  if 0 ≤ e then some (m * 2 ^ e.toNat)
  else if m % 2 ^ (-e).toNat = 0 then some (m / 2 ^ (-e).toNat) else none

theorem scaled?_eq_some_iff {m n : Nat} {e : Int} :
    scaled? m e = some n ↔ (m * 2 ^ e : ℚ) = n := by
  unfold scaled?
  split
  · next he =>
      obtain ⟨k, rfl⟩ := Int.eq_ofNat_of_zero_le he
      rw [Option.some.injEq, Int.toNat_natCast, zpow_natCast]
      exact_mod_cast Iff.rfl
  · next he =>
      obtain ⟨k, hk⟩ := Int.eq_ofNat_of_zero_le (Int.neg_nonneg_of_nonpos (Int.le_of_not_le he))
      have hpos : 0 < 2 ^ k := Nat.two_pow_pos k
      have hne : (2 ^ k : ℚ) ≠ 0 := pow_ne_zero k two_ne_zero
      have hvalue : (m * 2 ^ e : ℚ) = n ↔ m = n * 2 ^ k := by
        rw [← neg_neg e, hk, zpow_neg, zpow_natCast, mul_inv_eq_iff_eq_mul₀ hne]
        exact_mod_cast Iff.rfl
      rw [hvalue, hk, Int.toNat_natCast]
      split
      · next hdvd =>
          rw [Option.some.injEq, Nat.div_eq_iff_eq_mul_left hpos (Nat.dvd_of_mod_eq_zero hdvd)]
      · next hndvd =>
          refine iff_of_false nofun fun h => hndvd ?_
          rw [h, Nat.mul_mod_left]

theorem toInt?_finite (negative : Bool) (m : Nat) (e : Int) (h : InRange m e) :
    (Double.finite negative m e h).toInt? =
      (scaled? m e).map fun (n : Nat) => if negative then -(n : Int) else (n : Int) := by
  simp only [toInt?, scaled?, Nat.pow_eq]
  split
  · rfl
  · split
    · rfl
    · rfl

/-- A double is taken for an integer exactly if its value is that integer. -/
theorem toInt?_eq_some_iff {d : Double} {z : Int} :
    d.toInt? = some z ↔ d.value? = some (z : ℚ) := by
  cases d with
  | nan => simp [toInt?, value?]
  | infinite negative => simp [toInt?, value?]
  | finite negative m e h =>
      have hnonneg : (0 : ℚ) ≤ m * 2 ^ e :=
        mul_nonneg (Nat.cast_nonneg m) (zpow_nonneg zero_le_two e)
      rw [toInt?_finite, value?, Option.some.injEq, Option.map_eq_some_iff]
      cases negative with
      | false =>
          simp only [Bool.false_eq_true, if_false]
          constructor
          · rintro ⟨n, hn, rfl⟩
            exact scaled?_eq_some_iff.1 hn
          · intro hz
            have hsign : 0 ≤ z := by exact_mod_cast hz ▸ hnonneg
            obtain ⟨n, rfl⟩ := Int.eq_ofNat_of_zero_le hsign
            exact ⟨n, scaled?_eq_some_iff.2 hz, rfl⟩
      | true =>
          simp only [if_true]
          constructor
          · rintro ⟨n, hn, rfl⟩
            rw [scaled?_eq_some_iff.1 hn, Int.cast_neg, Int.cast_natCast]
          · intro hz
            have hneg : (m * 2 ^ e : ℚ) = (-z : Int) := by rw [Int.cast_neg, ← hz, neg_neg]
            have hsign : 0 ≤ -z := by exact_mod_cast hneg ▸ hnonneg
            obtain ⟨n, hn⟩ := Int.eq_ofNat_of_zero_le hsign
            exact ⟨n, scaled?_eq_some_iff.2 (by rw [hneg, hn]; rfl), by omega⟩

end Double

namespace Value
variable {κ : Type}

def number? : Value κ → Option ℚ
  | .int n => some n
  | .double d => d.value?
  | _ => none

theorem integer?_eq_some_iff {v : Value κ} {z : Int} :
    v.integer? = some z ↔ v.number? = some (z : ℚ) := by
  cases v with
  | int n => simp [integer?, number?]
  | double d => exact Double.toInt?_eq_some_iff
  | _ => simp [integer?, number?]

end Value

end FindReplace
