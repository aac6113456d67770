/-!
Binary floating-point numbers with 53 bits of precision, taken exactly: a finite one is a signed
integer times a power of two. `Double.ofRatio` rounds a ratio to the nearest of them, to the even
one if two are equally near.
-/
namespace FindReplace

namespace Double

/-- A mantissa and an exponent in the range of the format. -/
def InRange (mantissa : Nat) (exponent : Int) : Prop :=
  mantissa < Nat.pow 2 53 ∧ -1074 ≤ exponent ∧ exponent ≤ 971

instance (mantissa : Nat) (exponent : Int) : Decidable (InRange mantissa exponent) :=
  inferInstanceAs (Decidable (_ ∧ _ ∧ _))

end Double

/-- `finite` stands for `mantissa * 2 ^ exponent`, or the negative of it. -/
inductive Double
  | nan
  | infinite (negative : Bool)
  | finite (negative : Bool) (mantissa : Nat) (exponent : Int)
      (inRange : Double.InRange mantissa exponent)
  deriving DecidableEq, Repr

namespace Double

def zero (negative : Bool) : Double := .finite negative 0 0 (by decide)

/-- The integer nearest to `num / den`, an even one if two are equally near. -/
def roundDiv (num den : Nat) : Nat :=
  let q := num / den
  let twice := 2 * (num % den)
  if twice < den || (twice == den && q % 2 == 0) then q else q + 1

/-- `num / den` divided by `2 ^ e`, as a ratio. -/
def scaleDown (num den : Nat) (e : Int) : Nat × Nat :=
  if 0 ≤ e then (num, den * Nat.pow 2 e.toNat) else (num * Nat.pow 2 (-e).toNat, den)

/-- The least exponent at which the mantissa of `num / den` has at most 53 bits. -/
def exponentOf (num den : Nat) : Int :=
  let low : Int := max (-1074) ((num.log2 : Int) - den.log2 - 53)
  let (n, d) := scaleDown num den low
  if n / d < Nat.pow 2 53 then low else low + 1

/-- The double nearest to `num / den`, where `den` is not zero. -/
def ofRatio (negative : Bool) (num den : Nat) : Double :=
  if num = 0 then zero negative
  else
    let e := exponentOf num den
    let (n, d) := scaleDown num den e
    let m := roundDiv n d
    let (m, e) := if m = Nat.pow 2 53 then (Nat.pow 2 52, e + 1) else (m, e)
    if h : InRange m e then .finite negative m e h else .infinite negative

def isFinite : Double → Bool
  | .finite .. => true
  | _ => false

/-- The integer that a double is, if it is one. -/
def toInt? : Double → Option Int
  | .finite negative m e _ =>
    let sign (n : Nat) : Int := if negative then -Int.ofNat n else Int.ofNat n
    if 0 ≤ e then some (sign (m * Nat.pow 2 e.toNat))
    else
      let scale := Nat.pow 2 (-e).toNat
      if m % scale = 0 then some (sign (m / scale)) else none
  | _ => none

end Double

end FindReplace
