import FindReplace.Number.Double
import FindReplace.Text.Numeral

/-!
Doubles in decimal notation. A text is read as the double nearest to the number it writes. A double
is written with the fewest digits that are read back as it, and of those with the digits nearest to
it: positionally for a first digit from the fourth place after the point to the sixteenth before it,
else with an exponent of at least two digits.
-/
namespace FindReplace

namespace Double

open Text (isDecimal numeral)

/-- Beyond this power of ten nothing but zero and infinity is left. -/
def decimalRange : Int := 400

/-- The double nearest to `digits * 10 ^ exponent`; `digits` has `count` digits. -/
def ofDecimal (negative : Bool) (digits count : Nat) (exponent : Int) : Double :=
  if digits = 0 then zero negative
  else if decimalRange < exponent + count then .infinite negative
  else if exponent + count < -decimalRange then zero negative
  else if 0 ≤ exponent then ofRatio negative (digits * Nat.pow 10 exponent.toNat) 1
  else ofRatio negative digits (Nat.pow 10 (-exponent).toNat)

def readDigits? (cs : List Char) : Option Nat :=
  if cs.isEmpty || !cs.all isDecimal then none else some (numeral 10 cs)

def readExponent : List Char → Option Int
  | '-' :: cs => (readDigits? cs).map fun n => -Int.ofNat n
  | '+' :: cs => (readDigits? cs).map Int.ofNat
  | cs => (readDigits? cs).map Int.ofNat

/-- An unsigned number: digits, a point and digits, an exponent. -/
def readUnsigned (negative : Bool) (cs : List Char) : Option Double :=
  let whole := cs.takeWhile isDecimal
  let rest := cs.dropWhile isDecimal
  let (fraction, rest) :=
    match rest with
    | '.' :: rest => (rest.takeWhile isDecimal, rest.dropWhile isDecimal)
    | rest => ([], rest)
  let digits := whole ++ fraction
  if digits.isEmpty then none
  else
    let exponent : Option Int :=
      match rest with
      | [] => some 0
      | c :: rest => if c == 'e' || c == 'E' then readExponent rest else none
    exponent.map fun e =>
      ofDecimal negative (numeral 10 digits) digits.length (e - fraction.length)

def readMagnitude (negative : Bool) (cs : List Char) : Option Double :=
  match cs.map Char.toLower with
  | ['n', 'a', 'n'] => some .nan
  | ['i', 'n', 'f'] => some (.infinite negative)
  | ['i', 'n', 'f', 'i', 'n', 'i', 't', 'y'] => some (.infinite negative)
  | _ => readUnsigned negative cs

def ofText? (s : String) : Option Double :=
  match s.toList with
  | '-' :: cs => readMagnitude true cs
  | '+' :: cs => readMagnitude false cs
  | cs => readMagnitude false cs

/-- Numbers as multiples of one unit: a double, and the ends of the interval of the numbers that are
rounded to it, which are in the interval if `closed`. -/
structure Rounding where
  value : Nat
  low : Nat
  high : Nat
  closed : Bool

def Rounding.holds (r : Rounding) (n : Nat) : Bool :=
  if r.closed then r.low ≤ n && n ≤ r.high else r.low < n && n < r.high

/-- The unit is `2 ^ (exponent - 2)`. Below a power of two the next double is half as far. -/
def roundingOf (mantissa : Nat) (exponent : Int) : Rounding :=
  let nearBelow := mantissa = Nat.pow 2 52 && exponent != -1074
  ⟨4 * mantissa, 4 * mantissa - (if nearBelow then 1 else 2), 4 * mantissa + 2, mantissa % 2 == 0⟩

def Rounding.scale (r : Rounding) (k : Nat) : Rounding :=
  ⟨r.value * k, r.low * k, r.high * k, r.closed⟩

/-- The multiple of `step` in the interval that is nearest to the value, as a count of steps. -/
def Rounding.nearest? (r : Rounding) (step : Nat) : Option Nat :=
  let below := r.value / step
  let rest := r.value % step
  match r.holds (below * step), r.holds ((below + 1) * step) with
  | true, true =>
    if 2 * rest < step || (2 * rest == step && below % 2 == 0) then some below else some (below + 1)
  | true, false => some below
  | false, true => some (below + 1)
  | false, false => none

/-- The first hit among the powers of ten below `10 ^ power`, from the highest on. -/
def Rounding.shortest (r : Rounding) : (power : Nat) → Nat × Nat
  | 0 => (r.value, 0)
  | power + 1 =>
    match r.nearest? (Nat.pow 10 power) with
    | some 0 => r.shortest power
    | some n => (n, power)
    | none => r.shortest power

/-- The digits of a positive double and the power of ten of the last of them. A unit below one is
`5 ^ places` times `10 ^ -places`, so the search counts in the latter. -/
def shortestDigits (mantissa : Nat) (exponent : Int) : Nat × Int :=
  let r := roundingOf mantissa exponent
  let e := exponent - 2
  if 0 ≤ e then
    let r := r.scale (Nat.pow 2 e.toNat)
    let (n, power) := r.shortest 310
    (n, power)
  else
    let places := (-e).toNat
    let r := r.scale (Nat.pow 5 places)
    let (n, power) := r.shortest (places + 17)
    (n, (power : Int) - places)

def trimZeros (cs : List Char) : List Char := (cs.reverse.dropWhile (· == '0')).reverse

def zeros (n : Nat) : List Char := List.replicate n '0'

/-- An exponent has a sign and at least two digits. -/
def exponentChars (e : Int) : List Char :=
  let digits := (toString e.natAbs).toList
  (if e < 0 then '-' else '+') :: zeros (2 - digits.length) ++ digits

/-- The digits `cs`, the first of which counts `10 ^ e`. -/
def layOut (cs : List Char) (e : Int) : List Char :=
  if -4 ≤ e && e < 16 then
    if e < 0 then '0' :: '.' :: zeros ((-e).toNat - 1) ++ cs
    else
      let whole := e.toNat + 1
      let fraction := cs.drop whole
      cs.take whole ++ zeros (whole - cs.length) ++
        '.' :: if fraction.isEmpty then ['0'] else fraction
  else
    match cs with
    | [] => []
    | [c] => c :: 'e' :: exponentChars e
    | c :: rest => c :: '.' :: rest ++ 'e' :: exponentChars e

def text : Double → String
  | .nan => "nan"
  | .infinite negative => if negative then "-inf" else "inf"
  | .finite negative m e _ =>
    let sign := if negative then "-" else ""
    if m = 0 then sign ++ "0.0"
    else
      let (n, power) := shortestDigits m e
      let digits := (toString n).toList
      sign ++ String.ofList (layOut (trimZeros digits) (power + digits.length - 1))

end Double

end FindReplace
