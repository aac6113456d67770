/-!
Numerals of ASCII digits: which characters are digits in base eight, ten and sixteen, and what
number a list of digits writes. Digits of other scripts are no digits here.
-/
namespace FindReplace.Text

def isOctal (c : Char) : Bool := '0' ≤ c && c ≤ '7'

def isDecimal (c : Char) : Bool := '0' ≤ c && c ≤ '9'

def isHex (c : Char) : Bool :=
  isDecimal c || ('a' ≤ c && c ≤ 'f') || ('A' ≤ c && c ≤ 'F')

/-- The value of a digit in base sixteen, of either case. -/
def hexValue (c : Char) : Nat :=
  if isDecimal c then c.toNat - 48 else if 'a' ≤ c then c.toNat - 87 else c.toNat - 55

/-- The number that a text of digits writes in a base. -/
def numeral (base : Nat) (cs : List Char) : Nat :=
  cs.foldl (fun n c => base * n + hexValue c) 0

theorem numeral_concat (base : Nat) (cs : List Char) (c : Char) :
    numeral base (cs ++ [c]) = base * numeral base cs + hexValue c := by
  simp [numeral]

theorem hexValue_of_isDecimal {c : Char} (h : isDecimal c = true) : hexValue c = c.toNat - 48 :=
  if_pos h

end FindReplace.Text
