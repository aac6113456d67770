import FindReplace.Text.Blank
import FindReplace.Text.Number

/-!
Integers as people type them: blanks around, an optional sign, decimal digits of any script, and
single underscores between digits. The information separators are not blanks here. A text of more
than `maxDigits` digits is refused, so the time that reading takes stays bounded.
-/
namespace FindReplace.Text

def maxDigits : Nat := 4300

/-- The values of the digits; an underscore stands between two digits only. -/
def readDigits : List Char → Option (List Nat)
  | [] => none
  | [c] => (digitValue? c.toNat).map ([·])
  | c :: '_' :: rest => do
    let d ← digitValue? c.toNat
    let ds ← readDigits rest
    return d :: ds
  | c :: rest => do
    let d ← digitValue? c.toNat
    let ds ← readDigits rest
    return d :: ds

def ofDigits (ds : List Nat) : Nat := ds.foldl (fun n d => 10 * n + d) 0

def trimBlank (s : List Char) : List Char :=
  let blank (c : Char) := isBlank c.toNat && !isInformationSeparator c.toNat
  ((s.dropWhile blank).reverse.dropWhile blank).reverse

def readNatural (s : List Char) : Option Nat :=
  match readDigits s with
  | some ds => if ds.length ≤ maxDigits then some (ofDigits ds) else none
  | none => none

def readInteger (s : List Char) : Option Int :=
  match trimBlank s with
  | '-' :: rest => (readNatural rest).map fun n => -Int.ofNat n
  | '+' :: rest => (readNatural rest).map Int.ofNat
  | rest => (readNatural rest).map Int.ofNat

end FindReplace.Text
