import FindReplace.Regex.Syntax
import FindReplace.Text.Blank
import FindReplace.Text.LetterCase
import FindReplace.Text.Letter
import FindReplace.Text.Word

/-!
When a single code point passes a test. Without case, a code point is compared by its lower case,
and lower-case letters that share an upper case are the same letter. A set then holds a code point
if it holds any code point with the same lower case. Beyond the basic plane a set is simpler: a
single member is compared, as it is written, with the lower case, and a range holds what it spans in
lower or in upper case.
-/
namespace FindReplace.Regex

open Text

namespace Sense

def lower (s : Sense) (n : Nat) : Nat := if s.ascii then asciiLower n else Text.lower n

def isCased (s : Sense) (n : Nat) : Bool := if s.ascii then isAsciiLetter n else Text.isCased n

/-- The lower-case letters that are the same letter as `n`, which is in lower case. -/
def alike (s : Sense) (n : Nat) : List Nat := if s.ascii then [n] else n :: twins n

/-- The code points with the lower case `n`. -/
def sources (s : Sense) (n : Nat) : List Nat :=
  if s.ascii then [n, asciiUpper n].filter fun m => asciiLower m == n else lowerSources n

/-- The form in which texts are compared. -/
def fold (s : Sense) (n : Nat) : Nat := if s.ignoreCase then s.lower n else n

end Sense

def Category.holds (ascii : Bool) : Category → Nat → Bool
  | .digit, n => if ascii then isAsciiDigit n else isDigit n
  | .space, n => if ascii then isAsciiBlank n else isBlank n
  | .word, n => if ascii then isAsciiWord n else isWord n

/-- The first code point beyond the basic plane. -/
def planeEnd : Nat := 0x10000

namespace Member

def holds (ascii : Bool) : Member → Nat → Bool
  | .code m, n => n == m
  | .range lo hi, n => lo ≤ n && n ≤ hi
  | .category c negated, n => c.holds ascii n != negated

/-- Membership of a code point whose lower case is `n`, without regard to case. -/
def holdsFolded (sense : Sense) : Member → Nat → Bool
  | .code m, n => if m < planeEnd then (sense.alike (sense.lower m)).contains n else n == m
  | .range lo hi, n =>
    let spans (m : Nat) : Bool := lo ≤ m && m ≤ hi
    ((sense.alike n).any fun k => (sense.sources k).any fun m => m < planeEnd && spans m)
      || (planeEnd ≤ hi && (spans n || spans (upper n)))
  | .category c negated, n => c.holds sense.ascii n != negated

end Member

/-- Whether a code point is the literal `code`. -/
def sameLetter (sense : Sense) (code n : Nat) : Bool :=
  if sense.ignoreCase && sense.isCased code then
    (sense.alike (sense.lower code)).contains (sense.lower n)
  else n == code

def CharTest.accepts : CharTest → Nat → Bool
  | .any, _ => true
  | .notNewline, n => n != 10
  | .one code negated sense, n => sameLetter sense code n != negated
  | .oneOf members negated sense, n =>
    (if sense.ignoreCase then members.any fun m => m.holdsFolded sense (sense.lower n)
      else members.any fun m => m.holds sense.ascii n) != negated

end FindReplace.Regex
