import FindReplace.Text.Letter
import FindReplace.Text.Number

/-!
Word characters: letters, code points with a numeric value, and the underscore.
-/
namespace FindReplace.Text

def isAsciiWord (n : Nat) : Bool := isAsciiLetter n || isAsciiDigit n || n == 95

def isWord (n : Nat) : Bool := isLetter n || isNumeric n || n == 95

end FindReplace.Text
