import FindReplace.Text.Ranges

/-!
White space: the code points that Unicode 14 treats as blank by class or by direction (WS, B or S,
or general category Zs). The four information separators 28 to 31 are among them.
-/
namespace FindReplace.Text

/-- Boundaries of the blanks from 128 on. -/
def blankBounds : Array Nat := #[
  133, 134, 160, 161, 5760, 5761, 8192, 8203, 8232, 8234, 8239, 8240, 8287, 8288, 12288, 12289]

def isAsciiBlank (n : Nat) : Bool := (9 ≤ n && n ≤ 13) || n == 32

def isInformationSeparator (n : Nat) : Bool := 28 ≤ n && n ≤ 31

def isBlank (n : Nat) : Bool :=
  if n < 128 then isAsciiBlank n || isInformationSeparator n else inRanges blankBounds n

end FindReplace.Text
