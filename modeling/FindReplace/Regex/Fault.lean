import FindReplace.Regex.Syntax
import FindReplace.Text.Quoted

/-!
What can be wrong with a pattern. A `Flaw` is a mistake in the pattern's grammar and mostly has a
position, counted in code points from the start of the pattern. A `Limit` is told without one.
-/
namespace FindReplace.Regex

open Text (quoted)

inductive Flaw
  | escapeAtEnd
  | missingGroupName
  | missingCharacterName
  | unterminatedName (closer : Char)
  | badNameCharacter (name : String)
  | unknownCharacterName (name : String)
  | incompleteEscape (text : String)
  | badEscape (text : String)
  | missingBrace
  | octalOutOfRange (text : String)
  | openGroup
  | sameLookbehind
  | unknownGroup (number : Nat)
  | unknownGroupName (name : String)
  | zeroGroup
  | redefinedName (name : String) (number earlier : Nat)
  | unterminatedSet
  | badRange (lo hi : String)
  | leastAboveGreatest
  | nothingToRepeat
  | multipleRepeat
  | unexpectedEnd
  | unknownExtension (text : String)
  | unterminatedComment
  | unterminatedGroup
  | unbalancedParenthesis
  | tooManyBranches
  | flagsNotAtStart
  | localeFlag
  | typeFlagConflict
  | unknownFlag
  | missingFlagsEnd
  | missingFlag
  | missingColon
  | globalFlagOn
  | globalFlagOff
  | typeFlagOff
  | flagOnAndOff
  | unevenLookbehind
  | farLookbehind
  | repeatInTemplate (greed : Greed)
  deriving DecidableEq, Repr

def Greed.repeatName : Greed → String
  | .greedy => "MAX_REPEAT"
  | .lazy => "MIN_REPEAT"
  | .possessive => "POSSESSIVE_REPEAT"

def Flaw.message : Flaw → String
  | .escapeAtEnd => "bad escape (end of pattern)"
  | .missingGroupName => "missing group name"
  | .missingCharacterName => "missing character name"
  | .unterminatedName closer => "missing " ++ closer.toString ++ ", unterminated name"
  | .badNameCharacter name => "bad character in group name " ++ quoted name
  | .unknownCharacterName name => "undefined character name " ++ quoted name
  | .incompleteEscape text => "incomplete escape " ++ text
  | .badEscape text => "bad escape " ++ text
  | .missingBrace => "missing \x7b"
  | .octalOutOfRange text => "octal escape value " ++ text ++ " outside of range 0-0o377"
  | .openGroup => "cannot refer to an open group"
  | .sameLookbehind => "cannot refer to group defined in the same lookbehind subpattern"
  | .unknownGroup number => "invalid group reference " ++ toString number
  | .unknownGroupName name => "unknown group name " ++ quoted name
  | .zeroGroup => "bad group number"
  | .redefinedName name number earlier =>
    "redefinition of group name " ++ quoted name ++ " as group " ++ toString number
      ++ "; was group " ++ toString earlier
  | .unterminatedSet => "unterminated character set"
  | .badRange lo hi => "bad character range " ++ lo ++ "-" ++ hi
  | .leastAboveGreatest => "min repeat greater than max repeat"
  | .nothingToRepeat => "nothing to repeat"
  | .multipleRepeat => "multiple repeat"
  | .unexpectedEnd => "unexpected end of pattern"
  | .unknownExtension text => "unknown extension ?" ++ text
  | .unterminatedComment => "missing ), unterminated comment"
  | .unterminatedGroup => "missing ), unterminated subpattern"
  | .unbalancedParenthesis => "unbalanced parenthesis"
  | .tooManyBranches => "conditional backref with more than two branches"
  | .flagsNotAtStart => "global flags not at the start of the expression"
  | .localeFlag => "bad inline flags: cannot use 'L' flag with a str pattern"
  | .typeFlagConflict => "bad inline flags: flags 'a', 'u' and 'L' are incompatible"
  | .unknownFlag => "unknown flag"
  | .missingFlagsEnd => "missing -, : or )"
  | .missingFlag => "missing flag"
  | .missingColon => "missing :"
  | .globalFlagOn => "bad inline flags: cannot turn on global flag"
  | .globalFlagOff => "bad inline flags: cannot turn off global flag"
  | .typeFlagOff => "bad inline flags: cannot turn off flags 'a', 'u' and 'L'"
  | .flagOnAndOff => "bad inline flags: flag turned on and off"
  | .unevenLookbehind => "look-behind requires fixed-width pattern"
  | .farLookbehind => "looks too much behind"
  | .repeatInTemplate greed => "internal: unsupported template operator " ++ greed.repeatName

/-- A limit that a pattern without a flaw can exceed, or settings that exclude each other. -/
inductive Limit
  | repetitionTooLarge
  | numeralTooLong (digits : Nat)
  | asciiAndUnicode
  deriving DecidableEq, Repr

def Limit.message : Limit → String
  | .repetitionTooLarge => "the repetition number is too large"
  | .numeralTooLong digits =>
    "Exceeds the limit (4300 digits) for integer string conversion: value has " ++ toString digits
      ++ " digits; use sys.set_int_max_str_digits() to increase the limit"
  | .asciiAndUnicode => "ASCII and UNICODE flags are incompatible"

inductive Fault
  | flaw (f : Flaw) (position : Option Nat)
  | limit (l : Limit)
  deriving DecidableEq, Repr

/-- The line and the column of a position, both counted from one. -/
def lineColumn (pattern : List Char) (position : Nat) : Nat × Nat :=
  let before := pattern.take position
  (before.count '\n' + 1, (before.reverse.takeWhile (· != '\n')).length + 1)

/-- The flaw and its position, with line and column too if the pattern has several lines. -/
def located (pattern : String) (f : Flaw) (position : Option Nat) : String :=
  match position with
  | none => f.message
  | some p =>
    let base := f.message ++ " at position " ++ toString p
    if pattern.toList.contains '\n' then
      let (line, column) := lineColumn pattern.toList p
      base ++ " (line " ++ toString line ++ ", column " ++ toString column ++ ")"
    else base

end FindReplace.Regex
