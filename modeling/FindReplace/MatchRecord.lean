import FindReplace.Regex.Search
import FindReplace.Text.Slice

/-!
Match records: what a match looks like to those who make a substitute for it. A group that took no
part in the match has no text.
-/
namespace FindReplace

open Text (slice)

namespace Regex.Match

def text (m : Match) (s : Array Char) : String := slice s m.start m.stop

/-- The text of a group; group 0 is the whole match. -/
def group? (m : Match) (s : Array Char) (n : Nat) : Option String :=
  (m.span? n).map fun v => slice s v.start v.stop

/-- The text of a group, empty for one that took no part or is not there. -/
def groupText (m : Match) (s : Array Char) (n : Nat) : String :=
  if m.groups.size < n then "" else (m.group? s n).getD ""

/-- The text of a group by any number: there are no negative groups. -/
def extract? (m : Match) (s : Array Char) (n : Int) : Option String :=
  match n with
  | .ofNat n => some (m.groupText s n)
  | .negSucc _ => none

end Regex.Match

structure MatchRecord where
  text : String
  index : Nat
  groups : List (Option String)
  deriving DecidableEq, Repr

namespace MatchRecord

def ofMatch (s : Array Char) (m : Regex.Match) : MatchRecord where
  text := m.text s
  index := m.start
  groups := m.groups.toList.map fun v => v.map fun v => slice s v.start v.stop

/-- The groups with the empty text for those that took no part. -/
def groupTexts (r : MatchRecord) : List String := r.groups.map fun g => g.getD ""

end MatchRecord

end FindReplace
