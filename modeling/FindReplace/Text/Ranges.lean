/-!
Sets of code points given by their boundaries. The sorted boundaries `a, b, c, d` stand for the
half-open intervals `a ≤ n < b` and `c ≤ n < d`, so `n` is a member iff an odd number of boundaries
are at most `n`.
-/
namespace FindReplace.Text

/-- How many of the sorted keys `key 0`, …, `key (hi - 1)` are at most `n`, if those below `lo`
are. -/
def countUpTo (key : Nat → Nat) (n lo hi : Nat) : Nat :=
  if lo < hi then
    let mid := (lo + hi) / 2
    if key mid ≤ n then countUpTo key n (mid + 1) hi else countUpTo key n lo mid
  else lo
termination_by hi - lo

/-- The lower boundary of the interval that holds `n`. -/
def rangeStart? (bounds : Array Nat) (n : Nat) : Option Nat :=
  let count := countUpTo (fun i => bounds.getD i 0) n 0 bounds.size
  if count % 2 == 1 then bounds[count - 1]? else none

def inRanges (bounds : Array Nat) (n : Nat) : Bool := (rangeStart? bounds n).isSome

end FindReplace.Text
