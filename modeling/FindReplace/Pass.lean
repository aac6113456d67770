/-!
What verbose runs print. A pass has a text before and a text after; it is printed as a block of
lines between dividers, which says so if the pass changed nothing. Limits of any length are written
out. A host may refuse to write integers of more than 4300 digits; that failure is not modelled.
-/
namespace FindReplace

/-- Which pass it is: the only one, or one of several. -/
inductive PassNumber
  | only
  | ofLimit (number limit : Nat)
  deriving DecidableEq, Repr

structure Pass where
  source : String
  number : PassNumber
  before : String
  after : String
  deriving DecidableEq, Repr

namespace Pass

def dividerWidth : Nat := 48

def divider (c : Char) : String := String.ofList (List.replicate dividerWidth c)

def changed (p : Pass) : Bool := p.before != p.after

def noChange (p : Pass) : String := if p.changed then "" else " (no change)"

def title (p : Pass) : String :=
  "/" ++ p.source ++ "/ " ++
    match p.number with
    | .only => "unlimited pass"
    | .ofLimit n limit => "pass " ++ toString n ++ " of " ++ toString limit

def render (p : Pass) : String :=
  divider '<' ++ " BEFORE " ++ p.title ++ "\n" ++ p.before ++ "\n"
    ++ divider '=' ++ p.noChange ++ "\n" ++ p.after ++ "\n"
    ++ divider '>' ++ " AFTER " ++ p.title ++ "\n" ++ "\n\n\n\n\n"

end Pass

/-- The text of the blocks, one after another. -/
def renderPasses : List Pass → String
  | [] => ""
  | p :: rest => p.render ++ renderPasses rest

end FindReplace
