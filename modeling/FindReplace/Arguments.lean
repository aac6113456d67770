import FindReplace.Signature
import FindReplace.Value

/-!
The arguments of a call. If fewer are given than the signature requires, and its first parameter may
be taken from the context, the context value stands in front of those given.
-/
namespace FindReplace

structure Arguments (κ : Type) where
  given : List (Value κ)
  context : Value κ
  contextUsed : Bool

namespace Arguments

variable {κ : Type}

def isNoContext : Value κ → Bool
  | .sentinel .noContext => true
  | _ => false

def isMissing : Value κ → Bool
  | .sentinel .missing => true
  | _ => false

def resolve (sig : Signature) (given : List (Value κ)) (context : Value κ) : Arguments κ :=
  ⟨given, context, !isNoContext context && sig.takesContext given.length⟩

def count (a : Arguments κ) : Nat := a.given.length + if a.contextUsed then 1 else 0

/-- The argument at a position of the list, or the mark for a missing one. -/
def atIndex (given : List (Value κ)) : Int → Value κ
  | .ofNat i => (given[i]?).getD (.sentinel .missing)
  | .negSucc _ => .sentinel .missing

/-- The effective argument at any index. -/
def get (a : Arguments κ) (i : Int) : Value κ :=
  if a.contextUsed then if i = 0 then a.context else atIndex a.given (i - 1)
  else atIndex a.given i

/-- The effective arguments. -/
def toList (a : Arguments κ) : List (Value κ) :=
  if a.contextUsed then a.context :: a.given else a.given

theorem length_toList (a : Arguments κ) : a.toList.length = a.count := by
  unfold toList count
  split <;> rfl

end Arguments

end FindReplace
