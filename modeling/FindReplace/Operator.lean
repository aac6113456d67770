import FindReplace.Arguments
import FindReplace.Replace

/-!
The operator `$replace`, as an expression language calls it: the arguments are made out from those
given and the context value, their number and the subject are checked first, and a limit that is
given must be a number.
-/
namespace FindReplace.Operator

variable {κ σ : Type}

def name : String := Wording.functionName

def signatureText : String := "<s-(sf)(sf)n?:s>"

/-- The signature that `signatureText` writes. -/
def signature : Signature where
  parameters := [⟨.symbol 's', ['-']⟩, ⟨.union ['s', 'f'], []⟩, ⟨.union ['s', 'f'], []⟩,
    ⟨.symbol 'n', ['?']⟩]
  returns := .symbol 's'

theorem parse?_signatureText : Signature.parse? signatureText.toList = some signature := by decide

/-- The most arguments that the operator takes. -/
def most : Nat := signature.parameters.length

theorem maximum_signature : signature.maximum = some most := by decide

/-- The call with the arguments made out. -/
def apply [Text.CharacterNames] (host : Host κ σ) (verbose : Bool) (args : Arguments κ) (st : σ) :
    Outcome σ :=
  let count := args.count
  let subject := args.get 0
  let refuse (c : Cause) : Outcome σ := .failed (.cause c) st
  if count < 1 then refuse .subjectNotText
  else if args.contextUsed && !subject.isText then refuse .contextNotText
  else if most < count then refuse (.tooManyArguments most count)
  else if !subject.isText then refuse .subjectNotText
  else if count < 2 then refuse .patternNotText
  else
    let pattern := args.get 1
    if count < 3 then
      match patternOf pattern with
      | .error f => .failed f st
      | .ok _ => refuse .replacementMissing
    else
      let limit := args.get 3
      if Arguments.isMissing limit then
        replace host verbose true subject pattern (args.get 2) .null st
      else replace host verbose false subject pattern (args.get 2) limit st

def invoke [Text.CharacterNames] (host : Host κ σ) (verbose : Bool) (given : List (Value κ))
    (context : Value κ) (st : σ) : Outcome σ :=
  apply host verbose (.resolve signature given context) st

end FindReplace.Operator
