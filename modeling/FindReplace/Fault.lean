import FindReplace.Regex.Fault
import FindReplace.Wording

/-!
How an evaluation can fail. An error of the taxonomy has a class, a code and a message, so that a
host can branch on any of them; each `Cause` of this library belongs to one class. A `Fault` is such
an error, or one of the few failures that are outside the taxonomy.
-/
namespace FindReplace

inductive ErrorClass
  | evaluation
  | subjectType
  | patternType
  | emptyPattern
  | invalidPattern
  | missingReplacement
  | replacementType
  | limitType
  | arity
  deriving DecidableEq, Repr

namespace ErrorClass

def all : List ErrorClass :=
  [.evaluation, .subjectType, .patternType, .emptyPattern, .invalidPattern, .missingReplacement,
    .replacementType, .limitType, .arity]

def root : ErrorClass → String
  | .evaluation => "EvaluateRuntime"
  | .subjectType => "BadSubjectType"
  | .patternType => "BadPatternType"
  | .emptyPattern => "EmptyPattern"
  | .invalidPattern => "InvalidPattern"
  | .missingReplacement => "MissingReplacement"
  | .replacementType => "BadReplacementType"
  | .limitType => "BadLimitType"
  | .arity => "Arity"

def name (c : ErrorClass) : String := c.root ++ "Exception"

def kind : ErrorClass → String
  | .emptyPattern => "EmptyPatternError"
  | .arity => "ArityError"
  | c => c.root

/-- The code of an error that has none of its own. -/
def code : ErrorClass → String
  | .emptyPattern => "D3010"
  | .invalidPattern => "S0302"
  | .limitType => "D3011"
  | _ => "T0410"

/-- The class and the classes it belongs to, nearest first. -/
def lineage : ErrorClass → List ErrorClass
  | .evaluation => [.evaluation]
  | .invalidPattern => [.invalidPattern, .patternType, .evaluation]
  | c => [c, .evaluation]

end ErrorClass

structure EvaluationError where
  cls : ErrorClass
  message : String
  code : String
  deriving DecidableEq, Repr

def EvaluationError.ofClass (cls : ErrorClass) (message : String) (code? : Option String) :
    EvaluationError :=
  ⟨cls, message, code?.getD cls.code⟩

/-- Why this library refuses an evaluation. -/
inductive Cause
  | subjectNotText
  | contextNotText
  | patternNotText
  | patternEmpty
  | patternInvalid (pattern : String) (flaw : Regex.Flaw) (position : Option Nat)
  | replacementMissing
  | replacementUnusable
  | resultNotText (type : String)
  | limitUnusable
  | tooManyArguments (most given : Nat)
  deriving DecidableEq, Repr

namespace Cause

def cls : Cause → ErrorClass
  | .subjectNotText => .subjectType
  | .contextNotText => .subjectType
  | .patternNotText => .patternType
  | .patternEmpty => .emptyPattern
  | .patternInvalid .. => .invalidPattern
  | .replacementMissing => .missingReplacement
  | .replacementUnusable => .replacementType
  | .resultNotText _ => .replacementType
  | .limitUnusable => .limitType
  | .tooManyArguments .. => .arity

def message : Cause → String
  | .subjectNotText => about (Wording.badArgument 1) []
  | .contextNotText => about Wording.badContext []
  | .patternNotText => about (Wording.badArgument 2) []
  | .patternEmpty => about Wording.emptyPattern []
  | .patternInvalid pattern flaw position =>
    about Wording.invalidPattern [Regex.located pattern flaw position]
  | .replacementMissing => about Wording.missingReplacement []
  | .replacementUnusable => about (Wording.badArgument 3) []
  | .resultNotText type => about Wording.badResult [type]
  | .limitUnusable => about (Wording.badArgument 4) []
  | .tooManyArguments most given => about Wording.tooManyArguments [toString most, toString given]
where
  about (template : String) (args : List String) : String :=
    Wording.fill template (Wording.functionName :: args)

/-- The code of a host function's result that is no text. -/
def resultCode : String := "D3012"

def code? : Cause → Option String
  | .resultNotText _ => some resultCode
  | _ => none

def error (c : Cause) : EvaluationError := .ofClass c.cls c.message c.code?

end Cause

/-- `raised` and `foreign` come from host functions: errors of the taxonomy and any other failure,
which is known by the name of its class. -/
inductive Fault
  | cause (c : Cause)
  | raised (e : EvaluationError)
  | regexLimit (l : Regex.Limit)
  | malformedSignature (text : String)
  | noSuchGroup
  | foreign (cls message : String)
  deriving DecidableEq, Repr

namespace Fault

/-- The error of the taxonomy that a fault is, if it is one. -/
def evaluation? : Fault → Option EvaluationError
  | .cause c => some c.error
  | .raised e => some e
  | _ => none

def message : Fault → String
  | .cause c => c.message
  | .raised e => e.message
  | .regexLimit l => l.message
  | .malformedSignature text => Wording.fill Wording.malformedSignature [text]
  | .noSuchGroup => "no such group"
  | .foreign _ message => message

end Fault

end FindReplace
