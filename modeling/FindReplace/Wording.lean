/-!
The texts of messages. A template has a pair of braces for each argument; arguments are put in
from left to right and are not looked into again.
-/
namespace FindReplace.Wording

def fillChars : List Char → List String → List Char
  | [], _ => []
  | c :: rest, [] => c :: rest
  | c :: rest, a :: args =>
    match rest with
    | d :: after =>
      if c == '\x7b' && d == '\x7d' then a.toList ++ fillChars after args
      else c :: fillChars (d :: after) (a :: args)
    | [] => [c]

def fill (template : String) (args : List String) : String :=
  String.ofList (fillChars template.toList args)

def functionName : String := "$replace"

def badContext : String := "Context value of function \"\x7b\x7d\" is not a string"

def badArgument (n : Nat) : String :=
  "Argument " ++ toString n ++ " of function \"\x7b\x7d\" does not match function signature"

def emptyPattern : String := "Argument 2 of function \"\x7b\x7d\" cannot be an empty string"

def invalidPattern : String :=
  "Argument 2 of function \"\x7b\x7d\" is not a valid regular expression: \x7b\x7d"

def missingReplacement : String :=
  "Function \"\x7b\x7d\" requires a replacement argument after the pattern"

def badResult : String :=
  "Replacement function of \"\x7b\x7d\" must return a string, not \x7b\x7d"

def tooManyArguments : String :=
  "Function \"\x7b\x7d\" takes at most \x7b\x7d arguments but \x7b\x7d were given"

def malformedSignature : String := "Malformed function signature `\x7b\x7d`"

end FindReplace.Wording
