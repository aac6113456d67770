import FindReplace.Fault

/-!
Function signatures, written `<parameters:type>`. A type is one of ten symbols, which may have a
subtype in angle brackets, or, for a parameter, several symbols in parentheses. After the type of a
parameter come its modifiers: `-` if the argument may be taken from the context value, `?` if it is
optional, `+` if it may be repeated.
-/
namespace FindReplace

namespace Signature

def typeSymbols : List Char := "bnslaofjxu".toList

def modifierSymbols : List Char := "-?+".toList

inductive ParameterType
  | symbol (c : Char)
  | subtyped (c : Char) (inner : List Char)
  | union (cs : List Char)
  deriving DecidableEq, Repr

structure Parameter where
  type : ParameterType
  modifiers : List Char
  deriving DecidableEq, Repr

namespace ParameterType

def chars : ParameterType → List Char
  | .symbol c => [c]
  | .subtyped c inner => c :: '<' :: inner ++ ['>']
  | .union cs => '(' :: cs ++ [')']

/-- The symbols of a type. The subtype of an array is left out, that of any other type is kept. -/
def symbols : ParameterType → List Char
  | .symbol c => [c]
  | .subtyped c inner => if c = 'a' then ['a'] else (ParameterType.subtyped c inner).chars
  | .union cs => cs

end ParameterType

namespace Parameter

def chars (p : Parameter) : List Char := p.type.chars ++ p.modifiers

def symbols (p : Parameter) : String := String.ofList p.type.symbols

def usesContext (p : Parameter) : Bool := p.modifiers.contains '-'

def isOptional (p : Parameter) : Bool := p.modifiers.contains '?'

def isVariadic (p : Parameter) : Bool := p.modifiers.contains '+'

end Parameter

end Signature

structure Signature where
  parameters : List Signature.Parameter
  returns : Signature.ParameterType
  deriving DecidableEq, Repr

namespace Signature

def chars (s : Signature) : List Char :=
  '<' :: s.parameters.flatMap Parameter.chars ++ ':' :: s.returns.chars ++ ['>']

def text (s : Signature) : String := String.ofList s.chars

/-- A symbol, and its subtype if an angle bracket follows. -/
def readSimple : List Char → Option (ParameterType × List Char)
  | [] => none
  | c :: rest =>
    if typeSymbols.contains c then
      match rest with
      | '<' :: rest =>
        match rest.dropWhile (· != '>') with
        | _ :: after => some (.subtyped c (rest.takeWhile (· != '>')), after)
        | [] => none
      | rest => some (.symbol c, rest)
    else none

/-- Symbols up to the closing parenthesis. -/
def readUnion (rest : List Char) : Option (ParameterType × List Char) :=
  let cs := rest.takeWhile typeSymbols.contains
  match rest.dropWhile typeSymbols.contains with
  | ')' :: after => if cs.isEmpty then none else some (.union cs, after)
  | _ => none

def readType : List Char → Option (ParameterType × List Char)
  | '(' :: rest => readUnion rest
  | rest => readSimple rest

def readParameter (s : List Char) : Option (Parameter × List Char) := do
  let (type, rest) ← readType s
  return (⟨type, rest.takeWhile modifierSymbols.contains⟩,
    rest.dropWhile modifierSymbols.contains)

/-- Parameters up to the colon. -/
def readParameters : (fuel : Nat) → List Char → Option (List Parameter × List Char)
  | 0, _ => none
  | fuel + 1, s =>
    match s with
    | ':' :: rest => some ([], rest)
    | s => do
      let (p, rest) ← readParameter s
      let (ps, rest) ← readParameters fuel rest
      return (p :: ps, rest)

def parse? (s : List Char) : Option Signature :=
  match s with
  | '<' :: rest => do
    let (ps, rest) ← readParameters (rest.length + 1) rest
    let (returns, rest) ← readSimple rest
    if rest = ['>'] then some ⟨ps, returns⟩ else none
  | _ => none

def parse (s : String) : Except Fault Signature :=
  match parse? s.toList with
  | some sig => .ok sig
  | none => .error (.malformedSignature s)

def required (s : Signature) : Nat := (s.parameters.filter fun p => !p.isOptional).length

/-- The most arguments of a call; `none` if there is no most. -/
def maximum (s : Signature) : Option Nat :=
  if s.parameters.any Parameter.isVariadic then none else some s.parameters.length

/-- Whether a call with `given` arguments takes its first one from the context value. -/
def takesContext (s : Signature) (given : Nat) : Bool :=
  match s.parameters with
  | [] => false
  | p :: _ => p.usesContext && given < s.required

end Signature

end FindReplace
