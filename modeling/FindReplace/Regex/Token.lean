import FindReplace.Regex.Fault

/-!
Pattern texts cut into tokens: a token is a character, or a backslash with the character after it.
A backslash at the very end is no token; it is a mistake that shows as soon as the token before it
is read, and so goes ahead of every mistake found from there on.
-/
namespace FindReplace.Regex

/-- A character of the pattern, `start` code points from its beginning. -/
structure Token where
  start : Nat
  escaped : Bool
  char : Char
  deriving DecidableEq, Repr

namespace Token

def isPlain (t : Token) (c : Char) : Bool := !t.escaped && t.char == c

def chars (t : Token) : List Char := if t.escaped then ['\\', t.char] else [t.char]

def text (t : Token) : String := String.ofList t.chars

end Token

/-- What reading has to know of a pattern as a whole: its length, and whether it ends in a lone
backslash. -/
structure Extent where
  length : Nat
  dangling : Bool
  deriving DecidableEq, Repr

def tokensFrom : Nat → List Char → List Token
  | _, [] => []
  | pos, c :: rest =>
    if c == '\\' then
      match rest with
      | [] => []
      | d :: rest => ⟨pos, true, d⟩ :: tokensFrom (pos + 2) rest
    else ⟨pos, false, c⟩ :: tokensFrom (pos + 1) rest

def endsDangling : List Char → Bool
  | [] => false
  | c :: rest =>
    if c == '\\' then
      match rest with
      | [] => true
      | _ :: rest => endsDangling rest
    else endsDangling rest

def extentOf (pattern : List Char) : Extent := ⟨pattern.length, endsDangling pattern⟩

abbrev Reading := Except Fault

namespace Extent

/-- Where the next token starts. -/
def tell (x : Extent) : List Token → Nat
  | [] => x.length
  | t :: _ => t.start

/-- Gives up at the tokens `rest`. -/
def refuse {α : Type} (x : Extent) (rest : List Token) (f : Fault) : Reading α :=
  if rest.isEmpty && x.dangling then .error (.flaw .escapeAtEnd (some (x.length - 1)))
  else .error f

def refuseAt {α : Type} (x : Extent) (rest : List Token) (f : Flaw) (position : Nat) : Reading α :=
  x.refuse rest (.flaw f (some position))

end Extent

def textOf (ts : List Token) : String := String.ofList (ts.flatMap Token.chars)

/-- A name up to the plain character `closer`, and the tokens after that. -/
def readName (x : Extent) (missing : Flaw) (closer : Char) (rest : List Token) :
    Reading (String × List Token) :=
  let name := rest.takeWhile fun t => !t.isPlain closer
  match rest.dropWhile fun t => !t.isPlain closer with
  | [] =>
    if name.isEmpty then x.refuseAt [] missing x.length
    else x.refuseAt [] (.unterminatedName closer) (x.tell rest)
  | c :: after =>
    if name.isEmpty then x.refuseAt after missing c.start else .ok (textOf name, after)

/-- At most `count` leading plain characters of a kind, and the tokens after them. -/
def takePlain (kind : Char → Bool) : (count : Nat) → List Token → List Char × List Token
  | 0, rest => ([], rest)
  | _, [] => ([], [])
  | count + 1, t :: rest =>
    if !t.escaped && kind t.char then
      let (cs, after) := takePlain kind count rest
      (t.char :: cs, after)
    else ([], t :: rest)

end FindReplace.Regex
