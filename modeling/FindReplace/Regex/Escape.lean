import FindReplace.Regex.Token
import FindReplace.Text.CharacterName
import FindReplace.Text.Letter
import FindReplace.Text.Numeral

/-!
Escapes: what a backslash and the character after it stand for. Inside a set there are no positions
and no references; a number is an octal code there. A code by name is looked up in the table of the
host.
-/
namespace FindReplace.Regex

open Text (CharacterNames isAsciiLetter isDecimal isHex isOctal numeral)

inductive Escape
  | code (n : Nat)
  | category (c : Category) (negated : Bool)
  | textStart
  | textEnd
  | boundary (negated : Bool)
  | reference (group : Nat)
  deriving DecidableEq, Repr

def controlCode : Char → Option Nat
  | 'a' => some 7
  | 'b' => some 8
  | 'f' => some 12
  | 'n' => some 10
  | 'r' => some 13
  | 't' => some 9
  | 'v' => some 11
  | '\\' => some 92
  | _ => none

def categoryOf : Char → Option (Category × Bool)
  | 'd' => some (.digit, false)
  | 'D' => some (.digit, true)
  | 's' => some (.space, false)
  | 'S' => some (.space, true)
  | 'w' => some (.word, false)
  | 'W' => some (.word, true)
  | _ => none

/-- The escape `t` with the digits read after it. -/
def escapeText (t : Token) (digits : List Char) : String := String.ofList (t.chars ++ digits)

/-- A code of exactly `width` hexadecimal digits. -/
def readHexCode (x : Extent) (t : Token) (width : Nat) (rest : List Token) :
    Reading (Nat × List Token) :=
  let (digits, after) := takePlain isHex width rest
  let text := escapeText t digits
  if digits.length < width then x.refuseAt after (.incompleteEscape text) t.start
  else
    let n := numeral 16 digits
    if n ≤ 0x10FFFF then .ok (n, after) else x.refuseAt after (.badEscape text) t.start

variable [CharacterNames]

def readNamedCode (x : Extent) (t : Token) (rest : List Token) : Reading (Nat × List Token) :=
  match rest with
  | brace :: rest =>
    if brace.isPlain '\x7b' then do
      let (name, after) ← readName x .missingCharacterName '\x7d' rest
      match CharacterNames.lookup name with
      | some c => .ok (c.toNat, after)
      | none => x.refuseAt after (.unknownCharacterName name) t.start
    else x.refuseAt (brace :: rest) .missingBrace brace.start
  | [] => x.refuseAt [] .missingBrace x.length

/-- An octal code of the digit of `t` and up to two more. -/
def readOctalCode (x : Extent) (t : Token) (rest : List Token) : Reading (Nat × List Token) :=
  let (digits, after) := takePlain isOctal 2 rest
  let n := numeral 8 (t.char :: digits)
  if n ≤ 0o377 then .ok (n, after)
  else x.refuseAt after (.octalOutOfRange (escapeText t digits)) t.start

/-- The escapes that mean the same inside a set and outside; `none` for any other. -/
def readCode? (x : Extent) (t : Token) (rest : List Token) :
    Option (Reading (Nat × List Token)) :=
  match t.char with
  | 'x' => some (readHexCode x t 2 rest)
  | 'u' => some (readHexCode x t 4 rest)
  | 'U' => some (readHexCode x t 8 rest)
  | 'N' => some (readNamedCode x t rest)
  | _ => none

/-- A character that has no meaning after a backslash stands for itself, unless it is a letter of
ASCII or a digit of ASCII. -/
def readSelf (x : Extent) (t : Token) (rest : List Token) : Reading (Nat × List Token) :=
  if isAsciiLetter t.char.toNat || isDecimal t.char then
    x.refuseAt rest (.badEscape t.text) t.start
  else .ok (t.char.toNat, rest)

/-- The escape `t` inside a set. -/
def readSetEscape (x : Extent) (t : Token) (rest : List Token) : Reading (Member × List Token) :=
  match controlCode t.char, categoryOf t.char with
  | some n, _ => .ok (.code n, rest)
  | none, some (c, negated) => .ok (.category c negated, rest)
  | none, none =>
    let code : Reading (Nat × List Token) :=
      match readCode? x t rest with
      | some r => r
      | none => if isOctal t.char then readOctalCode x t rest else readSelf x t rest
    code.map fun (n, after) => (.code n, after)

/-- A number after a backslash: an octal code if it begins with zero or has three octal digits,
else the number of a group. -/
def readNumber (x : Extent) (t : Token) (rest : List Token) : Reading (Escape × List Token) :=
  if t.char == '0' then
    let (digits, after) := takePlain isOctal 2 rest
    .ok (.code (numeral 8 digits), after)
  else
    let (octals, after) := takePlain isOctal 2 rest
    if isOctal t.char && octals.length == 2 then
      let n := numeral 8 (t.char :: octals)
      if n ≤ 0o377 then .ok (.code n, after)
      else x.refuseAt after (.octalOutOfRange (escapeText t octals)) t.start
    else
      let (digits, after) := takePlain isDecimal 1 rest
      .ok (.reference (numeral 10 (t.char :: digits)), after)

/-- The escape `t` outside a set. -/
def readEscape (x : Extent) (t : Token) (rest : List Token) : Reading (Escape × List Token) :=
  match t.char with
  | 'A' => .ok (.textStart, rest)
  | 'Z' => .ok (.textEnd, rest)
  | 'b' => .ok (.boundary false, rest)
  | 'B' => .ok (.boundary true, rest)
  | c =>
    match categoryOf c, controlCode c with
    | some (k, negated), _ => .ok (.category k negated, rest)
    | none, some n => .ok (.code n, rest)
    | none, none =>
      if isDecimal c then readNumber x t rest
      else
        let code : Reading (Nat × List Token) :=
          match readCode? x t rest with
          | some r => r
          | none => readSelf x t rest
        code.map fun (n, after) => (.code n, after)

end FindReplace.Regex
