import FindReplace.Regex.Token
import FindReplace.Text.Letter

/-!
Flags, and the groups that turn them on and off: `(?flags)` for the whole pattern, and
`(?flags-flags:` for what follows up to the closing parenthesis. The flags `a`, `L` and `u` choose
between kinds of text, so at most one of them may be turned on and none can be turned off.
-/
namespace FindReplace.Regex

open Text (isLetter)

inductive Flag
  | ignoreCase
  | locale
  | multiline
  | dotAll
  | verbose
  | ascii
  | template
  | unicode
  deriving DecidableEq, Repr

namespace Flag

def ofChar? : Char → Option Flag
  | 'i' => some .ignoreCase
  | 'L' => some .locale
  | 'm' => some .multiline
  | 's' => some .dotAll
  | 'x' => some .verbose
  | 'a' => some .ascii
  | 't' => some .template
  | 'u' => some .unicode
  | _ => none

/-- The flags that choose a kind of text. -/
def isType (f : Flag) : Bool := f == .ascii || f == .locale || f == .unicode

end Flag

/-- The settings that flags leave in force. -/
structure Mode where
  ignoreCase : Bool
  multiline : Bool
  dotAll : Bool
  verbose : Bool
  ascii : Bool
  deriving DecidableEq, Repr

namespace Mode

def initial : Mode := ⟨false, false, false, false, false⟩

def turn (m : Mode) (on : Bool) : Flag → Mode
  | .ignoreCase => { m with ignoreCase := on }
  | .multiline => { m with multiline := on }
  | .dotAll => { m with dotAll := on }
  | .verbose => { m with verbose := on }
  | .ascii => { m with ascii := on }
  | .unicode => { m with ascii := !on }
  | .locale => m
  | .template => m

def turnAll (m : Mode) (on : Bool) (fs : List Flag) : Mode := fs.foldl (fun m f => m.turn on f) m

def sense (m : Mode) : Sense := ⟨m.ignoreCase, m.ascii⟩

end Mode

/-- What a group of flags says: flags for the whole pattern, or flags turned on and off for a group
that it opens. -/
inductive FlagGroup
  | whole (on : List Flag)
  | scoped (on off : List Flag)
  deriving DecidableEq, Repr

/-- A flag that is wanted and is none: a letter could have been one. -/
def refuseFlag {α : Type} (x : Extent) (t : Token) (rest : List Token) (other : Flaw) : Reading α :=
  if !t.escaped && isLetter t.char.toNat then x.refuseAt rest .unknownFlag t.start
  else x.refuseAt rest other t.start

/-- The flag of a token, if it is one. -/
def Token.flag? (t : Token) : Option Flag := if t.escaped then none else Flag.ofChar? t.char

/-- Flags to turn off after those in `off`, of which `f` is the next, up to the colon. -/
def readOff (x : Extent) (f : Flag) (off : List Flag) : List Token →
    Reading (List Flag × Nat × List Token)
  | [] =>
    if f.isType then x.refuseAt [] .typeFlagOff x.length else x.refuseAt [] .missingColon x.length
  | t :: rest =>
    if f.isType then x.refuseAt (t :: rest) .typeFlagOff t.start
    else if t.isPlain ':' then .ok (off ++ [f], t.start, rest)
    else
      match t.flag? with
      | some g => readOff x g (off ++ [f]) rest
      | none => refuseFlag x t rest .missingColon

/-- Why `f` cannot be turned on after the flags in `on`. -/
def clash? (f : Flag) (on : List Flag) : Option Flaw :=
  if f == .locale then some .localeFlag
  else if f.isType && on.any fun g => g.isType && g != f then some .typeFlagConflict
  else none

/-- Flags to turn on after those in `on`, of which `f` is the next, and the token that ends them. -/
def readOn (x : Extent) (f : Flag) (on : List Flag) : List Token →
    Reading (List Flag × Token × List Token)
  | [] => x.refuseAt [] ((clash? f on).getD .missingFlagsEnd) x.length
  | t :: rest =>
    match clash? f on with
    | some flaw => x.refuseAt (t :: rest) flaw t.start
    | none =>
      if t.isPlain ')' || t.isPlain '-' || t.isPlain ':' then .ok (on ++ [f], t, rest)
      else
        match t.flag? with
        | some g => readOn x g (on ++ [f]) rest
        | none => refuseFlag x t rest .missingFlagsEnd

/-- A scoped group whose flags end at the colon at `colon`. -/
def finishScoped (x : Extent) (on off : List Flag) (colon : Nat) (rest : List Token) :
    Reading (FlagGroup × List Token) :=
  if off.contains .template then x.refuseAt rest .globalFlagOff colon
  else if on.any off.contains then x.refuseAt rest .flagOnAndOff colon
  else .ok (.scoped on off, rest)

/-- The flags after a hyphen, with those turned on before it. -/
def readAfterHyphen (x : Extent) (on : List Flag) :
    List Token → Reading (FlagGroup × List Token)
  | [] => x.refuseAt [] .missingFlag x.length
  | t :: rest =>
    match t.flag? with
    | some f => do
      let (off, colon, rest) ← readOff x f [] rest
      finishScoped x on off colon rest
    | none => refuseFlag x t rest .missingFlag

/-- The group of flags that begins with the token `t`, a flag or a hyphen. -/
def readFlagGroup (x : Extent) (t : Token) (rest : List Token) :
    Reading (FlagGroup × List Token) :=
  match t.flag? with
  | none => readAfterHyphen x [] rest
  | some f => do
    let (on, stop, rest) ← readOn x f [] rest
    if stop.isPlain ')' then return (.whole on, rest)
    else if on.contains .template then x.refuseAt rest .globalFlagOn stop.start
    else if stop.isPlain '-' then readAfterHyphen x on rest
    else finishScoped x on [] stop.start rest

end FindReplace.Regex
