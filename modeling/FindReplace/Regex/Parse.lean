import FindReplace.Regex.CharSet
import FindReplace.Regex.Flags
import FindReplace.Text.Identifier
import FindReplace.Text.Integer

/-!
From a pattern text to its tree. Reading keeps a stack of open groups, the innermost first, each
with the alternatives read so far; every token extends the innermost one, opens one, or closes it.
What looks back is checked last: its body must have one width.
-/
namespace FindReplace.Regex

variable [Text.CharacterNames]

/-- The number from which on a repetition has too many rounds to be counted. -/
def repetitionEnd : Nat := 4294967295

/-- The number from which on there is no group, however long the pattern. -/
def groupEnd : Nat := 1073741823

/-- What an item of a sequence is to a quantifier that follows it: only a plain one can be
repeated. -/
inductive ItemKind
  | plain
  | anchor
  | repetition
  deriving DecidableEq, Repr

structure Item where
  node : Node
  kind : ItemKind
  deriving Repr

inductive FrameKind
  | pattern
  | plain
  | capture (group : Nat)
  | atomic
  | ahead (negated : Bool)
  /-- `outermost` if it stands in no other group that looks back. -/
  | behind (negated : Bool) (outermost : Bool)
  | conditional (group : Nat)
  deriving DecidableEq, Repr

/-- An open group: the settings in it, and what has been read of it, last first. -/
structure Frame where
  kind : FrameKind
  start : Nat
  mode : Mode
  alternatives : List Node
  items : List Item
  deriving Repr

/-- The groups opened so far have their widths in `groups`, and none as long as they are open.
`behindFrom` is the number of groups before the outermost open group that looks back. Conditions on
numbers of groups are kept in `conditions` with their positions, since the group may follow. -/
structure Parser where
  frame : Frame
  outer : List Frame
  groups : Array (Option Width)
  names : List (String × Nat)
  behindFrom : Option Nat
  conditions : List (Nat × Nat)
  flags : List Flag
  deriving Repr

namespace Frame

def opened (kind : FrameKind) (start : Nat) (mode : Mode) : Frame := ⟨kind, start, mode, [], []⟩

/-- The alternative that is being read. -/
def current (f : Frame) : Node := Node.sequence (f.items.reverse.map Item.node)

def push (f : Frame) (item : Item) : Frame := { f with items := item :: f.items }

def branch (f : Frame) : Frame :=
  { f with alternatives := f.current :: f.alternatives, items := [] }

/-- All alternatives of the group. -/
def body (f : Frame) : Node :=
  match (f.current :: f.alternatives).reverse with
  | [] => .empty
  | first :: rest => Node.choice first rest

/-- What the group matches if its condition holds, and what if it does not. -/
def branches (f : Frame) : Node × Node :=
  match f.alternatives with
  | [] => (f.current, .empty)
  | yes :: _ => (yes, f.current)

end Frame

namespace Parser

def initial (flags : List Flag) : Parser :=
  ⟨.opened .pattern 0 (Mode.initial.turnAll true flags), [], #[], [], none, [], flags⟩

def mode (p : Parser) : Mode := p.frame.mode

def push (p : Parser) (node : Node) (kind : ItemKind) : Parser :=
  { p with frame := p.frame.push ⟨node, kind⟩ }

def plain (p : Parser) (node : Node) : Parser := p.push node .plain

def literal (p : Parser) (n : Nat) : Parser := p.plain (.test (.one n false p.mode.sense))

def enter (p : Parser) (kind : FrameKind) (start : Nat) (mode : Mode) : Parser :=
  { p with frame := .opened kind start mode, outer := p.frame :: p.outer }

def groupWidth? (p : Parser) (n : Nat) : Option Width := (p.groups[n - 1]?).getD none

/-- Inside a group that looks back, only groups closed before it began can be referred to. -/
def checkBehind (p : Parser) (x : Extent) (n : Nat) (rest : List Token) : Reading Unit :=
  match p.behindFrom with
  | none => .ok ()
  | some limit =>
    if (p.groupWidth? n).isNone then x.refuseAt rest .openGroup (x.tell rest)
    else if limit < n then x.refuseAt rest .sameLookbehind (x.tell rest)
    else .ok ()

/-- A reference to group `n`, which is written at `start`. -/
def refer (p : Parser) (x : Extent) (n start : Nat) (rest : List Token) : Reading Parser :=
  match p.groupWidth? n with
  | none => x.refuseAt rest .openGroup start
  | some w => do
    p.checkBehind x n rest
    return p.plain (.reference n w p.mode.sense)

/-- The token `t` is an escape. -/
def escape (p : Parser) (x : Extent) (t : Token) (rest : List Token) :
    Reading (Parser × List Token) := do
  let (e, rest) ← readEscape x t rest
  match e with
  | .code n => return (p.literal n, rest)
  | .category c negated =>
    return (p.plain (.test (.oneOf [.category c negated] false p.mode.sense)), rest)
  | .textStart => return (p.push (.anchor .textStart) .anchor, rest)
  | .textEnd => return (p.push (.anchor .textEnd) .anchor, rest)
  | .boundary negated =>
    let a : Anchor := if negated then .notBoundary p.mode.ascii else .boundary p.mode.ascii
    return (p.push (.anchor a) .anchor, rest)
  | .reference n =>
    if p.groups.size < n then x.refuseAt rest (.unknownGroup n) (t.start + 1)
    else return (← p.refer x n t.start rest, rest)

/-- The digits of a count in braces, up to and without the closing brace; `none` if the brace opens
no count. -/
def countDigits (rest : List Token) : Option (List Char × List Char × List Token) :=
  let (lo, rest) := takePlain Text.isDecimal rest.length rest
  match rest with
  | [] => none
  | t :: rest =>
    if t.isPlain '\x7d' then if lo.isEmpty then none else some (lo, lo, rest)
    else if t.isPlain ',' then
      let (hi, rest) := takePlain Text.isDecimal rest.length rest
      match rest with
      | u :: rest => if u.isPlain '\x7d' then some (lo, hi, rest) else none
      | [] => none
    else none

/-- A bound on the rounds; no digits leave it open. -/
def readBound (x : Extent) (digits : List Char) (rest : List Token) : Reading (Option Nat) :=
  if digits.isEmpty then .ok none
  else if Text.maxDigits < digits.length then x.refuse rest (.limit (.numeralTooLong digits.length))
  else
    let n := Text.numeral 10 digits
    if repetitionEnd ≤ n then x.refuse rest (.limit .repetitionTooLarge) else .ok (some n)

/-- The quantifier that began at `start` and ended before `rest`, but for a mark of its greed. -/
def quantify (p : Parser) (x : Extent) (start least : Nat) (greatest : Option Nat)
    (rest : List Token) : Reading (Parser × List Token) :=
  match p.frame.items with
  | [] => x.refuseAt rest .nothingToRepeat start
  | item :: items =>
    match item.kind with
    | .anchor => x.refuseAt rest .nothingToRepeat start
    | .repetition => x.refuseAt rest .multipleRepeat start
    | .plain =>
      let (greed, rest) : Greed × List Token :=
        match rest with
        | t :: after =>
          if t.isPlain '?' then (.lazy, after)
          else if t.isPlain '+' then (.possessive, after)
          else (.greedy, rest)
        | [] => (.greedy, [])
      let node : Node := .repetition greed least greatest item.node
      .ok ({ p with frame := { p.frame with items := ⟨node, .repetition⟩ :: items } }, rest)

/-- A brace: a count, or else a character like others. -/
def brace (p : Parser) (x : Extent) (t : Token) (rest : List Token) :
    Reading (Parser × List Token) :=
  match countDigits rest with
  | none => .ok (p.literal t.char.toNat, rest)
  | some (lo, hi, rest) => do
    let least := (← readBound x lo rest).getD 0
    let greatest ← readBound x hi rest
    if greatest.any (· < least) then x.refuseAt rest .leastAboveGreatest (t.start + 1)
    p.quantify x t.start least greatest rest

/-- A group that captures, with the name that was read at `nameStart` if it has one. -/
def enterCapture (p : Parser) (x : Extent) (start : Nat) (name : Option (String × Nat))
    (rest : List Token) : Reading (Parser × List Token) :=
  let n := p.groups.size + 1
  let opened := { p with groups := p.groups.push none }.enter (.capture n) start p.mode
  match name with
  | none => .ok (opened, rest)
  | some (name, nameStart) =>
    match p.names.lookup name with
    | some earlier => x.refuseAt rest (.redefinedName name n earlier) nameStart
    | none => .ok ({ opened with names := p.names ++ [(name, n)] }, rest)

/-- A name of a group up to `closer`. -/
def groupName (x : Extent) (closer : Char) (rest : List Token) : Reading (String × List Token) := do
  let (name, after) ← readName x .missingGroupName closer rest
  if !Text.isIdentifier name.toList then
    x.refuseAt after (.badNameCharacter name) (x.tell rest)
  return (name, after)

/-- A group that begins with `(?P`, read from the token after that. -/
def named (p : Parser) (x : Extent) (start : Nat) (rest : List Token) :
    Reading (Parser × List Token) :=
  match rest with
  | [] => x.refuseAt [] .unexpectedEnd x.length
  | t :: rest =>
    if t.isPlain '<' then do
      let (name, after) ← groupName x '>' rest
      p.enterCapture x start (some (name, x.tell rest)) after
    else if t.isPlain '=' then do
      let (name, after) ← groupName x ')' rest
      match p.names.lookup name with
      | none => x.refuseAt after (.unknownGroupName name) (x.tell rest)
      | some n => return (← p.refer x n (x.tell rest) after, after)
    else x.refuseAt rest (.unknownExtension ("P" ++ t.text)) (start + 1)

/-- The group that a condition names or numbers. -/
def conditionGroup (p : Parser) (x : Extent) (rest : List Token) :
    Reading (Nat × Parser × List Token) := do
  let (name, after) ← readName x .missingGroupName ')' rest
  let position := x.tell rest
  if Text.isIdentifier name.toList then
    match p.names.lookup name with
    | none => x.refuseAt after (.unknownGroupName name) position
    | some n => return (n, p, after)
  else
    match Text.readInteger name.toList with
    | none | some (.negSucc _) => x.refuseAt after (.badNameCharacter name) position
    | some (.ofNat n) =>
      if n == 0 then x.refuseAt after .zeroGroup position
      else if groupEnd ≤ n then x.refuseAt after (.unknownGroup n) position
      else if (p.conditions.lookup n).isSome then return (n, p, after)
      else return (n, { p with conditions := p.conditions ++ [(n, position)] }, after)

/-- A group with a condition, read from the token after its second parenthesis. -/
def conditional (p : Parser) (x : Extent) (start : Nat) (rest : List Token) :
    Reading (Parser × List Token) := do
  let (n, p, rest) ← p.conditionGroup x rest
  p.checkBehind x n rest
  return (p.enter (.conditional n) start p.mode, rest)

/-- A group that looks back, by the token after `(?<`. -/
def lookBehind (p : Parser) (x : Extent) (start : Nat) (rest : List Token) :
    Reading (Parser × List Token) :=
  match rest with
  | [] => x.refuseAt [] .unexpectedEnd x.length
  | t :: rest =>
    if t.isPlain '=' || t.isPlain '!' then
      let kind : FrameKind := .behind (t.isPlain '!') p.behindFrom.isNone
      let limit := p.behindFrom.getD p.groups.size
      .ok ({ p with behindFrom := some limit }.enter kind start p.mode, rest)
    else x.refuseAt rest (.unknownExtension ("<" ++ t.text)) (start + 1)

/-- A group of flags that begins with the token `t`. Flags for the whole pattern must come before
all else. -/
def flagGroup (p : Parser) (x : Extent) (start : Nat) (t : Token) (rest : List Token) :
    Reading (Parser × List Token) := do
  let (g, rest) ← readFlagGroup x t rest
  match g with
  | .whole on =>
    if p.outer.isEmpty && p.frame.alternatives.isEmpty && p.frame.items.isEmpty then
      let flags := p.flags ++ on
      return ({ p with
        flags := flags
        frame := { p.frame with mode := Mode.initial.turnAll true flags } }, rest)
    else x.refuseAt rest .flagsNotAtStart start
  | .scoped on off =>
    return (p.enter .plain start ((p.mode.turnAll true on).turnAll false off), rest)

/-- A group with options, read from the token after the question mark. -/
def special (p : Parser) (x : Extent) (start : Nat) (rest : List Token) :
    Reading (Parser × List Token) :=
  match rest with
  | [] => x.refuseAt [] .unexpectedEnd x.length
  | t :: rest =>
    if t.isPlain 'P' then p.named x start rest
    else if t.isPlain ':' then .ok (p.enter .plain start p.mode, rest)
    else if t.isPlain '#' then
      match rest.dropWhile fun u => !u.isPlain ')' with
      | [] => x.refuseAt [] .unterminatedComment start
      | _ :: rest => .ok (p, rest)
    else if t.isPlain '=' then .ok (p.enter (.ahead false) start p.mode, rest)
    else if t.isPlain '!' then .ok (p.enter (.ahead true) start p.mode, rest)
    else if t.isPlain '<' then p.lookBehind x start rest
    else if t.isPlain '(' then p.conditional x start rest
    else if t.isPlain '>' then .ok (p.enter .atomic start p.mode, rest)
    else if t.flag?.isSome || t.isPlain '-' then p.flagGroup x start t rest
    else x.refuseAt rest (.unknownExtension t.text) (start + 1)

/-- An opening parenthesis at `start`. -/
def group (p : Parser) (x : Extent) (start : Nat) (rest : List Token) :
    Reading (Parser × List Token) :=
  match rest with
  | t :: after =>
    if t.isPlain '?' then p.special x start after else p.enterCapture x start none rest
  | [] => p.enterCapture x start none []

/-- The innermost group is complete; `outer` is the group around it. -/
def close (p : Parser) (outer : Frame) (others : List Frame) : Parser :=
  let f := p.frame
  let p := { p with frame := outer, outer := others }
  match f.kind with
  | .pattern | .plain => p.plain f.body
  | .capture n =>
    { p with groups := p.groups.setIfInBounds (n - 1) (some f.body.width) }.plain
      (.capture n f.body)
  | .atomic => p.plain (.atomic f.body)
  | .ahead negated => p.plain (.ahead negated f.body)
  | .behind negated outermost =>
    { p with behindFrom := if outermost then none else p.behindFrom }.plain
      (.behind negated f.body.width f.body)
  | .conditional n => p.plain (.conditional n f.branches.1 f.branches.2)

/-- A vertical bar, the token `t`. A group with a condition has two alternatives at most. -/
def bar (p : Parser) (x : Extent) (t : Token) (rest : List Token) : Reading (Parser × List Token) :=
  match p.frame.kind, p.frame.alternatives with
  | .conditional _, _ :: _ => x.refuseAt (t :: rest) .tooManyBranches t.start
  | _, _ => .ok ({ p with frame := p.frame.branch }, rest)

/-- A token that is not escaped and no parenthesis that closes. -/
def plainToken (p : Parser) (x : Extent) (t : Token) (rest : List Token) :
    Reading (Parser × List Token) :=
  match t.char with
  | '|' => p.bar x t rest
  | '(' => p.group x t.start rest
  | '[' => do
    let (set, rest) ← readSet x p.mode.sense t.start rest
    return (p.plain (.test set), rest)
  | '*' => p.quantify x t.start 0 none rest
  | '+' => p.quantify x t.start 1 none rest
  | '?' => p.quantify x t.start 0 (some 1) rest
  | '\x7b' => p.brace x t rest
  | '.' => .ok (p.plain (.test (if p.mode.dotAll then .any else .notNewline)), rest)
  | '^' =>
    .ok (p.push (.anchor (if p.mode.multiline then .lineStart else .textStart)) .anchor, rest)
  | '$' =>
    .ok (p.push (.anchor (if p.mode.multiline then .lineEnd else .beforeEnd)) .anchor, rest)
  | c => .ok (p.literal c.toNat, rest)

def isLayout (t : Token) : Bool := !t.escaped && Text.isAsciiBlank t.char.toNat

/-- One step on the token `t`, which closes no group; a verbose pattern has layout and comments. -/
def step (p : Parser) (x : Extent) (t : Token) (rest : List Token) :
    Reading (Parser × List Token) :=
  if p.mode.verbose && isLayout t then .ok (p, rest)
  else if p.mode.verbose && t.isPlain '#' then
    .ok (p, (rest.dropWhile fun u => !u.isPlain '\n').drop 1)
  else if t.escaped then p.escape x t rest
  else p.plainToken x t rest

/-- Reads all tokens, or those up to a parenthesis that closes no group. -/
def run (x : Extent) : (fuel : Nat) → Parser → List Token → Reading (Parser × List Token)
  | 0, p, rest => .ok (p, rest)
  | _, p, [] => .ok (p, [])
  | fuel + 1, p, t :: rest =>
    if t.isPlain ')' then
      match p.outer with
      | [] => .ok (p, t :: rest)
      | outer :: others => run x fuel (p.close outer others) rest
    else do
      let (p, rest) ← p.step x t rest
      run x fuel p rest

/-- The tokens `rest` are left over. -/
def finish (p : Parser) (x : Extent) (rest : List Token) : Reading Node := do
  if !p.outer.isEmpty then x.refuseAt rest .unterminatedGroup p.frame.start
  if rest.isEmpty && x.dangling then x.refuseAt rest .escapeAtEnd x.length
  if p.flags.contains .ascii && p.flags.contains .unicode then .error (.limit .asciiAndUnicode)
  match rest with
  | t :: _ => x.refuseAt rest .unbalancedParenthesis t.start
  | [] =>
    match p.conditions.find? fun c => p.groups.size < c.1 with
    | some (n, position) => .error (.flaw (.unknownGroup n) (some position))
    | none => return p.frame.body

end Parser

/-- The first thing in a tree that cannot be matched: a body that looks back and has not one width,
or, in a template, a repetition. -/
def Node.flaw? (template : Bool) : Node → Option Flaw
  | .seq a b => (a.flaw? template).or (b.flaw? template)
  | .alt a b => (a.flaw? template).or (b.flaw? template)
  | .capture _ b => b.flaw? template
  | .repetition greed _ _ b => if template then some (.repeatInTemplate greed) else b.flaw? template
  | .atomic b => b.flaw? template
  | .ahead _ b => b.flaw? template
  | .behind _ w b =>
    if repetitionEnd < w.least then some .farLookbehind
    else if w.greatest != some w.least then some .unevenLookbehind
    else b.flaw? template
  | .conditional _ y n => (y.flaw? template).or (n.flaw? template)
  | _ => none

/-- Reads a pattern with flags that are on from its start. -/
def parseWith (flags : List Flag) (pattern : String) : Reading FindReplace.Regex := do
  let cs := pattern.toList
  let x := extentOf cs
  let ts := tokensFrom 0 cs
  let (p, rest) ← Parser.run x ts.length (.initial flags) ts
  let node ← p.finish x rest
  match node.flaw? (p.flags.contains .template) with
  | some f => throw (.flaw f none)
  | none => return ⟨pattern, node, p.groups.size, p.names⟩

def parse (pattern : String) : Reading FindReplace.Regex := parseWith [] pattern

end FindReplace.Regex
