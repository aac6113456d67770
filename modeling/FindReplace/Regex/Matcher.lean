import FindReplace.Regex.CharTest

/-!
Matching a tree at a position, by backtracking. A node is matched with a continuation that stands
for all that has to match after it; the first way through both is the answer. Captures travel with
the position, so a way that is given up leaves none behind. A repetition makes no further round at
the position where its last round began, which bounds the rounds by the text that is left.
-/
namespace FindReplace.Regex

/-- The positions from `start` up to, not including, `stop`. -/
structure Span where
  start : Nat
  stop : Nat
  deriving DecidableEq, Repr

/-- Where matching stands: the next position, and what each group has captured so far, group 1
first. -/
structure Point where
  pos : Nat
  groups : Array (Option Span)
  deriving DecidableEq, Repr

namespace Point

def group (s : Point) (n : Nat) : Option Span := (s.groups[n - 1]?).getD none

def setGroup (s : Point) (n : Nat) (v : Span) : Point :=
  { s with groups := s.groups.setIfInBounds (n - 1) (some v) }

end Point

def charAt (text : Array Char) (i : Nat) : Option Nat := (text[i]?).map Char.toNat

def wordAt (ascii : Bool) (text : Array Char) (i : Nat) : Bool :=
  match charAt text i with
  | some n => Category.word.holds ascii n
  | none => false

def atBoundary (ascii : Bool) (text : Array Char) (pos : Nat) : Bool :=
  (0 < pos && wordAt ascii text (pos - 1)) != wordAt ascii text pos

/-- In the empty text there is neither a boundary nor a place that is none. -/
def Anchor.holds (text : Array Char) (pos : Nat) : Anchor → Bool
  | .textStart => pos == 0
  | .lineStart => pos == 0 || charAt text (pos - 1) == some 10
  | .textEnd => pos == text.size
  | .beforeEnd => pos == text.size || (pos + 1 == text.size && charAt text pos == some 10)
  | .lineEnd => pos == text.size || charAt text pos == some 10
  | .boundary ascii => text.size != 0 && atBoundary ascii text pos
  | .notBoundary ascii => text.size != 0 && !atBoundary ascii text pos

/-- Whether the `count` characters from `i` are, as compared, those from `j`. -/
def sameText (sense : Sense) (text : Array Char) : (count i j : Nat) → Bool
  | 0, _, _ => true
  | count + 1, i, j =>
    match charAt text i, charAt text j with
    | some m, some n => sense.fold m == sense.fold n && sameText sense text count (i + 1) (j + 1)
    | _, _ => false

/-- What has to match next. -/
abbrev Continuation := Point → Option Point

/-- A way of matching: from a point, through a continuation, to where matching ends. -/
abbrev Matching := Point → Continuation → Option Point

namespace Matching

/-- Only the first way of `m` is tried. -/
def once (m : Matching) : Matching := fun s k =>
  match m s some with
  | some e => k e
  | none => none

/-- Exactly `n` rounds. -/
def times (m : Matching) : Nat → Matching
  | 0, s, k => k s
  | n + 1, s, k => m s fun e => times m n e k

def anyMore : Option Nat → Bool
  | some 0 => false
  | _ => true

def oneLess (left : Option Nat) : Option Nat := left.map (· - 1)

/-- Further rounds as many as possible. `left` bounds their number, and `last` is where the round
before began. -/
def greedy (m : Matching) : (fuel : Nat) → (left last : Option Nat) → Matching
  | 0, _, _, s, k => k s
  | fuel + 1, left, last, s, k =>
    if anyMore left && last != some s.pos then
      match m s fun e => greedy m fuel (oneLess left) (some s.pos) e k with
      | some e => some e
      | none => k s
    else k s

/-- Further rounds as few as possible. -/
def lazy (m : Matching) : (fuel : Nat) → (left last : Option Nat) → Matching
  | 0, _, _, s, k => k s
  | fuel + 1, left, last, s, k =>
    match k s with
    | some e => some e
    | none =>
      if anyMore left && last != some s.pos then
        m s fun e => lazy m fuel (oneLess left) (some s.pos) e k
      else none

/-- Further rounds as many as possible, each by its first way, and none given back. -/
def possessive (m : Matching) : (fuel : Nat) → (left : Option Nat) → Matching
  | 0, _, s, k => k s
  | fuel + 1, left, s, k =>
    if anyMore left then
      match m s some with
      | some e => if e.pos == s.pos then k e else possessive m fuel (oneLess left) e k
      | none => k s
    else k s

/-- `least` rounds, then further ones up to `greatest` in all. After `least` rounds each further
round but the last takes up a character, so the characters left bound the rounds. -/
def repeated (m : Matching) (size : Nat) (greed : Greed) (least : Nat) (greatest : Option Nat) :
    Matching := fun s k =>
  let left := greatest.map (· - least)
  match greed with
  | .greedy => times m least s fun e => greedy m (size - e.pos + 2) left none e k
  | .lazy => times m least s fun e => lazy m (size - e.pos + 2) left none e k
  | .possessive =>
    times (once m) least s fun e => possessive m (size - e.pos + 2) left e k

/-- A look-around that found `found`. It leaves the position as it was, and if it asks for absence
it leaves no captures. -/
def look (negated : Bool) (found : Option Point) : Matching := fun s k =>
  match found with
  | some e => if negated then none else k { e with pos := s.pos }
  | none => if negated then k s else none

end Matching

/-- Matching of a tree in a text. -/
def Node.walk (text : Array Char) : Node → Matching
  | .empty, s, k => k s
  | .test t, s, k =>
    match charAt text s.pos with
    | some n => if t.accepts n then k { s with pos := s.pos + 1 } else none
    | none => none
  | .anchor a, s, k => if a.holds text s.pos then k s else none
  | .seq a b, s, k => a.walk text s fun e => b.walk text e k
  | .alt a b, s, k =>
    match a.walk text s k with
    | some e => some e
    | none => b.walk text s k
  | .capture n b, s, k => b.walk text s fun e => k (e.setGroup n ⟨s.pos, e.pos⟩)
  | .reference n _ sense, s, k =>
    match s.group n with
    | some v =>
      if sameText sense text (v.stop - v.start) v.start s.pos then
        k { s with pos := s.pos + (v.stop - v.start) }
      else none
    | none => none
  | .repetition greed least greatest b, s, k =>
    Matching.repeated (b.walk text) text.size greed least greatest s k
  | .atomic b, s, k => Matching.once (b.walk text) s k
  | .ahead negated b, s, k => Matching.look negated (b.walk text s some) s k
  | .behind negated w b, s, k =>
    let found :=
      if w.least ≤ s.pos then b.walk text { s with pos := s.pos - w.least } some else none
    Matching.look negated found s k
  | .conditional n y no, s, k =>
    if (s.group n).isSome then y.walk text s k else no.walk text s k

end FindReplace.Regex
