/-!
Regular expressions as trees. Every node carries the settings that were in force where it was
written, so a tree needs no flags to be matched.
-/
namespace FindReplace.Regex

/-- How characters are told apart: whether case counts, and whether letters, digits, blanks and
word characters are those of ASCII only. -/
structure Sense where
  ignoreCase : Bool
  ascii : Bool
  deriving DecidableEq, Repr

inductive Category
  | digit
  | space
  | word
  deriving DecidableEq, Repr

/-- A member of a character set; code points may be any number a pattern can write. -/
inductive Member
  | code (n : Nat)
  | range (lo hi : Nat)
  | category (c : Category) (negated : Bool)
  deriving DecidableEq, Repr

/-- A condition on a single character. -/
inductive CharTest
  | any
  | notNewline
  | one (code : Nat) (negated : Bool) (sense : Sense)
  | oneOf (members : List Member) (negated : Bool) (sense : Sense)
  deriving DecidableEq, Repr

/-- A condition on a position. `beforeEnd` holds at the end and before a newline that ends the
text. -/
inductive Anchor
  | textStart
  | lineStart
  | textEnd
  | beforeEnd
  | lineEnd
  | boundary (ascii : Bool)
  | notBoundary (ascii : Bool)
  deriving DecidableEq, Repr

/-- Whether a repetition prefers more rounds, prefers fewer, or keeps all it can get. -/
inductive Greed
  | greedy
  | lazy
  | possessive
  deriving DecidableEq, Repr

/-- The least and the greatest number of characters that a node can take up. -/
structure Width where
  least : Nat
  greatest : Option Nat
  deriving DecidableEq, Repr

inductive Node
  | empty
  | test (t : CharTest)
  | anchor (a : Anchor)
  | seq (first second : Node)
  | alt (first second : Node)
  | capture (group : Nat) (body : Node)
  | reference (group : Nat) (width : Width) (sense : Sense)
  | repetition (greed : Greed) (least : Nat) (greatest : Option Nat) (body : Node)
  | atomic (body : Node)
  | ahead (negated : Bool) (body : Node)
  | behind (negated : Bool) (width : Width) (body : Node)
  | conditional (group : Nat) (yes no : Node)
  deriving DecidableEq, Repr

namespace Width

def zero : Width := ⟨0, some 0⟩

def one : Width := ⟨1, some 1⟩

def add (v w : Width) : Width :=
  ⟨v.least + w.least, v.greatest.bind fun m => w.greatest.map (m + ·)⟩

def union (v w : Width) : Width :=
  ⟨min v.least w.least, v.greatest.bind fun m => w.greatest.map (max m)⟩

/-- Any number of rounds of nothing is nothing, and no rounds of anything are nothing. -/
def scaleGreatest : Option Nat → Option Nat → Option Nat
  | some 0, _ => some 0
  | _, some 0 => some 0
  | some m, some n => some (m * n)
  | _, _ => none

def rounds (w : Width) (least : Nat) (greatest : Option Nat) : Width :=
  ⟨w.least * least, scaleGreatest w.greatest greatest⟩

end Width

/-- Look-around and anchors take up nothing; a reference is as wide as the group it names. -/
def Node.width : Node → Width
  | .empty => .zero
  | .test _ => .one
  | .anchor _ => .zero
  | .seq a b => a.width.add b.width
  | .alt a b => a.width.union b.width
  | .capture _ b => b.width
  | .reference _ w _ => w
  | .repetition _ least greatest b => b.width.rounds least greatest
  | .atomic b => b.width
  | .ahead _ _ => .zero
  | .behind _ _ _ => .zero
  | .conditional _ y n => y.width.union n.width

/-- The nodes one after another. -/
def Node.sequence : List Node → Node
  | [] => .empty
  | a :: rest => .seq a (sequence rest)

/-- The first of the alternatives that leads to a match counts. -/
def Node.choice : Node → List Node → Node
  | a, [] => a
  | a, b :: rest => .alt a (choice b rest)

end FindReplace.Regex

namespace FindReplace

/-- A pattern text with its tree, the number of its groups, and the names of groups. -/
structure Regex where
  source : String
  node : Regex.Node
  groupCount : Nat
  names : List (String × Nat)
  deriving DecidableEq, Repr

end FindReplace
