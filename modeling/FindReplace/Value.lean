import FindReplace.MatchRecord
import FindReplace.Number.Decimal

/-!
Values of the expression language: those of JSON, and beside them byte strings, tuples, compiled
patterns, functions and sentinels. A host function is known by a handle of the host's own type `κ`;
what calling it does is the host's affair.
-/
namespace FindReplace

/-- Marks for what is not there, which are values all the same. -/
inductive Sentinel
  | missing
  | noContext
  deriving DecidableEq, Repr

inductive Value (κ : Type)
  | null
  | bool (b : Bool)
  | int (n : Int)
  | double (d : Double)
  | text (s : String)
  | bytes (b : List UInt8)
  | list (items : List (Value κ))
  | tuple (items : List (Value κ))
  | object (fields : List (String × Value κ))
  | regex (r : Regex)
  | byteRegex (source : List UInt8)
  | template (text : String)
  | sentinel (s : Sentinel)
  | callback (handle : κ)

namespace Value

variable {κ : Type}

def text? : Value κ → Option String
  | .text s => some s
  | _ => none

def isText (v : Value κ) : Bool := v.text?.isSome

/-- Numbers of JSON: neither booleans nor what is not finite. -/
def isNumber : Value κ → Bool
  | .int _ => true
  | .double d => d.isFinite
  | _ => false

/-- The integer that a number is, if it is one. -/
def integer? : Value κ → Option Int
  | .int n => some n
  | .double d => d.toInt?
  | _ => none

def isIntegral (v : Value κ) : Bool := v.integer?.isSome

def isCallable : Value κ → Bool
  | .template _ => true
  | .callback _ => true
  | _ => false

def typeName : Value κ → String
  | .null => "null"
  | .bool _ => "boolean"
  | .int _ => "number"
  | .double d => if d.isFinite then "number" else "float"
  | .text _ => "string"
  | .bytes _ => "bytes"
  | .list _ => "array"
  | .tuple _ => "array"
  | .object _ => "object"
  | .regex _ => "Pattern"
  | .byteRegex _ => "Pattern"
  | .template _ => "function"
  | .sentinel _ => "_Sentinel"
  | .callback _ => "function"

def ofText? : Option String → Value κ
  | some s => .text s
  | none => .null

end Value

/-- A record as an object of JSON, in which a group that took no part is an empty string. -/
def MatchRecord.toObject {κ : Type} (r : MatchRecord) : Value κ :=
  .object [("match", .text r.text), ("index", .int r.index),
    ("groups", .list (r.groupTexts.map .text))]

/-- The groups of a record as a tuple. -/
def MatchRecord.groupTuple {κ : Type} (r : MatchRecord) : Value κ :=
  .tuple (r.groups.map Value.ofText?)

end FindReplace
