import FindReplace.Text.Quoted

/-!
UTF-8. A text is read strictly: surrogates, overlong forms and codes beyond the last code point are
malformed. What is wrong is told with the bytes that are at fault, which are those of a sequence up
to the first byte that cannot continue it.
-/
namespace FindReplace.Text.Utf8

abbrev Bytes := List UInt8

def encodeCode (n : Nat) : Bytes :=
  let tail (k : Nat) : UInt8 := UInt8.ofNat (0x80 + n / k % 64)
  if n < 0x80 then [UInt8.ofNat n]
  else if n < 0x800 then [UInt8.ofNat (0xC0 + n / 64), tail 1]
  else if n < 0x10000 then [UInt8.ofNat (0xE0 + n / 4096), tail 64, tail 1]
  else [UInt8.ofNat (0xF0 + n / 262144), tail 4096, tail 64, tail 1]

def encode (s : String) : Bytes := s.toList.flatMap fun c => encodeCode c.toNat

inductive Reason
  | invalidStart
  | invalidContinuation
  | unexpectedEnd
  deriving DecidableEq, Repr

/-- The bytes at fault are those from `start` up to, not including, `stop`; `byte` is the first. -/
structure Malformed where
  start : Nat
  stop : Nat
  byte : UInt8
  reason : Reason
  deriving DecidableEq, Repr

def Reason.text : Reason → String
  | .invalidStart => "invalid start byte"
  | .invalidContinuation => "invalid continuation byte"
  | .unexpectedEnd => "unexpected end of data"

def Malformed.message (m : Malformed) : String :=
  let place :=
    if m.stop == m.start + 1 then
      "byte 0x" ++ String.ofList (hexDigits 2 m.byte.toNat) ++ " in position " ++ toString m.start
    else "bytes in position " ++ toString m.start ++ "-" ++ toString (m.stop - 1)
  "'utf-8' codec can't decode " ++ place ++ ": " ++ m.reason.text

/-- A sequence that is not complete: `left` more bytes are to come, the next of them between `low`
and `high`, and `code` is what the bytes so far give. -/
structure Pending where
  start : Nat
  byte : UInt8
  left : Nat
  low : Nat
  high : Nat
  code : Nat
  deriving DecidableEq, Repr

/-- The sequence that a byte from 128 on begins. -/
def begin? (start : Nat) (byte : UInt8) : Option Pending :=
  let b := byte.toNat
  if 0xC2 ≤ b && b ≤ 0xDF then some ⟨start, byte, 1, 0x80, 0xBF, b - 0xC0⟩
  else if b == 0xE0 then some ⟨start, byte, 2, 0xA0, 0xBF, 0⟩
  else if b == 0xED then some ⟨start, byte, 2, 0x80, 0x9F, 0xD⟩
  else if 0xE1 ≤ b && b ≤ 0xEF then some ⟨start, byte, 2, 0x80, 0xBF, b - 0xE0⟩
  else if b == 0xF0 then some ⟨start, byte, 3, 0x90, 0xBF, 0⟩
  else if 0xF1 ≤ b && b ≤ 0xF3 then some ⟨start, byte, 3, 0x80, 0xBF, b - 0xF0⟩
  else if b == 0xF4 then some ⟨start, byte, 3, 0x80, 0x8F, 4⟩
  else none

/-- Reads from position `pos`, in the midst of a sequence if `pending`. -/
def decodeFrom (pos : Nat) : (pending : Option Pending) → Bytes → Except Malformed (List Char)
  | none, [] => .ok []
  | some p, [] => .error ⟨p.start, pos, p.byte, .unexpectedEnd⟩
  | none, b :: rest =>
    if b.toNat < 0x80 then (decodeFrom (pos + 1) none rest).map (Char.ofNat b.toNat :: ·)
    else
      match begin? pos b with
      | some p => decodeFrom (pos + 1) (some p) rest
      | none => .error ⟨pos, pos + 1, b, .invalidStart⟩
  | some p, b :: rest =>
    if p.low ≤ b.toNat && b.toNat ≤ p.high then
      let code := p.code * 64 + (b.toNat - 0x80)
      if p.left ≤ 1 then (decodeFrom (pos + 1) none rest).map (Char.ofNat code :: ·)
      else
        let p := { p with left := p.left - 1, low := 0x80, high := 0xBF, code := code }
        decodeFrom (pos + 1) (some p) rest
    else .error ⟨p.start, pos, p.byte, .invalidContinuation⟩

def decode (b : Bytes) : Except Malformed (List Char) := decodeFrom 0 none b

end FindReplace.Text.Utf8
