import FindReplace.Regex.Escape

/-!
Character sets between brackets. A closing bracket that comes first is a member, and a hyphen is a
member where no range can be meant. A set of one code point is that code point.
-/
namespace FindReplace.Regex

variable [Text.CharacterNames]

/-- A member as one token or escape gives it. -/
def readMember (x : Extent) (t : Token) (rest : List Token) : Reading (Member × List Token) :=
  if t.escaped then readSetEscape x t rest else .ok (.code t.char.toNat, rest)

/-- The range between the members that `t` and `u` begin. -/
def joinRange (x : Extent) (t u : Token) (lo hi : Member) (rest : List Token) : Reading Member :=
  match lo, hi with
  | .code m, .code n =>
    if m ≤ n then .ok (.range m n) else refused
  | _, _ => refused
where
  refused : Reading Member :=
    x.refuseAt rest (.badRange t.text u.text)
      (x.tell rest - (t.chars.length + 1 + u.chars.length))

/-- The members up to the closing bracket, after those in `members`, and the tokens after it. The
set began at `start`. -/
def readMembers (x : Extent) (start : Nat) :
    (fuel : Nat) → List Member → List Token → Reading (List Member × List Token)
  | 0, _, rest => x.refuseAt rest .unterminatedSet start
  | _, _, [] => x.refuseAt [] .unterminatedSet start
  | fuel + 1, members, t :: rest =>
    if t.isPlain ']' && !members.isEmpty then .ok (members, rest)
    else do
      let (lo, rest) ← readMember x t rest
      match rest with
      | hyphen :: rest =>
        if hyphen.isPlain '-' then
          match rest with
          | [] => x.refuseAt [] .unterminatedSet start
          | u :: rest =>
            if u.isPlain ']' then .ok (members ++ [lo, .code 45], rest)
            else do
              let (hi, rest) ← readMember x u rest
              let range ← joinRange x t u lo hi rest
              readMembers x start fuel (members ++ [range]) rest
        else readMembers x start fuel (members ++ [lo]) (hyphen :: rest)
      | [] => readMembers x start fuel (members ++ [lo]) []

/-- The set whose bracket is at `start`, read from the token after it. -/
def readSet (x : Extent) (sense : Sense) (start : Nat) (rest : List Token) :
    Reading (CharTest × List Token) := do
  let (negated, rest) :=
    match rest with
    | t :: after => if t.isPlain '^' then (true, after) else (false, rest)
    | [] => (false, [])
  let (members, rest) ← readMembers x start (rest.length + 1) [] rest
  match members.eraseDups with
  | [.code n] => return (.one n negated sense, rest)
  | members => return (.oneOf members negated sense, rest)

end FindReplace.Regex
