import FindReplace.Fault
import FindReplace.Value

/-!
Limits on the number of replacements. A limit is a natural number, however it is written: as an
integer or as a double that is one. Null stands for no limit where the caller allows that.
-/
namespace FindReplace

/-- `none` is no limit. -/
def limitOf {κ : Type} (nullIsUnlimited : Bool) (v : Value κ) : Except Fault (Option Nat) :=
  match v, nullIsUnlimited with
  | .null, true => .ok none
  | v, _ =>
    match v.integer? with
    | some (.ofNat n) => .ok (some n)
    | _ => .error (.cause .limitUnusable)

end FindReplace
