import FindReplace.Text.Numeral

/-!
Replacement templates. `$$` is a dollar sign, and a dollar sign before ASCII digits is a reference
to a group, group 0 being the whole match; every other character stands for itself. A reference has
at most as many digits as the number of groups, and if these name a group beyond it, the last one is
given back. What a reference leaves of the digits stands for itself.
-/
namespace FindReplace.Template

open Text (isDecimal numeral)

/-- A piece of a template as it is written. `reference` has all digits after the dollar sign. -/
inductive Piece
  | char (c : Char)
  | reference (digits : List Char)
  deriving DecidableEq, Repr

def pieces : List Char → List Piece
  | [] => []
  | '$' :: '$' :: rest => .char '$' :: pieces rest
  | '$' :: d :: rest =>
    if isDecimal d then .reference (d :: rest.takeWhile isDecimal) :: pieces (rest.dropWhile isDecimal)
    else .char '$' :: pieces (d :: rest)
  | c :: rest => .char c :: pieces rest
termination_by s => s.length
decreasing_by
  all_goals simp only [List.length_cons]
  · omega
  · have := (List.dropWhile_sublist isDecimal (l := rest)).length_le
    omega
  · omega
  · omega

@[simp] theorem pieces_nil : pieces [] = [] := by rw [pieces]

theorem pieces_of_ne {c : Char} (rest : List Char) (h : c ≠ '$') :
    pieces (c :: rest) = .char c :: pieces rest := by
  rw [pieces] <;> intros <;> contradiction

theorem pieces_pair (rest : List Char) :
    pieces ('$' :: '$' :: rest) = .char '$' :: pieces rest := by rw [pieces]

theorem pieces_reference {d : Char} (rest : List Char) (h : isDecimal d = true) :
    pieces ('$' :: d :: rest) =
      .reference (d :: rest.takeWhile isDecimal) :: pieces (rest.dropWhile isDecimal) := by
  rw [pieces, if_pos h]
  exact fun hd => absurd (hd ▸ h) (by decide)

/-- A dollar sign before what is neither a dollar sign nor a digit stands for itself. -/
theorem pieces_lone {d : Char} (rest : List Char) (hd : d ≠ '$') (h : isDecimal d = false) :
    pieces ('$' :: d :: rest) = .char '$' :: pieces (d :: rest) := by
  rw [pieces, if_neg (by simp [h])]
  exact hd

theorem pieces_dollar : pieces ['$'] = [.char '$'] := by
  rw [pieces, pieces_nil] <;> intros <;> contradiction

theorem pieces_of_not_mem {s : List Char} (h : '$' ∉ s) : pieces s = s.map .char := by
  induction s with
  | nil => exact pieces_nil
  | cons c rest ih =>
    rw [List.mem_cons, not_or] at h
    rw [pieces_of_ne rest (Ne.symm h.1), ih h.2, List.map_cons]

/-- How many decimal digits the number `n` has. -/
def digitCount (n : Nat) : Nat := (Nat.toDigits 10 n).length

/-- The digits of a reference among those after the dollar sign, for `count` groups. -/
def referenceDigits (count : Nat) (digits : List Char) : List Char :=
  let head := digits.take (digitCount count)
  if count < numeral 10 head && 1 < head.length then head.dropLast else head

def Piece.expand (count : Nat) (group : Nat → List Char) : Piece → List Char
  | .char c => [c]
  | .reference digits =>
    let head := referenceDigits count digits
    group (numeral 10 head) ++ digits.drop head.length

/-- The template with the texts of `count` groups and of the whole match. -/
def expandChars (count : Nat) (group : Nat → List Char) (template : List Char) : List Char :=
  (pieces template).flatMap (Piece.expand count group)

def expand (count : Nat) (group : Nat → String) (template : String) : String :=
  String.ofList (expandChars count (fun n => (group n).toList) template.toList)

/-- A template without dollar signs stands for itself. -/
theorem expand_of_not_mem {template : String} (h : '$' ∉ template.toList) (count : Nat)
    (group : Nat → String) : expand count group template = template := by
  have hchars : (template.toList.map Piece.char).flatMap
      (Piece.expand count fun n => (group n).toList) = template.toList := by
    simp [List.flatMap_map, Piece.expand]
  rw [expand, expandChars, pieces_of_not_mem h, hchars, String.ofList_toList]

end FindReplace.Template
