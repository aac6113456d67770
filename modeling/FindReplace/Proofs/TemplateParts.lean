import FindReplace.Proofs.References
import FindReplace.Substitution

/-!
# Writing templates

What a template can say is a list of parts, each a text that stands for itself or the number of a
group. Every list of parts can be written as a template, and expanding what was written gives the
texts of the parts one after another: no part is read in the light of the one before it or behind
it, whatever digits and dollar signs stand at their ends.

Writing depends on the number of groups, since it fills the number in a reference up to as many
digits as a reference can take. A template that was written for one pattern may say something else
for another.
-/
namespace FindReplace.Template
open Text (isDecimal numeral)

/-- A part of what a template says where there are `count` groups. -/
inductive Part (count : Nat)
  | literal (text : String)
  | reference (group : Fin (count + 1))

def escaped (c : Char) : List Char := if c = '$' then ['$', '$'] else [c]

/-- The number of a group in as many digits as the number of groups has. -/
def groupDigits (count k : Nat) : List Char := (Nat.toDigits 10 k).leftpad (digitCount count) '0'

namespace Part
variable {count : Nat}

def chars : Part count → List Char
  | .literal text => text.toList.flatMap escaped
  | .reference k => '$' :: groupDigits count k

def text (group : Nat → String) : Part count → String
  | .literal text => text
  | .reference k => group k

end Part

def write {count : Nat} (parts : List (Part count)) : String :=
  String.ofList (parts.flatMap Part.chars)

section reading
variable (count : Nat) (group : Nat → List Char)

theorem expandChars_nil : expandChars count group [] = [] := by
  rw [expandChars, pieces_nil, List.flatMap_nil]

theorem expandChars_of_ne {c : Char} (rest : List Char) (h : c ≠ '$') :
    expandChars count group (c :: rest) = c :: expandChars count group rest := by
  rw [expandChars, pieces_of_ne rest h, List.flatMap_cons]
  rfl

theorem expandChars_pair (rest : List Char) :
    expandChars count group ('$' :: '$' :: rest) = '$' :: expandChars count group rest := by
  rw [expandChars, pieces_pair, List.flatMap_cons]
  rfl

theorem expandChars_literal (cs rest : List Char) :
    expandChars count group (cs.flatMap escaped ++ rest) = cs ++ expandChars count group rest := by
  induction cs with
  | nil => rfl
  | cons c cs ih =>
      rw [List.flatMap_cons, List.append_assoc]
      by_cases hc : c = '$'
      · rw [escaped, if_pos hc, hc]
        exact (expandChars_pair count group _).trans (congrArg _ ih)
      · rw [escaped, if_neg hc]
        exact (expandChars_of_ne count group _ hc).trans (congrArg _ ih)

theorem expandChars_digits {ds : List Char} (h : ∀ c ∈ ds, isDecimal c = true)
    (rest : List Char) :
    expandChars count group (ds ++ rest) = ds ++ expandChars count group rest := by
  induction ds with
  | nil => rfl
  | cons d ds ih =>
      have hd : d ≠ '$' := by
        rintro rfl
        exact absurd (h _ List.mem_cons_self) (by decide)
      rw [List.cons_append, expandChars_of_ne count group _ hd,
        ih fun c hc => h c (List.mem_cons_of_mem _ hc), List.cons_append]

/-- A reference with as many digits as it can take, which name a group. Those that follow are no
part of it, although they are read in one run with its own. -/
theorem expandChars_reference {ds : List Char} (h : ∀ c ∈ ds, isDecimal c = true)
    (hlength : ds.length = digitCount count) (hle : numeral 10 ds ≤ count) (rest : List Char) :
    expandChars count group ('$' :: ds ++ rest) =
      group (numeral 10 ds) ++ expandChars count group rest := by
  have hpieces : pieces ('$' :: ds ++ rest) =
      .reference (ds ++ rest.takeWhile isDecimal) :: pieces (rest.dropWhile isDecimal) := by
    cases ds with
    | nil => exact absurd hlength.symm (Nat.ne_of_gt (digitCount_pos count))
    | cons d ds =>
        have htail : ∀ c ∈ ds, isDecimal c = true := fun c hc => h c (List.mem_cons_of_mem _ hc)
        rw [List.cons_append, List.cons_append, pieces_reference _ (h d List.mem_cons_self),
          List.takeWhile_append_of_pos htail, List.dropWhile_append_of_pos htail, List.cons_append]
  have hrun : ∀ c ∈ rest.takeWhile isDecimal, isDecimal c = true :=
    List.all_eq_true.1 List.all_takeWhile
  have hrest := expandChars_digits count group hrun (rest.dropWhile isDecimal)
  rw [List.takeWhile_append_dropWhile] at hrest
  rw [hrest, expandChars, hpieces, List.flatMap_cons, Piece.expand,
    referenceDigits_append hlength hle, List.drop_left, List.append_assoc]
  rfl

end reading

section writing
variable {count k : Nat}

theorem groupDigits_isDecimal : ∀ c ∈ groupDigits count k, isDecimal c = true := by
  intro c hc
  rw [groupDigits, List.leftpad, List.mem_append] at hc
  rcases hc with hc | hc
  · rw [List.eq_of_mem_replicate hc]
    rfl
  · rw [isDecimal_eq_isDigit]
    exact Nat.isDigit_of_mem_toDigits (by decide) (by decide) hc

theorem length_groupDigits (h : k ≤ count) : (groupDigits count k).length = digitCount count := by
  rw [groupDigits, List.length_leftpad]
  exact Nat.max_eq_left (digitCount_mono h)

theorem numeral_groupDigits : numeral 10 (groupDigits count k) = k := by
  rw [numeral_ten groupDigits_isDecimal, groupDigits, List.leftpad, Nat.ofDigitChars_append,
    Nat.ofDigitChars_replicate_zero, Nat.mul_zero, Nat.ofDigitChars_ten_toDigits]

end writing

section
variable {count : Nat} (group : Nat → String)

/-- What is written for a part says that part, whatever comes after it. -/
theorem expandChars_part (part : Part count) (rest : List Char) :
    expandChars count (fun n => (group n).toList) (part.chars ++ rest) =
      (part.text group).toList ++ expandChars count (fun n => (group n).toList) rest := by
  cases part with
  | literal text => exact expandChars_literal _ _ _ _
  | reference k =>
      have hk : k.val ≤ count := Nat.le_of_lt_succ k.isLt
      have hread := expandChars_reference count (fun n => (group n).toList) groupDigits_isDecimal
        (length_groupDigits hk) (numeral_groupDigits ▸ hk) rest
      rw [numeral_groupDigits] at hread
      exact hread

theorem expand_write (parts : List (Part count)) :
    expand count group (write parts) = String.join (parts.map (Part.text group)) := by
  have hchars : expandChars count (fun n => (group n).toList) (parts.flatMap Part.chars) =
      (String.join (parts.map (Part.text group))).toList := by
    induction parts with
    | nil => exact expandChars_nil _ _
    | cons part parts ih =>
        rw [List.flatMap_cons, expandChars_part, ih, List.map_cons, String.join_cons,
          String.toList_append]
  rw [expand, write, String.toList_ofList, hchars, String.ofList_toList]

end

/-- With twelve groups, a nought in front keeps the digits of the text behind it out of the
reference. -/
example : write ([.reference 1, .literal "0$", .reference 12] : List (Part 12)) = "$010$$$12" := by
  decide

end FindReplace.Template

namespace FindReplace
open Template (Part)

/-- For every match, the template written for a list of parts expands to the texts of the parts, the
text of a reference being that of the group. -/
theorem expandMatch_write (s : Array Char) (m : Regex.Match) (parts : List (Part m.groups.size)) :
    expandMatch (Template.write parts) s m = String.join (parts.map (Part.text (m.groupText s))) :=
  Template.expand_write (m.groupText s) parts

end FindReplace
