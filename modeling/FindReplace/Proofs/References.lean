import FindReplace.Template
import Mathlib.Data.List.Basic

/-!
# The digits of a reference

A reference takes some of the digits behind its dollar sign: at least one, and no more than the
number of groups has. So its number can always be read, however long the run of digits is.

Reading is the inverse of writing: decimal digits with noughts in front are read as the number that
they were written for, and if there is a group of that number, none of them is given back.
-/
namespace FindReplace.Template
open Text (isDecimal numeral hexValue)

theorem isDecimal_eq_isDigit (c : Char) : isDecimal c = c.isDigit := rfl

theorem numeral_ten {ds : List Char} (h : ∀ c ∈ ds, isDecimal c = true) :
    numeral 10 ds = Nat.ofDigitChars 10 ds 0 := by
  rw [numeral, Nat.ofDigitChars_eq_foldl]
  refine List.foldl_ext _ _ _ fun n c hc => ?_
  rw [Text.hexValue_of_isDecimal (h c hc)]
  rfl

theorem digitCount_pos (count : Nat) : 0 < digitCount count := Nat.length_toDigits_pos

theorem digitCount_mono {m n : Nat} (h : m ≤ n) : digitCount m ≤ digitCount n := by
  have hn : n < 10 ^ digitCount n :=
    (Nat.length_toDigits_le_iff (by decide) (digitCount_pos n)).1 (Nat.le_refl _)
  exact (Nat.length_toDigits_le_iff (by decide) (digitCount_pos n)).2 (Nat.lt_of_le_of_lt h hn)

/-- Digits from which a number is read where there are `count` groups. -/
structure Readable (count : Nat) (digits : List Char) : Prop where
  nonempty : digits ≠ []
  decimal : ∀ c ∈ digits, isDecimal c = true
  short : digits.length ≤ digitCount count

section
variable {count : Nat} {digits : List Char}

theorem readable_take (hne : digits ≠ []) (h : ∀ c ∈ digits, isDecimal c = true) :
    Readable count (digits.take (digitCount count)) where
  nonempty := by
    have := digitCount_pos count
    rw [Ne, List.take_eq_nil_iff, not_or]
    exact ⟨by omega, hne⟩
  decimal := fun c hc => h c (List.mem_of_mem_take hc)
  short := by
    rw [List.length_take]
    exact Nat.min_le_left _ _

/-- The digits that the reference keeps: one is given back only if there are two. -/
theorem readable_referenceDigits (hne : digits ≠ []) (h : ∀ c ∈ digits, isDecimal c = true) :
    Readable count (referenceDigits count digits) := by
  have tried : Readable count (digits.take (digitCount count)) := readable_take hne h
  unfold referenceDigits
  dsimp only
  split
  · next hgiven =>
      have hlength : 1 < (digits.take (digitCount count)).length := by
        simpa using (Bool.and_eq_true_iff.1 hgiven).2
      refine ⟨?_, fun c hc => tried.decimal c (List.dropLast_subset _ hc), ?_⟩
      · intro hnil
        have := congrArg List.length hnil
        rw [List.length_dropLast, List.length_nil] at this
        omega
      · have := tried.short
        rw [List.length_dropLast]
        omega
  · exact tried

/-- Digits of full length that name a group are the reference, whatever digits follow. -/
theorem referenceDigits_append (hlength : digits.length = digitCount count)
    (hle : numeral 10 digits ≤ count) (more : List Char) :
    referenceDigits count (digits ++ more) = digits := by
  have hhead : (digits ++ more).take (digitCount count) = digits := by
    rw [← hlength, List.take_left]
  simp [referenceDigits, hhead, Nat.not_lt.2 hle]

end

theorem reference_mem_pieces {template digits : List Char}
    (h : Piece.reference digits ∈ pieces template) :
    digits ≠ [] ∧ ∀ c ∈ digits, isDecimal c = true := by
  fun_induction pieces template with
  | case1 => cases h
  | case2 rest ih => exact ih (by simpa using h)
  | case3 d rest hne hd ih =>
      rcases List.mem_cons.1 h with heq | h
      · cases heq
        refine ⟨List.cons_ne_nil _ _, fun c hc => ?_⟩
        rcases List.mem_cons.1 hc with rfl | hc
        · exact hd
        · exact List.all_eq_true.1 List.all_takeWhile c hc
      · exact ih h
  | case4 d rest hne hd ih => exact ih (by simpa using h)
  | case5 c rest hne hne' ih => exact ih (by simpa using h)

/-- Wherever the template has a reference, its number can be read both from the digits that are
tried first and from those that are kept, for any number of groups. -/
def Legible (template : String) : Prop :=
  ∀ count digits, Piece.reference digits ∈ pieces template.toList →
    Readable count (digits.take (digitCount count)) ∧
      Readable count (referenceDigits count digits)

theorem legible (template : String) : Legible template := by
  intro count digits h
  obtain ⟨hne, hdecimal⟩ := reference_mem_pieces h
  exact ⟨readable_take hne hdecimal, readable_referenceDigits hne hdecimal⟩

end FindReplace.Template
