import FindReplace.Proofs.Interchange
import FindReplace.Proofs.TemplateBoundaries

/-!
# How a template is read

A template is read once, from left to right. What it says is a list of characters and of numbers of
groups, and `Reads` has the rules for it: one for each thing that can stand at a place. By these
rules a template says one thing only, for any number of groups, and what it says does not depend on
the texts that the groups have. So no part of an expansion is read again, whatever dollar signs and
digits there are in it.

A number is taken from a run of digits as a whole, and the rules say how many of them it has. Which
numbers come of that, and that a group of that number mostly exists, is not said here.
-/
namespace FindReplace

/-- The text that a record has for the number of a group: that of the match for nought, and none for
a group that took no part or is not there. -/
def MatchRecord.textOf (record : MatchRecord) (number : Nat) : String :=
  (record.text :: record.groupTexts).getD number ""

namespace Template
open Text (isDecimal numeral)

/-- What a template says at one place. -/
inductive Said
  | char (c : Char)
  | group (number : Nat)
  deriving DecidableEq, Repr

def Said.chars (group : Nat → String) : Said → List Char
  | .char c => [c]
  | .group n => (group n).toList

/-- Of the digits `kept ++ back` behind a dollar sign, `kept` are the reference: as many of them as
the number of groups has, or one fewer if there are at least two and they name a number above it. -/
inductive Taken (count : Nat) : (kept back : List Char) → Prop
  | whole {kept back : List Char} :
      kept.length = min (kept ++ back).length (digitCount count) →
      ¬(2 ≤ kept.length ∧ count < numeral 10 kept) → Taken count kept back
  | lessOne {kept back : List Char} {last : Char} : kept ≠ [] →
      (kept ++ [last]).length = min (kept ++ last :: back).length (digitCount count) →
      count < numeral 10 (kept ++ [last]) → Taken count kept (last :: back)

/-- What a template says where there are `count` groups. The digits of a reference are all up to a
character that is none, and a dollar sign stands for itself only where no other rule applies. -/
inductive Reads (count : Nat) : List Char → List Said → Prop
  | done : Reads count [] []
  | pair {rest : List Char} {said : List Said} :
      Reads count rest said → Reads count ('$' :: '$' :: rest) (.char '$' :: said)
  | reference {kept back rest : List Char} {said : List Said} : kept ++ back ≠ [] →
      (∀ c ∈ kept ++ back, isDecimal c = true) → (∀ c ∈ rest.head?, isDecimal c = false) →
      Taken count kept back → Reads count rest said →
      Reads count ('$' :: (kept ++ back ++ rest))
        (.group (numeral 10 kept) :: (back.map .char ++ said))
  | self {c : Char} {rest : List Char} {said : List Said} :
      (c = '$' → ∀ d ∈ rest.head?, d ≠ '$' ∧ isDecimal d = false) →
      Reads count rest said → Reads count (c :: rest) (.char c :: said)

def Piece.said (count : Nat) : Piece → List Said
  | .char c => [.char c]
  | .reference digits =>
    let head := referenceDigits count digits
    .group (numeral 10 head) :: (digits.drop head.length).map .char

def reading (count : Nat) (template : List Char) : List Said :=
  (pieces template).flatMap (Piece.said count)

section digits
variable {count : Nat} {kept back : List Char}

theorem Taken.referenceDigits_eq (h : Taken count kept back) :
    referenceDigits count (kept ++ back) = kept := by
  cases h with
  | whole hlength hfits =>
      have htake : (kept ++ back).take (digitCount count) = kept := by
        rw [List.take_eq_take_min, Nat.min_comm, ← hlength, List.take_left]
      have hkeep : ¬(count < numeral 10 kept && 1 < kept.length) = true := by
        rw [Bool.and_eq_true_iff, decide_eq_true_iff, decide_eq_true_iff, And.comm]
        exact hfits
      unfold referenceDigits
      rw [htake]
      exact if_neg hkeep
  | @lessOne back last hne hlength habove =>
      have hsplit : kept ++ last :: back = (kept ++ [last]) ++ back := by simp
      have htake : (kept ++ last :: back).take (digitCount count) = kept ++ [last] := by
        rw [List.take_eq_take_min, Nat.min_comm, ← hlength, hsplit, List.take_left]
      have hgive : (count < numeral 10 (kept ++ [last]) && 1 < (kept ++ [last]).length) = true := by
        simp [habove, List.length_pos_iff.2 hne]
      unfold referenceDigits
      rw [htake]
      exact (if_pos hgive).trans List.dropLast_concat

theorem exists_taken (count : Nat) (digits : List Char) :
    ∃ kept back, digits = kept ++ back ∧ Taken count kept back := by
  obtain ⟨first, more, hparts, hlength⟩ : ∃ first more, digits = first ++ more ∧
      first.length = min digits.length (digitCount count) :=
    ⟨_, _, (List.take_append_drop (digitCount count) digits).symm, by
      rw [List.length_take, Nat.min_comm]⟩
  subst hparts
  by_cases hgive : 2 ≤ first.length ∧ count < numeral 10 first
  · obtain ⟨htwo, habove⟩ := hgive
    obtain rfl | ⟨kept, last, rfl⟩ := List.eq_nil_or_concat' first
    · cases htwo
    · have hne : kept ≠ [] := by
        rintro rfl
        exact absurd htwo (by simp)
      rw [List.append_assoc] at hlength
      exact ⟨kept, last :: more, List.append_assoc _ _ _, .lessOne hne hlength habove⟩
  · exact ⟨first, more, rfl, .whole hlength hgive⟩

theorem Taken.said_eq (h : Taken count kept back) :
    (Piece.reference (kept ++ back)).said count = .group (numeral 10 kept) :: back.map .char := by
  rw [Piece.said, h.referenceDigits_eq, List.drop_left]

end digits

section
variable {count : Nat} {template : List Char} {said : List Said}

/-- The pieces of a template say it by the rules. -/
theorem reads_reading (count : Nat) (template : List Char) :
    Reads count template (reading count template) := by
  unfold reading
  fun_induction pieces template with
  | case1 => exact .done
  | case2 rest ih => exact .pair ih
  | case3 d rest hne hd ih =>
      have hdigits : ∀ c ∈ d :: rest.takeWhile isDecimal, isDecimal c = true :=
        isDecimal_of_mem_run hd
      obtain ⟨kept, back, hparts, taken⟩ := exists_taken count (d :: rest.takeWhile isDecimal)
      have hne : kept ++ back ≠ [] := hparts ▸ List.cons_ne_nil _ _
      rw [hparts] at hdigits
      have h := Reads.reference hne hdigits isDecimal_head?_dropWhile taken ih
      rw [← hparts, List.cons_append, List.takeWhile_append_dropWhile] at h
      rw [List.flatMap_cons, hparts, taken.said_eq]
      exact h
  | case4 d rest hne hd ih =>
      refine .self (fun _ c hc => ?_) ih
      cases hc
      exact ⟨hne, by simpa using hd⟩
  | case5 c rest hpair hdigit ih =>
      refine .self (fun hc d hd => ?_) ih
      obtain ⟨tail, htail⟩ := List.head?_eq_some_iff.1 hd
      exact (hdigit d tail hc htail).elim

/-- No other reading is by the rules. -/
theorem Reads.eq_reading (h : Reads count template said) : said = reading count template := by
  induction h with
  | done =>
      rw [reading, pieces_nil]
      rfl
  | pair _ ih =>
      rw [reading, pieces_pair, List.flatMap_cons, ih]
      rfl
  | reference hne hdigits hstop taken _ ih =>
      rw [reading, pieces_run hne hdigits hstop, List.flatMap_cons, taken.said_eq, ih]
      rfl
  | @self c rest said hself _ ih =>
      by_cases hc : c = '$'
      · subst hc
        rw [ih, reading, reading, pieces_single (hself rfl), List.flatMap_cons]
        rfl
      · rw [ih, reading, reading, pieces_of_ne rest hc, List.flatMap_cons]
        rfl

theorem reads_iff : Reads count template said ↔ said = reading count template :=
  ⟨Reads.eq_reading, fun h => h ▸ reads_reading count template⟩

theorem expandChars_eq_reading (count : Nat) (group : Nat → String) (template : List Char) :
    expandChars count (fun n => (group n).toList) template =
      (reading count template).flatMap (Said.chars group) := by
  have hback : ∀ ds : List Char, (ds.map Said.char).flatMap (Said.chars group) = ds := by
    intro ds
    rw [List.flatMap_map]
    exact List.flatMap_singleton' ds
  have hpiece : Piece.expand count (fun n => (group n).toList) =
      fun p => (p.said count).flatMap (Said.chars group) := by
    funext p
    cases p with
    | char c => rfl
    | reference digits =>
        rw [Piece.expand, Piece.said, List.flatMap_cons, hback]
        rfl
  rw [expandChars, reading, List.flatMap_assoc, hpiece]

end

end Template

open Template (Reads Said reading substituteDollars)

/-- What a template says is told by the rules, and for every match its expansion is what it says for
as many groups as the match has, with the texts of that match's record. Replacing the dollar
sequences that a pattern finds in the template comes to the same. -/
theorem expandMatch_reads (template : String) :
    ∃ said : Nat → List Said,
      (∀ count said', Reads count template.toList said' ↔ said' = said count) ∧
      ∀ (s : Array Char) (m : Regex.Match),
        expandMatch template s m = String.ofList
          ((said m.groups.size).flatMap (Said.chars (MatchRecord.ofMatch s m).textOf)) ∧
        expandMatch template s m = substituteDollars m.groups.size (m.groupText s) template := by
  refine ⟨fun count => reading count template.toList, fun count said' => Template.reads_iff, ?_⟩
  intro s m
  have htexts : m.groupText s = (MatchRecord.ofMatch s m).textOf :=
    funext fun n => (getD_groupTexts s m n).symm
  refine ⟨?_, Template.expand_eq_substituteDollars m.groups.size (m.groupText s) template⟩
  rw [expandMatch, Template.expand, Template.expandChars_eq_reading, htexts]

end FindReplace
