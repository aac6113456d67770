import FindReplace.Proofs.TemplateReading
import Mathlib.Algebra.Group.Nat.Defs
import Mathlib.Data.List.Induction

/-!
# The longest reference

Of the digits behind a dollar sign a reference takes as many as it can: no more than the number of
groups has, and only so many that there is a group of the number. Just two lengths are tried for
this, the most digits that there can be and one fewer. No more are needed, since a number with fewer
digits than the number of groups is never above it.

So only a single digit can fail to name a group, and only if there are fewer than nine of them. Such
a reference has no text. The digits that a reference leaves stand for themselves.
-/
namespace FindReplace.Template
open Text (isDecimal numeral)

/-- First digits of a run that name one of `count` groups in no more digits than `count` has. Noughts
in front are digits like others, and nought is the number of the match. -/
structure Names (count : Nat) (digits kept : List Char) : Prop where
  first : kept <+: digits
  nonempty : kept ≠ []
  short : kept.length ≤ digitCount count
  inRange : numeral 10 kept ≤ count

/-- The digits that a reference should have: the most that name a group, or one if none do. -/
inductive Longest (count : Nat) (digits : List Char) : List Char → Prop
  | named {kept : List Char} : Names count digits kept →
      (∀ other, Names count digits other → other.length ≤ kept.length) →
      Longest count digits kept
  | single {d : Char} : [d] <+: digits → (∀ other, ¬Names count digits other) →
      Longest count digits [d]

section bounds
variable {count : Nat} {d : Char} {ds : List Char}

theorem hexValue_lt_ten (h : isDecimal d = true) : Text.hexValue d < 10 := by
  have hle : d.toNat ≤ 57 := by
    have hnine := (Bool.and_eq_true_iff.1 h).2
    simpa [Char.le_def, UInt32.le_iff_toNat_le] using hnine
  rw [Text.hexValue_of_isDecimal h]
  omega

theorem numeral_lt_pow (h : ∀ c ∈ ds, isDecimal c = true) : numeral 10 ds < 10 ^ ds.length := by
  induction ds using List.reverseRecOn with
  | nil => exact Nat.one_pos
  | append_singleton ds d ih =>
      obtain ⟨hds, hd⟩ := List.forall_mem_append.1 h
      have hlast := hexValue_lt_ten (hd d (List.mem_singleton_self d))
      have hrest := ih hds
      rw [Text.numeral_concat, List.length_append, List.length_singleton, Nat.pow_succ]
      omega

theorem numeral_le_of_length_lt (h : ∀ c ∈ ds, isDecimal c = true)
    (hlength : ds.length < digitCount count) : numeral 10 ds ≤ count := by
  by_cases hds : ds = []
  · subst hds
    exact Nat.zero_le count
  · have hfew := Nat.length_toDigits_le_iff (b := 10) (n := count) (by decide) (List.length_pos_iff.2 hds)
    have hpow : 10 ^ ds.length ≤ count := Nat.le_of_not_lt fun hlt =>
      Nat.not_le.2 hlength (hfew.2 hlt)
    exact Nat.le_of_lt (Nat.lt_of_lt_of_le (numeral_lt_pow h) hpow)

end bounds

section choice
variable {count : Nat} {d : Char} {digits tried kept back other : List Char}

theorem Names.eq_of_length (h : Names count digits other) (hkept : kept <+: digits)
    (hlength : other.length = kept.length) : other = kept :=
  (List.prefix_of_prefix_length_le h.first hkept (Nat.le_of_eq hlength)).eq_of_length hlength

/-- All that name a group are among the most digits that there can be. -/
theorem Names.prefix_tried (h : Names count digits other) (htried : tried <+: digits)
    (hlength : tried.length = min digits.length (digitCount count)) : other <+: tried := by
  apply List.prefix_of_prefix_length_le h.first htried
  rw [hlength]
  exact Nat.le_min.2 ⟨h.first.length_le, h.short⟩

theorem Longest.unique (h : Longest count digits kept) (hother : Longest count digits other) :
    other = kept := by
  cases h with
  | named names longest =>
      cases hother with
      | named names' longest' =>
          exact names'.eq_of_length names.first
            (Nat.le_antisymm (longest _ names') (longest' _ names))
      | single _ none => exact absurd names (none _)
  | single hfirst none =>
      cases hother with
      | named names' _ => exact absurd names' (none _)
      | single hfirst' _ =>
          exact (List.prefix_of_prefix_length_le hfirst' hfirst (Nat.le_refl 1)).eq_of_length rfl

theorem Longest.first (h : Longest count digits kept) : kept <+: digits := by
  cases h with
  | named names _ => exact names.first
  | single hfirst _ => exact hfirst

theorem Longest.numeral_le (h : Longest count digits kept) (names : Names count digits other) :
    numeral 10 kept ≤ count := by
  cases h with
  | named names' _ => exact names'.inRange
  | single _ none => exact absurd names (none other)

theorem Longest.lt_numeral (h : Longest count digits kept)
    (hnone : ∀ other, ¬Names count digits other) : count < numeral 10 kept := by
  cases h with
  | named names _ => exact absurd names (hnone _)
  | @single d hfirst none =>
      apply Nat.lt_of_not_le
      intro hrange
      exact none [d] ⟨hfirst, List.cons_ne_nil d [], digitCount_pos count, hrange⟩

theorem names_single (hd : isDecimal d = true) (rest : List Char) (hcount : 9 ≤ count) :
    Names count (d :: rest) [d] := by
  have hvalue : numeral 10 [d] < 10 ^ 1 := numeral_lt_pow (by simpa using hd)
  exact ⟨⟨rest, rfl⟩, List.cons_ne_nil d [], digitCount_pos count, by omega⟩

theorem longest_single (hfirst : [d] <+: digits) (habove : count < numeral 10 [d])
    (h : ∀ other, Names count digits other → other <+: [d]) : Longest count digits [d] := by
  refine .single hfirst fun other names => ?_
  have hpos := List.length_pos_iff.2 names.nonempty
  have hle : other.length ≤ 1 := (h other names).length_le
  have heq : other = [d] := names.eq_of_length hfirst (Nat.le_antisymm hle hpos)
  exact Nat.not_le.2 habove (heq ▸ names.inRange)

/-- The digits that are taken are the most that name a group, or one digit if none do. -/
theorem Taken.longest (h : Taken count kept back) (hne : kept ++ back ≠ [])
    (hdigits : ∀ c ∈ kept ++ back, isDecimal c = true) : Longest count (kept ++ back) kept := by
  have hfirst : kept <+: kept ++ back := List.prefix_append kept back
  have hkept : ∀ c ∈ kept, isDecimal c = true := fun c hc => hdigits c (hfirst.subset hc)
  cases h with
  | whole hlength hfits =>
      have hpos : 0 < kept.length := by
        rw [hlength]
        exact Nat.lt_min.2 ⟨List.length_pos_iff.2 hne, digitCount_pos count⟩
      have hshort : kept.length ≤ digitCount count := by
        rw [hlength]
        exact Nat.min_le_right _ _
      have htried : ∀ other, Names count (kept ++ back) other → other <+: kept :=
        fun other names => names.prefix_tried hfirst hlength
      by_cases hrange : numeral 10 kept ≤ count
      · exact .named ⟨hfirst, List.length_pos_iff.1 hpos, hshort, hrange⟩
          fun other names => (htried other names).length_le
      · obtain ⟨d, rfl⟩ : ∃ d, kept = [d] := List.length_eq_one_iff.1 (by omega)
        exact longest_single hfirst (Nat.lt_of_not_le hrange) htried
  | @lessOne back last hsome hlength habove =>
      have hshort : kept.length < digitCount count := by
        have hle := Nat.min_le_right (kept ++ last :: back).length (digitCount count)
        rw [← hlength, List.length_append, List.length_singleton] at hle
        exact hle
      have hrange : numeral 10 kept ≤ count := numeral_le_of_length_lt hkept hshort
      refine .named ⟨hfirst, hsome, Nat.le_of_lt hshort, hrange⟩ fun other names => ?_
      have htried : kept ++ [last] <+: kept ++ last :: back := ⟨back, by simp⟩
      rcases List.prefix_concat_iff.1 (names.prefix_tried htried hlength) with rfl | hother
      · exact absurd names.inRange (Nat.not_le.2 habove)
      · exact hother.length_le

theorem longest_referenceDigits (count : Nat) (hne : digits ≠ [])
    (hdigits : ∀ c ∈ digits, isDecimal c = true) :
    Longest count digits (referenceDigits count digits) := by
  obtain ⟨kept, back, rfl, taken⟩ := exists_taken count digits
  rw [taken.referenceDigits_eq]
  exact taken.longest hne hdigits

end choice

end FindReplace.Template

namespace FindReplace
open Template (Names Longest referenceDigits)
open Text (isDecimal numeral)

/-- A run of digits gives the text of the group that its reference names and the digits left. -/
theorem expandMatch_run (s : Array Char) (m : Regex.Match) {digits : List Char} {rest : String}
    (hne : digits ≠ []) (hdigits : ∀ c ∈ digits, isDecimal c = true)
    (hrest : ∀ c ∈ rest.toList.head?, isDecimal c = false) :
    let kept := referenceDigits m.groups.size digits
    expandMatch (String.ofList ('$' :: digits) ++ rest) s m =
      m.groupText s (numeral 10 kept) ++ String.ofList (digits.drop kept.length) ++
        expandMatch rest s m := by
  intro kept
  have hpiece : String.ofList ((Template.Piece.reference digits).expand m.groups.size
      fun n => (m.groupText s n).toList) =
        m.groupText s (numeral 10 kept) ++ String.ofList (digits.drop kept.length) := by
    rw [Template.Piece.expand, String.ofList_append, String.ofList_toList]
  rw [expandMatch, Template.expand, Template.expandChars, String.toList_append,
    String.toList_ofList, List.cons_append, Template.pieces_run hne hdigits hrest,
    List.flatMap_cons, String.ofList_append, hpiece]
  rfl

/-- Of a run of digits the reference takes the longest first digits that can name a group, and just
one digit if none can. With nine groups or more there are always some; with fewer, a reference that
names none has no text. The digits that are left stand for themselves, and nothing is lost. -/
theorem reference_longest (count : Nat) {digits : List Char} (hne : digits ≠ [])
    (hdigits : ∀ c ∈ digits, isDecimal c = true) :
    let kept := referenceDigits count digits
    let back := digits.drop kept.length
    kept ++ back = digits ∧ (∀ other, Longest count digits other ↔ other = kept) ∧
      ((∀ other, ¬Names count digits other) → count ≤ 8) ∧
      (9 ≤ count → numeral 10 kept ≤ count) ∧
      ∀ (s : Array Char) (m : Regex.Match), m.groups.size = count →
        ((∀ other, ¬Names count digits other) → m.groupText s (numeral 10 kept) = "") ∧
        ∀ rest : String, (∀ c ∈ rest.toList.head?, isDecimal c = false) →
          expandMatch (String.ofList ('$' :: digits) ++ rest) s m =
            m.groupText s (numeral 10 kept) ++ String.ofList back ++ expandMatch rest s m := by
  intro kept back
  have longest : Longest count digits kept :=
    Template.longest_referenceDigits count hne hdigits
  have hnamed : 9 ≤ count → ∃ other, Names count digits other := by
    intro hcount
    obtain ⟨d, rest, rfl⟩ := List.exists_cons_of_ne_nil hne
    exact ⟨[d], Template.names_single (hdigits d List.mem_cons_self) rest hcount⟩
  refine ⟨List.prefix_iff_eq_append.1 longest.first,
    fun other => ⟨longest.unique, fun h => h ▸ longest⟩, ?_, ?_, ?_⟩
  · intro hnone
    by_contra hcount
    obtain ⟨other, names⟩ := hnamed (by omega)
    exact hnone other names
  · intro hcount
    obtain ⟨other, names⟩ := hnamed hcount
    exact longest.numeral_le names
  · intro s m hsize
    constructor
    · intro hnone
      rw [Regex.Match.groupText, hsize, if_pos (longest.lt_numeral hnone)]
    · intro rest hrest
      have hrun := expandMatch_run s m hne hdigits hrest
      rw [hsize] at hrun
      exact hrun

/-- With twelve groups there is no group 13, so one digit is given back and stands for itself. -/
theorem reference_longest_thirteen :
    let s := Text.chars "abcdefghijkl"
    let m : Regex.Match := ⟨0, 12, (Array.range 12).map fun i => some ⟨i, i + 1⟩⟩
    let digits := ['1', '3']
    (digits ≠ [] ∧ ∀ c ∈ digits, isDecimal c = true) ∧ m.groups.size = 12 ∧
      (∀ c ∈ "-$2".toList.head?, isDecimal c = false) ∧
      (∀ other, Longest 12 digits other ↔ other = ['1']) ∧
      expandMatch (String.ofList ('$' :: digits) ++ "-$2") s m = "a3-b" := by
  intro s m digits
  have hne : digits ≠ [] := List.cons_ne_nil _ _
  have hdigits : ∀ c ∈ digits, isDecimal c = true := List.all_eq_true.1 rfl
  have hsize : m.groups.size = 12 := by simp [m]
  have hrest : ∀ c ∈ "-$2".toList.head?, isDecimal c = false := by
    intro c hc
    cases hc
    rfl
  have hkept : referenceDigits 12 digits = ['1'] := by decide +kernel
  obtain ⟨-, longest, -, -, expands⟩ := reference_longest 12 hne hdigits
  have hexpand := (expands s m hsize).2 "-$2" hrest
  rw [hkept] at longest hexpand
  refine ⟨⟨hne, hdigits⟩, hsize, hrest, longest, hexpand.trans ?_⟩
  decide +kernel

end FindReplace
