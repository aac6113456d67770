import FindReplace.Proofs.DollarSequences

/-!
# Where a template can be cut

A template can be cut in two before every character that is neither a dollar sign nor a digit. Each
part is then read as it would be alone, whatever the first one ends with: no dollar sequence goes
over such a place, so a dollar sign at the end of the first part stands for itself, the dollar signs
before it are paired as they were, and the last reference has all the digits that it can have.

Before a dollar sign or a digit nothing is said: it may belong to a sequence that began before it.
-/
namespace FindReplace.Template
open Text (isDecimal)

/-- What no dollar sequence that began before it goes into. -/
def StandsApart (rest : List Char) : Prop := ∀ c ∈ rest.head?, c ≠ '$' ∧ isDecimal c = false

section
variable {template digits rest : List Char}

theorem pieces_single (h : StandsApart rest) : pieces ('$' :: rest) = .char '$' :: pieces rest := by
  cases rest with
  | nil => rw [pieces_dollar, pieces_nil]
  | cons c rest =>
      obtain ⟨hne, hc⟩ := h c rfl
      exact pieces_lone rest hne hc

/-- A dollar sign with all the digits behind it. -/
theorem pieces_run (hne : digits ≠ []) (hdigits : ∀ c ∈ digits, isDecimal c = true)
    (hstop : ∀ c ∈ rest.head?, isDecimal c = false) :
    pieces ('$' :: (digits ++ rest)) = .reference digits :: pieces rest := by
  obtain ⟨d, ds, rfl⟩ := List.exists_cons_of_ne_nil hne
  obtain ⟨hd, hds⟩ := List.forall_mem_cons.1 hdigits
  obtain ⟨htake, hdrop⟩ := Regex.span_append hds hstop
  rw [List.cons_append, pieces_reference _ hd, htake, hdrop]

/-- A template is read up to the cut, and then from there on. -/
theorem pieces_append (template : List Char) (h : StandsApart rest) :
    pieces (template ++ rest) = pieces template ++ pieces rest := by
  fun_induction pieces template with
  | case1 => rfl
  | case2 tail ih =>
      rw [List.cons_append, List.cons_append, pieces_pair, ih, List.cons_append]
  | case3 d tail hne hd ih =>
      have hstop : ∀ c ∈ (tail.dropWhile isDecimal ++ rest).head?, isDecimal c = false := by
        have hend : ∀ c ∈ (tail.dropWhile isDecimal).head?, isDecimal c = false :=
          isDecimal_head?_dropWhile
        intro c hc
        cases htail : tail.dropWhile isDecimal with
        | nil =>
            rw [htail] at hc
            exact (h c hc).2
        | cons e after =>
            rw [htail] at hc hend
            exact hend c hc
      have hsplit : d :: tail ++ rest =
          (d :: tail.takeWhile isDecimal) ++ (tail.dropWhile isDecimal ++ rest) := by
        rw [List.cons_append, List.cons_append, ← List.append_assoc,
          List.takeWhile_append_dropWhile]
      rw [List.cons_append, hsplit,
        pieces_run (List.cons_ne_nil _ _) (isDecimal_of_mem_run hd) hstop, ih, List.cons_append]
  | case4 d tail hne hd ih =>
      have hlone := pieces_lone (tail ++ rest) hne (by simpa using hd)
      rw [List.cons_append, List.cons_append, hlone, ← List.cons_append, ih, List.cons_append]
  | case5 c tail hpair hnext ih =>
      by_cases hc : c = '$'
      · subst hc
        obtain rfl : tail = [] := by
          cases tail with
          | nil => rfl
          | cons d tail => exact (hnext d tail rfl rfl).elim
        rw [List.singleton_append, pieces_single h, pieces_nil, List.singleton_append]
      · rw [List.cons_append, pieces_of_ne _ hc, ih, List.cons_append]

theorem expandChars_append (count : Nat) (group : Nat → List Char) (template : List Char)
    (h : StandsApart rest) :
    expandChars count group (template ++ rest) =
      expandChars count group template ++ expandChars count group rest := by
  rw [expandChars, pieces_append template h, List.flatMap_append, expandChars, expandChars]

end

end FindReplace.Template

namespace FindReplace
open Template (StandsApart)

/-- For every match, a template that is cut where the second part stands apart expands to what its
parts expand to. -/
theorem expandMatch_append (s : Array Char) (m : Regex.Match) (template : String) {rest : String}
    (h : StandsApart rest.toList) :
    expandMatch (template ++ rest) s m = expandMatch template s m ++ expandMatch rest s m := by
  rw [expandMatch, Template.expand, String.toList_append,
    Template.expandChars_append _ _ _ h, String.ofList_append]
  rfl

/-- The first part ends with a reference, a pair of dollar signs and a single one. -/
theorem expandMatch_append_dollar :
    let s : Array Char := #['a', 'b']
    let m : Regex.Match := ⟨0, 2, #[some ⟨1, 2⟩]⟩
    StandsApart "-1$0".toList ∧
      expandMatch ("$1$$$" ++ "-1$0") s m = "b$$" ++ "-1ab" := by
  intro s m
  have h : StandsApart "-1$0".toList := by
    intro c hc
    cases hc
    decide
  refine ⟨h, ?_⟩
  rw [expandMatch_append s m "$1$$$" h]
  have hfirst : expandMatch "$1$$$" s m = "b$$" := by decide +kernel
  have hrest : expandMatch "-1$0" s m = "-1ab" := by decide +kernel
  rw [hfirst, hrest]

end FindReplace
