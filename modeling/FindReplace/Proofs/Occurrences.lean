/-!
# Occurrences of a text in a text

The leftmost occurrences that do not overlap are found one after another: behind the first one, the
search goes on in what follows it and never comes back. Replacing some of them in one go is defined
by this scan.

The other way of replacing starts over in the rewritten text each time. The two agree if the text
put in shares no character with the one looked for: an occurrence in the rewritten text cannot reach
into what was put in, and it cannot lie before it, for then it would have been the first one.
-/
namespace FindReplace.Occurrences

variable {p r s t u : List Char}

/-- What is before and what is behind the first occurrence of `p`. The empty text does not occur. -/
def cut? (p : List Char) : List Char → Option (List Char × List Char)
  | [] => none
  | c :: s =>
    if p ≠ [] ∧ p <+: c :: s then some ([], (c :: s).drop p.length)
    else (cut? p s).map fun x => (c :: x.1, x.2)

theorem cut?_eq_some {a b : List Char} (h : cut? p s = some (a, b)) : s = a ++ p ++ b := by
  induction s generalizing a with
  | nil => cases h
  | cons c s ih =>
      rw [cut?] at h
      split at h
      · next hp =>
        cases h
        simpa using (List.prefix_iff_eq_append.1 hp.2).symm
      · obtain ⟨⟨a', b'⟩, hcut, heq⟩ := Option.map_eq_some_iff.1 h
        cases heq
        rw [ih hcut]
        rfl

theorem ne_nil_of_cut? {a b : List Char} (h : cut? p s = some (a, b)) : p ≠ [] := by
  induction s generalizing a b with
  | nil => cases h
  | cons c s ih =>
      rw [cut?] at h
      split at h
      · next hp => exact hp.1
      · obtain ⟨⟨a', b'⟩, hcut, -⟩ := Option.map_eq_some_iff.1 h
        exact ih hcut

theorem length_behind_lt {a b : List Char} (h : cut? p s = some (a, b)) : b.length < s.length := by
  have hp := List.length_pos_iff.2 (ne_nil_of_cut? h)
  rw [cut?_eq_some h, List.length_append, List.length_append]
  omega

set_option linter.unusedVariables false in
def count (p s : List Char) : Nat :=
  match h : cut? p s with
  | none => 0
  | some (a, b) => count p b + 1
termination_by s.length
decreasing_by exact length_behind_lt h

theorem count_of_some {a b : List Char} (h : cut? p s = some (a, b)) :
    count p s = count p b + 1 := by
  rw [count]
  split <;> simp_all

/-- The text with the first `n` occurrences of `p` replaced by `r`. -/
def replaceFirst (p r : List Char) : Nat → List Char → List Char
  | 0, s => s
  | n + 1, s =>
    match cut? p s with
    | none => s
    | some (a, b) => a ++ r ++ replaceFirst p r n b

theorem replaceFirst_of_none (h : cut? p s = none) (n : Nat) : replaceFirst p r n s = s := by
  cases n with
  | zero => rfl
  | succ n => simp only [replaceFirst, h]

theorem replaceFirst_of_some {a b : List Char} (h : cut? p s = some (a, b)) (n : Nat) :
    replaceFirst p r (n + 1) s = a ++ r ++ replaceFirst p r n b := by
  simp only [replaceFirst, h]

theorem replaceFirst_min (n : Nat) (s : List Char) :
    replaceFirst p r (min n (count p s)) s = replaceFirst p r n s := by
  induction n generalizing s with
  | zero => rw [Nat.zero_min]
  | succ n ih =>
      cases h : cut? p s with
      | none => rw [replaceFirst_of_none h, replaceFirst_of_none h]
      | some x =>
          obtain ⟨a, b⟩ := x
          rw [count_of_some h, Nat.succ_min_succ, replaceFirst_of_some h, replaceFirst_of_some h, ih]

theorem prefix_of_prefix_append_cons {c : Char} (hc : c ∉ p) (h : p <+: u ++ c :: t) : p <+: u := by
  induction u generalizing p with
  | nil =>
      cases p with
      | nil => exact List.nil_prefix
      | cons d p =>
          rw [List.nil_append, List.cons_prefix_cons] at h
          exact absurd (h.1 ▸ List.mem_cons_self) hc
  | cons d u ih =>
      cases p with
      | nil => exact List.nil_prefix
      | cons e p =>
          rw [List.cons_append, List.cons_prefix_cons] at h
          rw [List.cons_prefix_cons]
          exact ⟨h.1, ih (fun hmem => hc (List.mem_cons_of_mem _ hmem)) h.2⟩

theorem cut?_append_of_disjoint (h : ∀ c ∈ r, c ∉ p) (t : List Char) :
    cut? p (r ++ t) = (cut? p t).map fun x => (r ++ x.1, x.2) := by
  induction r with
  | nil => simp
  | cons c r ih =>
      have hno : ¬(p ≠ [] ∧ p <+: c :: (r ++ t)) := by
        rintro ⟨hp, hprefix⟩
        have := prefix_of_prefix_append_cons (u := []) (h c List.mem_cons_self) hprefix
        exact hp (List.prefix_nil.1 this)
      rw [List.cons_append, cut?, if_neg hno, ih fun d hd => h d (List.mem_cons_of_mem _ hd),
        Option.map_map]
      rfl

/-- Behind a text that was put in for the first occurrence, the search finds what it would find
without it. -/
theorem cut?_replaced {a b : List Char} (hcut : cut? p s = some (a, b)) (hr : r ≠ [])
    (h : ∀ c ∈ r, c ∉ p) (t : List Char) :
    cut? p (a ++ r ++ t) = (cut? p t).map fun x => (a ++ r ++ x.1, x.2) := by
  induction s generalizing a with
  | nil => cases hcut
  | cons c s ih =>
      rw [cut?] at hcut
      split at hcut
      · cases hcut
        exact cut?_append_of_disjoint h t
      · next hno =>
        obtain ⟨⟨a', b'⟩, hcut', heq⟩ := Option.map_eq_some_iff.1 hcut
        cases heq
        have hno' : ¬(p ≠ [] ∧ p <+: c :: (a' ++ r ++ t)) := by
          rintro ⟨hp, hprefix⟩
          obtain ⟨d, r', rfl⟩ := List.exists_cons_of_ne_nil hr
          have hshort : p <+: c :: a' := by
            refine prefix_of_prefix_append_cons (t := r' ++ t) (h d List.mem_cons_self) ?_
            simpa using hprefix
          refine hno ⟨hp, ?_⟩
          rw [cut?_eq_some hcut', List.append_assoc]
          exact hshort.trans (List.prefix_append (c :: a') _)
        change cut? p (c :: (a' ++ r ++ t)) = _
        rw [cut?, if_neg hno', ih hcut', Option.map_map]
        rfl

/-- Replacing the first occurrence and starting over is replacing behind it. -/
theorem replaceFirst_replaced {a b : List Char} (hcut : cut? p s = some (a, b)) (hr : r ≠ [])
    (h : ∀ c ∈ r, c ∉ p) (n : Nat) :
    replaceFirst p r n (a ++ r ++ b) = replaceFirst p r (n + 1) s := by
  rw [replaceFirst_of_some hcut]
  have hagain := cut?_replaced hcut hr h b
  cases n with
  | zero => rfl
  | succ n =>
      cases hb : cut? p b with
      | none =>
          rw [hb] at hagain
          rw [replaceFirst_of_none hb, replaceFirst_of_none hagain]
      | some x =>
          rw [hb] at hagain
          rw [replaceFirst_of_some hb, replaceFirst_of_some hagain]
          simp only [List.append_assoc]

end FindReplace.Occurrences
