import FindReplace.Proofs.FirstWay
import FindReplace.Proofs.NamedCharacters
import FindReplace.Proofs.References
import FindReplace.Replace

/-!
# Dollar sequences as a pattern

The sequences of a template that begin with a dollar sign can be found by a pattern, and an
expansion is then a substitution like any other: every match of the pattern is replaced by what its
two groups ask for. The scan of a template into pieces comes to the same.

At each place of a template the pattern matches a pair of dollar signs, or a dollar sign and all the
digits behind it, or nothing. A match is never empty, so one search goes on where the last match
stopped.
-/
namespace FindReplace.Template
open Regex (CharTest Match Node Span drop_succ lt_size_of_drop)
open Regex.Matching (Fails Prefers)
open Text (chars isDecimal slice)

/-- A dollar sign with another one, or with digits. Blanks do not count. -/
def dollarSource : String :=
  "\n        [$]\n        (?:\n            (?P<dollar> [$] )\n                |\n"
    ++ "            (?P<digits> [0-9]+ )\n        )\n    "

def dollarTest : CharTest := .one 36 false ⟨false, true⟩

def digitTest : CharTest := .oneOf [.range 48 57] false ⟨false, true⟩

def dollarNode : Node :=
  .sequence [.test dollarTest, .choice (.sequence [.capture 1 (.sequence [.test dollarTest])])
    [.sequence [.capture 2 (.sequence [.repetition .greedy 1 none (.test digitTest)])]]]

def dollarSequence : Regex := ⟨dollarSource, dollarNode, 2, [("dollar", 1), ("digits", 2)]⟩

theorem parse_dollarSource [names : Text.CharacterNames] :
    (Regex.parseWith [.ascii, .verbose] dollarSource).toOption = some dollarSequence := by
  have hnames : Regex.AgreeOn names Text.noCharacterNames dollarSource.toList :=
    Regex.agreeOn_of_not_mem _ _ (by decide +kernel)
  rw [Regex.parseWith_congr _ _ _ hnames]
  unfold Regex.parseWith dollarSource
  rw [String.toList_append]
  decide +kernel

section digits
variable {d : Char} {rest : List Char}

theorem isDecimal_of_mem_run (hd : isDecimal d = true) :
    ∀ c ∈ d :: rest.takeWhile isDecimal, isDecimal c = true := by
  intro c hc
  rcases List.mem_cons.1 hc with rfl | hc
  · exact hd
  · exact List.all_eq_true.1 List.all_takeWhile c hc

theorem isDecimal_head?_dropWhile :
    ∀ c ∈ (rest.dropWhile isDecimal).head?, isDecimal c = false := by
  intro c hc
  have hnot := List.head?_dropWhile_not isDecimal rest
  rw [hc] at hnot
  simpa using hnot

end digits

section matching
variable {text : Array Char} {pos : Nat} {c : Char} {ds rest : List Char}

theorem accepts_dollarTest (c : Char) : dollarTest.accepts c.toNat = (c == '$') := by
  have hone := Regex.accepts_one '$' false true c
  rwa [Bool.bne_false] at hone

theorem accepts_digitTest (c : Char) : digitTest.accepts c.toNat = isDecimal c := by
  simp [digitTest, CharTest.accepts, Regex.Member.holds, isDecimal, Char.le_def,
    UInt32.le_iff_toNat_le]

theorem prefers_dollar {groups : Array (Option Span)} (h : text.toList.drop pos = '$' :: rest) :
    Prefers ((Node.test dollarTest).walk text) ⟨pos, groups⟩ ⟨pos + 1, groups⟩ :=
  Regex.prefers_test accepts_dollarTest h rfl

theorem fails_dollar {groups : Array (Option Span)}
    (h : ∀ c ∈ (text.toList.drop pos).head?, c ≠ '$') :
    Fails ((Node.test dollarTest).walk text) ⟨pos, groups⟩ :=
  Regex.fails_test accepts_dollarTest fun c hc => beq_eq_false_iff_ne.2 (h c hc)

theorem fails_digits {groups : Array (Option Span)}
    (h : ∀ c ∈ (text.toList.drop pos).head?, isDecimal c = false) :
    Fails ((Node.repetition .greedy 1 none (.test digitTest)).walk text) ⟨pos, groups⟩ :=
  Regex.fails_repetition Nat.one_ne_zero (Regex.fails_test accepts_digitTest h)

theorem matchAt_pair (h : text.toList.drop pos = '$' :: '$' :: rest) :
    dollarSequence.matchAt text pos false =
      some ⟨pos, pos + 2, #[some ⟨pos + 1, pos + 2⟩, none]⟩ := by
  have hway : Prefers (dollarNode.walk text) ⟨pos, #[none, none]⟩
      ⟨pos + 2, #[some ⟨pos + 1, pos + 2⟩, none]⟩ := by
    apply Regex.prefers_seq (prefers_dollar h)
    apply Regex.prefers_seq
    · apply Regex.prefers_alt_left
      apply Regex.prefers_seq
      · apply Regex.prefers_capture 1
        apply Regex.prefers_seq (prefers_dollar (drop_succ h))
        exact Regex.prefers_empty text _
      exact Regex.prefers_empty text _
    exact Regex.prefers_empty text _
  exact Regex.matchAt_of_prefers dollarSequence hway

theorem matchAt_digits {d : Char} (h : text.toList.drop pos = '$' :: d :: (ds ++ rest))
    (hds : ∀ c ∈ d :: ds, isDecimal c = true) (hstop : ∀ c ∈ rest.head?, isDecimal c = false) :
    dollarSequence.matchAt text pos false =
      some ⟨pos, pos + 2 + ds.length, #[none, some ⟨pos + 1, pos + 2 + ds.length⟩]⟩ := by
  have hd : d ≠ '$' := by
    rintro rfl
    exact absurd (hds '$' List.mem_cons_self) (by decide)
  have hlength : pos + 2 + ds.length = pos + 1 + (d :: ds).length := by
    rw [List.length_cons]
    omega
  have hpair : ∀ c ∈ (text.toList.drop (pos + 1)).head?, c ≠ '$' := by
    rw [drop_succ h]
    intro c hc
    cases hc
    exact hd
  have hway : Prefers (dollarNode.walk text) ⟨pos, #[none, none]⟩
      ⟨pos + 2 + ds.length, #[none, some ⟨pos + 1, pos + 2 + ds.length⟩]⟩ := by
    rw [hlength]
    apply Regex.prefers_seq (prefers_dollar h)
    apply Regex.prefers_seq
    · apply Regex.prefers_alt_right
      · apply Regex.fails_seq
        apply Regex.fails_capture
        apply Regex.fails_seq
        exact fails_dollar hpair
      apply Regex.prefers_seq
      · apply Regex.prefers_capture 2
        apply Regex.prefers_seq
        · exact Regex.prefers_run accepts_digitTest (lt_size_of_drop h) (drop_succ h) hds
            (Nat.succ_pos _) hstop
        exact Regex.prefers_empty text _
      exact Regex.prefers_empty text _
    exact Regex.prefers_empty text _
  exact Regex.matchAt_of_prefers dollarSequence hway

theorem matchAt_none (h : ∀ rest, text.toList.drop pos = '$' :: rest →
      ∀ d ∈ rest.head?, d ≠ '$' ∧ isDecimal d = false) :
    dollarSequence.matchAt text pos false = none := by
  apply Regex.matchAt_of_fails
  by_cases hdollar : (text.toList.drop pos).head? = some '$'
  · obtain ⟨rest, hrest⟩ := List.head?_eq_some_iff.1 hdollar
    have hnext := h rest hrest
    rw [← drop_succ hrest] at hnext
    apply Regex.fails_behind_test accepts_dollarTest
    apply Regex.fails_seq
    apply Regex.fails_alt
    · apply Regex.fails_seq
      apply Regex.fails_capture
      apply Regex.fails_seq
      exact fails_dollar fun d hd => (hnext d hd).1
    · apply Regex.fails_seq
      apply Regex.fails_capture
      apply Regex.fails_seq
      exact fails_digits fun d hd => (hnext d hd).2
  · apply Regex.fails_seq
    apply fails_dollar
    rintro c hc rfl
    exact hdollar hc

end matching

/-- What a match is replaced by: a dollar sign for a pair, or else what the digits refer to. -/
def dollarSubstitute (count : Nat) (group : Nat → String) (text : Array Char) (m : Match) :
    String :=
  match m.group? text 1 with
  | some _ => "$"
  | none =>
    let digits := (m.groupText text 2).toList
    String.ofList ((Piece.reference digits).expand count fun n => (group n).toList)

def substituteDollars (count : Nat) (group : Nat → String) (template : String) : String :=
  let text := chars template
  splice text 0
    ((dollarSequence.matchList text).map fun m => (m, dollarSubstitute count group text m))

section substitution
variable {text : Array Char} {pos : Nat} {count : Nat} {group : Nat → String}

/-- The expansion from the place `pos` on, by matches. -/
def substituteFrom (count : Nat) (group : Nat → String) (text : Array Char) (pos : Nat) : String :=
  splice text pos ((dollarSequence.matchesFrom text pos false).map
    fun m => (m, dollarSubstitute count group text m))

theorem substituteFrom_of_some (hpos : pos ≤ text.size) {m : Match} (hstop : m.start < m.stop)
    (h : dollarSequence.matchAt text pos false = some m) :
    substituteFrom count group text pos =
      dollarSubstitute count group text m ++ substituteFrom count group text m.stop := by
  have hstart : m.start = pos := (Regex.matchAt_found hpos h).2
  have hempty : slice text pos pos = "" := by rw [Text.slice_eq_take_drop, Nat.sub_self]; rfl
  rw [substituteFrom, Regex.matchesFrom_of_some hpos hstop h, List.map_cons, splice, hstart, hempty,
    String.empty_append]
  rfl

theorem splice_from {pairs : List (Match × String)} {next : Nat} (hpos : pos ≤ next)
    (hnext : next ≤ text.size) (h : ∀ p ∈ pairs.head?, next ≤ p.1.start) :
    splice text pos pairs = slice text pos next ++ splice text next pairs := by
  cases pairs with
  | nil => exact (Text.slice_append_slice hpos hnext).symm
  | cons p pairs =>
      rw [splice, splice, ← Text.slice_append_slice hpos (h p rfl), String.append_assoc,
        String.append_assoc, String.append_assoc]

theorem substituteFrom_of_none {c : Char} {rest : List Char}
    (hcs : text.toList.drop pos = c :: rest)
    (h : dollarSequence.matchAt text pos false = none) :
    substituteFrom count group text pos =
      String.ofList [c] ++ substituteFrom count group text (pos + 1) := by
  have hpos := lt_size_of_drop hcs
  have hchar : slice text pos (pos + 1) = String.ofList [c] := by
    rw [Text.slice_eq_take_drop, hcs, Nat.add_sub_cancel_left]
    rfl
  have hspaced := Regex.matchesFrom_spaced dollarSequence text (pos + 1) false
  rw [substituteFrom, substituteFrom, Regex.matchesFrom_of_none hpos h, ← hchar]
  refine splice_from (Nat.le_succ pos) hpos fun p hp => ?_
  rw [List.head?_map] at hp
  obtain ⟨m, hm, rfl⟩ := Option.map_eq_some_iff.1 hp
  exact (hspaced.forward m (List.mem_of_mem_head? hm)).1

theorem substituteFrom_end (hcs : text.toList.drop pos = []) (hpos : pos ≤ text.size) :
    substituteFrom count group text pos = "" := by
  have hnone : dollarSequence.matchAt text pos false = none := matchAt_none fun rest h => by
    rw [hcs] at h
    cases h
  rw [substituteFrom, Regex.matchesFrom_of_end hpos hcs hnone, List.map_nil, splice,
    Text.slice_to_end, hcs, String.ofList_nil]

theorem substituteFrom_pair {rest : List Char} (hcs : text.toList.drop pos = '$' :: '$' :: rest) :
    substituteFrom count group text pos = "$" ++ substituteFrom count group text (pos + 2) := by
  have hstop : pos < pos + 2 := Nat.lt_add_of_pos_right (Nat.succ_pos 1)
  rw [substituteFrom_of_some (Nat.le_of_lt (lt_size_of_drop hcs)) hstop (matchAt_pair hcs)]
  rfl

theorem substituteFrom_digits {d : Char} {ds rest : List Char}
    (hcs : text.toList.drop pos = '$' :: d :: (ds ++ rest))
    (hds : ∀ c ∈ d :: ds, isDecimal c = true) (hstop : ∀ c ∈ rest.head?, isDecimal c = false) :
    substituteFrom count group text pos =
      String.ofList ((Piece.reference (d :: ds)).expand count fun n => (group n).toList) ++
        substituteFrom count group text (pos + 2 + ds.length) := by
  have hlength : pos + 2 + ds.length - (pos + 1) = (d :: ds).length := by
    rw [List.length_cons]
    omega
  have hdigits : slice text (pos + 1) (pos + 2 + ds.length) = String.ofList (d :: ds) := by
    rw [Text.slice_eq_take_drop, drop_succ hcs, hlength, ← List.cons_append, List.take_left]
  have hgroup : Match.groupText
      ⟨pos, pos + 2 + ds.length, #[none, some ⟨pos + 1, pos + 2 + ds.length⟩]⟩ text 2 =
        slice text (pos + 1) (pos + 2 + ds.length) := rfl
  rw [substituteFrom_of_some (Nat.le_of_lt (lt_size_of_drop hcs)) (by dsimp only; omega)
    (matchAt_digits hcs hds hstop), dollarSubstitute]
  dsimp only [Match.group?, Match.span?]
  rw [hgroup, hdigits, String.toList_ofList]
  rfl

/-- By matches or by pieces, the expansion is the same. -/
theorem substituteFrom_eq (count : Nat) (group : Nat → String) (text : Array Char) {pos : Nat}
    (hpos : pos ≤ text.size) :
    substituteFrom count group text pos =
      String.ofList (expandChars count (fun n => (group n).toList) (text.toList.drop pos)) := by
  generalize hcs : text.toList.drop pos = cs
  unfold expandChars
  fun_induction pieces cs generalizing pos with
  | case1 => exact substituteFrom_end hcs hpos
  | case2 rest ih =>
      have hnext := ih (lt_size_of_drop (drop_succ hcs)) (drop_succ (drop_succ hcs))
      rw [substituteFrom_pair hcs, hnext, List.flatMap_cons, String.ofList_append]
      rfl
  | case3 d rest hne hd ih =>
      have hrun : text.toList.drop pos =
          '$' :: d :: (rest.takeWhile isDecimal ++ rest.dropWhile isDecimal) := by
        rw [hcs, List.takeWhile_append_dropWhile]
      have hds : ∀ c ∈ d :: rest.takeWhile isDecimal, isDecimal c = true :=
        isDecimal_of_mem_run hd
      have hnext : pos + 2 + (rest.takeWhile isDecimal).length ≤ text.size :=
        (Regex.matchAt_found hpos (matchAt_digits hrun hds isDecimal_head?_dropWhile)).1.within
      have hback : text.toList.drop (pos + 2 + (rest.takeWhile isDecimal).length) =
          rest.dropWhile isDecimal := by
        rw [← List.drop_drop, drop_succ (drop_succ hrun), List.drop_left]
      rw [substituteFrom_digits hrun hds isDecimal_head?_dropWhile, ih hnext hback,
        List.flatMap_cons, String.ofList_append]
  | case4 d rest hne hd ih =>
      have hnone : dollarSequence.matchAt text pos false = none := matchAt_none fun rest' h => by
        rw [hcs] at h
        cases h
        intro c hc
        cases hc
        exact ⟨hne, by simpa using hd⟩
      rw [substituteFrom_of_none hcs hnone, ih (lt_size_of_drop hcs) (drop_succ hcs),
        List.flatMap_cons, String.ofList_append]
      rfl
  | case5 c rest hpair hdigit ih =>
      have hnone : dollarSequence.matchAt text pos false = none := matchAt_none fun rest' h => by
        rw [hcs] at h
        cases h
        intro d hd
        obtain ⟨tail, rfl⟩ := List.head?_eq_some_iff.1 hd
        exact (hdigit d tail rfl rfl).elim
      rw [substituteFrom_of_none hcs hnone, ih (lt_size_of_drop hcs) (drop_succ hcs),
        List.flatMap_cons, String.ofList_append]
      rfl

end substitution

theorem expand_eq_substituteDollars (count : Nat) (group : Nat → String) (template : String) :
    expand count group template = substituteDollars count group template :=
  (substituteFrom_eq count group (chars template) (Nat.zero_le _)).symm

end FindReplace.Template
