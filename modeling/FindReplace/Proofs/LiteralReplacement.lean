import FindReplace.Proofs.Checks
import FindReplace.Proofs.LiteralPattern
import FindReplace.Proofs.Passes
import FindReplace.Proofs.SinglePass

/-!
# Replacing a literal text

For a pattern that stands for itself and a text to put in that has no character in common with it,
starting over after each replacement comes to the same as one scan of the subject. Both ways of
running replace the leftmost occurrences that do not overlap: with a limit as many of them as it
allows, without one all.

The text to put in must not be empty. Without it, what is before an occurrence may join what is
behind it to a new one.
-/
namespace FindReplace
open Occurrences (cut? count replaceFirst)
open Text (chars slice)

variable {κ σ : Type}

section
variable {p : String} {text : Array Char}

theorem Regex.findFrom_literal (hp : p ≠ "") {start : Nat} (hs : start ≤ text.size)
    (advance : Bool) :
    (Regex.literal p).findFrom text start advance =
      (cut? p.toList (text.toList.drop start)).map fun x =>
        ⟨start + x.1.length, start + x.1.length + p.length, #[]⟩ :=
  Regex.search_literal text hp (Nat.add_sub_cancel' hs) advance

/-- What is found cuts the text where its first occurrence does. -/
theorem Regex.cut?_of_findFrom_literal (hp : p ≠ "") {start : Nat} (hs : start ≤ text.size)
    {advance : Bool} {m : Match} (hm : (Regex.literal p).findFrom text start advance = some m) :
    ∃ a, cut? p.toList (text.toList.drop start) = some (a, text.toList.drop m.stop) ∧
      slice text start m.start = String.ofList a := by
  rw [Regex.findFrom_literal hp hs] at hm
  obtain ⟨⟨a, b⟩, hcut, rfl⟩ := Option.map_eq_some_iff.1 hm
  have heq := Occurrences.cut?_eq_some hcut
  have hb : text.toList.drop (start + a.length + p.length) = b := by
    rw [Nat.add_assoc, ← List.drop_drop, heq, ← String.length_toList, ← List.length_append,
      List.drop_left]
  refine ⟨a, by rw [hb]; exact hcut, ?_⟩
  rw [Text.slice_eq_take_drop, Nat.add_sub_cancel_left, heq, List.append_assoc, List.take_left]

theorem Regex.cut?_of_find?_literal_none (hp : p ≠ "") {s : String}
    (h : (Regex.literal p).find? (chars s) = none) : cut? p.toList s.toList = none := by
  rw [Regex.find?, Regex.findFrom_literal hp (Nat.zero_le _), Option.map_eq_none_iff] at h
  exact h

theorem Regex.cut?_of_find?_literal_some (hp : p ≠ "") {s : String} {m : Match}
    (h : (Regex.literal p).find? (chars s) = some m) :
    ∃ a b, cut? p.toList s.toList = some (a, b) ∧
      ∀ x, splice (chars s) 0 [(m, x)] = String.ofList (a ++ x.toList ++ b) := by
  obtain ⟨a, hcut, hslice⟩ := Regex.cut?_of_findFrom_literal hp (Nat.zero_le _) h
  refine ⟨a, _, hcut, fun x => ?_⟩
  rw [splice_single, hslice, Text.slice_to_end, String.ofList_append, String.ofList_append,
    String.ofList_toList]

/-- Splicing the same text in place of all matches replaces all occurrences. -/
theorem splice_literal (text : Array Char) (hp : p ≠ "") (x : String) {start : Nat}
    (hs : start ≤ text.size) (advance : Bool) :
    splice text start (((Regex.literal p).matchesFrom text start advance).map (·, x)) =
      String.ofList (replaceFirst p.toList x.toList (count p.toList (text.toList.drop start))
        (text.toList.drop start)) := by
  fun_induction Regex.matchesFrom (Regex.literal p) text start advance with
  | case1 start advance hs hm =>
      rw [Regex.findFrom_literal hp hs, Option.map_eq_none_iff] at hm
      rw [Occurrences.replaceFirst_of_none hm, List.map_nil, splice, Text.slice_to_end]
  | case2 start advance hs m hm ih =>
      obtain ⟨a, hcut, hslice⟩ := Regex.cut?_of_findFrom_literal hp hs hm
      rw [Occurrences.count_of_some hcut, Occurrences.replaceFirst_of_some hcut, List.map_cons,
        splice, ih (Regex.findFrom_found hs hm).within, hslice, String.ofList_append,
        String.ofList_append, String.ofList_toList]
  | case3 start advance hs' => exact absurd hs hs'

end

section
variable (host : Host κ σ) (verbose : Bool) {p x : String}

theorem replaceAll_literal (hp : p ≠ "") (hx : '$' ∉ x.toList) (s : String) (st : σ) :
    (replaceAll host verbose (Regex.literal p) (.template x) s st).result =
      .ok (String.ofList (replaceFirst p.toList x.toList (count p.toList s.toList) s.toList)) := by
  have hspliced := splice_literal (chars s) hp x (Nat.zero_le _) false
  simp only [replaceAll, substitutes_template, expandMatch, Template.expand_of_not_mem hx]
  rw [Regex.matchList, hspliced]
  rfl

theorem replaceUpTo_literal (hp : p ≠ "") (hx : '$' ∉ x.toList) (hne : x ≠ "")
    (hdisjoint : ∀ c ∈ x.toList, c ∉ p.toList) (limit left : Nat) (before : String) (st : σ) :
    (replaceUpTo host verbose (Regex.literal p) (.template x) limit left before st).result =
      .ok (String.ofList (replaceFirst p.toList x.toList left before.toList)) := by
  have hne' : x.toList ≠ [] := fun h => hne (String.toList_eq_nil_iff.1 h)
  fun_induction replaceUpTo host verbose (Regex.literal p) (.template x) limit left before st with
  | case1 before st => simp [Outcome.done, replaceFirst]
  | case2 left before st s hm =>
      rw [Occurrences.replaceFirst_of_none (Regex.cut?_of_find?_literal_none hp hm)]
      simp [Outcome.done]
  | case3 left before st s m hm y f hy => cases hy
  | case4 left before st s m hm y t hy after pass ih =>
      obtain ⟨a, b, hcut, hspliced⟩ := Regex.cut?_of_find?_literal_some hp hm
      have ht : x = t := by
        have hexpand : expandMatch x s m = t := Except.ok.inj hy
        rw [← hexpand, expandMatch, Template.expand_of_not_mem hx]
      have hafter : after.toList = a ++ x.toList ++ b := by
        rw [show after = splice (chars before) 0 [(m, t)] from rfl, hspliced, ← ht,
          String.toList_ofList]
      rw [hafter, Occurrences.replaceFirst_replaced hcut hne' hdisjoint] at ih
      exact ih

end

/-- Replacing a literal text. -/
theorem replace_literal [Text.CharacterNames] (host : Host κ σ) (verbose nullIsUnlimited : Bool)
    (subject p x : String) (hp : p ≠ "") (hliteral : ∀ c ∈ p.toList, Regex.isLiteral c = true)
    (hne : x ≠ "") (hx : '$' ∉ x.toList) (hdisjoint : ∀ c ∈ x.toList, c ∉ p.toList) (st : σ) :
    let occurrences := count p.toList subject.toList
    let rewritten (n : Nat) : String :=
      String.ofList (replaceFirst p.toList x.toList n subject.toList)
    let upTo (limit : Nat) : Outcome σ :=
      replace host verbose nullIsUnlimited (.text subject) (.text p) (.text x) (.int limit) st
    let all : Outcome σ := replace host verbose true (.text subject) (.text p) (.text x) .null st
    (∀ limit, (upTo limit).result = .ok (rewritten (min limit occurrences))) ∧
      all.result = .ok (rewritten occurrences) ∧
        ∀ limit, occurrences ≤ limit → (upTo limit).result = all.result := by
  intro occurrences rewritten upTo all
  have hpattern : patternOf (.text p : Value κ) = .ok (Regex.literal p) := by
    simp [patternOf, hp, Regex.parse_literal hliteral]
  have hupTo : ∀ limit, (upTo limit).result = .ok (rewritten (min limit occurrences)) := by
    intro limit
    simp only [upTo, rewritten, occurrences, Occurrences.replaceFirst_min]
    rw [replace_eq_replaceUpTo host verbose nullIsUnlimited hpattern rfl,
      replaceUpTo_literal host verbose hp hx hne hdisjoint]
  have hall : all.result = .ok (rewritten occurrences) := by
    simp only [all]
    rw [replace_eq_replaceAll host verbose hpattern rfl, replaceAll_literal host verbose hp hx]
  refine ⟨hupTo, hall, fun limit hle => ?_⟩
  rw [hupTo, hall, Nat.min_eq_right hle]

/-- Of the occurrences of `aa` in a run of four letters, only every second one counts. -/
theorem replace_literal_overlapping :
    ("aa" ≠ "" ∧ (∀ c ∈ "aa".toList, Regex.isLiteral c = true) ∧ "xy" ≠ "" ∧ '$' ∉ "xy".toList ∧
      ∀ c ∈ "xy".toList, c ∉ "aa".toList) ∧
    (replace (⟨fun _ _ st => (.ok .null, st)⟩ : Host Unit Unit) false true (.text "aaabaaaa")
      (.text "aa") (.text "xy") (.int (2 : Nat)) ()).result = .ok "xyabxyaa" := by
  have hliteral : ∀ c ∈ "aa".toList, Regex.isLiteral c = true := List.all_eq_true.1 (by decide)
  have hx : '$' ∉ "xy".toList := by decide
  have hdisjoint : ∀ c ∈ "xy".toList, c ∉ "aa".toList := by simp
  refine ⟨⟨by decide, hliteral, by decide, hx, hdisjoint⟩, ?_⟩
  have h := (replace_literal (⟨fun _ _ st => (.ok .null, st)⟩ : Host Unit Unit) false true
    "aaabaaaa" "aa" "xy" (by decide) hliteral (by decide) hx hdisjoint ()).1 2
  simp only [Occurrences.replaceFirst_min] at h
  exact h.trans rfl

end FindReplace
