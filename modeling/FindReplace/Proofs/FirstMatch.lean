import FindReplace.Proofs.Calls
import FindReplace.Proofs.Checks
import FindReplace.Proofs.Matches
import FindReplace.Proofs.Passes

/-!
# The first match, with a limit and without

A run with the limit 1 and a run without a limit go different ways, but they find the same match
first, and they make its substitute of the same record and from the same state of the host. So the
results agree up to the end of that substitute. Behind it the bounded run leaves the subject as it
is; the other goes on, and if it finds no more both have the same result.

Later matches are another matter: a further pass of a bounded run searches what the first one put in.
-/
namespace FindReplace
open Text (chars slice)

variable {κ σ : Type}

namespace Regex
variable {re : Regex} {text : Array Char} {m : Match}

theorem matchList_of_find?_none (h : re.find? text = none) : re.matchList text = [] := by
  have hfind : re.findFrom text 0 false = none := h
  rw [matchList, matchesFrom_eq (Nat.zero_le _), hfind]

theorem matchList_of_find?_some (h : re.find? text = some m) :
    re.matchList text = m :: re.matchesFrom text m.stop (m.start == m.stop) := by
  have hfind : re.findFrom text 0 false = some m := h
  rw [matchList, matchesFrom_eq (Nat.zero_le _), hfind]

theorem head?_records {s : String} (h : re.find? (chars s) = some m) :
    (re.records s).head? = some (MatchRecord.ofMatch (chars s) m) := by
  rw [records, matchList_of_find?_some h]
  rfl

end Regex

section
variable {host : Host κ σ} {verbose : Bool} {r : Regex} {sub : Substitution κ} {limit : Nat}
variable {s after : String} {m : Regex.Match} {ms : List Regex.Match} {st : σ}

theorem substitutes_cons_ok {text : Array Char} {pairs : List (Regex.Match × String)}
    (h : (substitutes host sub text (m :: ms) st).result = .ok pairs) :
    ∃ x rest, (sub.apply host text m st).result = .ok x ∧ pairs = (m, x) :: rest ∧
      (substitutes host sub text ms (sub.apply host text m st).state).result = .ok rest ∧
      sub.callsFor text m <+: (substitutes host sub text (m :: ms) st).calls := by
  cases hx : (sub.apply host text m st).result with
  | error f => simp [substitutes, hx] at h
  | ok x =>
      simp only [substitutes, hx] at h ⊢
      cases hrest : (substitutes host sub text ms (sub.apply host text m st).state).result with
      | error f => simp [hrest, Except.map] at h
      | ok rest =>
          rw [hrest] at h
          refine ⟨x, rest, rfl, (Except.ok.inj h).symm, rfl, ?_⟩
          rw [Substitution.calls_apply]
          exact List.prefix_append _ _

theorem replaceUpTo_one (hm : r.find? (chars s) = some m)
    (h : (replaceUpTo host verbose r sub limit 1 s st).result = .ok after) :
    (replaceUpTo host verbose r sub limit 1 s st).calls = sub.callsFor (chars s) m ∧
      ∃ x, (sub.apply host (chars s) m st).result = .ok x ∧
        after = slice (chars s) 0 m.start ++ x ++ slice (chars s) m.stop (chars s).size := by
  cases hx : (sub.apply host (chars s) m st).result with
  | error f =>
      rw [replaceUpTo_of_error hm hx] at h
      cases h
  | ok x =>
      rw [replaceUpTo_of_ok hm hx] at h ⊢
      constructor
      · rw [← sub.calls_apply host (chars s) m st]
        exact List.append_nil _
      · refine ⟨x, rfl, ?_⟩
        rw [← splice_single]
        exact (Except.ok.inj h).symm

/-- One pass over all matches replaces the first one, and leaves what is behind it if there is no
other. -/
theorem replaceAll_first (hm : r.find? (chars s) = some m)
    (h : (replaceAll host verbose r sub s st).result = .ok after) :
    sub.callsFor (chars s) m <+: (replaceAll host verbose r sub s st).calls ∧
      ∃ x u, (sub.apply host (chars s) m st).result = .ok x ∧
        after = slice (chars s) 0 m.start ++ x ++ u ∧
        ((r.records s).length = 1 → u = slice (chars s) m.stop (chars s).size) := by
  have hlist := Regex.matchList_of_find?_some hm
  cases hxs : (substitutes host sub (chars s) (r.matchList (chars s)) st).result with
  | error f =>
      simp only [replaceAll, hxs] at h
      cases h
  | ok pairs =>
      simp only [replaceAll, hxs] at h ⊢
      rw [hlist] at hxs ⊢
      obtain ⟨x, rest, hx, rfl, hrest, hcalls⟩ := substitutes_cons_ok hxs
      refine ⟨hcalls, x, splice (chars s) m.stop rest, hx, (Except.ok.inj h).symm, fun hone => ?_⟩
      have hnil : r.matchesFrom (chars s) m.stop (m.start == m.stop) = [] := by
        rw [Regex.records, List.length_map, hlist, List.length_cons] at hone
        exact List.eq_nil_of_length_eq_zero (Nat.succ.inj hone)
      rw [hnil] at hrest
      cases hrest
      rfl

end

/-- A call with the limit 1 and one without a limit, both of which succeed. Either there is no match
and both give the subject, or both replace the first one by the same text; they give the same if
there is no other. -/
theorem replace_first_agrees [Text.CharacterNames] (host : Host κ σ)
    (verbose verbose' nullIsUnlimited : Bool) {r : Regex} {sub : Substitution κ}
    {pattern replacement limit : Value κ} (hr : patternOf pattern = .ok r)
    (hsub : Substitution.ofValue replacement = .ok sub)
    (hl : limitOf nullIsUnlimited limit = .ok (some 1)) {s one all : String} {st : σ}
    (hone : (replace host verbose nullIsUnlimited (.text s) pattern replacement limit st).result =
      .ok one)
    (hall : (replace host verbose' true (.text s) pattern replacement .null st).result = .ok all) :
    (r.find? (chars s) = none → one = s ∧ all = s) ∧
      ∀ m, r.find? (chars s) = some m →
        (r.records s).head? = some (MatchRecord.ofMatch (chars s) m) ∧
        (replace host verbose nullIsUnlimited (.text s) pattern replacement limit st).calls =
          sub.callsFor (chars s) m ∧
        sub.callsFor (chars s) m <+:
          (replace host verbose' true (.text s) pattern replacement .null st).calls ∧
        ∃ a x b u, s = a ++ m.text (chars s) ++ b ∧ a.length = m.start ∧
          (sub.apply host (chars s) m st).result = .ok x ∧
          one = a ++ x ++ b ∧ all = a ++ x ++ u ∧ ((r.records s).length = 1 → one = all) := by
  have hcheck : Job.check nullIsUnlimited (.text s) pattern replacement limit =
      .ok ⟨s, r, sub, some 1⟩ := Job.check_eq_ok.2 ⟨rfl, hr, hsub, hl⟩
  have hbounded : replace host verbose nullIsUnlimited (.text s) pattern replacement limit st =
      replaceUpTo host verbose r sub 1 1 s st := by simp only [replace, hcheck, Job.run]
  rw [replace_eq_replaceAll host verbose' hr hsub] at hall ⊢
  rw [hbounded] at hone ⊢
  constructor
  · intro hnone
    rw [replaceUpTo_of_none hnone] at hone
    constructor
    · exact (Except.ok.inj hone).symm
    · simp only [replaceAll, Regex.matchList_of_find?_none hnone, substitutes, splice,
        Text.slice_all] at hall
      exact (Except.ok.inj hall).symm
  · intro m hm
    obtain ⟨hcalls, x, hx, htext⟩ := replaceUpTo_one hm hone
    obtain ⟨hbegins, x', u, hx', htext', hsame⟩ := replaceAll_first hm hall
    obtain rfl : x = x' := Except.ok.inj (hx.symm.trans hx')
    have hfound := Regex.find?_found hm
    refine ⟨Regex.head?_records hm, hcalls, hbegins, slice (chars s) 0 m.start, x,
      slice (chars s) m.stop (chars s).size, u, ?_, hfound.length_before, hx, htext, htext', ?_⟩
    · rw [hfound.cut, Text.slice_all]
    · intro hcount
      rw [htext, htext', hsame hcount]

def numbering : Host Unit Nat where
  call _ _ made := (.ok (.text (toString made)), made + 1)

/-- The second match is replaced only without a limit. -/
theorem replace_first_agrees_numbering :
    let r : Regex := ⟨"b", .seq (.test (.one 98 false ⟨false, false⟩)) .empty, 0, []⟩
    let limit : Value Unit := .int (1 : Nat)
    let run (limit : Value Unit) :=
      replace numbering false true (.text "abcb") (.text "b") (.callback ()) limit 0
    (patternOf (.text "b" : Value Unit) = .ok r ∧
      Substitution.ofValue (.callback () : Value Unit) = .ok (.callback ()) ∧
      limitOf true limit = .ok (some 1) ∧ (run limit).result = .ok "a0cb" ∧
      (run .null).result = .ok "a0c1") ∧
    (run limit).calls = [⟨"b", 1, []⟩] ∧ [⟨"b", 1, []⟩] <+: (run .null).calls ∧
      ∃ a x b u, "abcb" = a ++ "b" ++ b ∧ "a0cb" = a ++ x ++ b ∧ "a0c1" = a ++ x ++ u := by
  intro r limit run
  have hr : patternOf (.text "b" : Value Unit) = .ok r := rfl
  have hsub : Substitution.ofValue (.callback () : Value Unit) = .ok (.callback ()) := rfl
  have hl : limitOf true limit = .ok (some 1) := rfl
  have hone : (run limit).result = .ok "a0cb" := rfl
  have hall : (run .null).result = .ok "a0c1" := by
    have hsome : (run .null).result.toOption = some "a0c1" := by decide +kernel
    cases hresult : (run .null).result with
    | error f =>
        rw [hresult] at hsome
        cases hsome
    | ok after =>
        rw [hresult] at hsome
        exact congrArg _ (Option.some.inj hsome)
  have hm : r.find? (chars "abcb") = some ⟨1, 2, #[]⟩ := rfl
  obtain ⟨-, hfirst⟩ := replace_first_agrees numbering false false true hr hsub hl hone hall
  obtain ⟨-, hcalls, hbegins, a, x, b, u, hs, -, -, htext, htext', -⟩ := hfirst _ hm
  exact ⟨⟨hr, hsub, hl, hone, hall⟩, hcalls, hbegins, a, x, b, u, hs, htext, htext'⟩

end FindReplace
