import FindReplace.Proofs.Calls
import FindReplace.Proofs.Interchange
import FindReplace.Proofs.Matches
import FindReplace.Proofs.Printing
import FindReplace.Proofs.TemplateParts

/-!
# Replacing matches by themselves

Putting the text of each match in its place leaves a text as it is. Without a limit this is because
matches and the parts between them make up the subject, whatever the pattern and however many of its
matches are empty. With a limit each pass leaves the subject to the next one, which then finds the
same first match. So such a run makes no pass at all, or as many as the limit allows.

The template `$0` gives the text of a match, as does a host function that gives back the text of the
record. What such a function does to its state is not said.
-/
namespace FindReplace
open Text (chars slice)

variable {κ σ : Type}

theorem expandMatch_zero (s : Array Char) (m : Regex.Match) : expandMatch "$0" s m = m.text s := by
  have hdigit : Template.referenceDigits m.groups.size ['0'] = ['0'] := by
    obtain ⟨n, hn⟩ := Nat.exists_eq_succ_of_ne_zero
      (Nat.ne_of_gt (Template.digitCount_pos m.groups.size))
    simp [Template.referenceDigits, hn]
  have hgroup : m.groupText s 0 = m.text s := rfl
  have hpieces : Template.pieces "$0".toList = [.reference ['0']] := by
    rw [show "$0".toList = ['$', '0'] from rfl, Template.pieces_reference [] rfl]
    simp
  have hnumber : Text.numeral 10 ['0'] = 0 := rfl
  rw [expandMatch, Template.expand, Template.expandChars, hpieces]
  simp [Template.Piece.expand, hdigit, hnumber, hgroup]

/-- Called for any record, the host function `k` gives back its text. -/
def Host.Echoes (host : Host κ σ) (k : κ) : Prop :=
  ∀ record st, (host.call k record st).1 = .ok (.text record.text)

/-- Replacements that put the text of each match in its place. -/
inductive Restores (host : Host κ σ) : Value κ → Prop
  | text : Restores host (.text "$0")
  | template : Restores host (.template "$0")
  | callback {k : κ} : host.Echoes k → Restores host (.callback k)

theorem Host.Echoes.gives {host : Host κ σ} {k : κ} (h : host.Echoes k) :
    (Substitution.callback k).Gives host fun s m => m.text s := by
  intro s m st
  have hcall := h (MatchRecord.ofMatch s m) st
  simp only [Substitution.apply, hcall]
  rfl

theorem gives_template_zero (host : Host κ σ) :
    (Substitution.template "$0").Gives host fun s m => m.text s := by
  intro s m st
  rw [gives_template host "$0" s m st, expandMatch_zero]

theorem Restores.exists_gives {host : Host κ σ} {replacement : Value κ}
    (h : Restores host replacement) :
    ∃ sub, Substitution.ofValue replacement = .ok sub ∧ sub.Gives host fun s m => m.text s := by
  cases h with
  | text => exact ⟨_, rfl, gives_template_zero host⟩
  | template => exact ⟨_, rfl, gives_template_zero host⟩
  | callback hk => exact ⟨_, rfl, hk.gives⟩

section splice
variable {re : Regex} {text : Array Char} {start : Nat} {advance : Bool}

/-- Matches with their own texts in their places are no change. -/
theorem splice_text {ms : List Regex.Match} (h : Regex.Spaced re text start advance ms) :
    splice text start (ms.map fun m => (m, m.text text)) = slice text start text.size := by
  induction h with
  | nil start advance => rfl
  | cons found _ ih => rw [List.map_cons, splice, ih, found.cut]

theorem splice_first {s : String} {m : Regex.Match} (h : re.find? (chars s) = some m) :
    splice (chars s) 0 [(m, m.text (chars s))] = s := by
  rw [splice_single, (Regex.find?_found h).cut, Text.slice_all]

end splice

/-- The outcome of `n` passes from the text `s`, numbered from `number` on. Each of them replaced the
same match and left the same text. -/
structure Repeats (host : Host κ σ) (verbose : Bool) (r : Regex) (sub : Substitution κ)
    (limit number n : Nat) (s : String) (m : Regex.Match) (st : σ) (o : Outcome σ) : Prop where
  result : o.result = .ok s
  passes : Substituted host r sub s st (List.replicate n s) o.calls s o.state
  calls : o.calls = (List.replicate n (sub.callsFor (chars s) m)).flatten
  printed : o.printed =
    if verbose then blocks r.source limit number s (List.replicate n s) else []

section
variable {host : Host κ σ} {verbose : Bool} {r : Regex} {sub : Substitution κ}
variable {limit left number : Nat} {s : String} {m : Regex.Match} {st : σ} {o : Outcome σ}

theorem Repeats.pass (hgives : sub.Gives host fun s m => m.text s)
    (hm : r.find? (chars s) = some m)
    (h : Repeats host verbose r sub limit (number + 1) left s m
      (sub.apply host (chars s) m st).state o) :
    Repeats host verbose r sub limit number (left + 1) s m st
      (o.after (sub.apply host (chars s) m st).calls
        (printedIf verbose ⟨r.source, .ofLimit number limit, s, s⟩)) := by
  have hpasses : Substituted host r sub (splice (chars s) 0 [(m, m.text (chars s))])
      (sub.apply host (chars s) m st).state (List.replicate left s) o.calls s o.state := by
    rw [splice_first hm]
    exact h.passes
  have hpass := Substituted.pass hm (hgives (chars s) m st) hpasses
  rw [splice_first hm] at hpass
  refine ⟨h.result, hpass, ?_, ?_⟩
  · simp only [Outcome.after, h.calls, sub.calls_apply, List.replicate_succ, List.flatten_cons]
  · simp only [Outcome.after, h.printed]
    cases verbose <;> rfl

theorem replaceUpTo_repeats (hgives : sub.Gives host fun s m => m.text s)
    (hm : r.find? (chars s) = some m) (hleft : left ≤ limit) (st : σ) :
    Repeats host verbose r sub limit (limit - left + 1) left s m st
      (replaceUpTo host verbose r sub limit left s st) := by
  induction left generalizing st with
  | zero =>
      refine ⟨rfl, .done s st, rfl, ?_⟩
      cases verbose <;> rfl
  | succ left ih =>
      have hnumber : limit - (left + 1) + 1 = limit - left := by omega
      rw [replaceUpTo_of_ok hm (hgives (chars s) m st), splice_first hm, hnumber]
      apply Repeats.pass hgives hm
      exact ih (by omega) _

end

/-- Calls that replace matches by themselves give the subject back, with any limit and without one.
A bounded run finds no match and makes no pass, or it makes all its passes at one match. -/
theorem replace_restores [Text.CharacterNames] (host : Host κ σ) (verbose nullIsUnlimited : Bool)
    {r : Regex} {pattern replacement limit : Value κ} {l : Option Nat}
    (hr : patternOf pattern = .ok r) (hrestores : Restores host replacement)
    (hl : limitOf nullIsUnlimited limit = .ok l) (s : String) (st : σ) :
    let o := replace host verbose nullIsUnlimited (.text s) pattern replacement limit st
    o.result = .ok s ∧
      ∀ n, l = some n → (r.find? (chars s) = none → o = .done s st) ∧
        ∀ m, r.find? (chars s) = some m → ∃ sub, Substitution.ofValue replacement = .ok sub ∧
          Repeats host verbose r sub n 1 n s m st o := by
  intro o
  obtain ⟨sub, hsub, hgives⟩ := hrestores.exists_gives
  have hcheck : Job.check nullIsUnlimited (.text s) pattern replacement limit =
      .ok ⟨s, r, sub, l⟩ := Job.check_eq_ok.2 ⟨rfl, hr, hsub, hl⟩
  have hrun : o = (⟨s, r, sub, l⟩ : Job κ).run host verbose st := by
    simp only [o, replace, hcheck]
  cases l with
  | none =>
      constructor
      · have hspliced := splice_text (Regex.matchList_spaced r (chars s))
        simp only [hrun, Job.run, replaceAll, substitutes_gives hgives, hspliced, Text.slice_all]
      · intro n hn
        cases hn
  | some n =>
      have hbounded : o = replaceUpTo host verbose r sub n n s st := hrun
      cases hm : r.find? (chars s) with
      | none =>
          rw [replaceUpTo_of_none hm] at hbounded
          rw [hbounded]
          constructor
          · rfl
          · intro n' _
            constructor
            · intro _
              rfl
            · intro m hm
              cases hm
      | some m =>
          have hrepeats : Repeats host verbose r sub n (n - n + 1) n s m st
              (replaceUpTo host verbose r sub n n s st) :=
            replaceUpTo_repeats hgives hm (Nat.le_refl n) st
          rw [Nat.sub_self, Nat.zero_add, ← hbounded] at hrepeats
          constructor
          · exact hrepeats.result
          · intro n' hn
            cases hn
            constructor
            · intro hnone
              cases hnone
            · intro m' hm'
              cases hm'
              exact ⟨sub, hsub, hrepeats⟩

def restoring : Host Unit Nat where
  call _ record made := (.ok (.text record.text), made + 1)

/-- An empty match, found three times at one place. Its group takes no part in it. -/
theorem replace_restores_optional :
    let r : Regex := ⟨"(b)?", .seq (.repetition .greedy 0 (some 1) (.capture 1
      (.seq (.test (.one 98 false ⟨false, false⟩)) .empty))) .empty, 1, []⟩
    let limit : Value Unit := .int (3 : Nat)
    let o := replace restoring true true (.text "ab") (.text "(b)?") (.callback ()) limit 0
    (patternOf (.text "(b)?" : Value Unit) = .ok r ∧
      Restores restoring (.callback () : Value Unit) ∧ limitOf true limit = .ok (some 3)) ∧
    o.result = .ok "ab" ∧ o.calls = List.replicate 3 ⟨"", 0, [none]⟩ ∧
      o.printed = blocks "(b)?" 3 1 "ab" ["ab", "ab", "ab"] := by
  intro r limit o
  have hr : patternOf (.text "(b)?" : Value Unit) = .ok r := rfl
  have hrestores : Restores restoring (.callback () : Value Unit) := .callback fun _ _ => rfl
  have hl : limitOf true limit = .ok (some 3) := rfl
  have hm : r.find? (chars "ab") = some ⟨0, 0, #[none]⟩ := rfl
  obtain ⟨hresult, hbounded⟩ := replace_restores restoring true true hr hrestores hl "ab" 0
  obtain ⟨sub, hsub, hrepeats⟩ := (hbounded 3 rfl).2 _ hm
  cases hsub
  exact ⟨⟨hr, hrestores, hl⟩, hresult, hrepeats.calls, hrepeats.printed⟩

end FindReplace
