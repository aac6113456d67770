import FindReplace.Proofs.Passes
import FindReplace.Proofs.TemplateReading

/-!
# Where the characters of a result come from

With a template, a bounded run puts no character into its result that is not in the subject or in
the template. A group has characters of the text that is searched, and that text is the subject or
what an earlier pass made of it, so what holds of all characters of both holds after every pass.

Host functions can put in anything, and nothing is said about them.
-/
namespace FindReplace
open Text (chars slice)

variable {κ σ : Type} {P : Char → Prop}

/-- All characters of a text have the property `P`. -/
def Over (P : Char → Prop) (s : String) : Prop := ∀ c ∈ s.toList, P c

theorem Over.empty : Over P "" := by
  intro c hc
  cases hc

theorem Over.append {a b : String} (ha : Over P a) (hb : Over P b) : Over P (a ++ b) := by
  intro c hc
  rw [String.toList_append, List.mem_append] at hc
  exact hc.elim (ha c) (hb c)

theorem Over.slice {s : String} (h : Over P s) (i j : Nat) : Over P (slice (chars s) i j) := by
  intro c hc
  rw [Text.slice_eq_take_drop, String.toList_ofList] at hc
  exact h c (List.mem_of_mem_drop (List.mem_of_mem_take hc))

theorem Over.groupText {s : String} (h : Over P s) (m : Regex.Match) (n : Nat) :
    Over P (m.groupText (chars s) n) := by
  unfold Regex.Match.groupText Regex.Match.group?
  split
  · exact .empty
  · cases m.span? n with
    | none => exact .empty
    | some v => exact h.slice v.start v.stop

theorem Template.Reads.mem_of_char {count : Nat} {template : List Char} {said : List Said}
    (h : Reads count template said) {c : Char} (hc : .char c ∈ said) : c ∈ template := by
  induction h with
  | done => cases hc
  | pair _ ih =>
      rcases List.mem_cons.1 hc with heq | hc
      · cases heq
        exact List.mem_cons_self
      · exact List.mem_cons_of_mem _ (List.mem_cons_of_mem _ (ih hc))
  | @reference kept back rest said _ _ _ _ _ ih =>
      rw [List.mem_cons, List.mem_append, List.mem_map] at hc
      rw [List.mem_cons, List.mem_append, List.mem_append]
      rcases hc with heq | ⟨d, hd, heq⟩ | hc
      · cases heq
      · cases heq
        exact .inr (.inl (.inr hd))
      · exact .inr (.inr (ih hc))
  | self _ _ ih =>
      rcases List.mem_cons.1 hc with heq | hc
      · cases heq
        exact List.mem_cons_self
      · exact List.mem_cons_of_mem _ (ih hc)

theorem Over.expandMatch {s template : String} (hs : Over P s) (htemplate : Over P template)
    (m : Regex.Match) : Over P (expandMatch template (chars s) m) := by
  intro c hc
  rw [FindReplace.expandMatch, Template.expand, String.toList_ofList,
    Template.expandChars_eq_reading, List.mem_flatMap] at hc
  obtain ⟨said, hsaid, hc⟩ := hc
  cases said with
  | char d =>
      cases List.mem_singleton.1 hc
      exact htemplate c ((Template.reads_reading _ _).mem_of_char hsaid)
  | group n => exact hs.groupText m n c hc

theorem Over.splice {s x : String} (hs : Over P s) (hx : Over P x) (m : Regex.Match) :
    Over P (splice (chars s) 0 [(m, x)]) := by
  rw [splice_single]
  exact ((hs.slice _ _).append hx).append (hs.slice _ _)

/-- What holds of all characters of the subject and the template holds of all of the result. -/
theorem Over.replaceUpTo {before after template : String} (hbefore : Over P before)
    (htemplate : Over P template) {host : Host κ σ} {verbose : Bool} {r : Regex}
    {limit left : Nat} {st : σ}
    (h : (replaceUpTo host verbose r (.template template) limit left before st).result =
      .ok after) : Over P after := by
  induction left generalizing before st with
  | zero =>
      cases h
      exact hbefore
  | succ left ih =>
      cases hm : r.find? (chars before) with
      | none =>
          rw [replaceUpTo_of_none hm] at h
          cases h
          exact hbefore
      | some m =>
          rw [replaceUpTo_of_ok hm rfl] at h
          exact ih (hbefore.splice (hbefore.expandMatch htemplate m) m) h

end FindReplace
