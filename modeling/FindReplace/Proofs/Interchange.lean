import FindReplace.Proofs.Checks
import FindReplace.Proofs.Passes

/-!
# Ways to ask for the same work

A pattern may be given as a text or as what reading that text gives; a replacement as a text, as a
template, or as a host function that does the expansion itself. All of these come to the same text
and the same passes.

What makes this hold is that an expansion needs no more of a match than its record's object form
tells: the text of the match, and one text for each group, empty for a group that took no part. So
whoever has the object can expand a template as well as who has the match. Nothing is said here
about the calls made, which differ, or about the state that a host function leaves. The blocks of
verbose runs have limits of any length in them; a host that writes no integer of more than 4300
digits has no such blocks.
-/
namespace FindReplace
open Text (chars)

variable {κ σ : Type}

/-- The text of a match and the texts of its groups, as the object form of a record tells them. -/
def objectTexts? : Value κ → Option (String × List String)
  | .object fields => do
    let whole ← (← fields.lookup "match").text?
    match ← fields.lookup "groups" with
    | .list items => return (whole, ← items.mapM Value.text?)
    | _ => none
  | _ => none

/-- The expansion of a template from the object form of a record alone. There are as many groups as
the object lists, and group 0 is the match. -/
def expandObject (template : String) (object : Value κ) : Option String :=
  (objectTexts? object).map fun (whole, groups) =>
    Template.expand groups.length (fun n => (whole :: groups).getD n "") template

theorem mapM_text? (texts : List String) :
    (texts.map fun t => (Value.text t : Value κ)).mapM Value.text? = some texts := by
  induction texts with
  | nil => rfl
  | cons t texts ih => rw [List.map_cons, List.mapM_cons, ih]; rfl

theorem objectTexts?_toObject (record : MatchRecord) :
    objectTexts? (record.toObject : Value κ) = some (record.text, record.groupTexts) := by
  change (((record.groupTexts.map fun t => (Value.text t : Value κ)).mapM Value.text?).bind
    fun groups => some (record.text, groups)) = _
  rw [mapM_text?, Option.bind_some]

theorem getD_groupTexts (s : Array Char) (m : Regex.Match) (n : Nat) :
    ((MatchRecord.ofMatch s m).text :: (MatchRecord.ofMatch s m).groupTexts).getD n "" =
      m.groupText s n := by
  cases n with
  | zero => rfl
  | succ n =>
      rw [Regex.Match.groupText, Regex.Match.group?, Regex.Match.span?, if_neg (Nat.succ_ne_zero n),
        List.getD_cons_succ, Nat.add_sub_cancel, MatchRecord.groupTexts, MatchRecord.ofMatch,
        List.getD_eq_getElem?_getD, List.getElem?_map, List.getElem?_map, Array.getElem?_toList]
      by_cases hn : m.groups.size < n + 1
      · rw [if_pos hn, Array.getElem?_eq_none (Nat.le_of_lt_succ hn)]
        rfl
      · rw [if_neg hn, Array.getElem?_eq_getElem (by omega)]
        rfl

/-- The object form of its record is all that the expansion for a match needs. -/
theorem expandObject_toObject (template : String) (s : Array Char) (m : Regex.Match) :
    expandObject template ((MatchRecord.ofMatch s m).toObject : Value κ) =
      some (expandMatch template s m) := by
  have hlength : (MatchRecord.ofMatch s m).groupTexts.length = m.groups.size := by
    simp [MatchRecord.groupTexts, MatchRecord.ofMatch]
  have hgroup := funext (getD_groupTexts s m)
  rw [expandObject, objectTexts?_toObject, Option.map_some]
  dsimp only
  rw [hlength, hgroup, expandMatch]

/-- Called for any record, the host function `k` gives the expansion of the template `t` that can be
made from the record's object form. -/
def Host.Expands (host : Host κ σ) (k : κ) (t : String) : Prop :=
  ∀ record st, (host.call k record st).1 =
    .ok (.ofText? (expandObject t (record.toObject : Value κ)))

/-- Whatever the state, the substitute for a match is the text that `x` makes of it. -/
def Substitution.Gives (host : Host κ σ) (sub : Substitution κ)
    (x : Array Char → Regex.Match → String) : Prop :=
  ∀ s m st, (sub.apply host s m st).result = .ok (x s m)

theorem gives_template (host : Host κ σ) (t : String) :
    (Substitution.template t).Gives host (expandMatch t) := fun _ _ _ => rfl

theorem Host.Expands.gives {host : Host κ σ} {k : κ} {t : String} (h : host.Expands k t) :
    (Substitution.callback k).Gives host (expandMatch t) := by
  intro s m st
  have hcall := h (MatchRecord.ofMatch s m) st
  rw [expandObject_toObject] at hcall
  simp only [Substitution.apply, hcall]
  rfl

/-- The run succeeded with a text and printed these passes. -/
structure Outcome.Produces (o : Outcome σ) (after : String) (printed : List Pass) : Prop where
  result : o.result = .ok after
  printed : o.printed = printed

section
variable {host : Host κ σ} {x : Array Char → Regex.Match → String} {sub : Substitution κ}

theorem substitutes_gives (h : sub.Gives host x) (s : Array Char) (ms : List Regex.Match)
    (st : σ) :
    (substitutes host sub s ms st).result = .ok (ms.map fun m => (m, x s m)) := by
  induction ms generalizing st with
  | nil => rfl
  | cons m ms ih =>
      simp only [substitutes, h s m st, ih]
      rfl

theorem replaceAll_produces (host : Host κ σ) (x : Array Char → Regex.Match → String)
    (verbose : Bool) (r : Regex) (before : String) :
    ∃ after printed, ∀ sub : Substitution κ, sub.Gives host x → ∀ st,
      (replaceAll host verbose r sub before st).Produces after printed := by
  let s := chars before
  let after := splice s 0 ((r.matchList s).map fun m => (m, x s m))
  refine ⟨after, printedIf verbose ⟨r.source, .only, before, after⟩, fun sub h st => ?_⟩
  simp only [replaceAll, substitutes_gives h]
  exact ⟨rfl, rfl⟩

theorem replaceUpTo_produces (host : Host κ σ) (x : Array Char → Regex.Match → String)
    (verbose : Bool) (r : Regex) (limit left : Nat) (before : String) :
    ∃ after printed, ∀ sub : Substitution κ, sub.Gives host x → ∀ st,
      (replaceUpTo host verbose r sub limit left before st).Produces after printed := by
  induction left generalizing before with
  | zero => exact ⟨before, [], fun _ _ _ => ⟨rfl, rfl⟩⟩
  | succ left ih =>
      cases hm : r.find? (chars before) with
      | none =>
          refine ⟨before, [], fun sub _ st => ?_⟩
          rw [replaceUpTo_of_none hm]
          exact ⟨rfl, rfl⟩
      | some m =>
          let next := splice (chars before) 0 [(m, x (chars before) m)]
          obtain ⟨after, printed, later⟩ := ih next
          let entry : Pass := ⟨r.source, .ofLimit (limit - left) limit, before, next⟩
          refine ⟨after, printedIf verbose entry ++ printed, fun sub h st => ?_⟩
          rw [replaceUpTo_of_ok hm (h _ m st)]
          have run := later sub h (sub.apply host (chars before) m st).state
          exact ⟨run.result, congrArg (_ ++ ·) run.printed⟩

theorem Job.run_produces (host : Host κ σ) (x : Array Char → Regex.Match → String)
    (verbose : Bool) (subject : String) (r : Regex) (limit : Option Nat) :
    ∃ after printed, ∀ sub : Substitution κ, sub.Gives host x → ∀ st,
      ((⟨subject, r, sub, limit⟩ : Job κ).run host verbose st).Produces after printed := by
  cases limit with
  | none => exact replaceAll_produces host x verbose r subject
  | some n => exact replaceUpTo_produces host x verbose r n n subject

end

theorem Regex.source_of_parse [Text.CharacterNames] {p : String} {r : Regex}
    (h : Regex.parse p = .ok r) :
    r.source = p := by
  simp only [Regex.parse, Regex.parseWith, bind, Except.bind] at h
  split at h
  · cases h
  · split at h
    · cases h
    · split at h
      · cases h
      · cases h
        rfl

theorem patternOf_of_parse [Text.CharacterNames] {p : String} {r : Regex} (hp : p ≠ "")
    (h : Regex.parse p = .ok r) :
    ∀ pattern ∈ [.text p, .regex r], patternOf (pattern : Value κ) = .ok r := by
  simp [patternOf, hp, h, Regex.source_of_parse h]

/-- All ways of giving a pattern and a template come to the same text and the same passes, and two
matches whose records look the same as objects have the same expansion. -/
theorem replace_ways_agree [Text.CharacterNames] (host : Host κ σ)
    (verbose nullIsUnlimited : Bool) {p : String} {r : Regex} (hp : p ≠ "")
    (hr : Regex.parse p = .ok r) {k : κ} {t : String} (hk : host.Expands k t) (subject : String)
    {limit : Value κ} {l : Option Nat} (hl : limitOf nullIsUnlimited limit = .ok l) :
    (∃ after printed, ∀ pattern ∈ [.text p, .regex r],
      ∀ replacement ∈ [.text t, .template t, .callback k], ∀ st,
        (replace host verbose nullIsUnlimited (.text subject) pattern replacement limit st).Produces
          after printed) ∧
      ∀ (s s' : Array Char) (m m' : Regex.Match),
        (MatchRecord.ofMatch s m).toObject = ((MatchRecord.ofMatch s' m').toObject : Value κ) →
          expandMatch t s m = expandMatch t s' m' := by
  constructor
  · obtain ⟨after, printed, run⟩ :=
      Job.run_produces host (expandMatch t) verbose subject r l
    refine ⟨after, printed, fun pattern hpattern replacement hreplacement st => ?_⟩
    obtain ⟨sub, hsub, gives⟩ : ∃ sub, Substitution.ofValue replacement = .ok sub ∧
        sub.Gives host (expandMatch t) := by
      simp only [List.mem_cons, List.not_mem_nil, or_false] at hreplacement
      rcases hreplacement with rfl | rfl | rfl
      · exact ⟨_, rfl, gives_template host t⟩
      · exact ⟨_, rfl, gives_template host t⟩
      · exact ⟨_, rfl, hk.gives⟩
    have check : Job.check nullIsUnlimited (.text subject) pattern replacement limit =
        .ok ⟨subject, r, sub, l⟩ :=
      Job.check_eq_ok.2 ⟨rfl, patternOf_of_parse hp hr pattern hpattern, hsub, hl⟩
    simp only [replace, check]
    exact run sub gives st
  · intro s s' m m' hsame
    have h := congrArg (expandObject t) hsame
    rw [expandObject_toObject, expandObject_toObject] at h
    exact Option.some.inj h

def expanding (t : String) : Host Unit Nat where
  call _ record made := (.ok (.ofText? (expandObject t (record.toObject : Value Unit))), made + 1)

/-- The group takes no part in the first of the two matches. -/
theorem replace_ways_agree_alternatives :
    let letter (n : Nat) : Regex.Node := .seq (.test (.one n false ⟨false, false⟩)) .empty
    let r : Regex := ⟨"(b)|a", .alt (.seq (.capture 1 (letter 98)) .empty) (letter 97), 1, []⟩
    let limit : Value Unit := .int (2 : Nat)
    ("(b)|a" ≠ "" ∧ Regex.parse "(b)|a" = .ok r ∧ (expanding "<$1>").Expands () "<$1>" ∧
      limitOf true limit = .ok (some 2)) ∧
    ∀ pattern ∈ [.text "(b)|a", .regex r],
      ∀ replacement ∈ [.text "<$1>", .template "<$1>", .callback ()], ∀ st,
        (replace (expanding "<$1>") true true (.text "ab") pattern replacement limit st).result =
          .ok "<><b>" := by
  intro letter r limit
  have hp : "(b)|a" ≠ "" := by decide
  have hr : Regex.parse "(b)|a" = .ok r := rfl
  have hk : (expanding "<$1>").Expands () "<$1>" := fun _ _ => rfl
  have hl : limitOf true limit = .ok (some 2) := rfl
  refine ⟨⟨hp, hr, hk, hl⟩, fun pattern hpattern replacement hreplacement st => ?_⟩
  obtain ⟨after, printed, produces⟩ :=
    (replace_ways_agree (expanding "<$1>") true true hp hr hk "ab" hl).1
  have hrun : (replace (expanding "<$1>") true true (.text "ab") (.text "(b)|a") (.text "<$1>")
      limit 0).result.toOption = some "<><b>" := by decide +kernel
  rw [(produces (.text "(b)|a") (by simp) (.text "<$1>") (by simp) 0).result] at hrun
  rw [(produces pattern hpattern replacement hreplacement st).result, Option.some.inj hrun]

end FindReplace
