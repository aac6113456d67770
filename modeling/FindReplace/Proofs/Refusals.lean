import FindReplace.Proofs.ExactValues
import FindReplace.Proofs.Passes
import FindReplace.Proofs.References
import FindReplace.Proofs.SinglePass

/-!
# What is refused, and what can fail after that

The arguments are looked at from left to right, and the first that is refused settles the call: its
fault is the outcome, before any host function is called and anything is printed. `FirstRefused`
says of every argument what it is refused for, in terms of the argument alone, and the class and the
code of the error.

If none is refused, only a host function can make the call fail, by a failure of its own or by the
first result that is no text. A template never does: `Template.Legible` says that the number of each
of its references can be read, however many digits follow the dollar sign.
-/
namespace FindReplace

variable {κ σ : Type}

def Fault.label? (f : Fault) : Option (ErrorClass × String) :=
  f.evaluation?.map fun e => (e.cls, e.code)

/-- Why a pattern argument is refused. A text is refused for what is found in reading it. -/
inductive PatternRefused [Text.CharacterNames] :
    Value κ → Fault → Option (ErrorClass × String) → Prop
  | notText {v : Value κ} : (∀ s, v ≠ .text s) → (∀ r, v ≠ .regex r) →
      PatternRefused v (.cause .patternNotText) (some (.patternType, "T0410"))
  | emptyText :
      PatternRefused (.text "") (.cause .patternEmpty) (some (.emptyPattern, "D3010"))
  | emptyRegex {r : Regex} : r.source = "" →
      PatternRefused (.regex r) (.cause .patternEmpty) (some (.emptyPattern, "D3010"))
  | flaw {s : String} {flaw : Regex.Flaw} {position : Option Nat} : s ≠ "" →
      Regex.parse s = .error (.flaw flaw position) →
      PatternRefused (.text s) (.cause (.patternInvalid s flaw position))
        (some (.invalidPattern, "S0302"))
  | limit {s : String} {l : Regex.Limit} : s ≠ "" → Regex.parse s = .error (.limit l) →
      PatternRefused (.text s) (.regexLimit l) none

/-- A replacement is neither a text nor a template nor a host function. -/
structure ReplacementRefused (v : Value κ) : Prop where
  notText : ∀ t, v ≠ .text t
  notTemplate : ∀ t, v ≠ .template t
  notCallback : ∀ k, v ≠ .callback k

/-- A limit is no number with the value of a natural number, nor null that stands for no limit. -/
structure LimitRefused (nullIsUnlimited : Bool) (v : Value κ) : Prop where
  notUnlimited : v = .null → nullIsUnlimited = false
  notNatural : ∀ n : Nat, v.number? ≠ some (n : ℚ)

/-- The fault of the first argument that is refused, with its class and its code. -/
inductive FirstRefused [Text.CharacterNames] (nullIsUnlimited : Bool)
    (subject pattern replacement limit : Value κ) :
    Fault → Option (ErrorClass × String) → Prop
  | subject : (∀ s, subject ≠ .text s) →
      FirstRefused nullIsUnlimited subject pattern replacement limit (.cause .subjectNotText)
        (some (.subjectType, "T0410"))
  | pattern {s : String} {f : Fault} {label : Option (ErrorClass × String)} : subject = .text s →
      PatternRefused pattern f label →
      FirstRefused nullIsUnlimited subject pattern replacement limit f label
  | replacement {s : String} : subject = .text s →
      (¬∃ f label, PatternRefused pattern f label) → ReplacementRefused replacement →
      FirstRefused nullIsUnlimited subject pattern replacement limit (.cause .replacementUnusable)
        (some (.replacementType, "T0410"))
  | limit {s : String} : subject = .text s → (¬∃ f label, PatternRefused pattern f label) →
      ¬ReplacementRefused replacement → LimitRefused nullIsUnlimited limit →
      FirstRefused nullIsUnlimited subject pattern replacement limit (.cause .limitUnusable)
        (some (.limitType, "D3011"))

inductive Host.Fails (host : Host κ σ) (k : κ) (record : MatchRecord) (st : σ) :
    Fault → Option (ErrorClass × String) → Prop
  | raised {f : Fault} : (host.call k record st).1 = .error f → Fails host k record st f f.label?
  | notText {v : Value κ} : (host.call k record st).1 = .ok v → (∀ s, v ≠ .text s) →
      Fails host k record st (.cause (.resultNotText v.typeName)) (some (.replacementType, "D3012"))

/-- How a run that calls the host function `k` ends: every call gave a text, or the last call is the
first that gave none. -/
inductive Host.Ends (host : Host κ σ) (k : κ) (st : σ) (o : Outcome σ) : Prop
  | all (log : List (MatchRecord × String)) (after : String) : host.Replies k st log o.state →
      o.calls = log.map Prod.fst → o.result = .ok after → Ends host k st o
  | failed (log : List (MatchRecord × String)) (record : MatchRecord) (st' : σ) (f : Fault) :
      host.Replies k st log st' → host.Fails k record st' f f.label? → o.result = .error f →
      o.calls = log.map Prod.fst ++ [record] → o.state = (host.call k record st').2 →
      Ends host k st o

/-- How a call whose arguments pass ends, by its replacement. -/
inductive Completes (host : Host κ σ) (st : σ) (o : Outcome σ) : Value κ → Prop
  | text (t after : String) : Template.Legible t → o.result = .ok after → o.calls = [] →
      o.state = st → Completes host st o (.text t)
  | template (t after : String) : Template.Legible t → o.result = .ok after → o.calls = [] →
      o.state = st → Completes host st o (.template t)
  | callback (k : κ) : host.Ends k st o → Completes host st o (.callback k)

section refusals
variable {nullIsUnlimited : Bool} {subject pattern replacement limit v : Value κ} {f : Fault}
variable {label : Option (ErrorClass × String)}

theorem PatternRefused.patternOf_eq [Text.CharacterNames] (h : PatternRefused v f label) :
    patternOf v = .error f ∧ f.label? = label := by
  cases h with
  | notText htext hregex =>
      refine ⟨?_, rfl⟩
      unfold patternOf
      split <;> simp_all
  | emptyText => exact ⟨rfl, rfl⟩
  | emptyRegex hr => exact ⟨by simp [patternOf, hr], rfl⟩
  | flaw hs hparse => exact ⟨by simp [patternOf, hs, hparse], rfl⟩
  | limit hs hparse => exact ⟨by simp [patternOf, hs, hparse], rfl⟩

theorem patternRefused_of_error [Text.CharacterNames] (h : patternOf v = .error f) :
    ∃ label, PatternRefused v f label := by
  unfold patternOf at h
  split at h
  · next r =>
      split at h
      · next hr => cases h; exact ⟨_, .emptyRegex (String.isEmpty_iff.1 hr)⟩
      · cases h
  · next s =>
      split at h
      · next hs =>
          cases h
          rw [String.isEmpty_iff] at hs
          subst hs
          exact ⟨_, .emptyText⟩
      · next hs =>
          have hne : s ≠ "" := fun heq => hs (String.isEmpty_iff.2 heq)
          split at h
          · cases h
          · next hparse => cases h; exact ⟨_, .flaw hne hparse⟩
          · next hparse => cases h; exact ⟨_, .limit hne hparse⟩
  · next hregex htext => cases h; exact ⟨_, .notText htext hregex⟩

theorem ofValue_eq_error : Substitution.ofValue v = .error f ↔
    f = .cause .replacementUnusable ∧ ReplacementRefused v := by
  constructor
  · intro h
    unfold Substitution.ofValue at h
    split at h
    · cases h
    · cases h
    · cases h
    · next htemplate htext hcallback =>
        cases h
        exact ⟨rfl, htext, htemplate, hcallback⟩
  · rintro ⟨rfl, htext, htemplate, hcallback⟩
    unfold Substitution.ofValue
    split <;> simp_all

theorem limitOf_eq_error : limitOf nullIsUnlimited v = .error f ↔
    f = .cause .limitUnusable ∧ LimitRefused nullIsUnlimited v := by
  have hnumber : ∀ n : Nat, v.integer? = some (.ofNat n) ↔ v.number? = some (n : ℚ) := fun n =>
    Value.integer?_eq_some_iff
  unfold limitOf
  split
  · exact ⟨nofun, fun h => absurd (h.2.notUnlimited rfl) (by decide)⟩
  · next hnull =>
      split
      · next n hn => exact ⟨nofun, fun h => absurd ((hnumber n).1 hn) (h.2.notNatural n)⟩
      · next hnat =>
          refine ⟨fun h => ⟨(Except.error.inj h).symm, fun hv => ?_, fun n hn => ?_⟩,
            fun h => h.1 ▸ rfl⟩
          · rw [← Bool.not_eq_true]
            exact fun htrue => hnull hv htrue
          · exact hnat n ((hnumber n).2 hn)

theorem accepted_of_not_patternRefused [Text.CharacterNames]
    (h : ¬∃ f label, PatternRefused v f label) :
    ∃ r, patternOf v = .ok r := by
  cases hv : patternOf v with
  | error f => exact absurd ⟨f, patternRefused_of_error hv⟩ h
  | ok r => exact ⟨r, rfl⟩

theorem accepted_of_not_replacementRefused (h : ¬ReplacementRefused v) :
    ∃ sub, Substitution.ofValue v = .ok sub := by
  cases hv : Substitution.ofValue v with
  | error f => exact absurd (ofValue_eq_error.1 hv).2 h
  | ok sub => exact ⟨sub, rfl⟩

theorem FirstRefused.check_eq [Text.CharacterNames]
    (h : FirstRefused nullIsUnlimited subject pattern replacement limit f label) :
    Job.check nullIsUnlimited subject pattern replacement limit = .error f ∧ f.label? = label := by
  cases h with
  | subject hsubject =>
      refine ⟨Job.check_eq_error.2 (.inl ⟨?_, rfl⟩), rfl⟩
      unfold Value.text?
      split <;> simp_all
  | pattern hsubject hpattern =>
      subst hsubject
      obtain ⟨hr, hlabel⟩ := hpattern.patternOf_eq
      exact ⟨Job.check_eq_error.2 (.inr ⟨⟨_, rfl⟩, .inl hr⟩), hlabel⟩
  | replacement hsubject hpattern hreplacement =>
      subst hsubject
      have hr := accepted_of_not_patternRefused hpattern
      have hsub := ofValue_eq_error.2 ⟨rfl, hreplacement⟩
      exact ⟨Job.check_eq_error.2 (.inr ⟨⟨_, rfl⟩, .inr ⟨hr, .inl hsub⟩⟩), rfl⟩
  | limit hsubject hpattern hreplacement hlimit =>
      subst hsubject
      have hr := accepted_of_not_patternRefused hpattern
      have hsub := accepted_of_not_replacementRefused hreplacement
      have hl := limitOf_eq_error.2 ⟨rfl, hlimit⟩
      exact ⟨Job.check_eq_error.2 (.inr ⟨⟨_, rfl⟩, .inr ⟨hr, .inr ⟨hsub, hl⟩⟩⟩), rfl⟩

/-- If the checks do not pass, an argument is refused. -/
theorem firstRefused_of_check [Text.CharacterNames]
    (h : Job.check nullIsUnlimited subject pattern replacement limit = .error f) :
    ∃ label, FirstRefused nullIsUnlimited subject pattern replacement limit f label := by
  rcases Job.check_eq_error.1 h with ⟨hsubject, rfl⟩ | ⟨⟨s, hs⟩, h⟩
  · refine ⟨_, .subject fun s hs => ?_⟩
    rw [hs] at hsubject
    cases hsubject
  · have hsubject : subject = .text s := by
      cases subject <;> simp_all [Value.text?]
    rcases h with hr | ⟨⟨r, hr⟩, h⟩
    · obtain ⟨label, refused⟩ := patternRefused_of_error hr
      exact ⟨label, .pattern hsubject refused⟩
    · have hpattern : ¬∃ f label, PatternRefused pattern f label := by
        rintro ⟨g, label, refused⟩
        rw [refused.patternOf_eq.1] at hr
        cases hr
      rcases h with hsub | ⟨⟨sub, hsub⟩, hl⟩
      · obtain ⟨rfl, refused⟩ := ofValue_eq_error.1 hsub
        exact ⟨_, .replacement hsubject hpattern refused⟩
      · obtain ⟨rfl, refused⟩ := limitOf_eq_error.1 hl
        refine ⟨_, .limit hsubject hpattern (fun hreplacement => ?_) refused⟩
        rw [ofValue_eq_error.2 ⟨rfl, hreplacement⟩] at hsub
        cases hsub

end refusals

section completion
variable {host : Host κ σ} {k : κ} {st st' : σ} {o : Outcome σ}

theorem Host.fails_of_bind {record : MatchRecord} {f : Fault}
    (h : (host.call k record st).1.bind requireText = .error f) :
    host.Fails k record st f f.label? := by
  cases hv : (host.call k record st).1 with
  | error g =>
      rw [hv] at h
      cases h
      exact .raised hv
  | ok v =>
      rw [hv] at h
      simp only [Except.bind, requireText] at h
      split at h
      · cases h
      · next htext =>
          cases h
          refine .notText hv fun s hs => ?_
          rw [hs] at htext
          cases htext

theorem Host.Ends.cons {record : MatchRecord} {x : String} {printed : List Pass}
    (call : host.call k record st = (.ok (.text x), st')) (h : host.Ends k st' o) :
    host.Ends k st (o.after [record] printed) := by
  cases h with
  | all log after replies calls result =>
      refine .all ((record, x) :: log) after (.call call replies) ?_ result
      exact congrArg (record :: ·) calls
  | failed log last st'' f replies fails result calls state =>
      refine .failed ((record, x) :: log) last st'' f (.call call replies) fails result ?_ state
      exact congrArg (record :: ·) calls

theorem replaceUpTo_ends (host : Host κ σ) (verbose : Bool) (r : Regex) (k : κ)
    (limit left : Nat) (before : String) (st : σ) :
    host.Ends k st (replaceUpTo host verbose r (.callback k) limit left before st) := by
  fun_induction replaceUpTo host verbose r (.callback k) limit left before st with
  | case1 before st => exact .all [] before (.done st) rfl rfl
  | case2 left before st s hm => exact .all [] before (.done st) rfl rfl
  | case3 left before st s m hm x f hx =>
      exact .failed [] (MatchRecord.ofMatch s m) st f (.done st) (Host.fails_of_bind hx) rfl rfl rfl
  | case4 left before st s m hm x t hx after pass ih =>
      exact ih.cons (call_eq_of_bind_requireText hx)

theorem replaceAll_ends (host : Host κ σ) (verbose : Bool) (r : Regex) (k : κ) (s : String)
    (st : σ) : host.Ends k st (replaceAll host verbose r (.callback k) s st) := by
  cases replaceAll_calledBack host verbose r k s st with
  | all log after hrecords replies calls result _ =>
      exact .all log after replies (calls.trans hrecords.symm) result
  | failed log record rest st' f _ replies fails result state calls =>
      exact .failed log record st' f replies (Host.fails_of_bind fails) result calls state

theorem replaceUpTo_template (host : Host κ σ) (verbose : Bool) (r : Regex) (t : String)
    (limit left : Nat) (before : String) (st : σ) :
    ∃ after printed, replaceUpTo host verbose r (.template t) limit left before st =
      ⟨.ok after, st, [], printed⟩ := by
  fun_induction replaceUpTo host verbose r (.template t) limit left before st with
  | case1 before st => exact ⟨before, [], rfl⟩
  | case2 left before st s hm => exact ⟨before, [], rfl⟩
  | case3 left before st s m hm x f hx => cases hx
  | case4 left before st s m hm x u hx next pass ih =>
      obtain ⟨after, printed, h⟩ := ih
      exact ⟨after, printedIf verbose pass ++ printed, by rw [h]; rfl⟩

theorem Job.run_template (host : Host κ σ) (verbose : Bool) (j : Job κ) {t : String}
    (h : j.substitution = .template t) (st : σ) :
    ∃ after printed, j.run host verbose st = ⟨.ok after, st, [], printed⟩ := by
  unfold Job.run
  rw [h]
  split
  · simp only [replaceAll, substitutes_template]
    exact ⟨_, _, rfl⟩
  · exact replaceUpTo_template host verbose j.regex t _ _ j.subject st

theorem Job.run_ends (host : Host κ σ) (verbose : Bool) (j : Job κ) {k : κ}
    (h : j.substitution = .callback k) (st : σ) : host.Ends k st (j.run host verbose st) := by
  unfold Job.run
  rw [h]
  split
  · exact replaceAll_ends host verbose j.regex k j.subject st
  · exact replaceUpTo_ends host verbose j.regex k _ _ j.subject st

theorem Job.run_completes (host : Host κ σ) (verbose : Bool) (j : Job κ) {replacement : Value κ}
    (h : Substitution.ofValue replacement = .ok j.substitution) (st : σ) :
    Completes host st (j.run host verbose st) replacement := by
  unfold Substitution.ofValue at h
  split at h
  · next t =>
      obtain ⟨after, printed, hrun⟩ := j.run_template host verbose (Except.ok.inj h).symm st
      rw [hrun]
      exact .template t after (Template.legible t) rfl rfl rfl
  · next t =>
      obtain ⟨after, printed, hrun⟩ := j.run_template host verbose (Except.ok.inj h).symm st
      rw [hrun]
      exact .text t after (Template.legible t) rfl rfl rfl
  · next k => exact .callback k (j.run_ends host verbose (Except.ok.inj h).symm st)
  · cases h

end completion

/-- A call fails with the fault of its first argument that is refused, with nothing called and
nothing printed. If none is refused, it completes. -/
theorem replace_fails_fast [Text.CharacterNames] (host : Host κ σ) (verbose nullIsUnlimited : Bool)
    (subject pattern replacement limit : Value κ) (st : σ) :
    (∀ f label, FirstRefused nullIsUnlimited subject pattern replacement limit f label →
      replace host verbose nullIsUnlimited subject pattern replacement limit st = .failed f st ∧
        f.label? = label) ∧
    ((¬∃ f label, FirstRefused nullIsUnlimited subject pattern replacement limit f label) →
      Completes host st (replace host verbose nullIsUnlimited subject pattern replacement limit st)
        replacement) := by
  constructor
  · intro f label refused
    obtain ⟨hcheck, hlabel⟩ := refused.check_eq
    refine ⟨?_, hlabel⟩
    simp only [replace, hcheck]
  · intro accepted
    cases hcheck : Job.check nullIsUnlimited subject pattern replacement limit with
    | error f => exact absurd ⟨f, firstRefused_of_check hcheck⟩ accepted
    | ok j =>
        simp only [replace, hcheck]
        exact j.run_completes host verbose (Job.check_eq_ok.1 hcheck).2.2.1 st

def speechless : Host Unit Nat where
  call _ _ made := (.ok .null, made + 1)

/-- Three arguments that are no good, of which the empty pattern comes first; and arguments that are
all accepted, for a host function that gives no text. -/
theorem replace_fails_fast_order :
    let refused (o : Outcome Nat) : Prop := o = .failed (.cause .patternEmpty) 0
    let accepted : Value Unit := .callback ()
    (FirstRefused true (.text "a") (.text "") (.null : Value Unit) (.bool true)
        (.cause .patternEmpty) (some (.emptyPattern, "D3010")) ∧
      refused (replace speechless true true (.text "a") (.text "") .null (.bool true) 0)) ∧
    (¬∃ f label, FirstRefused true (.text "a") (.text "a") accepted (.int 1) f label) ∧
      Completes speechless 0
        (replace speechless true true (.text "a") (.text "a") accepted (.int 1) 0) accepted := by
  intro refused accepted
  have hrefused : FirstRefused true (.text "a") (.text "") (.null : Value Unit) (.bool true)
      (.cause .patternEmpty) (some (.emptyPattern, "D3010")) := .pattern rfl .emptyText
  have haccepted :
      ¬∃ f label, FirstRefused true (.text "a") (.text "a") accepted (.int 1) f label := by
    rintro ⟨f, label, h⟩
    cases h.check_eq.1
  exact ⟨⟨hrefused, ((replace_fails_fast speechless true true _ _ _ _ 0).1 _ _ hrefused).1⟩,
    haccepted, (replace_fails_fast speechless true true _ _ _ _ 0).2 haccepted⟩

end FindReplace
