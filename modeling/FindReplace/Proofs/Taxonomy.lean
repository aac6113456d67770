import FindReplace.Proofs.Invocation
import FindReplace.Proofs.PatternLimits
import FindReplace.Proofs.Refusals

/-!
# Errors inside the taxonomy

A call gives a text or an error of the taxonomy, so that a host can tell every failure by its class
and its code. One kind of failure stays outside: a pattern text that exceeds a limit of the pattern
reader. What the reader finds wrong with a text is a flaw otherwise, and a flaw is reported as an
invalid pattern.

`Judged` says so of a call by its subject, its pattern and its replacement. It holds of `replace`,
and of the operator by the effective arguments. Failures of a host function are its own affair; they
are only supposed to be errors of the taxonomy themselves. Bounds of the host that are not those of
its pattern reader are outside the model: how deep it recurses, and that it may write out no limit
of more than 4300 digits, which only a verbose run does.
-/
namespace FindReplace

variable {κ σ : Type}

/-- The result is a text or an error of the taxonomy. -/
inductive Outcome.Classified (o : Outcome σ) : Prop
  | text (after : String) : o.result = .ok after → Classified o
  | error (f : Fault) (e : EvaluationError) : o.result = .error f → f.evaluation? = some e →
      Classified o

/-- The host function fails with errors of the taxonomy only. -/
def Host.Tame (host : Host κ σ) (k : κ) : Prop :=
  ∀ record st f, (host.call k record st).1 = .error f → ∃ e, f.evaluation? = some e

/-- The pattern is a text that exceeds a limit, and the subject is no reason not to read it. -/
def Exceeds [Text.CharacterNames] (subject pattern : Option (Value κ)) : Prop :=
  ∃ s p l, subject = some (.text s) ∧ pattern = some (.text p) ∧ Regex.parse p = .error (.limit l)

def patternFault (p : String) : Regex.Fault → Fault
  | .flaw f position => .cause (.patternInvalid p f position)
  | .limit l => .regexLimit l

/-- What a call comes to, by those of its arguments that are there. -/
structure Judged [Text.CharacterNames] (host : Host κ σ) (st : σ)
    (subject pattern replacement : Option (Value κ)) (o : Outcome σ) : Prop where
  classified : (∀ k, replacement = some (.callback k) → host.Tame k) →
    (o.Classified ↔ ¬Exceeds subject pattern)
  refused : ∀ s p f, subject = some (.text s) → pattern = some (.text p) →
    Regex.parse p = .error f → o = .failed (patternFault p f) st

section
variable {host : Host κ σ} {st : σ} {subject pattern replacement : Option (Value κ)}

theorem Outcome.classified_cause (c : Cause) (st : σ) :
    (Outcome.failed (.cause c) st).Classified :=
  .error (.cause c) c.error rfl rfl

theorem Outcome.not_classified_limit (l : Regex.Limit) (st : σ) :
    ¬(Outcome.failed (.regexLimit l) st).Classified := by
  rintro (⟨after, hresult⟩ | ⟨f, e, hresult, he⟩)
  · cases hresult
  · cases hresult
    cases he

theorem patternOf_of_parse_error [Text.CharacterNames] {p : String} {f : Regex.Fault}
    (h : Regex.parse p = .error f) :
    patternOf (.text p : Value κ) = .error (patternFault p f) := by
  have hne : p ≠ "" := by
    rintro rfl
    have hempty : (Regex.parse "").isOk = true := rfl
    rw [h] at hempty
    cases hempty
  cases f <;> simp [patternOf, hne, h, patternFault]

theorem PatternRefused.cause_or_limit [Text.CharacterNames] {v : Value κ} {f : Fault}
    {label : Option (ErrorClass × String)} (h : PatternRefused v f label) :
    (∃ c, f = .cause c) ∨ ∃ p l, v = .text p ∧ Regex.parse p = .error (.limit l) := by
  cases h with
  | notText => exact .inl ⟨_, rfl⟩
  | emptyText => exact .inl ⟨_, rfl⟩
  | emptyRegex => exact .inl ⟨_, rfl⟩
  | flaw => exact .inl ⟨_, rfl⟩
  | limit _ hparse => exact .inr ⟨_, _, rfl, hparse⟩

theorem FirstRefused.cause_or_exceeds [Text.CharacterNames] {nullIsUnlimited : Bool}
    {subject pattern replacement limit : Value κ} {f : Fault}
    {label : Option (ErrorClass × String)}
    (h : FirstRefused nullIsUnlimited subject pattern replacement limit f label) :
    (∃ c, f = .cause c) ∨ Exceeds (some subject) (some pattern) := by
  cases h with
  | subject => exact .inl ⟨_, rfl⟩
  | pattern hsubject refused =>
      rcases refused.cause_or_limit with hcause | ⟨p, l, hpattern, hparse⟩
      · exact .inl hcause
      · exact .inr ⟨_, p, l, congrArg some hsubject, congrArg some hpattern, hparse⟩
  | replacement => exact .inl ⟨_, rfl⟩
  | limit => exact .inl ⟨_, rfl⟩

/-- What is left to fail once the arguments are accepted is a host function, or its result. -/
theorem Completes.classified {v : Value κ} {o : Outcome σ} (h : Completes host st o v)
    (htame : ∀ k, v = .callback k → host.Tame k) : o.Classified := by
  cases h with
  | text t after _ hresult => exact .text after hresult
  | template t after _ hresult => exact .text after hresult
  | callback k ends =>
      cases ends with
      | all log after _ _ hresult => exact .text after hresult
      | failed log record st' f _ fails hresult =>
          generalize f.label? = label at fails
          cases fails with
          | raised hcall =>
              obtain ⟨e, he⟩ := htame k rfl record st' f hcall
              exact .error f e hresult he
          | notText => exact .error _ _ hresult rfl

/-- A pattern that is refused settles the call, and what it is refused for, whether the call stays
inside the taxonomy. -/
theorem judged_of_refused [Text.CharacterNames] {o : Outcome σ}
    (refused : ∀ s p f, subject = some (.text s) → pattern = some (.text p) →
      Regex.parse p = .error f → o = .failed (patternFault p f) st)
    (within : (∀ k, replacement = some (.callback k) → host.Tame k) → ¬Exceeds subject pattern →
      o.Classified) : Judged host st subject pattern replacement o := by
  refine ⟨fun htame => ⟨?_, within htame⟩, refused⟩
  rintro classified ⟨s, p, l, hs, hp, hparse⟩
  rw [refused s p _ hs hp hparse] at classified
  exact Outcome.not_classified_limit l st classified

theorem judged_of_cause [Text.CharacterNames] (c : Cause)
    (h : ∀ s p f, subject = some (.text s) → pattern = some (.text p) → Regex.parse p ≠ .error f) :
    Judged host st subject pattern replacement (.failed (.cause c) st) :=
  judged_of_refused (fun s p f hs hp hparse => absurd hparse (h s p f hs hp)) fun _ _ =>
    Outcome.classified_cause c st

end

theorem judged_replace [Text.CharacterNames] (host : Host κ σ) (verbose nullIsUnlimited : Bool)
    (subject pattern replacement limit : Value κ) (st : σ) :
    Judged host st (some subject) (some pattern) (some replacement)
      (replace host verbose nullIsUnlimited subject pattern replacement limit st) := by
  refine judged_of_refused ?_ fun htame within => ?_
  · rintro s p f ⟨⟩ ⟨⟩ hparse
    have check : Job.check nullIsUnlimited (.text s) (.text p) replacement limit =
        .error (patternFault p f) :=
      Job.check_eq_error.2 (.inr ⟨⟨s, rfl⟩, .inl (patternOf_of_parse_error hparse)⟩)
    simp only [replace, check]
  · cases check : Job.check nullIsUnlimited subject pattern replacement limit with
    | error f =>
        obtain ⟨label, first⟩ := firstRefused_of_check check
        obtain ⟨c, rfl⟩ := first.cause_or_exceeds.resolve_right within
        simp only [replace, check]
        exact Outcome.classified_cause c st
    | ok j =>
        simp only [replace, check]
        refine (j.run_completes host verbose (Job.check_eq_ok.1 check).2.2.1 st).classified ?_
        exact fun k hk => htame k (congrArg some hk)

namespace Operator

theorem Answers.judged [Text.CharacterNames] {host : Host κ σ} {verbose : Bool} {st : σ}
    {front : Bool} {args : List (Value κ)} {o : Outcome σ}
    (h : Answers host verbose st front args o) (hfew : args.length ≤ 4) :
    Judged host st args[0]? args[1]? args[2]? o := by
  cases h with
  | nothing => exact judged_of_cause _ nofun
  | context _ hother =>
      exact judged_of_cause _ fun s _ _ hs => absurd (Option.some.inj hs) (hother s)
  | tooMany _ hmany => exact absurd hfew (Nat.not_le.2 hmany)
  | subject _ _ hother =>
      exact judged_of_cause _ fun s _ _ hs => absurd (Option.some.inj hs) (hother s)
  | noPattern s => exact judged_of_cause _ fun _ _ _ _ => nofun
  | badPattern s hpattern =>
      refine judged_of_refused ?_ fun _ within => ?_
      · rintro _ p f _ ⟨⟩ hparse
        rw [patternOf_of_parse_error hparse] at hpattern
        rw [Except.error.inj hpattern]
      · obtain ⟨label, refused⟩ := patternRefused_of_error hpattern
        rcases refused.cause_or_limit with ⟨c, rfl⟩ | ⟨p, l, rfl, hparse⟩
        · exact Outcome.classified_cause c st
        · exact absurd ⟨s, p, l, rfl, rfl, hparse⟩ within
  | noReplacement s hpattern =>
      refine judged_of_cause _ ?_
      rintro _ p f _ ⟨⟩ hparse
      rw [patternOf_of_parse_error hparse] at hpattern
      cases hpattern
  | unlimited s pattern replacement => exact judged_replace ..
  | missingLimit s pattern replacement => exact judged_replace ..
  | limited s pattern replacement _ => exact judged_replace ..

theorem Answers.classified [Text.CharacterNames] {host : Host κ σ} {verbose : Bool} {st : σ}
    {front : Bool} {args : List (Value κ)} {o : Outcome σ}
    (h : Answers host verbose st front args o) (hmany : 4 < args.length) : o.Classified := by
  cases h with
  | context _ _ => exact Outcome.classified_cause _ st
  | tooMany _ _ => exact Outcome.classified_cause _ st
  | subject _ hfew _ => exact absurd hmany (Nat.not_lt.2 hfew)
  | nothing | noPattern | badPattern | noReplacement | unlimited | missingLimit | limited =>
      exact absurd hmany (by simp)

end Operator

open Operator (effective invoke)

/-- A call of `replace` or of the operator stays inside the taxonomy, unless its pattern is a text
that exceeds a limit. A pattern text that is refused is reported as an invalid pattern, or has in it
what exceeds a limit. -/
theorem calls_judged [Text.CharacterNames] (host : Host κ σ) (verbose : Bool) (st : σ) :
    (∀ nullIsUnlimited subject pattern replacement limit,
      Judged host st (some subject) (some pattern) (some replacement)
        (replace host verbose nullIsUnlimited subject pattern replacement limit st)) ∧
    (∀ given context, (effective given context).length ≤ 4 →
      Judged host st (effective given context)[0]? (effective given context)[1]?
        (effective given context)[2]? (invoke host verbose given context st)) ∧
    (∀ given context, 4 < (effective given context).length →
      (invoke host verbose given context st).Classified) ∧
    ∀ p f, Regex.parse p = .error f →
      (patternFault p f).label? = some (.invalidPattern, "S0302") ∨
        ∃ l : Regex.Limit, f = .limit l ∧ l.ExceededBy p.toList := by
  have answered : ∀ given context,
      Operator.Answers host verbose st (Operator.takesContext given context)
        (effective given context) (invoke host verbose given context st) :=
    fun given context => by
      have h := Operator.answers_apply host verbose (.resolve Operator.signature given context) st
      rwa [(Operator.resolve_signature given context).1,
        (Operator.resolve_signature given context).2] at h
  refine ⟨fun nullIsUnlimited subject pattern replacement limit => judged_replace .., ?_, ?_, ?_⟩
  · exact fun given context hfew => (answered given context).judged hfew
  · exact fun given context hmany => (answered given context).classified hmany
  · rintro p (⟨flaw, position⟩ | l) hparse
    · exact .inl rfl
    · exact .inr ⟨l, rfl, Regex.exceededBy_of_parse hparse⟩

def repeating : Host Unit Unit where
  call _ record st := (.ok (.text record.text), st)

def refusal? [Text.CharacterNames] (p : String) : Option Regex.Fault :=
  match Regex.parse p with
  | .error f => some f
  | .ok _ => none

theorem parse_of_refusal? [Text.CharacterNames] {p : String} {f : Regex.Fault}
    (h : refusal? p = some f) :
    Regex.parse p = .error f := by
  unfold refusal? at h
  split at h
  · next g hparse => rw [hparse, Option.some.inj h]
  · cases h

/-- Two rounds are a count that can be kept, so the call gives a text. With one round too many to be
counted the same call of the operator fails outside the taxonomy, for a bound in the pattern. -/
theorem calls_judged_rounds :
    let call (p : String) := invoke repeating true [.text p, .callback ()] (.text "aa") ()
    let large := "a\x7b4294967295\x7d"
    repeating.Tame () ∧ (call "a\x7b2\x7d").Classified ∧
      call large = .failed (.regexLimit .repetitionTooLarge) () ∧ ¬(call large).Classified ∧
      Regex.Limit.repetitionTooLarge.ExceededBy large.toList := by
  intro call large
  have htame : repeating.Tame () := fun record st f h => nomatch h
  have hpattern : refusal? "a\x7b2\x7d" = none := by decide +kernel
  have hlarge : Regex.parse large = .error (.limit .repetitionTooLarge) :=
    parse_of_refusal? (by decide +kernel)
  have judged : ∀ p, Judged repeating () (some (.text "aa")) (some (.text p)) (some (.callback ()))
      (call p) := fun p =>
    (calls_judged repeating true ()).2.1 [.text p, .callback ()] (.text "aa") (Nat.le_succ 3)
  have within : ¬Exceeds (some (.text "aa" : Value Unit)) (some (.text "a\x7b2\x7d")) := by
    rintro ⟨s, p, l, -, ⟨⟩, hparse⟩
    simp [refusal?, hparse] at hpattern
  have exceeds : Exceeds (some (.text "aa" : Value Unit)) (some (.text large)) :=
    ⟨"aa", large, _, rfl, rfl, hlarge⟩
  refine ⟨htame, ((judged _).classified fun _ _ => htame).2 within,
    (judged large).refused "aa" large _ rfl rfl hlarge,
    fun h => ((judged large).classified fun _ _ => htame).1 h exceeds, ?_⟩
  rcases (calls_judged repeating true ()).2.2.2 large _ hlarge with hlabel | ⟨l, hl, hexceeded⟩
  · cases hlabel
  · cases hl
    exact hexceeded

/-- A pattern that the reader refuses and that is not reported as an invalid pattern. -/
theorem replace_large_not_classified :
    ¬(replace repeating false true (.text "a") (.text "a\x7b4294967295\x7d") (.text "b") .null
      ()).Classified := by
  have hparse : Regex.parse "a\x7b4294967295\x7d" = .error (.limit .repetitionTooLarge) :=
    parse_of_refusal? (by decide +kernel)
  rw [(judged_replace repeating false true _ _ _ _ ()).refused "a" _ _ rfl rfl hparse]
  exact Outcome.not_classified_limit _ ()

end FindReplace
