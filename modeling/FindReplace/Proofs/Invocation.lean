import FindReplace.Operator
import FindReplace.Proofs.Checks

/-!
# What a call of the operator comes to

A call of `$replace` is told by its effective arguments alone, a list, and by whether the context
value is the first of them. `Answers` says, by the shape of that list, what comes of the call: of
its rows the first that applies counts, so each row also says that those above it do not. From three
effective arguments on the call is one of `replace`, and what `replace` does is not said again.

The context value is never in front of three arguments or more. A call that takes its subject from
it therefore has no room for a limit.
-/
namespace FindReplace

variable {κ σ : Type}

theorem Value.isText_iff {v : Value κ} : v.isText = true ↔ ∃ s, v = .text s := by
  cases v <;> simp [Value.isText, Value.text?]

theorem Value.isText_eq_false_iff {v : Value κ} : v.isText = false ↔ ∀ s, v ≠ .text s := by
  rw [Bool.eq_false_iff, Ne, Value.isText_iff, not_exists]

namespace Arguments

theorem isMissing_iff {v : Value κ} : isMissing v = true ↔ v = .sentinel .missing := by
  unfold isMissing
  split <;> simp_all

/-- Looking an argument up by its index is looking it up in the list of effective arguments. -/
theorem get_natCast (a : Arguments κ) (n : Nat) :
    a.get n = a.toList.getD n (.sentinel .missing) := by
  unfold get toList
  split
  · cases n with
    | zero => rfl
    | succ n =>
        have hpos : (n + 1 : Nat) ≠ (0 : Int) := by omega
        have hpred : ((n + 1 : Nat) : Int) - 1 = (n : Nat) := by omega
        rw [if_neg hpos, hpred, List.getD_cons_succ, List.getD_eq_getElem?_getD]
        rfl
  · rw [List.getD_eq_getElem?_getD]
    rfl

end Arguments

namespace Operator
open Arguments (isNoContext)

/-- Whether the context value is put in front: there is one, and fewer than three arguments are
given. -/
def takesContext (given : List (Value κ)) (context : Value κ) : Bool :=
  !isNoContext context && given.length < 3

/-- The context value, if it is put in front, and the arguments given. -/
def effective (given : List (Value κ)) (context : Value κ) : List (Value κ) :=
  if takesContext given context then context :: given else given

/-- The outcomes of a call by its effective arguments; with `front`, the first of them is the
context value. -/
inductive Answers [Text.CharacterNames] (host : Host κ σ) (verbose : Bool) (st : σ) (front : Bool) :
    List (Value κ) → Outcome σ → Prop
  | nothing : Answers host verbose st front [] (.failed (.cause .subjectNotText) st)
  | context {subject : Value κ} {rest : List (Value κ)} :
      front = true → (∀ s, subject ≠ .text s) →
      Answers host verbose st front (subject :: rest) (.failed (.cause .contextNotText) st)
  | tooMany {subject : Value κ} {rest : List (Value κ)} :
      (front = true → ∃ s, subject = .text s) → 4 < (subject :: rest).length →
      Answers host verbose st front (subject :: rest)
        (.failed (.cause (.tooManyArguments 4 (subject :: rest).length)) st)
  | subject {subject : Value κ} {rest : List (Value κ)} :
      front = false → (subject :: rest).length ≤ 4 → (∀ s, subject ≠ .text s) →
      Answers host verbose st front (subject :: rest) (.failed (.cause .subjectNotText) st)
  | noPattern (s : String) :
      Answers host verbose st front [.text s] (.failed (.cause .patternNotText) st)
  | badPattern (s : String) {pattern : Value κ} {f : Fault} : patternOf pattern = .error f →
      Answers host verbose st front [.text s, pattern] (.failed f st)
  | noReplacement (s : String) {pattern : Value κ} {r : Regex} : patternOf pattern = .ok r →
      Answers host verbose st front [.text s, pattern] (.failed (.cause .replacementMissing) st)
  | unlimited (s : String) (pattern replacement : Value κ) :
      Answers host verbose st front [.text s, pattern, replacement]
        (replace host verbose true (.text s) pattern replacement .null st)
  | missingLimit (s : String) (pattern replacement : Value κ) :
      Answers host verbose st front [.text s, pattern, replacement, .sentinel .missing]
        (replace host verbose true (.text s) pattern replacement .null st)
  | limited (s : String) (pattern replacement : Value κ) {limit : Value κ} :
      limit ≠ .sentinel .missing →
      Answers host verbose st front [.text s, pattern, replacement, limit]
        (replace host verbose false (.text s) pattern replacement limit st)

section
variable {host : Host κ σ} {verbose : Bool} {st : σ} {front : Bool}

/-- The rows exclude each other. -/
theorem Answers.unique [Text.CharacterNames] {args : List (Value κ)} {o o' : Outcome σ}
    (h : Answers host verbose st front args o) (h' : Answers host verbose st front args o') :
    o = o' := by
  cases h <;> cases h' <;> simp_all <;> omega

theorem most_eq : most = 4 := rfl

/-- What the arguments made out come to is told by their list. -/
theorem answers_apply [Text.CharacterNames] (host : Host κ σ) (verbose : Bool) (a : Arguments κ)
    (st : σ) :
    Answers host verbose st a.contextUsed a.toList (apply host verbose a st) := by
  have hget := a.get_natCast
  unfold apply
  rw [← a.length_toList, show a.get 0 = _ from hget 0, show a.get 1 = _ from hget 1,
    show a.get 2 = _ from hget 2, show a.get 3 = _ from hget 3]
  generalize a.toList = args
  generalize a.contextUsed = front
  rcases args with _ | ⟨subject, rest⟩
  · exact .nothing
  by_cases hsubject : subject.isText
  · obtain ⟨s, rfl⟩ := Value.isText_iff.1 hsubject
    rcases rest with _ | ⟨pattern, _ | ⟨replacement, _ | ⟨limit, _ | ⟨extra, more⟩⟩⟩⟩
    · simpa [hsubject, most_eq] using Answers.noPattern s
    · cases hpattern : patternOf pattern with
      | error f => simpa [hsubject, most_eq, hpattern] using Answers.badPattern s hpattern
      | ok r => simpa [hsubject, most_eq, hpattern] using Answers.noReplacement s hpattern
    · simpa [hsubject, most_eq, Arguments.isMissing] using Answers.unlimited s pattern replacement
    · by_cases hlimit : limit = .sentinel .missing
      · subst hlimit
        simpa [hsubject, most_eq, Arguments.isMissing] using
          Answers.missingLimit s pattern replacement
      · have hgiven : Arguments.isMissing limit = false := by
          rwa [Bool.eq_false_iff, Ne, Arguments.isMissing_iff]
        simpa [hsubject, most_eq, hgiven] using Answers.limited s pattern replacement hlimit
    · have row : Answers host verbose st front
          (.text s :: pattern :: replacement :: limit :: extra :: more) _ :=
        .tooMany (fun _ => ⟨s, rfl⟩) (by simp only [List.length_cons]; omega)
      simpa [hsubject, most_eq] using row
  · have hother := Value.isText_eq_false_iff.1 (Bool.eq_false_iff.2 hsubject)
    cases front with
    | true => simpa [hsubject] using Answers.context rfl hother
    | false =>
        by_cases hmany : 4 < rest.length + 1
        · have row : Answers host verbose st false (subject :: rest) _ := .tooMany nofun hmany
          simpa [hsubject, most_eq, hmany] using row
        · have row : Answers host verbose st false (subject :: rest) _ :=
            .subject rfl (Nat.not_lt.1 hmany) hother
          simpa [hsubject, most_eq, hmany] using row

end

theorem replace_null [Text.CharacterNames] (host : Host κ σ) (verbose : Bool) (s : String)
    (pattern replacement : Value κ) (st : σ) :
    (∃ f, replace host verbose true (.text s) pattern replacement .null st = .failed f st) ∨
      ∃ r sub, replace host verbose true (.text s) pattern replacement .null st =
        replaceAll host verbose r sub s st := by
  cases hr : patternOf pattern with
  | error f =>
      refine .inl ⟨f, ?_⟩
      simp only [replace, Job.check, Value.text?, hr, bind, Except.bind]
  | ok r =>
      cases hsub : Substitution.ofValue replacement with
      | error f =>
          refine .inl ⟨f, ?_⟩
          simp only [replace, Job.check, Value.text?, hr, hsub, bind, Except.bind]
      | ok sub => exact .inr ⟨r, sub, replace_eq_replaceAll host verbose hr hsub s st⟩

theorem Answers.without_limit [Text.CharacterNames] {host : Host κ σ} {verbose : Bool} {st : σ}
    {front : Bool} {args : List (Value κ)} {o : Outcome σ}
    (h : Answers host verbose st front args o) (hlength : args.length ≤ 3) :
    (∃ f, o = .failed f st) ∨
      ∃ s r sub, args.head? = some (.text s) ∧ o = replaceAll host verbose r sub s st := by
  cases h with
  | nothing => exact .inl ⟨_, rfl⟩
  | context => exact .inl ⟨_, rfl⟩
  | tooMany => exact .inl ⟨_, rfl⟩
  | subject => exact .inl ⟨_, rfl⟩
  | noPattern => exact .inl ⟨_, rfl⟩
  | badPattern => exact .inl ⟨_, rfl⟩
  | noReplacement => exact .inl ⟨_, rfl⟩
  | unlimited s pattern replacement =>
      rcases replace_null host verbose s pattern replacement st with ⟨f, hf⟩ | ⟨r, sub, hrun⟩
      · exact .inl ⟨f, hf⟩
      · exact .inr ⟨s, r, sub, rfl, hrun⟩
  | missingLimit => exact absurd hlength (by simp)
  | limited => exact absurd hlength (by simp)

/-- The signature puts the context value in front where the rule says so. -/
theorem resolve_signature (given : List (Value κ)) (context : Value κ) :
    (Arguments.resolve signature given context).contextUsed = takesContext given context ∧
      (Arguments.resolve signature given context).toList = effective given context :=
  ⟨rfl, rfl⟩

/-- What a call comes to is told by its effective arguments. With three arguments or more the
context value has no part in it; a call whose subject is the context value fails before anything is
replaced, or replaces every match in one pass. -/
theorem invoke_answers [Text.CharacterNames] (host : Host κ σ) (verbose : Bool)
    (given : List (Value κ)) (context : Value κ) (st : σ) :
    (∀ o, Answers host verbose st (takesContext given context) (effective given context) o ↔
      invoke host verbose given context st = o) ∧
    (3 ≤ given.length → ∀ context',
      invoke host verbose given context' st = invoke host verbose given context st) ∧
    (takesContext given context = true →
      (∃ f, invoke host verbose given context st = .failed f st) ∨
        ∃ s r sub, context = .text s ∧
          invoke host verbose given context st = replaceAll host verbose r sub s st) := by
  have answered : ∀ context, Answers host verbose st (takesContext given context)
      (effective given context) (invoke host verbose given context st) := fun context => by
    have h := answers_apply host verbose (.resolve signature given context) st
    rwa [(resolve_signature given context).1, (resolve_signature given context).2] at h
  refine ⟨fun o => ⟨(answered context).unique, fun h => h ▸ answered context⟩, ?_, ?_⟩
  · intro hmany context'
    have hgiven : ∀ context, takesContext given context = false := fun context => by
      simp [takesContext, Nat.not_lt.2 hmany]
    have h := answered context
    have h' := answered context'
    simp only [effective, hgiven] at h h'
    exact h'.unique h
  · intro hfront
    have hfew : given.length < 3 := by simpa using (Bool.and_eq_true_iff.1 hfront).2
    have h := answered context
    rw [effective, if_pos hfront] at h
    rcases h.without_limit hfew with failed | ⟨s, r, sub, hhead, hrun⟩
    · exact .inl failed
    · exact .inr ⟨s, r, sub, Option.some.inj hhead, hrun⟩

/-- Two arguments and a subject from the context come to one pass, and to the same as all three
arguments, where the context has no part. -/
theorem invoke_answers_context :
    let host : Host Unit Unit := ⟨fun _ _ st => (.ok .null, st)⟩
    let two : List (Value Unit) := [.text "b", .text "-"]
    let three : List (Value Unit) := .text "abc" :: two
    (takesContext two (.text "abc") = true ∧ 3 ≤ three.length) ∧
      (invoke host true two (.text "abc") ()).result.toOption = some "a-c" ∧
      (∃ r sub, invoke host true two (.text "abc") () = replaceAll host true r sub "abc" ()) ∧
      invoke host true three .null () = invoke host true two (.text "abc") () := by
  intro host two three
  have hfront : takesContext two (.text "abc") = true := rfl
  have hthree : 3 ≤ three.length := Nat.le_refl 3
  have hresult : (invoke host true two (.text "abc") ()).result.toOption = some "a-c" := by
    decide +kernel
  have htwo := ((invoke_answers host true two (.text "abc") ()).1 _).1
    (.unlimited "abc" (.text "b") (.text "-"))
  have hsame := ((invoke_answers host true three (.text "abc") ()).1 _).1
    (.unlimited "abc" (.text "b") (.text "-"))
  refine ⟨⟨hfront, hthree⟩, hresult, ?_,
    ((invoke_answers host true three (.text "abc") ()).2.1 hthree .null).trans
      (hsame.trans htwo.symm)⟩
  rcases (invoke_answers host true two (.text "abc") ()).2.2 hfront with
    ⟨f, hf⟩ | ⟨s, r, sub, hs, hrun⟩
  · rw [hf] at hresult
    cases hresult
  · cases hs
    exact ⟨r, sub, hrun⟩

end Operator

end FindReplace
