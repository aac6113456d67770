import FindReplace.Replace

/-!
# What the checks let through

The checks pass exactly if each argument passes its own, and then the run has what they made of the
arguments. A natural number is a limit by itself, so it never decides whether the others pass.
-/
namespace FindReplace

variable {κ σ : Type}

@[simp] theorem limitOf_natCast (nullIsUnlimited : Bool) (n : Nat) :
    limitOf nullIsUnlimited (.int n : Value κ) = .ok (some n) := by
  cases nullIsUnlimited <;> rfl

variable [Text.CharacterNames]

theorem Job.check_eq_ok {nullIsUnlimited : Bool} {subject pattern replacement limit : Value κ}
    {j : Job κ} :
    Job.check nullIsUnlimited subject pattern replacement limit = .ok j ↔
      subject.text? = some j.subject ∧ patternOf pattern = .ok j.regex ∧
        Substitution.ofValue replacement = .ok j.substitution ∧
          limitOf nullIsUnlimited limit = .ok j.limit := by
  obtain ⟨s, r, sub, l⟩ := j
  unfold Job.check
  cases subject.text? with
  | none => simp
  | some s =>
      cases patternOf pattern with
      | error f => simp [bind, Except.bind]
      | ok r =>
          cases Substitution.ofValue replacement with
          | error f => simp [bind, Except.bind]
          | ok sub =>
              cases limitOf nullIsUnlimited limit with
              | error f => simp [bind, Except.bind]
              | ok l => simp [bind, Except.bind, pure, Except.pure]

/-- The checks stop at the first argument that does not pass its own. -/
theorem Job.check_eq_error {nullIsUnlimited : Bool} {subject pattern replacement limit : Value κ}
    {f : Fault} :
    Job.check nullIsUnlimited subject pattern replacement limit = .error f ↔
      (subject.text? = none ∧ f = .cause .subjectNotText) ∨
        (∃ s, subject.text? = some s) ∧ (patternOf pattern = .error f ∨
          (∃ r, patternOf pattern = .ok r) ∧ (Substitution.ofValue replacement = .error f ∨
            (∃ sub, Substitution.ofValue replacement = .ok sub) ∧
              limitOf nullIsUnlimited limit = .error f)) := by
  unfold Job.check
  cases subject.text? with
  | none => simp [eq_comm]
  | some s =>
      cases patternOf pattern with
      | error g => simp [bind, Except.bind]
      | ok r =>
          cases Substitution.ofValue replacement with
          | error g => simp [bind, Except.bind]
          | ok sub =>
              cases limitOf nullIsUnlimited limit with
              | error g => simp [bind, Except.bind]
              | ok l => simp [bind, Except.bind, pure, Except.pure]

theorem Job.check_natCast (nullIsUnlimited : Bool) (subject pattern replacement : Value κ)
    (n : Nat) :
    Job.check nullIsUnlimited subject pattern replacement (.int n) =
      (Job.check nullIsUnlimited subject pattern replacement (.int 0)).map
        fun j => { j with limit := some n } := by
  unfold Job.check
  cases subject.text? with
  | none => rfl
  | some s =>
      cases patternOf pattern with
      | error f => rfl
      | ok r =>
          cases Substitution.ofValue replacement with
          | error f => rfl
          | ok sub =>
              simp only [bind, Except.bind, limitOf_natCast]
              rfl

theorem Job.check_text {nullIsUnlimited : Bool} {subject pattern replacement limit : Value κ}
    {j : Job κ} (h : Job.check nullIsUnlimited subject pattern replacement limit = .ok j)
    (s : String) (n : Nat) :
    Job.check nullIsUnlimited (.text s) pattern replacement (.int n) =
      .ok { j with subject := s, limit := some n } := by
  obtain ⟨-, hr, hsub, -⟩ := Job.check_eq_ok.1 h
  exact Job.check_eq_ok.2 ⟨rfl, hr, hsub, limitOf_natCast _ _⟩

section
variable (host : Host κ σ) (verbose : Bool) {pattern replacement : Value κ} {r : Regex}
variable {sub : Substitution κ}

theorem replace_eq_replaceUpTo (nullIsUnlimited : Bool) (hr : patternOf pattern = .ok r)
    (hsub : Substitution.ofValue replacement = .ok sub) (s : String) (n : Nat) (st : σ) :
    replace host verbose nullIsUnlimited (.text s) pattern replacement (.int n) st =
      replaceUpTo host verbose r sub n n s st := by
  have check : Job.check nullIsUnlimited (.text s) pattern replacement (.int n) =
      .ok ⟨s, r, sub, some n⟩ := Job.check_eq_ok.2 ⟨rfl, hr, hsub, limitOf_natCast _ _⟩
  simp only [replace, check, Job.run]

theorem replace_eq_replaceAll (hr : patternOf pattern = .ok r)
    (hsub : Substitution.ofValue replacement = .ok sub) (s : String) (st : σ) :
    replace host verbose true (.text s) pattern replacement .null st =
      replaceAll host verbose r sub s st := by
  have check : Job.check true (.text s) pattern replacement .null = .ok ⟨s, r, sub, none⟩ :=
    Job.check_eq_ok.2 ⟨rfl, hr, hsub, rfl⟩
  simp only [replace, check, Job.run]

end

end FindReplace
