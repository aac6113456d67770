import FindReplace.Proofs.Refusals

/-!
# Which values are limits

A limit is a natural number. It is given as an integer, or as a double whose exact value is that
number, however large it is and with either sign of nought. Nothing else is one: a boolean is no
integer, a fraction is not rounded, and what is not finite has no value. Null is no limit at all, if
the caller allows that, and is refused otherwise.

A run is not told how its limit was given. So a double and the integer of the same value make for
the same calls, the same text or fault, and the same passes.
-/
namespace FindReplace

variable {κ σ : Type}

/-- Values that stand for the natural number `n`: the integer, and doubles of that exact value. -/
inductive Value.Counts (n : Nat) : Value κ → Prop
  | int : Counts n (.int n)
  | double {d : Double} : d.value? = some (n : ℚ) → Counts n (.double d)

section
variable {nullIsUnlimited : Bool} {v : Value κ} {n : Nat}

theorem Value.counts_iff : v.Counts n ↔ v.number? = some (n : ℚ) := by
  constructor
  · intro h
    cases h with
    | int => exact congrArg some (Int.cast_natCast n)
    | double hd => exact hd
  · intro h
    cases v with
    | int z =>
        have hz : z = (n : Int) := by exact_mod_cast Option.some.inj h
        exact hz ▸ .int
    | double d => exact .double h
    | _ => cases h

theorem limitOf_eq_ok_none :
    limitOf nullIsUnlimited v = .ok none ↔ v = .null ∧ nullIsUnlimited = true := by
  constructor
  · intro h
    unfold limitOf at h
    split at h
    · exact ⟨rfl, rfl⟩
    · split at h
      · cases h
      · cases h
  · rintro ⟨rfl, rfl⟩
    rfl

theorem limitOf_eq_ok_some : limitOf nullIsUnlimited v = .ok (some n) ↔ v.Counts n := by
  rw [Value.counts_iff, ← Int.cast_natCast, ← Value.integer?_eq_some_iff]
  unfold limitOf
  split
  · exact ⟨nofun, nofun⟩
  · split
    · next k hk => simp [hk]
    · next hnat => exact ⟨nofun, fun h => (hnat n h).elim⟩

theorem limitRefused_iff : LimitRefused nullIsUnlimited v ↔
    ¬(v = .null ∧ nullIsUnlimited = true) ∧ ∀ n, ¬v.Counts n := by
  constructor
  · rintro ⟨hnull, hnatural⟩
    refine ⟨fun ⟨hv, hunlimited⟩ => ?_, fun n hn => hnatural n (Value.counts_iff.1 hn)⟩
    rw [hnull hv] at hunlimited
    cases hunlimited
  · rintro ⟨hnull, hnatural⟩
    refine ⟨fun hv => ?_, fun n hn => hnatural n (Value.counts_iff.2 hn)⟩
    rw [← Bool.not_eq_true]
    exact fun hunlimited => hnull ⟨hv, hunlimited⟩

/-- Of its limit a call uses what the check makes of it, and no more. -/
theorem replace_of_limitOf_eq [Text.CharacterNames] (host : Host κ σ) (verbose : Bool)
    (subject pattern replacement : Value κ) {limit limit' : Value κ} (st : σ)
    (h : limitOf nullIsUnlimited limit = limitOf nullIsUnlimited limit') :
    replace host verbose nullIsUnlimited subject pattern replacement limit st =
      replace host verbose nullIsUnlimited subject pattern replacement limit' st := by
  simp only [replace, Job.check, h]

end

/-- A limit is taken for the number that it is, null for no limit where that is allowed, and every
other value is refused. Where a value counts, the integer of that value gives the same outcome. -/
theorem limit_exact [Text.CharacterNames] (nullIsUnlimited : Bool) (v : Value κ) :
    (limitOf nullIsUnlimited v = .ok none ↔ v = .null ∧ nullIsUnlimited = true) ∧
      (∀ n, limitOf nullIsUnlimited v = .ok (some n) ↔ v.Counts n) ∧
      (∀ f, limitOf nullIsUnlimited v = .error f ↔
        f = .cause .limitUnusable ∧ ¬(v = .null ∧ nullIsUnlimited = true) ∧ ∀ n, ¬v.Counts n) ∧
      (Fault.cause .limitUnusable).label? = some (.limitType, "D3011") ∧
      ∀ (host : Host κ σ) (verbose : Bool) (subject pattern replacement : Value κ) (st : σ)
        (n : Nat), v.Counts n →
          replace host verbose nullIsUnlimited subject pattern replacement v st =
            replace host verbose nullIsUnlimited subject pattern replacement (.int n) st := by
  refine ⟨limitOf_eq_ok_none, fun n => limitOf_eq_ok_some, fun f => ?_, rfl, ?_⟩
  · rw [limitOf_eq_error, limitRefused_iff]
  · intro host verbose subject pattern replacement st n hn
    apply replace_of_limitOf_eq
    rw [limitOf_eq_ok_some.2 hn, limitOf_natCast]

/-- Nought is a limit with either sign. -/
example (nullIsUnlimited negative : Bool) :
    limitOf nullIsUnlimited (.double (.zero negative) : Value κ) = .ok (some 0) := by
  cases nullIsUnlimited <;> cases negative <;> rfl

/-- The double nearest to `10 ^ 23` is below it, and is the limit of its own value. -/
theorem limit_exact_large :
    let d : Double := .finite false 5960464477539062 24 (by decide)
    let n : Nat := 99999999999999991611392
    let call (limit : Value Unit) : Outcome Nat :=
      replace speechless true false (.text "aab") (.text "a") (.text "-") limit 0
    (Value.double d : Value Unit).Counts n ∧
      limitOf false (.double d : Value Unit) = .ok (some n) ∧ call (.double d) = call (.int n) := by
  intro d n call
  have hvalue : d.value? = some (n : ℚ) := Double.toInt?_eq_some_iff.1 (by decide)
  have hcounts : (Value.double d : Value Unit).Counts n := .double hvalue
  obtain ⟨-, haccepted, -, -, hsame⟩ := limit_exact false (.double d : Value Unit)
  exact ⟨hcounts, (haccepted n).2 hcounts, hsame speechless true _ _ _ 0 n hcounts⟩

end FindReplace
