import FindReplace.Proofs.Trace

/-!
# Runs with different limits

A run with a higher limit goes on where one with a lower limit stopped, so the two differ only if
the lower limit was reached. How far a run got can be told from its calls: each pass makes one, and
a run that stopped short of its limit has either failed or found nothing more to replace. Raising
the limit changes nothing after that.

All of this is read off the law that runs compose, whatever the host function does with its state.
A template makes no calls, so nothing of it is said here.
-/
namespace FindReplace
open Text (chars)

variable {κ σ : Type}

/-- Raising the limit only extends a run, and not at all once it has failed or found no match. -/
structure Extending (run : Nat → Outcome σ) : Prop where
  calls : ∀ m n, m ≤ n → (run m).calls = (run n).calls.take m
  within : ∀ n, (run n).calls.length ≤ n
  failed : ∀ n f, (run n).result = .error f → ∀ m, (run n).calls.length ≤ m →
    (run m).Alike (run n)
  beforeFailure : ∀ n f, (run n).result = .error f → ∀ m, m < (run n).calls.length →
    (∃ after, (run m).result = .ok after) ∧ (run m).calls.length = m
  exhausted : ∀ n after, (run n).result = .ok after → (run n).calls.length < n →
    ∀ m, (run n).calls.length ≤ m → (run m).Alike (run n)

section
variable {host : Host κ σ} {verbose : Bool} {r : Regex} {k : κ} {limit left : Nat}
variable {before after : String} {st : σ}

theorem length_calls_replaceUpTo_le (host : Host κ σ) (verbose : Bool) (r : Regex) (k : κ)
    (limit left : Nat) (before : String) (st : σ) :
    (replaceUpTo host verbose r (.callback k) limit left before st).calls.length ≤ left := by
  fun_induction replaceUpTo host verbose r (.callback k) limit left before st with
  | case1 before st => exact Nat.le_refl 0
  | case2 left before st s hm => exact Nat.zero_le _
  | case3 left before st s m hm x f hx => exact Nat.succ_le_succ (Nat.zero_le left)
  | case4 left before st s m hm x t hx next pass ih =>
      have hlength : (x.calls ++ (replaceUpTo host verbose r (.callback k) limit left next
          x.state).calls).length = 1 + _ := List.length_append
      simp only [Outcome.after, hlength]
      omega

theorem replaceUpTo_of_calls_eq_nil
    (h : (replaceUpTo host verbose r (.callback k) limit left before st).calls = []) :
    replaceUpTo host verbose r (.callback k) limit left before st = .done before st := by
  cases left with
  | zero => rfl
  | succ left =>
      cases hm : r.find? (chars before) with
      | none => exact replaceUpTo_of_none hm
      | some m =>
          cases hx : (Substitution.apply host (.callback k) (chars before) m st).result with
          | error f =>
              rw [replaceUpTo_of_error hm hx] at h
              cases h
          | ok t =>
              rw [replaceUpTo_of_ok hm hx] at h
              cases h

/-- A run that succeeds with fewer calls than it may make has nothing more to replace. -/
theorem find?_of_length_calls_lt
    (h : (replaceUpTo host verbose r (.callback k) limit left before st).result = .ok after)
    (hlt : (replaceUpTo host verbose r (.callback k) limit left before st).calls.length < left) :
    r.find? (chars after) = none := by
  obtain ⟨log, hcalls, trace⟩ := replaceUpTo_trace host verbose r k limit left before after st h
  rw [hcalls, List.length_map] at hlt
  exact trace.exhausted hlt

end

section
variable (host : Host κ σ) (verbose : Bool) (r : Regex) (k : κ) (before : String) (st : σ)

/-- The run of at most `n` passes. -/
def boundedRun (n : Nat) : Outcome σ := replaceUpTo host verbose r (.callback k) n n before st

theorem boundedRun_add (m d : Nat) :
    ((boundedRun host verbose r k before st m).andThen
      fun s st' => boundedRun host verbose r k s st' d).Alike
        (boundedRun host verbose r k before st (m + d)) :=
  replaceUpTo_add host verbose r (.callback k) m d (m + d) m d before st

variable {host verbose r k before st}

theorem boundedRun_add_of_error {m : Nat} {f : Fault}
    (h : (boundedRun host verbose r k before st m).result = .error f) (d : Nat) :
    (boundedRun host verbose r k before st (m + d)).Alike
      (boundedRun host verbose r k before st m) := by
  have hadd := boundedRun_add host verbose r k before st m d
  rw [Outcome.andThen_of_error h] at hadd
  exact hadd.symm

theorem boundedRun_add_of_ok {m : Nat} {after : String}
    (h : (boundedRun host verbose r k before st m).result = .ok after) (d : Nat) :
    (boundedRun host verbose r k before st (m + d)).Alike
      ((boundedRun host verbose r k after (boundedRun host verbose r k before st m).state d).after
        (boundedRun host verbose r k before st m).calls
        (boundedRun host verbose r k before st m).printed) := by
  have hadd := boundedRun_add host verbose r k before st m d
  rw [Outcome.andThen_of_ok h] at hadd
  exact hadd.symm

theorem boundedRun_add_of_done {m d : Nat} {after : String}
    (h : (boundedRun host verbose r k before st m).result = .ok after)
    (hdone : boundedRun host verbose r k after (boundedRun host verbose r k before st m).state d =
      .done after (boundedRun host verbose r k before st m).state) :
    (boundedRun host verbose r k before st (m + d)).Alike
      (boundedRun host verbose r k before st m) := by
  have hadd := boundedRun_add_of_ok h d
  rw [hdone] at hadd
  refine hadd.trans ⟨h.symm, rfl, List.append_nil _, ?_⟩
  exact congrArg (List.map Pass.content) (List.append_nil _)

theorem boundedRun_add_of_none {m : Nat} {after : String}
    (h : (boundedRun host verbose r k before st m).result = .ok after)
    (hnone : r.find? (chars after) = none) (d : Nat) :
    (boundedRun host verbose r k before st (m + d)).Alike
      (boundedRun host verbose r k before st m) := by
  have hdone : boundedRun host verbose r k after (boundedRun host verbose r k before st m).state d =
      .done after (boundedRun host verbose r k before st m).state := replaceUpTo_of_none hnone
  exact boundedRun_add_of_done h hdone

theorem boundedRun_add_of_calls_eq {m d : Nat}
    (h : (boundedRun host verbose r k before st (m + d)).calls =
      (boundedRun host verbose r k before st m).calls) :
    (boundedRun host verbose r k before st (m + d)).Alike
      (boundedRun host verbose r k before st m) := by
  cases hres : (boundedRun host verbose r k before st m).result with
  | error f => exact boundedRun_add_of_error hres d
  | ok after =>
      have hadd := boundedRun_add_of_ok hres d
      have hcalls : (boundedRun host verbose r k before st m).calls =
          (boundedRun host verbose r k before st m).calls ++ (boundedRun host verbose r k after
            (boundedRun host verbose r k before st m).state d).calls := h.symm.trans hadd.calls
      have hnil := List.self_eq_append_right.1 hcalls
      exact boundedRun_add_of_done hres (replaceUpTo_of_calls_eq_nil hnil)

/-- The calls of a run are the first of those that it makes with a higher limit. -/
theorem calls_boundedRun (m d : Nat) :
    (boundedRun host verbose r k before st m).calls =
      (boundedRun host verbose r k before st (m + d)).calls.take m := by
  have hlength : (boundedRun host verbose r k before st m).calls.length ≤ m :=
    length_calls_replaceUpTo_le host verbose r k m m before st
  cases hres : (boundedRun host verbose r k before st m).result with
  | error f =>
      rw [(boundedRun_add_of_error hres d).calls]
      exact (List.take_of_length_le hlength).symm
  | ok after =>
      by_cases hshort : (boundedRun host verbose r k before st m).calls.length < m
      · have hnone := find?_of_length_calls_lt hres hshort
        rw [(boundedRun_add_of_none hres hnone d).calls]
        exact (List.take_of_length_le hlength).symm
      · have hfull : (boundedRun host verbose r k before st m).calls.length = m :=
          Nat.le_antisymm hlength (Nat.not_lt.1 hshort)
        rw [(boundedRun_add_of_ok hres d).calls]
        exact (List.take_left' hfull).symm

/-- A limit that leaves room for all calls of a run with a higher one comes to the same. -/
theorem boundedRun_alike_of_length_le {m n : Nat} (h : m ≤ n)
    (hle : (boundedRun host verbose r k before st n).calls.length ≤ m) :
    (boundedRun host verbose r k before st m).Alike (boundedRun host verbose r k before st n) := by
  obtain ⟨d, rfl⟩ := Nat.exists_eq_add_of_le h
  have htake : (boundedRun host verbose r k before st m).calls =
      (boundedRun host verbose r k before st (m + d)).calls.take m := calls_boundedRun m d
  rw [List.take_of_length_le hle] at htake
  exact (boundedRun_add_of_calls_eq htake.symm).symm

end

/-- The runs of a host function with all limits. -/
theorem boundedRun_extending (host : Host κ σ) (verbose : Bool) (r : Regex) (k : κ)
    (before : String) (st : σ) : Extending (boundedRun host verbose r k before st) := by
  have calls : ∀ m n, m ≤ n → (boundedRun host verbose r k before st m).calls =
      (boundedRun host verbose r k before st n).calls.take m := by
    intro m n h
    obtain ⟨d, rfl⟩ := Nat.exists_eq_add_of_le h
    exact calls_boundedRun m d
  have within : ∀ n, (boundedRun host verbose r k before st n).calls.length ≤ n := fun n =>
    length_calls_replaceUpTo_le host verbose r k n n before st
  refine ⟨calls, within, ?failed, ?beforeFailure, ?exhausted⟩
  case failed =>
    intro n f hf m hle
    rcases Nat.le_total m n with h | h
    · exact boundedRun_alike_of_length_le h hle
    · obtain ⟨d, rfl⟩ := Nat.exists_eq_add_of_le h
      exact boundedRun_add_of_error hf d
  case beforeFailure =>
    intro n f hf m hlt
    have hmn : m ≤ n := Nat.le_trans (Nat.le_of_lt hlt) (within n)
    have hlength : (boundedRun host verbose r k before st m).calls.length = m := by
      rw [calls m n hmn, List.length_take]
      exact Nat.min_eq_left (Nat.le_of_lt hlt)
    refine ⟨?_, hlength⟩
    cases hres : (boundedRun host verbose r k before st m).result with
    | ok after => exact ⟨after, rfl⟩
    | error g =>
        obtain ⟨d, rfl⟩ := Nat.exists_eq_add_of_le hmn
        have hsame := (boundedRun_add_of_error hres d).calls
        rw [hsame] at hlt
        omega
  case exhausted =>
    intro n after hok hlt m hle
    rcases Nat.le_total m n with h | h
    · exact boundedRun_alike_of_length_le h hle
    · obtain ⟨d, rfl⟩ := Nat.exists_eq_add_of_le h
      exact boundedRun_add_of_none hok (find?_of_length_calls_lt hok hlt) d

/-- Calls with limits. The limit nought makes no pass, and no limit makes one in a text without a
match. -/
theorem replace_callback_limits [Text.CharacterNames] (host : Host κ σ)
    (verbose nullIsUnlimited : Bool) {r : Regex} {pattern : Value κ}
    (hr : patternOf pattern = .ok r) (subject : String) (k : κ) (st : σ) :
    let run (n : Nat) :=
      replace host verbose nullIsUnlimited (.text subject) pattern (.callback k) (.int n) st
    Extending run ∧ run 0 = .done subject st ∧
      (r.find? (chars subject) = none → ∀ n, run n = .done subject st) := by
  intro run
  have hrun : run = boundedRun host verbose r k subject st :=
    funext fun n => replace_eq_replaceUpTo host verbose nullIsUnlimited hr rfl subject n st
  refine ⟨?_, ?_, ?_⟩
  · rw [hrun]
    exact boundedRun_extending host verbose r k subject st
  · rw [hrun]
    rfl
  · intro hnone n
    rw [hrun]
    exact replaceUpTo_of_none hnone

/-- Gives the text of a record twice at each of its first `n` calls, and fails after that. -/
def tiring (n : Nat) : Host Unit Nat where
  call _ record made :=
    (if made < n then .ok (.text (record.text ++ record.text)) else .error .noSuchGroup, made + 1)

/-- With the limit 5 the third call fails, so it does with the limits 3 and 9, but not with 2. -/
theorem replace_callback_limits_tiring :
    let r : Regex := ⟨"a", .seq (.test (.one 97 false ⟨false, false⟩)) .empty, 0, []⟩
    let run (n : Nat) := replace (tiring 2) false true (.text "ba") (.text "a") (.callback ())
      (.int n) 0
    (patternOf (.text "a" : Value Unit) = .ok r ∧ (run 5).result = .error .noSuchGroup ∧
      (run 5).calls.length = 3) ∧
    (run 3).Alike (run 5) ∧ (run 9).Alike (run 5) ∧ (run 2).calls = (run 5).calls.take 2 ∧
      ∃ after, (run 2).result = .ok after := by
  intro r run
  have hr : patternOf (.text "a" : Value Unit) = .ok r := rfl
  have hfail : (run 5).result = .error .noSuchGroup := rfl
  have hlength : (run 5).calls.length = 3 := rfl
  have extending : Extending run := (replace_callback_limits (tiring 2) false true hr "ba" () 0).1
  refine ⟨⟨hr, hfail, hlength⟩, ?_, ?_, ?_, ?_⟩
  · exact extending.failed 5 _ hfail 3 (Nat.le_of_eq hlength)
  · exact extending.failed 5 _ hfail 9 (by rw [hlength]; decide)
  · exact extending.calls 2 5 (by decide)
  · exact (extending.beforeFailure 5 _ hfail 2 (by rw [hlength]; decide)).1

end FindReplace
