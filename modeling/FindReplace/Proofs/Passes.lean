import FindReplace.Proofs.Checks

/-!
# Bounded runs, pass by pass

A bounded run is a sequence of passes, each from the text and the state that the one before it left.
What a single pass does is said once, by whether the pattern is found and how the substitute comes
out; everything about runs follows from these equations by induction on the passes that are left.

The limit itself only numbers the passes that are printed. So runs compose: stopping after `m`
passes and going on for `n` more is one run of `m + n`.
-/
namespace FindReplace

variable {κ σ : Type}

def Pass.content (p : Pass) : String × String × String := (p.source, p.before, p.after)

namespace Outcome

/-- Goes on with `next` from the text and the state reached, unless the run failed. -/
def andThen (o : Outcome σ) (next : String → σ → Outcome σ) : Outcome σ :=
  match o.result with
  | .error _ => o
  | .ok s => (next s o.state).after o.calls o.printed

@[simp] theorem done_andThen (s : String) (st : σ) (next : String → σ → Outcome σ) :
    (done s st).andThen next = next s st := by
  simp [done, andThen]

@[simp] theorem failed_andThen (f : Fault) (st : σ) (next : String → σ → Outcome σ) :
    (failed f st).andThen next = failed f st := rfl

theorem andThen_of_error {o : Outcome σ} {f : Fault} (h : o.result = .error f)
    (next : String → σ → Outcome σ) : o.andThen next = o := by
  simp only [andThen, h]

theorem andThen_of_ok {o : Outcome σ} {s : String} (h : o.result = .ok s)
    (next : String → σ → Outcome σ) :
    o.andThen next = (next s o.state).after o.calls o.printed := by
  simp only [andThen, h]

theorem after_andThen (o : Outcome σ) (calls : List MatchRecord) (printed : List Pass)
    (next : String → σ → Outcome σ) :
    (o.after calls printed).andThen next = (o.andThen next).after calls printed := by
  cases h : o.result with
  | error f => simp only [andThen, after, h]
  | ok s => simp only [andThen, after, h, List.append_assoc]

/-- The same outcome, but for the numbers of the passes printed. -/
structure Alike (o p : Outcome σ) : Prop where
  result : o.result = p.result
  state : o.state = p.state
  calls : o.calls = p.calls
  printed : o.printed.map Pass.content = p.printed.map Pass.content

theorem Alike.refl (o : Outcome σ) : o.Alike o := ⟨rfl, rfl, rfl, rfl⟩

theorem Alike.symm {o p : Outcome σ} (h : o.Alike p) : p.Alike o :=
  ⟨h.result.symm, h.state.symm, h.calls.symm, h.printed.symm⟩

theorem Alike.trans {o p q : Outcome σ} (h : o.Alike p) (h' : p.Alike q) : o.Alike q :=
  ⟨h.result.trans h'.result, h.state.trans h'.state, h.calls.trans h'.calls,
    h.printed.trans h'.printed⟩

theorem Alike.after {o p : Outcome σ} (h : o.Alike p) (calls : List MatchRecord)
    {printed printed' : List Pass} (hp : printed.map Pass.content = printed'.map Pass.content) :
    (o.after calls printed).Alike (p.after calls printed') := by
  refine ⟨h.result, h.state, ?_, ?_⟩
  · simp only [Outcome.after, h.calls]
  · simp only [Outcome.after, List.map_append, hp, h.printed]

end Outcome

section
variable {host : Host κ σ} {verbose : Bool} {r : Regex} {sub : Substitution κ} {limit left : Nat}
variable {before t : String} {st : σ} {m : Regex.Match}

theorem replaceUpTo_of_none (h : r.find? (Text.chars before) = none) :
    replaceUpTo host verbose r sub limit left before st = .done before st := by
  cases left with
  | zero => rfl
  | succ left => simp only [replaceUpTo, h]

theorem replaceUpTo_of_error {f : Fault} (h : r.find? (Text.chars before) = some m)
    (hx : (sub.apply host (Text.chars before) m st).result = .error f) :
    replaceUpTo host verbose r sub limit (left + 1) before st =
      ⟨.error f, (sub.apply host (Text.chars before) m st).state,
        (sub.apply host (Text.chars before) m st).calls, []⟩ := by
  simp only [replaceUpTo, h, hx]

theorem replaceUpTo_of_ok (h : r.find? (Text.chars before) = some m)
    (hx : (sub.apply host (Text.chars before) m st).result = .ok t) :
    replaceUpTo host verbose r sub limit (left + 1) before st =
      (replaceUpTo host verbose r sub limit left (splice (Text.chars before) 0 [(m, t)])
        (sub.apply host (Text.chars before) m st).state).after
          (sub.apply host (Text.chars before) m st).calls
          (printedIf verbose ⟨r.source, .ofLimit (limit - left) limit, before,
            splice (Text.chars before) 0 [(m, t)]⟩) := by
  simp only [replaceUpTo, h, hx]

end

theorem printedIf_content (verbose : Bool) (source : String) (number number' : PassNumber)
    (before after : String) :
    (printedIf verbose ⟨source, number, before, after⟩).map Pass.content =
      (printedIf verbose ⟨source, number', before, after⟩).map Pass.content := by
  cases verbose <;> rfl

section
variable (host : Host κ σ) (verbose : Bool) (r : Regex) (sub : Substitution κ)

/-- The limit only numbers the passes. -/
theorem replaceUpTo_alike (limit limit' left : Nat) (before : String) (st : σ) :
    (replaceUpTo host verbose r sub limit left before st).Alike
      (replaceUpTo host verbose r sub limit' left before st) := by
  fun_induction replaceUpTo host verbose r sub limit left before st with
  | case1 before st => exact .refl _
  | case2 left before st s h =>
      rw [replaceUpTo_of_none h]
      exact .refl _
  | case3 left before st s m h x f hx =>
      rw [replaceUpTo_of_error h hx]
      exact .refl _
  | case4 left before st s m h x t hx after pass ih =>
      rw [replaceUpTo_of_ok h hx]
      exact ih.after _ (printedIf_content _ _ _ _ _ _)

/-- A run of `m + n` passes is one of `m` that goes on for `n` more. -/
theorem replaceUpTo_add (limit limit' limit'' m n : Nat) (before : String) (st : σ) :
    ((replaceUpTo host verbose r sub limit m before st).andThen
      (replaceUpTo host verbose r sub limit' n)).Alike
        (replaceUpTo host verbose r sub limit'' (m + n) before st) := by
  fun_induction replaceUpTo host verbose r sub limit m before st with
  | case1 before st =>
      rw [Outcome.done_andThen, Nat.zero_add]
      exact replaceUpTo_alike ..
  | case2 m before st s h =>
      rw [Outcome.done_andThen, replaceUpTo_of_none h, replaceUpTo_of_none h]
      exact .refl _
  | case3 m before st s w h x f hx =>
      rw [Nat.succ_add, replaceUpTo_of_error h hx]
      exact .refl _
  | case4 m before st s w h x t hx after pass ih =>
      rw [Nat.succ_add, replaceUpTo_of_ok h hx, Outcome.after_andThen]
      exact ih.after _ (printedIf_content _ _ _ _ _ _)

end

/-- Stopping at the limit `m` and going on with the limit `n` comes to the same as the limit
`m + n`: the same text or fault, the same state of the host, and the calls and the passes of both
runs one after another. The arguments need not be valid, since both sides then fail alike. -/
theorem replace_limit_add [Text.CharacterNames] (host : Host κ σ) (verbose nullIsUnlimited : Bool)
    (subject pattern replacement : Value κ) (m n : Nat) (st : σ) :
    ((replace host verbose nullIsUnlimited subject pattern replacement (.int m) st).andThen
      fun s st' =>
        replace host verbose nullIsUnlimited (.text s) pattern replacement (.int n) st').Alike
      (replace host verbose nullIsUnlimited subject pattern replacement (.int (m + n : Nat)) st) := by
  cases h : Job.check nullIsUnlimited subject pattern replacement (.int 0) with
  | error f =>
      simp only [replace, Job.check_natCast _ subject, h, Except.map, Outcome.failed_andThen]
      exact .refl _
  | ok j =>
      simp only [replace, Job.check_natCast _ subject, h, Except.map, Job.check_text h, Job.run]
      exact replaceUpTo_add host verbose j.regex j.substitution m n (m + n) m n j.subject st

end FindReplace
