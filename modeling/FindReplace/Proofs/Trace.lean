import FindReplace.Proofs.Calls
import FindReplace.Proofs.Matches
import FindReplace.Proofs.Passes

/-!
# The trace of a bounded run

A bounded run that calls a host function can be told from its log alone. Each entry of the log
rewrites the text once, at the index of its record and as far as the record's text goes, and the
texts in between are those that the passes searched: every record is that of the first match in the
text as rewritten so far. Nothing outside that match changes.

Indices count characters of the text that was searched, which is not the subject from the second
pass on.
-/
namespace FindReplace
open Text (chars slice)

variable {κ σ : Type}

def patch (s : String) (entry : MatchRecord × String) : String :=
  slice (chars s) 0 entry.1.index ++ entry.2 ++
    slice (chars s) (entry.1.index + entry.1.text.length) (chars s).size

/-- The text after all entries of a log. -/
def replay (s : String) (log : List (MatchRecord × String)) : String := log.foldl patch s

@[simp] theorem replay_nil (s : String) : replay s [] = s := rfl

@[simp] theorem replay_cons (s : String) (entry : MatchRecord × String)
    (log : List (MatchRecord × String)) : replay s (entry :: log) = replay (patch s entry) log := rfl

/-- One pass: `record` is that of the first match in `before`, and `after` has `x` in its place. -/
structure Rewrites (r : Regex) (before : String) (record : MatchRecord) (x after : String) :
    Prop where
  first : r.firstRecord? before = some record
  split : ∃ a b, before = a ++ record.text ++ b ∧ a.length = record.index ∧ after = a ++ x ++ b

/-- What the log of a run of at most `limit` passes says. -/
structure Trace (host : Host κ σ) (k : κ) (r : Regex) (limit : Nat) (before : String) (st : σ)
    (log : List (MatchRecord × String)) (after : String) (st' : σ) : Prop where
  replies : host.Replies k st log st'
  passes : ∀ i (h : i < log.length), Rewrites r (replay before (log.take i)) log[i].1 log[i].2
    (replay before (log.take (i + 1)))
  replayed : replay before log = after
  within : log.length ≤ limit
  exhausted : log.length < limit → r.find? (chars after) = none

section
variable {r : Regex} {s : String} {m : Regex.Match}

theorem rewrites_splice (h : r.find? (chars s) = some m) (x : String) :
    Rewrites r s (MatchRecord.ofMatch (chars s) m) x (splice (chars s) 0 [(m, x)]) := by
  have found := Regex.find?_found h
  refine ⟨by rw [Regex.firstRecord?, h]; rfl, slice (chars s) 0 m.start,
    slice (chars s) m.stop (chars s).size, ?_, found.length_before, splice_single _ _ _⟩
  exact (found.cut.trans (Text.slice_all s)).symm

end

/-- The text after a pass can be told from the record. -/
theorem Rewrites.patch_eq {r : Regex} {before after x : String} {record : MatchRecord}
    (h : Rewrites r before record x after) : patch before (record, x) = after := by
  obtain ⟨a, b, rfl, hindex, rfl⟩ := h.split
  have hstop : record.index + record.text.length = (a ++ record.text).length := by
    rw [String.length_append, hindex]
  have hstart : slice (chars (a ++ record.text ++ b)) 0 a.length = a := by
    rw [String.append_assoc, Text.slice_append_left]
  simp only [patch]
  rw [hstop, Text.slice_append_right, ← hindex, hstart]

section
variable {host : Host κ σ} {k : κ} {r : Regex} {limit : Nat} {before after : String} {st st' : σ}

theorem Trace.nil (h : 0 < limit → r.find? (chars before) = none) :
    Trace host k r limit before st [] before st where
  replies := .done st
  passes := fun i hi => absurd hi (Nat.not_lt_zero i)
  replayed := replay_nil before
  within := Nat.zero_le _
  exhausted := h

theorem Trace.cons {record : MatchRecord} {x next : String} {st₁ : σ}
    {log : List (MatchRecord × String)} (call : host.call k record st = (.ok (.text x), st₁))
    (pass : Rewrites r before record x next) (h : Trace host k r limit next st₁ log after st') :
    Trace host k r (limit + 1) before st ((record, x) :: log) after st' where
  replies := .call call h.replies
  passes := by
    intro i hi
    cases i with
    | zero =>
        rw [← pass.patch_eq] at pass
        exact pass
    | succ i =>
        have later := h.passes i (Nat.lt_of_succ_lt_succ hi)
        rw [← pass.patch_eq] at later
        exact later
  replayed := by rw [replay_cons, pass.patch_eq, h.replayed]
  within := Nat.succ_le_succ h.within
  exhausted := fun hlt => h.exhausted (Nat.lt_of_succ_lt_succ hlt)

end

/-- A run that succeeds leaves a trace. -/
theorem replaceUpTo_trace (host : Host κ σ) (verbose : Bool) (r : Regex) (k : κ)
    (limit left : Nat) (before after : String) (st : σ)
    (h : (replaceUpTo host verbose r (.callback k) limit left before st).result = .ok after) :
    ∃ log, (replaceUpTo host verbose r (.callback k) limit left before st).calls =
        log.map Prod.fst ∧
      Trace host k r left before st log after
        (replaceUpTo host verbose r (.callback k) limit left before st).state := by
  fun_induction replaceUpTo host verbose r (.callback k) limit left before st with
  | case1 before st =>
      cases h
      exact ⟨[], rfl, .nil fun hlt => absurd hlt (Nat.lt_irrefl 0)⟩
  | case2 left before st s hm =>
      cases h
      exact ⟨[], rfl, .nil fun _ => hm⟩
  | case3 left before st s m hm x f hx => cases h
  | case4 left before st s m hm x t hx rewritten pass ih =>
      obtain ⟨log, calls, trace⟩ := ih h
      have call := call_eq_of_bind_requireText hx
      refine ⟨(MatchRecord.ofMatch s m, t) :: log, ?_, ?_⟩
      · simp only [Outcome.after, calls]
        rfl
      · exact trace.cons call (rewrites_splice hm t)

/-- The trace of a call with a limit. -/
theorem replace_callback_trace [Text.CharacterNames] (host : Host κ σ)
    (verbose nullIsUnlimited : Bool) {r : Regex} {pattern : Value κ}
    (hr : patternOf pattern = .ok r) (subject : String) (k : κ) (limit : Nat) (st : σ)
    {after : String} (h : (replace host verbose nullIsUnlimited (.text subject) pattern
      (.callback k) (.int limit) st).result = .ok after) :
    
    ∃ log, (replace host verbose nullIsUnlimited (.text subject) pattern (.callback k) (.int limit)
        st).calls = log.map Prod.fst ∧
      Trace host k r limit subject st log after
        (replace host verbose nullIsUnlimited (.text subject) pattern (.callback k) (.int limit)
          st).state := by
  rw [replace_eq_replaceUpTo host verbose nullIsUnlimited hr rfl] at h ⊢
  exact replaceUpTo_trace host verbose r k limit limit subject after st h

def doubling : Host Unit Nat where
  call _ record n := (.ok (.text (record.text ++ record.text)), n + 1)

/-- Every pass after the first rewrites what the one before it put in. -/
theorem replace_callback_trace_doubling :
    let r : Regex := ⟨"a", .seq (.test (.one 97 false ⟨false, false⟩)) .empty, 0, []⟩
    let o := replace doubling false true (.text "ba") (.text "a") (.callback ()) (.int (3 : Nat)) 0
    (patternOf (.text "a" : Value Unit) = .ok r ∧ o.result = .ok "baaaa") ∧
      ∃ log, o.calls = log.map Prod.fst ∧ Trace doubling () r 3 "ba" 0 log "baaaa" o.state := by
  intro r o
  have hr : patternOf (.text "a" : Value Unit) = .ok r := rfl
  have hresult : o.result = .ok "baaaa" := rfl
  exact ⟨⟨hr, hresult⟩, replace_callback_trace doubling false true hr "ba" () 3 0 hresult⟩

end FindReplace
