import FindReplace.Proofs.Calls
import FindReplace.Proofs.Checks
import FindReplace.Proofs.Matches

/-!
# One pass over all matches

Without a limit the matches are found before anything is put in their place, so the records that a
host function is called with are those of the subject, whatever the calls give. They are taken in
order until a call fails. If none does, the result has the subject's own characters between the
matches and the texts that the calls gave in their place.
-/
namespace FindReplace
open Text (chars slice)

variable {κ σ : Type}

/-- Both texts have the same parts between the slices of a log's records, which begin at their
indices in the first one; there the first text has the records' own texts, and the second one has
those beside them. `pos` is where the texts begin in the subject. -/
inductive Replaced : Nat → String → String → List (MatchRecord × String) → Prop
  | last (pos : Nat) (gap : String) : Replaced pos gap gap []
  | next {pos : Nat} {gap before after x : String} {record : MatchRecord}
      {log : List (MatchRecord × String)} :
      record.index = pos + gap.length →
      Replaced (record.index + record.text.length) before after log →
      Replaced pos (gap ++ record.text ++ before) (gap ++ x ++ after) ((record, x) :: log)

/-- How calling `k` for the records of `s` in turn came out: every call gave a text, or the one for
`record` was the first that did not. -/
inductive CalledBack (host : Host κ σ) (k : κ) (s : String) (records : List MatchRecord) (st : σ)
    (o : Outcome σ) : Prop
  | all (log : List (MatchRecord × String)) (after : String) :
      log.map Prod.fst = records → host.Replies k st log o.state → o.calls = records →
      o.result = .ok after → Replaced 0 s after log → CalledBack host k s records st o
  | failed (log : List (MatchRecord × String)) (record : MatchRecord) (rest : List MatchRecord)
      (st' : σ) (f : Fault) :
      records = log.map Prod.fst ++ record :: rest → host.Replies k st log st' →
      (host.call k record st').1.bind requireText = .error f → o.result = .error f →
      o.state = (host.call k record st').2 → o.calls = log.map Prod.fst ++ [record] →
      CalledBack host k s records st o

section
variable {r : Regex} {text : Array Char} {start : Nat} {advance : Bool}

theorem splice_replaced {pairs : List (Regex.Match × String)}
    (h : Regex.Spaced r text start advance (pairs.map Prod.fst)) (hs : start ≤ text.size) :
    Replaced start (slice text start text.size) (splice text start pairs)
      (pairs.map fun p => (MatchRecord.ofMatch text p.1, p.2)) := by
  induction pairs generalizing start advance with
  | nil => exact .last _ _
  | cons p pairs ih =>
      obtain ⟨m, x⟩ := p
      cases h with
      | cons found rest =>
          dsimp only at found rest
          have hstop := Regex.Match.length_text found.forward found.within
          have hgap := found.length_before
          have hfrom := found.from_start
          have later := ih rest found.within
          rw [← found.cut]
          change Replaced start (slice text start m.start ++ (MatchRecord.ofMatch text m).text ++
            slice text m.stop text.size) (slice text start m.start ++ x ++ splice text m.stop pairs)
              ((MatchRecord.ofMatch text m, x) :: _)
          refine .next ?_ ?_
          · simp only [MatchRecord.ofMatch]
            omega
          · simpa only [MatchRecord.ofMatch, hstop] using later

end

theorem substitutes_template (host : Host κ σ) (t : String) (text : Array Char)
    (ms : List Regex.Match) (st : σ) :
    substitutes host (.template t) text ms st =
      ⟨.ok (ms.map fun m => (m, expandMatch t text m)), st, []⟩ := by
  induction ms with
  | nil => rfl
  | cons m ms ih => simp only [substitutes, Substitution.apply, ih]; rfl

section
variable {host : Host κ σ} {k : κ} {text : Array Char} {ms : List Regex.Match} {st : σ}

theorem substitutes_callback_ok (host : Host κ σ) (k : κ) (text : Array Char)
    (ms : List Regex.Match) (st : σ) : ∀ pairs,
    (substitutes host (.callback k) text ms st).result = .ok pairs →
    pairs.map Prod.fst = ms ∧
      host.Replies k st (pairs.map fun p => (MatchRecord.ofMatch text p.1, p.2))
        (substitutes host (.callback k) text ms st).state ∧
      (substitutes host (.callback k) text ms st).calls = ms.map (MatchRecord.ofMatch text) := by
  fun_induction substitutes host (.callback k) text ms st with
  | case1 st =>
      intro pairs h
      cases h
      exact ⟨rfl, .done _, rfl⟩
  | case2 m rest st x f hx =>
      intro pairs h
      cases h
  | case3 m rest st x t hx others ih =>
      intro pairs h
      cases hrest : others.result with
      | error f =>
          rw [hrest] at h
          cases h
      | ok pairs' =>
          rw [hrest] at h
          cases h
          obtain ⟨hfst, replies, calls⟩ := ih pairs' hrest
          refine ⟨?_, .call (call_eq_of_bind_requireText hx) replies, ?_⟩
          · rw [List.map_cons, hfst]
          · exact congrArg (MatchRecord.ofMatch text m :: ·) calls

/-- If a substitute fails, all calls before the last one gave texts. -/
theorem substitutes_callback_error (host : Host κ σ) (k : κ) (text : Array Char)
    (ms : List Regex.Match) (st : σ) {f : Fault}
    (h : (substitutes host (.callback k) text ms st).result = .error f) :
    ∃ log record rest st', ms.map (MatchRecord.ofMatch text) = log.map Prod.fst ++ record :: rest ∧
      host.Replies k st log st' ∧ (host.call k record st').1.bind requireText = .error f ∧
      (substitutes host (.callback k) text ms st).state = (host.call k record st').2 ∧
      (substitutes host (.callback k) text ms st).calls = log.map Prod.fst ++ [record] := by
  fun_induction substitutes host (.callback k) text ms st with
  | case1 st => cases h
  | case2 m rest st x g hx =>
      cases h
      exact ⟨[], MatchRecord.ofMatch text m, rest.map (MatchRecord.ofMatch text), st, rfl, .done _,
        hx, rfl, rfl⟩
  | case3 m rest st x t hx others ih =>
      cases hrest : others.result with
      | ok pairs =>
          rw [hrest] at h
          cases h
      | error g =>
          rw [hrest] at h
          cases h
          obtain ⟨log, record, rest', st', hrecords, replies, hfail, state, calls⟩ := ih hrest
          refine ⟨(MatchRecord.ofMatch text m, t) :: log, record, rest', st', ?_,
            .call (call_eq_of_bind_requireText hx) replies, hfail, state, ?_⟩
          · rw [List.map_cons, hrecords]
            rfl
          · exact congrArg (MatchRecord.ofMatch text m :: ·) calls

theorem replaceAll_calledBack (host : Host κ σ) (verbose : Bool) (r : Regex) (k : κ) (s : String)
    (st : σ) : CalledBack host k s (r.records s) st
      (replaceAll host verbose r (.callback k) s st) := by
  cases hxs : (substitutes host (.callback k) (chars s) (r.matchList (chars s)) st).result with
  | ok pairs =>
      obtain ⟨hfst, replies, calls⟩ := substitutes_callback_ok host k _ _ st pairs hxs
      have spaced := Regex.matchList_spaced r (chars s)
      rw [← hfst] at spaced
      have replaced := splice_replaced spaced (Nat.zero_le _)
      rw [Text.slice_all] at replaced
      simp only [replaceAll, hxs]
      refine .all _ _ ?_ replies calls rfl replaced
      rw [Regex.records, ← hfst, List.map_map, List.map_map]
      rfl
  | error f =>
      obtain ⟨log, record, rest, st', hrecords, replies, hfail, state, calls⟩ :=
        substitutes_callback_error host k _ _ st hxs
      simp only [replaceAll, hxs]
      exact .failed log record rest st' f hrecords replies hfail rfl state calls

end

end FindReplace
