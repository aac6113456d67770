import FindReplace.Replace

/-!
# What calls come to

A log pairs the records that a host function was called with and the texts that it gave for them.
`Replies` is the law of such a log: the calls are made in order, each from the state that the one
before it left, and none of them fails. It mentions neither patterns nor passes, so it is the same
for every way of running.
-/
namespace FindReplace

variable {κ σ : Type}

/-- Called from the state `st` for the records of a log in turn, the host function `k` gives the
texts beside them and leaves the state `st'`. -/
inductive Host.Replies (host : Host κ σ) (k : κ) : σ → List (MatchRecord × String) → σ → Prop
  | done (st : σ) : Replies host k st [] st
  | call {st st' st'' : σ} {record : MatchRecord} {x : String} {log : List (MatchRecord × String)} :
      host.call k record st = (.ok (.text x), st') → Replies host k st' log st'' →
      Replies host k st ((record, x) :: log) st''

theorem requireText_eq_ok {v : Value κ} {x : String} : requireText v = .ok x ↔ v = .text x := by
  cases v <;> simp [requireText, Value.text?]

theorem call_eq_of_bind_requireText {host : Host κ σ} {k : κ} {record : MatchRecord} {st : σ}
    {x : String} (h : (host.call k record st).1.bind requireText = .ok x) :
    host.call k record st = (.ok (.text x), (host.call k record st).2) := by
  cases hv : (host.call k record st).1 with
  | error f => simp [hv, Except.bind] at h
  | ok v =>
      rw [hv, Except.bind, requireText_eq_ok] at h
      rw [← h, ← hv]

/-- The records that a host function is called with for one substitute. -/
def Substitution.callsFor (sub : Substitution κ) (s : Array Char) (m : Regex.Match) :
    List MatchRecord :=
  match sub with
  | .template _ => []
  | .callback _ => [MatchRecord.ofMatch s m]

theorem Substitution.calls_apply (host : Host κ σ) (sub : Substitution κ) (s : Array Char)
    (m : Regex.Match) (st : σ) : (sub.apply host s m st).calls = sub.callsFor s m := by
  cases sub <;> rfl

end FindReplace
