import FindReplace.Limit
import FindReplace.Pass
import FindReplace.Regex.Parse
import FindReplace.Substitution

/-!
Replacing matches. Without a limit, one pass over the text replaces every match, and what was put in
is not searched. With a limit, each pass replaces the first match of the text as the passes before
have left it, until none is left or the limit is reached. The arguments are checked from left to
right before anything is called or printed.
-/
namespace FindReplace

variable {κ σ : Type}

/-- A pattern argument: a text to be read as a pattern, or a pattern already read. -/
def patternOf [Text.CharacterNames] : Value κ → Except Fault Regex
  | .regex r => if r.source.isEmpty then .error (.cause .patternEmpty) else .ok r
  | .text s =>
    if s.isEmpty then .error (.cause .patternEmpty)
    else
      match Regex.parse s with
      | .ok r => .ok r
      | .error (.flaw f position) => .error (.cause (.patternInvalid s f position))
      | .error (.limit l) => .error (.regexLimit l)
  | _ => .error (.cause .patternNotText)

/-- How a run came out: the text or a fault, the host's state, the records that host functions were
called with, and the passes printed. -/
structure Outcome (σ : Type) where
  result : Except Fault String
  state : σ
  calls : List MatchRecord
  printed : List Pass

namespace Outcome

def done (s : String) (st : σ) : Outcome σ := ⟨.ok s, st, [], []⟩

def failed (f : Fault) (st : σ) : Outcome σ := ⟨.error f, st, [], []⟩

/-- The outcome with calls and passes that came before it. -/
def after (o : Outcome σ) (calls : List MatchRecord) (printed : List Pass) : Outcome σ :=
  { o with calls := calls ++ o.calls, printed := printed ++ o.printed }

@[simp] theorem after_nil (o : Outcome σ) : o.after [] [] = o := by simp [after]

end Outcome

/-- The text with the matches replaced, from position `start` on. -/
def splice (s : Array Char) (start : Nat) : List (Regex.Match × String) → String
  | [] => Text.slice s start s.size
  | (m, x) :: rest => Text.slice s start m.start ++ x ++ splice s m.stop rest

theorem splice_single (s : Array Char) (m : Regex.Match) (x : String) :
    splice s 0 [(m, x)] = Text.slice s 0 m.start ++ x ++ Text.slice s m.stop s.size := rfl

/-- How the substitutes for several matches came out. -/
structure Substitutes (σ : Type) where
  result : Except Fault (List (Regex.Match × String))
  state : σ
  calls : List MatchRecord

/-- The substitutes for matches in order, up to the first that fails. -/
def substitutes (host : Host κ σ) (sub : Substitution κ) (s : Array Char) :
    List Regex.Match → σ → Substitutes σ
  | [], st => ⟨.ok [], st, []⟩
  | m :: rest, st =>
    let x := sub.apply host s m st
    match x.result with
    | .error f => ⟨.error f, x.state, x.calls⟩
    | .ok t =>
      let others := substitutes host sub s rest x.state
      ⟨others.result.map ((m, t) :: ·), others.state, x.calls ++ others.calls⟩

def printedIf (verbose : Bool) (p : Pass) : List Pass := if verbose then [p] else []

/-- One pass that replaces every match. -/
def replaceAll (host : Host κ σ) (verbose : Bool) (r : Regex) (sub : Substitution κ)
    (before : String) (st : σ) : Outcome σ :=
  let s := Text.chars before
  let xs := substitutes host sub s (r.matchList s) st
  match xs.result with
  | .error f => ⟨.error f, xs.state, xs.calls, []⟩
  | .ok ms =>
    let after := splice s 0 ms
    ⟨.ok after, xs.state, xs.calls, printedIf verbose ⟨r.source, .only, before, after⟩⟩

/-- At most `left` passes, of `limit` in all, that each replace the first match. -/
def replaceUpTo (host : Host κ σ) (verbose : Bool) (r : Regex) (sub : Substitution κ)
    (limit : Nat) : (left : Nat) → (before : String) → σ → Outcome σ
  | 0, before, st => .done before st
  | left + 1, before, st =>
    let s := Text.chars before
    match r.find? s with
    | none => .done before st
    | some m =>
      let x := sub.apply host s m st
      match x.result with
      | .error f => ⟨.error f, x.state, x.calls, []⟩
      | .ok t =>
        let after := splice s 0 [(m, t)]
        let pass : Pass := ⟨r.source, .ofLimit (limit - left) limit, before, after⟩
        (replaceUpTo host verbose r sub limit left after x.state).after x.calls
          (printedIf verbose pass)

/-- Arguments that passed every check. -/
structure Job (κ : Type) where
  subject : String
  regex : Regex
  substitution : Substitution κ
  limit : Option Nat

/-- The checks, from left to right. -/
def Job.check [Text.CharacterNames] (nullIsUnlimited : Bool)
    (subject pattern replacement limit : Value κ) : Except Fault (Job κ) :=
  match subject.text? with
  | none => .error (.cause .subjectNotText)
  | some s => do
    let r ← patternOf pattern
    let sub ← Substitution.ofValue replacement
    let l ← limitOf nullIsUnlimited limit
    return ⟨s, r, sub, l⟩

def Job.run (host : Host κ σ) (verbose : Bool) (j : Job κ) (st : σ) : Outcome σ :=
  match j.limit with
  | none => replaceAll host verbose j.regex j.substitution j.subject st
  | some n => replaceUpTo host verbose j.regex j.substitution n n j.subject st

/-- Replaces matches of `pattern` in `subject`, at most `limit` of them. -/
def replace [Text.CharacterNames] (host : Host κ σ) (verbose nullIsUnlimited : Bool)
    (subject pattern replacement limit : Value κ) (st : σ) : Outcome σ :=
  match Job.check nullIsUnlimited subject pattern replacement limit with
  | .error f => .failed f st
  | .ok j => j.run host verbose st

end FindReplace
