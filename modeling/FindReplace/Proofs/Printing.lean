import FindReplace.Proofs.Passes

/-!
# What verbose runs print

Printing only watches. With it or without, a run makes the same calls and comes to the same text or
fault, and without it nothing is printed.

What is printed tells the run. A bounded run prints one block for each substitution, numbered from
one, and each begins with the text that the one before it ended with. The pass in which the host
function fails, and the one that finds nothing, print none. A run without a limit prints one block,
from the subject to the result, even if nothing matched; if it fails it prints none.

How a block is laid out is not said again here, but for the remark that nothing changed. Its limit
may have any length, which hosts that write no integer of more than 4300 digits do not allow.
-/
namespace FindReplace
open Text (chars)

variable {κ σ : Type}

def Outcome.quiet (o : Outcome σ) : Outcome σ := { o with printed := [] }

@[simp] theorem Outcome.quiet_after (o : Outcome σ) (calls : List MatchRecord)
    (printed : List Pass) : (o.after calls printed).quiet = o.quiet.after calls [] := rfl

section
variable (host : Host κ σ) (verbose : Bool) (r : Regex) (sub : Substitution κ)

theorem replaceAll_quiet (before : String) (st : σ) :
    (replaceAll host verbose r sub before st).quiet = replaceAll host false r sub before st := by
  cases h : (substitutes host sub (chars before) (r.matchList (chars before)) st).result with
  | error f => simp only [replaceAll, h, Outcome.quiet]
  | ok pairs => simp [replaceAll, h, Outcome.quiet, printedIf]

theorem replaceUpTo_quiet (limit left : Nat) (before : String) (st : σ) :
    (replaceUpTo host verbose r sub limit left before st).quiet =
      replaceUpTo host false r sub limit left before st := by
  fun_induction replaceUpTo host verbose r sub limit left before st with
  | case1 before st => rfl
  | case2 left before st s h =>
      rw [replaceUpTo_of_none h]
      rfl
  | case3 left before st s m h x f hx =>
      rw [replaceUpTo_of_error h hx]
      rfl
  | case4 left before st s m h x t hx after pass ih =>
      rw [replaceUpTo_of_ok h hx, Outcome.quiet_after, ih]
      rfl

theorem Job.run_quiet (j : Job κ) (st : σ) :
    (j.run host verbose st).quiet = j.run host false st := by
  cases hl : j.limit with
  | none =>
      simp only [Job.run, hl]
      exact replaceAll_quiet host verbose j.regex j.substitution j.subject st
  | some n =>
      simp only [Job.run, hl]
      exact replaceUpTo_quiet host verbose j.regex j.substitution n n j.subject st

/-- Printing has no part in anything else. -/
theorem replace_quiet [Text.CharacterNames] (nullIsUnlimited : Bool)
    (subject pattern replacement limit : Value κ) (st : σ) :
    (replace host verbose nullIsUnlimited subject pattern replacement limit st).quiet =
      replace host false nullIsUnlimited subject pattern replacement limit st := by
  cases h : Job.check nullIsUnlimited subject pattern replacement limit with
  | error f => simp only [replace, h, Outcome.failed, Outcome.quiet]
  | ok j =>
      simp only [replace, h]
      exact j.run_quiet host verbose st

end

/-- Substitutions one after another, each for the first match of the text that the one before it
left. They leave `texts` in turn and make `calls` in all. -/
inductive Substituted (host : Host κ σ) (r : Regex) (sub : Substitution κ) :
    (before : String) → σ → (texts : List String) → (calls : List MatchRecord) →
      (after : String) → σ → Prop
  | done (s : String) (st : σ) : Substituted host r sub s st [] [] s st
  | pass {before after x : String} {st st' : σ} {m : Regex.Match} {texts : List String}
      {calls : List MatchRecord} :
      r.find? (chars before) = some m →
      (sub.apply host (chars before) m st).result = .ok x →
      Substituted host r sub (splice (chars before) 0 [(m, x)])
        (sub.apply host (chars before) m st).state texts calls after st' →
      Substituted host r sub before st (splice (chars before) 0 [(m, x)] :: texts)
        ((sub.apply host (chars before) m st).calls ++ calls) after st'

theorem Substituted.getLast_eq {host : Host κ σ} {r : Regex} {sub : Substitution κ}
    {before after : String} {st st' : σ} {texts : List String} {calls : List MatchRecord}
    (h : Substituted host r sub before st texts calls after st') :
    texts.getLastD before = after := by
  induction h with
  | done s st => rfl
  | pass _ _ _ ih => rwa [List.getLastD_cons]

/-- The blocks of passes that leave `texts` in turn. The first has the number `number`, and each
begins with the text that the one before it left. -/
def blocks (source : String) (limit : Nat) :
    (number : Nat) → (before : String) → (texts : List String) → List Pass
  | _, _, [] => []
  | number, before, after :: texts =>
    ⟨source, .ofLimit number limit, before, after⟩ :: blocks source limit (number + 1) after texts

theorem map_after_blocks (source : String) (limit number : Nat) (before : String)
    (texts : List String) : (blocks source limit number before texts).map Pass.after = texts := by
  induction texts generalizing number before with
  | nil => rfl
  | cons after texts ih => rw [blocks, List.map_cons, ih]

/-- How a run of at most `left` passes ends and what it prints, if its first block has the number
`number`. -/
inductive PrintsUpTo (host : Host κ σ) (r : Regex) (sub : Substitution κ)
    (limit number left : Nat) (before : String) (st : σ) : Outcome σ → Prop
  | reached {texts : List String} {calls : List MatchRecord} {after : String} {st' : σ} :
      Substituted host r sub before st texts calls after st' → texts.length = left →
      PrintsUpTo host r sub limit number left before st
        ⟨.ok after, st', calls, blocks r.source limit number before texts⟩
  | exhausted {texts : List String} {calls : List MatchRecord} {after : String} {st' : σ} :
      Substituted host r sub before st texts calls after st' → texts.length < left →
      r.find? (chars after) = none →
      PrintsUpTo host r sub limit number left before st
        ⟨.ok after, st', calls, blocks r.source limit number before texts⟩
  | failed {texts : List String} {calls : List MatchRecord} {s : String} {st' : σ}
      {m : Regex.Match} {f : Fault} :
      Substituted host r sub before st texts calls s st' → texts.length < left →
      r.find? (chars s) = some m → (sub.apply host (chars s) m st').result = .error f →
      PrintsUpTo host r sub limit number left before st
        ⟨.error f, (sub.apply host (chars s) m st').state,
          calls ++ (sub.apply host (chars s) m st').calls,
          blocks r.source limit number before texts⟩

section
variable {host : Host κ σ} {r : Regex} {sub : Substitution κ} {limit number left : Nat}
variable {before x : String} {st : σ} {m : Regex.Match} {o : Outcome σ}

theorem PrintsUpTo.pass (hm : r.find? (chars before) = some m)
    (hx : (sub.apply host (chars before) m st).result = .ok x)
    (h : PrintsUpTo host r sub limit (number + 1) left (splice (chars before) 0 [(m, x)])
      (sub.apply host (chars before) m st).state o) :
    PrintsUpTo host r sub limit number (left + 1) before st
      (o.after (sub.apply host (chars before) m st).calls
        [⟨r.source, .ofLimit number limit, before, splice (chars before) 0 [(m, x)]⟩]) := by
  cases h with
  | reached steps hlength => exact .reached (.pass hm hx steps) (congrArg (· + 1) hlength)
  | exhausted steps hlength hnone =>
      exact .exhausted (.pass hm hx steps) (Nat.succ_lt_succ hlength) hnone
  | failed steps hlength hlast hfail =>
      rw [Outcome.after, ← List.append_assoc]
      exact .failed (.pass hm hx steps) (Nat.succ_lt_succ hlength) hlast hfail

end

/-- What the run of a call prints, by its limit. -/
def Prints (host : Host κ σ) (r : Regex) (sub : Substitution κ) (subject : String) (st : σ)
    (o : Outcome σ) : (limit : Option Nat) → Prop
  | none => (∀ after, o.result = .ok after → o.printed = [⟨r.source, .only, subject, after⟩]) ∧
      ∀ f, o.result = .error f → o.printed = []
  | some limit => PrintsUpTo host r sub limit 1 limit subject st o

/-- A run that succeeds prints its result last, if it prints at all. -/
theorem Prints.last {host : Host κ σ} {r : Regex} {sub : Substitution κ} {subject : String}
    {st : σ} {o : Outcome σ} {limit : Option Nat} (h : Prints host r sub subject st o limit)
    {after : String} (hafter : o.result = .ok after) :
    ∀ p ∈ o.printed.getLast?, p.after = after := by
  have hblocks : ∀ {limit : Nat} {texts : List String} {calls : List MatchRecord} {st' : σ},
      Substituted host r sub subject st texts calls after st' →
      ∀ p ∈ (blocks r.source limit 1 subject texts).getLast?, p.after = after := by
    intro limit texts calls st' steps p hp
    have hmap : texts.getLast? = some p.after := by
      rw [← map_after_blocks r.source limit 1 subject texts, List.getLast?_map, hp, Option.map_some]
    rw [← steps.getLast_eq, List.getLastD_eq_getLast?, hmap, Option.getD_some]
  cases limit with
  | none =>
      rw [h.1 after hafter]
      rintro p ⟨⟩
      rfl
  | some limit =>
      cases h with
      | reached steps _ => cases hafter; exact hblocks steps
      | exhausted steps _ _ => cases hafter; exact hblocks steps
      | failed _ _ _ _ => cases hafter

end FindReplace
