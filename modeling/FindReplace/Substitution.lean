import FindReplace.Fault
import FindReplace.Template
import FindReplace.Value

/-!
What is put in place of a match: the expansion of a template, or the text that a host function
makes of the match record.
-/
namespace FindReplace

/-- What calling host functions does to the state `σ` of the host. -/
structure Host (κ σ : Type) where
  call : κ → MatchRecord → σ → Except Fault (Value κ) × σ

inductive Substitution (κ : Type)
  | template (text : String)
  | callback (handle : κ)

/-- A template, a text to be used as one, or a host function. -/
def Substitution.ofValue {κ : Type} : Value κ → Except Fault (Substitution κ)
  | .template t => .ok (.template t)
  | .text t => .ok (.template t)
  | .callback k => .ok (.callback k)
  | _ => .error (.cause .replacementUnusable)

/-- A host function must give a text. -/
def requireText {κ : Type} (v : Value κ) : Except Fault String :=
  match v.text? with
  | some s => .ok s
  | none => .error (.cause (.resultNotText v.typeName))

/-- How a substitute came out: the text or a fault, the host's state, and the records that host
functions were called with. -/
structure Substitute (σ : Type) where
  result : Except Fault String
  state : σ
  calls : List MatchRecord

/-- The expansion of a template for a match. -/
def expandMatch (template : String) (s : Array Char) (m : Regex.Match) : String :=
  Template.expand m.groups.size (m.groupText s) template

/-- The substitute for the match `m` in the text `s`. -/
def Substitution.apply {κ σ : Type} (host : Host κ σ) (sub : Substitution κ) (s : Array Char)
    (m : Regex.Match) (st : σ) : Substitute σ :=
  match sub with
  | .template t => ⟨.ok (expandMatch t s m), st, []⟩
  | .callback k =>
    let r := MatchRecord.ofMatch s m
    let (v, st) := host.call k r st
    ⟨v.bind requireText, st, [r]⟩

end FindReplace
