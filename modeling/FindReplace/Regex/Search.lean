import FindReplace.Regex.Progress

/-!
Searching a text. A match is sought at each position in turn. The matches of a text are found one
after another, each from where the last one stopped; after an empty match the next one may start at
the same place only if it is not empty there. So no two matches overlap, and no two empty ones are
at one place.
-/
namespace FindReplace

namespace Regex

/-- A match: what it spans, and what each group captured, group 1 first. -/
structure Match where
  start : Nat
  stop : Nat
  groups : Array (Option Span)
  deriving DecidableEq, Repr

/-- What the group captured; group 0 is the match itself. -/
def Match.span? (m : Match) (n : Nat) : Option Span :=
  if n = 0 then some ⟨m.start, m.stop⟩ else (m.groups[n - 1]?).getD none

/-- The match that starts at `start`; with `advance`, it must not be empty. -/
def matchAt (re : Regex) (text : Array Char) (start : Nat) (advance : Bool) : Option Match :=
  let accept (e : Point) : Option Point := if advance && e.pos == start then none else some e
  (re.node.walk text ⟨start, Array.replicate re.groupCount none⟩ accept).map fun e =>
    ⟨start, e.pos, e.groups⟩

/-- The first match that starts at one of the `left + 1` positions from `start` on. -/
def search (re : Regex) (text : Array Char) : (left start : Nat) → (advance : Bool) → Option Match
  | 0, start, advance => re.matchAt text start advance
  | left + 1, start, advance =>
    match re.matchAt text start advance with
    | some m => some m
    | none => re.search text left (start + 1) false

def findFrom (re : Regex) (text : Array Char) (start : Nat) (advance : Bool) : Option Match :=
  re.search text (text.size - start) start advance

/-- The first match in the text. -/
def find? (re : Regex) (text : Array Char) : Option Match := re.findFrom text 0 false

/-- A match that a search from `start` may give. -/
structure Match.Found (re : Regex) (text : Array Char) (start : Nat) (advance : Bool)
    (m : Match) : Prop where
  from_start : start ≤ m.start
  forward : m.start ≤ m.stop
  within : m.stop ≤ text.size
  advances : advance = true → start < m.stop
  groups : m.groups.size = re.groupCount

theorem matchAt_found {re : Regex} {text : Array Char} {start : Nat} {advance : Bool} {m : Match}
    (hs : start ≤ text.size) (hm : re.matchAt text start advance = some m) :
    m.Found re text start advance ∧ m.start = start := by
  simp only [matchAt, Option.map_eq_some_iff] at hm
  obtain ⟨e, he, rfl⟩ := hm
  obtain ⟨f, reach, hf⟩ := re.node.walk_forward text hs he
  split at hf
  · cases hf
  · next stays =>
    cases hf
    refine ⟨⟨Nat.le_refl _, reach.forward, reach.within, fun ha => ?_, ?_⟩, rfl⟩
    · have : e.pos ≠ start := by simpa [ha] using stays
      exact Nat.lt_of_le_of_ne reach.forward this.symm
    · simpa using reach.groups

theorem search_found {re : Regex} {text : Array Char} {left start : Nat} {advance : Bool}
    {m : Match} (hs : start + left ≤ text.size)
    (hm : re.search text left start advance = some m) : m.Found re text start advance := by
  induction left generalizing start advance with
  | zero => exact (matchAt_found hs hm).1
  | succ left ih =>
    rw [search] at hm
    split at hm
    case h_1 m' hm' => cases hm; exact (matchAt_found (by omega) hm').1
    case h_2 =>
      have found := @ih (start + 1) false (by omega) hm
      exact ⟨by have := found.from_start; omega, found.forward, found.within,
        fun _ => by have := found.from_start; have := found.forward; omega, found.groups⟩

theorem findFrom_found {re : Regex} {text : Array Char} {start : Nat} {advance : Bool} {m : Match}
    (hs : start ≤ text.size) (hm : re.findFrom text start advance = some m) :
    m.Found re text start advance :=
  search_found (by omega) hm

set_option linter.unusedVariables false in
/-- The matches from `start` on, the first of which must not be empty there if `advance`. -/
def matchesFrom (re : Regex) (text : Array Char) (start : Nat) (advance : Bool) : List Match :=
  if hs : start ≤ text.size then
    match hm : re.findFrom text start advance with
    | none => []
    | some m => m :: re.matchesFrom text m.stop (m.start == m.stop)
  else []
termination_by 2 * (text.size - start) + (if advance then 0 else 1)
decreasing_by
  have found := findFrom_found hs hm
  have h1 := found.from_start
  have h2 := found.forward
  have h3 := found.within
  have h4 := found.advances
  by_cases hstop : start < m.stop
  · split <;> split <;> omega
  · have empty : m.start = m.stop := by omega
    cases advance
    · simp [empty]; omega
    · exact absurd (h4 rfl) hstop

/-- All matches of the text. -/
def matchList (re : Regex) (text : Array Char) : List Match := re.matchesFrom text 0 false

end Regex

end FindReplace
