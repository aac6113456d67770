import FindReplace.MatchRecord

/-!
# Where the matches of a text lie

The matches of a text are found one after another, so one relation says all about where they lie:
each is a match that a search from where the last one stopped may give, and after an empty match the
search may not come back with nothing gained. That they are in order, that no two of them overlap,
that no two empty ones share a place, and that there are at most twice as many as characters and one
more, all follow from it by induction.

Nothing here says which matches a pattern has.
-/
namespace FindReplace.Regex
open Text (chars slice)

def firstRecord? (re : Regex) (s : String) : Option MatchRecord :=
  (re.find? (chars s)).map (MatchRecord.ofMatch (chars s))

def records (re : Regex) (s : String) : List MatchRecord :=
  (re.matchList (chars s)).map (MatchRecord.ofMatch (chars s))

variable {re : Regex} {text : Array Char}

/-- Matches that searches from `start` on may give one after another. -/
inductive Spaced (re : Regex) (text : Array Char) : Nat → Bool → List Match → Prop
  | nil (start : Nat) (advance : Bool) : Spaced re text start advance []
  | cons {start : Nat} {advance : Bool} {m : Match} {rest : List Match} :
      m.Found re text start advance → Spaced re text m.stop (m.start == m.stop) rest →
      Spaced re text start advance (m :: rest)

theorem matchesFrom_spaced (re : Regex) (text : Array Char) (start : Nat) (advance : Bool) :
    Spaced re text start advance (re.matchesFrom text start advance) := by
  fun_induction matchesFrom re text start advance with
  | case1 start advance hs hm => exact .nil _ _
  | case2 start advance hs m hm ih => exact .cons (findFrom_found hs hm) ih
  | case3 start advance hs => exact .nil _ _

theorem matchesFrom_eq {start : Nat} (hs : start ≤ text.size) (advance : Bool) :
    re.matchesFrom text start advance =
      match re.findFrom text start advance with
      | none => []
      | some m => m :: re.matchesFrom text m.stop (m.start == m.stop) := by
  rw [matchesFrom, dif_pos hs]
  split <;> simp_all

namespace Spaced
variable {start : Nat} {advance : Bool} {ms : List Match}

theorem forward (h : Spaced re text start advance ms) :
    ∀ m ∈ ms, start ≤ m.start ∧ m.start ≤ m.stop ∧ m.stop ≤ text.size := by
  induction h with
  | nil => simp
  | cons found _ ih =>
      intro m hm
      rcases List.mem_cons.1 hm with rfl | hm
      · exact ⟨found.from_start, found.forward, found.within⟩
      · obtain ⟨h₁, h₂, h₃⟩ := ih m hm
        have := found.from_start
        have := found.forward
        exact ⟨by omega, h₂, h₃⟩

theorem advances (h : Spaced re text start true ms) : ∀ m ∈ ms, start < m.stop := by
  cases h with
  | nil => simp
  | cons found rest =>
      intro m hm
      have hstop := found.advances rfl
      rcases List.mem_cons.1 hm with rfl | hm
      · exact hstop
      · obtain ⟨h₁, h₂, -⟩ := rest.forward m hm
        omega

/-- An empty match costs one of the searches, and any other at least two. -/
theorem length_le (h : Spaced re text start advance ms) (hs : start ≤ text.size) :
    ms.length + 2 * start + advance.toNat ≤ 2 * text.size + 1 := by
  induction h with
  | nil start advance =>
      have := Bool.toNat_le advance
      simp only [List.length_nil]
      omega
  | @cons start advance m rest found _ ih =>
      have ih := ih found.within
      have hstart := found.from_start
      have hforward := found.forward
      rw [List.length_cons]
      by_cases hempty : m.start = m.stop
      · simp only [beq_iff_eq.2 hempty, Bool.toNat_true] at ih
        cases advance with
        | false => simp only [Bool.toNat_false]; omega
        | true =>
            have := found.advances rfl
            simp only [Bool.toNat_true]
            omega
      · simp only [beq_eq_false_iff_ne.2 hempty, Bool.toNat_false] at ih
        have := Bool.toNat_le advance
        omega

end Spaced

theorem matchList_spaced (re : Regex) (text : Array Char) :
    Spaced re text 0 false (re.matchList text) := matchesFrom_spaced re text 0 false

theorem find?_found {m : Match} (h : re.find? text = some m) : m.Found re text 0 false :=
  findFrom_found (Nat.zero_le _) h

theorem Match.length_text {m : Match} (h : m.start ≤ m.stop) (hstop : m.stop ≤ text.size) :
    m.start + (m.text text).length = m.stop := by
  rw [Match.text, Text.length_slice hstop]
  omega

namespace Match.Found
variable {start : Nat} {advance : Bool} {m : Match}

theorem cut (h : m.Found re text start advance) :
    slice text start m.start ++ m.text text ++ slice text m.stop text.size =
      slice text start text.size := by
  rw [Match.text, Text.slice_append_slice h.from_start h.forward,
    Text.slice_append_slice (Nat.le_trans h.from_start h.forward) h.within]

theorem length_before (h : m.Found re text start advance) :
    (slice text start m.start).length = m.start - start :=
  Text.length_slice (Nat.le_trans h.forward h.within)

end Match.Found

end FindReplace.Regex
