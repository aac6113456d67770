import FindReplace.Proofs.Matches

/-!
# The first way

Matching tries its ways in an order. If what follows matches from where the first of them leads, no
other is tried. So for a tree whose first way is known it is enough to follow that one: through a
sequence from part to part, through an alternative into its first branch that has a way at all, and
through a greedy repetition round by round until no further round is possible.

What happens if the first way is given up again is not said here.
-/
namespace FindReplace.Regex

theorem span_append {α : Type} {p : α → Bool} {xs rest : List α} (h : ∀ c ∈ xs, p c = true)
    (hstop : ∀ c ∈ rest.head?, p c = false) :
    (xs ++ rest).takeWhile p = xs ∧ (xs ++ rest).dropWhile p = rest := by
  rw [List.takeWhile_append_of_pos h, List.dropWhile_append_of_pos h]
  cases rest with
  | nil => exact ⟨List.append_nil xs, rfl⟩
  | cons c rest =>
      have hc : ¬p c = true := by simp [hstop c rfl]
      rw [List.takeWhile_cons_of_neg hc, List.dropWhile_cons_of_neg hc]
      exact ⟨List.append_nil xs, rfl⟩

section position
variable {text : Array Char} {pos : Nat} {c : Char} {xs rest : List Char}

theorem drop_succ (h : text.toList.drop pos = c :: rest) : text.toList.drop (pos + 1) = rest := by
  rw [← List.tail_drop, h, List.tail_cons]

theorem drop_add (h : text.toList.drop pos = xs ++ rest) :
    text.toList.drop (pos + xs.length) = rest := by
  rw [← List.drop_drop, h, List.drop_left]

theorem lt_size_of_drop (h : text.toList.drop pos = c :: rest) : pos < text.size := by
  have hlength := congrArg List.length h
  rw [List.length_drop, Array.length_toList, List.length_cons] at hlength
  omega

theorem add_le_size_of_drop (hpos : pos ≤ text.size) (h : text.toList.drop pos = xs ++ rest) :
    pos + xs.length ≤ text.size := by
  have hlength := congrArg List.length h
  rw [List.length_drop, Array.length_toList, List.length_append] at hlength
  omega

end position

namespace Matching

/-- From `s` the first way of `m` leads to `e`. -/
def Prefers (m : Matching) (s e : Point) : Prop :=
  ∀ ⦃k : Continuation⦄ ⦃r : Point⦄, k e = some r → m s k = some r

def Fails (m : Matching) (s : Point) : Prop := ∀ k, m s k = none

/-- From `s` so many rounds of `m`, each by its first way and none empty, lead to `e`. -/
inductive Rounds (m : Matching) : Point → Nat → Point → Prop
  | done (s : Point) : Rounds m s 0 s
  | round {s f e : Point} {n : Nat} : m.Prefers s f → s.pos < f.pos → Rounds m f n e →
      Rounds m s (n + 1) e

variable {m : Matching} {s e f : Point} {n : Nat}

theorem Rounds.add_le (h : Rounds m s n e) : s.pos + n ≤ e.pos := by
  induction h with
  | done s => exact Nat.le_refl _
  | round _ hpos _ ih => omega

theorem Rounds.times (h : Rounds m s n e) : (times m n).Prefers s e := by
  induction h with
  | done s => exact fun k r hr => hr
  | round hm _ _ ih =>
      intro k r hr
      apply hm
      exact ih hr

/-- A greedy repetition goes on until no more rounds are allowed or possible. -/
theorem Rounds.greedy (h : Rounds m s n e) {fuel : Nat} {left last : Option Nat}
    (hend : left = some n ∨ m.Fails e) (hfuel : n < fuel) (hlast : last ≠ some s.pos)
    (hleft : ∀ b ∈ left, n ≤ b) : (greedy m fuel left last).Prefers s e := by
  induction h generalizing fuel left last with
  | done s =>
      obtain ⟨fuel, rfl⟩ := Nat.exists_eq_succ_of_ne_zero (Nat.ne_zero_of_lt hfuel)
      intro k r hr
      rw [Matching.greedy]
      rcases hend with rfl | hfails
      · exact hr
      · split
        · rw [hfails]
          exact hr
        · exact hr
  | @round s f e n hm hpos _ ih =>
      obtain ⟨fuel, rfl⟩ := Nat.exists_eq_succ_of_ne_zero (Nat.ne_zero_of_lt hfuel)
      intro k r hr
      have hmore : (anyMore left && last != some s.pos) = true := by
        rw [Bool.and_eq_true]
        constructor
        · rcases left with _ | _ | b
          · rfl
          · have := hleft 0 rfl
            omega
          · rfl
        · simpa using hlast
      have hnext : (Matching.greedy m fuel (oneLess left) (some s.pos)).Prefers f e := by
        apply ih
        · rcases hend with rfl | hfails
          · exact .inl rfl
          · exact .inr hfails
        · omega
        · intro hsame
          have := Option.some.inj hsame
          omega
        · intro b hb
          obtain ⟨b', hb', rfl⟩ := Option.map_eq_some_iff.1 hb
          have := hleft b' hb'
          omega
      rw [Matching.greedy, if_pos hmore, hm (hnext hr)]

end Matching

open Matching (Fails Prefers Rounds)

section nodes
variable {text : Array Char} {a b : Node} {s e f : Point}

theorem prefers_empty (text : Array Char) (s : Point) : Prefers (Node.empty.walk text) s s :=
  fun _ _ hr => hr

theorem prefers_seq (ha : Prefers (a.walk text) s e) (hb : Prefers (b.walk text) e f) :
    Prefers ((Node.seq a b).walk text) s f := by
  intro k r hr
  apply ha
  exact hb hr

theorem prefers_alt_left (ha : Prefers (a.walk text) s e) :
    Prefers ((Node.alt a b).walk text) s e := by
  intro k r hr
  rw [Node.walk, ha hr]

theorem prefers_alt_right (ha : Fails (a.walk text) s) (hb : Prefers (b.walk text) s e) :
    Prefers ((Node.alt a b).walk text) s e := by
  intro k r hr
  rw [Node.walk, ha]
  exact hb hr

theorem prefers_capture (n : Nat) (hb : Prefers (b.walk text) s e) :
    Prefers ((Node.capture n b).walk text) s (e.setGroup n ⟨s.pos, e.pos⟩) := by
  intro k r hr
  exact hb hr

/-- The rounds that a repetition asks for, and then all that it can get. -/
theorem prefers_repetition {least n : Nat} {greatest : Option Nat}
    (hleast : Rounds (b.walk text) s least e) (hmore : Rounds (b.walk text) e n f)
    (hend : greatest = some (least + n) ∨ Fails (b.walk text) f) (hsize : f.pos ≤ text.size)
    (hgreatest : ∀ g ∈ greatest, least + n ≤ g) :
    Prefers ((Node.repetition .greedy least greatest b).walk text) s f := by
  have hfuel : n < text.size - e.pos + 2 := by
    have := hmore.add_le
    omega
  have hgreedy : (Matching.greedy (b.walk text) (text.size - e.pos + 2)
      (greatest.map (· - least)) none).Prefers e f := by
    refine hmore.greedy ?_ hfuel (by simp) ?_
    · rcases hend with rfl | hfails
      · exact .inl (by simp)
      · exact .inr hfails
    · intro b hb
      obtain ⟨g, hg, rfl⟩ := Option.map_eq_some_iff.1 hb
      have := hgreatest g hg
      omega
  intro k r hr
  apply hleast.times
  exact hgreedy hr

theorem fails_seq (ha : Fails (a.walk text) s) : Fails ((Node.seq a b).walk text) s :=
  fun _ => ha _

theorem fails_alt (ha : Fails (a.walk text) s) (hb : Fails (b.walk text) s) :
    Fails ((Node.alt a b).walk text) s := by
  intro k
  rw [Node.walk, ha]
  exact hb k

theorem fails_capture (n : Nat) (hb : Fails (b.walk text) s) :
    Fails ((Node.capture n b).walk text) s := fun _ => hb _

theorem fails_repetition {greed : Greed} {least : Nat} {greatest : Option Nat}
    (hleast : least ≠ 0) (hb : Fails (b.walk text) s) :
    Fails ((Node.repetition greed least greatest b).walk text) s := by
  obtain ⟨least, rfl⟩ := Nat.exists_eq_succ_of_ne_zero hleast
  intro k
  rw [Node.walk]
  cases greed with
  | greedy => exact hb _
  | lazy => exact hb _
  | possessive => simp only [Matching.repeated, Matching.times, Matching.once, hb some]

end nodes

section tests
variable {text : Array Char} {pos : Nat} {c : Char} {xs rest : List Char} {t : CharTest}
variable {kind : Char → Bool} {groups : Array (Option Span)}

theorem accepts_one (c : Char) (negated ascii : Bool) (d : Char) :
    (CharTest.one c.toNat negated ⟨false, ascii⟩).accepts d.toNat = ((d == c) != negated) := by
  have hcode : (d.toNat == c.toNat) = (d == c) := by
    rw [Bool.eq_iff_iff, beq_iff_eq, beq_iff_eq, ← Char.toNat_inj]
  rw [CharTest.accepts, sameLetter, Bool.false_and, ← hcode]
  rfl

theorem walk_test (ht : ∀ c, t.accepts c.toNat = kind c) (k : Continuation)
    (groups : Array (Option Span)) :
    (Node.test t).walk text ⟨pos, groups⟩ k =
      if (text.toList.drop pos).head?.any kind then k ⟨pos + 1, groups⟩ else none := by
  rw [Node.walk, charAt, ← Array.getElem?_toList, ← List.head?_drop]
  cases (text.toList.drop pos).head? with
  | none => rfl
  | some c => simp only [Option.map_some, ht, Option.any_some]

theorem prefers_test (ht : ∀ c, t.accepts c.toNat = kind c) (h : text.toList.drop pos = c :: rest)
    (hc : kind c = true) :
    Prefers ((Node.test t).walk text) ⟨pos, groups⟩ ⟨pos + 1, groups⟩ := by
  intro k r hr
  rw [walk_test ht, h, List.head?_cons, Option.any_some, if_pos hc]
  exact hr

theorem fails_test (ht : ∀ c, t.accepts c.toNat = kind c)
    (h : ∀ c ∈ (text.toList.drop pos).head?, kind c = false) :
    Fails ((Node.test t).walk text) ⟨pos, groups⟩ := by
  intro k
  have hnone : (text.toList.drop pos).head?.any kind = false := by
    rw [Option.any_eq_false]
    exact fun c hc => by simp [h c hc]
  rw [walk_test ht, hnone]
  rfl

/-- A test has one way only, so what fails behind it fails altogether. -/
theorem fails_behind_test {b : Node} (ht : ∀ c, t.accepts c.toNat = kind c)
    (hb : Fails (b.walk text) ⟨pos + 1, groups⟩) :
    Fails ((Node.seq (.test t) b).walk text) ⟨pos, groups⟩ := by
  intro k
  rw [Node.walk, walk_test ht]
  split
  · exact hb k
  · rfl

theorem rounds_test (ht : ∀ c, t.accepts c.toNat = kind c) (h : text.toList.drop pos = xs ++ rest)
    (hxs : ∀ c ∈ xs, kind c = true) :
    Rounds ((Node.test t).walk text) ⟨pos, groups⟩ xs.length ⟨pos + xs.length, groups⟩ := by
  induction xs generalizing pos with
  | nil => exact .done _
  | cons c xs ih =>
      have hrest := ih (drop_succ h) fun d hd => hxs d (List.mem_cons_of_mem c hd)
      rw [Nat.add_assoc, Nat.add_comm 1] at hrest
      exact .round (prefers_test ht h (hxs c List.mem_cons_self)) (Nat.lt_succ_self pos) hrest

/-- A greedy repetition of a test takes a whole run. -/
theorem prefers_run {least : Nat} (ht : ∀ c, t.accepts c.toNat = kind c) (hpos : pos ≤ text.size)
    (h : text.toList.drop pos = xs ++ rest) (hxs : ∀ c ∈ xs, kind c = true)
    (hleast : least ≤ xs.length) (hstop : ∀ c ∈ rest.head?, kind c = false) :
    Prefers ((Node.repetition .greedy least none (.test t)).walk text) ⟨pos, groups⟩
      ⟨pos + xs.length, groups⟩ := by
  have hsize := add_le_size_of_drop hpos h
  have hfront : (xs.take least).length = least := List.length_take_of_le hleast
  have hcut : text.toList.drop pos = xs.take least ++ (xs.drop least ++ rest) := by
    rw [h, ← List.append_assoc, List.take_append_drop]
  have hmiddle : pos + least + (xs.drop least).length = pos + xs.length := by
    rw [List.length_drop, Nat.add_assoc, Nat.add_sub_cancel' hleast]
  have hfirst : Rounds ((Node.test t).walk text) ⟨pos, groups⟩ (xs.take least).length
      ⟨pos + (xs.take least).length, groups⟩ :=
    rounds_test ht hcut fun c hc => hxs c (List.mem_of_mem_take hc)
  have hmore : Rounds ((Node.test t).walk text) ⟨pos + (xs.take least).length, groups⟩
      (xs.drop least).length ⟨pos + (xs.take least).length + (xs.drop least).length, groups⟩ :=
    rounds_test ht (drop_add hcut) fun c hc => hxs c (List.mem_of_mem_drop hc)
  rw [hfront] at hfirst hmore
  rw [hmiddle] at hmore
  refine prefers_repetition hfirst hmore (.inr (fails_test ht ?_)) hsize nofun
  rwa [drop_add h]

end tests

/-- The match of the whole text, by the first way that takes up all of it. -/
def fullMatch? (re : Regex) (text : Array Char) : Option Match :=
  let accept (e : Point) : Option Point := if e.pos = text.size then some e else none
  (re.node.walk text ⟨0, Array.replicate re.groupCount none⟩ accept).map fun e =>
    ⟨0, e.pos, e.groups⟩

section matching
variable {re : Regex} {text : Array Char} {pos : Nat} {e : Point}

theorem matchAt_of_prefers (re : Regex)
    (h : Prefers (re.node.walk text) ⟨pos, Array.replicate re.groupCount none⟩ e) :
    re.matchAt text pos false = some ⟨pos, e.pos, e.groups⟩ := by
  rw [matchAt, h (r := e) (by simp)]
  rfl

theorem matchAt_of_fails
    (h : Fails (re.node.walk text) ⟨pos, Array.replicate re.groupCount none⟩) :
    re.matchAt text pos false = none := by
  rw [matchAt, h]
  rfl

theorem fullMatch?_of_prefers (re : Regex)
    (h : Prefers (re.node.walk text) ⟨0, Array.replicate re.groupCount none⟩ e)
    (hend : e.pos = text.size) : re.fullMatch? text = some ⟨0, text.size, e.groups⟩ := by
  rw [fullMatch?, h (r := e) (by rw [if_pos hend])]
  rw [Option.map_some, hend]

theorem matchesFrom_of_some (hpos : pos ≤ text.size) {m : Match} (hstop : m.start < m.stop)
    (h : re.matchAt text pos false = some m) :
    re.matchesFrom text pos false = m :: re.matchesFrom text m.stop false := by
  have hfind : re.findFrom text pos false = some m := by
    unfold findFrom
    cases text.size - pos <;> simp only [search, h]
  have hnonempty : (m.start == m.stop) = false := beq_eq_false_iff_ne.2 (Nat.ne_of_lt hstop)
  simp only [matchesFrom_eq hpos, hfind, hnonempty]

theorem matchesFrom_of_none (hpos : pos < text.size) (h : re.matchAt text pos false = none) :
    re.matchesFrom text pos false = re.matchesFrom text (pos + 1) false := by
  have hleft : text.size - pos = text.size - (pos + 1) + 1 := by omega
  have hfind : re.findFrom text pos false = re.findFrom text (pos + 1) false := by
    rw [findFrom, findFrom, hleft, search, h]
  rw [matchesFrom_eq (Nat.le_of_lt hpos), matchesFrom_eq hpos, hfind]

theorem matchesFrom_of_end (hpos : pos ≤ text.size) (hend : text.toList.drop pos = [])
    (h : re.matchAt text pos false = none) : re.matchesFrom text pos false = [] := by
  have hsize : text.size - pos = 0 := by
    have hlength := congrArg List.length hend
    rwa [List.length_drop, Array.length_toList] at hlength
  have hfind : re.findFrom text pos false = none := by
    rw [findFrom, hsize, search, h]
  rw [matchesFrom_eq hpos, hfind]

end matching

end FindReplace.Regex
