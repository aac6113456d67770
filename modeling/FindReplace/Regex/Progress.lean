import FindReplace.Regex.Matcher

/-!
Matching goes forward: whatever is matched from a point is matched through a point that is not
before it and within the text.
-/
namespace FindReplace.Regex

/-- `e` can be reached from `s` by matching in a text of `size` characters. -/
structure Reaches (size : Nat) (s e : Point) : Prop where
  forward : s.pos ≤ e.pos
  within : e.pos ≤ size
  groups : e.groups.size = s.groups.size

theorem Reaches.refl {size : Nat} {s : Point} (h : s.pos ≤ size) : Reaches size s s :=
  ⟨Nat.le_refl _, h, rfl⟩

theorem Reaches.trans {size : Nat} {s e f : Point} (h : Reaches size s e) (g : Reaches size e f) :
    Reaches size s f :=
  ⟨Nat.le_trans h.forward g.forward, g.within, g.groups.trans h.groups⟩

/-- What `m` matches, it matches through a point that it reaches. -/
def Matching.Forward (size : Nat) (m : Matching) : Prop :=
  ∀ ⦃s : Point⦄ ⦃k : Continuation⦄ ⦃r : Point⦄, s.pos ≤ size → m s k = some r →
    ∃ e, Reaches size s e ∧ k e = some r

namespace Matching

variable {size : Nat} {m : Matching}

theorem Forward.once (h : m.Forward size) : (once m).Forward size := by
  intro s k r hs hr
  unfold Matching.once at hr
  split at hr
  case h_1 e he =>
    obtain ⟨e', reach, hk⟩ := h hs he
    cases hk
    exact ⟨e, reach, hr⟩
  case h_2 => cases hr

theorem Forward.times (h : m.Forward size) (n : Nat) : (times m n).Forward size := by
  induction n with
  | zero => exact fun s k r hs hr => ⟨s, .refl hs, hr⟩
  | succ n ih =>
    intro s k r hs hr
    obtain ⟨e, reach, he⟩ := h hs hr
    obtain ⟨f, reach', hf⟩ := ih reach.within he
    exact ⟨f, reach.trans reach', hf⟩

theorem Forward.greedy (h : m.Forward size) (fuel : Nat) :
    ∀ left last, (greedy m fuel left last).Forward size := by
  induction fuel with
  | zero => exact fun _ _ s k r hs hr => ⟨s, .refl hs, hr⟩
  | succ fuel ih =>
    intro left last s k r hs hr
    rw [Matching.greedy] at hr
    split at hr
    · split at hr
      case h_1 e he =>
        cases hr
        obtain ⟨e, reach, he⟩ := h hs he
        obtain ⟨f, reach', hf⟩ := ih _ _ reach.within he
        exact ⟨f, reach.trans reach', hf⟩
      case h_2 => exact ⟨s, .refl hs, hr⟩
    · exact ⟨s, .refl hs, hr⟩

theorem Forward.lazy (h : m.Forward size) (fuel : Nat) :
    ∀ left last, (lazy m fuel left last).Forward size := by
  induction fuel with
  | zero => exact fun _ _ s k r hs hr => ⟨s, .refl hs, hr⟩
  | succ fuel ih =>
    intro left last s k r hs hr
    rw [Matching.lazy] at hr
    split at hr
    case h_1 e he =>
      cases hr
      exact ⟨s, .refl hs, he⟩
    case h_2 =>
      split at hr
      · obtain ⟨e, reach, he⟩ := h hs hr
        obtain ⟨f, reach', hf⟩ := ih _ _ reach.within he
        exact ⟨f, reach.trans reach', hf⟩
      · cases hr

theorem Forward.possessive (h : m.Forward size) (fuel : Nat) :
    ∀ left, (possessive m fuel left).Forward size := by
  induction fuel with
  | zero => exact fun _ s k r hs hr => ⟨s, .refl hs, hr⟩
  | succ fuel ih =>
    intro left s k r hs hr
    rw [Matching.possessive] at hr
    split at hr
    · split at hr
      case h_1 e he =>
        obtain ⟨e', reach, hk⟩ := h hs he
        cases hk
        split at hr
        · exact ⟨e, reach, hr⟩
        · obtain ⟨f, reach', hf⟩ := ih _ reach.within hr
          exact ⟨f, reach.trans reach', hf⟩
      case h_2 => exact ⟨s, .refl hs, hr⟩
    · exact ⟨s, .refl hs, hr⟩

theorem Forward.repeated (h : m.Forward size) (greed : Greed) (least : Nat)
    (greatest : Option Nat) : (repeated m size greed least greatest).Forward size := by
  intro s k r hs hr
  cases greed <;> simp only [Matching.repeated] at hr
  · obtain ⟨e, reach, he⟩ := h.times least hs hr
    obtain ⟨f, reach', hf⟩ := h.greedy _ _ _ reach.within he
    exact ⟨f, reach.trans reach', hf⟩
  · obtain ⟨e, reach, he⟩ := h.times least hs hr
    obtain ⟨f, reach', hf⟩ := h.lazy _ _ _ reach.within he
    exact ⟨f, reach.trans reach', hf⟩
  · obtain ⟨e, reach, he⟩ := h.once.times least hs hr
    obtain ⟨f, reach', hf⟩ := h.possessive _ _ reach.within he
    exact ⟨f, reach.trans reach', hf⟩

theorem look_through {negated : Bool} {found : Option Point} {s r : Point} {k : Continuation}
    (hs : s.pos ≤ size) (groups : ∀ e, found = some e → e.groups.size = s.groups.size)
    (hr : look negated found s k = some r) : ∃ e, Reaches size s e ∧ k e = some r := by
  unfold Matching.look at hr
  split at hr
  case h_1 e =>
    split at hr
    · cases hr
    · exact ⟨{ e with pos := s.pos }, ⟨Nat.le_refl _, hs, groups e rfl⟩, hr⟩
  case h_2 =>
    split at hr
    · exact ⟨s, .refl hs, hr⟩
    · cases hr

end Matching

theorem charAt_lt {text : Array Char} {i n : Nat} (h : charAt text i = some n) : i < text.size := by
  simp only [charAt, Option.map_eq_some_iff] at h
  obtain ⟨c, hc, -⟩ := h
  exact (Array.getElem?_eq_some_iff.1 hc).1

theorem sameText_within {sense : Sense} {text : Array Char} {count i j : Nat}
    (h : sameText sense text count i j = true) (hj : j ≤ text.size) : j + count ≤ text.size := by
  induction count generalizing i j with
  | zero => exact hj
  | succ count ih =>
    rw [sameText] at h
    split at h
    case h_1 m n hm hn =>
      have := ih (Bool.and_eq_true_iff.1 h).2 (charAt_lt hn)
      omega
    case h_2 => cases h

theorem Node.walk_forward (text : Array Char) (node : Node) :
    Matching.Forward text.size (node.walk text) := by
  induction node with
  | empty => exact fun s k r hs hr => ⟨s, .refl hs, hr⟩
  | test t =>
    intro s k r hs hr
    rw [Node.walk] at hr
    split at hr
    case h_1 n hn =>
      split at hr
      · exact ⟨{ s with pos := s.pos + 1 }, ⟨Nat.le_succ _, charAt_lt hn, rfl⟩, hr⟩
      · cases hr
    case h_2 => cases hr
  | anchor a =>
    intro s k r hs hr
    rw [Node.walk] at hr
    split at hr
    · exact ⟨s, .refl hs, hr⟩
    · cases hr
  | seq a b iha ihb =>
    intro s k r hs hr
    obtain ⟨e, reach, he⟩ := iha hs hr
    obtain ⟨f, reach', hf⟩ := ihb reach.within he
    exact ⟨f, reach.trans reach', hf⟩
  | alt a b iha ihb =>
    intro s k r hs hr
    rw [Node.walk] at hr
    split at hr
    case h_1 e he => cases hr; exact iha hs he
    case h_2 => exact ihb hs hr
  | capture n b ih =>
    intro s k r hs hr
    obtain ⟨e, reach, he⟩ := ih hs hr
    exact ⟨e.setGroup n ⟨s.pos, e.pos⟩,
      ⟨reach.forward, reach.within, by simp [Point.setGroup, reach.groups]⟩, he⟩
  | reference n w sense =>
    intro s k r hs hr
    rw [Node.walk] at hr
    split at hr
    case h_1 v hv =>
      split at hr
      · next same =>
        exact ⟨{ s with pos := s.pos + (v.stop - v.start) },
          ⟨Nat.le_add_right _ _, sameText_within same hs, rfl⟩, hr⟩
      · cases hr
    case h_2 => cases hr
  | repetition greed least greatest b ih => exact ih.repeated greed least greatest
  | atomic b ih => exact ih.once
  | ahead negated b ih =>
    intro s k r hs hr
    refine Matching.look_through hs (fun e he => ?_) hr
    obtain ⟨e', reach, hk⟩ := ih hs he
    cases hk
    exact reach.groups
  | behind negated w b ih =>
    intro s k r hs hr
    refine Matching.look_through hs (fun e he => ?_) hr
    split at he
    · obtain ⟨e', reach, hk⟩ := ih (Nat.le_trans (Nat.sub_le _ _) hs) he
      cases hk
      exact reach.groups
    · cases he
  | conditional n y no ihy ihn =>
    intro s k r hs hr
    rw [Node.walk] at hr
    split at hr
    · exact ihy hs hr
    · exact ihn hs hr

end FindReplace.Regex
