import FindReplace.Proofs.FirstWay
import Mathlib.Computability.Language

/-!
# What a tree takes up

Whatever order matching tries its ways in, what it takes up is a word of the tree's language, and the
language is told by the tree alone: letters, concatenation, union and powers. Look-around and anchors
take up nothing. They only refuse, so the language is a bound from above, and so it is for references
to groups, which are allowed any word here.

The other direction, which words are found and by which way, depends on the order and is not said
here.
-/
namespace FindReplace.Regex

/-- At most so many words of `L`, one after another. -/
def atMost (L : Language Char) (most : Option Nat) : Language Char :=
  {w | ∃ n, (∀ b ∈ most, n ≤ b) ∧ w ∈ L ^ n}

theorem nil_mem_atMost (L : Language Char) (most : Option Nat) : [] ∈ atMost L most :=
  ⟨0, fun b _ => Nat.zero_le b, Language.nil_mem_one⟩

theorem append_mem_atMost {L : Language Char} {left : Option Nat} {v w : List Char}
    (hmore : Matching.anyMore left = true) (hv : v ∈ L)
    (hw : w ∈ atMost L (Matching.oneLess left)) : v ++ w ∈ atMost L left := by
  obtain ⟨n, hn, hw⟩ := hw
  refine ⟨n + 1, ?_, ?_⟩
  · rintro b rfl
    have hle := hn (b - 1) rfl
    cases b with
    | zero => simp [Matching.anyMore] at hmore
    | succ b => omega
  · rw [pow_succ']
    exact Language.append_mem_mul hv hw

/-- The words that a tree can take up. -/
def Node.language : Node → Language Char
  | .empty => 1
  | .test t => {w | ∃ c, w = [c] ∧ t.accepts c.toNat = true}
  | .anchor _ => 1
  | .seq a b => a.language * b.language
  | .alt a b => a.language + b.language
  | .capture _ b => b.language
  | .reference _ _ _ => ⊤
  | .repetition _ least greatest b =>
    b.language ^ least * atMost b.language (greatest.map (· - least))
  | .atomic b => b.language
  | .ahead _ _ => 1
  | .behind _ _ _ => 1
  | .conditional _ y n => y.language + n.language

def between (text : Array Char) (i j : Nat) : List Char := (text.extract i j).toList

@[simp] theorem between_self (text : Array Char) (i : Nat) : between text i i = [] := by
  simp [between]

theorem between_append {text : Array Char} {i j k : Nat} (hij : i ≤ j) (hjk : j ≤ k) :
    between text i j ++ between text j k = between text i k := by
  rw [between, between, between, ← Array.toList_append, Array.extract_append_extract,
    Nat.min_eq_left hij, Nat.max_eq_right hjk]

theorem between_all (text : Array Char) : between text 0 text.size = text.toList := by
  simp [between]

theorem between_of_charAt {text : Array Char} {i n : Nat} (h : charAt text i = some n) :
    ∃ c : Char, between text i (i + 1) = [c] ∧ c.toNat = n := by
  simp only [charAt, Option.map_eq_some_iff] at h
  obtain ⟨c, hc, hn⟩ := h
  obtain ⟨hi, rfl⟩ := Array.getElem?_eq_some_iff.1 hc
  refine ⟨text[i], ?_, hn⟩
  have hdrop : text.toList.drop i = text[i] :: text.toList.drop (i + 1) := by
    rw [List.drop_eq_getElem_cons (by simpa using hi), Array.getElem_toList]
  rw [between, Array.toList_extract, List.extract_eq_take_drop, hdrop, Nat.add_sub_cancel_left]
  rfl

namespace Matching

/-- What `m` matches, it matches through a point that it reaches by a word of `L`. -/
def Takes (text : Array Char) (m : Matching) (L : Language Char) : Prop :=
  ∀ ⦃s : Point⦄ ⦃k : Continuation⦄ ⦃r : Point⦄, s.pos ≤ text.size → m s k = some r →
    ∃ e, Reaches text.size s e ∧ between text s.pos e.pos ∈ L ∧ k e = some r

variable {text : Array Char} {m m' : Matching} {L L' : Language Char}

theorem exists_here {s r : Point} {k : Continuation} (hs : s.pos ≤ text.size)
    (hL : [] ∈ L) (hr : k s = some r) :
    ∃ e, Reaches text.size s e ∧ between text s.pos e.pos ∈ L ∧ k e = some r :=
  ⟨s, .refl hs, by simpa using hL, hr⟩

theorem exists_through {s e r : Point} {k : Continuation} (reach : Reaches text.size s e)
    (hL : between text s.pos e.pos ∈ L)
    (rest : ∃ f, Reaches text.size e f ∧ between text e.pos f.pos ∈ L' ∧ k f = some r)
    {M : Language Char} (hM : ∀ v ∈ L, ∀ w ∈ L', v ++ w ∈ M) :
    ∃ f, Reaches text.size s f ∧ between text s.pos f.pos ∈ M ∧ k f = some r := by
  obtain ⟨f, reach', hL', hf⟩ := rest
  refine ⟨f, reach.trans reach', ?_, hf⟩
  rw [← between_append reach.forward reach'.forward]
  exact hM _ hL _ hL'

namespace Takes

theorem mono (h : m.Takes text L) (hL : ∀ w ∈ L, w ∈ L') : m.Takes text L' := by
  intro s k r hs hr
  obtain ⟨e, reach, he, hk⟩ := h hs hr
  exact ⟨e, reach, hL _ he, hk⟩

theorem once (h : m.Takes text L) : (once m).Takes text L := by
  intro s k r hs hr
  unfold Matching.once at hr
  split at hr
  case h_1 e he =>
    obtain ⟨e', reach, hL, hk⟩ := h hs he
    cases hk
    exact ⟨e, reach, hL, hr⟩
  case h_2 => cases hr

theorem times (h : m.Takes text L) (n : Nat) : (times m n).Takes text (L ^ n) := by
  induction n with
  | zero => exact fun s k r hs hr => exists_here hs Language.nil_mem_one hr
  | succ n ih =>
      intro s k r hs hr
      obtain ⟨e, reach, hL, he⟩ := h hs hr
      rw [pow_succ']
      exact exists_through reach hL (ih reach.within he) fun _ hv _ hw =>
        Language.append_mem_mul hv hw

theorem greedy (h : m.Takes text L) (fuel : Nat) (left last : Option Nat) :
    (greedy m fuel left last).Takes text (atMost L left) := by
  induction fuel generalizing left last with
  | zero => exact fun s k r hs hr => exists_here hs (nil_mem_atMost L left) hr
  | succ fuel ih =>
      intro s k r hs hr
      rw [Matching.greedy] at hr
      split at hr
      · next hmore =>
        have hmore := (Bool.and_eq_true_iff.1 hmore).1
        split at hr
        case h_1 e he =>
          cases hr
          obtain ⟨e, reach, hL, he⟩ := h hs he
          exact exists_through reach hL (ih _ _ reach.within he) fun _ hv _ hw =>
            append_mem_atMost hmore hv hw
        case h_2 => exact exists_here hs (nil_mem_atMost L left) hr
      · exact exists_here hs (nil_mem_atMost L left) hr

theorem lazy (h : m.Takes text L) (fuel : Nat) (left last : Option Nat) :
    (lazy m fuel left last).Takes text (atMost L left) := by
  induction fuel generalizing left last with
  | zero => exact fun s k r hs hr => exists_here hs (nil_mem_atMost L left) hr
  | succ fuel ih =>
      intro s k r hs hr
      rw [Matching.lazy] at hr
      split at hr
      case h_1 e he =>
        cases hr
        exact exists_here hs (nil_mem_atMost L left) he
      case h_2 =>
        split at hr
        · next hmore =>
          have hmore := (Bool.and_eq_true_iff.1 hmore).1
          obtain ⟨e, reach, hL, he⟩ := h hs hr
          exact exists_through reach hL (ih _ _ reach.within he) fun _ hv _ hw =>
            append_mem_atMost hmore hv hw
        · cases hr

theorem possessive (h : m.Takes text L) (fuel : Nat) (left : Option Nat) :
    (possessive m fuel left).Takes text (atMost L left) := by
  induction fuel generalizing left with
  | zero => exact fun s k r hs hr => exists_here hs (nil_mem_atMost L left) hr
  | succ fuel ih =>
      intro s k r hs hr
      rw [Matching.possessive] at hr
      split at hr
      · next hmore =>
        split at hr
        case h_1 e he =>
          obtain ⟨e', reach, hL, hk⟩ := h hs he
          cases hk
          split at hr
          · refine ⟨e, reach, ?_, hr⟩
            have hlast := append_mem_atMost hmore hL (nil_mem_atMost L (oneLess left))
            rwa [List.append_nil] at hlast
          · exact exists_through reach hL (ih _ reach.within hr) fun _ hv _ hw =>
              append_mem_atMost hmore hv hw
        case h_2 => exact exists_here hs (nil_mem_atMost L left) hr
      · exact exists_here hs (nil_mem_atMost L left) hr

theorem repeated (h : m.Takes text L) (greed : Greed) (least : Nat) (greatest : Option Nat) :
    (repeated m text.size greed least greatest).Takes text
      (L ^ least * atMost L (greatest.map (· - least))) := by
  intro s k r hs hr
  cases greed <;> simp only [Matching.repeated] at hr
  · obtain ⟨e, reach, hL, he⟩ := h.times least hs hr
    exact exists_through reach hL (h.greedy _ _ _ reach.within he) fun _ hv _ hw =>
      Language.append_mem_mul hv hw
  · obtain ⟨e, reach, hL, he⟩ := h.times least hs hr
    exact exists_through reach hL (h.lazy _ _ _ reach.within he) fun _ hv _ hw =>
      Language.append_mem_mul hv hw
  · obtain ⟨e, reach, hL, he⟩ := h.once.times least hs hr
    exact exists_through reach hL (h.possessive _ _ reach.within he) fun _ hv _ hw =>
      Language.append_mem_mul hv hw

end Takes

theorem takes_look {negated : Bool} {found : Option Point} {s r : Point} {k : Continuation}
    (hs : s.pos ≤ text.size) (groups : ∀ e, found = some e → e.groups.size = s.groups.size)
    (hr : look negated found s k = some r) :
    ∃ e, Reaches text.size s e ∧ between text s.pos e.pos ∈ (1 : Language Char) ∧
      k e = some r := by
  unfold Matching.look at hr
  split at hr
  case h_1 e =>
    split at hr
    · cases hr
    · exact ⟨{ e with pos := s.pos }, ⟨Nat.le_refl _, hs, groups e rfl⟩, by simp, hr⟩
  case h_2 =>
    split at hr
    · exact exists_here hs Language.nil_mem_one hr
    · cases hr

end Matching

open Matching (exists_here exists_through takes_look)

/-- A tree takes up words of its language. -/
theorem Node.walk_takes (text : Array Char) (node : Node) :
    Matching.Takes text (node.walk text) node.language := by
  induction node with
  | empty => exact fun s k r hs hr => exists_here hs Language.nil_mem_one hr
  | test t =>
      intro s k r hs hr
      rw [Node.walk] at hr
      split at hr
      case h_1 n hn =>
        split at hr
        · next accepts =>
          obtain ⟨c, hc, rfl⟩ := between_of_charAt hn
          exact ⟨{ s with pos := s.pos + 1 }, ⟨Nat.le_succ _, charAt_lt hn, rfl⟩,
            ⟨c, hc, accepts⟩, hr⟩
        · cases hr
      case h_2 => cases hr
  | anchor a =>
      intro s k r hs hr
      rw [Node.walk] at hr
      split at hr
      · exact exists_here hs Language.nil_mem_one hr
      · cases hr
  | seq a b iha ihb =>
      intro s k r hs hr
      obtain ⟨e, reach, hL, he⟩ := iha hs hr
      exact exists_through reach hL (ihb reach.within he) fun _ hv _ hw =>
        Language.append_mem_mul hv hw
  | alt a b iha ihb =>
      intro s k r hs hr
      rw [Node.walk] at hr
      split at hr
      case h_1 e he =>
        cases hr
        exact iha.mono (fun _ => .inl) hs he
      case h_2 => exact ihb.mono (fun _ => .inr) hs hr
  | capture n b ih =>
      intro s k r hs hr
      obtain ⟨e, reach, hL, he⟩ := ih hs hr
      exact ⟨e.setGroup n ⟨s.pos, e.pos⟩,
        ⟨reach.forward, reach.within, by simp [Point.setGroup, reach.groups]⟩, hL, he⟩
  | reference n w sense =>
      intro s k r hs hr
      obtain ⟨e, reach, hk⟩ := Node.walk_forward text (.reference n w sense) hs hr
      exact ⟨e, reach, trivial, hk⟩
  | repetition greed least greatest b ih => exact ih.repeated greed least greatest
  | atomic b ih => exact ih.once
  | ahead negated b ih =>
      intro s k r hs hr
      refine takes_look hs (fun e he => ?_) hr
      obtain ⟨e', reach, -, hk⟩ := ih hs he
      cases hk
      exact reach.groups
  | behind negated w b ih =>
      intro s k r hs hr
      refine takes_look hs (fun e he => ?_) hr
      split at he
      · obtain ⟨e', reach, -, hk⟩ := ih (Nat.le_trans (Nat.sub_le _ _) hs) he
        cases hk
        exact reach.groups
      · cases he
  | conditional n y no ihy ihn =>
      intro s k r hs hr
      rw [Node.walk] at hr
      split at hr
      · exact ihy.mono (fun _ => .inl) hs hr
      · exact ihn.mono (fun _ => .inr) hs hr

section words
variable {b : Node} {t : CharTest} {w : List Char}

theorem Node.exists_rounds {greed : Greed} {least : Nat} {greatest : Option Nat}
    (hw : w ∈ (Node.repetition greed least greatest b).language) :
    ∃ rounds : List (List Char), w = rounds.flatten ∧ least ≤ rounds.length ∧
      (∀ g ∈ greatest, rounds.length ≤ max least g) ∧ ∀ v ∈ rounds, v ∈ b.language := by
  obtain ⟨u, hu, v, ⟨n, hn, hv⟩, rfl⟩ := Language.mem_mul.1 hw
  obtain ⟨first, rfl, hfirst, hfirstL⟩ := Language.mem_pow.1 hu
  obtain ⟨more, rfl, hmore, hmoreL⟩ := Language.mem_pow.1 hv
  refine ⟨first ++ more, List.flatten_append.symm, ?_, ?_, ?_⟩
  · rw [List.length_append]
    omega
  · rintro g rfl
    have := hn (g - least) rfl
    rw [List.length_append]
    omega
  · intro x hx
    rcases List.mem_append.1 hx with hx | hx
    · exact hfirstL x hx
    · exact hmoreL x hx

theorem Node.of_mem_language_run {greed : Greed} {least : Nat} {greatest : Option Nat}
    (hw : w ∈ (Node.repetition greed least greatest (.test t)).language) :
    least ≤ w.length ∧ ∀ c ∈ w, t.accepts c.toNat = true := by
  obtain ⟨rounds, rfl, hleast, -, hrounds⟩ := Node.exists_rounds hw
  clear hw
  induction rounds generalizing least with
  | nil => exact ⟨hleast, nofun⟩
  | cons v rounds ih =>
      obtain ⟨⟨c, rfl, hc⟩, hmore⟩ := List.forall_mem_cons.1 hrounds
      rw [List.length_cons] at hleast
      have hless : least - 1 ≤ rounds.length := by omega
      obtain ⟨hlength, hall⟩ := ih hless hmore
      constructor
      · rw [List.flatten_cons, List.length_append, List.length_singleton]
        omega
      · exact List.forall_mem_cons.2 ⟨hc, hall⟩

end words

/-- A text that matches as a whole is a word of the language. -/
theorem mem_language_of_fullMatch? {re : Regex} {text : Array Char} {m : Match}
    (h : re.fullMatch? text = some m) : text.toList ∈ re.node.language := by
  simp only [fullMatch?, Option.map_eq_some_iff] at h
  obtain ⟨r, hr, -⟩ := h
  obtain ⟨e, -, hL, he⟩ := re.node.walk_takes text (Nat.zero_le _) hr
  split at he
  · next hall =>
    rwa [hall, between_all] at hL
  · cases he

end FindReplace.Regex
