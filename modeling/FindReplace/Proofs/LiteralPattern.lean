import FindReplace.Proofs.Occurrences
import FindReplace.Regex.Parse
import FindReplace.Regex.Search
import FindReplace.Text.Slice

/-!
# Patterns that stand for themselves

A pattern of ASCII letters, digits and spaces is read as one test after another, each for a single
character, and case counts. Its matches are the occurrences of the pattern's text: a search finds
the first one, and it has no groups.
-/
namespace FindReplace.Regex
open Text (chars)

/-- Characters that have no other meaning in a pattern. -/
def isLiteral (c : Char) : Bool := c.isAlphanum || c == ' '

def literalNode (c : Char) : Node := .test (.one c.toNat false ⟨false, false⟩)

def literal (p : String) : FindReplace.Regex :=
  ⟨p, Node.sequence (p.toList.map literalNode), 0, []⟩

section reading

theorem ne_of_isLiteral {c d : Char} (hc : isLiteral c = true) (hd : isLiteral d = false) :
    c ≠ d := by
  rintro rfl
  rw [hc] at hd
  cases hd

theorem tokensFrom_literal {c : Char} (hc : isLiteral c = true) (pos : Nat) (rest : List Char) :
    tokensFrom pos (c :: rest) = ⟨pos, false, c⟩ :: tokensFrom (pos + 1) rest := by
  have hslash : c ≠ '\\' := ne_of_isLiteral hc (by decide)
  rw [tokensFrom.eq_def]
  simp [hslash]

theorem length_tokensFrom_literal {cs : List Char} (h : ∀ c ∈ cs, isLiteral c = true) (pos : Nat) :
    (tokensFrom pos cs).length = cs.length := by
  induction cs generalizing pos with
  | nil => rfl
  | cons c cs ih =>
      rw [tokensFrom_literal (h c List.mem_cons_self), List.length_cons, List.length_cons,
        ih fun d hd => h d (List.mem_cons_of_mem _ hd)]

theorem endsDangling_literal {cs : List Char} (h : ∀ c ∈ cs, isLiteral c = true) :
    endsDangling cs = false := by
  induction cs with
  | nil => rfl
  | cons c cs ih =>
      have hslash : c ≠ '\\' := ne_of_isLiteral (h c List.mem_cons_self) (by decide)
      rw [endsDangling.eq_def]
      simpa [hslash] using ih fun d hd => h d (List.mem_cons_of_mem _ hd)

theorem step_literal [Text.CharacterNames] {p : Parser} (hp : p.mode = .initial) {c : Char}
    (hc : isLiteral c = true) (x : Extent) (pos : Nat) (rest : List Token) :
    p.step x ⟨pos, false, c⟩ rest = .ok (p.plain (literalNode c), rest) := by
  have hplain : p.plainToken x ⟨pos, false, c⟩ rest = .ok (p.literal c.toNat, rest) := by
    unfold Parser.plainToken
    split <;> first | rfl | (next heq => exact absurd heq (ne_of_isLiteral hc (by decide)))
  simp only [Parser.step, hplain, Parser.literal, hp]
  rfl

theorem run_literal [Text.CharacterNames] {cs : List Char} (h : ∀ c ∈ cs, isLiteral c = true)
    (x : Extent) (pos : Nat) {p : Parser} (hp : p.mode = .initial) :
    Parser.run x cs.length p (tokensFrom pos cs) =
      .ok (cs.foldl (fun p c => p.plain (literalNode c)) p, []) := by
  induction cs generalizing pos p with
  | nil => rfl
  | cons c cs ih =>
      have hc := h c List.mem_cons_self
      have hparen : Token.isPlain ⟨pos, false, c⟩ ')' = false := by
        simpa [Token.isPlain] using ne_of_isLiteral hc (by decide)
      rw [tokensFrom_literal hc, List.length_cons, Parser.run, hparen, step_literal hp hc]
      exact ih (fun d hd => h d (List.mem_cons_of_mem _ hd)) (pos + 1) hp

/-- What has been read after the letters `cs`. -/
def literalParser (cs : List Char) : Parser where
  frame := ⟨.pattern, 0, .initial, [], (cs.map fun c => ⟨literalNode c, .plain⟩).reverse⟩
  outer := []
  groups := #[]
  names := []
  behindFrom := none
  conditions := []
  flags := []

theorem foldl_plain (cs ds : List Char) :
    cs.foldl (fun p c => p.plain (literalNode c)) (literalParser ds) = literalParser (ds ++ cs) := by
  induction cs generalizing ds with
  | nil => rw [List.append_nil, List.foldl_nil]
  | cons c cs ih =>
      have hc : (literalParser ds).plain (literalNode c) = literalParser (ds ++ [c]) := by
        simp [literalParser, Parser.plain, Parser.push, Frame.push]
      rw [List.foldl_cons, hc, ih, List.append_assoc]
      rfl

theorem finish_literal (cs : List Char) {x : Extent} (hx : x.dangling = false) :
    (literalParser cs).finish x [] = .ok (Node.sequence (cs.map literalNode)) := by
  have hbody : (literalParser cs).frame.body = Node.sequence (cs.map literalNode) := by
    simp [literalParser, Frame.body, Frame.current, Node.choice, Function.comp_def]
  simp only [Parser.finish, hx, hbody]
  rfl

theorem flaw?_sequence_literal (template : Bool) (cs : List Char) :
    (Node.sequence (cs.map literalNode)).flaw? template = none := by
  induction cs with
  | nil => rfl
  | cons c cs ih => exact ih

/-- A text of letters, digits and spaces is read as the pattern that stands for it. -/
theorem parse_literal [Text.CharacterNames] {p : String} (h : ∀ c ∈ p.toList, isLiteral c = true) :
    parse p = .ok (literal p) := by
  have hrun := run_literal h (extentOf p.toList) 0 (p := literalParser []) rfl
  rw [foldl_plain, List.nil_append] at hrun
  have hstart : Parser.initial [] = literalParser [] := rfl
  have hfinish := finish_literal p.toList (x := extentOf p.toList) (endsDangling_literal h)
  simp only [parse, parseWith, length_tokensFrom_literal h, hstart, hrun, bind, Except.bind, hfinish,
    flaw?_sequence_literal]
  rfl

end reading

section matching
open Occurrences (cut?)

variable (text : Array Char)

theorem walk_literalNode (c : Char) (s : Point) (k : Continuation) :
    (literalNode c).walk text s k =
      if text.toList[s.pos]? = some c then k { s with pos := s.pos + 1 } else none := by
  rw [literalNode, Node.walk, charAt, ← Array.getElem?_toList]
  cases text.toList[s.pos]? with
  | none => simp
  | some d => simp [CharTest.accepts, sameLetter, Char.toNat_inj]

theorem walk_literal (cs : List Char) (s : Point) (k : Continuation) :
    (Node.sequence (cs.map literalNode)).walk text s k =
      if cs <+: text.toList.drop s.pos then k { s with pos := s.pos + cs.length } else none := by
  induction cs generalizing s with
  | nil => simp [Node.sequence, Node.walk]
  | cons c cs ih =>
      rw [List.map_cons, Node.sequence, Node.walk, walk_literalNode]
      cases hd : text.toList[s.pos]? with
      | none =>
          have hdrop := List.drop_eq_nil_of_le (List.getElem?_eq_none_iff.1 hd)
          simp [hdrop]
      | some d =>
          obtain ⟨hlt, hget⟩ := List.getElem?_eq_some_iff.1 hd
          have hdrop := List.drop_eq_getElem_cons hlt
          rw [hget] at hdrop
          have hpos : s.pos + 1 + cs.length = s.pos + (cs.length + 1) := by omega
          rw [hdrop, ih]
          by_cases hc : c = d
          · simp [hc, List.cons_prefix_cons, hpos]
          · simp [hc, Ne.symm hc, List.cons_prefix_cons]

theorem matchAt_literal {p : String} (hp : p ≠ "") (start : Nat) (advance : Bool) :
    (literal p).matchAt text start advance =
      if p.toList <+: text.toList.drop start then some ⟨start, start + p.length, #[]⟩ else none := by
  have hlen : p.length ≠ 0 := fun h => hp (String.length_eq_zero_iff.1 h)
  rw [Regex.matchAt, literal, walk_literal]
  split
  · simp [String.length_toList, hlen]
  · rfl

/-- A search finds the first occurrence. -/
theorem search_literal {p : String} (hp : p ≠ "") {left start : Nat} (hs : start + left = text.size)
    (advance : Bool) :
    (literal p).search text left start advance =
      (cut? p.toList (text.toList.drop start)).map fun x =>
        ⟨start + x.1.length, start + x.1.length + p.length, #[]⟩ := by
  have hne : p.toList ≠ [] := fun h => hp (String.toList_eq_nil_iff.1 h)
  induction left generalizing start advance with
  | zero =>
      have hdrop : text.toList.drop start = [] :=
        List.drop_eq_nil_of_le (by rw [Array.length_toList]; omega)
      rw [Regex.search, matchAt_literal text hp, hdrop, cut?]
      simp [hne]
  | succ left ih =>
      have hlt : start < text.toList.length := by rw [Array.length_toList]; omega
      have hdrop := List.drop_eq_getElem_cons hlt
      rw [Regex.search, matchAt_literal text hp, hdrop, cut?]
      by_cases hprefix : p.toList <+: text.toList[start] :: text.toList.drop (start + 1)
      · rw [if_pos hprefix, if_pos ⟨hne, hprefix⟩]
        simp
      · rw [if_neg hprefix, if_neg fun h => hprefix h.2, ih (by omega) false, Option.map_map]
        refine congrArg (Option.map · _) (funext fun x => ?_)
        simp only [Function.comp_apply, List.length_cons, Match.mk.injEq, and_true]
        omega

end matching

end FindReplace.Regex
