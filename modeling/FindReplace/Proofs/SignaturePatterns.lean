import FindReplace.Proofs.Languages
import FindReplace.Proofs.NamedCharacters
import FindReplace.Proofs.SignatureGrammar

/-!
# Signatures as patterns

Signatures can be read by two patterns: one that the whole text must match, whose first group is all
parameters together, and one that is sought in that group again and again and gives a parameter at
each match. The second could pass over what it does not match, and the first could take up a text in
another way than the reader does. Neither happens.

That every signature matches follows from the first way through the pattern, along its types and
modifiers: a run of symbols or modifiers and the inside of a subtype end where their kind ends, and a
further round is not possible at the colon. That nothing else matches follows from the language of
the pattern, whatever ways there are. In the group with the parameters the first way leads from each
parameter to the next, so that nothing is left for a search to pass over.
-/
namespace FindReplace.Signature
open Regex (CharTest Matching Node Point Span)
open Regex.Matching (Fails Prefers Rounds)
open Text (chars slice)

def parameterSource : String :=
  "\n    (?P<type_symbols>\n        [bnslaofjxu] (?: < [^>]* > )?\n            |\n"
    ++ "        \\( [bnslaofjxu]+ \\)\n    )\n    (?P<modifiers> [-?+]* )\n"

/-- Parameters and a type, with the marks around them. -/
def signatureSource : String :=
  "\n        <\n        (?P<parameters> (?: " ++ parameterSource ++ " )* )\n        :\n"
    ++ "        (?P<return_type> [bnslaofjxu] (?: < [^>]* > )? )\n        >\n    "

def literalTest (c : Char) (negated : Bool) : CharTest := .one c.toNat negated ⟨false, false⟩

def oneOfTest (cs : List Char) : CharTest :=
  .oneOf (cs.map fun c => .code c.toNat) false ⟨false, false⟩

def literalNode (c : Char) : Node := .test (literalTest c false)

def subtypeNode : Node :=
  .sequence [literalNode '<', .repetition .greedy 0 none (.test (literalTest '>' true)),
    literalNode '>']

def simpleNode : Node :=
  .sequence [.test (oneOfTest typeSymbols), .repetition .greedy 0 (some 1) subtypeNode]

def unionNode : Node :=
  .sequence [literalNode '(', .repetition .greedy 1 none (.test (oneOfTest typeSymbols)),
    literalNode ')']

/-- A parameter, whose type and modifiers are the groups `n` and `n + 1`. -/
def parameterNode (n : Nat) : Node :=
  .sequence [.capture n (.alt simpleNode unionNode),
    .capture (n + 1) (.sequence [.repetition .greedy 0 none (.test (oneOfTest modifierSymbols))])]

def parameterPattern : Regex :=
  ⟨parameterSource, parameterNode 1, 2, [("type_symbols", 1), ("modifiers", 2)]⟩

def signatureNode : Node :=
  .sequence [literalNode '<',
    .capture 1 (.sequence [.repetition .greedy 0 none (parameterNode 2)]), literalNode ':',
    .capture 4 simpleNode, literalNode '>']

def signaturePattern : Regex :=
  ⟨signatureSource, signatureNode, 4,
    [("parameters", 1), ("type_symbols", 2), ("modifiers", 3), ("return_type", 4)]⟩

theorem parse_parameterSource [names : Text.CharacterNames] :
    (Regex.parseWith [.verbose] parameterSource).toOption = some parameterPattern := by
  have hnames : Regex.AgreeOn names Text.noCharacterNames parameterSource.toList :=
    Regex.agreeOn_of_not_mem _ _ (by decide +kernel)
  rw [Regex.parseWith_congr _ _ _ hnames]
  unfold Regex.parseWith parameterSource
  rw [String.toList_append]
  decide +kernel

theorem parse_signatureSource [names : Text.CharacterNames] :
    (Regex.parseWith [.verbose] signatureSource).toOption = some signaturePattern := by
  have hnames : Regex.AgreeOn names Text.noCharacterNames signatureSource.toList :=
    Regex.agreeOn_of_not_mem _ _ (by decide +kernel)
  rw [Regex.parseWith_congr _ _ _ hnames]
  unfold Regex.parseWith signatureSource parameterSource
  rw [String.toList_append, String.toList_append, String.toList_append, String.toList_append]
  decide +kernel

section tests

theorem accepts_literal (c : Char) (negated : Bool) (d : Char) :
    (literalTest c negated).accepts d.toNat = ((d == c) != negated) :=
  Regex.accepts_one c negated false d

theorem accepts_oneOf (cs : List Char) (d : Char) :
    (oneOfTest cs).accepts d.toNat = cs.contains d := by
  rw [Bool.eq_iff_iff, List.contains_iff_mem]
  simp [oneOfTest, CharTest.accepts, Regex.Member.holds, Char.toNat_inj]

end tests

section ways
variable {text : Array Char} {pos : Nat} {rest : List Char} {groups : Array (Option Span)}

theorem prefers_literal {c : Char} (h : text.toList.drop pos = c :: rest) :
    Prefers ((literalNode c).walk text) ⟨pos, groups⟩ ⟨pos + 1, groups⟩ :=
  Regex.prefers_test (accepts_literal c false) h (by simp)

theorem fails_literal {c : Char} (h : ∀ d ∈ (text.toList.drop pos).head?, d ≠ c) :
    Fails ((literalNode c).walk text) ⟨pos, groups⟩ :=
  Regex.fails_test (accepts_literal c false) fun d hd => by simp [h d hd]

theorem prefers_subtype {inner : List Char} (hinner : '>' ∉ inner)
    (h : text.toList.drop pos = '<' :: (inner ++ '>' :: rest)) :
    Prefers (subtypeNode.walk text) ⟨pos, groups⟩ ⟨pos + 1 + inner.length + 1, groups⟩ := by
  have hopened := Regex.drop_succ h
  have hkind : ∀ c ∈ inner, ((c == '>') != true) = true := by
    intro c hc
    have hne : c ≠ '>' := fun hc' => hinner (hc' ▸ hc)
    simp [hne]
  have hstop : ∀ c ∈ ('>' :: rest).head?, ((c == '>') != true) = false := by simp
  apply Regex.prefers_seq (prefers_literal h)
  apply Regex.prefers_seq
  · exact Regex.prefers_run (accepts_literal '>' true) (Regex.lt_size_of_drop h) hopened hkind
      (Nat.zero_le _) hstop
  apply Regex.prefers_seq (prefers_literal (Regex.drop_add hopened))
  exact Regex.prefers_empty text _

theorem prefers_symbol {c : Char} (hc : c ∈ typeSymbols) (h : text.toList.drop pos = c :: rest) :
    Prefers ((Node.test (oneOfTest typeSymbols)).walk text) ⟨pos, groups⟩ ⟨pos + 1, groups⟩ :=
  Regex.prefers_test (accepts_oneOf typeSymbols) h (List.contains_iff_mem.2 hc)

/-- The first way through a simple type takes it up, unless a bracket behind opens a subtype. -/
theorem prefers_simple {t : ParameterType} (ht : t.WellFormed) (hsimple : t.IsSimple)
    (h : text.toList.drop pos = t.chars ++ rest)
    (hrest : ∀ c, t = .symbol c → rest.head? ≠ some '<') :
    Prefers (simpleNode.walk text) ⟨pos, groups⟩ ⟨pos + t.chars.length, groups⟩ := by
  cases t with
  | symbol c =>
      have hfails : Fails (subtypeNode.walk text) ⟨pos + 1, groups⟩ := by
        apply Regex.fails_seq
        apply fails_literal
        rw [Regex.drop_succ h]
        rintro d hd rfl
        exact hrest c rfl hd
      apply Regex.prefers_seq (prefers_symbol ht h)
      apply Regex.prefers_seq
      · exact Regex.prefers_repetition (.done _) (.done _) (.inr hfails) (Regex.lt_size_of_drop h)
          (by simp)
      exact Regex.prefers_empty text _
  | subtyped c inner =>
      have hchars : text.toList.drop pos = c :: '<' :: (inner ++ '>' :: rest) := by
        simp [h, ParameterType.chars]
      have hlength : pos + (ParameterType.subtyped c inner).chars.length =
          pos + 1 + 1 + inner.length + 1 := by
        rw [ParameterType.length_chars_subtyped]
        omega
      have hsize : pos + 1 + 1 + inner.length + 1 ≤ text.size :=
        Regex.lt_size_of_drop (Regex.drop_add (Regex.drop_succ (Regex.drop_succ hchars)))
      rw [hlength]
      apply Regex.prefers_seq (prefers_symbol ht.1 hchars)
      apply Regex.prefers_seq
      · have hround : Rounds (subtypeNode.walk text) ⟨pos + 1, groups⟩ 1
            ⟨pos + 1 + 1 + inner.length + 1, groups⟩ := by
          apply Rounds.round (prefers_subtype ht.2 (Regex.drop_succ hchars))
          · dsimp only
            omega
          · exact .done _
        exact Regex.prefers_repetition (.done _) hround (.inl rfl) hsize (by simp)
      exact Regex.prefers_empty text _
  | union cs => exact hsimple.elim

theorem prefers_union {cs : List Char} (hne : cs ≠ []) (hcs : ∀ c ∈ cs, c ∈ typeSymbols)
    (h : text.toList.drop pos = '(' :: (cs ++ ')' :: rest)) :
    Prefers (unionNode.walk text) ⟨pos, groups⟩ ⟨pos + 1 + cs.length + 1, groups⟩ := by
  have hopened := Regex.drop_succ h
  have hkind : ∀ c ∈ cs, typeSymbols.contains c = true := fun c hc =>
    List.contains_iff_mem.2 (hcs c hc)
  have hstop : ∀ c ∈ (')' :: rest).head?, typeSymbols.contains c = false := by
    intro c hc
    cases hc
    decide
  apply Regex.prefers_seq (prefers_literal h)
  apply Regex.prefers_seq
  · exact Regex.prefers_run (accepts_oneOf typeSymbols) (Regex.lt_size_of_drop h) hopened hkind
      (List.length_pos_iff.2 hne) hstop
  apply Regex.prefers_seq (prefers_literal (Regex.drop_add hopened))
  exact Regex.prefers_empty text _

theorem fails_simple (h : ∀ c ∈ (text.toList.drop pos).head?, c ∉ typeSymbols) :
    Fails (simpleNode.walk text) ⟨pos, groups⟩ := by
  apply Regex.fails_seq
  exact Regex.fails_test (accepts_oneOf typeSymbols) fun c hc => by simpa using h c hc

theorem prefers_type {t : ParameterType} (ht : t.WellFormed)
    (h : text.toList.drop pos = t.chars ++ rest)
    (hrest : ∀ c, t = .symbol c → rest.head? ≠ some '<') :
    Prefers ((Node.alt simpleNode unionNode).walk text) ⟨pos, groups⟩
      ⟨pos + t.chars.length, groups⟩ := by
  cases t with
  | symbol c => exact Regex.prefers_alt_left (prefers_simple ht trivial h hrest)
  | subtyped c inner => exact Regex.prefers_alt_left (prefers_simple ht trivial h hrest)
  | union cs =>
      have hchars : text.toList.drop pos = '(' :: (cs ++ ')' :: rest) := by
        simp [h, ParameterType.chars]
      have hlength : pos + (ParameterType.union cs).chars.length = pos + 1 + cs.length + 1 := by
        rw [ParameterType.length_chars_union]
        omega
      rw [hlength]
      refine Regex.prefers_alt_right (fails_simple ?_) (prefers_union ht.1 ht.2 hchars)
      rw [hchars]
      intro c hc
      cases hc
      decide

def parameterGroups (groups : Array (Option Span)) (n pos : Nat) (p : Parameter) :
    Array (Option Span) :=
  (groups.setIfInBounds (n - 1) (some ⟨pos, pos + p.type.chars.length⟩)).setIfInBounds n
    (some ⟨pos + p.type.chars.length, pos + p.chars.length⟩)

theorem prefers_parameter {p : Parameter} (n : Nat) (hp : p.WellFormed) (hpos : pos ≤ text.size)
    (h : text.toList.drop pos = p.chars ++ rest) (hrest : Bounds rest) :
    Prefers ((parameterNode n).walk text) ⟨pos, groups⟩
      ⟨pos + p.chars.length, parameterGroups groups n pos p⟩ := by
  have hchars := h.trans (p.chars_append rest)
  have hstop : ∀ c ∈ rest.head?, modifierSymbols.contains c = false := fun c hc => by
    simpa using (hrest c hc).2
  have hkind : ∀ c ∈ p.modifiers, modifierSymbols.contains c = true := fun c hc =>
    List.contains_iff_mem.2 (hp.modifiers c hc)
  rw [parameterGroups, p.length_chars, ← Nat.add_assoc]
  apply Regex.prefers_seq
  · apply Regex.prefers_capture n
    exact prefers_type hp.type hchars fun _ _ => hp.head?_modifiers hrest
  apply Regex.prefers_seq
  · apply Regex.prefers_capture (n + 1)
    apply Regex.prefers_seq
    · exact Regex.prefers_run (accepts_oneOf modifierSymbols)
        (Regex.add_le_size_of_drop hpos hchars) (Regex.drop_add hchars) hkind (Nat.zero_le _) hstop
    exact Regex.prefers_empty text _
  exact Regex.prefers_empty text _

theorem fails_parameter (n : Nat)
    (h : ∀ c ∈ (text.toList.drop pos).head?, c ≠ '(' ∧ c ∉ typeSymbols) :
    Fails ((parameterNode n).walk text) ⟨pos, groups⟩ := by
  apply Regex.fails_seq
  apply Regex.fails_capture
  apply Regex.fails_alt
  · exact fails_simple fun c hc => (h c hc).2
  · apply Regex.fails_seq
    exact fails_literal fun c hc => (h c hc).1

end ways

/-- What a call is checked against: a parameter, but for the way it is written. -/
structure Traits where
  symbols : String
  usesContext : Bool
  isOptional : Bool
  isVariadic : Bool
  deriving DecidableEq, Repr

def Parameter.traits (p : Parameter) : Traits :=
  ⟨p.symbols, p.usesContext, p.isOptional, p.isVariadic⟩

def Traits.ofTexts (type modifiers : String) : Traits where
  symbols := match type.toList with
    | '(' :: cs => String.ofList cs.dropLast
    | 'a' :: '<' :: _ => "a"
    | _ => type
  usesContext := modifiers.toList.contains '-'
  isOptional := modifiers.toList.contains '?'
  isVariadic := modifiers.toList.contains '+'

theorem Traits.ofTexts_chars {p : Parameter} (hp : p.type.WellFormed) :
    Traits.ofTexts (String.ofList p.type.chars) (String.ofList p.modifiers) = p.traits := by
  obtain ⟨type, modifiers⟩ := p
  have hsymbols : (Traits.ofTexts (String.ofList type.chars) (String.ofList modifiers)).symbols =
      String.ofList type.symbols := by
    simp only [Traits.ofTexts, String.toList_ofList]
    cases type with
    | symbol c =>
        have hc : c ≠ '(' := (ne_of_mem_typeSymbols hp).1
        split
        · next heq =>
          cases heq
          exact absurd rfl hc
        · next heq => cases heq
        · rfl
    | subtyped c inner =>
        have hc : c ≠ '(' := (ne_of_mem_typeSymbols hp.1).1
        split
        · next heq =>
          cases heq
          exact absurd rfl hc
        · next heq =>
          cases heq
          rfl
        · next hother =>
          have ha : c ≠ 'a' := fun ha => hother _ (by rw [ha]; rfl)
          rw [ParameterType.symbols, if_neg ha]
    | union cs => simp [ParameterType.chars, ParameterType.symbols]
  simp only [Traits.ofTexts, Parameter.traits, Parameter.symbols,
    String.toList_ofList] at hsymbols ⊢
  rw [hsymbols]
  rfl

section scan
variable {text : Array Char} {pos : Nat} {p : Parameter} {ps : List Parameter} {rest : List Char}

def traitsOf (text : Array Char) (m : Regex.Match) : Traits :=
  .ofTexts (m.groupText text 1) (m.groupText text 2)

theorem slice_of_drop {xs : List Char} (h : text.toList.drop pos = xs ++ rest) :
    slice text pos (pos + xs.length) = String.ofList xs := by
  rw [Text.slice_eq_take_drop, h, Nat.add_sub_cancel_left, List.take_left]

def parameterMatch (pos : Nat) (p : Parameter) : Regex.Match :=
  ⟨pos, pos + p.chars.length, parameterGroups (Array.replicate 2 none) 1 pos p⟩

theorem matchAt_parameter (hp : p.WellFormed) (hpos : pos ≤ text.size)
    (h : text.toList.drop pos = p.chars ++ rest) (hrest : Bounds rest) :
    parameterPattern.matchAt text pos false = some (parameterMatch pos p) :=
  Regex.matchAt_of_prefers parameterPattern (prefers_parameter 1 hp hpos h hrest)

theorem traitsOf_parameterMatch (hp : p.type.WellFormed)
    (h : text.toList.drop pos = p.chars ++ rest) :
    traitsOf text (parameterMatch pos p) = p.traits := by
  have htype := h.trans (p.chars_append rest)
  have hfirst : (parameterMatch pos p).groupText text 1 = String.ofList p.type.chars :=
    slice_of_drop htype
  have hsecond : (parameterMatch pos p).groupText text 2 = String.ofList p.modifiers := by
    rw [← slice_of_drop (Regex.drop_add htype), Nat.add_assoc, ← p.length_chars]
    rfl
  rw [traitsOf, hfirst, hsecond, Traits.ofTexts_chars hp]

/-- A scan of parameters finds each of them, and nothing is left between them. -/
theorem matchesFrom_parameters (hps : ∀ p ∈ ps, p.WellFormed) (hpos : pos ≤ text.size)
    (h : text.toList.drop pos = ps.flatMap Parameter.chars) :
    (parameterPattern.matchesFrom text pos false).map (traitsOf text) =
      ps.map Parameter.traits := by
  induction ps generalizing pos with
  | nil =>
      have hnone : parameterPattern.matchAt text pos false = none := by
        apply Regex.matchAt_of_fails
        apply fails_parameter
        rw [h]
        exact nofun
      rw [Regex.matchesFrom_of_end hpos h hnone]
      rfl
  | cons p ps ih =>
      obtain ⟨hp, hps⟩ := List.forall_mem_cons.1 hps
      rw [List.flatMap_cons] at h
      have hnil : Bounds [] := nofun
      have hbounds : Bounds (ps.flatMap Parameter.chars) := by
        simpa using bounds_parameters hps hnil
      have hstop : pos < pos + p.chars.length := Nat.lt_add_of_pos_right p.length_chars_pos
      rw [Regex.matchesFrom_of_some hpos hstop (matchAt_parameter hp hpos h hbounds),
        List.map_cons, List.map_cons, traitsOf_parameterMatch hp.type h]
      exact congrArg _ (ih hps (Regex.add_le_size_of_drop hpos h) (Regex.drop_add h))

end scan

section whole
variable {text : Array Char} {pos : Nat} {ps : List Parameter} {rest : List Char}

theorem rounds_parameters (n : Nat) (hps : ∀ p ∈ ps, p.WellFormed) (hrest : Bounds rest)
    (hpos : pos ≤ text.size) (h : text.toList.drop pos = ps.flatMap Parameter.chars ++ rest)
    (groups : Array (Option Span)) :
    ∃ after : Array (Option Span), after.size = groups.size ∧
      Rounds ((parameterNode n).walk text) ⟨pos, groups⟩ ps.length
        ⟨pos + (ps.flatMap Parameter.chars).length, after⟩ := by
  induction ps generalizing pos groups with
  | nil => exact ⟨groups, rfl, .done _⟩
  | cons p ps ih =>
      obtain ⟨hp, hps⟩ := List.forall_mem_cons.1 hps
      rw [List.flatMap_cons, List.append_assoc] at h
      have hstop : pos < pos + p.chars.length := Nat.lt_add_of_pos_right p.length_chars_pos
      obtain ⟨after, hsize, hrounds⟩ := ih hps (Regex.add_le_size_of_drop hpos h)
        (Regex.drop_add h) (parameterGroups groups n pos p)
      rw [Nat.add_assoc, ← List.length_append, ← List.flatMap_cons] at hrounds
      refine ⟨after, ?_, .round (prefers_parameter n hp hpos h (bounds_parameters hps hrest)) hstop
        hrounds⟩
      simpa [parameterGroups] using hsize

/-- A signature matches as a whole, and its first group is all parameters. -/
theorem fullMatch?_signature {sig : Signature} (hsig : sig.WellFormed)
    (h : text.toList = sig.chars) :
    ∃ m, signaturePattern.fullMatch? text = some m ∧
      m.groupText text 1 = String.ofList (sig.parameters.flatMap Parameter.chars) := by
  obtain ⟨inner, hinner⟩ : ∃ inner, inner = sig.parameters.flatMap Parameter.chars := ⟨_, rfl⟩
  have hchars : text.toList.drop 0 =
      '<' :: (inner ++ ':' :: (sig.returns.chars ++ ['>'])) := by
    simp [h, chars, hinner]
  have hopened := Regex.drop_succ hchars
  have hcolon := Regex.drop_add hopened
  have hreturns := Regex.drop_succ hcolon
  have hclose := Regex.drop_add hreturns
  have hfails : ∀ groups,
      Fails ((parameterNode 2).walk text) ⟨0 + 1 + inner.length, groups⟩ := by
    intro groups
    apply fails_parameter
    rw [hcolon]
    intro c hc
    cases hc
    decide
  obtain ⟨after, hsize, hrounds⟩ := rounds_parameters 2 hsig.parameters (bounds_colon _)
    (Regex.lt_size_of_drop hchars) (hinner ▸ hopened) (Array.replicate 4 none)
  rw [← hinner] at hrounds
  have hway : Prefers (signatureNode.walk text) ⟨0, Array.replicate 4 none⟩
      ⟨0 + 1 + inner.length + 1 + sig.returns.chars.length + 1,
        (after.setIfInBounds 0 (some ⟨0 + 1, 0 + 1 + inner.length⟩)).setIfInBounds 3
          (some ⟨0 + 1 + inner.length + 1,
            0 + 1 + inner.length + 1 + sig.returns.chars.length⟩)⟩ := by
    apply Regex.prefers_seq (prefers_literal hchars)
    apply Regex.prefers_seq
    · apply Regex.prefers_capture 1
      apply Regex.prefers_seq
      · exact Regex.prefers_repetition (.done _) hrounds (.inr (hfails after))
          (Nat.le_of_lt (Regex.lt_size_of_drop hcolon)) (by simp)
      exact Regex.prefers_empty text _
    apply Regex.prefers_seq (prefers_literal hcolon)
    apply Regex.prefers_seq
    · apply Regex.prefers_capture 4
      exact prefers_simple hsig.returns hsig.simple hreturns (by simp)
    apply Regex.prefers_seq (prefers_literal hclose)
    exact Regex.prefers_empty text _
  have hend : 0 + 1 + inner.length + 1 + sig.returns.chars.length + 1 = text.size := by
    have hlength := congrArg List.length hchars
    simp only [List.length_drop, Array.length_toList, List.length_append, List.length_cons,
      List.length_nil] at hlength
    omega
  have hslice := slice_of_drop hopened
  rw [← hinner, ← hslice]
  refine ⟨_, Regex.fullMatch?_of_prefers signaturePattern hway hend, ?_⟩
  have hafter : after ≠ #[] := by
    rintro rfl
    simp at hsize
  simp [Regex.Match.groupText, Regex.Match.group?, Regex.Match.span?, Array.size_pos_iff, hafter]

end whole

section words
variable {w : List Char}

theorem eq_of_mem_literal {c : Char} (h : w ∈ (literalNode c).language) : w = [c] := by
  obtain ⟨d, rfl, hd⟩ := h
  rw [accepts_literal] at hd
  simpa using hd

theorem mem_of_mem_run {cs : List Char} {least : Nat}
    (h : w ∈ (Node.repetition .greedy least none (.test (oneOfTest cs))).language) :
    least ≤ w.length ∧ ∀ c ∈ w, c ∈ cs := by
  obtain ⟨hlength, hw⟩ := Node.of_mem_language_run h
  refine ⟨hlength, fun c hc => ?_⟩
  have hc := hw c hc
  rwa [accepts_oneOf, List.contains_iff_mem] at hc

theorem exists_subtype (h : w ∈ subtypeNode.language) :
    ∃ inner, '>' ∉ inner ∧ w = '<' :: inner ++ ['>'] := by
  obtain ⟨_, hopen, _, ⟨inner, hinner, _, ⟨_, hclose, _, rfl, rfl⟩, rfl⟩, rfl⟩ := h
  cases eq_of_mem_literal hopen
  cases eq_of_mem_literal hclose
  refine ⟨inner, fun hmem => ?_, by simp⟩
  have hpass := (Node.of_mem_language_run hinner).2 '>' hmem
  rw [accepts_literal] at hpass
  simp at hpass

theorem exists_simple (h : w ∈ simpleNode.language) :
    ∃ t : ParameterType, t.WellFormed ∧ t.IsSimple ∧ w = t.chars := by
  obtain ⟨_, ⟨c, rfl, hc⟩, _, ⟨_, hsubtype, _, rfl, rfl⟩, rfl⟩ := h
  rw [accepts_oneOf, List.contains_iff_mem] at hc
  obtain ⟨rounds, rfl, -, hmost, hrounds⟩ := Node.exists_rounds hsubtype
  have hmost := hmost 1 rfl
  rcases rounds with _ | ⟨v, _ | ⟨v', rounds⟩⟩
  · exact ⟨.symbol c, hc, trivial, rfl⟩
  · obtain ⟨inner, hinner, rfl⟩ := exists_subtype (hrounds v List.mem_cons_self)
    exact ⟨.subtyped c inner, ⟨hc, hinner⟩, trivial, by simp [ParameterType.chars]⟩
  · simp at hmost

theorem exists_union (h : w ∈ unionNode.language) :
    ∃ cs, cs ≠ [] ∧ (∀ c ∈ cs, c ∈ typeSymbols) ∧ w = (ParameterType.union cs).chars := by
  obtain ⟨_, hopen, _, ⟨cs, hcs, _, ⟨_, hclose, _, rfl, rfl⟩, rfl⟩, rfl⟩ := h
  cases eq_of_mem_literal hopen
  cases eq_of_mem_literal hclose
  obtain ⟨hlength, hcs⟩ := mem_of_mem_run hcs
  exact ⟨cs, List.ne_nil_of_length_pos hlength, hcs, by simp [ParameterType.chars]⟩

theorem exists_parameter {n : Nat} (h : w ∈ (parameterNode n).language) :
    ∃ p : Parameter, p.WellFormed ∧ w = p.chars := by
  obtain ⟨_, htype, _, ⟨_, ⟨modifiers, hmodifiers, _, rfl, rfl⟩, _, rfl, rfl⟩, rfl⟩ := h
  have hmodifiers := (mem_of_mem_run hmodifiers).2
  rcases htype with hsimple | hunion
  · obtain ⟨t, ht, -, rfl⟩ := exists_simple hsimple
    exact ⟨⟨t, modifiers⟩, ⟨ht, hmodifiers⟩, by simp [Parameter.chars]⟩
  · obtain ⟨cs, hne, hcs, rfl⟩ := exists_union hunion
    exact ⟨⟨.union cs, modifiers⟩, ⟨⟨hne, hcs⟩, hmodifiers⟩, by simp [Parameter.chars]⟩

theorem exists_parameters {rounds : List (List Char)} {n : Nat}
    (h : ∀ v ∈ rounds, v ∈ (parameterNode n).language) :
    ∃ ps : List Parameter, (∀ p ∈ ps, p.WellFormed) ∧
      rounds.flatten = ps.flatMap Parameter.chars := by
  induction rounds with
  | nil => exact ⟨[], nofun, rfl⟩
  | cons v rounds ih =>
      obtain ⟨hv, hrounds⟩ := List.forall_mem_cons.1 h
      obtain ⟨p, hp, rfl⟩ := exists_parameter hv
      obtain ⟨ps, hps, hflatten⟩ := ih hrounds
      refine ⟨p :: ps, List.forall_mem_cons.2 ⟨hp, hps⟩, ?_⟩
      rw [List.flatten_cons, List.flatMap_cons, hflatten]

/-- The words of the pattern are the texts of signatures. -/
theorem exists_signature (h : w ∈ signatureNode.language) :
    ∃ sig : Signature, sig.WellFormed ∧ sig.chars = w := by
  obtain ⟨_, hopen, _, ⟨_, ⟨_, hparameters, _, rfl, rfl⟩, _, ⟨_, hcolon, _,
    ⟨_, hreturns, _, ⟨_, hclose, _, rfl, rfl⟩, rfl⟩, rfl⟩, rfl⟩, rfl⟩ := h
  cases eq_of_mem_literal hopen
  cases eq_of_mem_literal hcolon
  cases eq_of_mem_literal hclose
  obtain ⟨rounds, rfl, -, -, hrounds⟩ := Node.exists_rounds hparameters
  obtain ⟨ps, hps, hflatten⟩ := exists_parameters hrounds
  obtain ⟨t, ht, hsimple, rfl⟩ := exists_simple hreturns
  refine ⟨⟨ps, t⟩, ⟨hps, ht, hsimple⟩, ?_⟩
  simp [chars, hflatten]

end words

theorem parse_eq_ok_iff {s : String} {sig : Signature} :
    parse s = .ok sig ↔ parse? s.toList = some sig := by
  unfold parse
  cases parse? s.toList <;> simp

theorem toOption_parse (s : String) : (parse s).toOption = parse? s.toList := by
  unfold parse
  cases parse? s.toList <;> rfl

theorem text_eq_iff {s : String} {sig : Signature} : sig.text = s ↔ sig.chars = s.toList := by
  rw [text, ← String.toList_inj, String.toList_ofList]

/-- The traits of the parameters of a signature, by its two patterns. -/
def traitsByPatterns (s : String) : Option (List Traits) :=
  let text := Text.chars s
  (signaturePattern.fullMatch? text).map fun m =>
    let inner := Text.chars (m.groupText text 1)
    (parameterPattern.matchList inner).map (traitsOf inner)

theorem traitsByPatterns_eq (s : String) :
    traitsByPatterns s = (parse? s.toList).map fun sig => sig.parameters.map Parameter.traits := by
  cases hparse : parse? s.toList with
  | some sig =>
      obtain ⟨hsig, hchars⟩ := parse?_eq_some_iff.1 hparse
      have htext : (Text.chars s).toList = sig.chars := hchars.symm
      obtain ⟨m, hm, hgroup⟩ := fullMatch?_signature hsig htext
      simp only [traitsByPatterns, hm, hgroup, Option.map_some]
      rw [Regex.matchList, matchesFrom_parameters hsig.parameters (Nat.zero_le _) (by simp)]
  | none =>
      cases hmatch : signaturePattern.fullMatch? (Text.chars s) with
      | none =>
          simp only [traitsByPatterns, hmatch]
          rfl
      | some m =>
          obtain ⟨sig, hsig, hchars⟩ := exists_signature (Regex.mem_language_of_fullMatch? hmatch)
          rw [Text.toList_chars] at hchars
          rw [parse?_eq_some_iff.2 ⟨hsig, hchars⟩] at hparse
          cases hparse

/-- The texts of well-formed signatures are accepted, no two of these have one text, and all other
texts are refused. A parameter of the signature has the symbols of its type and the marks among its
modifiers, and the patterns find the same parameters in the same order. What is left as the symbols
of a subtype that is not of an array is not said here. -/
theorem parse_accepts (s : String) :
    (∀ sig, parse s = .ok sig ↔ sig.WellFormed ∧ sig.text = s) ∧
      (∀ sig sig' : Signature, sig.WellFormed ∧ sig.text = s → sig'.WellFormed ∧ sig'.text = s →
        sig = sig') ∧
      ((∀ sig : Signature, sig.WellFormed → sig.text ≠ s) →
        parse s = .error (.malformedSignature s)) ∧
      (∀ sig, parse s = .ok sig → ∀ p ∈ sig.parameters,
        (p.usesContext = true ↔ '-' ∈ p.modifiers) ∧ (p.isOptional = true ↔ '?' ∈ p.modifiers) ∧
        (p.isVariadic = true ↔ '+' ∈ p.modifiers) ∧
        match p.type with
        | .symbol c => p.symbols = String.ofList [c]
        | .subtyped c _ => c = 'a' → p.symbols = "a"
        | .union cs => p.symbols = String.ofList cs) ∧
      traitsByPatterns s =
        (parse s).toOption.map fun sig => sig.parameters.map Parameter.traits := by
  have haccepts : ∀ sig, parse s = .ok sig ↔ sig.WellFormed ∧ sig.text = s := by
    intro sig
    rw [parse_eq_ok_iff, parse?_eq_some_iff, text_eq_iff]
  refine ⟨haccepts, ?_, ?_, ?_, ?_⟩
  · intro sig sig' hsig hsig'
    have hparse := (haccepts sig).2 hsig
    rw [(haccepts sig').2 hsig'] at hparse
    exact (Except.ok.inj hparse).symm
  · intro hnone
    cases hparse : parse? s.toList with
    | none => simp only [parse, hparse]
    | some sig =>
        obtain ⟨hsig, htext⟩ := (haccepts sig).1 (parse_eq_ok_iff.2 hparse)
        exact absurd htext (hnone sig hsig)
  · intro sig _ p _
    refine ⟨List.contains_iff_mem, List.contains_iff_mem, List.contains_iff_mem, ?_⟩
    obtain ⟨type, modifiers⟩ := p
    cases type with
    | symbol c => rfl
    | subtyped c inner =>
        rintro rfl
        rfl
    | union cs => rfl
  · rw [traitsByPatterns_eq, toOption_parse]

/-- A subtype may have a colon in it. -/
example : parse? "<a<:>-(sf)+:s>".toList =
    some ⟨[⟨.subtyped 'a' [':'], ['-']⟩, ⟨.union ['s', 'f'], ['+']⟩], .symbol 's'⟩ := by decide

end FindReplace.Signature
