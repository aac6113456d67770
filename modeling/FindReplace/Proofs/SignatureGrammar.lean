import FindReplace.Proofs.FirstWay
import FindReplace.Signature

/-!
# The grammar of signatures

A signature is well formed if its types have the symbols and subtypes that they may have and its
modifiers are modifiers. Written out, well-formed signatures are exactly the texts that can be read,
and each is read as itself: nothing of a text is skipped, and no text is that of two signatures.

A subtype may have anything in it but the bracket that closes it, colons and brackets that open
another one included.
-/
namespace FindReplace.Signature

def ParameterType.IsSimple : ParameterType → Prop
  | .symbol _ => True
  | .subtyped _ _ => True
  | .union _ => False

/-- The symbols are type symbols, there is at least one, and a subtype ends where it is closed. -/
def ParameterType.WellFormed : ParameterType → Prop
  | .symbol c => c ∈ typeSymbols
  | .subtyped c inner => c ∈ typeSymbols ∧ '>' ∉ inner
  | .union cs => cs ≠ [] ∧ ∀ c ∈ cs, c ∈ typeSymbols

structure Parameter.WellFormed (p : Parameter) : Prop where
  type : p.type.WellFormed
  modifiers : ∀ c ∈ p.modifiers, c ∈ modifierSymbols

structure WellFormed (s : Signature) : Prop where
  parameters : ∀ p ∈ s.parameters, p.WellFormed
  returns : s.returns.WellFormed
  simple : s.returns.IsSimple

theorem ParameterType.length_chars_subtyped (c : Char) (inner : List Char) :
    (ParameterType.subtyped c inner).chars.length = inner.length + 3 := by
  simp [ParameterType.chars]

theorem ParameterType.length_chars_union (cs : List Char) :
    (ParameterType.union cs).chars.length = cs.length + 2 := by
  simp [ParameterType.chars]

theorem Parameter.chars_append (p : Parameter) (rest : List Char) :
    p.chars ++ rest = p.type.chars ++ (p.modifiers ++ rest) := List.append_assoc _ _ _

theorem Parameter.length_chars (p : Parameter) :
    p.chars.length = p.type.chars.length + p.modifiers.length := List.length_append

theorem Parameter.length_chars_pos (p : Parameter) : 0 < p.chars.length := by
  obtain ⟨type, modifiers⟩ := p
  cases type <;> simp [Parameter.chars, ParameterType.chars]

theorem ne_of_mem_typeSymbols {c : Char} (h : c ∈ typeSymbols) :
    c ≠ '(' ∧ c ≠ ')' ∧ c ≠ '<' ∧ c ≠ ':' ∧ c ∉ modifierSymbols := by
  have hall : typeSymbols.all (fun c =>
      decide (c ≠ '(' ∧ c ≠ ')' ∧ c ≠ '<' ∧ c ≠ ':' ∧ c ∉ modifierSymbols)) = true := by decide
  exact of_decide_eq_true (List.all_eq_true.1 hall c h)

theorem ne_of_mem_modifierSymbols {c : Char} (h : c ∈ modifierSymbols) : c ≠ '<' := by
  rintro rfl
  exact absurd h (by decide)

/-- What may follow a parameter: it is no modifier and opens no subtype. -/
def Bounds (rest : List Char) : Prop := ∀ c ∈ rest.head?, c ≠ '<' ∧ c ∉ modifierSymbols

theorem bounds_colon (rest : List Char) : Bounds (':' :: rest) := by
  intro c hc
  cases hc
  decide

theorem Parameter.WellFormed.exists_cons {p : Parameter} (h : p.WellFormed) :
    ∃ c cs, p.chars = c :: cs ∧ (c = '(' ∨ c ∈ typeSymbols) := by
  obtain ⟨type, modifiers⟩ := p
  have htype := h.type
  cases type with
  | symbol d => exact ⟨d, modifiers, rfl, .inr htype⟩
  | subtyped d inner => exact ⟨d, '<' :: inner ++ ['>'] ++ modifiers, rfl, .inr htype.1⟩
  | union ds => exact ⟨'(', ds ++ [')'] ++ modifiers, rfl, .inl rfl⟩

theorem Parameter.WellFormed.bounds {p : Parameter} (h : p.WellFormed) (rest : List Char) :
    Bounds (p.chars ++ rest) := by
  obtain ⟨c, cs, hchars, hc⟩ := h.exists_cons
  intro d hd
  rw [hchars] at hd
  cases hd
  rcases hc with rfl | hc
  · decide
  · exact ⟨(ne_of_mem_typeSymbols hc).2.2.1, (ne_of_mem_typeSymbols hc).2.2.2.2⟩

theorem Parameter.WellFormed.head?_modifiers {p : Parameter} {rest : List Char}
    (h : p.WellFormed) (hrest : Bounds rest) : (p.modifiers ++ rest).head? ≠ some '<' := by
  cases hm : p.modifiers with
  | nil => exact fun hc => (hrest '<' hc).1 rfl
  | cons c modifiers =>
      intro hc
      cases hc
      exact ne_of_mem_modifierSymbols (h.modifiers '<' (by rw [hm]; exact List.mem_cons_self)) rfl

theorem Parameter.WellFormed.ne_colon {p : Parameter} (h : p.WellFormed) (s rest : List Char) :
    p.chars ++ s ≠ ':' :: rest := by
  obtain ⟨c, cs, hchars, hc⟩ := h.exists_cons
  intro hcolon
  rw [hchars] at hcolon
  cases hcolon
  rcases hc with hc | hc
  · exact absurd hc (by decide)
  · exact (ne_of_mem_typeSymbols hc).2.2.2.1 rfl

theorem bounds_parameters {ps : List Parameter} {rest : List Char}
    (h : ∀ p ∈ ps, p.WellFormed) (hrest : Bounds rest) :
    Bounds (ps.flatMap Parameter.chars ++ rest) := by
  cases ps with
  | nil => exact hrest
  | cons p ps =>
      rw [List.flatMap_cons, List.append_assoc]
      exact (h p List.mem_cons_self).bounds _

section types
variable {t : ParameterType} {s rest : List Char}

theorem span_subtype {inner : List Char} (h : '>' ∉ inner) (rest : List Char) :
    (inner ++ '>' :: rest).takeWhile (· != '>') = inner ∧
      (inner ++ '>' :: rest).dropWhile (· != '>') = '>' :: rest := by
  apply Regex.span_append
  · intro c hc
    rw [bne_iff_ne]
    rintro rfl
    exact h hc
  · simp

theorem readSimple_chars (h : t.WellFormed) (hsimple : t.IsSimple)
    (hrest : ∀ c, t = .symbol c → rest.head? ≠ some '<') :
    readSimple (t.chars ++ rest) = some (t, rest) := by
  cases t with
  | symbol c =>
      have hc : typeSymbols.contains c = true := List.contains_iff_mem.2 h
      rw [ParameterType.chars, List.singleton_append, readSimple, if_pos hc]
      rintro rest rfl
      exact hrest c rfl rfl
  | subtyped c inner =>
      have hc : typeSymbols.contains c = true := List.contains_iff_mem.2 h.1
      obtain ⟨htake, hdrop⟩ := span_subtype h.2 rest
      have hchars : (ParameterType.subtyped c inner).chars ++ rest =
          c :: '<' :: (inner ++ '>' :: rest) := by simp [ParameterType.chars]
      rw [hchars]
      simp only [readSimple, hc, if_true, htake, hdrop]
  | union cs => exact hsimple.elim

theorem readType_chars (h : t.WellFormed)
    (hrest : ∀ c, t = .symbol c → rest.head? ≠ some '<') :
    readType (t.chars ++ rest) = some (t, rest) := by
  cases t with
  | symbol c =>
      have hc : c ≠ '(' := (ne_of_mem_typeSymbols h).1
      rw [readType]
      · exact readSimple_chars h trivial hrest
      · simp [ParameterType.chars, hc]
  | subtyped c inner =>
      have hc : c ≠ '(' := (ne_of_mem_typeSymbols h.1).1
      rw [readType]
      · exact readSimple_chars h trivial hrest
      · simp [ParameterType.chars, hc]
  | union cs =>
      have hcs : ∀ c ∈ cs, typeSymbols.contains c = true := fun c hc =>
        List.contains_iff_mem.2 (h.2 c hc)
      have hstop : ∀ c ∈ (')' :: rest).head?, typeSymbols.contains c = false := by
        intro c hc
        cases hc
        decide
      have hspan := Regex.span_append hcs hstop
      have hchars : (ParameterType.union cs).chars ++ rest = '(' :: (cs ++ ')' :: rest) := by
        simp [ParameterType.chars]
      have hne : cs.isEmpty = false := by simpa using h.1
      rw [hchars, readType, readUnion, hspan.1, hspan.2, hne]
      rfl

theorem eq_chars_of_readSimple (h : readSimple s = some (t, rest)) :
    s = t.chars ++ rest ∧ t.WellFormed ∧ t.IsSimple := by
  unfold readSimple at h
  split at h
  · cases h
  · next c s =>
    split at h
    · next hc =>
      have hc : c ∈ typeSymbols := List.contains_iff_mem.1 hc
      split at h
      · next s =>
        split at h
        · next d after hdrop =>
          cases h
          have hd : d = '>' := by
            have hstop := List.head?_dropWhile_not (· != '>') s
            rw [hdrop] at hstop
            simpa using hstop
          have hinner : '>' ∉ s.takeWhile (· != '>') := fun hmem => by
            simpa using List.all_eq_true.1 List.all_takeWhile '>' hmem
          have hs := List.takeWhile_append_dropWhile (p := (· != '>')) (l := s)
          rw [hdrop, hd] at hs
          refine ⟨?_, ⟨hc, hinner⟩, trivial⟩
          simp [ParameterType.chars, hs]
        · cases h
      · cases h
        exact ⟨rfl, hc, trivial⟩
    · cases h

theorem eq_chars_of_readType (h : readType s = some (t, rest)) :
    s = t.chars ++ rest ∧ t.WellFormed := by
  unfold readType at h
  split at h
  · next s =>
    unfold readUnion at h
    dsimp only at h
    split at h
    · next after hdrop =>
      split at h
      · cases h
      · next hne =>
        cases h
        have hs := List.takeWhile_append_dropWhile (p := typeSymbols.contains) (l := s)
        rw [hdrop] at hs
        refine ⟨by simp [ParameterType.chars, hs], by simpa using hne, fun c hc => ?_⟩
        exact List.contains_iff_mem.1 (List.all_eq_true.1 List.all_takeWhile c hc)
    · cases h
  · obtain ⟨hs, ht, -⟩ := eq_chars_of_readSimple h
    exact ⟨hs, ht⟩

end types

section parameters
variable {p : Parameter} {ps : List Parameter} {s rest : List Char}

theorem readParameter_chars (h : p.WellFormed) (hrest : Bounds rest) :
    readParameter (p.chars ++ rest) = some (p, rest) := by
  have hmodifiers : ∀ c ∈ p.modifiers, modifierSymbols.contains c = true := fun c hc =>
    List.contains_iff_mem.2 (h.modifiers c hc)
  have hstop : ∀ c ∈ rest.head?, modifierSymbols.contains c = false := fun c hc => by
    simpa using (hrest c hc).2
  obtain ⟨htake, hdrop⟩ := Regex.span_append hmodifiers hstop
  rw [Parameter.chars, List.append_assoc, readParameter, readType_chars h.type fun _ _ =>
    h.head?_modifiers hrest]
  simp only [Option.bind_eq_bind, Option.bind_some, htake, hdrop]
  rfl

theorem eq_chars_of_readParameter (h : readParameter s = some (p, rest)) :
    s = p.chars ++ rest ∧ p.WellFormed := by
  simp only [readParameter, Option.bind_eq_bind, Option.bind_eq_some_iff] at h
  obtain ⟨⟨t, after⟩, ht, h⟩ := h
  cases h
  obtain ⟨hs, hwell⟩ := eq_chars_of_readType ht
  constructor
  · rw [Parameter.chars, List.append_assoc, List.takeWhile_append_dropWhile]
    exact hs
  · refine ⟨hwell, fun c hc => ?_⟩
    exact List.contains_iff_mem.1 (List.all_eq_true.1 List.all_takeWhile c hc)

theorem length_le_flatMap_chars (ps : List Parameter) :
    ps.length ≤ (ps.flatMap Parameter.chars).length := by
  induction ps with
  | nil => exact Nat.le_refl 0
  | cons p ps ih =>
      have hp := p.length_chars_pos
      rw [List.flatMap_cons, List.length_append, List.length_cons]
      omega

theorem readParameters_chars (h : ∀ p ∈ ps, p.WellFormed) {fuel : Nat} (hfuel : ps.length < fuel)
    (rest : List Char) :
    readParameters fuel (ps.flatMap Parameter.chars ++ ':' :: rest) = some (ps, rest) := by
  induction ps generalizing fuel with
  | nil =>
      obtain ⟨fuel, rfl⟩ := Nat.exists_eq_succ_of_ne_zero (Nat.ne_zero_of_lt hfuel)
      rfl
  | cons p ps ih =>
      obtain ⟨fuel, rfl⟩ := Nat.exists_eq_succ_of_ne_zero (Nat.ne_zero_of_lt hfuel)
      obtain ⟨hp, hps⟩ := List.forall_mem_cons.1 h
      have hread := readParameter_chars hp (bounds_parameters hps (bounds_colon rest))
      have hmore := ih hps (Nat.lt_of_succ_lt_succ hfuel)
      rw [List.flatMap_cons, List.append_assoc, readParameters]
      · simp only [hread, hmore, Option.bind_eq_bind, Option.bind_some]
        rfl
      · exact fun tail => hp.ne_colon _ tail

theorem eq_chars_of_readParameters {fuel : Nat} (h : readParameters fuel s = some (ps, rest)) :
    s = ps.flatMap Parameter.chars ++ ':' :: rest ∧ ∀ p ∈ ps, p.WellFormed := by
  induction fuel generalizing s ps with
  | zero => cases h
  | succ fuel ih =>
      unfold readParameters at h
      split at h
      · cases h
        exact ⟨rfl, nofun⟩
      · simp only [Option.bind_eq_bind, Option.bind_eq_some_iff] at h
        obtain ⟨⟨p, after⟩, hp, ⟨ps', after'⟩, hps, h⟩ := h
        dsimp only at hps
        cases h
        obtain ⟨hs, hwell⟩ := eq_chars_of_readParameter hp
        obtain ⟨hafter, hall⟩ := ih hps
        constructor
        · rw [hs, hafter, List.flatMap_cons, List.append_assoc]
        · exact List.forall_mem_cons.2 ⟨hwell, hall⟩

end parameters

/-- What can be read is what well-formed signatures are written as. -/
theorem parse?_eq_some_iff {s : List Char} {sig : Signature} :
    parse? s = some sig ↔ sig.WellFormed ∧ sig.chars = s := by
  constructor
  · intro h
    unfold parse? at h
    split at h
    · simp only [Option.bind_eq_bind, Option.bind_eq_some_iff] at h
      obtain ⟨⟨ps, after⟩, hps, ⟨returns, last⟩, hreturns, h⟩ := h
      dsimp only at h hreturns
      split at h
      · next hlast =>
        cases h
        obtain ⟨hs, hwell⟩ := eq_chars_of_readParameters hps
        obtain ⟨hafter, hreturn, hsimple⟩ := eq_chars_of_readSimple hreturns
        refine ⟨⟨hwell, hreturn, hsimple⟩, ?_⟩
        rw [hs, hafter, hlast]
        simp [chars]
      · cases h
    · cases h
  · rintro ⟨h, rfl⟩
    obtain ⟨ps, returns⟩ := sig
    have hfuel : ps.length < (ps.flatMap Parameter.chars ++ ':' :: (returns.chars ++ ['>'])).length
        + 1 := by
      have := length_le_flatMap_chars ps
      rw [List.length_append]
      omega
    have hps := readParameters_chars h.parameters hfuel (returns.chars ++ ['>'])
    have hreturns : readSimple (returns.chars ++ ['>']) = some (returns, ['>']) :=
      readSimple_chars h.returns h.simple (by simp)
    have hchars : chars ⟨ps, returns⟩ =
        '<' :: (ps.flatMap Parameter.chars ++ ':' :: (returns.chars ++ ['>'])) := by simp [chars]
    rw [hchars, parse?]
    simp only [hps, hreturns, Option.bind_eq_bind, Option.bind_some, if_true]

end FindReplace.Signature
