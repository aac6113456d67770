import FindReplace.Proofs.SignaturePatterns

/-!
# Symbols that are words

The symbols of a parameter are a word of type symbols if it has one symbol, several in parentheses,
or an array with or without a subtype. For any other symbol a subtype is accepted as well, but not
left out: brackets and all, it stays behind the symbol. These are the only parameters of accepted
signatures whose symbols are no word.
-/
namespace FindReplace.Signature

/-- At least one type symbol and nothing else. -/
def IsWord (symbols : List Char) : Prop := symbols ≠ [] ∧ ∀ c ∈ symbols, c ∈ typeSymbols

theorem Parameter.toList_symbols (p : Parameter) : p.symbols.toList = p.type.symbols :=
  String.toList_ofList

theorem isWord_singleton {c : Char} (hc : c ∈ typeSymbols) : IsWord [c] :=
  ⟨List.cons_ne_nil c [], fun _ hd => List.mem_singleton.1 hd ▸ hc⟩

theorem not_isWord_of_mem {symbols : List Char} (h : '<' ∈ symbols) : ¬IsWord symbols :=
  fun hword => (ne_of_mem_typeSymbols (hword.2 '<' h)).2.2.1 rfl

theorem ParameterType.symbols_array (inner : List Char) :
    (ParameterType.subtyped 'a' inner).symbols = ['a'] := rfl

theorem ParameterType.symbols_subtyped {c : Char} (inner : List Char) (hc : c ≠ 'a') :
    (ParameterType.subtyped c inner).symbols = c :: '<' :: inner ++ ['>'] := if_neg hc

theorem ParameterType.WellFormed.isWord_iff {t : ParameterType} (h : t.WellFormed) :
    IsWord t.symbols ↔ ∀ c inner, t = .subtyped c inner → c = 'a' := by
  cases t with
  | symbol c => exact iff_of_true (isWord_singleton h) nofun
  | union cs => exact iff_of_true h nofun
  | subtyped c inner =>
      by_cases hc : c = 'a'
      · subst hc
        rw [ParameterType.symbols_array]
        refine iff_of_true (isWord_singleton h.1) fun c inner ht => ?_
        cases ht
        rfl
      · rw [ParameterType.symbols_subtyped inner hc]
        refine iff_of_false (not_isWord_of_mem (by simp)) fun hplain => ?_
        exact hc (hplain c inner rfl)

/-- Of the parameters of an accepted signature, those whose symbols are no word are those that have a
subtype of another symbol than that of an array. Their symbols are that symbol with all of the
subtype. -/
theorem symbols_isWord_iff {s : String} {sig : Signature} (h : parse s = .ok sig) {p : Parameter}
    (hp : p ∈ sig.parameters) :
    (IsWord p.symbols.toList ↔ ∀ c inner, p.type = .subtyped c inner → c = 'a') ∧
      ∀ c inner, p.type = .subtyped c inner → c ≠ 'a' →
        c ∈ typeSymbols ∧ '>' ∉ inner ∧ p.symbols.toList = c :: '<' :: inner ++ ['>'] := by
  have hsig := (parse?_eq_some_iff.1 (parse_eq_ok_iff.1 h)).1
  have htype : p.type.WellFormed := (hsig.parameters p hp).type
  rw [p.toList_symbols]
  refine ⟨htype.isWord_iff, fun c inner ht hc => ?_⟩
  rw [ht] at htype ⊢
  exact ⟨htype.1, htype.2, ParameterType.symbols_subtyped inner hc⟩

/-- A subtype of an array is left out, and one of a function is not. -/
theorem symbols_isWord_iff_function :
    let array : Parameter := ⟨.subtyped 'a' ['n'], ['?']⟩
    let function : Parameter := ⟨.subtyped 'f' ['n', ':', 's'], ['-']⟩
    let sig : Signature := ⟨[array, function], .symbol 's'⟩
    parse "<a<n>?f<n:s>-:s>" = .ok sig ∧ array ∈ sig.parameters ∧ function ∈ sig.parameters ∧
      IsWord array.symbols.toList ∧ ¬IsWord function.symbols.toList ∧
      function.symbols = "f<n:s>" := by
  intro array function sig
  have hparse : parse "<a<n>?f<n:s>-:s>" = .ok sig := rfl
  have harray : array ∈ sig.parameters := by decide
  have hfunction : function ∈ sig.parameters := by decide
  refine ⟨hparse, harray, hfunction, (symbols_isWord_iff hparse harray).1.2 ?_,
    fun hword => ?_, rfl⟩
  · intro c inner ht
    cases ht
    rfl
  · have hplain := (symbols_isWord_iff hparse hfunction).1.1 hword 'f' ['n', ':', 's'] rfl
    exact absurd hplain (by decide)

/-- The subtype of a boolean stays in the symbols, in the reader and by the patterns. -/
theorem symbols_boolean_not_isWord :
    (∃ sig, parse "<b<x>:s>" = .ok sig ∧
      ∃ p ∈ sig.parameters, p.symbols = "b<x>" ∧ ¬IsWord p.symbols.toList) ∧
    traitsByPatterns "<b<x>:s>" = some [⟨"b<x>", false, false, false⟩] := by
  have hparse : parse "<b<x>:s>" = .ok ⟨[⟨.subtyped 'b' ['x'], []⟩], .symbol 's'⟩ := rfl
  refine ⟨⟨_, hparse, _, List.mem_singleton_self _, rfl, not_isWord_of_mem (by decide)⟩, ?_⟩
  rw [traitsByPatterns_eq, parse_eq_ok_iff.1 hparse]
  rfl

end FindReplace.Signature
