import FindReplace.Regex.Parse

/-!
# What a reader keeps to

A reader of a pattern is given some last tokens of it. `Keeps` says what comes of the reading: on
success a fact about what was read, such as that the tokens left over are again last ones, and
otherwise that a limit, if it is one, is exceeded in the pattern. `Limit.ExceededBy` says what it is
in the text that exceeds a limit.

Here are the readers of names, escapes, sets and flags, in the order of their definitions. None of
them comes upon a limit itself.
-/
namespace FindReplace.Regex
open Text (isDecimal maxDigits numeral)

/-- The digits are a bound of a count in braces. -/
inductive Bound (text : List Char) : List Char → Prop
  | exactly {n : List Char} : '\x7b' :: n ++ ['\x7d'] <:+: text → Bound text n
  | least {lo hi : List Char} : '\x7b' :: lo ++ ',' :: hi ++ ['\x7d'] <:+: text → Bound text lo
  | greatest {lo hi : List Char} : '\x7b' :: lo ++ ',' :: hi ++ ['\x7d'] <:+: text → Bound text hi

/-- What in a text exceeds a limit. -/
def Limit.ExceededBy (text : List Char) : Limit → Prop
  | .repetitionTooLarge => ∃ digits, Bound text digits ∧ (∀ c ∈ digits, isDecimal c = true) ∧
      repetitionEnd ≤ numeral 10 digits
  | .numeralTooLong n => ∃ digits, Bound text digits ∧ (∀ c ∈ digits, isDecimal c = true) ∧
      digits.length = n ∧ maxDigits < n
  | .asciiAndUnicode => 'a' ∈ text ∧ 'u' ∈ text

theorem Bound.mono {text text' digits : List Char} (h : Bound text digits)
    (htext : text <:+: text') : Bound text' digits := by
  cases h with
  | exactly h => exact .exactly (h.trans htext)
  | least h => exact .least (h.trans htext)
  | greatest h => exact .greatest (h.trans htext)

theorem Limit.ExceededBy.mono {text text' : List Char} {l : Limit} (h : l.ExceededBy text)
    (htext : text <:+: text') : l.ExceededBy text' := by
  cases l with
  | repetitionTooLarge =>
      obtain ⟨digits, hbound, h⟩ := h
      exact ⟨digits, hbound.mono htext, h⟩
  | numeralTooLong n =>
      obtain ⟨digits, hbound, h⟩ := h
      exact ⟨digits, hbound.mono htext, h⟩
  | asciiAndUnicode => exact ⟨htext.subset h.1, htext.subset h.2⟩

section tokens

theorem Token.chars_of_plain {t : Token} (h : t.escaped = false) : t.chars = [t.char] := by
  simp [Token.chars, h]

theorem Token.of_isPlain {t : Token} {c : Char} (h : t.isPlain c = true) : t.chars = [c] := by
  simp only [Token.isPlain, Bool.and_eq_true, Bool.not_eq_true', beq_iff_eq] at h
  rw [Token.chars_of_plain h.1, h.2]

theorem Token.chars_infix {ts rest : List Token} (h : rest <:+ ts) :
    rest.flatMap Token.chars <:+: ts.flatMap Token.chars := by
  obtain ⟨before, rfl⟩ := h
  rw [List.flatMap_append]
  exact (List.suffix_append _ _).isInfix

/-- The tokens are the pattern, but for a backslash at its very end. -/
theorem flatMap_chars_tokensFrom (pos : Nat) (cs : List Char) :
    (tokensFrom pos cs).flatMap Token.chars <+: cs := by
  fun_induction tokensFrom pos cs with
  | case1 => exact List.prefix_refl []
  | case2 pos c hslash => exact List.nil_prefix
  | case3 pos c hslash d rest ih =>
      rw [List.flatMap_cons, eq_of_beq hslash]
      exact (List.prefix_append_right_inj ['\\', d]).2 ih
  | case4 pos c rest hslash ih =>
      rw [List.flatMap_cons]
      exact (List.prefix_append_right_inj [c]).2 ih

/-- The characters taken are of the kind, and they are the characters of the tokens passed over. -/
theorem takePlain_eq (kind : Char → Bool) (count : Nat) (rest : List Token) :
    (takePlain kind count rest).2 <:+ rest ∧ (∀ c ∈ (takePlain kind count rest).1, kind c = true) ∧
      rest.flatMap Token.chars =
        (takePlain kind count rest).1 ++ (takePlain kind count rest).2.flatMap Token.chars := by
  fun_induction takePlain kind count rest with
  | case1 rest => simp
  | case2 => simp
  | case3 count t rest h cs after heq ih =>
      simp only [Bool.and_eq_true, Bool.not_eq_true'] at h
      rw [heq] at ih
      obtain ⟨hsuffix, hkind, hchars⟩ := ih
      refine ⟨hsuffix.trans (List.suffix_cons t rest), ?_, ?_⟩
      · simpa [h.2] using hkind
      · rw [List.flatMap_cons, Token.chars_of_plain h.1, hchars]
        rfl
  | case4 count t rest h => simp

theorem takePlain_suffix (kind : Char → Bool) (count : Nat) (rest : List Token) :
    (takePlain kind count rest).2 <:+ rest :=
  (takePlain_eq kind count rest).1

end tokens

/-- What comes of a reading in a pattern of the tokens `ts`. -/
def Keeps {α : Type} (ts : List Token) (Q : α → Prop) : Reading α → Prop
  | .ok a => Q a
  | .error (.flaw ..) => True
  | .error (.limit l) => l.ExceededBy (ts.flatMap Token.chars)

/-- A reading leaves some last tokens over. -/
abbrev Leaves {α : Type} (ts : List Token) : Reading (α × List Token) → Prop :=
  Keeps ts fun a => a.2 <:+ ts

section keeping
variable {α β : Type} {ts : List Token} {P : α → Prop} {Q : β → Prop} {r : Reading α}

theorem Keeps.bind {f : α → Reading β} (h : Keeps ts P r) (hf : ∀ a, P a → Keeps ts Q (f a)) :
    Keeps ts Q (r >>= f) := by
  rcases r with (⟨f, position⟩ | l) | a
  · trivial
  · exact h
  · exact hf a h

theorem Keeps.map {f : α → β} (h : Keeps ts P r) (hf : ∀ a, P a → Q (f a)) :
    Keeps ts Q (r.map f) := by
  rcases r with (⟨f, position⟩ | l) | a
  · trivial
  · exact h
  · exact hf a h

theorem Keeps.unless {c : Prop} [Decidable c] {refusal : Reading PUnit}
    (hrefusal : c → Keeps ts (fun _ => True) refusal) (h : Keeps ts P r) :
    Keeps ts P (if c then refusal >>= fun _ => r else r) := by
  split
  · next hc => exact (hrefusal hc).bind fun _ _ => h
  · exact h

theorem keeps_refuseAt (x : Extent) (rest : List Token) (f : Flaw) (position : Nat) :
    Keeps ts P (x.refuseAt rest f position) := by
  unfold Extent.refuseAt Extent.refuse
  split <;> trivial

theorem keeps_refuse_limit (x : Extent) (rest : List Token) {l : Limit}
    (h : l.ExceededBy (ts.flatMap Token.chars)) : Keeps ts P (x.refuse rest (.limit l)) := by
  unfold Extent.refuse
  split
  · trivial
  · exact h

end keeping

section readers
variable {ts rest : List Token} (x : Extent) (t : Token)

theorem keeps_readName (missing : Flaw) (closer : Char) (h : rest <:+ ts) :
    Leaves ts (readName x missing closer rest) := by
  simp only [readName]
  split
  · split <;> exact keeps_refuseAt ..
  · next c after hdrop =>
      split
      · exact keeps_refuseAt ..
      · have hafter : after <:+ rest.dropWhile fun t => !t.isPlain closer :=
          hdrop ▸ List.suffix_cons c after
        exact hafter.trans ((List.dropWhile_suffix _).trans h)

theorem keeps_readHexCode (width : Nat) (h : rest <:+ ts) :
    Leaves ts (readHexCode x t width rest) := by
  simp only [readHexCode]
  split
  · exact keeps_refuseAt ..
  · split
    · exact (takePlain_suffix ..).trans h
    · exact keeps_refuseAt ..

theorem keeps_readNamedCode [Text.CharacterNames] (h : rest <:+ ts) :
    Leaves ts (readNamedCode x t rest) := by
  unfold readNamedCode
  split
  · next brace rest =>
      split
      · refine (keeps_readName x _ _ ((List.suffix_cons _ _).trans h)).bind fun a ha => ?_
        dsimp only
        split
        · exact ha
        · exact keeps_refuseAt ..
      · exact keeps_refuseAt ..
  · exact keeps_refuseAt ..

theorem keeps_readOctalCode (h : rest <:+ ts) : Leaves ts (readOctalCode x t rest) := by
  simp only [readOctalCode]
  split
  · exact (takePlain_suffix ..).trans h
  · exact keeps_refuseAt ..

theorem keeps_readCode? [Text.CharacterNames] (h : rest <:+ ts) {r : Reading (Nat × List Token)}
    (hr : readCode? x t rest = some r) : Leaves ts r := by
  unfold readCode? at hr
  split at hr
  · exact Option.some.inj hr ▸ keeps_readHexCode x t 2 h
  · exact Option.some.inj hr ▸ keeps_readHexCode x t 4 h
  · exact Option.some.inj hr ▸ keeps_readHexCode x t 8 h
  · exact Option.some.inj hr ▸ keeps_readNamedCode x t h
  · cases hr

theorem keeps_readSelf (h : rest <:+ ts) : Leaves ts (readSelf x t rest) := by
  unfold readSelf
  split
  · exact keeps_refuseAt ..
  · exact h

theorem keeps_readSetEscape [Text.CharacterNames] (h : rest <:+ ts) :
    Leaves ts (readSetEscape x t rest) := by
  unfold readSetEscape
  split
  · exact h
  · exact h
  · refine Keeps.map (P := fun a => a.2 <:+ ts) ?_ fun a ha => ha
    split
    · next hr => exact keeps_readCode? x t h hr
    · split
      · exact keeps_readOctalCode x t h
      · exact keeps_readSelf x t h

theorem keeps_readNumber (h : rest <:+ ts) : Leaves ts (readNumber x t rest) := by
  simp only [readNumber]
  split
  · exact (takePlain_suffix ..).trans h
  · split
    · split
      · exact (takePlain_suffix ..).trans h
      · exact keeps_refuseAt ..
    · exact (takePlain_suffix ..).trans h

theorem keeps_readEscape [Text.CharacterNames] (h : rest <:+ ts) :
    Leaves ts (readEscape x t rest) := by
  unfold readEscape
  split
  · exact h
  · exact h
  · exact h
  · exact h
  · split
    · exact h
    · exact h
    · split
      · exact keeps_readNumber x t h
      · refine Keeps.map (P := fun a => a.2 <:+ ts) ?_ fun a ha => ha
        split
        · next hr => exact keeps_readCode? x t h hr
        · exact keeps_readSelf x t h

theorem keeps_readMember [Text.CharacterNames] (h : rest <:+ ts) :
    Leaves ts (readMember x t rest) := by
  unfold readMember
  split
  · exact keeps_readSetEscape x t h
  · exact h

theorem keeps_joinRange (u : Token) (lo hi : Member) (rest : List Token) :
    Keeps ts (fun _ => True) (joinRange x t u lo hi rest) := by
  unfold joinRange
  split
  · split
    · trivial
    · exact keeps_refuseAt ..
  · exact keeps_refuseAt ..

theorem keeps_readMembers [Text.CharacterNames] (start fuel : Nat) (members : List Member)
    (h : rest <:+ ts) :
    Leaves ts (readMembers x start fuel members rest) := by
  induction fuel generalizing members rest with
  | zero => exact keeps_refuseAt ..
  | succ fuel ih =>
      cases rest with
      | nil => exact keeps_refuseAt ..
      | cons t rest =>
          have hrest := (List.suffix_cons t rest).trans h
          rw [readMembers]
          split
          · exact hrest
          · refine (keeps_readMember x t hrest).bind ?_
            rintro ⟨lo, rest⟩ hrest
            cases rest with
            | nil => exact ih _ hrest
            | cons hyphen rest =>
                have hafter := (List.suffix_cons hyphen rest).trans hrest
                dsimp only
                split
                · cases rest with
                  | nil => exact keeps_refuseAt ..
                  | cons u rest =>
                      have hrest := (List.suffix_cons u rest).trans hafter
                      dsimp only
                      split
                      · exact hrest
                      · refine (keeps_readMember x u hrest).bind ?_
                        rintro ⟨hi, rest⟩ hrest
                        exact (keeps_joinRange x t u lo hi rest).bind fun range _ => ih _ hrest
                · exact ih _ hrest

theorem keeps_readSet [Text.CharacterNames] (sense : Sense) (start : Nat) (h : rest <:+ ts) :
    Leaves ts (readSet x sense start rest) := by
  unfold readSet
  cases rest with
  | nil =>
      refine (keeps_readMembers x start _ [] h).bind fun a ha => ?_
      dsimp only
      split <;> exact ha
  | cons t after =>
      have hafter := (List.suffix_cons t after).trans h
      dsimp only
      split
      · refine (keeps_readMembers x start _ [] hafter).bind fun a ha => ?_
        split <;> exact ha
      · refine (keeps_readMembers x start _ [] h).bind fun a ha => ?_
        split <;> exact ha

end readers

section flags
variable {ts rest : List Token} (x : Extent) {t : Token} {f : Flag} {on off : List Flag}

def Written (ts : List Token) (flags : List Flag) : Prop :=
  ∀ f ∈ flags, ∃ t ∈ ts, t.flag? = some f

theorem Written.append {flags flags' : List Flag} (h : Written ts flags)
    (h' : Written ts flags') : Written ts (flags ++ flags') := fun f hf =>
  (List.mem_append.1 hf).elim (h f) (h' f)

theorem written_singleton (ht : t ∈ ts) (hf : t.flag? = some f) : Written ts [f] := fun _ hg =>
  ⟨t, ht, List.mem_singleton.1 hg ▸ hf⟩

theorem Flag.eq_of_ofChar? {c d : Char} (hc : Flag.ofChar? c = some f)
    (hd : Flag.ofChar? d = some f) : d = c := by
  unfold Flag.ofChar? at hc
  split at hc <;> cases hc
  all_goals
    unfold Flag.ofChar? at hd
    split at hd <;> first | rfl | cases hd

theorem mem_chars_of_written {flags : List Flag} (h : Written ts flags) (hf : f ∈ flags) {c : Char}
    (hc : Flag.ofChar? c = some f) : c ∈ ts.flatMap Token.chars := by
  obtain ⟨t, ht, hflag⟩ := h f hf
  unfold Token.flag? at hflag
  split at hflag
  · cases hflag
  · next hplain =>
      refine List.mem_flatMap.2 ⟨t, ht, ?_⟩
      rw [Token.chars_of_plain (Bool.eq_false_iff.2 hplain), Flag.eq_of_ofChar? hc hflag]
      exact List.mem_singleton_self c

theorem keeps_refuseFlag {α : Type} {P : α → Prop} (t : Token) (rest : List Token) (other : Flaw) :
    Keeps ts P (refuseFlag x t rest other) := by
  unfold refuseFlag
  split <;> exact keeps_refuseAt ..

theorem keeps_readOff (h : rest <:+ ts) :
    Keeps ts (fun a => a.2.2 <:+ ts) (readOff x f off rest) := by
  fun_induction readOff x f off rest with
  | case1 f off hf => exact keeps_refuseAt ..
  | case2 f off hf => exact keeps_refuseAt ..
  | case3 f off t rest hf => exact keeps_refuseAt ..
  | case4 f off t rest hf hcolon => exact (List.suffix_cons t rest).trans h
  | case5 f off t rest hf hcolon g hg ih => exact ih ((List.suffix_cons t rest).trans h)
  | case6 f off t rest hf hcolon hg => exact keeps_refuseFlag ..

theorem keeps_readOn (h : rest <:+ ts) (hon : Written ts (on ++ [f])) :
    Keeps ts (fun a => Written ts a.1 ∧ a.2.2 <:+ ts) (readOn x f on rest) := by
  fun_induction readOn x f on rest with
  | case1 f on => exact keeps_refuseAt ..
  | case2 f on t rest flaw hclash => exact keeps_refuseAt ..
  | case3 f on t rest hclash hend => exact ⟨hon, (List.suffix_cons t rest).trans h⟩
  | case4 f on t rest hclash hend g hg ih =>
      have ht : t ∈ ts := h.subset List.mem_cons_self
      exact ih ((List.suffix_cons t rest).trans h) (hon.append (written_singleton ht hg))
  | case5 f on t rest hclash hend hg => exact keeps_refuseFlag ..

def FlagGroup.forAll : FlagGroup → List Flag
  | .whole on => on
  | .scoped _ _ => []

theorem keeps_finishScoped (colon : Nat) (h : rest <:+ ts) :
    Keeps ts (fun a => Written ts a.1.forAll ∧ a.2 <:+ ts) (finishScoped x on off colon rest) := by
  unfold finishScoped
  split
  · exact keeps_refuseAt ..
  · split
    · exact keeps_refuseAt ..
    · exact ⟨nofun, h⟩

theorem keeps_readAfterHyphen (h : rest <:+ ts) :
    Keeps ts (fun a => Written ts a.1.forAll ∧ a.2 <:+ ts) (readAfterHyphen x on rest) := by
  unfold readAfterHyphen
  split
  · exact keeps_refuseAt ..
  · split
    · refine (keeps_readOff x ((List.suffix_cons _ _).trans h)).bind ?_
      rintro ⟨off, colon, rest⟩ hrest
      exact keeps_finishScoped x colon hrest
    · exact keeps_refuseFlag ..

theorem keeps_readFlagGroup (h : t :: rest <:+ ts) :
    Keeps ts (fun a => Written ts a.1.forAll ∧ a.2 <:+ ts) (readFlagGroup x t rest) := by
  have hrest := (List.suffix_cons t rest).trans h
  unfold readFlagGroup
  split
  · exact keeps_readAfterHyphen x hrest
  · next f hf =>
      have hon : Written ts ([] ++ [f]) := written_singleton (h.subset List.mem_cons_self) hf
      refine (keeps_readOn x hrest hon).bind ?_
      rintro ⟨on, stop, rest⟩ ⟨hon, hrest⟩
      dsimp only
      split
      · exact ⟨hon, hrest⟩
      · split
        · exact keeps_refuseAt ..
        · split
          · exact keeps_readAfterHyphen x hrest
          · exact keeps_finishScoped x stop.start hrest

end flags

end FindReplace.Regex
