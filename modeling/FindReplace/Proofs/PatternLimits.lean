import FindReplace.Proofs.Readers

/-!
# Patterns that exceed a limit

The reader comes upon a limit in two places only: at a bound of a count in braces, and at the flags
of the whole pattern once all of it has been read. A pattern that exceeds a limit therefore has
something in its text that does, and every other pattern is read or has a flaw.

A step of the parser is one of its readers, so one lemma for each says that the tokens left over are
last ones and that the flags for the whole pattern stand in it. The loop follows from its step.
-/
namespace FindReplace.Regex
open Text (isDecimal maxDigits numeral)

namespace Parser
section
variable {ts rest : List Token} (x : Extent) {p : Parser} (t : Token)

/-- A step leaves some last tokens over, and the flags for the whole pattern are written in it. -/
abbrev Advances (ts : List Token) : Reading (Parser × List Token) → Prop :=
  Keeps ts fun a => Written ts a.1.flags ∧ a.2 <:+ ts

theorem keeps_checkBehind (n : Nat) (rest : List Token) :
    Keeps ts (fun _ => True) (p.checkBehind x n rest) := by
  unfold checkBehind
  split
  · trivial
  · split
    · exact keeps_refuseAt ..
    · split
      · exact keeps_refuseAt ..
      · trivial

theorem keeps_refer (hp : Written ts p.flags) (n start : Nat) (rest : List Token) :
    Keeps ts (fun p' => Written ts p'.flags) (p.refer x n start rest) := by
  unfold refer
  split
  · exact keeps_refuseAt ..
  · exact (keeps_checkBehind x n rest).bind fun _ _ => hp

theorem advances_escape [Text.CharacterNames] (hp : Written ts p.flags) (h : rest <:+ ts) :
    Advances ts (p.escape x t rest) := by
  unfold escape
  refine (keeps_readEscape x t h).bind ?_
  rintro ⟨e, rest⟩ hrest
  cases e with
  | code n => exact ⟨hp, hrest⟩
  | category c negated => exact ⟨hp, hrest⟩
  | textStart => exact ⟨hp, hrest⟩
  | textEnd => exact ⟨hp, hrest⟩
  | boundary negated => exact ⟨hp, hrest⟩
  | reference n =>
      dsimp only
      split
      · exact keeps_refuseAt ..
      · exact (keeps_refer x hp n t.start rest).bind fun p' hp' => ⟨hp', hrest⟩

theorem bound_of_countDigits {lo hi : List Char} {after : List Token}
    (h : countDigits rest = some (lo, hi, after)) :
    after <:+ rest ∧ (∀ c ∈ lo, isDecimal c = true) ∧ (∀ c ∈ hi, isDecimal c = true) ∧
      Bound ('\x7b' :: rest.flatMap Token.chars) lo ∧
      Bound ('\x7b' :: rest.flatMap Token.chars) hi := by
  unfold countDigits at h
  have hleast := takePlain_eq isDecimal rest.length rest
  generalize takePlain isDecimal rest.length rest = taken at h hleast
  obtain ⟨digits, _ | ⟨t, others⟩⟩ := taken
  · cases h
  obtain ⟨hothers, hdigits, hchars⟩ := hleast
  dsimp only at h hothers hdigits hchars
  have hsuffix := (List.suffix_cons t others).trans hothers
  split at h
  · next hclose =>
      split at h
      · cases h
      · cases h
        have htext : '\x7b' :: lo ++ ['\x7d'] <:+: '\x7b' :: rest.flatMap Token.chars :=
          ⟨[], after.flatMap Token.chars, by simp [hchars, Token.of_isPlain hclose]⟩
        exact ⟨hsuffix, hdigits, hdigits, .exactly htext, .exactly htext⟩
  · split at h
    · next hcomma =>
        have hgreatest := takePlain_eq isDecimal others.length others
        generalize takePlain isDecimal others.length others = taken at h hgreatest
        obtain ⟨digits', _ | ⟨u, others'⟩⟩ := taken
        · cases h
        obtain ⟨hothers', hdigits', hchars'⟩ := hgreatest
        dsimp only at h hothers' hdigits' hchars'
        split at h
        · next hclose =>
            cases h
            have htext : '\x7b' :: lo ++ ',' :: hi ++ ['\x7d'] <:+:
                '\x7b' :: rest.flatMap Token.chars :=
              ⟨[], after.flatMap Token.chars, by
                simp [hchars, hchars', Token.of_isPlain hcomma, Token.of_isPlain hclose]⟩
            exact ⟨((List.suffix_cons u after).trans hothers').trans hsuffix, hdigits, hdigits',
              .least htext, .greatest htext⟩
        · cases h
    · cases h

theorem keeps_readBound {digits : List Char} (rest : List Token)
    (hbound : Bound (ts.flatMap Token.chars) digits) (hdigits : ∀ c ∈ digits, isDecimal c = true) :
    Keeps ts (fun _ => True) (readBound x digits rest) := by
  simp only [readBound]
  split
  · trivial
  · split
    · next hlong => exact keeps_refuse_limit x rest ⟨digits, hbound, hdigits, rfl, hlong⟩
    · split
      · next hlarge => exact keeps_refuse_limit x rest ⟨digits, hbound, hdigits, hlarge⟩
      · trivial

theorem advances_quantify (start least : Nat) (greatest : Option Nat) (hp : Written ts p.flags)
    (h : rest <:+ ts) : Advances ts (p.quantify x start least greatest rest) := by
  unfold quantify
  split
  · exact keeps_refuseAt ..
  · split
    · exact keeps_refuseAt ..
    · exact keeps_refuseAt ..
    · cases rest with
      | nil => exact ⟨hp, h⟩
      | cons t after =>
          have hafter := (List.suffix_cons t after).trans h
          dsimp only
          split
          · exact ⟨hp, hafter⟩
          · split
            · exact ⟨hp, hafter⟩
            · exact ⟨hp, h⟩

theorem advances_brace (hp : Written ts p.flags) (ht : t.isPlain '\x7b' = true)
    (h : t :: rest <:+ ts) : Advances ts (p.brace x t rest) := by
  have hrest := (List.suffix_cons t rest).trans h
  unfold brace
  split
  · exact ⟨hp, hrest⟩
  · next lo hi after hcount =>
      obtain ⟨hafter, hlo, hhi, hleast, hgreatest⟩ := bound_of_countDigits hcount
      have htext : '\x7b' :: rest.flatMap Token.chars <:+: ts.flatMap Token.chars := by
        rw [← List.singleton_append, ← Token.of_isPlain ht, ← List.flatMap_cons]
        exact Token.chars_infix h
      refine (keeps_readBound x after (hleast.mono htext) hlo).bind fun least _ => ?_
      refine (keeps_readBound x after (hgreatest.mono htext) hhi).bind fun greatest _ => ?_
      exact .unless (fun _ => keeps_refuseAt ..)
        (advances_quantify x _ _ _ hp (hafter.trans hrest))

theorem advances_enterCapture (start : Nat) (name : Option (String × Nat))
    (hp : Written ts p.flags) (h : rest <:+ ts) :
    Advances ts (p.enterCapture x start name rest) := by
  unfold enterCapture
  split
  · exact ⟨hp, h⟩
  · dsimp only
    split
    · exact keeps_refuseAt ..
    · exact ⟨hp, h⟩

theorem keeps_groupName (closer : Char) (h : rest <:+ ts) :
    Leaves ts (groupName x closer rest) := by
  unfold groupName
  refine (keeps_readName x _ _ h).bind ?_
  rintro ⟨name, after⟩ hafter
  exact .unless (fun _ => keeps_refuseAt ..) hafter

theorem advances_named (start : Nat) (hp : Written ts p.flags) (h : rest <:+ ts) :
    Advances ts (p.named x start rest) := by
  unfold named
  split
  · exact keeps_refuseAt ..
  · next t rest =>
      have hrest := (List.suffix_cons t rest).trans h
      split
      · exact (keeps_groupName x '>' hrest).bind fun a ha =>
          advances_enterCapture x start _ hp ha
      · split
        · refine (keeps_groupName x ')' hrest).bind ?_
          rintro ⟨name, after⟩ hafter
          dsimp only
          split
          · exact keeps_refuseAt ..
          · exact (keeps_refer x hp _ _ after).bind fun p' hp' => ⟨hp', hafter⟩
        · exact keeps_refuseAt ..

theorem keeps_conditionGroup (hp : Written ts p.flags) (h : rest <:+ ts) :
    Keeps ts (fun a => Written ts a.2.1.flags ∧ a.2.2 <:+ ts) (p.conditionGroup x rest) := by
  unfold conditionGroup
  refine (keeps_readName x _ _ h).bind ?_
  rintro ⟨name, after⟩ hafter
  dsimp only
  split
  · split
    · exact keeps_refuseAt ..
    · exact ⟨hp, hafter⟩
  · split
    · exact keeps_refuseAt ..
    · exact keeps_refuseAt ..
    · split
      · exact keeps_refuseAt ..
      · split
        · exact keeps_refuseAt ..
        · split
          · exact ⟨hp, hafter⟩
          · exact ⟨hp, hafter⟩

theorem advances_conditional (start : Nat) (hp : Written ts p.flags) (h : rest <:+ ts) :
    Advances ts (p.conditional x start rest) := by
  unfold conditional
  refine (keeps_conditionGroup x hp h).bind ?_
  rintro ⟨n, p, rest⟩ hp
  exact (keeps_checkBehind x n rest).bind fun _ _ => hp

theorem advances_lookBehind (start : Nat) (hp : Written ts p.flags) (h : rest <:+ ts) :
    Advances ts (p.lookBehind x start rest) := by
  unfold lookBehind
  split
  · exact keeps_refuseAt ..
  · next t rest =>
      split
      · exact ⟨hp, (List.suffix_cons t rest).trans h⟩
      · exact keeps_refuseAt ..

theorem advances_flagGroup (start : Nat) (hp : Written ts p.flags) (h : t :: rest <:+ ts) :
    Advances ts (p.flagGroup x start t rest) := by
  unfold flagGroup
  refine (keeps_readFlagGroup x h).bind ?_
  rintro ⟨on | ⟨on, off⟩, rest⟩ ⟨hon, hrest⟩
  · dsimp only
    split
    · exact ⟨hp.append hon, hrest⟩
    · exact keeps_refuseAt ..
  · exact ⟨hp, hrest⟩

theorem advances_special (start : Nat) (hp : Written ts p.flags) (h : rest <:+ ts) :
    Advances ts (p.special x start rest) := by
  unfold special
  split
  · exact keeps_refuseAt ..
  · next t rest =>
      have hrest := (List.suffix_cons t rest).trans h
      split
      · exact advances_named x start hp hrest
      split
      · exact ⟨hp, hrest⟩
      split
      · split
        · exact keeps_refuseAt ..
        · next u after hdrop =>
            have hafter : after <:+ rest.dropWhile fun u => !u.isPlain ')' :=
              hdrop ▸ List.suffix_cons u after
            exact ⟨hp, hafter.trans ((List.dropWhile_suffix _).trans hrest)⟩
      split
      · exact ⟨hp, hrest⟩
      split
      · exact ⟨hp, hrest⟩
      split
      · exact advances_lookBehind x start hp hrest
      split
      · exact advances_conditional x start hp hrest
      split
      · exact ⟨hp, hrest⟩
      split
      · exact advances_flagGroup x t start hp h
      · exact keeps_refuseAt ..

theorem advances_group (start : Nat) (hp : Written ts p.flags) (h : rest <:+ ts) :
    Advances ts (p.group x start rest) := by
  unfold group
  split
  · next t after =>
      split
      · exact advances_special x start hp ((List.suffix_cons t after).trans h)
      · exact advances_enterCapture x start none hp h
  · exact advances_enterCapture x start none hp h

theorem advances_bar (hp : Written ts p.flags) (h : rest <:+ ts) :
    Advances ts (p.bar x t rest) := by
  unfold bar
  split
  · exact keeps_refuseAt ..
  · exact ⟨hp, h⟩

theorem advances_plainToken [Text.CharacterNames] (hp : Written ts p.flags) (ht : t.escaped = false)
    (h : t :: rest <:+ ts) : Advances ts (p.plainToken x t rest) := by
  have hrest := (List.suffix_cons t rest).trans h
  unfold plainToken
  split
  · exact advances_bar x t hp hrest
  · exact advances_group x t.start hp hrest
  · exact (keeps_readSet x _ _ hrest).bind fun a ha => ⟨hp, ha⟩
  · exact advances_quantify x _ _ _ hp hrest
  · exact advances_quantify x _ _ _ hp hrest
  · exact advances_quantify x _ _ _ hp hrest
  · next hc => exact advances_brace x t hp (by simp [Token.isPlain, ht, hc]) h
  · exact ⟨hp, hrest⟩
  · exact ⟨hp, hrest⟩
  · exact ⟨hp, hrest⟩
  · exact ⟨hp, hrest⟩

theorem advances_step [Text.CharacterNames] (hp : Written ts p.flags) (h : t :: rest <:+ ts) :
    Advances ts (p.step x t rest) := by
  have hrest := (List.suffix_cons t rest).trans h
  unfold step
  split
  · exact ⟨hp, hrest⟩
  split
  · exact ⟨hp, (List.drop_suffix ..).trans ((List.dropWhile_suffix _).trans hrest)⟩
  split
  · exact advances_escape x t hp hrest
  · next ht => exact advances_plainToken x t hp (Bool.eq_false_iff.2 ht) h

theorem flags_close (p : Parser) (outer : Frame) (others : List Frame) :
    (p.close outer others).flags = p.flags := by
  simp only [close]
  split <;> rfl

/-- Reading keeps to the tokens of the pattern, step after step. -/
theorem advances_run [Text.CharacterNames] (fuel : Nat) (hp : Written ts p.flags)
    (h : rest <:+ ts) :
    Advances ts (run x fuel p rest) := by
  fun_induction run x fuel p rest with
  | case1 p rest => exact ⟨hp, h⟩
  | case2 n p => exact ⟨hp, h⟩
  | case3 fuel p t rest hclose houter => exact ⟨hp, h⟩
  | case4 fuel p t rest hclose outer others houter ih =>
      have hclosed : Written ts (p.close outer others).flags := by rwa [flags_close]
      exact ih hclosed ((List.suffix_cons t rest).trans h)
  | case5 fuel p t rest hclose ih =>
      refine (advances_step x t hp h).bind ?_
      rintro ⟨p', rest'⟩ ⟨hp', hrest'⟩
      exact ih p' rest' hp' hrest'

theorem keeps_finish (hp : Written ts p.flags) (rest : List Token) :
    Keeps ts (fun _ => True) (p.finish x rest) := by
  have hflags : (p.flags.contains .ascii && p.flags.contains .unicode) = true →
      Limit.asciiAndUnicode.ExceededBy (ts.flatMap Token.chars) := by
    intro h
    rw [Bool.and_eq_true, List.contains_iff_mem, List.contains_iff_mem] at h
    exact ⟨mem_chars_of_written hp h.1 rfl, mem_chars_of_written hp h.2 rfl⟩
  unfold finish
  refine .unless (fun _ => keeps_refuseAt ..) (.unless (fun _ => keeps_refuseAt ..)
    (.unless hflags ?_))
  split
  · exact keeps_refuseAt ..
  · split <;> trivial

end
end Parser

/-- A pattern that exceeds a limit has in its text what exceeds it. -/
theorem exceededBy_of_parse [Text.CharacterNames] {pattern : String} {l : Limit}
    (h : parse pattern = .error (.limit l)) : l.ExceededBy pattern.toList := by
  have hread : Keeps (tokensFrom 0 pattern.toList) (fun _ => True) (parse pattern) := by
    unfold parse parseWith
    have hinitial : Written (tokensFrom 0 pattern.toList) (Parser.initial []).flags :=
      List.forall_mem_nil _
    refine (Parser.advances_run _ _ hinitial (List.suffix_refl _)).bind ?_
    rintro ⟨p, rest⟩ ⟨hp, -⟩
    refine (Parser.keeps_finish _ hp rest).bind fun node _ => ?_
    split <;> trivial
  rw [h] at hread
  exact Limit.ExceededBy.mono hread (flatMap_chars_tokensFrom 0 pattern.toList).isInfix

end FindReplace.Regex
