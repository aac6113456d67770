import FindReplace.Proofs.PatternLimits

/-!
# Characters by name

What a pattern says can depend on the host's table of character names, but only by the names that it
spells out. Hosts that agree on these read it alike, and a pattern without a name says the same on
all of them.

One reader looks names up. It finds them spelled out in the tokens it is given, and all that lies
between it and the whole pattern hands on last tokens of the pattern.
-/
namespace FindReplace.Regex
open Text (CharacterNames)

/-- A character by its name, as a pattern has it. -/
def spelled (name : String) : List Char := '\\' :: 'N' :: '\x7b' :: (name.toList ++ ['\x7d'])

/-- Both tables have the same characters for the names that are spelled out in the text. -/
def AgreeOn (names names' : CharacterNames) (text : List Char) : Prop :=
  ∀ name, spelled name <:+: text → names.lookup name = names'.lookup name

theorem AgreeOn.mono {names names' : CharacterNames} {text text' : List Char}
    (h : AgreeOn names names' text') (htext : text <:+: text') : AgreeOn names names' text :=
  fun name hname => h name (hname.trans htext)

theorem agreeOn_of_not_mem (names names' : CharacterNames) {text : List Char} (h : 'N' ∉ text) :
    AgreeOn names names' text := by
  intro name hname
  exact absurd (hname.subset (by simp [spelled])) h

/-- Names begin with a backslash, so none begins before a text without any. -/
theorem spelled_infix_of_append {name : String} {before text : List Char} (h : '\\' ∉ before)
    (hname : spelled name <:+: before ++ text) : spelled name <:+: text := by
  induction before with
  | nil => exact hname
  | cons c before ih =>
      rw [List.mem_cons, not_or] at h
      rcases List.infix_cons_iff.1 hname with hprefix | hname
      · exact absurd (List.cons_prefix_cons.1 hprefix).1 h.1
      · exact ih h.2 hname

theorem refuseAt_ne_ok {α : Type} {x : Extent} {rest : List Token} {f : Flaw} {position : Nat}
    {a : α} : x.refuseAt rest f position ≠ .ok a := by
  unfold Extent.refuseAt Extent.refuse
  split <;> exact nofun

theorem Keeps.bind_congr {α β : Type} {ts : List Token} {P : α → Prop} {r : Reading α}
    {f g : α → Reading β} (h : Keeps ts P r) (hfg : ∀ a, P a → f a = g a) :
    (r >>= f) = (r >>= g) := by
  rcases r with f | a
  · rfl
  · exact hfg a h

section
variable {names names' : CharacterNames} {ts rest : List Token} (x : Extent) {t : Token}

theorem prefix_of_readName {missing : Flaw} {closer : Char} {name : String} {after : List Token}
    (h : readName x missing closer rest = .ok (name, after)) :
    name.toList ++ [closer] <+: rest.flatMap Token.chars := by
  have hrest : rest.takeWhile (fun t => !t.isPlain closer) ++
      rest.dropWhile (fun t => !t.isPlain closer) = rest := List.takeWhile_append_dropWhile
  have hhead := List.head?_dropWhile_not (fun t => !t.isPlain closer) rest
  simp only [readName] at h
  split at h
  · split at h <;> exact absurd h refuseAt_ne_ok
  · next c after' hdrop =>
      split at h
      · exact absurd h refuseAt_ne_ok
      · cases h
        have hcloser : c.chars = [closer] := by
          rw [hdrop] at hhead
          exact Token.of_isPlain (by simpa using hhead)
        have hchars := congrArg (List.flatMap Token.chars) hrest
        rw [hdrop, List.flatMap_append, List.flatMap_cons, hcloser, ← List.append_assoc] at hchars
        rw [← hchars, textOf, String.toList_ofList]
        exact List.prefix_append _ _

theorem readNamedCode_congr (ht : t.chars = ['\\', 'N'])
    (h : AgreeOn names names' ((t :: rest).flatMap Token.chars)) :
    @readNamedCode names x t rest = @readNamedCode names' x t rest := by
  unfold readNamedCode
  cases rest with
  | nil => rfl
  | cons brace rest =>
      dsimp only
      split
      · next hbrace =>
          cases hname : readName x .missingCharacterName '\x7d' rest with
          | error f => rfl
          | ok a =>
              obtain ⟨name, after⟩ := a
              have hspelled : spelled name <+: (t :: brace :: rest).flatMap Token.chars := by
                rw [List.flatMap_cons, List.flatMap_cons, ht, Token.of_isPlain hbrace]
                exact (List.prefix_append_right_inj ['\\', 'N', '\x7b']).2
                  (prefix_of_readName x hname)
              have hlookup := h name hspelled.isInfix
              simp only [bind, Except.bind, hlookup]
      · rfl

theorem readCode?_congr (ht : t.escaped = true)
    (h : AgreeOn names names' ((t :: rest).flatMap Token.chars)) :
    @readCode? names x t rest = @readCode? names' x t rest := by
  unfold readCode?
  split
  · rfl
  · rfl
  · rfl
  · next hN =>
      have hchars : t.chars = ['\\', 'N'] := by simp [Token.chars, ht, hN]
      rw [readNamedCode_congr x hchars h]
  · rfl

theorem readSetEscape_congr (ht : t.escaped = true)
    (h : AgreeOn names names' ((t :: rest).flatMap Token.chars)) :
    @readSetEscape names x t rest = @readSetEscape names' x t rest := by
  simp only [readSetEscape, readCode?_congr x ht h]

theorem readEscape_congr (ht : t.escaped = true)
    (h : AgreeOn names names' ((t :: rest).flatMap Token.chars)) :
    @readEscape names x t rest = @readEscape names' x t rest := by
  simp only [readEscape, readCode?_congr x ht h]

theorem readMember_congr (h : AgreeOn names names' ((t :: rest).flatMap Token.chars)) :
    @readMember names x t rest = @readMember names' x t rest := by
  unfold readMember
  split
  · next ht => exact readSetEscape_congr x ht h
  · rfl

end

section
variable {names names' : CharacterNames} {ts rest : List Token} (x : Extent)

theorem readMembers_congr (h : AgreeOn names names' (ts.flatMap Token.chars)) (start fuel : Nat)
    (members : List Member) (hrest : rest <:+ ts) :
    @readMembers names x start fuel members rest =
      @readMembers names' x start fuel members rest := by
  induction fuel generalizing members rest with
  | zero => rfl
  | succ fuel ih =>
      cases rest with
      | nil => rfl
      | cons t rest =>
          simp only [readMembers]
          split
          · rfl
          · rw [readMember_congr x (h.mono (Token.chars_infix hrest))]
            have hafter := (List.suffix_cons t rest).trans hrest
            refine (@keeps_readMember _ _ x t names' hafter).bind_congr ?_
            rintro ⟨lo, rest⟩ hrest
            cases rest with
            | nil => exact ih _ hrest
            | cons hyphen rest =>
                have hafter := (List.suffix_cons hyphen rest).trans hrest
                dsimp only
                split
                · cases rest with
                  | nil => rfl
                  | cons u rest =>
                      dsimp only
                      split
                      · rfl
                      · rw [readMember_congr x (h.mono (Token.chars_infix hafter))]
                        have hrest := (List.suffix_cons u rest).trans hafter
                        refine (@keeps_readMember _ _ x u names' hrest).bind_congr ?_
                        rintro ⟨hi, rest⟩ hrest
                        exact congrArg (joinRange x t u lo hi rest >>= ·)
                          (funext fun range => ih _ hrest)
                · exact ih _ hrest

theorem readSet_congr (h : AgreeOn names names' (ts.flatMap Token.chars)) (sense : Sense)
    (start : Nat) (hrest : rest <:+ ts) :
    @readSet names x sense start rest = @readSet names' x sense start rest := by
  unfold readSet
  cases rest with
  | nil =>
      dsimp only
      rw [readMembers_congr x h start _ [] hrest]
  | cons t after =>
      have hafter := (List.suffix_cons t after).trans hrest
      dsimp only
      split
      · rw [readMembers_congr x h start _ [] hafter]
      · rw [readMembers_congr x h start _ [] hrest]

namespace Parser
variable {p : Parser} {t : Token}

theorem escape_congr (ht : t.escaped = true)
    (h : AgreeOn names names' ((t :: rest).flatMap Token.chars)) :
    @escape names p x t rest = @escape names' p x t rest := by
  simp only [escape, readEscape_congr x ht h]

theorem plainToken_congr (h : AgreeOn names names' (ts.flatMap Token.chars)) (hrest : rest <:+ ts) :
    @plainToken names p x t rest = @plainToken names' p x t rest := by
  unfold plainToken
  split
  · rfl
  · rfl
  · rw [readSet_congr x h p.mode.sense t.start hrest]
  all_goals rfl

theorem step_congr (h : AgreeOn names names' (ts.flatMap Token.chars)) (hrest : t :: rest <:+ ts) :
    @step names p x t rest = @step names' p x t rest := by
  unfold step
  split
  · rfl
  split
  · rfl
  split
  · next ht => exact escape_congr x ht (h.mono (Token.chars_infix hrest))
  · exact plainToken_congr x h ((List.suffix_cons t rest).trans hrest)

theorem run_congr (h : AgreeOn names names' (ts.flatMap Token.chars)) (fuel : Nat)
    (hp : Written ts p.flags) (hrest : rest <:+ ts) :
    @run names x fuel p rest = @run names' x fuel p rest := by
  induction fuel generalizing p rest with
  | zero => rfl
  | succ fuel ih =>
      cases rest with
      | nil => rfl
      | cons t rest =>
          simp only [run]
          split
          · cases p.outer with
            | nil => rfl
            | cons outer others =>
                have hclosed : Written ts (p.close outer others).flags := by rwa [flags_close]
                exact ih hclosed ((List.suffix_cons t rest).trans hrest)
          · rw [step_congr x h hrest]
            refine (@advances_step _ _ x p t names' hp hrest).bind_congr ?_
            rintro ⟨p', rest'⟩ ⟨hp', hrest'⟩
            exact ih hp' hrest'

end Parser

end

theorem Flag.exists_letter (f : Flag) : ∃ c, Flag.ofChar? c = some f ∧ '\\' ≠ c := by
  cases f with
  | ignoreCase => exact ⟨'i', rfl, by decide⟩
  | locale => exact ⟨'L', rfl, by decide⟩
  | multiline => exact ⟨'m', rfl, by decide⟩
  | dotAll => exact ⟨'s', rfl, by decide⟩
  | verbose => exact ⟨'x', rfl, by decide⟩
  | ascii => exact ⟨'a', rfl, by decide⟩
  | template => exact ⟨'t', rfl, by decide⟩
  | unicode => exact ⟨'u', rfl, by decide⟩

/-- Flags that are on from the start are as good as written in front of the pattern. -/
theorem exists_written (flags : List Flag) :
    ∃ before : List Token, Written before flags ∧ '\\' ∉ before.flatMap Token.chars := by
  induction flags with
  | nil => exact ⟨[], List.forall_mem_nil _, List.not_mem_nil⟩
  | cons f flags ih =>
      obtain ⟨before, hwritten, hslash⟩ := ih
      obtain ⟨c, hflag, hne⟩ := f.exists_letter
      refine ⟨⟨0, false, c⟩ :: before, ?_, ?_⟩
      · intro g hg
        rcases List.mem_cons.1 hg with rfl | hg
        · exact ⟨⟨0, false, c⟩, List.mem_cons_self, hflag⟩
        · obtain ⟨t, ht, hflag'⟩ := hwritten g hg
          exact ⟨t, List.mem_cons_of_mem _ ht, hflag'⟩
      · rw [List.flatMap_cons, List.mem_append, not_or]
        exact ⟨fun hmem => hne (List.mem_singleton.1 hmem), hslash⟩

/-- Tables with the same characters for the names in a pattern make the same of it. -/
theorem parseWith_congr (names names' : CharacterNames) (flags : List Flag) {pattern : String}
    (h : AgreeOn names names' pattern.toList) :
    @parseWith names flags pattern = @parseWith names' flags pattern := by
  obtain ⟨before, hwritten, hslash⟩ := exists_written flags
  have hread := (flatMap_chars_tokensFrom 0 pattern.toList).isInfix
  have hagree : AgreeOn names names'
      ((before ++ tokensFrom 0 pattern.toList).flatMap Token.chars) := by
    intro name hname
    rw [List.flatMap_append] at hname
    exact h name ((spelled_infix_of_append hslash hname).trans hread)
  have hinitial : Written (before ++ tokensFrom 0 pattern.toList) (Parser.initial flags).flags := by
    intro f hf
    obtain ⟨t, ht, hflag⟩ := hwritten f hf
    exact ⟨t, List.mem_append_left _ ht, hflag⟩
  unfold parseWith
  dsimp only
  rw [Parser.run_congr _ hagree _ hinitial (List.suffix_append before _)]

end FindReplace.Regex
