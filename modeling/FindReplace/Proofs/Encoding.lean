import FindReplace.Text.Utf8

/-!
# Writing UTF-8 and reading it back

The bytes written for a text are those by which strings are held, and reading them gives the text
back. A sequence is read byte by byte: the first byte tells how many are to come and between which
bounds the next one lies, and every other byte lies between 128 and 191. The bounds after the first
byte keep out surrogates, overlong forms and codes beyond the last code point, so this is where it
counts that a code is that of a character and is written with as few bytes as it needs.

Nothing is said here about bytes that are malformed.
-/
namespace FindReplace.Text.Utf8

theorem code_valid (c : Char) :
    c.toNat < 0xD800 ∨ 0xDFFF < c.toNat ∧ c.toNat < 0x110000 := c.valid

theorem toNat_ofNat {n : Nat} (h : n < 256) : (UInt8.ofNat n).toNat = n := by
  rw [UInt8.toNat_ofNat', Nat.mod_eq_of_lt h]

/-- A byte that continues a sequence. -/
def tail (n : Nat) : UInt8 := UInt8.ofNat (0x80 + n % 64)

theorem toNat_tail (n : Nat) : (tail n).toNat = 0x80 + n % 64 := toNat_ofNat (by omega)

section
variable {n : Nat}

theorem encodeCode_one (h : n < 0x80) : encodeCode n = [UInt8.ofNat n] := by
  rw [encodeCode, if_pos h]

theorem encodeCode_two (h : 0x80 ≤ n) (h' : n < 0x800) :
    encodeCode n = [UInt8.ofNat (0xC0 + n / 64), tail n] := by
  rw [encodeCode, if_neg (by omega), if_pos h']
  simp only [Nat.div_one, tail]

theorem encodeCode_three (h : 0x800 ≤ n) (h' : n < 0x10000) :
    encodeCode n = [UInt8.ofNat (0xE0 + n / 4096), tail (n / 64), tail n] := by
  rw [encodeCode, if_neg (by omega), if_neg (by omega), if_pos h']
  simp only [Nat.div_one, tail]

theorem encodeCode_four (h : 0x10000 ≤ n) :
    encodeCode n =
      [UInt8.ofNat (0xF0 + n / 262144), tail (n / 4096), tail (n / 64), tail n] := by
  rw [encodeCode, if_neg (by omega), if_neg (by omega), if_neg (by omega)]
  simp only [Nat.div_one, tail]

end

theorem encodeCode_toNat (c : Char) : encodeCode c.toNat = String.utf8EncodeChar c := by
  have hlast : c.toNat < 0x110000 := by have := code_valid c; omega
  have htail : ∀ m, tail m = UInt8.ofNat (m % 64 + 0x80) := fun m => by rw [tail, Nat.add_comm]
  unfold String.utf8EncodeChar
  rw [show c.val.toNat = c.toNat from rfl]
  generalize c.toNat = n at hlast
  dsimp only
  split
  · next h => exact encodeCode_one (by omega)
  · next h =>
      split
      · next h' =>
          have hfirst : 0xC0 + n / 64 = n / 64 % 32 + 0xC0 := by omega
          rw [encodeCode_two (by omega) (by omega), htail, hfirst]
      · next h' =>
          split
          · next h'' =>
              have hfirst : 0xE0 + n / 4096 = n / 4096 % 16 + 0xE0 := by omega
              rw [encodeCode_three (by omega) (by omega), htail, htail, hfirst]
          · next h'' =>
              have hfirst : 0xF0 + n / 262144 = n / 262144 % 8 + 0xF0 := by omega
              rw [encodeCode_four (by omega), htail, htail, htail, hfirst]

/-- What is written for a text are the bytes by which strings hold it. -/
theorem encode_eq (s : String) : encode s = s.toUTF8.data.toList := by
  have hbytes : s.toUTF8 = (s.toList.flatMap String.utf8EncodeChar).toByteArray := by
    rw [String.toUTF8_eq_toByteArray, ← String.utf8Encode_toList, List.utf8Encode]
  have hcodes : (fun c : Char => encodeCode c.toNat) = String.utf8EncodeChar :=
    funext encodeCode_toNat
  rw [hbytes, List.toList_data_toByteArray, encode, hcodes]

section
variable {pos start left low high code : Nat} {p : Pending} {byte b : UInt8} {rest : Bytes}

theorem decodeFrom_one (h : b.toNat < 0x80) :
    decodeFrom pos none (b :: rest) =
      (decodeFrom (pos + 1) none rest).map (Char.ofNat b.toNat :: ·) := by
  rw [decodeFrom, if_pos h]

theorem decodeFrom_begin (h : 0x80 ≤ b.toNat) (hp : begin? pos b = some p) :
    decodeFrom pos none (b :: rest) = decodeFrom (pos + 1) (some p) rest := by
  rw [decodeFrom, if_neg (Nat.not_lt.2 h), hp]

theorem decodeFrom_last (hlow : low ≤ b.toNat) (hhigh : b.toNat ≤ high) :
    decodeFrom pos (some ⟨start, byte, 1, low, high, code⟩) (b :: rest) =
      (decodeFrom (pos + 1) none rest).map (Char.ofNat (code * 64 + (b.toNat - 0x80)) :: ·) := by
  rw [decodeFrom, if_pos (by simp [hlow, hhigh]), if_pos (Nat.le_refl 1)]

theorem decodeFrom_more (hlow : low ≤ b.toNat) (hhigh : b.toNat ≤ high) :
    decodeFrom pos (some ⟨start, byte, left + 2, low, high, code⟩) (b :: rest) =
      decodeFrom (pos + 1)
        (some ⟨start, byte, left + 1, 0x80, 0xBF, code * 64 + (b.toNat - 0x80)⟩) rest := by
  rw [decodeFrom, if_pos (by simp [hlow, hhigh]), if_neg (by dsimp only; omega)]
  rfl

end

section
variable {n : Nat} {b : UInt8} (pos : Nat)

theorem begin?_two (hb : b.toNat = 0xC0 + n / 64) (h : 0x80 ≤ n) (h' : n < 0x800) :
    begin? pos b = some ⟨pos, b, 1, 0x80, 0xBF, n / 64⟩ := by
  unfold begin?
  simp only [hb, Bool.and_eq_true, decide_eq_true_eq]
  rw [if_pos (by omega), Nat.add_sub_cancel_left]

theorem begin?_three (hb : b.toNat = 0xE0 + n / 4096) (h : 0x800 ≤ n) (h' : n < 0x10000)
    (hn : n < 0xD800 ∨ 0xDFFF < n) :
    ∃ low high, begin? pos b = some ⟨pos, b, 2, low, high, n / 4096⟩ ∧
      low ≤ 0x80 + n / 64 % 64 ∧ 0x80 + n / 64 % 64 ≤ high := by
  unfold begin?
  simp only [hb, Bool.and_eq_true, decide_eq_true_eq, beq_iff_eq]
  rw [if_neg (by omega)]
  by_cases hfirst : n / 4096 = 0
  · rw [hfirst]
    exact ⟨0xA0, 0xBF, rfl, by omega, by omega⟩
  · rw [if_neg (by omega)]
    by_cases hsurrogates : n / 4096 = 0xD
    · rw [hsurrogates]
      exact ⟨0x80, 0x9F, rfl, by omega, by omega⟩
    · rw [if_neg (by omega), if_pos (by omega), Nat.add_sub_cancel_left]
      exact ⟨0x80, 0xBF, rfl, by omega, by omega⟩

theorem begin?_four (hb : b.toNat = 0xF0 + n / 262144) (h : 0x10000 ≤ n) (h' : n < 0x110000) :
    ∃ low high, begin? pos b = some ⟨pos, b, 3, low, high, n / 262144⟩ ∧
      low ≤ 0x80 + n / 4096 % 64 ∧ 0x80 + n / 4096 % 64 ≤ high := by
  unfold begin?
  simp only [hb, Bool.and_eq_true, decide_eq_true_eq, beq_iff_eq]
  rw [if_neg (by omega), if_neg (by omega), if_neg (by omega), if_neg (by omega)]
  by_cases hfirst : n / 262144 = 0
  · rw [hfirst]
    exact ⟨0x90, 0xBF, rfl, by omega, by omega⟩
  · rw [if_neg (by omega)]
    by_cases hlast : n / 262144 = 4
    · rw [hlast]
      exact ⟨0x80, 0x8F, rfl, by omega, by omega⟩
    · rw [if_pos (by omega), Nat.add_sub_cancel_left]
      exact ⟨0x80, 0xBF, rfl, by omega, by omega⟩

end

theorem decodeFrom_encodeCode (c : Char) (pos : Nat) (rest : Bytes) :
    ∃ next, decodeFrom pos none (encodeCode c.toNat ++ rest) =
      (decodeFrom next none rest).map (c :: ·) := by
  have hvalid := code_valid c
  have hchar : ∀ {m : Nat}, m = c.toNat → Char.ofNat m = c := fun h => h ▸ Char.ofNat_toNat c
  generalize c.toNat = n at hvalid hchar
  by_cases h1 : n < 0x80
  · have hb : (UInt8.ofNat n).toNat = n := toNat_ofNat (by omega)
    rw [encodeCode_one h1, List.singleton_append, decodeFrom_one (by omega), hchar hb]
    exact ⟨_, rfl⟩
  by_cases h2 : n < 0x800
  · have hb : (UInt8.ofNat (0xC0 + n / 64)).toNat = 0xC0 + n / 64 := toNat_ofNat (by omega)
    have ht := toNat_tail n
    rw [encodeCode_two (by omega) h2, List.cons_append, List.singleton_append,
      decodeFrom_begin (by omega) (begin?_two pos hb (by omega) h2),
      decodeFrom_last (by omega) (by omega), hchar (by omega)]
    exact ⟨_, rfl⟩
  by_cases h3 : n < 0x10000
  · have hb : (UInt8.ofNat (0xE0 + n / 4096)).toNat = 0xE0 + n / 4096 := toNat_ofNat (by omega)
    have ht := toNat_tail n
    have ht' := toNat_tail (n / 64)
    obtain ⟨low, high, hbegin, hlow, hhigh⟩ :=
      begin?_three pos hb (by omega) h3 (by omega)
    rw [encodeCode_three (by omega) h3]
    simp only [List.cons_append, List.nil_append]
    rw [decodeFrom_begin (by omega) hbegin,
      decodeFrom_more (by omega) (by omega),
      decodeFrom_last (by omega) (by omega), hchar (by omega)]
    exact ⟨_, rfl⟩
  · have hb : (UInt8.ofNat (0xF0 + n / 262144)).toNat = 0xF0 + n / 262144 :=
      toNat_ofNat (by omega)
    have ht := toNat_tail n
    have ht' := toNat_tail (n / 64)
    have ht'' := toNat_tail (n / 4096)
    obtain ⟨low, high, hbegin, hlow, hhigh⟩ :=
      begin?_four pos hb (by omega) (by omega)
    rw [encodeCode_four (by omega)]
    simp only [List.cons_append, List.nil_append]
    rw [decodeFrom_begin (by omega) hbegin,
      decodeFrom_more (by omega) (by omega),
      decodeFrom_more (by omega) (by omega),
      decodeFrom_last (by omega) (by omega), hchar (by omega)]
    exact ⟨_, rfl⟩

theorem decodeFrom_flatMap_encodeCode (cs : List Char) (pos : Nat) :
    decodeFrom pos none (cs.flatMap fun c => encodeCode c.toNat) = .ok cs := by
  induction cs generalizing pos with
  | nil => rfl
  | cons c cs ih =>
      obtain ⟨next, hnext⟩ :=
        decodeFrom_encodeCode c pos (cs.flatMap fun c => encodeCode c.toNat)
      rw [List.flatMap_cons, hnext, ih]
      rfl

/-- The bytes by which strings hold a text are read as that text. -/
theorem decode_toUTF8 (s : String) : decode s.toUTF8.data.toList = .ok s.toList := by
  rw [← encode_eq, encode, decode]
  exact decodeFrom_flatMap_encodeCode s.toList 0

end FindReplace.Text.Utf8
