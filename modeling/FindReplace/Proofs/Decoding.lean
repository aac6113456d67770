import FindReplace.Proofs.Encoding

/-!
# Which bytes are read

Bytes are read as a text only if they are those written for it, so reading accepts no second form of
any text: no overlong sequences, no surrogates, and no codes beyond the last code point. What the
first byte of a sequence tells of the rest is said once (`Leads`); then each number of bytes that
are to come gives a code, in bounds that admit one form of it only.
-/
namespace FindReplace.Text.Utf8

/-- What the first byte of a sequence tells of it: how many bytes are to come, the bounds of the
next one, and the first part of the code. -/
inductive Leads (start : Nat) (byte : UInt8) : Pending → Prop
  | two {code : Nat} : byte.toNat = 0xC0 + code → 2 ≤ code → code < 0x20 →
      Leads start byte ⟨start, byte, 1, 0x80, 0xBF, code⟩
  | three {low high code : Nat} : byte.toNat = 0xE0 + code → code < 0x10 → 0x80 ≤ low →
      high ≤ 0xBF → (code = 0 → 0xA0 ≤ low) → (code = 0xD → high ≤ 0x9F) →
      Leads start byte ⟨start, byte, 2, low, high, code⟩
  | four {low high code : Nat} : byte.toNat = 0xF0 + code → code ≤ 4 → 0x80 ≤ low →
      high ≤ 0xBF → (code = 0 → 0x90 ≤ low) → (code = 4 → high ≤ 0x8F) →
      Leads start byte ⟨start, byte, 3, low, high, code⟩

theorem leads_of_begin? {start : Nat} {byte : UInt8} {p : Pending}
    (h : begin? start byte = some p) : Leads start byte p := by
  unfold begin? at h
  simp only [Bool.and_eq_true, decide_eq_true_eq, beq_iff_eq] at h
  repeat' split at h
  · cases h
    refine .two ?_ ?_ ?_ <;> omega
  · cases h
    refine .three ?_ ?_ ?_ ?_ ?_ ?_ <;> omega
  · cases h
    refine .three ?_ ?_ ?_ ?_ ?_ ?_ <;> omega
  · cases h
    refine .three ?_ ?_ ?_ ?_ ?_ ?_ <;> omega
  · cases h
    refine .four ?_ ?_ ?_ ?_ ?_ ?_ <;> omega
  · cases h
    refine .four ?_ ?_ ?_ ?_ ?_ ?_ <;> omega
  · cases h
    refine .four ?_ ?_ ?_ ?_ ?_ ?_ <;> omega
  · cases h

section
variable {pos start left low high code : Nat} {byte : UInt8} {bytes : Bytes} {cs : List Char}

theorem exists_of_decodeFrom_last
    (h : decodeFrom pos (some ⟨start, byte, 1, low, high, code⟩) bytes = .ok cs) :
    ∃ b rest cs', bytes = b :: rest ∧ low ≤ b.toNat ∧ b.toNat ≤ high ∧
      cs = Char.ofNat (code * 64 + (b.toNat - 0x80)) :: cs' ∧
        decodeFrom (pos + 1) none rest = .ok cs' := by
  cases bytes with
  | nil => cases h
  | cons b rest =>
      by_cases hb : low ≤ b.toNat ∧ b.toNat ≤ high
      · rw [decodeFrom_last hb.1 hb.2] at h
        cases hrest : decodeFrom (pos + 1) none rest with
        | error m =>
            rw [hrest] at h
            cases h
        | ok cs' =>
            rw [hrest] at h
            exact ⟨b, rest, cs', rfl, hb.1, hb.2, (Except.ok.inj h).symm, hrest⟩
      · rw [decodeFrom, if_neg (by simpa using hb)] at h
        cases h

theorem exists_of_decodeFrom_more
    (h : decodeFrom pos (some ⟨start, byte, left + 2, low, high, code⟩) bytes = .ok cs) :
    ∃ b rest, bytes = b :: rest ∧ low ≤ b.toNat ∧ b.toNat ≤ high ∧
      decodeFrom (pos + 1)
        (some ⟨start, byte, left + 1, 0x80, 0xBF, code * 64 + (b.toNat - 0x80)⟩) rest = .ok cs := by
  cases bytes with
  | nil => cases h
  | cons b rest =>
      by_cases hb : low ≤ b.toNat ∧ b.toNat ≤ high
      · rw [decodeFrom_more hb.1 hb.2] at h
        exact ⟨b, rest, rfl, hb.1, hb.2, h⟩
      · rw [decodeFrom, if_neg (by simpa using hb)] at h
        cases h

end

theorem ofNat_eq {n : Nat} {b : UInt8} (h : n = b.toNat) : UInt8.ofNat n = b :=
  h ▸ UInt8.ofNat_toNat

theorem tail_eq {n : Nat} {b : UInt8} (h : 0x80 + n % 64 = b.toNat) : tail n = b := ofNat_eq h

theorem toNat_charOfNat {n : Nat} (h : n.isValidChar) : (Char.ofNat n).toNat = n := by
  rw [Char.ofNat, dif_pos h]
  rfl

/-- Whatever is read begins with the bytes of a character. -/
theorem exists_of_decodeFrom {pos : Nat} {bytes : Bytes} {cs : List Char}
    (h : decodeFrom pos none bytes = .ok cs) :
    (bytes = [] ∧ cs = []) ∨ ∃ c rest cs' next, bytes = encodeCode (Char.toNat c) ++ rest ∧
      cs = c :: cs' ∧ decodeFrom next none rest = .ok cs' := by
  cases bytes with
  | nil =>
      cases h
      exact .inl ⟨rfl, rfl⟩
  | cons b rest =>
      right
      by_cases hb : b.toNat < 0x80
      · rw [decodeFrom_one hb] at h
        cases hrest : decodeFrom (pos + 1) none rest with
        | error m =>
            rw [hrest] at h
            cases h
        | ok cs' =>
            rw [hrest] at h
            refine ⟨Char.ofNat b.toNat, rest, cs', pos + 1, ?_, (Except.ok.inj h).symm, hrest⟩
            rw [toNat_charOfNat (.inl (by omega)), encodeCode_one hb, ofNat_eq rfl]
            rfl
      · cases hp : begin? pos b with
        | none =>
            rw [decodeFrom, if_neg hb, hp] at h
            cases h
        | some p =>
            rw [decodeFrom_begin (Nat.not_lt.1 hb) hp] at h
            cases leads_of_begin? hp with
            | @two code hfirst hlow hhigh =>
                obtain ⟨b₁, rest, cs', rfl, hlow₁, hhigh₁, rfl, hrest⟩ :=
                  exists_of_decodeFrom_last h
                refine ⟨_, rest, cs', _, ?_, rfl, hrest⟩
                rw [toNat_charOfNat (.inl (by omega)), encodeCode_two (by omega) (by omega),
                  ofNat_eq (b := b) (by omega), tail_eq (b := b₁) (by omega)]
                rfl
            | @three low high code hfirst hcode hlow hhigh hover hsurrogate =>
                obtain ⟨b₁, rest, rfl, hlow₁, hhigh₁, h⟩ := exists_of_decodeFrom_more h
                obtain ⟨b₂, rest, cs', rfl, hlow₂, hhigh₂, rfl, hrest⟩ :=
                  exists_of_decodeFrom_last h
                refine ⟨_, rest, cs', _, ?_, rfl, hrest⟩
                have hvalid : Nat.isValidChar
                    ((code * 64 + (b₁.toNat - 0x80)) * 64 + (b₂.toNat - 0x80)) := by
                  unfold Nat.isValidChar
                  omega
                rw [toNat_charOfNat hvalid, encodeCode_three (by omega) (by omega),
                  ofNat_eq (b := b) (by omega), tail_eq (b := b₁) (by omega),
                  tail_eq (b := b₂) (by omega)]
                rfl
            | @four low high code hfirst hcode hlow hhigh hover hbeyond =>
                obtain ⟨b₁, rest, rfl, hlow₁, hhigh₁, h⟩ := exists_of_decodeFrom_more h
                obtain ⟨b₂, rest, rfl, hlow₂, hhigh₂, h⟩ := exists_of_decodeFrom_more h
                obtain ⟨b₃, rest, cs', rfl, hlow₃, hhigh₃, rfl, hrest⟩ :=
                  exists_of_decodeFrom_last h
                refine ⟨_, rest, cs', _, ?_, rfl, hrest⟩
                have hvalid : Nat.isValidChar
                    (((code * 64 + (b₁.toNat - 0x80)) * 64 + (b₂.toNat - 0x80)) * 64 +
                      (b₃.toNat - 0x80)) := by
                  unfold Nat.isValidChar
                  omega
                rw [toNat_charOfNat hvalid, encodeCode_four (by omega),
                  ofNat_eq (b := b) (by omega), tail_eq (b := b₁) (by omega),
                  tail_eq (b := b₂) (by omega), tail_eq (b := b₃) (by omega)]
                rfl

theorem eq_flatMap_of_decodeFrom {pos : Nat} {bytes : Bytes} {cs : List Char}
    (h : decodeFrom pos none bytes = .ok cs) :
    bytes = cs.flatMap fun c => encodeCode c.toNat := by
  induction cs generalizing pos bytes with
  | nil =>
      rcases exists_of_decodeFrom h with ⟨rfl, -⟩ | ⟨c, rest, cs', next, -, hcs, -⟩
      · rfl
      · cases hcs
  | cons c cs ih =>
      rcases exists_of_decodeFrom h with ⟨-, hcs⟩ | ⟨c', rest, cs', next, rfl, hcs, hrest⟩
      · cases hcs
      · cases hcs
        rw [List.flatMap_cons, ← ih hrest]

/-- Bytes are read as a text exactly if they are those by which strings hold it. -/
theorem decode_eq_ok {bytes : Bytes} {cs : List Char} :
    decode bytes = .ok cs ↔ bytes = (String.ofList cs).toUTF8.data.toList := by
  constructor
  · intro h
    rw [← encode_eq, encode, String.toList_ofList]
    exact eq_flatMap_of_decodeFrom h
  · rintro rfl
    rw [decode_toUTF8, String.toList_ofList]

end FindReplace.Text.Utf8
