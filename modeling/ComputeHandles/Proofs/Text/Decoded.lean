import ComputeHandles.Proofs.Listing
import ComputeHandles.Proofs.Text.Utf8

/-!
# Only what was encoded is read

The ranges behind a lead byte admit the byte sequences of characters and no others: nothing
overlong, no surrogate and nothing above the last code point. So bytes that are read as a
text are the encoding of that text, and bytes that encode no text are refused.
-/

namespace ComputeHandles.Text

open Listing

variable {valid : Nat} {b b1 b2 b3 : UInt8} {bytes rest : List UInt8} {cs : List Char}

/-- A byte is made of its number. -/
theorem ofNat_eq_of_toNat {n : Nat} (h : n = b.toNat) : UInt8.ofNat n = b := by
  rw [h, UInt8.ofNat_toNat]

/-- A scalar value is the number of the character made of it. -/
theorem val_charOfNat {n : Nat} (scalar : n < 0xd800 ∨ 0xdfff < n ∧ n < 0x110000) :
    (Char.ofNat n).val.toNat = n := by
  have isChar : n.isValidChar := scalar
  rw [Char.ofNat, dif_pos isChar]
  rfl

/-- A byte of the ASCII range encodes the character of its number. -/
theorem utf8EncodeChar_ascii (h : b.toNat < 0x80) :
    String.utf8EncodeChar (Char.ofNat b.toNat) = [b] := by
  have value := val_charOfNat (by omega : b.toNat < 0xd800 ∨ _)
  unfold String.utf8EncodeChar
  dsimp only
  rw [value, if_pos (by omega), ofNat_eq_of_toNat rfl]

/-- Two bytes encode the character of the bits they carry. -/
theorem utf8EncodeChar_two {n : Nat} (low : 0xc2 ≤ b.toNat) (high : b.toNat < 0xe0)
    (range : 0x80 ≤ b1.toNat ∧ b1.toNat ≤ 0xbf)
    (carried : n = (b.toNat - 0xc0) * 64 + (b1.toNat - 0x80)) :
    String.utf8EncodeChar (Char.ofNat n) = [b, b1] := by
  have value := val_charOfNat (by omega : n < 0xd800 ∨ _)
  have lead : n / 64 % 0x20 + 0xc0 = b.toNat := by omega
  have last : n % 0x40 + 0x80 = b1.toNat := by omega
  unfold String.utf8EncodeChar
  dsimp only
  rw [value, if_neg (by omega), if_pos (by omega), ofNat_eq_of_toNat lead,
    ofNat_eq_of_toNat last]

/-- Three bytes encode the character of the bits they carry. -/
theorem utf8EncodeChar_three {n : Nat} (low : 0xe0 ≤ b.toNat) (high : b.toNat < 0xf0)
    (range : 0x80 ≤ b1.toNat ∧ b1.toNat ≤ 0xbf) (overlong : b.toNat = 0xe0 → 0xa0 ≤ b1.toNat)
    (surrogate : b.toNat = 0xed → b1.toNat ≤ 0x9f)
    (range2 : 0x80 ≤ b2.toNat ∧ b2.toNat ≤ 0xbf)
    (carried : n =
      ((b.toNat - 0xe0) * 64 + (b1.toNat - 0x80)) * 64 + (b2.toNat - 0x80)) :
    String.utf8EncodeChar (Char.ofNat n) = [b, b1, b2] := by
  have value := val_charOfNat (by omega : n < 0xd800 ∨ 0xdfff < n ∧ n < 0x110000)
  have lead : n / 4096 % 0x10 + 0xe0 = b.toNat := by omega
  have next : n / 64 % 0x40 + 0x80 = b1.toNat := by omega
  have last : n % 0x40 + 0x80 = b2.toNat := by omega
  unfold String.utf8EncodeChar
  dsimp only
  rw [value, if_neg (by omega), if_neg (by omega), if_pos (by omega), ofNat_eq_of_toNat lead,
    ofNat_eq_of_toNat next, ofNat_eq_of_toNat last]

/-- Four bytes encode the character of the bits they carry. -/
theorem utf8EncodeChar_four {n : Nat} (low : 0xf0 ≤ b.toNat) (high : b.toNat ≤ 0xf4)
    (range : 0x80 ≤ b1.toNat ∧ b1.toNat ≤ 0xbf) (overlong : b.toNat = 0xf0 → 0x90 ≤ b1.toNat)
    (above : b.toNat = 0xf4 → b1.toNat ≤ 0x8f)
    (range2 : 0x80 ≤ b2.toNat ∧ b2.toNat ≤ 0xbf) (range3 : 0x80 ≤ b3.toNat ∧ b3.toNat ≤ 0xbf)
    (carried : n = (((b.toNat - 0xf0) * 64 + (b1.toNat - 0x80)) * 64 + (b2.toNat - 0x80)) * 64 +
      (b3.toNat - 0x80)) :
    String.utf8EncodeChar (Char.ofNat n) = [b, b1, b2, b3] := by
  have value := val_charOfNat (by omega : n < 0xd800 ∨ 0xdfff < n ∧ n < 0x110000)
  have lead : n / 262144 % 0x08 + 0xf0 = b.toNat := by omega
  have next : n / 4096 % 0x40 + 0x80 = b1.toNat := by omega
  have third : n / 64 % 0x40 + 0x80 = b2.toNat := by omega
  have last : n % 0x40 + 0x80 = b3.toNat := by omega
  unfold String.utf8EncodeChar
  dsimp only
  rw [value, if_neg (by omega), if_neg (by omega), if_neg (by omega), ofNat_eq_of_toNat lead,
    ofNat_eq_of_toNat next, ofNat_eq_of_toNat third, ofNat_eq_of_toNat last]

/-- A lead byte begins a character of two, three or four bytes, with a range for the second
that leaves out what is overlong, a surrogate or too great. -/
theorem ofLead?_eq_some {n : Nat} {p : Partial} (h : Partial.ofLead? n = some p) :
    (0xc2 ≤ n ∧ n < 0xe0 ∧ p = ⟨1, 0x80, 0xbf, n - 0xc0, 1⟩) ∨
    (0xe0 ≤ n ∧ n < 0xf0 ∧ ∃ lo hi, p = ⟨2, lo, hi, n - 0xe0, 1⟩ ∧ 0x80 ≤ lo ∧ hi ≤ 0xbf ∧
      (n = 0xe0 → 0xa0 ≤ lo) ∧ (n = 0xed → hi ≤ 0x9f)) ∨
    (0xf0 ≤ n ∧ n ≤ 0xf4 ∧ ∃ lo hi, p = ⟨3, lo, hi, n - 0xf0, 1⟩ ∧ 0x80 ≤ lo ∧ hi ≤ 0xbf ∧
      (n = 0xf0 → 0x90 ≤ lo) ∧ (n = 0xf4 → hi ≤ 0x8f)) := by
  unfold Partial.ofLead? at h
  split_ifs at h with below two first0 firstD three last0 four last4
  · cases h
    exact .inl ⟨by omega, two, rfl⟩
  · cases h
    exact .inr (.inl ⟨by omega, by omega, 0xa0, 0xbf, by rw [first0], by omega, by omega,
      by omega, by omega⟩)
  · cases h
    exact .inr (.inl ⟨by omega, by omega, 0x80, 0x9f, by rw [firstD], by omega, by omega,
      by omega, by omega⟩)
  · cases h
    exact .inr (.inl ⟨by omega, by omega, 0x80, 0xbf, rfl, by omega, by omega, by omega,
      by omega⟩)
  · cases h
    exact .inr (.inr ⟨by omega, by omega, 0x90, 0xbf, by rw [last0], by omega, by omega,
      by omega, by omega⟩)
  · cases h
    exact .inr (.inr ⟨by omega, by omega, 0x80, 0xbf, rfl, by omega, by omega, by omega,
      by omega⟩)
  · cases h
    exact .inr (.inr ⟨by omega, by omega, 0x80, 0x8f, by rw [last4], by omega, by omega,
      by omega, by omega⟩)

/-- A character of which one byte is owed is read from that byte. -/
theorem exists_last {low high bits read : Nat}
    (h : decodeFrom valid (some ⟨1, low, high, bits, read⟩) bytes = .ok cs) :
    ∃ b rest cs', bytes = b :: rest ∧ (low ≤ b.toNat ∧ b.toNat ≤ high) ∧
      cs = Char.ofNat (bits * 64 + (b.toNat - 0x80)) :: cs' ∧
      decodeFrom (valid + read + 1) none rest = .ok cs' := by
  cases bytes with
  | nil => cases h
  | cons b rest =>
    by_cases range : low ≤ b.toNat ∧ b.toNat ≤ high
    · rw [decodeFrom_last range, map_eq_ok_iff] at h
      obtain ⟨cs', read, rfl⟩ := h
      exact ⟨b, rest, cs', rfl, range, rfl, read⟩
    · rw [decodeFrom, if_neg range] at h
      cases h

/-- A character of which more bytes are owed is read from the next one on. -/
theorem exists_more {owed low high bits read : Nat}
    (h : decodeFrom valid (some ⟨owed + 2, low, high, bits, read⟩) bytes = .ok cs) :
    ∃ b rest, bytes = b :: rest ∧ (low ≤ b.toNat ∧ b.toNat ≤ high) ∧
      decodeFrom valid (some ⟨owed + 1, 0x80, 0xbf, bits * 64 + (b.toNat - 0x80), read + 1⟩)
        rest = .ok cs := by
  cases bytes with
  | nil => cases h
  | cons b rest =>
    by_cases range : low ≤ b.toNat ∧ b.toNat ≤ high
    · rw [decodeFrom_more range] at h
      exact ⟨b, rest, rfl, range, h⟩
    · rw [decodeFrom, if_neg range] at h
      cases h

/-- What is read begins with the bytes of its first character. -/
theorem exists_char_of_decodeFrom (h : decodeFrom valid none (b :: rest) = .ok cs) :
    ∃ c cs' valid' behind, cs = c :: cs' ∧ b :: rest = String.utf8EncodeChar c ++ behind ∧
      decodeFrom valid' none behind = .ok cs' := by
  by_cases ascii : b.toNat < 0x80
  · rw [decodeFrom_ascii ascii, map_eq_ok_iff] at h
    obtain ⟨cs', read, rfl⟩ := h
    exact ⟨_, cs', _, rest, rfl, by rw [utf8EncodeChar_ascii ascii]; rfl, read⟩
  · cases begun : Partial.ofLead? b.toNat with
    | none =>
      rw [decodeFrom, if_neg ascii, begun] at h
      cases h
    | some p =>
      rw [decodeFrom_lead ascii begun] at h
      rcases ofLead?_eq_some begun with ⟨low, high, rfl⟩ |
        ⟨low, high, lo, hi, rfl, above, below, overlong, surrogate⟩ |
        ⟨low, high, lo, hi, rfl, above, below, overlong, last⟩
      · obtain ⟨b1, behind, cs', rfl, range, rfl, read⟩ := exists_last h
        refine ⟨_, cs', _, behind, rfl, ?_, read⟩
        rw [utf8EncodeChar_two low high range rfl]
        rfl
      · obtain ⟨b1, rest1, rfl, range, h1⟩ := exists_more h
        obtain ⟨b2, behind, cs', rfl, range2, rfl, read⟩ := exists_last h1
        refine ⟨_, cs', _, behind, rfl, ?_, read⟩
        rw [utf8EncodeChar_three low high (by omega) (by omega) (by omega) range2 rfl]
        rfl
      · obtain ⟨b1, rest1, rfl, range, h1⟩ := exists_more h
        obtain ⟨b2, rest2, rfl, range2, h2⟩ := exists_more h1
        obtain ⟨b3, behind, cs', rfl, range3, rfl, read⟩ := exists_last h2
        refine ⟨_, cs', _, behind, rfl, ?_, read⟩
        rw [utf8EncodeChar_four low high (by omega) (by omega) (by omega) range2 range3 rfl]
        rfl

/-- What is read as a text is its encoding, whatever was read before it. -/
theorem utf8Encode_of_decodeFrom (h : decodeFrom valid none bytes = .ok cs) :
    utf8Encode cs = bytes := by
  -- The induction is on the text, as the bytes go down by a whole character at a time.
  induction cs generalizing valid bytes with
  | nil =>
    cases bytes with
    | nil => rfl
    | cons b rest =>
      obtain ⟨c, cs', -, -, same, -, -⟩ := exists_char_of_decodeFrom h
      cases same
  | cons c cs ih =>
    cases bytes with
    | nil => cases h
    | cons b rest =>
      obtain ⟨c', cs', valid', behind, same, bytes, read⟩ := exists_char_of_decodeFrom h
      cases same
      rw [utf8Encode, List.flatMap_cons, bytes]
      exact congrArg (String.utf8EncodeChar c ++ ·) (ih read)

/-- Bytes are read as a text exactly when they are its encoding. -/
theorem utf8Decode_eq_ok_iff : utf8Decode bytes = .ok cs ↔ utf8Encode cs = bytes := by
  constructor
  · exact utf8Encode_of_decodeFrom
  · rintro rfl
    exact utf8Decode_utf8Encode cs

/-- Texts with the same encoding are the same. -/
theorem utf8Encode_inj {cs ds : List Char} (h : utf8Encode cs = utf8Encode ds) : cs = ds :=
  Except.ok.inj ((utf8Decode_eq_ok_iff.mpr h).symm.trans (utf8Decode_utf8Encode ds))

/-- Bytes without a zero are no text with a NUL. -/
theorem nul_notMem_of_utf8Decode (nonzero : 0 ∉ bytes) (read : utf8Decode bytes = .ok cs) :
    '\x00' ∉ cs := by
  intro mem
  have zero : 0 ∈ utf8Encode cs := List.mem_flatMap.mpr ⟨'\x00', mem, by decide⟩
  rw [utf8Decode_eq_ok_iff.mp read] at zero
  exact nonzero zero

/-- Bytes that encode no text are refused, and no others. -/
theorem exists_utf8Error_iff :
    (∃ e, utf8Decode bytes = .error e) ↔ ∀ cs, utf8Encode cs ≠ bytes := by
  simp only [← utf8Decode_eq_ok_iff, ne_eq]
  cases utf8Decode bytes <;> simp

end ComputeHandles.Text
