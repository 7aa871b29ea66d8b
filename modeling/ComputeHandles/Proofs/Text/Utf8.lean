import ComputeHandles.Text.Utf8

/-!
# Reading back what was encoded

The lead byte of a character says how many bytes follow it and which the first of them
may be. An encoded character always stays inside these ranges, so decoding takes exactly
its bytes and goes on with the text behind it.
-/

namespace ComputeHandles.Text

variable {valid : Nat} {b : UInt8} {rest : List UInt8}

/-- A byte of the ASCII range is a character of its own. -/
theorem decodeFrom_ascii (h : b.toNat < 0x80) :
    decodeFrom valid none (b :: rest) =
      (decodeFrom (valid + 1) none rest).map (Char.ofNat b.toNat :: ·) := by
  rw [decodeFrom, if_pos h]

/-- A lead byte begins a character. -/
theorem decodeFrom_lead {begun : Partial} (high : ¬ b.toNat < 0x80)
    (h : Partial.ofLead? b.toNat = some begun) :
    decodeFrom valid none (b :: rest) = decodeFrom valid (some begun) rest := by
  rw [decodeFrom, if_neg high, h]

/-- The last byte owed completes a character. -/
theorem decodeFrom_last {low high bits read : Nat} (h : low ≤ b.toNat ∧ b.toNat ≤ high) :
    decodeFrom valid (some ⟨1, low, high, bits, read⟩) (b :: rest) =
      (decodeFrom (valid + read + 1) none rest).map
        (Char.ofNat (bits * 64 + (b.toNat - 0x80)) :: ·) := by
  rw [decodeFrom, if_pos h]
  rfl

/-- A byte owed before the last one leaves any continuation byte for the next. -/
theorem decodeFrom_more {owed low high bits read : Nat} (h : low ≤ b.toNat ∧ b.toNat ≤ high) :
    decodeFrom valid (some ⟨owed + 2, low, high, bits, read⟩) (b :: rest) =
      decodeFrom valid
        (some ⟨owed + 1, 0x80, 0xbf, bits * 64 + (b.toNat - 0x80), read + 1⟩) rest := by
  rw [decodeFrom, if_pos h]
  rfl

/-- What the lead byte of two begins. -/
theorem ofLead?_two {n : Nat} (low : 0xc2 ≤ n) (high : n < 0xe0) :
    Partial.ofLead? n = some ⟨1, 0x80, 0xbf, n - 0xc0, 1⟩ := by
  rw [Partial.ofLead?, if_neg (by omega), if_pos high]

/-- What the lead byte of three begins: the next byte may be any that is not overlong and
gives no surrogate. -/
theorem ofLead?_three {n next : Nat} (low : 0xe0 ≤ n) (high : n < 0xf0)
    (range : 0x80 ≤ next ∧ next ≤ 0xbf) (overlong : n = 0xe0 → 0xa0 ≤ next)
    (surrogate : n = 0xed → next ≤ 0x9f) :
    ∃ lo hi, Partial.ofLead? n = some ⟨2, lo, hi, n - 0xe0, 1⟩ ∧ lo ≤ next ∧ next ≤ hi := by
  unfold Partial.ofLead?
  rw [if_neg (by omega), if_neg (by omega)]
  by_cases h0 : n = 0xe0
  · rw [if_pos h0]
    exact ⟨0xa0, 0xbf, by simp [h0], overlong h0, range.2⟩
  · rw [if_neg h0]
    by_cases hd : n = 0xed
    · rw [if_pos hd]
      exact ⟨0x80, 0x9f, by simp [hd], range.1, surrogate hd⟩
    · rw [if_neg hd, if_pos high]
      exact ⟨0x80, 0xbf, rfl, range⟩

/-- What the lead byte of four begins: the next byte may be any that is not overlong and
stays below the last code point. -/
theorem ofLead?_four {n next : Nat} (low : 0xf0 ≤ n) (high : n ≤ 0xf4)
    (range : 0x80 ≤ next ∧ next ≤ 0xbf) (overlong : n = 0xf0 → 0x90 ≤ next)
    (last : n = 0xf4 → next ≤ 0x8f) :
    ∃ lo hi, Partial.ofLead? n = some ⟨3, lo, hi, n - 0xf0, 1⟩ ∧ lo ≤ next ∧ next ≤ hi := by
  unfold Partial.ofLead?
  rw [if_neg (by omega), if_neg (by omega), if_neg (by omega), if_neg (by omega),
    if_neg (by omega)]
  by_cases h0 : n = 0xf0
  · rw [if_pos h0]
    exact ⟨0x90, 0xbf, by simp [h0], overlong h0, range.2⟩
  · rw [if_neg h0]
    by_cases hlt : n < 0xf4
    · rw [if_pos hlt]
      exact ⟨0x80, 0xbf, rfl, range⟩
    · have h4 : n = 0xf4 := by omega
      rw [if_neg hlt, if_pos h4]
      exact ⟨0x80, 0x8f, by simp [h4], range.1, last h4⟩

/-- A byte that is small enough is what it was made of. -/
theorem toNat_ofNat_of_lt {n : Nat} (h : n < 0x100) : (UInt8.ofNat n).toNat = n := by
  rw [UInt8.toNat_ofNat']
  exact Nat.mod_eq_of_lt h

variable {c : Char}

/-- A character of two bytes is read back. -/
theorem decodeFrom_two (low : 0x7f < c.toNat) (high : c.toNat ≤ 0x7ff) :
    decodeFrom valid none (UInt8.ofNat (c.toNat / 64 % 0x20 + 0xc0) ::
        UInt8.ofNat (c.toNat % 0x40 + 0x80) :: rest) =
      (decodeFrom (valid + 2) none rest).map (c :: ·) := by
  have hb := toNat_ofNat_of_lt (by omega : c.toNat / 64 % 0x20 + 0xc0 < 0x100)
  have hb1 := toNat_ofNat_of_lt (by omega : c.toNat % 0x40 + 0x80 < 0x100)
  rw [decodeFrom_lead (by omega) (ofLead?_two (by omega) (by omega)), decodeFrom_last (by omega),
    hb, hb1]
  have value : (c.toNat / 64 % 0x20 + 0xc0 - 0xc0) * 64 + (c.toNat % 0x40 + 0x80 - 0x80) =
      c.toNat := by omega
  rw [value, Char.ofNat_toNat]

/-- A character of three bytes is read back. -/
theorem decodeFrom_three (low : 0x7ff < c.toNat) (high : c.toNat ≤ 0xffff) :
    decodeFrom valid none (UInt8.ofNat (c.toNat / 4096 % 0x10 + 0xe0) ::
        UInt8.ofNat (c.toNat / 64 % 0x40 + 0x80) ::
        UInt8.ofNat (c.toNat % 0x40 + 0x80) :: rest) =
      (decodeFrom (valid + 3) none rest).map (c :: ·) := by
  have scalar : c.toNat < 0xd800 ∨ 0xdfff < c.toNat ∧ c.toNat < 0x110000 := c.valid
  have hb := toNat_ofNat_of_lt (by omega : c.toNat / 4096 % 0x10 + 0xe0 < 0x100)
  have hb1 := toNat_ofNat_of_lt (by omega : c.toNat / 64 % 0x40 + 0x80 < 0x100)
  have hb2 := toNat_ofNat_of_lt (by omega : c.toNat % 0x40 + 0x80 < 0x100)
  obtain ⟨lo, hi, begun, range⟩ := ofLead?_three
    (by omega : 0xe0 ≤ c.toNat / 4096 % 0x10 + 0xe0) (by omega)
    (by omega : 0x80 ≤ c.toNat / 64 % 0x40 + 0x80 ∧ c.toNat / 64 % 0x40 + 0x80 ≤ 0xbf)
    (by omega) (by omega)
  rw [← hb] at begun
  rw [← hb1] at range
  rw [decodeFrom_lead (by omega) begun, decodeFrom_more range, decodeFrom_last (by omega), hb, hb1,
    hb2]
  have value : ((c.toNat / 4096 % 0x10 + 0xe0 - 0xe0) * 64 +
      (c.toNat / 64 % 0x40 + 0x80 - 0x80)) * 64 + (c.toNat % 0x40 + 0x80 - 0x80) =
      c.toNat := by omega
  rw [value, Char.ofNat_toNat]

/-- A character of four bytes is read back. -/
theorem decodeFrom_four (low : 0xffff < c.toNat) :
    decodeFrom valid none (UInt8.ofNat (c.toNat / 262144 % 0x08 + 0xf0) ::
        UInt8.ofNat (c.toNat / 4096 % 0x40 + 0x80) ::
        UInt8.ofNat (c.toNat / 64 % 0x40 + 0x80) ::
        UInt8.ofNat (c.toNat % 0x40 + 0x80) :: rest) =
      (decodeFrom (valid + 4) none rest).map (c :: ·) := by
  have scalar : c.toNat < 0xd800 ∨ 0xdfff < c.toNat ∧ c.toNat < 0x110000 := c.valid
  have hb := toNat_ofNat_of_lt (by omega : c.toNat / 262144 % 0x08 + 0xf0 < 0x100)
  have hb1 := toNat_ofNat_of_lt (by omega : c.toNat / 4096 % 0x40 + 0x80 < 0x100)
  have hb2 := toNat_ofNat_of_lt (by omega : c.toNat / 64 % 0x40 + 0x80 < 0x100)
  have hb3 := toNat_ofNat_of_lt (by omega : c.toNat % 0x40 + 0x80 < 0x100)
  obtain ⟨lo, hi, begun, range⟩ := ofLead?_four
    (by omega : 0xf0 ≤ c.toNat / 262144 % 0x08 + 0xf0) (by omega)
    (by omega : 0x80 ≤ c.toNat / 4096 % 0x40 + 0x80 ∧ c.toNat / 4096 % 0x40 + 0x80 ≤ 0xbf)
    (by omega) (by omega)
  rw [← hb] at begun
  rw [← hb1] at range
  rw [decodeFrom_lead (by omega) begun, decodeFrom_more range, decodeFrom_more (by omega),
    decodeFrom_last (by omega), hb, hb1, hb2, hb3]
  have value : (((c.toNat / 262144 % 0x08 + 0xf0 - 0xf0) * 64 +
      (c.toNat / 4096 % 0x40 + 0x80 - 0x80)) * 64 + (c.toNat / 64 % 0x40 + 0x80 - 0x80)) * 64 +
      (c.toNat % 0x40 + 0x80 - 0x80) = c.toNat := by omega
  rw [value, Char.ofNat_toNat]

/-- Decoding takes the bytes of one character and goes on behind them. -/
theorem decodeFrom_utf8EncodeChar (valid : Nat) (c : Char) (rest : List UInt8) :
    decodeFrom valid none (String.utf8EncodeChar c ++ rest) =
      (decodeFrom (valid + (String.utf8EncodeChar c).length) none rest).map (c :: ·) := by
  have val : c.val.toNat = c.toNat := rfl
  unfold String.utf8EncodeChar
  dsimp only
  rw [val]
  by_cases h1 : c.toNat ≤ 0x7f
  · have hb := toNat_ofNat_of_lt (by omega : c.toNat < 0x100)
    rw [if_pos h1, List.singleton_append, decodeFrom_ascii (by omega), hb, Char.ofNat_toNat]
    rfl
  · rw [if_neg h1]
    by_cases h2 : c.toNat ≤ 0x7ff
    · rw [if_pos h2]
      exact decodeFrom_two (by omega) h2
    · rw [if_neg h2]
      by_cases h3 : c.toNat ≤ 0xffff
      · rw [if_pos h3]
        exact decodeFrom_three (by omega) h3
      · rw [if_neg h3]
        exact decodeFrom_four (by omega)

/-- An encoded text is read back, whatever was read before it. -/
theorem decodeFrom_utf8Encode (valid : Nat) (cs : List Char) :
    decodeFrom valid none (utf8Encode cs) = .ok cs := by
  induction cs generalizing valid with
  | nil => rfl
  | cons c cs ih =>
    rw [utf8Encode, List.flatMap_cons, decodeFrom_utf8EncodeChar]
    rw [show cs.flatMap String.utf8EncodeChar = utf8Encode cs from rfl, ih]
    rfl

/-- An encoded text is read back. -/
theorem utf8Decode_utf8Encode (cs : List Char) : utf8Decode (utf8Encode cs) = .ok cs :=
  decodeFrom_utf8Encode 0 cs

/-- Only NUL has a zero among its bytes. -/
theorem zero_notMem_utf8EncodeChar (h : c ≠ '\x00') : 0 ∉ String.utf8EncodeChar c := by
  have nonzero : c.toNat ≠ 0 := fun zero => h (Char.toNat_inj.mp zero)
  have positive (n : Nat) (low : 0 < n) (high : n < 0x100) : 0 ≠ UInt8.ofNat n := by
    intro same
    have value := toNat_ofNat_of_lt high
    rw [← same] at value
    simp only [UInt8.toNat_zero] at value
    omega
  have val : c.val.toNat = c.toNat := rfl
  unfold String.utf8EncodeChar
  dsimp only
  rw [val]
  by_cases h1 : c.toNat ≤ 0x7f
  · rw [if_pos h1, List.mem_singleton]
    exact positive _ (by omega) (by omega)
  · rw [if_neg h1]
    by_cases h2 : c.toNat ≤ 0x7ff
    · rw [if_pos h2]
      simp only [List.mem_cons, List.not_mem_nil, or_false, not_or]
      exact ⟨positive _ (by omega) (by omega), positive _ (by omega) (by omega)⟩
    · rw [if_neg h2]
      by_cases h3 : c.toNat ≤ 0xffff
      · rw [if_pos h3]
        simp only [List.mem_cons, List.not_mem_nil, or_false, not_or]
        exact ⟨positive _ (by omega) (by omega), positive _ (by omega) (by omega),
          positive _ (by omega) (by omega)⟩
      · rw [if_neg h3]
        simp only [List.mem_cons, List.not_mem_nil, or_false, not_or]
        exact ⟨positive _ (by omega) (by omega), positive _ (by omega) (by omega),
          positive _ (by omega) (by omega), positive _ (by omega) (by omega)⟩

/-- A text without NUL has no zero among its bytes. -/
theorem zero_notMem_utf8Encode {cs : List Char} (h : '\x00' ∉ cs) : 0 ∉ utf8Encode cs := by
  intro mem
  obtain ⟨c, hc, zero⟩ := List.mem_flatMap.mp mem
  exact zero_notMem_utf8EncodeChar (fun same => h (same ▸ hc)) zero

end ComputeHandles.Text
