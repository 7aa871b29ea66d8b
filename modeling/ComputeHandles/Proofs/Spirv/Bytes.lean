import ComputeHandles.Spirv.Program

/-!
# Words and their bytes

A word holds its four bytes, so bytes that are whole words are read back from these, and a word
of a binary depends on no bytes but its own four. The two bytes in the middle of the second word
are the version.
-/

namespace ComputeHandles.Spirv

/-- A word counts its bytes up from the lowest. -/
theorem toNat_wordOfBytes (a b c d : UInt8) : (wordOfBytes a b c d).toNat =
    a.toNat + 0x100 * b.toNat + 0x10000 * c.toNat + 0x1000000 * d.toNat := by
  have ha := a.toNat_lt
  have hb := b.toNat_lt
  have hc := c.toNat_lt
  have hd := d.toNat_lt
  rw [wordOfBytes, UInt32.toNat_ofNat']
  omega

/-- Bytes that make no word are fewer than four. -/
theorem length_lt_of_noWord {bytes : List UInt8}
    (short : ∀ a b c d rest, bytes = a :: b :: c :: d :: rest → False) : bytes.length < 4 := by
  rcases bytes with _ | ⟨a, _ | ⟨b, _ | ⟨c, _ | ⟨d, rest⟩⟩⟩⟩
  · simp
  · simp
  · simp
  · simp
  · exact absurd rfl (short a b c d rest)

/-- The bytes of a word are those it was made of. -/
theorem bytesOfWord_wordOfBytes (a b c d : UInt8) :
    bytesOfWord (wordOfBytes a b c d) = [a, b, c, d] := by
  have ha := a.toNat_lt
  have hb := b.toNat_lt
  have hc := c.toNat_lt
  have hd := d.toNat_lt
  simp only [bytesOfWord, toNat_wordOfBytes, List.cons.injEq, and_true, ← UInt8.toNat_inj,
    UInt8.toNat_ofNat']
  refine ⟨?_, ?_, ?_, ?_⟩ <;> omega

/-- Bytes that are whole words are read back from these. -/
theorem bytesOfWords_wordsOfBytes {bytes : List UInt8} (aligned : bytes.length % 4 = 0) :
    bytesOfWords (wordsOfBytes bytes) = bytes := by
  fun_induction wordsOfBytes bytes with
  | case1 a b c d rest ih =>
    simp only [List.length_cons] at aligned
    rw [bytesOfWords, List.flatMap_cons, bytesOfWord_wordOfBytes]
    rw [show (wordsOfBytes rest).flatMap bytesOfWord = rest from ih (by omega)]
    rfl
  | case2 bytes short =>
    have few := length_lt_of_noWord short
    have none : bytes = [] := List.length_eq_zero_iff.mp (by omega)
    rw [none]
    rfl

/-- The word of the four bytes from an index on. -/
def wordAt? (bytes : List UInt8) (start : Nat) : Option UInt32 := do
  let a ← bytes[start]?
  let b ← bytes[start + 1]?
  let c ← bytes[start + 2]?
  let d ← bytes[start + 3]?
  return wordOfBytes a b c d

/-- The words of a binary follow one another, four bytes each. -/
theorem getElem?_wordsOfBytes (bytes : List UInt8) (i : Nat) :
    (wordsOfBytes bytes)[i]? = wordAt? bytes (4 * i) := by
  fun_induction wordsOfBytes bytes generalizing i with
  | case1 a b c d rest ih =>
    cases i with
    | zero => rfl
    | succ i =>
      rw [List.getElem?_cons_succ, ih]
      have moved : 4 * (i + 1) = 4 * i + 4 := by omega
      rw [moved]
      rfl
  | case2 bytes short =>
    have few := length_lt_of_noWord short
    have missing : bytes[4 * i + 3]? = none := by
      rw [List.getElem?_eq_none_iff]
      omega
    rw [List.getElem?_nil, wordAt?, missing]
    cases bytes[4 * i]? <;> cases bytes[4 * i + 1]? <;> cases bytes[4 * i + 2]? <;> rfl

/-- Binaries with the same four bytes at the place of a word have the same word there. -/
theorem getElem?_wordsOfBytes_congr {bytes bytes' : List UInt8} {i : Nat}
    (same : ∀ j < 4, bytes[4 * i + j]? = bytes'[4 * i + j]?) :
    (wordsOfBytes bytes)[i]? = (wordsOfBytes bytes')[i]? := by
  have first := same 0 (by decide)
  have second := same 1 (by decide)
  have third := same 2 (by decide)
  have fourth := same 3 (by decide)
  rw [Nat.add_zero] at first
  rw [getElem?_wordsOfBytes, getElem?_wordsOfBytes, wordAt?, wordAt?, first, second, third, fourth]

/-- A word whose bytes are those of a version is the word of that version. -/
theorem Version.ofWord_wordOfBytes (a minor major d : UInt8) :
    Version.ofWord (wordOfBytes a minor major d) = ⟨major, minor⟩ := by
  have bytes := bytesOfWord_wordOfBytes a minor major d
  simp only [bytesOfWord, List.cons.injEq, and_true] at bytes
  obtain ⟨-, second, third, -⟩ := bytes
  rw [Version.ofWord, second, third]

end ComputeHandles.Spirv
