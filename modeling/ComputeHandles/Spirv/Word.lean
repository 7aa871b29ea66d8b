/-!
# Words

A SPIR-V binary is a sequence of 32-bit words, each stored as four bytes with the
least significant one first.
-/

namespace ComputeHandles.Spirv

/-- The word of four bytes. -/
def wordOfBytes (a b c d : UInt8) : UInt32 :=
  UInt32.ofNat (a.toNat + 256 * (b.toNat + 256 * (c.toNat + 256 * d.toNat)))

/-- The four bytes of a word. -/
def bytesOfWord (w : UInt32) : List UInt8 :=
  [UInt8.ofNat w.toNat, UInt8.ofNat (w.toNat / 0x100), UInt8.ofNat (w.toNat / 0x10000),
    UInt8.ofNat (w.toNat / 0x1000000)]

/-- The words of a binary; up to three bytes at the end make no word. -/
def wordsOfBytes : List UInt8 → List UInt32
  | a :: b :: c :: d :: rest => wordOfBytes a b c d :: wordsOfBytes rest
  | _ => []

/-- The bytes of words. -/
def bytesOfWords (words : List UInt32) : List UInt8 := words.flatMap bytesOfWord

/-- The high half of the first word of an instruction: how many words it has. -/
def wordCount (w : UInt32) : Nat := w.toNat / 0x10000

/-- The low half of the first word of an instruction: what it is. -/
def opcodeNumber (w : UInt32) : Nat := w.toNat % 0x10000

/-- A word is read back from its bytes. -/
theorem wordsOfBytes_bytesOfWords (words : List UInt32) :
    wordsOfBytes (bytesOfWords words) = words := by
  induction words with
  | nil => rfl
  | cons w rest ih =>
    have word : wordOfBytes (UInt8.ofNat w.toNat) (UInt8.ofNat (w.toNat / 0x100))
        (UInt8.ofNat (w.toNat / 0x10000)) (UInt8.ofNat (w.toNat / 0x1000000)) = w := by
      apply UInt32.toNat_inj.1
      have bound := w.toNat_lt
      simp only [wordOfBytes, UInt32.toNat_ofNat', UInt8.toNat_ofNat']
      omega
    have step : wordsOfBytes (bytesOfWords (w :: rest)) =
        wordOfBytes (UInt8.ofNat w.toNat) (UInt8.ofNat (w.toNat / 0x100))
          (UInt8.ofNat (w.toNat / 0x10000)) (UInt8.ofNat (w.toNat / 0x1000000)) ::
          wordsOfBytes (bytesOfWords rest) := rfl
    rw [step, word, ih]

/-- A binary has a word for every four bytes. -/
theorem length_wordsOfBytes (bytes : List UInt8) :
    (wordsOfBytes bytes).length = bytes.length / 4 := by
  fun_induction wordsOfBytes bytes with
  | case1 a b c d rest ih => simp only [List.length_cons, ih]; omega
  | case2 bytes short =>
    match bytes, short with
    | [], _ | [_], _ | [_, _], _ | [_, _, _], _ => simp
    | a :: b :: c :: d :: rest, short => exact absurd rfl (short a b c d rest)

end ComputeHandles.Spirv
