/-!
# UTF-8

Bytes are read one at a time. Between characters a lead byte says how many
continuation bytes are owed and which bytes the first of them may be; that range
excludes overlong forms, surrogates and code points above the last one. The first
byte that no continuation of the input could make valid ends the reading, and the
error counts the bytes before the character it belongs to.
-/

namespace ComputeHandles.Text

/-- Why bytes are not UTF-8. -/
structure Utf8Error where
  /-- Number of bytes of complete characters before the fault. -/
  validUpTo : Nat
  /-- Length of the bad sequence, or none when the input ends inside a character. -/
  badLength : Option Nat
  deriving DecidableEq, Repr

/-- The fault in words. -/
def Utf8Error.message (e : Utf8Error) : String :=
  match e.badLength with
  | some n => s!"invalid utf-8 sequence of {n} bytes from index {e.validUpTo}"
  | none => s!"incomplete utf-8 byte sequence from index {e.validUpTo}"

/-- A character of which some bytes are read. -/
structure Partial where
  /-- Continuation bytes still to come. -/
  owed : Nat
  /-- Least value of the next byte. -/
  low : Nat
  /-- Greatest value of the next byte. -/
  high : Nat
  /-- The bits read so far. -/
  bits : Nat
  /-- Number of bytes read so far. -/
  read : Nat
  deriving DecidableEq, Repr

/-- What a byte above the ASCII range begins. Continuation bytes, the lead bytes of
overlong pairs and those past the last code point begin nothing. -/
def Partial.ofLead? (b : Nat) : Option Partial :=
  if b < 0xc2 then none
  else if b < 0xe0 then some ⟨1, 0x80, 0xbf, b - 0xc0, 1⟩
  else if b = 0xe0 then some ⟨2, 0xa0, 0xbf, 0, 1⟩
  else if b = 0xed then some ⟨2, 0x80, 0x9f, 0xd, 1⟩
  else if b < 0xf0 then some ⟨2, 0x80, 0xbf, b - 0xe0, 1⟩
  else if b = 0xf0 then some ⟨3, 0x90, 0xbf, 0, 1⟩
  else if b < 0xf4 then some ⟨3, 0x80, 0xbf, b - 0xf0, 1⟩
  else if b = 0xf4 then some ⟨3, 0x80, 0x8f, 4, 1⟩
  else none

/-- Reads the rest of a text, where `valid` bytes of complete characters come before
the character that is being read, if any. -/
def decodeFrom (valid : Nat) : Option Partial → List UInt8 → Except Utf8Error (List Char)
  | none, [] => .ok []
  | some _, [] => .error ⟨valid, none⟩
  | none, b :: rest =>
    if b.toNat < 0x80 then
      (decodeFrom (valid + 1) none rest).map (Char.ofNat b.toNat :: ·)
    else
      match Partial.ofLead? b.toNat with
      | none => .error ⟨valid, some 1⟩
      | some begun => decodeFrom valid (some begun) rest
  | some p, b :: rest =>
    if p.low ≤ b.toNat ∧ b.toNat ≤ p.high then
      let bits := p.bits * 64 + (b.toNat - 0x80)
      if p.owed = 1 then
        (decodeFrom (valid + p.read + 1) none rest).map (Char.ofNat bits :: ·)
      else
        decodeFrom valid (some ⟨p.owed - 1, 0x80, 0xbf, bits, p.read + 1⟩) rest
    else .error ⟨valid, some p.read⟩

/-- The characters of bytes that are UTF-8. -/
def utf8Decode (bytes : List UInt8) : Except Utf8Error (List Char) := decodeFrom 0 none bytes

/-- The bytes of characters. -/
def utf8Encode (cs : List Char) : List UInt8 := cs.flatMap String.utf8EncodeChar

/-- Encoding goes character by character. -/
theorem utf8Encode_append (left right : List Char) :
    utf8Encode (left ++ right) = utf8Encode left ++ utf8Encode right := List.flatMap_append

end ComputeHandles.Text
