import ComputeHandles.Text.Utf8

/-!
# NUL-terminated text

A text handed across the boundary is a run of bytes that ends before the first NUL.
On the way in the bytes after that NUL are not seen and the rest must be UTF-8; on
the way out a text that holds a NUL is refused, because it could not be read back.
-/

namespace ComputeHandles.Text

/-- The bytes of a NUL-terminated text, without the terminator. -/
structure CText where
  /-- The bytes before the terminator. -/
  bytes : List UInt8
  /-- The terminator is the first NUL. -/
  zero_notMem : 0 ∉ bytes
  deriving DecidableEq

/-- What a reader sees of bytes to which a terminator was added. -/
def CText.ofBytes (bytes : List UInt8) : CText where
  bytes := bytes.takeWhile (· != 0)
  zero_notMem h := by simpa using List.all_eq_true.1 List.all_takeWhile 0 h

/-- The text as characters, if its bytes are UTF-8. -/
def CText.toText (c : CText) : Except Utf8Error String := (utf8Decode c.bytes).map String.ofList

/-- The terminated form of a text, or the byte position of its first NUL. -/
def CText.ofText (s : String) : Except Nat CText :=
  let bytes := utf8Encode s.toList
  if h : 0 ∈ bytes then .error (bytes.idxOf 0) else .ok ⟨bytes, h⟩

/-- The complaint about a text with a NUL at a byte position. -/
def nulFoundMessage (position : Nat) : String :=
  s!"nul byte found in provided data at position: {position}"

/-- A message with each NUL shown as a space. -/
def blankNul (s : String) : String :=
  String.ofList (s.toList.map fun c => if c = '\x00' then ' ' else c)

/-- Bytes without a NUL are all seen. -/
theorem CText.bytes_ofBytes (c : CText) : (CText.ofBytes c.bytes).bytes = c.bytes := by
  have unseen : ∀ b ∈ c.bytes, (b != 0) = true := fun b mem =>
    bne_iff_ne.2 fun zero => c.zero_notMem (zero ▸ mem)
  have kept : (c.bytes ++ []).takeWhile (· != 0) = c.bytes ++ [].takeWhile (· != 0) :=
    List.takeWhile_append_of_pos unseen
  simpa [CText.ofBytes] using kept

end ComputeHandles.Text
