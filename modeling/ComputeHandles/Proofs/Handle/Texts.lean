import ComputeHandles.Handle.Argument
import ComputeHandles.Proofs.Text.Malformed

/-!
# Texts go out and come in

A text is handed out when it holds no NUL, and what was handed out comes in as the same text.
Of bytes that come in nothing behind the first NUL is seen, and what is seen is read exactly
when it encodes a text. A refusal tells where the first NUL is, or how far the bytes are a text
and whether they are only cut short.
-/

namespace ComputeHandles

open Text Listing

namespace Text

variable {cs before after : List Char} {s : String} {c : CText}

/-- The bytes of a text have a zero exactly when the text has a NUL. -/
theorem zero_mem_utf8Encode_iff : 0 ∈ utf8Encode cs ↔ '\x00' ∈ cs := by
  constructor
  · exact fun zero => by_contra fun none => zero_notMem_utf8Encode none zero
  · exact fun nul => List.mem_flatMap.mpr ⟨'\x00', nul, by decide⟩

/-- A text without NUL is seen whole. -/
theorem takeWhile_utf8Encode (plain : '\x00' ∉ cs) :
    (utf8Encode cs).takeWhile (· != 0) = utf8Encode cs :=
  CText.bytes_ofBytes ⟨utf8Encode cs, zero_notMem_utf8Encode plain⟩

/-- The first zero among the bytes of a text is behind those of what is in front of its first
NUL. -/
theorem idxOf_zero_utf8Encode (first : '\x00' ∉ before) :
    (utf8Encode (before ++ '\x00' :: after)).idxOf 0 = (utf8Encode before).length := by
  have nul : utf8Encode ('\x00' :: after) = 0 :: utf8Encode after := rfl
  rw [utf8Encode_append, nul, List.idxOf_append_of_notMem (zero_notMem_utf8Encode first),
    List.idxOf_cons_self, Nat.add_zero]

/-- A text in its terminated form is its bytes. -/
theorem CText.ofText_eq_ok_iff : CText.ofText s = .ok c ↔ c.bytes = utf8Encode s.toList := by
  obtain ⟨bytes, nonzero⟩ := c
  unfold CText.ofText
  dsimp only
  split
  next zero =>
    constructor
    · intro h
      cases h
    · rintro rfl
      exact absurd zero nonzero
  next => simp [eq_comm]

/-- A text has no terminated form exactly when it has a NUL, and then for the position of the
first. -/
theorem CText.ofText_eq_error_iff {position : Nat} : CText.ofText s = .error position ↔
    ∃ before after, s.toList = before ++ '\x00' :: after ∧ '\x00' ∉ before ∧
      position = (utf8Encode before).length := by
  constructor
  · intro refused
    unfold CText.ofText at refused
    dsimp only at refused
    split at refused
    next zero =>
      obtain ⟨before, after, split, first⟩ :=
        List.eq_append_cons_of_mem (zero_mem_utf8Encode_iff.mp zero)
      cases refused
      exact ⟨before, after, split, first, by rw [split, idxOf_zero_utf8Encode first]⟩
    next => cases refused
  · rintro ⟨before, after, split, first, rfl⟩
    have zero : 0 ∈ utf8Encode s.toList := by
      rw [zero_mem_utf8Encode_iff, split]
      exact List.mem_append_right before List.mem_cons_self
    unfold CText.ofText
    dsimp only
    rw [dif_pos zero, split, idxOf_zero_utf8Encode first]

end Text

variable {s t argument : String} {c : CText} {bytes : List UInt8} {fault : Fault}

/-- A text is handed out as its bytes. -/
theorem writeText_eq_ok_iff : writeText s = .ok c ↔ c.bytes = utf8Encode s.toList := by
  rw [writeText, mapError_eq_ok_iff, CText.ofText_eq_ok_iff]

/-- A text is handed out exactly when it has no NUL. -/
theorem exists_writeText_iff : (∃ c, writeText s = .ok c) ↔ '\x00' ∉ s.toList := by
  rw [← zero_mem_utf8Encode_iff]
  constructor
  · rintro ⟨c, written⟩
    rw [← writeText_eq_ok_iff.mp written]
    exact c.zero_notMem
  · exact fun nonzero => ⟨⟨_, nonzero⟩, writeText_eq_ok_iff.mpr rfl⟩

/-- A text is not handed out for the position of its first NUL. -/
theorem writeText_eq_error_iff : writeText s = .error fault ↔
    ∃ before after, s.toList = before ++ '\x00' :: after ∧ '\x00' ∉ before ∧
      fault = .ofMessage
        s!"nul byte found in provided data at position: {(utf8Encode before).length}" := by
  rw [writeText, mapError_eq_error_iff]
  constructor
  · rintro ⟨position, refused, rfl⟩
    obtain ⟨before, after, split, first, rfl⟩ := CText.ofText_eq_error_iff.mp refused
    exact ⟨before, after, split, first, rfl⟩
  · rintro ⟨before, after, split, first, rfl⟩
    exact ⟨_, CText.ofText_eq_error_iff.mpr ⟨before, after, split, first, rfl⟩, rfl⟩

/-- Bytes come in as what those in front of the first NUL are read as. -/
theorem readText_some (argument : String) (bytes : List UInt8) :
    readText argument (some bytes) =
      ((utf8Decode (bytes.takeWhile (· != 0))).map String.ofList).mapError
        fun e => .ofMessage s!"Argument `{argument}` is not valid UTF-8: {e.message}" := by
  have seen : (CText.ofBytes bytes).toText =
      (utf8Decode (bytes.takeWhile (· != 0))).map String.ofList := rfl
  rw [readText, seen]
  cases utf8Decode (bytes.takeWhile (· != 0)) <;> rfl

/-- Bytes come in as the text that those in front of the first NUL encode. -/
theorem readText_eq_ok_iff :
    readText argument (some bytes) = .ok t ↔ utf8Encode t.toList = bytes.takeWhile (· != 0) := by
  rw [readText_some, mapError_eq_ok_iff, map_eq_ok_iff, ← utf8Decode_eq_ok_iff]
  constructor
  · rintro ⟨cs, read, rfl⟩
    rw [read, String.toList_ofList]
  · exact fun read => ⟨t.toList, read, String.ofList_toList⟩

/-- Bytes do not come in as a text for the fault of those in front of the first NUL. -/
theorem readText_eq_error_iff : readText argument (some bytes) = .error fault ↔
    ∃ e, utf8Decode (bytes.takeWhile (· != 0)) = .error e ∧
      fault = .ofMessage s!"Argument `{argument}` is not valid UTF-8: {e.message}" := by
  rw [readText_some, mapError_eq_error_iff]
  simp only [map_eq_error_iff, eq_comm (a := fault)]

/-- What was handed out comes in as the same text. -/
theorem readText_of_writeText (argument : String) (written : writeText s = .ok c) :
    readText argument (some c.bytes) = .ok s := by
  have whole : c.bytes.takeWhile (· != 0) = c.bytes := c.bytes_ofBytes
  rw [readText_eq_ok_iff, whole, writeText_eq_ok_iff.mp written]

/-- A text is handed out exactly when it has no NUL, and then comes in as the same text; else
it is refused for the position of its first NUL among the bytes. Bytes come in as a text
exactly when those in front of their first NUL are its encoding. Else they are refused with
the length of the longest front of those that is a text, as cut short exactly when others
could follow them to make one. -/
theorem readText_inverts_writeText (argument : String) :
    (∀ s : String,
      ((∃ c, writeText s = .ok c) ↔ '\x00' ∉ s.toList) ∧
      (∀ c, writeText s = .ok c → readText argument (some c.bytes) = .ok s) ∧
      ∀ fault, writeText s = .error fault ↔
        ∃ before after, s.toList = before ++ '\x00' :: after ∧ '\x00' ∉ before ∧
          fault = .ofMessage
            s!"nul byte found in provided data at position: {(utf8Encode before).length}") ∧
    ∀ bytes, let seen := bytes.takeWhile (· != 0)
      (∀ t : String, readText argument (some bytes) = .ok t ↔ utf8Encode t.toList = seen) ∧
      ∀ fault, readText argument (some bytes) = .error fault →
        ∃ complaint, Utf8Complaint seen complaint ∧
          fault = .ofMessage s!"Argument `{argument}` is not valid UTF-8: {complaint}" := by
  constructor
  · intro s
    exact ⟨exists_writeText_iff, fun c => readText_of_writeText argument,
      fun fault => writeText_eq_error_iff⟩
  · intro bytes seen
    refine ⟨fun t => readText_eq_ok_iff, fun fault refused => ?_⟩
    obtain ⟨e, failed, rfl⟩ := readText_eq_error_iff.mp refused
    exact ⟨e.message, utf8Complaint_of_utf8Decode failed, rfl⟩

end ComputeHandles
