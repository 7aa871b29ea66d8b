import Mathlib.Order.Bounds.Basic
import ComputeHandles.Proofs.Text.Decoded

/-!
# Where bytes stop being a text

One more byte ends the reading of a text, completes a character of it, or leaves bytes of one
owed. A reading that is ended stays so whatever follows, and bytes that are owed can always be
given. So the fault of bytes that are no text tells how long their longest front is that is
one, and whether the bytes are only cut short.
-/

namespace ComputeHandles.Text

open Listing

/-- The bytes are the encoding of a text. -/
def IsUtf8 (bytes : List UInt8) : Prop := ∃ cs, utf8Encode cs = bytes

/-- The bytes are the encoding of a text once some others follow them. -/
def IsCutUtf8 (bytes : List UInt8) : Prop := ∃ more, IsUtf8 (bytes ++ more)

/-- The lengths of the fronts of bytes that are texts. -/
def textLengths (bytes : List UInt8) : Set Nat :=
  {n | ∃ front, front <+: bytes ∧ IsUtf8 front ∧ front.length = n}

/-- What is said about bytes that are no text: how far they are one, and whether they are only
cut short. -/
inductive Utf8Complaint (bytes : List UInt8) : String → Prop where
  /-- Others could follow to make a text of them. -/
  | incomplete {index : Nat} (longest : IsGreatest (textLengths bytes) index)
      (cut : IsCutUtf8 bytes) :
    Utf8Complaint bytes s!"incomplete utf-8 byte sequence from index {index}"
  /-- Whatever follows, they are no text. -/
  | invalid {index length : Nat} (longest : IsGreatest (textLengths bytes) index)
      (bad : ¬ IsCutUtf8 bytes) :
    Utf8Complaint bytes s!"invalid utf-8 sequence of {length} bytes from index {index}"

/-- Some byte may be next, and the bytes owed end. -/
structure Partial.Open (p : Partial) : Prop where
  /-- At least one byte is owed. -/
  owes : 0 < p.owed
  /-- Some value may be next. -/
  low_le_high : p.low ≤ p.high
  /-- It is that of a byte. -/
  low_lt : p.low < 0x100

/-- The number of bytes read of the character that is being read, if any. -/
def bytesRead : Option Partial → Nat
  | none => 0
  | some p => p.read

/-- What one more byte does to a reading, whatever follows it. -/
inductive ByteStep (valid : Nat) (state : Option Partial) (b : UInt8) : Prop where
  /-- It ends the reading. -/
  | ends (length : Nat)
      (h : ∀ rest, decodeFrom valid state (b :: rest) = .error ⟨valid, some length⟩)
  /-- It completes a character. -/
  | completes (c : Char)
      (h : ∀ rest, decodeFrom valid state (b :: rest) =
        (decodeFrom (valid + (bytesRead state + 1)) none rest).map (c :: ·))
  /-- It leaves bytes of a character owed. -/
  | leaves (p : Partial) (isOpen : p.Open) (counted : p.read = bytesRead state + 1)
      (h : ∀ rest, decodeFrom valid state (b :: rest) = decodeFrom valid (some p) rest)

variable {valid : Nat} {state : Option Partial} {bytes : List UInt8} {cs : List Char}
  {e : Utf8Error}

/-- What a lead byte begins can be gone on with. -/
theorem Partial.open_of_ofLead? {n : Nat} {p : Partial} (h : Partial.ofLead? n = some p) :
    p.Open ∧ p.read = 1 := by
  unfold Partial.ofLead? at h
  split_ifs at h <;> cases h <;> exact ⟨⟨by simp, by simp, by simp⟩, rfl⟩

/-- After a byte that is not the last one owed the next may be any continuation byte. -/
theorem Partial.open_continuation (owed bits read : Nat) :
    Partial.Open ⟨owed + 1, 0x80, 0xbf, bits, read⟩ := ⟨Nat.succ_pos owed, by simp, by simp⟩

/-- One more byte does one of three things to a reading that can be gone on with. -/
theorem byteStep (valid : Nat) (isOpen : ∀ p ∈ state, p.Open) (b : UInt8) :
    ByteStep valid state b := by
  cases state with
  | none =>
    by_cases ascii : b.toNat < 0x80
    · exact .completes _ fun rest => decodeFrom_ascii ascii
    · cases begun : Partial.ofLead? b.toNat with
      | none =>
        refine .ends 1 fun rest => ?_
        rw [decodeFrom, if_neg ascii, begun]
      | some p =>
        obtain ⟨goesOn, read⟩ := Partial.open_of_ofLead? begun
        exact .leaves p goesOn read fun rest => decodeFrom_lead ascii begun
  | some p =>
    obtain ⟨owed, low, high, bits, read⟩ := p
    by_cases range : low ≤ b.toNat ∧ b.toNat ≤ high
    · rcases owed with _ | _ | owed
      · exact absurd (isOpen _ rfl).owes (Nat.lt_irrefl 0)
      · exact .completes _ fun rest => decodeFrom_last range
      · exact .leaves _ (Partial.open_continuation owed _ _) rfl fun rest => decodeFrom_more range
    · refine .ends read fun rest => ?_
      rw [decodeFrom, if_neg range]

/-- Between characters a reading can be gone on with. -/
theorem open_none : ∀ p ∈ (none : Option Partial), p.Open := nofun

/-- A character of which bytes are owed can be given them. -/
theorem Partial.Open.exists_completion {p : Partial} (h : p.Open) (valid : Nat) :
    ∃ more cs, decodeFrom valid (some p) more = .ok cs := by
  obtain ⟨owed, low, high, bits, read⟩ := p
  -- The induction is on the number of bytes owed; any that is not the last leaves one less.
  induction owed generalizing low high bits read with
  | zero => exact absurd h.owes (Nat.lt_irrefl 0)
  | succ owed ih =>
    have value : (UInt8.ofNat low).toNat = low := toNat_ofNat_of_lt h.low_lt
    have range : low ≤ (UInt8.ofNat low).toNat ∧ (UInt8.ofNat low).toNat ≤ high :=
      value.symm ▸ ⟨Nat.le_refl low, h.low_le_high⟩
    cases owed with
    | zero => exact ⟨[UInt8.ofNat low], _, decodeFrom_last range⟩
    | succ owed =>
      obtain ⟨more, cs, read⟩ :=
        ih 0x80 0xbf _ (read + 1) (Partial.open_continuation owed _ _)
      exact ⟨UInt8.ofNat low :: more, cs, (decodeFrom_more range).trans read⟩

/-- A reading that was ended stays so whatever follows. -/
theorem decodeFrom_append_of_ended {length : Nat} (isOpen : ∀ p ∈ state, p.Open)
    (ended : decodeFrom valid state bytes = .error e) (bad : e.badLength = some length)
    (more : List UInt8) : decodeFrom valid state (bytes ++ more) = .error e := by
  induction bytes generalizing valid state with
  | nil =>
    cases state with
    | none => cases ended
    | some p =>
      cases ended
      cases bad
  | cons b rest ih =>
    rw [List.cons_append]
    cases byteStep valid isOpen b with
    | ends n h => rw [h, ← ended, h]
    | completes c h =>
      rw [h, map_eq_error_iff] at ended
      rw [h, ih open_none ended]
      rfl
    | leaves p goesOn _ h =>
      rw [h] at ended
      rw [h]
      exact ih (by rintro _ ⟨⟩; exact goesOn) ended

/-- Bytes that end inside a character are completed to a text by some others. -/
theorem exists_append_of_unended (isOpen : ∀ p ∈ state, p.Open)
    (cut : decodeFrom valid state bytes = .error e) (unended : e.badLength = none) :
    ∃ more cs, decodeFrom valid state (bytes ++ more) = .ok cs := by
  induction bytes generalizing valid state with
  | nil =>
    cases state with
    | none => cases cut
    | some p => exact (isOpen p rfl).exists_completion valid
  | cons b rest ih =>
    cases byteStep valid isOpen b with
    | ends n h =>
      rw [h] at cut
      cases cut
      cases unended
    | completes c h =>
      rw [h, map_eq_error_iff] at cut
      obtain ⟨more, cs, read⟩ := ih open_none cut
      exact ⟨more, c :: cs, by rw [List.cons_append, h, read]; rfl⟩
    | leaves p goesOn _ h =>
      rw [h] at cut
      obtain ⟨more, cs, read⟩ := ih (by rintro _ ⟨⟩; exact goesOn) cut
      exact ⟨more, cs, by rw [List.cons_append, h, read]⟩

/-- A fault counts the bytes of a front that is read without one, unless it is in the character
that is being read at first. -/
theorem exists_front_of_decodeFrom (isOpen : ∀ p ∈ state, p.Open)
    (failed : decodeFrom valid state bytes = .error e) :
    e.validUpTo = valid ∨ ∃ front cs, front <+: bytes ∧ decodeFrom valid state front = .ok cs ∧
      e.validUpTo = valid + (bytesRead state + front.length) := by
  induction bytes generalizing valid state with
  | nil =>
    cases state with
    | none => cases failed
    | some p =>
      cases failed
      exact .inl rfl
  | cons b rest ih =>
    cases byteStep valid isOpen b with
    | ends n h =>
      rw [h] at failed
      cases failed
      exact .inl rfl
    | completes c h =>
      rw [h, map_eq_error_iff] at failed
      rcases ih open_none failed with here | ⟨front, cs, begins, read, count⟩
      · exact .inr ⟨[b], [c], ⟨rest, rfl⟩, h [], here⟩
      · refine .inr ⟨b :: front, c :: cs, List.cons_prefix_cons.mpr ⟨rfl, begins⟩, ?_, ?_⟩
        · rw [h, read]
          rfl
        · rw [count, bytesRead, List.length_cons]
          omega
    | leaves p goesOn counted h =>
      rw [h] at failed
      rcases ih (by rintro _ ⟨⟩; exact goesOn) failed with here | ⟨front, cs, begins, read, count⟩
      · exact .inl here
      · refine .inr ⟨b :: front, cs, List.cons_prefix_cons.mpr ⟨rfl, begins⟩, ?_, ?_⟩
        · rw [h, read]
        · rw [count, bytesRead, counted, List.length_cons]
          omega

/-- A fault is not in front of where the reading began. -/
theorem le_validUpTo (failed : decodeFrom valid none bytes = .error e) : valid ≤ e.validUpTo := by
  rcases exists_front_of_decodeFrom open_none failed with here | ⟨front, cs, -, -, count⟩
  · exact here.ge
  · rw [count]
    exact Nat.le_add_right valid _

/-- Behind the bytes of a text the reading goes on with the text read. -/
theorem decodeFrom_utf8Encode_append (valid : Nat) (cs : List Char) (rest : List UInt8) :
    decodeFrom valid none (utf8Encode cs ++ rest) =
      (decodeFrom (valid + (utf8Encode cs).length) none rest).map (cs ++ ·) := by
  induction cs generalizing valid with
  | nil => cases h : decodeFrom valid none rest <;> simp [utf8Encode, h, Except.map]
  | cons c cs ih =>
    have split : utf8Encode (c :: cs) = String.utf8EncodeChar c ++ utf8Encode cs := rfl
    rw [split, List.append_assoc, decodeFrom_utf8EncodeChar, ih, List.length_append, Nat.add_assoc]
    cases decodeFrom (valid + ((String.utf8EncodeChar c).length + (utf8Encode cs).length)) none
      rest <;> rfl

/-- The fault of bytes that are no text counts the bytes of their longest front that is one. -/
theorem isGreatest_validUpTo (failed : utf8Decode bytes = .error e) :
    IsGreatest (textLengths bytes) e.validUpTo := by
  constructor
  · rcases exists_front_of_decodeFrom open_none failed with here | ⟨front, cs, begins, read, count⟩
    · exact ⟨[], List.nil_prefix, ⟨[], rfl⟩, here.symm⟩
    · refine ⟨front, begins, ⟨cs, utf8Decode_eq_ok_iff.mp read⟩, ?_⟩
      rw [count, bytesRead]
      omega
  · rintro n ⟨front, ⟨rest, rfl⟩, ⟨cs, rfl⟩, rfl⟩
    rw [utf8Decode, decodeFrom_utf8Encode_append, map_eq_error_iff, Nat.zero_add] at failed
    exact le_validUpTo failed

/-- The fault tells of no bad bytes exactly when the bytes are only cut short. -/
theorem badLength_eq_none_iff (failed : utf8Decode bytes = .error e) :
    e.badLength = none ↔ IsCutUtf8 bytes := by
  constructor
  · intro unended
    obtain ⟨more, cs, read⟩ := exists_append_of_unended open_none failed unended
    exact ⟨more, cs, utf8Decode_eq_ok_iff.mp read⟩
  · rintro ⟨more, cs, text⟩
    cases bad : e.badLength with
    | none => rfl
    | some length =>
      have ended := decodeFrom_append_of_ended open_none failed bad more
      cases (utf8Decode_eq_ok_iff.mpr text).symm.trans ended

/-- The fault of bytes that are no text is told as the complaint about them. -/
theorem utf8Complaint_of_utf8Decode (failed : utf8Decode bytes = .error e) :
    Utf8Complaint bytes e.message := by
  have longest := isGreatest_validUpTo failed
  have cut := badLength_eq_none_iff failed
  obtain ⟨index, badLength⟩ := e
  cases badLength with
  | none => exact .incomplete longest (cut.mp rfl)
  | some length => exact .invalid longest fun short => nomatch cut.mpr short

end ComputeHandles.Text
