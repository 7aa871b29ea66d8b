import ComputeHandles.Proofs.Spirv.Bytes
import ComputeHandles.Proofs.Spirv.Loading
import ComputeHandles.Proofs.Spirv.Slots
import ComputeHandles.Proofs.Text.Utf8
import ComputeHandles.Spirv.Assembly

/-!
# Written instructions are read back

A written instruction is read back wherever it stands, if its number of words fits and
its texts have no NUL: the first word gives back the size and the opcode, a text ends at
the NUL that fills its last word, and the slots take exactly the words of the operands.
-/

namespace ComputeHandles.Spirv

open Text

section Texts

variable {s : String} {position more : Nat} {rest : List UInt32}

/-- The words of a text are its bytes. -/
theorem bytesOfWords_textWords (s : String) : bytesOfWords (textWords s) = textBytes s :=
  bytesOfWords_wordsOfBytes (length_textBytes s)

/-- A text fills its words up to the one with the first NUL. -/
theorem length_textWords (s : String) :
    (textWords s).length = (utf8Encode s.toList).length / 4 + 1 := by
  rw [textWords, length_wordsOfBytes, textBytes, List.length_append, List.length_replicate]
  omega

/-- A text ends at the NUL behind it, whatever follows. -/
theorem takeWhile_textBytes (unclosed : '\x00' ∉ s.toList) (others : List UInt8) :
    (textBytes s ++ others).takeWhile (· != 0) = utf8Encode s.toList := by
  have absent := zero_notMem_utf8Encode unclosed
  obtain ⟨n, filling⟩ := Nat.exists_eq_succ_of_ne_zero
    (show 4 - (utf8Encode s.toList).length % 4 ≠ 0 by omega)
  rw [textBytes, filling, List.replicate_succ, List.append_assoc, List.cons_append,
    List.takeWhile_append_of_pos]
  · rw [List.takeWhile_cons_of_neg (by simp), List.append_nil]
  · intro b mem
    rw [bne_iff_ne]
    rintro rfl
    exact absent mem

/-- A text is read back from its words. -/
theorem readText_textWords (unclosed : '\x00' ∉ s.toList) (there : more ≤ rest.length) :
    readText ⟨position, (textWords s).length + more, textWords s ++ rest⟩ =
      .ok (s, ⟨position + (textWords s).length, more, rest⟩) := by
  have bytes : bytesOfWords ((textWords s ++ rest).take ((textWords s).length + more)) =
      textBytes s ++ bytesOfWords (rest.take more) := by
    rw [List.take_length_add_append, bytesOfWords, List.flatMap_append]
    rw [show (textWords s).flatMap bytesOfWord = textBytes s from bytesOfWords_textWords s]
    rfl
  have closed : 0 ∈ textBytes s ++ bytesOfWords (rest.take more) := by
    apply List.mem_append_left
    apply List.mem_append_right
    exact List.mem_replicate.mpr ⟨by omega, rfl⟩
  rw [readText_eq]
  dsimp only
  rw [if_neg (by rw [List.length_append]; omega), bytes, if_pos closed,
    takeWhile_textBytes unclosed, utf8Decode_utf8Encode]
  dsimp only
  rw [String.ofList_toList, ← length_textWords, Cursor.advance, List.drop_left,
    Nat.add_sub_cancel_left]

/-- A text, whatever follows it. -/
theorem readSlots_text {types : NumberTypes} {number : Nat} {i : Instruction} {slots : List Slot}
    (unclosed : '\x00' ∉ s.toList) (there : more ≤ rest.length) :
    i.readSlots types number (.text :: slots)
        ⟨position, (textWords s).length + more, textWords s ++ rest⟩ =
      ({ i with operands := i.operands ++ [.text s] } : Instruction).readSlots types number slots
        ⟨position + (textWords s).length, more, rest⟩ := by
  have words := length_textWords s
  have part : readPart .text ⟨position, (textWords s).length + more, textWords s ++ rest⟩ =
      .ok (.text s, ⟨position + (textWords s).length, more, rest⟩) :=
    bind_of_read (readText_textWords unclosed there)
  rw [readSlots_required (by dsimp only; omega), Instruction.readPlace, readOperands]
  exact bind_of_read (bind_of_read (bind_of_read part))

end Texts

/-- Slots are filled with words, which takes one instruction to another. -/
inductive Fills : List Slot → List UInt32 → Instruction → Instruction → Prop where
  /-- No slots take no words. -/
  | done (i : Instruction) : Fills [] [] i i
  /-- A word that is taken as it is. -/
  | word {slots : List Slot} {words : List UInt32} {i j : Instruction} {place : Place}
      (taken : place.isWord = true) (w : UInt32) (others : Fills slots words (i.put w place) j) :
      Fills (.required place :: slots) (w :: words) i j
  /-- A choice without parameters. -/
  | choice {slots : List Slot} {words : List UInt32} {i j : Instruction} {kind : Choice}
      {w : UInt32} (accepted : kind.accepts w = true) (plain : kind.parameters w = [])
      (others : Fills slots words { i with operands := i.operands ++ [.choice kind w] } j) :
      Fills (.choice kind :: slots) (w :: words) i j
  /-- A text. -/
  | text {slots : List Slot} {words : List UInt32} {i j : Instruction} {s : String}
      (unclosed : '\x00' ∉ s.toList)
      (others : Fills slots words { i with operands := i.operands ++ [.text s] } j) :
      Fills (.text :: slots) (textWords s ++ words) i j
  /-- Ids that take all the words. -/
  | ids {slots : List Slot} {i j : Instruction} (words : List UInt32)
      (others : Fills slots [] { i with operands := i.operands ++ words.map .id } j) :
      Fills (.ids :: slots) words i j

/-- Slots are read from the words that fill them, and nothing is left of these. -/
theorem Fills.readSlots_eq {slots : List Slot} {words : List UInt32} {i j : Instruction}
    (h : Fills slots words i j) (types : NumberTypes) (number position : Nat)
    (rest : List UInt32) :
    i.readSlots types number slots ⟨position, words.length, words ++ rest⟩ =
      .ok (j, ⟨position + words.length, 0, rest⟩) := by
  induction h generalizing position with
  | done i => rfl
  | word taken w others ih =>
    rw [List.length_cons, List.cons_append, readSlots_word taken, ih, Nat.add_right_comm]
    rfl
  | choice accepted plain others ih =>
    rw [List.length_cons, List.cons_append, readSlots_choice accepted, plain, List.mapM_nil,
      pure_bind, ih, Nat.add_right_comm]
    rfl
  | text unclosed others ih =>
    rw [List.length_append, List.append_assoc, readSlots_text unclosed (by simp), ih,
      Nat.add_assoc]
  | ids words others ih =>
    have last := ih (position + words.length)
    rw [readSlots_ids]
    exact last

namespace Draft

variable {d : Draft}

/-- The numbers of opcodes fit the sixteen bits that they have. -/
theorem lt_of_ofNumber? {number : Nat} {opcode : Opcode}
    (known : Opcode.ofNumber? number = some opcode) : number < 0x10000 := by
  have small : ∀ entry ∈ Opcode.table, entry.1 < 0x10000 := by decide
  obtain ⟨front, back, table, -⟩ := List.lookup_eq_some_iff.mp known
  exact small (number, opcode) (by simp [table])

/-- The first word of an instruction gives back its size. -/
theorem wordCount_head (fits : d.Fits) (small : d.number < 0x10000) :
    wordCount d.head = d.size := by
  have size : d.size < 0x10000 := fits
  rw [wordCount, head, UInt32.toNat_ofNat']
  omega

/-- The first word of an instruction gives back its opcode. -/
theorem opcodeNumber_head (fits : d.Fits) (small : d.number < 0x10000) :
    opcodeNumber d.head = d.number := by
  have size : d.size < 0x10000 := fits
  rw [opcodeNumber, head, UInt32.toNat_ofNat']
  omega

/-- A written instruction is read as an instruction wherever it stands. -/
structure ReadsAs (d : Draft) (i : Instruction) : Prop where
  /-- The first word tells the size. -/
  size : wordCount d.head = d.size
  /-- The operands are read from the other words. -/
  read : ∀ (types : NumberTypes) (number position : Nat) (rest : List UInt32),
    Instruction.read types number position d.head (d.operands ++ rest) = .ok i

/-- An instruction whose operands fill its slots is read back. -/
theorem readsAs_of_fills (opcode : Opcode) {i : Instruction} (fits : d.Fits)
    (known : Opcode.ofNumber? d.number = some opcode)
    (filled : Fills opcode.slots d.operands (.begun opcode) i) : d.ReadsAs i where
  size := wordCount_head fits (lt_of_ofNumber? known)
  read types number position rest := by
    have small := lt_of_ofNumber? known
    have size := wordCount_head fits small
    have limit : wordCount d.head - 1 = d.operands.length := by
      rw [size]
      rfl
    have slots := filled.readSlots_eq types number (position + 1) rest
    have whole : Instruction.readWhole types number opcode
        ⟨position + 1, d.operands.length, d.operands ++ rest⟩ =
          .ok (i, ⟨position + 1 + d.operands.length, 0, rest⟩) := by
      rw [Instruction.readWhole, bind_of_read slots]
      rfl
    have counted : wordCount d.head ≠ 0 := by
      rw [size]
      exact Nat.succ_ne_zero _
    have found : Opcode.ofNumber? (opcodeNumber d.head) = some opcode := by
      rw [opcodeNumber_head fits small, known]
    rw [Instruction.read_eq counted found, limit, whole]
    rfl

end Draft

end ComputeHandles.Spirv
