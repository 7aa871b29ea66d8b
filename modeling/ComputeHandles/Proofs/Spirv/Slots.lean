import ComputeHandles.Proofs.Spirv.Reader

/-!
# Reading slot by slot

What the next slot reads is known from its place and from the next word. These facts
carry a reader over the slots of an instruction one at a time.
-/

namespace ComputeHandles.Spirv

variable {types : NumberTypes} {number : Nat} {i j : Instruction} {slots : List Slot}
variable {position limit : Nat} {w : UInt32} {rest : List UInt32} {c c' : Cursor}

/-- A required slot is read while the instruction has words left. -/
theorem readSlots_required {place : Place} (left : c.limit ≠ 0) :
    i.readSlots types number (.required place :: slots) c =
      (i.readPlace types number place >>= fun j => j.readSlots types number slots) c := by
  rw [Instruction.readSlots, get_bind, if_neg left]

/-- An optional slot is read while the instruction has words left. -/
theorem readSlots_optional {place : Place} (left : c.limit ≠ 0) :
    i.readSlots types number (.optional place :: slots) c =
      (i.readPlace types number place >>= fun j => j.readSlots types number slots) c := by
  rw [Instruction.readSlots, get_bind, if_neg left]

/-- The places that take one word as it is. -/
def Place.isWord : Place → Bool
  | .resultType | .resultId | .part .id | .part .literal => true
  | .part .text | .part (.choice _) | .number => false

/-- The instruction with a word at such a place. -/
def Instruction.put (i : Instruction) (w : UInt32) : Place → Instruction
  | .resultType => { i with resultType := some w }
  | .resultId => { i with resultId := some w }
  | .part .id => { i with operands := i.operands ++ [.id w] }
  | .part .literal => { i with operands := i.operands ++ [.literal w] }
  | .part .text | .part (.choice _) | .number => i

/-- The next word is put at a place that takes one. -/
theorem readSlots_word {place : Place} (word : place.isWord = true) :
    i.readSlots types number (.required place :: slots) ⟨position, limit + 1, w :: rest⟩ =
      (i.put w place).readSlots types number slots ⟨position + 1, limit, rest⟩ := by
  cases place with
  | resultType | resultId => rfl
  | part held =>
    cases held with
    | id | literal => rfl
    | text | choice => cases word
  | number => cases word

/-- A place that takes a word reports that there is none. -/
theorem readSlots_word_missing {place : Place} (word : place.isWord = true) :
    i.readSlots types number (.required place :: slots) ⟨position, limit + 1, []⟩ =
      .error (.reported (.operand (.streamEnd (4 * position)))) := by
  cases place with
  | resultType | resultId => rfl
  | part held =>
    cases held with
    | id | literal => rfl
    | text | choice => cases word
  | number => cases word

/-- A choice takes a word that it accepts, and then the parameters of this. -/
theorem readSlots_choice {kind : Choice} (accepted : kind.accepts w = true) :
    i.readSlots types number (.choice kind :: slots) ⟨position, limit + 1, w :: rest⟩ =
      ((kind.parameters w).mapM readPart >>= fun parameters =>
        ({ i with operands := i.operands ++ .choice kind w :: parameters } :
          Instruction).readSlots types number slots) ⟨position + 1, limit, rest⟩ := by
  have word : readChoice kind ⟨position, limit + 1, w :: rest⟩ =
      .ok (w, ⟨position + 1, limit, rest⟩) := by
    rw [readChoice_eq]
    simp [accepted, Cursor.advance]
  have part : readPart (.choice kind) ⟨position, limit + 1, w :: rest⟩ =
      .ok (.choice kind w, ⟨position + 1, limit, rest⟩) := bind_of_read word
  rw [readSlots_required (Nat.succ_ne_zero limit), Instruction.readPlace, readOperands]
  simp only [bind_assoc, pure_bind]
  rw [bind_of_read part]
  rfl

/-- A choice reports a word that it does not accept. -/
theorem readSlots_refused {kind : Choice} (refused : ¬ kind.accepts w = true) :
    i.readSlots types number (.choice kind :: slots) ⟨position, limit + 1, w :: rest⟩ =
      .error (.reported (.operand (.unknownValue w kind (4 * position)))) := by
  have word : readChoice kind ⟨position, limit + 1, w :: rest⟩ =
      .error (.reported (.operand (.unknownValue w kind (4 * position)))) := by
    rw [readChoice_eq]
    simp [refused, Cursor.offset]
  rw [readSlots_required (Nat.succ_ne_zero limit), Instruction.readPlace, readOperands, readPart]
  exact bind_of_fault (bind_of_fault (bind_of_fault (bind_of_fault word)))

/-- Ids are read one after the other. -/
theorem readParts_id (words : List UInt32) :
    readParts words.length .id ⟨position, words.length, words ++ rest⟩ =
      .ok (words.map .id, ⟨position + words.length, 0, rest⟩) := by
  induction words generalizing position with
  | nil => rfl
  | cons w words ih =>
    have first : readPart .id ⟨position, words.length + 1, w :: (words ++ rest)⟩ =
        .ok (.id w, ⟨position + 1, words.length, words ++ rest⟩) := rfl
    have others : (List.replicate words.length Part.id).mapM readPart
        ⟨position + 1, words.length, words ++ rest⟩ =
          .ok (words.map .id, ⟨position + 1 + words.length, 0, rest⟩) := ih
    rw [readParts, List.length_cons, List.replicate_succ, List.mapM_cons, List.cons_append,
      bind_of_read first, bind_of_read others, Nat.add_right_comm]
    rfl

/-- All words that are left, as ids. -/
theorem readSlots_ids (words : List UInt32) :
    i.readSlots types number (.ids :: slots) ⟨position, words.length, words ++ rest⟩ =
      ({ i with operands := i.operands ++ words.map .id } : Instruction).readSlots types number
        slots ⟨position + words.length, 0, rest⟩ := by
  rw [Instruction.readSlots, get_bind]
  exact bind_of_read (readParts_id words)

end ComputeHandles.Spirv
