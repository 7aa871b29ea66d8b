import ComputeHandles.Proofs.Spirv.Reader

/-!
# Instructions are read in order

Every instruction is read by orderly readers. Where no slot of an instruction may hold a
text, reading it ends in an instruction or a report, whatever its words are. An
instruction that was read has had all of its words.
-/

namespace ComputeHandles.Spirv

/-- A part that is a text or a choice that may be followed by one. -/
def Part.mayHoldText : Part → Bool
  | .text | .choice .decoration => true
  | .id | .literal | .choice _ => false

/-- A place that may hold a text. -/
def Place.mayHoldText : Place → Bool
  | .part held => held.mayHoldText
  | .resultType | .resultId | .number => false

/-- A slot that may hold a text. -/
def Slot.mayHoldText : Slot → Bool
  | .required place | .optional place => place.mayHoldText
  | .ids => false

/-- Execution modes are not followed by texts. -/
theorem text_notMem_executionModeParameters :
    ∀ entry ∈ executionModeParameters, Part.text ∉ entry.2 := by
  decide

/-- Only decorations are followed by texts. -/
theorem Choice.text_notMem_parameters {kind : Choice} (h : kind ≠ .decoration) (word : UInt32) :
    Part.text ∉ kind.parameters word := by
  cases kind with
  | decoration => exact absurd rfl h
  | executionMode =>
    simp only [Choice.parameters]
    cases found : executionModeParameters.lookup word with
    | none => simp
    | some parameters =>
      obtain ⟨front, back, table, -⟩ := List.lookup_eq_some_iff.mp found
      exact text_notMem_executionModeParameters (word, parameters) (by simp [table])
  | memoryAccess =>
    simp only [Choice.parameters, memoryAccessParameters, List.mem_append, not_or]
    refine ⟨⟨?_, ?_⟩, ?_⟩ <;> split <;> simp
  | _ => exact List.not_mem_nil

variable {text : Prop} {types : NumberTypes} {number : Nat}

/-- A part is read orderly. -/
theorem orderly_readPart (part : Part) (c : Cursor) : Orderly (part = .text) (readPart part) c := by
  cases part with
  | id => exact (orderly_readWord c).bind fun w c' _ => .pure _
  | literal => exact (orderly_readWord c).bind fun w c' _ => .pure _
  | text => exact ((orderly_readText c).bind fun s c' _ => .pure _).mono fun _ => rfl
  | choice kind => exact (orderly_readChoice kind c).bind fun w c' _ => .pure _

/-- No text follows a part that holds none and is no decoration. -/
theorem text_notMem_parameters {part : Part} (h : part.mayHoldText = false) {c c' : Cursor}
    {o : Operand} (read : readPart part c = .ok (o, c')) : Part.text ∉ o.parameters := by
  cases part with
  | id | literal | text =>
    obtain ⟨w, between, -, last⟩ := exists_of_bind_ok read
    cases last
    exact List.not_mem_nil
  | choice kind =>
    obtain ⟨w, between, -, last⟩ := exists_of_bind_ok read
    cases last
    apply Choice.text_notMem_parameters
    rintro rfl
    cases h

/-- Parameters are read orderly. -/
theorem orderly_parameters (parameters : List Part) (c : Cursor) :
    Orderly (Part.text ∈ parameters) (parameters.mapM readPart) c := by
  apply Orderly.mapM
  intro parameter mem c
  exact (orderly_readPart parameter c).mono fun same => same ▸ mem

/-- An operand is read orderly, parameters included. -/
theorem orderly_readOperands (part : Part) (c : Cursor) :
    Orderly (part.mayHoldText = true) (readOperands part) c := by
  apply ((orderly_readPart part c).mono (by rintro rfl; rfl)).bind
  intro first c' read
  apply ((orderly_parameters first.parameters c').mono ?_).bind fun parameters c'' _ => .pure _
  intro mem
  cases held : part.mayHoldText with
  | true => rfl
  | false => exact absurd mem (text_notMem_parameters held read)

/-- The same part read a number of times is read orderly. -/
theorem orderly_readParts {part : Part} (h : part ≠ .text) (count : Nat) (c : Cursor) :
    Orderly text (readParts count part) c := by
  apply Orderly.mapM
  intro other mem c
  rw [List.eq_of_mem_replicate mem]
  exact (orderly_readPart part c).mono fun same => absurd same h

/-- A place is read orderly. -/
theorem orderly_readPlace (i : Instruction) (place : Place) (c : Cursor) :
    Orderly (place.mayHoldText = true) (i.readPlace types number place) c := by
  cases place with
  | resultType => exact (orderly_readWord c).bind fun w c' _ => .pure _
  | resultId => exact (orderly_readWord c).bind fun w c' _ => .pure _
  | part held => exact (orderly_readOperands held c).bind fun os c' _ => .pure _
  | number =>
    unfold Instruction.readPlace
    cases known : types.words? i.resultType with
    | some count => exact (orderly_readParts (by decide) count c).bind fun os c' _ => .pure _
    | none => exact .report rfl

/-- The slots of an instruction are read orderly. -/
theorem orderly_readSlots (i : Instruction) (slots : List Slot) (c : Cursor) :
    Orderly (∃ slot ∈ slots, slot.mayHoldText = true) (i.readSlots types number slots) c := by
  induction slots generalizing i c with
  | nil => exact .pure i
  | cons slot slots ih =>
    have later : (∃ other ∈ slots, other.mayHoldText = true) →
        ∃ other ∈ slot :: slots, other.mayHoldText = true := fun ⟨other, mem, h⟩ =>
      ⟨other, List.mem_cons_of_mem _ mem, h⟩
    cases slot with
    | required place =>
      apply Orderly.get_bind
      by_cases limit : c.limit = 0
      · rw [if_pos limit]
        exact .report rfl
      · rw [if_neg limit]
        exact ((orderly_readPlace i place c).mono fun h => ⟨_, List.mem_cons_self, h⟩).bind
          fun j c' _ => (ih j c').mono later
    | optional place =>
      apply Orderly.get_bind
      by_cases limit : c.limit = 0
      · rw [if_pos limit]
        exact .pure i
      · rw [if_neg limit]
        exact ((orderly_readPlace i place c).mono fun h => ⟨_, List.mem_cons_self, h⟩).bind
          fun j c' _ => (ih j c').mono later
    | ids =>
      apply Orderly.get_bind
      exact (orderly_readParts (by decide) c.limit c).bind fun os c' _ => (ih _ c').mono later

/-- A whole instruction is read orderly. -/
theorem orderly_readWhole (opcode : Opcode) (c : Cursor) :
    Orderly (∃ slot ∈ opcode.slots, slot.mayHoldText = true)
      (Instruction.readWhole types number opcode) c := by
  apply (orderly_readSlots _ opcode.slots c).bind
  intro i c' _
  apply Orderly.get_bind
  by_cases limit : c'.limit = 0
  · rw [if_pos limit]
    exact .pure i
  · rw [if_neg limit]
    exact .report rfl

end ComputeHandles.Spirv
