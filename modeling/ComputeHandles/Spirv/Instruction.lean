import ComputeHandles.Spirv.Operand

/-!
# Reading instructions

The first word of an instruction says how many words it has and what it is; the
operands fill the other words exactly. How many words a number takes depends on the
number types that earlier instructions gave to ids.
-/

namespace ComputeHandles.Spirv

/-- An instruction as it was read. -/
structure Instruction where
  /-- What it is. -/
  opcode : Opcode
  /-- The type of its result. -/
  resultType : Option UInt32
  /-- The id of its result. -/
  resultId : Option UInt32
  /-- Its operands. -/
  operands : List Operand
  deriving DecidableEq, Repr

/-- A number type. -/
inductive NumberType where
  /-- An integer of a width in bits. -/
  | integer (width : UInt32)
  /-- A floating point number of a width in bits. -/
  | float (width : UInt32)
  deriving DecidableEq, Repr

/-- The words of a number, if its type has a known width. -/
def NumberType.words? : NumberType → Option Nat
  | .integer width =>
    if width = 8 ∨ width = 16 ∨ width = 32 then some 1 else if width = 64 then some 2 else none
  | .float width =>
    if width = 16 ∨ width = 32 then some 1 else if width = 64 then some 2 else none

/-- Number types by id, latest first: a type has the number type it defines, a value the
one its own type had when the value was read. -/
abbrev NumberTypes := List (UInt32 × NumberType)

/-- The words of a number of a type; a number of an unknown type has one word. -/
def NumberTypes.words? (types : NumberTypes) (type : Option UInt32) : Option Nat :=
  match type.bind fun id => types.lookup id with
  | some numberType => numberType.words?
  | none => some 1

/-- The number type that an instruction gives to its result: the one it defines, or else
the one of its result's type. -/
def NumberTypes.result? (types : NumberTypes) (i : Instruction) : Option NumberType :=
  match i.opcode, i.operands with
  | .opTypeInt, .literal width :: _ => some (.integer width)
  | .opTypeFloat, .literal width :: _ => some (.float width)
  | _, _ => i.resultType.bind fun type => types.lookup type

/-- The number types after an instruction. An id whose instruction gives it none keeps what
it had. -/
def NumberTypes.after (types : NumberTypes) (i : Instruction) : NumberTypes :=
  match i.resultId, types.result? i with
  | some id, some numberType => (id, numberType) :: types
  | _, _ => types

/-- The instruction without anything read. -/
def Instruction.begun (opcode : Opcode) : Instruction := ⟨opcode, none, none, []⟩

/-- Reads what stands at one place. -/
def Instruction.readPlace (types : NumberTypes) (number : Nat) (i : Instruction) :
    Place → Reader Instruction
  | .resultType => return { i with resultType := some (← readWord) }
  | .resultId => return { i with resultId := some (← readWord) }
  | .part part => return { i with operands := i.operands ++ (← readOperands part) }
  | .number => do
    match types.words? i.resultType with
    | some count => return { i with operands := i.operands ++ (← readParts count .literal) }
    | none => throw (.reported (.unsupportedType number (← get).offset))

/-- Reads what fills the slots of an instruction, from left to right. An optional slot at
the end of the words ends the instruction, a required one is missed. -/
def Instruction.readSlots (types : NumberTypes) (number : Nat) (i : Instruction) :
    List Slot → Reader Instruction
  | [] => return i
  | .required place :: rest => do
    let c ← get
    if c.limit = 0 then throw (.reported (.missingOperand number c.offset))
    else (← i.readPlace types number place).readSlots types number rest
  | .optional place :: rest => do
    if (← get).limit = 0 then return i
    else (← i.readPlace types number place).readSlots types number rest
  | .ids :: rest => do
    let others ← readParts (← get).limit .id
    { i with operands := i.operands ++ others }.readSlots types number rest

/-- Reads an instruction whose operands fill its words exactly. -/
def Instruction.readWhole (types : NumberTypes) (number : Nat) (opcode : Opcode) :
    Reader Instruction := do
  let i ← (Instruction.begun opcode).readSlots types number opcode.slots
  let c ← get
  if c.limit = 0 then return i
  else throw (.reported (.extraOperand number c.offset))

/-- Reads the instruction that starts with a word at a position, before the other words. -/
def Instruction.read (types : NumberTypes) (number position : Nat) (first : UInt32)
    (rest : List UInt32) : Except LoadFault Instruction :=
  if wordCount first = 0 then .error (.reported (.zeroWordCount number (4 * position)))
  else
    match Opcode.ofNumber? (opcodeNumber first) with
    | none => .error (.reported (.unknownOpcode (opcodeNumber first) number (4 * position)))
    | some opcode =>
      (Instruction.readWhole types number opcode).run' ⟨position + 1, wordCount first - 1, rest⟩

end ComputeHandles.Spirv
