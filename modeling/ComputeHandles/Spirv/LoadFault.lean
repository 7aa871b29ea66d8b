import ComputeHandles.Spirv.Grammar
import ComputeHandles.Text.Quoted
import ComputeHandles.Text.Utf8

/-!
# Faults of a binary

A binary that cannot be loaded is reported with the byte offset of the fault and,
where it helps, the number of the instruction, counted from one. One fault is no
report: a text operand whose instruction claims more words than the binary has
breaks the loading off.
-/

namespace ComputeHandles.Spirv

open Text

/-- Why an operand cannot be read. -/
inductive OperandError where
  /-- The instruction has no words left. -/
  | wordLimit (offset : Nat)
  /-- The binary has no words left. -/
  | streamEnd (offset : Nat)
  /-- A choice has no such value. -/
  | unknownValue (value : UInt32) (choice : Choice) (offset : Nat)
  /-- A text is not UTF-8. -/
  | badText (offset : Nat) (error : Utf8Error)
  deriving DecidableEq, Repr

/-- The complaint about an operand. -/
def OperandError.message : OperandError → String
  | .wordLimit offset => s!"reached word limit at index {offset}"
  | .streamEnd offset => s!"expected more bytes in the stream at index {offset}"
  | .unknownValue value choice offset =>
    s!"unknown value {value.toNat} for operand kind {choice.name} at index {offset}"
  | .badText offset error => s!"cannot decode string at index {offset}: {error.message}"

/-- Why an instruction cannot stand where it stands. -/
inductive LayoutError where
  /-- A function begins inside a function. -/
  | nestedFunction
  /-- A function ends outside of any. -/
  | mismatchedFunctionEnd
  /-- A block is open where its function or the binary ends. -/
  | unterminatedBlock
  /-- A parameter stands outside of any function. -/
  | strayParameter
  /-- A block begins outside of any function. -/
  | strayBlock
  /-- A block begins inside a block. -/
  | nestedBlock
  /-- A block ends where none is open. -/
  | mismatchedTerminator
  /-- An instruction stands outside of any block. -/
  | strayInstruction (opcode : Opcode)
  /-- A function is open where the binary ends. -/
  | unclosedFunction
  deriving DecidableEq, Repr

/-- The complaint about the place of an instruction. -/
def LayoutError.message : LayoutError → String
  | .nestedFunction => "found nested function"
  | .mismatchedFunctionEnd => "found mismatched OpFunctionEnd"
  | .unterminatedBlock => "found block without terminator"
  | .strayParameter => "found function OpFunctionParameter not inside function"
  | .strayBlock => "found block not inside function"
  | .nestedBlock => "found nested block"
  | .mismatchedTerminator => "found mismatched terminator"
  | .strayInstruction opcode => s!"found instruction `{quote opcode.name}` not inside block"
  | .unclosedFunction => "found unclosed function"

/-- Why a binary is not a sequence of well placed instructions. -/
inductive LoadError where
  /-- The header is cut short. -/
  | shortHeader (offset : Nat)
  /-- An instruction claims to have no words. -/
  | zeroWordCount (number offset : Nat)
  /-- An instruction is not known. -/
  | unknownOpcode (opcode number offset : Nat)
  /-- An operand is missing. -/
  | missingOperand (number offset : Nat)
  /-- Words follow the last operand. -/
  | extraOperand (number offset : Nat)
  /-- A number has a type of no known width. -/
  | unsupportedType (number offset : Nat)
  /-- An operand cannot be read. -/
  | operand (error : OperandError)
  /-- An instruction is out of place. -/
  | layout (error : LayoutError)
  deriving DecidableEq, Repr

/-- The complaint about a binary. -/
def LoadError.message : LoadError → String
  | .shortHeader offset =>
    s!"incomplete module header: {(OperandError.streamEnd offset).message}"
  | .zeroWordCount number offset =>
    s!"zero word count found for instruction #{number} at offset {offset}"
  | .unknownOpcode opcode number offset =>
    s!"unknown opcode ({opcode}) for instruction #{number} at offset {offset}"
  | .missingOperand number offset =>
    s!"expected more operands for instruction #{number} at offset {offset}"
  | .extraOperand number offset =>
    s!"found extra operands for instruction #{number} at offset {offset}"
  | .unsupportedType number offset =>
    s!"unsupported type for instruction #{number} at offset {offset}"
  | .operand error => s!"operand decoding error: {error.message}"
  | .layout error => s!"consumer error: {error.message}"

/-- Why loading a binary stopped. -/
inductive LoadFault where
  /-- The binary is reported. -/
  | reported (error : LoadError)
  /-- A text operand claims bytes up to `stop` of a binary of `length` bytes. -/
  | overrun (stop length : Nat)
  deriving DecidableEq, Repr

/-- What is said when a text operand claims more bytes than there are. -/
def overrunMessage (stop length : Nat) : String :=
  s!"range end index {stop} out of range for slice of length {length}"

end ComputeHandles.Spirv
