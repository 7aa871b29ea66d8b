import ComputeHandles.Spirv.LoadFault
import ComputeHandles.Spirv.Word

/-!
# Reading operands

A cursor stands in a binary with the words of the current instruction that are still
to be read. Reading moves it forward by whole words. A word past the end of the
instruction is the instruction's fault, a word past the end of the binary is the
binary's, and the first of the two is told.
-/

namespace ComputeHandles.Spirv

open Text

/-- Where reading stands. -/
structure Cursor where
  /-- Number of words of the binary read so far. -/
  position : Nat
  /-- Number of words of the instruction still to be read. -/
  limit : Nat
  /-- The words of the binary still to be read. -/
  rest : List UInt32
  deriving DecidableEq, Repr

/-- The byte offset of the next word. -/
def Cursor.offset (c : Cursor) : Nat := 4 * c.position

/-- The number of bytes of the binary. -/
def Cursor.size (c : Cursor) : Nat := 4 * (c.position + c.rest.length)

/-- The cursor a number of words further on. -/
def Cursor.advance (c : Cursor) (count : Nat) : Cursor :=
  ⟨c.position + count, c.limit - count, c.rest.drop count⟩

/-- Reads from a cursor and moves it. -/
abbrev Reader (α : Type) := StateT Cursor (Except LoadFault) α

/-- Stops with a complaint about an operand. -/
def operandFault {α : Type} (e : OperandError) : Reader α :=
  throw (.reported (.operand e))

/-- Reads a word. -/
def readWord : Reader UInt32 := do
  let c ← get
  if c.limit = 0 then operandFault (.wordLimit c.offset)
  else
    match c.rest with
    | [] => operandFault (.streamEnd c.offset)
    | w :: _ =>
      set (c.advance 1)
      return w

/-- Reads a word that chooses a value. A missing word is always told as the end of the
binary. -/
def readChoice (choice : Choice) : Reader UInt32 := do
  let c ← get
  match c.rest with
  | w :: _ =>
    if c.limit = 0 then operandFault (.streamEnd c.offset)
    else if choice.accepts w then
      set (c.advance 1)
      return w
    else operandFault (.unknownValue w choice c.offset)
  | [] => operandFault (.streamEnd c.offset)

/-- Reads a text. All words left to the instruction must be there; the text ends at the
first NUL among their bytes and fills the words up to that one. -/
def readText : Reader String := do
  let c ← get
  if c.rest.length < c.limit then throw (.overrun (c.offset + 4 * c.limit) c.size)
  else
    let bytes := bytesOfWords (c.rest.take c.limit)
    if 0 ∈ bytes then
      let content := bytes.takeWhile (· != 0)
      match utf8Decode content with
      | .error e => operandFault (.badText c.offset e)
      | .ok cs =>
        set (c.advance (content.length / 4 + 1))
        return String.ofList cs
    else operandFault (.wordLimit (c.offset + 4 * c.limit))

/-- What was read at one place. -/
inductive Operand where
  /-- An id. -/
  | id (word : UInt32)
  /-- A word as it is. -/
  | literal (word : UInt32)
  /-- A text. -/
  | text (content : String)
  /-- A value of a choice. -/
  | choice (kind : Choice) (value : UInt32)
  deriving DecidableEq, Repr

/-- Reads an operand in one part, without parameters. -/
def readPart : Part → Reader Operand
  | .id => return .id (← readWord)
  | .literal => return .literal (← readWord)
  | .text => return .text (← readText)
  | .choice kind => return .choice kind (← readChoice kind)

/-- The parameters that follow what was read. -/
def Operand.parameters : Operand → List Part
  | .choice kind value => kind.parameters value
  | .id _ | .literal _ | .text _ => []

/-- Reads an operand and the parameters that follow it. -/
def readOperands (part : Part) : Reader (List Operand) := do
  let first ← readPart part
  let parameters ← first.parameters.mapM readPart
  return first :: parameters

/-- Reads the same part a number of times. -/
def readParts (count : Nat) (part : Part) : Reader (List Operand) :=
  (List.replicate count part).mapM readPart

/-- Moving forward does not change the size of the binary. -/
theorem Cursor.size_advance {c : Cursor} {count : Nat} (h : count ≤ c.rest.length) :
    (c.advance count).size = c.size := by
  simp only [Cursor.size, Cursor.advance, List.length_drop]
  omega

end ComputeHandles.Spirv
