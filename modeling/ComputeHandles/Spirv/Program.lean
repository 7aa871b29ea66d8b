import ComputeHandles.Spirv.Instruction

/-!
# Programs

A program is what is kept of a binary: its version, its entry points and its complete
functions with their numbers of parameters. Instructions are placed in order. Outside
of functions stand declarations, inside a function its parameters and blocks, inside a
block everything up to the instruction that ends it.
-/

namespace ComputeHandles.Spirv

/-- A version of SPIR-V. -/
structure Version where
  /-- The major version. -/
  major : UInt8
  /-- The minor version. -/
  minor : UInt8
  deriving DecidableEq, Repr

/-- The version in the second word of a binary. -/
def Version.ofWord (w : UInt32) : Version :=
  ⟨UInt8.ofNat (w.toNat / 0x10000), UInt8.ofNat (w.toNat / 0x100)⟩

/-- An entry point. -/
structure EntryPoint where
  /-- The stage it serves. -/
  model : UInt32
  /-- The id of its function. -/
  function : UInt32
  /-- Its name. -/
  name : String
  deriving DecidableEq, Repr

/-- A function. -/
structure FunctionDef where
  /-- Its id. -/
  id : UInt32
  /-- The number of its parameters. -/
  parameters : Nat
  deriving DecidableEq, Repr

/-- What is kept of a binary. -/
structure Program where
  /-- The version. -/
  version : Version
  /-- The entry points, in order. -/
  entryPoints : List EntryPoint
  /-- The functions, in the order of their ends. -/
  functions : List FunctionDef
  deriving DecidableEq, Repr

/-- The place that the next instruction takes. -/
inductive Scope where
  /-- Outside of functions. -/
  | outside
  /-- Inside a function, between its blocks. -/
  | inFunction (f : FunctionDef)
  /-- Inside a block of a function. -/
  | inBlock (f : FunctionDef)
  deriving DecidableEq, Repr

/-- What the instructions placed so far amount to. -/
structure Layout where
  /-- The place of the next instruction. -/
  scope : Scope
  /-- The entry points so far. -/
  entryPoints : List EntryPoint
  /-- The complete functions so far. -/
  functions : List FunctionDef
  deriving DecidableEq, Repr

/-- Nothing is placed yet. -/
def Layout.empty : Layout := ⟨.outside, [], []⟩

/-- How an instruction takes its place. -/
inductive Placement where
  /-- It stands anywhere. -/
  | anywhere
  /-- It stands outside of functions or inside a block. -/
  | declaration
  /-- It begins a function. -/
  | functionStart
  /-- It ends a function. -/
  | functionEnd
  /-- It is a parameter of a function. -/
  | parameter
  /-- It begins a block. -/
  | blockStart
  /-- It ends a block. -/
  | terminator
  /-- It stands inside a block. -/
  | ordinary
  deriving DecidableEq, Repr

/-- How the instructions take their places. -/
def Opcode.placement : Opcode → Placement
  | .opFunction => .functionStart
  | .opFunctionEnd => .functionEnd
  | .opFunctionParameter => .parameter
  | .opLabel => .blockStart
  | .opBranch | .opReturn | .opReturnValue | .opUnreachable => .terminator
  | .opUndef | .opVariable => .declaration
  | .opNop | .opFunctionCall | .opLoad | .opStore | .opIAdd | .opCopyLogical => .ordinary
  | .opSourceContinued | .opSource | .opName | .opString | .opLine | .opExtension
  | .opExtInstImport | .opMemoryModel | .opEntryPoint | .opExecutionMode | .opCapability
  | .opTypeVoid | .opTypeBool | .opTypeInt | .opTypeFloat | .opTypePointer | .opTypeFunction
  | .opTypeEvent | .opConstant | .opDecorate | .opNoLine | .opModuleProcessed => .anywhere

/-- The entry point that an instruction declares. -/
def Instruction.entryPoint? (i : Instruction) : Option EntryPoint :=
  match i.opcode, i.operands with
  | .opEntryPoint, .choice .executionModel model :: .id function :: .text name :: _ =>
    some ⟨model, function, name⟩
  | _, _ => none

/-- The scope after an instruction that takes its place there. -/
def Scope.place (scope : Scope) (i : Instruction) : Except LayoutError Scope :=
  match i.opcode.placement, scope with
  | .anywhere, _ => .ok scope
  | .declaration, .outside => .ok scope
  | .declaration, .inBlock _ | .ordinary, .inBlock _ => .ok scope
  | .declaration, .inFunction _ | .ordinary, .inFunction _ | .ordinary, .outside =>
    .error (.strayInstruction i.opcode)
  | .functionStart, .outside => .ok (.inFunction ⟨i.resultId.getD 0, 0⟩)
  | .functionStart, .inFunction _ | .functionStart, .inBlock _ => .error .nestedFunction
  | .functionEnd, .outside => .error .mismatchedFunctionEnd
  | .functionEnd, .inBlock _ => .error .unterminatedBlock
  | .functionEnd, .inFunction _ => .ok .outside
  | .parameter, .outside => .error .strayParameter
  | .parameter, .inFunction f => .ok (.inFunction { f with parameters := f.parameters + 1 })
  | .parameter, .inBlock f => .ok (.inBlock { f with parameters := f.parameters + 1 })
  | .blockStart, .outside => .error .strayBlock
  | .blockStart, .inBlock _ => .error .nestedBlock
  | .blockStart, .inFunction f => .ok (.inBlock f)
  | .terminator, .inBlock f => .ok (.inFunction f)
  | .terminator, .outside | .terminator, .inFunction _ => .error .mismatchedTerminator

/-- The function that an instruction completes in a scope. -/
def Scope.completed? (scope : Scope) (i : Instruction) : Option FunctionDef :=
  match i.opcode.placement, scope with
  | .functionEnd, .inFunction f => some f
  | _, _ => none

/-- Places the next instruction. -/
def Layout.place (layout : Layout) (i : Instruction) : Except LayoutError Layout := do
  let scope ← layout.scope.place i
  return ⟨scope, layout.entryPoints ++ i.entryPoint?.toList,
    layout.functions ++ (layout.scope.completed? i).toList⟩

/-- Nothing may be open where the binary ends. -/
def Layout.finish (layout : Layout) : Except LayoutError Layout :=
  match layout.scope with
  | .outside => .ok layout
  | .inFunction _ => .error .unclosedFunction
  | .inBlock _ => .error .unterminatedBlock

/-- A complaint about a place, as a fault of the binary. -/
def placed {α : Type} (outcome : Except LayoutError α) : Except LoadFault α :=
  outcome.mapError fun e => .reported (.layout e)

/-- Reads and places the instructions of words, after skipping the words that belong to
an instruction already read. The first fault wins. -/
def loadFrom (types : NumberTypes) (layout : Layout) (number position : Nat) :
    Nat → List UInt32 → Except LoadFault Layout
  | _, [] => placed layout.finish
  | skip + 1, _ :: rest => loadFrom types layout number (position + 1) skip rest
  | 0, first :: rest => do
    let i ← Instruction.read types number position first rest
    let next ← placed (layout.place i)
    loadFrom (types.after i) next (number + 1) (position + 1) (wordCount first - 1) rest

/-- Loads a binary: five words of header, then instructions. -/
def Program.load (words : List UInt32) : Except LoadFault Program :=
  match words with
  | _ :: version :: _ :: _ :: _ :: body => do
    let layout ← loadFrom [] Layout.empty 1 5 0 body
    return ⟨Version.ofWord version, layout.entryPoints, layout.functions⟩
  | short => .error (.reported (.shortHeader (4 * short.length)))

/-- Skipped words are not looked at. -/
theorem loadFrom_skip (types : NumberTypes) (layout : Layout) (number position skip : Nat)
    (words : List UInt32) (h : skip ≤ words.length) :
    loadFrom types layout number position skip words =
      loadFrom types layout number (position + skip) 0 (words.drop skip) := by
  induction skip generalizing position words with
  | zero => simp
  | succ n ih =>
    cases words with
    | nil => simp at h
    | cons w rest =>
      simp only [loadFrom, List.drop_succ_cons]
      rw [ih (position + 1) rest (by simpa using h)]
      congr 1
      omega

end ComputeHandles.Spirv
