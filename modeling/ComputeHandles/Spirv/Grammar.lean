import ComputeHandles.Spirv.Choice

/-!
# Instructions and their operands

An opcode says which operands its instruction has, in which order and which of them
may be left out. Of the instructions of the format the loader is modelled for 38 only. It
takes the number of every other one for an unknown instruction, also where the format
defines it, so what is said of a binary with such an instruction is that it is refused.
-/

namespace ComputeHandles.Spirv

/-- What stands at one place of an instruction. -/
inductive Place where
  /-- The type of the result. -/
  | resultType
  /-- The id of the result. -/
  | resultId
  /-- An operand in one part. -/
  | part (part : Part)
  /-- A number as wide as the type of the result says. -/
  | number
  deriving DecidableEq, Repr

/-- A place with how often it is filled. -/
inductive Slot where
  /-- Exactly once. -/
  | required (place : Place)
  /-- Once unless the instruction ends here. -/
  | optional (place : Place)
  /-- Ids up to the end of the instruction. -/
  | ids
  deriving DecidableEq, Repr

/-- A required id. -/
abbrev Slot.id : Slot := .required (.part .id)

/-- A required literal word. -/
abbrev Slot.literal : Slot := .required (.part .literal)

/-- A required text. -/
abbrev Slot.text : Slot := .required (.part .text)

/-- A required choice. -/
abbrev Slot.choice (kind : Choice) : Slot := .required (.part (.choice kind))

/-- The type of the result. -/
abbrev Slot.type : Slot := .required .resultType

/-- The id of the result. -/
abbrev Slot.result : Slot := .required .resultId

/-- The known instructions, which are 38 of those that the format defines. -/
inductive Opcode where
  | opNop | opUndef | opSourceContinued | opSource | opName | opString | opLine | opExtension
  | opExtInstImport | opMemoryModel | opEntryPoint | opExecutionMode | opCapability | opTypeVoid
  | opTypeBool | opTypeInt | opTypeFloat | opTypePointer | opTypeFunction | opTypeEvent
  | opConstant | opFunction | opFunctionParameter | opFunctionEnd | opFunctionCall | opVariable
  | opLoad | opStore | opDecorate | opIAdd | opLabel | opBranch | opReturn | opReturnValue
  | opUnreachable | opNoLine | opModuleProcessed | opCopyLogical
  deriving DecidableEq, Repr

/-- The name of an instruction. -/
def Opcode.name : Opcode → String
  | .opNop => "Nop"
  | .opUndef => "Undef"
  | .opSourceContinued => "SourceContinued"
  | .opSource => "Source"
  | .opName => "Name"
  | .opString => "String"
  | .opLine => "Line"
  | .opExtension => "Extension"
  | .opExtInstImport => "ExtInstImport"
  | .opMemoryModel => "MemoryModel"
  | .opEntryPoint => "EntryPoint"
  | .opExecutionMode => "ExecutionMode"
  | .opCapability => "Capability"
  | .opTypeVoid => "TypeVoid"
  | .opTypeBool => "TypeBool"
  | .opTypeInt => "TypeInt"
  | .opTypeFloat => "TypeFloat"
  | .opTypePointer => "TypePointer"
  | .opTypeFunction => "TypeFunction"
  | .opTypeEvent => "TypeEvent"
  | .opConstant => "Constant"
  | .opFunction => "Function"
  | .opFunctionParameter => "FunctionParameter"
  | .opFunctionEnd => "FunctionEnd"
  | .opFunctionCall => "FunctionCall"
  | .opVariable => "Variable"
  | .opLoad => "Load"
  | .opStore => "Store"
  | .opDecorate => "Decorate"
  | .opIAdd => "IAdd"
  | .opLabel => "Label"
  | .opBranch => "Branch"
  | .opReturn => "Return"
  | .opReturnValue => "ReturnValue"
  | .opUnreachable => "Unreachable"
  | .opNoLine => "NoLine"
  | .opModuleProcessed => "ModuleProcessed"
  | .opCopyLogical => "CopyLogical"

/-- The known instructions by number. A number that is not here counts as unknown, also one
that the format defines. -/
def Opcode.table : List (Nat × Opcode) :=
  [(0, .opNop), (1, .opUndef), (2, .opSourceContinued), (3, .opSource), (5, .opName),
    (7, .opString), (8, .opLine), (10, .opExtension), (11, .opExtInstImport),
    (14, .opMemoryModel), (15, .opEntryPoint), (16, .opExecutionMode), (17, .opCapability),
    (19, .opTypeVoid), (20, .opTypeBool), (21, .opTypeInt), (22, .opTypeFloat),
    (32, .opTypePointer), (33, .opTypeFunction), (34, .opTypeEvent), (43, .opConstant),
    (54, .opFunction), (55, .opFunctionParameter), (56, .opFunctionEnd), (57, .opFunctionCall),
    (59, .opVariable), (61, .opLoad), (62, .opStore), (71, .opDecorate), (128, .opIAdd),
    (248, .opLabel), (249, .opBranch), (253, .opReturn), (254, .opReturnValue),
    (255, .opUnreachable), (317, .opNoLine), (330, .opModuleProcessed), (400, .opCopyLogical)]

/-- The instruction with a number. -/
def Opcode.ofNumber? (number : Nat) : Option Opcode := table.lookup number

/-- The operands of an instruction, in order. -/
def Opcode.slots : Opcode → List Slot
  | .opNop | .opFunctionEnd | .opReturn | .opUnreachable | .opNoLine => []
  | .opUndef | .opFunctionParameter => [.type, .result]
  | .opSourceContinued | .opExtension | .opModuleProcessed => [.text]
  | .opSource =>
    [.choice .sourceLanguage, .literal, .optional (.part .id), .optional (.part .text)]
  | .opName => [.id, .text]
  | .opString | .opExtInstImport => [.result, .text]
  | .opLine => [.id, .literal, .literal]
  | .opMemoryModel => [.choice .addressingModel, .choice .memoryModel]
  | .opEntryPoint => [.choice .executionModel, .id, .text, .ids]
  | .opExecutionMode => [.id, .choice .executionMode]
  | .opCapability => [.choice .capability]
  | .opTypeVoid | .opTypeBool | .opTypeEvent | .opLabel => [.result]
  | .opTypeInt => [.result, .literal, .literal]
  | .opTypeFloat => [.result, .literal]
  | .opTypePointer => [.result, .choice .storageClass, .id]
  | .opTypeFunction => [.result, .id, .ids]
  | .opConstant => [.type, .result, .required .number]
  | .opFunction => [.type, .result, .choice .functionControl, .id]
  | .opFunctionCall => [.type, .result, .id, .ids]
  | .opVariable => [.type, .result, .choice .storageClass, .optional (.part .id)]
  | .opLoad => [.type, .result, .id, .optional (.part (.choice .memoryAccess))]
  | .opStore => [.id, .id, .optional (.part (.choice .memoryAccess))]
  | .opDecorate => [.id, .choice .decoration]
  | .opIAdd => [.type, .result, .id, .id]
  | .opBranch | .opReturnValue => [.id]
  | .opCopyLogical => [.type, .result, .id]

end ComputeHandles.Spirv
