import ComputeHandles.Text.Range

/-!
# Operands that choose

Some operands choose one of numbered values or a set of bits. Each kind of them accepts
only some words, and some of the values are followed by parameters of their own. The
values are those of version 1.5 of the format with its registered extensions.
-/

namespace ComputeHandles.Spirv

open Text

/-- Operands that choose one of numbered values or a set of bits. -/
inductive Choice where
  /-- The language of the source. -/
  | sourceLanguage
  /-- The stage that an entry point serves. -/
  | executionModel
  /-- The width of addresses. -/
  | addressingModel
  /-- The memory model. -/
  | memoryModel
  /-- Where a variable lives. -/
  | storageClass
  /-- Whether a name is imported or exported. -/
  | linkageType
  /-- Hints about a function. -/
  | functionControl
  /-- A feature that the module uses. -/
  | capability
  /-- A property of an entry point. -/
  | executionMode
  /-- A property of an id. -/
  | decoration
  /-- Properties of a memory access. -/
  | memoryAccess
  /-- A variable that the environment provides. -/
  | builtIn
  /-- A property of a function parameter. -/
  | parameterAttribute
  /-- The way a floating point number is rounded. -/
  | roundingMode
  /-- Liberties that floating point arithmetic may take. -/
  | fastMathMode
  deriving DecidableEq, Repr

/-- The name of the operand kind. -/
def Choice.name : Choice → String
  | .sourceLanguage => "SourceLanguage"
  | .executionModel => "ExecutionModel"
  | .addressingModel => "AddressingModel"
  | .memoryModel => "MemoryModel"
  | .storageClass => "StorageClass"
  | .linkageType => "LinkageType"
  | .functionControl => "FunctionControl"
  | .capability => "Capability"
  | .executionMode => "ExecutionMode"
  | .decoration => "Decoration"
  | .memoryAccess => "MemoryAccess"
  | .builtIn => "BuiltIn"
  | .parameterAttribute => "FunctionParameterAttribute"
  | .roundingMode => "FPRoundingMode"
  | .fastMathMode => "FPFastMathMode"

/-- The numbered values of a choice; a set of bits takes every sum of its bits. -/
def Choice.values : Choice → RangeTable
  | .sourceLanguage => [(0, 5)]
  | .executionModel => [(0, 6), (5267, 5268), (5313, 5318)]
  | .addressingModel => [(0, 2), (5348, 5348)]
  | .memoryModel => [(0, 3)]
  | .storageClass =>
    [(0, 12), (5328, 5329), (5338, 5339), (5342, 5343), (5349, 5349), (5605, 5605)]
  | .linkageType => [(0, 1)]
  | .functionControl => [(0, 15)]
  | .capability =>
    [(0, 15), (17, 25), (27, 70), (4422, 4423), (4427, 4427), (4431, 4431), (4433, 4437),
      (4439, 4439), (4441, 4442), (4445, 4445), (4447, 4450), (4464, 4468), (4471, 4472),
      (4478, 4479), (5008, 5010), (5013, 5013), (5015, 5016), (5055, 5055), (5249, 5249),
      (5251, 5251), (5254, 5255), (5259, 5260), (5265, 5266), (5282, 5282), (5284, 5284),
      (5288, 5288), (5291, 5291), (5297, 5297), (5301, 5312), (5340, 5340), (5345, 5347),
      (5350, 5350), (5353, 5353), (5357, 5357), (5363, 5363), (5372, 5373), (5378, 5379),
      (5568, 5570), (5579, 5579), (5584, 5584), (5603, 5604), (5696, 5698), (5824, 5824),
      (5886, 5886), (5888, 5888), (5892, 5892), (5897, 5897), (5945, 5945), (5948, 5948),
      (6033, 6034)]
  | .executionMode =>
    [(0, 12), (14, 31), (33, 39), (4446, 4446), (4459, 4463), (5027, 5027), (5269, 5270),
      (5289, 5290), (5298, 5298), (5366, 5371), (5893, 5896)]
  | .decoration =>
    [(0, 11), (13, 47), (4469, 4470), (4999, 4999), (5248, 5248), (5250, 5250), (5252, 5252),
      (5256, 5256), (5271, 5273), (5285, 5285), (5300, 5300), (5355, 5356), (5602, 5602),
      (5634, 5636), (5825, 5836)]
  | .memoryAccess => [(0, 63)]
  | .builtIn =>
    [(0, 1), (3, 20), (22, 34), (36, 43), (4416, 4420), (4424, 4426), (4432, 4432),
      (4438, 4438), (4440, 4440), (4444, 4444), (4992, 4998), (5014, 5014), (5253, 5253),
      (5257, 5258), (5261, 5262), (5264, 5264), (5274, 5281), (5286, 5287), (5292, 5293),
      (5319, 5327), (5330, 5333), (5351, 5352), (5374, 5377)]
  | .parameterAttribute => [(0, 7)]
  | .roundingMode => [(0, 3)]
  | .fastMathMode => [(0, 31)]

/-- The word is a value of the choice. -/
def Choice.accepts (choice : Choice) (word : UInt32) : Bool := choice.values.covers word.toNat

/-- The execution model of kernels. -/
def kernelModel : UInt32 := 6

/-- A part of an operand that is read on its own. -/
inductive Part where
  /-- An id. -/
  | id
  /-- A word as it is. -/
  | literal
  /-- A text that ends with a NUL. -/
  | text
  /-- A choice without parameters. -/
  | choice (kind : Choice)
  deriving DecidableEq, Repr

/-- The execution modes with parameters, and these. -/
def executionModeParameters : List (UInt32 × List Part) :=
  [(0, [.literal]), (17, [.literal, .literal, .literal]), (18, [.literal, .literal, .literal]),
    (26, [.literal]), (30, [.literal]), (35, [.literal]), (36, [.literal]), (37, [.id]),
    (38, [.id, .id, .id]), (39, [.id]), (4459, [.literal]), (4460, [.literal]),
    (4461, [.literal]), (4462, [.literal]), (4463, [.literal]), (5270, [.literal]),
    (5893, [.literal, .literal, .literal]), (5894, [.literal]), (5896, [.literal])]

/-- The decorations with parameters, and these. -/
def decorationParameters : List (UInt32 × List Part) :=
  [(1, [.literal]), (6, [.literal]), (7, [.literal]), (11, [.choice .builtIn]), (27, [.id]),
    (29, [.literal]), (30, [.literal]), (31, [.literal]), (32, [.literal]), (33, [.literal]),
    (34, [.literal]), (35, [.literal]), (36, [.literal]), (37, [.literal]),
    (38, [.choice .parameterAttribute]), (39, [.choice .roundingMode]),
    (40, [.choice .fastMathMode]), (41, [.text, .choice .linkageType]), (43, [.literal]),
    (44, [.literal]), (45, [.literal]), (46, [.id]), (47, [.id]), (5256, [.literal]),
    (5634, [.id]), (5635, [.text]), (5636, [.text]), (5826, [.text]), (5827, [.literal]),
    (5828, [.literal]), (5829, [.literal]), (5832, [.literal]), (5834, [.text, .text]),
    (5835, [.literal]), (5836, [.literal])]

/-- The parameters of a memory access, by its bits in ascending order: the alignment, and
the scopes in which writes are made available and visible. -/
def memoryAccessParameters (word : UInt32) : List Part :=
  (if word &&& 2 = 0 then [] else [.literal]) ++ (if word &&& 8 = 0 then [] else [.id])
    ++ (if word &&& 16 = 0 then [] else [.id])

/-- The parameters that follow a value of a choice. -/
def Choice.parameters : Choice → UInt32 → List Part
  | .executionMode, word => (executionModeParameters.lookup word).getD []
  | .decoration, word => (decorationParameters.lookup word).getD []
  | .memoryAccess, word => memoryAccessParameters word
  | _, _ => []

end ComputeHandles.Spirv
