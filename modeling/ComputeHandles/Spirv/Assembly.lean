import ComputeHandles.Spirv.KernelModule

/-!
# Writing kernel modules

A kernel module can be written as well as read. Its declarations come first: what it
uses, an entry point for each kernel, the types. Then each kernel has a function with
its parameters and one block that returns at once.
-/

namespace ComputeHandles.Spirv

open Text

/-- An instruction to be written. -/
structure Draft where
  /-- The number of its opcode. -/
  number : Nat
  /-- The words of its operands. -/
  operands : List UInt32
  deriving DecidableEq, Repr

/-- The number of words of an instruction. -/
def Draft.size (d : Draft) : Nat := d.operands.length + 1

/-- The first word of an instruction: how many words there are and what it is. -/
def Draft.head (d : Draft) : UInt32 := UInt32.ofNat (0x10000 * d.size + d.number)

/-- The words of an instruction. -/
def Draft.words (d : Draft) : List UInt32 := d.head :: d.operands

/-- The number of words of an instruction fits the sixteen bits that it has. -/
def Draft.Fits (d : Draft) : Prop := d.size < 0x10000

instance (d : Draft) : Decidable d.Fits := inferInstanceAs (Decidable (_ < _))

/-- The bytes of a text with its NUL, filled up to whole words with more of them. -/
def textBytes (s : String) : List UInt8 :=
  let bytes := utf8Encode s.toList
  bytes ++ List.replicate (4 - bytes.length % 4) 0

/-- The words of a text. -/
def textWords (s : String) : List UInt32 := wordsOfBytes (textBytes s)

/-- The word of a version. -/
def Version.word (v : Version) : UInt32 :=
  UInt32.ofNat (0x10000 * v.major.toNat + 0x100 * v.minor.toNat)

/-- A function type to be written: a function of pointers that returns nothing. -/
structure FunctionTypeDraft where
  /-- Its id. -/
  id : UInt32
  /-- The number of its parameters. -/
  parameters : Nat
  deriving DecidableEq, Repr

/-- A kernel to be written, with the ids it is given. -/
structure KernelDraft where
  /-- Its name. -/
  name : String
  /-- The id of its function. -/
  function : UInt32
  /-- The id of the type of its function. -/
  type : UInt32
  /-- The ids of its parameters. -/
  parameters : List UInt32
  /-- The id of its block. -/
  label : UInt32
  deriving DecidableEq, Repr

/-- A module to be written. Kernels may share the types of their functions. -/
structure ModuleDraft where
  /-- Its version. -/
  version : Version
  /-- The number of the tool that writes it. -/
  generator : UInt32
  /-- A number above all its ids. -/
  bound : UInt32
  /-- The types of its functions. -/
  functionTypes : List FunctionTypeDraft
  /-- Its kernels. -/
  kernels : List KernelDraft
  deriving DecidableEq, Repr

/-- The id of the type of nothing. -/
def voidId : UInt32 := 1

/-- The id of the integer type. -/
def intId : UInt32 := 2

/-- The id of the type of pointers to integers, which all parameters have. -/
def pointerId : UInt32 := 3

/-- A function type as an instruction. -/
def FunctionTypeDraft.instruction (t : FunctionTypeDraft) : Draft :=
  ⟨33, t.id :: voidId :: List.replicate t.parameters pointerId⟩

namespace KernelDraft

/-- The declaration of a kernel as an entry point. -/
def entryPoint (k : KernelDraft) : Draft :=
  ⟨15, kernelModel :: k.function :: textWords k.name⟩

/-- The function of a kernel. -/
def body (k : KernelDraft) : List Draft :=
  ⟨54, [voidId, k.function, 0, k.type]⟩ ::
    (k.parameters.map (fun id => ⟨55, [pointerId, id]⟩) ++
      [⟨248, [k.label]⟩, ⟨253, []⟩, ⟨56, []⟩])

/-- What a reader should find of a kernel. -/
def entry (k : KernelDraft) : KernelEntry := ⟨k.name, k.parameters.length⟩

end KernelDraft

namespace ModuleDraft

/-- The header of a module. -/
def header (m : ModuleDraft) : List UInt32 := [magicNumber, m.version.word, m.generator, m.bound, 0]

/-- What every module uses: pointers, kernels and the memory model of both. -/
def preamble : List Draft := [⟨17, [4]⟩, ⟨17, [6]⟩, ⟨14, [2, 2]⟩]

/-- The types that every module has. -/
def commonTypes : List Draft := [⟨19, [voidId]⟩, ⟨21, [intId, 32, 0]⟩, ⟨32, [pointerId, 5, intId]⟩]

/-- The instructions of a module, in order. -/
def instructions (m : ModuleDraft) : List Draft :=
  preamble ++ m.kernels.map KernelDraft.entryPoint ++ commonTypes
    ++ m.functionTypes.map FunctionTypeDraft.instruction ++ m.kernels.flatMap KernelDraft.body

/-- The words of a module. -/
def words (m : ModuleDraft) : List UInt32 := m.header ++ m.instructions.flatMap Draft.words

/-- The bytes of a module. -/
def bytes (m : ModuleDraft) : List UInt8 := bytesOfWords m.words

/-- What a reader should find in a module. -/
def kernelModule (m : ModuleDraft) : KernelModule := ⟨m.version, m.kernels.map KernelDraft.entry⟩

end ModuleDraft

/-- A version is read back from its word. -/
theorem Version.ofWord_word (v : Version) : Version.ofWord v.word = v := by
  obtain ⟨major, minor⟩ := v
  have majorBound := major.toNat_lt
  have minorBound := minor.toNat_lt
  have word : (UInt32.ofNat (0x10000 * major.toNat + 0x100 * minor.toNat)).toNat =
      0x10000 * major.toNat + 0x100 * minor.toNat := by
    rw [UInt32.toNat_ofNat']
    omega
  simp only [Version.ofWord, Version.word, word, Version.mk.injEq]
  constructor <;> apply UInt8.toNat_inj.1 <;> rw [UInt8.toNat_ofNat'] <;> omega

/-- The bytes of a text are whole words. -/
theorem length_textBytes (s : String) : (textBytes s).length % 4 = 0 := by
  simp only [textBytes, List.length_append, List.length_replicate]
  omega

end ComputeHandles.Spirv
