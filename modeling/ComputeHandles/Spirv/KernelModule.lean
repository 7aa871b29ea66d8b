import ComputeHandles.Spirv.Program
import ComputeHandles.Text.Outline

/-!
# Kernel modules

A kernel module is a program reduced to its kernels: the entry points that serve as
kernels, each with the number of parameters of its function. A binary must be there,
be whole words, start with the magic number, load, and have a kernel.
-/

namespace ComputeHandles.Spirv

open Text

/-- The word that every binary starts with. -/
def magicNumber : UInt32 := 0x07230203

/-- A kernel entry point. -/
structure KernelEntry where
  /-- Its name. -/
  name : String
  /-- The number of parameters of its function. -/
  arguments : Nat
  deriving DecidableEq, Repr

/-- A program reduced to its kernels. -/
structure KernelModule where
  /-- The version. -/
  version : Version
  /-- The kernels, in order. -/
  kernels : List KernelEntry
  deriving DecidableEq, Repr

/-- Why a binary is not a kernel module. -/
inductive InvalidSpirv where
  /-- There are no bytes. -/
  | empty
  /-- The bytes are not whole words. -/
  | misaligned (length : Nat)
  /-- The first word is not the magic number. -/
  | magicNumber (found expected : UInt32)
  /-- The words are no program, or a kernel has no function. -/
  | unreadable (reason : String)
  /-- No entry point is a kernel. -/
  | noKernels
  deriving DecidableEq, Repr

/-- The complaint about a binary. -/
def InvalidSpirv.message : InvalidSpirv → String
  | .empty => "SPIR-V binary is empty!"
  | .misaligned length => s!"SPIR-V binary length {length} is not a multiple of 4!"
  | .magicNumber found expected =>
    s!"SPIR-V binary has magic number {hexText 8 found.toNat}, "
      ++ s!"expected {hexText 8 expected.toNat}!"
  | .unreadable reason => s!"Failed to parse SPIR-V: {reason}"
  | .noKernels => "SPIR-V module has no kernel entry points!"

/-- Why a binary was not inspected. -/
inductive InspectionFault where
  /-- The binary is reported. -/
  | invalid (error : InvalidSpirv)
  /-- A text operand claims bytes up to `stop` of a binary of `length` bytes. -/
  | overrun (stop length : Nat)
  deriving DecidableEq, Repr

/-- What is said about a binary that was not inspected. -/
def InspectionFault.message : InspectionFault → String
  | .invalid error => error.message
  | .overrun stop length => overrunMessage stop length

/-- A fault of loading, as a fault of inspection. -/
def LoadFault.toInspectionFault : LoadFault → InspectionFault
  | .reported error => .invalid (.unreadable error.message)
  | .overrun stop length => .overrun stop length

/-- The entry point is a kernel. -/
def EntryPoint.isKernel (e : EntryPoint) : Bool := e.model == kernelModel

/-- The kernel of an entry point: the first function with its id gives the arguments. -/
def EntryPoint.kernel (functions : List FunctionDef) (e : EntryPoint) :
    Except InvalidSpirv KernelEntry :=
  match functions.find? (·.id == e.function) with
  | some f => .ok ⟨e.name, f.parameters⟩
  | none =>
    .error (.unreadable s!"entry point {quote e.name} has no function %{e.function.toNat}")

/-- The kernels of a program, of which there must be one. -/
def Program.kernels (p : Program) : Except InvalidSpirv (List KernelEntry) := do
  let kernels ← (p.entryPoints.filter EntryPoint.isKernel).mapM (EntryPoint.kernel p.functions)
  if kernels = [] then throw .noKernels else return kernels

/-- The kernel module of a program. -/
def Program.kernelModule (p : Program) : Except InvalidSpirv KernelModule := do
  return ⟨p.version, ← p.kernels⟩

/-- Inspects the words of a binary. -/
def KernelModule.ofWords (words : List UInt32) : Except InspectionFault KernelModule :=
  let found := words.headD 0
  if found ≠ Spirv.magicNumber then .error (.invalid (.magicNumber found Spirv.magicNumber))
  else do
    let program ← (Program.load words).mapError LoadFault.toInspectionFault
    program.kernelModule.mapError .invalid

/-- Inspects a binary. -/
def KernelModule.parse (bytes : List UInt8) : Except InspectionFault KernelModule :=
  if bytes = [] then .error (.invalid .empty)
  else if bytes.length % 4 ≠ 0 then .error (.invalid (.misaligned bytes.length))
  else KernelModule.ofWords (wordsOfBytes bytes)

/-- The first kernel with a name. -/
def KernelModule.kernel? (m : KernelModule) (name : String) : Option KernelEntry :=
  m.kernels.find? (·.name == name)

/-- The outline of a kernel entry point. -/
def KernelEntry.outline (k : KernelEntry) : String := s!"{quote k.name}({k.arguments})"

/-- The outline of a kernel module. -/
def KernelModule.outline (m : KernelModule) : String :=
  s!"SpirvModule({m.version.major.toNat}.{m.version.minor.toNat}, "
    ++ listOutline (m.kernels.map KernelEntry.outline) ++ ")"

/-- A program without kernels is refused, whatever else it holds. -/
theorem Program.kernels_of_noKernel {p : Program}
    (h : p.entryPoints.filter EntryPoint.isKernel = []) : p.kernels = .error .noKernels := by
  simp [Program.kernels, h]
  rfl

end ComputeHandles.Spirv
