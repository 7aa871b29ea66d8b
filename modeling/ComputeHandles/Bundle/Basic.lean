import ComputeHandles.Bundle.Error
import ComputeHandles.Queue.Basic

/-!
# Kernel bundles

A bundle is compiled code with named kernels. The host compiles none: every build for
it is refused, though a binary is inspected first, so that a broken one is told from
one that only has no device.
-/

namespace ComputeHandles

open Text Spirv

/-- A kernel bundle. -/
structure KernelBundle where
  /-- The context it was built in. -/
  context : Context
  /-- The device it was built for. -/
  device : Device
  /-- The names of its kernels, in order. -/
  kernelNames : List String
  deriving DecidableEq, Repr

/-- A kernel of a bundle. -/
structure Kernel where
  /-- The bundle it belongs to. -/
  bundle : KernelBundle
  /-- Its name. -/
  name : String
  /-- The number of its arguments. -/
  arguments : UInt32
  deriving DecidableEq, Repr

/-- Builds a bundle from source. -/
def KernelBundle.ofSource (_ : Context) (device : Device) (source options : String) :
    Attempt BuildFault KernelBundle := do
  Attempt.note (s!"building {source.utf8ByteSize} bytes of source for {device.outline} with "
    ++ quote options)
  match device with
  | .host => Attempt.fail (.reported (.kernelsUnsupported .host))

/-- Builds a bundle from a SPIR-V binary. -/
def KernelBundle.ofSpirv (_ : Context) (device : Device) (binary : List UInt8)
    (options : String) : Attempt BuildFault KernelBundle := do
  let kernelModule ← Attempt.ofExceptWith BuildFault.ofInspection (KernelModule.parse binary)
  Attempt.note (s!"building {kernelModule.outline} for {device.outline} with " ++ quote options)
  let info := device.info
  if info.kind.backend.acceptsSpirv && info.acceptsSpirv then
    match device with
    | .host => Attempt.fail (.reported (.kernelsUnsupported .host))
  else Attempt.fail (.reported (.spirvUnsupported info.kind.backend info.name))

/-- The bundle has a kernel with exactly this name. -/
def KernelBundle.has (b : KernelBundle) (name : String) : Bool := b.kernelNames.contains name

/-- Why a kernel was not made. -/
inductive KernelFault where
  /-- The bundle lacks it. -/
  | notFound (error : KernelNotFound)
  /-- The bundle was not built by a runtime, so nothing can make it. -/
  | noRuntime
  deriving DecidableEq, Repr

/-- What is said when a kernel is asked of a bundle that no runtime built. -/
def noRuntimeMessage : String :=
  "internal error: entered unreachable code: bundles are only built by a device backend"

/-- Makes a kernel of a bundle. -/
def KernelBundle.kernel (b : KernelBundle) (name : String) : Except KernelFault Kernel :=
  if b.has name then .error .noRuntime else .error (.notFound ⟨name, b.kernelNames⟩)

/-- The outline of a bundle. -/
def KernelBundle.outline (b : KernelBundle) : String :=
  recordOutline "KernelBundle"
    [("device", b.device.outline), ("kernels", listOutline (b.kernelNames.map quote))]

/-- The outline of a kernel. -/
def Kernel.outline (k : Kernel) : String :=
  tupleOutline "Kernel" [quote k.name, toString k.arguments.toNat]

/-- No device has its source built. -/
theorem KernelBundle.result_ofSource (context : Context) (device : Device)
    (source options : String) :
    (KernelBundle.ofSource context device source options).result =
      .error (.reported (.kernelsUnsupported .host)) := by
  cases device
  rfl

/-- A binary is inspected, and no device takes one that is a module. -/
theorem KernelBundle.result_ofSpirv (context : Context) (device : Device) (binary : List UInt8)
    (options : String) :
    (KernelBundle.ofSpirv context device binary options).result =
      match KernelModule.parse binary with
      | .ok _ => .error (.reported (.spirvUnsupported .host "SYCL host device"))
      | .error fault => .error (.ofInspection fault) := by
  cases device
  rw [KernelBundle.ofSpirv, Attempt.result_bind]
  cases KernelModule.parse binary with
  | ok m => rfl
  | error fault => rfl

/-- A bundle has exactly the kernels it names. -/
theorem KernelBundle.has_iff (b : KernelBundle) (name : String) :
    b.has name = true ↔ name ∈ b.kernelNames := by
  simp [KernelBundle.has]

end ComputeHandles
