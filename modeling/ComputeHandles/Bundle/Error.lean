import ComputeHandles.Device.Kind
import ComputeHandles.Spirv.KernelModule

/-!
# Errors of kernel bundles

A bundle is not built when the backend has no kernels, when the device takes no
SPIR-V, when the binary is invalid or when the compiler fails. A bundle that was built
may lack the kernel that is asked for.
-/

namespace ComputeHandles

open Text Spirv

/-- Why a bundle was not built. -/
inductive BuildError where
  /-- The backend has no kernels. -/
  | kernelsUnsupported (backend : Backend)
  /-- The device takes no SPIR-V. -/
  | spirvUnsupported (backend : Backend) (device : String)
  /-- The compiler failed. -/
  | failed (device log : String)
  /-- The binary is invalid. -/
  | invalidSpirv (error : InvalidSpirv)
  deriving DecidableEq, Repr

/-- The complaint about a build. -/
def BuildError.message : BuildError → String
  | .kernelsUnsupported backend => s!"Kernels are not supported on the {backend.name} backend!"
  | .spirvUnsupported backend device =>
    s!"SPIR-V is not supported by {quote device} on the {backend.name} backend!"
  | .failed device log => s!"Failed to build kernel bundle for {quote device}:\n{log}"
  | .invalidSpirv error => error.message

/-- Why a build stopped. -/
inductive BuildFault where
  /-- The build is reported. -/
  | reported (error : BuildError)
  /-- The inspection of the binary broke off. -/
  | overrun (stop length : Nat)
  deriving DecidableEq, Repr

/-- A fault of inspection, as a fault of a build. -/
def BuildFault.ofInspection : InspectionFault → BuildFault
  | .invalid error => .reported (.invalidSpirv error)
  | .overrun stop length => .overrun stop length

/-- A bundle lacks a kernel. -/
structure KernelNotFound where
  /-- The name that was asked for. -/
  name : String
  /-- The kernels of the bundle. -/
  kernels : List String
  deriving DecidableEq, Repr

/-- The complaint about a kernel that is not there. -/
def KernelNotFound.message (e : KernelNotFound) : String :=
  s!"Kernel {quote e.name} not found in bundle with kernels {listOutline (e.kernels.map quote)}!"

end ComputeHandles
