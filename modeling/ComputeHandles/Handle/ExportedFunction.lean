import ComputeHandles.Handle.Slots

/-!
# The exported functions

Each exported function that can fail is listed with its arguments and with what it
returns. A handle argument is a slot or null, a text argument is bytes or null. The
failure value of a function depends only on what it returns: the null handle, no text,
minus one or false.
-/

namespace ComputeHandles

open Text

/-- A handle argument: a slot, or none for null. -/
abbrev HandleArgument := Option String

/-- A text argument: the bytes before its added terminator, or none for null. -/
abbrev TextArgument := Option (List UInt8)

/-- What a function returns. -/
inductive ResultSort where
  /-- A handle of a kind. -/
  | handle (kind : HandleKind)
  /-- A text. -/
  | text
  /-- A number that is not negative unless the function fails. -/
  | number
  /-- A truth value. -/
  | flag
  deriving DecidableEq, Repr

/-- The values that stand for a result. -/
abbrev ResultSort.Value : ResultSort → Type
  | .handle kind => kind.Target
  | .text => CText
  | .number => Int
  | .flag => Bool

/-- The exported functions that can fail, with their arguments. -/
inductive ExportedFunction : ResultSort → Type where
  /-- A selector from a filter string. -/
  | createFilterSelector (filter : TextArgument) : ExportedFunction (.handle .selector)
  /-- The score of a device. -/
  | scoreDevice (selector device : HandleArgument) : ExportedFunction .number
  /-- The listed device with the best score. -/
  | createDevice (selector : HandleArgument) : ExportedFunction (.handle .device)
  /-- A second handle to a device. -/
  | copyDevice (device : HandleArgument) : ExportedFunction (.handle .device)
  /-- The name of a device. -/
  | deviceName (device : HandleArgument) : ExportedFunction .text
  /-- The vendor of a device. -/
  | deviceVendor (device : HandleArgument) : ExportedFunction .text
  /-- The backend of a device. -/
  | deviceBackend (device : HandleArgument) : ExportedFunction .number
  /-- The type of a device. -/
  | deviceType (device : HandleArgument) : ExportedFunction .number
  /-- Whether a device is the host. -/
  | deviceIsHost (device : HandleArgument) : ExportedFunction .flag
  /-- Whether two handles stand for one device. -/
  | devicesEqual (a b : HandleArgument) : ExportedFunction .flag
  /-- A new context. -/
  | createContext (device : HandleArgument) : ExportedFunction (.handle .context)
  /-- A second handle to a context. -/
  | copyContext (context : HandleArgument) : ExportedFunction (.handle .context)
  /-- The device of a context. -/
  | contextDevice (context : HandleArgument) : ExportedFunction (.handle .device)
  /-- The number of devices of a context. -/
  | contextDeviceCount (context : HandleArgument) : ExportedFunction .number
  /-- Whether two handles stand for one context. -/
  | contextsEqual (a b : HandleArgument) : ExportedFunction .flag
  /-- A new queue in a new context. -/
  | createQueueForDevice (device : HandleArgument) (hasHandler : Bool) (properties : UInt32) :
    ExportedFunction (.handle .queue)
  /-- A new queue in a context. -/
  | createQueue (context device : HandleArgument) (hasHandler : Bool) (properties : UInt32) :
    ExportedFunction (.handle .queue)
  /-- The context of a queue. -/
  | queueContext (queue : HandleArgument) : ExportedFunction (.handle .context)
  /-- The device of a queue. -/
  | queueDevice (queue : HandleArgument) : ExportedFunction (.handle .device)
  /-- Whether a queue runs its work in order. -/
  | queueInOrder (queue : HandleArgument) : ExportedFunction .flag
  /-- Whether a queue is profiled. -/
  | queueProfiling (queue : HandleArgument) : ExportedFunction .flag
  /-- Waits for the work of a queue. -/
  | waitForQueue (queue : HandleArgument) : ExportedFunction .flag
  /-- Whether two handles stand for one queue. -/
  | queuesEqual (a b : HandleArgument) : ExportedFunction .flag
  /-- A bundle built from source. -/
  | buildSource (context device : HandleArgument) (source options : TextArgument) :
    ExportedFunction (.handle .bundle)
  /-- A bundle built from a SPIR-V binary. -/
  | buildSpirv (context device : HandleArgument) (binary : Option (List UInt8))
    (options : TextArgument) : ExportedFunction (.handle .bundle)
  /-- Whether a bundle has a kernel. -/
  | bundleHasKernel (bundle : HandleArgument) (name : TextArgument) : ExportedFunction .flag
  /-- A kernel of a bundle. -/
  | bundleKernel (bundle : HandleArgument) (name : TextArgument) :
    ExportedFunction (.handle .kernel)
  /-- The number of kernels of a bundle. -/
  | bundleKernelCount (bundle : HandleArgument) : ExportedFunction .number
  /-- The name of a kernel of a bundle by its position. -/
  | bundleKernelName (bundle : HandleArgument) (index : UInt64) : ExportedFunction .text
  /-- The number of arguments of a kernel. -/
  | kernelArgumentCount (kernel : HandleArgument) : ExportedFunction .number
  /-- The name of a kernel. -/
  | kernelName (kernel : HandleArgument) : ExportedFunction .text
  /-- A second handle to a kernel. -/
  | copyKernel (kernel : HandleArgument) : ExportedFunction (.handle .kernel)
  deriving DecidableEq, Repr

/-- The name that a function is exported under. -/
def ExportedFunction.name {sort : ResultSort} : ExportedFunction sort → String
  | .createFilterSelector _ => "SyclFilterSelector_Create"
  | .scoreDevice _ _ => "SyclDeviceSelector_Score"
  | .createDevice _ => "SyclDevice_CreateFromSelector"
  | .copyDevice _ => "SyclDevice_Copy"
  | .deviceName _ => "SyclDevice_GetName"
  | .deviceVendor _ => "SyclDevice_GetVendor"
  | .deviceBackend _ => "SyclDevice_GetBackend"
  | .deviceType _ => "SyclDevice_GetDeviceType"
  | .deviceIsHost _ => "SyclDevice_IsHost"
  | .devicesEqual _ _ => "SyclDevice_AreEq"
  | .createContext _ => "SyclContext_Create"
  | .copyContext _ => "SyclContext_Copy"
  | .contextDevice _ => "SyclContext_GetDevice"
  | .contextDeviceCount _ => "SyclContext_GetDeviceCount"
  | .contextsEqual _ _ => "SyclContext_AreEq"
  | .createQueueForDevice _ _ _ => "SyclQueue_CreateForDevice"
  | .createQueue _ _ _ _ => "SyclQueue_Create"
  | .queueContext _ => "SyclQueue_GetContext"
  | .queueDevice _ => "SyclQueue_GetDevice"
  | .queueInOrder _ => "SyclQueue_IsInOrder"
  | .queueProfiling _ => "SyclQueue_HasEnableProfiling"
  | .waitForQueue _ => "SyclQueue_Wait"
  | .queuesEqual _ _ => "SyclQueue_AreEq"
  | .buildSource _ _ _ _ => "SyclKernelBundle_CreateFromOCLSource"
  | .buildSpirv _ _ _ _ => "SyclKernelBundle_CreateFromSpirv"
  | .bundleHasKernel _ _ => "SyclKernelBundle_HasKernel"
  | .bundleKernel _ _ => "SyclKernelBundle_GetKernel"
  | .bundleKernelCount _ => "SyclKernelBundle_GetNumKernels"
  | .bundleKernelName _ _ => "SyclKernelBundle_GetKernelName"
  | .kernelArgumentCount _ => "SyclKernel_GetNumArgs"
  | .kernelName _ => "SyclKernel_GetFunctionName"
  | .copyKernel _ => "SyclKernel_Copy"

end ComputeHandles
