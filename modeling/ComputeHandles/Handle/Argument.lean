import ComputeHandles.Device.Enumerate
import ComputeHandles.Handle.ExportedFunction

/-!
# Arguments and results of exported functions

Arguments are read before anything else happens, in the order they are declared in.
Reading one writes no record, so a bad argument is all that a failed reading tells.
-/

namespace ComputeHandles

open Text

/-- The text of an argument that must not be null. -/
def readText (argument : String) : TextArgument → Except Fault String
  | none => .error (.nullArgument argument)
  | some bytes =>
    match (CText.ofBytes bytes).toText with
    | .ok text => .ok text
    | .error e => .error (.ofMessage s!"Argument `{argument}` is not valid UTF-8: {e.message}")

/-- Build options; null is the same as no text. -/
def readOptions : TextArgument → Except Fault String
  | none => .ok ""
  | some bytes => readText "options" (some bytes)

/-- The bytes of a binary that must not be null. -/
def readBinary (argument : String) : Option (List UInt8) → Except Fault (List UInt8)
  | none => .error (.nullArgument argument)
  | some bytes => .ok bytes

/-- The properties of a number. -/
def readProperties (bits : UInt32) : Except Fault QueueProperties :=
  (QueueProperties.ofBits bits).mapError fun e => .ofMessage e.message

/-- A text as it is handed out. -/
def writeText (text : String) : Except Fault CText :=
  (CText.ofText text).mapError fun position => .ofMessage (nulFoundMessage position)

/-- A filter string that is none, as a fault. -/
def Fault.ofFilter (e : FilterError) : Fault := .ofMessage e.message

/-- A selector without a device, as a fault. -/
def Fault.ofNotFound (e : DeviceNotFound) : Fault := .ofMessage e.message

/-- An error of a queue, as a fault. -/
def Fault.ofAsync (e : AsyncError) : Fault := .ofMessage e.message

/-- A build that stopped, as a fault. -/
def Fault.ofBuild : BuildFault → Fault
  | .reported e => .ofMessage e.message
  | .overrun stop length => .abort (.formatted (Spirv.overrunMessage stop length))

/-- A kernel that was not made, as a fault. -/
def Fault.ofKernel : KernelFault → Fault
  | .notFound e => .ofMessage e.message
  | .noRuntime => .abort (.fixed noRuntimeMessage)

/-- A position at which there is no kernel, as a fault. -/
def Fault.ofIndex (index : UInt64) (count : Nat) : Fault :=
  .ofMessage s!"Kernel index {index.toNat} out of range for {count} kernels!"

end ComputeHandles
