import ComputeHandles.Text.Blank
import ComputeHandles.Text.Quoted

/-!
# Kinds of devices

The kind of a device is the backend that runs it and the type of hardware it is.
Both have names, read without regard to surrounding blanks or to the case of ASCII
letters, and a number for callers that have no names.
-/

namespace ComputeHandles

open Text

/-- The runtime behind a device. -/
inductive Backend where
  /-- The host itself. -/
  | host
  /-- OpenCL. -/
  | openCl
  /-- Level Zero. -/
  | levelZero
  /-- CUDA. -/
  | cuda
  deriving DecidableEq, Repr

/-- What a device is. -/
inductive DeviceType where
  /-- The host. -/
  | host
  /-- A processor. -/
  | cpu
  /-- A graphics processor. -/
  | gpu
  /-- Any other accelerator. -/
  | accelerator
  deriving DecidableEq, Repr

/-- A backend and a device type: all that selection looks at. -/
structure DeviceKind where
  /-- The backend. -/
  backend : Backend
  /-- The device type. -/
  deviceType : DeviceType
  deriving DecidableEq, Repr

/-- The name of a backend. -/
def Backend.name : Backend → String
  | .host => "host"
  | .openCl => "opencl"
  | .levelZero => "level_zero"
  | .cuda => "cuda"

/-- The outline of a backend. -/
def Backend.outline : Backend → String
  | .host => "Host"
  | .openCl => "OpenCl"
  | .levelZero => "LevelZero"
  | .cuda => "Cuda"

/-- The number of a backend. -/
def Backend.code : Backend → Int
  | .host => 0
  | .openCl => 1
  | .levelZero => 2
  | .cuda => 3

/-- Backends that build kernel bundles from SPIR-V. -/
def Backend.acceptsSpirv : Backend → Bool
  | .openCl | .levelZero => true
  | .host | .cuda => false

/-- The spellings of backends, in lower case. -/
def Backend.spellings : List (List Char × Backend) :=
  [.host, .openCl, .levelZero, .cuda].map fun b => (b.name.toList, b)

/-- The backend with a name, in any case of its letters. -/
def Backend.ofName? (name : List Char) : Option Backend := spellings.lookup (lower name)

/-- The name of a device type. -/
def DeviceType.name : DeviceType → String
  | .host => "host"
  | .cpu => "cpu"
  | .gpu => "gpu"
  | .accelerator => "acc"

/-- The outline of a device type. -/
def DeviceType.outline : DeviceType → String
  | .host => "Host"
  | .cpu => "Cpu"
  | .gpu => "Gpu"
  | .accelerator => "Accelerator"

/-- The number of a device type. -/
def DeviceType.code : DeviceType → Int
  | .host => 0
  | .cpu => 1
  | .gpu => 2
  | .accelerator => 3

/-- The spellings of device types, in lower case. Accelerators have a long one too. -/
def DeviceType.spellings : List (List Char × DeviceType) :=
  ([.host, .cpu, .gpu, .accelerator].map fun t => (t.name.toList, t))
    ++ [("accelerator".toList, .accelerator)]

/-- The device type with a name, in any case of its letters. -/
def DeviceType.ofName? (name : List Char) : Option DeviceType := spellings.lookup (lower name)

/-- What an unknown name was expected to name. -/
inductive NameSort where
  /-- A backend. -/
  | backend
  /-- A device type. -/
  | deviceType
  deriving DecidableEq, Repr

/-- The sort of name in words. -/
def NameSort.name : NameSort → String
  | .backend => "backend"
  | .deviceType => "device type"

/-- A name that names nothing. -/
structure UnknownName where
  /-- What it was expected to name. -/
  sort : NameSort
  /-- The text as it was given, blanks included. -/
  input : String
  deriving DecidableEq, Repr

/-- The complaint about an unknown name. -/
def UnknownName.message (e : UnknownName) : String :=
  s!"Unknown {e.sort.name} {quote e.input}!"

/-- Reads a backend from a text of its own. -/
def Backend.parse (input : String) : Except UnknownName Backend :=
  match Backend.ofName? (trim input.toList) with
  | some b => .ok b
  | none => .error ⟨.backend, input⟩

/-- Reads a device type from a text of its own. -/
def DeviceType.parse (input : String) : Except UnknownName DeviceType :=
  match DeviceType.ofName? (trim input.toList) with
  | some t => .ok t
  | none => .error ⟨.deviceType, input⟩

end ComputeHandles
