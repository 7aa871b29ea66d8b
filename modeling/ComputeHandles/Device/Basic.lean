import ComputeHandles.Device.Kind

/-!
# Devices

The host is the one device that is there without a runtime. It computes with the
addresses of the process itself and builds no kernels.
-/

namespace ComputeHandles

/-- A device. -/
inductive Device where
  /-- The host. -/
  | host
  deriving DecidableEq, Repr

/-- What a device reports about itself. -/
structure DeviceInfo where
  /-- Its name. -/
  name : String
  /-- The name of its vendor. -/
  vendor : String
  /-- Its backend and type. -/
  kind : DeviceKind
  /-- The width of its addresses in bits. -/
  addressBits : Nat
  /-- It builds kernel bundles from SPIR-V. -/
  acceptsSpirv : Bool
  deriving DecidableEq, Repr

/-- The report of a device. -/
def Device.info : Device → DeviceInfo
  | .host =>
    { name := "SYCL host device"
      vendor := ""
      kind := ⟨.host, .host⟩
      addressBits := 64
      acceptsSpirv := false }

/-- The backend and type of a device. -/
def Device.kind (d : Device) : DeviceKind := d.info.kind

/-- The device is the host. -/
def Device.isHost : Device → Bool
  | .host => true

/-- The outline of a device. -/
def Device.outline : Device → String
  | .host => "Device(host:host)"

/-- What is said when a device has no runtime to run it. -/
def deviceUnavailableMessage : String := "DeviceUnavailable"

/-- The device that is meant when none is named. -/
instance : Inhabited Device := ⟨.host⟩

end ComputeHandles
