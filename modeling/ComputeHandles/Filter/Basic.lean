import ComputeHandles.Device.Kind
import ComputeHandles.Text.Outline

/-!
# Filters

A filter restricts the backend, the device type and the position of a device. Each
restriction may be absent. The position counts only the devices that the other two
restrictions let through, so a filter with a position accepts at most one device.
-/

namespace ComputeHandles

open Text

/-- One entry of a filter string. -/
structure Filter where
  /-- The backend asked for. -/
  backend : Option Backend
  /-- The device type asked for. -/
  deviceType : Option DeviceType
  /-- The position asked for among the devices of that kind. -/
  index : Option UInt64
  deriving DecidableEq, Repr

/-- The filter without restrictions. -/
def Filter.any : Filter := ⟨none, none, none⟩

/-- The backend and the device type of a kind are those asked for. -/
def Filter.fits (f : Filter) (k : DeviceKind) : Bool :=
  f.backend.all (· == k.backend) && f.deviceType.all (· == k.deviceType)

/-- The position asked for is that of a device with `before` fitting ones ahead. -/
def Filter.counts (f : Filter) (before : Nat) : Bool := f.index.all fun i => i.toNat == before

/-- Which devices are accepted, where `before` fitting ones were listed earlier. -/
def Filter.acceptsFrom (f : Filter) (before : Nat) : List DeviceKind → List Bool
  | [] => []
  | k :: rest =>
    if f.fits k then f.counts before :: f.acceptsFrom (before + 1) rest
    else false :: f.acceptsFrom before rest

/-- Which of the listed devices a filter accepts. -/
def Filter.accepts (f : Filter) (kinds : List DeviceKind) : List Bool := f.acceptsFrom 0 kinds

/-- The outline of a filter. -/
def Filter.outline (f : Filter) : String :=
  recordOutline "Filter"
    [("backend", optionOutline (f.backend.map (·.outline))),
      ("device_type", optionOutline (f.deviceType.map (·.outline))),
      ("index", optionOutline (f.index.map fun i => toString i.toNat))]

/-- A filter answers for each listed device. -/
theorem Filter.length_acceptsFrom (f : Filter) (before : Nat) (kinds : List DeviceKind) :
    (f.acceptsFrom before kinds).length = kinds.length := by
  induction kinds generalizing before with
  | nil => rfl
  | cons k rest ih => simp only [Filter.acceptsFrom]; split <;> simp [ih]

end ComputeHandles
