import ComputeHandles.Selector.Select
import ComputeHandles.Text.Utf8

/-!
# Enumerating devices

The environment may hold a filter string that restricts which devices are listed. A
value that is not text counts as absent; a value that is text but no filter string
is ignored with a warning. A process lists its devices when it is first asked for them,
and only then are the records of listing them written.
-/

namespace ComputeHandles

open Text

/-- The devices that are listed, with the records written while listing them. -/
structure Enumeration where
  /-- The devices in order. -/
  devices : List Device
  /-- The records, oldest first. -/
  log : List Record

/-- The name of the environment variable that holds the filter string. -/
def deviceFilterVariable : String := "SYCL_DEVICE_FILTER"

/-- The devices that are there before any restriction. -/
def Device.found : List Device := [.host]

/-- The text of an environment value, if it has one. -/
def environmentText? (value : Option (List UInt8)) : Option String :=
  value.bind fun bytes => ((utf8Decode bytes).map String.ofList).toOption

/-- The found devices under a filter string, with a warning if it is none. -/
def Enumeration.restricted (text : Option String) : Enumeration :=
  match text with
  | none => ⟨Device.found, []⟩
  | some input =>
    match Selector.parse input with
    | .ok selector => ⟨selector.retain Device.found, []⟩
    | .error e => ⟨Device.found, [⟨.warn, s!"Ignoring {deviceFilterVariable}: {e.message}"⟩]⟩

/-- Lists the devices under the environment value and records them. -/
def Device.enumerate (value : Option (List UInt8)) : Enumeration :=
  let listed := Enumeration.restricted (environmentText? value)
  ⟨listed.devices,
    listed.log ++ [⟨.debug, s!"devices: {listOutline (listed.devices.map Device.outline)}"⟩]⟩

/-- The devices of a process, which are listed when they are first asked for. -/
structure Inventory where
  /-- The environment value under which they are listed. -/
  environment : Option (List UInt8)
  /-- They were listed before. -/
  listed : Bool
  deriving DecidableEq, Repr

namespace Inventory

/-- Nothing restricts the devices, and they were listed before. -/
def unrestricted : Inventory := ⟨none, true⟩

/-- The devices that are listed. -/
def devices (i : Inventory) : List Device := (Device.enumerate i.environment).devices

/-- The records that asking for the devices writes: those of listing them, the first time. -/
def due (i : Inventory) : List Record :=
  if i.listed then [] else (Device.enumerate i.environment).log

/-- Asks for the devices. -/
def ask {ε : Type} (i : Inventory) : Attempt ε (List Device) := ⟨i.due, true, .ok i.devices⟩

/-- The inventory after an operation that asked for the devices or did not. -/
def after (i : Inventory) (asked : Bool) : Inventory := { i with listed := i.listed || asked }

/-- Selects the best device. -/
def select (i : Inventory) (s : Selector) : Attempt DeviceNotFound Device := do
  let devices ← i.ask
  s.selectFrom devices

/-- The score of a device; one that is not listed is rejected. -/
def score {ε : Type} (i : Inventory) (s : Selector) (device : Device) : Attempt ε Int := do
  let devices ← i.ask
  return s.scoreAmong devices device

end Inventory

/-- Selects the best device where nothing restricts them. -/
def Selector.select (s : Selector) : Attempt DeviceNotFound Device :=
  Inventory.unrestricted.select s

/-- The score of a device where nothing restricts them. -/
def Selector.score (s : Selector) (device : Device) : Int :=
  s.scoreAmong Inventory.unrestricted.devices device

end ComputeHandles
