import ComputeHandles.Attempt
import ComputeHandles.Device.Basic
import ComputeHandles.Selector.Score

/-!
# Selecting and retaining devices

Selecting takes the best device of a list, retaining keeps every device that is not
rejected, both in the order of the list.
-/

namespace ComputeHandles

open Text

/-- Every device was rejected. -/
structure DeviceNotFound where
  /-- The text of the selector. -/
  selector : String
  deriving DecidableEq, Repr

/-- The complaint about a selector that rejects every device. -/
def DeviceNotFound.message (e : DeviceNotFound) : String :=
  s!"No device found for selector {e.selector}!"

/-- The score of each device. -/
def Selector.scoreAll (s : Selector) (devices : List Device) : List Int :=
  s.scores (devices.map Device.kind)

/-- The best device of a list. -/
def Selector.bestOf (s : Selector) (devices : List Device) : Option Device :=
  (best (s.scoreAll devices)).bind fun i => devices[i]?

/-- Selects the best device of a list and records which one it is. -/
def Selector.selectFrom (s : Selector) (devices : List Device) : Attempt DeviceNotFound Device := do
  let selected := s.bestOf devices
  Attempt.note s!"selector {s.text} selected {optionOutline (selected.map Device.outline)}"
  match selected with
  | some device => return device
  | none => Attempt.fail ⟨s.text⟩

/-- The devices of a list that are not rejected. -/
def Selector.retain (s : Selector) (devices : List Device) : List Device :=
  (devices.zip (s.scoreAll devices)).filterMap fun (device, score) =>
    if 0 ≤ score then some device else none

/-- The score of a device among those of a list; a device that is not there is rejected. -/
def Selector.scoreAmong (s : Selector) (devices : List Device) (device : Device) : Int :=
  ((devices.zip (s.scoreAll devices)).lookup device).getD rejected

end ComputeHandles
