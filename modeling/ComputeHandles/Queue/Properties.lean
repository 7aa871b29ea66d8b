import ComputeHandles.Text.Outline

/-!
# Queue properties

A queue may be profiled and may run its work in order. As a number the properties are
one bit each, and a number with any other bit is refused.
-/

namespace ComputeHandles

open Text

/-- The properties of a queue. -/
structure QueueProperties where
  /-- Work is profiled. -/
  profiling : Bool
  /-- Work runs in the order it was submitted in. -/
  inOrder : Bool
  deriving DecidableEq, Repr

namespace QueueProperties

/-- The bit of profiling. -/
def profilingBit : UInt32 := 2

/-- The bit of running in order. -/
def inOrderBit : UInt32 := 4

/-- Neither profiled nor in order. -/
def empty : QueueProperties := ⟨false, false⟩

instance : Inhabited QueueProperties := ⟨empty⟩

/-- The same properties with profiling as given. -/
def withProfiling (p : QueueProperties) (profiling : Bool) : QueueProperties := { p with profiling }

/-- The same properties with the order as given. -/
def withInOrder (p : QueueProperties) (inOrder : Bool) : QueueProperties := { p with inOrder }

/-- The properties as a number. -/
def bits (p : QueueProperties) : UInt32 :=
  (if p.profiling then profilingBit else 0) ||| (if p.inOrder then inOrderBit else 0)

/-- The outline of queue properties. -/
def outline (p : QueueProperties) : String :=
  recordOutline "QueueProperties"
    [("enable_profiling", boolOutline p.profiling), ("in_order", boolOutline p.inOrder)]

end QueueProperties

/-- A number with a bit that is no property. -/
structure InvalidQueueProperties where
  /-- The number. -/
  bits : UInt32
  deriving DecidableEq, Repr

/-- The complaint about a number that is no set of properties. -/
def InvalidQueueProperties.message (e : InvalidQueueProperties) : String :=
  s!"Invalid queue properties {hexText 0 e.bits.toNat}!"

/-- The properties of a number. -/
def QueueProperties.ofBits (bits : UInt32) : Except InvalidQueueProperties QueueProperties :=
  if bits &&& ~~~(profilingBit ||| inOrderBit) ≠ 0 then .error ⟨bits⟩
  else .ok ⟨bits &&& profilingBit ≠ 0, bits &&& inOrderBit ≠ 0⟩

/-- Properties are read back from their number. -/
theorem QueueProperties.ofBits_bits (p : QueueProperties) :
    QueueProperties.ofBits p.bits = .ok p := by
  obtain ⟨profiling, inOrder⟩ := p
  cases profiling <;> cases inOrder <;> rfl

end ComputeHandles
