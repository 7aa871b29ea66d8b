import ComputeHandles.Attempt
import ComputeHandles.Device.Basic
import ComputeHandles.Queue.Properties

/-!
# Contexts and queues

A context binds a device, a queue orders work for a device within a context. Copies of
a context or queue are the same one: what makes it itself is the ticket under which it
was created, and no two creations have a ticket in common.
-/

namespace ComputeHandles

open Text

/-- A context. -/
structure Context where
  /-- The device it binds. -/
  device : Device
  /-- The ticket of its creation. -/
  ticket : Nat
  deriving DecidableEq, Repr

/-- Both come from one creation. -/
def Context.same (a b : Context) : Bool := a.ticket == b.ticket

/-- The number of devices of a context. -/
def Context.deviceCount (_ : Context) : Nat := 1

/-- The device is one of those of the context. -/
def Context.contains (c : Context) (d : Device) : Bool := c.device == d

/-- Creates a context under a ticket. -/
def Context.create {ε : Type} (ticket : Nat) (device : Device) : Attempt ε Context := do
  Attempt.note s!"created context for {device.outline}"
  return ⟨device, ticket⟩

/-- The outline of a context, with its address as the caller writes it. -/
def Context.outline (address : String) (c : Context) : String :=
  s!"Context({c.device.outline}@{address})"

/-- A queue. -/
structure Queue where
  /-- The context it works in. -/
  context : Context
  /-- The device it works on. -/
  device : Device
  /-- Its properties. -/
  properties : QueueProperties
  /-- Someone is told of errors that turn up while waiting. -/
  hasHandler : Bool
  /-- The ticket of its creation. -/
  ticket : Nat
  deriving DecidableEq, Repr

/-- Both come from one creation. -/
def Queue.same (a b : Queue) : Bool := a.ticket == b.ticket

/-- Creates a queue in a context under a ticket. -/
def Queue.create {ε : Type} (ticket : Nat) (context : Context) (device : Device)
    (hasHandler : Bool) (properties : QueueProperties) : Attempt ε Queue := do
  Attempt.note s!"created queue for {device.outline} with {properties.outline}"
  return ⟨context, device, properties, hasHandler, ticket⟩

/-- Creates a queue in a context of its own under a ticket. -/
def Queue.forDevice {ε : Type} (ticket : Nat) (device : Device) (hasHandler : Bool)
    (properties : QueueProperties) : Attempt ε Queue := do
  let context ← Context.create ticket device
  Queue.create ticket context device hasHandler properties

/-- An error that turned up while waiting. -/
structure AsyncError where
  /-- The number of the error. -/
  code : Int
  /-- What happened. -/
  text : String
  deriving DecidableEq, Repr

/-- The error in words. -/
def AsyncError.message (e : AsyncError) : String := s!"Asynchronous error {e.code}: {e.text}"

/-- Waits for the work of a queue. Work of the host is done when it is submitted. -/
def Queue.wait (q : Queue) : Except AsyncError Unit :=
  match q.device with
  | .host => .ok ()

/-- The outline of a queue, with addresses as the caller writes them. -/
def Queue.outline (address : String) (q : Queue) : String :=
  recordOutline "Queue"
    [("context", q.context.outline address), ("properties", q.properties.outline),
      ("handler", boolOutline q.hasHandler)]

/-- A created context has the ticket it was created under. -/
theorem Context.result_create {ε : Type} (ticket : Nat) (device : Device) :
    (Context.create ticket device : Attempt ε Context).result = .ok ⟨device, ticket⟩ := rfl

/-- A created queue works in the given context. -/
theorem Queue.result_create {ε : Type} (ticket : Nat) (context : Context) (device : Device)
    (hasHandler : Bool) (properties : QueueProperties) :
    (Queue.create ticket context device hasHandler properties : Attempt ε Queue).result =
      .ok ⟨context, device, properties, hasHandler, ticket⟩ := rfl

/-- A queue for a device works in a context created under the same ticket. -/
theorem Queue.result_forDevice {ε : Type} (ticket : Nat) (device : Device) (hasHandler : Bool)
    (properties : QueueProperties) :
    (Queue.forDevice ticket device hasHandler properties : Attempt ε Queue).result =
      .ok ⟨⟨device, ticket⟩, device, properties, hasHandler, ticket⟩ := rfl

end ComputeHandles
