import ComputeHandles.Bundle.Basic
import ComputeHandles.Handle.Boundary
import ComputeHandles.Selector.Basic

/-!
# Handles in slots

A handle stands for an object of its kind. Callers keep handles in named slots, of
which every kind has its own, and an empty slot holds the null handle. Writing to a
slot touches no other one.
-/

namespace ComputeHandles

open Text

/-- The kinds of handles. -/
inductive HandleKind where
  /-- A device selector. -/
  | selector
  /-- A device. -/
  | device
  /-- A context. -/
  | context
  /-- A queue. -/
  | queue
  /-- A kernel bundle. -/
  | bundle
  /-- A kernel. -/
  | kernel
  deriving DecidableEq, Repr

/-- The objects that handles of a kind stand for. -/
abbrev HandleKind.Target : HandleKind → Type
  | .selector => Selector
  | .device => Device
  | .context => Context
  | .queue => Queue
  | .bundle => KernelBundle
  | .kernel => Kernel

/-- What the slots of every kind hold. -/
structure Slots where
  /-- The object in a slot, or none for the null handle. -/
  get : (kind : HandleKind) → String → Option kind.Target

namespace Slots

/-- All slots are empty. -/
def empty : Slots := ⟨fun _ _ => none⟩

/-- The slots with one of them written to. -/
def put (slots : Slots) (kind : HandleKind) (name : String) (target : Option kind.Target) :
    Slots where
  get kind' name' :=
    if h : kind = kind' then
      if name' = name then h ▸ target else slots.get kind' name'
    else slots.get kind' name'

/-- The object that a handle argument stands for; the null handle stands for none. -/
def find (slots : Slots) (kind : HandleKind) (slot : Option String) : Option kind.Target :=
  slot.bind (slots.get kind)

/-- The slots with one of them emptied; there is nothing to empty at the null handle. -/
def erase (slots : Slots) (kind : HandleKind) : Option String → Slots
  | none => slots
  | some name => slots.put kind name none

/-- The object of an argument that must not be null. -/
def require (slots : Slots) (kind : HandleKind) (argument : String) (slot : Option String) :
    Except Fault kind.Target :=
  match slots.find kind slot with
  | some target => .ok target
  | none => .error (.nullArgument argument)

/-- A slot holds what was written to it last. -/
theorem get_put_self (slots : Slots) (kind : HandleKind) (name : String)
    (target : Option kind.Target) : (slots.put kind name target).get kind name = target := by
  simp [put]

/-- Writing to a slot leaves the other slots of its kind alone. -/
theorem get_put_of_ne_name {slots : Slots} {kind : HandleKind} {name other : String}
    {target : Option kind.Target} (h : other ≠ name) :
    (slots.put kind name target).get kind other = slots.get kind other := by
  simp [put, h]

/-- Writing to a slot leaves the slots of other kinds alone. -/
theorem get_put_of_ne_kind {slots : Slots} {kind otherKind : HandleKind} {name other : String}
    {target : Option kind.Target} (h : kind ≠ otherKind) :
    (slots.put kind name target).get otherKind other = slots.get otherKind other := by
  simp [put, h]

end Slots

end ComputeHandles
