import ComputeHandles.Filter.Syntax

/-!
# Selectors

A selector is a rule for choosing a device: by general preference, by device type
or by a list of filters. Only the last kind has a filter string.
-/

namespace ComputeHandles

open Text

/-- A rule for choosing a device. -/
inductive Selector where
  /-- Any device, by preference of its type. -/
  | preferred
  /-- Devices of one type. -/
  | ofType (type : DeviceType)
  /-- Devices that one of the filters accepts. -/
  | filtered (filters : List Filter)
  deriving DecidableEq, Repr

/-- Reads a selector from a filter string. -/
def Selector.parse (input : String) : Except FilterError Selector :=
  (Filter.parseAll input).map .filtered

/-- The filters of a selector that has them. -/
def Selector.filters? : Selector → Option (List Filter)
  | .filtered filters => some filters
  | .preferred | .ofType _ => none

/-- The text of a selector; for filters it is a filter string. -/
def Selector.text : Selector → String
  | .preferred => "default"
  | .ofType .cpu => "cpu"
  | .ofType .gpu => "gpu"
  | .ofType .accelerator => "accelerator"
  | .ofType .host => "host"
  | .filtered filters => String.ofList (Filter.writeAll filters)

/-- The outline of the rule of a selector. -/
def Selector.ruleOutline : Selector → String
  | .preferred => "Default"
  | .ofType type => type.outline
  | .filtered filters => tupleOutline "Filter" [listOutline (filters.map Filter.outline)]

/-- The outline of a selector. -/
def Selector.outline (s : Selector) : String :=
  recordOutline "DeviceSelector" [("kind", s.ruleOutline)]

/-- The text of the selector gives an equal selector when it is read. -/
def Selector.rereads (s : Selector) : Bool :=
  match Selector.parse s.text with
  | .ok again => again = s
  | .error _ => false

end ComputeHandles
