import ComputeHandles.Selector.Basic

/-!
# Scores

A selector scores every device of a list, and a negative score rejects. The best
device is the first one whose score is not negative and that no other score exceeds.
-/

namespace ComputeHandles

/-- The score of a rejected device. -/
def rejected : Int := -1

/-- The score of a device that was asked for. -/
def matched : Int := 1000

/-- The score of a device that was asked for or was not. -/
def scoreOf (accepted : Bool) : Int := if accepted then matched else rejected

/-- How much a type is preferred when nothing else is asked for. -/
def DeviceType.preference : DeviceType → Int
  | .gpu => 500
  | .accelerator => 400
  | .cpu => 300
  | .host => 100

/-- Which of the listed devices some filter accepts. -/
def acceptedBySome (filters : List Filter) (kinds : List DeviceKind) : List Bool :=
  filters.foldl (fun sofar f => sofar.zipWith (· || ·) (f.accepts kinds)) (kinds.map fun _ => false)

/-- The score of each listed device. -/
def Selector.scores (s : Selector) (kinds : List DeviceKind) : List Int :=
  match s with
  | .preferred => kinds.map (·.deviceType.preference)
  | .ofType type => kinds.map fun k => scoreOf (k.deviceType == type)
  | .filtered filters => (acceptedBySome filters kinds).map scoreOf

/-- The leading candidate after one more score; a tie goes to the earlier one. -/
def betterOf (leader : Option (Int × Nat)) (candidate : Int × Nat) : Option (Int × Nat) :=
  if candidate.1 < 0 then leader
  else
    match leader with
    | none => some candidate
    | some held => if held.1 < candidate.1 then some candidate else some held

/-- The position of the best score, if one is not negative. -/
def best (scores : List Int) : Option Nat := (scores.zipIdx.foldl betterOf none).map (·.2)

/-- A device that was asked for is not rejected, and any other is. -/
theorem scoreOf_nonneg_iff {accepted : Bool} : 0 ≤ scoreOf accepted ↔ accepted = true := by
  cases accepted <;> decide

/-- No type is rejected by preference. -/
theorem DeviceType.preference_nonneg (t : DeviceType) : 0 ≤ t.preference := by
  cases t <;> decide

end ComputeHandles
