/-!
# Tables of code point ranges

A property of characters is held as a list of closed ranges in ascending order.
Lookup stops at the first range that starts above the code point, so the common
characters at the front of a table cost a comparison or two.
-/

namespace ComputeHandles.Text

/-- Closed ranges of code points, each below the next. -/
abbrev RangeTable := List (Nat × Nat)

/-- A code point is in an ascending table when one of the ranges holds it. -/
def RangeTable.covers : RangeTable → Nat → Bool
  | [], _ => false
  | (low, high) :: rest, n =>
    if n < low then false else if n ≤ high then true else RangeTable.covers rest n

/-- A covered code point lies in one of the ranges. -/
theorem RangeTable.exists_of_covers {table : RangeTable} {n : Nat}
    (h : table.covers n = true) : ∃ range ∈ table, range.1 ≤ n ∧ n ≤ range.2 := by
  induction table with
  | nil => simp [RangeTable.covers] at h
  | cons range rest ih =>
    obtain ⟨low, high⟩ := range
    simp only [RangeTable.covers] at h
    split at h
    · simp at h
    · split at h
      · exact ⟨(low, high), by simp, by omega, by omega⟩
      · obtain ⟨range, mem, bounds⟩ := ih h
        exact ⟨range, by simp [mem], bounds⟩

end ComputeHandles.Text
