import ComputeHandles.Text.Range

/-!
# Blank characters and trimming

A character is blank when it has the White_Space property. Format characters such
as the zero width space are not blank, and neither are the information separators
below the space.
-/

namespace ComputeHandles.Text

/-- The code points of White_Space. -/
def blankRanges : RangeTable :=
  [(0x9, 0xd), (0x20, 0x20), (0x85, 0x85), (0xa0, 0xa0), (0x1680, 0x1680), (0x2000, 0x200a),
    (0x2028, 0x2029), (0x202f, 0x202f), (0x205f, 0x205f), (0x3000, 0x3000)]

/-- A character of White_Space. -/
def isBlank (c : Char) : Bool := blankRanges.covers c.toNat

/-- The text without the blanks it starts with. -/
def trimStart (cs : List Char) : List Char := cs.dropWhile isBlank

/-- The text without the blanks it ends with. -/
def trimEnd (cs : List Char) : List Char := (cs.reverse.dropWhile isBlank).reverse

/-- The text without the blanks at its two ends. -/
def trim (cs : List Char) : List Char := trimEnd (trimStart cs)

/-- Letters A to Z in lower case, every other character as it is. -/
def lower (cs : List Char) : List Char := cs.map Char.toLower

/-- Nothing is left of no text. -/
theorem trim_nil : trim [] = [] := rfl

end ComputeHandles.Text
