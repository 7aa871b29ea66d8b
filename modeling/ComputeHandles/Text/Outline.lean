import ComputeHandles.Text.Quoted

/-!
# Outlines of values

Log records and reports show values by an outline: a list between brackets, an
optional value as `None` or `Some`, a constructor with its arguments between
parentheses and a record with its named fields between braces.
-/

namespace ComputeHandles.Text

/-- A truth value in words. -/
def boolOutline (b : Bool) : String := if b then "true" else "false"

/-- Items between brackets, separated by a comma and a space. -/
def listOutline (items : List String) : String := "[" ++ ", ".intercalate items ++ "]"

/-- An optional item. -/
def optionOutline : Option String → String
  | none => "None"
  | some item => "Some(" ++ item ++ ")"

/-- A constructor before its arguments. -/
def tupleOutline (name : String) (items : List String) : String :=
  name ++ "(" ++ ", ".intercalate items ++ ")"

/-- A record name before its named fields. -/
def recordOutline (name : String) (fields : List (String × String)) : String :=
  name ++ " \x7b " ++ ", ".intercalate (fields.map fun field => field.1 ++ ": " ++ field.2)
    ++ " \x7d"

end ComputeHandles.Text
