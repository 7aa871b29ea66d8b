import ComputeHandles.Attempt
import ComputeHandles.Text.CText

/-!
# The boundary

Nothing that goes wrong inside an exported function leaves it. An error is told with
its causes, outermost first, and an abort with what was said at it; either is written
to the log as a warning and kept as the last error, and the caller gets the failure
value of the function.
-/

namespace ComputeHandles

open Text

/-- What an abort carries. -/
inductive Payload where
  /-- A fixed text. -/
  | fixed (text : String)
  /-- A text made at run time. -/
  | formatted (text : String)
  /-- Something that is no text. -/
  | other
  deriving DecidableEq, Repr

/-- What is said about an abort. -/
def Payload.message : Payload → String
  | .fixed text | .formatted text => text
  | .other => "unknown panic"

/-- Why an exported function has no result. -/
inductive Fault where
  /-- An error with its causes, each below the one it caused. -/
  | error (outermost : String) (causes : List String)
  /-- An abort. -/
  | abort (payload : Payload)
  deriving DecidableEq, Repr

/-- An error without further causes. -/
def Fault.ofMessage (text : String) : Fault := .error text []

/-- A required argument is null. -/
def Fault.nullArgument (argument : String) : Fault := .ofMessage s!"Argument `{argument}` is null!"

/-- The fault as told by a function. -/
def Fault.toldBy (function : String) : Fault → String
  | .error outermost causes => function ++ ": " ++ ": ".intercalate (outermost :: causes)
  | .abort payload => function ++ " panicked: " ++ payload.message

/-- What an exported function leaves behind. -/
structure Returned (α : Type) where
  /-- The value, unless the function failed. -/
  value : Option α
  /-- The records, oldest first. -/
  log : List Record
  /-- The message of the failure, if the function failed. -/
  message : Option String

/-- Runs the inside of an exported function. -/
def boundary {α : Type} (function : String) (inside : Attempt Fault α) : Returned α :=
  match inside.result with
  | .ok a => ⟨some a, inside.log, none⟩
  | .error fault =>
    let message := fault.toldBy function
    ⟨none, inside.log ++ [⟨.warn, message⟩], some message⟩

/-- What the caller gets, where `failure` stands for no value. -/
def Returned.valueOr {α : Type} (r : Returned α) (failure : α) : α := r.value.getD failure

/-- The last error after a function; one that succeeded leaves it as it was. -/
def Returned.lastError {α : Type} (r : Returned α) (before : Option String) : Option String :=
  r.message.or before

/-- The last error as it is handed out. A NUL would cut it short, so each shows as a
space. -/
def messageText (lastError : Option String) : Option CText :=
  lastError.bind fun message => (CText.ofText (blankNul message)).toOption

/-- A value passes the boundary with the records that were written. -/
theorem boundary_of_ok {α : Type} {function : String} {inside : Attempt Fault α} {a : α}
    (h : inside.result = .ok a) : boundary function inside = ⟨some a, inside.log, none⟩ := by
  simp [boundary, h]

/-- A fault adds one warning with the message that is kept. -/
theorem boundary_of_error {α : Type} {function : String} {inside : Attempt Fault α}
    {fault : Fault} (h : inside.result = .error fault) :
    boundary function inside =
      ⟨none, inside.log ++ [⟨.warn, fault.toldBy function⟩], some (fault.toldBy function)⟩ := by
  simp [boundary, h]

/-- Records that were written first stay in front, and are all that they add. -/
theorem boundary_append {α : Type} (function : String) (first log : List Record) (asked : Bool)
    (result : Except Fault α) :
    boundary function ⟨first ++ log, asked, result⟩ =
      { boundary function ⟨log, asked, result⟩ with
        log := first ++ (boundary function ⟨log, asked, result⟩).log } := by
  cases result with
  | ok a => rfl
  | error fault => simp [boundary]

end ComputeHandles
