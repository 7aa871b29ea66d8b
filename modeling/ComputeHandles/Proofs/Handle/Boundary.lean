import ComputeHandles.Proofs.Handle.LastError

/-!
# Faults at the boundary

A value passes the boundary and leaves no trace. A fault is replaced with the failure value and
told once: the text that is written to the log is the one that is kept as the last error. An
error is told with all its causes, an abort with what was said at it. Whoever asks next gets the
text, with each NUL as a space.
-/

namespace ComputeHandles

open Text

/-- The text of an error and its causes. -/
inductive ChainText : String → List String → String → Prop where
  /-- An error without a cause has its own text. -/
  | alone {text : String} : ChainText text [] text
  /-- An error with a cause has its own text, then a colon and a space, then the text of the cause
  and its causes. -/
  | caused {text cause below : String} {causes : List String}
      (chain : ChainText cause causes below) :
    ChainText text (cause :: causes) (text ++ ": " ++ below)

/-- What a function tells of a fault. -/
inductive Fault.Told (function : String) : Fault → String → Prop where
  /-- Of an error, the text of it and its causes. -/
  | error {outermost text : String} {causes : List String}
      (chain : ChainText outermost causes text) :
    Told function (.error outermost causes) (function ++ ": " ++ text)
  /-- Of an abort with a fixed text, that text. -/
  | fixed {text : String} : Told function (.abort (.fixed text)) (function ++ " panicked: " ++ text)
  /-- Of an abort with a text made at run time, that text. -/
  | formatted {text : String} :
    Told function (.abort (.formatted text)) (function ++ " panicked: " ++ text)
  /-- Of any other abort, that nothing is known. -/
  | other : Told function (.abort .other) (function ++ " panicked: " ++ "unknown panic")

/-- The texts of an error and its causes, outermost first, are joined. -/
theorem chainText_iff {text whole : String} {causes : List String} :
    ChainText text causes whole ↔ whole = ": ".intercalate (text :: causes) := by
  -- The induction goes down the chain, from an error to its cause.
  induction causes generalizing text whole with
  | nil =>
    rw [String.intercalate_singleton]
    constructor
    · intro chain
      cases chain with
      | alone => rfl
    · rintro rfl
      exact .alone
  | cons cause causes ih =>
    rw [String.intercalate_cons_of_ne_nil (List.cons_ne_nil cause causes)]
    constructor
    · intro chain
      cases chain with
      | caused chain => rw [ih.mp chain]
    · rintro rfl
      exact .caused (ih.mpr rfl)

/-- One text is told of a fault. -/
theorem Fault.told_iff {function message : String} {fault : Fault} :
    fault.Told function message ↔ message = fault.toldBy function := by
  constructor
  · intro told
    cases told with
    | error chain => rw [chainText_iff.mp chain, toldBy]
    | fixed | formatted | other => rfl
  · rintro rfl
    cases fault with
    | error outermost causes => exact .error (chainText_iff.mpr rfl)
    | abort payload =>
      cases payload with
      | fixed text => exact .fixed
      | formatted text => exact .formatted
      | other => exact .other

/-- A value passes the boundary as it is: no record is added and the last error is the one
before. In place of a fault there is the failure value; one warning is added to the records, its
text is what is told of the fault, and it is the last error from then on. Whoever asks for that
is handed the text, with each NUL as a space. -/
theorem boundary_tells_fault {α : Type} (function : String) (failure : α) (before : Option String)
    (inside : Attempt Fault α) :
    let returned := boundary function inside
    match inside.result with
    | .ok value =>
      returned.valueOr failure = value ∧ returned.log = inside.log ∧
        returned.lastError before = before
    | .error fault =>
      returned.valueOr failure = failure ∧ ∃ message, fault.Told function message ∧
        returned.log = inside.log ++ [⟨.warn, message⟩] ∧
        returned.lastError before = some message ∧
        ∀ w : World, ∃ content,
          { w with lastError := returned.lastError before }.lastMessage = .text (some content) ∧
          content.bytes =
            utf8Encode (message.toList.map fun c => if c = '\x00' then ' ' else c) := by
  intro returned
  cases outcome : inside.result with
  | ok value =>
    have left : returned = _ := boundary_of_ok outcome
    rw [left]
    exact ⟨rfl, rfl, rfl⟩
  | error fault =>
    have left : returned = _ := boundary_of_error outcome
    rw [left]
    obtain ⟨content, given, bytes⟩ := exists_messageText (fault.toldBy function)
    refine ⟨rfl, fault.toldBy function, Fault.told_iff.mpr rfl, rfl, rfl, fun w => ?_⟩
    refine ⟨content, ?_, bytes⟩
    exact congrArg Reply.text given

end ComputeHandles
