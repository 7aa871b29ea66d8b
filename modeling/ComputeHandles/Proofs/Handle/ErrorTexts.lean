import ComputeHandles.Proofs.Handle.Complaint
import ComputeHandles.Proofs.Handle.LastError
import ComputeHandles.Proofs.Text.Quoted

/-!
# Error texts are unambiguous

The complaint about a filter string quotes the string and, if there is one, the token that was
not expected. The complaint about a missing kernel quotes its name and the names there are.
Quoted texts tell what they quote, so different errors have different complaints. All of a
complaint is printable, so it is handed out as it is when a function fails with it.
-/

namespace ComputeHandles

open Text

namespace FilterError

variable {token filter : String}

/-- What is said about a blank entry. -/
theorem message_empty : (empty filter).message =
    "Empty device filter in " ++ quote filter ++ "!" := rfl

/-- What is said about a token that was not expected. -/
theorem message_unexpectedToken : (unexpectedToken token filter).message =
    "Unexpected token " ++ quote token ++ " in device filter " ++ quote filter ++ ", " ++
      "expected \"backend:device_type:index\"!" := rfl

/-- What is said about a blank entry starts with E. -/
theorem opensWith_message_empty : OpensWith (empty filter).message 'E' := by
  have start : OpensWith "Empty device filter in " 'E' := rfl
  exact (start.append _).append _

/-- What is said about a token that was not expected starts with U. -/
theorem opensWith_message_unexpectedToken :
    OpensWith (unexpectedToken token filter).message 'U' := by
  have start : OpensWith "Unexpected token " 'U' := rfl
  exact ((((start.append _).append _).append _).append _).append _

/-- Different errors about filter strings have different complaints. -/
theorem message_injective : Function.Injective message := by
  intro e e' same
  cases e with
  | empty filter =>
    have opens : OpensWith e'.message 'E' := same ▸ opensWith_message_empty
    cases e' with
    | empty filter' =>
      rw [message_empty, message_empty] at same
      simp only [String.append_assoc, String.append_right_inj] at same
      obtain ⟨rfl, -⟩ := selfDelimiting_quote filter filter' _ _ same
      rfl
    | unexpectedToken => exact absurd (opens.unique opensWith_message_unexpectedToken) (by decide)
  | unexpectedToken token filter =>
    have opens : OpensWith e'.message 'U' := same ▸ opensWith_message_unexpectedToken
    cases e' with
    | empty => exact absurd (opens.unique opensWith_message_empty) (by decide)
    | unexpectedToken token' filter' =>
      rw [message_unexpectedToken, message_unexpectedToken] at same
      simp only [String.append_assoc, String.append_right_inj] at same
      obtain ⟨rfl, behind⟩ := selfDelimiting_quote token token' _ _ same
      rw [String.append_right_inj] at behind
      obtain ⟨rfl, -⟩ := selfDelimiting_quote filter filter' _ _ behind
      rfl

/-- A complaint about a filter string is printable. -/
theorem printable_message (e : FilterError) : Printable e.message := by
  cases e with
  | empty filter =>
    rw [message_empty, printable_append, printable_append]
    exact ⟨⟨by decide, printable_quote filter⟩, by decide⟩
  | unexpectedToken token filter =>
    simp only [message_unexpectedToken, printable_append]
    refine ⟨⟨⟨⟨⟨?_, printable_quote token⟩, ?_⟩, printable_quote filter⟩, ?_⟩, ?_⟩ <;> decide

end FilterError

namespace KernelNotFound

/-- What is said about a missing kernel. -/
theorem message_eq (e : KernelNotFound) : e.message =
    "Kernel " ++ quote e.name ++ " not found in bundle with kernels " ++
      listOutline (e.kernels.map quote) ++ "!" := rfl

/-- Different errors about missing kernels have different complaints. -/
theorem message_injective : Function.Injective message := by
  rintro ⟨name, kernels⟩ ⟨name', kernels'⟩ same
  simp only [message_eq, String.append_assoc, String.append_right_inj] at same
  obtain ⟨rfl, behind⟩ := selfDelimiting_quote name name' _ _ same
  rw [String.append_right_inj] at behind
  obtain ⟨rfl, -⟩ := selfDelimiting_listOutline_quote kernels kernels' _ _ behind
  rfl

/-- A complaint about a missing kernel is printable. -/
theorem printable_message (e : KernelNotFound) : Printable e.message := by
  have names : ∀ item ∈ e.kernels.map quote, Printable item := by
    intro item mem
    obtain ⟨name, -, rfl⟩ := List.mem_map.mp mem
    exact printable_quote name
  simp only [message_eq, printable_append]
  refine ⟨⟨⟨⟨?_, printable_quote e.name⟩, ?_⟩, printable_listOutline names⟩, ?_⟩ <;> decide

end KernelNotFound

/-- The complaints that quote what they are about. -/
inductive QuotingComplaint : String → Prop where
  /-- About a filter string. -/
  | filter (e : FilterError) : QuotingComplaint e.message
  /-- About a kernel that is missing. -/
  | kernel (e : KernelNotFound) : QuotingComplaint e.message

/-- A complaint that quotes is printable. -/
theorem QuotingComplaint.printable {text : String} (h : QuotingComplaint text) :
    Printable text := by
  cases h with
  | filter e => exact e.printable_message
  | kernel e => exact e.printable_message

/-- The name of a function is printable. -/
theorem ExportedFunction.printable_name {sort : ResultSort} (function : ExportedFunction sort) :
    Printable function.name := by
  cases function <;> (rw [name]; decide +kernel)

/-- A printable last error is handed out as it is. -/
theorem World.lastMessage_of_printable {w : World} {message : String}
    (last : w.lastError = some message) (h : Printable message) :
    ∃ content, w.lastMessage = .text (some content) ∧
      content.bytes = utf8Encode message.toList := by
  have unaltered : (message.toList.map fun c => if c = '\x00' then ' ' else c) =
      message.toList :=
    (List.map_congr_left fun c mem => if_neg (h.plain c mem).1).trans (List.map_id' _)
  obtain ⟨content, given, bytes⟩ := exists_messageText message
  rw [unaltered] at bytes
  refine ⟨content, ?_, bytes⟩
  rw [World.lastMessage_eq, last, given]

/-- Errors about filter strings that have the same complaint are the same error, and so are
errors about missing kernels: the name is the same and so is the list of names. Such a complaint
holds no NUL and nothing that breaks a line. When a function fails with it, whoever asks for the
last error is handed the name of the function and the complaint as it is. -/
theorem quotingComplaints_unambiguous :
    Function.Injective FilterError.message ∧ Function.Injective KernelNotFound.message ∧
    ∀ text, QuotingComplaint text →
      (∀ c ∈ text.toList, c ≠ '\x00' ∧ c ∉ lineBreaks) ∧
      ∀ (w : World) {sort : ResultSort} (function : ExportedFunction sort) out,
        (function.perform w.slots w.inventory w.ticket).result = .error (.ofMessage text) →
        ∃ content,
          ((Call.guarded function out).perform w).world.lastMessage = .text (some content) ∧
            content.bytes = utf8Encode (function.name ++ ": " ++ text).toList := by
  refine ⟨FilterError.message_injective, KernelNotFound.message_injective, fun text h => ?_⟩
  refine ⟨h.printable.plain, fun w sort function out failed => ?_⟩
  have told : ((Call.guarded function out).perform w).world.lastError =
      some (function.name ++ ": " ++ text) := (Call.fails_of_error failed out).lastError
  have shows : Printable (function.name ++ ": " ++ text) := by
    rw [printable_append, printable_append]
    exact ⟨⟨function.printable_name, by decide⟩, h.printable⟩
  exact World.lastMessage_of_printable told shows

/-- A token that holds a line feed is told in one line, and that is what is handed out. -/
theorem quotingComplaints_unambiguous_lineFeed :
    let e := FilterError.unexpectedToken "x\ny" "x\ny"
    let function := ExportedFunction.createFilterSelector (some [120, 10, 121])
    let w := World.initial
    (QuotingComplaint e.message ∧
      (function.perform w.slots w.inventory w.ticket).result = .error (.ofMessage e.message)) ∧
      '\n' ∉ e.message.toList ∧ ∃ content,
        ((Call.guarded function "s").perform w).world.lastMessage = .text (some content) ∧
        content.bytes = utf8Encode
          ("SyclFilterSelector_Create: " ++ "Unexpected token \"x\\ny\" in device filter " ++
            "\"x\\ny\", expected \"backend:device_type:index\"!").toList := by
  intro e function w
  have failed : (function.perform w.slots w.inventory w.ticket).result =
      .error (.ofMessage e.message) := by rfl
  have quoting : QuotingComplaint e.message := .filter e
  obtain ⟨-, -, complaints⟩ := quotingComplaints_unambiguous
  obtain ⟨plain, handedOut⟩ := complaints e.message quoting
  refine ⟨⟨quoting, failed⟩, fun mem => (plain '\n' mem).2 (by decide), ?_⟩
  exact handedOut w function "s" failed

end ComputeHandles
