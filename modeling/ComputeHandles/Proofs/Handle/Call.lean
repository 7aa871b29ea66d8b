import ComputeHandles.Handle.Session

/-!
# What a call leaves behind

A function that gives a value answers it, stores it if it is a handle, and leaves the last
error alone. One that has a fault answers its failure value, stores the null handle where a
handle was to go, and makes the message of the fault the last error.
-/

namespace ComputeHandles

/-- The message of a fault starts with the name of the function that tells it. -/
theorem Fault.exists_toldBy (fault : Fault) (function : String) :
    ∃ rest, fault.toldBy function = function ++ ": " ++ rest ∨
      fault.toldBy function = function ++ " panicked: " ++ rest := by
  cases fault with
  | error outermost causes => exact ⟨_, .inl rfl⟩
  | abort payload => exact ⟨_, .inr rfl⟩

/-- An error is not told as an abort is. -/
theorem Fault.error_ne_abort (function text other : String) :
    function ++ ": " ++ text ≠ function ++ " panicked: " ++ other := by
  intro same
  have chars := congrArg String.toList same
  simp only [String.toList_append, List.append_assoc, List.append_cancel_left_eq] at chars
  exact absurd (congrArg List.head? chars) (by simp)

namespace Call

/-- A function gives a value in silence: it answers the value, stores it if it is a handle,
writes no record and leaves the last error alone. -/
structure Gives (w : World) {sort : ResultSort} (function : ExportedFunction sort) (out : String)
    (value : sort.Value) : Prop where
  /-- The value is answered. -/
  reply : ((guarded function out).perform w).reply = sort.reply (some value)
  /-- It is stored if it is a handle. -/
  slots : ((guarded function out).perform w).world.slots = sort.store w.slots out (some value)
  /-- The last error is the one before. -/
  lastError : ((guarded function out).perform w).world.lastError = w.lastError
  /-- There is no record. -/
  log : ((guarded function out).perform w).log = []

/-- A function fails with a message after some records: it answers its failure value, stores the
null handle where a handle was to go, warns with the message and makes it the last error. -/
structure Fails (w : World) {sort : ResultSort} (function : ExportedFunction sort) (out : String)
    (noted : List Record) (message : String) : Prop where
  /-- The failure value is answered. -/
  reply : ((guarded function out).perform w).reply = sort.reply none
  /-- The null handle is stored where a handle was to go. -/
  slots : ((guarded function out).perform w).world.slots = sort.store w.slots out none
  /-- The message is the last error. -/
  lastError : ((guarded function out).perform w).world.lastError = some message
  /-- The one warning is the last record. -/
  log : ((guarded function out).perform w).log = noted ++ [⟨.warn, message⟩]

variable {w : World} {sort : ResultSort} {function : ExportedFunction sort}

/-- What a function leaves behind that gives a value. -/
theorem perform_guarded_of_ok {value : sort.Value}
    (h : (function.perform w.slots w.inventory w.ticket).result = .ok value) (out : String) :
    let inside := function.perform w.slots w.inventory w.ticket
    (Call.guarded function out).perform w =
      ⟨sort.reply (some value), inside.log,
        (w.afterAsking inside.asked).next (sort.store w.slots out (some value))⟩ := by
  intro inside
  rw [Call.perform, boundary_of_ok h]
  rfl

/-- What a function leaves behind that has a fault. -/
theorem perform_guarded_of_error {fault : Fault}
    (h : (function.perform w.slots w.inventory w.ticket).result = .error fault) (out : String) :
    let inside := function.perform w.slots w.inventory w.ticket
    (Call.guarded function out).perform w =
      ⟨sort.reply none, inside.log ++ [⟨.warn, fault.toldBy function.name⟩],
        { (w.afterAsking inside.asked).next (sort.store w.slots out none) with
          lastError := some (fault.toldBy function.name) }⟩ := by
  intro inside
  rw [Call.perform, boundary_of_error h]
  rfl

/-- What was asked for is kept by the world, whatever comes of the function. -/
theorem inventory_perform_guarded (w : World) (function : ExportedFunction sort) (out : String) :
    ((Call.guarded function out).perform w).world.inventory =
      w.inventory.after (function.perform w.slots w.inventory w.ticket).asked := rfl

/-- Where the reply and the slots after it are the same, so is the value. -/
theorem eq_of_reply_of_store {sort : ResultSort} {a b : sort.Value} {slots : Slots} {out : String}
    (replies : sort.reply (some a) = sort.reply (some b))
    (stored : sort.store slots out (some a) = sort.store slots out (some b)) : a = b := by
  cases sort with
  | handle kind =>
    have held := congrArg (·.get kind out) stored
    simpa [ResultSort.store, Slots.get_put_self] using held
  | text | number | flag => simpa [ResultSort.reply] using replies

/-- A function gives a value in silence exactly when the value comes of it without a record. -/
theorem gives_iff {out : String} {value : sort.Value} : Gives w function out value ↔
    (function.perform w.slots w.inventory w.ticket).result = .ok value ∧
      (function.perform w.slots w.inventory w.ticket).log = [] := by
  constructor
  · rintro ⟨reply, slots, -, log⟩
    cases outcome : (function.perform w.slots w.inventory w.ticket).result with
    | ok given =>
      rw [perform_guarded_of_ok outcome] at reply slots log
      exact ⟨congrArg Except.ok (eq_of_reply_of_store reply slots), log⟩
    | error fault =>
      rw [perform_guarded_of_error outcome] at log
      exact absurd log (List.concat_ne_nil _ _)
  · rintro ⟨outcome, silent⟩
    have left := perform_guarded_of_ok outcome out
    exact ⟨by rw [left], by rw [left]; rfl, by rw [left]; rfl, by rw [left]; exact silent⟩

/-- A function that does nothing but have a value gives it in silence. -/
theorem gives_of_eq_done {value : sort.Value}
    (h : function.perform w.slots w.inventory w.ticket = Attempt.done value) (out : String) :
    Gives w function out value := by
  rw [gives_iff, h]
  exact ⟨rfl, rfl⟩

/-- A function that has a fault fails with what it tells of it. -/
theorem fails_of_error {fault : Fault}
    (h : (function.perform w.slots w.inventory w.ticket).result = .error fault) (out : String) :
    Fails w function out (function.perform w.slots w.inventory w.ticket).log
      (fault.toldBy function.name) := by
  have left := perform_guarded_of_error h out
  exact ⟨by rw [left], by rw [left]; rfl, by rw [left], by rw [left]⟩

/-- A function that does nothing but fail fails without a record in front of the warning. -/
theorem fails_of_eq_fail {fault : Fault}
    (h : function.perform w.slots w.inventory w.ticket = Attempt.fail fault) (out : String) :
    Fails w function out [] (fault.toldBy function.name) := by
  have failed : (function.perform w.slots w.inventory w.ticket).result = .error fault := by
    rw [h]
    rfl
  have fails := fails_of_error failed out
  rwa [h] at fails

/-- A function that does nothing but fail with an error fails with its name and the error. -/
theorem fails_of_message {text : String}
    (h : function.perform w.slots w.inventory w.ticket = Attempt.fail (.ofMessage text))
    (out : String) :
    Fails w function out [] (function.name ++ ": " ++ text) := fails_of_eq_fail h out

/-- A function fails with one message. -/
theorem Fails.message_unique {out : String} {noted noted' : List Record} {m m' : String}
    (h : Fails w function out noted m) (h' : Fails w function out noted' m') : m = m' :=
  Option.some.inj (h.lastError.symm.trans h'.lastError)

end Call

end ComputeHandles
