/-!
# Attempts

An operation leaves log records behind and ends in a value or a fault. The records
written before a fault are kept, so what was attempted can be told from the log. The
devices of a process are listed when an operation asks for them first, so it is kept
too whether an operation asked.
-/

namespace ComputeHandles

/-- How much a log record matters. -/
inductive Level where
  /-- What the library did. -/
  | debug
  /-- What went wrong. -/
  | warn
  deriving DecidableEq, Repr

/-- The level as it stands in front of a record. -/
def Level.name : Level → String
  | .debug => "DEBUG"
  | .warn => "WARN"

/-- One line of the log. -/
structure Record where
  /-- Its level. -/
  level : Level
  /-- Its message. -/
  text : String
  deriving DecidableEq, Repr

/-- The line of a record: level, space, message. -/
def Record.line (r : Record) : String := r.level.name ++ " " ++ r.text

/-- The outcome of an operation with the records it wrote. -/
structure Attempt (ε α : Type) where
  /-- The records, oldest first. -/
  log : List Record
  /-- The devices of the process were asked for. -/
  asked : Bool
  /-- The value, or why there is none. -/
  result : Except ε α

namespace Attempt

variable {ε δ α β : Type}

/-- A value without any record. -/
def done (a : α) : Attempt ε α := ⟨[], false, .ok a⟩

/-- A fault without any record. -/
def fail (e : ε) : Attempt ε α := ⟨[], false, .error e⟩

/-- An outcome without any record. -/
def ofExcept (outcome : Except ε α) : Attempt ε α := ⟨[], false, outcome⟩

/-- An outcome without any record, its fault seen by another name. -/
def ofExceptWith (f : δ → ε) (outcome : Except δ α) : Attempt ε α :=
  ⟨[], false, outcome.mapError f⟩

/-- One debug record and nothing else. -/
def note (text : String) : Attempt ε Unit := ⟨[⟨.debug, text⟩], false, .ok ()⟩

/-- Continues after a value; a fault ends the operation with the records so far. -/
def andThen (first : Attempt ε α) (next : α → Attempt ε β) : Attempt ε β :=
  match first.result with
  | .ok a => ⟨first.log ++ (next a).log, first.asked || (next a).asked, (next a).result⟩
  | .error e => ⟨first.log, first.asked, .error e⟩

/-- The same attempt with its fault seen by another name. -/
def mapError (f : ε → δ) (a : Attempt ε α) : Attempt δ α :=
  ⟨a.log, a.asked, a.result.mapError f⟩

instance : Monad (Attempt ε) where
  pure := done
  bind := andThen

instance : MonadLift (Except ε) (Attempt ε) where
  monadLift := ofExcept

/-- Continuing after a value keeps both logs in order. -/
theorem bind_of_ok {first : Attempt ε α} {next : α → Attempt ε β} {a : α}
    (h : first.result = .ok a) :
    first >>= next =
      ⟨first.log ++ (next a).log, first.asked || (next a).asked, (next a).result⟩ := by
  simp [bind, andThen, h]

/-- Nothing happens after a fault. -/
theorem bind_of_error {first : Attempt ε α} {next : α → Attempt ε β} {e : ε}
    (h : first.result = .error e) : first >>= next = ⟨first.log, first.asked, .error e⟩ := by
  simp [bind, andThen, h]

/-- Continuing after a value without records is continuing with it. -/
@[simp] theorem done_bind (a : α) (next : α → Attempt ε β) : done a >>= next = next a := rfl

/-- A fault without records stays what it is. -/
@[simp] theorem fail_bind (e : ε) (next : α → Attempt ε β) : fail e >>= next = fail e := rfl

/-- A note comes before the records that follow it. -/
@[simp] theorem note_bind (text : String) (next : Unit → Attempt ε β) :
    note text >>= next = ⟨⟨.debug, text⟩ :: (next ()).log, (next ()).asked, (next ()).result⟩ := rfl

/-- An outcome with a value is the value. -/
@[simp] theorem ofExcept_ok (a : α) : (ofExcept (.ok a) : Attempt ε α) = done a := rfl

/-- An outcome without a value is the fault. -/
@[simp] theorem ofExcept_error (e : ε) : (ofExcept (.error e) : Attempt ε α) = fail e := rfl

/-- An outcome with a value is the value, whatever its fault would be called. -/
@[simp] theorem ofExceptWith_ok (f : δ → ε) (a : α) :
    (ofExceptWith f (.ok a) : Attempt ε α) = done a := rfl

/-- An outcome without a value is the fault by its other name. -/
@[simp] theorem ofExceptWith_error (f : δ → ε) (e : δ) :
    (ofExceptWith f (.error e) : Attempt ε α) = fail (f e) := rfl

/-- Returning a value is having it. -/
@[simp] theorem pure_eq_done (a : α) : (pure a : Attempt ε α) = done a := rfl

/-- A lifted outcome is an attempt without records. -/
@[simp] theorem liftM_eq_ofExcept (outcome : Except ε α) :
    (liftM outcome : Attempt ε α) = ofExcept outcome := rfl

/-- A value results in itself. -/
@[simp] theorem result_done (a : α) : (done a : Attempt ε α).result = .ok a := rfl

/-- A fault results in itself. -/
@[simp] theorem result_fail (e : ε) : (fail e : Attempt ε α).result = .error e := rfl

/-- A lifted outcome results in itself. -/
@[simp] theorem result_ofExcept (outcome : Except ε α) : (ofExcept outcome).result = outcome := rfl

/-- An outcome with its fault renamed results in that. -/
@[simp] theorem result_ofExceptWith (f : δ → ε) (outcome : Except δ α) :
    (ofExceptWith f outcome).result = outcome.mapError f := rfl

/-- A fault in other words results in those. -/
@[simp] theorem result_mapError (f : ε → δ) (a : Attempt ε α) :
    (a.mapError f).result = a.result.mapError f := rfl

/-- What comes of two operations is what comes of the second after a value of the first. -/
theorem result_bind (first : Attempt ε α) (next : α → Attempt ε β) :
    (first >>= next).result = match first.result with
      | .ok a => (next a).result
      | .error e => .error e := by
  cases h : first.result with
  | ok a => simp [bind_of_ok h]
  | error e => simp [bind_of_error h]

/-- Something comes of two operations when it comes of the second after a value of the first. -/
theorem result_bind_eq_ok_iff {first : Attempt ε α} {next : α → Attempt ε β} {b : β} :
    (first >>= next).result = .ok b ↔ ∃ a, first.result = .ok a ∧ (next a).result = .ok b := by
  cases h : first.result with
  | ok a => simp [bind_of_ok h]
  | error e => simp [bind_of_error h]

/-- A lifted outcome writes no record. -/
@[simp] theorem log_ofExcept (outcome : Except ε α) : (ofExcept outcome).log = [] := rfl

/-- An outcome with its fault renamed writes no record. -/
@[simp] theorem log_ofExceptWith (f : δ → ε) (outcome : Except δ α) :
    (ofExceptWith f outcome).log = [] := rfl

/-- A fault in other words comes with the same records. -/
@[simp] theorem log_mapError (f : ε → δ) (a : Attempt ε α) : (a.mapError f).log = a.log := rfl

end Attempt

end ComputeHandles
