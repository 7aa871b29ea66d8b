import Mathlib.Data.List.Induction
import ComputeHandles.Proofs.Handle.Call
import ComputeHandles.Proofs.Listing
import ComputeHandles.Proofs.Text.Utf8

/-!
# The last error of a thread

The last error of a thread tells of the latest step that failed on it, unless the thread
has forgotten its errors since. Nothing else touches it: neither a step that succeeds nor
a handle given up nor anything that goes on on another thread.
-/

namespace ComputeHandles

open Text

/-- A thread of a session at some point: the world it began in, the steps it has taken
since and the steps it is still to take. -/
structure Thread where
  /-- The world it began in. -/
  began : World
  /-- The steps taken, oldest first. -/
  taken : List Step
  /-- The steps to take, next first. -/
  ahead : List Step

/-- The world a thread has come to. -/
def Thread.world (t : Thread) : World := (Step.runAll t.began t.taken).2

/-- The points that the threads of a session come to. -/
inductive Thread.Reached (session : List Step) : Thread → Prop where
  /-- The session begins with nothing, whatever the devices of the process. -/
  | start (inventory : Inventory) : Reached session ⟨World.begin inventory, [], session⟩
  /-- A thread takes its next step. -/
  | step {began : World} {taken ahead : List Step} {step : Step}
      (before : Reached session ⟨began, taken, step :: ahead⟩) :
    Reached session ⟨began, taken ++ [step], ahead⟩
  /-- A thread begins where another one starts it, with the slots as they are there and
  without a last error. -/
  | spawned {began : World} {taken ahead steps : List Step}
      (before : Reached session ⟨began, taken, .thread steps :: ahead⟩) :
    Reached session ⟨{ (Step.runAll began taken).2 with lastError := none }, [], steps⟩

/-- A step with the world in which its thread took it. -/
structure Event where
  /-- The world. -/
  world : World
  /-- The step. -/
  step : Step

/-- The message of a fault as a function tells it; a value has none. -/
def faultMessage {α : Type} (function : String) : Except Fault α → Option String
  | .ok _ => none
  | .error fault => some (fault.toldBy function)

/-- The message with which a step failed on its thread, if it failed. A function fails by an
error or by an abort; what fails on a thread of its own fails there. -/
def Event.failure? (e : Event) : Option String :=
  match e.step with
  | .call (.guarded function _) =>
    let w := e.world
    faultMessage function.name (function.perform w.slots w.inventory w.ticket).result
  | .guard function _ outcome => faultMessage function outcome
  | .call (.fixedSelector _ _) | .call (.delete _ _) | .call .lastMessage | .call .clearError
  | .call .deleteText | .adoptBundle _ _ | .adoptKernel _ _ _ _ | .inspect _ _ | .thread _ => none

/-- A step makes its thread forget the last error. -/
def Event.Clears (e : Event) : Prop := e.step = .call .clearError

/-- The steps that a thread takes from a world on, each with the world in which it is taken. -/
def history (w : World) : List Step → List Event
  | [] => []
  | step :: rest => ⟨w, step⟩ :: history (step.run w).2 rest

/-- The steps that a thread has taken. -/
def Thread.history (t : Thread) : List Event := ComputeHandles.history t.began t.taken

/-- The latest failure among events that was not forgotten had this message: some event
failed with it, and none after that failed or made the thread forget. -/
def Stands (events : List Event) (message : String) : Prop :=
  ∃ earlier e later, events = earlier ++ e :: later ∧ e.failure? = some message ∧
    ∀ f ∈ later, f.failure? = none ∧ ¬ f.Clears

/-- Every failure among events was forgotten. -/
def Forgotten (events : List Event) : Prop :=
  ∀ earlier e later, events = earlier ++ e :: later → e.failure? ≠ none → ∃ f ∈ later, f.Clears

/-- Steps taken after others start where those end. -/
theorem Step.runAll_append (w : World) (steps more : List Step) :
    (Step.runAll w (steps ++ more)).2 = (Step.runAll (Step.runAll w steps).2 more).2 := by
  induction steps generalizing w with
  | nil => rfl
  | cons step rest ih => exact ih (step.run w).2

/-- Steps taken after others come after them in the history. -/
theorem history_append (w : World) (steps more : List Step) :
    history w (steps ++ more) = history w steps ++ history (Step.runAll w steps).2 more := by
  induction steps generalizing w with
  | nil => rfl
  | cons step rest ih => exact congrArg (⟨w, step⟩ :: ·) (ih (step.run w).2)

namespace Event

/-- Forgetting the last error is no failure. -/
theorem Clears.failure?_eq_none {e : Event} (h : e.Clears) : e.failure? = none := by
  obtain ⟨w, step⟩ := e
  cases h
  rfl

/-- A step that makes its thread forget leaves no last error. -/
theorem Clears.lastError_eq_none {e : Event} (h : e.Clears) :
    (e.step.run e.world).2.lastError = none := by
  obtain ⟨w, step⟩ := e
  cases h
  rfl

/-- A step that fails leaves its message, and one that does not leaves what was there, unless
it makes its thread forget. -/
theorem lastError_run {e : Event} (h : ¬ e.Clears) :
    (e.step.run e.world).2.lastError = e.failure?.or e.world.lastError := by
  obtain ⟨w, step⟩ := e
  cases step with
  | call made =>
    cases made with
    | guarded function out =>
      cases outcome : (function.perform w.slots w.inventory w.ticket).result with
      | ok value =>
        have quiet : failure? ⟨w, .call (.guarded function out)⟩ = none :=
          congrArg (faultMessage function.name) outcome
        have left : ((Call.guarded function out).perform w).world.lastError = w.lastError := by
          rw [Call.perform_guarded_of_ok outcome]
          rfl
        rw [quiet]
        exact left
      | error fault =>
        have failed : failure? ⟨w, .call (.guarded function out)⟩ =
            some (fault.toldBy function.name) := congrArg (faultMessage function.name) outcome
        have kept : ((Call.guarded function out).perform w).world.lastError =
            some (fault.toldBy function.name) := by rw [Call.perform_guarded_of_error outcome]
        rw [failed]
        exact kept
    | clearError => exact absurd rfl h
    | _ => rfl
  | guard function failure outcome =>
    cases outcome with
    | ok value => rfl
    | error fault => rfl
  | _ => rfl

/-- After an event the message is the one it failed with, or the one from before if it neither
failed nor made the thread forget. -/
theorem lastError_run_eq_some_iff (e : Event) {message : String} :
    (e.step.run e.world).2.lastError = some message ↔
      e.failure? = some message ∨
        (e.failure? = none ∧ ¬ e.Clears ∧ e.world.lastError = some message) := by
  by_cases clears : e.Clears
  · simp [clears.lastError_eq_none, clears.failure?_eq_none, clears]
  · simp [lastError_run clears, Option.or_eq_some_iff, clears]

/-- After an event there is no message if it made the thread forget, or if there was none and
it did not fail. -/
theorem lastError_run_eq_none_iff (e : Event) :
    (e.step.run e.world).2.lastError = none ↔
      e.Clears ∨ (e.failure? = none ∧ e.world.lastError = none) := by
  by_cases clears : e.Clears
  · simp [clears.lastError_eq_none, clears]
  · simp [lastError_run clears, clears]

end Event

/-- After one more event a message stands that it failed with, or one that stood before and
that it left alone. -/
theorem stands_append_singleton {events : List Event} {e : Event} {message : String} :
    Stands (events ++ [e]) message ↔
      e.failure? = some message ∨ (e.failure? = none ∧ ¬ e.Clears ∧ Stands events message) := by
  constructor
  · rintro ⟨earlier, latest, later, split, failed, kept⟩
    rcases Listing.concat_eq_append_cons_iff.mp split with
      ⟨-, rfl, -⟩ | ⟨rest, rfl, before⟩
    · exact .inl failed
    · obtain ⟨quiet, unforgotten⟩ := kept e (by simp)
      refine .inr ⟨quiet, unforgotten, earlier, latest, rest, before, failed, ?_⟩
      exact fun f mem => kept f (List.mem_append_left _ mem)
  · rintro (failed | ⟨quiet, unforgotten, earlier, latest, later, rfl, failed, kept⟩)
    · exact ⟨events, e, [], rfl, failed, nofun⟩
    · refine ⟨earlier, latest, later ++ [e], by simp, failed, ?_⟩
      rw [List.forall_mem_append]
      exact ⟨kept, List.forall_mem_singleton.mpr ⟨quiet, unforgotten⟩⟩

/-- After one more event every failure is forgotten if it made the thread forget, or if every
failure was forgotten before and it was none. -/
theorem forgotten_append_singleton {events : List Event} {e : Event} :
    Forgotten (events ++ [e]) ↔ e.Clears ∨ (e.failure? = none ∧ Forgotten events) := by
  constructor
  · intro h
    by_cases clears : e.Clears
    · exact .inl clears
    refine .inr ⟨?_, ?_⟩
    · by_contra failed
      obtain ⟨f, mem, -⟩ := h events e [] rfl failed
      exact List.not_mem_nil mem
    · rintro earlier failing later rfl failed
      obtain ⟨f, mem, forgets⟩ := h earlier failing (later ++ [e]) (by simp) failed
      rcases List.mem_append.mp mem with old | new
      · exact ⟨f, old, forgets⟩
      · exact absurd (List.mem_singleton.mp new ▸ forgets) clears
  · intro h earlier failing later split failed
    rcases Listing.concat_eq_append_cons_iff.mp split with
      ⟨-, rfl, -⟩ | ⟨rest, rfl, before⟩
    · rcases h with clears | ⟨quiet, -⟩
      · exact absurd clears.failure?_eq_none failed
      · exact absurd quiet failed
    · rcases h with clears | ⟨-, forgotten⟩
      · exact ⟨e, by simp, clears⟩
      · obtain ⟨f, mem, forgets⟩ := forgotten earlier failing rest before failed
        exact ⟨f, List.mem_append_left _ mem, forgets⟩

section Run

variable {w : World}

/-- What a thread has taken after one more step. -/
theorem history_concat (steps : List Step) (step : Step) :
    history w (steps ++ [step]) = history w steps ++ [⟨(Step.runAll w steps).2, step⟩] :=
  history_append w steps [step]

/-- The last error after one more step. -/
theorem lastError_runAll_concat (steps : List Step) (step : Step) :
    (Step.runAll w (steps ++ [step])).2.lastError =
      (step.run (Step.runAll w steps).2).2.lastError := by
  rw [Step.runAll_append]
  rfl

/-- A thread that began without a last error has the message that stands. -/
theorem lastError_runAll_eq_some_iff (began : w.lastError = none) {steps : List Step}
    {message : String} :
    (Step.runAll w steps).2.lastError = some message ↔ Stands (history w steps) message := by
  -- The induction is on the last step, since the latest event decides what stands.
  induction steps using List.reverseRecOn with
  | nil =>
    constructor
    · intro h
      cases began.symm.trans h
    · rintro ⟨earlier, e, later, split, -, -⟩
      exact absurd split.symm (List.append_ne_nil_of_right_ne_nil _ (List.cons_ne_nil _ _))
  | append_singleton steps step ih =>
    rw [lastError_runAll_concat, history_concat, stands_append_singleton, ← ih]
    exact Event.lastError_run_eq_some_iff ⟨(Step.runAll w steps).2, step⟩

/-- A thread that began without a last error has none exactly when every failure on it was
forgotten. -/
theorem lastError_runAll_eq_none_iff (began : w.lastError = none) {steps : List Step} :
    (Step.runAll w steps).2.lastError = none ↔ Forgotten (history w steps) := by
  induction steps using List.reverseRecOn with
  | nil =>
    refine ⟨fun _ earlier e later split => ?_, fun _ => began⟩
    exact absurd split.symm (List.append_ne_nil_of_right_ne_nil _ (List.cons_ne_nil _ _))
  | append_singleton steps step ih =>
    rw [lastError_runAll_concat, history_concat, forgotten_append_singleton, ← ih]
    exact Event.lastError_run_eq_none_iff ⟨(Step.runAll w steps).2, step⟩

end Run

/-- Every thread begins without a last error. -/
theorem Thread.Reached.lastError_began {session : List Step} {t : Thread}
    (h : Thread.Reached session t) : t.began.lastError = none := by
  induction h with
  | start => rfl
  | step _ ih => exact ih
  | spawned => rfl

/-- A last error is handed out with each NUL as a space. -/
theorem exists_messageText (message : String) :
    ∃ content, messageText (some message) = some content ∧
      content.bytes = utf8Encode (message.toList.map fun c => if c = '\x00' then ' ' else c) := by
  have blanked : (blankNul message).toList =
      message.toList.map fun c => if c = '\x00' then ' ' else c := String.toList_ofList
  have readable : '\x00' ∉ (blankNul message).toList := by
    rw [blanked]
    intro mem
    obtain ⟨c, -, same⟩ := List.mem_map.mp mem
    split at same
    · exact absurd same (by decide)
    · contradiction
  have whole : 0 ∉ utf8Encode (blankNul message).toList := zero_notMem_utf8Encode readable
  refine ⟨⟨utf8Encode (blankNul message).toList, whole⟩, ?_, congrArg utf8Encode blanked⟩
  rw [messageText, Option.bind_some, CText.ofText, dif_neg whole]
  rfl

/-- What a thread is told that asks for its last error. -/
def World.lastMessage (w : World) : Reply := (Call.lastMessage.perform w).reply

/-- It is told the text of its last error. -/
theorem World.lastMessage_eq (w : World) :
    w.lastMessage = .text (messageText w.lastError) := rfl

/-- It is told of none exactly when there is none. -/
theorem World.lastMessage_eq_none_iff {w : World} :
    w.lastMessage = .text none ↔ w.lastError = none := by
  rw [lastMessage_eq]
  cases w.lastError with
  | none => exact iff_of_true rfl rfl
  | some message =>
    obtain ⟨content, given, -⟩ := exists_messageText message
    simp [given]

/-- At every point of a session, a thread that asks for its last error is told of none
exactly when every failure on it was forgotten. Else there is a latest failure that was not,
and the thread is told its message with each NUL as a space. A step that neither fails nor
makes the thread forget changes nothing about that: each function that gives a value, each
selector by type, each handle or text given up, the asking itself and all that goes on on a
thread of its own. -/
theorem lastMessage_of_reached {session : List Step} {t : Thread}
    (h : Thread.Reached session t) :
    (t.world.lastMessage = .text none ↔ Forgotten t.history) ∧
      (t.world.lastMessage ≠ .text none → ∃ message, Stands t.history message) ∧
      (∀ message, Stands t.history message → ∃ content,
        t.world.lastMessage = .text (some content) ∧
          content.bytes =
            utf8Encode (message.toList.map fun c => if c = '\x00' then ' ' else c)) ∧
      ∀ step, Event.failure? ⟨t.world, step⟩ = none → step ≠ .call .clearError →
        (step.run t.world).2.lastMessage = t.world.lastMessage := by
  have began : t.began.lastError = none := h.lastError_began
  refine ⟨?_, ?_, ?_, ?_⟩
  · rw [World.lastMessage_eq_none_iff]
    exact lastError_runAll_eq_none_iff began
  · intro told
    obtain ⟨message, last⟩ :=
      Option.ne_none_iff_exists'.mp (mt World.lastMessage_eq_none_iff.mpr told)
    exact ⟨message, (lastError_runAll_eq_some_iff began).mp last⟩
  · intro message stands
    have last : t.world.lastError = some message := (lastError_runAll_eq_some_iff began).mpr stands
    obtain ⟨content, given, bytes⟩ := exists_messageText message
    refine ⟨content, ?_, bytes⟩
    rw [World.lastMessage_eq, last, given]
  · intro step quiet keeps
    have clears : ¬ Event.Clears ⟨t.world, step⟩ := keeps
    have same : (step.run t.world).2.lastError = t.world.lastError := by
      rw [Event.lastError_run clears, quiet, Option.none_or]
    rw [World.lastMessage_eq, same, World.lastMessage_eq]

/-- A caller fails and starts a thread, on which an abort whose payload has a NUL in it is
caught, and that then gives the null device up. -/
def abortOnThread : List Step :=
  [.call (.guarded (.deviceName none) ""),
    .thread [.guard "Probe" 0 (.error (.abort (.fixed "a\x00b"))), .call (.delete .device none)]]

/-- The thread is told of its own abort, before and after the null device is given up. -/
theorem lastMessage_abortOnThread :
    ∃ t, Thread.Reached abortOnThread t ∧ t.ahead = [.call (.delete .device none)] ∧
      (∃ content, t.world.lastMessage = .text (some content) ∧
        content.bytes = utf8Encode "Probe panicked: a b".toList) ∧
      ((Step.call (.delete .device none)).run t.world).2.lastMessage = t.world.lastMessage := by
  have reached : Thread.Reached abortOnThread _ :=
    .step (.spawned (.step (.start .unrestricted)))
  obtain ⟨-, -, told, kept⟩ := lastMessage_of_reached reached
  refine ⟨_, reached, rfl, ?_, kept _ rfl nofun⟩
  obtain ⟨content, given, bytes⟩ := told "Probe panicked: a\x00b" ⟨[], _, [], rfl, rfl, nofun⟩
  exact ⟨content, given, bytes⟩

end ComputeHandles
