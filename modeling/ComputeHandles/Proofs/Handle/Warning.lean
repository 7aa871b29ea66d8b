import ComputeHandles.Proofs.Device.Enumeration
import ComputeHandles.Proofs.Handle.Asking
import ComputeHandles.Proofs.Handle.Call

/-!
# Warnings and failure values

What goes on inside an exported function is recorded for debugging only, listing the devices of
the process apart, which may ignore a malformed filter string with a warning. So but for that
warning, which the one call that lists the devices writes whether or not it fails, a warning is
written exactly when the function fails, one for each failure and with the text that becomes the
last error. Where no value of a function is its failure value, the failure value tells a failure
from a value; a score and the answer to a question can be the failure value without a failure,
and then there is no warning of one.
-/

namespace ComputeHandles

/-- A reply is the failure value: the null handle, no text, minus one or false. -/
def Reply.IsFailure : Reply → Prop
  | .handle live => live = false
  | .text content => content = none
  | .number value => value = -1
  | .flag value => value = false
  | .deleted | .cleared | .target _ _ => False

/-- The failure value of a function can be its value too: a device may be rejected, and a
question may be answered by no. -/
def ExportedFunction.MayAnswerFailure {sort : ResultSort} : ExportedFunction sort → Prop
  | .scoreDevice _ _ | .deviceIsHost _ | .devicesEqual _ _ | .contextsEqual _ _
  | .queueInOrder _ | .queueProfiling _ | .queuesEqual _ _ | .bundleHasKernel _ _ => True
  | _ => False

/-- A call of a function lists the devices of the process: they were not listed before, and the
function asks for them. -/
def ExportedFunction.ListsDevices (w : World) {sort : ResultSort}
    (function : ExportedFunction sort) : Prop :=
  w.inventory.listed = false ∧ function.AsksForDevices w.slots

/-- The warnings of listing the devices that a call of a function writes. -/
inductive ExportedFunction.ListingWarnings (w : World) {sort : ResultSort}
    (function : ExportedFunction sort) : List Record → Prop where
  /-- It lists them under a text that is no filter string, which is ignored. -/
  | ignored {e : FilterError} (lists : function.ListsDevices w)
      (malformed : HoldsMalformed w.inventory.environment e) :
    ListingWarnings w function [⟨.warn, "Ignoring SYCL_DEVICE_FILTER: " ++ e.message⟩]
  /-- It does not list them, or there is no such text. -/
  | none (quiet : ¬ (function.ListsDevices w ∧ ∃ e, HoldsMalformed w.inventory.environment e)) :
    ListingWarnings w function []

/-- Behind other warnings a function tells of a failure: by one warning, whose text becomes the
last error and starts with the name of the function. -/
def Effect.Tells (function : String) (others : List Record) (e : Effect) : Prop :=
  ∃ text, warnings e.log = others ++ [⟨.warn, text⟩] ∧ e.world.lastError = some text ∧
    ∃ rest, text = function ++ ": " ++ rest ∨ text = function ++ " panicked: " ++ rest

/-- Nothing is told behind other warnings: there are only these, and the last error is the one
before. -/
def Effect.Silent (before : World) (others : List Record) (e : Effect) : Prop :=
  warnings e.log = others ∧ e.world.lastError = before.lastError

section Listing

variable {value : Option (List UInt8)} {e e' : FilterError}

/-- A text that is no filter string has one error. -/
theorem HoldsMalformed.unique (h : HoldsMalformed value e) (h' : HoldsMalformed value e') :
    e = e' := by
  obtain ⟨text, holds, refused⟩ := h
  obtain ⟨other, holds', refused'⟩ := h'
  rw [← environmentText?_eq_some_iff] at holds holds'
  obtain rfl : text = other := Option.some.inj (holds.symm.trans holds')
  exact Except.error.inj (refused.symm.trans refused')

/-- The warnings of listing the devices are those of reading the environment. -/
theorem warnings_enumerate (value : Option (List UInt8)) :
    warnings (Device.enumerate value).log =
      warnings (Enumeration.restricted (environmentText? value)).log := by
  rw [Device.enumerate, warnings, List.filter_append]
  exact List.append_nil _

/-- Listing the devices under a text that is no filter string warns of it. -/
theorem HoldsMalformed.warnings_eq (h : HoldsMalformed value e) :
    warnings (Device.enumerate value).log =
      [⟨.warn, "Ignoring SYCL_DEVICE_FILTER: " ++ e.message⟩] := by
  rw [warnings_enumerate, h.restricted_eq]
  rfl

/-- Listing the devices warns of nothing else. -/
theorem warnings_enumerate_eq_nil (h : ¬ ∃ e, HoldsMalformed value e) :
    warnings (Device.enumerate value).log = [] := by
  rw [warnings_enumerate]
  obtain ⟨filters, -, restricted⟩ | ⟨e, malformed, -⟩ | unrestricted := restricted_cases value
  · rw [restricted]
    rfl
  · exact absurd ⟨e, malformed⟩ h
  · rw [unrestricted]
    rfl

end Listing

namespace ExportedFunction

variable {w : World} {sort : ResultSort} {function : ExportedFunction sort}

/-- The warnings of listing the devices are determined. -/
theorem ListingWarnings.unique {some other : List Record} (h : function.ListingWarnings w some)
    (h' : function.ListingWarnings w other) : some = other := by
  cases h with
  | ignored lists malformed =>
    cases h' with
    | ignored _ malformed' => rw [malformed.unique malformed']
    | none quiet => exact absurd ⟨lists, _, malformed⟩ quiet
  | none quiet =>
    cases h' with
    | ignored lists malformed => exact absurd ⟨lists, _, malformed⟩ quiet
    | none => rfl

/-- What a function does inside the boundary warns of nothing but what listing the devices warns
of. -/
theorem listingWarnings_perform (w : World) (function : ExportedFunction sort) :
    function.ListingWarnings w
      (warnings (function.perform w.slots w.inventory w.ticket).log) := by
  obtain ⟨inner, asked, calm, asks, performed⟩ :=
    function.exists_perform_eq w.slots w.inventory.environment w.ticket
  have warned : warnings (function.perform w.slots w.inventory w.ticket).log =
      warnings (w.inventory.dueIf asked) := by
    rw [performed w.inventory rfl, warnings, List.filter_append, ← warnings, ← warnings, calm.1,
      List.append_nil]
  rw [warned]
  by_cases lists : function.ListsDevices w
  · have due : w.inventory.dueIf asked = (Device.enumerate w.inventory.environment).log := by
      rw [Inventory.dueIf, if_pos (asks.mpr lists.2), Inventory.due, lists.1]
      rfl
    rw [due]
    by_cases malformed : ∃ e, HoldsMalformed w.inventory.environment e
    · obtain ⟨e, malformed⟩ := malformed
      rw [malformed.warnings_eq]
      exact .ignored lists malformed
    · rw [warnings_enumerate_eq_nil malformed]
      exact .none fun both => malformed both.2
  · have due : w.inventory.dueIf asked = [] := by
      cases asked with
      | false => rfl
      | true =>
        have listed : w.inventory.listed = true := by
          rw [← Bool.not_eq_false]
          exact fun unlisted => lists ⟨unlisted, asks.mp rfl⟩
        rw [Inventory.dueIf, if_pos rfl, Inventory.due, if_pos listed]
    rw [due]
    exact .none fun both => lists both.1

/-- After a call of a function the devices are listed if they were before or if the function asks
for them. -/
theorem listed_perform_iff (w : World) (function : ExportedFunction sort) (out : String) :
    ((Call.guarded function out).perform w).world.inventory.listed = true ↔
      w.inventory.listed = true ∨ function.AsksForDevices w.slots := by
  obtain ⟨inner, asked, -, asks, performed⟩ :=
    function.exists_perform_eq w.slots w.inventory.environment w.ticket
  have kept : (function.perform w.slots w.inventory w.ticket).asked = asked := by
    rw [performed w.inventory rfl]
  rw [Call.inventory_perform_guarded, kept, ← asks]
  exact Bool.or_eq_true_iff

end ExportedFunction

/-- The number of a backend is not negative. -/
theorem Backend.code_nonneg (b : Backend) : 0 ≤ b.code := by
  cases b <;> decide

/-- The number of a device type is not negative. -/
theorem DeviceType.code_nonneg (t : DeviceType) : 0 ≤ t.code := by
  cases t <;> decide

/-- A number that is not negative is not the failure value. -/
theorem ResultSort.not_isFailure_of_nonneg {n : Int} (h : 0 ≤ n) :
    ¬ (ResultSort.number.reply (some n)).IsFailure := by
  change ¬ n = -1
  omega

/-- A value of a function whose failure value is none of its values is not that. -/
theorem ExportedFunction.not_isFailure_of_perform {sort : ResultSort}
    {function : ExportedFunction sort} (distinct : ¬ function.MayAnswerFailure) {slots : Slots}
    {inventory : Inventory} {ticket : Nat} {value : sort.Value}
    (h : (function.perform slots inventory ticket).result = .ok value) :
    ¬ (sort.reply (some value)).IsFailure := by
  cases function with
  | deviceBackend device =>
    obtain ⟨d, -, given⟩ := Attempt.result_bind_eq_ok_iff.mp h
    cases given
    exact ResultSort.not_isFailure_of_nonneg d.kind.backend.code_nonneg
  | deviceType device =>
    obtain ⟨d, -, given⟩ := Attempt.result_bind_eq_ok_iff.mp h
    cases given
    exact ResultSort.not_isFailure_of_nonneg d.kind.deviceType.code_nonneg
  | contextDeviceCount context =>
    obtain ⟨c, -, given⟩ := Attempt.result_bind_eq_ok_iff.mp h
    cases given
    exact ResultSort.not_isFailure_of_nonneg (Int.natCast_nonneg c.deviceCount)
  | bundleKernelCount bundle =>
    obtain ⟨b, -, given⟩ := Attempt.result_bind_eq_ok_iff.mp h
    cases given
    exact ResultSort.not_isFailure_of_nonneg (Int.natCast_nonneg b.kernelNames.length)
  | kernelArgumentCount kernel =>
    obtain ⟨k, -, given⟩ := Attempt.result_bind_eq_ok_iff.mp h
    cases given
    exact ResultSort.not_isFailure_of_nonneg (Int.natCast_nonneg k.arguments.toNat)
  | waitForQueue queue =>
    obtain ⟨q, -, rest⟩ := Attempt.result_bind_eq_ok_iff.mp h
    obtain ⟨-, -, given⟩ := Attempt.result_bind_eq_ok_iff.mp rest
    cases given
    exact nofun
  | scoreDevice | deviceIsHost | devicesEqual | contextsEqual | queueInOrder | queueProfiling
  | queuesEqual | bundleHasKernel => exact absurd trivial distinct
  | _ => simp [ResultSort.reply, Reply.IsFailure]

/-- No value is answered by the failure value. -/
theorem ResultSort.isFailure_none (sort : ResultSort) : (sort.reply none).IsFailure := by
  cases sort <;> rfl

namespace Call

variable {w : World} {sort : ResultSort} {function : ExportedFunction sort}

/-- A function that has a fault answers the failure value. -/
theorem isFailure_of_error {fault : Fault}
    (h : (function.perform w.slots w.inventory w.ticket).result = .error fault) (out : String) :
    ((Call.guarded function out).perform w).reply.IsFailure := by
  rw [perform_guarded_of_error h]
  exact sort.isFailure_none

variable {others : List Record} (listing : function.ListingWarnings w others)

include listing

/-- A function that gives a value tells nothing. -/
theorem silent_of_ok {value : sort.Value}
    (h : (function.perform w.slots w.inventory w.ticket).result = .ok value) (out : String) :
    ((Call.guarded function out).perform w).Silent w others := by
  rw [perform_guarded_of_ok h]
  exact ⟨(function.listingWarnings_perform w).unique listing, rfl⟩

/-- A function that has a fault tells of it. -/
theorem tells_of_error {fault : Fault}
    (h : (function.perform w.slots w.inventory w.ticket).result = .error fault) (out : String) :
    ((Call.guarded function out).perform w).Tells function.name others := by
  rw [perform_guarded_of_error h]
  refine ⟨fault.toldBy function.name, ?_, rfl, fault.exists_toldBy function.name⟩
  rw [warnings, List.filter_append, ← warnings,
    (function.listingWarnings_perform w).unique listing]
  rfl

end Call

/-- What is told has a warning behind the others. -/
theorem Effect.Tells.warnings_ne {function : String} {others : List Record} {e : Effect}
    (h : e.Tells function others) : warnings e.log ≠ others := by
  obtain ⟨text, warned, -⟩ := h
  rw [warned]
  simp

/-- The one call that lists the devices of the process, under a text in the environment that is
no filter string, warns that the text is ignored, whether or not it fails. But for that warning a
call of a function whose failure value is none of its values answers that exactly when it tells
of a failure, with one warning whose text becomes the last error and starts with the name of the
function, and is silent otherwise. Of the other functions every fault is told likewise and every
value is given in silence, so the failure value without a warning of a fault is a value. A selector
by type is always handed out in silence. -/
theorem isFailure_iff_tells (w : World) :
    (∀ {sort : ResultSort} (function : ExportedFunction sort) (out : String),
        let e := (Call.guarded function out).perform w
        let inside := (function.perform w.slots w.inventory w.ticket).result
        ∃ ignored, function.ListingWarnings w ignored ∧
          (e.world.inventory.listed = true ↔
            w.inventory.listed = true ∨ function.AsksForDevices w.slots) ∧
          (¬ function.MayAnswerFailure →
            (e.reply.IsFailure ↔ e.Tells function.name ignored) ∧
              (¬ e.reply.IsFailure → e.Silent w ignored)) ∧
          (function.MayAnswerFailure →
            (∀ fault, inside = .error fault →
                e.reply.IsFailure ∧ e.Tells function.name ignored) ∧
              (∀ value, inside = .ok value → e.Silent w ignored) ∧
              (e.reply.IsFailure → warnings e.log = ignored →
                (∃ value, inside = .ok value ∧ e.reply = sort.reply (some value)) ∧
                  e.world.lastError = w.lastError))) ∧
      ∀ (type : Option DeviceType) (out : String),
        let e := (Call.fixedSelector type out).perform w
        ¬ e.reply.IsFailure ∧ e.Silent w [] := by
  refine ⟨?_, ?_⟩
  · intro sort function out e inside
    have listing := function.listingWarnings_perform w
    refine ⟨_, listing, function.listed_perform_iff w out, fun distinct => ?_,
      fun _ => ⟨?_, fun value h => Call.silent_of_ok listing h out, ?_⟩⟩
    · cases h : inside with
      | ok value =>
        have silent : e.Silent w _ := Call.silent_of_ok listing h out
        have answered : ¬ e.reply.IsFailure := by
          have reply : e.reply = sort.reply (some value) := by
            rw [show e = _ from Call.perform_guarded_of_ok h out]
          rw [reply]
          exact function.not_isFailure_of_perform distinct h
        refine ⟨⟨fun failure => absurd failure answered, ?_⟩, fun _ => silent⟩
        intro told
        exact absurd silent.1 told.warnings_ne
      | error fault =>
        have failure := Call.isFailure_of_error h out
        exact ⟨⟨fun _ => Call.tells_of_error listing h out, fun _ => failure⟩,
          fun answered => absurd failure answered⟩
    · intro fault h
      exact ⟨Call.isFailure_of_error h out, Call.tells_of_error listing h out⟩
    · intro failure unwarned
      cases h : inside with
      | ok value =>
        refine ⟨⟨value, rfl, ?_⟩, (Call.silent_of_ok listing h out).2⟩
        rw [show e = _ from Call.perform_guarded_of_ok h out]
      | error fault => exact absurd unwarned (Call.tells_of_error listing h out).warnings_ne
  · intro type out e
    exact ⟨nofun, rfl, rfl⟩

/-- A process under a text that is no filter string: the devices are not listed yet, and there is
a selector by preference and one of a type that is not found. -/
def World.underMalformedFilter : World :=
  let w := World.begin ⟨some (Text.utf8Encode "vulkan".toList), false⟩
  let preferred := (Call.fixedSelector none "any").perform w
  ((Call.fixedSelector (some .gpu) "gpu").perform preferred.world).world

/-- What listing the devices warns of there. -/
def malformedFilterWarning : Record :=
  ⟨.warn, "Ignoring SYCL_DEVICE_FILTER: " ++
    (FilterError.unexpectedToken "vulkan" "vulkan").message⟩

/-- The type is not found, which is told behind the warning of listing the devices. -/
theorem isFailure_iff_tells_underMalformedFilter :
    let w := World.underMalformedFilter
    let function : ExportedFunction (.handle .device) := .createDevice (some "gpu")
    ¬ function.MayAnswerFailure ∧ function.ListsDevices w ∧
      ((Call.guarded function "d").perform w).Tells function.name [malformedFilterWarning] := by
  intro w function
  have lists : function.ListsDevices w := ⟨rfl, .select rfl⟩
  have malformed : HoldsMalformed w.inventory.environment _ := ⟨"vulkan", rfl, rfl⟩
  obtain ⟨ignored, listing, -, tells, -⟩ := (isFailure_iff_tells w).1 function "d"
  have warned : ignored = [malformedFilterWarning] := listing.unique (.ignored lists malformed)
  rw [warned] at tells
  exact ⟨nofun, lists, (tells nofun).1.mp rfl⟩

/-- A warning need not tell of a failure, and a failure need not be told by one warning alone: the
first device that is selected may be handed out with the warning of listing the devices, and if
none is selected, that warning may come in front of the one of the failure. -/
theorem warned_underMalformedFilter :
    let w := World.underMalformedFilter
    let given := (Call.guarded (.createDevice (some "any")) "d").perform w
    let refused := (Call.guarded (.createDevice (some "gpu")) "d").perform w
    (¬ given.reply.IsFailure ∧ ¬ given.Silent w []) ∧
      refused.reply.IsFailure ∧ ¬ refused.Tells "SyclDevice_CreateFromSelector" [] := by
  intro w given refused
  have alone : warnings given.log = [malformedFilterWarning] := by rfl
  have inFront : warnings refused.log = [malformedFilterWarning,
      ⟨.warn, "SyclDevice_CreateFromSelector: No device found for selector gpu!"⟩] := by rfl
  refine ⟨⟨nofun, ?_⟩, rfl, ?_⟩
  · rintro ⟨silent, -⟩
    rw [alone] at silent
    exact List.cons_ne_nil _ _ silent
  · rintro ⟨text, single, -⟩
    rw [inFront] at single
    exact absurd (congrArg List.length single) (by simp)

end ComputeHandles
