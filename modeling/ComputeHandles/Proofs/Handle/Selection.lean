import ComputeHandles.Proofs.Device.Enumeration
import ComputeHandles.Proofs.Handle.Asking
import ComputeHandles.Proofs.Handle.Call

/-!
# Selecting, retaining and scoring agree

A device is selected from a list exactly when some device of it is retained, and then it is one
of those. The devices listed under an environment value are distinct, so the score of a listed
device is that of its position. So an exported function hands out a device for a selector
exactly when another one scores some listed device without rejecting it, and then it is a
device that no listed device outscores.
-/

namespace ComputeHandles

open Listing

variable {s : Selector} {devices : List Device} {device : Device}

namespace Selector

/-- There is no best device exactly when none is retained. -/
theorem bestOf_eq_none_iff : s.bestOf devices = none ↔ s.retain devices = [] := by
  rw [← not_iff_not, ← ne_eq, ← ne_eq, retain_ne_nil_iff, ← exists_bestOf_iff,
    Option.ne_none_iff_exists']

/-- Selecting from a list succeeds exactly when some device of it is retained. -/
theorem exists_selectFrom_iff :
    (∃ device, (s.selectFrom devices).result = .ok device) ↔ s.retain devices ≠ [] := by
  simp only [result_selectFrom_eq_ok_iff]
  rw [exists_bestOf_iff, retain_ne_nil_iff]

/-- Selecting from a list fails exactly when no device of it is retained, and then for the text
of the selector. -/
theorem result_selectFrom_eq_error_iff {e : DeviceNotFound} :
    (s.selectFrom devices).result = .error e ↔ s.retain devices = [] ∧ e = ⟨s.text⟩ := by
  rw [result_selectFrom, ← bestOf_eq_none_iff]
  cases s.bestOf devices with
  | none => simp [eq_comm]
  | some device => simp

/-- What is selected from a list has its place among the retained devices. -/
theorem exists_place_of_selectFrom (selected : (s.selectFrom devices).result = .ok device) :
    ∃ i, best (s.scoreAll devices) = some i ∧ devices[i]? = some device ∧
      (s.retain devices)[s.retainedBefore devices i]? = some device := by
  obtain ⟨i, position, there⟩ := bestOf_eq_some_iff.mp (result_selectFrom_eq_ok_iff.mp selected)
  exact ⟨i, position, there, getElem?_retain_of_best position there⟩

/-- In a list that names each device once, there is a best device exactly when the score of some
device does not reject it. -/
theorem exists_bestOf_iff_scoreAmong (distinct : devices.Nodup) :
    (∃ device, s.bestOf devices = some device) ↔
      ∃ device ∈ devices, 0 ≤ s.scoreAmong devices device := by
  rw [exists_bestOf_iff, scoreAll_of_nodup distinct]
  simp

/-- The best device of a list is one of them. -/
theorem mem_of_bestOf (h : s.bestOf devices = some device) : device ∈ devices := by
  obtain ⟨i, -, there⟩ := bestOf_eq_some_iff.mp h
  exact List.mem_of_getElem? there

end Selector

namespace Slots

variable {slots : Slots} {kind : HandleKind}

/-- The argument that names a slot stands for what was written there. -/
theorem find_put_self (slots : Slots) (kind : HandleKind) (name : String)
    (target : Option kind.Target) : (slots.put kind name target).find kind (some name) = target :=
  get_put_self slots kind name target

/-- Writing to a slot leaves the arguments of other kinds alone. -/
theorem find_put_of_ne_kind {otherKind : HandleKind} {name : String}
    {target : Option kind.Target} (h : kind ≠ otherKind) (slot : HandleArgument) :
    (slots.put kind name target).find otherKind slot = slots.find otherKind slot := by
  cases slot with
  | none => rfl
  | some other => exact get_put_of_ne_kind h

end Slots

namespace World

/-- The world with a device in a slot. -/
def holding (w : World) (name : String) (device : Device) : World :=
  { w with slots := w.slots.put .device name (some device) }

/-- The exported function replies a score for a selector and a device, whatever slot the device
is in. -/
def Scores (w : World) (selector : HandleArgument) (device : Device) (score : Int) : Prop :=
  ∀ name out, ((Call.guarded (.scoreDevice selector (some name)) out).perform
    (w.holding name device)).reply = .number score

end World

section Exported

variable {w : World} {selector : HandleArgument} (live : w.slots.find .selector selector = some s)

include live

/-- With two live handles the exported score is that among the listed devices. -/
theorem Call.reply_scoreDevice {slot : HandleArgument}
    (there : w.slots.find .device slot = some device) (out : String) :
    ((Call.guarded (.scoreDevice selector slot) out).perform w).reply =
      .number (s.scoreAmong w.inventory.devices device) := by
  let function : ExportedFunction .number := .scoreDevice selector slot
  have value : (function.perform w.slots w.inventory w.ticket).result =
      .ok (s.scoreAmong w.inventory.devices device) := by
    rw [ExportedFunction.perform, Slots.require_eq_ok live, Slots.require_eq_ok there]
    rfl
  rw [Call.perform_guarded_of_ok value]
  rfl

/-- A device that is put into a slot scores what it scores among the listed devices. -/
theorem Call.reply_scoreDevice_of_put {after : World} {name : String}
    (held : after.slots = w.slots.put .device name (some device))
    (same : after.inventory.devices = w.inventory.devices) (out : String) :
    ((Call.guarded (.scoreDevice selector (some name)) out).perform after).reply =
      .number (s.scoreAmong w.inventory.devices device) := by
  rw [← same]
  apply reply_scoreDevice
  · rw [held, Slots.find_put_of_ne_kind (by decide), live]
  · rw [held]
    exact Slots.find_put_self w.slots .device name (some device)

/-- With a live selector a device scores what it scores among the listed devices. -/
theorem World.scores_iff {score : Int} :
    w.Scores selector device score ↔ score = s.scoreAmong w.inventory.devices device := by
  have reply : w.Scores selector device (s.scoreAmong w.inventory.devices device) :=
    fun _ => Call.reply_scoreDevice_of_put live rfl rfl
  constructor
  · intro scores
    have same := (scores "" "").symm.trans (reply "" "")
    cases same
    rfl
  · rintro rfl
    exact reply

/-- With a live selector a handle to the best listed device is handed out, if there is one. -/
theorem Call.perform_createDevice (out : String) :
    let made := (Call.guarded (.createDevice selector) out).perform w
    let best := s.bestOf w.inventory.devices
    made.reply = .handle best.isSome ∧ made.world.slots = w.slots.put .device out best := by
  let function : ExportedFunction (.handle .device) := .createDevice selector
  have outcome : (function.perform w.slots w.inventory w.ticket).result =
      (s.selectFrom w.inventory.devices).result.mapError Fault.ofNotFound := by
    rw [ExportedFunction.perform, Slots.require_eq_ok live]
    rfl
  rw [Selector.result_selectFrom] at outcome
  intro made best
  cases chosen : s.bestOf w.inventory.devices with
  | none =>
    rw [chosen] at outcome
    rw [show made = _ from perform_guarded_of_error outcome out, show best = none from chosen]
    exact ⟨rfl, rfl⟩
  | some device =>
    rw [chosen] at outcome
    rw [show made = _ from perform_guarded_of_ok outcome out, show best = some device from chosen]
    exact ⟨rfl, rfl⟩

end Exported

/-- Selecting from a list succeeds exactly when some device is retained, which is when some score
does not reject. The device then stands among the retained ones behind those that were in front
of it, and otherwise the error carries the text of the selector. Of the devices listed under an
environment value one is selected exactly when the selector scores one of them without rejecting
it, and no other scores more. The exported functions agree in this, whatever the environment of
the process and a live selector given: a handle is handed out exactly when some listed device
gets a score that is not negative, and the device of the handle gets a score that no listed
device exceeds. -/
theorem selection_agrees (s : Selector) :
    (∀ devices,
      ((∃ device, (s.selectFrom devices).result = .ok device) ↔ s.retain devices ≠ []) ∧
      (s.retain devices ≠ [] ↔ ∃ score ∈ s.scoreAll devices, 0 ≤ score) ∧
      (∀ device, (s.selectFrom devices).result = .ok device →
        ∃ i, best (s.scoreAll devices) = some i ∧ devices[i]? = some device ∧
          (s.retain devices)[s.retainedBefore devices i]? = some device) ∧
      ∀ e, (s.selectFrom devices).result = .error e ↔ s.retain devices = [] ∧ e = ⟨s.text⟩) ∧
    (∀ value, let listed := (Device.enumerate value).devices
      ((∃ device, (s.selectFrom listed).result = .ok device) ↔
        ∃ device ∈ listed, 0 ≤ s.scoreAmong listed device) ∧
      ∀ device, (s.selectFrom listed).result = .ok device → device ∈ listed ∧
        ∀ other ∈ listed, s.scoreAmong listed other ≤ s.scoreAmong listed device) ∧
    ∀ (w : World) (selector : HandleArgument) (out : String),
      w.slots.find .selector selector = some s →
      let made := (Call.guarded (.createDevice selector) out).perform w
      let listed := w.inventory.devices
      (made.reply = .handle true ↔
        ∃ device ∈ listed, ∃ score, w.Scores selector device score ∧ 0 ≤ score) ∧
      (made.reply = .handle true → ∃ device ∈ listed, ∃ score,
        made.world.slots.get .device out = some device ∧
        (∀ slot, ((Call.guarded (.scoreDevice selector (some out)) slot).perform
          made.world).reply = .number score) ∧
        ∀ other ∈ listed, ∀ lower, w.Scores selector other lower → lower ≤ score) := by
  refine ⟨fun devices => ⟨Selector.exists_selectFrom_iff, Selector.retain_ne_nil_iff,
    fun _ => Selector.exists_place_of_selectFrom, fun _ => Selector.result_selectFrom_eq_error_iff⟩,
    ?_, ?_⟩
  · intro value listed
    have distinct : listed.Nodup := Device.nodup_enumerate value
    simp only [Selector.result_selectFrom_eq_ok_iff]
    refine ⟨Selector.exists_bestOf_iff_scoreAmong distinct, fun device chosen => ?_⟩
    exact ⟨Selector.mem_of_bestOf chosen, fun _ => Selector.scoreAmong_le_of_bestOf distinct chosen⟩
  · intro w selector out live made listed
    have distinct : listed.Nodup := Device.nodup_enumerate w.inventory.environment
    obtain ⟨reply, slots⟩ := Call.perform_createDevice live out
    have handedOut : made.reply = .handle true ↔
        ∃ device, s.bestOf listed = some device := by
      rw [reply, Reply.handle.injEq, Option.isSome_iff_exists]
    simp only [World.scores_iff live, handedOut]
    constructor
    · rw [Selector.exists_bestOf_iff_scoreAmong distinct]
      simp only [exists_eq_left]
      rfl
    · rintro ⟨device, chosen⟩
      rw [show s.bestOf w.inventory.devices = some device from chosen] at slots
      refine ⟨device, Selector.mem_of_bestOf chosen, s.scoreAmong listed device, ?_,
        Call.reply_scoreDevice_of_put live slots rfl, ?_⟩
      · rw [slots]
        exact Slots.get_put_self w.slots .device out (some device)
      · rintro other mem _ rfl
        exact Selector.scoreAmong_le_of_bestOf distinct chosen mem

example :
    let w := World.begin ⟨some (Text.utf8Encode "gpu".toList), false⟩
    let preferred := (Call.fixedSelector none "s").perform w
    let made := (Call.guarded (.createDevice (some "s")) "d").perform preferred.world
    made.reply = .handle false := by rfl

end ComputeHandles
