import ComputeHandles.Handle.Session

/-!
# Who asks for the devices

An exported function asks for the devices of the process only to score one of them or to select
one, and only once it has the handles it needs. All else that it does is recorded for debugging
only. So whether the devices were listed before makes no difference to what comes of a function,
and to its records only that those of listing the devices are in front of the others.
-/

namespace ComputeHandles

/-- The warnings among records. -/
def warnings (log : List Record) : List Record := log.filter fun r => r.level = .warn

/-- The records of listing the devices that an operation writes which asked for them or did
not. -/
def Inventory.dueIf (i : Inventory) (asked : Bool) : List Record := if asked then i.due else []

/-- A function gets as far as asking for the devices: to score a device with a selector, or to
select one, all with live handles. -/
inductive ExportedFunction.AsksForDevices (slots : Slots) :
    {sort : ResultSort} → ExportedFunction sort → Prop where
  /-- To score. -/
  | score {selector device : HandleArgument} {s : Selector} {d : Device}
      (liveSelector : slots.find .selector selector = some s)
      (liveDevice : slots.find .device device = some d) :
    AsksForDevices slots (.scoreDevice selector device)
  /-- To select. -/
  | select {selector : HandleArgument} {s : Selector}
      (live : slots.find .selector selector = some s) :
    AsksForDevices slots (.createDevice selector)

namespace Slots

variable {slots : Slots} {kind : HandleKind}

/-- A handle that is not null stands for its object. -/
theorem require_eq_ok {slot : HandleArgument} {target : kind.Target}
    (live : slots.find kind slot = some target) (argument : String) :
    slots.require kind argument slot = .ok target := by
  rw [require, live]

/-- The null handle stands for no object. -/
theorem require_eq_error {slot : HandleArgument} (null : slots.find kind slot = none)
    (argument : String) : slots.require kind argument slot = .error (.nullArgument argument) := by
  rw [require, null]

end Slots

/-- An attempt writes no warning and does not ask for the devices. -/
def Attempt.Calm {ε α : Type} (a : Attempt ε α) : Prop := warnings a.log = [] ∧ a.asked = false

namespace Attempt

variable {ε δ α β : Type}

/-- A value is calm. -/
@[simp] theorem calm_done (a : α) : (done a : Attempt ε α).Calm := ⟨rfl, rfl⟩

/-- A fault is calm. -/
@[simp] theorem calm_fail (e : ε) : (fail e : Attempt ε α).Calm := ⟨rfl, rfl⟩

/-- A lifted outcome is calm. -/
@[simp] theorem calm_ofExcept (outcome : Except ε α) : (ofExcept outcome).Calm := ⟨rfl, rfl⟩

/-- An outcome with its fault renamed is calm. -/
@[simp] theorem calm_ofExceptWith (f : δ → ε) (outcome : Except δ α) :
    (ofExceptWith f outcome).Calm := ⟨rfl, rfl⟩

/-- A note is calm. -/
@[simp] theorem calm_note (text : String) : (note text : Attempt ε Unit).Calm := ⟨rfl, rfl⟩

/-- Renaming a fault does not stir. -/
@[simp] theorem calm_mapError (f : ε → δ) (a : Attempt ε α) : (a.mapError f).Calm ↔ a.Calm :=
  Iff.rfl

/-- An operation after another is calm when both are. -/
theorem Calm.bind {first : Attempt ε α} {next : α → Attempt ε β} (calm : first.Calm)
    (rest : ∀ a, (next a).Calm) : (first >>= next).Calm := by
  cases h : first.result with
  | ok a =>
    rw [bind_of_ok h, Calm, warnings, List.filter_append, Bool.or_eq_false_iff]
    exact ⟨List.append_eq_nil_iff.mpr ⟨calm.1, (rest a).1⟩, calm.2, (rest a).2⟩
  | error e =>
    rw [bind_of_error h]
    exact calm

/-- An operation after a lifted outcome is calm when it is calm for every value. -/
@[simp] theorem calm_ofExcept_bind {outcome : Except ε α} {next : α → Attempt ε β}
    (rest : ∀ a, (next a).Calm) : (ofExcept outcome >>= next).Calm :=
  (calm_ofExcept outcome).bind rest

/-- An operation after an outcome with its fault renamed is calm when it is calm for every
value. -/
@[simp] theorem calm_ofExceptWith_bind {f : δ → ε} {outcome : Except δ α}
    {next : α → Attempt ε β} (rest : ∀ a, (next a).Calm) :
    (ofExceptWith f outcome >>= next).Calm :=
  (calm_ofExceptWith f outcome).bind rest

end Attempt

/-- Creating a context is calm. -/
@[simp] theorem Context.calm_create {ε : Type} (ticket : Nat) (device : Device) :
    (Context.create ticket device : Attempt ε Context).Calm := ⟨rfl, rfl⟩

/-- Creating a queue is calm. -/
@[simp] theorem Queue.calm_create {ε : Type} (ticket : Nat) (context : Context)
    (device : Device) (hasHandler : Bool) (properties : QueueProperties) :
    (Queue.create ticket context device hasHandler properties : Attempt ε Queue).Calm := ⟨rfl, rfl⟩

/-- Creating a queue in a context of its own is calm. -/
@[simp] theorem Queue.calm_forDevice {ε : Type} (ticket : Nat) (device : Device)
    (hasHandler : Bool) (properties : QueueProperties) :
    (Queue.forDevice ticket device hasHandler properties : Attempt ε Queue).Calm := ⟨rfl, rfl⟩

/-- Selecting from a list is calm. -/
@[simp] theorem Selector.calm_selectFrom (s : Selector) (devices : List Device) :
    (s.selectFrom devices).Calm := by
  refine .bind (Attempt.calm_note _) fun _ => ?_
  cases s.bestOf devices with
  | none => exact Attempt.calm_fail _
  | some device => exact Attempt.calm_done device

/-- Building from source is calm. -/
@[simp] theorem KernelBundle.calm_ofSource (context : Context) (device : Device)
    (source options : String) : (KernelBundle.ofSource context device source options).Calm := by
  cases device
  exact ⟨rfl, rfl⟩

/-- Building from a binary is calm. -/
@[simp] theorem KernelBundle.calm_ofSpirv (context : Context) (device : Device)
    (binary : List UInt8) (options : String) :
    (KernelBundle.ofSpirv context device binary options).Calm := by
  cases device
  exact Attempt.calm_ofExceptWith_bind fun m => ⟨rfl, rfl⟩

namespace ExportedFunction

variable {sort : ResultSort} {function : ExportedFunction sort} {slots : Slots}

/-- A score for which a handle is missing is refused, whatever the devices are. -/
theorem exists_perform_scoreDevice_eq_fail {selector device : HandleArgument}
    (quiet : ¬ (scoreDevice selector device).AsksForDevices slots) :
    ∃ fault, ∀ inventory ticket,
      (scoreDevice selector device).perform slots inventory ticket = Attempt.fail fault := by
  cases chosen : slots.find .selector selector with
  | none =>
    refine ⟨.nullArgument "selector", fun inventory ticket => ?_⟩
    rw [perform, Slots.require_eq_error chosen]
    rfl
  | some s =>
    cases scored : slots.find .device device with
    | none =>
      refine ⟨.nullArgument "device", fun inventory ticket => ?_⟩
      rw [perform, Slots.require_eq_ok chosen, Slots.require_eq_error scored]
      rfl
    | some d => exact absurd (.score chosen scored) quiet

/-- A selection for which the handle is missing is refused, whatever the devices are. -/
theorem exists_perform_createDevice_eq_fail {selector : HandleArgument}
    (quiet : ¬ (createDevice selector).AsksForDevices slots) :
    ∃ fault, ∀ inventory ticket,
      (createDevice selector).perform slots inventory ticket = Attempt.fail fault := by
  cases chosen : slots.find .selector selector with
  | none =>
    refine ⟨.nullArgument "selector", fun inventory ticket => ?_⟩
    rw [perform, Slots.require_eq_error chosen]
    rfl
  | some s => exact absurd (.select chosen) quiet

/-- What a function does that does not ask for the devices is calm. -/
theorem calm_perform (quiet : ¬ function.AsksForDevices slots) (inventory : Inventory)
    (ticket : Nat) : (function.perform slots inventory ticket).Calm := by
  cases function with
  | scoreDevice selector device =>
    obtain ⟨fault, refused⟩ := exists_perform_scoreDevice_eq_fail quiet
    rw [refused]
    exact Attempt.calm_fail fault
  | createDevice selector =>
    obtain ⟨fault, refused⟩ := exists_perform_createDevice_eq_fail quiet
    rw [refused]
    exact Attempt.calm_fail fault
  | bundleKernelName bundle index =>
    refine Attempt.calm_ofExcept_bind fun b => ?_
    cases b.kernelNames[index.toNat]? with
    | none => exact Attempt.calm_fail _
    | some name => exact Attempt.calm_ofExcept _
  | createQueue context device hasHandler properties =>
    refine Attempt.calm_ofExcept_bind fun c => Attempt.calm_ofExcept_bind fun d => ?_
    simp
  | buildSource context device source options =>
    refine Attempt.calm_ofExcept_bind fun c => Attempt.calm_ofExcept_bind fun d => ?_
    simp
  | buildSpirv context device binary options =>
    refine Attempt.calm_ofExcept_bind fun c => Attempt.calm_ofExcept_bind fun d => ?_
    simp
  | _ => simp [perform]

/-- What a function does that does not ask for the devices is the same whatever these are. -/
theorem perform_of_quiet (quiet : ¬ function.AsksForDevices slots) (inventory other : Inventory)
    (ticket : Nat) :
    function.perform slots inventory ticket = function.perform slots other ticket := by
  cases function with
  | scoreDevice selector device =>
    obtain ⟨fault, refused⟩ := exists_perform_scoreDevice_eq_fail quiet
    rw [refused, refused]
  | createDevice selector =>
    obtain ⟨fault, refused⟩ := exists_perform_createDevice_eq_fail quiet
    rw [refused, refused]
  | _ => rfl

/-- Whether the devices were listed before is told by the records of listing them alone: these
are in front of the others, which are no warnings, if the function asks for the devices. -/
theorem exists_perform_eq (function : ExportedFunction sort) (slots : Slots)
    (environment : Option (List UInt8)) (ticket : Nat) :
    ∃ (inner : Attempt Fault sort.Value) (asked : Bool), inner.Calm ∧
      (asked = true ↔ function.AsksForDevices slots) ∧
      ∀ i : Inventory, i.environment = environment →
        function.perform slots i ticket = ⟨i.dueIf asked ++ inner.log, asked, inner.result⟩ := by
  let devices := (Device.enumerate environment).devices
  by_cases asks : function.AsksForDevices slots
  · cases asks with
    | @score selector device s d liveSelector liveDevice =>
      refine ⟨Attempt.done (s.scoreAmong devices d), true, Attempt.calm_done _,
        iff_of_true rfl (.score liveSelector liveDevice), ?_⟩
      rintro i rfl
      rw [perform, Slots.require_eq_ok liveSelector, Slots.require_eq_ok liveDevice]
      rfl
    | @select selector s live =>
      refine ⟨(s.selectFrom devices).mapError Fault.ofNotFound, true,
        (Attempt.calm_mapError _ _).mpr (s.calm_selectFrom devices),
        iff_of_true rfl (.select live), ?_⟩
      rintro i rfl
      rw [perform, Slots.require_eq_ok live]
      rfl
  · have calm := calm_perform asks ⟨environment, true⟩ ticket
    refine ⟨function.perform slots ⟨environment, true⟩ ticket, false, calm,
      iff_of_false (by decide) asks, fun i _ => ?_⟩
    rw [perform_of_quiet asks i ⟨environment, true⟩]
    obtain ⟨_, asked⟩ := calm
    cases h : function.perform slots ⟨environment, true⟩ ticket
    simp_all [Inventory.dueIf]

end ExportedFunction

end ComputeHandles
