import ComputeHandles.Proofs.Handle.Asking

/-!
# Slots that are left alone

A step writes to the slots that it stores into or deletes, and to no others, on whatever
thread it is taken. All that it can do to the devices of the process is to list them. What a
function answers depends on the slots of its arguments alone, unless it creates something. So a
handle answers after any run of steps as it would have before, as long as no step wrote to its
slot; only the records of listing the devices are not written a second time.
-/

namespace ComputeHandles

/-- A slot, by the kind of its handles and its name. -/
abbrev SlotName := HandleKind × String

/-- The slot that a call stores into or deletes, if any. -/
def Call.written? : Call → Option SlotName
  | @Call.guarded (.handle kind) _ out => some (kind, out)
  | @Call.guarded .text _ _ | @Call.guarded .number _ _ | @Call.guarded .flag _ _ => none
  | .fixedSelector _ out => some (.selector, out)
  | .delete kind slot => slot.map (kind, ·)
  | .lastMessage | .clearError | .deleteText => none

mutual

/-- The slots that a step stores into or deletes. -/
def Step.written : Step → List SlotName
  | .call made => made.written?.toList
  | .adoptBundle _ out => [(.bundle, out)]
  | .adoptKernel _ _ _ out => [(.kernel, out)]
  | .inspect _ _ | .guard _ _ _ => []
  | .thread steps => Step.allWritten steps

/-- The slots that some of several steps store into or delete. -/
def Step.allWritten : List Step → List SlotName
  | [] => []
  | step :: rest => step.written ++ Step.allWritten rest

end

/-- The handle arguments of a function. -/
def ExportedFunction.handles {sort : ResultSort} :
    ExportedFunction sort → List (HandleKind × HandleArgument)
  | .createFilterSelector _ => []
  | .scoreDevice selector device => [(.selector, selector), (.device, device)]
  | .createDevice selector => [(.selector, selector)]
  | .copyDevice device | .deviceName device | .deviceVendor device | .deviceBackend device
  | .deviceType device | .deviceIsHost device | .createContext device
  | .createQueueForDevice device _ _ => [(.device, device)]
  | .devicesEqual a b => [(.device, a), (.device, b)]
  | .copyContext context | .contextDevice context | .contextDeviceCount context =>
    [(.context, context)]
  | .contextsEqual a b => [(.context, a), (.context, b)]
  | .createQueue context device _ _ | .buildSource context device _ _
  | .buildSpirv context device _ _ => [(.context, context), (.device, device)]
  | .queueContext queue | .queueDevice queue | .queueInOrder queue | .queueProfiling queue
  | .waitForQueue queue => [(.queue, queue)]
  | .queuesEqual a b => [(.queue, a), (.queue, b)]
  | .bundleHasKernel bundle _ | .bundleKernel bundle _ | .bundleKernelCount bundle
  | .bundleKernelName bundle _ => [(.bundle, bundle)]
  | .kernelArgumentCount kernel | .kernelName kernel | .copyKernel kernel => [(.kernel, kernel)]

/-- A function gives out something that was not there before. -/
def ExportedFunction.Creates {sort : ResultSort} : ExportedFunction sort → Prop
  | .createContext _ | .createQueueForDevice _ _ _ | .createQueue _ _ _ _ => True
  | _ => False

/-- A run of steps leaves the argument of a function alone: it is the null handle, or no step
stores into its slot or deletes it. -/
def LeftAlone (steps : List Step) (argument : HandleKind × HandleArgument) : Prop :=
  ∀ name, argument.2 = some name → (argument.1, name) ∉ Step.allWritten steps

namespace Slots

/-- Writing to a slot leaves the others alone. -/
theorem get_put_of_ne {slots : Slots} {kind otherKind : HandleKind} {name other : String}
    {target : Option kind.Target} (h : (otherKind, other) ≠ (kind, name)) :
    (slots.put kind name target).get otherKind other = slots.get otherKind other := by
  by_cases same : kind = otherKind
  · subst same
    exact get_put_of_ne_name fun names => h (by rw [names])
  · exact get_put_of_ne_kind same

/-- Slots that hold the same are the same. -/
theorem ext {a b : Slots} (h : ∀ kind name, a.get kind name = b.get kind name) : a = b :=
  congrArg Slots.mk (funext fun kind => funext fun name => h kind name)

/-- Emptying an empty slot changes no slot. -/
theorem erase_of_find_eq_none {slots : Slots} {kind : HandleKind} {slot : HandleArgument}
    (h : slots.find kind slot = none) : slots.erase kind slot = slots := by
  cases slot with
  | none => rfl
  | some name =>
    refine ext fun otherKind other => ?_
    by_cases same : (otherKind, other) = (kind, name)
    · cases same
      exact (get_put_self slots kind name none).trans h.symm
    · exact get_put_of_ne same

end Slots

/-- A call leaves a slot alone that it does not write to. -/
theorem Call.get_perform {call : Call} {kind : HandleKind} {name : String}
    (h : (kind, name) ∉ call.written?) (w : World) :
    (call.perform w).world.slots.get kind name = w.slots.get kind name := by
  cases call with
  | @guarded sort function out =>
    cases sort with
    | handle sortKind => exact Slots.get_put_of_ne fun same => h (by rw [same]; rfl)
    | text | number | flag => rfl
  | fixedSelector type out => exact Slots.get_put_of_ne fun same => h (by rw [same]; rfl)
  | delete deleted slot =>
    cases slot with
    | none => rfl
    | some out => exact Slots.get_put_of_ne fun same => h (by rw [same]; rfl)
  | lastMessage | clearError | deleteText => rfl

mutual

/-- A step leaves a slot alone that it does not write to. -/
theorem Step.get_run {kind : HandleKind} {name : String} (step : Step) (w : World)
    (h : (kind, name) ∉ step.written) :
    (step.run w).2.slots.get kind name = w.slots.get kind name := by
  cases step with
  | call made => exact Call.get_perform (fun mem => h (Option.mem_toList.mpr mem)) w
  | adoptBundle names out =>
    exact Slots.get_put_of_ne fun same => h (List.mem_singleton.mpr same)
  | adoptKernel bundle kernel arguments out =>
    exact Slots.get_put_of_ne fun same => h (List.mem_singleton.mpr same)
  | inspect kind slot => rfl
  | guard function failure outcome => rfl
  | thread steps => exact Step.get_runAll steps { w with lastError := none } h

/-- A run leaves a slot alone that none of its steps writes to. -/
theorem Step.get_runAll {kind : HandleKind} {name : String} (steps : List Step) (w : World)
    (h : (kind, name) ∉ Step.allWritten steps) :
    (Step.runAll w steps).2.slots.get kind name = w.slots.get kind name := by
  cases steps with
  | nil => rfl
  | cons step rest =>
    rw [Step.allWritten, List.mem_append, not_or] at h
    have later := Step.get_runAll rest (step.run w).2 h.2
    rw [Step.get_run step w h.1] at later
    exact later

end

/-- What an argument stands for after a run that left it alone. -/
theorem LeftAlone.find_eq {steps : List Step} {argument : HandleKind × HandleArgument}
    (h : LeftAlone steps argument) (w : World) :
    (Step.runAll w steps).2.slots.find argument.1 argument.2 =
      w.slots.find argument.1 argument.2 := by
  obtain ⟨kind, slot⟩ := argument
  cases slot with
  | none => rfl
  | some name => exact Step.get_runAll steps w (h name rfl)

namespace Inventory

/-- An operation that did not ask for the devices leaves them alone. -/
@[simp] theorem after_false (i : Inventory) : i.after false = i := by
  simp [after]

/-- The devices are listed after two operations if one of them asked for them. -/
@[simp] theorem after_after (i : Inventory) (first second : Bool) :
    (i.after first).after second = i.after (first || second) := by
  simp [after, Bool.or_assoc]

end Inventory

/-- A call may list the devices and leaves them alone otherwise. -/
theorem Call.exists_inventory_perform (call : Call) (w : World) :
    ∃ asked, (call.perform w).world.inventory = w.inventory.after asked := by
  cases call with
  | guarded function out => exact ⟨_, rfl⟩
  | fixedSelector | delete | lastMessage | clearError | deleteText =>
    exact ⟨false, w.inventory.after_false.symm⟩

mutual

/-- A step may list the devices and leaves them alone otherwise. -/
theorem Step.exists_inventory_run (step : Step) (w : World) :
    ∃ asked, (step.run w).2.inventory = w.inventory.after asked := by
  cases step with
  | call made => exact made.exists_inventory_perform w
  | thread steps => exact Step.exists_inventory_runAll steps { w with lastError := none }
  | adoptBundle | adoptKernel | inspect | guard =>
    exact ⟨false, w.inventory.after_false.symm⟩

/-- A run may list the devices and leaves them alone otherwise. -/
theorem Step.exists_inventory_runAll (steps : List Step) (w : World) :
    ∃ asked, (Step.runAll w steps).2.inventory = w.inventory.after asked := by
  cases steps with
  | nil => exact ⟨false, w.inventory.after_false.symm⟩
  | cons step rest =>
    obtain ⟨first, next⟩ := Step.exists_inventory_run step w
    obtain ⟨later, after⟩ := Step.exists_inventory_runAll rest (step.run w).2
    rw [next, Inventory.after_after] at after
    exact ⟨first || later, after⟩

end

/-- A function does the same with slots that hold the same at its handle arguments. -/
theorem ExportedFunction.perform_congr {sort : ResultSort} {function : ExportedFunction sort}
    {a b : Slots} (h : ∀ argument ∈ function.handles,
      a.find argument.1 argument.2 = b.find argument.1 argument.2) (inventory : Inventory)
    (ticket : Nat) : function.perform a inventory ticket = function.perform b inventory ticket := by
  cases function <;> simp [handles] at h <;> simp [perform, Slots.require, h]

/-- A function that creates nothing does the same under every ticket. -/
theorem ExportedFunction.perform_ticket {sort : ResultSort} {function : ExportedFunction sort}
    (h : ¬ function.Creates) (slots : Slots) (inventory : Inventory) (ticket other : Nat) :
    function.perform slots inventory ticket = function.perform slots inventory other := by
  cases function with
  | createContext | createQueueForDevice | createQueue => exact absurd trivial h
  | _ => rfl

/-- After a run that left its arguments alone a function that creates nothing does what it did
before, the records of listing the devices in front of its own apart. -/
theorem ExportedFunction.exists_perform_runAll {sort : ResultSort}
    {function : ExportedFunction sort} (creates : ¬ function.Creates) {steps : List Step}
    (alone : ∀ argument ∈ function.handles, LeftAlone steps argument) (w : World) :
    let after := (Step.runAll w steps).2
    ∃ (log : List Record) (asked : Bool) (result : Except Fault sort.Value),
      (asked = true ↔ function.AsksForDevices w.slots) ∧
      function.perform w.slots w.inventory w.ticket =
        ⟨w.inventory.dueIf asked ++ log, asked, result⟩ ∧
      function.perform after.slots after.inventory after.ticket =
        ⟨after.inventory.dueIf asked ++ log, asked, result⟩ := by
  intro after
  obtain ⟨inner, asked, -, asks, performed⟩ :=
    function.exists_perform_eq w.slots w.inventory.environment w.ticket
  obtain ⟨_, listing⟩ := Step.exists_inventory_runAll steps w
  have environment : after.inventory.environment = w.inventory.environment := by
    rw [listing]
    rfl
  refine ⟨inner.log, asked, inner.result, asks, performed w.inventory rfl, ?_⟩
  -- The ticket has moved on, which only a creation could tell.
  rw [function.perform_ticket creates after.slots after.inventory after.ticket w.ticket,
    function.perform_congr (fun argument mem => (alone argument mem).find_eq w)]
  exact performed after.inventory environment

/-- Slots that no step of a run stores into or deletes hold what they held before, and all that
the run can have done to the devices of the process is to list them. So each function that
creates nothing, asked on any thread about arguments that the run left alone, replies what it
would have before, hands out a handle to the same object, and leaves the same last error to a
thread that had the same. It records the same as well; only the records of listing the devices,
for a function that asks for them, are in front where they were not listed yet. Deleting an
empty slot changes no slot. -/
theorem answers_of_leftAlone (w : World) (steps : List Step) :
    let after := (Step.runAll w steps).2
    (∀ kind name, (kind, name) ∉ Step.allWritten steps →
        after.slots.get kind name = w.slots.get kind name) ∧
      (∃ asked, after.inventory = w.inventory.after asked) ∧
      (∀ {sort : ResultSort} (function : ExportedFunction sort), ¬ function.Creates →
        (∀ argument ∈ function.handles, LeftAlone steps argument) →
        ∀ (out : String) (last lastAfter : Option String),
          let earlier := (Call.guarded function out).perform { w with lastError := last }
          let later := (Call.guarded function out).perform { after with lastError := lastAfter }
          later.reply = earlier.reply ∧
            (¬ function.AsksForDevices w.slots → later.log = earlier.log) ∧
            (function.AsksForDevices w.slots → ∃ rest,
              earlier.log = w.inventory.due ++ rest ∧ later.log = after.inventory.due ++ rest) ∧
            (∀ kind, sort = .handle kind →
              later.world.slots.get kind out = earlier.world.slots.get kind out) ∧
            (lastAfter = last → later.world.lastError = earlier.world.lastError)) ∧
      ∀ kind slot, w.slots.find kind slot = none →
        ((Call.delete kind slot).perform w).world.slots = w.slots := by
  intro after
  refine ⟨fun kind name h => Step.get_runAll steps w h, Step.exists_inventory_runAll steps w,
    ?_, fun kind slot => Slots.erase_of_find_eq_none⟩
  intro sort function creates alone out last lastAfter earlier later
  obtain ⟨log, asked, result, asks, before, now⟩ :=
    ExportedFunction.exists_perform_runAll creates alone w
  let inside := boundary function.name ⟨log, asked, result⟩
  have first : earlier.log = w.inventory.dueIf asked ++ inside.log := by
    simp only [earlier, Call.perform, before, boundary_append, inside]
  have second : later.log = after.inventory.dueIf asked ++ inside.log := by
    simp only [later, Call.perform, after, now, boundary_append, inside]
  refine ⟨?_, ?_, ?_, ?_, ?_⟩
  · simp only [later, earlier, Call.perform, after, before, now, boundary_append]
  · intro quiet
    rw [← asks, Bool.not_eq_true] at quiet
    rw [first, second, quiet]
    rfl
  · intro asking
    rw [asks.mpr asking] at first second
    exact ⟨inside.log, first, second⟩
  · rintro kind rfl
    simp only [later, earlier, Call.perform, after, before, now, boundary_append]
    exact (Slots.get_put_self _ kind out _).trans (Slots.get_put_self _ kind out _).symm
  · rintro rfl
    simp only [later, earlier, Call.perform, after, before, now, boundary_append]
    rfl

end ComputeHandles
