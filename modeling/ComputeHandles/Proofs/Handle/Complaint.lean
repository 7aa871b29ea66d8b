import ComputeHandles.Proofs.Handle.Arguments
import ComputeHandles.Proofs.Handle.Frame
import ComputeHandles.Proofs.Handle.Warning

/-!
# The first complaint

Every exported function reads its arguments in the order they are declared in, and does
nothing else before it has read them all. So the first argument that is not acceptable
decides what a call leaves behind, whatever is wrong with the arguments behind it and with
what the arguments hold.
-/

namespace ComputeHandles

open Text

/-- The complaint about the first of several arguments that is not acceptable. -/
inductive FirstComplaint (slots : Slots) : List Argument → String → Prop where
  /-- The first argument is not acceptable. -/
  | here {a : Argument} {text : String} (complaint : a.Complaint slots text)
      (later : List Argument) : FirstComplaint slots (a :: later) text
  /-- The first argument is acceptable. -/
  | behind {a : Argument} {later : List Argument} {text : String}
      (fine : ¬ a.given.Unacceptable slots) (rest : FirstComplaint slots later text) :
    FirstComplaint slots (a :: later) text

/-- An attempt reads arguments one after the other and then does some work. -/
inductive ReadsFirst (slots : Slots) {α : Type} (Work : Attempt Fault α → Prop) :
    List Argument → Attempt Fault α → Prop where
  /-- All arguments are read. -/
  | all {attempt : Attempt Fault α} (work : Work attempt) : ReadsFirst slots Work [] attempt
  /-- An argument is read, and a value of it is gone on with. -/
  | next {a : Argument} {later : List Argument} {β : Type} {outcome : Except Fault β}
      {go : β → Attempt Fault α} (read : a.ReadAs slots outcome)
      (rest : ∀ value, ReadsFirst slots Work later (go value)) :
    ReadsFirst slots Work (a :: later) (Attempt.ofExcept outcome >>= go)
  /-- An argument that is always acceptable needs no reading. -/
  | pass {a : Argument} {later : List Argument} {attempt : Attempt Fault α}
      (fine : ¬ a.given.Unacceptable slots) (rest : ReadsFirst slots Work later attempt) :
    ReadsFirst slots Work (a :: later) attempt

/-- A fault comes from a check of what the arguments hold: of a build, a kernel or a position. -/
def Fault.FromCheck (fault : Fault) : Prop :=
  (∃ e, fault = .ofBuild e) ∨ (∃ e, fault = .ofKernel e) ∨
    ∃ index count, fault = .ofIndex index count

/-- An attempt ends in such a check. -/
def Attempt.FailsCheck {α : Type} (attempt : Attempt Fault α) : Prop :=
  ∃ fault, attempt.result = .error fault ∧ fault.FromCheck

/-- What a function does with its arguments is a check that fails: there is no backend to
build with, and none to make a kernel. -/
def ExportedFunction.EndsInCheck {sort : ResultSort} : ExportedFunction sort → Prop
  | .buildSource _ _ _ _ | .buildSpirv _ _ _ _ | .bundleKernel _ _ => True
  | _ => False

namespace ReadsFirst

variable {slots : Slots} {α : Type} {Work : Attempt Fault α → Prop} {arguments : List Argument}
  {attempt : Attempt Fault α}

/-- A last argument may be read for its value alone. -/
theorem last {a : Argument} {outcome : Except Fault α} (read : a.ReadAs slots outcome)
    (work : ∀ value, Work (Attempt.done value)) :
    ReadsFirst slots Work [a] (Attempt.ofExcept outcome) := by
  have whole : Attempt.ofExcept outcome >>= Attempt.done = Attempt.ofExcept outcome := by
    cases outcome <;> rfl
  rw [← whole]
  exact .next read fun value => .all (work value)

/-- The first complaint is all that comes of reading. -/
theorem exists_firstComplaint (h : ReadsFirst slots Work arguments attempt)
    (bad : ∃ a ∈ arguments, a.given.Unacceptable slots) :
    ∃ text, FirstComplaint slots arguments text ∧ attempt = Attempt.fail (.ofMessage text) := by
  -- The induction is on the arguments still to be read; those read before were acceptable.
  induction h with
  | all =>
    obtain ⟨a, mem, -⟩ := bad
    exact absurd mem List.not_mem_nil
  | next read rest ih =>
    cases read with
    | accepted fine =>
      rw [List.exists_mem_cons_iff] at bad
      obtain ⟨text, first, failed⟩ := ih _ (bad.resolve_left fine)
      exact ⟨text, .behind fine first, failed⟩
    | refused complaint => exact ⟨_, .here complaint _, rfl⟩
  | pass fine rest ih =>
    rw [List.exists_mem_cons_iff] at bad
    obtain ⟨text, first, failed⟩ := ih (bad.resolve_left fine)
    exact ⟨text, .behind fine first, failed⟩

/-- The work is done if every argument is acceptable. -/
theorem work (h : ReadsFirst slots Work arguments attempt)
    (fine : ∀ a ∈ arguments, ¬ a.given.Unacceptable slots) : Work attempt := by
  induction h with
  | all work => exact work
  | next read rest ih =>
    obtain ⟨first, later⟩ := List.forall_mem_cons.mp fine
    cases read with
    | accepted => exact ih _ later
    | refused complaint => exact absurd complaint.unacceptable first
  | pass _ rest ih => exact ih (List.forall_mem_cons.mp fine).2

end ReadsFirst

/-- A source build ends in a check. -/
theorem KernelBundle.failsCheck_ofSource (context : Context) (device : Device)
    (source options : String) :
    ((KernelBundle.ofSource context device source options).mapError
      Fault.ofBuild).FailsCheck := by
  refine ⟨.ofBuild (.reported (.kernelsUnsupported .host)), ?_, .inl ⟨_, rfl⟩⟩
  rw [Attempt.result_mapError, KernelBundle.result_ofSource]
  rfl

/-- A build of a binary ends in a check. -/
theorem KernelBundle.failsCheck_ofSpirv (context : Context) (device : Device)
    (binary : List UInt8) (options : String) :
    ((KernelBundle.ofSpirv context device binary options).mapError
      Fault.ofBuild).FailsCheck := by
  rw [Attempt.FailsCheck, Attempt.result_mapError, KernelBundle.result_ofSpirv]
  cases Spirv.KernelModule.parse binary with
  | ok m => exact ⟨_, rfl, .inl ⟨_, rfl⟩⟩
  | error fault => exact ⟨_, rfl, .inl ⟨_, rfl⟩⟩

/-- Making a kernel ends in a check. -/
theorem KernelBundle.failsCheck_kernel (bundle : KernelBundle) (name : String) :
    (Attempt.ofExceptWith Fault.ofKernel (bundle.kernel name)).FailsCheck := by
  rw [Attempt.FailsCheck, Attempt.result_ofExceptWith, KernelBundle.kernel]
  cases bundle.has name with
  | true => exact ⟨_, rfl, .inr (.inl ⟨_, rfl⟩)⟩
  | false => exact ⟨_, rfl, .inr (.inl ⟨_, rfl⟩)⟩

/-- A function reads its arguments in order, before all else. -/
theorem ExportedFunction.readsFirst_perform {sort : ResultSort}
    (function : ExportedFunction sort) (slots : Slots) (inventory : Inventory) (ticket : Nat) :
    ReadsFirst slots (fun attempt => function.EndsInCheck → attempt.FailsCheck)
      function.arguments (function.perform slots inventory ticket) := by
  -- The last case is that of the functions that read one handle and go on with its object.
  cases function with
  | copyDevice | copyContext | copyKernel => exact .last (.require _ _ _) fun _ => nofun
  | createFilterSelector filter => exact .next (.text _ filter) fun _ => .all nofun
  | scoreDevice | devicesEqual | contextsEqual | queuesEqual =>
    exact .next (.require _ _ _) fun _ => .next (.require _ _ _) fun _ => .all nofun
  | createQueueForDevice device hasHandler properties =>
    refine .next (.require _ _ _) fun _ => ?_
    refine .pass (Given.not_unacceptable id rfl nofun) ?_
    exact .next (.properties _ properties) fun _ => .all nofun
  | createQueue context device hasHandler properties =>
    refine .next (.require _ _ _) fun _ => .next (.require _ _ _) fun _ => ?_
    refine .pass (Given.not_unacceptable id rfl nofun) ?_
    exact .next (.properties _ properties) fun _ => .all nofun
  | buildSource context device source options =>
    refine .next (.require _ _ _) fun context => .next (.require _ _ _) fun device => ?_
    refine .next (.text _ source) fun source => .next (.options options) fun options => ?_
    exact .all fun _ => KernelBundle.failsCheck_ofSource context device source options
  | buildSpirv context device binary options =>
    refine .next (.require _ _ _) fun context => .next (.require _ _ _) fun device => ?_
    refine .next (.binary _ binary) fun binary => .next (.options options) fun options => ?_
    exact .all fun _ => KernelBundle.failsCheck_ofSpirv context device binary options
  | bundleHasKernel bundle name =>
    exact .next (.require _ _ _) fun _ => .next (.text _ name) fun _ => .all nofun
  | bundleKernel bundle name =>
    refine .next (.require _ _ _) fun bundle => .next (.text _ name) fun name => ?_
    exact .all fun _ => bundle.failsCheck_kernel name
  | bundleKernelName bundle index =>
    refine .next (.require _ _ _) fun _ => ?_
    exact .pass (Given.not_unacceptable id rfl nofun) (.all nofun)
  | _ => exact .next (.require _ _ _) fun _ => .all nofun

/-- A text starts with a character. It tells what is said about an argument from what is said
about anything the arguments hold. -/
def OpensWith (text : String) (c : Char) : Prop := text.toList.head? = some c

/-- A text starts with what its first part starts with. -/
theorem OpensWith.append {left : String} {c : Char} (h : OpensWith left c) (right : String) :
    OpensWith (left ++ right) c := by
  rw [OpensWith, String.toList_append, List.head?_append, h]
  rfl

/-- A text starts with one character only. -/
theorem OpensWith.unique {text : String} {c d : Char} (hc : OpensWith text c)
    (hd : OpensWith text d) : c = d := Option.some.inj (hc.symm.trans hd)

/-- A complaint about an argument starts with A or I. -/
theorem Argument.Complaint.opensWith {slots : Slots} {a : Argument} {text : String}
    (h : a.Complaint slots text) : ∃ c ∈ ['A', 'I'], OpensWith text c := by
  have argument : OpensWith "Argument `" 'A' := rfl
  have properties : OpensWith "Invalid queue properties " 'I' := rfl
  cases h with
  | null => exact ⟨'A', by decide, (argument.append _).append _⟩
  | notUtf8 => exact ⟨'A', by decide, ((argument.append _).append _).append _⟩
  | unknownBit => exact ⟨'I', by decide, (properties.append _).append _⟩

/-- A complaint about a binary starts with S or F. -/
theorem Spirv.InvalidSpirv.opensWith (e : Spirv.InvalidSpirv) :
    ∃ c ∈ ['S', 'F'], OpensWith e.message c := by
  cases e with
  | empty => exact ⟨'S', by decide, rfl⟩
  | misaligned length =>
    have start : OpensWith "SPIR-V binary length " 'S' := rfl
    exact ⟨'S', by decide, (start.append _).append _⟩
  | magicNumber found expected =>
    have start : OpensWith "SPIR-V binary has magic number " 'S' := rfl
    exact ⟨'S', by decide, ((start.append _).append _).append _⟩
  | unreadable reason =>
    have start : OpensWith "Failed to parse SPIR-V: " 'F' := rfl
    exact ⟨'F', by decide, start.append _⟩
  | noKernels =>
    have start : OpensWith "SPIR-V module has no kernel entry points!" 'S' := rfl
    exact ⟨'S', by decide, start⟩

/-- What is said about a build starts with K, S or F. -/
theorem BuildError.opensWith (e : BuildError) : ∃ c ∈ ['K', 'S', 'F'], OpensWith e.message c := by
  cases e with
  | kernelsUnsupported backend =>
    have start : OpensWith "Kernels are not supported on the " 'K' := rfl
    exact ⟨'K', by decide, (start.append _).append _⟩
  | spirvUnsupported backend device =>
    have start : OpensWith "SPIR-V is not supported by " 'S' := rfl
    exact ⟨'S', by decide, (((start.append _).append _).append _).append _⟩
  | failed device log =>
    have start : OpensWith "Failed to build kernel bundle for " 'F' := rfl
    exact ⟨'F', by decide, ((start.append _).append _).append _⟩
  | invalidSpirv error =>
    obtain ⟨c, mem, opens⟩ := error.opensWith
    exact ⟨c, List.mem_cons_of_mem _ mem, opens⟩

/-- A fault with a message that comes from a check has a message that starts with K, S or F. -/
theorem Fault.FromCheck.opensWith {text : String} (h : (Fault.ofMessage text).FromCheck) :
    ∃ c ∈ ['K', 'S', 'F'], OpensWith text c := by
  rcases h with ⟨e, same⟩ | ⟨e, same⟩ | ⟨index, count, same⟩
  · cases e with
    | reported error =>
      cases same
      exact error.opensWith
    | overrun stop length => cases same
  · have start : OpensWith "Kernel " 'K' := rfl
    cases e with
    | notFound error =>
      cases same
      exact ⟨'K', by decide, (((start.append _).append _).append _).append _⟩
    | noRuntime => cases same
  · have start : OpensWith "Kernel index " 'K' := rfl
    cases same
    exact ⟨'K', by decide, (((start.append _).append _).append _).append _⟩

/-- No check ends in what is said about an argument. -/
theorem Argument.Complaint.not_fromCheck {slots : Slots} {a : Argument} {text : String}
    (h : a.Complaint slots text) : ¬ (Fault.ofMessage text).FromCheck := by
  intro check
  obtain ⟨c, first, opensC⟩ := h.opensWith
  obtain ⟨d, second, opensD⟩ := check.opensWith
  have disjoint : ∀ c ∈ ['A', 'I'], ∀ d ∈ ['K', 'S', 'F'], c ≠ d := by simp
  exact disjoint c first d second (opensC.unique opensD)

/-- The first complaint is about one of the arguments. -/
theorem FirstComplaint.exists_complaint {slots : Slots} {arguments : List Argument}
    {text : String} (h : FirstComplaint slots arguments text) :
    ∃ a ∈ arguments, a.Complaint slots text := by
  induction h with
  | @here a text complaint later => exact ⟨a, List.mem_cons_self, complaint⟩
  | @behind a later text fine rest ih =>
    obtain ⟨b, mem, complaint⟩ := ih
    exact ⟨b, List.mem_cons_of_mem a mem, complaint⟩

/-- Where no value comes of a function, the slot for its handle holds null, and the other slots
hold what they held. -/
theorem ResultSort.get_store_none (sort : ResultSort) (slots : Slots) (out : String)
    (kind : HandleKind) (name : String) : (sort.store slots out none).get kind name =
      if sort = .handle kind ∧ name = out then none else slots.get kind name := by
  cases sort with
  | handle stored =>
    by_cases same : (kind, name) = (stored, out)
    · cases same
      rw [if_pos ⟨rfl, rfl⟩]
      exact Slots.get_put_self slots _ _ none
    · have other : ¬ (ResultSort.handle stored = .handle kind ∧ name = out) := by
        rintro ⟨kinds, names⟩
        cases kinds
        exact same (by rw [names])
      rw [if_neg other]
      exact Slots.get_put_of_ne same
  | text | number | flag => rw [if_neg (by rintro ⟨⟨⟩, -⟩)]; rfl

/-- A function that ends in a check of what its arguments hold has acceptable arguments. -/
theorem ExportedFunction.acceptable_of_failsCheck {sort : ResultSort}
    {function : ExportedFunction sort} {slots : Slots} {inventory : Inventory} {ticket : Nat}
    (h : (function.perform slots inventory ticket).FailsCheck) :
    ∀ a ∈ function.arguments, ¬ a.given.Unacceptable slots := by
  obtain ⟨fault, failed, check⟩ := h
  intro a mem unacceptable
  have reads := function.readsFirst_perform slots inventory ticket
  obtain ⟨text, first, complained⟩ := reads.exists_firstComplaint ⟨a, mem, unacceptable⟩
  obtain ⟨b, -, complaint⟩ := first.exists_complaint
  rw [complained] at failed
  cases failed
  exact complaint.not_fromCheck check

/-- What a call leaves behind whose function does nothing but complain. -/
theorem Call.perform_of_complaint {w : World} {sort : ResultSort}
    {function : ExportedFunction sort} {text : String}
    (complained : function.perform w.slots w.inventory w.ticket = Attempt.fail (.ofMessage text))
    (out : String) :
    let e := (Call.guarded function out).perform w
    e.reply.IsFailure ∧ e.world.lastError = some (function.name ++ ": " ++ text) ∧
      e.log = [⟨.warn, function.name ++ ": " ++ text⟩] ∧
      ∀ kind name, e.world.slots.get kind name =
        if sort = .handle kind ∧ name = out then none else w.slots.get kind name := by
  intro e
  have failed : (function.perform w.slots w.inventory w.ticket).result =
      .error (.ofMessage text) := by
    rw [complained]
    rfl
  have silent : (function.perform w.slots w.inventory w.ticket).log = [] := by
    rw [complained]
    rfl
  have left : e = _ := Call.perform_guarded_of_error failed out
  have told : (Fault.ofMessage text).toldBy function.name = function.name ++ ": " ++ text := rfl
  rw [told, silent, List.nil_append] at left
  rw [left]
  exact ⟨sort.isFailure_none, rfl, rfl, sort.get_store_none w.slots out⟩

/-- A call with an argument that is not acceptable fails for the first such argument in the
order of declaration, whatever the others are. It returns its failure value, its name and the
complaint are the last error and its only record, and it changes no slot but the one of its
result, which then holds null. What the arguments hold is checked after that: a call that fails
a check on a build, a kernel or a position has acceptable arguments only, and if it has, a
build or the making of a kernel, for which there is no backend, does fail one. A build with
null options does what it does with empty ones. -/
theorem fails_for_first_unacceptable (w : World) (out : String) :
    (∀ {sort : ResultSort} (function : ExportedFunction sort),
      let e := (Call.guarded function out).perform w
      let inside := function.perform w.slots w.inventory w.ticket
      ((∃ a ∈ function.arguments, a.given.Unacceptable w.slots) →
        ∃ text, FirstComplaint w.slots function.arguments text ∧ e.reply.IsFailure ∧
          e.world.lastError = some (function.name ++ ": " ++ text) ∧
          e.log = [⟨.warn, function.name ++ ": " ++ text⟩] ∧
          ∀ kind name, e.world.slots.get kind name =
            if sort = .handle kind ∧ name = out then none else w.slots.get kind name) ∧
      (inside.FailsCheck → ∀ a ∈ function.arguments, ¬ a.given.Unacceptable w.slots) ∧
      (function.EndsInCheck → (∀ a ∈ function.arguments, ¬ a.given.Unacceptable w.slots) →
        inside.FailsCheck)) ∧
    ∀ context device,
      (∀ source, (Call.guarded (.buildSource context device source none) out).perform w =
        (Call.guarded (.buildSource context device source (some [])) out).perform w) ∧
      ∀ binary, (Call.guarded (.buildSpirv context device binary none) out).perform w =
        (Call.guarded (.buildSpirv context device binary (some [])) out).perform w := by
  refine ⟨?_, fun context device => ⟨fun source => rfl, fun binary => rfl⟩⟩
  intro sort function e inside
  have reads := function.readsFirst_perform w.slots w.inventory w.ticket
  refine ⟨?_, function.acceptable_of_failsCheck, fun ends fine => reads.work fine ends⟩
  intro bad
  obtain ⟨text, first, complained⟩ := reads.exists_firstComplaint bad
  exact ⟨text, first, Call.perform_of_complaint complained out⟩

/-- Of a null device and a number that is no set of properties, the device is complained about. -/
example : ((Call.guarded (.createQueueForDevice none true 1) "q").perform World.initial).log =
    [⟨.warn, "SyclQueue_CreateForDevice: Argument `device` is null!"⟩] := rfl

end ComputeHandles
