import Mathlib.Data.List.Nodup
import ComputeHandles.Proofs.Spirv.Drafts

/-!
# Kernel modules are read back

Loading passes over written instructions one segment after the other: the declarations
add an entry point for each kernel, the bodies a function for each. A kernel finds its
function by its id, so if no two functions share one, every kernel is read back with the
number of its parameters.
-/

namespace ComputeHandles.Spirv

open Listing

section Places

variable {layout : Layout} {i : Instruction}

/-- An instruction that declares and completes nothing only changes the scope. -/
theorem Layout.place_quiet {scope : Scope} (placed : layout.scope.place i = .ok scope)
    (undeclared : i.entryPoint? = none) (incomplete : layout.scope.completed? i = none) :
    layout.place i = .ok { layout with scope := scope } := by
  rw [Layout.place, placed, undeclared, incomplete]
  simp

/-- An entry point is added. -/
theorem Layout.place_declared {e : EntryPoint} (placed : layout.scope.place i = .ok layout.scope)
    (declared : i.entryPoint? = some e) (incomplete : layout.scope.completed? i = none) :
    layout.place i = .ok { layout with entryPoints := layout.entryPoints ++ [e] } := by
  rw [Layout.place, placed, declared, incomplete]
  simp

/-- A function that is complete is added. -/
theorem Layout.place_completed {scope : Scope} {f : FunctionDef}
    (placed : layout.scope.place i = .ok scope) (undeclared : i.entryPoint? = none)
    (completed : layout.scope.completed? i = some f) :
    layout.place i =
      .ok { layout with scope := scope, functions := layout.functions ++ [f] } := by
  rw [Layout.place, placed, undeclared, completed]
  simp

/-- An instruction that may stand anywhere and declares no entry point changes nothing. -/
theorem Layout.place_anywhere (anywhere : i.opcode.placement = .anywhere)
    (undeclared : i.entryPoint? = none) : layout.place i = .ok layout := by
  have placed : layout.scope.place i = .ok layout.scope := by
    simp only [Scope.place, anywhere]
  have incomplete : layout.scope.completed? i = none := by
    simp only [Scope.completed?, anywhere]
  exact Layout.place_quiet placed undeclared incomplete

end Places

/-- Loading passes over written instructions, whatever stands before and behind them. -/
def Passes (ds : List Draft) (layout layout' : Layout) : Prop :=
  ∀ (types : NumberTypes) (number position : Nat) (rest : List UInt32),
    ∃ types' number' position', Relation.ReflTransGen Loading.Step
      ⟨types, layout, number, position, ds.flatMap Draft.words ++ rest⟩
      ⟨types', layout', number', position', rest⟩

namespace Passes

variable {ds ds' : List Draft} {layout layout' layout'' : Layout}

/-- There is nothing to pass over. -/
theorem nil : Passes [] layout layout :=
  fun types number position _ => ⟨types, number, position, .refl⟩

/-- Segments are passed one after the other. -/
theorem append (h : Passes ds layout layout') (h' : Passes ds' layout' layout'') :
    Passes (ds ++ ds') layout layout'' := by
  intro types number position rest
  obtain ⟨types', number', position', steps⟩ :=
    h types number position (ds'.flatMap Draft.words ++ rest)
  obtain ⟨types'', number'', position'', steps'⟩ := h' types' number' position' rest
  rw [List.flatMap_append, List.append_assoc]
  exact ⟨types'', number'', position'', steps.trans steps'⟩

/-- An instruction that is read back and placed is passed by a step. -/
theorem instruction {d : Draft} {i : Instruction} (reads : d.ReadsAs i)
    (placed : layout.place i = .ok layout') : Passes [d] layout layout' := by
  intro types number position rest
  refine ⟨types.after i, number + 1, position + d.size, .single ?_⟩
  have step := Loading.Step.taken
    (s := ⟨types, layout, number, position, d.head :: (d.operands ++ rest)⟩) rfl
    (reads.read types number position rest) placed
  have behind : (d.head :: (d.operands ++ rest)).drop d.size = rest := by
    rw [Draft.size, List.drop_succ_cons, List.drop_left]
  simp only [Loading.behind, reads.size, behind] at step
  rw [List.flatMap_singleton, Draft.words, List.cons_append]
  exact step

/-- The first instruction is passed and then the others. -/
theorem cons {d : Draft} {i : Instruction} (reads : d.ReadsAs i)
    (placed : layout.place i = .ok layout') (others : Passes ds layout' layout'') :
    Passes (d :: ds) layout layout'' :=
  (instruction reads placed).append others

/-- A declaration of anything but an entry point changes nothing. -/
theorem declaration {d : Draft} {i : Instruction} (reads : d.ReadsAs i)
    (anywhere : i.opcode.placement = .anywhere) (undeclared : i.entryPoint? = none)
    (others : Passes ds layout layout') : Passes (d :: ds) layout layout' :=
  cons reads (Layout.place_anywhere anywhere undeclared) others

end Passes

section Segments

variable {entryPoints : List EntryPoint} {functions : List FunctionDef}

/-- What every module uses changes nothing. -/
theorem passes_preamble (layout : Layout) : Passes ModuleDraft.preamble layout layout := by
  have addresses : Draft.ReadsAs ⟨17, [4]⟩ ⟨.opCapability, none, none, [.choice .capability 4]⟩ :=
    Draft.readsAs_of_fills .opCapability (by decide) rfl (.choice (by decide) rfl (.done _))
  have kernel : Draft.ReadsAs ⟨17, [6]⟩ ⟨.opCapability, none, none, [.choice .capability 6]⟩ :=
    Draft.readsAs_of_fills .opCapability (by decide) rfl (.choice (by decide) rfl (.done _))
  have memory : Draft.ReadsAs ⟨14, [2, 2]⟩ ⟨.opMemoryModel, none, none,
      [.choice .addressingModel 2, .choice .memoryModel 2]⟩ :=
    Draft.readsAs_of_fills .opMemoryModel (by decide) rfl
      (.choice (by decide) rfl (.choice (by decide) rfl (.done _)))
  exact .declaration addresses rfl rfl (.declaration kernel rfl rfl
    (.declaration memory rfl rfl .nil))

/-- The types that every module has change nothing. -/
theorem passes_commonTypes (layout : Layout) : Passes ModuleDraft.commonTypes layout layout := by
  have nothing : Draft.ReadsAs ⟨19, [voidId]⟩ ⟨.opTypeVoid, none, some voidId, []⟩ :=
    Draft.readsAs_of_fills .opTypeVoid (by decide) rfl (.word rfl _ (.done _))
  have int : Draft.ReadsAs ⟨21, [intId, 32, 0]⟩
      ⟨.opTypeInt, none, some intId, [.literal 32, .literal 0]⟩ :=
    Draft.readsAs_of_fills .opTypeInt (by decide) rfl
      (.word rfl _ (.word rfl _ (.word rfl _ (.done _))))
  have pointer : Draft.ReadsAs ⟨32, [pointerId, 5, intId]⟩
      ⟨.opTypePointer, none, some pointerId, [.choice .storageClass 5, .id intId]⟩ :=
    Draft.readsAs_of_fills .opTypePointer (by decide) rfl
      (.word rfl _ (.choice (by decide) rfl (.word rfl _ (.done _))))
  exact .declaration nothing rfl rfl (.declaration int rfl rfl
    (.declaration pointer rfl rfl .nil))

/-- Function types change nothing. -/
theorem passes_functionTypes {types : List FunctionTypeDraft} (layout : Layout)
    (fits : ∀ t ∈ types, t.instruction.Fits) :
    Passes (types.map FunctionTypeDraft.instruction) layout layout := by
  induction types with
  | nil => exact .nil
  | cons t types ih =>
    rw [List.forall_mem_cons] at fits
    have reads := Draft.readsAs_of_fills .opTypeFunction fits.1 rfl
      (.word rfl _ (.word rfl _ (.ids _ (.done _))))
    exact .declaration reads rfl rfl (ih fits.2)

/-- The entry point that a reader finds of a kernel. -/
def KernelDraft.declared (k : KernelDraft) : EntryPoint := ⟨kernelModel, k.function, k.name⟩

/-- The function that a reader finds of a kernel. -/
def KernelDraft.defined (k : KernelDraft) : FunctionDef := ⟨k.function, k.parameters.length⟩

/-- The declaration of a kernel is read back. -/
theorem readsAs_entryPoint {k : KernelDraft} (named : '\x00' ∉ k.name.toList)
    (fits : k.entryPoint.Fits) :
    k.entryPoint.ReadsAs ⟨.opEntryPoint, none, none,
      [.choice .executionModel kernelModel, .id k.function, .text k.name]⟩ := by
  have name : Fills [.text, .ids] (textWords k.name ++ [])
      ⟨.opEntryPoint, none, none, [.choice .executionModel kernelModel, .id k.function]⟩
      ⟨.opEntryPoint, none, none,
        [.choice .executionModel kernelModel, .id k.function, .text k.name]⟩ :=
    .text named (.ids [] (.done _))
  rw [List.append_nil] at name
  exact Draft.readsAs_of_fills .opEntryPoint fits rfl (.choice (by decide) rfl (.word rfl _ name))

/-- Each entry point is added. -/
theorem passes_entryPoints {kernels : List KernelDraft}
    (named : ∀ k ∈ kernels, '\x00' ∉ k.name.toList) (fits : ∀ k ∈ kernels, k.entryPoint.Fits) :
    Passes (kernels.map KernelDraft.entryPoint) ⟨.outside, entryPoints, functions⟩
      ⟨.outside, entryPoints ++ kernels.map KernelDraft.declared, functions⟩ := by
  induction kernels generalizing entryPoints with
  | nil =>
    rw [List.map_nil, List.map_nil, List.append_nil]
    exact .nil
  | cons k kernels ih =>
    rw [List.forall_mem_cons] at named fits
    have others := @ih (entryPoints ++ [k.declared]) named.2 fits.2
    rw [List.append_assoc] at others
    exact .cons (readsAs_entryPoint named.1 fits.1) (Layout.place_declared rfl rfl rfl) others

/-- Each parameter is counted. -/
theorem passes_parameters {f : FunctionDef} (ids : List UInt32) :
    Passes (ids.map fun id => ⟨55, [pointerId, id]⟩) ⟨.inFunction f, entryPoints, functions⟩
      ⟨.inFunction ⟨f.id, f.parameters + ids.length⟩, entryPoints, functions⟩ := by
  induction ids generalizing f with
  | nil => exact .nil
  | cons id ids ih =>
    have fits : Draft.Fits ⟨55, [pointerId, id]⟩ := by
      simp [Draft.Fits, Draft.size]
    have reads := Draft.readsAs_of_fills .opFunctionParameter fits rfl
      (.word rfl _ (.word rfl _ (.done _)))
    have others := ih (f := ⟨f.id, f.parameters + 1⟩)
    rw [Nat.add_right_comm] at others
    exact .cons reads (Layout.place_quiet rfl rfl rfl) others

/-- The body of a kernel adds its function. -/
theorem passes_body (k : KernelDraft) :
    Passes k.body ⟨.outside, entryPoints, functions⟩
      ⟨.outside, entryPoints, functions ++ [k.defined]⟩ := by
  have begin : Draft.ReadsAs ⟨54, [voidId, k.function, 0, k.type]⟩
      ⟨.opFunction, some voidId, some k.function, [.choice .functionControl 0, .id k.type]⟩ :=
    Draft.readsAs_of_fills .opFunction (by simp [Draft.Fits, Draft.size]) rfl
      (.word rfl _ (.word rfl _ (.choice (by decide) rfl (.word rfl _ (.done _)))))
  have label : Draft.ReadsAs ⟨248, [k.label]⟩ ⟨.opLabel, none, some k.label, []⟩ :=
    Draft.readsAs_of_fills .opLabel (by simp [Draft.Fits, Draft.size]) rfl (.word rfl _ (.done _))
  have back : Draft.ReadsAs ⟨253, []⟩ ⟨.opReturn, none, none, []⟩ :=
    Draft.readsAs_of_fills .opReturn (by decide) rfl (.done _)
  have done : Draft.ReadsAs ⟨56, []⟩ ⟨.opFunctionEnd, none, none, []⟩ :=
    Draft.readsAs_of_fills .opFunctionEnd (by decide) rfl (.done _)
  have parameters := @passes_parameters entryPoints functions ⟨k.function, 0⟩ k.parameters
  rw [Nat.zero_add] at parameters
  refine .cons begin (Layout.place_quiet rfl rfl rfl) (parameters.append ?_)
  refine .cons label (Layout.place_quiet rfl rfl rfl) ?_
  refine .cons back (Layout.place_quiet rfl rfl rfl) ?_
  exact .instruction done (Layout.place_completed rfl rfl rfl)

/-- Each function is added. -/
theorem passes_bodies (kernels : List KernelDraft) :
    Passes (kernels.flatMap KernelDraft.body) ⟨.outside, entryPoints, functions⟩
      ⟨.outside, entryPoints, functions ++ kernels.map KernelDraft.defined⟩ := by
  induction kernels generalizing functions with
  | nil =>
    rw [List.map_nil, List.append_nil]
    exact .nil
  | cons k kernels ih =>
    have others := @ih (functions ++ [k.defined])
    rw [List.append_assoc] at others
    rw [List.flatMap_cons]
    exact (passes_body k).append others

end Segments

section Modules

variable {m : ModuleDraft}

/-- Loading passes over a whole module. -/
theorem passes_instructions (named : ∀ k ∈ m.kernels, '\x00' ∉ k.name.toList)
    (fits : ∀ d ∈ m.instructions, d.Fits) :
    Passes m.instructions .empty
      ⟨.outside, m.kernels.map KernelDraft.declared, m.kernels.map KernelDraft.defined⟩ := by
  have declared : ∀ k ∈ m.kernels, k.entryPoint.Fits := by
    intro k mem
    apply fits
    simp only [ModuleDraft.instructions, List.mem_append]
    exact .inl (.inl (.inl (.inr (List.mem_map_of_mem mem))))
  have types : ∀ t ∈ m.functionTypes, t.instruction.Fits := by
    intro t mem
    apply fits
    simp only [ModuleDraft.instructions, List.mem_append]
    exact .inl (.inr (List.mem_map_of_mem mem))
  exact ((((passes_preamble _).append (passes_entryPoints named declared)).append
    (passes_commonTypes _)).append (passes_functionTypes _ types)).append (passes_bodies m.kernels)

/-- A module is loaded as its kernels. -/
theorem load_words (named : ∀ k ∈ m.kernels, '\x00' ∉ k.name.toList)
    (fits : ∀ d ∈ m.instructions, d.Fits) :
    Program.load m.words = .ok ⟨m.version, m.kernels.map KernelDraft.declared,
      m.kernels.map KernelDraft.defined⟩ := by
  obtain ⟨types, number, position, steps⟩ := passes_instructions named fits [] 1 5 []
  rw [List.append_nil] at steps
  have outcome := (Loading.outcome_eq_of_steps steps).trans (Loading.outcome_of_ended rfl)
  rw [ModuleDraft.words, ModuleDraft.header]
  simp only [List.cons_append, List.nil_append]
  rw [Program.load_eq, Version.ofWord_word, Loading.start, outcome]
  rfl

/-- A kernel finds its function by its id. -/
theorem find?_defined {kernels : List KernelDraft} (distinct : (kernels.map (·.function)).Nodup)
    {k : KernelDraft} (mem : k ∈ kernels) :
    (kernels.map KernelDraft.defined).find? (·.id == k.function) = some k.defined := by
  rw [List.find?_map]
  cases found : kernels.find? ((·.id == k.function) ∘ KernelDraft.defined) with
  | none =>
    have other := List.find?_eq_none.mp found k mem
    exact absurd (beq_self_eq_true k.function) other
  | some k' =>
    have hit := List.find?_some found
    have same : k'.function = k.function := beq_iff_eq.mp hit
    have unique := List.inj_on_of_nodup_map distinct (List.mem_of_find?_eq_some found) mem same
    rw [unique]
    rfl

/-- The kernels of a module are read back. -/
theorem kernels_of_drafts {version : Version} {kernels : List KernelDraft}
    (distinct : (kernels.map (·.function)).Nodup) (there : kernels ≠ []) :
    Program.kernels ⟨version, kernels.map KernelDraft.declared, kernels.map KernelDraft.defined⟩ =
      .ok (kernels.map KernelDraft.entry) := by
  have all : (kernels.map KernelDraft.declared).filter EntryPoint.isKernel =
      kernels.map KernelDraft.declared := by
    rw [List.filter_eq_self]
    intro e mem
    obtain ⟨k, -, rfl⟩ := List.mem_map.mp mem
    rfl
  have each : (kernels.map KernelDraft.declared).mapM
      (EntryPoint.kernel (kernels.map KernelDraft.defined)) =
        .ok (kernels.map KernelDraft.entry) := by
    rw [mapM_eq_ok_iff, List.forall₂_map_left_iff, List.forall₂_map_right_iff, List.forall₂_same]
    intro k mem
    rw [EntryPoint.kernel, KernelDraft.declared]
    dsimp only
    rw [find?_defined distinct mem]
    rfl
  have nonempty : kernels.map KernelDraft.entry ≠ [] := by
    rw [ne_eq, List.map_eq_nil_iff]
    exact there
  rw [Program.kernels, all, each]
  change (if kernels.map KernelDraft.entry = [] then _ else _) = _
  rw [if_neg nonempty]
  rfl

/-- A written module is read back: with its version, and with its kernels in order and the
numbers of their parameters. A kernel is found by its name, the first of several. Without
kernels the module is refused. -/
theorem parse_bytes (m : ModuleDraft) (named : ∀ k ∈ m.kernels, '\x00' ∉ k.name.toList)
    (fits : ∀ d ∈ m.instructions, d.Fits) (distinct : (m.kernels.map (·.function)).Nodup) :
    KernelModule.parse m.bytes =
        (if m.kernels = [] then .error (.invalid .noKernels) else .ok m.kernelModule) ∧
      ∀ name, m.kernelModule.kernel? name =
        (m.kernels.find? (·.name == name)).map KernelDraft.entry := by
  constructor
  · have there : m.bytes ≠ [] := by
      intro empty
      have length := length_bytesOfWords m.words
      rw [show bytesOfWords m.words = [] from empty] at length
      cases length
    have aligned : m.bytes.length % 4 = 0 := by
      rw [ModuleDraft.bytes, length_bytesOfWords]
      omega
    rw [KernelModule.parse_of_aligned there aligned, ModuleDraft.bytes, wordsOfBytes_bytesOfWords,
      KernelModule.ofWords_of_loaded rfl (load_words named fits), Program.kernelModule]
    by_cases empty : m.kernels = []
    · have refused : Program.kernels ⟨m.version, m.kernels.map KernelDraft.declared,
          m.kernels.map KernelDraft.defined⟩ = .error .noKernels :=
        Program.kernels_of_noKernel (by rw [empty]; rfl)
      rw [if_pos empty, refused]
      rfl
    · rw [if_neg empty, kernels_of_drafts distinct empty]
      rfl
  · intro name
    rw [KernelModule.kernel?, ModuleDraft.kernelModule, List.find?_map]
    rfl

/-- Three kernels, two of which share a name. -/
def threeKernels : ModuleDraft where
  version := ⟨1, 2⟩
  generator := 0
  bound := 28
  functionTypes := [⟨4, 3⟩, ⟨5, 4⟩, ⟨6, 0⟩]
  kernels := [⟨"add", 10, 4, [11, 12, 13], 14⟩, ⟨"axpy", 20, 5, [21, 22, 23, 24], 25⟩,
    ⟨"add", 26, 6, [], 27⟩]

/-- All three are read back, and the name that two of them share gives the first. -/
theorem parse_bytes_threeKernels :
    (∀ k ∈ threeKernels.kernels, '\x00' ∉ k.name.toList) ∧
      (∀ d ∈ threeKernels.instructions, d.Fits) ∧
      (threeKernels.kernels.map (·.function)).Nodup ∧
      KernelModule.parse threeKernels.bytes =
        .ok ⟨⟨1, 2⟩, [⟨"add", 3⟩, ⟨"axpy", 4⟩, ⟨"add", 0⟩]⟩ ∧
      threeKernels.kernelModule.kernel? "add" = some ⟨"add", 3⟩ := by
  have named : ∀ k ∈ threeKernels.kernels, '\x00' ∉ k.name.toList := by decide
  have fits : ∀ d ∈ threeKernels.instructions, d.Fits := by decide
  have distinct : (threeKernels.kernels.map (·.function)).Nodup := by decide
  obtain ⟨parsed, found⟩ := parse_bytes threeKernels named fits distinct
  exact ⟨named, fits, distinct, parsed, found "add"⟩

end Modules

end ComputeHandles.Spirv
