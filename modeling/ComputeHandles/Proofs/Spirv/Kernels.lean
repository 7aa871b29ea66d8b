import ComputeHandles.Proofs.Spirv.Loading
import ComputeHandles.Spirv.Assembly

/-!
# The kernels of a loaded binary

A binary that loads is reduced to its kernels: each entry point that serves as a kernel is
joined with the first function that has its id. The join stops at the first entry point
without a function. Entry points that serve anything else and functions that no kernel names
take no part in it, and neither does the order of functions with different ids.
-/

namespace ComputeHandles.Spirv

open Text Listing

/-- A binary has whole words, starts with the magic number and loads as a program. -/
structure LoadsAs (bytes : List UInt8) (p : Program) : Prop where
  /-- The words are whole. -/
  aligned : bytes.length % 4 = 0
  /-- The first word is the magic number. -/
  magic : (wordsOfBytes bytes).head? = some magicNumber
  /-- The words are loaded. -/
  loaded : Program.load (wordsOfBytes bytes) = .ok p

/-- The entry points that serve as kernels, in order. -/
def Program.kernelEntries (p : Program) : List EntryPoint :=
  p.entryPoints.filter (·.model = kernelModel)

/-- A function is the first of several with an id. -/
def FirstWith (functions : List FunctionDef) (id : UInt32) (f : FunctionDef) : Prop :=
  f.id = id ∧ ∃ before behind, functions = before ++ f :: behind ∧ ∀ g ∈ before, g.id ≠ id

/-- An entry point has a kernel: one of its name, with as many arguments as the first
function with its id has parameters. -/
def EntryPoint.HasKernel (functions : List FunctionDef) (e : EntryPoint) (k : KernelEntry) :
    Prop :=
  k.name = e.name ∧ ∃ f, FirstWith functions e.function f ∧ k.arguments = f.parameters

/-- Searching functions for an id finds the first with that id. -/
theorem find?_eq_some_iff_firstWith {functions : List FunctionDef} {id : UInt32}
    {f : FunctionDef} : functions.find? (·.id == id) = some f ↔ FirstWith functions id f := by
  rw [List.find?_eq_some_iff_append]
  simp [FirstWith]

/-- Searching functions for an id finds none when none has it. -/
theorem find?_eq_none_iff_forall_ne {functions : List FunctionDef} {id : UInt32} :
    functions.find? (·.id == id) = none ↔ ∀ f ∈ functions, f.id ≠ id := by
  simp

namespace EntryPoint

variable {functions functions' : List FunctionDef} {e : EntryPoint}

/-- A kernel is made of an entry point that has one. -/
theorem kernel_eq_ok_iff {k : KernelEntry} :
    e.kernel functions = .ok k ↔ e.HasKernel functions k := by
  unfold kernel HasKernel
  cases found : functions.find? (·.id == e.function) with
  | none =>
    refine iff_of_false nofun ?_
    rintro ⟨-, f, first, -⟩
    rw [find?_eq_some_iff_firstWith.mpr first] at found
    cases found
  | some f =>
    have only (g : FunctionDef) : FirstWith functions e.function g ↔ f = g := by
      rw [← find?_eq_some_iff_firstWith, found, Option.some_inj]
    obtain ⟨name, arguments⟩ := k
    simp [only, eq_comm]

/-- An entry point whose id some function has is made into a kernel. -/
theorem exists_kernel_of_defined (defined : ∃ f ∈ functions, f.id = e.function) :
    ∃ k, e.kernel functions = .ok k := by
  unfold kernel
  cases found : functions.find? (·.id == e.function) with
  | none =>
    obtain ⟨f, mem, same⟩ := defined
    exact absurd same (find?_eq_none_iff_forall_ne.mp found f mem)
  | some f => exact ⟨_, rfl⟩

/-- An entry point whose id no function has is reported by its name and the id. -/
theorem kernel_of_undefined (undefined : ∀ f ∈ functions, f.id ≠ e.function) :
    e.kernel functions = .error
      (.unreadable s!"entry point {quote e.name} has no function %{e.function.toNat}") := by
  rw [kernel, find?_eq_none_iff_forall_ne.mpr undefined]

/-- Only the functions with the id of an entry point matter to it. -/
theorem kernel_congr (same : functions.filter (·.id = e.function) =
    functions'.filter (·.id = e.function)) : e.kernel functions = e.kernel functions' := by
  have first (fs : List FunctionDef) :
      fs.find? (·.id == e.function) = (fs.filter (·.id = e.function)).head? := by
    rw [List.head?_filter]
    congr 1
  rw [kernel, kernel, first functions, first functions', same]

end EntryPoint

namespace Program

variable {p q : Program}

/-- The kernels of a program are made of its entry points that serve as kernels. -/
theorem kernels_eq : p.kernels = (p.kernelEntries.mapM (EntryPoint.kernel p.functions)).bind
    fun kernels => if kernels = [] then .error .noKernels else .ok kernels := by
  have served : p.entryPoints.filter EntryPoint.isKernel = p.kernelEntries := by
    unfold kernelEntries EntryPoint.isKernel
    congr 1
  rw [kernels, served]
  rfl

/-- A program has kernels exactly when its entry points that serve as kernels have some, one each
and in order, and there is one. -/
theorem kernels_eq_ok_iff {kernels : List KernelEntry} :
    p.kernels = .ok kernels ↔ kernels ≠ [] ∧
      List.Forall₂ (EntryPoint.HasKernel p.functions) p.kernelEntries kernels := by
  have joined : p.kernelEntries.mapM (EntryPoint.kernel p.functions) = .ok kernels ↔
      List.Forall₂ (EntryPoint.HasKernel p.functions) p.kernelEntries kernels := by
    simp only [mapM_eq_ok_iff, EntryPoint.kernel_eq_ok_iff]
  rw [← joined, kernels_eq]
  cases p.kernelEntries.mapM (EntryPoint.kernel p.functions) with
  | error e => exact iff_of_false nofun nofun
  | ok made =>
    change (if made = [] then _ else _) = _ ↔ _
    rw [Except.ok.injEq]
    by_cases empty : made = []
    · rw [if_pos empty]
      refine iff_of_false nofun fun h => ?_
      exact h.1 (h.2 ▸ empty)
    · rw [if_neg empty, Except.ok.injEq]
      exact ⟨fun same => ⟨same ▸ empty, same⟩, fun h => h.2⟩

/-- The first kernel without a function is reported. -/
theorem kernels_of_undefined {earlier later : List EntryPoint} {e : EntryPoint}
    (split : p.kernelEntries = earlier ++ e :: later)
    (defined : ∀ d ∈ earlier, ∃ f ∈ p.functions, f.id = d.function)
    (undefined : ∀ f ∈ p.functions, f.id ≠ e.function) :
    p.kernels = .error
      (.unreadable s!"entry point {quote e.name} has no function %{e.function.toNat}") := by
  have readable : ∀ d ∈ earlier, ∃ k, d.kernel p.functions = .ok k := fun d mem =>
    EntryPoint.exists_kernel_of_defined (defined d mem)
  rw [kernels_eq, split,
    mapM_eq_error_of_first readable (EntryPoint.kernel_of_undefined undefined)]
  rfl

/-- If every kernel has a function, and there is one, all are made in order. -/
theorem exists_kernels_of_defined (there : p.kernelEntries ≠ [])
    (defined : ∀ e ∈ p.kernelEntries, ∃ f ∈ p.functions, f.id = e.function) :
    ∃ kernels, p.kernels = .ok kernels ∧
      List.Forall₂ (EntryPoint.HasKernel p.functions) p.kernelEntries kernels := by
  have each : ∀ e ∈ p.kernelEntries, ∃ k, EntryPoint.HasKernel p.functions e k := by
    intro e mem
    obtain ⟨k, made⟩ := EntryPoint.exists_kernel_of_defined (defined e mem)
    exact ⟨k, EntryPoint.kernel_eq_ok_iff.mp made⟩
  obtain ⟨kernels, joined⟩ := exists_forall₂_iff.mpr each
  have nonempty : kernels ≠ [] := by
    rintro rfl
    exact there (List.forall₂_nil_right_iff.mp joined)
  exact ⟨kernels, kernels_eq_ok_iff.mpr ⟨nonempty, joined⟩, joined⟩

/-- Programs with the same kernels, whose functions with their ids are the same in order,
are reduced to the same. -/
theorem kernelModule_congr (version : p.version = q.version)
    (entries : p.kernelEntries = q.kernelEntries)
    (functions : ∀ e ∈ q.kernelEntries, p.functions.filter (·.id = e.function) =
      q.functions.filter (·.id = e.function)) : p.kernelModule = q.kernelModule := by
  have made : p.kernelEntries.mapM (EntryPoint.kernel p.functions) =
      q.kernelEntries.mapM (EntryPoint.kernel q.functions) := by
    rw [entries]
    exact mapM_congr fun e mem => EntryPoint.kernel_congr (functions e mem)
  rw [kernelModule, kernelModule, kernels_eq, kernels_eq, made, version]

end Program

/-- Words that start with the magic number and load are the binary of their bytes. -/
theorem LoadsAs.of_words {words : List UInt32} {p : Program}
    (magic : words.head? = some magicNumber) (loaded : Program.load words = .ok p) :
    LoadsAs (bytesOfWords words) p where
  aligned := by rw [length_bytesOfWords, Nat.mul_mod_right]
  magic := by rw [wordsOfBytes_bytesOfWords, magic]
  loaded := by rw [wordsOfBytes_bytesOfWords, loaded]

/-- A binary that loads is inspected as the program it loads as. -/
theorem LoadsAs.parse_eq {bytes : List UInt8} {p : Program} (h : LoadsAs bytes p) :
    KernelModule.parse bytes = p.kernelModule.mapError .invalid := by
  have there : bytes ≠ [] := by
    rintro rfl
    exact absurd h.magic nofun
  have magic : (wordsOfBytes bytes).headD 0 = magicNumber := by
    rw [List.headD_eq_head?_getD, h.magic]
    rfl
  rw [KernelModule.parse_of_aligned there h.aligned,
    KernelModule.ofWords_of_loaded magic h.loaded]

/-- A binary that loads has the kernels of its entry points that serve as such. Without any it
is refused. If one has an id that no function has, the first such one is reported. Otherwise
each gives a kernel, in order, with the parameters of the first function with its id. No other
entry point changes that, dangling or not, nor a function whose id no kernel has, nor the
order of functions with different ids: binaries that differ in these alone come to the same. -/
theorem parse_of_loadsAs {bytes : List UInt8} {p : Program} (loads : LoadsAs bytes p) :
    (p.kernelEntries = [] → KernelModule.parse bytes = .error (.invalid .noKernels)) ∧
    (∀ earlier e later, p.kernelEntries = earlier ++ e :: later →
      (∀ d ∈ earlier, ∃ f ∈ p.functions, f.id = d.function) →
      (∀ f ∈ p.functions, f.id ≠ e.function) →
      KernelModule.parse bytes = .error (.invalid
        (.unreadable s!"entry point {quote e.name} has no function %{e.function.toNat}"))) ∧
    (p.kernelEntries ≠ [] →
      (∀ e ∈ p.kernelEntries, ∃ f ∈ p.functions, f.id = e.function) →
      ∃ kernels, KernelModule.parse bytes = .ok ⟨p.version, kernels⟩ ∧
        List.Forall₂ (EntryPoint.HasKernel p.functions) p.kernelEntries kernels) ∧
    ∀ bytes' p', LoadsAs bytes' p' → p'.version = p.version →
      p'.kernelEntries = p.kernelEntries →
      (∀ e ∈ p.kernelEntries, p'.functions.filter (·.id = e.function) =
        p.functions.filter (·.id = e.function)) →
      KernelModule.parse bytes' = KernelModule.parse bytes := by
  rw [loads.parse_eq, Program.kernelModule]
  refine ⟨?_, ?_, ?_, ?_⟩
  · intro none
    rw [Program.kernels_eq, none]
    rfl
  · intro earlier e later split defined undefined
    rw [Program.kernels_of_undefined split defined undefined]
    rfl
  · intro there defined
    obtain ⟨kernels, made, joined⟩ := Program.exists_kernels_of_defined there defined
    refine ⟨kernels, ?_, joined⟩
    rw [made]
    rfl
  · intro bytes' p' loads' version entries functions
    rw [loads'.parse_eq, Program.kernelModule_congr version entries functions]
    rfl

/-- Two kernels that share a function id, which two functions have. Before them stands a shader
without a function, and another function before theirs. -/
def crowdedModule : List Draft :=
  [⟨15, [0, 99] ++ textWords "shade"⟩, ⟨15, [kernelModel, 10] ++ textWords "add"⟩,
    ⟨15, [kernelModel, 10] ++ textWords "axpy"⟩, ⟨54, [1, 20, 0, 2]⟩, ⟨56, []⟩,
    ⟨54, [1, 10, 0, 2]⟩, ⟨55, [1, 11]⟩, ⟨55, [1, 12]⟩, ⟨56, []⟩,
    ⟨54, [1, 10, 0, 2]⟩, ⟨55, [1, 13]⟩, ⟨56, []⟩]

/-- The same kernels without the shader, and with the other function behind theirs. -/
def sparseModule : List Draft :=
  [⟨15, [kernelModel, 10] ++ textWords "add"⟩, ⟨15, [kernelModel, 10] ++ textWords "axpy"⟩,
    ⟨54, [1, 10, 0, 2]⟩, ⟨55, [1, 11]⟩, ⟨55, [1, 12]⟩, ⟨56, []⟩,
    ⟨54, [1, 10, 0, 2]⟩, ⟨55, [1, 13]⟩, ⟨56, []⟩, ⟨54, [1, 20, 0, 2]⟩, ⟨56, []⟩]

/-- Instructions behind a header of version 1.2. -/
def wordsBehindHeader (instructions : List Draft) : List UInt32 :=
  [magicNumber, 0x10200, 0, 100, 0] ++ instructions.flatMap Draft.words

/-- Both kernels have the parameters of the first function with their id, in either module. -/
theorem parse_crowdedModule :
    let crowded := bytesOfWords (wordsBehindHeader crowdedModule)
    let sparse := bytesOfWords (wordsBehindHeader sparseModule)
    LoadsAs crowded ⟨⟨1, 2⟩, [⟨0, 99, "shade"⟩, ⟨6, 10, "add"⟩, ⟨6, 10, "axpy"⟩],
        [⟨20, 0⟩, ⟨10, 2⟩, ⟨10, 1⟩]⟩ ∧
      LoadsAs sparse ⟨⟨1, 2⟩, [⟨6, 10, "add"⟩, ⟨6, 10, "axpy"⟩], [⟨10, 2⟩, ⟨10, 1⟩, ⟨20, 0⟩]⟩ ∧
      KernelModule.parse crowded = .ok ⟨⟨1, 2⟩, [⟨"add", 2⟩, ⟨"axpy", 2⟩]⟩ ∧
      KernelModule.parse sparse = KernelModule.parse crowded := by
  intro crowded sparse
  have loads : LoadsAs crowded ⟨⟨1, 2⟩, [⟨0, 99, "shade"⟩, ⟨6, 10, "add"⟩, ⟨6, 10, "axpy"⟩],
      [⟨20, 0⟩, ⟨10, 2⟩, ⟨10, 1⟩]⟩ := .of_words rfl rfl
  have loads' : LoadsAs sparse ⟨⟨1, 2⟩, [⟨6, 10, "add"⟩, ⟨6, 10, "axpy"⟩],
      [⟨10, 2⟩, ⟨10, 1⟩, ⟨20, 0⟩]⟩ := .of_words rfl rfl
  obtain ⟨-, -, joined, unaffected⟩ := parse_of_loadsAs loads
  have defined : ∀ e ∈ [EntryPoint.mk 6 10 "add", EntryPoint.mk 6 10 "axpy"],
      ∃ f ∈ [FunctionDef.mk 20 0, ⟨10, 2⟩, ⟨10, 1⟩], f.id = e.function := by decide
  obtain ⟨kernels, parsed, each⟩ := joined (List.cons_ne_nil _ _) defined
  have made : kernels = [⟨"add", 2⟩, ⟨"axpy", 2⟩] := by
    obtain _ | ⟨first, _ | ⟨second, _ | _⟩⟩ := each
    have add := EntryPoint.kernel_eq_ok_iff.mpr first
    have axpy := EntryPoint.kernel_eq_ok_iff.mpr second
    cases add
    cases axpy
    rfl
  exact ⟨loads, loads', made ▸ parsed, unaffected sparse _ loads' rfl rfl (by decide)⟩

end ComputeHandles.Spirv
