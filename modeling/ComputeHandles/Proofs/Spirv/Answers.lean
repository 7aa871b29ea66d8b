import ComputeHandles.Proofs.Spirv.Counted
import ComputeHandles.Proofs.Spirv.Header
import ComputeHandles.Proofs.Spirv.Kernels

/-!
# What an answer tells about its binary

A binary is looked at as a whole first: whether it is there, whether its words are whole, and
whether it starts with the magic number. Each of these has a report of its own, so such a report
tells what the binary is like, and nothing behind the first word can bring it about. A module
tells where it was read: its version stands in the header, and its kernels were declared and have
their parameters behind it.
-/

namespace ComputeHandles.Spirv

open Listing

/-- A binary starts with a word, the lowest byte of it first. -/
def StartsWith (bytes : List UInt8) (word : UInt32) : Prop :=
  ∃ a b c d rest, bytes = a :: b :: c :: d :: rest ∧
    word.toNat = a.toNat + 0x100 * b.toNat + 0x10000 * c.toNat + 0x1000000 * d.toNat

section FirstWord

variable {bytes : List UInt8} {word : UInt32}

/-- What a binary starts with is its first word. -/
theorem startsWith_iff : StartsWith bytes word ↔ (wordsOfBytes bytes).head? = some word := by
  constructor
  · rintro ⟨a, b, c, d, rest, rfl, counted⟩
    rw [← toNat_wordOfBytes, UInt32.toNat_inj] at counted
    rw [counted]
    rfl
  · intro first
    unfold wordsOfBytes at first
    split at first
    · next a b c d rest =>
      cases first
      exact ⟨a, b, c, d, rest, rfl, toNat_wordOfBytes a b c d⟩
    · cases first

/-- A binary with whole words that is there starts with one. -/
theorem exists_startsWith (there : bytes ≠ []) (aligned : bytes.length % 4 = 0) :
    ∃ word, StartsWith bytes word := by
  have count := length_wordsOfBytes bytes
  have positive := List.length_pos_iff.mpr there
  cases words : wordsOfBytes bytes with
  | nil =>
    rw [words, List.length_nil] at count
    omega
  | cons first rest => exact ⟨first, startsWith_iff.mpr (congrArg List.head? words)⟩

/-- A binary with whole words that starts with one is inspected by its words, of which that is the
first. -/
theorem StartsWith.parse_eq (first : StartsWith bytes word) (aligned : bytes.length % 4 = 0) :
    KernelModule.parse bytes = KernelModule.ofWords (wordsOfBytes bytes) ∧
      (wordsOfBytes bytes).headD 0 = word := by
  have there : bytes ≠ [] := by
    rintro rfl
    obtain ⟨a, b, c, d, rest, whole, -⟩ := first
    cases whole
  refine ⟨KernelModule.parse_of_aligned there aligned, ?_⟩
  rw [List.headD_eq_head?_getD, startsWith_iff.mp first]
  rfl

end FirstWord

/-- What inspection answers about a binary that is like this. -/
inductive Answer (bytes : List UInt8) : Except InspectionFault KernelModule → Prop where
  /-- There are no bytes. -/
  | empty (none : bytes = []) : Answer bytes (.error (.invalid .empty))
  /-- The words are not whole. -/
  | misaligned (broken : bytes.length % 4 ≠ 0) :
      Answer bytes (.error (.invalid (.misaligned bytes.length)))
  /-- The words start with another one. -/
  | otherMagic {found : UInt32} (aligned : bytes.length % 4 = 0) (first : StartsWith bytes found)
      (other : found ≠ magicNumber) :
      Answer bytes (.error (.invalid (.magicNumber found magicNumber)))
  /-- The words are no program. -/
  | unloaded {error : LoadError} (aligned : bytes.length % 4 = 0)
      (first : StartsWith bytes magicNumber)
      (broken : Program.load (wordsOfBytes bytes) = .error (.reported error)) :
      Answer bytes (.error (.invalid (.unreadable error.message)))
  /-- A text claims more bytes than there are. -/
  | overrun {stop length : Nat} (aligned : bytes.length % 4 = 0)
      (first : StartsWith bytes magicNumber)
      (broken : Program.load (wordsOfBytes bytes) = .error (.overrun stop length)) :
      Answer bytes (.error (.overrun stop length))
  /-- A kernel of the program has no function. -/
  | dangling {p : Program} {reason : String} (loads : LoadsAs bytes p)
      (undefined : p.kernels = .error (.unreadable reason)) :
      Answer bytes (.error (.invalid (.unreadable reason)))
  /-- The program has no kernels. -/
  | noKernels {p : Program} (loads : LoadsAs bytes p) (none : p.kernels = .error .noKernels) :
      Answer bytes (.error (.invalid .noKernels))
  /-- The program has kernels. -/
  | module {p : Program} {kernels : List KernelEntry} (loads : LoadsAs bytes p)
      (made : p.kernels = .ok kernels) : Answer bytes (.ok ⟨p.version, kernels⟩)

/-- A program has no kernels because none is declared, or because one has no function. -/
theorem Program.eq_of_kernels_eq_error {p : Program} {e : InvalidSpirv}
    (h : p.kernels = .error e) : e = .noKernels ∨ ∃ reason, e = .unreadable reason := by
  rw [kernels_eq] at h
  cases made : p.kernelEntries.mapM (EntryPoint.kernel p.functions) with
  | error fault =>
    rw [made] at h
    cases h
    obtain ⟨earlier, x, later, -, -, undefined⟩ := mapM_eq_error_iff.mp made
    unfold EntryPoint.kernel at undefined
    split at undefined
    · cases undefined
    · cases undefined
      exact .inr ⟨_, rfl⟩
  | ok kernels =>
    rw [made] at h
    change (if kernels = [] then _ else _) = _ at h
    by_cases empty : kernels = []
    · rw [if_pos empty] at h
      cases h
      exact .inl rfl
    · rw [if_neg empty] at h
      cases h

/-- Every binary has its answer. -/
theorem answer_parse (bytes : List UInt8) : Answer bytes (KernelModule.parse bytes) := by
  by_cases none : bytes = []
  · subst none
    exact .empty rfl
  by_cases aligned : bytes.length % 4 = 0
  case neg =>
    rw [KernelModule.parse_of_misaligned aligned]
    exact .misaligned aligned
  obtain ⟨word, first⟩ := exists_startsWith none aligned
  obtain ⟨parsed, head⟩ := first.parse_eq aligned
  by_cases magic : word = magicNumber
  case neg =>
    rw [parsed, KernelModule.ofWords_of_otherMagic (head ▸ magic), head]
    exact .otherMagic aligned first magic
  subst magic
  cases loaded : Program.load (wordsOfBytes bytes) with
  | error fault =>
    rw [parsed, KernelModule.ofWords_of_fault head loaded]
    cases fault with
    | reported error => exact .unloaded aligned first loaded
    | overrun stop length => exact .overrun aligned first loaded
  | ok p =>
    have loads : LoadsAs bytes p := ⟨aligned, startsWith_iff.mp first, loaded⟩
    rw [loads.parse_eq, Program.kernelModule]
    cases made : p.kernels with
    | error e =>
      rcases Program.eq_of_kernels_eq_error made with rfl | ⟨reason, rfl⟩
      · exact .noKernels loads made
      · exact .dangling loads made
    | ok kernels => exact .module loads made

/-- What a program has of the binary that it is loaded from: its version stands in the header,
its names hold no NUL, and there is room for the parameters of its functions. -/
theorem LoadsAs.counted {bytes : List UInt8} {p : Program} (h : LoadsAs bytes p) :
    (bytes[6]? = some p.version.major ∧ bytes[5]? = some p.version.minor) ∧
      (∀ e ∈ p.entryPoints, '\x00' ∉ e.name.toList) ∧
        ∀ f ∈ p.functions, 5 + 3 * f.parameters ≤ bytes.length / 4 := by
  obtain ⟨magic, version, generator, bound, schema, body, layout, words, outcome, rfl⟩ :=
    Program.exists_of_load h.loaded
  have second : (wordsOfBytes bytes)[1]? = some version := by
    rw [words]
    rfl
  have size := length_wordsOfBytes bytes
  rw [words] at size
  simp only [List.length_cons] at size
  have counted := Loading.counted_of_outcome outcome
  refine ⟨version_of_word second, counted.names, fun f mem => ?_⟩
  have room := counted.complete f mem
  omega

/-- A kernel has the name of an entry point and the parameters of a function. -/
theorem Program.exists_of_mem_kernels {p : Program} {kernels : List KernelEntry} {k : KernelEntry}
    (made : p.kernels = .ok kernels) (mem : k ∈ kernels) :
    (∃ e ∈ p.entryPoints, k.name = e.name) ∧ ∃ f ∈ p.functions, k.arguments = f.parameters := by
  obtain ⟨-, joined⟩ := kernels_eq_ok_iff.mp made
  obtain ⟨e, declared, named, f, ⟨-, before, behind, functions, -⟩, counted⟩ :=
    exists_partner_of_mem joined mem
  refine ⟨⟨e, List.mem_of_mem_filter declared, named⟩, f, ?_, counted⟩
  rw [functions]
  exact List.mem_append_right before List.mem_cons_self

section Answers

variable {bytes : List UInt8}

/-- Exactly of no bytes is it said that there are none. -/
theorem parse_eq_empty_iff :
    KernelModule.parse bytes = .error (.invalid .empty) ↔ bytes.length = 0 := by
  rw [List.length_eq_zero_iff]
  constructor
  · intro h
    have answer := h ▸ answer_parse bytes
    cases answer with
    | empty none => exact none
  · rintro rfl
    rfl

/-- A length is reported exactly if it is that of bytes that are no whole words. -/
theorem parse_eq_misaligned_iff {n : Nat} :
    KernelModule.parse bytes = .error (.invalid (.misaligned n)) ↔
      bytes.length ≠ 0 ∧ bytes.length % 4 ≠ 0 ∧ n = bytes.length := by
  constructor
  · intro h
    have answer := h ▸ answer_parse bytes
    cases answer with
    | misaligned broken => exact ⟨by omega, broken, rfl⟩
  · rintro ⟨-, broken, rfl⟩
    exact KernelModule.parse_of_misaligned broken

/-- A word is reported exactly if whole words start with it and it is not the magic number. -/
theorem parse_eq_magicNumber_iff {found expected : UInt32} :
    KernelModule.parse bytes = .error (.invalid (.magicNumber found expected)) ↔
      bytes.length % 4 = 0 ∧ StartsWith bytes found ∧ found ≠ magicNumber ∧
        expected = magicNumber := by
  constructor
  · intro h
    have answer := h ▸ answer_parse bytes
    cases answer with
    | otherMagic aligned first other => exact ⟨aligned, first, other, rfl⟩
  · rintro ⟨aligned, first, other, rfl⟩
    obtain ⟨parsed, head⟩ := first.parse_eq aligned
    rw [parsed, KernelModule.ofWords_of_otherMagic (head ▸ other), head]

/-- A module is that of a program which the binary loads as. -/
theorem exists_loadsAs_of_parse {m : KernelModule} (h : KernelModule.parse bytes = .ok m) :
    ∃ p, LoadsAs bytes p ∧ p.version = m.version ∧ p.kernels = .ok m.kernels := by
  have answer := h ▸ answer_parse bytes
  cases answer with
  | module loads made => exact ⟨_, loads, rfl, made⟩

end Answers

/-- The reports about a binary as a whole are made exactly of binaries that are like this, and
only with what these start with or how long they are. A module has a kernel, its kernels have no
NUL in their names and no more arguments than instructions of three words fit behind the header,
and its version is that of the header. -/
theorem parse_tells (bytes : List UInt8) :
    (KernelModule.parse bytes = .error (.invalid .empty) ↔ bytes.length = 0) ∧
    (∀ n, KernelModule.parse bytes = .error (.invalid (.misaligned n)) ↔
      bytes.length ≠ 0 ∧ bytes.length % 4 ≠ 0 ∧ n = bytes.length) ∧
    (∀ found expected,
      KernelModule.parse bytes = .error (.invalid (.magicNumber found expected)) ↔
        bytes.length % 4 = 0 ∧ StartsWith bytes found ∧ found ≠ magicNumber ∧
          expected = magicNumber) ∧
    ∀ m, KernelModule.parse bytes = .ok m →
      m.kernels ≠ [] ∧
      (∀ k ∈ m.kernels, '\x00' ∉ k.name.toList) ∧
      (bytes[6]? = some m.version.major ∧ bytes[5]? = some m.version.minor) ∧
      20 ≤ bytes.length ∧ ∀ k ∈ m.kernels, k.arguments ≤ (bytes.length / 4 - 5) / 3 := by
  refine ⟨parse_eq_empty_iff, fun n => parse_eq_misaligned_iff,
    fun found expected => parse_eq_magicNumber_iff, fun m h => ?_⟩
  obtain ⟨p, loads, version, made⟩ := exists_loadsAs_of_parse h
  obtain ⟨header, names, room⟩ := loads.counted
  rw [version] at header
  obtain ⟨nonempty, -⟩ := Program.kernels_eq_ok_iff.mp made
  have fits : ∀ k ∈ m.kernels, 5 + 3 * k.arguments ≤ bytes.length / 4 := by
    intro k mem
    obtain ⟨-, f, inside, counted⟩ := Program.exists_of_mem_kernels made mem
    rw [counted]
    exact room f inside
  refine ⟨nonempty, fun k mem => ?_, header, ?_, fun k mem => ?_⟩
  · obtain ⟨⟨e, declared, named⟩, -⟩ := Program.exists_of_mem_kernels made mem
    rw [named]
    exact names e declared
  · obtain ⟨k, mem⟩ := List.exists_mem_of_ne_nil _ nonempty
    have := fits k mem
    omega
  · have := fits k mem
    omega

/-- A module of eighteen words with one parameter. Cut inside its last word, or behind another
first word, it is reported. -/
theorem parse_tells_oneKernel :
    let bytes := oneKernel 0x10200 0 12 0
    (KernelModule.parse bytes = .ok ⟨⟨1, 2⟩, [⟨"k", 1⟩]⟩ ∧
      (bytes[6]? = some 1 ∧ bytes[5]? = some 2) ∧ 1 ≤ (bytes.length / 4 - 5) / 3) ∧
    KernelModule.parse (bytes.take 70) = .error (.invalid (.misaligned 70)) ∧
    KernelModule.parse (0 :: 0 :: bytes.drop 2) =
      .error (.invalid (.magicNumber 0x07230000 magicNumber)) := by
  intro bytes
  have parsed : KernelModule.parse (oneKernel 0x10200 0 12 0) = .ok ⟨⟨1, 2⟩, [⟨"k", 1⟩]⟩ := by
    rfl
  obtain ⟨-, -, -, told⟩ := parse_tells bytes
  obtain ⟨-, -, header, -, room⟩ := told _ parsed
  have parameters := room ⟨"k", 1⟩ List.mem_cons_self
  refine ⟨⟨parsed, header, parameters⟩, ?_, ?_⟩
  · exact ((parse_tells _).2.1 70).mpr ⟨by decide, by decide, by decide⟩
  · refine ((parse_tells _).2.2.1 0x07230000 magicNumber).mpr ⟨by decide, ?_, by decide, rfl⟩
    exact ⟨0, 0, 0x23, 0x07, bytes.drop 4, rfl, rfl⟩

end ComputeHandles.Spirv
