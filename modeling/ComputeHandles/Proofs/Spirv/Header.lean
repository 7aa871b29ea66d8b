import ComputeHandles.Proofs.Spirv.Bytes
import ComputeHandles.Proofs.Spirv.Loading

/-!
# The header of a binary

The header is five words: the magic number, the version, the tool that wrote the binary, a bound
of its ids, and a word that is reserved. The magic number is compared, the two middle bytes of the
second word are told as the version, and nothing else of the header is looked at. What comes of
loading the words behind it depends on these words alone.
-/

namespace ComputeHandles.Spirv

open Listing

/-- The bytes of a header that hold the version. -/
def versionBytes : List Nat := [5, 6]

/-- The bytes of a header that nothing looks at: those around the version, and the last three
words. -/
def unreadBytes : List Nat := [4, 7] ++ List.range' 8 12

/-- Two binaries of one length differ at some indices at most. -/
structure SameBut (indices : List Nat) (a b : List UInt8) : Prop where
  /-- There are as many bytes. -/
  length : a.length = b.length
  /-- Each byte at another index is the same. -/
  same : ∀ i < a.length, i ∉ indices → a[i]? = b[i]?

/-- The module of a binary told with another version. -/
def KernelModule.withVersion (version : Version) (m : KernelModule) : KernelModule :=
  { m with version }

namespace SameBut

variable {indices others : List Nat} {a b : List UInt8} {i : Nat}

/-- Binaries that are the same but for some bytes are so but for these and others. -/
theorem mono (h : SameBut indices a b) (sub : indices ⊆ others) : SameBut others a b where
  length := h.length
  same i inside outside := h.same i inside fun mem => outside (sub mem)

/-- At another index both binaries have the same byte or have ended. -/
theorem getElem?_eq (h : SameBut indices a b) (outside : i ∉ indices) : a[i]? = b[i]? := by
  by_cases inside : i < a.length
  · exact h.same i inside outside
  · have ended : a.length ≤ i := Nat.le_of_not_lt inside
    have ended' : b.length ≤ i := h.length ▸ ended
    rw [List.getElem?_eq_none ended, List.getElem?_eq_none ended']

/-- A word none of whose bytes is at such an index is the same. -/
theorem word_eq (h : SameBut indices a b) (outside : ∀ j < 4, 4 * i + j ∉ indices) :
    (wordsOfBytes a)[i]? = (wordsOfBytes b)[i]? :=
  getElem?_wordsOfBytes_congr fun j inside => h.getElem?_eq (outside j inside)

/-- If they differ inside the header only, the words behind it are the same. -/
theorem drop_eq (h : SameBut indices a b) (header : ∀ i ∈ indices, i < 20) :
    (wordsOfBytes a).drop 5 = (wordsOfBytes b).drop 5 := by
  apply List.ext_getElem?
  intro i
  rw [List.getElem?_drop, List.getElem?_drop]
  refine h.word_eq fun j _ mem => ?_
  have inside := header _ mem
  omega

end SameBut

/-- A binary with a whole header has five words in front. -/
theorem exists_header {bytes : List UInt8} (long : 20 ≤ bytes.length) :
    ∃ magic version generator bound schema, wordsOfBytes bytes =
      magic :: version :: generator :: bound :: schema :: (wordsOfBytes bytes).drop 5 := by
  have words := length_wordsOfBytes bytes
  match wordsOfBytes bytes, words with
  | magic :: version :: generator :: bound :: schema :: body, _ =>
    exact ⟨magic, version, generator, bound, schema, rfl⟩
  | [], few | [_], few | [_, _], few | [_, _, _], few | [_, _, _, _], few =>
    simp only [List.length_cons, List.length_nil] at few
    omega

/-- The second word tells the version. -/
theorem version_of_word {bytes : List UInt8} {version : UInt32}
    (second : (wordsOfBytes bytes)[1]? = some version) :
    bytes[6]? = some (Version.ofWord version).major ∧
      bytes[5]? = some (Version.ofWord version).minor := by
  rw [getElem?_wordsOfBytes, wordAt?] at second
  simp only [Nat.mul_one, Nat.reduceAdd, Option.bind_eq_bind, Option.bind_eq_some_iff,
    Option.pure_def, Option.some_inj] at second
  obtain ⟨a, -, minor, fifth, major, sixth, d, -, same⟩ := second
  rw [← same, Version.ofWord_wordOfBytes]
  exact ⟨sixth, fifth⟩

/-- Only the version is told of a program with another one. -/
theorem Program.kernelModule_withVersion (p : Program) (version : Version) :
    ({ p with version } : Program).kernelModule =
      p.kernelModule.map (KernelModule.withVersion version) := by
  have kernels : ({ p with version } : Program).kernels = p.kernels := rfl
  rw [kernelModule, kernelModule, kernels]
  cases p.kernels <;> rfl

/-- Words behind the same magic number are inspected alike, but for the version that is told. -/
theorem KernelModule.ofWords_withVersion
    (magic version generator bound schema version' generator' bound' schema' : UInt32)
    (body : List UInt32) :
    ofWords (magic :: version' :: generator' :: bound' :: schema' :: body) =
      (ofWords (magic :: version :: generator :: bound :: schema :: body)).map
        (withVersion (Version.ofWord version')) := by
  by_cases found : magic = Spirv.magicNumber
  · subst found
    cases outcome : (Loading.start body).outcome with
    | error fault =>
      have broken (v g b s : UInt32) :
          Program.load (Spirv.magicNumber :: v :: g :: b :: s :: body) = .error fault := by
        rw [Program.load_eq, outcome]
        rfl
      rw [ofWords_of_fault rfl (broken _ _ _ _), ofWords_of_fault rfl (broken _ _ _ _)]
      rfl
    | ok layout =>
      have loaded (v g b s : UInt32) :
          Program.load (Spirv.magicNumber :: v :: g :: b :: s :: body) =
            .ok ⟨Version.ofWord v, layout.entryPoints, layout.functions⟩ := by
        rw [Program.load_eq, outcome]
        rfl
      have module := Program.kernelModule_withVersion
        ⟨Version.ofWord version, layout.entryPoints, layout.functions⟩ (Version.ofWord version')
      rw [ofWords_of_loaded rfl (loaded _ _ _ _), ofWords_of_loaded rfl (loaded _ _ _ _), module]
      cases Program.kernelModule ⟨Version.ofWord version, layout.entryPoints, layout.functions⟩ <;>
        rfl
  · have reported (v g b s : UInt32) : ofWords (magic :: v :: g :: b :: s :: body) =
        .error (.invalid (.magicNumber magic Spirv.magicNumber)) := ofWords_of_otherMagic found
    rw [reported, reported]
    rfl

/-- Binaries that differ in their headers only, and not in the magic number, are inspected alike
but for the version that is told. -/
theorem KernelModule.parse_withVersion {indices : List Nat} {a b : List UInt8}
    (long : 20 ≤ a.length) (h : SameBut indices a b) (header : ∀ i ∈ indices, 4 ≤ i ∧ i < 20) :
    ∃ version : Version, b[6]? = some version.major ∧ b[5]? = some version.minor ∧
      parse b = (parse a).map (withVersion version) := by
  have long' : 20 ≤ b.length := h.length ▸ long
  obtain ⟨magic, version, generator, bound, schema, wordsA⟩ := exists_header long
  obtain ⟨magic', version', generator', bound', schema', wordsB⟩ := exists_header long'
  have first : (wordsOfBytes a)[0]? = (wordsOfBytes b)[0]? := by
    refine h.word_eq fun j inside mem => ?_
    have low := (header _ mem).1
    omega
  have behind := h.drop_eq fun i mem => (header i mem).2
  rw [wordsA, wordsB] at first
  obtain rfl : magic = magic' := Option.some.inj first
  have second : (wordsOfBytes b)[1]? = some version' := by
    rw [wordsB]
    rfl
  obtain ⟨major, minor⟩ := version_of_word second
  refine ⟨Version.ofWord version', major, minor, ?_⟩
  by_cases aligned : a.length % 4 = 0
  · have aligned' : b.length % 4 = 0 := h.length ▸ aligned
    have thereA : a ≠ [] := List.ne_nil_of_length_pos (by omega)
    have thereB : b ≠ [] := List.ne_nil_of_length_pos (by omega)
    rw [parse_of_aligned thereA aligned, parse_of_aligned thereB aligned', wordsA, wordsB, behind]
    exact ofWords_withVersion magic version generator bound schema version' generator' bound'
      schema' _
  · have misaligned : b.length % 4 ≠ 0 := h.length ▸ aligned
    rw [parse_of_misaligned aligned, parse_of_misaligned misaligned, h.length]
    rfl

/-- Binaries of one length with whole headers that differ in the unread bytes of these only come
to the same, be it a module, a report or an abort. If they differ in the bytes of the version
too, all that changes is the version of a module, which is the one that these bytes tell. -/
theorem parse_of_sameBut {a b : List UInt8} (long : 20 ≤ a.length) :
    (SameBut unreadBytes a b → KernelModule.parse a = KernelModule.parse b) ∧
      (SameBut (unreadBytes ++ versionBytes) a b →
        ∃ version : Version, b[6]? = some version.major ∧ b[5]? = some version.minor ∧
          KernelModule.parse b =
            (KernelModule.parse a).map (KernelModule.withVersion version)) := by
  have header : ∀ i ∈ unreadBytes ++ versionBytes, 4 ≤ i ∧ i < 20 := by decide
  constructor
  · intro h
    have unread : unreadBytes ⊆ unreadBytes ++ versionBytes := List.subset_append_left _ _
    have same := h.mono unread
    have itself : SameBut (unreadBytes ++ versionBytes) a a := ⟨rfl, fun _ _ _ => rfl⟩
    obtain ⟨version, major, minor, parsed⟩ := KernelModule.parse_withVersion long itself header
    obtain ⟨version', major', minor', parsed'⟩ := KernelModule.parse_withVersion long same header
    rw [h.getElem?_eq (by decide), major', Option.some_inj] at major
    rw [h.getElem?_eq (by decide), minor', Option.some_inj] at minor
    have told : version = version' := by
      cases version
      cases version'
      simp only [Version.mk.injEq]
      exact ⟨major.symm, minor.symm⟩
    rw [parsed', ← told]
    exact parsed
  · intro h
    exact KernelModule.parse_withVersion long h header

/-- A binary with one kernel that has one parameter, behind any header. -/
def oneKernel (version generator bound schema : UInt32) : List UInt8 :=
  bytesOfWords [magicNumber, version, generator, bound, schema,
    0x4000f, kernelModel, 10, 0x6b, 0x50036, 1, 10, 0, 2, 0x30037, 1, 11, 0x10038]

/-- The same kernel behind three headers, the last one with another version. -/
theorem parse_of_sameBut_oneKernel :
    20 ≤ (oneKernel 0x10200 0 12 0).length ∧
      SameBut unreadBytes (oneKernel 0x10200 0 12 0) (oneKernel 0xff0102ff 8 0 1) ∧
      SameBut (unreadBytes ++ versionBytes) (oneKernel 0x10200 0 12 0) (oneKernel 0x20300 8 0 1) ∧
      KernelModule.parse (oneKernel 0xff0102ff 8 0 1) = .ok ⟨⟨1, 2⟩, [⟨"k", 1⟩]⟩ ∧
      KernelModule.parse (oneKernel 0x20300 8 0 1) = .ok ⟨⟨2, 3⟩, [⟨"k", 1⟩]⟩ := by
  have long : 20 ≤ (oneKernel 0x10200 0 12 0).length := by decide
  have unread : SameBut unreadBytes (oneKernel 0x10200 0 12 0) (oneKernel 0xff0102ff 8 0 1) :=
    ⟨rfl, by decide⟩
  have others : SameBut (unreadBytes ++ versionBytes) (oneKernel 0x10200 0 12 0)
      (oneKernel 0x20300 8 0 1) := ⟨rfl, by decide⟩
  have parsed : KernelModule.parse (oneKernel 0x10200 0 12 0) =
      .ok ⟨⟨1, 2⟩, [⟨"k", 1⟩]⟩ := by rfl
  have same := (parse_of_sameBut long).1 unread
  obtain ⟨⟨major, minor⟩, sixth, fifth, told⟩ := (parse_of_sameBut long).2 others
  obtain rfl : 2 = major := Option.some.inj sixth
  obtain rfl : 3 = minor := Option.some.inj fifth
  rw [parsed] at same told
  exact ⟨long, unread, others, same.symm, told⟩

end ComputeHandles.Spirv
