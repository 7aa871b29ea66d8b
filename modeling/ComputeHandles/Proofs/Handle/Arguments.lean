import ComputeHandles.Handle.Perform
import ComputeHandles.Proofs.Handle.Texts
import ComputeHandles.Proofs.Queue.Properties

/-!
# Acceptable arguments

An argument is refused for what is given for it alone: a handle or a pointer that must not be
null is null, a text is not UTF-8 before its first NUL, or a number has a bit that is no
property. Null options are the empty text, and a handler may be missing. Each way to read an
argument refuses exactly what is not acceptable, with a complaint that names the argument.
-/

namespace ComputeHandles

open Text

/-- What a caller gives for an argument. -/
inductive Given where
  /-- A handle that must not be null. -/
  | handle (kind : HandleKind) (slot : HandleArgument)
  /-- A text that must not be null. -/
  | text (bytes : TextArgument)
  /-- Options, which may be null. -/
  | options (bytes : TextArgument)
  /-- The bytes of a binary that must not be null. -/
  | binary (bytes : Option (List UInt8))
  /-- A number that stands for properties. -/
  | properties (bits : UInt32)
  /-- A handler, if there is one. -/
  | handler (present : Bool)
  /-- A position. -/
  | index (position : UInt64)
  deriving DecidableEq, Repr

/-- An argument of a function. -/
structure Argument where
  /-- What it is called in a complaint. -/
  name : String
  /-- What is given for it. -/
  given : Given
  deriving DecidableEq, Repr

/-- What must not be null is null: a pointer, a handle, or the handle in a slot. -/
def Given.IsNull (slots : Slots) : Given → Prop
  | .handle kind slot => slots.find kind slot = none
  | .text bytes | .binary bytes => bytes = none
  | .options _ | .properties _ | .handler _ | .index _ => False

/-- The bytes of a text that is there. -/
def Given.text? : Given → Option (List UInt8)
  | .text bytes | .options bytes => bytes
  | .handle _ _ | .binary _ | .properties _ | .handler _ | .index _ => none

/-- What is given is not acceptable. -/
inductive Given.Unacceptable (slots : Slots) (g : Given) : Prop where
  /-- It is null and must not be. -/
  | null (null : g.IsNull slots)
  /-- It is no text up to its first NUL. -/
  | notUtf8 {bytes : List UInt8} (given : g.text? = some bytes)
      (bad : ∀ cs, utf8Encode cs ≠ bytes.takeWhile (· != 0))
  /-- It has a bit that is no property. -/
  | unknownBit {bits : UInt32} (given : g = .properties bits)
      (unknown : QueueProperties.HasUnknownBit bits)

/-- What is said about an argument that is not acceptable. -/
inductive Argument.Complaint (slots : Slots) (a : Argument) : String → Prop where
  /-- It is null and must not be. -/
  | null (null : a.given.IsNull slots) : Complaint slots a s!"Argument `{a.name}` is null!"
  /-- It is no text up to its first NUL, which is told with the position. -/
  | notUtf8 {bytes : List UInt8} {e : Utf8Error} (given : a.given.text? = some bytes)
      (bad : utf8Decode (bytes.takeWhile (· != 0)) = .error e) :
    Complaint slots a s!"Argument `{a.name}` is not valid UTF-8: {e.message}"
  /-- It has a bit that is no property. -/
  | unknownBit {bits : UInt32} (given : a.given = .properties bits)
      (unknown : QueueProperties.HasUnknownBit bits) :
    Complaint slots a s!"Invalid queue properties {hexText 0 bits.toNat}!"

/-- The arguments of a function, in the order they are declared in. -/
def ExportedFunction.arguments {sort : ResultSort} : ExportedFunction sort → List Argument
  | .createFilterSelector filter => [⟨"filter", .text filter⟩]
  | .scoreDevice selector device =>
    [⟨"selector", .handle .selector selector⟩, ⟨"device", .handle .device device⟩]
  | .createDevice selector => [⟨"selector", .handle .selector selector⟩]
  | .copyDevice device | .deviceName device | .deviceVendor device | .deviceBackend device
  | .deviceType device | .deviceIsHost device | .createContext device =>
    [⟨"device", .handle .device device⟩]
  | .devicesEqual a b => [⟨"a", .handle .device a⟩, ⟨"b", .handle .device b⟩]
  | .copyContext context | .contextDevice context | .contextDeviceCount context =>
    [⟨"context", .handle .context context⟩]
  | .contextsEqual a b => [⟨"a", .handle .context a⟩, ⟨"b", .handle .context b⟩]
  | .createQueueForDevice device hasHandler properties =>
    [⟨"device", .handle .device device⟩, ⟨"handler", .handler hasHandler⟩,
      ⟨"properties", .properties properties⟩]
  | .createQueue context device hasHandler properties =>
    [⟨"context", .handle .context context⟩, ⟨"device", .handle .device device⟩,
      ⟨"handler", .handler hasHandler⟩, ⟨"properties", .properties properties⟩]
  | .queueContext queue | .queueDevice queue | .queueInOrder queue | .queueProfiling queue
  | .waitForQueue queue => [⟨"queue", .handle .queue queue⟩]
  | .queuesEqual a b => [⟨"a", .handle .queue a⟩, ⟨"b", .handle .queue b⟩]
  | .buildSource context device source options =>
    [⟨"context", .handle .context context⟩, ⟨"device", .handle .device device⟩,
      ⟨"source", .text source⟩, ⟨"options", .options options⟩]
  | .buildSpirv context device binary options =>
    [⟨"context", .handle .context context⟩, ⟨"device", .handle .device device⟩,
      ⟨"il", .binary binary⟩, ⟨"options", .options options⟩]
  | .bundleHasKernel bundle name | .bundleKernel bundle name =>
    [⟨"bundle", .handle .bundle bundle⟩, ⟨"name", .text name⟩]
  | .bundleKernelCount bundle => [⟨"bundle", .handle .bundle bundle⟩]
  | .bundleKernelName bundle index =>
    [⟨"bundle", .handle .bundle bundle⟩, ⟨"index", .index index⟩]
  | .kernelArgumentCount kernel | .kernelName kernel | .copyKernel kernel =>
    [⟨"kernel", .handle .kernel kernel⟩]

/-- The outcome of reading an argument is a value, and then the argument is acceptable, or the
complaint about it. -/
inductive Argument.ReadAs (slots : Slots) (a : Argument) {α : Type} : Except Fault α → Prop where
  /-- It is acceptable. -/
  | accepted {value : α} (fine : ¬ a.given.Unacceptable slots) : ReadAs slots a (.ok value)
  /-- It is complained about. -/
  | refused {text : String} (complaint : a.Complaint slots text) :
    ReadAs slots a (.error (.ofMessage text))

/-- Only what is not acceptable is complained about. -/
theorem Argument.Complaint.unacceptable {slots : Slots} {a : Argument} {text : String}
    (h : a.Complaint slots text) : a.given.Unacceptable slots := by
  cases h with
  | null null => exact .null null
  | notUtf8 given bad => exact .notUtf8 given (exists_utf8Error_iff.mp ⟨_, bad⟩)
  | unknownBit given unknown => exact .unknownBit given unknown

/-- What is there and neither a text nor properties is acceptable. -/
theorem Given.not_unacceptable {slots : Slots} {g : Given} (there : ¬ g.IsNull slots)
    (noText : g.text? = none) (noBits : ∀ bits, g ≠ .properties bits) :
    ¬ g.Unacceptable slots := by
  intro h
  cases h with
  | null null => exact there null
  | notUtf8 given => cases noText.symm.trans given
  | unknownBit given => exact noBits _ given

namespace Argument.ReadAs

variable {slots : Slots}

/-- A handle is read by looking for its object. -/
theorem require (name : String) (kind : HandleKind) (slot : HandleArgument) :
    ReadAs slots ⟨name, .handle kind slot⟩ (slots.require kind name slot) := by
  unfold Slots.require
  cases found : slots.find kind slot with
  | none => exact .refused (.null found)
  | some target =>
    have there : ¬ (Given.handle kind slot).IsNull slots := by
      intro null
      cases found.symm.trans null
    exact .accepted (Given.not_unacceptable there rfl nofun)

/-- The bytes of a text, or of options, are read up to the first NUL. -/
theorem text_of_some {a : Argument} {bytes : List UInt8} (there : ¬ a.given.IsNull slots)
    (given : a.given.text? = some bytes) (noBits : ∀ bits, a.given ≠ .properties bits) :
    ReadAs slots a (readText a.name (some bytes)) := by
  rw [readText_some]
  cases read : utf8Decode (bytes.takeWhile (· != 0)) with
  | error e => exact .refused (.notUtf8 given read)
  | ok cs =>
    refine .accepted fun h => ?_
    cases h with
    | null null => exact there null
    | notUtf8 given' bad =>
      cases given.symm.trans given'
      exact bad cs (utf8Decode_eq_ok_iff.mp read)
    | unknownBit given' => exact noBits _ given'

/-- A text is read if it is not null. -/
theorem text (name : String) (bytes : TextArgument) :
    ReadAs slots ⟨name, .text bytes⟩ (readText name bytes) := by
  cases bytes with
  | none => exact .refused (.null rfl)
  | some bytes => exact text_of_some nofun rfl nofun

/-- Options are read, and null is the empty text. -/
theorem options (bytes : TextArgument) :
    ReadAs slots ⟨"options", .options bytes⟩ (readOptions bytes) := by
  cases bytes with
  | none => exact .accepted (Given.not_unacceptable id rfl nofun)
  | some bytes => exact text_of_some id rfl nofun

/-- The bytes of a binary are taken as they are, if it is not null. -/
theorem binary (name : String) (bytes : Option (List UInt8)) :
    ReadAs slots ⟨name, .binary bytes⟩ (readBinary name bytes) := by
  cases bytes with
  | none => exact .refused (.null rfl)
  | some bytes => exact .accepted (Given.not_unacceptable nofun rfl nofun)

/-- Properties are read from a number without unknown bits. -/
theorem properties (name : String) (bits : UInt32) :
    ReadAs slots ⟨name, .properties bits⟩ (readProperties bits) := by
  unfold readProperties
  cases read : QueueProperties.ofBits bits with
  | error e =>
    obtain ⟨unknown, rfl⟩ := QueueProperties.ofBits_eq_error_iff.mp read
    exact .refused (.unknownBit rfl unknown)
  | ok p =>
    refine .accepted fun h => ?_
    cases h with
    | null null => exact null
    | notUtf8 given => cases given
    | unknownBit given unknown =>
      cases given
      cases read.symm.trans (QueueProperties.ofBits_eq_error_iff.mpr ⟨unknown, rfl⟩)

end Argument.ReadAs

end ComputeHandles
