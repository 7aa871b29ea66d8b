import ComputeHandles.Proofs.Handle.Selection
import ComputeHandles.Proofs.Handle.Texts

/-!
# Builds from binaries

No device takes a binary, so a build from one is always refused: for what is wrong with the
binary, or, when there is nothing, for the device. Only then is the build recorded. The
exported function reads its arguments and is refused for the same error after the same
records; an inspection that breaks off is an abort inside it, of which nothing but the message
is left.
-/

namespace ComputeHandles

open Text Spirv

variable {w : World} {contextSlot deviceSlot : HandleArgument} {context : Context}
  {device : Device} {binary : List UInt8} {argument : TextArgument} {options : String}

/-- Options come in as a text: null as the empty one, and bytes as the one that those in front
of their first NUL encode. -/
inductive OptionsText : TextArgument → String → Prop where
  /-- There are none. -/
  | null : OptionsText none ""
  /-- They are bytes. -/
  | encoded {bytes : List UInt8} {options : String}
      (h : utf8Encode options.toList = bytes.takeWhile (· != 0)) : OptionsText (some bytes) options

/-- Options that come in as a text are read as it. -/
theorem OptionsText.readOptions_eq (h : OptionsText argument options) :
    readOptions argument = .ok options := by
  cases h with
  | null => rfl
  | encoded read => exact readText_eq_ok_iff.mpr read

/-- A binary that is a module is recorded before it is refused, and any other is not. -/
theorem KernelBundle.ofSpirv_eq (context : Context) (device : Device) (binary : List UInt8)
    (options : String) : KernelBundle.ofSpirv context device binary options =
      match KernelModule.parse binary with
      | .ok m =>
        ⟨[⟨.debug, s!"building {m.outline} for {device.outline} with " ++ quote options⟩], false,
          .error (.reported (.spirvUnsupported .host "SYCL host device"))⟩
      | .error fault => .fail (.ofInspection fault) := by
  cases device
  rw [KernelBundle.ofSpirv]
  cases KernelModule.parse binary <;> rfl

/-- With live handles and acceptable options a build is refused across the boundary as it is
inside. -/
theorem Call.perform_buildSpirv (liveContext : w.slots.find .context contextSlot = some context)
    (liveDevice : w.slots.find .device deviceSlot = some device)
    (read : OptionsText argument options) :
    (ExportedFunction.buildSpirv contextSlot deviceSlot (some binary) argument).perform
        w.slots w.inventory w.ticket =
      (KernelBundle.ofSpirv context device binary options).mapError Fault.ofBuild := by
  rw [ExportedFunction.perform, Slots.require_eq_ok liveContext, Slots.require_eq_ok liveDevice,
    read.readOptions_eq]
  rfl

section Refused

variable (liveContext : w.slots.find .context contextSlot = some context)
  (liveDevice : w.slots.find .device deviceSlot = some device)
  (read : OptionsText argument options)

include liveContext liveDevice read

/-- A build that stops makes the exported function fail after the same records. -/
theorem Call.fails_buildSpirv {fault : BuildFault}
    (stopped : (KernelBundle.ofSpirv context device binary options).result = .error fault)
    (out : String) :
    Fails w (.buildSpirv contextSlot deviceSlot (some binary) argument) out
      (KernelBundle.ofSpirv context device binary options).log
      ((Fault.ofBuild fault).toldBy "SyclKernelBundle_CreateFromSpirv") := by
  have inside : (ExportedFunction.buildSpirv contextSlot deviceSlot (some binary) argument).perform
      w.slots w.inventory w.ticket = _ := perform_buildSpirv liveContext liveDevice read
  have failed : ((ExportedFunction.buildSpirv contextSlot deviceSlot (some binary)
      argument).perform w.slots w.inventory w.ticket).result = .error (.ofBuild fault) := by
    rw [inside, Attempt.result_mapError, stopped]
    rfl
  have fails := fails_of_error failed out
  rwa [inside, Attempt.log_mapError] at fails

end Refused

/-- A build from a binary never succeeds, and never is it refused for want of kernels. A binary
that is a module is recorded once and refused as unsupported by the host, and of any other
nothing is recorded and the build stops for what its inspection stops for. With live handles, a
binary and options that come in as these, the exported function hands out no bundle after the
same records: it tells the one error that the build is refused for, or the abort in which an
inspection breaks off, and leaves all other slots alone. -/
theorem binary_builds_refused (context : Context) (device : Device) (binary : List UInt8)
    (options : String) :
    let built := KernelBundle.ofSpirv context device binary options
    (∀ bundle, built.result ≠ .ok bundle) ∧
      (∀ backend, built.result ≠ .error (.reported (.kernelsUnsupported backend))) ∧
      (∀ m, KernelModule.parse binary = .ok m → built =
        ⟨[⟨.debug, s!"building {m.outline} for {device.outline} with " ++ quote options⟩], false,
          .error (.reported (.spirvUnsupported .host "SYCL host device"))⟩) ∧
      (∀ e, KernelModule.parse binary = .error (.invalid e) →
        built = .fail (.reported (.invalidSpirv e))) ∧
      (∀ stop length, KernelModule.parse binary = .error (.overrun stop length) →
        built = .fail (.overrun stop length)) ∧
      ∀ w contextSlot deviceSlot argument out,
        w.slots.find .context contextSlot = some context →
        w.slots.find .device deviceSlot = some device → OptionsText argument options →
        let function := ExportedFunction.buildSpirv contextSlot deviceSlot (some binary) argument
        (∀ e, built.result = .error (.reported e) → Call.Fails w function out built.log
          ("SyclKernelBundle_CreateFromSpirv: " ++ e.message)) ∧
        ∀ stop length, built.result = .error (.overrun stop length) →
          Call.Fails w function out built.log
            ("SyclKernelBundle_CreateFromSpirv panicked: " ++ overrunMessage stop length) := by
  intro built
  have inside : built = _ := KernelBundle.ofSpirv_eq context device binary options
  refine ⟨?_, ?_, ?_, ?_, ?_, ?_⟩
  · intro bundle
    cases parsed : KernelModule.parse binary <;> simp [inside, parsed]
  · intro backend
    rw [inside]
    cases parsed : KernelModule.parse binary with
    | ok m => simp
    | error fault => cases fault <;> simp [BuildFault.ofInspection]
  · intro m parsed
    rw [inside, parsed]
  · intro e refused
    rw [inside, refused]
    rfl
  · intro stop length brokeOff
    rw [inside, brokeOff]
    rfl
  · intro w contextSlot deviceSlot argument out liveContext liveDevice read function
    have fails {fault : BuildFault} (stopped : built.result = .error fault) :=
      Call.fails_buildSpirv liveContext liveDevice read stopped out
    exact ⟨fun e refused => fails refused, fun stop length brokeOff => fails brokeOff⟩

/-- A module that ends in its entry point, in front of the name, breaks the inspection off. With
a device and a context of it that were made across the boundary the abort is told, with options
of which the bytes go on behind a NUL. -/
theorem binary_builds_refused_brokenOff :
    let made := (Call.guarded (.createDevice (some "s")) "d").perform
      ((Call.fixedSelector none "s").perform World.initial).world
    let w := ((Call.guarded (.createContext (some "d")) "c").perform made.world).world
    let binary := bytesOfWords [magicNumber, 0x10000, 0, 100, 0, 0x20011, 4, 0x20011, 6,
      0x3000e, 2, 2, 0x4000f, 6, 10]
    KernelModule.parse binary = .error (.overrun 64 60) ∧
      w.slots.find .context (some "c") = some ⟨.host, 2⟩ ∧
      w.slots.find .device (some "d") = some .host ∧
      OptionsText (some [45, 0, 255]) "-" ∧
      Call.Fails w (.buildSpirv (some "c") (some "d") (some binary) (some [45, 0, 255])) "b" []
        ("SyclKernelBundle_CreateFromSpirv panicked: " ++ overrunMessage 64 60) := by
  intro made w binary
  have brokeOff : KernelModule.parse binary = .error (.overrun 64 60) := by
    unfold binary
    rfl
  have liveContext : w.slots.find .context (some "c") = some ⟨.host, 2⟩ := by rfl
  have liveDevice : w.slots.find .device (some "d") = some .host := by rfl
  have read : OptionsText (some [45, 0, 255]) "-" := .encoded (by rfl)
  obtain ⟨-, -, -, -, stops, across⟩ := binary_builds_refused ⟨.host, 2⟩ .host binary "-"
  have built := stops 64 60 brokeOff
  have stopped := congrArg Attempt.result built
  have fails := (across w (some "c") (some "d") (some [45, 0, 255]) "b" liveContext liveDevice
    read).2 64 60 stopped
  rw [built] at fails
  exact ⟨brokeOff, liveContext, liveDevice, read, fails⟩

end ComputeHandles
