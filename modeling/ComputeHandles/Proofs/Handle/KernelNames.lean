import ComputeHandles.Handle.Session
import ComputeHandles.Proofs.Handle.Call
import ComputeHandles.Proofs.Handle.Selection
import ComputeHandles.Proofs.Handle.Texts

/-!
# Kernels by index and by name

A bundle is asked for the number of its kernels, for the name at an index, for whether it has a
kernel of a name and for that kernel. The four answers are about one list of names: a name that
is handed out at some index is one that the bundle is found to have, and a kernel is reported
missing, with all the names there are, exactly when the bundle is found not to have it. Names
that are repeated or empty count like any other; one that holds a NUL is at its index but can
be neither handed out nor asked for.
-/

namespace ComputeHandles

open Text Listing

variable {w : World} {bundle : HandleArgument} {b : KernelBundle} {i : UInt64} {name t : String}
  {bytes : List UInt8} {content : CText}

namespace Call

/-- A live bundle counts its kernels. -/
theorem gives_bundleKernelCount (live : w.slots.find .bundle bundle = some b) (out : String) :
    Gives w (.bundleKernelCount bundle) out (b.kernelNames.length : Int) := by
  apply gives_of_eq_done
  rw [ExportedFunction.perform, Slots.require_eq_ok live]
  rfl

/-- A live bundle looks its names up at an index. -/
theorem perform_bundleKernelName (live : w.slots.find .bundle bundle = some b) (i : UInt64) :
    (ExportedFunction.bundleKernelName bundle i).perform w.slots w.inventory w.ticket =
      match b.kernelNames[i.toNat]? with
      | some name => Attempt.ofExcept (writeText name)
      | none => Attempt.fail (.ofIndex i b.kernelNames.length) := by
  rw [ExportedFunction.perform, Slots.require_eq_ok live]
  rfl

/-- A live bundle hands out the name at an index exactly when there is one without NUL. -/
theorem gives_bundleKernelName_iff (live : w.slots.find .bundle bundle = some b) {out : String} :
    Gives w (.bundleKernelName bundle i) out content ↔
      ∃ below : i.toNat < b.kernelNames.length, '\x00' ∉ b.kernelNames[i.toNat].toList ∧
        content.bytes = utf8Encode b.kernelNames[i.toNat].toList := by
  rw [gives_iff, perform_bundleKernelName live]
  by_cases below : i.toNat < b.kernelNames.length
  · rw [List.getElem?_eq_getElem below]
    simp only [Attempt.result_ofExcept, Attempt.log_ofExcept, writeText_eq_ok_iff, and_true]
    constructor
    · intro written
      have nonzero := content.zero_notMem
      rw [written, zero_mem_utf8Encode_iff] at nonzero
      exact ⟨below, nonzero, written⟩
    · rintro ⟨_, _, written⟩
      exact written
  · rw [List.getElem?_eq_none (Nat.not_lt.mp below)]
    constructor
    · rintro ⟨given, -⟩
      cases given
    · rintro ⟨inside, -⟩
      exact absurd inside below

/-- Where a live bundle has no name, the index is out of range. -/
theorem fails_bundleKernelName_of_le (live : w.slots.find .bundle bundle = some b)
    (above : b.kernelNames.length ≤ i.toNat) (out : String) :
    Fails w (.bundleKernelName bundle i) out [] ("SyclKernelBundle_GetKernelName: " ++
      s!"Kernel index {i.toNat} out of range for {b.kernelNames.length} kernels!") := by
  apply fails_of_message
  rw [perform_bundleKernelName live, List.getElem?_eq_none above]
  rfl

/-- A name with a NUL is not handed out for the position of the first. -/
theorem fails_bundleKernelName_of_nul (live : w.slots.find .bundle bundle = some b)
    {before after : List Char} (below : i.toNat < b.kernelNames.length)
    (split : b.kernelNames[i.toNat].toList = before ++ '\x00' :: after)
    (first : '\x00' ∉ before) (out : String) :
    Fails w (.bundleKernelName bundle i) out [] ("SyclKernelBundle_GetKernelName: " ++
      s!"nul byte found in provided data at position: {(utf8Encode before).length}") := by
  apply fails_of_message
  rw [perform_bundleKernelName live, List.getElem?_eq_getElem below]
  exact congrArg Attempt.ofExcept
    (writeText_eq_error_iff.mpr ⟨before, after, split, first, rfl⟩)

/-- A live bundle is asked for a name that comes in as a text. -/
theorem gives_bundleHasKernel (live : w.slots.find .bundle bundle = some b)
    (read : utf8Encode t.toList = bytes.takeWhile (· != 0)) (out : String) :
    Gives w (.bundleHasKernel bundle (some bytes)) out (b.has t) := by
  apply gives_of_eq_done
  rw [ExportedFunction.perform, Slots.require_eq_ok live, readText_eq_ok_iff.mpr read]
  rfl

/-- A kernel of a live bundle is looked up by a name that comes in as a text. -/
theorem perform_bundleKernel (live : w.slots.find .bundle bundle = some b)
    (read : utf8Encode t.toList = bytes.takeWhile (· != 0)) :
    (ExportedFunction.bundleKernel bundle (some bytes)).perform w.slots w.inventory w.ticket =
      Attempt.ofExceptWith Fault.ofKernel (b.kernel t) := by
  rw [ExportedFunction.perform, Slots.require_eq_ok live, readText_eq_ok_iff.mpr read]
  rfl

/-- A kernel that a live bundle has is not made, as no runtime built the bundle. -/
theorem fails_bundleKernel_of_has (live : w.slots.find .bundle bundle = some b)
    (read : utf8Encode t.toList = bytes.takeWhile (· != 0)) (has : b.has t = true)
    (out : String) :
    Fails w (.bundleKernel bundle (some bytes)) out []
      ("SyclKernelBundle_GetKernel panicked: " ++ noRuntimeMessage) := by
  let function : ExportedFunction (.handle .kernel) := .bundleKernel bundle (some bytes)
  have aborted : function.perform w.slots w.inventory w.ticket =
      Attempt.fail (.ofKernel .noRuntime) := by
    rw [perform_bundleKernel live read, KernelBundle.kernel, if_pos has]
    rfl
  exact fails_of_eq_fail aborted out

/-- A kernel that a live bundle has not is reported missing, with the kernels it has. -/
theorem fails_bundleKernel_of_not_has (live : w.slots.find .bundle bundle = some b)
    (read : utf8Encode t.toList = bytes.takeWhile (· != 0)) (lacks : b.has t = false)
    (out : String) :
    Fails w (.bundleKernel bundle (some bytes)) out []
      ("SyclKernelBundle_GetKernel: " ++ (KernelNotFound.mk t b.kernelNames).message) := by
  apply fails_of_message
  rw [perform_bundleKernel live read, KernelBundle.kernel, if_neg (by simp [lacks])]
  rfl

end Call

/-- A bundle has a kernel exactly when its name is at some position, and every position of a
list that is short enough is an index. -/
theorem KernelBundle.has_iff_exists_index (fits : b.kernelNames.length ≤ UInt64.size) :
    b.has t = true ↔
      ∃ i : UInt64, ∃ below : i.toNat < b.kernelNames.length, b.kernelNames[i.toNat] = t := by
  rw [KernelBundle.has_iff, List.mem_iff_getElem]
  constructor
  · rintro ⟨n, below, same⟩
    have small : n < UInt64.size := Nat.lt_of_lt_of_le below fits
    have number : (UInt64.ofNat n).toNat = n := UInt64.toNat_ofNat_of_lt small
    exact ⟨UInt64.ofNat n, number.symm ▸ below, by simpa only [number] using same⟩
  · rintro ⟨i, below, same⟩
    exact ⟨i.toNat, below, same⟩

/-- A name that comes in is handed out at some index exactly when a kernel has it. -/
theorem Call.exists_gives_bundleKernelName_iff (live : w.slots.find .bundle bundle = some b)
    (fits : b.kernelNames.length ≤ UInt64.size)
    (read : utf8Encode t.toList = bytes.takeWhile (· != 0)) {out : String} :
    (∃ i, Gives w (.bundleKernelName bundle i) out (CText.ofBytes bytes)) ↔ b.has t = true := by
  have seen : (CText.ofBytes bytes).bytes = utf8Encode t.toList := read.symm
  have plain : '\x00' ∉ t.toList := by
    rw [← zero_mem_utf8Encode_iff, ← seen]
    exact (CText.ofBytes bytes).zero_notMem
  rw [KernelBundle.has_iff_exists_index fits]
  simp only [gives_bundleKernelName_iff live, seen]
  constructor
  · rintro ⟨i, below, -, same⟩
    exact ⟨i, below, String.toList_inj.mp (utf8Encode_inj same).symm⟩
  · rintro ⟨i, below, same⟩
    exact ⟨i, below, same ▸ plain, same ▸ rfl⟩

/-- The name at an index of a live bundle is handed out exactly when the index is below the
number of kernels and the name there has no NUL. Else the error says that the index is out of
range, or where the first NUL is. A name that comes in as a text is found exactly when it is
handed out at some index, as a list that fits into memory has no position that is not an index.
It is reported missing, with all the names there are, exactly when it is not found, and else an
abort tells that no runtime built the bundle. -/
theorem lookups_agree (live : w.slots.find .bundle bundle = some b)
    (read : utf8Encode t.toList = bytes.takeWhile (· != 0)) (out : String) :
    let names := b.kernelNames
    Call.Gives w (.bundleKernelCount bundle) out (names.length : Int) ∧
      (∀ i content, Call.Gives w (.bundleKernelName bundle i) out content ↔
        ∃ below : i.toNat < names.length, '\x00' ∉ names[i.toNat].toList ∧
          content.bytes = utf8Encode names[i.toNat].toList) ∧
      (∀ i, names.length ≤ i.toNat → Call.Fails w (.bundleKernelName bundle i) out []
        ("SyclKernelBundle_GetKernelName: " ++
          s!"Kernel index {i.toNat} out of range for {names.length} kernels!")) ∧
      (∀ i before after, (below : i.toNat < names.length) →
        names[i.toNat].toList = before ++ '\x00' :: after → '\x00' ∉ before →
        Call.Fails w (.bundleKernelName bundle i) out []
          ("SyclKernelBundle_GetKernelName: " ++
            s!"nul byte found in provided data at position: {(utf8Encode before).length}")) ∧
      ∃ has, Call.Gives w (.bundleHasKernel bundle (some bytes)) out has ∧
        (names.length ≤ UInt64.size → (has = true ↔
          ∃ i, Call.Gives w (.bundleKernelName bundle i) out (CText.ofBytes bytes))) ∧
        (has = false ↔ Call.Fails w (.bundleKernel bundle (some bytes)) out []
          ("SyclKernelBundle_GetKernel: " ++ (KernelNotFound.mk t names).message)) ∧
        (has = true ↔ Call.Fails w (.bundleKernel bundle (some bytes)) out []
          ("SyclKernelBundle_GetKernel panicked: " ++ noRuntimeMessage)) := by
  intro names
  refine ⟨Call.gives_bundleKernelCount live out, fun i content =>
    Call.gives_bundleKernelName_iff live, fun i above =>
    Call.fails_bundleKernelName_of_le live above out, fun i before after below split first =>
    Call.fails_bundleKernelName_of_nul live below split first out, b.has t,
    Call.gives_bundleHasKernel live read out,
    fun fits => (Call.exists_gives_bundleKernelName_iff live fits read).symm, ?_⟩
  have apart : ∀ text, "SyclKernelBundle_GetKernel: " ++ text ≠
      "SyclKernelBundle_GetKernel panicked: " ++ noRuntimeMessage := fun text =>
    Fault.error_ne_abort "SyclKernelBundle_GetKernel" text noRuntimeMessage
  cases found : b.has t with
  | true =>
    have aborted := Call.fails_bundleKernel_of_has live read found out
    refine ⟨iff_of_false (by simp) fun missing => ?_, iff_of_true rfl aborted⟩
    exact apart _ (missing.message_unique aborted)
  | false =>
    have missing := Call.fails_bundleKernel_of_not_has live read found out
    refine ⟨iff_of_true rfl missing, iff_of_false (by simp) fun aborted => ?_⟩
    exact apart _ (missing.message_unique aborted)

/-- Of two kernels with one name either is the one that is found, though the bytes asked for go
on behind a NUL. The name that holds a NUL is not handed out, and the length is no index. -/
theorem lookups_agree_repeatedName :
    let names := ["k", "", "a\x00b", "k"]
    let w := (World.initial.adoptBundle names "b").world
    let bytes : List UInt8 := [107, 0, 255]
    (w.slots.find .bundle (some "b") = some ⟨⟨.host, 0⟩, .host, names⟩ ∧
        names.length ≤ UInt64.size ∧ utf8Encode "k".toList = bytes.takeWhile (· != 0)) ∧
      (∃ i, Call.Gives w (.bundleKernelName (some "b") i) "" (CText.ofBytes bytes)) ∧
      Call.Fails w (.bundleKernelName (some "b") 2) "" [] ("SyclKernelBundle_GetKernelName: " ++
        s!"nul byte found in provided data at position: {1}") ∧
      Call.Fails w (.bundleKernelName (some "b") 4) "" [] ("SyclKernelBundle_GetKernelName: " ++
        s!"Kernel index {4} out of range for {4} kernels!") ∧
      Call.Fails w (.bundleKernel (some "b") (some bytes)) "k" []
        ("SyclKernelBundle_GetKernel panicked: " ++ noRuntimeMessage) := by
  intro names w bytes
  have live : w.slots.find .bundle (some "b") = some ⟨⟨.host, 0⟩, .host, names⟩ := rfl
  have fits : names.length ≤ UInt64.size := by decide
  have read : utf8Encode "k".toList = bytes.takeWhile (· != 0) := by rfl
  obtain ⟨-, -, above, nul, has, given, named, -, aborted⟩ := lookups_agree live read ""
  obtain ⟨-, -, -, -, has', given', -, -, aborted'⟩ := lookups_agree live read "k"
  cases given.reply
  cases given'.reply
  have third : "a\x00b".toList = ['a'] ++ '\x00' :: ['b'] := by decide
  exact ⟨⟨live, fits, read⟩, (named fits).mp rfl, nul 2 ['a'] ['b'] (by decide) third (by decide),
    above 4 (by decide), aborted'.mp rfl⟩

end ComputeHandles
