import ComputeHandles.Proofs.Filter.Rereading
import ComputeHandles.Proofs.Handle.Selection
import ComputeHandles.Proofs.Handle.Texts

/-!
# Filter strings that come in

A filter string comes in as bytes. What is behind their first NUL plays no part, neither for
the selector that is made nor in the error that refuses the string. Else the exported function
agrees with the parser: the selector is the one that the text parses to, and the error is the
one that the text does not parse for. The text of a selector holds no NUL, so handing it in
gives that selector again.
-/

namespace ComputeHandles

open Text Listing

/-- The text that an error is about. -/
def FilterError.filter : FilterError → String
  | .empty filter | .unexpectedToken _ filter => filter

variable {t : String} {bytes : List UInt8} {filters : List Filter} {w : World}

/-- A text is refused with an error that is about it. -/
theorem Selector.filter_of_parse {e : FilterError} (refused : Selector.parse t = .error e) :
    e.filter = t := by
  rw [Selector.parse, map_eq_error_iff, Filter.parseAll, mapError_eq_error_iff] at refused
  obtain ⟨fault, -, rfl⟩ := refused
  cases fault <;> rfl

/-- The text of filters has no NUL. -/
theorem Selector.nul_notMem_text : '\x00' ∉ (Selector.filtered filters).text.toList := by
  have free : ∀ cs : List Char, cs.all (· != '\x00') = true → ∀ c ∈ cs, c ≠ '\x00' :=
    fun cs all c mem => bne_iff_ne.mp (List.all_eq_true.mp all c mem)
  have backend : ∀ b : Backend, ∀ c ∈ b.name.toList, c ≠ '\x00' := by
    intro b
    cases b <;> exact free _ (by decide)
  have deviceType : ∀ t : DeviceType, ∀ c ∈ t.name.toList, c ≠ '\x00' := by
    intro t
    cases t <;> exact free _ (by decide)
  have digit : ∀ c : Char, c.isDigit = true → c ≠ '\x00' := by
    rintro _ isDigit rfl
    exact absurd isDigit (by decide)
  rw [Selector.text, String.toList_ofList]
  intro nul
  rcases of_mem_intercalate nul with comma | ⟨entry, held, nul⟩
  · exact absurd (List.mem_singleton.mp comma) (by decide)
  obtain ⟨f, -, rfl⟩ := List.mem_map.mp held
  rcases of_mem_intercalate nul with colon | ⟨part, held, nul⟩
  · exact absurd (List.mem_singleton.mp colon) (by decide)
  · exact Filter.of_mem_parts (by decide) backend deviceType digit held '\x00' nul rfl

namespace Call

/-- A filter string that comes in as a text is parsed. -/
theorem perform_createFilterSelector_of_text (read : utf8Encode t.toList = bytes.takeWhile (· != 0))
    (slots : Slots) (inventory : Inventory) (ticket : Nat) :
    (ExportedFunction.createFilterSelector (some bytes)).perform slots inventory ticket =
      Attempt.ofExceptWith Fault.ofFilter (Selector.parse t) := by
  rw [ExportedFunction.perform, readText_eq_ok_iff.mpr read]
  rfl

/-- A filter string makes a selector exactly when its text parses to it. -/
theorem gives_createFilterSelector_iff {s : Selector} {out : String}
    (read : utf8Encode t.toList = bytes.takeWhile (· != 0)) :
    Gives w (.createFilterSelector (some bytes)) out s ↔ Selector.parse t = .ok s := by
  rw [gives_iff, perform_createFilterSelector_of_text read, Attempt.result_ofExceptWith,
    mapError_eq_ok_iff]
  exact and_iff_left rfl

/-- A filter string whose text does not parse is refused with the error of that text. -/
theorem fails_createFilterSelector {e : FilterError}
    (read : utf8Encode t.toList = bytes.takeWhile (· != 0)) (refused : Selector.parse t = .error e)
    (out : String) :
    Fails w (.createFilterSelector (some bytes)) out []
      ("SyclFilterSelector_Create: " ++ e.message) := by
  apply fails_of_message
  rw [perform_createFilterSelector_of_text read, refused]
  rfl

/-- A filter string that is no text in front of its first NUL is refused with the fault of
that. -/
theorem fails_createFilterSelector_of_notUtf8 {e : Utf8Error}
    (bad : utf8Decode (bytes.takeWhile (· != 0)) = .error e) (out : String) :
    Fails w (.createFilterSelector (some bytes)) out []
      ("SyclFilterSelector_Create: " ++
        s!"Argument `filter` is not valid UTF-8: {e.message}") := by
  have refused : readText "filter" (some bytes) =
      .error (.ofMessage s!"Argument `filter` is not valid UTF-8: {e.message}") :=
    readText_eq_error_iff.mpr ⟨e, bad, rfl⟩
  apply fails_of_message
  rw [ExportedFunction.perform, refused]
  rfl

end Call

/-- The bytes of a filter string that come in make a selector exactly as their text in front of
the first NUL parses, in silence. A text that does not parse is refused with the error of that
text, which is about it alone, and bytes that are no text are refused with the fault of that.
So the text of a selector with filters, of which it always has some, makes that selector again,
and every device gets the score it had among the devices of the process. -/
theorem createFilterSelector_agrees (w : World) (out : String) :
    (∀ bytes, let function := ExportedFunction.createFilterSelector (some bytes)
      let seen := bytes.takeWhile (· != 0)
      (∀ t : String, utf8Encode t.toList = seen →
        (∀ s, Call.Gives w function out s ↔ Selector.parse t = .ok s) ∧
        ∀ e, Selector.parse t = .error e → e.filter = t ∧
          Call.Fails w function out [] ("SyclFilterSelector_Create: " ++ e.message)) ∧
      ((∀ t : String, utf8Encode t.toList ≠ seen) → ∃ e, utf8Decode seen = .error e ∧
        Call.Fails w function out [] ("SyclFilterSelector_Create: " ++
          s!"Argument `filter` is not valid UTF-8: {e.message}"))) ∧
    ∀ filters, filters ≠ [] → let s := Selector.filtered filters
      let made := (Call.guarded (.createFilterSelector (some (utf8Encode s.text.toList)))
        out).perform w
      made.world.slots.get .selector out = some s ∧
        ∀ device score, made.world.Scores (some out) device score ↔
          score = s.scoreAmong w.inventory.devices device := by
  constructor
  · intro bytes function seen
    refine ⟨fun t read => ⟨fun s => Call.gives_createFilterSelector_iff read, ?_⟩, ?_⟩
    · intro e refused
      exact ⟨Selector.filter_of_parse refused, Call.fails_createFilterSelector read refused out⟩
    · intro noText
      have noChars : ∀ cs, utf8Encode cs ≠ seen := fun cs read =>
        noText (String.ofList cs) (by rwa [String.toList_ofList])
      obtain ⟨e, bad⟩ := exists_utf8Error_iff.mpr noChars
      exact ⟨e, bad, Call.fails_createFilterSelector_of_notUtf8 bad out⟩
  · intro filters there s made
    have read : utf8Encode s.text.toList = (utf8Encode s.text.toList).takeWhile (· != 0) :=
      (takeWhile_utf8Encode Selector.nul_notMem_text).symm
    have gives : Call.Gives w (.createFilterSelector (some (utf8Encode s.text.toList))) out s :=
      (Call.gives_createFilterSelector_iff read).mpr (parse_text_of_ne_nil there)
    have held : made.world.slots.get .selector out = some s := by
      rw [gives.slots]
      exact Slots.get_put_self w.slots .selector out (some s)
    have live : made.world.slots.find .selector (some out) = some s := held
    exact ⟨held, fun device score => World.scores_iff live⟩

end ComputeHandles
