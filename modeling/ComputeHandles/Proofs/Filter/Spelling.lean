import ComputeHandles.Proofs.Filter.Pieces
import ComputeHandles.Proofs.Text.LetterCase

/-!
# Spellings of a filter string

Two filter strings are spelled alike when they have the same entries with the same parts, apart
from blanks around entries and parts and from the case of ASCII letters. No place of an entry
tells such parts apart, so each step of reading an entry goes the same way for both. They are
read as one selector, or refused for the same fault, each in its own spelling.
-/

namespace ComputeHandles

open Text Listing

/-- Texts whose trimmed entries have the same trimmed parts but for the case of letters. -/
def SameSpelling (s s' : String) : Prop :=
  List.Forall₂ (fun entry entry' =>
      List.Forall₂ SameButCase (entryParts entry) (entryParts entry'))
    (s.toList.splitOn ',') (s'.toList.splitOn ',')

instance (s s' : String) : Decidable (SameSpelling s s') :=
  inferInstanceAs (Decidable (List.Forall₂ _ _ _))

/-- Faults of entries that are alike: both blank, or unexpected parts that are the same but for
case. -/
inductive EntryFault.Alike : EntryFault → EntryFault → Prop where
  /-- Both entries are blank. -/
  | blank : Alike .blank .blank
  /-- The parts are the same but for case. -/
  | unexpected {part part' : List Char} (same : SameButCase part part') :
    Alike (.unexpected part) (.unexpected part')

/-- Faults of filter strings that are alike, whatever the strings are: both empty, or unexpected
tokens that are the same but for case. -/
inductive FilterError.Alike : FilterError → FilterError → Prop where
  /-- An entry of each is blank. -/
  | empty (filter filter' : String) : Alike (.empty filter) (.empty filter')
  /-- The tokens are the same but for case. -/
  | unexpectedToken {token token' : String} (filter filter' : String)
      (same : SameButCase token.toList token'.toList) :
    Alike (.unexpectedToken token filter) (.unexpectedToken token' filter')

section

variable {part part' : List Char}

/-- Names of backends are read without regard to case. -/
theorem Backend.ofName?_congr (same : SameButCase part part') :
    Backend.ofName? part = Backend.ofName? part' := by
  rw [Backend.ofName?, Backend.ofName?, same.lower_eq]

/-- Names of device types are read without regard to case. -/
theorem DeviceType.ofName?_congr (same : SameButCase part part') :
    DeviceType.ofName? part = DeviceType.ofName? part' := by
  rw [DeviceType.ofName?, DeviceType.ofName?, same.lower_eq]

/-- A star has one spelling. -/
theorem eq_star_iff (same : SameButCase part part') : part = ['*'] ↔ part' = ['*'] := by
  have inFront : ∀ c ∈ ['*'], c.toNat < 65 := by simp
  constructor
  · intro star
    rw [star] at same
    exact (same.eq_of_lt inFront).symm
  · intro star
    rw [star] at same
    exact (same.symm.eq_of_lt inFront).symm

/-- A star or a name is read without regard to case if the name is. -/
theorem ofStarOr_congr {α : Type} {ofName? : List Char → Option α}
    (same : SameButCase part part') (names : ofName? part = ofName? part') :
    ofStarOr ofName? part = ofStarOr ofName? part' := by
  unfold ofStarOr
  simp only [eq_star_iff same, names]

/-- The digits of a position have one spelling. -/
theorem readIndex?_of_sameButCase {i : UInt64} (same : SameButCase part part')
    (read : readIndex? part = some i) : readIndex? part' = some i := by
  have inFront : ∀ c ∈ part, c.toNat < 65 := by
    intro c mem
    obtain ⟨-, digit, -⟩ := readIndex?_eq_some_iff.mp read
    have greatest : c.toNat ≤ ('9' : Char).toNat := Char.le_def.mp (digit c mem).2
    exact Nat.lt_of_le_of_lt greatest (by decide)
  rw [← same.eq_of_lt inFront]
  exact read

/-- Positions are read without regard to case. -/
theorem readIndex?_congr (same : SameButCase part part') :
    readIndex? part = readIndex? part' :=
  Option.ext fun _ => ⟨readIndex?_of_sameButCase same, readIndex?_of_sameButCase same.symm⟩

end

namespace Filter.Progress

variable {part part' : List Char}

/-- Parts that are the same but for case go to the place of the position alike. -/
theorem agree_fillIndex (f : Filter) (same : SameButCase part part') :
    Agree EntryFault.Alike (fillIndex f part) (fillIndex f part') := by
  unfold fillIndex
  rw [readIndex?_congr same]
  cases readIndex? part' with
  | none => exact .error (.unexpected same)
  | some i => exact .ok _

/-- Parts that are the same but for case go to the place of the device type, or to the next
one, alike. -/
theorem agree_fillDeviceType (f : Filter) (same : SameButCase part part') :
    Agree EntryFault.Alike (fillDeviceType f part) (fillDeviceType f part') := by
  unfold fillDeviceType
  rw [ofStarOr_congr same (DeviceType.ofName?_congr same)]
  cases ofStarOr DeviceType.ofName? part' with
  | none => exact agree_fillIndex f same
  | some t => exact .ok _

/-- Parts that are the same but for case go to the place of the backend, or to one of the next,
alike. -/
theorem agree_fillBackend (f : Filter) (same : SameButCase part part') :
    Agree EntryFault.Alike (fillBackend f part) (fillBackend f part') := by
  unfold fillBackend
  rw [ofStarOr_congr same (Backend.ofName?_congr same)]
  cases ofStarOr Backend.ofName? part' with
  | none => exact agree_fillDeviceType f same
  | some b => exact .ok _

/-- At any stage parts that are the same but for case are read alike. -/
theorem agree_advance (p : Progress) (same : SameButCase part part') :
    Agree EntryFault.Alike (p.advance part) (p.advance part') := by
  obtain ⟨stage, f⟩ := p
  cases stage with
  | backend => exact agree_fillBackend f same
  | deviceType => exact agree_fillDeviceType f same
  | index => exact agree_fillIndex f same
  | done => exact .error (.unexpected same)

end Filter.Progress

namespace Filter

/-- Parts that are the same but for case make the same filter, or are refused alike. -/
theorem agree_ofParts {parts parts' : List (List Char)}
    (same : List.Forall₂ SameButCase parts parts') :
    Agree EntryFault.Alike (ofParts parts) (ofParts parts') := by
  have run : Agree EntryFault.Alike (parts.foldlM Progress.advance ⟨.backend, .any⟩)
      (parts'.foldlM Progress.advance ⟨.backend, .any⟩) :=
    agree_foldlM (fun p _ _ => p.agree_advance) same
  rw [ofParts_eq_finish, ofParts_eq_finish]
  exact run.map Progress.filter

end Filter

/-- An entry is blank exactly when its only part is empty. -/
theorem entryParts_eq_singleton_nil_iff {entry : List Char} :
    entryParts entry = [[]] ↔ trim entry = [] := by
  constructor
  · intro parts
    rw [entryParts_eq_map_trim, List.map_eq_singleton_iff] at parts
    obtain ⟨part, pieces, blank⟩ := parts
    have whole : [':'].intercalate (entry.splitOn ':') = entry := List.intercalate_splitOn ':'
    rw [pieces, List.intercalate_singleton] at whole
    rwa [← whole]
  · intro blank
    rw [entryParts, blank]
    rfl

/-- A blank entry has no spelling that is not blank. -/
theorem trim_eq_nil_of_sameButCase {entry entry' : List Char}
    (same : List.Forall₂ SameButCase (entryParts entry) (entryParts entry'))
    (blank : trim entry = []) : trim entry' = [] := by
  rw [entryParts_eq_singleton_nil_iff.mpr blank] at same
  obtain ⟨part', rest', empty, rest, parts'⟩ := List.forall₂_cons_left_iff.mp same
  have nothing : part' = [] := List.forall₂_nil_left_iff.mp empty
  have alone : rest' = [] := List.forall₂_nil_left_iff.mp rest
  rw [← entryParts_eq_singleton_nil_iff, parts', nothing, alone]

/-- Spellings of an entry are read as the same filter, or refused alike. -/
theorem Filter.agree_read {entry entry' : List Char}
    (same : List.Forall₂ SameButCase (entryParts entry) (entryParts entry')) :
    Agree EntryFault.Alike (Filter.read entry) (Filter.read entry') := by
  have flipped : List.Forall₂ SameButCase (entryParts entry') (entryParts entry) :=
    List.Forall₂.flip (same.imp fun _ _ => SameButCase.symm)
  unfold Filter.read
  by_cases blank : trim entry = []
  · have blank' : trim entry' = [] := trim_eq_nil_of_sameButCase same blank
    rw [if_pos blank, if_pos blank']
    exact .error .blank
  · have solid' : trim entry' ≠ [] := mt (trim_eq_nil_of_sameButCase flipped) blank
    rw [if_neg blank, if_neg solid']
    exact agree_ofParts same

/-- Told about two filter strings, faults that are alike still are. -/
theorem EntryFault.Alike.within {fault fault' : EntryFault} (h : fault.Alike fault')
    (s s' : String) : (fault.within s).Alike (fault'.within s') := by
  cases h with
  | blank => exact .empty s s'
  | unexpected same =>
    refine .unexpectedToken s s' ?_
    rw [String.toList_ofList, String.toList_ofList]
    exact same

/-- Two texts whose entries and parts are the same, when blanks around them and the case of
letters are left out of account, are read as one selector, or both are refused: both for a blank
entry, or both for a token that is the same but for case. -/
theorem parse_respelled {s s' : String} (same : SameSpelling s s') :
    (∃ selector, Selector.parse s = .ok selector ∧ Selector.parse s' = .ok selector) ∨
      ∃ e e', Selector.parse s = .error e ∧ Selector.parse s' = .error e' ∧ e.Alike e' := by
  have entries : Agree EntryFault.Alike (Filter.readAll s.toList) (Filter.readAll s'.toList) :=
    agree_mapM (same.imp fun _ _ => Filter.agree_read)
  have filters : Agree FilterError.Alike (Filter.parseAll s) (Filter.parseAll s') :=
    entries.mapError fun _ _ alike => alike.within s s'
  exact agree_iff.mp (filters.map Selector.filtered)

/-- Two spellings of the same two entries, with capitals and blanks in one of them and with wide
blanks in the other, are read as one selector. -/
theorem parse_respelled_wideBlanks :
    let s := " OpenCL : GPU:01 , HOST"
    let s' := "opencl:gpu :\u300001,host\u2003"
    let selector := Selector.filtered
      [⟨some .openCl, some .gpu, some 1⟩, ⟨some .host, none, none⟩]
    SameSpelling s s' ∧ Selector.parse s = .ok selector ∧ Selector.parse s' = .ok selector := by
  intro s s' selector
  have same : SameSpelling s s' := by decide
  have read : Selector.parse s = .ok selector := by decide
  obtain ⟨own, first, second⟩ | ⟨e, -, refused, -⟩ := parse_respelled same
  · obtain rfl : selector = own := Except.ok.inj (read.symm.trans first)
    exact ⟨same, first, second⟩
  · rw [read] at refused
    cases refused

end ComputeHandles
