import ComputeHandles.Proofs.Filter.Grammar
import ComputeHandles.Proofs.Filter.Stages
import ComputeHandles.Proofs.Text.Trimmed

/-!
# Entries and their parts

An entry is trimmed before it is cut, but its trimmed parts are those of the untrimmed entry.
So the first parts of an entry can be joined and read as an entry of their own, which has just
these parts. An entry without a comma is a filter string by itself exactly when its trimmed
parts make a filter.
-/

namespace ComputeHandles

open Text Listing

/-- A text is read exactly when its entries are, and then as their filters. -/
theorem parse_eq_ok_iff_readAll {s : String} {selector : Selector} :
    Selector.parse s = .ok selector ↔
      ∃ filters, Filter.readAll s.toList = .ok filters ∧ selector = .filtered filters := by
  simp only [Selector.parse, Filter.parseAll, map_eq_ok_iff, mapError_eq_ok_iff]
  exact exists_congr fun filters => and_congr_right fun _ => eq_comm

/-- A text is refused exactly when one of its entries is, for that fault of it. -/
theorem parse_eq_error_iff_readAll {s : String} {e : FilterError} :
    Selector.parse s = .error e ↔
      ∃ fault, Filter.readAll s.toList = .error fault ∧ e = fault.within s := by
  rw [Selector.parse, map_eq_error_iff, Filter.parseAll]
  cases Filter.readAll s.toList <;> simp [Except.mapError, eq_comm]

/-- The parts of an entry can be trimmed without trimming the entry. -/
theorem entryParts_eq_map_trim (entry : List Char) :
    entryParts entry = (entry.splitOn ':').map trim := by
  obtain ⟨front, back, whole, inFront, behind⟩ := exists_eq_append_trim entry
  have plain : ∀ blanks : List Char, (∀ c ∈ blanks, isBlank c = true) → ':' ∉ blanks :=
    fun blanks blank mem => absurd (blank ':' mem) (by decide)
  -- Trimming the entry takes blanks off its first and its last part, which are trimmed anyway.
  have nothing : ∀ c ∈ ([] : List Char), isBlank c = true := by simp
  have joins : ∀ piece, trim (front ++ piece) = trim piece := fun piece => by
    simpa using trim_append_of_blank inFront nothing piece
  obtain ⟨earlier, last, pieces⟩ := exists_splitOn_append ':' (trim entry)
  have inner : (trim entry).splitOn ':' = earlier ++ [last] := by
    simpa using pieces [] List.not_mem_nil
  have closed : trim (last ++ back) = trim last :=
    trim_append_of_blank nothing behind last
  have opened : ∀ parts : List (List Char),
      (parts.modifyHead (front ++ ·)).map trim = parts.map trim := by
    intro parts
    cases parts with
    | nil => rfl
    | cons part parts => rw [List.modifyHead_cons, List.map_cons, List.map_cons, joins]
  calc entryParts entry
      = (earlier ++ [last]).map trim := by rw [entryParts, inner]
    _ = (earlier ++ [last ++ back]).map trim := by
        simp only [List.map_append, List.map_cons, closed]
    _ = ((trim entry ++ back).splitOn ':').map trim := by rw [pieces back (plain back behind)]
    _ = ((front ++ (trim entry ++ back)).splitOn ':').map trim := by
        rw [splitOn_append_of_notMem (plain front inFront), opened]
    _ = (entry.splitOn ':').map trim := by rw [← List.append_assoc, ← whole]

/-- The first parts of an entry, joined again. -/
def leadingParts (entry : List Char) (count : Nat) : List Char :=
  [':'].intercalate ((entry.splitOn ':').take count)

/-- The first parts of an entry have just these parts. -/
theorem entryParts_leadingParts {count : Nat} (pos : 0 < count) (entry : List Char) :
    entryParts (leadingParts entry count) = (entryParts entry).take count := by
  have whole : ∀ part ∈ (entry.splitOn ':').take count, ':' ∉ part := fun part mem =>
    notMem_of_mem_splitOn (List.mem_of_mem_take mem)
  have there : (entry.splitOn ':').take count ≠ [] := by
    rw [ne_eq, List.take_eq_nil_iff]
    rintro (zero | empty)
    · omega
    · exact List.splitOn_ne_nil ':' entry empty
  rw [entryParts_eq_map_trim, leadingParts, List.splitOn_intercalate ':' whole there,
    entryParts_eq_map_trim, List.map_take]

/-- The first parts of an entry without a comma have no comma. -/
theorem comma_notMem_leadingParts {entry : List Char} (comma : ',' ∉ entry) (count : Nat) :
    ',' ∉ leadingParts entry count := by
  intro mem
  rcases of_mem_intercalate mem with colon | ⟨part, held, inside⟩
  · exact absurd (List.mem_singleton.mp colon) (by decide)
  · have within : part <:+: entry := infix_of_mem_splitOn (List.mem_of_mem_take held)
    exact comma (within.subset inside)

/-- A text is a filter string by itself. -/
def ParsesAlone (text : List Char) : Prop :=
  ∃ selector, Selector.parse (String.ofList text) = .ok selector

/-- A text without a comma is a filter string exactly when its trimmed parts make a filter. -/
theorem parsesAlone_iff {text : List Char} (comma : ',' ∉ text) :
    ParsesAlone text ↔ Filter.Readable (entryParts text) := by
  have single : (String.ofList text).toList.splitOn ',' = [text] := by
    rw [String.toList_ofList, List.splitOn_eq_singleton comma]
  simp only [ParsesAlone, parse_eq_ok_iff, single]
  constructor
  · rintro ⟨selector, filters, -, read⟩
    obtain ⟨f, rest, made, -⟩ := List.forall₂_cons_left_iff.mp read
    exact ⟨f, made⟩
  · rintro ⟨f, made⟩
    exact ⟨.filtered [f], [f], rfl, .cons made .nil⟩

/-- An entry is refused as blank or for what its trimmed parts are refused for. -/
theorem read_eq_error_iff {entry : List Char} {fault : EntryFault} :
    Filter.read entry = .error fault ↔
      (trim entry = [] ∧ fault = .blank) ∨
        (trim entry ≠ [] ∧ Filter.ofParts (entryParts entry) = .error fault) := by
  unfold Filter.read
  by_cases blank : trim entry = []
  · simp [blank, eq_comm]
  · simp [blank]

/-- An entry without a comma is read exactly when it is a filter string by itself. -/
theorem exists_read_ok_iff {entry : List Char} (comma : ',' ∉ entry) :
    (∃ f, Filter.read entry = .ok f) ↔ ParsesAlone entry := by
  rw [parsesAlone_iff comma, Filter.Readable]
  exact exists_congr fun f => read_eq_ok_iff

/-- An entry without a comma is refused exactly when it is no filter string by itself. -/
theorem exists_read_error_iff {entry : List Char} (comma : ',' ∉ entry) :
    (∃ fault, Filter.read entry = .error fault) ↔ ¬ ParsesAlone entry := by
  rw [← exists_read_ok_iff comma]
  cases Filter.read entry <;> simp

end ComputeHandles
