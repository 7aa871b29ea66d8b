import Mathlib.Order.Bounds.Basic
import ComputeHandles.Proofs.Filter.Pieces

/-!
# The first fault of a filter string

A text that is no filter string is refused for the first of its entries that is none by
itself. A blank entry is reported as such. Of any other entry the first part is reported with
which its parts no longer make a filter, so a part is never blamed for one that comes later.
-/

namespace ComputeHandles

open Text Listing

/-- The first entry of a text that is no filter string by itself. -/
def FirstBadEntry (s : String) (entry : List Char) : Prop :=
  ∃ earlier later, s.toList.splitOn ',' = earlier ++ entry :: later ∧
    (∀ e ∈ earlier, ParsesAlone e) ∧ ¬ ParsesAlone entry

/-- The first parts of an entry are acceptable, if there are any, and with one more part they
are not. -/
def BreaksAt (entry : List Char) (count : Nat) : Prop :=
  (count = 0 ∨ ParsesAlone (leadingParts entry count)) ∧
    ¬ ParsesAlone (leadingParts entry (count + 1))

/-- The fault of a text that is no filter string. -/
inductive FirstFault (s : String) : FilterError → Prop where
  /-- The first entry that is none by itself is blank. -/
  | empty {entry : List Char} (first : FirstBadEntry s entry) (blank : trim entry = []) :
    FirstFault s (.empty s)
  /-- The first entry that is none by itself has a part that it breaks at. -/
  | unexpectedToken {entry part : List Char} {count : Nat} (first : FirstBadEntry s entry)
      (solid : trim entry ≠ []) (least : IsLeast {count | BreaksAt entry count} count)
      (there : (entry.splitOn ':')[count]? = some part) :
    FirstFault s (.unexpectedToken (String.ofList (trim part)) s)

/-- An entry of a text has no comma. -/
theorem comma_notMem_of_mem_entries {s : String} {entry : List Char}
    (mem : entry ∈ s.toList.splitOn ',') : ',' ∉ entry := notMem_of_mem_splitOn mem

/-- The first bad entry is one of the entries. -/
theorem FirstBadEntry.mem_entries {s : String} {entry : List Char} (h : FirstBadEntry s entry) :
    entry ∈ s.toList.splitOn ',' := by
  obtain ⟨earlier, later, entries, -, -⟩ := h
  rw [entries]
  exact List.mem_append_right earlier List.mem_cons_self

/-- The first bad entry is no filter string by itself. -/
theorem FirstBadEntry.not_parsesAlone {s : String} {entry : List Char}
    (h : FirstBadEntry s entry) : ¬ ParsesAlone entry := by
  obtain ⟨earlier, later, -, -, bad⟩ := h
  exact bad

/-- A text is refused exactly for what its first bad entry is refused for. -/
theorem parse_eq_error_iff_firstBadEntry {s : String} {e : FilterError} :
    Selector.parse s = .error e ↔ ∃ entry fault, FirstBadEntry s entry ∧
      Filter.read entry = .error fault ∧ e = fault.within s := by
  rw [parse_eq_error_iff_readAll]
  simp only [Filter.readAll, mapM_eq_error_iff]
  constructor
  · rintro ⟨fault, ⟨earlier, entry, later, entries, readable, unreadable⟩, rfl⟩
    have comma : ∀ e ∈ earlier ++ entry :: later, ',' ∉ e := fun e mem =>
      comma_notMem_of_mem_entries (entries ▸ mem)
    have fine : ∀ e ∈ earlier, ParsesAlone e := fun e held =>
      (exists_read_ok_iff (comma e (List.mem_append_left _ held))).mp (readable e held)
    have bad : ¬ ParsesAlone entry :=
      (exists_read_error_iff (comma entry (by simp))).mp ⟨fault, unreadable⟩
    exact ⟨entry, fault, ⟨earlier, later, entries, fine, bad⟩, unreadable, rfl⟩
  · rintro ⟨entry, fault, ⟨earlier, later, entries, fine, -⟩, unreadable, rfl⟩
    have comma : ∀ e ∈ earlier ++ entry :: later, ',' ∉ e := fun e mem =>
      comma_notMem_of_mem_entries (entries ▸ mem)
    have readable : ∀ e ∈ earlier, ∃ f, Filter.read e = .ok f := fun e held =>
      (exists_read_ok_iff (comma e (List.mem_append_left _ held))).mpr (fine e held)
    exact ⟨fault, ⟨earlier, entry, later, entries, readable, unreadable⟩, rfl⟩

/-- An entry breaks where its trimmed parts stop making a filter. -/
theorem breaksAt_iff {entry : List Char} (comma : ',' ∉ entry) {count : Nat} :
    BreaksAt entry count ↔ Filter.Readable ((entryParts entry).take count) ∧
      ¬ Filter.Readable ((entryParts entry).take (count + 1)) := by
  have read : ∀ n, 0 < n → (ParsesAlone (leadingParts entry n) ↔
      Filter.Readable ((entryParts entry).take n)) := by
    intro n pos
    rw [parsesAlone_iff (comma_notMem_leadingParts comma n), entryParts_leadingParts pos]
  rw [BreaksAt, read (count + 1) (Nat.succ_pos count)]
  rcases Nat.eq_zero_or_pos count with rfl | pos
  · have nothing : Filter.Readable ((entryParts entry).take 0) := ⟨.any, rfl⟩
    exact and_congr_left fun _ => iff_of_true (.inl rfl) nothing
  · rw [read count pos]
    exact and_congr_left fun _ => or_iff_right (Nat.ne_of_gt pos)

/-- An entry breaks at the first part with which its trimmed parts make no filter. -/
theorem isLeast_breaksAt {entry part : List Char} {front rest : List (List Char)}
    (comma : ',' ∉ entry) (parts : entryParts entry = front ++ part :: rest)
    (readable : Filter.Readable front) (unreadable : ¬ Filter.Readable (front ++ [part])) :
    IsLeast {count | BreaksAt entry count} front.length := by
  constructor
  · have before : (entryParts entry).take front.length = front := by
      rw [parts, List.take_left]
    have after : (entryParts entry).take (front.length + 1) = front ++ [part] := by
      rw [parts, ← List.singleton_append, ← List.append_assoc]
      exact List.take_left' (by simp)
    refine (breaksAt_iff comma).mpr ?_
    rw [before, after]
    exact ⟨readable, unreadable⟩
  · intro count breaks
    -- If it broke earlier, fewer parts than those in front would make no filter.
    by_contra earlier
    have below : count + 1 ≤ front.length := by omega
    have within : (entryParts entry).take (count + 1) = front.take (count + 1) := by
      rw [parts, List.take_append_of_le_length below]
    have whole : Filter.Readable (front.take (count + 1) ++ front.drop (count + 1)) := by
      rwa [List.take_append_drop]
    exact ((breaksAt_iff comma).mp breaks).2 (within ▸ whole.of_append)

/-- A bad entry that is not blank is refused for the part that it breaks at. -/
theorem exists_part_of_read_error {entry : List Char} {fault : EntryFault} (comma : ',' ∉ entry)
    (solid : trim entry ≠ []) (refused : Filter.read entry = .error fault) :
    ∃ part count, IsLeast {count | BreaksAt entry count} count ∧
      (entry.splitOn ':')[count]? = some part ∧ fault = .unexpected (trim part) := by
  obtain ⟨blank, -⟩ | ⟨-, failed⟩ := read_eq_error_iff.mp refused
  · exact absurd blank solid
  · obtain ⟨front, trimmed, rest, parts, readable, unreadable, rfl⟩ :=
      Filter.ofParts_eq_error_iff.mp failed
    have there : (entryParts entry)[front.length]? = some trimmed := by
      rw [parts]
      simp
    rw [entryParts_eq_map_trim, List.getElem?_map, Option.map_eq_some_iff] at there
    obtain ⟨part, at_front, rfl⟩ := there
    exact ⟨part, front.length, isLeast_breaksAt comma parts readable unreadable, at_front, rfl⟩

/-- A text is refused exactly for its first fault. -/
theorem parse_eq_error_iff {s : String} {e : FilterError} :
    Selector.parse s = .error e ↔ FirstFault s e := by
  rw [parse_eq_error_iff_firstBadEntry]
  constructor
  · rintro ⟨entry, fault, first, refused, rfl⟩
    have comma : ',' ∉ entry := comma_notMem_of_mem_entries first.mem_entries
    by_cases blank : trim entry = []
    · obtain ⟨-, rfl⟩ | ⟨solid, -⟩ := read_eq_error_iff.mp refused
      · exact .empty first blank
      · exact absurd blank solid
    · obtain ⟨part, count, least, there, rfl⟩ := exists_part_of_read_error comma blank refused
      exact .unexpectedToken first blank least there
  · intro fault
    cases fault with
    | @empty entry first blank =>
      exact ⟨entry, .blank, first, read_eq_error_iff.mpr (.inl ⟨blank, rfl⟩), rfl⟩
    | @unexpectedToken entry part count first solid least there =>
      have comma : ',' ∉ entry := comma_notMem_of_mem_entries first.mem_entries
      obtain ⟨fault, refused⟩ := (exists_read_error_iff comma).mpr first.not_parsesAlone
      obtain ⟨part', count', least', there', rfl⟩ := exists_part_of_read_error comma solid refused
      have same : part' = part := by
        rw [least.unique least', there'] at there
        exact Option.some.inj there
      exact ⟨entry, _, first, refused, by rw [same]; rfl⟩

/-- A text is refused exactly for the first of its entries that is no filter string by itself:
as empty if that is blank, and else for the trimmed part at the least place where the parts in
front are acceptable, or there are none, and with that part no longer are; the complaint is
about the whole text. So a token that is reported stands in the text as it is, has neither a
comma nor a colon, and has no blanks at its ends. -/
theorem parse_error_at_first_fault (s : String) :
    (∀ e, Selector.parse s = .error e ↔ FirstFault s e) ∧
      ∀ token filter, Selector.parse s = .error (.unexpectedToken token filter) →
        token.toList <:+: s.toList ∧ ',' ∉ token.toList ∧ ':' ∉ token.toList ∧
          (∀ c ∈ token.toList.head?, isBlank c = false) ∧
          ∀ c ∈ token.toList.getLast?, isBlank c = false := by
  refine ⟨fun e => parse_eq_error_iff, fun token filter refused => ?_⟩
  obtain _ | @⟨entry, part, count, first, -, -, there⟩ := parse_eq_error_iff.mp refused
  have inEntry : trim part <:+: entry :=
    (isInfix_trim part).trans (infix_of_mem_splitOn (List.mem_of_getElem? there))
  have colon : ':' ∉ part := notMem_of_mem_splitOn (List.mem_of_getElem? there)
  rw [String.toList_ofList]
  refine ⟨inEntry.trans (infix_of_mem_splitOn first.mem_entries), ?_, ?_, ?_, ?_⟩
  · exact fun mem => comma_notMem_of_mem_entries first.mem_entries (inEntry.subset mem)
  · exact fun mem => colon ((isInfix_trim part).subset mem)
  · exact fun c => isBlank_head?_trim
  · exact fun c => isBlank_getLast?_trim

example : Selector.parse "gpu, opencl : 0 : 1 " =
    .error (.unexpectedToken "1" "gpu, opencl : 0 : 1 ") := by rfl

end ComputeHandles
