import ComputeHandles.Proofs.Filter.Grammar

/-!
# Written filter strings are read back

A filter is written with a part for its backend and a part for its device type, a star
where it restricts nothing, and a third part for its position if it has one. So every part
stands in its own place, and although some names fit two places each is read in the one it
was written for. No part has a comma, a colon or a blank in it, so a list of filters comes
apart where it was put together.
-/

namespace ComputeHandles

open Text Listing

/-- A character that neither separates entries or parts nor is trimmed off. -/
def IsPlain (c : Char) : Prop := c ≠ ',' ∧ c ≠ ':' ∧ isBlank c = false

instance (c : Char) : Decidable (IsPlain c) := inferInstanceAs (Decidable (_ ∧ _))

namespace Text

/-- No digit is blank. -/
theorem isBlank_of_isDigit {c : Char} (h : c.isDigit = true) : isBlank c = false := by
  have digit : 48 ≤ c.toNat ∧ c.toNat ≤ 57 := by
    simpa [Char.isDigit, UInt32.le_iff_toNat_le] using h
  have apart : ∀ range ∈ blankRanges, range.2 < 48 ∨ 57 < range.1 := by decide
  by_contra blank
  have covered : blankRanges.covers c.toNat = true := by simpa [isBlank] using blank
  obtain ⟨range, mem, low, high⟩ := RangeTable.exists_of_covers covered
  have outside := apart range mem
  omega

/-- A text without blanks is trimmed already. -/
theorem trim_eq_self {cs : List Char} (h : ∀ c ∈ cs, isBlank c = false) : trim cs = cs := by
  have kept : ∀ ds : List Char, (∀ c ∈ ds, isBlank c = false) → ds.dropWhile isBlank = ds := by
    intro ds none
    cases ds with
    | nil => rfl
    | cons d ds => exact List.dropWhile_cons_of_neg (by simp [none d])
  have front : trimStart cs = cs := kept cs h
  have back : cs.reverse.dropWhile isBlank = cs.reverse :=
    kept cs.reverse fun c mem => h c (List.mem_reverse.mp mem)
  rw [trim, front, trimEnd, back, List.reverse_reverse]

end Text

/-- A digit is plain. -/
theorem isPlain_of_isDigit {c : Char} (h : c.isDigit = true) : IsPlain c := by
  refine ⟨?_, ?_, isBlank_of_isDigit h⟩
  · rintro rfl
    exact absurd h (by decide)
  · rintro rfl
    exact absurd h (by decide)

/-- A text is plain when the test says so of each character. -/
theorem isPlain_of_all {cs : List Char} (h : cs.all (decide <| IsPlain ·) = true) :
    ∀ c ∈ cs, IsPlain c :=
  fun c mem => of_decide_eq_true (List.all_eq_true.mp h c mem)

/-- The name of a backend is plain. -/
theorem Backend.isPlain_name (b : Backend) : ∀ c ∈ b.name.toList, IsPlain c := by
  cases b <;> exact isPlain_of_all (by decide)

/-- The name of a device type is plain. -/
theorem DeviceType.isPlain_name (t : DeviceType) : ∀ c ∈ t.name.toList, IsPlain c := by
  cases t <;> exact isPlain_of_all (by decide)

/-- A restriction is written by its name, and by a star if it is absent. -/
theorem of_mem_getD_star {P : Char → Prop} (star : P '*') {part : Option (List Char)}
    (h : ∀ cs ∈ part, ∀ c ∈ cs, P c) : ∀ c ∈ part.getD ['*'], P c := by
  cases part with
  | none =>
    intro c mem
    rwa [List.mem_singleton.mp mem]
  | some cs => exact h cs rfl

namespace Filter

variable {f : Filter}

/-- The parts that write a filter are made of names, stars and digits. -/
theorem of_mem_parts {P : Char → Prop} (star : P '*')
    (backend : ∀ b : Backend, ∀ c ∈ b.name.toList, P c)
    (deviceType : ∀ t : DeviceType, ∀ c ∈ t.name.toList, P c)
    (digit : ∀ c : Char, c.isDigit = true → P c) {part : List Char} (mem : part ∈ f.parts) :
    ∀ c ∈ part, P c := by
  rcases List.mem_cons.mp mem with rfl | mem
  · refine of_mem_getD_star star fun cs held => ?_
    obtain ⟨b, -, rfl⟩ := Option.map_eq_some_iff.mp held
    exact backend b
  rcases List.mem_cons.mp mem with rfl | mem
  · refine of_mem_getD_star star fun cs held => ?_
    obtain ⟨t, -, rfl⟩ := Option.map_eq_some_iff.mp held
    exact deviceType t
  · obtain ⟨i, -, rfl⟩ := Option.map_eq_some_iff.mp (Option.mem_toList.mp mem)
    exact fun c mem => digit c (Nat.isDigit_of_mem_toDigits (by decide) (by decide) mem)

/-- The parts that write a filter are plain. -/
theorem isPlain_parts {part : List Char} (mem : part ∈ f.parts) : ∀ c ∈ part, IsPlain c :=
  of_mem_parts (by decide) Backend.isPlain_name DeviceType.isPlain_name
    (fun _ => isPlain_of_isDigit) mem

/-- What is written for a filter is cut into its parts. -/
theorem entryParts_write : entryParts f.write = f.parts := by
  have plain : ∀ c ∈ f.write, c = ':' ∨ IsPlain c := by
    intro c mem
    rcases of_mem_intercalate mem with colon | ⟨part, held, inside⟩
    · exact .inl (List.mem_singleton.mp colon)
    · exact .inr (isPlain_parts held c inside)
  have solid : ∀ c ∈ f.write, isBlank c = false := by
    intro c mem
    rcases plain c mem with rfl | h
    · decide
    · exact h.2.2
  have cut : f.write.splitOn ':' = f.parts :=
    List.splitOn_intercalate ':' (fun part mem colon => (isPlain_parts mem ':' colon).2.1 rfl)
      (List.cons_ne_nil _ _)
  have trimmed : ∀ part ∈ f.parts, trim part = part := fun part mem =>
    trim_eq_self fun c inside => (isPlain_parts mem c inside).2.2
  rw [entryParts, trim_eq_self solid, cut, List.map_congr_left trimmed, List.map_id']

/-- A name or a star in the place of the backend restricts as it was written. -/
theorem backendPart_written (b : Option Backend) :
    BackendPart ((b.map (·.name.toList)).getD ['*']) b := by
  rw [← ofStarOr_backend_eq_some_iff]
  rcases b with _ | b
  · decide
  · cases b <;> decide

/-- A name or a star in the place of the device type restricts as it was written. -/
theorem deviceTypePart_written (t : Option DeviceType) :
    DeviceTypePart ((t.map (·.name.toList)).getD ['*']) t := by
  rw [← ofStarOr_deviceType_eq_some_iff]
  rcases t with _ | t
  · decide
  · cases t <;> decide

/-- The digits of a position are written only if there is one, and then restrict to it. -/
theorem indexPart_written (i : Option UInt64) :
    Filled IndexPart (i.map fun i => Nat.toDigits 10 i.toNat) i := by
  cases i with
  | none => exact .empty
  | some i => exact .held (readIndex?_eq_some_iff.mp (readIndex?_toDigits i))

/-- The assignment by which a filter is written. -/
def written (f : Filter) : Assignment f.parts f where
  backend := some ((f.backend.map (·.name.toList)).getD ['*'])
  deviceType := some ((f.deviceType.map (·.name.toList)).getD ['*'])
  index := f.index.map fun i => Nat.toDigits 10 i.toNat
  parts_eq := rfl
  backend_filled := .held (backendPart_written f.backend)
  deviceType_filled := .held (deviceTypePart_written f.deviceType)
  index_filled := indexPart_written f.index

/-- The parts that write a filter are read as that filter. -/
theorem ofParts_parts : Filter.ofParts f.parts = .ok f := by
  have first : f.written.BackendFirst := fun part head _ => head
  exact ofParts_of_assignment first

end Filter

/-- Written entries come apart where they were joined. -/
theorem splitOn_writeAll {filters : List Filter} (there : filters ≠ []) :
    (Filter.writeAll filters).splitOn ',' = filters.map Filter.write := by
  have whole : ∀ entry ∈ filters.map Filter.write, ',' ∉ entry := by
    intro entry mem comma
    obtain ⟨f, -, rfl⟩ := List.mem_map.mp mem
    rcases of_mem_intercalate comma with colon | ⟨part, held, inside⟩
    · exact absurd (List.mem_singleton.mp colon) (by decide)
    · exact (Filter.isPlain_parts held ',' inside).1 rfl
  have entries : filters.map Filter.write ≠ [] := fun none => there (List.map_eq_nil_iff.mp none)
  exact List.splitOn_intercalate ',' whole entries

/-- What is read has a filter for every entry, and there always is an entry. -/
theorem exists_filters_of_parse {s : String} {selector : Selector}
    (h : Selector.parse s = .ok selector) :
    ∃ filters, selector = .filtered filters ∧ filters ≠ [] := by
  obtain ⟨filters, same, read⟩ := parse_eq_ok_iff.mp h
  refine ⟨filters, same, fun none => ?_⟩
  rw [none, List.forall₂_nil_right_iff] at read
  exact List.splitOn_ne_nil ',' s.toList read

/-- Filters are read back from their text. -/
theorem parse_text_of_ne_nil {filters : List Filter} (there : filters ≠ []) :
    Selector.parse (Selector.filtered filters).text = .ok (.filtered filters) := by
  have entries : (Selector.filtered filters).text.toList.splitOn ',' =
      filters.map Filter.write := by
    rw [Selector.text, String.toList_ofList, splitOn_writeAll there]
  have read : List.Forall₂ (fun entry f => Filter.ofParts (entryParts entry) = .ok f)
      (filters.map Filter.write) filters := by
    rw [List.forall₂_map_left_iff, List.forall₂_same]
    intro f _
    rw [Filter.entryParts_write, Filter.ofParts_parts]
  exact parse_eq_ok_iff.mpr ⟨filters, rfl, entries ▸ read⟩

/-- The text of filters is read as these filters, if there are any. So what is read from a
filter string is read again from its own text, and writing what is read again gives that
text once more. -/
theorem parse_text_iff :
    (∀ filters : List Filter,
      Selector.parse (Selector.filtered filters).text = .ok (.filtered filters) ↔ filters ≠ []) ∧
    ∀ s selector, Selector.parse s = .ok selector →
      Selector.parse selector.text = .ok selector ∧
        (Selector.parse selector.text).map Selector.text = .ok selector.text := by
  constructor
  · intro filters
    refine ⟨fun h => ?_, parse_text_of_ne_nil⟩
    obtain ⟨others, same, there⟩ := exists_filters_of_parse h
    cases same
    exact there
  · intro s selector h
    obtain ⟨filters, rfl, there⟩ := exists_filters_of_parse h
    have again := parse_text_of_ne_nil there
    refine ⟨again, ?_⟩
    rw [again]
    rfl

example : (Selector.parse " OpenCL : 007 ,HOST,*:host").map Selector.text =
    .ok "opencl:*:7,host:*,*:host" := by rfl

end ComputeHandles
