import ComputeHandles.Proofs.Listing
import ComputeHandles.Selector.Basic

/-!
# The grammar of filter strings

An entry has three places, for a backend, a device type and a position. Its parts are
assigned to the places in order and a place may stay empty. Some parts fit two places,
so an entry can have several assignments; the one that is read fills the place of the
backend whenever it can. Taking each part for the first place it fits loses nothing:
an entry is refused only if no assignment of its parts exists.
-/

namespace ComputeHandles

open Text Listing

/-- A part that fits the place of the backend, with the restriction that it makes. -/
inductive BackendPart (part : List Char) : Option Backend → Prop where
  /-- Any backend. -/
  | star (h : part = ['*']) : BackendPart part none
  /-- The host. -/
  | host (h : lower part = "host".toList) : BackendPart part (some .host)
  /-- OpenCL. -/
  | openCl (h : lower part = "opencl".toList) : BackendPart part (some .openCl)
  /-- Level Zero. -/
  | levelZero (h : lower part = "level_zero".toList) : BackendPart part (some .levelZero)
  /-- CUDA. -/
  | cuda (h : lower part = "cuda".toList) : BackendPart part (some .cuda)

/-- A part that fits the place of the device type, with the restriction that it makes. -/
inductive DeviceTypePart (part : List Char) : Option DeviceType → Prop where
  /-- Any device type. -/
  | star (h : part = ['*']) : DeviceTypePart part none
  /-- The host. -/
  | host (h : lower part = "host".toList) : DeviceTypePart part (some .host)
  /-- Processors. -/
  | cpu (h : lower part = "cpu".toList) : DeviceTypePart part (some .cpu)
  /-- Graphics processors. -/
  | gpu (h : lower part = "gpu".toList) : DeviceTypePart part (some .gpu)
  /-- Accelerators by their short name. -/
  | acc (h : lower part = "acc".toList) : DeviceTypePart part (some .accelerator)
  /-- Accelerators by their long name. -/
  | accelerator (h : lower part = "accelerator".toList) : DeviceTypePart part (some .accelerator)

/-- A part that fits the place of the position: a run of decimal digits, zeros in front
included, whose value is a number below 2^64. -/
inductive IndexPart (part : List Char) : Option UInt64 → Prop where
  /-- The position of that value. -/
  | digits {i : UInt64} (nonempty : part ≠ []) (digit : ∀ c ∈ part, '0' ≤ c ∧ c ≤ '9')
      (value : Nat.ofDigitChars 10 part 0 = i.toNat) : IndexPart part (some i)

/-- A place of an entry is empty and restricts nothing, or holds a part that fits. -/
inductive Filled {α : Type} (Fits : List Char → Option α → Prop) :
    Option (List Char) → Option α → Prop where
  /-- The place is empty. -/
  | empty : Filled Fits none none
  /-- The place holds a part. -/
  | held {part : List Char} {a : Option α} (h : Fits part a) : Filled Fits (some part) a

/-- An assignment of the parts of an entry to the three places, which makes a filter. -/
structure Assignment (parts : List (List Char)) (f : Filter) where
  /-- The part in the place of the backend. -/
  backend : Option (List Char)
  /-- The part in the place of the device type. -/
  deviceType : Option (List Char)
  /-- The part in the place of the position. -/
  index : Option (List Char)
  /-- The places hold all the parts, in order. -/
  parts_eq : parts = backend.toList ++ deviceType.toList ++ index.toList
  /-- The restriction of the backend. -/
  backend_filled : Filled BackendPart backend f.backend
  /-- The restriction of the device type. -/
  deviceType_filled : Filled DeviceTypePart deviceType f.deviceType
  /-- The restriction of the position. -/
  index_filled : Filled IndexPart index f.index

/-- A first part that fits the place of the backend is put there. -/
def Assignment.BackendFirst {parts : List (List Char)} {f : Filter} (a : Assignment parts f) :
    Prop :=
  ∀ part ∈ parts.head?, (∃ b, BackendPart part b) → a.backend = some part

/-- A backend has exactly the spellings of its name. -/
theorem Backend.ofName?_eq_some_iff {part : List Char} {b : Backend} :
    Backend.ofName? part = some b ↔ (lower part, b) ∈ Backend.spellings :=
  lookup_eq_some_iff_mem (by decide)

/-- A device type has exactly the spellings of its names. -/
theorem DeviceType.ofName?_eq_some_iff {part : List Char} {t : DeviceType} :
    DeviceType.ofName? part = some t ↔ (lower part, t) ∈ DeviceType.spellings :=
  lookup_eq_some_iff_mem (by decide)

/-- A star reads as no restriction and anything else as a name. -/
theorem ofStarOr_eq_some_iff {α : Type} {ofName? : List Char → Option α}
    (star : ofName? ['*'] = none) {part : List Char} {a : Option α} :
    ofStarOr ofName? part = some a ↔
      (part = ['*'] ∧ a = none) ∨ ∃ x, ofName? part = some x ∧ a = some x := by
  unfold ofStarOr
  by_cases hs : part = ['*']
  · rw [if_pos hs, hs, star]
    simp [eq_comm]
  · rw [if_neg hs, Option.map_eq_some_iff]
    simp [hs, eq_comm]

/-- What is read in the place of the backend is what fits there. -/
theorem ofStarOr_backend_eq_some_iff {part : List Char} {b : Option Backend} :
    ofStarOr Backend.ofName? part = some b ↔ BackendPart part b := by
  rw [ofStarOr_eq_some_iff (by decide)]
  simp only [Backend.ofName?_eq_some_iff, Backend.spellings, Backend.name, List.map_cons,
    List.map_nil, List.mem_cons, List.not_mem_nil, or_false, Prod.mk.injEq]
  constructor
  · rintro (⟨h, rfl⟩ | ⟨x, h, rfl⟩)
    · exact .star h
    · rcases h with ⟨h, rfl⟩ | ⟨h, rfl⟩ | ⟨h, rfl⟩ | ⟨h, rfl⟩
      · exact .host h
      · exact .openCl h
      · exact .levelZero h
      · exact .cuda h
  · intro fits
    cases fits with
    | star h => exact .inl ⟨h, rfl⟩
    | host h | openCl h | levelZero h | cuda h => exact .inr ⟨_, by simp [h], rfl⟩

/-- What is read in the place of the device type is what fits there. -/
theorem ofStarOr_deviceType_eq_some_iff {part : List Char} {t : Option DeviceType} :
    ofStarOr DeviceType.ofName? part = some t ↔ DeviceTypePart part t := by
  rw [ofStarOr_eq_some_iff (by decide)]
  simp only [DeviceType.ofName?_eq_some_iff, DeviceType.spellings, DeviceType.name, List.map_cons,
    List.map_nil, List.cons_append, List.nil_append, List.mem_cons, List.not_mem_nil, or_false,
    Prod.mk.injEq]
  constructor
  · rintro (⟨h, rfl⟩ | ⟨x, h, rfl⟩)
    · exact .star h
    · rcases h with ⟨h, rfl⟩ | ⟨h, rfl⟩ | ⟨h, rfl⟩ | ⟨h, rfl⟩ | ⟨h, rfl⟩
      · exact .host h
      · exact .cpu h
      · exact .gpu h
      · exact .acc h
      · exact .accelerator h
  · intro fits
    cases fits with
    | star h => exact .inl ⟨h, rfl⟩
    | host h | cpu h | gpu h | acc h | accelerator h => exact .inr ⟨_, by simp [h], rfl⟩

/-- What is read in the place of the position is what fits there. -/
theorem readIndex?_eq_some_iff {part : List Char} {i : UInt64} :
    readIndex? part = some i ↔ IndexPart part (some i) := by
  have digits : part.all Char.isDigit = true ↔ ∀ c ∈ part, '0' ≤ c ∧ c ≤ '9' := by
    simp [Char.isDigit, Char.le_def]
  simp only [readIndex?, digits]
  constructor
  · intro h
    split at h
    · next hp =>
      split at h
      · next hv =>
        have value := UInt64.toNat_ofNat_of_lt' hv
        cases h
        exact .digits hp.1 hp.2 value.symm
      · cases h
    · cases h
  · rintro ⟨nonempty, digit, value⟩
    rw [if_pos ⟨nonempty, digit⟩, value, if_pos i.toNat_lt, UInt64.ofNat_toNat]

/-- The digits of a position are what they are in lower case. -/
theorem lower_of_indexPart {part : List Char} {i : Option UInt64} (h : IndexPart part i) :
    lower part = part := by
  obtain ⟨-, digit, -⟩ := h
  have fixed : ∀ c ∈ part, c.toLower = c := by
    intro c hc
    obtain ⟨-, hle⟩ := digit c hc
    unfold Char.toLower
    rw [dif_neg]
    intro hu
    exact absurd (UInt32.le_trans hu.1 hle) (by decide)
  exact (List.map_congr_left fixed).trans (List.map_id part)

/-- No part fits the places of a position and of a backend. -/
theorem not_backendPart_of_indexPart {part : List Char} {i : Option UInt64}
    {b : Option Backend} (h : IndexPart part i) : ¬ BackendPart part b := by
  have hl := lower_of_indexPart h
  obtain ⟨-, digit, -⟩ := h
  intro fits
  cases fits with
  | star hs => exact absurd (digit '*' (by rw [hs]; decide)) (by decide)
  | host hs => exact absurd (digit 'h' (by rw [← hl, hs]; decide)) (by decide)
  | openCl hs => exact absurd (digit 'o' (by rw [← hl, hs]; decide)) (by decide)
  | levelZero hs => exact absurd (digit 'l' (by rw [← hl, hs]; decide)) (by decide)
  | cuda hs => exact absurd (digit 'c' (by rw [← hl, hs]; decide)) (by decide)

/-- No part fits the places of a position and of a device type. -/
theorem not_deviceTypePart_of_indexPart {part : List Char} {i : Option UInt64}
    {t : Option DeviceType} (h : IndexPart part i) : ¬ DeviceTypePart part t := by
  have hl := lower_of_indexPart h
  obtain ⟨-, digit, -⟩ := h
  intro fits
  cases fits with
  | star hs => exact absurd (digit '*' (by rw [hs]; decide)) (by decide)
  | host hs => exact absurd (digit 'h' (by rw [← hl, hs]; decide)) (by decide)
  | cpu hs => exact absurd (digit 'c' (by rw [← hl, hs]; decide)) (by decide)
  | gpu hs => exact absurd (digit 'g' (by rw [← hl, hs]; decide)) (by decide)
  | acc hs => exact absurd (digit 'a' (by rw [← hl, hs]; decide)) (by decide)
  | accelerator hs => exact absurd (digit 'a' (by rw [← hl, hs]; decide)) (by decide)

/-- A place is read by taking the parts that fit it, and what is taken restricts as the
grammar says. -/
structure ReadsPlace {α β : Type} (read : List Char → Option α)
    (Fits : List Char → Option β → Prop) (restriction : Option α → Option β) : Prop where
  /-- Nothing taken restricts nothing. -/
  empty : restriction none = none
  /-- What is taken fits. -/
  sound : ∀ part a, read part = some a → Fits part (restriction (some a))
  /-- What fits is taken. -/
  complete : ∀ part b, Fits part b → ∃ a, read part = some a ∧ restriction (some a) = b

/-- The place of the backend is read as the grammar says. -/
theorem readsPlace_backend : ReadsPlace (ofStarOr Backend.ofName?) BackendPart Option.join where
  empty := rfl
  sound _ _ h := ofStarOr_backend_eq_some_iff.mp h
  complete _ b h := ⟨b, ofStarOr_backend_eq_some_iff.mpr h, rfl⟩

/-- The place of the device type is read as the grammar says. -/
theorem readsPlace_deviceType :
    ReadsPlace (ofStarOr DeviceType.ofName?) DeviceTypePart Option.join where
  empty := rfl
  sound _ _ h := ofStarOr_deviceType_eq_some_iff.mp h
  complete _ t h := ⟨t, ofStarOr_deviceType_eq_some_iff.mpr h, rfl⟩

/-- The place of the position is read as the grammar says. -/
theorem readsPlace_index : ReadsPlace readIndex? IndexPart id where
  empty := rfl
  sound _ _ h := readIndex?_eq_some_iff.mp h
  complete _ _ h := by
    cases h with
    | digits nonempty digit value =>
      exact ⟨_, readIndex?_eq_some_iff.mpr (.digits nonempty digit value), rfl⟩

namespace ReadsPlace

variable {α β : Type} {read : List Char → Option α} {Fits : List Char → Option β → Prop}
variable {restriction : Option α → Option β}

/-- What does not fit is not taken. -/
theorem eq_none (r : ReadsPlace read Fits restriction) {part : List Char}
    (h : ∀ b, ¬ Fits part b) : read part = none := by
  cases hr : read part with
  | none => rfl
  | some a => exact absurd (r.sound part a hr) (h _)

/-- What is taken from the front of the parts fills the place, which stays empty only
before a part that does not fit. -/
theorem filled_of_takePart (r : ReadsPlace read Fits restriction) {parts rest : List (List Char)}
    {taken : Option α} (h : takePart read parts = (taken, rest)) :
    ∃ place, parts = place.toList ++ rest ∧ Filled Fits place (restriction taken) ∧
      (place = none → ∀ part ∈ parts.head?, read part = none) := by
  cases parts with
  | nil =>
    cases h
    exact ⟨none, rfl, r.empty ▸ .empty, by simp⟩
  | cons part parts =>
    cases hr : read part with
    | none =>
      simp only [takePart, hr] at h
      cases h
      refine ⟨none, rfl, r.empty ▸ .empty, ?_⟩
      intro _ first hf
      cases hf
      exact hr
    | some a =>
      simp only [takePart, hr] at h
      cases h
      exact ⟨some part, rfl, .held (r.sound part a hr), nofun⟩

/-- A place that is filled is read from the front of the parts, and so is one that is
empty if the first part does not fit it. -/
theorem takePart_of_filled (r : ReadsPlace read Fits restriction) {place : Option (List Char)}
    {rest : List (List Char)} {b : Option β} (filled : Filled Fits place b)
    (skipped : place = none → ∀ part ∈ rest.head?, read part = none) :
    ∃ taken, takePart read (place.toList ++ rest) = (taken, rest) ∧ restriction taken = b := by
  cases filled with
  | empty =>
    refine ⟨none, ?_, r.empty⟩
    cases rest with
    | nil => rfl
    | cons part rest =>
      have hr := skipped rfl part rfl
      simp [takePart, hr]
  | held fits =>
    obtain ⟨a, hr, hb⟩ := r.complete _ _ fits
    exact ⟨some a, by simp [takePart, hr], hb⟩

end ReadsPlace

/-- A filter that is read comes from an assignment with the backend first. -/
theorem exists_assignment_of_ofParts {parts : List (List Char)} {f : Filter}
    (h : Filter.ofParts parts = .ok f) : ∃ a : Assignment parts f, a.BackendFirst := by
  rcases hb : takePart (ofStarOr Backend.ofName?) parts with ⟨backend, afterBackend⟩
  rcases ht : takePart (ofStarOr DeviceType.ofName?) afterBackend with ⟨deviceType, afterType⟩
  rcases hi : takePart readIndex? afterType with ⟨index, afterIndex⟩
  simp only [Filter.ofParts, hb, ht, hi] at h
  cases afterIndex with
  | cons part rest => cases h
  | nil =>
    cases h
    obtain ⟨b, hbp, hbf, hbn⟩ := readsPlace_backend.filled_of_takePart hb
    obtain ⟨t, htp, htf, -⟩ := readsPlace_deviceType.filled_of_takePart ht
    obtain ⟨i, hip, hif, -⟩ := readsPlace_index.filled_of_takePart hi
    refine ⟨⟨b, t, i, ?_, hbf, htf, hif⟩, ?_⟩
    · rw [hbp, htp, hip, List.append_nil, List.append_assoc]
    · rintro part hp ⟨x, hx⟩
      cases b with
      | none =>
        have hread := hbn rfl part hp
        rw [ofStarOr_backend_eq_some_iff.mpr hx] at hread
        cases hread
      | some first =>
        rw [hbp] at hp
        exact hp

/-- A position in front of the parts is no device type. -/
theorem Assignment.deviceType_skipped {parts : List (List Char)} {f : Filter}
    (a : Assignment parts f) :
    ∀ part ∈ a.index.toList.head?, ofStarOr DeviceType.ofName? part = none := by
  intro part hp
  cases hi : a.index with
  | none => simp [hi] at hp
  | some q =>
    have hq : q = part := by simpa [hi] using hp
    have filled := a.index_filled
    rw [hi, hq] at filled
    cases filled with
    | held fits => exact readsPlace_deviceType.eq_none fun _ => not_deviceTypePart_of_indexPart fits

/-- With the backend first, its place stays empty only before a part that does not fit it. -/
theorem Assignment.backend_skipped {parts : List (List Char)} {f : Filter}
    {a : Assignment parts f} (first : a.BackendFirst) (h : a.backend = none) :
    ∀ part ∈ (a.deviceType.toList ++ a.index.toList).head?,
      ofStarOr Backend.ofName? part = none := by
  intro part hp
  apply readsPlace_backend.eq_none
  intro b fits
  have head : part ∈ parts.head? := by simpa [a.parts_eq, h] using hp
  have held := first part head ⟨b, fits⟩
  rw [h] at held
  cases held

/-- An assignment with the backend first is read. -/
theorem ofParts_of_assignment {parts : List (List Char)} {f : Filter} {a : Assignment parts f}
    (first : a.BackendFirst) : Filter.ofParts parts = .ok f := by
  obtain ⟨index, readIndex, hindex⟩ :
      ∃ taken, takePart readIndex? (a.index.toList ++ []) = (taken, []) ∧ id taken = f.index :=
    readsPlace_index.takePart_of_filled a.index_filled (by simp)
  obtain ⟨deviceType, readType, htype⟩ :=
    readsPlace_deviceType.takePart_of_filled a.deviceType_filled fun _ => a.deviceType_skipped
  obtain ⟨backend, readBackend, hbackend⟩ :=
    readsPlace_backend.takePart_of_filled a.backend_filled (Assignment.backend_skipped first)
  rw [List.append_nil] at readIndex
  rw [a.parts_eq, List.append_assoc]
  simp only [Filter.ofParts, readBackend, readType, readIndex, hbackend, htype]
  rw [show index = f.index from hindex]

/-- Parts that have an assignment have one with the backend first, so taking each part for
the first place that it fits misses no filter. -/
theorem Assignment.exists_backendFirst {parts : List (List Char)} {f : Filter}
    (a : Assignment parts f) : ∃ f', ∃ a' : Assignment parts f', a'.BackendFirst := by
  by_cases first : a.BackendFirst
  · exact ⟨f, a, first⟩
  · simp only [BackendFirst, not_forall] at first
    obtain ⟨part, head, ⟨b, fits⟩, elsewhere⟩ := first
    obtain ⟨fb, ft, fi⟩ := f
    obtain ⟨backend, deviceType, index, parts_eq, hb, ht, hi⟩ := a
    cases hb with
    | held h =>
      rw [parts_eq] at head
      exact absurd head elsewhere
    | empty =>
      cases ht with
      | held h =>
        -- The part moves from the place of the device type to that of the backend.
        refine ⟨⟨b, none, fi⟩, ⟨some part, none, index, ?_, .held fits, .empty, hi⟩, ?_⟩
        · rw [parts_eq] at head
          cases head
          exact parts_eq
        · rintro other same -
          rw [head] at same
          exact same
      | empty =>
        cases hi with
        | empty =>
          rw [parts_eq] at head
          cases head
        | held h =>
          rw [parts_eq] at head
          cases head
          exact absurd fits (not_backendPart_of_indexPart h)

/-- Parts are read exactly when they have an assignment. -/
theorem exists_ofParts_iff {parts : List (List Char)} :
    (∃ f, Filter.ofParts parts = .ok f) ↔ ∃ f, Nonempty (Assignment parts f) := by
  constructor
  · rintro ⟨f, h⟩
    obtain ⟨a, -⟩ := exists_assignment_of_ofParts h
    exact ⟨f, ⟨a⟩⟩
  · rintro ⟨f, ⟨a⟩⟩
    obtain ⟨f', a', first⟩ := a.exists_backendFirst
    exact ⟨f', ofParts_of_assignment first⟩

/-- No filter is made of one empty part. -/
theorem ofParts_ne_ok_of_blank (f : Filter) : Filter.ofParts [[]] ≠ .ok f := by
  have refused : Filter.ofParts [[]] = .error (.unexpected []) := by decide
  rw [refused]
  exact nofun

/-- An entry is read as its trimmed parts are, blank entries included. -/
theorem read_eq_ok_iff {entry : List Char} {f : Filter} :
    Filter.read entry = .ok f ↔ Filter.ofParts (entryParts entry) = .ok f := by
  unfold Filter.read
  by_cases hb : trim entry = []
  · have parts : entryParts entry = [[]] := by simp [entryParts, hb, trim_nil]
    rw [if_pos hb, parts]
    exact ⟨nofun, fun h => absurd h (ofParts_ne_ok_of_blank f)⟩
  · rw [if_neg hb]

/-- A selector is read exactly when every entry is, with one filter for each of them. -/
theorem parse_eq_ok_iff {s : String} {selector : Selector} :
    Selector.parse s = .ok selector ↔
      ∃ filters, selector = .filtered filters ∧
        List.Forall₂ (fun entry f => Filter.ofParts (entryParts entry) = .ok f)
          (s.toList.splitOn ',') filters := by
  simp only [Selector.parse, Filter.parseAll, Filter.readAll, map_eq_ok_iff, mapError_eq_ok_iff,
    mapM_eq_ok_iff, read_eq_ok_iff]
  exact exists_congr fun filters => ⟨fun h => ⟨h.2.symm, h.1⟩, fun h => ⟨h.2, h.1.symm⟩⟩

/-- A filter string is read exactly when the trimmed parts of every entry have an
assignment, and then as the filters whose assignments have the backend first. -/
theorem parse_iff_assignments (s : String) :
    ((∃ selector, Selector.parse s = .ok selector) ↔
      ∀ entry ∈ s.toList.splitOn ',', entryParts entry ≠ [] ∧
        ∃ f, Nonempty (Assignment (entryParts entry) f)) ∧
    ∀ selector, Selector.parse s = .ok selector ↔
      ∃ filters, selector = .filtered filters ∧
        List.Forall₂ (fun entry f => ∃ a : Assignment (entryParts entry) f, a.BackendFirst)
          (s.toList.splitOn ',') filters := by
  constructor
  · have nonempty : ∀ entry, entryParts entry ≠ [] := fun entry h =>
      List.splitOn_ne_nil ':' (trim entry) (List.map_eq_nil_iff.mp h)
    calc (∃ selector, Selector.parse s = .ok selector)
        ↔ ∃ filters, List.Forall₂ (fun entry f => Filter.ofParts (entryParts entry) = .ok f)
            (s.toList.splitOn ',') filters := by
          simp only [parse_eq_ok_iff]
          exact ⟨fun ⟨_, filters, _, h⟩ => ⟨filters, h⟩, fun ⟨filters, h⟩ => ⟨_, filters, rfl, h⟩⟩
      _ ↔ ∀ entry ∈ s.toList.splitOn ',', ∃ f, Filter.ofParts (entryParts entry) = .ok f :=
          exists_forall₂_iff
      _ ↔ _ := by
          simp only [exists_ofParts_iff, ne_eq, nonempty, not_false_eq_true, true_and]
  · intro selector
    have assigned : ∀ entry f, Filter.ofParts (entryParts entry) = .ok f ↔
        ∃ a : Assignment (entryParts entry) f, a.BackendFirst := fun entry f =>
      ⟨exists_assignment_of_ofParts, fun ⟨_, first⟩ => ofParts_of_assignment first⟩
    rw [parse_eq_ok_iff]
    simp only [assigned]

end ComputeHandles
