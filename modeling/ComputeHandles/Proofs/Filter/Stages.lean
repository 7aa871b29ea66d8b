import ComputeHandles.Filter.Syntax
import ComputeHandles.Proofs.Listing

/-!
# Entries read part by part

An entry can be read from its first part to its last: a stage says which places may still be
filled, and a part goes to the first of these that it fits. Reading stops at the first part
that fits none of them. So a reading that succeeds also succeeds for fewer parts, and a part
is unexpected exactly when the parts in front of it make a filter and with it no longer do.
-/

namespace ComputeHandles.Filter

open Listing

/-- The first place of an entry that may still be filled. -/
inductive Stage where
  /-- The place of the backend. -/
  | backend
  /-- The place of the device type. -/
  | deviceType
  /-- The place of the position. -/
  | index
  /-- None. -/
  | done
  deriving DecidableEq, Repr

/-- An entry of which some parts are read. -/
structure Progress where
  /-- What may still come. -/
  stage : Stage
  /-- The filter that the parts read so far make. -/
  filter : Filter

namespace Progress

/-- Puts a part into the place of the position. -/
def fillIndex (f : Filter) (part : List Char) : Except EntryFault Progress :=
  match readIndex? part with
  | some i => .ok ⟨.done, { f with index := some i }⟩
  | none => .error (.unexpected part)

/-- Puts a part into the place of the device type, or else into the next one. -/
def fillDeviceType (f : Filter) (part : List Char) : Except EntryFault Progress :=
  match ofStarOr DeviceType.ofName? part with
  | some t => .ok ⟨.index, { f with deviceType := t }⟩
  | none => fillIndex f part

/-- Puts a part into the place of the backend, or else into one of the next. -/
def fillBackend (f : Filter) (part : List Char) : Except EntryFault Progress :=
  match ofStarOr Backend.ofName? part with
  | some b => .ok ⟨.deviceType, { f with backend := b }⟩
  | none => fillDeviceType f part

/-- Reads one more part. -/
def advance (p : Progress) (part : List Char) : Except EntryFault Progress :=
  match p.stage with
  | .backend => fillBackend p.filter part
  | .deviceType => fillDeviceType p.filter part
  | .index => fillIndex p.filter part
  | .done => .error (.unexpected part)

/-- Reads the parts that are left. -/
def finish (p : Progress) (parts : List (List Char)) : Except EntryFault Filter :=
  (parts.foldlM advance p).map Progress.filter

/-- Reading goes on after a part that finds a place, and stops at one that finds none. -/
theorem finish_cons (p : Progress) (part : List Char) (rest : List (List Char)) :
    p.finish (part :: rest) = (p.advance part).bind (·.finish rest) := by
  rw [finish, List.foldlM_cons]
  cases p.advance part <;> rfl

variable {f : Filter} {part : List Char} {e : EntryFault}

/-- A part that does not fit the place of the position is unexpected. -/
theorem eq_unexpected_of_fillIndex (h : fillIndex f part = .error e) : e = .unexpected part := by
  unfold fillIndex at h
  split at h
  · cases h
  · cases h
    rfl

/-- A part that fits neither the place of the device type nor the next is unexpected. -/
theorem eq_unexpected_of_fillDeviceType (h : fillDeviceType f part = .error e) :
    e = .unexpected part := by
  unfold fillDeviceType at h
  split at h
  · cases h
  · exact eq_unexpected_of_fillIndex h

/-- A part that fits no place is unexpected. -/
theorem eq_unexpected_of_fillBackend (h : fillBackend f part = .error e) :
    e = .unexpected part := by
  unfold fillBackend at h
  split at h
  · cases h
  · exact eq_unexpected_of_fillDeviceType h

/-- A part that is refused is unexpected. -/
theorem eq_unexpected_of_advance {p : Progress} (h : p.advance part = .error e) :
    e = .unexpected part := by
  obtain ⟨stage, f⟩ := p
  cases stage with
  | backend => exact eq_unexpected_of_fillBackend h
  | deviceType => exact eq_unexpected_of_fillDeviceType h
  | index => exact eq_unexpected_of_fillIndex h
  | done =>
    cases h
    rfl

/-- Behind the position any part is unexpected. -/
theorem finish_done (f : Filter) (parts : List (List Char)) :
    (⟨.done, f⟩ : Progress).finish parts = match parts with
      | [] => .ok f
      | part :: _ => .error (.unexpected part) := by
  cases parts <;> rfl

/-- The place of the position is filled by the next part if that fits it. -/
theorem finish_index (b : Option Backend) (t : Option DeviceType) (parts : List (List Char)) :
    (⟨.index, ⟨b, t, none⟩⟩ : Progress).finish parts =
      (⟨.done, ⟨b, t, (takePart readIndex? parts).1⟩⟩ : Progress).finish
        (takePart readIndex? parts).2 := by
  cases parts with
  | nil => rfl
  | cons part rest =>
    rw [finish_cons]
    cases read : readIndex? part <;>
      simp [advance, fillIndex, takePart, read, finish_done, Except.bind]

/-- The place of the device type is filled by the next part if that fits it. -/
theorem finish_deviceType (b : Option Backend) (parts : List (List Char)) :
    (⟨.deviceType, ⟨b, none, none⟩⟩ : Progress).finish parts =
      (⟨.index, ⟨b, (takePart (ofStarOr DeviceType.ofName?) parts).1.join, none⟩⟩ :
        Progress).finish (takePart (ofStarOr DeviceType.ofName?) parts).2 := by
  cases parts with
  | nil => rfl
  | cons part rest =>
    rw [finish_cons]
    cases read : ofStarOr DeviceType.ofName? part <;>
      simp [advance, fillDeviceType, takePart, read, finish_cons, Except.bind]

/-- The place of the backend is filled by the next part if that fits it. -/
theorem finish_backend (parts : List (List Char)) :
    (⟨.backend, .any⟩ : Progress).finish parts =
      (⟨.deviceType, ⟨(takePart (ofStarOr Backend.ofName?) parts).1.join, none, none⟩⟩ :
        Progress).finish (takePart (ofStarOr Backend.ofName?) parts).2 := by
  cases parts with
  | nil => rfl
  | cons part rest =>
    rw [finish_cons]
    cases read : ofStarOr Backend.ofName? part <;>
      simp [advance, fillBackend, takePart, read, finish_cons, Except.bind, any]

end Progress

/-- Filling the places one by one and reading the parts one by one is the same. -/
theorem ofParts_eq_finish (parts : List (List Char)) :
    Filter.ofParts parts = (⟨.backend, .any⟩ : Progress).finish parts := by
  -- Each place in turn takes the next part or leaves the parts as they are.
  rw [Progress.finish_backend, Progress.finish_deviceType, Progress.finish_index,
    Progress.finish_done]
  rfl

/-- Parts that make a filter. -/
def Readable (parts : List (List Char)) : Prop := ∃ f, Filter.ofParts parts = .ok f

variable {front rest parts : List (List Char)}

/-- Parts make a filter exactly when each of them is read. -/
theorem readable_iff_foldlM :
    Readable parts ↔ ∃ p, parts.foldlM Progress.advance ⟨.backend, .any⟩ = .ok p := by
  simp only [Readable, ofParts_eq_finish, Progress.finish, map_eq_ok_iff]
  constructor
  · rintro ⟨f, p, run, -⟩
    exact ⟨p, run⟩
  · rintro ⟨p, run⟩
    exact ⟨p.filter, p, run, rfl⟩

/-- If parts make a filter, so do fewer of them. -/
theorem Readable.of_append (h : Readable (front ++ rest)) : Readable front := by
  obtain ⟨p, run⟩ := readable_iff_foldlM.mp h
  exact readable_iff_foldlM.mpr (exists_foldlM_of_append run)

/-- One more part makes a filter exactly when it is read after the others. -/
theorem readable_concat_iff {p : Progress} {part : List Char}
    (run : front.foldlM Progress.advance ⟨.backend, .any⟩ = .ok p) :
    Readable (front ++ [part]) ↔ ∃ next, p.advance part = .ok next := by
  have after : (front ++ [part]).foldlM Progress.advance ⟨.backend, .any⟩ = p.advance part := by
    rw [List.foldlM_append, run]
    change [part].foldlM Progress.advance p = p.advance part
    rw [List.foldlM_cons]
    cases p.advance part <;> rfl
  rw [readable_iff_foldlM, after]

/-- Parts are refused exactly for the first one with which they no longer make a filter. -/
theorem ofParts_eq_error_iff {e : EntryFault} :
    Filter.ofParts parts = .error e ↔
      ∃ front part rest, parts = front ++ part :: rest ∧ Readable front ∧
        ¬ Readable (front ++ [part]) ∧ e = .unexpected part := by
  rw [ofParts_eq_finish, Progress.finish, map_eq_error_iff, foldlM_eq_error_iff]
  constructor
  · rintro ⟨front, part, rest, p, whole, run, refused⟩
    have unreadable : ¬ Readable (front ++ [part]) := by
      rw [readable_concat_iff run, refused]
      rintro ⟨next, h⟩
      cases h
    have readable : Readable front := readable_iff_foldlM.mpr ⟨p, run⟩
    exact ⟨front, part, rest, whole, readable, unreadable,
      Progress.eq_unexpected_of_advance refused⟩
  · rintro ⟨front, part, rest, whole, readable, unreadable, rfl⟩
    obtain ⟨p, run⟩ := readable_iff_foldlM.mp readable
    refine ⟨front, part, rest, p, whole, run, ?_⟩
    rw [readable_concat_iff run] at unreadable
    cases refused : p.advance part with
    | ok next => exact absurd ⟨next, refused⟩ unreadable
    | error e => rw [Progress.eq_unexpected_of_advance refused]

end ComputeHandles.Filter
