import ComputeHandles.Device.Enumerate
import ComputeHandles.Proofs.Filter.Pieces
import ComputeHandles.Proofs.Selector.Choice
import ComputeHandles.Proofs.Selector.Retained
import ComputeHandles.Proofs.Text.Decoded

/-!
# Devices under the environment

The value of the environment variable is ignored unless it is the encoding of a text that is a
filter string, and a warning says so if it is a text that is none. The filters of a filter
string are put to the host as the only device, so the position that a filter asks for has to be
the first one. What is listed is the host or nothing.
-/

namespace ComputeHandles

open Text Listing

/-- A filter accepts the host if that is the only device. -/
def Filter.AcceptsLoneHost (f : Filter) : Prop :=
  (f.backend = none ∨ f.backend = some .host) ∧
    (f.deviceType = none ∨ f.deviceType = some .host) ∧ (f.index = none ∨ f.index = some 0)

/-- The environment holds the encoding of a filter string. -/
def HoldsFilters (value : Option (List UInt8)) (filters : List Filter) : Prop :=
  ∃ text : String, value = some (utf8Encode text.toList) ∧
    Selector.parse text = .ok (.filtered filters)

/-- The environment holds the encoding of a text that is no filter string. -/
def HoldsMalformed (value : Option (List UInt8)) (e : FilterError) : Prop :=
  ∃ text : String, value = some (utf8Encode text.toList) ∧ Selector.parse text = .error e

/-- The text of an environment value is the one that it encodes. -/
theorem environmentText?_eq_some_iff {value : Option (List UInt8)} {text : String} :
    environmentText? value = some text ↔ value = some (utf8Encode text.toList) := by
  cases value with
  | none => exact iff_of_false nofun nofun
  | some bytes =>
    have decoded : environmentText? (some bytes) = some text ↔
        utf8Decode bytes = .ok text.toList := by
      rw [environmentText?, Option.bind_some]
      cases utf8Decode bytes with
      | error e => exact iff_of_false nofun nofun
      | ok cs =>
        simp only [Except.map, Except.toOption, Option.some_inj, Except.ok.injEq]
        exact ⟨fun h => by rw [← h, String.toList_ofList], fun h => by rw [h, String.ofList_toList]⟩
    rw [decoded, utf8Decode_eq_ok_iff, Option.some_inj, eq_comm]

/-- The only position of the host alone is accepted by the filters that ask for no other kind
and no later position. -/
theorem Filter.acceptsAt_host_iff {f : Filter} (i : Fin [Device.host.kind].length) :
    f.AcceptsAt [Device.host.kind] i ↔ f.AcceptsLoneHost := by
  obtain ⟨i, inside⟩ := i
  obtain rfl : i = 0 := Nat.lt_one_iff.mp inside
  have first : f.index.map UInt64.toNat = some 0 ↔ f.index = some 0 := by
    cases f.index with
    | none => exact iff_of_false nofun nofun
    | some i => rw [Option.map_some, Option.some_inj, Option.some_inj, ← UInt64.toNat_inj]; rfl
  change (_ ∧ _) ∧ (_ ∨ f.index.map UInt64.toNat = some 0) ↔ _
  rw [first, and_assoc]
  rfl

/-- Filters retain nothing of a list when none of them accepts a position. -/
theorem retain_filtered_eq_nil_iff {filters : List Filter} {devices : List Device} :
    (Selector.filtered filters).retain devices = [] ↔
      ∀ f ∈ filters, ∀ i, ¬ f.AcceptsAt (devices.map Device.kind) i := by
  rw [← best_scores_filtered_eq_none_iff, ← not_iff_not, ← ne_eq, ← ne_eq,
    Selector.retain_ne_nil_iff, best_ne_none_iff]
  rfl

/-- The host alone is retained exactly when some filter accepts it. -/
theorem retain_found_eq_nil_iff {filters : List Filter} :
    (Selector.filtered filters).retain Device.found = [] ↔
      ∀ f ∈ filters, ¬ f.AcceptsLoneHost := by
  rw [retain_filtered_eq_nil_iff]
  refine forall_congr' fun f => imp_congr_right fun _ => ?_
  constructor
  · intro refused accepts
    exact refused ⟨0, Nat.zero_lt_one⟩ ((Filter.acceptsAt_host_iff _).mpr accepts)
  · intro refused i accepts
    exact refused ((Filter.acceptsAt_host_iff i).mp accepts)

/-- Filters in the environment restrict what is found. -/
theorem HoldsFilters.restricted_eq {value : Option (List UInt8)} {filters : List Filter}
    (h : HoldsFilters value filters) : Enumeration.restricted (environmentText? value) =
      ⟨(Selector.filtered filters).retain Device.found, []⟩ := by
  obtain ⟨text, holds, read⟩ := h
  rw [environmentText?_eq_some_iff.mpr holds, Enumeration.restricted, read]

/-- A text in the environment that is no filter string is ignored with a warning. -/
theorem HoldsMalformed.restricted_eq {value : Option (List UInt8)} {e : FilterError}
    (h : HoldsMalformed value e) : Enumeration.restricted (environmentText? value) =
      ⟨Device.found, [⟨.warn, "Ignoring SYCL_DEVICE_FILTER: " ++ e.message⟩]⟩ := by
  obtain ⟨text, holds, refused⟩ := h
  rw [environmentText?_eq_some_iff.mpr holds, Enumeration.restricted, refused]
  rfl

/-- The environment restricts, is ignored with a warning, or says nothing. -/
theorem restricted_cases (value : Option (List UInt8)) :
    (∃ filters, HoldsFilters value filters ∧ Enumeration.restricted (environmentText? value) =
        ⟨(Selector.filtered filters).retain Device.found, []⟩) ∨
      (∃ e, HoldsMalformed value e ∧ Enumeration.restricted (environmentText? value) =
        ⟨Device.found, [⟨.warn, "Ignoring SYCL_DEVICE_FILTER: " ++ e.message⟩]⟩) ∨
      Enumeration.restricted (environmentText? value) = ⟨Device.found, []⟩ := by
  cases holds : environmentText? value with
  | none => exact .inr (.inr rfl)
  | some text =>
    rw [← holds]
    rw [environmentText?_eq_some_iff] at holds
    cases read : Selector.parse text with
    | error e =>
      have malformed : HoldsMalformed value e := ⟨text, holds, read⟩
      exact .inr (.inl ⟨e, malformed, malformed.restricted_eq⟩)
    | ok selector =>
      obtain ⟨filters, -, rfl⟩ := parse_eq_ok_iff_readAll.mp read
      have filtered : HoldsFilters value filters := ⟨text, holds, read⟩
      exact .inl ⟨filters, filtered, filtered.restricted_eq⟩

/-- What is listed was found, in the same order. -/
theorem Device.enumerate_sublist (value : Option (List UInt8)) :
    (Device.enumerate value).devices.Sublist Device.found := by
  change (Enumeration.restricted (environmentText? value)).devices.Sublist Device.found
  obtain ⟨filters, -, restricted⟩ | ⟨e, -, ignored⟩ | unrestricted := restricted_cases value
  · rw [restricted]
    exact Selector.retain_sublist _ Device.found
  · rw [ignored]
  · rw [unrestricted]

/-- Each device is listed once. -/
theorem Device.nodup_enumerate (value : Option (List UInt8)) :
    (Device.enumerate value).devices.Nodup :=
  (Device.enumerate_sublist value).nodup (by decide)

/-- Nothing is listed exactly when the environment holds filters none of which accepts the
host. -/
theorem Device.enumerate_eq_nil_iff {value : Option (List UInt8)} :
    (Device.enumerate value).devices = [] ↔
      ∃ filters, HoldsFilters value filters ∧ ∀ f ∈ filters, ¬ f.AcceptsLoneHost := by
  change (Enumeration.restricted (environmentText? value)).devices = [] ↔ _
  constructor
  · intro empty
    obtain ⟨filters, holds, restricted⟩ | ⟨e, -, ignored⟩ | unrestricted := restricted_cases value
    · rw [restricted] at empty
      exact ⟨filters, holds, retain_found_eq_nil_iff.mp empty⟩
    · rw [ignored] at empty
      cases empty
    · rw [unrestricted] at empty
      cases empty
  · rintro ⟨filters, holds, refuse⟩
    rw [holds.restricted_eq]
    exact retain_found_eq_nil_iff.mpr refuse

/-- Nothing is listed when the environment holds a filter string none of whose filters accepts
the host as the only device, and the host alone is listed under any other value, be it malformed
or no text at all. A warning with the message of the error comes first when the environment holds
a text that is no filter string, and the last record is always the one of the listed devices. -/
theorem enumerate_under_environment (value : Option (List UInt8)) :
    ((Device.enumerate value).devices = [] ↔
        ∃ filters, HoldsFilters value filters ∧ ∀ f ∈ filters, ¬ f.AcceptsLoneHost) ∧
      ((Device.enumerate value).devices ≠ [] → (Device.enumerate value).devices = [.host]) ∧
      ∃ warned, (Device.enumerate value).log = warned ++
          [⟨.debug,
            "devices: " ++ listOutline ((Device.enumerate value).devices.map Device.outline)⟩] ∧
        (∀ e, HoldsMalformed value e →
          warned = [⟨.warn, "Ignoring SYCL_DEVICE_FILTER: " ++ e.message⟩]) ∧
        ((∀ e, ¬ HoldsMalformed value e) → warned = []) := by
  have found : (Device.enumerate value).devices = [] ∨
      (Device.enumerate value).devices = [.host] :=
    List.sublist_singleton.mp (Device.enumerate_sublist value)
  refine ⟨Device.enumerate_eq_nil_iff, found.resolve_left,
    (Enumeration.restricted (environmentText? value)).log, rfl, ?_, ?_⟩
  · intro e malformed
    rw [malformed.restricted_eq]
  · intro noMalformed
    obtain ⟨filters, -, restricted⟩ | ⟨e, malformed, -⟩ | unrestricted := restricted_cases value
    · rw [restricted]
    · exact absurd malformed (noMalformed e)
    · rw [unrestricted]

example : (Device.enumerate (some (utf8Encode "host:1".toList))).devices = [] := by rfl

end ComputeHandles
