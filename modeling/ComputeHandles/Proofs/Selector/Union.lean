import ComputeHandles.Proofs.Filter.Pieces
import ComputeHandles.Proofs.Selector.Positions
import ComputeHandles.Proofs.Selector.Retained

/-!
# Filter strings as sets of filters

A filter string accepts what any of its filters accepts, so only which filters it has counts,
not how often or in what order they are written. With more filters more positions are accepted,
and the first of them does not come later. With the same filters the scores are the same, and
everything that is decided by the scores; the complaint about a list in which every device is
rejected still has the text of the selector it is about.
-/

namespace ComputeHandles

/-- A selector accepts nothing that another one rejects, and selects nothing earlier. -/
structure Selector.Within (s t : Selector) : Prop where
  /-- The other one accepts every accepted position. -/
  accepted : ∀ kinds, s.positions kinds ⊆ t.positions kinds
  /-- The other one selects a position too, the same or an earlier one. -/
  selected : ∀ kinds i, best (s.scores kinds) = some i → ∃ j ≤ i, best (t.scores kinds) = some j

/-- Selectors that decide alike about every list. -/
structure Selector.DecidesLike (s t : Selector) : Prop where
  /-- Every device has the same score. -/
  scores : ∀ kinds, s.scores kinds = t.scores kinds
  /-- The same position is best. -/
  best : ∀ kinds, best (s.scores kinds) = best (t.scores kinds)
  /-- The same devices are retained. -/
  retained : ∀ devices, s.retain devices = t.retain devices
  /-- The same device is selected, or none is found, for each selector under its own text. -/
  selected : ∀ devices,
    (∃ device, (s.selectFrom devices).result = .ok device ∧
        (t.selectFrom devices).result = .ok device) ∨
      ((s.selectFrom devices).result = .error ⟨s.text⟩ ∧
        (t.selectFrom devices).result = .error ⟨t.text⟩)

section

variable {first second : List Filter}

/-- More filters accept what fewer do. -/
theorem AcceptedAt.of_subset (sub : first ⊆ second) {kinds : List DeviceKind} {i : Nat}
    (accepted : AcceptedAt first kinds i) : AcceptedAt second kinds i := by
  obtain ⟨inside, f, mem, accepts⟩ := accepted
  exact ⟨inside, f, sub mem, accepts⟩

/-- More filters select a position that is not later. -/
theorem exists_best_le_of_subset (sub : first ⊆ second) {kinds : List DeviceKind} {i : Nat}
    (position : best ((Selector.filtered first).scores kinds) = some i) :
    ∃ j ≤ i, best ((Selector.filtered second).scores kinds) = some j := by
  have least := best_scores_filtered_eq_some_iff.mp position
  have accepted : AcceptedAt second kinds i := AcceptedAt.of_subset sub least.1
  cases position' : best ((Selector.filtered second).scores kinds) with
  | none =>
    obtain ⟨inside, f, mem, accepts⟩ := accepted
    exact absurd accepts (best_scores_filtered_eq_none_iff.mp position' f mem ⟨i, inside⟩)
  | some j =>
    have least' := best_scores_filtered_eq_some_iff.mp position'
    exact ⟨j, least'.2 accepted, rfl⟩

/-- With more filters a selector accepts more. -/
theorem within_of_subset (sub : first ⊆ second) :
    (Selector.filtered first).Within (.filtered second) where
  accepted kinds i accepted := by
    rw [Selector.mem_positions_filtered] at accepted ⊢
    exact accepted.of_subset sub
  selected kinds i position := exists_best_le_of_subset sub position

/-- The same filters accept the same. -/
theorem acceptedBySome_congr (same : ∀ f, f ∈ first ↔ f ∈ second) (kinds : List DeviceKind) :
    acceptedBySome first kinds = acceptedBySome second kinds := by
  have lengths : (acceptedBySome first kinds).length = (acceptedBySome second kinds).length := by
    rw [length_acceptedBySome, length_acceptedBySome]
  have forth : first ⊆ second := fun f => (same f).mp
  have back : second ⊆ first := fun f => (same f).mpr
  apply List.ext_getElem lengths
  intro i answered answered'
  rw [Bool.eq_iff_iff, getElem_acceptedBySome_eq_true_iff, getElem_acceptedBySome_eq_true_iff]
  exact ⟨AcceptedAt.of_subset forth, AcceptedAt.of_subset back⟩

/-- With the same filters a selector decides alike. -/
theorem decidesLike_of_same (same : ∀ f, f ∈ first ↔ f ∈ second) :
    (Selector.filtered first).DecidesLike (.filtered second) := by
  have scores : ∀ kinds,
      (Selector.filtered first).scores kinds = (Selector.filtered second).scores kinds := by
    intro kinds
    rw [Selector.scores, Selector.scores, acceptedBySome_congr same]
  refine ⟨scores, fun kinds => by rw [scores], fun devices => ?_, fun devices => ?_⟩
  · rw [Selector.retain, Selector.retain, Selector.scoreAll, Selector.scoreAll, scores]
  · have bestOf : (Selector.filtered first).bestOf devices =
        (Selector.filtered second).bestOf devices := by
      rw [Selector.bestOf, Selector.bestOf, Selector.scoreAll, Selector.scoreAll, scores]
    rw [Selector.result_selectFrom, Selector.result_selectFrom, bestOf]
    cases (Selector.filtered second).bestOf devices with
    | none => exact .inr ⟨rfl, rfl⟩
    | some device => exact .inl ⟨device, rfl, rfl⟩

end

/-- What counts of a filter string is the set of its filters. If each filter of one string is
among those of another, the other accepts every position that the one accepts, and selects one
that is not later than the one selected. If the filters are the same, however often and in what
order, the two selectors decide alike. -/
theorem parsed_filters_as_set {a b : String} {s t : Selector} (readA : Selector.parse a = .ok s)
    (readB : Selector.parse b = .ok t) :
    ∃ first second, s.filters? = some first ∧ t.filters? = some second ∧
      (first ⊆ second → s.Within t) ∧
      ((∀ f, f ∈ first ↔ f ∈ second) → s.DecidesLike t) := by
  obtain ⟨first, -, rfl⟩ := parse_eq_ok_iff_readAll.mp readA
  obtain ⟨second, -, rfl⟩ := parse_eq_ok_iff_readAll.mp readB
  exact ⟨first, second, rfl, rfl, within_of_subset, decidesLike_of_same⟩

/-- Two filters with one of them repeated in front. -/
theorem parsed_filters_as_set_repeated :
    ∃ s t, Selector.parse "gpu:1,host" = .ok s ∧ Selector.parse "host,gpu:1,host" = .ok t ∧
      s.Within t ∧ s.DecidesLike t := by
  have readA : Selector.parse "gpu:1,host" =
      .ok (.filtered [⟨none, some .gpu, some 1⟩, ⟨some .host, none, none⟩]) := by rfl
  have readB : Selector.parse "host,gpu:1,host" = .ok (.filtered
      [⟨some .host, none, none⟩, ⟨none, some .gpu, some 1⟩, ⟨some .host, none, none⟩]) := by rfl
  obtain ⟨first, second, filtersA, filtersB, within, like⟩ := parsed_filters_as_set readA readB
  cases filtersA
  cases filtersB
  refine ⟨_, _, readA, readB, within (by decide), like fun f => ?_⟩
  simp only [List.mem_cons, List.not_mem_nil, or_false]
  tauto

/-- A graphics processor or a processor, in either order: where neither is listed, selecting
fails with two different errors, for the error has the text of the selector. -/
theorem selectFrom_gpu_cpu_ne :
    Selector.parse "gpu,cpu" =
        .ok (.filtered [⟨none, some .gpu, none⟩, ⟨none, some .cpu, none⟩]) ∧
      Selector.parse "cpu,gpu" =
        .ok (.filtered [⟨none, some .cpu, none⟩, ⟨none, some .gpu, none⟩]) ∧
      (∀ f, f ∈ [(⟨none, some .gpu, none⟩ : Filter), ⟨none, some .cpu, none⟩] ↔
        f ∈ [(⟨none, some .cpu, none⟩ : Filter), ⟨none, some .gpu, none⟩]) ∧
      ((Selector.filtered [⟨none, some .gpu, none⟩, ⟨none, some .cpu, none⟩]).selectFrom
          [.host]).result ≠
        ((Selector.filtered [⟨none, some .cpu, none⟩, ⟨none, some .gpu, none⟩]).selectFrom
          [.host]).result := by
  refine ⟨by rfl, by rfl, fun f => ?_, ?_⟩
  · rw [List.mem_pair, List.mem_pair, or_comm]
  · have gpuFirst : (Selector.filtered
        [⟨none, some .gpu, none⟩, ⟨none, some .cpu, none⟩]).bestOf [.host] = none := by decide
    have cpuFirst : (Selector.filtered
        [⟨none, some .cpu, none⟩, ⟨none, some .gpu, none⟩]).bestOf [.host] = none := by decide
    rw [Selector.result_selectFrom, Selector.result_selectFrom, gpuFirst, cpuFirst]
    decide

end ComputeHandles
