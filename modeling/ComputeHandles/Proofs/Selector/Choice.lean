import Mathlib.Order.Bounds.Defs
import ComputeHandles.Proofs.Selector.Acceptance
import ComputeHandles.Proofs.Selector.Best

/-!
# What a selector chooses

The best of the scores of a selector stands at the first listed device that the selector
likes most. By preference that is the first device of the most preferred type that is
listed, by type the first of that type, and by filters the first that any of them accepts,
in whatever order the filters are written.
-/

namespace ComputeHandles

/-- The first listed position of a type. -/
def DeviceType.firstIn (type : DeviceType) (kinds : List DeviceKind) : Option Nat :=
  kinds.findIdx? (·.deviceType == type)

/-- A position is listed and some filter accepts it. -/
def AcceptedAt (filters : List Filter) (kinds : List DeviceKind) (i : Nat) : Prop :=
  ∃ inside : i < kinds.length, ∃ f ∈ filters, f.AcceptsAt kinds ⟨i, inside⟩

namespace DeviceType

variable {type : DeviceType} {kinds : List DeviceKind}

/-- A type has no first position exactly when it is not listed. -/
theorem firstIn_eq_none_iff : type.firstIn kinds = none ↔ ∀ k ∈ kinds, k.deviceType ≠ type := by
  simp [firstIn]

/-- Types that are preferred alike are the same. -/
theorem preference_inj {a b : DeviceType} (h : a.preference = b.preference) : a = b := by
  cases a <;> cases b <;> first | rfl | exact absurd h (by decide)

/-- Being preferred as a type is being of that type. -/
theorem beq_preference (a b : DeviceType) : (a.preference == b.preference) = (a == b) := by
  rw [Bool.eq_iff_iff, beq_iff_eq, beq_iff_eq]
  exact ⟨preference_inj, congrArg preference⟩

end DeviceType

/-- By type the first device of the type is best. -/
theorem best_scores_ofType (type : DeviceType) (kinds : List DeviceKind) :
    best ((Selector.ofType type).scores kinds) = type.firstIn kinds := by
  have scores : (Selector.ofType type).scores kinds =
      (kinds.map (·.deviceType == type)).map scoreOf := by
    rw [List.map_map]
    rfl
  have found : ((· == true) ∘ fun k : DeviceKind => k.deviceType == type) =
      (·.deviceType == type) := by
    funext k
    exact beq_true _
  rw [scores, best_map_scoreOf, List.findIdx?_map, found, DeviceType.firstIn]

/-- By preference the first device of a listed type is best if every other listed type is
less preferred. -/
theorem best_scores_preferred_of_listed {type : DeviceType} {kinds : List DeviceKind}
    (listed : ∃ k ∈ kinds, k.deviceType = type)
    (most : ∀ k ∈ kinds, k.deviceType = type ∨ k.deviceType.preference < type.preference) :
    best (Selector.preferred.scores kinds) = type.firstIn kinds := by
  have there : type.preference ∈ Selector.preferred.scores kinds := by
    obtain ⟨k, mem, rfl⟩ := listed
    exact List.mem_map.mpr ⟨k, mem, rfl⟩
  have bound : ∀ x ∈ Selector.preferred.scores kinds, x ≤ type.preference := by
    intro x scored
    obtain ⟨k, mem, rfl⟩ := List.mem_map.mp scored
    rcases most k mem with same | less
    · exact Int.le_of_eq (congrArg DeviceType.preference same)
    · exact Int.le_of_lt less
  have found : ((· == type.preference) ∘ fun k : DeviceKind => k.deviceType.preference) =
      (·.deviceType == type) := by
    funext k
    exact DeviceType.beq_preference k.deviceType type
  rw [best_eq_findIdx? type.preference_nonneg bound there, Selector.scores, List.findIdx?_map,
    found, DeviceType.firstIn]

/-- By preference the first device of the first listed type is best, if the types are given
in the order in which they are preferred and no other type is listed. -/
theorem best_scores_preferred {types : List DeviceType} {kinds : List DeviceKind}
    (ordered : types.Pairwise fun a b => b.preference < a.preference)
    (known : ∀ k ∈ kinds, k.deviceType ∈ types) :
    best (Selector.preferred.scores kinds) = types.findSome? (·.firstIn kinds) := by
  induction types with
  | nil =>
    have empty : kinds = [] := List.eq_nil_iff_forall_not_mem.mpr fun k mem =>
      absurd (known k mem) List.not_mem_nil
    rw [empty]
    rfl
  | cons type types ih =>
    obtain ⟨most, ordered⟩ := List.pairwise_cons.mp ordered
    by_cases listed : ∃ k ∈ kinds, k.deviceType = type
    · have less : ∀ k ∈ kinds, k.deviceType = type ∨
          k.deviceType.preference < type.preference := fun k mem =>
        (List.mem_cons.mp (known k mem)).imp_right (most k.deviceType)
      have position := best_scores_preferred_of_listed listed less
      obtain ⟨i, first⟩ := Option.ne_none_iff_exists'.mp
        (mt DeviceType.firstIn_eq_none_iff.mp (by simpa using listed))
      rw [position, List.findSome?_cons, first]
    · have unlisted : ∀ k ∈ kinds, k.deviceType ≠ type := fun k mem same =>
        listed ⟨k, mem, same⟩
      have rest : ∀ k ∈ kinds, k.deviceType ∈ types := fun k mem =>
        (List.mem_cons.mp (known k mem)).resolve_left (unlisted k mem)
      rw [ih ordered rest, List.findSome?_cons, DeviceType.firstIn_eq_none_iff.mpr unlisted]

/-- By preference nothing is best only of nothing. -/
theorem best_scores_preferred_eq_none_iff {kinds : List DeviceKind} :
    best (Selector.preferred.scores kinds) = none ↔ kinds = [] := by
  rw [best_eq_none_iff, Selector.scores, List.forall_mem_map]
  constructor
  · intro rejects
    refine List.eq_nil_iff_forall_not_mem.mpr fun k mem => ?_
    have negative := rejects k mem
    have nonneg := k.deviceType.preference_nonneg
    omega
  · rintro rfl
    exact fun k mem => absurd mem List.not_mem_nil

/-- Filters answer yes at the positions that one of them accepts. -/
theorem getElem?_acceptedBySome_eq_true_iff {filters : List Filter} {kinds : List DeviceKind}
    {i : Nat} : (acceptedBySome filters kinds)[i]? = some true ↔ AcceptedAt filters kinds i := by
  by_cases inside : i < kinds.length
  · rw [getElem?_acceptedBySome filters kinds ⟨i, inside⟩, Option.some_inj, decide_eq_true_iff]
    exact ⟨fun accepted => ⟨inside, accepted⟩, fun accepted => accepted.2⟩
  · have outside : (acceptedBySome filters kinds)[i]? = none := by
      rw [List.getElem?_eq_none_iff, length_acceptedBySome]
      omega
    rw [outside]
    exact iff_of_false nofun fun accepted => inside accepted.1

/-- The answer at a position is yes exactly when one of the filters accepts it. -/
theorem getElem_acceptedBySome_eq_true_iff {filters : List Filter} {kinds : List DeviceKind}
    {i : Nat} (h : i < (acceptedBySome filters kinds).length) :
    (acceptedBySome filters kinds)[i] = true ↔ AcceptedAt filters kinds i := by
  rw [← getElem?_acceptedBySome_eq_true_iff, List.getElem?_eq_getElem h, Option.some_inj]

/-- By filters the first position that one of them accepts is best. -/
theorem best_scores_filtered_eq_some_iff {filters : List Filter} {kinds : List DeviceKind}
    {i : Nat} : best ((Selector.filtered filters).scores kinds) = some i ↔
      IsLeast {j | AcceptedAt filters kinds j} i := by
  have answer (j : Nat) (h : j < (acceptedBySome filters kinds).length) :
      ((acceptedBySome filters kinds)[j] == true) = true ↔ AcceptedAt filters kinds j := by
    rw [beq_iff_eq, getElem_acceptedBySome_eq_true_iff h]
  rw [Selector.scores, best_map_scoreOf, List.findIdx?_eq_some_iff_getElem]
  constructor
  · rintro ⟨inside, accepted, first⟩
    refine ⟨(answer i inside).mp accepted, fun j accepted' => ?_⟩
    by_contra before
    have lt : j < i := Nat.lt_of_not_le before
    exact first j lt ((answer j (by omega)).mpr accepted')
  · rintro ⟨accepted, least⟩
    have inside : i < (acceptedBySome filters kinds).length := by
      rw [length_acceptedBySome]
      exact accepted.1
    refine ⟨inside, (answer i inside).mpr accepted, fun j before accepted' => ?_⟩
    have le : i ≤ j := least ((answer j (by omega)).mp accepted')
    omega

/-- By filters nothing is best when no filter accepts any position. -/
theorem best_scores_filtered_eq_none_iff {filters : List Filter} {kinds : List DeviceKind} :
    best ((Selector.filtered filters).scores kinds) = none ↔
      ∀ f ∈ filters, ∀ i, ¬ f.AcceptsAt kinds i := by
  rw [Selector.scores, best_map_scoreOf, List.findIdx?_eq_none_iff]
  constructor
  · intro refused f mem i accepts
    have accepted := getElem?_acceptedBySome_eq_true_iff.mpr ⟨i.isLt, f, mem, accepts⟩
    exact absurd (refused true (List.mem_of_getElem? accepted)) (by decide)
  · intro refused b mem
    obtain ⟨i, found⟩ := List.mem_iff_getElem?.mp mem
    cases b with
    | false => rfl
    | true =>
      obtain ⟨inside, f, held, accepts⟩ := getElem?_acceptedBySome_eq_true_iff.mp found
      exact absurd accepts (refused f held ⟨i, inside⟩)

/-- The best score by preference stands at the first graphics processor, without one at the
first accelerator, without one at the first processor and without one at the first host, so
there always is one unless nothing is listed. By type it stands at the first device of the
type, and by filters at the least position that any filter accepts; there is none if there
is no such device. -/
theorem best_scores (kinds : List DeviceKind) :
    (best (Selector.preferred.scores kinds) =
        [DeviceType.gpu, .accelerator, .cpu, .host].findSome? (·.firstIn kinds) ∧
      (best (Selector.preferred.scores kinds) = none ↔ kinds = [])) ∧
    (∀ type, best ((Selector.ofType type).scores kinds) = type.firstIn kinds ∧
      (type.firstIn kinds = none ↔ ∀ k ∈ kinds, k.deviceType ≠ type)) ∧
    ∀ filters,
      (∀ i, best ((Selector.filtered filters).scores kinds) = some i ↔
        IsLeast {j | AcceptedAt filters kinds j} i) ∧
      (best ((Selector.filtered filters).scores kinds) = none ↔
        ∀ f ∈ filters, ∀ i, ¬ f.AcceptsAt kinds i) := by
  have ordered : [DeviceType.gpu, .accelerator, .cpu, .host].Pairwise
      fun a b => b.preference < a.preference := by decide
  have known : ∀ k ∈ kinds, k.deviceType ∈ [DeviceType.gpu, .accelerator, .cpu, .host] := by
    intro k _
    cases k.deviceType <;> decide
  refine ⟨⟨best_scores_preferred ordered known, best_scores_preferred_eq_none_iff⟩, ?_, ?_⟩
  · intro type
    exact ⟨best_scores_ofType type kinds, DeviceType.firstIn_eq_none_iff⟩
  · intro filters
    exact ⟨fun i => best_scores_filtered_eq_some_iff, best_scores_filtered_eq_none_iff⟩

end ComputeHandles
