import ComputeHandles.Proofs.Selector.Choice
import ComputeHandles.Proofs.Selector.Retained

/-!
# Lists with more devices at the end

The score of a device does not look at the devices behind it, so more devices at the end of a
list leave the scores in front as they are. A selector by type or by filters keeps its choice
then, for all devices that it accepts score alike and the first of them wins. By preference the
choice is kept unless one of the added devices is of a type that is preferred to that of the
device chosen, and goes to the first of the most preferred type among the added ones if it is.
-/

namespace ComputeHandles

/-- The device types in the order of preference: graphics processors, then accelerators, then
processors, then the host. -/
def DeviceType.ranking : List DeviceType := [.gpu, .accelerator, .cpu, .host]

/-- A type is preferred to those that come later in the order of preference. -/
def DeviceType.PreferredTo (a b : DeviceType) : Prop := ranking.idxOf a < ranking.idxOf b

instance (a b : DeviceType) : Decidable (a.PreferredTo b) := inferInstanceAs (Decidable (_ < _))

/-- A preferred type gives the larger score. -/
theorem DeviceType.preferredTo_iff {a b : DeviceType} :
    a.PreferredTo b ↔ b.preference < a.preference := by
  cases a <;> cases b <;> decide

/-- No type of a list is preferred to the given one. -/
def DeviceType.Unsurpassed (type : DeviceType) (kinds : List DeviceKind) : Prop :=
  ∀ k ∈ kinds, ¬ k.deviceType.PreferredTo type

section

variable {filters : List Filter} {xs ys : List DeviceKind} {i : Nat}

/-- Whether a filter accepts a position does not depend on what is listed behind it. -/
theorem Filter.acceptsAt_append_iff (f : Filter) (inside : i < xs.length)
    (inside' : i < (xs ++ ys).length) :
    f.AcceptsAt (xs ++ ys) ⟨i, inside'⟩ ↔ f.AcceptsAt xs ⟨i, inside⟩ := by
  have kind : (xs ++ ys)[i] = xs[i] := List.getElem_append_left inside
  have before : f.matchesBefore (xs ++ ys) i = f.matchesBefore xs i := by
    rw [matchesBefore, matchesBefore, List.take_append_of_le_length (Nat.le_of_lt inside)]
  simp only [AcceptsAt, Fin.getElem_fin, kind, before]

/-- Filters accept the same of the devices in front. -/
theorem acceptedAt_append_iff (inside : i < xs.length) :
    AcceptedAt filters (xs ++ ys) i ↔ AcceptedAt filters xs i := by
  have inside' : i < (xs ++ ys).length := by
    rw [List.length_append]
    omega
  simp only [AcceptedAt, inside, inside', exists_true_left,
    Filter.acceptsAt_append_iff _ inside inside']

/-- Filters answer the same about the devices in front. -/
theorem take_acceptedBySome_append :
    (acceptedBySome filters (xs ++ ys)).take xs.length = acceptedBySome filters xs := by
  have lengths : ((acceptedBySome filters (xs ++ ys)).take xs.length).length =
      (acceptedBySome filters xs).length := by
    rw [List.length_take, length_acceptedBySome, length_acceptedBySome, List.length_append]
    omega
  apply List.ext_getElem lengths
  intro i answered answered'
  have inside : i < xs.length := by rwa [length_acceptedBySome] at answered'
  rw [Bool.eq_iff_iff, List.getElem_take, getElem_acceptedBySome_eq_true_iff,
    getElem_acceptedBySome_eq_true_iff, acceptedAt_append_iff inside]

end

namespace Selector

/-- More devices at the end leave the scores in front as they are. -/
theorem take_scores_append (s : Selector) (xs ys : List DeviceKind) :
    (s.scores (xs ++ ys)).take xs.length = s.scores xs := by
  cases s with
  | preferred => rw [scores, scores, ← List.map_take, List.take_left]
  | ofType type => rw [scores, scores, ← List.map_take, List.take_left]
  | filtered filters => rw [scores, scores, ← List.map_take, take_acceptedBySome_append]

/-- A selector that does not go by preference asks for a device or does not. -/
theorem exists_scores_eq_map_scoreOf {s : Selector} (asks : s ≠ .preferred)
    (kinds : List DeviceKind) : ∃ accepted : List Bool, s.scores kinds = accepted.map scoreOf := by
  cases s with
  | preferred => exact absurd rfl asks
  | ofType type => exact ⟨kinds.map (·.deviceType == type), by rw [List.map_map]; rfl⟩
  | filtered filters => exact ⟨acceptedBySome filters kinds, rfl⟩

variable {xs ys : List DeviceKind} {i : Nat}

/-- A selector that does not go by preference keeps its choice. -/
theorem best_scores_append {s : Selector} (asks : s ≠ .preferred)
    (chosen : best (s.scores xs) = some i) : best (s.scores (xs ++ ys)) = some i := by
  obtain ⟨accepted, scored⟩ := exists_scores_eq_map_scoreOf asks (xs ++ ys)
  have front : s.scores xs = (accepted.take xs.length).map scoreOf := by
    rw [← s.take_scores_append xs ys, scored, List.map_take]
  have first : (accepted.take xs.length).findIdx? (· == true) = some i := by
    rw [← best_map_scoreOf, ← front]
    exact chosen
  rw [scored, best_map_scoreOf, ← List.take_append_drop xs.length accepted, List.findIdx?_append,
    first, Option.some_or]

/-- By preference the scores of two lists follow one another. -/
theorem scores_preferred_append (xs ys : List DeviceKind) :
    Selector.preferred.scores (xs ++ ys) =
      Selector.preferred.scores xs ++ Selector.preferred.scores ys :=
  List.map_append

/-- By preference the score that leads is that of the type listed there. -/
theorem exists_leads_of_best_preferred {kinds : List DeviceKind}
    (chosen : best (Selector.preferred.scores kinds) = some i) :
    ∃ k, kinds[i]? = some k ∧
      Leads (Selector.preferred.scores kinds) (some (k.deviceType.preference, i)) := by
  obtain ⟨score, leads⟩ := best_eq_some_iff.mp chosen
  obtain _ | ⟨there, -, -, -⟩ := id leads
  rw [scores, List.getElem?_map, Option.map_eq_some_iff] at there
  obtain ⟨k, listed, own⟩ := there
  rw [← own] at leads
  exact ⟨k, listed, leads⟩

/-- By preference the choice is kept if no added type is preferred to the chosen one. -/
theorem best_preferred_append_of_unsurpassed {k : DeviceKind}
    (leads : Leads (Selector.preferred.scores xs) (some (k.deviceType.preference, i)))
    (unsurpassed : k.deviceType.Unsurpassed ys) :
    best (Selector.preferred.scores (xs ++ ys)) = some i := by
  have le : ∀ x ∈ Selector.preferred.scores ys, x ≤ k.deviceType.preference := by
    intro x scored
    obtain ⟨added, mem, same⟩ := List.mem_map.mp scored
    have notPreferred := unsurpassed added mem
    rw [DeviceType.preferredTo_iff] at notPreferred
    omega
  rw [scores_preferred_append, best_eq_some_iff]
  exact ⟨_, leads.kept le⟩

/-- By preference the choice from devices that are listed is the first one of the type that no
other listed type is preferred to. -/
theorem exists_firstIn_of_listed {kinds : List DeviceKind} (listed : kinds ≠ []) :
    ∃ (type : DeviceType) (j : Nat), type.Unsurpassed kinds ∧ type.firstIn kinds = some j ∧
      Leads (Selector.preferred.scores kinds) (some (type.preference, j)) := by
  have chosenSome := mt best_scores_preferred_eq_none_iff.mp listed
  obtain ⟨j, chosen⟩ := Option.ne_none_iff_exists'.mp chosenSome
  obtain ⟨most, there, leads⟩ := exists_leads_of_best_preferred chosen
  obtain _ | ⟨-, -, top, -⟩ := id leads
  have le : ∀ k ∈ kinds, k.deviceType.preference ≤ most.deviceType.preference := fun k mem =>
    top k.deviceType.preference (List.mem_map.mpr ⟨k, mem, rfl⟩)
  have unsurpassed : most.deviceType.Unsurpassed kinds := by
    intro k mem
    rw [DeviceType.preferredTo_iff]
    exact Int.not_lt.mpr (le k mem)
  have others : ∀ k ∈ kinds, k.deviceType = most.deviceType ∨
      k.deviceType.preference < most.deviceType.preference := fun k mem =>
    (Int.lt_or_eq_of_le (le k mem)).symm.imp_left DeviceType.preference_inj
  have first := best_scores_preferred_of_listed ⟨most, List.mem_of_getElem? there, rfl⟩ others
  exact ⟨most.deviceType, j, unsurpassed, first.symm.trans chosen, leads⟩

/-- By preference the choice goes to the first of the most preferred type among the added
devices if one of them is of a type that is preferred to the chosen one. -/
theorem exists_best_preferred_append_of_preferredTo {k added : DeviceKind}
    (leads : Leads (Selector.preferred.scores xs) (some (k.deviceType.preference, i)))
    (mem : added ∈ ys) (preferred : added.deviceType.PreferredTo k.deviceType) :
    ∃ (type : DeviceType) (j : Nat), type.Unsurpassed ys ∧ type.firstIn ys = some j ∧
      best (Selector.preferred.scores (xs ++ ys)) = some (xs.length + j) := by
  obtain ⟨type, j, unsurpassed, first, ahead⟩ :=
    exists_firstIn_of_listed (List.ne_nil_of_mem mem)
  have lt : k.deviceType.preference < added.deviceType.preference :=
    DeviceType.preferredTo_iff.mp preferred
  have le : added.deviceType.preference ≤ type.preference :=
    Int.not_lt.mp (mt DeviceType.preferredTo_iff.mpr (unsurpassed added mem))
  obtain _ | ⟨-, -, top, -⟩ := leads
  have larger : ∀ x ∈ Selector.preferred.scores xs, x < type.preference := by
    intro x scored
    have atMost := top x scored
    omega
  have position : (Selector.preferred.scores xs).length = xs.length := length_scores _ xs
  refine ⟨type, j, unsurpassed, first, ?_⟩
  rw [scores_preferred_append, best_eq_some_iff, ← position]
  exact ⟨_, ahead.taken larger⟩

end Selector

/-- More devices at the end of a list leave the scores in front as they are. A selector by type
or by filters that chooses a position still does with them. By preference the position is kept
if no added device is of a type that is preferred to that of the device there, and otherwise the
first added device of the type that none of the added ones is preferred to is chosen. -/
theorem choice_among_more_devices (xs ys : List DeviceKind) :
    (∀ s : Selector, (s.scores (xs ++ ys)).take xs.length = s.scores xs) ∧
    (∀ s : Selector, s ≠ .preferred → ∀ i, best (s.scores xs) = some i →
      best (s.scores (xs ++ ys)) = some i) ∧
    ∀ i, best (Selector.preferred.scores xs) = some i → ∃ k, xs[i]? = some k ∧
      (k.deviceType.Unsurpassed ys →
        best (Selector.preferred.scores (xs ++ ys)) = some i) ∧
      ((∃ added ∈ ys, added.deviceType.PreferredTo k.deviceType) →
        ∃ (type : DeviceType) (j : Nat), type.Unsurpassed ys ∧ type.firstIn ys = some j ∧
          best (Selector.preferred.scores (xs ++ ys)) = some (xs.length + j)) := by
  refine ⟨fun s => s.take_scores_append xs ys, ?_, ?_⟩
  · intro s asks i chosen
    exact Selector.best_scores_append asks chosen
  · intro i chosen
    obtain ⟨k, there, leads⟩ := Selector.exists_leads_of_best_preferred chosen
    refine ⟨k, there, Selector.best_preferred_append_of_unsurpassed leads, ?_⟩
    rintro ⟨added, mem, preferred⟩
    exact Selector.exists_best_preferred_append_of_preferredTo leads mem preferred

-- The accelerator that is added takes the choice from the processor in front.
example : best (Selector.preferred.scores
    ([⟨.openCl, .cpu⟩, ⟨.host, .host⟩] ++ [⟨.openCl, .cpu⟩, ⟨.openCl, .accelerator⟩])) =
    some 3 := by decide

end ComputeHandles
