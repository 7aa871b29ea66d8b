import Mathlib.Data.Nat.Nth
import ComputeHandles.Proofs.Selector.Choice

/-!
# Accepted positions and their indices

A selector accepts the positions of a list at which its score does not reject. The index of a
filter counts the devices of the kind asked for, so the indices number the positions that the
same filter accepts without an index: in the order of the list, each of them once, and with none
left over.
-/

namespace ComputeHandles

/-- The entries of the front of a list that pass a test are as many as their positions. -/
theorem Listing.countP_take_eq_count {α : Type} {p : α → Prop} [DecidablePred p] (xs : List α)
    (j : Nat) [DecidablePred fun i : Nat => ∃ x, xs[i]? = some x ∧ p x] :
    (xs.take j).countP p = Nat.count (fun i : Nat => ∃ x, xs[i]? = some x ∧ p x) j := by
  induction j with
  | zero => rfl
  | succ j ih =>
    have last : xs[j]?.toList.countP p = if ∃ x, xs[j]? = some x ∧ p x then 1 else 0 := by
      rcases Option.eq_none_or_eq_some xs[j]? with missing | ⟨x, there⟩
      · simp [missing]
      · simp [there, List.countP_singleton]
    rw [Nat.count_succ, ← ih, ← last, List.take_add_one, List.countP_append]

/-- The positions of a list at which the score of a selector does not reject. -/
def Selector.positions (s : Selector) (kinds : List DeviceKind) : Finset Nat :=
  (Finset.range (s.scores kinds).length).filter fun i => ∃ score ∈ (s.scores kinds)[i]?, 0 ≤ score

/-- The positions of a list that a single filter accepts. -/
def Filter.positions (f : Filter) (kinds : List DeviceKind) : Finset Nat :=
  (Selector.filtered [f]).positions kinds

/-- The same restrictions with an index. -/
def Filter.atIndex (f : Filter) (i : UInt64) : Filter := { f with index := some i }

/-- The accepted positions of a filter without an index are numbered by the indices that it may
have instead. -/
structure Filter.NumberedBy (f : Filter) (kinds : List DeviceKind) (position : Nat → Nat) :
    Prop where
  /-- An index below the number of accepted positions accepts just the position of that number. -/
  below : ∀ i : UInt64, i.toNat < (f.positions kinds).card →
    (f.atIndex i).positions kinds = {position i.toNat}
  /-- Any other index accepts no position. -/
  beyond : ∀ i : UInt64, (f.positions kinds).card ≤ i.toNat → (f.atIndex i).positions kinds = ∅
  /-- A larger number is that of a later position. -/
  increasing : StrictMonoOn position (Set.Iio (f.positions kinds).card)
  /-- The positions that have a number are the accepted ones. -/
  onto : position '' Set.Iio (f.positions kinds).card = f.positions kinds

/-- A position is accepted when it has a score that does not reject. -/
theorem Selector.mem_positions {s : Selector} {kinds : List DeviceKind} {j : Nat} :
    j ∈ s.positions kinds ↔ ∃ score, (s.scores kinds)[j]? = some score ∧ 0 ≤ score := by
  rw [positions, Finset.mem_filter, Finset.mem_range]
  refine and_iff_right_of_imp fun accepted => ?_
  obtain ⟨score, there, -⟩ := accepted
  exact (List.getElem?_eq_some_iff.mp there).1

/-- Filters accept the positions that one of them does. -/
theorem Selector.mem_positions_filtered {filters : List Filter} {kinds : List DeviceKind}
    {j : Nat} : j ∈ (Selector.filtered filters).positions kinds ↔ AcceptedAt filters kinds j := by
  rw [mem_positions, ← getElem?_acceptedBySome_eq_true_iff, scores, List.getElem?_map]
  cases (acceptedBySome filters kinds)[j]? with
  | none => simp
  | some accepted => simp [scoreOf_nonneg_iff]

/-- The accepted positions are as many as the scores that do not reject. -/
theorem Selector.card_positions (s : Selector) (kinds : List DeviceKind) :
    (s.positions kinds).card = (s.scores kinds).countP (0 ≤ ·) := by
  have counted : (s.scores kinds).countP (0 ≤ ·) =
      Nat.count (· ∈ s.positions kinds) (s.scores kinds).length := by
    simp only [mem_positions]
    conv_lhs => rw [← List.take_length (l := s.scores kinds)]
    exact Listing.countP_take_eq_count (s.scores kinds) (s.scores kinds).length
  have listed : (Finset.range (s.scores kinds).length).filter (· ∈ s.positions kinds) =
      s.positions kinds := by
    rw [Finset.filter_mem_eq_inter, Finset.inter_eq_right]
    exact Finset.filter_subset _ _
  rw [counted, Nat.count_eq_card_filter_range, listed]

namespace Filter

variable {f : Filter} {kinds : List DeviceKind} {j : Nat}

/-- A single filter accepts the positions that fit it. -/
theorem mem_positions :
    j ∈ f.positions kinds ↔ ∃ inside : j < kinds.length, f.AcceptsAt kinds ⟨j, inside⟩ := by
  rw [positions, Selector.mem_positions_filtered, AcceptedAt]
  simp only [List.mem_singleton, exists_eq_left]

/-- Without an index every position of a matching kind is accepted. -/
theorem mem_positions_of_unindexed (unindexed : f.index = none) :
    j ∈ f.positions kinds ↔ ∃ k, kinds[j]? = some k ∧ f.Matches k := by
  rw [mem_positions]
  simp only [AcceptsAt, unindexed, true_or, and_true, List.getElem?_eq_some_iff]
  constructor
  · intro h
    obtain ⟨inside, same⟩ := h
    exact ⟨kinds[j], ⟨inside, rfl⟩, same⟩
  · intro h
    obtain ⟨k, ⟨inside, there⟩, same⟩ := h
    exact ⟨inside, by rwa [Fin.getElem_fin, there]⟩

/-- The matches in front of a position are the positions in front of it that are accepted
without an index. -/
theorem matchesBefore_eq_count (unindexed : f.index = none) (kinds : List DeviceKind) (j : Nat) :
    f.matchesBefore kinds j = Nat.count (· ∈ f.positions kinds) j := by
  simp only [mem_positions_of_unindexed unindexed]
  exact Listing.countP_take_eq_count kinds j

/-- With an index a position is accepted when it is without one and as many accepted positions
are in front of it. -/
theorem mem_positions_atIndex (unindexed : f.index = none) {i : UInt64} :
    j ∈ (f.atIndex i).positions kinds ↔
      j ∈ f.positions kinds ∧ Nat.count (· ∈ f.positions kinds) j = i.toNat := by
  have asked : (f.atIndex i).index.map UInt64.toNat = some (f.matchesBefore kinds j) ↔
      f.matchesBefore kinds j = i.toNat := by
    rw [atIndex, Option.map_some, Option.some_inj, eq_comm]
  have counted : ∀ inside : j < kinds.length, (f.atIndex i).AcceptsAt kinds ⟨j, inside⟩ ↔
      f.AcceptsAt kinds ⟨j, inside⟩ ∧ f.matchesBefore kinds j = i.toNat := by
    intro inside
    have anywhere : f.AcceptsAt kinds ⟨j, inside⟩ ↔ f.Matches kinds[j] :=
      and_iff_left (.inl unindexed)
    have indexed : (f.atIndex i).index ≠ none := nofun
    rw [anywhere, ← asked]
    exact and_congr_right fun _ => or_iff_right indexed
  rw [mem_positions, mem_positions, ← matchesBefore_eq_count unindexed kinds j]
  simp only [counted, exists_and_right]

end Filter

section

variable {positions : Finset Nat} {n j : Nat}

/-- Of a finite set of numbers, those in front of a member are fewer than all. -/
theorem count_lt_card_of_mem (mem : j ∈ positions) :
    Nat.count (· ∈ positions) j < positions.card := by
  have finite : (Set.ofPred (· ∈ positions)).Finite := positions.finite_toSet
  have all : finite.toFinset = positions := positions.finite_toSet_toFinset
  have fewer := Nat.count_lt_card finite mem
  rwa [all] at fewer

/-- Of a finite set of numbers, exactly one member has a given number of members in front, if
that is fewer than there are. -/
theorem mem_and_count_eq_iff (below : n < positions.card) :
    j ∈ positions ∧ Nat.count (· ∈ positions) j = n ↔ j = Nat.nth (· ∈ positions) n := by
  have finite : (Set.ofPred (· ∈ positions)).Finite := positions.finite_toSet
  have all : finite.toFinset = positions := positions.finite_toSet_toFinset
  have inside : ∀ hf : (Set.ofPred (· ∈ positions)).Finite, n < hf.toFinset.card := by
    intro _
    rwa [all]
  constructor
  · intro h
    obtain ⟨mem, rank⟩ := h
    rw [← rank, Nat.nth_count mem]
  · intro same
    rw [same]
    exact ⟨Nat.nth_mem n inside, Nat.count_nth inside⟩

end

namespace Filter

variable {f : Filter}

/-- The positions that a filter accepts without an index are numbered in their order. -/
theorem numberedBy_nth (unindexed : f.index = none) (kinds : List DeviceKind) :
    f.NumberedBy kinds (Nat.nth (· ∈ f.positions kinds)) := by
  have finite : (Set.ofPred (· ∈ f.positions kinds)).Finite := (f.positions kinds).finite_toSet
  have all : finite.toFinset = f.positions kinds := (f.positions kinds).finite_toSet_toFinset
  have increasing := Nat.nth_strictMonoOn finite
  have onto := Nat.image_nth_Iio_card finite
  rw [all] at increasing onto
  refine ⟨fun i below => ?_, fun i beyond => ?_, increasing, onto⟩
  · ext j
    rw [mem_positions_atIndex unindexed, mem_and_count_eq_iff below, Finset.mem_singleton]
  · rw [Finset.eq_empty_iff_forall_notMem]
    intro j accepted
    rw [mem_positions_atIndex unindexed] at accepted
    have fewer := count_lt_card_of_mem accepted.1
    omega

/-- A list has as many accepted positions as devices at most. -/
theorem card_positions_le (f : Filter) (kinds : List DeviceKind) :
    (f.positions kinds).card ≤ kinds.length := by
  have within : f.positions kinds ⊆ Finset.range kinds.length := by
    intro j accepted
    obtain ⟨inside, -⟩ := mem_positions.mp accepted
    exact Finset.mem_range.mpr inside
  have counted := Finset.card_le_card within
  rwa [Finset.card_range] at counted

/-- A filter without an index accepts the positions of the kinds that match it, and its indices
number these: the same filter with an index accepts exactly one position if the index is below the
number of all, and none otherwise, and the positions of the indices from 0 on follow one another in
the list and are all that the filter accepts. So no accepted position has two indices, and none is
without one unless the list has more devices than there are indices. -/
theorem indices_number_positions (unindexed : f.index = none) (kinds : List DeviceKind) :
    (∀ j, j ∈ f.positions kinds ↔ ∃ k, kinds[j]? = some k ∧ f.Matches k) ∧
      (∃ position, f.NumberedBy kinds position) ∧
      (∀ i i' j, j ∈ (f.atIndex i).positions kinds → j ∈ (f.atIndex i').positions kinds → i = i') ∧
      (kinds.length ≤ UInt64.size →
        ∀ j ∈ f.positions kinds, ∃ i, j ∈ (f.atIndex i).positions kinds) := by
  refine ⟨fun _ => mem_positions_of_unindexed unindexed,
    ⟨_, numberedBy_nth unindexed kinds⟩, ?_, ?_⟩
  · intro i i' j first second
    rw [mem_positions_atIndex unindexed] at first second
    have same : i.toNat = i'.toNat := first.2.symm.trans second.2
    exact UInt64.toNat_inj.mp same
  · intro short j accepted
    have fewer := count_lt_card_of_mem accepted
    have listed := f.card_positions_le kinds
    have small : Nat.count (· ∈ f.positions kinds) j < UInt64.size := by omega
    refine ⟨UInt64.ofNat (Nat.count (· ∈ f.positions kinds) j), ?_⟩
    rw [mem_positions_atIndex unindexed, UInt64.toNat_ofNat_of_lt' small]
    exact ⟨accepted, rfl⟩

/-- Three graphics processors of two backends, with a processor in front and a host behind, are
numbered from 0 to 2, and the index 3 is that of none. -/
theorem indices_number_positions_threeGpus :
    let f : Filter := ⟨none, some .gpu, none⟩
    let kinds : List DeviceKind :=
      [⟨.openCl, .cpu⟩, ⟨.openCl, .gpu⟩, ⟨.levelZero, .gpu⟩, ⟨.openCl, .gpu⟩, ⟨.host, .host⟩]
    f.index = none ∧ f.positions kinds = {1, 2, 3} ∧
      (∃ position, f.NumberedBy kinds position ∧
        position 0 = 1 ∧ position 1 = 2 ∧ position 2 = 3) ∧
      (f.atIndex 3).positions kinds = ∅ := by
  intro f kinds
  have unindexed : f.index = none := rfl
  have accepted : f.positions kinds = {1, 2, 3} := by decide
  have three : (f.positions kinds).card = 3 := by rw [accepted]; rfl
  obtain ⟨-, ⟨position, numbered⟩, -, -⟩ := indices_number_positions unindexed kinds
  have number (i : UInt64) (below : i.toNat < 3) {j : Nat}
      (found : (f.atIndex i).positions kinds = {j}) : position i.toNat = j :=
    Finset.singleton_injective ((numbered.below i (three ▸ below)).symm.trans found)
  have first : position 0 = 1 := number 0 (by decide) (by decide)
  have second : position 1 = 2 := number 1 (by decide) (by decide)
  have last : position 2 = 3 := number 2 (by decide) (by decide)
  exact ⟨unindexed, accepted, ⟨position, numbered, first, second, last⟩,
    numbered.beyond 3 (le_of_eq three)⟩

end Filter

end ComputeHandles
