import ComputeHandles.Proofs.Selector.MoreDevices
import ComputeHandles.Proofs.Selector.Positions

/-!
# Lists restricted by a selector

A list is restricted by a selector when only the devices are kept that it does not reject. Those
that are dropped are missing in front of the kept ones, so a kept device has no more matches of a
filter in front of it than before. For a filter without an index, or with the index 0, that
changes nothing: what it accepted it still accepts. So a selector of such filters gives every
kept device its old score, keeps them all when it is asked again, and makes the same choice.
-/

namespace ComputeHandles

open Listing

/-- A selector has no filter that asks for a later device than the first of its kind. -/
def Selector.AsksFirst (s : Selector) : Prop :=
  ∀ filters ∈ s.filters?, ∀ f ∈ filters, f.index = none ∨ f.index = some 0

instance (s : Selector) : Decidable s.AsksFirst :=
  inferInstanceAs (Decidable (∀ filters ∈ s.filters?, ∀ f ∈ filters, _ ∨ _))

/-- The kinds of a list that a selector does not reject, in order. -/
def Selector.kept (s : Selector) (kinds : List DeviceKind) : List DeviceKind :=
  passing (0 ≤ ·) kinds (s.scores kinds)

/-- The number of kinds in front of a position that are kept: the place that the kind at the
position has among the kept ones. -/
def Selector.keptBefore (s : Selector) (kinds : List DeviceKind) (i : Nat) : Nat :=
  ((s.scores kinds).take i).countP (0 ≤ ·)

/-- The best of the scores that do not reject is the best of all. -/
theorem best_filter (scores : List Int) :
    best (scores.filter (0 ≤ ·)) =
      (best scores).map fun i => (scores.take i).countP (0 ≤ ·) := by
  cases found : best scores with
  | none =>
    have rejects : ∀ x ∈ scores.filter (0 ≤ ·), x < 0 := fun x mem =>
      best_eq_none_iff.mp found x (List.mem_of_mem_filter mem)
    exact best_eq_none_iff.mpr rejects
  | some i =>
    obtain ⟨score, leads⟩ := best_eq_some_iff.mp found
    obtain _ | ⟨there, accepts, top, first⟩ := leads
    obtain ⟨inside, here⟩ := List.getElem?_eq_some_iff.mp there
    have split : scores = scores.take i ++ score :: scores.drop (i + 1) := by
      rw [← here, List.getElem_cons_drop, List.take_append_drop]
    have front : ∀ x ∈ (scores.take i).filter (0 ≤ ·), x < score := by
      intro x mem
      obtain ⟨j, before, same⟩ := List.mem_take_iff_getElem.mp (List.mem_of_mem_filter mem)
      have earlier : j < i := (Nat.lt_min.mp before).1
      exact first j x earlier (by rw [← same, List.getElem?_eq_getElem])
    have behind : ∀ x ∈ (scores.drop (i + 1)).filter (0 ≤ ·), x ≤ score := fun x mem =>
      top x (List.mem_of_mem_drop (List.mem_of_mem_filter mem))
    have filtered : scores.filter (0 ≤ ·) = (scores.take i).filter (0 ≤ ·) ++
        ([score] ++ (scores.drop (i + 1)).filter (0 ≤ ·)) := by
      conv_lhs => rw [split]
      rw [List.filter_append, List.filter_cons, if_pos (decide_eq_true accepts)]
      rfl
    rw [Option.map_some, best_eq_some_iff, filtered, List.countP_eq_length_filter]
    exact ⟨score, ((Leads.alone accepts).kept behind).taken front⟩

/-- Dropping entries of a list takes no match to the front of another one. -/
theorem Filter.matchesBefore_passing_le {p : Int → Prop} [DecidablePred p] (f : Filter)
    {kinds : List DeviceKind} {scores : List Int} {i j : Nat}
    (front : (passing p kinds scores).take j = passing p (kinds.take i) (scores.take i)) :
    f.matchesBefore (passing p kinds scores) j ≤ f.matchesBefore kinds i := by
  rw [matchesBefore, front]
  exact (passing_sublist (kinds.take i) (scores.take i)).countP_le

namespace Selector

variable {s : Selector} {kinds : List DeviceKind} {filters : List Filter}

/-- A kept kind stood in the list with a score that does not reject, behind those that are kept
in front of it. -/
theorem exists_of_getElem?_kept {j : Nat} {k : DeviceKind} (there : (s.kept kinds)[j]? = some k) :
    ∃ i, kinds[i]? = some k ∧ i ∈ s.positions kinds ∧
      (s.kept kinds).take j = passing (0 ≤ ·) (kinds.take i) ((s.scores kinds).take i) := by
  obtain ⟨i, score, entry, partner, pass, front⟩ := exists_of_getElem?_passing there
  exact ⟨i, entry, mem_positions.mpr ⟨score, partner, pass⟩, front⟩

/-- What a filter accepts that asks for the first device of its kind at most, it still accepts
once the list is restricted. -/
theorem acceptsAt_kept {f : Filter} (asks : f.index = none ∨ f.index = some 0) {i j : Nat}
    {k : DeviceKind} (inside : i < kinds.length) (inside' : j < (s.kept kinds).length)
    (entry : kinds[i]? = some k) (kept : (s.kept kinds)[j]? = some k)
    (front : (s.kept kinds).take j = passing (0 ≤ ·) (kinds.take i) ((s.scores kinds).take i))
    (accepts : f.AcceptsAt kinds ⟨i, inside⟩) : f.AcceptsAt (s.kept kinds) ⟨j, inside'⟩ := by
  have old : kinds[i] = k := (List.getElem?_eq_some_iff.mp entry).2
  have new : (s.kept kinds)[j] = k := (List.getElem?_eq_some_iff.mp kept).2
  obtain ⟨kind, index⟩ := accepts
  have fits : f.Matches (s.kept kinds)[j] := by
    rw [new, ← old]
    exact kind
  have fewer : f.matchesBefore (s.kept kinds) j ≤ f.matchesBefore kinds i :=
    f.matchesBefore_passing_le front
  refine ⟨fits, ?_⟩
  rcases asks with unindexed | first
  · exact .inl unindexed
  · -- The first match of a list has none in front of it, and none comes there.
    rw [first] at index ⊢
    have none : 0 = f.matchesBefore kinds i := by simpa using index
    have still : f.matchesBefore (s.kept kinds) j = 0 := by omega
    exact .inr (congrArg some still.symm)

/-- No kept kind is rejected when it is scored among the kept ones. -/
theorem scores_kept_nonneg (asks : s.AsksFirst) (kinds : List DeviceKind) :
    ∀ score ∈ s.scores (s.kept kinds), 0 ≤ score := by
  intro score scored
  obtain ⟨j, partner⟩ := List.mem_iff_getElem?.mp scored
  obtain ⟨inside', -⟩ := List.getElem?_eq_some_iff.mp partner
  rw [length_scores] at inside'
  have kept := List.getElem?_eq_getElem inside'
  obtain ⟨i, entry, accepted, front⟩ := exists_of_getElem?_kept kept
  cases s with
  | preferred =>
    obtain ⟨k, -, own⟩ := List.mem_map.mp scored
    rw [← own]
    exact k.deviceType.preference_nonneg
  | ofType type =>
    obtain ⟨old, there, nonneg⟩ := mem_positions.mp accepted
    rw [scores, List.getElem?_map, entry, Option.map_some, Option.some_inj] at there
    rw [scores, List.getElem?_map, kept, Option.map_some, there, Option.some_inj] at partner
    rwa [← partner]
  | filtered filters =>
    obtain ⟨inside, f, mem, accepts⟩ := mem_positions_filtered.mp accepted
    have again : AcceptedAt filters ((Selector.filtered filters).kept kinds) j :=
      ⟨inside', f, mem, acceptsAt_kept (asks filters rfl f mem) inside inside' entry kept front
        accepts⟩
    obtain ⟨score', there, nonneg⟩ := mem_positions.mp (mem_positions_filtered.mpr again)
    rw [partner] at there
    cases there
    exact nonneg

/-- As many kinds are kept as have a score that does not reject. -/
theorem length_kept (s : Selector) (kinds : List DeviceKind) :
    (s.kept kinds).length = ((s.scores kinds).filter (0 ≤ ·)).length := by
  rw [kept, length_passing (s.length_scores kinds), List.countP_eq_length_filter]

/-- Scores that do not reject are alike unless they go by preference. -/
theorem eq_matched_of_nonneg (asks : s ≠ .preferred) {score : Int} (scored : score ∈ s.scores kinds)
    (nonneg : 0 ≤ score) : score = matched := by
  obtain ⟨accepted, scores⟩ := exists_scores_eq_map_scoreOf asks kinds
  rw [scores] at scored
  obtain ⟨b, -, rfl⟩ := List.mem_map.mp scored
  rw [scoreOf_nonneg_iff.mp nonneg]
  rfl

/-- By preference every kind is kept. -/
theorem kept_preferred (kinds : List DeviceKind) : Selector.preferred.kept kinds = kinds := by
  refine passing_eq_self (length_scores _ kinds) fun score scored => ?_
  obtain ⟨k, -, own⟩ := List.mem_map.mp scored
  rw [← own]
  exact k.deviceType.preference_nonneg

/-- Every kept kind has the score that it had. -/
theorem scores_kept (asks : s.AsksFirst) (kinds : List DeviceKind) :
    s.scores (s.kept kinds) = (s.scores kinds).filter (0 ≤ ·) := by
  have nonneg := scores_kept_nonneg asks kinds
  by_cases preferred : s = .preferred
  · subst preferred
    rw [kept_preferred] at nonneg ⊢
    exact (List.filter_eq_self.mpr fun score mem => decide_eq_true (nonneg score mem)).symm
  · have new : s.scores (s.kept kinds) =
        List.replicate (s.scores (s.kept kinds)).length matched := by
      refine List.eq_replicate_of_mem fun score mem => ?_
      exact eq_matched_of_nonneg preferred mem (nonneg score mem)
    have old : (s.scores kinds).filter (0 ≤ ·) =
        List.replicate ((s.scores kinds).filter (0 ≤ ·)).length matched := by
      refine List.eq_replicate_of_mem fun score mem => ?_
      obtain ⟨scored, accepted⟩ := List.mem_filter.mp mem
      exact eq_matched_of_nonneg preferred scored (of_decide_eq_true accepted)
    rw [new, old, length_scores, length_kept]

/-- Restricting twice is restricting once. -/
theorem kept_kept (asks : s.AsksFirst) (kinds : List DeviceKind) :
    s.kept (s.kept kinds) = s.kept kinds :=
  passing_eq_self (s.length_scores _) (scores_kept_nonneg asks kinds)

/-- The best of the kept kinds stands where the best of all is kept. -/
theorem best_scores_kept (asks : s.AsksFirst) (kinds : List DeviceKind) :
    best (s.scores (s.kept kinds)) = (best (s.scores kinds)).map (s.keptBefore kinds) := by
  rw [scores_kept asks, best_filter]
  rfl

/-- The best kind is kept, behind those that are kept in front of it. -/
theorem getElem?_kept_of_best {i : Nat} (position : best (s.scores kinds) = some i) :
    (s.kept kinds)[s.keptBefore kinds i]? = kinds[i]? := by
  obtain ⟨k, score, entry, partner, accepts⟩ :=
    exists_entry_of_best (s.length_scores kinds) position
  rw [entry]
  exact getElem?_passing entry partner accepts

/-- The kinds of the retained devices are those that are kept of all their kinds. -/
theorem map_kind_retain (s : Selector) (devices : List Device) :
    (s.retain devices).map Device.kind = s.kept (devices.map Device.kind) := by
  rw [retain_eq_passing, map_passing]
  rfl

/-- Retaining twice is retaining once. -/
theorem retain_retain (asks : s.AsksFirst) (devices : List Device) :
    s.retain (s.retain devices) = s.retain devices := by
  refine passing_eq_self (s.length_scoreAll _) ?_
  rw [scoreAll, map_kind_retain]
  exact scores_kept_nonneg asks _

/-- The best of the retained devices is the best of all. -/
theorem bestOf_retain (asks : s.AsksFirst) (devices : List Device) :
    s.bestOf (s.retain devices) = s.bestOf devices := by
  have moved : best (s.scoreAll (s.retain devices)) =
      (best (s.scoreAll devices)).map (s.retainedBefore devices) := by
    rw [scoreAll, map_kind_retain, best_scores_kept asks]
    rfl
  rw [bestOf, bestOf, moved]
  cases position : best (s.scoreAll devices) with
  | none => rfl
  | some i =>
    obtain ⟨device, -, there, -⟩ := exists_entry_of_best (s.length_scoreAll devices) position
    rw [Option.map_some, Option.bind_some, Option.bind_some, there]
    exact getElem?_retain_of_best position there

end Selector

/-- A selector without a filter that asks for a later device than the first of its kind is stable
on the kinds that it keeps: it rejects none of them, so it keeps them all, and its choice among
them is the kind that it chooses from the full list, at the place to which that one has moved, or
there is none in either list. Of devices those are retained whose kinds are kept, and they are
retained again and selected in the same way. -/
theorem restriction_stable {s : Selector} (asks : s.AsksFirst) (kinds : List DeviceKind) :
    (∀ score ∈ s.scores (s.kept kinds), 0 ≤ score) ∧
    s.kept (s.kept kinds) = s.kept kinds ∧
    best (s.scores (s.kept kinds)) = (best (s.scores kinds)).map (s.keptBefore kinds) ∧
    (∀ i, best (s.scores kinds) = some i →
      (s.kept kinds)[s.keptBefore kinds i]? = kinds[i]?) ∧
    ∀ devices, (s.retain devices).map Device.kind = s.kept (devices.map Device.kind) ∧
      s.retain (s.retain devices) = s.retain devices ∧
      (s.selectFrom (s.retain devices)).result = (s.selectFrom devices).result := by
  refine ⟨Selector.scores_kept_nonneg asks kinds, Selector.kept_kept asks kinds,
    Selector.best_scores_kept asks kinds, fun i => Selector.getElem?_kept_of_best, ?_⟩
  intro devices
  refine ⟨s.map_kind_retain devices, Selector.retain_retain asks devices, ?_⟩
  rw [Selector.result_selectFrom, Selector.result_selectFrom, Selector.bestOf_retain asks]

/-- The first processor of a backend, the first graphics processor of any, and every host. The
choice moves to the front, for the accelerator in front of it is dropped. -/
theorem restriction_stable_firstOfEach :
    let s := Selector.filtered [⟨none, some .gpu, some 0⟩, ⟨some .openCl, some .cpu, some 0⟩,
      ⟨some .host, none, none⟩]
    let kinds : List DeviceKind := [⟨.cuda, .accelerator⟩, ⟨.openCl, .cpu⟩, ⟨.openCl, .cpu⟩,
      ⟨.levelZero, .gpu⟩, ⟨.openCl, .gpu⟩, ⟨.host, .host⟩]
    s.AsksFirst ∧ s.kept kinds = [⟨.openCl, .cpu⟩, ⟨.levelZero, .gpu⟩, ⟨.host, .host⟩] ∧
      s.kept (s.kept kinds) = s.kept kinds ∧ best (s.scores kinds) = some 1 ∧
      best (s.scores (s.kept kinds)) = some 0 := by
  intro s kinds
  have asks : s.AsksFirst := by decide
  have kept : s.kept kinds = [⟨.openCl, .cpu⟩, ⟨.levelZero, .gpu⟩, ⟨.host, .host⟩] := by decide
  have chosen : best (s.scores kinds) = some 1 := by decide
  obtain ⟨-, again, moved, -, -⟩ := restriction_stable asks kinds
  rw [chosen] at moved
  exact ⟨asks, kept, again, chosen, moved⟩

-- Of two graphics processors the second is kept, and is the second no longer.
example :
    let s := Selector.filtered [⟨none, some .gpu, some 1⟩]
    s.kept (s.kept [⟨.openCl, .gpu⟩, ⟨.levelZero, .gpu⟩]) = [] ∧
      s.kept [⟨.openCl, .gpu⟩, ⟨.levelZero, .gpu⟩] ≠ [] := by decide

end ComputeHandles
