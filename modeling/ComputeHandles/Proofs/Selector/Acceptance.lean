import ComputeHandles.Selector.Score

/-!
# Positions that filters accept

A filter without a position accepts every listed device whose kind it matches, and one
with a position the device before which it matches exactly so many others. A list of
filters accepts what any of them accepts, so scoring comes down to counting the matches
in front of a position, filter by filter.
-/

namespace ComputeHandles

/-- The backend and the device type of a kind are those asked for, if any are. -/
def Filter.Matches (f : Filter) (k : DeviceKind) : Prop :=
  (f.backend = none ∨ f.backend = some k.backend) ∧
    (f.deviceType = none ∨ f.deviceType = some k.deviceType)

instance (f : Filter) (k : DeviceKind) : Decidable (f.Matches k) :=
  inferInstanceAs (Decidable (_ ∧ _))

/-- The number of matches in front of a position. -/
def Filter.matchesBefore (f : Filter) (kinds : List DeviceKind) (i : Nat) : Nat :=
  (kinds.take i).countP fun k => f.Matches k

/-- A position is accepted when its kind matches and the position asked for, if any, is
the number of matches in front of it. -/
def Filter.AcceptsAt (f : Filter) (kinds : List DeviceKind) (i : Fin kinds.length) : Prop :=
  f.Matches kinds[i] ∧
    (f.index = none ∨ f.index.map UInt64.toNat = some (f.matchesBefore kinds i))

instance (f : Filter) (kinds : List DeviceKind) (i : Fin kinds.length) :
    Decidable (f.AcceptsAt kinds i) :=
  inferInstanceAs (Decidable (_ ∧ _))

/-- A restriction lets a value through when it is absent or names that value. -/
theorem all_beq_eq_true_iff {α : Type} [BEq α] [LawfulBEq α] {restriction : Option α} {a : α} :
    restriction.all (· == a) = true ↔ restriction = none ∨ restriction = some a := by
  cases restriction <;> simp

/-- Fitting a filter is matching it. -/
theorem Filter.fits_eq_decide (f : Filter) (k : DeviceKind) : f.fits k = decide (f.Matches k) := by
  apply Bool.eq_iff_iff.mpr
  rw [decide_eq_true_iff, Filter.fits, Bool.and_eq_true, all_beq_eq_true_iff, all_beq_eq_true_iff]
  exact Iff.rfl

/-- One filter's answer at a position, where `before` fitting devices were listed ahead. -/
theorem Filter.getElem?_acceptsFrom (f : Filter) (before : Nat) (kinds : List DeviceKind)
    (i : Nat) :
    (f.acceptsFrom before kinds)[i]? =
      kinds[i]?.map fun k => f.fits k && f.counts (before + (kinds.take i).countP f.fits) := by
  induction kinds generalizing before i with
  | nil => rfl
  | cons k rest ih =>
    cases i with
    | zero => cases hf : f.fits k <;> simp [Filter.acceptsFrom, hf]
    | succ i =>
      cases hf : f.fits k with
      | false => simp [Filter.acceptsFrom, hf, ih]
      | true => simp [Filter.acceptsFrom, hf, ih, Nat.add_assoc, Nat.add_comm 1]

/-- A filter's answer at a position is whether it accepts the position. -/
theorem Filter.getElem?_accepts (f : Filter) (kinds : List DeviceKind) (i : Fin kinds.length) :
    (f.accepts kinds)[i.val]? = some (decide (f.AcceptsAt kinds i)) := by
  have counted : (kinds.take i).countP f.fits = f.matchesBefore kinds i :=
    List.countP_congr fun k _ => by rw [f.fits_eq_decide]
  have index : f.counts (f.matchesBefore kinds i) = true ↔
      f.index = none ∨ f.index.map UInt64.toNat = some (f.matchesBefore kinds i) := by
    cases hi : f.index <;> simp [Filter.counts, hi]
  rw [Filter.accepts, f.getElem?_acceptsFrom, Nat.zero_add, counted]
  rw [List.getElem?_eq_getElem i.isLt, Option.map_some, f.fits_eq_decide]
  congr 1
  apply Bool.eq_iff_iff.mpr
  rw [Bool.and_eq_true, decide_eq_true_iff, decide_eq_true_iff, index]
  exact Iff.rfl

/-- One more filter adds its answer at every position. -/
theorem getElem?_zipWith_accepts (sofar : List Bool) (f : Filter) (kinds : List DeviceKind)
    (i : Fin kinds.length) :
    (sofar.zipWith (· || ·) (f.accepts kinds))[i.val]? =
      sofar[i.val]?.map (· || decide (f.AcceptsAt kinds i)) := by
  rw [List.getElem?_zipWith, f.getElem?_accepts]
  cases sofar[i.val]? <;> rfl

/-- After several filters a position is accepted when it was before or when one of them
accepts it. -/
theorem getElem?_foldl_accepts (filters : List Filter) (sofar : List Bool)
    (kinds : List DeviceKind) (i : Fin kinds.length) :
    (filters.foldl (fun sofar f => sofar.zipWith (· || ·) (f.accepts kinds)) sofar)[i.val]? =
      sofar[i.val]?.map (· || decide (∃ f ∈ filters, f.AcceptsAt kinds i)) := by
  induction filters generalizing sofar with
  | nil => simp
  | cons f rest ih =>
    rw [List.foldl_cons, ih, getElem?_zipWith_accepts]
    cases sofar[i.val]? with
    | none => rfl
    | some accepted => simp [List.mem_cons, exists_eq_or_imp, Bool.or_assoc]

/-- Filters answer for as many devices as were answered for before them. -/
theorem length_foldl_accepts (filters : List Filter) {sofar : List Bool}
    {kinds : List DeviceKind} (h : sofar.length = kinds.length) :
    (filters.foldl (fun sofar f => sofar.zipWith (· || ·) (f.accepts kinds)) sofar).length =
      kinds.length := by
  induction filters generalizing sofar with
  | nil => exact h
  | cons f rest ih =>
    apply ih
    rw [List.length_zipWith, h, Filter.accepts, f.length_acceptsFrom, Nat.min_self]

/-- Filters answer for each listed device. -/
theorem length_acceptedBySome (filters : List Filter) (kinds : List DeviceKind) :
    (acceptedBySome filters kinds).length = kinds.length :=
  length_foldl_accepts filters (List.length_map _)

/-- A list of filters accepts what one of them accepts. -/
theorem getElem?_acceptedBySome (filters : List Filter) (kinds : List DeviceKind)
    (i : Fin kinds.length) :
    (acceptedBySome filters kinds)[i.val]? =
      some (decide (∃ f ∈ filters, f.AcceptsAt kinds i)) := by
  rw [acceptedBySome, getElem?_foldl_accepts]
  simp

/-- A filter selector gives every listed device a score: 1000 where one of its filters
accepts the position of the device, and -1 everywhere else. -/
theorem scores_filtered (filters : List Filter) (kinds : List DeviceKind) :
    ((Selector.filtered filters).scores kinds).length = kinds.length ∧
      ∀ i : Fin kinds.length, ((Selector.filtered filters).scores kinds)[i.val]? =
        some (if ∃ f ∈ filters, f.AcceptsAt kinds i then 1000 else -1) := by
  constructor
  · rw [Selector.scores, List.length_map, length_acceptedBySome]
  · intro i
    rw [Selector.scores, List.getElem?_map, getElem?_acceptedBySome, Option.map_some]
    by_cases h : ∃ f ∈ filters, f.AcceptsAt kinds i
    · simp [h, scoreOf, matched]
    · simp [h, scoreOf, rejected]

end ComputeHandles
