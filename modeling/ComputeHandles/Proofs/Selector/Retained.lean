import ComputeHandles.Proofs.Listing
import ComputeHandles.Proofs.Selector.Acceptance
import ComputeHandles.Proofs.Selector.Best
import ComputeHandles.Selector.Select

/-!
# Devices that are retained

A device is retained when its score does not reject it, and the retained devices keep their
order. So the number of scores in front of a device that do not reject is the place of the
device among the retained ones. The best device is one of them, and there is one exactly when
any is retained. In a list that names each device once the score of a device is the score of
its position.
-/

namespace ComputeHandles

namespace Listing

variable {α β : Type} {p : β → Prop} [DecidablePred p]

/-- The entries of a list whose partners in another list pass a test. -/
def passing (p : β → Prop) [DecidablePred p] (xs : List α) (ys : List β) : List α :=
  (xs.zip ys).filterMap fun (x, y) => if p y then some x else none

/-- The first entry stays if its partner passes. -/
theorem passing_cons (x : α) (xs : List α) (y : β) (ys : List β) :
    passing p (x :: xs) (y :: ys) = if p y then x :: passing p xs ys else passing p xs ys := by
  by_cases h : p y <;> simp [passing, h]

/-- The entries that stay keep their order. -/
theorem passing_sublist (xs : List α) (ys : List β) : (passing p xs ys).Sublist xs := by
  induction xs generalizing ys with
  | nil => exact List.Sublist.refl []
  | cons x xs ih =>
    cases ys with
    | nil => exact List.nil_sublist _
    | cons y ys =>
      rw [passing_cons]
      split
      · exact (ih ys).cons_cons x
      · exact (ih ys).cons x

/-- An entry that stays has as many in front of it as passed before. -/
theorem getElem?_passing {xs : List α} {ys : List β} {i : Nat} {x : α} {y : β}
    (entry : xs[i]? = some x) (partner : ys[i]? = some y) (pass : p y) :
    (passing p xs ys)[(ys.take i).countP p]? = some x := by
  induction xs generalizing ys i with
  | nil => cases entry
  | cons x' xs ih =>
    cases ys with
    | nil => cases partner
    | cons y' ys =>
      rw [passing_cons]
      cases i with
      | zero =>
        cases entry
        cases partner
        simp [pass]
      | succ i =>
        have later : (passing p xs ys)[(ys.take i).countP p]? = some x := ih entry partner
        by_cases h : p y'
        · simpa [h] using later
        · simpa [h] using later

/-- No entry stays exactly when no partner passes. -/
theorem passing_eq_nil_iff {xs : List α} {ys : List β} (same : ys.length = xs.length) :
    passing p xs ys = [] ↔ ∀ y ∈ ys, ¬ p y := by
  induction xs generalizing ys with
  | nil =>
    rw [List.length_nil, List.length_eq_zero_iff] at same
    simp [same, passing]
  | cons x xs ih =>
    cases ys with
    | nil => cases same
    | cons y ys =>
      rw [passing_cons, List.forall_mem_cons, ← ih (Nat.succ.inj same)]
      by_cases h : p y <;> simp [h]

/-- As many entries stay as partners pass. -/
theorem length_passing {xs : List α} {ys : List β} (same : ys.length = xs.length) :
    (passing p xs ys).length = ys.countP p := by
  induction xs generalizing ys with
  | nil =>
    have none : ys = [] := List.length_eq_zero_iff.mp same
    subst none
    rfl
  | cons x xs ih =>
    cases ys with
    | nil => cases same
    | cons y ys =>
      have others : (passing p xs ys).length = ys.countP p := ih (Nat.succ.inj same)
      rw [passing_cons, List.countP_cons, ← others]
      by_cases h : p y <;> simp [h]

/-- All entries stay if every partner passes. -/
theorem passing_eq_self {xs : List α} {ys : List β} (same : ys.length = xs.length)
    (all : ∀ y ∈ ys, p y) : passing p xs ys = xs := by
  have every : ys.countP p = ys.length := by
    rw [List.countP_eq_length]
    exact fun y mem => decide_eq_true (all y mem)
  have length : (passing p xs ys).length = xs.length := by
    rw [length_passing same, every, same]
  exact (passing_sublist xs ys).eq_of_length length

/-- Entries stay by their partners, whatever is made of the entries. -/
theorem map_passing {γ : Type} (f : α → γ) (xs : List α) (ys : List β) :
    (passing p xs ys).map f = passing p (xs.map f) ys := by
  induction xs generalizing ys with
  | nil => rfl
  | cons x xs ih =>
    cases ys with
    | nil => rfl
    | cons y ys =>
      rw [List.map_cons, passing_cons, passing_cons, ← ih]
      split <;> rfl

/-- An entry that stays was listed beside a partner that passes, and in front of it stay the
entries that stood in front of it and whose partners pass. -/
theorem exists_of_getElem?_passing {xs : List α} {ys : List β} {j : Nat} {x : α}
    (stays : (passing p xs ys)[j]? = some x) :
    ∃ i y, xs[i]? = some x ∧ ys[i]? = some y ∧ p y ∧
      (passing p xs ys).take j = passing p (xs.take i) (ys.take i) := by
  induction xs generalizing ys j with
  | nil => cases stays
  | cons x' xs ih =>
    cases ys with
    | nil => cases stays
    | cons y' ys =>
      rw [passing_cons] at stays ⊢
      by_cases h : p y'
      · rw [if_pos h] at stays ⊢
        cases j with
        | zero =>
          have first : x' = x := Option.some.inj stays
          exact ⟨0, y', congrArg some first, rfl, h, rfl⟩
        | succ j =>
          obtain ⟨i, y, entry, partner, pass, front⟩ := ih stays
          refine ⟨i + 1, y, entry, partner, pass, ?_⟩
          rw [List.take_succ_cons, List.take_succ_cons, List.take_succ_cons, passing_cons,
            if_pos h, front]
      · rw [if_neg h] at stays ⊢
        obtain ⟨i, y, entry, partner, pass, front⟩ := ih stays
        refine ⟨i + 1, y, entry, partner, pass, ?_⟩
        rw [List.take_succ_cons, List.take_succ_cons, passing_cons, if_neg h, front]

end Listing

open Listing

/-- The best of the scores of some entries is that of an entry, and does not reject it. -/
theorem exists_entry_of_best {α : Type} {xs : List α} {scores : List Int} {i : Nat}
    (same : scores.length = xs.length) (position : best scores = some i) :
    ∃ x score, xs[i]? = some x ∧ scores[i]? = some score ∧ 0 ≤ score := by
  obtain ⟨score, leads⟩ := best_eq_some_iff.mp position
  obtain _ | ⟨partner, accepts, -, -⟩ := leads
  have inside : i < xs.length := by
    rw [← same]
    exact (List.getElem?_eq_some_iff.mp partner).1
  exact ⟨xs[i], score, List.getElem?_eq_getElem inside, partner, accepts⟩

/-- There is a best score exactly when some score does not reject. -/
theorem best_ne_none_iff {scores : List Int} : best scores ≠ none ↔ ∃ x ∈ scores, 0 ≤ x := by
  rw [ne_eq, best_eq_none_iff]
  simp

namespace Selector

variable {s : Selector} {devices : List Device} {device : Device}

/-- Every device gets a score. -/
theorem length_scores (s : Selector) (kinds : List DeviceKind) :
    (s.scores kinds).length = kinds.length := by
  cases s with
  | preferred | ofType type => exact List.length_map _
  | filtered filters => rw [scores, List.length_map, length_acceptedBySome]

/-- Every device of a list gets a score. -/
theorem length_scoreAll (s : Selector) (devices : List Device) :
    (s.scoreAll devices).length = devices.length := by
  rw [scoreAll, length_scores, List.length_map]

/-- The retained devices are those whose scores do not reject. -/
theorem retain_eq_passing (s : Selector) (devices : List Device) :
    s.retain devices = passing (0 ≤ ·) devices (s.scoreAll devices) := rfl

/-- The retained devices keep their order. -/
theorem retain_sublist (s : Selector) (devices : List Device) :
    (s.retain devices).Sublist devices := by
  rw [retain_eq_passing]
  exact passing_sublist devices _

/-- Some device is retained exactly when some score does not reject. -/
theorem retain_ne_nil_iff :
    s.retain devices ≠ [] ↔ ∃ score ∈ s.scoreAll devices, 0 ≤ score := by
  rw [retain_eq_passing, ne_eq, passing_eq_nil_iff (s.length_scoreAll devices)]
  simp

/-- The number of retained devices in front of a position. -/
def retainedBefore (s : Selector) (devices : List Device) (i : Nat) : Nat :=
  ((s.scoreAll devices).take i).countP (0 ≤ ·)

/-- The best device is that of the best score. -/
theorem bestOf_eq_some_iff :
    s.bestOf devices = some device ↔
      ∃ i, best (s.scoreAll devices) = some i ∧ devices[i]? = some device :=
  Option.bind_eq_some_iff

/-- There is a best device exactly when some score does not reject. -/
theorem exists_bestOf_iff :
    (∃ device, s.bestOf devices = some device) ↔ ∃ score ∈ s.scoreAll devices, 0 ≤ score := by
  rw [← best_ne_none_iff, Option.ne_none_iff_exists']
  simp only [bestOf_eq_some_iff]
  constructor
  · rintro ⟨device, i, position, -⟩
    exact ⟨i, position⟩
  · rintro ⟨i, position⟩
    obtain ⟨device, -, there, -⟩ := exists_entry_of_best (s.length_scoreAll devices) position
    exact ⟨device, i, position, there⟩

/-- The best device stands among the retained ones, behind those that were in front of it. -/
theorem getElem?_retain_of_best {i : Nat} (position : best (s.scoreAll devices) = some i)
    (there : devices[i]? = some device) :
    (s.retain devices)[s.retainedBefore devices i]? = some device := by
  obtain ⟨-, score, -, partner, accepts⟩ :=
    exists_entry_of_best (s.length_scoreAll devices) position
  exact getElem?_passing there partner accepts

/-- What selecting from a list results in. -/
theorem result_selectFrom (s : Selector) (devices : List Device) :
    (s.selectFrom devices).result = match s.bestOf devices with
      | some device => .ok device
      | none => .error ⟨s.text⟩ := by
  rw [selectFrom]
  cases s.bestOf devices <;> rfl

/-- A device is selected exactly when it is the best one. -/
theorem result_selectFrom_eq_ok_iff :
    (s.selectFrom devices).result = .ok device ↔ s.bestOf devices = some device := by
  rw [result_selectFrom]
  cases s.bestOf devices <;> simp

/-- In a list that names each device once, a device has the score of its position. -/
theorem scoreAll_of_nodup (distinct : devices.Nodup) :
    s.scoreAll devices = devices.map (s.scoreAmong devices) := by
  -- The scores are a table whose keys are the devices, and a key that is there once is found there.
  have keys : (devices.zip (s.scoreAll devices)).map Prod.fst = devices :=
    List.map_fst_zip (Nat.le_of_eq (s.length_scoreAll devices).symm)
  have distinctKeys : ((devices.zip (s.scoreAll devices)).map Prod.fst).Nodup := by
    rwa [keys]
  apply List.ext_getElem (by rw [length_scoreAll, List.length_map])
  intro i scored listed
  have inside : i < devices.length := by rwa [length_scoreAll] at scored
  have zipped : i < (devices.zip (s.scoreAll devices)).length := by
    rw [List.length_zip]
    exact Nat.lt_min.mpr ⟨inside, scored⟩
  have mem : (devices[i], (s.scoreAll devices)[i]) ∈ devices.zip (s.scoreAll devices) :=
    List.mem_iff_getElem.mpr ⟨i, zipped, List.getElem_zip⟩
  have found := (lookup_eq_some_iff_mem distinctKeys).mpr mem
  rw [List.getElem_map, scoreAmong, found]
  rfl

/-- In a list that names each device once, no device scores more than the best one. -/
theorem scoreAmong_le_of_bestOf (distinct : devices.Nodup) (h : s.bestOf devices = some device)
    {other : Device} (mem : other ∈ devices) :
    s.scoreAmong devices other ≤ s.scoreAmong devices device := by
  obtain ⟨i, position, there⟩ := bestOf_eq_some_iff.mp h
  obtain ⟨score, leads⟩ := best_eq_some_iff.mp position
  obtain _ | ⟨partner, -, top, -⟩ := leads
  have own : s.scoreAmong devices device = score := by
    rw [scoreAll_of_nodup distinct, List.getElem?_map, there] at partner
    exact Option.some.inj partner
  have scored : s.scoreAmong devices other ∈ s.scoreAll devices := by
    rw [scoreAll_of_nodup distinct]
    exact List.mem_map_of_mem mem
  calc s.scoreAmong devices other ≤ score := top _ scored
    _ = s.scoreAmong devices device := own.symm

end Selector

end ComputeHandles
