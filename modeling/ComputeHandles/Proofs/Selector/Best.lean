import Mathlib.Data.List.Induction
import ComputeHandles.Selector.Score

/-!
# The best score

Scores are compared one after the other, and the one that leads gives way only to a score
that is larger. So in the end nothing leads if every score rejects, and otherwise the first
of the largest scores does.
-/

namespace ComputeHandles

/-- What leads after some scores: nothing while all of them reject, and else the first score
that none of the others exceeds. -/
inductive Leads (scores : List Int) : Option (Int × Nat) → Prop where
  /-- Every score rejects. -/
  | nothing (rejects : ∀ x ∈ scores, x < 0) : Leads scores none
  /-- The score at a position leads. -/
  | held {score : Int} {i : Nat} (there : scores[i]? = some score) (accepts : 0 ≤ score)
      (top : ∀ x ∈ scores, x ≤ score)
      (first : ∀ (j : Nat) (x : Int), j < i → scores[j]? = some x → x < score) :
    Leads scores (some (score, i))

namespace Leads

variable {scores : List Int} {score x : Int} {i : Nat}

/-- The lead is kept before scores that are not larger. -/
theorem kept {later : List Int} (h : Leads scores (some (score, i)))
    (le : ∀ x ∈ later, x ≤ score) : Leads (scores ++ later) (some (score, i)) := by
  obtain _ | ⟨there, accepts, top, first⟩ := h
  have inside : i < scores.length := (List.getElem?_eq_some_iff.mp there).1
  refine .held ?_ accepts ?_ ?_
  · rw [List.getElem?_append_left inside]
    exact there
  · intro y mem
    rcases List.mem_append.mp mem with old | new
    · exact top y old
    · exact le y new
  · intro j y before found
    rw [List.getElem?_append_left (Nat.lt_trans before inside)] at found
    exact first j y before found

/-- The lead goes to the one of later scores that is larger than all before them. -/
theorem taken {earlier : List Int} (h : Leads scores (some (score, i)))
    (larger : ∀ y ∈ earlier, y < score) :
    Leads (earlier ++ scores) (some (score, earlier.length + i)) := by
  obtain _ | ⟨there, accepts, top, first⟩ := h
  refine .held ?_ accepts ?_ ?_
  · rw [List.getElem?_append_right (Nat.le_add_right _ i), Nat.add_sub_cancel_left]
    exact there
  · intro y mem
    rcases List.mem_append.mp mem with old | new
    · exact Int.le_of_lt (larger y old)
    · exact top y new
  · intro j y before found
    by_cases inside : j < earlier.length
    · rw [List.getElem?_append_left inside] at found
      exact larger y (List.mem_of_getElem? found)
    · have behind : earlier.length ≤ j := Nat.le_of_not_lt inside
      rw [List.getElem?_append_right behind] at found
      exact first (j - earlier.length) y (by omega) found

/-- A single score that does not reject leads. -/
theorem alone (accepts : 0 ≤ x) : Leads [x] (some (x, 0)) := by
  refine .held rfl accepts ?_ ?_
  · intro y mem
    exact Int.le_of_eq (List.mem_singleton.mp mem)
  · intro j y before _
    exact absurd before (Nat.not_lt_zero j)

/-- One more score is compared with what leads. -/
theorem concat {leader : Option (Int × Nat)} (h : Leads scores leader) (x : Int) :
    Leads (scores ++ [x]) (betterOf leader (x, scores.length)) := by
  unfold betterOf
  by_cases rejected : x < 0
  · rw [if_pos rejected]
    cases h with
    | nothing rejects =>
      refine .nothing fun y mem => ?_
      rcases List.mem_append.mp mem with old | new
      · exact rejects y old
      · rw [List.mem_singleton.mp new]
        exact rejected
    | @held score i there accepts top first =>
      have le : x ≤ score := by omega
      exact (Leads.held there accepts top first).kept (List.forall_mem_singleton.mpr le)
  · rw [if_neg rejected]
    have accepted : 0 ≤ x := Int.not_lt.mp rejected
    cases h with
    | nothing rejects =>
      have all : ∀ y ∈ scores, y < x := fun y mem => Int.lt_of_lt_of_le (rejects y mem) accepted
      exact (alone accepted).taken all
    | @held score i there accepts top first =>
      by_cases larger : score < x
      · have all : ∀ y ∈ scores, y < x := fun y mem => Int.lt_of_le_of_lt (top y mem) larger
        simpa only [if_pos larger, Nat.add_zero] using (alone accepted).taken all
      · have le : x ≤ score := Int.not_lt.mp larger
        simpa only [if_neg larger] using
          (Leads.held there accepts top first).kept (List.forall_mem_singleton.mpr le)

/-- Only one score leads. -/
theorem position_unique {score' : Int} {i' : Nat} (h : Leads scores (some (score, i)))
    (h' : Leads scores (some (score', i'))) : i = i' := by
  obtain _ | ⟨there, -, top, first⟩ := h
  obtain _ | ⟨there', -, top', first'⟩ := h'
  have le : score ≤ score' := top' score (List.mem_of_getElem? there)
  have ge : score' ≤ score := top score' (List.mem_of_getElem? there')
  rcases Nat.lt_trichotomy i i' with before | same | behind
  · have lt := first' i score before there
    omega
  · exact same
  · have lt := first i' score' behind there'
    omega

end Leads

/-- After all scores are compared, what leads is what should. -/
theorem leads_foldl_betterOf (scores : List Int) :
    Leads scores (scores.zipIdx.foldl betterOf none) := by
  -- The induction is on the last score, the one that is compared last.
  induction scores using List.reverseRecOn with
  | nil => exact .nothing nofun
  | append_singleton scores x ih =>
    rw [List.zipIdx_append, List.foldl_append, Nat.zero_add]
    exact ih.concat x

/-- There is no best score exactly when every score rejects. -/
theorem best_eq_none_iff {scores : List Int} : best scores = none ↔ ∀ x ∈ scores, x < 0 := by
  have leads := leads_foldl_betterOf scores
  unfold best
  generalize scores.zipIdx.foldl betterOf none = leader at leads
  cases leads with
  | nothing rejects => exact iff_of_true rfl rejects
  | @held score i there accepts top first =>
    refine iff_of_false nofun fun rejects => ?_
    have negative := rejects score (List.mem_of_getElem? there)
    omega

/-- The best score is the one that leads. -/
theorem best_eq_some_iff {scores : List Int} {i : Nat} :
    best scores = some i ↔ ∃ score, Leads scores (some (score, i)) := by
  have leads := leads_foldl_betterOf scores
  unfold best
  generalize scores.zipIdx.foldl betterOf none = leader at leads
  rw [Option.map_eq_some_iff]
  constructor
  · rintro ⟨⟨score, position⟩, rfl, rfl⟩
    exact ⟨score, leads⟩
  · rintro ⟨score, leads'⟩
    cases leads with
    | nothing rejects =>
      obtain _ | ⟨there, accepts, -, -⟩ := leads'
      have negative := rejects score (List.mem_of_getElem? there)
      omega
    | @held score' i' there accepts top first =>
      have same := (Leads.held there accepts top first).position_unique leads'
      exact ⟨_, rfl, same⟩

/-- If a score that does not reject is exceeded by no other, the best one is where it first
turns up. -/
theorem best_eq_findIdx? {scores : List Int} {top : Int} (accepts : 0 ≤ top)
    (bound : ∀ x ∈ scores, x ≤ top) (mem : top ∈ scores) :
    best scores = scores.findIdx? (· == top) := by
  cases found : best scores with
  | none =>
    have negative := best_eq_none_iff.mp found top mem
    omega
  | some i =>
    obtain ⟨score, leads⟩ := best_eq_some_iff.mp found
    obtain _ | ⟨there, -, largest, first⟩ := leads
    obtain ⟨inside, at_i⟩ := List.getElem?_eq_some_iff.mp there
    have le : score ≤ top := bound score (List.mem_of_getElem? there)
    have ge : top ≤ score := largest top mem
    symm
    rw [List.findIdx?_eq_some_iff_getElem]
    refine ⟨inside, beq_iff_eq.mpr (by omega), fun j before => ?_⟩
    have below := first j scores[j] before (List.getElem?_eq_getElem _)
    rw [Bool.not_eq_true, beq_eq_false_iff_ne]
    omega

/-- If each device was asked for or was not, the best one is the first that was. -/
theorem best_map_scoreOf (accepted : List Bool) :
    best (accepted.map scoreOf) = accepted.findIdx? (· == true) := by
  by_cases mem : true ∈ accepted
  · have bound : ∀ x ∈ accepted.map scoreOf, x ≤ matched := by
      intro x mapped
      obtain ⟨b, -, rfl⟩ := List.mem_map.mp mapped
      cases b <;> decide
    have same : ((· == matched) ∘ scoreOf) = (· == true) := by
      funext b
      cases b <;> decide
    rw [best_eq_findIdx? (by decide) bound (List.mem_map.mpr ⟨true, mem, rfl⟩),
      List.findIdx?_map, same]
  · have rejects : ∀ x ∈ accepted.map scoreOf, x < 0 := by
      intro x mapped
      obtain ⟨b, held, rfl⟩ := List.mem_map.mp mapped
      cases b with
      | true => exact absurd held mem
      | false => decide
    have nowhere : accepted.findIdx? (· == true) = none := by
      rw [List.findIdx?_eq_none_iff]
      intro b held
      cases b with
      | true => exact absurd held mem
      | false => rfl
    rw [best_eq_none_iff.mpr rejects, nowhere]

/-- There is no best score exactly when every score rejects, as when there is no score at all.
Otherwise the best one does not reject, none of the scores is larger, and every score in front
of it is smaller. -/
theorem best_first_of_largest (scores : List Int) :
    (best scores = none ↔ ∀ x ∈ scores, x < 0) ∧
      ∀ i, best scores = some i ↔ ∃ inside : i < scores.length, 0 ≤ scores[i] ∧
        (∀ x ∈ scores, x ≤ scores[i]) ∧ ∀ j (before : j < i), scores[j] < scores[i] := by
  refine ⟨best_eq_none_iff, fun i => ?_⟩
  rw [best_eq_some_iff]
  constructor
  · rintro ⟨score, leads⟩
    obtain _ | ⟨there, accepts, top, first⟩ := leads
    obtain ⟨inside, rfl⟩ := List.getElem?_eq_some_iff.mp there
    exact ⟨inside, accepts, top, fun j before => first j _ before (List.getElem?_eq_getElem _)⟩
  · rintro ⟨inside, accepts, top, first⟩
    refine ⟨scores[i], .held (List.getElem?_eq_getElem inside) accepts top ?_⟩
    intro j x before found
    obtain ⟨_, rfl⟩ := List.getElem?_eq_some_iff.mp found
    exact first j before

/-- Zero does not reject, and of equal scores the first is best. -/
example : best [-1, 0, -2147483648, 0] = some 1 := by decide

end ComputeHandles
