import Mathlib.Data.List.Basic
import Mathlib.Data.List.Forall2

/-!
# Lists that are read and tables that are searched

Reading a list entry by entry gives a value for every entry or the fault of the first
entry that has none, and so does a run of steps. Lists that are read alike entry by entry have
outcomes that agree. The pieces of a list that is split stand in the list and hold no
separator. Searching a table gives the value of the first entry with
the key, and in a table that gives each key once that is its only value.
-/

namespace ComputeHandles.Listing

variable {ε δ α β : Type}

/-- Renaming a fault does not touch the value. -/
@[simp] theorem mapError_eq_ok_iff {f : ε → δ} {outcome : Except ε α} {a : α} :
    outcome.mapError f = .ok a ↔ outcome = .ok a := by
  cases outcome <;> simp [Except.mapError]

/-- Renaming faults gives a fault exactly when there was one to rename. -/
@[simp] theorem mapError_eq_error_iff {f : ε → δ} {outcome : Except ε α} {d : δ} :
    outcome.mapError f = .error d ↔ ∃ e, outcome = .error e ∧ f e = d := by
  cases outcome <;> simp [Except.mapError]

/-- A mapped outcome has a value exactly when there was one to map. -/
@[simp] theorem map_eq_ok_iff {f : α → β} {outcome : Except ε α} {b : β} :
    outcome.map f = .ok b ↔ ∃ a, outcome = .ok a ∧ f a = b := by
  cases outcome <;> simp [Except.map]

/-- A mapped outcome has a fault exactly when there was one before. -/
@[simp] theorem map_eq_error_iff {f : α → β} {outcome : Except ε α} {e : ε} :
    outcome.map f = .error e ↔ outcome = .error e := by
  cases outcome <;> simp [Except.map]

/-- Joined lists are the first and then each other one behind a separator. -/
theorem intercalate_cons_eq_flatMap (separator first : List α) (others : List (List α)) :
    separator.intercalate (first :: others) = first ++ others.flatMap (separator ++ ·) := by
  induction others generalizing first with
  | nil => simp
  | cons second others ih => rw [List.intercalate_cons_cons, ih]; simp

/-- What joined lists hold comes from a separator or from one of them. -/
theorem of_mem_intercalate {separator : List α} {lists : List (List α)} {x : α}
    (mem : x ∈ separator.intercalate lists) : x ∈ separator ∨ ∃ xs ∈ lists, x ∈ xs := by
  cases lists with
  | nil => exact absurd mem List.not_mem_nil
  | cons first others =>
    rw [intercalate_cons_eq_flatMap, List.mem_append] at mem
    rcases mem with front | behind
    · exact .inr ⟨first, List.mem_cons_self, front⟩
    · obtain ⟨xs, held, inside⟩ := List.mem_flatMap.mp behind
      exact (List.mem_append.mp inside).imp_right fun mem =>
        ⟨xs, List.mem_cons_of_mem first held, mem⟩

/-- A list without a stop is told by itself and the stop behind it, whatever comes after. -/
theorem eq_of_append_cons_eq {stop : α} {front front' rest rest' : List α}
    (plain : stop ∉ front) (plain' : stop ∉ front')
    (same : front ++ stop :: rest = front' ++ stop :: rest') : front = front' ∧ rest = rest' := by
  induction front generalizing front' with
  | nil =>
    cases front' with
    | nil => exact ⟨rfl, (List.cons.inj same).2⟩
    | cons x' front' => exact absurd ((List.cons.inj same).1 ▸ List.mem_cons_self) plain'
  | cons x front ih =>
    cases front' with
    | nil => exact absurd ((List.cons.inj same).1 ▸ List.mem_cons_self) plain
    | cons x' front' =>
      rw [List.mem_cons, not_or] at plain plain'
      obtain ⟨rfl, behind⟩ := List.cons.inj same
      obtain ⟨rfl, ends⟩ := ih plain.2 plain'.2 behind
      exact ⟨rfl, ends⟩

/-- A list with one more entry at its end has its old entries and that one. -/
theorem getElem?_concat_eq_some_iff {xs : List α} {x y : α} {i : Nat} :
    (xs ++ [x])[i]? = some y ↔ xs[i]? = some y ∨ i = xs.length ∧ x = y := by
  rcases Nat.lt_trichotomy i xs.length with below | rfl | above
  · simp [List.getElem?_append_left below, Nat.ne_of_lt below]
  · simp
  · have outside : (xs ++ [x]).length ≤ i := by simp; omega
    simp [List.getElem?_eq_none outside, List.getElem?_eq_none (Nat.le_of_lt above),
      Nat.ne_of_gt above]

/-- A split of a list with one more entry at its end is around that entry or around an old
one. -/
theorem concat_eq_append_cons_iff {xs earlier later : List α} {x y : α} :
    xs ++ [x] = earlier ++ y :: later ↔
      (xs = earlier ∧ x = y ∧ later = []) ∨
        ∃ rest, later = rest ++ [x] ∧ xs = earlier ++ y :: rest := by
  constructor
  · intro h
    rcases later.eq_nil_or_concat' with rfl | ⟨rest, z, rfl⟩
    · obtain ⟨rfl, same⟩ := List.append_inj' h rfl
      cases same
      exact .inl ⟨rfl, rfl, rfl⟩
    · rw [← List.cons_append, ← List.append_assoc] at h
      obtain ⟨rfl, same⟩ := List.append_inj' h rfl
      cases same
      exact .inr ⟨rest, rfl, rfl⟩
  · rintro (⟨rfl, rfl, rfl⟩ | ⟨rest, rfl, rfl⟩)
    · rfl
    · simp

/-- A list is read exactly when every entry is, and then entry by entry. -/
theorem mapM_eq_ok_iff {read : α → Except ε β} {xs : List α} {ys : List β} :
    xs.mapM read = .ok ys ↔ List.Forall₂ (fun x y => read x = .ok y) xs ys := by
  induction xs generalizing ys with
  | nil =>
    rw [List.mapM_nil, List.forall₂_nil_left_iff]
    exact ⟨fun h => (Except.ok.inj h).symm, fun h => h ▸ rfl⟩
  | cons x xs ih =>
    rw [List.mapM_cons, List.forall₂_cons_left_iff]
    cases hx : read x with
    | error e =>
      constructor
      · intro h
        cases h
      · rintro ⟨y, rest, h, -⟩
        cases h
    | ok y =>
      cases hr : xs.mapM read with
      | error e =>
        constructor
        · intro h
          cases h
        · rintro ⟨y', rest, -, h, -⟩
          rw [← ih, hr] at h
          cases h
      | ok rest =>
        constructor
        · intro h
          cases h
          exact ⟨y, rest, rfl, ih.mp hr, rfl⟩
        · rintro ⟨y', rest', hy, h, rfl⟩
          cases hy
          rw [← ih, hr] at h
          cases h
          rfl

/-- A list whose first entry that cannot be read has a fault is not read for that fault. -/
theorem mapM_eq_error_of_first {read : α → Except ε β} {earlier later : List α} {x : α} {e : ε}
    (readable : ∀ y ∈ earlier, ∃ b, read y = .ok b) (unreadable : read x = .error e) :
    (earlier ++ x :: later).mapM read = .error e := by
  induction earlier with
  | nil =>
    rw [List.nil_append, List.mapM_cons, unreadable]
    rfl
  | cons y earlier ih =>
    obtain ⟨⟨b, hy⟩, rest⟩ := List.forall_mem_cons.mp readable
    rw [List.cons_append, List.mapM_cons, hy, ih rest]
    rfl

/-- A list is not read for a fault exactly when the first entry that cannot be read has it. -/
theorem mapM_eq_error_iff {read : α → Except ε β} {xs : List α} {e : ε} :
    xs.mapM read = .error e ↔
      ∃ earlier x later, xs = earlier ++ x :: later ∧ (∀ y ∈ earlier, ∃ b, read y = .ok b) ∧
        read x = .error e := by
  constructor
  · intro failed
    induction xs with
    | nil => cases failed
    | cons x xs ih =>
      rw [List.mapM_cons] at failed
      cases first : read x with
      | error e' =>
        rw [first] at failed
        cases failed
        exact ⟨[], x, xs, rfl, fun y mem => absurd mem List.not_mem_nil, first⟩
      | ok b =>
        rw [first] at failed
        cases rest : xs.mapM read with
        | ok bs =>
          rw [rest] at failed
          cases failed
        | error e' =>
          rw [rest] at failed
          cases failed
          obtain ⟨earlier, y, later, whole, readable, unreadable⟩ := ih rest
          refine ⟨x :: earlier, y, later, congrArg (x :: ·) whole, ?_, unreadable⟩
          exact List.forall_mem_cons.mpr ⟨⟨b, first⟩, readable⟩
  · rintro ⟨earlier, x, later, rfl, readable, unreadable⟩
    exact mapM_eq_error_of_first readable unreadable

/-- Readers that agree on every entry of a list read it alike. -/
theorem mapM_congr {read read' : α → Except ε β} {xs : List α}
    (agree : ∀ x ∈ xs, read x = read' x) : xs.mapM read = xs.mapM read' := by
  induction xs with
  | nil => rfl
  | cons x xs ih =>
    obtain ⟨first, rest⟩ := List.forall_mem_cons.mp agree
    rw [List.mapM_cons, List.mapM_cons, first, ih rest]

/-- Partners for a whole list exist exactly when every entry has one. -/
theorem exists_forall₂_iff {R : α → β → Prop} {xs : List α} :
    (∃ ys, List.Forall₂ R xs ys) ↔ ∀ x ∈ xs, ∃ y, R x y := by
  induction xs with
  | nil => simp
  | cons x xs ih =>
    rw [List.forall_mem_cons, ← ih]
    constructor
    · rintro ⟨ys, h⟩
      cases h with
      | cons hx hr => exact ⟨⟨_, hx⟩, ⟨_, hr⟩⟩
    · rintro ⟨⟨y, hx⟩, ⟨ys, hr⟩⟩
      exact ⟨y :: ys, .cons hx hr⟩

/-- An entry that is a partner is one of an entry of the other list. -/
theorem exists_partner_of_mem {R : α → β → Prop} {xs : List α} {ys : List β}
    (h : List.Forall₂ R xs ys) {y : β} (mem : y ∈ ys) : ∃ x ∈ xs, R x y := by
  induction h with
  | nil => exact absurd mem List.not_mem_nil
  | cons first rest ih =>
    rcases List.mem_cons.mp mem with rfl | later
    · exact ⟨_, List.mem_cons_self, first⟩
    · obtain ⟨x, held, partner⟩ := ih later
      exact ⟨x, List.mem_cons_of_mem _ held, partner⟩

/-- A table that gives each key once holds what is found in it, and nothing else. -/
theorem lookup_eq_some_iff_mem [BEq α] [LawfulBEq α] {table : List (α × β)}
    (distinct : (table.map Prod.fst).Nodup) {key : α} {value : β} :
    table.lookup key = some value ↔ (key, value) ∈ table := by
  induction table with
  | nil => simp
  | cons entry rest ih =>
    obtain ⟨k, v⟩ := entry
    rw [List.map_cons, List.nodup_cons] at distinct
    rw [List.lookup_cons, List.mem_cons]
    by_cases hk : key = k
    · subst hk
      have absent : (key, value) ∉ rest := fun h =>
        distinct.1 (List.mem_map.mpr ⟨(key, value), h, rfl⟩)
      simp [absent, eq_comm]
    · have differs : (key == k) = false := by simpa using hk
      simp [differs, hk, ih distinct.2]

/-- No piece of a list that is split holds the separator. -/
theorem notMem_of_mem_splitOn [BEq α] [LawfulBEq α] {separator : α} {xs piece : List α}
    (mem : piece ∈ xs.splitOn separator) : separator ∉ piece := by
  induction xs generalizing piece with
  | nil =>
    rw [List.splitOn_nil, List.mem_singleton] at mem
    subst mem
    exact List.not_mem_nil
  | cons x xs ih =>
    obtain ⟨first, rest, pieces⟩ := List.exists_cons_of_ne_nil (List.splitOn_ne_nil separator xs)
    rw [pieces] at ih
    have later : ∀ other ∈ rest, separator ∉ other := fun other held =>
      ih (List.mem_cons_of_mem first held)
    rw [List.splitOn_cons_eq_if_modifyHead, pieces] at mem
    by_cases same : (x == separator) = true
    · rw [if_pos same, List.mem_cons] at mem
      rcases mem with rfl | mem
      · exact List.not_mem_nil
      · exact ih mem
    · rw [if_neg same, List.modifyHead_cons, List.mem_cons] at mem
      rcases mem with rfl | mem
      · have differs : separator ≠ x := fun h => same (beq_iff_eq.mpr h.symm)
        have inside : separator ∉ first := ih List.mem_cons_self
        exact fun held => (List.mem_cons.mp held).elim differs inside
      · exact later piece mem

/-- A list that is joined with others stands in the whole. -/
theorem infix_intercalate_of_mem (separator : List α) {piece : List α}
    {pieces : List (List α)} (mem : piece ∈ pieces) : piece <:+: separator.intercalate pieces := by
  cases pieces with
  | nil => exact absurd mem List.not_mem_nil
  | cons first others =>
    rw [intercalate_cons_eq_flatMap]
    rcases List.mem_cons.mp mem with rfl | later
    · exact (List.prefix_append _ _).isInfix
    · have behind : separator ++ piece <:+: others.flatMap (separator ++ ·) :=
        List.infix_of_mem_flatten (List.mem_map_of_mem later)
      exact ((List.suffix_append _ _).isInfix.trans behind).trans (List.suffix_append _ _).isInfix

/-- A piece of a list that is split stands in the list. -/
theorem infix_of_mem_splitOn [BEq α] [LawfulBEq α] {separator : α} {xs piece : List α}
    (mem : piece ∈ xs.splitOn separator) : piece <:+: xs := by
  have joined := infix_intercalate_of_mem [separator] mem
  rwa [List.intercalate_splitOn] at joined

/-- What stands in front of a list without separators joins the first piece of it. -/
theorem splitOn_append_of_notMem [BEq α] [LawfulBEq α] {separator : α} {front : List α}
    (plain : separator ∉ front) (xs : List α) :
    (front ++ xs).splitOn separator = (xs.splitOn separator).modifyHead (front ++ ·) := by
  obtain ⟨first, rest, pieces⟩ := List.exists_cons_of_ne_nil (List.splitOn_ne_nil separator xs)
  rw [pieces, List.modifyHead_cons]
  induction front with
  | nil => exact pieces
  | cons x front ih =>
    have differs : ¬ (x == separator) = true := fun same =>
      plain (beq_iff_eq.mp same ▸ List.mem_cons_self)
    have behind : separator ∉ front := fun mem => plain (List.mem_cons_of_mem x mem)
    rw [List.cons_append, List.splitOn_cons_eq_if_modifyHead, if_neg differs, ih behind]
    rfl

/-- What stands behind a list without separators joins the last piece of it. -/
theorem exists_splitOn_append [BEq α] [LawfulBEq α] (separator : α) (xs : List α) :
    ∃ earlier last, ∀ back, separator ∉ back →
      (xs ++ back).splitOn separator = earlier ++ [last ++ back] := by
  induction xs with
  | nil =>
    refine ⟨[], [], fun back plain => ?_⟩
    exact List.splitOn_eq_singleton plain
  | cons x xs ih =>
    obtain ⟨earlier, last, pieces⟩ := ih
    by_cases same : (x == separator) = true
    · refine ⟨[] :: earlier, last, fun back plain => ?_⟩
      rw [List.cons_append, List.splitOn_cons_eq_if_modifyHead, if_pos same, pieces back plain]
      rfl
    · cases earlier with
      | nil =>
        refine ⟨[], x :: last, fun back plain => ?_⟩
        rw [List.cons_append, List.splitOn_cons_eq_if_modifyHead, if_neg same, pieces back plain]
        rfl
      | cons first earlier =>
        refine ⟨(x :: first) :: earlier, last, fun back plain => ?_⟩
        rw [List.cons_append, List.splitOn_cons_eq_if_modifyHead, if_neg same, pieces back plain]
        rfl

/-- A run of steps has a fault exactly when a step has it after a run that had none. -/
theorem foldlM_eq_error_iff {step : β → α → Except ε β} {start : β} {xs : List α} {e : ε} :
    xs.foldlM step start = .error e ↔
      ∃ earlier x later reached, xs = earlier ++ x :: later ∧
        earlier.foldlM step start = .ok reached ∧ step reached x = .error e := by
  constructor
  · intro failed
    induction xs generalizing start with
    | nil => cases failed
    | cons x xs ih =>
      rw [List.foldlM_cons] at failed
      cases first : step start x with
      | error e' =>
        rw [first] at failed
        cases failed
        exact ⟨[], x, xs, start, rfl, rfl, first⟩
      | ok next =>
        rw [first] at failed
        obtain ⟨earlier, y, later, reached, rfl, run, fault⟩ := ih failed
        refine ⟨x :: earlier, y, later, reached, rfl, ?_, fault⟩
        rw [List.foldlM_cons, first]
        exact run
  · rintro ⟨earlier, x, later, reached, rfl, run, fault⟩
    rw [List.foldlM_append, run]
    change List.foldlM step reached (x :: later) = _
    rw [List.foldlM_cons, fault]
    rfl

/-- A run of steps without a fault had none at any earlier point. -/
theorem exists_foldlM_of_append {step : β → α → Except ε β} {start final : β}
    {earlier later : List α} (run : (earlier ++ later).foldlM step start = .ok final) :
    ∃ reached, earlier.foldlM step start = .ok reached := by
  rw [List.foldlM_append] at run
  cases reached : earlier.foldlM step start with
  | ok b => exact ⟨b, rfl⟩
  | error e =>
    rw [reached] at run
    cases run

/-- Outcomes that agree: the same value, or faults that are alike. -/
inductive Agree (alike : ε → δ → Prop) : Except ε α → Except δ α → Prop where
  /-- The same value. -/
  | ok (a : α) : Agree alike (.ok a) (.ok a)
  /-- Faults that are alike. -/
  | error {e : ε} {e' : δ} (h : alike e e') : Agree alike (.error e) (.error e')

/-- Outcomes agree exactly when both are one value, or both faults and these are alike. -/
theorem agree_iff {alike : ε → δ → Prop} {outcome : Except ε α} {outcome' : Except δ α} :
    Agree alike outcome outcome' ↔ (∃ a, outcome = .ok a ∧ outcome' = .ok a) ∨
      ∃ e e', outcome = .error e ∧ outcome' = .error e' ∧ alike e e' := by
  constructor
  · intro h
    cases h with
    | ok a => exact .inl ⟨a, rfl, rfl⟩
    | error same => exact .inr ⟨_, _, rfl, rfl, same⟩
  · rintro (⟨a, rfl, rfl⟩ | ⟨e, e', rfl, rfl, same⟩)
    · exact .ok a
    · exact .error same

/-- Outcomes that agree still do when their values are mapped. -/
theorem Agree.map {alike : ε → δ → Prop} {outcome : Except ε α} {outcome' : Except δ α}
    (h : Agree alike outcome outcome') (f : α → β) :
    Agree alike (outcome.map f) (outcome'.map f) := by
  cases h with
  | ok a => exact .ok (f a)
  | error same => exact .error same

/-- Outcomes that agree still do after steps that agree on every value. -/
theorem Agree.bind {alike : ε → δ → Prop} {outcome : Except ε α} {outcome' : Except δ α}
    {next : α → Except ε β} {next' : α → Except δ β} (h : Agree alike outcome outcome')
    (steps : ∀ a, Agree alike (next a) (next' a)) :
    Agree alike (outcome >>= next) (outcome' >>= next') := by
  cases h with
  | ok a => exact steps a
  | error same => exact .error same

/-- Outcomes that agree still do when faults that are alike are renamed to such. -/
theorem Agree.mapError {ε' δ' : Type} {alike : ε → δ → Prop} {alike' : ε' → δ' → Prop}
    {outcome : Except ε α} {outcome' : Except δ α} {f : ε → ε'} {g : δ → δ'}
    (renamed : ∀ e e', alike e e' → alike' (f e) (g e')) (h : Agree alike outcome outcome') :
    Agree alike' (outcome.mapError f) (outcome'.mapError g) := by
  cases h with
  | ok a => exact .ok a
  | error same => exact .error (renamed _ _ same)

/-- Lists are read alike if their entries are. -/
theorem agree_mapM {γ : Type} {alike : ε → δ → Prop} {read : α → Except ε β}
    {read' : γ → Except δ β} {xs : List α} {ys : List γ}
    (h : List.Forall₂ (fun x y => Agree alike (read x) (read' y)) xs ys) :
    Agree alike (xs.mapM read) (ys.mapM read') := by
  induction h with
  | nil => exact .ok []
  | cons first rest ih =>
    rw [List.mapM_cons, List.mapM_cons]
    exact first.bind fun b => ih.bind fun bs => .ok (b :: bs)

/-- Runs agree if the steps of corresponding entries do wherever the runs are. -/
theorem agree_foldlM {γ : Type} {alike : ε → δ → Prop} {same : α → γ → Prop}
    {step : β → α → Except ε β} {step' : β → γ → Except δ β} {start : β} {xs : List α}
    {ys : List γ} (steps : ∀ b x y, same x y → Agree alike (step b x) (step' b y))
    (h : List.Forall₂ same xs ys) :
    Agree alike (xs.foldlM step start) (ys.foldlM step' start) := by
  induction h generalizing start with
  | nil => exact .ok start
  | cons first rest ih =>
    rw [List.foldlM_cons, List.foldlM_cons]
    exact (steps start _ _ first).bind fun next => ih

end ComputeHandles.Listing
