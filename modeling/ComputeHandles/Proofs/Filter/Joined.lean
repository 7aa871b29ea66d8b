import ComputeHandles.Proofs.Filter.Pieces
import ComputeHandles.Proofs.Selector.Acceptance

/-!
# Filter strings joined by a comma

A comma joins two filter strings to one that has the entries of both. It is read when both are,
and its filters are theirs, so it accepts what either of them accepts. If one of them is
refused so is the whole, for the same fault, and the fault of the first one counts.
-/

namespace ComputeHandles

open Text Listing

/-- The same complaint about another filter string. -/
def FilterError.about (filter : String) : FilterError → FilterError
  | .empty _ => .empty filter
  | .unexpectedToken token _ => .unexpectedToken token filter

/-- A fault told about one filter string and then about another is told about the other. -/
theorem EntryFault.about_within (fault : EntryFault) (part whole : String) :
    (fault.within part).about whole = fault.within whole := by
  cases fault <;> rfl

/-- Two outcomes of which the first fault counts, their filters one after the other. -/
def joinOutcomes {ε : Type} (first second : Except ε (List Filter)) : Except ε (List Filter) := do
  let earlier ← first
  let later ← second
  return earlier ++ later

/-- The entries on both sides of a comma are read one after the other. -/
theorem readAll_append_comma (left right : List Char) :
    Filter.readAll (left ++ ',' :: right) =
      joinOutcomes (Filter.readAll left) (Filter.readAll right) := by
  rw [Filter.readAll, List.splitOn_append_cons_self, List.mapM_append]
  rfl

/-- Two lists of filters accept what either of them accepts. -/
theorem acceptedBySome_append (earlier later : List Filter) (kinds : List DeviceKind) :
    acceptedBySome (earlier ++ later) kinds =
      (acceptedBySome earlier kinds).zipWith (· || ·) (acceptedBySome later kinds) := by
  apply List.ext_getElem?
  intro i
  rw [List.getElem?_zipWith]
  by_cases inside : i < kinds.length
  · have answers := fun filters => getElem?_acceptedBySome filters kinds ⟨i, inside⟩
    simp only at answers
    rw [answers, answers, answers]
    simp [or_and_right, exists_or]
  · have outside : ∀ filters, (acceptedBySome filters kinds)[i]? = none := fun filters => by
      rw [List.getElem?_eq_none_iff, length_acceptedBySome]
      omega
    rw [outside, outside]

/-- A device that either of two asks for has the larger of the two scores. -/
theorem scoreOf_or (a b : Bool) : scoreOf (a || b) = max (scoreOf a) (scoreOf b) := by
  cases a <;> cases b <;> decide

/-- Two lists of filters score as the better of the two scores. -/
theorem scores_append (earlier later : List Filter) (kinds : List DeviceKind) :
    (Selector.filtered (earlier ++ later)).scores kinds =
      List.zipWith max ((Selector.filtered earlier).scores kinds)
        ((Selector.filtered later).scores kinds) := by
  rw [Selector.scores, Selector.scores, Selector.scores, acceptedBySome_append,
    List.map_zipWith, List.zipWith_map]
  simp only [scoreOf_or]

/-- A joined text is read as the two texts are, except that a fault is told about the whole. -/
theorem parse_joined (a b : String) :
    Selector.parse (a ++ "," ++ b) =
      ((joinOutcomes (Filter.readAll a.toList) (Filter.readAll b.toList)).mapError
        (EntryFault.within (a ++ "," ++ b))).map .filtered := by
  have entries : (a ++ "," ++ b).toList = a.toList ++ ',' :: b.toList := by
    rw [String.toList_append, String.toList_append, List.append_assoc]
    rfl
  rw [Selector.parse, Filter.parseAll, entries, readAll_append_comma]

section

variable {a b : String} {first second : Selector} {e : FilterError}

/-- Two texts that are read are read together, as the filters of both. -/
theorem parse_append_of_ok (left : Selector.parse a = .ok first)
    (right : Selector.parse b = .ok second) :
    ∃ earlier later, first = .filtered earlier ∧ second = .filtered later ∧
      Selector.parse (a ++ "," ++ b) = .ok (.filtered (earlier ++ later)) := by
  obtain ⟨earlier, readA, rfl⟩ := parse_eq_ok_iff_readAll.mp left
  obtain ⟨later, readB, rfl⟩ := parse_eq_ok_iff_readAll.mp right
  refine ⟨earlier, later, rfl, rfl, ?_⟩
  rw [parse_joined, readA, readB]
  rfl

/-- If the first text is refused, the whole is for the same fault. -/
theorem parse_append_of_error_left (left : Selector.parse a = .error e) :
    Selector.parse (a ++ "," ++ b) = .error (e.about (a ++ "," ++ b)) := by
  obtain ⟨fault, readA, rfl⟩ := parse_eq_error_iff_readAll.mp left
  rw [parse_joined, readA, EntryFault.about_within]
  rfl

/-- If only the second text is refused, the whole is for the same fault. -/
theorem parse_append_of_error_right (left : Selector.parse a = .ok first)
    (right : Selector.parse b = .error e) :
    Selector.parse (a ++ "," ++ b) = .error (e.about (a ++ "," ++ b)) := by
  obtain ⟨earlier, readA, -⟩ := parse_eq_ok_iff_readAll.mp left
  obtain ⟨fault, readB, rfl⟩ := parse_eq_error_iff_readAll.mp right
  rw [parse_joined, readA, readB, EntryFault.about_within]
  rfl

end

/-- Two texts joined by a comma are read exactly when both are, as the filters of the first and
then those of the second, and every device scores the larger of its two scores. If the first
is refused the whole is for the same fault, and else for that of the second; only the text
that the complaint is about is then the whole. -/
theorem parse_append_comma (a b : String) :
    ((∃ s, Selector.parse (a ++ "," ++ b) = .ok s) ↔
        (∃ s, Selector.parse a = .ok s) ∧ ∃ s, Selector.parse b = .ok s) ∧
      (∀ first second, Selector.parse a = .ok first → Selector.parse b = .ok second →
        ∃ earlier later, first = .filtered earlier ∧ second = .filtered later ∧
          Selector.parse (a ++ "," ++ b) = .ok (.filtered (earlier ++ later)) ∧
          ∀ kinds, (Selector.filtered (earlier ++ later)).scores kinds =
            List.zipWith max (first.scores kinds) (second.scores kinds)) ∧
      (∀ e, Selector.parse a = .error e →
        Selector.parse (a ++ "," ++ b) = .error (e.about (a ++ "," ++ b))) ∧
      ∀ first e, Selector.parse a = .ok first → Selector.parse b = .error e →
        Selector.parse (a ++ "," ++ b) = .error (e.about (a ++ "," ++ b)) := by
  refine ⟨⟨?_, ?_⟩, ?_, fun e => parse_append_of_error_left,
    fun first e => parse_append_of_error_right⟩
  · rintro ⟨s, readBoth⟩
    cases readA : Selector.parse a with
    | error e =>
      rw [parse_append_of_error_left readA] at readBoth
      cases readBoth
    | ok first =>
      cases readB : Selector.parse b with
      | error e =>
        rw [parse_append_of_error_right readA readB] at readBoth
        cases readBoth
      | ok second => exact ⟨⟨first, rfl⟩, ⟨second, rfl⟩⟩
  · rintro ⟨⟨first, readA⟩, ⟨second, readB⟩⟩
    obtain ⟨earlier, later, -, -, both⟩ := parse_append_of_ok readA readB
    exact ⟨_, both⟩
  · intro first second readA readB
    obtain ⟨earlier, later, rfl, rfl, both⟩ := parse_append_of_ok readA readB
    exact ⟨earlier, later, rfl, rfl, both, scores_append earlier later⟩

/-- Behind the last comma stands an entry too. -/
example : Selector.parse ("gpu" ++ "," ++ "") = .error (.empty "gpu,") := by rfl

end ComputeHandles
