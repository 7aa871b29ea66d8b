import Mathlib.Data.List.TakeWhile
import ComputeHandles.Text.Blank

/-!
# What trimming leaves

A text is what trimming leaves of it with blanks in front and behind. What is left starts
and ends with characters that are not blank, and blanks added to the ends of a text are
not seen.
-/

namespace ComputeHandles.Text

variable {cs front back : List Char}

/-- Blanks in front do not count. -/
theorem trimStart_append_of_blank (blank : ∀ c ∈ front, isBlank c = true) (cs : List Char) :
    trimStart (front ++ cs) = trimStart cs :=
  List.dropWhile_append_of_pos blank

/-- Blanks behind do not count. -/
theorem trimEnd_append_of_blank (blank : ∀ c ∈ back, isBlank c = true) (cs : List Char) :
    trimEnd (cs ++ back) = trimEnd cs := by
  have reversed : ∀ c ∈ back.reverse, isBlank c = true := fun c mem =>
    blank c (List.mem_reverse.mp mem)
  rw [trimEnd, List.reverse_append, List.dropWhile_append_of_pos reversed, trimEnd]

/-- A text is left with nothing in front exactly when all of it is blank. -/
theorem trimStart_eq_nil_iff : trimStart cs = [] ↔ ∀ c ∈ cs, isBlank c = true :=
  List.dropWhile_eq_nil_iff

/-- Blanks at the two ends do not count. -/
theorem trim_append_of_blank (inFront : ∀ c ∈ front, isBlank c = true)
    (behind : ∀ c ∈ back, isBlank c = true) (cs : List Char) :
    trim (front ++ cs ++ back) = trim cs := by
  rw [trim, trim, List.append_assoc, trimStart_append_of_blank inFront]
  by_cases solid : trimStart cs = []
  · have all : ∀ c ∈ cs ++ back, isBlank c = true := fun c mem =>
      (List.mem_append.mp mem).elim (trimStart_eq_nil_iff.mp solid c) (behind c)
    rw [solid, trimStart_eq_nil_iff.mpr all]
  · have kept : trimStart (cs ++ back) = trimStart cs ++ back := by
      rw [trimStart, List.dropWhile_append, if_neg (by simpa [trimStart] using solid)]
      rfl
    rw [kept, trimEnd_append_of_blank behind]

/-- A text is what is left of it between blanks. -/
theorem exists_eq_append_trim (cs : List Char) :
    ∃ front back, cs = front ++ trim cs ++ back ∧ (∀ c ∈ front, isBlank c = true) ∧
      ∀ c ∈ back, isBlank c = true := by
  have start : cs = cs.takeWhile isBlank ++ trimStart cs := List.takeWhile_append_dropWhile.symm
  have finish : trimStart cs = trim cs ++ ((trimStart cs).reverse.takeWhile isBlank).reverse := by
    rw [trim, trimEnd, ← List.reverse_append, List.takeWhile_append_dropWhile,
      List.reverse_reverse]
  have behind : ∀ c ∈ ((trimStart cs).reverse.takeWhile isBlank).reverse, isBlank c = true :=
    fun c mem => List.mem_takeWhile_imp (List.mem_reverse.mp mem)
  refine ⟨cs.takeWhile isBlank, _, ?_, fun c mem => List.mem_takeWhile_imp mem, behind⟩
  rw [List.append_assoc, ← finish]
  exact start

/-- What is left stands in the text. -/
theorem isInfix_trim (cs : List Char) : trim cs <:+: cs := by
  obtain ⟨front, back, whole, -, -⟩ := exists_eq_append_trim cs
  exact ⟨front, back, whole.symm⟩

/-- What is left does not start with a blank. -/
theorem isBlank_head?_trim {c : Char} (first : c ∈ (trim cs).head?) : isBlank c = false := by
  have within : trim cs <+: trimStart cs := by
    rw [trim, trimEnd, ← List.reverse_suffix, List.reverse_reverse]
    exact List.dropWhile_suffix _
  have same : (trimStart cs).head? = some c := by
    obtain ⟨rest, whole⟩ := within
    rw [← whole, List.head?_append, Option.mem_def.mp first]
    rfl
  have solid := List.head?_dropWhile_not isBlank cs
  rw [show cs.dropWhile isBlank = trimStart cs from rfl, same] at solid
  simpa using solid

/-- What is left does not end with a blank. -/
theorem isBlank_getLast?_trim {c : Char} (last : c ∈ (trim cs).getLast?) : isBlank c = false := by
  have solid := List.head?_dropWhile_not isBlank (trimStart cs).reverse
  rw [Option.mem_def, trim, trimEnd, List.getLast?_reverse] at last
  rw [last] at solid
  simpa using solid

end ComputeHandles.Text
