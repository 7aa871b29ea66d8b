import Mathlib
import ComputeHandles.Text.Blank

/-!
# Texts up to the case of letters

Two texts are the same but for case when they have the same characters in the same places,
except that an ASCII letter may be a capital in one of them and small in the other. Such texts
have one lower case, and a text without letters is only the same as itself.
-/

namespace ComputeHandles.Text

/-- A capital ASCII letter and the same letter in lower case, which is 32 further on. -/
def IsCapitalOf (capital small : Char) : Prop :=
  capital.isUpper = true ∧ small.toNat = capital.toNat + 32

/-- Characters that are equal or the two cases of an ASCII letter. -/
def SameLetter (c d : Char) : Prop := c = d ∨ IsCapitalOf c d ∨ IsCapitalOf d c

/-- Texts of the same characters but for the case of ASCII letters. -/
def SameButCase (p q : List Char) : Prop := List.Forall₂ SameLetter p q

instance (capital small : Char) : Decidable (IsCapitalOf capital small) :=
  inferInstanceAs (Decidable (_ ∧ _))

instance (c d : Char) : Decidable (SameLetter c d) := inferInstanceAs (Decidable (_ ∨ _))

instance (p q : List Char) : Decidable (SameButCase p q) :=
  inferInstanceAs (Decidable (List.Forall₂ _ p q))

/-- The capital letters stand from 65 to 90. -/
theorem isUpper_iff {c : Char} : c.isUpper = true ↔ 65 ≤ c.toNat ∧ c.toNat ≤ 90 := by
  simp [Char.isUpper, UInt32.le_iff_toNat_le, ← Char.toNat_val]

variable {c d : Char} {p q : List Char}

/-- In lower case a capital letter is the small one. -/
theorem IsCapitalOf.toLower_eq (h : IsCapitalOf c d) : c.toLower = d.toLower := by
  obtain ⟨capital, small⟩ := h
  have range : 65 ≤ c.toNat ∧ c.toNat ≤ 90 := isUpper_iff.mp capital
  have notCapital : ¬ d.isUpper = true := by
    rw [isUpper_iff]
    omega
  rw [Char.toLower_eq_of_isUpper capital, Char.toLower_eq_of_not_isUpper notCapital, ← small,
    Char.ofNat_toNat]

/-- The two cases of a letter have one lower case. -/
theorem SameLetter.toLower_eq (h : SameLetter c d) : c.toLower = d.toLower := by
  rcases h with same | capital | small
  · rw [same]
  · exact capital.toLower_eq
  · exact small.toLower_eq.symm

/-- A character in front of all letters is only the same as itself. -/
theorem SameLetter.eq_of_lt (h : SameLetter c d) (inFront : c.toNat < 65) : c = d := by
  rcases h with same | ⟨capital, small⟩ | ⟨capital, small⟩
  · exact same
  · have range := isUpper_iff.mp capital
    omega
  · have range := isUpper_iff.mp capital
    omega

/-- Which of two texts comes first does not matter. -/
theorem SameButCase.symm (h : SameButCase p q) : SameButCase q p := by
  have swapped : ∀ c d, SameLetter c d → SameLetter d c := fun c d same =>
    same.elim (fun equal => .inl equal.symm) fun cases => .inr cases.symm
  exact List.Forall₂.flip (h.imp swapped)

/-- Texts that are the same but for case have one lower case. -/
theorem SameButCase.lower_eq (h : SameButCase p q) : lower p = lower q := by
  induction h with
  | nil => rfl
  | cons first rest ih =>
    rw [lower, lower, List.map_cons, List.map_cons, first.toLower_eq]
    exact congrArg _ ih

/-- A text of characters in front of all letters is only the same as itself. -/
theorem SameButCase.eq_of_lt (h : SameButCase p q) (inFront : ∀ c ∈ p, c.toNat < 65) : p = q := by
  induction h with
  | nil => rfl
  | cons first rest ih =>
    obtain ⟨head, tail⟩ := List.forall_mem_cons.mp inFront
    rw [first.eq_of_lt head, ih tail]

end ComputeHandles.Text
