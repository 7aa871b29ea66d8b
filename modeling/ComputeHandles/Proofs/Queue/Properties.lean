import Mathlib.Data.List.Induction
import Mathlib.Data.Nat.Bitwise
import ComputeHandles.Queue.Properties

/-!
# The bits of queue properties

A number is a set of properties exactly when no bit of it is set but the second and the
third. Any other number is refused as a whole. Properties that are changed one at a time
have what each was given last, and are read back from their number.
-/

namespace ComputeHandles.QueueProperties

variable {bits : UInt32} {p : QueueProperties}

/-- A bit of a number is none of the two that stand for properties. -/
def HasUnknownBit (bits : UInt32) : Prop := ∃ i, bits.toNat.testBit i = true ∧ i ≠ 1 ∧ i ≠ 2

/-- The bits of all properties together are the second and the third. -/
theorem getLsbD_known (i : Nat) :
    (profilingBit ||| inOrderBit).toBitVec.getLsbD i = decide (i = 1 ∨ i = 2) := by
  by_cases inside : i < 32
  · have each : ∀ j : Fin 32, (profilingBit ||| inOrderBit).toBitVec.getLsbD j =
        decide (j.val = 1 ∨ j.val = 2) := by decide
    exact each ⟨i, inside⟩
  · have neither : ¬ (i = 1 ∨ i = 2) := by omega
    rw [BitVec.getLsbD_of_ge _ i (by omega), decide_eq_false neither]

/-- What is left of a number without the properties are its unknown bits. -/
theorem getLsbD_unknown (i : Nat) :
    (bits &&& ~~~(profilingBit ||| inOrderBit)).toBitVec.getLsbD i = true ↔
      bits.toNat.testBit i = true ∧ i ≠ 1 ∧ i ≠ 2 := by
  have bit : bits.toBitVec.getLsbD i = bits.toNat.testBit i := rfl
  rw [UInt32.toBitVec_and, UInt32.toBitVec_not, BitVec.getLsbD_and, BitVec.getLsbD_not,
    getLsbD_known, bit]
  by_cases inside : i < 32
  · simp [inside]
  · have unset : bits.toNat.testBit i = false := BitVec.getLsbD_of_ge bits.toBitVec i (by omega)
    simp [unset]

/-- Nothing is left of a number without the properties exactly when it has no unknown bit. -/
theorem mask_eq_zero_iff :
    bits &&& ~~~(profilingBit ||| inOrderBit) = 0 ↔ ¬ HasUnknownBit bits := by
  constructor
  · rintro zero ⟨i, unknown⟩
    have left := getLsbD_unknown i |>.mpr unknown
    rw [zero] at left
    simp at left
  · intro known
    refine UInt32.toBitVec_inj.mp (BitVec.eq_of_getLsbD_eq fun i _ => ?_)
    have unset := mt (getLsbD_unknown i).mp fun unknown => known ⟨i, unknown⟩
    simpa using unset

/-- A number with an unknown bit is refused, and no other. -/
theorem ofBits_eq_error_iff {e : InvalidQueueProperties} :
    ofBits bits = .error e ↔ HasUnknownBit bits ∧ e = ⟨bits⟩ := by
  rw [ofBits]
  by_cases unknown : HasUnknownBit bits
  · have left := mt mask_eq_zero_iff.mp (not_not_intro unknown)
    rw [if_pos left]
    simp [unknown, eq_comm]
  · have nothing := mask_eq_zero_iff.mpr unknown
    rw [if_neg (not_not_intro nothing)]
    simp [unknown]

/-- A number is read exactly when it has no unknown bit. -/
theorem exists_ofBits_iff : (∃ p, ofBits bits = .ok p) ↔ ¬ HasUnknownBit bits := by
  constructor
  · rintro ⟨p, read⟩ unknown
    cases read.symm.trans (ofBits_eq_error_iff.mpr ⟨unknown, rfl⟩)
  · intro known
    cases read : ofBits bits with
    | ok p => exact ⟨p, rfl⟩
    | error e => exact absurd (ofBits_eq_error_iff.mp read).1 known

/-- The bits of properties are the second if work is profiled and the third if it is in order. -/
theorem testBit_bits (p : QueueProperties) (i : Nat) :
    p.bits.toNat.testBit i = (p.profiling && decide (1 = i) || p.inOrder && decide (2 = i)) := by
  have second : Nat.testBit (2 ^ 1) i = decide (1 = i) := Nat.testBit_two_pow
  have third : Nat.testBit (2 ^ 2) i = decide (2 = i) := Nat.testBit_two_pow
  obtain ⟨profiling, inOrder⟩ := p
  rw [QueueProperties.bits, UInt32.toNat_or, Nat.testBit_or, ← second, ← third]
  cases profiling <;> cases inOrder <;> simp [profilingBit, inOrderBit]

/-- A number has a bit exactly when something is left of it with that bit alone. -/
theorem and_ne_zero_iff {bit : UInt32} {i : Nat} (alone : bit.toNat = 2 ^ i) :
    bits &&& bit ≠ 0 ↔ bits.toNat.testBit i = true := by
  have left : (bits &&& bit).toNat = (bits.toNat.testBit i).toNat * 2 ^ i := by
    rw [UInt32.toNat_and, alone, Nat.and_two_pow]
  rw [ne_eq, ← UInt32.toNat_inj, left]
  cases bits.toNat.testBit i <;> simp

/-- A number that is read has the bits of what it is read as. -/
theorem bits_of_ofBits (read : ofBits bits = .ok p) : p.bits = bits := by
  have known : ¬ HasUnknownBit bits := exists_ofBits_iff.mp ⟨p, read⟩
  have profiling : bits &&& profilingBit ≠ 0 ↔ _ := and_ne_zero_iff (i := 1) rfl
  have inOrder : bits &&& inOrderBit ≠ 0 ↔ _ := and_ne_zero_iff (i := 2) rfl
  rw [ofBits, if_neg (not_not_intro (mask_eq_zero_iff.mpr known))] at read
  cases read
  refine UInt32.toNat_inj.mp (Nat.eq_of_testBit_eq fun i => ?_)
  rw [testBit_bits, Bool.eq_iff_iff]
  simp only [profiling, inOrder, Bool.or_eq_true, Bool.and_eq_true, decide_eq_true_eq]
  constructor
  · rintro (⟨set, rfl⟩ | ⟨set, rfl⟩)
    · exact set
    · exact set
  · intro set
    by_cases second : 1 = i
    · exact .inl ⟨second ▸ set, second⟩
    · by_cases third : 2 = i
      · exact .inr ⟨third ▸ set, third⟩
      · exact absurd ⟨i, set, Ne.symm second, Ne.symm third⟩ known

/-- A number is read exactly as the properties that it is the number of. -/
theorem ofBits_eq_ok_iff : ofBits bits = .ok p ↔ p.bits = bits := by
  refine ⟨bits_of_ofBits, ?_⟩
  rintro rfl
  exact ofBits_bits p

/-- The second bit of a number says whether work is profiled. -/
theorem profiling_of_bits (same : p.bits = bits) : p.profiling = bits.toNat.testBit 1 := by
  simp [← same, testBit_bits]

/-- The third bit of a number says whether work runs in order. -/
theorem inOrder_of_bits (same : p.bits = bits) : p.inOrder = bits.toNat.testBit 2 := by
  simp [← same, testBit_bits]

/-- A change to properties. -/
inductive Update where
  /-- Work is profiled or not, as given. -/
  | profiling (value : Bool)
  /-- Work runs in order or not, as given. -/
  | inOrder (value : Bool)

/-- The properties with a change made to them. -/
def Update.apply (p : QueueProperties) : Update → QueueProperties
  | .profiling value => p.withProfiling value
  | .inOrder value => p.withInOrder value

/-- What a change gives to profiling, if it is about that. -/
def Update.profiling? : Update → Option Bool
  | .profiling value => some value
  | .inOrder _ => none

/-- What a change gives to the order, if it is about that. -/
def Update.inOrder? : Update → Option Bool
  | .profiling _ => none
  | .inOrder value => some value

/-- The properties after changes, first to last, to those that are neither profiled nor in
order. -/
def ofUpdates (updates : List Update) : QueueProperties := updates.foldl Update.apply empty

/-- After changes each property is what it was given last, and does not hold if it was given
nothing. -/
theorem ofUpdates_eq (updates : List Update) : ofUpdates updates =
    ⟨(updates.filterMap Update.profiling?).getLast?.getD false,
      (updates.filterMap Update.inOrder?).getLast?.getD false⟩ := by
  -- The last change decides about its own property and leaves the other one alone.
  induction updates using List.reverseRecOn with
  | nil => rfl
  | append_singleton updates update ih =>
    rw [ofUpdates] at ih ⊢
    rw [List.foldl_append, ih, List.filterMap_append, List.filterMap_append]
    cases update with
    | profiling value => simp [Update.apply, withProfiling, Update.profiling?, Update.inOrder?]
    | inOrder value => simp [Update.apply, withInOrder, Update.profiling?, Update.inOrder?]

end ComputeHandles.QueueProperties
