import Mathlib.Logic.Relation
import ComputeHandles.Proofs.Listing
import ComputeHandles.Proofs.Spirv.Orderly
import ComputeHandles.Spirv.KernelModule

/-!
# Loading as steps

Loading takes one instruction after the other. A step reads the next instruction, places
it and goes on behind its words, all of which are there; what comes of loading does not
change along the way. So every outcome is decided at the place where the steps end: at
the end of the binary, or before an instruction that cannot be read or placed.
-/

namespace ComputeHandles.Spirv

open Listing

/-- Where loading stands between two instructions. -/
structure Loading where
  /-- The number types so far. -/
  types : NumberTypes
  /-- What the instructions so far amount to. -/
  layout : Layout
  /-- The number of the next instruction. -/
  number : Nat
  /-- Number of words of the binary in front of the next instruction. -/
  position : Nat
  /-- The words of the binary from the next instruction on. -/
  rest : List UInt32

namespace Loading

/-- Loading stands behind the header. -/
def start (body : List UInt32) : Loading := ⟨[], Layout.empty, 1, 5, body⟩

/-- What comes of loading from here on. -/
def outcome (s : Loading) : Except LoadFault Layout :=
  loadFrom s.types s.layout s.number s.position 0 s.rest

/-- The outcome of reading the next instruction, which starts with a word. -/
def read (s : Loading) (first : UInt32) (rest : List UInt32) : Except LoadFault Instruction :=
  Instruction.read s.types s.number s.position first rest

/-- Loading stands behind an instruction that was read and placed. -/
def behind (s : Loading) (i : Instruction) (next : Layout) (count : Nat) : Loading :=
  ⟨s.types.after i, next, s.number + 1, s.position + count, s.rest.drop count⟩

/-- Loading goes on behind the next instruction once it is read and placed. -/
inductive Step (s : Loading) : Loading → Prop where
  /-- The step over one instruction. -/
  | taken {first : UInt32} {rest : List UInt32} {i : Instruction} {next : Layout}
      (words : s.rest = first :: rest) (read : s.read first rest = .ok i)
      (placed : s.layout.place i = .ok next) : Step s (s.behind i next (wordCount first))

end Loading

/-- An instruction with words and a known opcode is read by its operands. -/
theorem Instruction.read_eq {types : NumberTypes} {number position : Nat} {first : UInt32}
    {rest : List UInt32} {opcode : Opcode} (counted : wordCount first ≠ 0)
    (known : Opcode.ofNumber? (opcodeNumber first) = some opcode) :
    Instruction.read types number position first rest =
      (Instruction.readWhole types number opcode
        ⟨position + 1, wordCount first - 1, rest⟩).map Prod.fst := by
  rw [Instruction.read, if_neg counted, known]
  change (Prod.fst <$> Instruction.readWhole types number opcode
    ⟨position + 1, wordCount first - 1, rest⟩ : Except LoadFault Instruction) = _
  rfl

/-- An instruction that was read has words and a known opcode. -/
theorem Instruction.exists_readWhole_of_read {types : NumberTypes} {number position : Nat}
    {first : UInt32} {rest : List UInt32} {i : Instruction}
    (h : Instruction.read types number position first rest = .ok i) :
    wordCount first ≠ 0 ∧ ∃ opcode c, Opcode.ofNumber? (opcodeNumber first) = some opcode ∧
      Instruction.readWhole types number opcode ⟨position + 1, wordCount first - 1, rest⟩ =
        .ok (i, c) := by
  by_cases counted : wordCount first = 0
  · rw [Instruction.read, if_pos counted] at h
    cases h
  · refine ⟨counted, ?_⟩
    cases known : Opcode.ofNumber? (opcodeNumber first) with
    | none =>
      rw [Instruction.read, if_neg counted, known] at h
      cases h
    | some opcode =>
      rw [Instruction.read_eq counted known, map_eq_ok_iff] at h
      obtain ⟨⟨j, c⟩, whole, rfl⟩ := h
      exact ⟨opcode, c, rfl, whole⟩

/-- A whole instruction that was read has no words left. -/
theorem Instruction.limit_eq_zero_of_readWhole {types : NumberTypes} {number : Nat}
    {opcode : Opcode} {c c' : Cursor} {i : Instruction}
    (h : Instruction.readWhole types number opcode c = .ok (i, c')) : c'.limit = 0 := by
  obtain ⟨j, between, -, last⟩ := exists_of_bind_ok h
  rw [get_bind] at last
  by_cases limit : between.limit = 0
  · rw [if_pos limit] at last
    cases last
    exact limit
  · rw [if_neg limit] at last
    cases last

/-- All words of an instruction that was read are there. -/
theorem Instruction.wordCount_le_of_read {types : NumberTypes} {number position : Nat}
    {first : UInt32} {rest : List UInt32} {i : Instruction}
    (h : Instruction.read types number position first rest = .ok i) :
    0 < wordCount first ∧ wordCount first ≤ rest.length + 1 := by
  obtain ⟨counted, opcode, c, -, whole⟩ := exists_readWhole_of_read h
  obtain ⟨count, inside, there, rfl⟩ := (orderly_readWhole opcode _).advances whole
  have limit := limit_eq_zero_of_readWhole whole
  simp only [Cursor.advance] at limit inside there
  exact ⟨by omega, by omega⟩

namespace Loading

variable {s s' : Loading}

/-- At the end of the binary nothing may be open. -/
theorem outcome_of_ended (rest : s.rest = []) : s.outcome = placed s.layout.finish := by
  rw [outcome, rest, loadFrom]

/-- An instruction that cannot be read decides the outcome. -/
theorem outcome_of_unread {first : UInt32} {rest : List UInt32} {fault : LoadFault}
    (words : s.rest = first :: rest) (read : s.read first rest = .error fault) :
    s.outcome = .error fault := by
  rw [outcome, words, loadFrom]
  change (s.read first rest >>= _) = _
  rw [read]
  rfl

/-- An instruction that was read is placed, and then loading goes on behind it. -/
theorem outcome_of_read {first : UInt32} {rest : List UInt32} {i : Instruction}
    (words : s.rest = first :: rest) (read : s.read first rest = .ok i) :
    s.outcome = placed (s.layout.place i) >>= fun next =>
      loadFrom (s.types.after i) next (s.number + 1) (s.position + 1) (wordCount first - 1)
        rest := by
  rw [outcome, words, loadFrom]
  change (s.read first rest >>= _) = _
  rw [read]
  rfl

/-- A step does not change what comes of loading. -/
theorem Step.outcome_eq (h : Step s s') : s.outcome = s'.outcome := by
  obtain @⟨first, rest, i, next, words, read, fits⟩ := h
  obtain ⟨counted, there⟩ := Instruction.wordCount_le_of_read read
  rw [outcome_of_read words read, fits]
  change loadFrom _ next _ _ (wordCount first - 1) rest = _
  have back : wordCount first - 1 + 1 = wordCount first := by omega
  have position : s.position + 1 + (wordCount first - 1) = s.position + wordCount first := by omega
  rw [loadFrom_skip _ _ _ _ _ _ (by omega), outcome, behind, words, position,
    ← List.drop_succ_cons (a := first), back]

/-- A step leaves fewer words. -/
theorem Step.length_lt (h : Step s s') : s'.rest.length < s.rest.length := by
  obtain @⟨first, rest, i, next, words, read, fits⟩ := h
  obtain ⟨counted, there⟩ := Instruction.wordCount_le_of_read read
  simp only [behind, List.length_drop, words, List.length_cons]
  omega

/-- A step does not change the size of the binary. -/
theorem Step.size_eq (h : Step s s') :
    s'.position + s'.rest.length = s.position + s.rest.length := by
  obtain @⟨first, rest, i, next, words, read, fits⟩ := h
  obtain ⟨counted, there⟩ := Instruction.wordCount_le_of_read read
  simp only [behind, List.length_drop, words, List.length_cons]
  omega

/-- Steps do not change what comes of loading. -/
theorem outcome_eq_of_steps (h : Relation.ReflTransGen Step s s') : s.outcome = s'.outcome := by
  induction h with
  | refl => rfl
  | tail _ step ih => rw [ih, step.outcome_eq]

/-- Steps do not change the size of the binary. -/
theorem size_eq_of_steps (h : Relation.ReflTransGen Step s s') :
    s'.position + s'.rest.length = s.position + s.rest.length := by
  induction h with
  | refl => rfl
  | tail _ step ih => rw [step.size_eq, ih]

/-- Loading stops at the end of the binary or before an instruction that cannot be read or
placed. -/
inductive Stopped (s : Loading) : Prop where
  /-- Nothing is left to read. -/
  | ended (rest : s.rest = [])
  /-- The next instruction cannot be read. -/
  | unread {first : UInt32} {rest : List UInt32} {fault : LoadFault}
      (words : s.rest = first :: rest) (read : s.read first rest = .error fault)
  /-- The next instruction cannot be placed. -/
  | unplaced {first : UInt32} {rest : List UInt32} {i : Instruction} {fault : LayoutError}
      (words : s.rest = first :: rest) (read : s.read first rest = .ok i)
      (placed : s.layout.place i = .error fault)

/-- Loading has stopped or takes a step. -/
theorem stopped_or_step (s : Loading) : s.Stopped ∨ ∃ s', Step s s' := by
  cases words : s.rest with
  | nil => exact .inl (.ended words)
  | cons first rest =>
    cases read : s.read first rest with
    | error fault => exact .inl (.unread words read)
    | ok i =>
      cases placed : s.layout.place i with
      | error fault => exact .inl (.unplaced words read placed)
      | ok next => exact .inr ⟨_, .taken words read placed⟩

/-- The steps of loading end where it stops. -/
theorem exists_stopped (s : Loading) : ∃ s', Relation.ReflTransGen Step s s' ∧ s'.Stopped := by
  induction left : s.rest.length using Nat.strongRecOn generalizing s with
  | ind n ih =>
    rcases s.stopped_or_step with stopped | ⟨between, step⟩
    · exact ⟨s, .refl, stopped⟩
    · obtain ⟨s', steps, stopped⟩ := ih _ (left ▸ step.length_lt) between rfl
      exact ⟨s', .head step steps, stopped⟩

/-- Placing instructions never breaks off. -/
theorem placed_ne_overrun {α : Type} (outcome : Except LayoutError α) (stop size : Nat) :
    placed outcome ≠ .error (.overrun stop size) := by
  cases outcome <;> exact nofun

/-- Loading breaks off exactly when its steps lead to an instruction that breaks off. -/
theorem outcome_eq_overrun_iff {stop size : Nat} :
    s.outcome = .error (.overrun stop size) ↔
      ∃ s' first rest, Relation.ReflTransGen Step s s' ∧ s'.rest = first :: rest ∧
        s'.read first rest = .error (.overrun stop size) := by
  constructor
  · intro h
    obtain ⟨s', steps, stopped⟩ := s.exists_stopped
    rw [outcome_eq_of_steps steps] at h
    cases stopped with
    | ended rest =>
      rw [outcome_of_ended rest] at h
      exact absurd h (placed_ne_overrun _ stop size)
    | unread words read =>
      rw [outcome_of_unread words read] at h
      cases h
      exact ⟨s', _, _, steps, words, read⟩
    | unplaced words read placed =>
      rw [outcome_of_read words read, placed] at h
      cases h
  · rintro ⟨s', first, rest, steps, words, read⟩
    rw [outcome_eq_of_steps steps, outcome_of_unread words read]

/-- Loading comes to an end exactly when its steps lead to the end of the binary with nothing
open, and then to what these steps amount to. -/
theorem outcome_eq_ok_iff {layout : Layout} :
    s.outcome = .ok layout ↔
      ∃ s', Relation.ReflTransGen Step s s' ∧ s'.rest = [] ∧ s'.layout = layout ∧
        layout.scope = .outside := by
  have finished (l : Layout) :
      placed l.finish = .ok layout ↔ l = layout ∧ layout.scope = .outside := by
    rw [placed, mapError_eq_ok_iff, Layout.finish]
    cases open_ : l.scope with
    | outside =>
      refine ⟨fun h => ?_, fun h => congrArg Except.ok h.1⟩
      cases h
      exact ⟨rfl, open_⟩
    | inFunction f | inBlock f =>
      refine iff_of_false nofun fun h => ?_
      rw [← h.1, open_] at h
      cases h.2
  constructor
  · intro h
    obtain ⟨s', steps, stopped⟩ := s.exists_stopped
    rw [outcome_eq_of_steps steps] at h
    cases stopped with
    | ended rest =>
      rw [outcome_of_ended rest, finished] at h
      exact ⟨s', steps, rest, h⟩
    | unread words read =>
      rw [outcome_of_unread words read] at h
      cases h
    | unplaced words read placed =>
      rw [outcome_of_read words read, placed] at h
      cases h
  · rintro ⟨s', steps, rest, same, closed⟩
    rw [outcome_eq_of_steps steps, outcome_of_ended rest, finished]
    exact ⟨same, closed⟩

end Loading

/-- A program is what comes of loading the words behind the header. -/
theorem Program.load_eq (magic version generator bound schema : UInt32) (body : List UInt32) :
    Program.load (magic :: version :: generator :: bound :: schema :: body) =
      (Loading.start body).outcome.map fun layout =>
        ⟨Version.ofWord version, layout.entryPoints, layout.functions⟩ := by
  rw [Program.load]
  change ((Loading.start body).outcome >>= _) = _
  cases (Loading.start body).outcome <;> rfl

/-- Words that are loaded start with a header, and what is behind it loads. -/
theorem Program.exists_of_load {words : List UInt32} {p : Program} (h : load words = .ok p) :
    ∃ magic version generator bound schema body layout,
      words = magic :: version :: generator :: bound :: schema :: body ∧
        (Loading.start body).outcome = .ok layout ∧
          p = ⟨Version.ofWord version, layout.entryPoints, layout.functions⟩ := by
  match words, h with
  | magic :: version :: generator :: bound :: schema :: body, h =>
    rw [load_eq, map_eq_ok_iff] at h
    obtain ⟨layout, loaded, same⟩ := h
    exact ⟨magic, version, generator, bound, schema, body, layout, rfl, loaded, same.symm⟩
  | [], h | [_], h | [_, _], h | [_, _, _], h | [_, _, _, _], h => cases h

/-- A binary that is there and has whole words is inspected by its words. -/
theorem KernelModule.parse_of_aligned {bytes : List UInt8} (there : bytes ≠ [])
    (aligned : bytes.length % 4 = 0) : parse bytes = ofWords (wordsOfBytes bytes) := by
  rw [parse, if_neg there, if_neg (not_not.mpr aligned)]

/-- Bytes that are not whole words are reported with their number. -/
theorem KernelModule.parse_of_misaligned {bytes : List UInt8} (misaligned : bytes.length % 4 ≠ 0) :
    parse bytes = .error (.invalid (.misaligned bytes.length)) := by
  have there : bytes ≠ [] := by
    rintro rfl
    exact misaligned rfl
  rw [parse, if_neg there, if_pos misaligned]

/-- Words that start with another word than the magic number are reported with that. -/
theorem KernelModule.ofWords_of_otherMagic {words : List UInt32}
    (other : words.headD 0 ≠ Spirv.magicNumber) :
    ofWords words = .error (.invalid (.magicNumber (words.headD 0) Spirv.magicNumber)) := by
  rw [ofWords, if_pos other]

/-- Words with the magic number that are a program are reduced to its kernels. -/
theorem KernelModule.ofWords_of_loaded {words : List UInt32} {p : Program}
    (magic : words.headD 0 = Spirv.magicNumber) (loaded : Program.load words = .ok p) :
    ofWords words = p.kernelModule.mapError .invalid := by
  rw [ofWords, if_neg (not_not.mpr magic), loaded]
  rfl

/-- Words with the magic number that are no program fail as these do. -/
theorem KernelModule.ofWords_of_fault {words : List UInt32} {fault : LoadFault}
    (magic : words.headD 0 = Spirv.magicNumber) (loaded : Program.load words = .error fault) :
    ofWords words = .error fault.toInspectionFault := by
  rw [ofWords, if_neg (not_not.mpr magic), loaded]
  rfl

end ComputeHandles.Spirv
