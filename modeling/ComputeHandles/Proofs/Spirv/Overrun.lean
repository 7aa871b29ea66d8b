import ComputeHandles.Proofs.Spirv.Loading
import ComputeHandles.Proofs.Spirv.Slots

/-!
# Binaries that break loading off

A binary that is no kernel module is reported, with one exception: an instruction that
claims more words than the binary has left, whose operands in front of its first text
are there. Everything before that instruction is in order, or its report would come first.
-/

namespace ComputeHandles.Spirv

open Listing

/-- Reading breaks off. -/
def BreaksOff {α : Type} (r : Reader α) (c : Cursor) : Prop :=
  ∃ stop size, r c = .error (.overrun stop size)

/-- The decorations that are followed by a text at once: the names of linked symbols and
of types and values in the languages that were compiled. -/
def textDecorations : List UInt32 := [41, 5635, 5636, 5826, 5834]

/-- The words in front of the first text of an instruction that has one. -/
inductive BeforeText : Opcode → List UInt32 → Prop where
  /-- More of a source text. -/
  | sourceContinued : BeforeText .opSourceContinued []
  /-- The name of an extension. -/
  | extension : BeforeText .opExtension []
  /-- The name of a tool. -/
  | moduleProcessed : BeforeText .opModuleProcessed []
  /-- The name of an id. -/
  | name (id : UInt32) : BeforeText .opName [id]
  /-- A text with an id. -/
  | string (id : UInt32) : BeforeText .opString [id]
  /-- The name of an instruction set. -/
  | extInstImport (id : UInt32) : BeforeText .opExtInstImport [id]
  /-- A source text, after its language, the version of this and the id of its file. -/
  | source {language : UInt32} (version file : UInt32)
      (accepted : Choice.sourceLanguage.accepts language = true) :
      BeforeText .opSource [language, version, file]
  /-- The name of an entry point, after its model and the id of its function. -/
  | entryPoint {model : UInt32} (function : UInt32)
      (accepted : Choice.executionModel.accepts model = true) :
      BeforeText .opEntryPoint [model, function]
  /-- The text of a decoration, after the id that it decorates. -/
  | decorate (id : UInt32) {decoration : UInt32} (named : decoration ∈ textDecorations) :
      BeforeText .opDecorate [id, decoration]

/-- An instruction claims more words than the binary has, and the words in front of its
first text are there. -/
inductive CutInText (first : UInt32) (rest : List UInt32) : Prop where
  /-- The words in front of the text and what is there of the text. -/
  | intro {opcode : Opcode} {before after : List UInt32}
      (known : Opcode.ofNumber? (opcodeNumber first) = some opcode)
      (text : BeforeText opcode before) (there : rest = before ++ after)
      (short : rest.length + 1 < wordCount first)

variable {types : NumberTypes} {number : Nat} {i : Instruction} {slots : List Slot}
variable {position limit : Nat} {w : UInt32} {rest : List UInt32} {c : Cursor}

section Sequence

variable {α β : Type} {r : Reader α} {f : α → Reader β}

/-- A report does not break reading off. -/
theorem not_breaksOff_of_report {e : LoadError} (h : r c = .error (.reported e)) :
    ¬ BreaksOff r c := by
  rintro ⟨stop, size, broken⟩
  rw [h] at broken
  cases broken

/-- A value does not break reading off. -/
theorem not_breaksOff_of_read {a : α} {c' : Cursor} (h : r c = .ok (a, c')) : ¬ BreaksOff r c := by
  rintro ⟨stop, size, broken⟩
  rw [h] at broken
  cases broken

/-- A sequence breaks off where one of its readers does. -/
theorem breaksOff_bind_iff :
    BreaksOff (r >>= f) c ↔
      BreaksOff r c ∨ ∃ a c', r c = .ok (a, c') ∧ BreaksOff (f a) c' := by
  constructor
  · rintro ⟨stop, size, h⟩
    cases hread : r c with
    | error e =>
      rw [bind_of_fault hread] at h
      cases h
      exact .inl ⟨stop, size, hread⟩
    | ok read =>
      obtain ⟨a, c'⟩ := read
      rw [bind_of_read hread] at h
      exact .inr ⟨a, c', rfl, stop, size, h⟩
  · rintro (⟨stop, size, h⟩ | ⟨a, c', h, stop, size, h'⟩)
    · exact ⟨stop, size, bind_of_fault h⟩
    · exact ⟨stop, size, (bind_of_read h).trans h'⟩

/-- What is made of a value in the end does not break reading off. -/
theorem breaksOff_bind_pure_iff {g : α → β} :
    BreaksOff (r >>= fun a => pure (g a)) c ↔ BreaksOff r c := by
  rw [breaksOff_bind_iff]
  constructor
  · rintro (h | ⟨a, c', -, h⟩)
    · exact h
    · exact absurd h (not_breaksOff_of_read rfl)
  · exact .inl

end Sequence

/-- An instruction breaks off where its slots do. -/
theorem breaksOff_readWhole_iff {opcode : Opcode} :
    BreaksOff (Instruction.readWhole types number opcode) c ↔
      BreaksOff ((Instruction.begun opcode).readSlots types number opcode.slots) c := by
  rw [Instruction.readWhole, breaksOff_bind_iff]
  constructor
  · rintro (h | ⟨j, c', -, h⟩)
    · exact h
    · obtain ⟨stop, size, broken⟩ := h
      rw [get_bind] at broken
      split at broken <;> cases broken
  · exact .inl

/-- A part that is a text breaks off when its instruction claims more words than are left. -/
theorem breaksOff_readPart_text (short : c.rest.length < c.limit) :
    BreaksOff (readPart .text) c := by
  have broken : readText c = .error (.overrun (c.offset + 4 * c.limit) c.size) := by
    rw [readText_eq, if_pos short]
  exact ⟨_, _, bind_of_fault broken⟩

/-- Slots that begin with a text break off when the instruction is cut short. -/
theorem breaksOff_text (short : rest.length < limit) :
    BreaksOff (i.readSlots types number (.text :: slots)) ⟨position, limit, rest⟩ := by
  obtain ⟨stop, size, broken⟩ := breaksOff_readPart_text (c := ⟨position, limit, rest⟩) short
  refine ⟨stop, size, (readSlots_required (Nat.ne_zero_of_lt short)).trans ?_⟩
  exact bind_of_fault (bind_of_fault (bind_of_fault broken))

/-- Slots that begin with a required one do not break off at the end of the instruction. -/
theorem limit_ne_zero_of_breaksOff {place : Place}
    (h : BreaksOff (i.readSlots types number (.required place :: slots)) ⟨position, limit, rest⟩) :
    limit ≠ 0 := by
  rintro rfl
  exact not_breaksOff_of_report rfl h

/-- Slots that begin with a word break off behind it. -/
theorem breaksOff_word_iff {place : Place} (word : place.isWord = true) :
    BreaksOff (i.readSlots types number (.required place :: slots)) ⟨position, limit, rest⟩ ↔
      limit ≠ 0 ∧ ∃ w others, rest = w :: others ∧
        BreaksOff ((i.put w place).readSlots types number slots)
          ⟨position + 1, limit - 1, others⟩ := by
  constructor
  · intro h
    have left := limit_ne_zero_of_breaksOff h
    obtain ⟨limit, rfl⟩ := Nat.exists_eq_succ_of_ne_zero left
    cases rest with
    | nil => exact absurd h (not_breaksOff_of_report (readSlots_word_missing word))
    | cons w others =>
      rw [BreaksOff, readSlots_word word] at h
      exact ⟨left, w, others, rfl, h⟩
  · rintro ⟨left, w, others, rfl, h⟩
    obtain ⟨limit, rfl⟩ := Nat.exists_eq_succ_of_ne_zero left
    rw [BreaksOff, readSlots_word word]
    exact h

/-- Slots that begin with a choice break off behind a word that it accepts. -/
theorem breaksOff_choice_iff {kind : Choice} :
    BreaksOff (i.readSlots types number (.choice kind :: slots)) ⟨position, limit, rest⟩ ↔
      limit ≠ 0 ∧ ∃ w others, rest = w :: others ∧ kind.accepts w = true ∧
        BreaksOff ((kind.parameters w).mapM readPart >>= fun parameters =>
          ({ i with operands := i.operands ++ .choice kind w :: parameters } :
            Instruction).readSlots types number slots) ⟨position + 1, limit - 1, others⟩ := by
  constructor
  · intro h
    have left := limit_ne_zero_of_breaksOff h
    obtain ⟨limit, rfl⟩ := Nat.exists_eq_succ_of_ne_zero left
    cases rest with
    | nil => exact absurd h (not_breaksOff_of_report rfl)
    | cons w others =>
      by_cases accepted : kind.accepts w = true
      · rw [BreaksOff, readSlots_choice accepted] at h
        exact ⟨left, w, others, rfl, accepted, h⟩
      · exact absurd h (not_breaksOff_of_report (readSlots_refused accepted))
  · rintro ⟨left, w, others, rfl, accepted, h⟩
    obtain ⟨limit, rfl⟩ := Nat.exists_eq_succ_of_ne_zero left
    rw [BreaksOff, readSlots_choice accepted]
    exact h

/-- An optional slot breaks off as a required one does while the instruction has words left. -/
theorem breaksOff_optional_iff {place : Place} (left : limit ≠ 0) :
    BreaksOff (i.readSlots types number (.optional place :: slots)) ⟨position, limit, rest⟩ ↔
      BreaksOff (i.readSlots types number (.required place :: slots)) ⟨position, limit, rest⟩ := by
  rw [BreaksOff, BreaksOff, readSlots_optional left, readSlots_required left]

/-- The decorations with a text are accepted and the text comes first. -/
theorem textDecorations_parameters (named : w ∈ textDecorations) :
    Choice.decoration.accepts w = true ∧
      (Choice.decoration.parameters w).head? = some .text := by
  -- The list is walked as a Boolean: all words of 32 bits would be too many to try.
  have all : textDecorations.all (fun decoration => Choice.decoration.accepts decoration &&
      (Choice.decoration.parameters decoration).head? == some .text) = true := by decide
  have each := List.all_eq_true.mp all w named
  rw [Bool.and_eq_true, beq_iff_eq] at each
  exact each

/-- The other decorations have no text. -/
theorem mem_textDecorations_of_text_mem (h : Part.text ∈ Choice.decoration.parameters w) :
    w ∈ textDecorations := by
  have table : ∀ entry ∈ decorationParameters,
      Part.text ∈ entry.2 → entry.1 ∈ textDecorations := by decide
  simp only [Choice.parameters] at h
  cases found : decorationParameters.lookup w with
  | none => simp [found] at h
  | some parameters =>
    rw [found] at h
    obtain ⟨front, back, split, -⟩ := List.lookup_eq_some_iff.mp found
    exact table (w, parameters) (by simp [split]) h

/-- A decoration in the last slot breaks off exactly when it has a text. -/
theorem breaksOff_decoration_iff (short : rest.length < limit) :
    BreaksOff (i.readSlots types number [.choice .decoration]) ⟨position, limit, rest⟩ ↔
      ∃ w others, rest = w :: others ∧ w ∈ textDecorations := by
  rw [breaksOff_choice_iff]
  constructor
  · rintro ⟨-, w, others, rfl, -, h⟩
    obtain ⟨stop, size, broken⟩ := breaksOff_bind_pure_iff.mp h
    have text := ((orderly_parameters _ _).overruns broken).1
    exact ⟨w, others, rfl, mem_textDecorations_of_text_mem text⟩
  · rintro ⟨w, others, rfl, named⟩
    obtain ⟨accepted, first⟩ := textDecorations_parameters named
    obtain ⟨parameters, begun⟩ := List.head?_eq_some_iff.mp first
    refine ⟨Nat.ne_zero_of_lt short, w, others, rfl, accepted, breaksOff_bind_pure_iff.mpr ?_⟩
    rw [begun, List.mapM_cons, breaksOff_bind_iff]
    exact .inl (breaksOff_readPart_text (Nat.lt_sub_of_add_lt short))

/-- The words in front of a text let an instruction that is cut short break off. -/
theorem breaksOff_of_beforeText {opcode : Opcode} {before after : List UInt32}
    (text : BeforeText opcode before) (short : (before ++ after).length < limit) :
    BreaksOff (i.readSlots types number opcode.slots) ⟨position, limit, before ++ after⟩ := by
  cases text with
  | sourceContinued | extension | moduleProcessed => exact breaksOff_text short
  | name | string | extInstImport =>
    simp only [List.cons_append, List.nil_append, List.length_cons] at short ⊢
    refine (breaksOff_word_iff rfl).mpr ⟨by omega, _, _, rfl, ?_⟩
    exact breaksOff_text (by omega)
  | source version file accepted =>
    simp only [List.cons_append, List.nil_append, List.length_cons] at short ⊢
    refine breaksOff_choice_iff.mpr ⟨by omega, _, _, rfl, accepted, ?_⟩
    refine (breaksOff_word_iff rfl).mpr ⟨by omega, _, _, rfl, ?_⟩
    refine (breaksOff_optional_iff (by omega)).mpr ?_
    refine (breaksOff_word_iff rfl).mpr ⟨by omega, _, _, rfl, ?_⟩
    refine (breaksOff_optional_iff (by omega)).mpr ?_
    exact breaksOff_text (by omega)
  | entryPoint function accepted =>
    simp only [List.cons_append, List.nil_append, List.length_cons] at short ⊢
    refine breaksOff_choice_iff.mpr ⟨by omega, _, _, rfl, accepted, ?_⟩
    refine (breaksOff_word_iff rfl).mpr ⟨by omega, _, _, rfl, ?_⟩
    exact breaksOff_text (by omega)
  | decorate id named =>
    simp only [List.cons_append, List.nil_append, List.length_cons] at short ⊢
    refine (breaksOff_word_iff rfl).mpr ⟨by omega, _, _, rfl, ?_⟩
    refine (breaksOff_decoration_iff ?_).mpr ⟨_, _, rfl, named⟩
    rw [List.length_cons]
    omega

/-- An instruction that breaks off is cut short and has the words in front of its first text. -/
theorem exists_of_breaksOff {opcode : Opcode}
    (h : BreaksOff (i.readSlots types number opcode.slots) ⟨position, limit, rest⟩) :
    rest.length < limit ∧ ∃ before after, rest = before ++ after ∧ BeforeText opcode before := by
  have ⟨stop, size, broken⟩ := h
  obtain ⟨texts, short, -⟩ := (orderly_readSlots i opcode.slots _).overruns broken
  refine ⟨short, ?_⟩
  cases opcode with
  | opSourceContinued => exact ⟨[], rest, rfl, .sourceContinued⟩
  | opExtension => exact ⟨[], rest, rfl, .extension⟩
  | opModuleProcessed => exact ⟨[], rest, rfl, .moduleProcessed⟩
  | opName =>
    obtain ⟨-, id, after, rfl, -⟩ := (breaksOff_word_iff rfl).mp h
    exact ⟨[id], after, rfl, .name id⟩
  | opString =>
    obtain ⟨-, id, after, rfl, -⟩ := (breaksOff_word_iff rfl).mp h
    exact ⟨[id], after, rfl, .string id⟩
  | opExtInstImport =>
    obtain ⟨-, id, after, rfl, -⟩ := (breaksOff_word_iff rfl).mp h
    exact ⟨[id], after, rfl, .extInstImport id⟩
  | opSource =>
    obtain ⟨-, language, behind, rfl, accepted, h1⟩ := breaksOff_choice_iff.mp h
    obtain ⟨-, version, behind, rfl, h2⟩ := (breaksOff_word_iff rfl).mp h1
    simp only [List.length_cons] at short
    have h3 := (breaksOff_optional_iff (by omega)).mp h2
    obtain ⟨-, file, after, rfl, -⟩ := (breaksOff_word_iff rfl).mp h3
    exact ⟨[language, version, file], after, rfl, .source version file accepted⟩
  | opEntryPoint =>
    obtain ⟨-, model, behind, rfl, accepted, h1⟩ := breaksOff_choice_iff.mp h
    obtain ⟨-, function, after, rfl, -⟩ := (breaksOff_word_iff rfl).mp h1
    exact ⟨[model, function], after, rfl, .entryPoint function accepted⟩
  | opDecorate =>
    obtain ⟨-, id, behind, rfl, h1⟩ := (breaksOff_word_iff rfl).mp h
    simp only [List.length_cons] at short
    obtain ⟨decoration, after, rfl, named⟩ := (breaksOff_decoration_iff (by omega)).mp h1
    exact ⟨[id, decoration], after, rfl, .decorate id named⟩
  | _ => exact absurd texts (by decide)

/-- Reading an instruction breaks off exactly when it is cut short in a text. It then tells
where the instruction should have ended and where the binary does. -/
theorem read_eq_overrun_iff {first : UInt32} {stop size : Nat} :
    Instruction.read types number position first rest = .error (.overrun stop size) ↔
      CutInText first rest ∧ stop = 4 * (position + wordCount first) ∧
        size = 4 * (position + rest.length + 1) := by
  by_cases counted : wordCount first = 0
  · constructor
    · intro h
      rw [Instruction.read, if_pos counted] at h
      cases h
    · rintro ⟨⟨-, -, -, short⟩, -⟩
      omega
  · cases known : Opcode.ofNumber? (opcodeNumber first) with
    | none =>
      constructor
      · intro h
        rw [Instruction.read, if_neg counted, known] at h
        cases h
      · rintro ⟨⟨known', -, -, -⟩, -⟩
        rw [known] at known'
        cases known'
    | some opcode =>
      rw [Instruction.read_eq counted known, map_eq_error_iff]
      have orderly : Orderly _ (Instruction.readWhole types number opcode)
          ⟨position + 1, wordCount first - 1, rest⟩ := orderly_readWhole opcode _
      constructor
      · intro h
        obtain ⟨-, -, hstop, hsize⟩ := orderly.overruns h
        obtain ⟨short, before, after, there, text⟩ :=
          exists_of_breaksOff (breaksOff_readWhole_iff.mp ⟨stop, size, h⟩)
        simp only [Cursor.offset, Cursor.size] at hstop hsize
        exact ⟨⟨known, text, there, by omega⟩, by omega, by omega⟩
      · rintro ⟨⟨known', text, there, short⟩, rfl, rfl⟩
        obtain rfl := Option.some.inj (known.symm.trans known')
        subst there
        obtain ⟨stop, size, h⟩ := breaksOff_readWhole_iff.mpr
          (breaksOff_of_beforeText text (Nat.lt_sub_of_add_lt short))
        obtain ⟨-, -, hstop, hsize⟩ := orderly.overruns h
        simp only [Cursor.offset, Cursor.size] at hstop hsize
        rw [h, hstop, hsize]
        congr 2 <;> omega

/-- A binary of whole words with the magic number and a whole header, in which everything is
in order up to an instruction that is cut short in a text and should end at `stop`. -/
inductive CutBinary (bytes : List UInt8) (stop : Nat) : Prop where
  /-- The words of the binary and the place that loading comes to. -/
  | intro {version generator bound schema first : UInt32} {body rest : List UInt32} {s : Loading}
      (aligned : bytes.length % 4 = 0)
      (header : wordsOfBytes bytes = magicNumber :: version :: generator :: bound :: schema :: body)
      (reached : Relation.ReflTransGen Loading.Step (.start body) s)
      (words : s.rest = first :: rest) (cut : CutInText first rest)
      (ends : stop = 4 * (s.position + wordCount first))

/-- Loading a program breaks off behind a whole header. -/
theorem load_eq_overrun_iff {words : List UInt32} {stop size : Nat} :
    Program.load words = .error (.overrun stop size) ↔
      ∃ magic version generator bound schema body,
        words = magic :: version :: generator :: bound :: schema :: body ∧
          (Loading.start body).outcome = .error (.overrun stop size) := by
  constructor
  · intro h
    match words with
    | magic :: version :: generator :: bound :: schema :: body =>
      rw [Program.load_eq, map_eq_error_iff] at h
      exact ⟨magic, version, generator, bound, schema, body, rfl, h⟩
    | [] | [_] | [_, _] | [_, _, _] | [_, _, _, _] => cases h
  · rintro ⟨magic, version, generator, bound, schema, body, rfl, h⟩
    rw [Program.load_eq, map_eq_error_iff, h]

/-- The kernels of a program are found or reported. -/
theorem kernelModule_ne_overrun (p : Program) (stop size : Nat) :
    p.kernelModule.mapError InspectionFault.invalid ≠ .error (.overrun stop size) := by
  cases p.kernelModule <;> exact nofun

/-- Inspecting words breaks off where loading a program with the magic number does. -/
theorem ofWords_eq_overrun_iff {words : List UInt32} {stop size : Nat} :
    KernelModule.ofWords words = .error (.overrun stop size) ↔
      words.headD 0 = magicNumber ∧ Program.load words = .error (.overrun stop size) := by
  constructor
  · intro h
    by_cases magic : words.headD 0 = magicNumber
    · refine ⟨magic, ?_⟩
      cases loaded : Program.load words with
      | error fault =>
        rw [KernelModule.ofWords_of_fault magic loaded] at h
        cases fault with
        | reported e => cases h
        | overrun stop size =>
          cases h
          rfl
      | ok p =>
        rw [KernelModule.ofWords_of_loaded magic loaded] at h
        exact absurd h (kernelModule_ne_overrun p stop size)
    · rw [KernelModule.ofWords_of_otherMagic magic] at h
      cases h
  · rintro ⟨magic, broken⟩
    exact KernelModule.ofWords_of_fault magic broken

/-- The place that loading comes to tells how long the binary is. -/
theorem length_of_reached {bytes : List UInt8} {magic version generator bound schema first : UInt32}
    {body : List UInt32} {s : Loading} (aligned : bytes.length % 4 = 0)
    (header : wordsOfBytes bytes = magic :: version :: generator :: bound :: schema :: body)
    (reached : Relation.ReflTransGen Loading.Step (.start body) s)
    (words : s.rest = first :: rest) : 4 * (s.position + rest.length + 1) = bytes.length := by
  have same := Loading.size_eq_of_steps reached
  have count := length_wordsOfBytes bytes
  simp only [words, Loading.start, List.length_cons] at same
  simp only [header, List.length_cons] at count
  omega

/-- Inspecting a binary breaks off exactly when it is cut short in a text. -/
theorem parse_eq_overrun_iff {bytes : List UInt8} {stop size : Nat} :
    KernelModule.parse bytes = .error (.overrun stop size) ↔
      CutBinary bytes stop ∧ size = bytes.length := by
  constructor
  · intro h
    by_cases there : bytes = []
    · rw [KernelModule.parse, if_pos there] at h
      cases h
    · by_cases aligned : bytes.length % 4 = 0
      · rw [KernelModule.parse_of_aligned there aligned, ofWords_eq_overrun_iff,
          load_eq_overrun_iff] at h
        obtain ⟨head, magic, version, generator, bound, schema, body, words, broken⟩ := h
        obtain ⟨s, first, rest, reached, next, read⟩ := Loading.outcome_eq_overrun_iff.mp broken
        obtain ⟨cut, hstop, hsize⟩ := read_eq_overrun_iff.mp read
        have length := length_of_reached aligned words reached next
        rw [words] at head
        obtain rfl : magic = magicNumber := head
        exact ⟨⟨aligned, words, reached, next, cut, hstop⟩, hsize.trans length⟩
      · rw [KernelModule.parse_of_misaligned aligned] at h
        cases h
  · rintro ⟨⟨aligned, header, reached, next, cut, ends⟩, rfl⟩
    have there : bytes ≠ [] := by
      rintro rfl
      cases header
    have length := length_of_reached aligned header reached next
    have broken := Loading.outcome_eq_overrun_iff.mpr
      ⟨_, _, _, reached, next, read_eq_overrun_iff.mpr ⟨cut, ends, length.symm⟩⟩
    rw [KernelModule.parse_of_aligned there aligned, ofWords_eq_overrun_iff, load_eq_overrun_iff]
    exact ⟨by rw [header]; rfl, _, _, _, _, _, _, header, broken⟩

/-- A binary is a module or is reported exactly when it is not cut short in a text. One that
is cut short breaks inspection off, where its last instruction should have ended. -/
theorem reported_iff_uncut (bytes : List UInt8) :
    ((∃ m, KernelModule.parse bytes = .ok m) ∨
          (∃ e, KernelModule.parse bytes = .error (.invalid e)) ↔
        ¬ ∃ stop, CutBinary bytes stop) ∧
      ∀ stop, CutBinary bytes stop ↔
        KernelModule.parse bytes = .error (.overrun stop bytes.length) := by
  have exactly (stop : Nat) : CutBinary bytes stop ↔
      KernelModule.parse bytes = .error (.overrun stop bytes.length) := by
    rw [parse_eq_overrun_iff, and_iff_left rfl]
  refine ⟨?_, exactly⟩
  constructor
  · rintro (⟨m, h⟩ | ⟨e, h⟩) ⟨stop, cut⟩
    · cases h.symm.trans ((exactly stop).mp cut)
    · cases h.symm.trans ((exactly stop).mp cut)
  · intro uncut
    cases parsed : KernelModule.parse bytes with
    | ok m => exact .inl ⟨m, rfl⟩
    | error fault =>
      cases fault with
      | invalid e => exact .inr ⟨e, rfl⟩
      | overrun stop size => exact absurd ⟨stop, (parse_eq_overrun_iff.mp parsed).1⟩ uncut

/-- A kernel module that ends in its entry point, in front of the name. -/
def namelessModule : List UInt8 :=
  bytesOfWords [magicNumber, 0x10000, 0, 100, 0, 0x20011, 4, 0x20011, 6, 0x3000e, 2, 2,
    0x4000f, 6, 10]

/-- Neither a module nor a report comes of a kernel module that ends in front of the name of
its entry point. -/
theorem not_reported_namelessModule :
    KernelModule.parse namelessModule = .error (.overrun 64 60) ∧
      ¬ ((∃ m, KernelModule.parse namelessModule = .ok m) ∨
        ∃ e, KernelModule.parse namelessModule = .error (.invalid e)) := by
  have broken : KernelModule.parse namelessModule = .error (.overrun 64 60) := by rfl
  refine ⟨broken, ?_⟩
  rw [broken]
  rintro (⟨m, h⟩ | ⟨e, h⟩)
  · cases h
  · cases h

end ComputeHandles.Spirv
