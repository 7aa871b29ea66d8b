import ComputeHandles.Proofs.Spirv.Loading
import ComputeHandles.Proofs.Spirv.Slots
import ComputeHandles.Proofs.Text.Decoded

/-!
# What is counted behind the header

Loading goes through the words behind the header and counts parameters on the way, each of which
was an instruction of three words. It reads names, which end at a NUL and so hold none. Every step
keeps both, for a step places one instruction and moves on behind its words.
-/

namespace ComputeHandles.Spirv

open Text Listing

/-- A reader gives only values with a property. -/
def Gives {α : Type} (P : α → Prop) (r : Reader α) : Prop := ∀ c a c', r c = .ok (a, c') → P a

namespace Gives

variable {α β γ : Type} {P : α → Prop} {Q : β → Prop} {r : Reader α} {f : α → Reader β}

/-- A value that is given back has what it had. -/
theorem pure {a : α} (h : P a) : Gives P (pure a : Reader α) := by
  intro c b c' read
  cases read
  exact h

/-- A fault gives no value. -/
theorem fault {e : LoadFault} : Gives P (throw e : Reader α) := by
  intro c a c' read
  cases read

/-- Every reader gives some value or none. -/
theorem some : Gives (fun _ => True) r := fun _ _ _ _ => trivial

/-- A sequence gives what its second reader does for what the first one gives. -/
theorem bind (h : Gives P r) (next : ∀ a, P a → Gives Q (f a)) : Gives Q (r >>= f) := by
  intro c b c' read
  obtain ⟨a, between, first, second⟩ := exists_of_bind_ok read
  exact next a (h c a between first) between b c' second

/-- Looking at the cursor first does not matter if the rest gives the same wherever it stands. -/
theorem get_bind {f : Cursor → Reader β} (h : ∀ c, Gives Q (f c)) : Gives Q (get >>= f) :=
  fun c b c' read => h c c b c' read

/-- Reading several parts gives what reading each of them does. -/
theorem mapM {read : γ → Reader α} (h : ∀ part, Gives P (read part)) (parts : List γ) :
    Gives (fun as => ∀ a ∈ as, P a) (parts.mapM read) := by
  induction parts with
  | nil => exact .pure fun a mem => absurd mem List.not_mem_nil
  | cons part rest ih =>
    rw [List.mapM_cons]
    refine (h part).bind fun a first => ih.bind fun as others => .pure ?_
    exact List.forall_mem_cons.mpr ⟨first, others⟩

end Gives

/-- An operand is no text with a NUL. -/
def Operand.NulFree (o : Operand) : Prop := ∀ s, o = .text s → '\x00' ∉ s.toList

/-- A text ends in front of its first NUL. -/
theorem gives_readText : Gives (fun s => '\x00' ∉ s.toList) readText := by
  intro c s c' read
  rw [readText_eq] at read
  by_cases short : c.rest.length < c.limit
  · rw [if_pos short] at read
    cases read
  · rw [if_neg short] at read
    by_cases closed : 0 ∈ bytesOfWords (c.rest.take c.limit)
    · rw [if_pos closed] at read
      cases decoded : utf8Decode ((bytesOfWords (c.rest.take c.limit)).takeWhile (· != 0)) with
      | error e =>
        rw [decoded] at read
        cases read
      | ok cs =>
        rw [decoded] at read
        cases read
        have nonzero : 0 ∉ (bytesOfWords (c.rest.take c.limit)).takeWhile (· != 0) := by
          intro mem
          exact absurd (List.all_eq_true.mp List.all_takeWhile 0 mem) (by decide)
        rw [String.toList_ofList]
        exact nul_notMem_of_utf8Decode nonzero decoded
    · rw [if_neg closed] at read
      cases read

/-- A part is read as no text with a NUL. -/
theorem gives_readPart (part : Part) : Gives Operand.NulFree (readPart part) := by
  cases part with
  | id | literal => exact Gives.some.bind fun w _ => .pure nofun
  | choice kind => exact Gives.some.bind fun w _ => .pure nofun
  | text =>
    refine gives_readText.bind fun s unclosed => .pure fun s' same => ?_
    cases same
    exact unclosed

/-- Neither is an operand or any of its parameters. -/
theorem gives_readOperands (part : Part) :
    Gives (fun os => ∀ o ∈ os, o.NulFree) (readOperands part) := by
  refine (gives_readPart part).bind fun first free => ?_
  refine (Gives.mapM gives_readPart first.parameters).bind fun parameters others => .pure ?_
  exact List.forall_mem_cons.mpr ⟨free, others⟩

/-- An instruction has an opcode and holds no text with a NUL. -/
structure Instruction.NulFree (opcode : Opcode) (i : Instruction) : Prop where
  /-- What it is. -/
  opcode : i.opcode = opcode
  /-- None of its operands is such a text. -/
  operands : ∀ o ∈ i.operands, o.NulFree

section Reading

variable {types : NumberTypes} {number position : Nat} {opcode : Opcode} {i j : Instruction}
variable {first : UInt32} {rest : List UInt32} {c c' : Cursor}

/-- More operands without such texts keep an instruction free of them. -/
theorem Instruction.NulFree.append (h : i.NulFree opcode) {os : List Operand}
    (free : ∀ o ∈ os, o.NulFree) :
    ({ i with operands := i.operands ++ os } : Instruction).NulFree opcode where
  opcode := h.opcode
  operands := by
    intro o mem
    rcases List.mem_append.mp mem with old | new
    · exact h.operands o old
    · exact free o new

/-- What is read at a place keeps an instruction free of texts with a NUL. -/
theorem gives_readPlace (h : i.NulFree opcode) (place : Place) :
    Gives (Instruction.NulFree opcode) (i.readPlace types number place) := by
  cases place with
  | resultType | resultId => exact Gives.some.bind fun w _ => .pure ⟨h.opcode, h.operands⟩
  | part held => exact (gives_readOperands held).bind fun os free => .pure (h.append free)
  | number =>
    unfold Instruction.readPlace
    cases types.words? i.resultType with
    | some count =>
      exact (Gives.mapM gives_readPart _).bind fun os free => .pure (h.append free)
    | none => exact .get_bind fun c => .fault

/-- So does what is read slot by slot. -/
theorem gives_readSlots (h : i.NulFree opcode) (slots : List Slot) :
    Gives (Instruction.NulFree opcode) (i.readSlots types number slots) := by
  induction slots generalizing i with
  | nil => exact .pure h
  | cons slot slots ih =>
    cases slot with
    | required place =>
      refine .get_bind fun c => ?_
      by_cases limit : c.limit = 0
      · rw [if_pos limit]
        exact .fault
      · rw [if_neg limit]
        exact (gives_readPlace h place).bind fun j free => ih free
    | optional place =>
      refine .get_bind fun c => ?_
      by_cases limit : c.limit = 0
      · rw [if_pos limit]
        exact .pure h
      · rw [if_neg limit]
        exact (gives_readPlace h place).bind fun j free => ih free
    | ids =>
      refine .get_bind fun c => ?_
      exact (Gives.mapM gives_readPart _).bind fun os free => ih (h.append free)

/-- A whole instruction has its opcode and holds no text with a NUL. -/
theorem gives_readWhole :
    Gives (Instruction.NulFree opcode) (Instruction.readWhole types number opcode) := by
  have begun : (Instruction.begun opcode).NulFree opcode :=
    ⟨rfl, fun o mem => absurd mem List.not_mem_nil⟩
  refine (gives_readSlots begun opcode.slots).bind fun i free => .get_bind fun c => ?_
  by_cases limit : c.limit = 0
  · rw [if_pos limit]
    exact .pure free
  · rw [if_neg limit]
    exact .fault

/-- Places that take a word each take as many words as they are. -/
theorem length_le_limit_of_words {places : List Place} (words : ∀ place ∈ places, place.isWord)
    (h : i.readSlots types number (places.map .required) c = .ok (j, c')) :
    places.length ≤ c.limit := by
  induction places generalizing i c with
  | nil => exact Nat.zero_le _
  | cons place places ih =>
    obtain ⟨word, others⟩ := List.forall_mem_cons.mp words
    obtain ⟨position, limit, rest⟩ := c
    rw [List.map_cons] at h
    cases limit with
    | zero => cases h
    | succ limit =>
      cases rest with
      | nil =>
        rw [readSlots_word_missing word] at h
        cases h
      | cons w rest =>
        rw [readSlots_word word] at h
        exact Nat.succ_le_succ (ih others h)

/-- A parameter of a function has three words. -/
theorem Instruction.three_le_of_parameter
    (h : Instruction.read types number position first rest = .ok i)
    (parameter : i.opcode.placement = .parameter) : 3 ≤ wordCount first := by
  obtain ⟨-, opcode, c, -, whole⟩ := exists_readWhole_of_read h
  have same : i.opcode = opcode := (gives_readWhole _ i c whole).opcode
  obtain ⟨j, between, slots, -⟩ := exists_of_bind_ok whole
  rw [same] at parameter
  cases opcode with
  | opFunctionParameter =>
    have words : ∀ place ∈ [Place.resultType, .resultId], place.isWord = true := by decide
    have taken : 2 ≤ wordCount first - 1 := length_le_limit_of_words words slots
    omega
  | _ => cases parameter

/-- The name of an entry point has no NUL. -/
theorem Instruction.nul_notMem_of_entryPoint
    (h : Instruction.read types number position first rest = .ok i) {e : EntryPoint}
    (declares : i.entryPoint? = some e) : '\x00' ∉ e.name.toList := by
  obtain ⟨-, opcode, c, -, whole⟩ := exists_readWhole_of_read h
  have free := (gives_readWhole _ i c whole).operands
  unfold entryPoint? at declares
  split at declares
  · next model function name others _ operands =>
    cases declares
    refine free (.text name) ?_ name rfl
    rw [operands]
    simp
  · cases declares

end Reading

/-- The function that is open in a scope. -/
def Scope.function? : Scope → Option FunctionDef
  | .outside => none
  | .inFunction f | .inBlock f => some f

/-- A step opens a function without parameters, or keeps the open one, with one parameter more
if the instruction is one. -/
theorem Scope.function?_of_place {scope next : Scope} {i : Instruction} {f : FunctionDef}
    (placed : scope.place i = .ok next) (held : next.function? = some f) :
    f.parameters = 0 ∨ ∃ g, scope.function? = some g ∧
      (f.parameters = g.parameters ∨
        i.opcode.placement = .parameter ∧ f.parameters = g.parameters + 1) := by
  unfold Scope.place at placed
  cases kind : i.opcode.placement with
  | functionStart =>
    rw [kind] at placed
    cases scope with
    | outside =>
      cases placed
      cases held
      exact .inl rfl
    | inFunction g | inBlock g => cases placed
  | parameter =>
    rw [kind] at placed
    cases scope with
    | outside => cases placed
    | inFunction g | inBlock g =>
      cases placed
      cases held
      exact .inr ⟨g, rfl, .inr ⟨rfl, rfl⟩⟩
  | functionEnd =>
    rw [kind] at placed
    cases scope with
    | outside | inBlock g => cases placed
    | inFunction g =>
      cases placed
      cases held
  | anywhere | declaration | ordinary | blockStart | terminator =>
    -- The others leave the function that is open as it is, wherever they may stand.
    rw [kind] at placed
    cases scope <;> cases placed <;> exact .inr ⟨f, held, .inl rfl⟩

/-- A function is completed that was open. -/
theorem Scope.function?_of_completed {scope : Scope} {i : Instruction} {f : FunctionDef}
    (completed : scope.completed? i = some f) : scope.function? = some f := by
  unfold Scope.completed? at completed
  split at completed
  · exact completed
  · cases completed

/-- What is placed adds its entry point and the function that it completes. -/
theorem Layout.exists_of_place {layout next : Layout} {i : Instruction}
    (placed : layout.place i = .ok next) :
    ∃ scope, layout.scope.place i = .ok scope ∧
      next = ⟨scope, layout.entryPoints ++ i.entryPoint?.toList,
        layout.functions ++ (layout.scope.completed? i).toList⟩ := by
  rw [place] at placed
  cases scope : layout.scope.place i with
  | error e =>
    rw [scope] at placed
    cases placed
  | ok scope' =>
    rw [scope] at placed
    cases placed
    exact ⟨scope', rfl, rfl⟩

/-- What a layout has after a number of words: entry points whose names have no NUL, and functions
with no more parameters than instructions of three words fit behind the header. -/
structure Layout.Counted (layout : Layout) (position : Nat) : Prop where
  /-- The header was read. -/
  header : 5 ≤ position
  /-- No name has a NUL. -/
  names : ∀ e ∈ layout.entryPoints, '\x00' ∉ e.name.toList
  /-- The parameters of a complete function fit. -/
  complete : ∀ f ∈ layout.functions, 5 + 3 * f.parameters ≤ position
  /-- Those of the function that is open do. -/
  opened : ∀ f, layout.scope.function? = some f → 5 + 3 * f.parameters ≤ position

/-- Nothing is placed behind the header. -/
theorem Layout.counted_empty : Layout.empty.Counted 5 where
  header := Nat.le_refl 5
  names e mem := absurd mem List.not_mem_nil
  complete f mem := absurd mem List.not_mem_nil
  opened f held := by cases held

namespace Loading

variable {s s' : Loading}

/-- A step keeps what is counted, for it moves on by the words of what it places. -/
theorem Step.counted (step : Step s s') (h : s.layout.Counted s.position) :
    s'.layout.Counted s'.position := by
  obtain @⟨first, rest, i, next, words, read, placed⟩ := step
  obtain ⟨scope, placedScope, same⟩ := Layout.exists_of_place placed
  have counted := (Instruction.wordCount_le_of_read read).1
  have header := h.header
  change next.Counted (s.position + wordCount first)
  rw [same]
  refine ⟨by omega, ?_, ?_, ?_⟩
  · intro e mem
    rcases List.mem_append.mp mem with old | new
    · exact h.names e old
    · exact Instruction.nul_notMem_of_entryPoint read (Option.mem_toList.mp new)
  · intro f mem
    have earlier : 5 + 3 * f.parameters ≤ s.position := by
      rcases List.mem_append.mp mem with old | new
      · exact h.complete f old
      · exact h.opened f (Scope.function?_of_completed (Option.mem_toList.mp new))
    omega
  · intro f held
    obtain none | ⟨g, open_, same | ⟨parameter, more⟩⟩ :=
      Scope.function?_of_place placedScope held
    · omega
    · have earlier := h.opened g open_
      omega
    · have earlier := h.opened g open_
      have three := Instruction.three_le_of_parameter read parameter
      omega

/-- Steps keep what is counted. -/
theorem counted_of_steps (steps : Relation.ReflTransGen Step s s')
    (h : s.layout.Counted s.position) : s'.layout.Counted s'.position := by
  induction steps with
  | refl => exact h
  | tail _ step ih => exact step.counted ih

/-- What the words behind a header amount to is counted by all words. -/
theorem counted_of_outcome {body : List UInt32} {layout : Layout}
    (h : (start body).outcome = .ok layout) : layout.Counted (5 + body.length) := by
  obtain ⟨s', steps, ended, same, -⟩ := outcome_eq_ok_iff.mp h
  have counted := counted_of_steps steps Layout.counted_empty
  have size := size_eq_of_steps steps
  rw [ended, List.length_nil, Nat.add_zero] at size
  rwa [same, size] at counted

end Loading

end ComputeHandles.Spirv
