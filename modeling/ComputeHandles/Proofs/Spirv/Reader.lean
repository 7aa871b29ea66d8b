import ComputeHandles.Spirv.Instruction

/-!
# Readers and their cursors

Reading moves a cursor forward over words that are there and that belong to the
instruction. Only a text can break reading off, and it does so exactly when its
instruction claims more words than are left; every reader is orderly in this sense
because the primitive ones are and sequencing keeps it.
-/

namespace ComputeHandles.Spirv

open Text

section Sequence

variable {α β : Type} {r : Reader α} {f : α → Reader β} {c c' : Cursor} {a : α} {e : LoadFault}

/-- What was read is handed to the next reader, which starts where reading stopped. -/
theorem bind_of_read (h : r c = .ok (a, c')) : (r >>= f) c = f a c' := by
  change (r c >>= fun read => f read.1 read.2) = f a c'
  rw [h]
  rfl

/-- A fault ends a sequence of readers. -/
theorem bind_of_fault (h : r c = .error e) : (r >>= f) c = .error e := by
  change (r c >>= fun read => f read.1 read.2) = .error e
  rw [h]
  rfl

/-- A sequence gives a value when both of its readers do. -/
theorem exists_of_bind_ok {b : β} (h : (r >>= f) c = .ok (b, c')) :
    ∃ a between, r c = .ok (a, between) ∧ f a between = .ok (b, c') := by
  cases hread : r c with
  | error e =>
    rw [bind_of_fault hread] at h
    cases h
  | ok read =>
    obtain ⟨a, between⟩ := read
    rw [bind_of_read hread] at h
    exact ⟨a, between, rfl, h⟩

/-- Looking at the cursor does not move it. -/
@[simp] theorem get_bind (f : Cursor → Reader β) : (get >>= f) c = f c c := rfl

end Sequence

/-- A word is there if the instruction and the binary both have one. -/
theorem readWord_eq (c : Cursor) :
    readWord c =
      if c.limit = 0 then .error (.reported (.operand (.wordLimit c.offset)))
      else
        match c.rest with
        | [] => .error (.reported (.operand (.streamEnd c.offset)))
        | w :: _ => .ok (w, c.advance 1) := by
  obtain ⟨position, limit, rest⟩ := c
  cases limit <;> cases rest <;> rfl

/-- A choice is a word that is there and that the choice accepts. -/
theorem readChoice_eq (choice : Choice) (c : Cursor) :
    readChoice choice c =
      match c.rest with
      | [] => .error (.reported (.operand (.streamEnd c.offset)))
      | w :: _ =>
        if c.limit = 0 then .error (.reported (.operand (.streamEnd c.offset)))
        else if choice.accepts w then .ok (w, c.advance 1)
        else .error (.reported (.operand (.unknownValue w choice c.offset))) := by
  obtain ⟨position, limit, rest⟩ := c
  cases rest with
  | nil => rfl
  | cons w rest =>
    cases limit with
    | zero => rfl
    | succ limit => cases h : choice.accepts w <;> simp [readChoice, h] <;> rfl

/-- A text is read from the words of the instruction, all of which must be there. -/
theorem readText_eq (c : Cursor) :
    readText c =
      if c.rest.length < c.limit then .error (.overrun (c.offset + 4 * c.limit) c.size)
      else if 0 ∈ bytesOfWords (c.rest.take c.limit) then
        match utf8Decode ((bytesOfWords (c.rest.take c.limit)).takeWhile (· != 0)) with
        | .error e => .error (.reported (.operand (.badText c.offset e)))
        | .ok cs => .ok (String.ofList cs, c.advance
            (((bytesOfWords (c.rest.take c.limit)).takeWhile (· != 0)).length / 4 + 1))
      else .error (.reported (.operand (.wordLimit (c.offset + 4 * c.limit)))) := by
  unfold readText
  rw [get_bind]
  by_cases short : c.rest.length < c.limit
  · rw [if_pos short, if_pos short]
    rfl
  · rw [if_neg short, if_neg short]
    dsimp only
    by_cases closed : 0 ∈ bytesOfWords (c.rest.take c.limit)
    · rw [if_pos closed, if_pos closed]
      cases decoded : utf8Decode ((bytesOfWords (c.rest.take c.limit)).takeWhile (· != 0)) <;> rfl
    · rw [if_neg closed, if_neg closed]
      rfl

/-- A reader is orderly where it moves the cursor forward over words that are there and
belong to the instruction, and breaks off only if there may be a text to read and the
instruction claims more words than are left. It then tells where the instruction should
have ended and where the binary does. -/
structure Orderly {α : Type} (text : Prop) (r : Reader α) (c : Cursor) : Prop where
  /-- The cursor moves forward. -/
  advances : ∀ {a c'}, r c = .ok (a, c') →
    ∃ count, count ≤ c.limit ∧ count ≤ c.rest.length ∧ c' = c.advance count
  /-- Breaking off has one reason. -/
  overruns : ∀ {stop size}, r c = .error (.overrun stop size) →
    text ∧ c.rest.length < c.limit ∧ stop = c.offset + 4 * c.limit ∧ size = c.size

namespace Orderly

variable {α β : Type} {text : Prop} {r : Reader α} {f : α → Reader β} {c c' : Cursor}

/-- Giving a value back is orderly. -/
theorem pure (a : α) : Orderly text (pure a : Reader α) c where
  advances h := by
    cases h
    exact ⟨0, Nat.zero_le _, Nat.zero_le _, rfl⟩
  overruns h := by cases h

/-- Reporting a fault is orderly. -/
theorem report {e : LoadError} (h : r c = .error (.reported e)) : Orderly text r c where
  advances ok := by
    rw [h] at ok
    cases ok
  overruns broken := by
    rw [h] at broken
    cases broken

/-- Moving forward over words that are there and belong to the instruction is orderly. -/
theorem advance {a : α} {count : Nat} (h : r c = .ok (a, c.advance count))
    (inside : count ≤ c.limit) (there : count ≤ c.rest.length) : Orderly text r c where
  advances ok := by
    rw [h] at ok
    cases ok
    exact ⟨count, inside, there, rfl⟩
  overruns broken := by
    rw [h] at broken
    cases broken

/-- A reader that may read a text where there is none stays orderly. -/
theorem mono {text' : Prop} (h : Orderly text r c) (imp : text → text') : Orderly text' r c where
  advances := h.advances
  overruns broken := ⟨imp (h.overruns broken).1, (h.overruns broken).2⟩

/-- Two moves forward are one. -/
theorem advance_advance (c : Cursor) (m n : Nat) : (c.advance m).advance n = c.advance (m + n) := by
  simp only [Cursor.advance, List.drop_drop, Cursor.mk.injEq, and_true]
  exact ⟨Nat.add_assoc _ _ _, by omega⟩

/-- Sequencing orderly readers is orderly: what is left of the instruction and what is
left of the binary shrink alike, so the second reader breaks off for the reason that the
whole sequence has. -/
theorem bind (hr : Orderly text r c)
    (hf : ∀ a c', r c = .ok (a, c') → Orderly text (f a) c') : Orderly text (r >>= f) c where
  advances {b c''} h := by
    obtain ⟨a, c', hread, h⟩ := exists_of_bind_ok h
    obtain ⟨m, hm, hm', rfl⟩ := hr.advances hread
    obtain ⟨n, hn, hn', rfl⟩ := (hf a _ hread).advances h
    simp only [Cursor.advance, List.length_drop] at hn hn'
    exact ⟨m + n, by omega, by omega, advance_advance c m n⟩
  overruns {stop size} h := by
    cases hread : r c with
    | error e =>
      rw [bind_of_fault hread] at h
      cases h
      exact hr.overruns hread
    | ok read =>
      obtain ⟨a, c'⟩ := read
      rw [bind_of_read hread] at h
      obtain ⟨m, hm, hm', rfl⟩ := hr.advances hread
      obtain ⟨ht, short, hstop, hsize⟩ := (hf a _ hread).overruns h
      rw [Cursor.size_advance hm'] at hsize
      simp only [Cursor.advance, Cursor.offset, List.length_drop] at short hstop ⊢
      exact ⟨ht, by omega, by omega, hsize⟩

/-- Looking at the cursor first keeps a reader orderly. -/
theorem get_bind {f : Cursor → Reader β} (h : Orderly text (f c) c) :
    Orderly text (get >>= f) c where
  advances ok := h.advances ok
  overruns broken := h.overruns broken

/-- Reading several parts one after the other is orderly. -/
theorem mapM {γ : Type} {read : γ → Reader α} {parts : List γ}
    (h : ∀ part ∈ parts, ∀ c, Orderly text (read part) c) (c : Cursor) :
    Orderly text (parts.mapM read) c := by
  induction parts generalizing c with
  | nil => exact .pure []
  | cons part rest ih =>
    rw [List.mapM_cons]
    apply bind (h part (by simp) c)
    intro a c' _
    apply bind (ih (fun other mem => h other (List.mem_cons_of_mem _ mem)) c')
    intro as c'' _
    exact .pure (a :: as)

end Orderly

/-- Reading a word is orderly. -/
theorem orderly_readWord {text : Prop} (c : Cursor) : Orderly text readWord c := by
  have h := readWord_eq c
  by_cases limit : c.limit = 0
  · rw [if_pos limit] at h
    exact .report h
  · rw [if_neg limit] at h
    cases rest : c.rest with
    | nil =>
      rw [rest] at h
      exact .report h
    | cons w others =>
      rw [rest] at h
      exact .advance h (by omega) (by rw [rest]; exact Nat.le_add_left 1 _)

/-- Reading a choice is orderly. -/
theorem orderly_readChoice {text : Prop} (choice : Choice) (c : Cursor) :
    Orderly text (readChoice choice) c := by
  have h := readChoice_eq choice c
  cases rest : c.rest with
  | nil =>
    rw [rest] at h
    exact .report h
  | cons w others =>
    rw [rest] at h
    dsimp only at h
    by_cases limit : c.limit = 0
    · rw [if_pos limit] at h
      exact .report h
    · rw [if_neg limit] at h
      by_cases accepted : choice.accepts w
      · rw [if_pos accepted] at h
        exact .advance h (by omega) (by rw [rest]; exact Nat.le_add_left 1 _)
      · rw [if_neg accepted] at h
        exact .report h

/-- A word has four bytes. -/
theorem length_bytesOfWords (words : List UInt32) :
    (bytesOfWords words).length = 4 * words.length := by
  induction words with
  | nil => rfl
  | cons w rest ih =>
    rw [bytesOfWords, List.flatMap_cons, List.length_append]
    rw [show rest.flatMap bytesOfWord = bytesOfWords rest from rfl, ih, List.length_cons]
    simp only [bytesOfWord, List.length_cons, List.length_nil]
    omega

/-- Bytes in front of the first NUL are fewer than all of them. -/
theorem length_takeWhile_lt {bytes : List UInt8} (h : 0 ∈ bytes) :
    (bytes.takeWhile (· != 0)).length < bytes.length := by
  apply Nat.lt_of_le_of_ne (List.takeWhile_prefix _).length_le
  intro same
  have all := (List.takeWhile_prefix (· != 0)).eq_of_length same
  have unseen := List.all_takeWhile (p := (· != 0)) (l := bytes)
  rw [all] at unseen
  simpa using List.all_eq_true.mp unseen 0 h

/-- Reading a text is orderly. -/
theorem orderly_readText (c : Cursor) : Orderly True readText c := by
  have h := readText_eq c
  by_cases short : c.rest.length < c.limit
  · rw [if_pos short] at h
    constructor
    · intro a c' ok
      rw [h] at ok
      cases ok
    · intro stop size broken
      rw [h] at broken
      cases broken
      exact ⟨trivial, short, rfl, rfl⟩
  · rw [if_neg short] at h
    by_cases closed : 0 ∈ bytesOfWords (c.rest.take c.limit)
    · rw [if_pos closed] at h
      cases decoded : utf8Decode ((bytesOfWords (c.rest.take c.limit)).takeWhile (· != 0)) with
      | error e =>
        rw [decoded] at h
        exact .report h
      | ok cs =>
        rw [decoded] at h
        have inside := length_takeWhile_lt closed
        rw [length_bytesOfWords, List.length_take] at inside
        exact .advance h (by omega) (by omega)
    · rw [if_neg closed] at h
      exact .report h

end ComputeHandles.Spirv
