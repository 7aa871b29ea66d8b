import ComputeHandles.Proofs.Listing
import ComputeHandles.Text.Outline

/-!
# Quoted texts tell what they quote

What stands for a character between quotes tells the character and where it ends, and it never
begins with a bare quote. So a quoted text tells the text and where it ends, whatever comes
behind it, and so does the outline of a list of quoted texts. All that is written this way is
printable, so no NUL and no line break is in it.
-/

namespace ComputeHandles.Text

open Listing

/-- Values are written so that what is written tells the value and where it ends. -/
def SelfDelimiting {α τ : Type} [Append τ] (write : α → τ) : Prop :=
  ∀ a b rest rest', write a ++ rest = write b ++ rest' → a = b ∧ rest = rest'

section SelfDelimiting

variable {α β γ : Type} {write : α → List β}

/-- If values that are written one after the other never begin with a stop, a list of them in
front of the stop tells the list and where it ends. -/
theorem SelfDelimiting.flatMap {stop : β} (each : SelfDelimiting write)
    (begins : ∀ a rest rest', write a ++ rest ≠ stop :: rest') :
    SelfDelimiting fun as : List α => as.flatMap write ++ [stop] := by
  intro as bs rest rest' same
  simp only [List.append_assoc, List.singleton_append] at same
  -- The stop tells whether there is another value, and if there is one, it tells itself.
  induction as generalizing bs with
  | nil =>
    cases bs with
    | nil => exact ⟨rfl, (List.cons.inj same).2⟩
    | cons b bs =>
      rw [List.flatMap_cons, List.append_assoc] at same
      exact absurd same.symm (begins b _ rest)
  | cons a as ih =>
    rw [List.flatMap_cons, List.append_assoc] at same
    cases bs with
    | nil => exact absurd same (begins a _ rest')
    | cons b bs =>
      rw [List.flatMap_cons, List.append_assoc] at same
      obtain ⟨rfl, others⟩ := each a b _ _ same
      obtain ⟨rfl, ends⟩ := ih bs others
      exact ⟨rfl, ends⟩

/-- Values still tell themselves behind a fixed front. -/
theorem SelfDelimiting.behind (front : List β) (each : SelfDelimiting write) :
    SelfDelimiting fun a => front ++ write a := by
  intro a b rest rest' same
  rw [List.append_assoc, List.append_assoc, List.append_cancel_left_eq] at same
  exact each a b rest rest' same

/-- If values tell themselves, then so does all that has a value of its own. -/
theorem SelfDelimiting.comp {f : γ → α} (each : SelfDelimiting write)
    (distinct : Function.Injective f) : SelfDelimiting fun c => write (f c) := by
  intro c d rest rest' same
  obtain ⟨value, ends⟩ := each (f c) (f d) rest rest' same
  exact ⟨distinct value, ends⟩

/-- Texts tell themselves by their characters. -/
theorem SelfDelimiting.ofChars {write : α → String}
    (chars : SelfDelimiting fun a => (write a).toList) : SelfDelimiting write := by
  intro a b rest rest' same
  have written : (write a).toList ++ rest.toList = (write b).toList ++ rest'.toList := by
    rw [← String.toList_append, ← String.toList_append, same]
  obtain ⟨value, ends⟩ := chars a b rest.toList rest'.toList written
  exact ⟨value, String.toList_inj.mp ends⟩

end SelfDelimiting

section HexDigits

variable {m n : Nat}

/-- A number below sixteen is a digit, and any other has the digits of its sixteenth and one
more. -/
theorem hexDigits_eq (n : Nat) : hexDigits n =
    if n < 16 then [n.digitChar] else hexDigits (n / 16) ++ [(n % 16).digitChar] :=
  Nat.toDigits_eq_if (by decide)

/-- What holds of the digits of all numbers below sixteen holds of every digit. -/
theorem forall_mem_hexDigits {p : Char → Prop} (digits : ∀ d < 16, p d.digitChar) (n : Nat) :
    ∀ c ∈ hexDigits n, p c := by
  induction n using Nat.strongRecOn with
  | ind n ih =>
    rw [hexDigits_eq]
    split
    next small => exact List.forall_mem_singleton.mpr (digits n small)
    next large =>
      rw [List.forall_mem_append]
      exact ⟨ih (n / 16) (by omega),
        List.forall_mem_singleton.mpr (digits (n % 16) (Nat.mod_lt n (by decide)))⟩

/-- Numbers below sixteen have different digits. -/
theorem digitChar_inj (hm : m < 16) (hn : n < 16) (same : m.digitChar = n.digitChar) : m = n := by
  have each : ∀ a < 16, ∀ b < 16, Nat.digitChar a = Nat.digitChar b → a = b := by decide
  exact each m hm n hn same

/-- Different numbers have different digits. -/
theorem hexDigits_inj (same : hexDigits m = hexDigits n) : m = n := by
  have longer (k : Nat) (c d : Char) : hexDigits k ++ [c] ≠ [d] := by
    have nonempty : hexDigits k ≠ [] := Nat.toDigits_ne_nil
    simp [List.append_eq_singleton_iff, nonempty]
  -- The last digit is the remainder, and what is in front of it the digits of the sixteenth.
  induction m using Nat.strongRecOn generalizing n with
  | ind m ih =>
    rw [hexDigits_eq m, hexDigits_eq n] at same
    split at same
    next small =>
      split at same
      next small' => exact digitChar_inj small small' (List.cons.inj same).1
      next => exact absurd same.symm (longer _ _ _)
    next =>
      split at same
      next => exact absurd same (longer _ _ _)
      next =>
        obtain ⟨front, last⟩ := List.append_inj' same rfl
        have sixteenth : m / 16 = n / 16 := ih (m / 16) (by omega) front
        have digit : m % 16 = n % 16 := digitChar_inj (Nat.mod_lt m (by decide))
          (Nat.mod_lt n (by decide)) (List.cons.inj last).1
        omega

end HexDigits

/-- The characters that are escaped by a letter, each with its letter. -/
def letterEscapes : List (Char × Char) :=
  [('\x00', '0'), ('\t', 't'), ('\n', 'n'), ('\r', 'r'), ('\\', '\\'), ('"', '"')]

/-- What stands for a character between quotes. -/
inductive EscapedAs (c : Char) : List Char → Prop where
  /-- The character itself, if it is printable and neither a quote nor a backslash. -/
  | bare (printable : isPrintable c = true) (noQuote : c ≠ '"') (noBackslash : c ≠ '\\') :
    EscapedAs c [c]
  /-- A backslash and its letter. -/
  | letter {letter : Char} (mem : (c, letter) ∈ letterEscapes) : EscapedAs c ['\\', letter]
  /-- Its code point. -/
  | code : EscapedAs c (escapeCode c)

/-- What stands for a character is one of these. -/
theorem escapedAs_escapeChar (c : Char) : EscapedAs c (escapeChar c) := by
  unfold escapeChar
  split
  iterate 6 exact .letter (by decide)
  next noBackslash noQuote =>
    split
    next shows =>
      exact .bare (Bool.and_eq_true_iff.mp shows).1 (fun h => noQuote h) (fun h => noBackslash h)
    next => exact .code

section Escape

variable {c d : Char} {rest rest' : List Char}

/-- A letter escapes one character. -/
theorem eq_of_letterEscapes {letter : Char} (hc : (c, letter) ∈ letterEscapes)
    (hd : (d, letter) ∈ letterEscapes) : c = d := by
  have once : ∀ x ∈ letterEscapes, ∀ y ∈ letterEscapes, x.2 = y.2 → x.1 = y.1 := by decide
  exact once _ hc _ hd rfl

/-- The letter of a code point escapes no character. -/
theorem letter_ne_code {letter : Char} (mem : (c, letter) ∈ letterEscapes) : letter ≠ 'u' := by
  have other : ∀ x ∈ letterEscapes, x.2 ≠ 'u' := by decide
  exact other _ mem

/-- The braces of a code point are around its digits alone. -/
theorem selfDelimiting_escapeCode : SelfDelimiting escapeCode := by
  have noBrace (c : Char) : '\x7d' ∉ hexDigits c.toNat := fun mem =>
    forall_mem_hexDigits (p := (· ≠ '\x7d')) (by decide) c.toNat '\x7d' mem rfl
  intro c d rest rest' same
  simp only [escapeCode, List.cons_append, List.append_assoc, List.cons.injEq, true_and,
    List.nil_append] at same
  obtain ⟨digits, ends⟩ := eq_of_append_cons_eq (noBrace c) (noBrace d) same
  exact ⟨Char.toNat_inj.mp (hexDigits_inj digits), ends⟩

/-- What stands for a character tells it and where it ends. -/
theorem selfDelimiting_escapeChar : SelfDelimiting escapeChar := by
  intro c d rest rest' same
  have hc := escapedAs_escapeChar c
  have hd := escapedAs_escapeChar d
  generalize escapeChar c = left at hc same
  generalize escapeChar d = right at hd same
  -- A backslash tells an escape from a bare character, and the letter behind it which escape.
  cases hc with
  | bare _ _ noBackslash =>
    cases hd with
    | bare => exact List.cons.inj same
    | letter | code => exact absurd (List.cons.inj same).1 noBackslash
  | letter mem =>
    cases hd with
    | bare _ _ noBackslash => exact absurd (List.cons.inj same).1.symm noBackslash
    | letter mem' =>
      obtain ⟨rfl, ends⟩ := List.cons.inj (List.cons.inj same).2
      exact ⟨eq_of_letterEscapes mem mem', ends⟩
    | code => exact absurd (List.cons.inj (List.cons.inj same).2).1 (letter_ne_code mem)
  | code =>
    cases hd with
    | bare _ _ noBackslash => exact absurd (List.cons.inj same).1.symm noBackslash
    | letter mem => exact absurd (List.cons.inj (List.cons.inj same).2).1.symm (letter_ne_code mem)
    | code => exact selfDelimiting_escapeCode c d rest rest' same

/-- What stands for a character does not begin with a bare quote. -/
theorem escapeChar_append_ne_quote : escapeChar c ++ rest ≠ '"' :: rest' := by
  have h := escapedAs_escapeChar c
  generalize escapeChar c = escaped at h
  cases h with
  | bare _ noQuote => exact fun same => noQuote (List.cons.inj same).1
  | letter | code => exact fun same => absurd (List.cons.inj same).1 (by decide)

end Escape

/-- The characters of a quoted text. -/
theorem toList_quote (s : String) : (quote s).toList = ['"'] ++ (escape s.toList ++ ['"']) :=
  String.toList_ofList

/-- The characters of a quoted text tell the text and where it ends. -/
theorem selfDelimiting_toList_quote : SelfDelimiting fun s => (quote s).toList := by
  have chars : SelfDelimiting fun cs : List Char => ['"'] ++ (escape cs ++ ['"']) :=
    (selfDelimiting_escapeChar.flatMap fun _ _ _ => escapeChar_append_ne_quote).behind ['"']
  simpa only [toList_quote] using chars.comp fun _ _ => String.toList_inj.mp

/-- A quoted text tells the text and where it ends. -/
theorem selfDelimiting_quote : SelfDelimiting quote := selfDelimiting_toList_quote.ofChars

/-- Quoted texts that go on a list, each behind a comma and a space, and the bracket that closes
it. -/
def quotesToEnd (others : List String) : List Char :=
  others.flatMap (fun s => ", ".toList ++ (quote s).toList) ++ [']']

/-- Quoted texts in a list and the bracket that closes it. -/
def quotesInList : List String → List Char
  | [] => [']']
  | first :: others => (quote first).toList ++ quotesToEnd others

/-- The characters of the outline of quoted texts. -/
theorem toList_listOutline_quote (ss : List String) :
    (listOutline (ss.map quote)).toList = ['['] ++ quotesInList ss := by
  cases ss with
  | nil => rfl
  | cons first others =>
    rw [listOutline, String.toList_append, String.toList_append, String.toList_intercalate,
      List.map_map, List.map_cons, intercalate_cons_eq_flatMap, List.flatMap_map]
    simp [quotesInList, quotesToEnd]

/-- Quoted texts that go on a list tell the texts and where the list ends. -/
theorem selfDelimiting_quotesToEnd : SelfDelimiting quotesToEnd :=
  (selfDelimiting_toList_quote.behind ", ".toList).flatMap fun _ _ _ same =>
    absurd (List.cons.inj same).1 (by decide)

/-- Quoted texts in a list tell the texts and where the list ends. -/
theorem selfDelimiting_quotesInList : SelfDelimiting quotesInList := by
  have opens (s : String) (others : List String) (rest rest' : List Char) :
      quotesInList (s :: others) ++ rest ≠ ']' :: rest' := by
    rw [quotesInList, toList_quote]
    exact fun same => absurd (List.cons.inj same).1 (by decide)
  intro ss ts rest rest' same
  cases ss with
  | nil =>
    cases ts with
    | nil => exact ⟨rfl, (List.cons.inj same).2⟩
    | cons t ts => exact absurd same.symm (opens t ts rest' rest)
  | cons s ss =>
    cases ts with
    | nil => exact absurd same (opens s ss rest rest')
    | cons t ts =>
      rw [quotesInList, quotesInList, List.append_assoc, List.append_assoc] at same
      obtain ⟨rfl, behind⟩ := selfDelimiting_toList_quote s t _ _ same
      obtain ⟨rfl, ends⟩ := selfDelimiting_quotesToEnd ss ts rest rest' behind
      exact ⟨rfl, ends⟩

/-- The outline of quoted texts tells the texts and where it ends. -/
theorem selfDelimiting_listOutline_quote :
    SelfDelimiting fun ss : List String => listOutline (ss.map quote) := by
  apply SelfDelimiting.ofChars
  simpa only [toList_listOutline_quote] using selfDelimiting_quotesInList.behind ['[']

/-- Every character of a text is printable. -/
def Printable (s : String) : Prop := ∀ c ∈ s.toList, isPrintable c = true

instance (s : String) : Decidable (Printable s) :=
  decidable_of_iff (s.toList.all isPrintable = true) List.all_eq_true

/-- The characters that break a line: line feed, vertical tab, form feed, carriage return, next
line, and the separators of lines and of paragraphs. -/
def lineBreaks : List Char := ['\n', '\x0b', '\x0c', '\r', '\x85', '\u2028', '\u2029']

/-- A text of two parts is printable exactly when both are. -/
@[simp] theorem printable_append {s t : String} :
    Printable (s ++ t) ↔ Printable s ∧ Printable t := by
  rw [Printable, String.toList_append, List.forall_mem_append]
  rfl

/-- NUL is not printable, and no character is that breaks a line. -/
theorem Printable.plain {s : String} (h : Printable s) :
    ∀ c ∈ s.toList, c ≠ '\x00' ∧ c ∉ lineBreaks := by
  have hidden : ('\x00' :: lineBreaks).all (!isPrintable ·) = true := by decide +kernel
  intro c mem
  have shown : c ∉ '\x00' :: lineBreaks := fun listed => by
    have notShown : (!isPrintable c) = true := List.all_eq_true.mp hidden c listed
    rw [h c mem] at notShown
    exact absurd notShown (by decide)
  rwa [List.mem_cons, not_or] at shown

/-- What stands for a character is printable. -/
theorem EscapedAs.printable {c : Char} {escaped : List Char} (h : EscapedAs c escaped) :
    ∀ d ∈ escaped, isPrintable d = true := by
  have backslash : isPrintable '\\' = true := by decide
  cases h with
  | bare shows => exact List.forall_mem_singleton.mpr shows
  | letter mem =>
    have letters : ∀ x ∈ letterEscapes, isPrintable x.2 = true := by decide
    exact List.forall_mem_cons.mpr
      ⟨backslash, List.forall_mem_singleton.mpr (letters _ mem)⟩
  | code =>
    have digits := forall_mem_hexDigits (p := (isPrintable · = true)) (by decide) c.toNat
    simp only [escapeCode, List.forall_mem_cons, List.forall_mem_append]
    exact ⟨backslash, by decide, by decide, digits, by decide, List.forall_mem_nil _⟩

/-- A quoted text is printable, whatever the text is. -/
theorem printable_quote (s : String) : Printable (quote s) := by
  rw [Printable, toList_quote, List.forall_mem_append, List.forall_mem_append]
  have quotes : ∀ c ∈ ['"'], isPrintable c = true := List.forall_mem_singleton.mpr (by decide)
  refine ⟨quotes, fun c mem => ?_, quotes⟩
  obtain ⟨quoted, -, stands⟩ := List.mem_flatMap.mp mem
  exact (escapedAs_escapeChar quoted).printable c stands

/-- The outline of a list of printable texts is printable. -/
theorem printable_listOutline {items : List String} (h : ∀ item ∈ items, Printable item) :
    Printable (listOutline items) := by
  have inside : Printable (", ".intercalate items) := by
    intro c mem
    rw [String.toList_intercalate] at mem
    have separator : Printable ", " := by decide
    rcases of_mem_intercalate mem with between | ⟨chars, held, inItem⟩
    · exact separator c between
    · obtain ⟨item, listed, rfl⟩ := List.mem_map.mp held
      exact h item listed c inItem
  rw [listOutline, printable_append, printable_append]
  exact ⟨⟨by decide, inside⟩, by decide⟩

end ComputeHandles.Text
