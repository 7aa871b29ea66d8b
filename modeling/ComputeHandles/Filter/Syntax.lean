import ComputeHandles.Filter.Basic
import ComputeHandles.Text.Blank

/-!
# Filter strings

A filter string is a comma separated list of entries, an entry a colon separated
list of parts, and blanks around either do not count. The parts of an entry are a
backend, a device type and a position, in this order and each of them optional; a
star stands for any backend or any device type. A part is taken for the first of
the three that it can be, so a lone star or `host` restricts the backend.
-/

namespace ComputeHandles

open Text

/-- Why an entry is not a filter. -/
inductive EntryFault where
  /-- The entry is blank. -/
  | blank
  /-- A part is none of what could still come. -/
  | unexpected (part : List Char)
  deriving DecidableEq, Repr

/-- Why a text is not a filter string. -/
inductive FilterError where
  /-- An entry is blank. -/
  | empty (filter : String)
  /-- A part is not what it could be at its place. -/
  | unexpectedToken (token filter : String)
  deriving DecidableEq, Repr

/-- The complaint about a filter string. -/
def FilterError.message : FilterError → String
  | .empty filter => s!"Empty device filter in {quote filter}!"
  | .unexpectedToken token filter =>
    s!"Unexpected token {quote token} in device filter {quote filter}, "
      ++ "expected \"backend:device_type:index\"!"

/-- A fault of an entry, told about the whole filter string. -/
def EntryFault.within (filter : String) : EntryFault → FilterError
  | .blank => .empty filter
  | .unexpected part => .unexpectedToken (String.ofList part) filter

/-- A star restricts nothing; any other part is read as a name. -/
def ofStarOr {α : Type} (ofName? : List Char → Option α) (part : List Char) : Option (Option α) :=
  if part = ['*'] then some none else (ofName? part).map some

/-- A position: decimal digits with a value below 2^64, however many zeros lead. -/
def readIndex? (part : List Char) : Option UInt64 :=
  if part ≠ [] ∧ part.all Char.isDigit then
    let value := Nat.ofDigitChars 10 part 0
    if value < UInt64.size then some (UInt64.ofNat value) else none
  else none

/-- Takes the first part if it reads as what is optional here. -/
def takePart {α : Type} (read : List Char → Option α) :
    List (List Char) → Option α × List (List Char)
  | [] => (none, [])
  | part :: rest =>
    match read part with
    | some a => (some a, rest)
    | none => (none, part :: rest)

/-- The filter that the parts of an entry make; a part left over is unexpected. -/
def Filter.ofParts (parts : List (List Char)) : Except EntryFault Filter :=
  let (backend, parts) := takePart (ofStarOr Backend.ofName?) parts
  let (deviceType, parts) := takePart (ofStarOr DeviceType.ofName?) parts
  let (index, parts) := takePart readIndex? parts
  match parts with
  | [] => .ok ⟨backend.join, deviceType.join, index⟩
  | part :: _ => .error (.unexpected part)

/-- The trimmed parts of an entry. -/
def entryParts (entry : List Char) : List (List Char) := ((trim entry).splitOn ':').map trim

/-- Reads one entry. -/
def Filter.read (entry : List Char) : Except EntryFault Filter :=
  if trim entry = [] then .error .blank else Filter.ofParts (entryParts entry)

/-- Reads the entries of a filter string; the first fault wins. -/
def Filter.readAll (text : List Char) : Except EntryFault (List Filter) :=
  (text.splitOn ',').mapM Filter.read

/-- Reads a filter string. -/
def Filter.parseAll (input : String) : Except FilterError (List Filter) :=
  (Filter.readAll input.toList).mapError (EntryFault.within input)

/-- The parts that write a filter: backend and device type, and a position if any. -/
def Filter.parts (f : Filter) : List (List Char) :=
  (f.backend.map (·.name.toList)).getD ['*'] ::
    (f.deviceType.map (·.name.toList)).getD ['*'] ::
    (f.index.map fun i => Nat.toDigits 10 i.toNat).toList

/-- Writes one entry. -/
def Filter.write (f : Filter) : List Char := [':'].intercalate f.parts

/-- The text of one entry. -/
def Filter.text (f : Filter) : String := String.ofList f.write

/-- Writes a filter string. -/
def Filter.writeAll (filters : List Filter) : List Char :=
  [','].intercalate (filters.map Filter.write)

/-- A position is read back from its digits. -/
theorem readIndex?_toDigits (i : UInt64) : readIndex? (Nat.toDigits 10 i.toNat) = some i := by
  have digits : (Nat.toDigits 10 i.toNat).all Char.isDigit = true :=
    List.all_eq_true.2 fun c mem => Nat.isDigit_of_mem_toDigits (by decide) (by decide) mem
  have value : Nat.ofDigitChars 10 (Nat.toDigits 10 i.toNat) 0 = i.toNat :=
    Nat.ofDigitChars_toDigits (by decide) (by decide)
  simp [readIndex?, digits, value, Nat.toDigits_ne_nil, UInt64.toNat_lt_size]

end ComputeHandles
