import ComputeHandles.Text.Printable
import ComputeHandles.Text.GraphemeExtend

/-!
# Quoted text

Text inside a message stands between double quotes. Quotes, backslashes, four
controls and every character that would not show as itself are escaped, so the end
of the text is always the next bare quote and no quoted text holds a line break.
-/

namespace ComputeHandles.Text

/-- Digits of a number in base sixteen, letters in lower case. -/
def hexDigits (n : Nat) : List Char := Nat.toDigits 16 n

/-- A number in base sixteen after `0x`, with zeros up to the given number of digits. -/
def hexText (width n : Nat) : String :=
  let digits := hexDigits n
  String.ofList ('0' :: 'x' :: (List.replicate (width - digits.length) '0' ++ digits))

/-- The escape that writes a character by its code point. -/
def escapeCode (c : Char) : List Char :=
  '\\' :: 'u' :: '\x7b' :: (hexDigits c.toNat ++ ['\x7d'])

/-- What stands for one character between quotes. -/
def escapeChar (c : Char) : List Char :=
  match c with
  | '\x00' => ['\\', '0']
  | '\t' => ['\\', 't']
  | '\n' => ['\\', 'n']
  | '\r' => ['\\', 'r']
  | '\\' => ['\\', '\\']
  | '"' => ['\\', '"']
  | _ => if isPrintable c && !extendsGrapheme c then [c] else escapeCode c

/-- What stands for a text between quotes. -/
def escape (cs : List Char) : List Char := cs.flatMap escapeChar

/-- A text between double quotes. -/
def quote (s : String) : String := String.ofList ('"' :: (escape s.toList ++ ['"']))

end ComputeHandles.Text
