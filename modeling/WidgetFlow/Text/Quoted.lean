import WidgetFlow.Text.Printable

/-!
# Quoted text

A text between quotes, on one line and in printable characters only. The quote mark and the
backslash get a backslash; the usual control characters have a letter; other characters that do
not print are written by their code point, in two, four or eight hexadecimal digits.

A text consists of characters. Bytes that are not the encoding of any character do not occur in it, so
the escapes by which such bytes would be written, one by one, are left out.
-/

namespace WidgetFlow.Text

/-- The last `width` hexadecimal digits of `n`, the highest first. -/
def hexDigits (width n : Nat) : List Char :=
  (List.range width).map fun i => Nat.digitChar (n / Nat.pow 16 (width - 1 - i) % 16)

/-- The letter that stands for a control character after a backslash. -/
def controlLetter? (c : Char) : Option Char :=
  match c.toNat with
  | 7 => some 'a'
  | 8 => some 'b'
  | 9 => some 't'
  | 10 => some 'n'
  | 11 => some 'v'
  | 12 => some 'f'
  | 13 => some 'r'
  | _ => none

/-- How one character is written between a pair of `mark`s. -/
def escapeChar (mark c : Char) : List Char :=
  if c = mark ∨ c = '\\' then ['\\', c]
  else if isPrintable c then [c]
  else match controlLetter? c with
    | some letter => ['\\', letter]
    | none =>
      if c.toNat < 0x20 ∨ c.toNat = 0x7f then '\\' :: 'x' :: hexDigits 2 c.toNat
      else if c.toNat < 0x10000 then '\\' :: 'u' :: hexDigits 4 c.toNat
      else '\\' :: 'U' :: hexDigits 8 c.toNat

/-- The text `s` between double quotes. -/
def quoted (s : String) : String :=
  String.ofList ('"' :: s.toList.flatMap (escapeChar '"') ++ ['"'])

/-- The character with code `n` between single quotes; a number that is no character's code is
written as the replacement character. -/
def quotedCode (n : Int) : String :=
  let c : Char :=
    if 0 ≤ n ∧ n.toNat.isValidChar then Char.ofNat n.toNat else Char.ofNat 0xFFFD
  String.ofList ('\'' :: escapeChar '\'' c ++ ['\''])

end WidgetFlow.Text
