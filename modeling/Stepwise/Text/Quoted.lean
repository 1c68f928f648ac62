import Stepwise.Text.Printable
import Stepwise.Number.Decimal

/-!
# Quoted text

How a text or a run of bytes is shown inside messages: between quotes, with everything escaped
that could be mistaken. Apostrophes enclose it unless it holds an apostrophe and no quotation
mark.
-/

namespace Stepwise

namespace Quoted

def hexDigit (n : Nat) : Char := "0123456789abcdef".toList.getD n '0'

/-- The last `width` hexadecimal digits of a number. -/
def hex : Nat → Nat → List Char
  | 0, _ => []
  | width + 1, n => hex width (n / 16) ++ [hexDigit (n % 16)]

/-- The mark that encloses a text, given whether it holds each of the two. -/
def enclosing (apostrophe quotation : Bool) : Char :=
  if apostrophe && !quotation then '"' else '\''

/-- The escape of a code point that is not printable: two, four or eight digits by its size. -/
def escapedCode (n : Nat) : List Char :=
  if n < 0x100 then '\\' :: 'x' :: hex 2 n
  else if n < 0x10000 then '\\' :: 'u' :: hex 4 n
  else '\\' :: 'U' :: hex 8 n

/-- One character between the given marks. -/
def character (mark c : Char) : List Char :=
  if c = mark ∨ c = '\\' then ['\\', c]
  else if c = '\t' then ['\\', 't']
  else if c = '\n' then ['\\', 'n']
  else if c = '\r' then ['\\', 'r']
  else if isPrintable c then [c]
  else escapedCode c.toNat

def chars (text : List Char) : List Char :=
  let mark := enclosing (text.contains '\'') (text.contains '"')
  mark :: text.flatMap (character mark) ++ [mark]

/-- One byte between the given marks; only ASCII is shown as itself. -/
def byte (mark : Char) (b : UInt8) : List Char :=
  if b.toNat < 0x80 then character mark (Char.ofNat b.toNat) else escapedCode b.toNat

def bytes (content : List UInt8) : List Char :=
  let holds (c : Char) : Bool := content.any fun b => b.toNat = c.toNat
  let mark := enclosing (holds '\'') (holds '"')
  'b' :: mark :: content.flatMap (byte mark) ++ [mark]

end Quoted

/-- A text between quotes. -/
def quoted (text : String) : String := String.ofList (Quoted.chars text.toList)

end Stepwise
