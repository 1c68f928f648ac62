/-!
# Blank characters

Which characters count as blank at the ends of a text, and the trimming that takes them off.
-/

namespace Stepwise

/-- The blanks: the ASCII spacing and separator controls, the space, and the spacing characters
of the other blocks. -/
def blanks : List Nat := [
  0x9, 0xa, 0xb, 0xc, 0xd, 0x1c, 0x1d, 0x1e, 0x1f, 0x20, 0x85, 0xa0, 0x1680,
  0x2000, 0x2001, 0x2002, 0x2003, 0x2004, 0x2005, 0x2006, 0x2007, 0x2008, 0x2009, 0x200a,
  0x2028, 0x2029, 0x202f, 0x205f, 0x3000]

def isBlank (c : Char) : Bool := blanks.contains c.toNat

/-- Drops leading blanks. -/
def trimLeft (text : List Char) : List Char := text.dropWhile isBlank

/-- Drops trailing blanks. -/
def trimRight (text : List Char) : List Char := (text.reverse.dropWhile isBlank).reverse

/-- Drops blanks from both ends. -/
def trim (text : List Char) : List Char := trimRight (trimLeft text)

namespace Text

/-- The text without blanks at its ends. -/
def trimmed (text : String) : String := String.ofList (trim text.toList)

/-- The parts between the occurrences of a mark; there is always at least one part. -/
def splitAt (mark : Char) : List Char → List (List Char)
  | [] => [[]]
  | c :: rest =>
    if c = mark then [] :: splitAt mark rest
    else
      match splitAt mark rest with
      | [] => [[c]]
      | part :: parts => (c :: part) :: parts

end Text

end Stepwise
