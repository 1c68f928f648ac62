import Stepwise.Text.Quoted

/-!
# UTF-8

Files hold bytes. Decoding either gives the characters or names the first place where the bytes
are not the encoding of any text, with the reason; overlong forms, surrogates and values beyond
the last code point are refused at the byte that rules them out.
-/

namespace Stepwise

namespace Utf8

/-- Why a place in a run of bytes is no encoded character. -/
inductive Reason where
  | invalidStart
  | invalidContinuation
  | endOfData
  deriving DecidableEq, Repr

/-- The first malformed place: where it starts, its bytes and the reason. -/
structure Malformed where
  position : Nat
  content : List UInt8
  reason : Reason
  deriving DecidableEq, Repr

def Reason.text : Reason → String
  | .invalidStart => "invalid start byte"
  | .invalidContinuation => "invalid continuation byte"
  | .endOfData => "unexpected end of data"

def Malformed.text (m : Malformed) : String :=
  match m.content with
  | [single] =>
    let byte := String.ofList (Quoted.hex 2 single.toNat)
    s!"'utf-8' codec can't decode byte 0x{byte} in position {m.position}: {m.reason.text}"
  | content =>
    let last := m.position + content.length - 1
    s!"'utf-8' codec can't decode bytes in position {m.position}-{last}: {m.reason.text}"

/-- The bounds of the second byte after a leading byte, and how many continuation bytes follow
the leading one; no bounds for a byte that starts no character of several bytes. -/
def shape? (lead : Nat) : Option (Nat × Nat × Nat) :=
  if 0xc2 ≤ lead ∧ lead ≤ 0xdf then some (0x80, 0xbf, 1)
  else if lead = 0xe0 then some (0xa0, 0xbf, 2)
  else if lead = 0xed then some (0x80, 0x9f, 2)
  else if 0xe1 ≤ lead ∧ lead ≤ 0xef then some (0x80, 0xbf, 2)
  else if lead = 0xf0 then some (0x90, 0xbf, 3)
  else if lead = 0xf4 then some (0x80, 0x8f, 3)
  else if 0xf1 ≤ lead ∧ lead ≤ 0xf3 then some (0x80, 0xbf, 3)
  else none

/-- The leading bytes that continue a character, at most `wanted`, the first within bounds. -/
def continuation (low high wanted : Nat) : List UInt8 → List UInt8
  | [] => []
  | b :: rest =>
    if wanted = 0 then []
    else if low ≤ b.toNat ∧ b.toNat ≤ high then b :: continuation 0x80 0xbf (wanted - 1) rest
    else []

/-- The code point carried by a leading byte and its continuation. -/
def codePoint (lead : Nat) (tail : List UInt8) : Nat :=
  let top :=
    if tail.length = 1 then lead - 0xc0
    else if tail.length = 2 then lead - 0xe0
    else lead - 0xf0
  tail.foldl (fun total b => total * 64 + (b.toNat - 0x80)) top

/-- Decodes from a position on; the fuel bounds the number of characters. -/
def decodeFrom : Nat → Nat → List UInt8 → Except Malformed (List Char)
  | 0, _, _ => .ok []
  | _, _, [] => .ok []
  | fuel + 1, position, lead :: rest =>
    if lead.toNat < 0x80 then
      (decodeFrom fuel (position + 1) rest).map (Char.ofNat lead.toNat :: ·)
    else
      match shape? lead.toNat with
      | none => .error ⟨position, [lead], .invalidStart⟩
      | some (low, high, wanted) =>
        let tail := continuation low high wanted rest
        if tail.length = wanted then
          (decodeFrom fuel (position + 1 + wanted) (rest.drop wanted)).map
            (Char.ofNat (codePoint lead.toNat tail) :: ·)
        else if tail.length = rest.length then .error ⟨position, lead :: tail, .endOfData⟩
        else .error ⟨position, lead :: tail, .invalidContinuation⟩

def decode (content : List UInt8) : Except Malformed (List Char) :=
  decodeFrom content.length 0 content

/-- The bytes of one character. -/
def encodeChar (c : Char) : List UInt8 :=
  let n := c.toNat
  let tail (shift : Nat) : UInt8 := UInt8.ofNat (0x80 + n / Nat.pow 2 shift % 64)
  if n < 0x80 then [UInt8.ofNat n]
  else if n < 0x800 then [UInt8.ofNat (0xc0 + n / 64), tail 0]
  else if n < 0x10000 then [UInt8.ofNat (0xe0 + n / 4096), tail 6, tail 0]
  else [UInt8.ofNat (0xf0 + n / 262144), tail 12, tail 6, tail 0]

def encode (text : List Char) : List UInt8 := text.flatMap encodeChar

end Utf8

namespace Text

/-- Line ends of a text file made uniform: a carriage return, with or without a line feed after
it, is one line feed. -/
def uniformLines : List Char → List Char
  | [] => []
  | '\r' :: '\n' :: rest => '\n' :: uniformLines rest
  | '\r' :: rest => '\n' :: uniformLines rest
  | c :: rest => c :: uniformLines rest

end Text

end Stepwise
