import Stepwise.Text.Blank

/-!
# Template tokens

A template is a text with references in it, each a dollar sign and a path between braces. The
path itself holds no brace. Cutting a template into tokens loses nothing: the tokens in order
spell the template again.
-/

namespace Stepwise

namespace Template

/-- A stretch of plain text, or a reference with its trimmed path and its spelling. -/
inductive Token where
  | text (chars : List Char)
  | reference (path spelling : List Char)
  deriving DecidableEq, Repr

/-- What a token stands for in the template it was cut from. -/
def Token.source : Token → List Char
  | .text chars => chars
  | .reference _ spelling => spelling

def isBrace (c : Char) : Bool := c = '\x7b' || c = '\x7d'

/-- The text between the braces of the reference that a text starts with, and what follows it. -/
def reference? : List Char → Option (List Char × List Char)
  | '$' :: '\x7b' :: rest =>
    match rest.dropWhile (!isBrace ·) with
    | '\x7d' :: after => some (rest.takeWhile (!isBrace ·), after)
    | _ => none
  | _ => none

/-- How a reference is spelled. -/
def spelled (inner : List Char) : List Char := '$' :: '\x7b' :: inner ++ ['\x7d']

/-- A reference is not empty, so what follows it is shorter than the text it starts. -/
theorem length_of_reference? {text inner after : List Char}
    (found : reference? text = some (inner, after)) : after.length < text.length := by
  unfold reference? at found
  split at found
  · rename_i rest
    split at found
    · rename_i tail remaining
      have shorter : (rest.dropWhile (!isBrace ·)).length ≤ rest.length :=
        (List.dropWhile_sublist _).length_le
      rw [remaining] at shorter
      simp only [Option.some.injEq, Prod.mk.injEq] at found
      obtain ⟨-, rfl⟩ := found
      simp only [List.length_cons] at shorter ⊢
      omega
    · simp at found
  · simp at found

/-- Puts one character of plain text in front of tokens, joining it to the text they start with. -/
def pushChar (c : Char) : List Token → List Token
  | .text chars :: rest => .text (c :: chars) :: rest
  | tokens => .text [c] :: tokens

/-- Cuts a template into tokens: at every place a reference is taken if one starts there, and
one character of plain text otherwise. -/
def tokenize : List Char → List Token
  | [] => []
  | c :: rest =>
    match found : reference? (c :: rest) with
    | some (inner, after) =>
      have := length_of_reference? found
      .reference (trim inner) (spelled inner) :: tokenize after
    | none => pushChar c (tokenize rest)
termination_by text => text.length
decreasing_by
  · exact this
  · exact Nat.lt_succ_self rest.length

end Template

end Stepwise
