import Stepwise.Value.Text

/-!
# The text of faults

The wording of every fault. The library's own faults fix their text when they are raised, so the
values in it must have a text then; `raised` puts the fault met on the way in the place of one
whose text cannot be formed.
-/

namespace Stepwise

namespace Fault

/-- One detail is the text itself; several are shown together. -/
def detailsText : List Value → Except Fault String
  | [] => .ok ""
  | [single] => single.text
  | several => (Value.tuple several).shown

/-- Faults of the file system give a number, a reason, and the paths concerned. -/
def systemText : List Value → Except Fault String
  | [number, reason] => do
    let number ← number.text
    let reason ← reason.text
    return s!"[Errno {number}] {reason}"
  | [number, reason, path] => do
    let number ← number.text
    let reason ← reason.text
    let path ← path.shown
    return s!"[Errno {number}] {reason}: {path}"
  | [number, reason, source, _, target] => do
    let number ← number.text
    let reason ← reason.text
    let source ← source.shown
    let target ← target.shown
    return s!"[Errno {number}] {reason}: {source} -> {target}"
  | details => detailsText details

/-- The single position of a stretch that holds only one and starts before the end. -/
def single? (length : Nat) (first last : Int) : Option Int :=
  if first < length ∧ last = first + 1 then some first else none

/-- A stretch of several positions, or of none: the first and the last one. -/
def stretchText (noun : String) (first last : Int) : String :=
  s!"{noun} in position {first}-{last - 1}"

/-- A character by its code, in the least of three widths. -/
def codeText (c : Char) : String :=
  let code := c.toNat
  if code ≤ 0xff then "\\x" ++ String.ofList (Quoted.hex 2 code)
  else if code ≤ 0xffff then "\\u" ++ String.ofList (Quoted.hex 4 code)
  else "\\U" ++ String.ofList (Quoted.hex 8 code)

/-- The bytes from the first position up to the last one. A position before the first byte
counts as a byte with all bits set. -/
def byteStretch (content : List UInt8) (first last : Int) : String :=
  match single? content.length first last with
  | none => stretchText "bytes" first last
  | some place =>
    let byte := if place < 0 then 0xff else content.getD place.toNat 0
    s!"byte 0x" ++ String.ofList (Quoted.hex 2 byte.toNat) ++ s!" in position {place}"

/-- The characters from the first position up to the last one; a single one before the start is
not there to be shown. -/
def characterStretch (content : String) (first last : Int) : Except Fault String :=
  match single? content.length first last with
  | none => .ok (stretchText "characters" first last)
  | some place =>
    match (if place < 0 then none else content.toList[place.toNat]?) with
    | some c => .ok ("character '" ++ codeText c ++ s!"' in position {place}")
    | none => .error (machinery "IndexError" "string index out of range")

/-- A fault of coding tells the code, the stretch that has no place in it, and the reason. -/
def codingText (kind : String) (details : List Value) : Except Fault String :=
  match kind, details with
  | "UnicodeDecodeError", [.str code, .bytes content, .int first, .int last, .str reason] =>
    .ok (s!"'{code}' codec can't decode " ++ byteStretch content first last ++ ": " ++ reason)
  | "UnicodeEncodeError", [.str code, .str content, .int first, .int last, .str reason] => do
    let stretch ← characterStretch content first last
    return s!"'{code}' codec can't encode " ++ stretch ++ ": " ++ reason
  | "UnicodeTranslateError", [.str content, .int first, .int last, .str reason] => do
    let stretch ← characterStretch content first last
    return "can't translate " ++ stretch ++ ": " ++ reason
  | _, details => detailsText details

/-- A fault of a source text tells, behind its message, the last part of the file's name and the
line, as far as these are known. A line beyond the machine's size is told as minus one. -/
def sourceText : List Value → Except Fault String
  | [message, file, line] => do
    let message ← message.text
    let file :=
      match file with
      | .str path => some (String.ofList (path.toList.reverse.takeWhile (· != '/')).reverse)
      | _ => none
    let line :=
      match line with
      | .int n =>
        let told := if -Int.pow 2 63 ≤ n ∧ n < Int.pow 2 63 then n else -1
        some s!"line {told}"
      | _ => none
    match file.toList ++ line.toList with
    | [] => return message
    | known => return message ++ " (" ++ ", ".intercalate known ++ ")"
  | details => detailsText details

/-- The text of a fault, unless it contains a value without one. -/
def text : Fault → Except Fault String
  | general details => detailsText details
  | conditionRejected details => detailsText details
  | persistence details => detailsText details
  | executionState details => detailsText details
  | workflowNotFound workflow => do
    let workflow ← workflow.text
    return s!"Workflow '{workflow}' not found"
  | invalidDefinition workflow problems => do
    let workflow ← workflow.text
    return s!"Invalid workflow '{workflow}': " ++ ", ".intercalate problems
  | agentNotFound agent => do
    let agent ← agent.text
    return s!"Agent '{agent}' not found"
  | actionNotFound agent action => do
    let action ← action.text
    let agent ← agent.text
    return s!"Action '{action}' not found on agent '{agent}'"
  | actionFailed agent action reason _ _ => do
    let agent ← agent.text
    let action ← action.text
    return s!"{agent}.{action} failed: {reason}"
  | unresolvedReference path => do
    let path ← path.text
    return "Unresolved reference '$\x7b" ++ path ++ "\x7d'"
  | executionNotFound execution => do
    let execution ← execution.text
    return s!"Execution '{execution}' not found"
  | other kind details =>
    match details with
    | [single] => if kind = "KeyError" then single.shown else single.text
    | _ =>
      if (other kind details).isA "OSError" then systemText details
      else if (other kind details).isA "UnicodeError" then codingText kind details
      else if (other kind details).isA "SyntaxError" then sourceText details
      else detailsText details

/-- The fault itself when its text can be formed, and otherwise the fault met in forming it. -/
def raised (f : Fault) : Fault :=
  match f.text with
  | .ok _ => f
  | .error met => met

end Fault

/-- Raises a fault. -/
def refuse {α : Type} (f : Fault) : Except Fault α := .error f.raised

end Stepwise
