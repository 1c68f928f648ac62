import Stepwise.Template.Resolve

/-!
# Conditions

A condition guards a step. It is one of the words `true` and `false`, or compares an operand
with a quoted text. The operand is a template in which every reference must have a value; its
text is trimmed and then compared character by character. There is nothing else in the language.
-/

namespace Stepwise

/-- A parsed condition. -/
inductive Condition where
  | constant (holds : Bool)
  | equality (operand expected : List Char)
  deriving DecidableEq, Repr

namespace Condition

/-- Reads a quoted text after its opening quote, provided that it ends where the text ends. A
backslash makes the next character stand for itself. -/
def quotedEnd? : List Char → Option (List Char)
  | [] => none
  | '"' :: rest => if rest = [] then some [] else none
  | '\\' :: [] => none
  | '\\' :: c :: rest => (quotedEnd? rest).map (c :: ·)
  | c :: rest => (quotedEnd? rest).map (c :: ·)

/-- Reads the sign of equality with the quoted text that ends the condition. -/
def comparison? (text : List Char) : Option (List Char) :=
  match trimLeft text with
  | '=' :: '=' :: rest =>
    match trimLeft rest with
    | '"' :: rest => quotedEnd? rest
    | _ => none
  | _ => none

/-- Splits a condition at the first place where a comparison can be read up to the end. -/
def split? : List Char → Option (List Char × List Char)
  | [] => none
  | c :: rest =>
    match comparison? (c :: rest) with
    | some expected => some ([], expected)
    | none => (split? rest).map fun (operand, expected) => (c :: operand, expected)

/-- The condition that a text spells; the operand of a comparison is not empty and has no sign of
equality in it. -/
def ofText? (source : String) : Option Condition :=
  let text := trim source.toList
  if text = "true".toList then some (.constant true)
  else if text = "false".toList then some (.constant false)
  else do
    let (left, expected) ← split? text
    let operand := trim left
    if operand = [] ∨ Value.occursIn ['=', '='] operand then none
    else some (.equality operand expected)

/-- Parses a condition as a definition gives it. -/
def parse (v : Value) : Except Fault Condition :=
  match v with
  | .str source =>
    match ofText? source with
    | some condition => .ok condition
    | none => .error (.rejected s!"Unsupported condition expression: {quoted source}")
  | other => .error (.rejected s!"Condition must be a string, got {other.kind}")

/-- Whether a parsed condition holds. -/
def holds (outputs input : Value) : Condition → Except Fault Bool
  | constant holds => .ok holds
  | equality operand expected => do
    let resolved ← Template.resolveText (String.ofList operand) outputs input true
    return trim resolved.toList = expected

/-- Parses and decides a condition. -/
def evaluate (v outputs input : Value) : Except Fault Bool := do
  let condition ← parse v
  condition.holds outputs input

end Condition

end Stepwise
