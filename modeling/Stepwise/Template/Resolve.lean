import Stepwise.Json.Writer
import Stepwise.Template.Reference
import Stepwise.Template.Token

/-!
# Resolving templates

Every reference of a template is replaced by the text of its value. A reference without a value
stays as it is spelled, or is a fault when resolution is strict. A value may be a template in
any of its texts; resolving it keeps its shape.
-/

namespace Stepwise

namespace Template

/-- The text a value is replaced by: a text itself, compact JSON for structures, truth values and
null, and the plain text of anything else. A structure that JSON cannot hold has its plain text
too. -/
def textOf (v : Value) : Except Fault String :=
  match v with
  | .list _ | .tuple _ | .map _ | .bool _ | .null =>
    match Json.write Json.compact Value.text 0 v with
    | .ok json => .ok (String.ofList json)
    | .error f => if f.isA "TypeError" || f.isA "ValueError" then v.text else .error f
  | other => other.text

/-- What one token becomes. -/
def resolveToken (outputs input : Value) (strict : Bool) : Token → Except Fault String
  | .text chars => .ok (String.ofList chars)
  | .reference path spelling =>
    match lookup path outputs input with
    | some v => textOf v
    | none =>
      if strict then .error (.unresolvedReference (.str (String.ofList path)))
      else .ok (String.ofList spelling)

/-- Resolves the references of a text. -/
def resolveText (text : String) (outputs input : Value) (strict : Bool) : Except Fault String := do
  let parts ← (tokenize text.toList).mapM (resolveToken outputs input strict)
  return String.join parts

mutual

/-- Resolves every text in a value; lists of fixed length become lists. -/
def resolve (outputs input : Value) : Value → Except Fault Value
  | .str text => do
    let resolved ← resolveText text outputs input false
    return .str resolved
  | .map entries => do
    let resolved ← resolveEntries outputs input entries
    return .map resolved
  | .list items => do
    let resolved ← resolveItems outputs input items
    return .list resolved
  | .tuple items => do
    let resolved ← resolveItems outputs input items
    return .list resolved
  | .endless _ _ => .error .tooDeep
  | other => .ok other

def resolveItems (outputs input : Value) : List Value → Except Fault (List Value)
  | [] => .ok []
  | item :: rest => do
    let first ← resolve outputs input item
    let others ← resolveItems outputs input rest
    return first :: others

def resolveEntries (outputs input : Value) :
    List (Value × Value) → Except Fault (List (Value × Value))
  | [] => .ok []
  | (key, content) :: rest => do
    let first ← resolve outputs input content
    let others ← resolveEntries outputs input rest
    return (key, first) :: others

end

end Template

end Stepwise
