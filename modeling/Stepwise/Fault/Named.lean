import Stepwise.Fault.Place

/-!
# Faults by name

A host may raise any fault by its name and details. Names of the library's own faults take the
details that those faults are about; a wrong number of them is itself a fault. A fault of the
file system with a number is of the kind which that number stands for.
-/

namespace Stepwise

namespace Fault

/-! ## Faults of the file system -/

/-- The kind of a numbered fault of the file system. -/
def systemKind (number : Int) : Option String :=
  if number = 2 then some "FileNotFoundError"
  else if number = 17 then some "FileExistsError"
  else if number = 20 then some "NotADirectoryError"
  else if number = 21 then some "IsADirectoryError"
  else if number = 1 ∨ number = 13 then some "PermissionError"
  else if number = 4 then some "InterruptedError"
  else if number = 3 then some "ProcessLookupError"
  else if number = 10 then some "ChildProcessError"
  else if number = 11 ∨ number = 114 ∨ number = 115 then some "BlockingIOError"
  else if number = 32 ∨ number = 108 then some "BrokenPipeError"
  else if number = 103 then some "ConnectionAbortedError"
  else if number = 104 then some "ConnectionResetError"
  else if number = 111 then some "ConnectionRefusedError"
  else if number = 110 then some "TimeoutError"
  else none

/-- The kind of a fault whose details start with a number. Only the general kind is made more
precise by it. -/
def preciseKind (kind : String) (number : Value) : String :=
  if kind = "OSError" then (number.index?.bind systemKind).getD kind else kind

/-- A count of what was written, in the place of a path: it has to be a whole number of the
machine's size. -/
def countWritten (v : Value) : Except Fault Unit :=
  match v.index? with
  | none => .error (typeError s!"'{v.fullKind}' object cannot be interpreted as an integer")
  | some n =>
    if Value.isPlaceSized n then .ok ()
    else .error (valueError s!"cannot fit '{v.fullKind}' into an index-sized integer")

def isNumber : Value → Bool
  | .bool _ | .int _ | .float _ => true
  | _ => false

/-- The fault of a number, a reason and up to two paths. A second path counts only beside a first
one, and a call that would block may tell a count instead of paths. -/
def ofSystem (kind : String) (number reason path target : Value) : Except Fault Fault := do
  let kind := preciseKind kind number
  if path.isNull then return .other kind [number, reason]
  else if kind = "BlockingIOError" && isNumber path then
    countWritten path
    return .other kind [number, reason]
  else if target.isNull then return .other kind [number, reason, path]
  else return .other kind [number, reason, path, .null, target]

/-! ## Details of the library's own faults -/

/-- What the library's own faults are about: the details that have to be given and, after these,
how many more may be. -/
def ownDetails : List (String × List String × Nat) :=
  [("WorkflowNotFoundError", ["workflow_id"], 0),
   ("InvalidDefinitionError", ["workflow_id", "errors"], 0),
   ("AgentNotFoundError", ["agent_type"], 0),
   ("ActionNotFoundError", ["agent_type", "action"], 0),
   ("ActionExecutionError", ["agent_type", "action", "message"], 1),
   ("UnresolvedReferenceError", ["path"], 0),
   ("ExecutionNotFoundError", ["execution_id"], 0)]

/-- Quoted names in a row, the last one behind a conjunction; from three on it has a comma too. -/
def namesText (names : List String) : String :=
  match names.map fun name => s!"'{name}'" with
  | [] => ""
  | [single] => single
  | [first, second] => s!"{first} and {second}"
  | several => ", ".intercalate several.dropLast ++ ", and " ++ several.getLastD ""

/-- Refuses a wrong number of details. The fault that they are for counts as one more. -/
def checkCount (kind : String) (required : List String) (optional given : Nat) :
    Except Fault Unit :=
  let least := required.length
  let most := least + optional
  if most < given then
    let taken := if least = most then s!"{most + 1}" else s!"from {least + 1} to {most + 1}"
    .error (typeError
      s!"{kind}.__init__() takes {taken} positional arguments but {given + 1} were given")
  else if given < least then
    let missing := required.drop given
    let noun := if missing.length = 1 then "argument" else "arguments"
    let problem := s!"missing {missing.length} required positional {noun}: "
    .error (typeError (s!"{kind}.__init__() " ++ problem ++ namesText missing))
  else .ok ()

/-- The texts of problems, from a position on. -/
def problemTexts (index : Nat) : List Value → Except Fault (List String)
  | [] => .ok []
  | .str text :: rest => do
    let others ← problemTexts (index + 1) rest
    return text :: others
  | item :: _ =>
    .error (typeError s!"sequence item {index}: expected str instance, {item.fullKind} found")

/-- The texts of a sequence of problems. -/
def problemsOf (v : Value) : Except Fault (List String) :=
  match v.items with
  | .ok items => problemTexts 0 items
  | .error _ => .error (typeError "can only join an iterable")

/-- A fault whose text can be formed. -/
def checked (f : Fault) : Except Fault Fault := do
  let _ ← f.text
  return f

/-- The fault of a name, about the given details. -/
def named (kind : String) (details : List Value) : Except Fault Fault := do
  match ownDetails.lookup kind with
  | some (required, optional) => checkCount kind required optional details.length
  | none => pure ()
  match kind, details with
  | "WorkflowError", _ => return .general details
  | "ConditionEvaluationError", _ => return .conditionRejected details
  | "PersistenceError", _ => return .persistence details
  | "ExecutionStateError", _ => return .executionState details
  | "WorkflowNotFoundError", [workflow] => checked (.workflowNotFound workflow)
  | "InvalidDefinitionError", [workflow, listed] =>
    let _ ← workflow.text
    let problems ← problemsOf listed
    return .invalidDefinition workflow problems
  | "AgentNotFoundError", [agent] => checked (.agentNotFound agent)
  | "ActionNotFoundError", [agent, action] => checked (.actionNotFound agent action)
  | "ActionExecutionError", agent :: action :: reason :: more =>
    let _ ← agent.text
    let _ ← action.text
    let reason ← reason.text
    let wrapped := (more.filter (!·.isNull)).head?
    return .actionFailed agent action reason (wrapped.map Value.kind) none
  | "UnresolvedReferenceError", [path] => checked (.unresolvedReference path)
  | "ExecutionNotFoundError", [execution] => checked (.executionNotFound execution)
  | _, _ =>
    let kind := if ["IOError", "EnvironmentError"].contains kind then "OSError" else kind
    if (other kind details).isA "OSError" then
      match details with
      | [number, reason] => ofSystem kind number reason .null .null
      | [number, reason, path] => ofSystem kind number reason path .null
      | [number, reason, path, _] => ofSystem kind number reason path .null
      | [number, reason, path, _, target] => ofSystem kind number reason path target
      | _ => return .other kind details
    else if (other kind details).isA "UnicodeError" then ofCoding kind details
    else if (other kind details).isA "SyntaxError" then ofSource kind details
    else if kind = "ExceptionGroup" ∨ kind = "BaseExceptionGroup" then ofGroup details
    else return .other kind details

end Fault

end Stepwise
