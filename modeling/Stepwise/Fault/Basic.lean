import Stepwise.Value.Basic

/-!
# Faults

Everything that can go wrong, by cause. The library's own faults carry what they are about; the
faults of the host and of the machinery below are known by kind and details. A fault's kind is
the name under which it is recorded.
-/

namespace Stepwise

/-- A fault, by cause. `details` are what the raiser gave; they make up the text of a fault
whose cause has no wording of its own. An `actionFailed` remembers the kind of the fault that it
wraps, and of the one it was raised from. -/
inductive Fault where
  | general (details : List Value)
  | workflowNotFound (workflow : Value)
  | invalidDefinition (workflow : Value) (problems : List String)
  | agentNotFound (agent : Value)
  | actionNotFound (agent action : Value)
  | actionFailed (agent action : Value) (reason : String) (wrapped cause : Option String)
  | conditionRejected (details : List Value)
  | unresolvedReference (path : Value)
  | persistence (details : List Value)
  | executionNotFound (execution : Value)
  | executionState (details : List Value)
  | other (kind : String) (details : List Value)
  deriving Inhabited

namespace Fault

/-- The name under which a fault is recorded. -/
def kind : Fault → String
  | general _ => "WorkflowError"
  | workflowNotFound _ => "WorkflowNotFoundError"
  | invalidDefinition _ _ => "InvalidDefinitionError"
  | agentNotFound _ => "AgentNotFoundError"
  | actionNotFound _ _ => "ActionNotFoundError"
  | actionFailed .. => "ActionExecutionError"
  | conditionRejected _ => "ConditionEvaluationError"
  | unresolvedReference _ => "UnresolvedReferenceError"
  | persistence _ => "PersistenceError"
  | executionNotFound _ => "ExecutionNotFoundError"
  | executionState _ => "ExecutionStateError"
  | other kind _ => kind

/-- A fault of the machinery with one text as its detail. -/
def machinery (kind message : String) : Fault := .other kind [.str message]

/-- A value of the wrong kind was met. -/
def typeError (message : String) : Fault := machinery "TypeError" message

/-- A value of the right kind was not acceptable. -/
def valueError (message : String) : Fault := machinery "ValueError" message

def attributeError (message : String) : Fault := machinery "AttributeError" message

def overflowError (message : String) : Fault := machinery "OverflowError" message

/-- Parts lie within parts without an end, or too many of them. -/
def tooDeep : Fault := machinery "RecursionError" "maximum recursion depth exceeded"

/-- A key is missing; the key itself is the detail. -/
def keyError (key : Value) : Fault := .other "KeyError" [key]

def persistenceOf (message : String) : Fault := .persistence [.str message]

def stateOf (message : String) : Fault := .executionState [.str message]

def rejected (message : String) : Fault := .conditionRejected [.str message]

/-- The library's own faults, each with the more general kinds above it. -/
def ownAncestors : Fault → Option (List String)
  | general _ => some []
  | unresolvedReference _ => some ["ConditionEvaluationError", "WorkflowError"]
  | other _ _ => none
  | _ => some ["WorkflowError"]

/-- The more general kinds above a kind of the machinery, nearest first. -/
def machineryAncestors (kind : String) : List String :=
  if ["FileNotFoundError", "IsADirectoryError", "NotADirectoryError", "FileExistsError",
      "PermissionError", "TimeoutError", "InterruptedError", "ProcessLookupError",
      "ChildProcessError", "BlockingIOError", "ConnectionError"].contains kind then ["OSError"]
  else if ["BrokenPipeError", "ConnectionAbortedError", "ConnectionRefusedError",
      "ConnectionResetError"].contains kind then ["ConnectionError", "OSError"]
  else if ["KeyError", "IndexError"].contains kind then ["LookupError"]
  else if ["ZeroDivisionError", "OverflowError", "FloatingPointError"].contains kind then
    ["ArithmeticError"]
  else if kind = "UnicodeError" then ["ValueError"]
  else if ["UnicodeDecodeError", "UnicodeEncodeError", "UnicodeTranslateError"].contains kind then
    ["UnicodeError", "ValueError"]
  else if ["NotImplementedError", "RecursionError"].contains kind then ["RuntimeError"]
  else if kind = "ModuleNotFoundError" then ["ImportError"]
  else if kind = "UnboundLocalError" then ["NameError"]
  else if kind = "IndentationError" then ["SyntaxError"]
  else if kind = "TabError" then ["IndentationError", "SyntaxError"]
  else []

/-- The kinds a fault belongs to, its own first. -/
def kinds (f : Fault) : List String :=
  f.kind :: f.ownAncestors.getD (machineryAncestors f.kind)

/-- Whether a fault belongs to a kind. -/
def isA (f : Fault) (kind : String) : Bool := f.kinds.contains kind

def isTimeout (f : Fault) : Bool := f.isA "TimeoutError"

def isPersistence : Fault → Bool
  | persistence _ => true
  | _ => false

/-- A condition was refused or refers to something missing. -/
def isCondition : Fault → Bool
  | conditionRejected _ => true
  | unresolvedReference _ => true
  | _ => false

end Fault

end Stepwise
