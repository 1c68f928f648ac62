import Stepwise.Disk.Files
import Stepwise.Registry.Workflows

/-!
# Loading definitions

A directory of YAML files is loaded in the order of the files' names. A file that cannot be read
from the disk or holds no valid definition is passed over; any other fault ends the loading, and
what was loaded before stays registered.
-/

namespace Stepwise

namespace Workflows

/-- The definition in a file. -/
def readDefinition (files : Files) (name : String) : Effect Workflows Workflow := do
  let path := Path.ofText name
  if ← lift (files.present path) then readYaml (← lift (files.readText path))
  else throw (.machinery "FileNotFoundError" s!"Workflow file not found: {name}")

/-- The endings of the names of definition files. -/
def endings : List String := [".yaml", ".yml"]

/-- The definition files of a directory, by name. -/
def definitionFiles (files : Files) (directory : Path) : List Path :=
  (endings.flatMap fun ending => files.withEnding directory ending).mergeSort fun a b =>
    decide (a.name ≤ b.name)

/-- Faults for which a file is passed over. -/
def isPassedOver (f : Fault) : Bool := f.isA "InvalidDefinitionError" || f.isA "OSError"

/-- Takes the definition in a file in. -/
def takeFile (files : Files) (path : Path) : Effect Workflows Workflow := do
  let workflow ← readDefinition files path.text
  register workflow
  return workflow

/-- Registers the definition in a file. Nothing is left of one that is passed over, so the next text
gets its number. -/
def loadFile (files : Files) (path : Path) : Effect Workflows (Option Value) := do
  let number := (← MonadState.get).texts
  match ← (takeFile files path).attempt with
  | .ok workflow =>
    -- The definition is announced by its name.
    let _ ← lift workflow.name.text
    return some workflow.id
  | .error f =>
    if isPassedOver f then
      modify fun workflows => { workflows with texts := number }
      return none
    else throw f

def loadFiles (files : Files) : List Path → Effect Workflows (List Value)
  | [] => return []
  | path :: rest => do
    let loaded ← loadFile files path
    let others ← loadFiles files rest
    return loaded.toList ++ others

/-- Registers the definitions in a directory and gives their ids. Without the directory there are
none. -/
def loadDirectory (files : Files) (directory : Path) : Effect Workflows (List Value) := do
  if ← lift (files.isDirectory directory) then
    loadFiles files (definitionFiles files directory)
  else return []

end Workflows

end Stepwise
