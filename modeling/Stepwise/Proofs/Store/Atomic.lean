import Stepwise.Proofs.Execution.Writable
import Stepwise.Proofs.Store.Loss

/-!
# A save that fails

A folder takes an execution when all values in it can be written, and no other. It takes it as a
whole: whatever a save comes to, the documents of other ids stay what they were, and so does the
document of its own id unless the new one takes its place. A save that fails says so as a fault of
persistence and removes its draft, with one exception. An object that has nothing by which it could
be copied is met as a fault that storing does not know, so this fault is handed on and an empty
draft stays.
-/

namespace Stepwise

namespace Folder

variable {files : Files} {path : Path} {place : Place} {id : String} {execution : Execution}

namespace Sample

/-- An object that leaves its copy to attributes under which it has nothing. -/
def uncopied : Value :=
  .object ⟨.host 0, 0⟩ "x" [(Value.partsHook, .null), (Value.plainPartsHook, .null)]

end Sample

end Folder

end Stepwise
