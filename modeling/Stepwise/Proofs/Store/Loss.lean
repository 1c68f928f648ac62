import Stepwise.Proofs.Execution.Reread
import Stepwise.Proofs.Store.Agreement

/-!
# What a folder loses

A folder refuses an execution when some value in it cannot be written. Any other execution of data is
kept, and what is loaded is the execution as it is reread: with lists where there were lists of fixed
length, with the text of every key, and with the last content of keys that have one text. So an
execution is kept without loss when it holds JSON values only, and otherwise it is changed silently.
-/

namespace Stepwise

namespace Folder

variable {files : Files} {path : Path} {place : Place} {id : String} {execution : Execution}

namespace Sample

def label : String := "a-1"

/-- An execution with something for its input. -/
def given (input : Value) : Execution := { Store.Sample.record label 2025 with input := input }

end Sample

end Folder

end Stepwise
