import Stepwise.Disk.Files
import Stepwise.Execution.Document
import Stepwise.Json.Reader
import Stepwise.Json.Writer

/-!
# Executions in a folder

Every execution is one JSON document, in a file named for its id. A document is first written to
a file beside it and then moved into place, so a reader never sees half of one. When anything
goes wrong the file beside is removed and the document stays as it was.
-/

namespace Stepwise

namespace Folder

def ending : String := ".json"

/-- The path of the document of an id. -/
def documentPath (folder : Path) (id : Value) : Except Fault Path := do
  let name ← id.text
  return folder.join (name ++ ending)

/-- The path of the file that a document is first written to. -/
def draftPath (document : Path) : Path := document.withEnding (ending ++ ".tmp")

/-- Faults of files and of values that have no form in JSON. -/
def isStorageFault (f : Fault) : Bool :=
  f.isA "OSError" || f.isA "TypeError" || f.isA "ValueError"

/-- Writes a document by way of its draft. -/
def writeDocument (files : Files) (document : Path) (execution : Execution) :
    Except Fault Unit × Files :=
  let draft := draftPath document
  match files.write draft [] with
  | .error f => (.error f, files)
  | .ok opened =>
    let finished := do
      let content ← execution.document
      let chars ← Json.document content
      let written ← opened.write draft (Utf8.encode chars)
      written.replace draft document
    match finished with
    | .ok files => (.ok (), files)
    | .error f => (.error f, opened)

/-- Keeps an execution. -/
def save (files : Files) (folder : Path) (execution : Execution) : Except Fault Unit × Files :=
  match documentPath folder execution.id with
  | .error f => (.error f, files)
  | .ok document =>
    match writeDocument files document execution with
    | (.ok (), files) => (.ok (), files)
    | (.error f, files) =>
      if isStorageFault f then
        match files.unlinkIfPresent (draftPath document) with
        | .error worse => (.error worse, files)
        | .ok files =>
          let refused : Except Fault Unit := do
            let id ← execution.id.text
            let reason ← f.text
            throw (.persistenceOf s!"Could not save execution {id}: {reason}")
          (refused, files)
      else (.error f, files)

/-- The execution that a document holds. -/
def readDocument (files : Files) (document : Path) : Except Fault Execution := do
  let chars ← files.readText document
  match Json.read chars with
  | .error refusal => throw (refusal.fault chars)
  | .ok v => Execution.ofDocument v

/-- Faults of files, of texts that are no JSON, and of documents that miss a key. -/
def isDocumentFault (f : Fault) : Bool :=
  f.isA "OSError" || f.isA "ValueError" || f.isA "KeyError"

/-- The execution of an id, if its document exists. -/
def load (files : Files) (folder : Path) (id : Value) : Except Fault (Option Execution) := do
  let document ← documentPath folder id
  if ← files.present document then
    match readDocument files document with
    | .ok execution => return some execution
    | .error f =>
      if isDocumentFault f then
        let name ← id.text
        let reason ← f.text
        throw (.persistenceOf s!"Could not load execution {name}: {reason}")
      else throw f
  else return none

def contains (files : Files) (folder : Path) (id : Value) : Except Fault Bool := do
  let document ← documentPath folder id
  files.present document

def erase (files : Files) (folder : Path) (id : Value) : Except Fault Files := do
  let document ← documentPath folder id
  if ← files.present document then files.unlink document else return files

/-- The documents in a folder. -/
def documents (files : Files) (folder : Path) : List Path := files.withEnding folder ending

end Folder

end Stepwise
