import Stepwise.Disk.Files
import Stepwise.Settings.Basic

/-!
# Logging

Messages go to the console and, if a file is set, to the end of that file. The console takes
those of the level that is set and above; a file takes all. Every line has the same form.
-/

namespace Stepwise

/-- Where messages go. -/
inductive Sink where
  | console
  | file (path : Path)
  deriving DecidableEq, Repr

def Sink.isFile : Sink → Bool
  | .file _ => true
  | .console => false

/-- A sink with the level below which it takes nothing. -/
structure LogHandler where
  sink : Sink
  threshold : LogLevel
  deriving DecidableEq, Repr

/-- A configuration: the level below which messages go nowhere, and the handlers. -/
structure Logging where
  threshold : LogLevel
  handlers : List LogHandler
  deriving DecidableEq, Repr

namespace Logging

/-- The form of a line: time, logger, level and message. -/
def lineForm : String := "%(asctime)s - %(name)s - %(levelname)s - %(message)s"

/-- Sets logging up from nothing, whatever was set up before. A file is opened at once, in a
directory that is made if need be. -/
def setUp (settings : Settings) (files : Files) : Except Fault (Logging × Files) :=
  let console : LogHandler := ⟨.console, settings.logLevel⟩
  match settings.logFile with
  | some name =>
    if name = "" then .ok (⟨settings.logLevel, [console]⟩, files)
    else do
      let path := Path.ofText name
      let files ← files.makeDirectories path.parent
      let absolute : Path :=
        if path.isAbsolute then path else ⟨"/", files.here ++ path.names⟩
      let files ← files.append absolute []
      return (⟨.debug, [console, ⟨.file absolute, .debug⟩]⟩, files)
  | none => .ok (⟨settings.logLevel, [console]⟩, files)

/-- A line less its time. -/
def line (logger : String) (level : LogLevel) (message : String) : String :=
  s!"{logger} - {level.name} - {message}"

/-- The handlers that take a message of a level. -/
def takers (logging : Logging) (level : LogLevel) : List LogHandler :=
  if level.rank < logging.threshold.rank then []
  else logging.handlers.filter fun handler => handler.threshold.rank ≤ level.rank

/-- The lines that reach a sink. -/
def linesAt (logging : Logging) (sink : Sink → Bool) (logger : String)
    (messages : List (LogLevel × String)) : List String :=
  messages.flatMap fun (level, message) =>
    ((logging.takers level).filter fun handler => sink handler.sink).map fun _ =>
      line logger level message

end Logging

end Stepwise
