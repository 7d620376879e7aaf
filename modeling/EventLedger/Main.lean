import EventLedger.Log.Writing
import EventLedger.Service.Rehearsal

/-!
# The command line

The command rehearses the service in the environment in which it is called, with the files that it
finds there and with a broker that asks for a stop as soon as its queues are consumed. It writes
the log, and says why the service cannot run if that is so.
-/
namespace EventLedger.CommandLine

/-- The variables of an environment that is given as one block, with a null after each of them. -/
def readVariables (block : String) : Settings.Environment :=
  ((block.splitOn "\x00").filter (· != "")).map fun entry =>
    match entry.splitOn "=" with
    | [] => (entry, "")
    | name :: value => (name, "=".intercalate value)

/-- The directory of a path and those above it, from the inside. -/
def directoriesAbove (path : String) : List String :=
  let parts := (FileTree.parts path).filter (· != "")
  (List.range (parts.length + 1)).reverse.map fun depth =>
    String.join ((parts.take depth).map ("/" ++ ·))

/-- The content of a file, if it can be read. -/
def readIfThere (path : String) : IO (Option (String × String)) := do
  try
    return some (path, ← IO.FS.readFile path)
  catch _ => return none

/-- The files of some paths that can be read. -/
def readAll (paths : List String) : IO (List (String × String)) := do
  return (← paths.mapM readIfThere).filterMap id

/-- The tree of all files that there are. -/
def wholeTree (files : List (String × String)) (directory : String) : FileTree :=
  { FileTree.ofPaths files directory with isWhole := true }

/-- The files in which the service looks for its settings. -/
def findFiles (environment : Settings.Environment) (directory : String) : IO FileTree := do
  let forEnvironment ← readAll ((directoriesAbove directory).map (· ++ "/.env"))
  let complete := Settings.completeEnvironment environment (wholeTree forEnvironment directory)
  let names := (Settings.filePaths Service.serviceName complete).flatMap fun path =>
    path :: Settings.FileFormat.all.flatMap fun format => format.endings.map (path ++ ·)
  let forSettings ← readAll (names.map (Settings.joinPath directory))
  return wholeTree (forEnvironment ++ forSettings) directory

/-- A rehearsal without messages. -/
def rehearsal (environment : Settings.Environment) (files : FileTree) : Service.Rehearsal where
  environment := environment
  files := files
  canServeMetrics := true
  mishaps := []
  moves := []
  refusal := none
  stopText := none

/-- The lines that are written. -/
def output (report : Service.Report) : List String :=
  match report.settings with
  | none => []
  | some (settings, filter) =>
    Log.written settings.observability.logsJson filter report.journal

end EventLedger.CommandLine

open EventLedger in
/-- Rehearse the service. -/
def main : IO UInt32 := do
  let environment := CommandLine.readVariables (← IO.FS.readFile "/proc/self/environ")
  let files ← CommandLine.findFiles environment (← IO.currentDir).toString
  let report := (CommandLine.rehearsal environment files).run
  for line in CommandLine.output report do
    IO.println line
  match report.failure with
  | none => return 0
  | some failure =>
    IO.eprintln ("Error: " ++ failure.message)
    return failure.exitCode
