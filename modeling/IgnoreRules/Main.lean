import IgnoreRules.Cli.Run
import IgnoreRules.Web.Client

/-!
# The program

Runs a command line on the files of this machine.  The tree below the working directory, whatever the
arguments name and the file that keeps templates are read first; the command itself only sees what was
read.  There is no connection to the web, so templates come from their file alone.
-/

namespace IgnoreRules

namespace Program

/-! ## Reading the machine -/

/-- Reads a file, or a directory with everything in it, if there is one of that name. -/
partial def readNode? (name : String) : IO (Option Node) := do
  try
    let mut folder := Folder.empty
    for entry in ← ((← IO.currentDir) / name).readDir do
      if let some node ← readNode? s!"{name}/{entry.fileName}" then
        folder := folder.put entry.fileName.toList node
    return some (.folder folder)
  catch _ =>
    try
      return some (.file (← IO.FS.readBinFile name))
    catch _ =>
      return none

/-- Adds what a path leads to on this machine. -/
def addPath (files : FileSystem) (path : Path) : IO FileSystem := do
  match ← readNode? path.shown with
  | none => return files
  | some node =>
      let files := (files.makeFolders path.parent).2
      match files.locateEntry path with
      | .error _ => return files
      | .ok location => return { files with root := files.root.putAt node location }

/-- The variables that the program looks at. -/
def variableNames : List String :=
  ["PROJIGNORE_LOG_LEVEL", "PROJIGNORE_LOG_JSON", "PROJIGNORE_TEMPLATE_URL", "PROJIGNORE_CACHE_DIR",
    "PROJIGNORE_HTTP_TIMEOUT", "LOG_LEVEL"]

/-- How deep a listing may be nested. -/
def nesting : Nat := 990

/-- Reads the environment. -/
def readEnvironment : IO Environment := do
  let mut bindings := []
  for name in variableNames do
    if let some value ← IO.getEnv name then
      bindings := bindings ++ [(name.toList, value.toList)]
  let tempDir := (← IO.getEnv "TMPDIR").getD "/tmp"
  return ⟨bindings, Path.parse tempDir.toList, nesting⟩

/-- The paths whose files a command line may need. -/
def neededPaths (here : Path) (env : Environment) (arguments : List Text) : List Path :=
  let cache := match TemplateConfig.ofEnvironment env with
    | .error _ => []
    | .ok config => [config.cachePath]
  here :: (arguments.map Path.parse ++ cache).filterMap fun p =>
    if p.isAbsolute && !p.parts.isEmpty then some p
    else if p.parts.contains ['.', '.'] then some (here.append p)
    else none

/-- Reads the world that a command line needs. -/
def readWorld (arguments : List Text) : IO World := do
  let env ← readEnvironment
  let here := Path.parse (← IO.currentDir).toString.toList
  let mut files : FileSystem := ⟨.empty, here.parts⟩
  for path in neededPaths here env arguments do
    files ← addPath files path
  return { files := files, web := ⟨.standard, ⟨[], []⟩⟩, env := env }

/-! ## Showing -/

/-- How the program is used. -/
def usage : String :=
  "usage: projignore [-h] [--version] [--log-level LEVEL] COMMAND ...\n\n" ++
    "commands:\n" ++
    "  check DIRECTORY PATH...   tell which paths are ignored\n" ++
    "  detect DIRECTORY          list the languages of a project\n" ++
    "  stats DIRECTORY           count lines by language\n" ++
    "  validate FILE             look for problems in an ignore file\n"

/-- A line for the error stream. -/
def errorText (structured : Bool) : Cli.ErrorLine → String
  | .usage => usage
  | .record r => (if structured then String.ofList r.value.oneLine else r.line) ++ "\n"
  | .message t => t ++ "\n"

/-- Shows what a run comes to, and gives its exit status. -/
def showResult (result : Except Failure Cli.Outcome) : IO UInt32 := do
  let out ← IO.getStdout
  let err ← IO.getStderr
  match result with
  | .ok o =>
      for line in o.errors do
        err.putStr (errorText o.structured line)
  | .error e => err.putStr (e.message ++ "\n")
  match Cli.standardOutput result with
  | .usage => out.putStr usage
  | .text t => out.putStr (String.ofList t)
  return UInt32.ofNat (Cli.exitStatus result)

end Program

end IgnoreRules

open IgnoreRules in
/-- Carries out a command line. -/
def main (arguments : List String) : IO UInt32 := do
  let words := arguments.map (·.toList)
  let w ← Program.readWorld words
  Program.showResult (Cli.run none w words).1
