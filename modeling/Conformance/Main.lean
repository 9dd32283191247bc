import Conformance.CommandLine

/-!
# The program

Takes the environment and the files from the system, runs the command line on them and shows the
outcome.  Only the settings file and the directory of the file to be analysed, with its parent, are
looked at.
-/

namespace Conformance
namespace Program

/-- The variables that settings come from. -/
def variableNames : List String := [
  "FILE_PATH", "LOG_LEVEL", "PARTIAL_MATCH_THRESHOLD", "MAX_CLOSURE_ITERATIONS", "FILE_CACHE_TTL",
  "PACKAGE_CACHE_TTL", "FALLBACK_TO_PARENT_DIR", "EXCLUDE_PATTERNS"]

/-- The variables that are set, in upper or in lower case. -/
def environment : IO Settings.Variables := do
  let spellings := variableNames ++ variableNames.map fun name =>
    String.ofList (name.toList.map Char.toLower)
  spellings.filterMapM fun name => do
    return (← IO.getEnv name).map fun value => (name, value)

/-- The tree with a file copied from the system, if it can be read. -/
def copyFile (t : FileTree) (path : String) : IO FileTree := do
  try
    return t.write path (← IO.FS.readBinFile (System.mkFilePath [path])).toList
  catch _ => return t

/-- The tree with a directory and what is directly in it copied from the system. -/
def copyDirectory (t : FileTree) (dir : String) : IO FileTree := do
  try
    let entries ← (System.mkFilePath [dir]).readDir
    entries.foldlM
      (fun t entry => do
        let path := Path.join dir entry.fileName
        if ← entry.path.isDir then return t.makeDirectory path else copyFile t path)
      (t.makeDirectory dir)
  catch _ => return t

/-- The part of the system's files that a run looks at. -/
def files (environment : Settings.Variables) : IO FileTree := do
  let here := (← IO.currentDir).toString
  let t ← copyFile (.empty here) (Path.join here CommandLine.settingsFile)
  match CommandLine.settings environment t with
  | .error _ => return t
  | .ok chosen =>
      let dir := Path.parent (Path.absolute here chosen.file)
      copyDirectory (← copyDirectory t (Path.parent dir)) dir

/-- The text that tells of a failure. -/
def failureText (failure : CommandLine.Failure) : String :=
  match failure with
  | .settings issues =>
      "\n".intercalate (issues.map fun issue =>
        issue.setting.getD "settings" ++ ": " ++ issue.problem.name)
  | _ => failure.message.getD ""

end Program
end Conformance

open Conformance in
/-- Runs the program; the exit code is one if it fails. -/
def main : IO UInt32 := do
  let environment ← Program.environment
  let world : World :=
    { tree := ← Program.files environment, grammarFault := none, now := 0 }
  let outcome := CommandLine.run environment world
  for line in outcome.log do
    IO.eprintln line
  IO.print outcome.output
  match outcome.failure with
  | none => return 0
  | some failure =>
      IO.eprintln (Program.failureText failure)
      return 1
