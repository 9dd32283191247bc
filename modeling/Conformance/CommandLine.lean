import Conformance.Json.Printer
import Conformance.Pattern.Wildcard
import Conformance.Report
import Conformance.Service
import Conformance.Settings.Basic
import Conformance.Source.Outline
import Conformance.Text.Uppercase

/-!
# Command line

The program as a function: from the environment and the files to the text it prints, the lines it
logs and the failure it ends with.  File patterns are read with wildcards, source files as outlines.

**Course.**  The settings are read, the level of the log is fixed, the service is made, and the
package of the file is analysed and reported.  The first of these that fails ends the program;
nothing is printed then, and what has been logged stays.

**Log.**  An event is logged if its weight reaches the level of the log.
-/

namespace Conformance
namespace CommandLine

/-- Why the program ends without a report. -/
inductive Failure
  | settings (issues : List Settings.Issue)
  | unknownLevel (name : String)
  | fault (f : Fault)
deriving DecidableEq, Repr

/-- The wording of a failure; issues with settings have none of their own. -/
def Failure.message : Failure → Option String
  | .settings _ => none
  | .unknownLevel name => some ("Unknown level: " ++ Text.quoted name)
  | .fault f => some f.message

/-- What a run of the program shows. -/
structure Outcome where
  output : String := ""
  log : List String := []
  failure : Option Failure := none

section Defs

/-- The path of the settings file. -/
def settingsFile : String := ".env"

/-- The levels of the log by name. -/
def levels : List (String × Nat) := [
  ("CRITICAL", 50), ("FATAL", 50), ("ERROR", 40), ("WARN", 30), ("WARNING", 30), ("INFO", 20),
  ("DEBUG", 10), ("NOTSET", 0)]

/-- The level of this name in upper case. -/
def level? (name : String) : Option Nat :=
  OrderedMap.lookup name levels

/-- The variables of the settings file, if there is one. -/
def fileVariables (environment : Settings.Variables) (t : FileTree) : Settings.Variables :=
  match t.read? settingsFile with
  | none => []
  | some bytes => Settings.ofFile environment (Utf8.decodeLossy bytes)

/-- The settings of a run. -/
def settings (environment : Settings.Variables) (t : FileTree) :
    Except (List Settings.Issue) Settings :=
  Settings.load environment (fileVariables environment t)

/-- The report on the package of a file. -/
def report (w : World) (file : String) (s : Service) : Logged (Except Fault Json) := do
  match ← Service.parse w file s with
  | (.error fault, _) => pure (.error fault)
  | (.ok revision, s) =>
      let result := revision.result
      Logged.tellAll (result.packageList.map .packageRead)
      if result.isEmpty then
        Logged.tell .nothingFound
        pure (.ok Report.nothing)
      else
        let resolution ← Resolution.logged s.options result
        Logged.tell (.implementationsFound resolution.size resolution.satisfied.length)
        pure (.ok (Report.full result resolution))

/-- The lines of a log that starts at a level. -/
def logLines (least : Nat) (events : List Event) : List String :=
  (events.filter fun e => decide (least ≤ e.level.rank)).map Event.message

/-- A run of the program. -/
def run (environment : Settings.Variables) (w : World) : Outcome :=
  match settings environment w.tree with
  | .error issues => { failure := some (.settings issues) }
  | .ok chosen =>
      let levelName := Text.upperCase chosen.logLevel
      match level? levelName with
      | none => { failure := some (.unknownLevel levelName) }
      | some least =>
          match Service.create chosen.options with
          | .error fault => { failure := some (.fault fault) }
          | .ok service =>
              let answer := report w chosen.file service
              let log := logLines least answer.events
              match answer.value with
              | .error fault => { log, failure := some (.fault fault) }
              | .ok json => { output := json.pretty ++ "\n", log }

end Defs

end CommandLine
end Conformance
