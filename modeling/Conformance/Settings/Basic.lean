import Conformance.Options
import Conformance.Settings.Assignments
import Conformance.Settings.Value

/-!
# Settings

The settings of the command line: the file to be analysed, how much is told, and the options of the
analysis.  They come from the variables of the environment and from a settings file, in which the
environment takes precedence; names count whatever their case.

**Issues.**  Every setting that cannot be read is reported, in the order of the names, except that a
list of patterns that is no JSON is reported alone.
-/

namespace Conformance

/-- The settings of the command line. -/
structure Settings where
  /-- The file to be analysed. -/
  file : String
  logLevel : String := "INFO"
  options : Options := {}

namespace Settings

/-- What is wrong with a setting. -/
inductive Problem
  | missing
  | noNumber
  | noInteger
  | noTruthValue
  | noList
  | noText
  | tooSmall
  | tooLarge
  | noJson
deriving DecidableEq, Repr

/-- The name of a problem in a report. -/
def Problem.name : Problem → String
  | .missing => "missing"
  | .noNumber => "float_parsing"
  | .noInteger => "int_parsing"
  | .noTruthValue => "bool_parsing"
  | .noList => "list_type"
  | .noText => "string_type"
  | .tooSmall => "greater_than_equal"
  | .tooLarge => "less_than_equal"
  | .noJson => "value_error"

/-- A problem with a setting, or with an item of it; or with no single setting. -/
structure Issue where
  setting : Option String
  item : Option Nat := none
  problem : Problem
deriving DecidableEq, Repr

section Reading

/-- The value of a variable; of several the last one counts. -/
def lookup? (vars : Variables) (name : String) : Option String :=
  (vars.reverse.find? fun v => String.ofList (v.1.toList.map Char.toLower) == name).map Prod.snd

/-- The result of reading one setting: a value, or the issues with it. -/
abbrev Reading (α : Type) := Except (List Issue) α

/-- Reads a setting, or takes its default where it is not set. -/
def setting {α : Type} (name : String) (default : α) (read : String → Except Problem α)
    (value : Option String) : Reading α :=
  match value with
  | none => .ok default
  | some text => (read text).mapError fun problem => [{ setting := some name, problem }]

/-- Reads a number. -/
def number (text : String) : Except Problem Double :=
  (readDouble? text).elim (.error .noNumber) .ok

/-- Reads a number between zero and one. -/
def proportion (text : String) : Except Problem Double :=
  (number text).bind fun x =>
    if !x.le 1 then .error .tooLarge
    else if !Double.le 0 x then .error .tooSmall
    else .ok x

/-- Reads a positive whole number. -/
def positive (text : String) : Except Problem Int :=
  match readInt? text with
  | none => .error .noInteger
  | some n => if n < 1 then .error .tooSmall else .ok n

/-- Reads a truth value. -/
def truthValue (text : String) : Except Problem Bool :=
  (readBool? text).elim (.error .noTruthValue) .ok

/-- The name of the setting with the patterns. -/
def patternsSetting : String := "exclude_patterns"

/-- The JSON value of the patterns in one source of variables; `null` counts as not set. -/
def patternsValue? (vars : Variables) : Except (List Issue) (Option Json) :=
  match lookup? vars patternsSetting with
  | none => .ok none
  | some text =>
      match Json.parse? text with
      | none => .error [{ setting := none, problem := .noJson }]
      | some .null => .ok none
      | some j => .ok (some j)

/-- The items that are no texts. -/
def badItems (items : List Json) : List Issue :=
  items.zipIdx.filterMap fun (item, i) =>
    if item.str?.isSome then none
    else some { setting := some patternsSetting, item := some i, problem := .noText }

/-- Reads the patterns. -/
def patterns : Option Json → Reading (List String)
  | none => .ok []
  | some (.arr items) =>
      if (badItems items).isEmpty then .ok (items.filterMap Json.str?) else .error (badItems items)
  | some _ => .error [{ setting := some patternsSetting, problem := .noList }]

/-- Applies what was read to what was read next; the issues of both come together. -/
def Reading.andAlso {α β : Type} (f : Reading (α → β)) (a : Reading α) : Reading β :=
  match f, a with
  | .ok g, .ok x => .ok (g x)
  | .ok _, .error issues => .error issues
  | .error issues, .ok _ => .error issues
  | .error issues, .error more => .error (issues ++ more)

/-- Reads the file to be analysed, which has to be set. -/
def fileSetting (vars : Variables) : Reading String :=
  match lookup? vars "file_path" with
  | some file => .ok file
  | none => .error [{ setting := some "file_path", problem := .missing }]

/-- Reads the settings, given the JSON value of the patterns. -/
def loadWith (vars : Variables) (patternsJson : Option Json) : Reading Settings :=
  let defaults : Options := {}
  let value (name : String) : Option String := lookup? vars name
  let build (exclude : List String) (fallback : Bool) (fileLifetime : Double) (file : String)
      (maxPasses : Int) (packageLifetime threshold : Double) : Settings :=
    { file
      logLevel := (value "log_level").getD "INFO"
      options :=
        { defaults with
          threshold, maxPasses, fileLifetime, packageLifetime, fallback, exclude } }
  ((((((Reading.andAlso (.ok build) (patterns patternsJson)).andAlso
    (setting "fallback_to_parent_dir" defaults.fallback truthValue
      (value "fallback_to_parent_dir"))).andAlso
    (setting "file_cache_ttl" defaults.fileLifetime number (value "file_cache_ttl"))).andAlso
    (fileSetting vars)).andAlso
    (setting "max_closure_iterations" defaults.maxPasses positive
      (value "max_closure_iterations"))).andAlso
    (setting "package_cache_ttl" defaults.packageLifetime number
      (value "package_cache_ttl"))).andAlso
    (setting "partial_match_threshold" defaults.threshold proportion
      (value "partial_match_threshold"))

/-- Reads the settings from the environment and the variables of a settings file. -/
def load (environment fileVariables : Variables) : Except (List Issue) Settings :=
  match patternsValue? environment, patternsValue? fileVariables with
  | .ok first, .ok second => loadWith (fileVariables ++ environment) (first.or second)
  | .error issues, _ => .error issues
  | _, .error issues => .error issues

end Reading

end Settings
end Conformance
