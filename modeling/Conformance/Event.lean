import Conformance.Facts
import Conformance.Path
import Conformance.Text.Quoted

/-!
# Events

What the analysis tells about its course.  An event says what happened; its wording
(`Event.message`) and its weight (`Event.level`) follow from that.

`Logged α` is a value together with the events that led to it, in the order in which they happened.
It is a monad, so that steps which tell something are put together like steps which do not; `value`
forgets what was told (`value_pure`, `value_bind`).
-/

namespace Conformance

/-- The weight of an event. -/
inductive Level
  | debug
  | info
  | warning
  | error
deriving DecidableEq, Repr

/-- The number that weights are compared by. -/
def Level.rank : Level → Nat
  | .debug => 10
  | .info => 20
  | .warning => 30
  | .error => 40

/-- Something worth telling about an analysis. -/
inductive Event
  /-- A pattern file turned out to be a directory. -/
  | patternsAreDirectory (path : String)
  /-- A directory was scanned. -/
  | scanned (count : Nat) (dir : String)
  /-- A source file is refused by the grammar. -/
  | unparsable (file reason : String)
  /-- A source file names no package. -/
  | noPackageClause (file : String)
  /-- A source file has mistakes. -/
  | mistakes (file : String)
  /-- A file was left out, since it names another package than the one expected. -/
  | otherPackage (file declared expected : String)
  /-- A package was put together. -/
  | assembled (package : Package)
  /-- A directive speaks of a struct that is not declared. -/
  | unknownStruct (name file : String) (line : Int)
  /-- A directive speaks of an interface that is not declared. -/
  | unknownInterface (structName interfaceName : String)
  /-- The closure was cut off while it still grew. -/
  | closureStopped (rounds : Nat)
  /-- Implementations were resolved. -/
  | resolved (edges satisfied interfaces : Nat)
  /-- Nothing was found in the directory of a file, so that its parent is tried. -/
  | tryingParent (dir parent : String)
  /-- The grammar could not be loaded. -/
  | grammarMissing (message : String)
  /-- The file to be analysed does not exist. -/
  | fileMissing (file : String)
  /-- A package could not be read. -/
  | parseFailed (file message : String)
  /-- There is no package for a file. -/
  | noPackage (file : String)
  /-- The package of a file was read and stored. -/
  | parsed (file : String) (packages : Nat)
  /-- A package that was read, for the report. -/
  | packageRead (package : Package)
  /-- The implementations that were found, for the report. -/
  | implementationsFound (edges satisfied : Nat)
  /-- There is nothing to report. -/
  | nothingFound

namespace Event

section Defs

/-- The numbers of records of a package. -/
def counts (p : Package) : String :=
  toString p.findings.interfaces.length ++ " interfaces, "
    ++ toString p.findings.structs.length ++ " structs, "
    ++ toString p.findings.methods.length ++ " methods"

/-- The weight of an event. -/
def level : Event → Level
  | .patternsAreDirectory _ | .scanned .. | .noPackageClause _ | .mistakes _ | .otherPackage ..
  | .assembled _ | .unknownStruct .. | .unknownInterface .. | .closureStopped _
  | .tryingParent .. => .debug
  | .resolved .. | .parsed .. | .packageRead _ | .implementationsFound .. | .nothingFound => .info
  | .unparsable .. | .fileMissing _ | .parseFailed .. | .noPackage _ => .warning
  | .grammarMissing _ => .error

/-- The wording of an event. -/
def message : Event → String
  | .patternsAreDirectory path =>
      "[Scanner] Cannot read " ++ path ++ ": [Errno 21] Is a directory: " ++ Text.quoted path
  | .scanned count dir => "[Scanner] Found " ++ toString count ++ " files in " ++ dir
  | .unparsable file reason => "[Parser] Cannot parse " ++ file ++ ": " ++ reason
  | .noPackageClause file => "[Parser] No package clause in " ++ file ++ ", skipping"
  | .mistakes file => "[Parser] Syntax errors in " ++ file ++ ", partial facts kept"
  | .otherPackage file declared expected =>
      "[Aggregator] " ++ file ++ " declares package " ++ declared ++ ", expected " ++ expected
        ++ "; skipped"
  | .assembled p => "[Aggregator] Package " ++ p.name ++ " at " ++ p.path ++ ": " ++ counts p
  | .unknownStruct name file line =>
      "[Aggregator] Directive for unknown struct " ++ name ++ " at " ++ Path.name file ++ ":"
        ++ toString line
  | .unknownInterface structName interfaceName =>
      "[Resolver] " ++ structName ++ " declares unknown interface " ++ interfaceName
  | .closureStopped rounds =>
      "[Resolver] Embedding closure stopped at " ++ toString rounds ++ " iterations"
  | .resolved edges satisfied interfaces =>
      "[Resolver] " ++ toString edges ++ " implementations, " ++ toString satisfied ++ "/"
        ++ toString interfaces ++ " interfaces satisfied"
  | .tryingParent dir parent => "[Analysis] Nothing in " ++ dir ++ ", trying " ++ parent
  | .grammarMissing message => "[Analysis] " ++ message ++ ". Interface analysis is disabled"
  | .fileMissing file => "[Analysis] File does not exist: " ++ file
  | .parseFailed file message => "[Analysis] Failed to parse " ++ file ++ ": " ++ message
  | .noPackage file => "[Analysis] No package found for " ++ file
  | .parsed file packages =>
      "[Analysis] Parsed " ++ file ++ ": " ++ toString packages ++ " package(s) cached"
  | .packageRead p => "[1/2] Package " ++ p.name ++ " (" ++ p.path ++ "): " ++ counts p
  | .implementationsFound edges satisfied =>
      "[2/2] Implementations: " ++ toString edges ++ " edges, " ++ toString satisfied
        ++ " interfaces satisfied"
  | .nothingFound => "No usable facts found"

end Defs

end Event

/-- A value and the events that led to it. -/
structure Logged (α : Type) where
  value : α
  events : List Event := []

namespace Logged

section Monad

variable {α β : Type}

/-- Goes on from the value of a step, after what it told. -/
def andThen (x : Logged α) (f : α → Logged β) : Logged β :=
  ⟨(f x.value).value, x.events ++ (f x.value).events⟩

instance : Monad Logged where
  pure a := ⟨a, []⟩
  bind := andThen

/-- Tells an event. -/
def tell (e : Event) : Logged Unit :=
  ⟨(), [e]⟩

/-- Tells several events. -/
def tellAll (es : List Event) : Logged Unit :=
  ⟨(), es⟩

@[simp]
theorem value_pure (a : α) : (pure a : Logged α).value = a := rfl

@[simp]
theorem value_bind (x : Logged α) (f : α → Logged β) : (x >>= f).value = (f x.value).value := rfl

end Monad

end Logged
end Conformance
