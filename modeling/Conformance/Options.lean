import Conformance.Number.Double

/-!
# Options

What can be chosen about an analysis, with its defaults.
-/

namespace Conformance

/-- The options of an analysis. -/
structure Options where
  /-- The endings that make a file a source file. -/
  extensions : List String := [".go"]
  /-- The part of an interface's methods that is enough for an implementation. -/
  threshold : Double := .ofRatio false 8 10
  /-- The limit on the passes of the closure over embedding; none are made if it is not positive. -/
  maxPasses : Int := 5
  /-- How long a result is kept for a file, in seconds. -/
  fileLifetime : Double := 30
  /-- How long a result is kept for a package, in seconds. -/
  packageLifetime : Double := 300
  /-- Whether the parent directory is tried where a directory holds no package. -/
  fallback : Bool := true
  /-- Patterns of files that are left out. -/
  exclude : List String := []
  /-- Whether the pattern file of a directory is respected. -/
  respectIgnore : Bool := true

end Conformance
