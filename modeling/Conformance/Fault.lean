import Conformance.Text.Quoted
import Conformance.Text.Utf8

/-!
# Faults

Why an analysis cannot go on.  Most of what goes wrong while a package is read is tolerated: the
answer is then an empty result.  A line of a pattern file that no expression can be made of is not.

A relative path that has no directory to start from is found out before anything is read, where
nothing is tolerated yet.
-/

namespace Conformance

/-- Why a line is no file pattern. -/
inductive LineFault
  /-- The line is refused, in these words. -/
  | refused (message : String)
  /-- No expression can be made of the line, for this reason. -/
  | badExpression (message : String)
deriving DecidableEq, Repr

namespace LineFault

/-- The wording of a fault. -/
def message : LineFault → String
  | .refused message => message
  | .badExpression message => message

end LineFault

/-- Why an analysis cannot go on. -/
inductive Fault
  /-- A line is no file pattern. -/
  | line (fault : LineFault)
  /-- A pattern file is no text. -/
  | undecodable (fault : Utf8.Fault)
  /-- The grammar of the source language could not be loaded. -/
  | grammarMissing (reason : String)
  /-- A path is relative, and the working directory has been removed. -/
  | noWorkingDirectory
deriving DecidableEq, Repr

namespace Fault

/-- The wording of a fault. -/
def message : Fault → String
  | .line fault => fault.message
  | .undecodable fault => fault.message
  | .grammarMissing reason => "Go grammar is not available: " ++ reason
  | .noWorkingDirectory => "[Errno 2] No such file or directory"

/-- Whether a fault that is met while a package is read is answered by an empty result. -/
def isTolerated : Fault → Bool
  | .line (.badExpression _) => false
  | _ => true

end Fault
end Conformance
