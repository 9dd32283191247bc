/-!
# Paths

Paths are texts with segments separated by slashes.

**Operations.**  `parent` is all before the last slash, `name` all after it, `join` puts a name
under a directory, `normalize` resolves `.` and `..` textually, and `absolute` does so relative to
a working directory.  None of them looks at files.
-/

namespace Conformance
namespace Path

section Defs

/-- Whether the path starts at the root. -/
def isAbsolute (path : String) : Bool :=
  path.startsWith "/"

/-- The characters up to the last slash, that slash included, and those after it. -/
def splitAtLastSlash (cs : List Char) : List Char × List Char :=
  let reversed := cs.reverse
  ((reversed.dropWhile (· ≠ '/')).reverse, (reversed.takeWhile (· ≠ '/')).reverse)

/-- A directory part without its trailing slashes, unless it has nothing else. -/
def trimSlashes (cs : List Char) : List Char :=
  if cs.all (· == '/') then cs else (cs.reverse.dropWhile (· == '/')).reverse

/-- The directory that a path lies in: what comes before its last slash. -/
def parent (path : String) : String :=
  String.ofList (trimSlashes (splitAtLastSlash path.toList).1)

/-- The last segment of a path. -/
def name (path : String) : String :=
  String.ofList (splitAtLastSlash path.toList).2

/-- The path of a name under a directory; an absolute name stands for itself. -/
def join (dir name : String) : String :=
  if isAbsolute name then name
  else if dir.isEmpty || dir.endsWith "/" then dir ++ name
  else dir ++ "/" ++ name

/-- Adds one segment to the segments so far, last first; `..` takes one back where it can. -/
def pushSegment (rooted : Bool) (segments : List String) (segment : String) : List String :=
  if segment = "" ∨ segment = "." then segments
  else if segment = ".." then
    match segments with
    | [] => if rooted then [] else [".."]
    | last :: rest => if last = ".." then ".." :: segments else rest
  else segment :: segments

/-- The texts between the slashes of a path. -/
def segments (path : String) : List String :=
  (path.toList.splitOn '/').map String.ofList

/-- The slashes that a normalized path keeps in front: two if there are exactly two. -/
def leadingSlashes (path : String) : String :=
  match (path.toList.takeWhile (· == '/')).length with
  | 0 => ""
  | 2 => "//"
  | _ => "/"

/-- The path with `.`, `..` and repeated slashes resolved. -/
def normalize (path : String) : String :=
  let front := leadingSlashes path
  let segments := (segments path).foldl (pushSegment (!front.isEmpty)) []
  let body := front ++ "/".intercalate segments.reverse
  if body.isEmpty then "." else body

/-- The normalized path, taken from `cwd` if it is relative. -/
def absolute (cwd path : String) : String :=
  normalize (if isAbsolute path then path else join cwd path)

end Defs

end Path
end Conformance
