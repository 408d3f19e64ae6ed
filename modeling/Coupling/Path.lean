/-!
# Paths

Paths are texts with `/` between their segments:

* `join` appends a relative path and lets an absolute one replace what stood before;
* `parent?` is the path without its last segment, `none` for a path that has none.
-/

namespace Coupling.Path

def isAbsolute (path : String) : Bool := path.toList.head? = some '/'

/-- `path` as seen from the directory `base`. -/
def join (base path : String) : String :=
  if isAbsolute path || base = "" then path
  else if base.toList.getLast? = some '/' then base ++ path
  else base ++ "/" ++ path

/-- A reversed path without the slashes and the `.` segments at its end. A root stays. -/
def trimEnd : List Char → List Char
  | '/' :: rest => if rest = [] then ['/'] else trimEnd rest
  | '.' :: '/' :: rest => trimEnd ('/' :: rest)
  | path => path

/-- The path of the directory that holds `path`, empty for a bare name. -/
def parent? (path : String) : Option String :=
  let reversed := trimEnd path.toList.reverse
  if reversed = [] ∨ reversed = ['/'] then none
  else some (String.ofList (trimEnd (reversed.dropWhile (· ≠ '/'))).reverse)

end Coupling.Path
