/-
Paths as texts.

* `Path.join`: a path below another one, unless it is absolute.
-/

namespace ImageRetention.Path

/-- Whether a path starts at the root of the file system. -/
def isAbsolute (path : String) : Bool :=
  path.toList.head? == some '/'

/-- A path with a separator at its end, unless it is empty or has one. -/
def asDirectory (path : String) : String :=
  match path.toList.getLast? with
  | none => path
  | some '/' => path
  | some _ => path ++ "/"

/-- A path below another one.  An absolute path stands for itself. -/
def join (base path : String) : String :=
  if isAbsolute path then path else asDirectory base ++ path

end ImageRetention.Path
