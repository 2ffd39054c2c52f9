/-!
# Paths

A path is a text of names with slashes between them; one that begins with a slash is absolute. Names
that are empty mean nothing.
-/

namespace HandlerStudio.Path

/-- What stands between the slashes, empty or not. -/
def pieces (path : String) : List String := (path.toList.splitOn '/').map String.ofList

/-- The names of a path, among them `.` and `..`. -/
def names (path : String) : List String :=
  ((path.toList.splitOn '/').filter fun name => !name.isEmpty).map String.ofList

def isAbsolute (path : String) : Bool := path.toList.head? == some '/'

/-- A path that is meant from another one. -/
def join (base path : String) : String :=
  if isAbsolute path then path
  else if base.isEmpty || base.toList.getLast? == some '/' then base ++ path
  else base ++ "/" ++ path

/-- The names without those at the end that stay where they are. -/
def dropStays (names : List String) : List String :=
  (names.reverse.dropWhile fun name => name == "." || name.isEmpty).reverse

/-- The names of the folder that holds what is named. -/
def parentNames (names : List String) : List String :=
  dropStays (dropStays names).dropLast

/-- The path of the folder that holds what a path names. -/
def parent (path : String) : String :=
  let pieces := parentNames (pieces path)
  if pieces.isEmpty && isAbsolute path then "/" else "/".intercalate pieces

end HandlerStudio.Path
