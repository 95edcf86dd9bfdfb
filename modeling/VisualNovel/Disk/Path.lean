/-!
# Paths

A path is a text of names with slashes between them. It starts at the root when it begins with a
slash, and elsewhere at the directory in which the program runs. Among the names, an empty one and
`.` stay in a directory, and `..` leaves it.
-/

namespace VisualNovel.Path

/-! ## Names -/

/-- The names between the slashes, empty ones included. -/
def splitNames : List Char → List (List Char)
  | [] => [[]]
  | c :: cs =>
    if c = '/' then [] :: splitNames cs
    else
      match splitNames cs with
      | [] => [[c]]
      | name :: names => (c :: name) :: names

/-- Whether the path starts at the root. -/
def isAbsolute (path : String) : Bool :=
  path.toList.head? == some '/'

/-- The names of a path, empty ones included. -/
def names (path : String) : List String :=
  (splitNames path.toList).map String.ofList

/-- Whether the name stays in a directory. -/
def isIdle (name : String) : Bool :=
  name.isEmpty || name == "."

/-- The names that count when paths are compared: those that do not stay in a directory, and a `.`
at the very beginning. -/
def steps (path : String) : List String :=
  match names path with
  | first :: others => (if first.isEmpty then [] else [first]) ++ others.filter (!isIdle ·)
  | [] => []

/-- Whether two paths are the same up to idle names and slashes. -/
def sameAs (path other : String) : Bool :=
  isAbsolute path == isAbsolute other && steps path == steps other

/-! ## Paths from paths -/

/-- The path of a name in a directory. A name that starts at the root stands for itself. -/
def join (directory name : String) : String :=
  if isAbsolute name || directory.isEmpty then name
  else if directory.toList.getLast? == some '/' then directory ++ name
  else directory ++ "/" ++ name

/-- The path with the given names. -/
def ofSteps (absolute : Bool) (steps : List String) : String :=
  (if absolute then "/" else "") ++ "/".intercalate steps

/-- The path of the directory in which the last name is; none for the root and for the empty
path. -/
def parent? (path : String) : Option String :=
  match steps path with
  | [] => none
  | steps => some (ofSteps (isAbsolute path) steps.dropLast)

/-- What follows the last dot of a name; none when the only dot begins the name, or there is
none. -/
def extension? (name : String) : Option String :=
  let (after, before) := name.toList.reverse.span (· != '.')
  match before with
  | [] | [_] => none
  | _ => if name == ".." then none else some (String.ofList after.reverse)

end VisualNovel.Path
