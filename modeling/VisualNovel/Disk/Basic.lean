import VisualNovel.Disk.Path

/-!
# Disks

A `Disk` holds files in directories. Its operations take paths, and each of them either does its
work or fails for one of the reasons in `FileError`.
-/

namespace VisualNovel

/-- Why an operation on files fails. -/
inductive FileError where
  | notFound
  /-- A name is looked up in something that is no directory. -/
  | notDirectory
  | isDirectory
  | alreadyExists
  | nameTooLong
  /-- The path has a zero character. -/
  | zeroInPath
  /-- The file is no text in UTF-8. -/
  | notText
deriving DecidableEq, Repr

/-- The wording of a file error. -/
def FileError.message : FileError → String
  | .notFound => "No such file or directory (os error 2)"
  | .notDirectory => "Not a directory (os error 20)"
  | .isDirectory => "Is a directory (os error 21)"
  | .alreadyExists => "File exists (os error 17)"
  | .nameTooLong => "File name too long (os error 36)"
  | .zeroInPath => "file name contained an unexpected NUL byte"
  | .notText => "stream did not contain valid UTF-8"

/-- A place on a disk: the names on the way from the root. -/
abbrev Place := List String

/-- What is at a place. -/
inductive Entry where
  | directory
  | file (bytes : ByteArray)

/-- Whether the entry is a directory. -/
def Entry.isDirectory : Entry → Bool
  | directory => true
  | file _ => false

/-- A disk. -/
structure Disk where
  /-- The directory in which the program runs. -/
  home : Place := []
  /-- What is where. The root is a directory without being listed. -/
  entries : List (Place × Entry) := []

namespace Disk

/-! ## Places -/

/-- What is at a place. -/
def entry? (disk : Disk) (place : Place) : Option Entry :=
  if place.isEmpty then some .directory else disk.entries.lookup place

/-- The disk without what is at the place. -/
def erase (disk : Disk) (place : Place) : Disk :=
  { disk with entries := disk.entries.filter (·.1 != place) }

/-- The disk with the entry at the place, in place of what was there. -/
def put (disk : Disk) (place : Place) (entry : Entry) : Disk :=
  { disk with entries := (place, entry) :: (disk.erase place).entries }

/-- Checks that there is a directory at the place. -/
def expectDirectory (disk : Disk) (place : Place) : Except FileError Unit :=
  match disk.entry? place with
  | some .directory => .ok ()
  | some (.file _) => .error .notDirectory
  | none => .error .notFound

/-! ## The way to a place -/

/-- The greatest length of a name, in bytes. -/
def greatestName : Nat := 255

/-- The greatest length of a path, in bytes. -/
def greatestPath : Nat := 4095

/-- Where a name leads from a directory. -/
def step (disk : Disk) (place : Place) (name : String) : Except FileError Place := do
  disk.expectDirectory place
  if Path.isIdle name then .ok place
  else if name == ".." then .ok place.dropLast
  else if greatestName < name.utf8ByteSize then .error .nameTooLong
  else .ok (place ++ [name])

/-- Where names lead from a directory. There need not be anything at the end of the way. -/
def follow (disk : Disk) (place : Place) (names : List String) : Except FileError Place :=
  names.foldlM disk.step place

/-- Checks that the text can be a path. -/
def checkPath (path : String) : Except FileError Unit :=
  if path.toList.contains '\x00' then .error .zeroInPath
  else if path.isEmpty then .error .notFound
  else if greatestPath < path.utf8ByteSize then .error .nameTooLong
  else .ok ()

/-- The place where a path starts. -/
def startOf (disk : Disk) (path : String) : Place :=
  if Path.isAbsolute path then [] else disk.home

/-- The entry that a path leads to, and its place. -/
def find (disk : Disk) (path : String) : Except FileError (Place × Entry) := do
  checkPath path
  let place ← disk.follow (disk.startOf path) (Path.names path)
  match disk.entry? place with
  | some entry => .ok (place, entry)
  | none => .error .notFound

/-- A place in which something may be made. The name may be longer than names can be. -/
structure Site where
  /-- The directory. -/
  directory : Place
  /-- The name in it. -/
  name : String
  /-- Whether only a directory can be made there, as slashes follow the name. -/
  directoryOnly : Bool

/-- The place of a site. -/
def Site.place (site : Site) : Place :=
  site.directory ++ [site.name]

/-- Checks that something may have the name of the site. -/
def Site.checkName (site : Site) : Except FileError Unit :=
  if greatestName < site.name.utf8ByteSize then .error .nameTooLong else .ok ()

/-- The site that a path leads to; none when its last name does not name anything new. -/
def site (disk : Disk) (path : String) : Except FileError (Option Site) := do
  checkPath path
  let (slashes, names) := (Path.names path).reverse.span (·.isEmpty)
  match names with
  | [] => .ok none
  | name :: directories =>
    let directory ← disk.follow (disk.startOf path) directories.reverse
    disk.expectDirectory directory
    if name == "." || name == ".." then .ok none
    else .ok (some ⟨directory, name, !slashes.isEmpty⟩)

/-! ## Questions -/

/-- Whether the path leads to something. -/
def contains (disk : Disk) (path : String) : Bool :=
  (disk.find path).isOk

/-- Whether the path leads to a directory. -/
def isDirectory (disk : Disk) (path : String) : Bool :=
  match disk.find path with
  | .ok (_, .directory) => true
  | _ => false

/-- Whether the path leads to a file. -/
def isFile (disk : Disk) (path : String) : Bool :=
  match disk.find path with
  | .ok (_, .file _) => true
  | _ => false

/-- The bytes of a file. -/
def read (disk : Disk) (path : String) : Except FileError ByteArray := do
  match ← disk.find path with
  | (_, .file bytes) => .ok bytes
  | (_, .directory) => .error .isDirectory

/-- The text of a file. -/
def readText (disk : Disk) (path : String) : Except FileError String := do
  match String.fromUTF8? (← disk.read path) with
  | some text => .ok text
  | none => .error .notText

/-! ## Changes -/

/-- Writes a file, in place of what was in it. Slashes at the end are refused before the name is
looked at. -/
def write (disk : Disk) (path : String) (bytes : ByteArray) : Except FileError Disk := do
  match ← disk.site path with
  | none => .error .isDirectory
  | some site =>
    if site.directoryOnly then .error .isDirectory
    else do
      site.checkName
      if (disk.entry? site.place).any (·.isDirectory) then .error .isDirectory
      else .ok (disk.put site.place (.file bytes))

/-- Removes a file. -/
def remove (disk : Disk) (path : String) : Except FileError Disk := do
  match ← disk.find path with
  | (place, .file _) => .ok (disk.erase place)
  | (_, .directory) => .error .isDirectory

/-- Makes a directory. -/
def makeDirectory (disk : Disk) (path : String) : Except FileError Disk := do
  match ← disk.site path with
  | none => .error .alreadyExists
  | some site =>
    site.checkName
    if (disk.entry? site.place).isSome then .error .alreadyExists
    else .ok (disk.put site.place .directory)

/-- Makes a directory unless it is there. -/
def makeOrKeep (disk : Disk) (path : String) : Except FileError Unit × Disk :=
  match disk.makeDirectory path with
  | .ok disk => (.ok (), disk)
  | .error e => (if disk.isDirectory path then .ok () else .error e, disk)

/-- Makes the first of some directories unless it is there, and before it those around it, which
follow in the list, if they are missing. -/
def makeFromInside (disk : Disk) : List String → Except FileError Unit × Disk
  | [] => (.ok (), disk)
  | path :: around =>
    match disk.makeDirectory path with
    | .error .notFound =>
      match disk.makeFromInside around with
      | (.ok (), disk) => disk.makeOrKeep path
      | failed => failed
    | _ => disk.makeOrKeep path

/-- The path and those of the directories around it, the innermost first. -/
def pathsAround (path : String) : List String :=
  match Path.steps path with
  | [] => []
  | _ :: others =>
    let outer := (List.range others.length).reverse.map fun n =>
      Path.ofSteps (Path.isAbsolute path) ((Path.steps path).take (n + 1))
    path :: outer

/-- Makes a directory and those around it, unless they are there. When one of them cannot be made,
those around it stay. -/
def makeDirectories (disk : Disk) (path : String) : Except FileError Unit × Disk :=
  disk.makeFromInside (pathsAround path)

/-! ## Making a disk -/

/-- The disk with an entry at a place, and directories around it. -/
def plant (disk : Disk) (place : Place) (entry : Entry) : Disk :=
  let around := (List.range (place.length - 1)).map fun n => place.take (n + 1)
  (around.foldl (fun disk outer => disk.put outer .directory) disk).put place entry

/-- A disk on which there is only the directory in which the program runs. -/
def blank (home : Place) : Disk :=
  Disk.plant { home } home .directory

/-! ## Files in directories -/

/-- The names on the way from a place to one inside it. -/
def insideOf (outer : Place) (place : Place) : Option Place :=
  if outer.isPrefixOf place then some (place.drop outer.length) else none

/-- Whether a place comes before another one or is the same, compared name by name. -/
def precedes : Place → Place → Bool
  | [], _ => true
  | _ :: _, [] => false
  | a :: as, b :: bs => if a = b then precedes as bs else decide (a < b)

/-- The files in a directory and the directories in it, each by the names on the way, in
ascending order. -/
def filesIn (disk : Disk) (directory : Place) : List Place :=
  let files := disk.entries.filterMap fun (place, entry) =>
    match entry with
    | .file _ => insideOf directory place
    | .directory => none
  files.mergeSort precedes

/-- The names in a directory, in ascending order. -/
def namesIn (disk : Disk) (directory : Place) : List String :=
  let names := disk.entries.filterMap fun (place, _) =>
    match insideOf directory place with
    | some [name] => some name
    | _ => none
  names.mergeSort fun a b => decide (a ≤ b)

end Disk
end VisualNovel
