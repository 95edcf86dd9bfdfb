import VisualNovel.Disk.Basic
import VisualNovel.Save.Slots
import VisualNovel.Text.Alphanumeric

/-!
# Saves in a folder

A folder of a disk is a store: each key has a file of its own, directly in the folder. A key that
could lead elsewhere is refused before the disk is touched. The folder is made when the first text
is put into it.
-/

namespace VisualNovel

/-- A folder of a disk. -/
structure Folder where
  disk : Disk
  /-- The path of the folder. -/
  path : String

namespace Folder

/-! ## Keys and their files -/

/-- Whether the character may stand in a key. -/
def isKeyChar (c : Char) : Bool :=
  Text.isAlphanumeric c || c == '-' || c == '_' || c == '.'

/-- Whether the text may be a key: it has a character, does not begin with a dot, and has no
other characters than those of keys. -/
def isKey (key : String) : Bool :=
  match key.toList with
  | [] => false
  | first :: others => first != '.' && (first :: others).all isKeyChar

/-- The name of a key's file. -/
def fileName (key : String) : String :=
  key ++ ".json"

/-- The path of a key's file. -/
def pathFor (folder : Folder) (key : String) : Except SaveError String :=
  if isKey key then .ok (Path.join folder.path (fileName key)) else .error (.invalidKey key)

/-! ## The store -/

/-- A fault of the disk, told together with what was tried. -/
def fault (attempt : String) (e : FileError) : SaveError :=
  .storage (attempt ++ ": " ++ e.message)

/-- Makes the folder unless there is something at its path. When that fails, some of the
directories around it may have been made. -/
def ensure (folder : Folder) : Except SaveError Unit × Folder :=
  if folder.disk.contains folder.path then (.ok (), folder)
  else
    let (result, disk) := folder.disk.makeDirectories folder.path
    (result.mapError (fault "无法创建存档目录"), { folder with disk })

/-- The text of a key's file, if there is something at its path. -/
def get (folder : Folder) (key : String) : Except SaveError (Option String) := do
  let path ← folder.pathFor key
  if folder.disk.contains path then
    match folder.disk.readText path with
    | .ok text => .ok (some text)
    | .error e => .error (fault "无法读取存档文件" e)
  else .ok none

/-- Writes a text into a file of the folder. -/
def writeFile (folder : Folder) (path text : String) : Except SaveError Unit × Folder :=
  match folder.disk.write path text.toUTF8 with
  | .ok disk => (.ok (), { folder with disk })
  | .error e => (.error (fault "无法写入存档文件" e), folder)

/-- Writes the text of a key's file. The folder stays when only the file cannot be written. -/
def set (folder : Folder) (key text : String) : Except SaveError Unit × Folder :=
  match folder.pathFor key with
  | .error e => (.error e, folder)
  | .ok path =>
    match folder.ensure with
    | (.ok (), folder) => folder.writeFile path text
    | failed => failed

/-- Whether there is something at the path of a key's file. -/
def has (folder : Folder) (key : String) : Bool :=
  match folder.pathFor key with
  | .ok path => folder.disk.contains path
  | .error _ => false

/-- Removes a key's file, if there is something at its path. -/
def remove (folder : Folder) (key : String) : Except SaveError Unit × Folder :=
  match folder.pathFor key with
  | .error e => (.error e, folder)
  | .ok path =>
    if folder.disk.contains path then
      match folder.disk.remove path with
      | .ok disk => (.ok (), { folder with disk })
      | .error e => (.error (fault "无法删除存档文件" e), folder)
    else (.ok (), folder)

instance : SaveStore Folder where
  get := get
  set := set
  has := has
  remove := remove

end Folder
end VisualNovel
