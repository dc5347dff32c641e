import IgnoreRules.Path

/-!
# File systems

A file system holds files and directories under absolute paths, and knows the
home directories and the working directory. A path is looked up by walking: each name has to
lie in a directory that exists, and `..` leads out of it again. Long names and long
paths cannot be looked up at all.
-/

namespace IgnoreRules

/-- What a path can lead to. -/
inductive FileSystem.Entry where
  | file (bytes : List UInt8)
  | directory
  deriving DecidableEq, Repr

/-- Files and directories, with the home directories and the working directory. -/
structure FileSystem where
  /-- The home directory. -/
  home : Path
  /-- The home directories of users by their names. -/
  homes : List (List Char × Path)
  /-- Where relative paths start. -/
  workingDirectory : Path
  /-- The working directory itself starts at the top. -/
  workingDirectory_isAbsolute : workingDirectory.isAbsolute = true
  /-- What lies where, by the names from the top; of two entries for one place the
  first counts. The directories that an entry lies in need no entry. -/
  entries : List (List (List Char) × FileSystem.Entry)
  deriving DecidableEq, Repr

namespace FileSystem

/-- The home directory of the user with a name; without a name it is the own one. -/
def homeOf? (fs : FileSystem) (name : List Char) : Option Path :=
  if name = [] then some fs.home else fs.homes.lookup name

/-- What lies at the end of the names from the top. -/
def entryAt? (fs : FileSystem) (names : List (List Char)) : Option Entry :=
  match fs.entries.find? (·.1 = names) with
  | some (_, entry) => some entry
  | none =>
      if names = [] ∨ fs.entries.any (fun (place, _) => names.isPrefixOf place) then
        some .directory
      else none

/-- Walks on from a place, name by name, through directories that exist. -/
def walk? (fs : FileSystem) (place : List (List Char)) :
    List (List Char) → Option (List (List Char))
  | [] => some place
  | name :: names =>
      if fs.entryAt? place = some .directory then
        fs.walk? (if name = ['.', '.'] then place.dropLast else place ++ [name]) names
      else none

/-- The path from the top. -/
def absolute (fs : FileSystem) (path : Path) : Path :=
  fs.workingDirectory.join path

/-- What a path leads to. -/
def find? (fs : FileSystem) (path : Path) : Option Entry :=
  (fs.walk? [] (fs.absolute path).parts).bind fs.entryAt?

/-- How many bytes a name may have. -/
def nameLimit : Nat :=
  255

/-- How many bytes a path may have. -/
def pathLimit : Nat :=
  4095

/-- How many bytes a text has. -/
def byteCount (text : List Char) : Nat :=
  (text.map Char.utf8Size).foldl (· + ·) 0

/-- The walk from a place, name by name, meets a name that is too long. -/
def meetsLongName (fs : FileSystem) (place : List (List Char)) : List (List Char) → Bool
  | [] => false
  | name :: names =>
      fs.entryAt? place = some .directory &&
        (nameLimit < byteCount name ||
          fs.meetsLongName (if name = ['.', '.'] then place.dropLast else place ++ [name]) names)

/-- The path is too long to be looked up, or a name in it is. One with a null character is
not looked up at all, however long it is. -/
def isTooLong (fs : FileSystem) (path : Path) : Bool :=
  !path.toText.contains '\x00' &&
    (pathLimit < byteCount path.toText || fs.meetsLongName [] (fs.absolute path).parts)

/-- The path leads to something. -/
def contains (fs : FileSystem) (path : Path) : Bool :=
  (fs.find? path).isSome

/-- The bytes of the file that a path leads to. -/
def bytes? (fs : FileSystem) (path : Path) : Option (List UInt8) :=
  match fs.find? path with
  | some (.file bytes) => some bytes
  | _ => none

/-- The path leads to a file. -/
def isFile (fs : FileSystem) (path : Path) : Bool :=
  (fs.bytes? path).isSome

/-- Puts an entry in its place, by name. -/
def add (fs : FileSystem) (path : Path) (entry : Entry) : FileSystem :=
  { fs with entries := ((fs.absolute path).collapse.parts, entry) :: fs.entries }

/-- A file system with its home and working directory, and nothing else. -/
def ofDirectories (home workingDirectory : Path) : FileSystem :=
  { home
    homes := []
    workingDirectory := Path.top.join workingDirectory
    workingDirectory_isAbsolute := Path.isAbsolute_join rfl workingDirectory
    entries := [(home.collapse.parts, .directory), (workingDirectory.collapse.parts, .directory)] }

end FileSystem

end IgnoreRules
